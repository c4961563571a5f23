import MailFilter.Proofs.Annotations.Writing
import MailFilter.Proofs.Filter.Effects
import MailFilter.Proofs.Script.Source

/-!
# Saving a filter and opening it again

An editor writes a filter as a script: a declaration of extensions, a comment with the operator and
the comparators, and one rule. A condition with a beginning or an end becomes a pattern, so only the
comment tells it from a pattern that the user wrote. The script converts to the filter it was
written for.
-/
namespace MailFilter

open Script (MainRule Rule Statement Test Action Guard Source)
open FirstFailure

/-- A condition in an editor. A message has attachments or not, without any value. A beginning must
not end with a star, nor an end begin with one, since such a star could not be told from the one
that makes a pattern of it. -/
structure Draft.Condition where
  field : Field
  comparator : Comparator
  values : List String
  field_known : field ≠ .unknown
  attachments_plain : field = .attachments → comparator.word = .contains ∧ values = []
  start_closed : comparator.word = .starts → ∀ v ∈ values, v.toList.getLast? ≠ some '*'
  end_closed : comparator.word = .ends → ∀ v ∈ values, v.toList.head? ≠ some '*'

structure Draft where
  operator : Operator
  conditions : List Draft.Condition
  folders : List String
  mark : Mark
  reply : Option String

namespace Draft

def Condition.toCondition (c : Condition) : MailFilter.Condition :=
  ⟨c.field, c.comparator, c.values.map .str⟩

def toFilter (d : Draft) : SimpleFilter where
  operator := d.operator
  conditions := d.conditions.map Condition.toCondition
  effects := ⟨d.folders.map .str, d.mark, d.reply.map .str⟩

end Draft

def Value.texts (xs : List String) : Value := .arr (xs.map .str)

def MatchWord.savedTag : MatchWord → String
  | .is => "Is"
  | .contains => "Contains"
  | .matches | .starts | .ends => "Matches"

def MatchWord.savedKey (word : MatchWord) (value : String) : String :=
  match word with
  | .starts => value ++ "*"
  | .ends => "*" ++ value
  | .is | .contains | .matches => value

def Operator.savedTag : Operator → String
  | .all => "allof"
  | .any => "anyof"

def Operator.savedWord : Operator → String
  | .all => "and"
  | .any => "or"

def Field.headers : Field → List String
  | .attachments => ["X-Attached"]
  | .recipient => ["To", "Cc", "Bcc"]
  | .sender => ["From"]
  | .subject => ["Subject"]
  | .unknown => []

/-- What is done with a message, as a saved rule says it. -/
inductive SavedAction where
  | keep
  | fileInto (folder : String)
  | addFlag (flags : List String)
  | vacation (qualified : Bool) (message : String)
  deriving DecidableEq

namespace SavedAction

def toValue : SavedAction → Value
  | keep => .obj [("Type", .str "Keep")]
  | fileInto folder => .obj [("Type", .str "FileInto"), ("Name", .str folder)]
  | addFlag flags => .obj [("Type", .str "AddFlag"), ("Flags", .texts flags)]
  | vacation qualified message =>
    .obj [("Type", .str (if qualified then "Vacation\\Vacation" else "Vacation")),
      ("Message", .str message)]

def folder? : SavedAction → Option String
  | fileInto folder => some folder
  | _ => none

def mark? : SavedAction → Option Mark
  | addFlag flags => some ⟨"\\Seen" ∈ flags, "\\Flagged" ∈ flags⟩
  | _ => none

def message? : SavedAction → Option String
  | vacation _ message => some message
  | _ => none

end SavedAction

namespace Draft

def Condition.plainTest (c : Condition) : Value :=
  let keys := c.values.map c.comparator.word.savedKey
  let matched := Value.obj [("Type", .str c.comparator.word.savedTag)]
  match c.field with
  | .subject => .obj [("Type", .str "Header"), ("Headers", .texts c.field.headers),
      ("Keys", .texts keys), ("Match", matched), ("Format", .null)]
  | .attachments => .obj [("Type", .str "Exists"), ("Headers", .texts c.field.headers)]
  | .sender | .recipient | .unknown =>
    .obj [("Type", .str "Address"), ("Headers", .texts c.field.headers), ("Keys", .texts keys),
      ("Match", matched), ("Address", .obj [("Type", .str "all")])]

def Condition.savedTest (c : Condition) : Value :=
  if c.comparator.negated then .obj [("Type", .str "Not"), ("Test", c.plainTest)] else c.plainTest

def annotations (d : Draft) : List String :=
  ("@type " ++ d.operator.savedWord) ::
    d.conditions.map fun c => "@comparator " ++ c.comparator.token

def comment (d : Draft) : String :=
  "/**\r\n" ++ String.join (d.annotations.map fun line => " * " ++ line ++ "\r\n") ++ " */"

/-- The actions of a filter: its folders, the flags if there are any, and the reply. -/
def actions (d : Draft) : List SavedAction :=
  let flags := (if d.mark.read then ["\\Seen"] else []) ++
    (if d.mark.starred then ["\\Flagged"] else [])
  d.folders.map .fileInto ++ (if flags = [] then [] else [.addFlag flags]) ++
    (d.reply.map (.vacation false)).toList

def script (d : Draft) (actions : List SavedAction) : Value :=
  .arr [
    .obj [("Type", .str "Require"), ("List", .texts defaultExtensions)],
    .obj [("Type", .str "Comment"), ("Text", .str d.comment)],
    .obj [("Type", .str "If"),
      ("If", .obj [("Type", .str d.operator.savedTag),
        ("Tests", .arr (d.conditions.map Condition.savedTest))]),
      ("Then", .arr (actions.map SavedAction.toValue))]]

end Draft

/-- A list of actions says what is to be done, in whatever order: the folders are its folders, the
last flags and the last message are its mark and its reply. -/
structure Says (actions : List SavedAction) (d : Draft) : Prop where
  folders : actions.filterMap SavedAction.folder? = d.folders
  mark : (actions.filterMap SavedAction.mark?).getLast?.getD ⟨false, false⟩ = d.mark
  reply : (actions.filterMap SavedAction.message?).getLast? = d.reply

theorem Draft.says_actions (d : Draft) : Says d.actions d := by
  obtain ⟨operator, conditions, folders, ⟨read, starred⟩, reply⟩ := d
  have hfolders : ∀ {α : Type} (f : SavedAction → Option α), (∀ s, f (.fileInto s) = none) →
      (folders.map SavedAction.fileInto).filterMap f = [] := by
    intro α f hf
    simp [List.filterMap_map, hf]
  constructor
  · cases read <;> cases starred <;> cases reply <;>
      simp [Draft.actions, SavedAction.folder?, List.filterMap_append, List.filterMap_map,
        Function.comp_def]
  · rw [Draft.actions]
    simp only [List.filterMap_append, hfolders SavedAction.mark? fun _ => rfl]
    cases read <;> cases starred <;> cases reply <;> simp [SavedAction.mark?, List.filterMap_cons]
  · rw [Draft.actions]
    simp only [List.filterMap_append, hfolders SavedAction.message? fun _ => rfl]
    cases read <;> cases starred <;> cases reply <;>
      simp [SavedAction.message?, List.filterMap_cons]

theorem Script.Source.ofValue_texts (xs : List String) :
    Source.ofValue (.texts xs) = .arr (xs.map .str) := by
  rw [Value.texts, Source.ofValue, ofItems_eq_map, List.map_map]
  rfl

theorem Script.Source.words_texts (xs : List String) :
    (Source.arr (xs.map .str)).words = .ok (xs.map .str) := by
  simp [Source.words, Source.parts, Except.map, Function.comp_def, Source.toValue]

theorem Script.Source.names?_texts (xs : List String) :
    (Source.arr (xs.map .str)).names? = .ok (some (xs.map .str)) := by
  simp [Source.names?, Source.parts, Except.map, Function.comp_def, Source.toValue]

theorem Script.Source.names?_null : Source.null.names? = .ok none := rfl

namespace Draft

def Condition.inner (c : Condition) : Test :=
  let keys : List Value := (c.values.map c.comparator.word.savedKey).map .str
  match c.field with
  | .subject => .header (c.field.headers.map .str) (some keys) (.str c.comparator.word.savedTag)
  | .attachments => .present (c.field.headers.map .str)
  | .sender | .recipient | .unknown =>
    .address (c.field.headers.map .str) (some keys) (.str c.comparator.word.savedTag)

def Condition.test (c : Condition) : Test :=
  if c.comparator.negated then .negated c.inner else c.inner

theorem Condition.ofSource_plainTest (c : Condition) :
    Test.ofSource (.ofValue c.plainTest) = .ok c.inner := by
  unfold plainTest inner
  cases c.field <;>
    simp [Source.ofValue, Source.ofFields, Source.ofValue_texts, Test.ofSource, Script.tagOf,
      Source.entry, Source.toValue, Script.plainTest, Source.words_texts, Source.names?_texts,
      Source.names?_null, Script.matchTagOf, Value.isEmpty, List.lookup_cons, -List.map_map]

theorem Condition.ofSource_savedTest (c : Condition) :
    Test.ofSource (.ofValue c.savedTest) = .ok c.test := by
  unfold savedTest test
  cases c.comparator.negated with
  | false => exact c.ofSource_plainTest
  | true =>
    have hinner := c.ofSource_plainTest
    simp [Source.ofValue, Source.ofFields, Test.ofSource, Script.tagOf, Source.entry,
      Source.toValue, Script.Test.ofInner, hinner, Except.map]

end Draft

def SavedAction.toAction : SavedAction → Action
  | keep => .keep
  | fileInto folder => .fileInto (.str folder)
  | addFlag flags => .addFlag (flags.map .str)
  | vacation qualified message => .vacation qualified (.str message)

theorem SavedAction.ofSource_toValue (a : SavedAction) :
    Action.ofSource (.ofValue a.toValue) = .ok a.toAction := by
  cases a with
  | keep => rfl
  | fileInto folder => rfl
  | addFlag flags =>
    simp [toValue, toAction, Source.ofValue, Source.ofFields, Source.ofValue_texts,
      Action.ofSource, Script.tagOf, Source.entry, Source.toValue, List.lookup_cons,
      Source.words_texts, Except.map]
  | vacation qualified message => cases qualified <;> rfl

def Draft.rule (d : Draft) (actions : List SavedAction) : MainRule :=
  ⟨d.operator.savedTag, d.conditions.map Draft.Condition.test, actions.map SavedAction.toAction,
    none⟩

theorem mapM_ofValue {α β : Type} {read : Source → Except Failure β} {save : α → Value} {g : α → β}
    (h : ∀ a, read (.ofValue (save a)) = .ok (g a)) (xs : List α) :
    ((xs.map save).map Source.ofValue).mapM read = .ok (xs.map g) := by
  rw [List.map_map, List.mapM_map]
  exact mapM_eq_ok_map fun a _ => h a

theorem Draft.ofSource_guard (d : Draft) :
    Guard.ofSource (.ofValue (.obj [("Type", .str d.operator.savedTag),
      ("Tests", .arr (d.conditions.map Condition.savedTest))])) =
      .ok (.group d.operator.savedTag (some (d.conditions.map Condition.test))) := by
  have htests := mapM_ofValue Condition.ofSource_savedTest d.conditions
  simp [Source.ofValue, Source.ofFields, Source.ofItems_eq_map, Guard.ofSource, Script.isGroup,
    Script.tagOf, Source.entry, Source.toValue, Source.parts?, Source.parts, Value.display,
    List.lookup_cons, Except.map, htests, -List.map_map]

theorem Draft.actionsOf_actions (actions : List SavedAction) :
    Script.actionsOf (.ofValue (.arr (actions.map SavedAction.toValue))) =
      .ok (some (actions.map SavedAction.toAction)) := by
  have hactions := mapM_ofValue SavedAction.ofSource_toValue actions
  simp [Source.ofValue, Source.ofItems_eq_map, Script.actionsOf, Source.parts?, Source.parts,
    Except.map, hactions, -List.map_map]

theorem Draft.comment_ne_empty (d : Draft) : d.comment ≠ "" := by
  intro h
  have ht := congrArg String.toList h
  simp [comment] at ht

theorem Script.Statement.ofSource_rule {fields : List (String × Value)} {actions : Value}
    {guard : Guard} {consequent : Option (List Action)}
    (hg : Guard.ofSource (.ofValue (.obj fields)) = .ok guard)
    (ha : Script.actionsOf (.ofValue actions) = .ok consequent) :
    Statement.ofSource (.ofValue (.obj [("Type", .str "If"), ("If", .obj fields),
      ("Then", actions)])) = .ok (.rule ⟨some guard, consequent, none⟩) := by
  have hfields : Source.ofValue (.obj fields) = .obj (Source.ofFields fields) := rfl
  have hnone : Script.actionsOf .null = .ok none := rfl
  rw [hfields] at hg
  simp [Source.ofValue, Source.ofFields, Statement.ofSource, Script.tagOf, Source.entry,
    Source.toValue, List.lookup_cons, Rule.ofFields, hg, ha, hnone, Except.map]

theorem Draft.statements_script (d : Draft) (actions : List SavedAction) :
    Script.statements (.ofValue (d.script actions)) =
      .ok [.require (defaultExtensions.map .str), .comment (.str d.comment),
        .rule (d.rule actions).toRule] := by
  have hrequire : Statement.ofSource (.ofValue (.obj [("Type", .str "Require"),
      ("List", .texts defaultExtensions)])) = .ok (.require (defaultExtensions.map .str)) := rfl
  have hcomment : Statement.ofSource (.ofValue (.obj [("Type", .str "Comment"),
      ("Text", .str d.comment)])) = .ok (.comment (.str d.comment)) := by
    simp [Source.ofValue, Source.ofFields, Statement.ofSource, Script.tagOf, Source.entry,
      Source.toValue, List.lookup_cons, Value.isEmpty, d.comment_ne_empty]
  have hrule := Statement.ofSource_rule d.ofSource_guard (actionsOf_actions actions)
  rw [script, Source.ofValue.eq_6, Source.ofItems_eq_map, Script.statements, List.map_cons,
    List.map_cons, List.map_cons, List.map_nil, List.mapM_cons, List.mapM_cons, List.mapM_cons,
    List.mapM_nil, hrequire, hcomment, hrule]
  rfl

theorem readDenial_token (c : Comparator) :
    readDenial (some c.token) = (some c.word.token, c.negated) := by
  obtain ⟨word, negated⟩ := c
  cases word <;> cases negated <;> decide

theorem declaredWord_token (c : Comparator) : declaredWord (some c.token) = c.word.token := by
  rw [declaredWord, readDenial_token]
  rfl

namespace Draft.Condition

theorem underNegation_test (c : Condition) :
    c.test.underNegation = (c.inner, c.comparator.negated) := by
  unfold test
  cases c.comparator.negated with
  | true => rfl
  | false =>
    unfold inner
    cases c.field <;> rfl

theorem field_inner (c : Condition) : c.inner.field = c.field := by
  have hk := c.field_known
  unfold inner
  cases hf : c.field with
  | unknown => exact absurd hf hk
  | attachments | recipient | sender | subject =>
    simp [Test.field, Field.headers, Value.listHas, Value.same, Value.sameScalar]

theorem comparison_inner (c : Condition) :
    c.inner.comparison = c.comparator.word.savedTag := by
  unfold inner
  cases hf : c.field with
  | attachments =>
    rw [(c.attachments_plain hf).1]
    simp [Test.comparison, Field.headers, MatchWord.savedTag]
  | recipient | sender | subject | unknown => rfl

theorem keys_inner (c : Condition) :
    c.inner.keys = (c.values.map c.comparator.word.savedKey).map .str := by
  unfold inner
  cases hf : c.field with
  | attachments =>
    rw [(c.attachments_plain hf).2]
    rfl
  | recipient | sender | subject | unknown => rfl

theorem textual_test (c : Condition) : c.test.Textual := by
  have hi : c.inner.Textual := by
    unfold inner
    cases c.field <;> simp [Test.Textual, Value.IsTag, Value.IsText]
  unfold test
  split
  · exact hi
  · exact hi

theorem agrees_test (c : Condition) : Agrees c.test (some c.comparator.token) := by
  have hu := c.underNegation_test
  have hd := declaredWord_token c.comparator
  constructor
  · rw [hu, readDenial_token]
    exact fun _ => rfl
  all_goals
    simp only [hu, hd, c.comparison_inner]
    cases c.comparator.word <;> decide +kernel

theorem shownUnder_savedKey (c : Condition) {v : String} (hv : v ∈ c.values) :
    ShownUnder c.comparator.word.token (.str (c.comparator.word.savedKey v)) (.str v) := by
  cases hw : c.comparator.word with
  | starts =>
    have hs := Text.dropTrailingStars_append_star (c.start_closed hw v hv)
    simpa [ShownUnder, MatchWord.token, MatchWord.savedKey] using
      Text.dropTrailingStars_eq_iff.mp hs
  | ends =>
    have hs := Text.dropLeadingStars_cons_star (c.end_closed hw v hv)
    simpa [ShownUnder, MatchWord.token, MatchWord.savedKey] using Text.dropLeadingStars_eq_iff.mp hs
  | _ => simp [ShownUnder, MatchWord.token, MatchWord.savedKey]

theorem ofTest_test (c : Condition) :
    MailFilter.Condition.ofTest c.test (some c.comparator.token) = .ok c.toCondition := by
  refine (ofTest_eq_ok c.textual_test).mpr ⟨c.agrees_test, ?_, ?_, ?_, ?_⟩
  · rw [underNegation_test, field_inner]
    rfl
  · rw [underNegation_test]
    rfl
  · rw [underNegation_test, declaredWord_token, comparison_inner]
    show c.comparator.word.token = _
    cases c.comparator.word <;> decide +kernel
  · rw [underNegation_test, declaredWord_token, keys_inner, toCondition, List.map_map,
      List.forall₂_map_left_iff, List.forall₂_map_right_iff, List.forall₂_same]
    exact fun v hv => c.shownUnder_savedKey hv

end Draft.Condition

open Annotations (Keyword Line Block Found Reading gather isBlock)

theorem Operator.savedWord_plain (o : Operator) :
    '\r' ∉ o.savedWord.toList ∧ '\n' ∉ o.savedWord.toList := by
  cases o <;> decide

theorem Comparator.token_plain (c : Comparator) :
    '\r' ∉ c.token.toList ∧ '\n' ∉ c.token.toList := by
  obtain ⟨word, negated⟩ := c
  cases word <;> cases negated <;> decide

theorem Comparator.spellDefault_token (c : Comparator) :
    String.ofList (Annotations.spellDefault c.token.toList) = c.token := by
  obtain ⟨word, negated⟩ := c
  cases word <;> cases negated <;> decide

namespace Draft

def block (d : Draft) : Block where
  lines := .plain .type d.operator.savedWord d.operator.savedWord_plain.1 ::
    d.conditions.map fun c => .plain .comparator c.comparator.token c.comparator.token_plain.1
  closing := ' '
  lines_ne_nil := by simp
  closing_blank := by decide

theorem text_block (d : Draft) : d.block.text = d.comment := by
  rw [← String.toList_inj, Block.text, String.toList_ofList, comment]
  simp [block, annotations, Annotations.opening, Annotations.linesChars, Line.plain, Line.chars,
    Line.tail, Keyword.letters, List.flatMap_map]

theorem kept_block (d : Draft) :
    ∀ p ∈ d.block.followed, p.1.Kept p.2 ∧ p.1.Silent p.2 := by
  refine Block.kept_of_plain rfl ?_
  intro l hl
  rcases List.mem_cons.mp hl with rfl | hl
  · exact ⟨rfl, _, rfl, d.operator.savedWord_plain.2⟩
  · obtain ⟨c, -, rfl⟩ := List.mem_map.mp hl
    exact ⟨rfl, _, rfl, c.comparator.token_plain.2⟩

theorem gather_comment (d : Draft) :
    gather d.comment =
      ⟨⟨some d.operator, d.conditions.map fun c => c.comparator.token⟩, []⟩ := by
  have hdeclared : d.block.lines.filterMap Line.declared? =
      (Keyword.type.letters, d.operator.savedWord.toList) ::
        d.conditions.map fun c => (Keyword.comparator.letters, c.comparator.token.toList) := by
    have hline : ∀ (k : Keyword) (w : String) (h : '\r' ∉ w.toList),
        (Line.plain k w h).declared? = some (k.letters, w.toList) := fun _ _ _ => rfl
    rw [block, List.filterMap_cons_some (hline _ _ _), List.filterMap_map]
    congr 1
    exact Annotations.filterMap_eq_map_iff.mpr fun c _ => hline _ _ _
  have htype : ∀ {α : Type} {f : Found → Option α},
      (∀ v, f (Keyword.comparator.letters, v) = none) →
      (d.conditions.map fun c =>
        (Keyword.comparator.letters, c.comparator.token.toList)).filterMap f = [] := by
    intro α f hf
    simp [List.filterMap_map, hf]
  have hoperator : Found.operator? (Keyword.type.letters, d.operator.savedWord.toList) =
      some d.operator := by
    cases d.operator <;> decide
  have hunknown : Found.unknown? (Keyword.type.letters, d.operator.savedWord.toList) = none := by
    cases d.operator <;> decide
  have hcomparators : (d.conditions.map fun c =>
      (Keyword.comparator.letters, c.comparator.token.toList)).filterMap Found.comparator? =
        d.conditions.map fun c => c.comparator.token := by
    rw [List.filterMap_map]
    refine Annotations.filterMap_eq_map_iff.mpr fun c _ => ?_
    have hname : Found.name (Keyword.comparator.letters, c.comparator.token.toList) =
        "comparator" := by
      show String.ofList Keyword.comparator.letters = "comparator"
      decide
    rw [Function.comp_apply, Found.comparator?, if_pos hname, c.comparator.spellDefault_token]
  rw [← text_block, Annotations.gather_of_kept d.kept_block, hdeclared, Reading.ofFound,
    List.filterMap_cons_some hoperator, htype fun _ => rfl, List.filterMap_cons_none rfl,
    hcomparators, List.filterMap_cons_none hunknown, htype fun _ => rfl]
  rfl

theorem isBlock_comment (d : Draft) : isBlock d.comment = true :=
  Annotations.isBlock_iff.mpr ⟨d.block, d.text_block⟩

end Draft

theorem Value.listHas_texts (s : String) (xs : List String) :
    Value.listHas s (xs.map .str) = decide (s ∈ xs) := by
  rw [Bool.eq_iff_iff, Value.listHas_iff, decide_eq_true_iff]
  simp

theorem effectsByKind_saved (actions : List SavedAction) (trash : Value) :
    effectsByKind (actions.map SavedAction.toAction) trash =
      ⟨(actions.filterMap SavedAction.folder?).map .str,
        (actions.filterMap SavedAction.mark?).getLast?.getD ⟨false, false⟩,
        (actions.filterMap SavedAction.message?).getLast?.map .str⟩ := by
  have hfolder : ∀ a : SavedAction,
      a.toAction.filing?.map (Filing.folder trash) = a.folder?.map .str := by
    intro a
    cases a <;> rfl
  have hmark : ∀ a : SavedAction, a.toAction.mark? = a.mark? := by
    intro a
    cases a <;> simp [SavedAction.toAction, Action.mark?, SavedAction.mark?, Value.listHas_texts]
  have hmessage : ∀ a : SavedAction, a.toAction.message? = a.message?.map .str := by
    intro a
    cases a <;> rfl
  have hmessages : (actions.map SavedAction.toAction).filterMap Action.message? =
      (actions.filterMap SavedAction.message?).map .str := by
    simp only [List.filterMap_map, List.map_filterMap, Function.comp_def, hmessage]
  have hnotNull : ∀ message : Option String,
      (message.map Value.str).filter (· ≠ .null) = message.map .str := by
    intro message
    cases message <;> simp
  rw [effectsByKind, hmessages, List.getLast?_map, hnotNull]
  simp only [filings, List.filterMap_map, List.map_filterMap, Function.comp_def, hfolder, hmark]

theorem ofActions_saved (actions : List SavedAction) (trash : Value) :
    Effects.ofActions (actions.map SavedAction.toAction) trash =
      .ok ⟨(actions.filterMap SavedAction.folder?).map .str,
        (actions.filterMap SavedAction.mark?).getLast?.getD ⟨false, false⟩,
        (actions.filterMap SavedAction.message?).getLast?.map .str⟩ := by
  have hmeant : ∀ tag, .other tag ∉ actions.map SavedAction.toAction := by
    intro tag hm
    obtain ⟨a, -, ha⟩ := List.mem_map.mp hm
    cases a <;> cases ha
  rw [ofActions_of_meant hmeant, effectsByKind_saved]

namespace Draft

theorem outcome_conditionsOf_tests (d : Draft) :
    (conditionsOf (d.conditions.map Condition.test)
      ((d.conditions.map fun c => c.comparator.token).map some)).outcome =
      .ok (d.conditions.map Condition.toCondition) := by
  have hpaired : ∀ cs : List Condition, paired (cs.map Condition.test)
      ((cs.map fun c => c.comparator.token).map some) =
        cs.map fun c => (c.test, some c.comparator.token) := by
    intro cs
    induction cs with
    | nil => rfl
    | cons c cs ih => simpa [paired] using ih
  rw [outcome_conditionsOf, hpaired, List.mapM_map]
  exact mapM_eq_ok_map fun c _ => c.ofTest_test

theorem operatorOf_rule (d : Draft) (actions : List SavedAction) :
    operatorOf (d.rule actions) (some d.operator) = .ok d.operator := by
  refine operatorOf_eq_ok.mpr ⟨?_, fun o ho => (Option.some.inj ho).symm⟩
  show Operator.ofTag? d.operator.savedTag = some d.operator
  cases d.operator <;> decide

theorem outcome_convert_script (d : Draft) {requirements : Requirements}
    (hr : ∀ name ∈ requirements.extensions, name ∈ defaultExtensions)
    {actions : List SavedAction} (hs : Says actions d) :
    (convert (.ofValue (d.script actions)) requirements).outcome = .ok d.toFilter := by
  rw [convert, Logged.outcome_bind, outcome_lift, d.statements_script actions, ok_bind]
  generalize hss : [Statement.require (defaultExtensions.map .str), .comment (.str d.comment),
    .rule (d.rule actions).toRule] = ss
  have hcomplete : (d.rule actions).toRule.complete? = .ok (d.rule actions) := rfl
  have hrule : Script.lastRule? ss = some (d.rule actions) := by
    simp [← hss, Script.lastRule?, Statement.mainRule?, hcomplete, Except.toOption]
  have hblock : Script.lastBlock? ss = some d.comment := by
    simp [← hss, Script.lastBlock?, List.findSome?, Statement.block?, d.isBlock_comment]
  have htexts : ∀ v, .comment v ∈ ss → v.IsText := by
    simp [← hss, Value.IsText]
  have hdeclared : Met ss requirements.extensions .declarations := by
    intro name hn
    exact ⟨_, by rw [← hss]; exact List.mem_cons_self, List.mem_map_of_mem (hr name hn)⟩
  have hannotated : Met ss requirements.extensions .annotations := by
    intro text ht
    rw [hblock, Option.some.injEq] at ht
    rw [← ht, gather_comment]
  have hoperator : declaredOperator ss = some d.operator := by
    rw [declaredOperator, hblock, Option.bind_some, gather_comment]
  have hcomparators : declaredComparators ss = d.conditions.map fun c => c.comparator.token := by
    rw [declaredComparators, hblock, Option.map_some, Option.getD_some, gather_comment]
  rw [outcome_of_selected htexts hrule hdeclared hannotated, hoperator, hcomparators,
    d.operatorOf_rule, ok_bind, rule, d.outcome_conditionsOf_tests, ok_bind, outcome_effectsOf,
    ← Effects.ofActions, ofActions_saved, ok_bind, hs.folders, hs.mark, hs.reply]
  rfl

/-- A filter that was saved comes back as it was, in whatever order its actions were written. -/
theorem convert_script (d : Draft) (requirements : Requirements)
    (hr : ∀ name ∈ requirements.extensions, name ∈ defaultExtensions) :
    (convert (.ofValue (d.script d.actions)) requirements).outcome = .ok d.toFilter ∧
    ∀ actions, Says actions d →
      (convert (.ofValue (d.script actions)) requirements).outcome = .ok d.toFilter := by
  constructor
  · exact d.outcome_convert_script hr d.says_actions
  · intro actions hs
    exact d.outcome_convert_script hr hs

/-- A denied beginning that holds a star, an at sign and a line feed comes back. -/
theorem convert_script_denied_start :
    (∀ name ∈ Requirements.standard.extensions, name ∈ defaultExtensions) ∧
    (convert (.ofValue (Draft.script ⟨.any, [⟨.subject, ⟨.starts, true⟩, ["*a@\n"], by decide,
      by decide, by decide, by decide⟩], ["Ads"], ⟨true, false⟩, some "Away"⟩
      [.fileInto "Ads", .addFlag ["\\Seen"], .vacation false "Away"])) .standard).outcome =
      .ok ⟨.any, [⟨.subject, ⟨.starts, true⟩, [.str "*a@\n"]⟩],
        ⟨[.str "Ads"], ⟨true, false⟩, some (.str "Away")⟩⟩ := by
  have hr : ∀ name ∈ Requirements.standard.extensions, name ∈ defaultExtensions := fun _ h => h
  exact ⟨hr, (convert_script _ _ hr).1⟩

end Draft

end MailFilter
