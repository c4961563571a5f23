import MailFilter.Filter.Conversion
import MailFilter.Proofs.FirstFailure
import MailFilter.Proofs.Filter.TestMeaning
import Mathlib.Data.List.Induction

/-!
# The statements that count

Of all the statements of a script a conversion sees the last complete rule, the last comment with
annotations, and the set of declared extensions.
-/
namespace MailFilter

open Script (MainRule Part Rule Statement)
open FirstFailure

namespace Script

def Statement.mainRule? : Statement → Option MainRule
  | .rule r => r.complete?.toOption
  | _ => none

def Statement.block? : Statement → Option String
  | .comment (.str text) => if Annotations.isBlock text then some text else none
  | _ => none

def Statement.lacking? : Statement → Option Part
  | .rule r =>
    match r.complete? with
    | .ok _ => some .statement
    | .error part => some part
  | _ => none

def Statement.declares (name : String) : Statement → Bool
  | .require extensions => Value.listHas name extensions
  | _ => false

def lastRule? (ss : List Statement) : Option MainRule := (ss.filterMap Statement.mainRule?).getLast?

def lastBlock? (ss : List Statement) : Option String := (ss.filterMap Statement.block?).getLast?

def lacking (ss : List Statement) : Part :=
  (ss.filterMap Statement.lacking?).getLast?.getD .statement

def Declares (ss : List Statement) (name : String) : Prop :=
  ∃ extensions, Statement.require extensions ∈ ss ∧ Value.str name ∈ extensions

theorem Rule.complete?_eq_ok {r : Rule} {m : MainRule} : r.complete? = .ok m ↔ r = m.toRule := by
  obtain ⟨guard, consequent, alternative⟩ := r
  constructor
  · intro h
    unfold Rule.complete? at h
    split at h <;> cases h
    simp_all [MainRule.toRule]
  · intro h
    cases h
    rfl

theorem lastRule?_eq_none_iff {ss : List Statement} :
    lastRule? ss = none ↔ ∀ m : MainRule, .rule m.toRule ∉ ss := by
  rw [lastRule?, List.getLast?_eq_none_iff, List.filterMap_eq_nil_iff]
  constructor
  · intro h m hm
    have hc := h _ hm
    rw [Statement.mainRule?, Rule.complete?_eq_ok.mpr rfl] at hc
    cases hc
  · intro h s hs
    cases s with
    | rule r =>
      cases hc : r.complete? with
      | ok m => exact absurd (Rule.complete?_eq_ok.mp hc ▸ hs) (h m)
      | error part => simp [Statement.mainRule?, hc, Except.toOption]
    | require | comment | other => rfl

end Script

open Script (lastRule? lastBlock? lacking Declares)

def undeclared (ss : List Statement) (required : List String) : List String :=
  required.filter fun name => !ss.any (·.declares name)

theorem undeclared_eq_nil_iff {ss : List Statement} {required : List String} :
    undeclared ss required = [] ↔ ∀ name ∈ required, Declares ss name := by
  have hs : ∀ name, ss.any (·.declares name) = true ↔ Declares ss name := by
    intro name
    rw [List.any_eq_true]
    constructor
    · rintro ⟨s, hs, hd⟩
      cases s with
      | require extensions => exact ⟨extensions, hs, Value.listHas_iff.mp hd⟩
      | comment | rule | other => cases hd
    · rintro ⟨extensions, hs, hm⟩
      exact ⟨_, hs, Value.listHas_iff.mpr hm⟩
  simp only [undeclared, List.filter_eq_nil_iff, Bool.not_eq_true', Bool.not_eq_false, hs]

/-- What is found last is found in the last element, if anything is found there. -/
theorem getLast?_filterMap_append {α β : Type} (f : α → Option β) (xs : List α) (x : α) :
    ((xs ++ [x]).filterMap f).getLast? = (f x).or (xs.filterMap f).getLast? := by
  rw [List.filterMap_append, List.getLast?_append]
  cases hf : f x with
  | none => rw [List.filterMap_cons_none hf]; rfl
  | some b => rw [List.filterMap_cons_some hf]; rfl

theorem undeclared_append (ss : List Statement) (s : Statement) (required : List String) :
    undeclared (ss ++ [s]) required =
      (undeclared ss required).filter fun name => !s.declares name := by
  rw [undeclared, undeclared, List.filter_filter]
  congr 1
  funext name
  simp [Bool.and_comm]

theorem ofStatements_eq {ss : List Statement} (required : List String)
    (h : ∀ v, .comment v ∈ ss → v.IsText) :
    Survey.ofStatements ss required =
      .ok ⟨undeclared ss required, lastRule? ss, lastBlock? ss, lacking ss⟩ := by
  induction ss using List.reverseRecOn with
  | nil => simp [Survey.ofStatements, Survey.start, undeclared, lastRule?, lastBlock?, lacking]
  | append_singleton before s ih =>
    have hb := ih fun v hv => h v (List.mem_append_left _ hv)
    rw [undeclared_append, lastRule?, lastBlock?, lacking]
    simp only [getLast?_filterMap_append]
    unfold Survey.ofStatements at hb ⊢
    rw [List.foldlM_append, hb, ok_bind, List.foldlM_cons]
    -- A statement changes the part of the survey that its kind is about and keeps the others.
    cases s with
    | require extensions => rfl
    | rule r =>
      cases hc : r.complete? <;>
        simp [Survey.add, hc, Statement.mainRule?, Statement.block?, Statement.lacking?,
          Statement.declares, Except.toOption, lastBlock?, lastRule?]
    | comment v =>
      obtain ⟨text, rfl⟩ := (h v (by simp)).exists_eq
      cases hi : Annotations.isBlock text <;>
        simp [Survey.add, hi, Statement.mainRule?, Statement.block?, Statement.lacking?,
          Statement.declares, lastRule?, lastBlock?, lacking]
    | other tag =>
      simp [Survey.add, Statement.mainRule?, Statement.block?, Statement.lacking?,
        Statement.declares, lastRule?, lastBlock?, lacking]

theorem outcome_selectStatements {ss : List Statement} (required : List String)
    (h : ∀ v, .comment v ∈ ss → v.IsText) :
    (selectStatements ss required).outcome =
      match lastRule? ss with
      | none => .error (.invalidInput (.noMainRule (lacking ss)))
      | some r =>
        if undeclared ss required = [] then .ok ⟨r, lastBlock? ss⟩
        else .error (.invalidInput .requirements) := by
  simp only [selectStatements, Logged.outcome_bind, outcome_lift, ofStatements_eq required h,
    ok_bind]
  cases lastRule? ss with
  | none => simp [Survey.select]
  | some r => by_cases hu : undeclared ss required = [] <;> simp [hu, Survey.select]

def LastOf {α : Type} (p : α → Prop) (xs : List α) (x : α) : Prop :=
  ∃ before after, xs = before ++ x :: after ∧ p x ∧ ∀ y ∈ after, ¬ p y

namespace Script

def Statement.IsComplete : Statement → Prop
  | .rule r => ∃ tag tests actions,
      r.guard = some (.group tag (some tests)) ∧ r.consequent = some actions
  | _ => False

def Statement.IsBlock : Statement → Prop
  | .comment (.str text) => Annotations.isBlock text = true
  | _ => False

def Statement.IsRule : Statement → Prop
  | .rule _ => True
  | _ => False

def Rule.lackingPart (r : Rule) : String :=
  if r.guard = none then "If" else if r.consequent = none then "Then" else "Tests"

/-- The last comment with annotations, or none when there is no such comment. -/
def IsLastBlock (ss : List Statement) : Option String → Prop
  | some text => LastOf Statement.IsBlock ss (.comment (.str text))
  | none => ∀ s ∈ ss, ¬ s.IsBlock

end Script

theorem LastOf.holds {α : Type} {p : α → Prop} {xs : List α} {x : α} (h : LastOf p xs x) : p x := by
  obtain ⟨_, _, _, hx, _⟩ := h
  exact hx

theorem LastOf.mem {α : Type} {p : α → Prop} {xs : List α} {x : α} (h : LastOf p xs x) :
    x ∈ xs := by
  obtain ⟨before, after, rfl, -, -⟩ := h
  simp

theorem lastOf_append_singleton {α : Type} {p : α → Prop} {xs : List α} {x y : α} :
    LastOf p (xs ++ [x]) y ↔ p x ∧ y = x ∨ ¬ p x ∧ LastOf p xs y := by
  constructor
  · rintro ⟨before, after, he, hy, ha⟩
    rcases List.eq_nil_or_concat after with rfl | ⟨after, z, rfl⟩
    · obtain ⟨rfl, hx⟩ := List.append_inj' he rfl
      obtain rfl := List.singleton_inj.mp hx
      exact Or.inl ⟨hy, rfl⟩
    · have hs : xs ++ [x] = (before ++ y :: after) ++ [z] := by simpa using he
      obtain ⟨rfl, hz⟩ := List.append_inj' hs rfl
      obtain rfl := List.singleton_inj.mp hz
      refine Or.inr ⟨ha x (by simp), before, after, rfl, hy, ?_⟩
      intro w hw
      exact ha w (by simp [hw])
  · rintro (⟨hx, rfl⟩ | ⟨hx, before, after, rfl, hy, ha⟩)
    · exact ⟨xs, [], rfl, hx, by simp⟩
    · refine ⟨before, after ++ [x], by simp, hy, ?_⟩
      intro w hw
      rcases List.mem_append.mp hw with hw | hw
      · exact ha w hw
      · rw [List.mem_singleton.mp hw]
        exact hx

theorem exists_lastOf {α : Type} {p : α → Prop} {xs : List α} {x : α} (hm : x ∈ xs) (hx : p x) :
    ∃ y, LastOf p xs y := by
  -- From the end: the last element has the property, or the one to be found stands before it.
  induction xs using List.reverseRecOn with
  | nil => cases hm
  | append_singleton before z ih =>
    by_cases hz : p z
    · exact ⟨z, lastOf_append_singleton.mpr (Or.inl ⟨hz, rfl⟩)⟩
    · have hb : x ∈ before := by
        rcases List.mem_append.mp hm with hb | hb
        · exact hb
        · exact absurd (List.mem_singleton.mp hb ▸ hx) hz
      obtain ⟨y, hy⟩ := ih hb
      exact ⟨y, lastOf_append_singleton.mpr (Or.inr ⟨hz, hy⟩)⟩

theorem getLast?_filterMap_eq_some {α β : Type} {f : α → Option β} {xs : List α} {b : β} :
    (xs.filterMap f).getLast? = some b ↔
      ∃ x, LastOf (fun y => f y ≠ none) xs x ∧ f x = some b := by
  induction xs using List.reverseRecOn with
  | nil => simp [LastOf]
  | append_singleton before x ih =>
    rw [getLast?_filterMap_append]
    simp only [lastOf_append_singleton]
    cases hf : f x with
    | none => simpa [hf] using ih
    | some c => simp [hf]

namespace Script

theorem Statement.mainRule?_eq_some {s : Statement} {m : MainRule} :
    s.mainRule? = some m ↔ s = .rule m.toRule := by
  cases s with
  | rule r =>
    rw [Statement.mainRule?, Statement.rule.injEq, ← Rule.complete?_eq_ok]
    cases r.complete? <;> simp [Except.toOption]
  | require | comment | other => simp [Statement.mainRule?]

theorem Statement.mainRule?_ne_none {s : Statement} : s.mainRule? ≠ none ↔ s.IsComplete := by
  rw [Option.ne_none_iff_exists']
  simp only [mainRule?_eq_some]
  cases s with
  | rule r =>
    constructor
    · rintro ⟨m, h⟩
      obtain rfl := Statement.rule.inj h
      exact ⟨m.tag, m.tests, m.actions, rfl, rfl⟩
    · rintro ⟨tag, tests, actions, hg, hc⟩
      refine ⟨⟨tag, tests, actions, r.alternative⟩, ?_⟩
      cases r
      simp_all [MainRule.toRule]
  | require | comment | other => simp [Statement.IsComplete]

theorem Statement.IsComplete.exists_eq {s : Statement} (h : s.IsComplete) :
    ∃ m : MainRule, s = .rule m.toRule := by
  obtain ⟨m, hm⟩ := Option.ne_none_iff_exists'.mp (Statement.mainRule?_ne_none.mpr h)
  exact ⟨m, Statement.mainRule?_eq_some.mp hm⟩

theorem lastRule?_eq_some_iff {ss : List Statement} {m : MainRule} :
    lastRule? ss = some m ↔ LastOf Statement.IsComplete ss (.rule m.toRule) := by
  rw [lastRule?, getLast?_filterMap_eq_some]
  simp only [Statement.mainRule?_ne_none, Statement.mainRule?_eq_some, exists_eq_right]

theorem Statement.block?_eq_some {s : Statement} {text : String} :
    s.block? = some text ↔ s.IsBlock ∧ s = .comment (.str text) := by
  cases s with
  | comment v =>
    cases v with
    | str t =>
      simp only [Statement.block?, Statement.IsBlock]
      split <;> simp_all
    | _ => simp [Statement.block?, Statement.IsBlock]
  | require | rule | other => simp [Statement.block?]

theorem Statement.block?_ne_none {s : Statement} : s.block? ≠ none ↔ s.IsBlock := by
  rw [Option.ne_none_iff_exists']
  simp only [block?_eq_some]
  cases s with
  | comment v => cases v <;> simp [Statement.IsBlock]
  | require | rule | other => simp [Statement.IsBlock]

theorem lastBlock?_eq_iff {ss : List Statement} {comment : Option String} :
    lastBlock? ss = comment ↔ IsLastBlock ss comment := by
  cases comment with
  | none =>
    rw [lastBlock?, List.getLast?_eq_none_iff, List.filterMap_eq_nil_iff]
    refine forall₂_congr fun s _ => ?_
    rw [← not_iff_not, ← ne_eq, Statement.block?_ne_none, not_not]
  | some text =>
    rw [lastBlock?, getLast?_filterMap_eq_some]
    simp only [Statement.block?_ne_none, Statement.block?_eq_some, IsLastBlock]
    constructor
    · rintro ⟨s, hs, -, rfl⟩
      exact hs
    · intro h
      obtain ⟨_, _, _, hb, _⟩ := id h
      exact ⟨_, h, hb, rfl⟩

theorem Rule.name_of_complete?_eq_error {r : Rule} {part : Part}
    (h : r.complete? = .error part) : part.name = r.lackingPart := by
  obtain ⟨guard, consequent, alternative⟩ := r
  unfold Rule.complete? at h
  split at h <;> cases h <;> simp_all [Part.name, Rule.lackingPart]

theorem lacking_of_none_complete {ss : List Statement} (hn : ∀ s ∈ ss, ¬ s.IsComplete) :
    ((∀ r, .rule r ∉ ss) → (lacking ss).name = "missing") ∧
    ∀ r, LastOf Statement.IsRule ss (.rule r) → (lacking ss).name = r.lackingPart := by
  have hrule : ∀ s : Statement, s.lacking? ≠ none ↔ s.IsRule := by
    intro s
    cases s with
    | rule r => cases hc : r.complete? <;> simp [Statement.lacking?, Statement.IsRule, hc]
    | require | comment | other => simp [Statement.lacking?, Statement.IsRule]
  constructor
  · intro hno
    have hnil : ss.filterMap Statement.lacking? = [] := by
      rw [List.filterMap_eq_nil_iff]
      intro s hs
      cases s with
      | rule r => exact absurd hs (hno r)
      | require | comment | other => rfl
    rw [lacking, hnil]
    rfl
  · intro r hr
    have hmem : Statement.rule r ∈ ss := by
      obtain ⟨before, after, rfl, -⟩ := hr
      simp
    cases hc : r.complete? with
    | ok m =>
      have hcomplete : (Statement.rule r).IsComplete :=
        Statement.mainRule?_ne_none.mp (by simp [Statement.mainRule?, hc, Except.toOption])
      exact absurd hcomplete (hn _ hmem)
    | error part =>
      have hl : (ss.filterMap Statement.lacking?).getLast? = some part := by
        rw [getLast?_filterMap_eq_some]
        simp only [hrule]
        exact ⟨_, hr, by simp [Statement.lacking?, hc]⟩
      rw [lacking, hl, Option.getD_some, Rule.name_of_complete?_eq_error hc]

end Script

open Script (IsLastBlock)

theorem InvalidInput.message_noMainRule (part : Part) :
    (InvalidInput.noMainRule part).message =
      "Invalid tree representation: " ++ part.name ++ " level" :=
  rfl

/-- A selection takes the last complete rule and the last comment with annotations, wherever they
stand, if every required extension is declared anywhere. A script without a complete rule is refused
for what its last rule lacks, one with an undeclared extension for its requirements. -/
theorem selection_meaning (ss : List Statement) (required : List String)
    (ht : ∀ v, .comment v ∈ ss → v.IsText) :
    (∀ selection, (selectStatements ss required).outcome = .ok selection ↔
      LastOf Statement.IsComplete ss (.rule selection.rule.toRule) ∧
      IsLastBlock ss selection.comment ∧ ∀ name ∈ required, Declares ss name) ∧
    ((∃ selection, (selectStatements ss required).outcome = .ok selection) ↔
      (∃ s ∈ ss, s.IsComplete) ∧ ∀ name ∈ required, Declares ss name) ∧
    ((∀ s ∈ ss, ¬ s.IsComplete) → ∃ cause : InvalidInput,
      (selectStatements ss required).outcome = .error (.invalidInput cause) ∧
      ((∀ r, .rule r ∉ ss) → cause.message = "Invalid tree representation: missing level") ∧
      ∀ r, LastOf Statement.IsRule ss (.rule r) →
        cause.message = "Invalid tree representation: " ++ r.lackingPart ++ " level") ∧
    ((∃ s ∈ ss, s.IsComplete) → (∃ name ∈ required, ¬ Declares ss name) →
      ∃ cause : InvalidInput,
        (selectStatements ss required).outcome = .error (.invalidInput cause) ∧
        cause.message = "Invalid tree representation: requirements") := by
  have hout := outcome_selectStatements required ht
  have hdeclared : undeclared ss required = [] ↔ ∀ name ∈ required, Declares ss name :=
    undeclared_eq_nil_iff
  have hrule : (∃ s ∈ ss, s.IsComplete) ↔ ∃ m, lastRule? ss = some m := by
    constructor
    · rintro ⟨s, hs, hc⟩
      obtain ⟨last, hl⟩ := exists_lastOf hs hc
      obtain ⟨-, -, -, hlast, -⟩ := id hl
      obtain ⟨m, rfl⟩ := hlast.exists_eq
      exact ⟨m, Script.lastRule?_eq_some_iff.mpr hl⟩
    · rintro ⟨m, hm⟩
      obtain ⟨before, after, rfl, hc, -⟩ := Script.lastRule?_eq_some_iff.mp hm
      exact ⟨_, by simp, hc⟩
  refine ⟨?_, ?_, ?_, ?_⟩
  · rintro ⟨rule, comment⟩
    rw [hout, ← Script.lastRule?_eq_some_iff, ← Script.lastBlock?_eq_iff, ← hdeclared]
    cases lastRule? ss with
    | none => simp
    | some m => by_cases hu : undeclared ss required = [] <;> simp [hu]
  · rw [hrule, ← hdeclared, hout]
    cases lastRule? ss with
    | none => simp
    | some m => by_cases hu : undeclared ss required = [] <;> simp [hu]
  · intro hn
    have hnone : lastRule? ss = none := by
      rw [← Option.not_isSome_iff_eq_none, Option.isSome_iff_exists, ← hrule]
      rintro ⟨s, hs, hc⟩
      exact hn s hs hc
    obtain ⟨hmissing, hpart⟩ := Script.lacking_of_none_complete hn
    refine ⟨.noMainRule (lacking ss), by rw [hout, hnone], ?_, ?_⟩
    · intro hno
      rw [InvalidInput.message_noMainRule, hmissing hno]
      rfl
    · intro r hr
      rw [InvalidInput.message_noMainRule, hpart r hr]
  · rintro hs ⟨name, hname, hn⟩
    obtain ⟨m, hm⟩ := hrule.mp hs
    have hu : undeclared ss required ≠ [] := fun h => hn (hdeclared.mp h name hname)
    exact ⟨.requirements, by rw [hout, hm]; exact if_neg hu, rfl⟩

/-- Two complete rules, one that is not, and declarations and a comment behind them. -/
def scatteredScript : List Statement :=
  [.require [.str "fileinto"], .rule (MainRule.mk "anyof" [] [.keep] none).toRule,
    .rule (MainRule.mk "allof" [] [.discard] none).toRule, .rule ⟨none, none, none⟩,
    .comment (.str "/**\r\n * @type and\r\n */"), .comment (.str "/* plain */"),
    .require [.str "imap4flags"]]

theorem selection_meaning_scattered :
    (∀ v, .comment v ∈ scatteredScript → v.IsText) ∧
    (selectStatements scatteredScript defaultExtensions).outcome =
      .ok ⟨⟨"allof", [], [.discard], none⟩, some "/**\r\n * @type and\r\n */"⟩ := by
  have ht : ∀ v, .comment v ∈ scatteredScript → v.IsText := by
    simp [scatteredScript, Value.IsText]
  have hrule : LastOf Statement.IsComplete scatteredScript
      (.rule (MainRule.mk "allof" [] [.discard] none).toRule) := by
    refine ⟨scatteredScript.take 2, scatteredScript.drop 3, rfl, ⟨_, _, _, rfl, rfl⟩, ?_⟩
    simp [scatteredScript, Statement.IsComplete]
  have hblock : IsLastBlock scatteredScript (some "/**\r\n * @type and\r\n */") := by
    refine ⟨scatteredScript.take 4, scatteredScript.drop 5, rfl, ?_, ?_⟩
    · show Annotations.isBlock "/**\r\n * @type and\r\n */" = true
      decide
    · have hplain : Annotations.isBlock "/* plain */" = false := by decide
      simp [scatteredScript, Statement.IsBlock, hplain]
  have hdeclared : ∀ name ∈ defaultExtensions, Declares scatteredScript name := by
    intro name hn
    simp only [defaultExtensions, List.mem_cons, List.not_mem_nil, or_false] at hn
    rcases hn with rfl | rfl
    · exact ⟨[.str "fileinto"], by simp [scatteredScript], by simp⟩
    · exact ⟨[.str "imap4flags"], by simp [scatteredScript], by simp⟩
  exact ⟨ht, ((selection_meaning _ _ ht).1 _).mpr ⟨hrule, hblock, hdeclared⟩⟩

end MailFilter
