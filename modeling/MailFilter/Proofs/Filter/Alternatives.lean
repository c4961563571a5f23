import MailFilter.Proofs.FirstFailure
import MailFilter.Proofs.Script.Source
import MailFilter.Filter.Conversion

/-!
# The other branch of a rule

A rule may say what is done with messages that fail its tests. A conversion reads that branch and
takes no further notice of it: a script with such branches and the script without them have the same
filter, or are refused alike.
-/
namespace MailFilter

open Script (MainRule Rule Source Statement)
open FirstFailure

namespace Script

def Rule.withoutAlternative (r : Rule) : Rule := { r with alternative := none }

def MainRule.withoutAlternative (r : MainRule) : MainRule := { r with alternative := none }

def Statement.withoutAlternative : Statement → Statement
  | .rule r => .rule r.withoutAlternative
  | s => s

def Source.withoutAlternative : Source → Source
  | .obj fields => .obj (Source.without "Else" fields)
  | .statement s => .statement s.withoutAlternative
  | s => s

/-- A script in which no rule has the branch for messages that fail its tests. -/
def Source.withoutAlternatives : Source → Source
  | .arr items => .arr (items.map Source.withoutAlternative)
  | s => s

theorem ofFields_without {fields : List (String × Source)} {r : Rule}
    (h : Rule.ofFields fields = .ok r) :
    Rule.ofFields (Source.without "Else" fields) = .ok r.withoutAlternative := by
  rw [Rule.ofFields_eq] at h ⊢
  obtain ⟨guard, hg, h⟩ := bind_eq_ok.mp h
  obtain ⟨consequent, hc, h⟩ := bind_eq_ok.mp h
  obtain ⟨alternative, -, h⟩ := bind_eq_ok.mp h
  obtain rfl := Except.ok.inj h
  rw [Source.entry_without (by decide), Source.entry_without (by decide),
    Source.entry_without_self, hg, ok_bind, hc, ok_bind]
  rfl

theorem ofSource_withoutAlternative {source : Source} {s : Statement}
    (h : Statement.ofSource source = .ok s) :
    Statement.ofSource source.withoutAlternative = .ok s.withoutAlternative := by
  cases source with
  | obj fields =>
    have htag : tagOf (Source.without "Else" fields) = tagOf fields := by
      rw [tagOf, tagOf, Source.entry_without (by decide)]
    rw [Statement.ofSource] at h
    rw [Source.withoutAlternative, Statement.ofSource, htag]
    split at h
    · obtain ⟨names, hn, rfl⟩ := map_eq_ok.mp h
      rw [Source.entry_without (by decide), hn]
      rfl
    · obtain rfl := Except.ok.inj h
      rw [Source.entry_without (by decide)]
      rfl
    · obtain ⟨r, hr, rfl⟩ := map_eq_ok.mp h
      rw [ofFields_without hr]
      rfl
    · obtain rfl := Except.ok.inj h
      rfl
  | statement st =>
    obtain rfl := Except.ok.inj h
    rfl
  | null | bool | int | float | str | arr | foreign | guard | test | action => cases h

theorem statements_withoutAlternatives {tree : Source} {ss : List Statement}
    (h : statements tree = .ok ss) :
    statements tree.withoutAlternatives = .ok (ss.map Statement.withoutAlternative) := by
  cases tree with
  | arr items =>
    have hread := mapM_eq_ok.mp h
    refine mapM_eq_ok.mpr ?_
    rw [List.forall₂_map_left_iff, List.forall₂_map_right_iff]
    exact hread.imp fun _ _ => ofSource_withoutAlternative
  | null | bool | int | float | str | obj | foreign | statement | guard | test | action => cases h

end Script

def Survey.withoutAlternative (s : Survey) : Survey :=
  { s with rule := s.rule.map MainRule.withoutAlternative }

def Selection.withoutAlternative (s : Selection) : Selection :=
  { s with rule := s.rule.withoutAlternative }

theorem add_withoutAlternative (survey : Survey) (s : Statement) :
    survey.withoutAlternative.add s.withoutAlternative =
      (survey.add s).map Survey.withoutAlternative := by
  cases s with
  | require extensions => rfl
  | comment v =>
    cases v with
    | str text =>
      simp only [Statement.withoutAlternative, Survey.add]
      split <;> rfl
    | null | bool | int | float | arr | obj | foreign => rfl
  | rule r =>
    obtain ⟨guard, consequent, alternative⟩ := r
    rcases guard with _ | ⟨tag, _ | tests⟩ | test <;> cases consequent <;> rfl
  | other tag => rfl

theorem ofStatements_withoutAlternative (ss : List Statement) (required : List String) :
    Survey.ofStatements (ss.map Statement.withoutAlternative) required =
      (Survey.ofStatements ss required).map Survey.withoutAlternative := by
  have hrun : ∀ survey : Survey,
      (ss.map Statement.withoutAlternative).foldlM Survey.add survey.withoutAlternative =
        (ss.foldlM Survey.add survey).map Survey.withoutAlternative := by
    induction ss with
    | nil => intro survey; rfl
    | cons s ss ih =>
      intro survey
      rw [List.map_cons, List.foldlM_cons, List.foldlM_cons, add_withoutAlternative]
      cases survey.add s with
      | ok next => exact ih next
      | error e => rfl
  exact hrun (Survey.start required)

theorem select_withoutAlternative (survey : Survey) :
    survey.withoutAlternative.select = survey.select.map Selection.withoutAlternative := by
  obtain ⟨undeclared, rule, comment, lacking⟩ := survey
  cases rule with
  | none => rfl
  | some r => cases undeclared <;> rfl

theorem selectStatements_withoutAlternative (ss : List Statement) (required : List String) :
    selectStatements (ss.map Statement.withoutAlternative) required =
      Selection.withoutAlternative <$> selectStatements ss required := by
  unfold selectStatements
  rw [ofStatements_withoutAlternative, Logged.lift_map, bind_map_left, map_bind]
  congr 1
  funext survey
  have hrule : survey.withoutAlternative.rule.isSome = survey.rule.isSome := Option.isSome_map ..
  have hundeclared : survey.withoutAlternative.undeclared = survey.undeclared := rfl
  rw [hrule, hundeclared, select_withoutAlternative, Logged.lift_map]
  simp only [bind_map_left]
  split <;> simp only [map_bind, map_pure] <;> rfl

theorem convertStatements_withoutAlternative (ss : List Statement) (requirements : Requirements) :
    convertStatements (ss.map Statement.withoutAlternative) requirements =
      convertStatements ss requirements := by
  unfold convertStatements
  rw [selectStatements_withoutAlternative, bind_map_left]
  rfl

theorem convert_of_statements {tree : Source} {ss : List Statement}
    (h : Script.statements tree = .ok ss) (requirements : Requirements) :
    convert tree requirements = convertStatements ss requirements := by
  rw [convert, h]
  rfl

/-- A conversion that gives a filter although the rule it selects has actions for messages that
fail its tests. -/
def DropsBranch (tree : Source) (requirements : Requirements) : Prop :=
  ∃ ss selection filter, Script.statements tree = .ok ss ∧
    (selectStatements ss requirements.extensions).outcome = .ok selection ∧
    selection.rule.alternative.getD [] ≠ [] ∧
    (convert tree requirements).outcome = .ok filter

/-- The branch makes no difference to a conversion, so it is dropped exactly where the script
without it has a filter. -/
theorem conversion_ignores_alternatives {tree : Source} {ss : List Statement}
    (h : Script.statements tree = .ok ss) (requirements : Requirements) :
    Script.statements tree.withoutAlternatives = .ok (ss.map Statement.withoutAlternative) ∧
    convert tree.withoutAlternatives requirements = convert tree requirements ∧
    isConvertible tree.withoutAlternatives requirements = isConvertible tree requirements ∧
    (DropsBranch tree requirements ↔
      (∃ selection, (selectStatements ss requirements.extensions).outcome = .ok selection ∧
        selection.rule.alternative.getD [] ≠ []) ∧
      ∃ filter, (convert tree.withoutAlternatives requirements).outcome = .ok filter) := by
  have hread := Script.statements_withoutAlternatives h
  have hconvert : convert tree.withoutAlternatives requirements = convert tree requirements := by
    rw [convert_of_statements hread, convert_of_statements h, convertStatements_withoutAlternative]
  refine ⟨hread, hconvert, ?_, ?_⟩
  · rw [isConvertible, hconvert]
    rfl
  · rw [hconvert]
    constructor
    · rintro ⟨others, selection, filter, hs, hselection, hbranch, hfilter⟩
      obtain rfl := Except.ok.inj (h.symm.trans hs)
      exact ⟨⟨selection, hselection, hbranch⟩, filter, hfilter⟩
    · rintro ⟨⟨selection, hselection, hbranch⟩, filter, hfilter⟩
      exact ⟨ss, selection, filter, h, hselection, hbranch, hfilter⟩

def branchedScript : Value :=
  .arr [.obj [("Type", .str "Require"), ("List", .arr [.str "fileinto", .str "imap4flags"])],
    .obj [("Type", .str "If"),
      ("If", .obj [("Type", .str "allof"), ("Tests", .arr [.obj [("Type", .str "Header"),
        ("Headers", .arr [.str "Subject"]), ("Keys", .arr [.str "report"]),
        ("Match", .obj [("Type", .str "Contains")])]])]),
      ("Then", .arr [.obj [("Type", .str "FileInto"), ("Name", .str "Reports")]]),
      ("Else", .arr [.obj [("Type", .str "Discard")]])]]

theorem conversion_ignores_alternatives_branched :
    ∃ ss, Script.statements (.ofValue branchedScript) = .ok ss ∧
      convert (Source.ofValue branchedScript).withoutAlternatives .standard =
        convert (.ofValue branchedScript) .standard := by
  have h : Script.statements (.ofValue branchedScript) = .ok _ := rfl
  exact ⟨_, h, (conversion_ignores_alternatives h .standard).2.1⟩

/-- Its filter files some messages and leaves all others where they are. -/
theorem branchedScript_drops_branch :
    DropsBranch (.ofValue branchedScript) .standard ∧
    (convert (.ofValue branchedScript) .standard).outcome =
      .ok ⟨.all, [⟨.subject, ⟨.contains, false⟩, [.str "report"]⟩],
        ⟨[.str "Reports"], ⟨false, false⟩, none⟩⟩ ∧
    (isConvertible (.ofValue branchedScript) .standard).outcome = .ok true := by
  have hread : Script.statements (.ofValue branchedScript) = .ok _ := rfl
  have hconvert : (convert (.ofValue branchedScript) .standard).outcome = .ok _ := rfl
  refine ⟨⟨_, _, _, hread, rfl, ?_, hconvert⟩, hconvert, rfl⟩
  decide

end MailFilter
