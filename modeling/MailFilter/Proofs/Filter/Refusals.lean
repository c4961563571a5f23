import MailFilter.Proofs.Filter.Acceptance
import MailFilter.Proofs.Script.WellTyped

/-!
# Conversions of well-typed trees

On a well-typed tree every stage of a conversion gives a result or refuses the script. So a filter
or a refusal comes out, and whether the script is a filter has an answer.
-/
namespace MailFilter

open Script (MainRule Rule Statement Test Action Source lastRule? lastBlock?)
open FirstFailure

theorem settles_ofTag (tag : String) (negated : Bool) :
    Settles (fun _ => True) (Comparator.ofTag (.str tag) negated) := by
  simp only [Comparator.ofTag]
  cases MatchWord.ofTag? tag with
  | some word => exact .ok trivial
  | none => exact .refused _

theorem settles_starred (proper : String) (strip : List Char → List Char) (tag : String)
    {keys : List Value} (hk : ∀ k ∈ keys, k.IsText) (negated : Bool) :
    Settles (fun _ => True) (starred proper strip (.str tag) keys negated) := by
  have hstrip : Settles (fun values : List Value => ∀ v ∈ values, True)
      (keys.mapM (stripStars strip)) := by
    refine .mapM ?_
    intro k hm
    obtain ⟨s, rfl⟩ := (hk k hm).exists_eq
    exact .ok trivial
  unfold starred
  split
  · exact .refused _
  · exact .bind (settles_ofTag proper negated) fun _ _ => .bind hstrip fun _ _ => .ok trivial

theorem settles_resolve (tag : String) {keys : List Value} (hk : ∀ k ∈ keys, k.IsText)
    (negated : Bool) (word : String) :
    Settles (fun _ => True) (resolve (.str tag) keys negated word) := by
  unfold resolve
  split
  · exact settles_starred _ _ tag hk negated
  split
  · exact settles_starred _ _ tag hk negated
  have hplain : Settles (fun _ => True)
      (do return (← Comparator.ofTag (.str tag) negated, keys)) :=
    .bind (settles_ofTag tag negated) fun _ _ => .ok trivial
  split
  · dsimp only
    split
    · exact .refused _
    · exact hplain
  · exact hplain

theorem settles_ofTest {test : Test} (ht : test.Textual) (declared : Option String) :
    Settles (fun _ => True) (Condition.ofTest test declared) := by
  have hk := Test.keys_of_textual (Test.textual_underNegation ht)
  rw [ofTest_of_textual ht]
  split
  · exact .refused _
  split
  · exact .refused _
  · exact .bind (settles_resolve _ hk _ _) fun _ _ => .ok trivial

theorem mem_paired {p : Test × Option String} {tests : List Test} {declared : List (Option String)}
    (h : p ∈ paired tests declared) : p.1 ∈ tests := by
  rw [← map_fst_paired tests declared]
  exact List.mem_map_of_mem h

theorem settles_conditionsOf {tests : List Test} (ht : ∀ t ∈ tests, t.Textual)
    (declared : List (Option String)) :
    Settles (fun _ => True) (conditionsOf tests declared).outcome := by
  have hall : Settles (fun cs : List Condition => ∀ c ∈ cs, True)
      ((paired tests declared).mapM fun p => Condition.ofTest p.1 p.2) := by
    refine .mapM ?_
    intro p hp
    exact settles_ofTest (ht p.1 (mem_paired hp)) p.2
  rw [outcome_conditionsOf]
  exact .mono hall fun _ _ => trivial

theorem settles_effectsOf (actions : List Action) (trash : Value) :
    Settles (fun _ => True) (effectsOf actions trash).outcome := by
  rw [outcome_effectsOf]
  cases h : actions.foldlM (Effects.add trash) Effects.none with
  | ok effects => exact .ok trivial
  | error failure =>
    obtain ⟨before, tag, after, -, -, rfl⟩ := ofActions_eq_error.mp h
    exact .refused _

theorem settles_operatorOf (m : MainRule) (declared : Option Operator) :
    Settles (fun _ => True) (operatorOf m declared) := by
  unfold operatorOf
  split
  · exact .refused _
  · split
    · split
      · exact .ok trivial
      · exact .refused _
    · exact .ok trivial

theorem settles_readComment (comment : Option String) :
    Settles (fun _ => True) (readComment comment).outcome := by
  rw [readComment_eq]
  cases comment with
  | none => exact .ok trivial
  | some text =>
    dsimp only
    split
    · exact .ok trivial
    · exact .refused _

theorem settles_selectStatements {ss : List Statement} (h : ∀ s ∈ ss, s.Textual)
    (required : List String) :
    Settles (fun selection => ∀ t ∈ selection.rule.tests, t.Textual)
      (selectStatements ss required).outcome := by
  rw [outcome_selectStatements required fun v hv => h _ hv]
  cases hm : lastRule? ss with
  | none => exact .refused _
  | some m =>
    dsimp only
    split
    · obtain ⟨before, after, hss, -⟩ := Script.lastRule?_eq_some_iff.mp hm
      have hrule : Rule.Textual m.toRule := h (.rule m.toRule) (by rw [hss]; simp)
      exact .ok (hrule _ rfl m.tag m.tests rfl)
    · exact .refused _

theorem settles_convertStatements {ss : List Statement} (h : ∀ s ∈ ss, s.Textual)
    (requirements : Requirements) :
    Settles (fun _ => True) (convertStatements ss requirements).outcome := by
  simp only [convertStatements, Logged.outcome_bind, outcome_lift, outcome_write,
    Logged.outcome_pure, ok_bind]
  refine .bind (settles_selectStatements h requirements.extensions) ?_
  intro selection ht
  refine .bind (settles_readComment selection.comment) ?_
  intro annotations _
  refine .bind (settles_operatorOf selection.rule _) ?_
  intro operator _
  refine .bind (settles_conditionsOf ht _) ?_
  intro conditions _
  refine .bind (settles_effectsOf selection.rule.actions requirements.trash) ?_
  intro effects _
  exact .ok trivial

/-- Of a well-typed tree there is a filter or a refusal, and the answer whether it is a filter
agrees with it. -/
theorem conversion_of_well_typed (tree : Value) (requirements : Requirements)
    (h : WellTyped tree) :
    ((∃ filter, (convert (.ofValue tree) requirements).outcome = .ok filter) ∧
      (isConvertible (.ofValue tree) requirements).outcome = .ok true) ∨
    (((∃ cause : InvalidInput,
        (convert (.ofValue tree) requirements).outcome = .error (.invalidInput cause)) ∨
      ∃ cause : Unsupported,
        (convert (.ofValue tree) requirements).outcome = .error (.unsupported cause)) ∧
      (isConvertible (.ofValue tree) requirements).outcome = .ok false) := by
  have hsettles : Settles (fun _ => True) (convert (.ofValue tree) requirements).outcome := by
    rw [convert, Logged.outcome_bind, outcome_lift]
    exact .bind (Script.settles_statements h) fun _ hss =>
      settles_convertStatements hss requirements
  rcases hsettles with ⟨filter, hf, -⟩ | ⟨refusal, hr⟩
  · refine Or.inl ⟨⟨filter, hf⟩, ?_⟩
    simp only [isConvertible, hf]
  · refine Or.inr ⟨?_, by simp only [isConvertible, hr]⟩
    cases refusal with
    | invalidInput cause => exact Or.inl ⟨cause, hr⟩
    | unsupported cause => exact Or.inr ⟨cause, hr⟩

/-- A rule with no test where one is due and with a tag that is a list. -/
def oddScript : Value :=
  .arr [.obj [("Type", .str "If"),
    ("If", .obj [("Tests", .arr [.obj [("Type", .str "Not"), ("Test", .int 5)]])]),
    ("Then", .arr [.obj [("Type", .arr [])]])]]

theorem conversion_of_well_typed_odd :
    WellTyped oddScript ∧
    ∃ answer, (isConvertible (.ofValue oddScript) .standard).outcome = .ok answer := by
  have h : WellTyped oddScript := by
    rintro items hi v hv seen hs
    cases hi
    obtain rfl := List.mem_singleton.mp hv
    cases hs with
    | here =>
      constructor <;> simp [Value.entry, List.lookup_cons, Value.IsNames, Value.IsBranch,
        Value.IsMatch]
    | guard _ hs =>
      change Visits .guard (.obj [("Tests", .arr [.obj [("Type", .str "Not"), ("Test", .int 5)]])])
        seen at hs
      cases hs with
      | here =>
        constructor <;> simp [Value.entry, List.lookup_cons, Value.IsNames, Value.IsBranch,
          Value.IsMatch]
      | member hi hv hs =>
        cases hi
        obtain rfl := List.mem_singleton.mp hv
        cases hs with
        | here =>
          constructor <;> simp [Value.entry, List.lookup_cons, Value.IsNames, Value.IsBranch,
            Value.IsMatch]
        | negated _ hs => exact absurd hs (by rintro ⟨⟩)
      | single _ _ hn => cases hn
    | action _ hn hi hv hs =>
      simp only [List.mem_cons, List.not_mem_nil, or_false] at hn
      rcases hn with rfl | rfl
      · cases hi
        obtain rfl := List.mem_singleton.mp hv
        cases hs with
        | here =>
          constructor <;> simp [Value.entry, List.lookup_cons, Value.IsNames, Value.IsBranch,
            Value.IsMatch]
      · cases hi
  refine ⟨h, ?_⟩
  rcases conversion_of_well_typed oddScript .standard h with ⟨-, ha⟩ | ⟨-, ha⟩
  · exact ⟨true, ha⟩
  · exact ⟨false, ha⟩

end MailFilter
