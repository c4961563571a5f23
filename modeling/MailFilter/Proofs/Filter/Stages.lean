import MailFilter.Proofs.Filter.Acceptance

/-!
# A conversion stage by stage

A conversion passes through its stages in one order, and each stage takes what the ones before it
gave. A filter therefore tells which rule, which annotations and which comparators it was made from.
-/
namespace MailFilter

open Script (Statement Test Source lastRule? lastBlock? Declares)
open FirstFailure

theorem Survey.add_eq_error {survey : Survey} {s : Statement} {failure : Failure}
    (h : survey.add s = .error failure) : failure = .wrongKind := by
  cases s with
  | comment v =>
    cases v with
    | str text => cases h
    | null | bool | int | float | arr | obj | foreign => exact (Except.error.inj h).symm
  | rule r => cases hc : r.complete? <;> simp [Survey.add, hc] at h
  | require | other => cases h

theorem ofStatements_of_not_isText {ss : List Statement} {v : Value} (h : .comment v ∈ ss)
    (hv : ¬ v.IsText) (required : List String) :
    Survey.ofStatements ss required = .error .wrongKind := by
  have hrun : ∀ survey : Survey, ss.foldlM Survey.add survey = .error .wrongKind := by
    induction ss with
    | nil => cases h
    | cons s ss ih =>
      intro survey
      rw [List.foldlM_cons]
      cases ha : survey.add s with
      | error failure => rw [Survey.add_eq_error ha, error_bind]
      | ok next =>
        rcases List.mem_cons.mp h with rfl | h
        · cases v with
          | str text => exact absurd trivial hv
          | null | bool | int | float | arr | obj | foreign => cases ha
        · exact ih h next
  exact hrun (Survey.start required)

theorem outcome_selectStatements_of_not_isText {ss : List Statement} {v : Value}
    (h : .comment v ∈ ss) (hv : ¬ v.IsText) (required : List String) :
    (selectStatements ss required).outcome = .error .wrongKind := by
  simp only [selectStatements, Logged.outcome_bind, outcome_lift, ofStatements_of_not_isText h hv,
    error_bind]

theorem forall_isText_or (ss : List Statement) :
    (∀ v, .comment v ∈ ss → v.IsText) ∨ ∃ v, .comment v ∈ ss ∧ ¬ v.IsText := by
  rw [or_iff_not_imp_left]
  intro h
  simpa only [not_forall, exists_prop] using h

theorem selectStatements_eq_ok {ss : List Statement} {required : List String}
    {selection : Selection} :
    (selectStatements ss required).outcome = .ok selection ↔
      (∀ v, .comment v ∈ ss → v.IsText) ∧ lastRule? ss = some selection.rule ∧
      lastBlock? ss = selection.comment ∧ ∀ name ∈ required, Declares ss name := by
  obtain ⟨rule, comment⟩ := selection
  rcases forall_isText_or ss with ht | ⟨v, hm, hv⟩
  · rw [outcome_selectStatements required ht, ← undeclared_eq_nil_iff, and_iff_right ht]
    cases lastRule? ss with
    | none => simp
    | some r =>
      by_cases hu : undeclared ss required = []
      · simp [hu]
      · simp [hu]
  · rw [outcome_selectStatements_of_not_isText hm hv]
    constructor
    · intro h
      cases h
    · rintro ⟨ht, -⟩
      exact absurd (ht v hm) hv

/-- The order and the repetition of the required extensions make no difference. -/
theorem outcome_selectStatements_congr (ss : List Statement) {required other : List String}
    (h : ∀ name, name ∈ required ↔ name ∈ other) :
    (selectStatements ss required).outcome = (selectStatements ss other).outcome := by
  rcases forall_isText_or ss with ht | ⟨v, hm, hv⟩
  · have hu : undeclared ss required = [] ↔ undeclared ss other = [] := by
      simp only [undeclared_eq_nil_iff, h]
    rw [outcome_selectStatements required ht, outcome_selectStatements other ht]
    simp only [hu]
  · rw [outcome_selectStatements_of_not_isText hm hv, outcome_selectStatements_of_not_isText hm hv]

def comparatorsOf (annotations : Option Annotations) : List String :=
  (annotations.map (·.comparators)).getD []

theorem outcome_convertStatements (ss : List Statement) (requirements : Requirements) :
    (convertStatements ss requirements).outcome =
      (selectStatements ss requirements.extensions).outcome >>= fun selection =>
      (readComment selection.comment).outcome >>= fun annotations =>
      operatorOf selection.rule (annotations.bind (·.operator)) >>= fun operator =>
      (conditionsOf selection.rule.tests ((comparatorsOf annotations).map some)).outcome >>=
        fun conditions =>
      Effects.ofActions selection.rule.actions requirements.trash >>= fun effects =>
        .ok ⟨operator, conditions, effects⟩ := by
  simp only [convertStatements, Logged.outcome_bind, outcome_lift, outcome_write, ok_bind,
    Logged.outcome_pure, outcome_effectsOf]
  rfl

theorem outcome_convert (tree : Source) (requirements : Requirements) :
    (convert tree requirements).outcome =
      Script.statements tree >>= fun ss => (convertStatements ss requirements).outcome := by
  simp only [convert, Logged.outcome_bind, outcome_lift]

/-- What each stage of a conversion gives on the way to a filter. -/
structure Stages (tree : Source) (requirements : Requirements) (filter : SimpleFilter)
    (ss : List Statement) (selection : Selection) (annotations : Option Annotations) : Prop where
  read : Script.statements tree = .ok ss
  selected : (selectStatements ss requirements.extensions).outcome = .ok selection
  annotated : (readComment selection.comment).outcome = .ok annotations
  operator : operatorOf selection.rule (annotations.bind (·.operator)) = .ok filter.operator
  conditions : (conditionsOf selection.rule.tests ((comparatorsOf annotations).map some)).outcome =
    .ok filter.conditions
  effects : Effects.ofActions selection.rule.actions requirements.trash = .ok filter.effects

theorem convert_eq_ok {tree : Source} {requirements : Requirements} {filter : SimpleFilter} :
    (convert tree requirements).outcome = .ok filter ↔
      ∃ ss selection annotations, Stages tree requirements filter ss selection annotations := by
  rw [outcome_convert]
  constructor
  · intro h
    obtain ⟨ss, hread, h⟩ := bind_eq_ok.mp h
    rw [outcome_convertStatements] at h
    obtain ⟨selection, hselected, h⟩ := bind_eq_ok.mp h
    obtain ⟨annotations, hannotated, h⟩ := bind_eq_ok.mp h
    obtain ⟨operator, hoperator, h⟩ := bind_eq_ok.mp h
    obtain ⟨conditions, hconditions, h⟩ := bind_eq_ok.mp h
    obtain ⟨effects, heffects, h⟩ := bind_eq_ok.mp h
    obtain rfl := Except.ok.inj h
    exact ⟨ss, selection, annotations, hread, hselected, hannotated, hoperator, hconditions,
      heffects⟩
  · rintro ⟨ss, selection, annotations, h⟩
    rw [h.read, ok_bind, outcome_convertStatements, h.selected, ok_bind, h.annotated, ok_bind,
      h.operator, ok_bind, h.conditions, ok_bind, h.effects, ok_bind]

section

variable {tree : Source} {requirements : Requirements} {filter : SimpleFilter}
  {ss : List Statement} {selection : Selection} {annotations : Option Annotations}

/-- The conditions come from the tests, each with the comparator at its position. -/
theorem Stages.forall₂_paired (h : Stages tree requirements filter ss selection annotations) :
    List.Forall₂ (fun p c => Condition.ofTest p.1 p.2 = .ok c)
      (paired selection.rule.tests ((comparatorsOf annotations).map some)) filter.conditions :=
  mapM_eq_ok.mp ((outcome_conditionsOf _ _).symm.trans h.conditions)

theorem Stages.exists_test (h : Stages tree requirements filter ss selection annotations) {i : Nat}
    {c : Condition} (hc : filter.conditions[i]? = some c) :
    ∃ test, selection.rule.tests[i]? = some test ∧
      Condition.ofTest test (comparatorsOf annotations)[i]? = .ok c := by
  obtain ⟨p, hp, ht⟩ := getElem?_of_forall₂ h.forall₂_paired hc
  obtain ⟨test, hi, rfl⟩ := getElem?_paired_eq_some.mp hp
  rw [getD_map_some] at ht
  exact ⟨test, hi, ht⟩

end

end MailFilter
