import MailFilter.Proofs.Filter.Alignment
import MailFilter.Proofs.Filter.Selection
import MailFilter.Proofs.Table

/-!
# Which scripts are simple filters

A conversion passes seven checkpoints. It gives a filter exactly when all are met, and otherwise
says what is wrong at the first that is not. Only the statements that count have a say.
-/
namespace MailFilter

open Script (MainRule Part Rule Statement Test Action lastRule? lastBlock? lacking Declares)
open FirstFailure

/-- What a script must satisfy, in the order in which it is looked at. -/
inductive Checkpoint where
  | rule
  | declarations
  | annotations
  | operator
  | agreement
  | conditions
  | actions
  deriving DecidableEq, Repr

def Checkpoint.rank : Checkpoint → Nat
  | .rule => 0
  | .declarations => 1
  | .annotations => 2
  | .operator => 3
  | .agreement => 4
  | .conditions => 5
  | .actions => 6

def declaredOperator (ss : List Statement) : Option Operator :=
  (lastBlock? ss).bind fun text => (Annotations.gather text).annotations.operator

def declaredComparators (ss : List Statement) : List String :=
  ((lastBlock? ss).map fun text => (Annotations.gather text).annotations.comparators).getD []

/-- The conversion of one test by itself, with the comparator declared at its position. -/
def convertAlone (ss : List Statement) (i : Nat) (test : Test) : Except Failure (List Condition) :=
  (conditionsOf [test] [(declaredComparators ss)[i]?]).outcome

def Met (ss : List Statement) (required : List String) : Checkpoint → Prop
  | .rule => ∃ m : MainRule, .rule m.toRule ∈ ss
  | .declarations => ∀ name ∈ required, Declares ss name
  | .annotations => ∀ text, lastBlock? ss = some text → (Annotations.gather text).errors = []
  | .operator => ∀ m, lastRule? ss = some m → m.tag = "allof" ∨ m.tag = "anyof"
  | .agreement => ∀ m, lastRule? ss = some m → ∀ operator, declaredOperator ss = some operator →
      Operator.ofTag? m.tag = some operator
  | .conditions => ∀ m, lastRule? ss = some m → ∀ i test, m.tests[i]? = some test →
      ∃ conditions, convertAlone ss i test = .ok conditions
  | .actions => ∀ m, lastRule? ss = some m → ∀ tag, .other tag ∉ m.actions

/-- What a script without a complete rule lacks: a rule, or a part of its last rule. -/
inductive Lacks (ss : List Statement) : String → Prop where
  | rule : (∀ r, .rule r ∉ ss) → Lacks ss "missing"
  | part {r : Rule} : LastOf Statement.IsRule ss (.rule r) → Lacks ss r.lackingPart

/-- What is said of a script that does not meet a checkpoint: the failure, and how it is
reported. -/
def Complaint (ss : List Statement) (failure : Failure) : Checkpoint → Prop
  | .rule => failure = .invalidInput (.noMainRule (lacking ss)) ∧ ∃ word, Lacks ss word ∧
      failure.ReportedAs "InvalidInputError"
        ("Invalid tree representation: " ++ word ++ " level")
  | .declarations => failure = .invalidInput .requirements ∧
      failure.ReportedAs "InvalidInputError" "Invalid tree representation: requirements"
  | .annotations => ∃ text, lastBlock? ss = some text ∧
      failure = .invalidInput (.unknownAnnotations (Annotations.gather text).errors) ∧
      failure.ReportedAs "InvalidInputError" ("Unknown " ++ String.intercalate ", "
        ((Annotations.gather text).errors.map fun e => e.keyword ++ " \"" ++ e.word ++ "\""))
  | .operator => ∃ m, lastRule? ss = some m ∧ failure = .invalidInput (.unknownOperator m.tag) ∧
      failure.ReportedAs "InvalidInputError" ("Invalid operator: " ++ m.tag)
  | .agreement => failure = .unsupported .operatorMismatch ∧
      failure.ReportedAs "UnsupportedRepresentationError"
        "Comment and computed type incompatible"
  | .conditions => ∃ m i test, lastRule? ss = some m ∧ m.tests[i]? = some test ∧
      (∀ j < i, ∀ t, m.tests[j]? = some t → ∃ conditions, convertAlone ss j t = .ok conditions) ∧
      convertAlone ss i test = .error failure ∧
      (test.Textual → ∃ kind message, Objection test (declaredComparators ss)[i]? kind message ∧
        failure.ReportedAs kind message)
  | .actions => ∃ m before tag after, lastRule? ss = some m ∧
      m.actions = before ++ .other tag :: after ∧ (∀ t, .other t ∉ before) ∧
      failure = .unsupported (.action tag) ∧
      failure.ReportedAs "UnsupportedRepresentationError"
        ("Unsupported filter representation: " ++ tag)

theorem Operator.ofTag?_isSome_iff {tag : String} :
    (Operator.ofTag? tag).isSome ↔ tag = "allof" ∨ tag = "anyof" := by
  rw [Operator.ofTag?, Table.isSome_lookup_inverse_iff]
  simp [Table.values, operatorTags]

theorem operatorOf_eq_ok {m : MainRule} {declared : Option Operator} {operator : Operator} :
    operatorOf m declared = .ok operator ↔
      Operator.ofTag? m.tag = some operator ∧ ∀ o, declared = some o → o = operator := by
  unfold operatorOf
  cases Operator.ofTag? m.tag with
  | none => simp
  | some found =>
    cases declared with
    | none => simp
    | some o =>
      by_cases h : found = o
      · subst h
        simp
      · simp [h]
        rintro rfl
        exact Ne.symm h

theorem readComment_eq (comment : Option String) :
    (readComment comment).outcome =
      match comment with
      | none => .ok none
      | some text =>
        if (Annotations.gather text).errors = [] then
          .ok (some (Annotations.gather text).annotations)
        else .error (.invalidInput (.unknownAnnotations (Annotations.gather text).errors)) := by
  cases comment with
  | none => rfl
  | some text =>
    by_cases h : (Annotations.gather text).errors = []
    · simp [readComment, Annotations.read, h]
    · simp [readComment, Annotations.read, h]

theorem Effects.add_eq_error {trash : Value} {e : Effects} {action : Action} {failure : Failure} :
    Effects.add trash e action = .error failure ↔
      ∃ tag, action = .other tag ∧ failure = .unsupported (.action tag) := by
  cases action <;> simp [Effects.add, eq_comm]

theorem ofActions_eq_error {trash : Value} {actions : List Action} {e : Effects}
    {failure : Failure} :
    actions.foldlM (Effects.add trash) e = .error failure ↔
      ∃ before tag after, actions = before ++ .other tag :: after ∧ (∀ t, .other t ∉ before) ∧
        failure = .unsupported (.action tag) := by
  induction actions generalizing e with
  | nil => simp
  | cons action actions ih =>
    rw [List.foldlM_cons, bind_eq_error, Effects.add_eq_error]
    constructor
    · rintro (⟨tag, rfl, hf⟩ | ⟨next, hn, h⟩)
      · exact ⟨[], tag, actions, rfl, by simp, hf⟩
      · obtain ⟨before, tag, after, rfl, hb, hf⟩ := ih.mp h
        refine ⟨action :: before, tag, after, rfl, ?_, hf⟩
        intro t ht
        rcases List.mem_cons.mp ht with rfl | ht
        · cases hn
        · exact hb t ht
    · rintro ⟨before, tag, after, he, hb, hf⟩
      cases before with
      | nil =>
        obtain ⟨rfl, rfl⟩ := List.cons.inj he
        exact Or.inl ⟨tag, rfl, hf⟩
      | cons first before =>
        obtain ⟨rfl, rfl⟩ := List.cons.inj he
        cases ha : Effects.add trash e action with
        | ok next =>
          refine Or.inr ⟨next, rfl, ih.mpr ⟨before, tag, after, rfl, ?_, hf⟩⟩
          intro t ht
          exact hb t (List.mem_cons_of_mem _ ht)
        | error other =>
          obtain ⟨t, rfl, -⟩ := Effects.add_eq_error.mp ha
          exact absurd List.mem_cons_self (hb t)

theorem convertAlone_eq (ss : List Statement) :
    convertAlone ss = conditionAt ((declaredComparators ss).map some) := by
  funext i test
  rw [conditionAt_eq, getD_map_some]
  exact outcome_conditionsOf_single test _

theorem exists_conditionsOf_declared_iff {ss : List Statement} {tests : List Test} :
    (∃ conditions, (conditionsOf tests ((declaredComparators ss).map some)).outcome =
        .ok conditions) ↔
      ∀ i test, tests[i]? = some test → ∃ conditions, convertAlone ss i test = .ok conditions := by
  rw [convertAlone_eq]
  exact exists_conditionsOf_iff

theorem conditionsOf_declared_eq_error {ss : List Statement} {tests : List Test}
    {failure : Failure} :
    (conditionsOf tests ((declaredComparators ss).map some)).outcome = .error failure ↔
      ∃ (i : Nat) (test : Test), tests[i]? = some test ∧
        (∀ j < i, ∀ t, tests[j]? = some t → ∃ conditions, convertAlone ss j t = .ok conditions) ∧
        convertAlone ss i test = .error failure := by
  rw [convertAlone_eq]
  exact conditionsOf_eq_error

theorem exists_ofActions_eq_ok {trash : Value} {actions : List Action} {e : Effects} :
    (∃ effects, actions.foldlM (Effects.add trash) e = .ok effects) ↔
      ∀ tag, .other tag ∉ actions := by
  induction actions generalizing e with
  | nil => simp
  | cons action actions ih =>
    cases action with
    | other tag =>
      simp only [List.foldlM_cons, Effects.add, error_bind, reduceCtorEq, exists_false, false_iff,
        not_forall, not_not]
      exact ⟨tag, List.mem_cons_self⟩
    | keep | discard | fileInto | addFlag | vacation => simp [Effects.add, ih]

theorem outcome_effectsOf (actions : List Action) (trash : Value) :
    (effectsOf actions trash).outcome = actions.foldlM (Effects.add trash) Effects.none := by
  simp only [effectsOf, Logged.outcome_bind, outcome_lift, outcome_write, ok_bind,
    Logged.outcome_pure, Effects.ofActions]
  cases actions.foldlM (Effects.add trash) Effects.none <;> rfl

section

variable {ss : List Statement} {requirements : Requirements}

/-- What is left to do once the statements are selected and the annotations read. -/
theorem outcome_of_selected {m : MainRule} (ht : ∀ v, .comment v ∈ ss → v.IsText)
    (hm : lastRule? ss = some m) (hd : Met ss requirements.extensions .declarations)
    (ha : Met ss requirements.extensions .annotations) :
    (convertStatements ss requirements).outcome =
      operatorOf m (declaredOperator ss) >>= fun operator =>
        (conditionsOf m.tests ((declaredComparators ss).map some)).outcome >>= fun conditions =>
          (effectsOf m.actions requirements.trash).outcome >>= fun effects =>
            .ok ⟨operator, conditions, effects⟩ := by
  have hs : (selectStatements ss requirements.extensions).outcome = .ok ⟨m, lastBlock? ss⟩ := by
    simp only [outcome_selectStatements _ ht, hm]
    rw [if_pos (undeclared_eq_nil_iff.mpr hd)]
  have hr : (readComment (lastBlock? ss)).outcome =
      .ok ((lastBlock? ss).map fun text => (Annotations.gather text).annotations) := by
    rw [readComment_eq]
    cases hb : lastBlock? ss with
    | none => rfl
    | some text => simp [ha text hb]
  have ho : (((lastBlock? ss).map fun text => (Annotations.gather text).annotations).bind
      fun a => a.operator) = declaredOperator ss := by
    rw [Option.bind_map]
    rfl
  have hc : ((((lastBlock? ss).map fun text => (Annotations.gather text).annotations).map
      fun a => a.comparators).getD []) = declaredComparators ss := by
    rw [Option.map_map]
    rfl
  simp only [convertStatements, Logged.outcome_bind, hs, hr, ok_bind, outcome_lift, ho, hc,
    outcome_write, Logged.outcome_pure]

theorem exists_lastRule? (h : Met ss requirements.extensions .rule) :
    ∃ m, lastRule? ss = some m := by
  obtain ⟨m, hm⟩ := h
  cases hl : lastRule? ss with
  | some r => exact ⟨r, rfl⟩
  | none => exact absurd hm (Script.lastRule?_eq_none_iff.mp hl m)

theorem lastRule?_eq_none (h : ¬ Met ss requirements.extensions .rule) : lastRule? ss = none :=
  Script.lastRule?_eq_none_iff.mpr fun m hm => h ⟨m, hm⟩

theorem operatorOf_of_met {m : MainRule} (hm : lastRule? ss = some m)
    (ho : Met ss requirements.extensions .operator)
    (ha : Met ss requirements.extensions .agreement) :
    ∃ operator, operatorOf m (declaredOperator ss) = .ok operator := by
  obtain ⟨operator, hf⟩ := Option.isSome_iff_exists.mp (Operator.ofTag?_isSome_iff.mpr (ho m hm))
  refine ⟨operator, operatorOf_eq_ok.mpr ⟨hf, ?_⟩⟩
  intro o hd
  exact Option.some.inj ((ha m hm o hd).symm.trans hf)

theorem exists_filter_of_met (ht : ∀ v, .comment v ∈ ss → v.IsText)
    (h : ∀ p, Met ss requirements.extensions p) :
    ∃ filter, (convertStatements ss requirements).outcome = .ok filter := by
  obtain ⟨m, hm⟩ := exists_lastRule? (h .rule)
  obtain ⟨operator, ho⟩ := operatorOf_of_met hm (h .operator) (h .agreement)
  obtain ⟨conditions, hc⟩ := exists_conditionsOf_declared_iff.mpr (h .conditions m hm)
  obtain ⟨effects, he⟩ := exists_ofActions_eq_ok.mpr (h .actions m hm)
  refine ⟨⟨operator, conditions, effects⟩, ?_⟩
  rw [outcome_of_selected ht hm (h .declarations) (h .annotations), ho, hc, outcome_effectsOf, he]
  rfl

theorem exists_lacks (h : ¬ Met ss requirements.extensions .rule) :
    ∃ word, Lacks ss word ∧ (lacking ss).name = word := by
  have hn : ∀ s ∈ ss, ¬ s.IsComplete := by
    intro s hs hc
    obtain ⟨m, rfl⟩ := hc.exists_eq
    exact h ⟨m, hs⟩
  obtain ⟨hmissing, hpart⟩ := Script.lacking_of_none_complete hn
  by_cases hr : ∃ s ∈ ss, s.IsRule
  · obtain ⟨s, hs, hr⟩ := hr
    obtain ⟨last, hl⟩ := exists_lastOf hs hr
    obtain ⟨-, -, -, hlast, -⟩ := id hl
    cases last with
    | rule r => exact ⟨_, .part hl, hpart r hl⟩
    | require | comment | other => exact hlast.elim
  · have hno : ∀ r, .rule r ∉ ss := fun r hm => hr ⟨_, hm, trivial⟩
    exact ⟨_, .rule hno, hmissing hno⟩

theorem objection_of_convertAlone {i : Nat} {test : Test} {failure : Failure}
    (ht : test.Textual) (h : convertAlone ss i test = .error failure) :
    ∃ kind message, Objection test (declaredComparators ss)[i]? kind message ∧
      failure.ReportedAs kind message := by
  rw [convertAlone, outcome_conditionsOf_single] at h
  rcases bind_eq_error.mp h with h | ⟨_, _, h⟩
  · exact exists_objection_of_ofTest ht h
  · cases h

theorem exists_complaint_of_not_met {p : Checkpoint} (h : ¬ Met ss requirements.extensions p) :
    ∃ failure, Complaint ss failure p := by
  cases p with
  | rule =>
    obtain ⟨word, hlacks, hword⟩ := exists_lacks h
    refine ⟨_, rfl, word, hlacks, _, rfl, rfl, ?_⟩
    rw [Refusal.message, InvalidInput.message_noMainRule, hword]
  | declarations | agreement => exact ⟨_, rfl, _, rfl, rfl, rfl⟩
  | annotations =>
    simp only [Met, not_forall] at h
    obtain ⟨text, hb, -⟩ := h
    exact ⟨_, text, hb, rfl, _, rfl, rfl, rfl⟩
  | operator =>
    simp only [Met, not_forall] at h
    obtain ⟨m, hm, -⟩ := h
    exact ⟨_, m, hm, rfl, _, rfl, rfl, rfl⟩
  | conditions =>
    simp only [Met, not_forall] at h
    obtain ⟨m, hm, i, test, hi, hn⟩ := h
    cases hc : (conditionsOf m.tests ((declaredComparators ss).map some)).outcome with
    | ok conditions =>
      exact absurd (exists_conditionsOf_declared_iff.mp ⟨conditions, hc⟩ i test hi) hn
    | error failure =>
      obtain ⟨j, t, hj, hfirst, hf⟩ := conditionsOf_declared_eq_error.mp hc
      exact ⟨failure, m, j, t, hm, hj, hfirst, hf, fun ht => objection_of_convertAlone ht hf⟩
  | actions =>
    simp only [Met, not_forall, not_not] at h
    obtain ⟨m, hm, tag, hmem⟩ := h
    cases he : m.actions.foldlM (Effects.add requirements.trash) Effects.none with
    | ok effects => exact absurd hmem (exists_ofActions_eq_ok.mp ⟨effects, he⟩ tag)
    | error failure =>
      obtain ⟨before, t, after, ha, hb, rfl⟩ := ofActions_eq_error.mp he
      exact ⟨_, m, before, t, after, hm, ha, hb, rfl, _, rfl, rfl, rfl⟩

theorem outcome_of_first_unmet (ht : ∀ v, .comment v ∈ ss → v.IsText) {p : Checkpoint}
    {failure : Failure} (hb : ∀ q, q.rank < p.rank → Met ss requirements.extensions q)
    (hn : ¬ Met ss requirements.extensions p) (hc : Complaint ss failure p) :
    (convertStatements ss requirements).outcome = .error failure := by
  -- The first three checkpoints precede the stage that `outcome_of_selected` starts from.
  cases p with
  | rule =>
    obtain ⟨rfl, -⟩ := hc
    simp only [convertStatements, Logged.outcome_bind, outcome_selectStatements _ ht,
      lastRule?_eq_none hn, error_bind]
  | declarations =>
    obtain ⟨rfl, -⟩ := hc
    obtain ⟨m, hm⟩ := exists_lastRule? (hb .rule (by decide))
    have hu : undeclared ss requirements.extensions ≠ [] := fun h =>
      hn (undeclared_eq_nil_iff.mp h)
    simp only [convertStatements, Logged.outcome_bind, outcome_selectStatements _ ht, hm, if_neg hu,
      error_bind]
  | annotations =>
    obtain ⟨text, hl, rfl, -⟩ := hc
    obtain ⟨m, hm⟩ := exists_lastRule? (hb .rule (by decide))
    have hu : undeclared ss requirements.extensions = [] :=
      undeclared_eq_nil_iff.mpr (hb .declarations (by decide))
    have he : (Annotations.gather text).errors ≠ [] := by
      intro he
      refine hn fun other ho => ?_
      rw [hl, Option.some.injEq] at ho
      rwa [← ho]
    simp only [convertStatements, Logged.outcome_bind, outcome_selectStatements _ ht, hm, if_pos hu,
      ok_bind, readComment_eq, hl, if_neg he, error_bind]
  | operator =>
    obtain ⟨m, hm, rfl, -⟩ := hc
    have hf : Operator.ofTag? m.tag = none := by
      rw [← Option.not_isSome_iff_eq_none, Operator.ofTag?_isSome_iff]
      intro h
      refine hn fun r hr => ?_
      rw [hm, Option.some.injEq] at hr
      rwa [← hr]
    rw [outcome_of_selected ht hm (hb .declarations (by decide)) (hb .annotations (by decide)),
      operatorOf, hf]
    rfl
  | agreement =>
    obtain ⟨rfl, -⟩ := hc
    simp only [Met, not_forall] at hn
    obtain ⟨m, hm, o, ho, hne⟩ := hn
    obtain ⟨operator, hf⟩ := Option.isSome_iff_exists.mp
      (Operator.ofTag?_isSome_iff.mpr (hb .operator (by decide) m hm))
    rw [hf, Option.some.injEq] at hne
    rw [outcome_of_selected ht hm (hb .declarations (by decide)) (hb .annotations (by decide)),
      operatorOf, hf, ho]
    simp only [if_neg hne, error_bind]
  | conditions =>
    obtain ⟨m, i, test, hm, hi, hfirst, hf, -⟩ := hc
    obtain ⟨operator, ho⟩ := operatorOf_of_met hm (hb .operator (by decide))
      (hb .agreement (by decide))
    rw [outcome_of_selected ht hm (hb .declarations (by decide)) (hb .annotations (by decide)), ho,
      conditionsOf_declared_eq_error.mpr ⟨i, test, hi, hfirst, hf⟩]
    rfl
  | actions =>
    obtain ⟨m, before, tag, after, hm, ha, hfirst, rfl, -⟩ := hc
    obtain ⟨operator, ho⟩ := operatorOf_of_met hm (hb .operator (by decide))
      (hb .agreement (by decide))
    obtain ⟨conditions, hcs⟩ :=
      exists_conditionsOf_declared_iff.mpr (hb .conditions (by decide) m hm)
    rw [outcome_of_selected ht hm (hb .declarations (by decide)) (hb .annotations (by decide)), ho,
      hcs, outcome_effectsOf, ofActions_eq_error.mpr ⟨before, tag, after, ha, hfirst, rfl⟩]
    rfl

theorem exists_first_unmet {p : Checkpoint} (h : ¬ Met ss requirements.extensions p) :
    ∃ q, (∀ r : Checkpoint, r.rank < q.rank → Met ss requirements.extensions r) ∧
      ¬ Met ss requirements.extensions q :=
  exists_first Checkpoint.rank h

/-- A script is a filter exactly if it meets every checkpoint, and otherwise fails at the first that
it does not meet, in the words of that checkpoint. Scripts with the same last rule, the same last
annotations and the same required declarations have the same outcome. -/
theorem conversion_acceptance (ss : List Statement) (requirements : Requirements)
    (ht : ∀ v, .comment v ∈ ss → v.IsText) :
    ((∃ filter, (convertStatements ss requirements).outcome = .ok filter) ↔
      ∀ p, Met ss requirements.extensions p) ∧
    (∀ failure, (convertStatements ss requirements).outcome = .error failure ↔
      ∃ p, (∀ q : Checkpoint, q.rank < p.rank → Met ss requirements.extensions q) ∧
        ¬ Met ss requirements.extensions p ∧ Complaint ss failure p) ∧
    (∀ other : List Statement, (∀ v, .comment v ∈ other → v.IsText) → lastRule? ss ≠ none →
      lastRule? other = lastRule? ss → lastBlock? other = lastBlock? ss →
      (∀ name ∈ requirements.extensions, Declares other name ↔ Declares ss name) →
      (convertStatements other requirements).outcome =
        (convertStatements ss requirements).outcome) := by
  have hfail : ∀ p, ¬ Met ss requirements.extensions p → ∃ q failure,
      (∀ r : Checkpoint, r.rank < q.rank → Met ss requirements.extensions r) ∧
      ¬ Met ss requirements.extensions q ∧ Complaint ss failure q := by
    intro p hp
    obtain ⟨q, hb, hq⟩ := exists_first_unmet hp
    obtain ⟨failure, hc⟩ := exists_complaint_of_not_met hq
    exact ⟨q, failure, hb, hq, hc⟩
  -- A conversion has one outcome, so the two lemmas on it, read backwards, exclude each other.
  refine ⟨⟨?_, exists_filter_of_met ht⟩, ?_, ?_⟩
  · rintro ⟨filter, h⟩ p
    by_contra hp
    obtain ⟨q, failure, hb, hq, hc⟩ := hfail p hp
    rw [outcome_of_first_unmet ht hb hq hc] at h
    cases h
  · intro failure
    constructor
    · intro h
      have hp : ∃ p, ¬ Met ss requirements.extensions p := by
        by_contra hall
        simp only [not_exists, not_not] at hall
        obtain ⟨filter, hf⟩ := exists_filter_of_met ht hall
        rw [hf] at h
        cases h
      obtain ⟨p, hp⟩ := hp
      obtain ⟨q, found, hb, hq, hc⟩ := hfail p hp
      have hf := outcome_of_first_unmet ht hb hq hc
      rw [h, Except.error.injEq] at hf
      exact ⟨q, hb, hq, hf ▸ hc⟩
    · rintro ⟨p, hb, hp, hc⟩
      exact outcome_of_first_unmet ht hb hp hc
  · intro other ho hne hr hbl hd
    have hu : undeclared other requirements.extensions = [] ↔
        undeclared ss requirements.extensions = [] := by
      rw [undeclared_eq_nil_iff, undeclared_eq_nil_iff]
      exact forall₂_congr hd
    have hs : (selectStatements other requirements.extensions).outcome =
        (selectStatements ss requirements.extensions).outcome := by
      rw [outcome_selectStatements _ ht, outcome_selectStatements _ ho, hr, hbl]
      cases hm : lastRule? ss with
      | none => exact absurd hm hne
      | some m => simp only [hu]
    simp only [convertStatements, Logged.outcome_bind, hs]

/-- Of all that is wrong with a script the missing declaration is named. -/
theorem conversion_acceptance_undeclared :
    (∀ v, .comment v ∈ [Statement.require [.str "fileinto"],
      .comment (.str "/**\r\n * @type xor\r\n */"),
      .rule (MainRule.mk "noneof" [] [.other "Stop"] none).toRule] → v.IsText) ∧
    ∃ failure, (convertStatements [.require [.str "fileinto"],
      .comment (.str "/**\r\n * @type xor\r\n */"),
      .rule (MainRule.mk "noneof" [] [.other "Stop"] none).toRule] .standard).outcome =
      .error failure ∧
      failure.ReportedAs "InvalidInputError" "Invalid tree representation: requirements" := by
  have hsaid : (Failure.invalidInput .requirements).ReportedAs "InvalidInputError"
      "Invalid tree representation: requirements" := ⟨_, rfl, rfl, rfl⟩
  refine ⟨by simp [Value.IsText], .invalidInput .requirements, ?_, hsaid⟩
  refine ((conversion_acceptance _ _ (by simp [Value.IsText])).2.1 _).mpr
    ⟨.declarations, ?_, ?_, rfl, hsaid⟩
  · intro q hq
    cases q with
    | rule => exact ⟨⟨"noneof", [], [.other "Stop"], none⟩, by simp⟩
    | declarations | annotations | operator | agreement | conditions | actions =>
      exact absurd hq (by decide)
  · intro h
    obtain ⟨extensions, hs, hm⟩ := h "imap4flags" (by decide)
    simp only [List.mem_cons, Statement.require.injEq, List.not_mem_nil, or_false,
      reduceCtorEq] at hs
    subst hs
    exact absurd hm (by decide)

end

end MailFilter
