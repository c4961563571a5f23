import MailFilter.Proofs.Filter.TestMeaning

/-!
# Tests and the comparators at their positions

Each test is converted with the comparator at its own position. A list of tests can therefore be
split anywhere, together with its comparators, and it fails as the first of its tests does that
fails by itself.
-/
namespace MailFilter

open Script (Test)
open FirstFailure

/-- The records of the tests behind a split go on with the numbers of those before it. -/
theorem conditionsFrom_append (index : Nat) (front back : List Test)
    (declared : List (Option String)) :
    conditionsFrom index (front ++ back) declared =
      (conditionsFrom index front (declared.take front.length) >>= fun first =>
        conditionsFrom (index + front.length) back (declared.drop front.length) >>= fun rest =>
          pure (first ++ rest)) := by
  induction front generalizing index declared with
  | nil => simp [conditionsFrom]
  | cons test front ih =>
    have hindex : index + (front.length + 1) = index + 1 + front.length := by omega
    have hhead : (declared.take (front.length + 1)).head? = declared.head? := by
      cases declared <;> rfl
    have htail : (declared.take (front.length + 1)).tail = declared.tail.take front.length := by
      cases declared <;> simp
    have hdrop : declared.drop (front.length + 1) = declared.tail.drop front.length := by
      cases declared <;> simp
    rw [List.cons_append, conditionsFrom, conditionsFrom, ih, List.length_cons, hindex, hhead,
      htail, hdrop]
    simp only [bind_assoc, pure_bind, List.cons_append]

/-- Of the comparators only those matter that stand at the position of a test. -/
theorem conditionsFrom_congr {tests : List Test} {declared other : List (Option String)}
    (h : ∀ i < tests.length, declared[i]?.getD none = other[i]?.getD none) (index : Nat) :
    conditionsFrom index tests declared = conditionsFrom index tests other := by
  induction tests generalizing index declared other with
  | nil => rfl
  | cons test tests ih =>
    have hhead : declared.head?.getD none = other.head?.getD none := by
      simpa only [List.head?_eq_getElem?] using h 0 (by simp)
    have htail : ∀ i < tests.length, declared.tail[i]?.getD none = other.tail[i]?.getD none := by
      intro i hi
      simpa only [List.getElem?_tail] using h (i + 1) (by simpa using hi)
    rw [conditionsFrom, conditionsFrom, hhead]
    simp only [ih htail]

/-- The conversion of one test by itself, with the comparator at a position if there is one. -/
def conditionAt (declared : List (Option String)) (i : Nat) (test : Test) :
    Except Failure (List Condition) :=
  (conditionsOf [test] declared[i]?.toList).outcome

theorem conditionAt_eq (declared : List (Option String)) (i : Nat) (test : Test) :
    conditionAt declared i test =
      Condition.ofTest test (declared[i]?.getD none) >>= fun condition => .ok [condition] := by
  rw [conditionAt]
  cases declared[i]? with
  | none => exact outcome_conditionsOf_single test none
  | some comparator => exact outcome_conditionsOf_single test comparator

theorem conditionAt_eq_ok {declared : List (Option String)} {i : Nat} {test : Test}
    {condition : Condition} :
    conditionAt declared i test = .ok [condition] ↔
      Condition.ofTest test (declared[i]?.getD none) = .ok condition := by
  rw [conditionAt_eq]
  cases Condition.ofTest test (declared[i]?.getD none) <;> simp

theorem exists_conditionAt_eq_ok {declared : List (Option String)} {i : Nat} {test : Test} :
    (∃ conditions, conditionAt declared i test = .ok conditions) ↔
      ∃ condition, Condition.ofTest test (declared[i]?.getD none) = .ok condition := by
  rw [conditionAt_eq]
  cases Condition.ofTest test (declared[i]?.getD none) <;> simp

theorem conditionAt_eq_error {declared : List (Option String)} {i : Nat} {test : Test}
    {failure : Failure} :
    conditionAt declared i test = .error failure ↔
      Condition.ofTest test (declared[i]?.getD none) = .error failure := by
  rw [conditionAt_eq]
  cases Condition.ofTest test (declared[i]?.getD none) <;> simp

theorem exists_conditionsOf_iff {tests : List Test} {declared : List (Option String)} :
    (∃ conditions, (conditionsOf tests declared).outcome = .ok conditions) ↔
      ∀ i test, tests[i]? = some test →
        ∃ conditions, conditionAt declared i test = .ok conditions := by
  rw [outcome_conditionsOf, exists_mapM_eq_ok]
  simp only [getElem?_paired_eq_some, exists_conditionAt_eq_ok]
  constructor
  · intro h i test ht
    exact h i _ ⟨test, ht, rfl⟩
  · rintro h i _ ⟨test, ht, rfl⟩
    exact h i test ht

theorem conditionsOf_eq_ok {tests : List Test} {declared : List (Option String)}
    {conditions : List Condition} :
    (conditionsOf tests declared).outcome = .ok conditions ↔
      conditions.length = tests.length ∧ ∀ i test condition, tests[i]? = some test →
        conditions[i]? = some condition → conditionAt declared i test = .ok [condition] := by
  rw [outcome_conditionsOf, mapM_eq_ok, forall₂_iff_getElem?, length_paired, eq_comm]
  simp only [getElem?_paired_eq_some, conditionAt_eq_ok]
  refine and_congr_right fun _ => ⟨?_, ?_⟩
  · intro h i test condition ht hc
    exact h i _ condition ⟨test, ht, rfl⟩ hc
  · rintro h i _ condition ⟨test, ht, rfl⟩ hc
    exact h i test condition ht hc

theorem conditionsOf_eq_error {tests : List Test} {declared : List (Option String)}
    {failure : Failure} :
    (conditionsOf tests declared).outcome = .error failure ↔
      ∃ (i : Nat) (test : Test), tests[i]? = some test ∧
        (∀ j < i, ∀ earlier, tests[j]? = some earlier →
          ∃ conditions, conditionAt declared j earlier = .ok conditions) ∧
        conditionAt declared i test = .error failure := by
  rw [outcome_conditionsOf, mapM_eq_error]
  simp only [getElem?_paired_eq_some, exists_conditionAt_eq_ok, conditionAt_eq_error]
  constructor
  · rintro ⟨i, _, ⟨test, ht, rfl⟩, hj, he⟩
    exact ⟨i, test, ht, fun j hlt earlier h => hj j hlt _ ⟨earlier, h, rfl⟩, he⟩
  · rintro ⟨i, test, ht, hj, he⟩
    refine ⟨i, _, ⟨test, ht, rfl⟩, ?_, he⟩
    rintro j hlt _ ⟨earlier, h, rfl⟩
    exact hj j hlt earlier h

theorem getD_append_none {α : Type} (xs : List (Option α)) (n i : Nat) :
    (xs ++ List.replicate n none)[i]?.getD none = xs[i]?.getD none := by
  rw [List.getElem?_append]
  split
  · rfl
  · rename_i hlong
    have hnone : xs[i]? = none := List.getElem?_eq_none (by omega)
    rw [hnone, List.getElem?_replicate]
    split <;> rfl

/-- A list of tests that is split with its comparators converts as its parts do, one after the
other. Each condition is that of its test with the comparator at its position, and the failure is
that of the first test that fails. Comparators behind the last test do not matter, and a test
without a comparator is read as one for which nothing is declared. -/
theorem conditions_aligned (front back : List Test) (declared : List (Option String)) :
    (conditionsOf (front ++ back) declared).outcome =
      ((conditionsOf front (declared.take front.length)).outcome >>= fun first =>
        (conditionsOf back (declared.drop front.length)).outcome >>= fun rest =>
          .ok (first ++ rest)) ∧
    (∀ failure, (conditionsOf (front ++ back) declared).outcome = .error failure ↔
      (conditionsOf front (declared.take front.length)).outcome = .error failure ∨
      (∃ first, (conditionsOf front (declared.take front.length)).outcome = .ok first) ∧
        (conditionsOf back (declared.drop front.length)).outcome = .error failure) ∧
    ∀ tests : List Test,
      (∀ conditions, (conditionsOf tests declared).outcome = .ok conditions ↔
        conditions.length = tests.length ∧ ∀ i test condition, tests[i]? = some test →
          conditions[i]? = some condition → conditionAt declared i test = .ok [condition]) ∧
      (∀ failure, (conditionsOf tests declared).outcome = .error failure ↔
        ∃ (i : Nat) (test : Test), tests[i]? = some test ∧
          (∀ j < i, ∀ earlier, tests[j]? = some earlier →
            ∃ conditions, conditionAt declared j earlier = .ok conditions) ∧
          conditionAt declared i test = .error failure) ∧
      conditionsOf tests (declared.take tests.length) = conditionsOf tests declared ∧
      ∀ n, conditionsOf tests (declared ++ List.replicate n none) =
        conditionsOf tests declared := by
  have happend : (conditionsOf (front ++ back) declared).outcome =
      ((conditionsOf front (declared.take front.length)).outcome >>= fun first =>
        (conditionsOf back (declared.drop front.length)).outcome >>= fun rest =>
          .ok (first ++ rest)) := by
    -- The parts differ from the whole only in the numbers of their records.
    simp only [conditionsOf, conditionsFrom_append, Logged.outcome_bind, Logged.outcome_pure,
      outcome_conditionsFrom]
  refine ⟨happend, ?_, ?_⟩
  · intro failure
    rw [happend, bind_eq_error]
    refine or_congr_right ?_
    simp only [bind_eq_error, reduceCtorEq, and_false, exists_false, or_false, exists_and_right]
  · intro tests
    refine ⟨fun _ => conditionsOf_eq_ok, fun _ => conditionsOf_eq_error, ?_, ?_⟩
    · refine conditionsFrom_congr ?_ 0
      intro i hi
      rw [List.getElem?_take_of_lt hi]
    · intro n
      exact conditionsFrom_congr (fun i _ => getD_append_none declared n i) 0

/-- The second of three tests has a match tag that is not known, the third has none at all. -/
theorem conditions_aligned_unknown :
    (∃ conditions, (conditionsOf [.present [.str "X-Attached"]] [some "contains"]).outcome =
      .ok conditions) ∧
    (conditionsOf [.present [.str "X-Attached"], .header [.str "Subject"] none (.str "Near"),
      .header [.str "Subject"] none .null] [some "contains"]).outcome =
        .error (.invalidInput .unknownMatchTag) := by
  have hfirst : (conditionsOf [.present [.str "X-Attached"]] [some "contains"]).outcome =
      .ok [⟨.attachments, ⟨.contains, false⟩, []⟩] := by decide +kernel
  refine ⟨⟨_, hfirst⟩, ((conditions_aligned [.present [.str "X-Attached"]]
    [.header [.str "Subject"] none (.str "Near"), .header [.str "Subject"] none .null]
    [some "contains"]).2.1 _).mpr (Or.inr ⟨⟨_, hfirst⟩, ?_⟩)⟩
  decide +kernel

end MailFilter
