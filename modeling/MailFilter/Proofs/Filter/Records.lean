import MailFilter.Proofs.Filter.Stages

/-!
# The records of a conversion

A conversion writes a record for each stage that it has passed, and for each test that it has
converted, so that the records tell how far it came. The check whether a script is a simple filter
adds one record, and only if the script is refused.
-/
namespace MailFilter

open Script (MainRule Source Statement Test lastRule? lastBlock? lacking Declares)
open FirstFailure

/-- A script with a rule to convert and with all declarations. -/
structure Accepted (tree : Source) (required : List String) (ss : List Statement)
    (rule : MainRule) : Prop where
  read : Script.statements tree = .ok ss
  texts : ∀ v, .comment v ∈ ss → v.IsText
  selected : lastRule? ss = some rule
  declared : ∀ name ∈ required, Declares ss name

/-- The script is accepted, and its last comment with annotations, if there is one, has no
errors. -/
structure Annotated (tree : Source) (required : List String) (ss : List Statement)
    (rule : MainRule) (annotations : Option Annotations) : Prop
    extends Accepted tree required ss rule where
  annotated : (lastBlock? ss).mapM Annotations.read = .ok annotations

/-- Conditions that come from the first tests of a list, each with the comparator declared at its
position. -/
def ComeFrom (tests : List Test) (declared : List String) (conditions : List Condition) : Prop :=
  ∀ (i : Nat) (c : Condition), conditions[i]? = some c →
    ∃ test, tests[i]? = some test ∧ Condition.ofTest test declared[i]? = .ok c

/-- The operator of the script agrees with its annotations, and its first tests convert. -/
structure Underway (tree : Source) (required : List String) (ss : List Statement)
    (rule : MainRule) (annotations : Option Annotations) (operator : Operator)
    (conditions : List Condition) : Prop extends Annotated tree required ss rule annotations where
  operator : operatorOf rule (annotations.bind (·.operator)) = .ok operator
  converted : ComeFrom rule.tests (comparatorsOf annotations) conditions

def acceptance (ss : List Statement) (rule : MainRule) : Record :=
  .selected rule.tests.length rule.actions.length (lastBlock? ss).isSome

/-- The records of an accepted script before its tests are looked at. -/
def openingRecords (ss : List Statement) (rule : MainRule) (annotations : Option Annotations) :
    List Record :=
  acceptance ss rule :: annotations.toList.map .annotated

/-- The records and the outcome of a conversion, by the stage that it ends in. -/
inductive Ending (tree : Source) (requirements : Requirements) :
    Converting SimpleFilter → Prop where
  | reading {failure} : Script.statements tree = .error failure →
      Ending tree requirements ⟨[], .error failure⟩
  | survey {ss v} : Script.statements tree = .ok ss → .comment v ∈ ss → ¬ v.IsText →
      Ending tree requirements ⟨[], .error .wrongKind⟩
  | selection {ss} : Script.statements tree = .ok ss → (∀ v, .comment v ∈ ss → v.IsText) →
      lastRule? ss = none →
      Ending tree requirements ⟨[], .error (.invalidInput (.noMainRule (lacking ss)))⟩
  | declarations {ss rule} : Script.statements tree = .ok ss →
      (∀ v, .comment v ∈ ss → v.IsText) → lastRule? ss = some rule →
      undeclared ss requirements.extensions ≠ [] →
      Ending tree requirements ⟨[.undeclared (undeclared ss requirements.extensions)],
        .error (.invalidInput .requirements)⟩
  | annotations {ss rule failure} : Accepted tree requirements.extensions ss rule →
      (lastBlock? ss).mapM Annotations.read = .error failure →
      Ending tree requirements ⟨[acceptance ss rule], .error failure⟩
  | operator {ss rule annotations failure} :
      Annotated tree requirements.extensions ss rule annotations →
      operatorOf rule (annotations.bind (·.operator)) = .error failure →
      Ending tree requirements ⟨openingRecords ss rule annotations, .error failure⟩
  | test {ss rule annotations operator conditions test failure} :
      Underway tree requirements.extensions ss rule annotations operator conditions →
      rule.tests[conditions.length]? = some test →
      Condition.ofTest test (comparatorsOf annotations)[conditions.length]? = .error failure →
      Ending tree requirements
        ⟨openingRecords ss rule annotations ++ conditions.mapIdx .condition, .error failure⟩
  | action {ss rule annotations operator conditions failure} :
      Underway tree requirements.extensions ss rule annotations operator conditions →
      conditions.length = rule.tests.length →
      Effects.ofActions rule.actions requirements.trash = .error failure →
      Ending tree requirements
        ⟨openingRecords ss rule annotations ++ conditions.mapIdx .condition, .error failure⟩
  | filter {ss rule annotations operator conditions effects} :
      Underway tree requirements.extensions ss rule annotations operator conditions →
      conditions.length = rule.tests.length →
      Effects.ofActions rule.actions requirements.trash = .ok effects →
      Ending tree requirements
        ⟨openingRecords ss rule annotations ++ conditions.mapIdx .condition ++
          [.effects effects, .converted operator conditions.length],
        .ok ⟨operator, conditions, effects⟩⟩

def shownList (items : List String) : String := "[" ++ String.intercalate ", " items ++ "]"

def shownFlag (b : Bool) : String := if b then "True" else "False"

def shownOperator : Operator → String
  | .all => "all"
  | .any => "any"

def shownType : Option Operator → String
  | none => "''"
  | some .all => "'all'"
  | some .any => "'any'"

def shownField : Field → String
  | .attachments => "attachments"
  | .recipient => "recipient"
  | .sender => "sender"
  | .subject => "subject"
  | .unknown => "<unknown>"

inductive Worded : Record → Severity → String → Prop where
  | undeclared (names : List String) : Worded (.undeclared names) .debug
      ("Missing required extensions: " ++ String.intercalate ", " names)
  | selected (tests actions : Nat) (annotated : Bool) :
      Worded (.selected tests actions annotated) .debug
        ("Main node found (" ++ toString tests ++ " tests, " ++ toString actions ++
          " actions, annotation: " ++ if annotated then "yes)" else "no)")
  | annotated (operator : Option Operator) (comparators : List String) :
      Worded (.annotated ⟨operator, comparators⟩) .debug
        ("Annotation: type=" ++ shownType operator ++ " comparators=" ++
          shownList (comparators.map Text.quoted))
  | condition (index : Nat) (c : Condition) : Worded (.condition index c) .debug
      ("Condition " ++ toString index ++ ": " ++ shownField c.field ++ " " ++
        c.comparator.token ++ " " ++ shownList (c.values.map Value.literal))
  | effects (e : Effects) : Worded (.effects e) .debug
      ("Actions: file_into=" ++ shownList (e.folders.map Value.literal) ++ " mark=Mark(read=" ++
        shownFlag e.mark.read ++ ", starred=" ++ shownFlag e.mark.starred ++ ")" ++
        " vacation=" ++ shownFlag e.reply.isSome)
  | converted (operator : Operator) (conditions : Nat) :
      Worded (.converted operator conditions) .debug
        ("Converted filter: " ++ shownOperator operator ++ " with " ++ toString conditions ++
          " condition(s)")
  | notSimple (refusal : Refusal) : Worded (.notSimple refusal) .info
      ("Not a simple filter: " ++ refusal.message)

theorem Value.literals_eq_map (vs : List Value) : literals vs = vs.map literal := by
  induction vs with
  | nil => rfl
  | cons v vs ih => rw [literals, List.map_cons, ih]

theorem Value.literal_arr (vs : List Value) : (arr vs).literal = shownList (vs.map literal) := by
  rw [literal, literals_eq_map, shownList]

theorem Value.literal_texts (texts : List String) :
    (arr (texts.map str)).literal = shownList (texts.map Text.quoted) := by
  rw [literal_arr, List.map_map]
  rfl

theorem shownField_eq (f : Field) :
    shownField f = if f = .unknown then "<unknown>" else f.token := by
  cases f <;> rfl

theorem shownType_eq (operator : Option Operator) :
    shownType operator = Text.quoted ((operator.map Operator.token).getD "") := by
  rcases operator with _ | _ | _ <;> decide +kernel

theorem Record.worded (r : Record) : Worded r r.severity r.message := by
  cases r with
  | undeclared names => exact .undeclared names
  | selected tests actions annotated => exact .selected tests actions annotated
  | annotated a =>
    obtain ⟨operator, comparators⟩ := a
    have h := Worded.annotated operator comparators
    rwa [shownType_eq, ← Value.literal_texts] at h
  | condition index c =>
    have h := Worded.condition index c
    rwa [shownField_eq, ← Value.literal_arr] at h
  | effects e =>
    have h := Worded.effects e
    rwa [← Value.literal_arr] at h
  | converted operator conditions =>
    have h := Worded.converted operator conditions
    cases operator <;> exact h
  | notSimple refusal => exact .notSimple refusal

theorem selectStatements_of_not_isText {ss : List Statement} {v : Value} (h : .comment v ∈ ss)
    (hv : ¬ v.IsText) (required : List String) :
    selectStatements ss required = ⟨[], .error .wrongKind⟩ := by
  rw [selectStatements, ofStatements_of_not_isText h hv, Logged.lift_error_bind]

section

variable {ss : List Statement} {required : List String} (ht : ∀ v, .comment v ∈ ss → v.IsText)

include ht

theorem selectStatements_of_no_rule (h : lastRule? ss = none) :
    selectStatements ss required = ⟨[], .error (.invalidInput (.noMainRule (lacking ss)))⟩ := by
  rw [selectStatements, ofStatements_eq required ht, Logged.lift_ok_bind]
  simp [h, Survey.select]

theorem selectStatements_of_undeclared {rule : MainRule} (h : lastRule? ss = some rule)
    (hu : undeclared ss required ≠ []) :
    selectStatements ss required =
      ⟨[.undeclared (undeclared ss required)], .error (.invalidInput .requirements)⟩ := by
  rw [selectStatements, ofStatements_eq required ht, Logged.lift_ok_bind]
  simp [h, hu, Survey.select]

theorem selectStatements_of_declared {rule : MainRule} (h : lastRule? ss = some rule)
    (hu : undeclared ss required = []) :
    selectStatements ss required = ⟨[acceptance ss rule], .ok ⟨rule, lastBlock? ss⟩⟩ := by
  rw [selectStatements, ofStatements_eq required ht, Logged.lift_ok_bind]
  simp [h, hu, Survey.select]
  rfl

end

theorem readComment_eq_mk (comment : Option String) :
    readComment comment = match comment.mapM Annotations.read with
      | .ok annotations => ⟨annotations.toList.map .annotated, .ok annotations⟩
      | .error failure => ⟨[], .error failure⟩ := by
  cases comment with
  | none => rfl
  | some text =>
    rw [readComment, Option.mapM_some]
    cases Annotations.read text <;> rfl

/-- The tests in front of the first that fails have their records, in order and with their
numbers. -/
theorem exists_conditionsFrom (index : Nat) (tests : List Test) (declared : List (Option String)) :
    ∃ conditions : List Condition,
      (∀ (i : Nat) (c : Condition), conditions[i]? = some c →
        ∃ test, tests[i]? = some test ∧
          Condition.ofTest test (declared[i]?.getD none) = .ok c) ∧
      (conditions.length = tests.length ∧ conditionsFrom index tests declared =
          ⟨conditions.mapIdx fun i c => .condition (index + i) c, .ok conditions⟩ ∨
        ∃ test failure, tests[conditions.length]? = some test ∧
          Condition.ofTest test (declared[conditions.length]?.getD none) = .error failure ∧
          conditionsFrom index tests declared =
            ⟨conditions.mapIdx fun i c => .condition (index + i) c, .error failure⟩) := by
  induction tests generalizing index declared with
  | nil => exact ⟨[], by simp, Or.inl ⟨rfl, rfl⟩⟩
  | cons test tests ih =>
    have hhead : declared.head?.getD none = declared[0]?.getD none := by
      rw [List.head?_eq_getElem?]
    cases hc : Condition.ofTest test (declared.head?.getD none) with
    | error failure =>
      refine ⟨[], by simp, Or.inr ⟨test, failure, rfl, hhead ▸ hc, ?_⟩⟩
      rw [conditionsFrom, hc]
      rfl
    | ok condition =>
      obtain ⟨conditions, hcome, hend⟩ := ih (index + 1) declared.tail
      have hnumbers : (condition :: conditions).mapIdx (fun i c => Record.condition (index + i) c) =
          .condition index condition ::
            conditions.mapIdx fun i c => .condition (index + 1 + i) c := by
        rw [List.mapIdx_cons, Nat.add_zero]
        simp only [Nat.add_comm 1, Nat.add_assoc]
      refine ⟨condition :: conditions, ?_, ?_⟩
      · intro i c hi
        cases i with
        | zero =>
          obtain rfl := Option.some.inj hi
          exact ⟨test, rfl, hhead ▸ hc⟩
        | succ i =>
          obtain ⟨later, hlater, hconverts⟩ := hcome i c hi
          rw [List.getElem?_tail] at hconverts
          exact ⟨later, hlater, hconverts⟩
      · rcases hend with ⟨hlength, hrun⟩ | ⟨later, failure, hlater, hfails, hrun⟩
        · refine Or.inl ⟨congrArg (· + 1) hlength, ?_⟩
          simp [conditionsFrom, hc, hrun, hnumbers]
        · rw [List.getElem?_tail] at hfails
          refine Or.inr ⟨later, failure, hlater, hfails, ?_⟩
          simp [conditionsFrom, hc, hrun, hnumbers]

theorem effectsOf_eq_mk (actions : List Script.Action) (trash : Value) :
    effectsOf actions trash = match Effects.ofActions actions trash with
      | .ok effects => ⟨[.effects effects], .ok effects⟩
      | .error failure => ⟨[], .error failure⟩ := by
  rw [effectsOf]
  cases Effects.ofActions actions trash <;> rfl

section

variable {tree : Source} {requirements : Requirements} {ss : List Statement} {rule : MainRule}
  {annotations : Option Annotations}

theorem convertStatements_of_annotated
    (h : Annotated tree requirements.extensions ss rule annotations) :
    convertStatements ss requirements =
      (⟨openingRecords ss rule annotations, operatorOf rule (annotations.bind (·.operator))⟩ >>=
        fun operator => conditionsOf rule.tests ((comparatorsOf annotations).map some) >>=
        fun conditions => effectsOf rule.actions requirements.trash >>= fun effects =>
        ⟨[.converted operator conditions.length], .ok ⟨operator, conditions, effects⟩⟩) := by
  have hu := undeclared_eq_nil_iff.mpr h.declared
  rw [convertStatements, selectStatements_of_declared h.texts h.selected hu, Logged.mk_ok_bind,
    readComment_eq_mk, h.annotated, Logged.mk_ok_bind]
  cases operatorOf rule (annotations.bind (·.operator)) with
  | error failure => simp [openingRecords]
  | ok operator =>
    rw [Logged.lift_ok_bind, Logged.mk_ok_bind]
    rfl

theorem convertStatements_of_misannotated {failure : Failure}
    (h : Accepted tree requirements.extensions ss rule)
    (ha : (lastBlock? ss).mapM Annotations.read = .error failure) :
    convertStatements ss requirements = ⟨[acceptance ss rule], .error failure⟩ := by
  have hu := undeclared_eq_nil_iff.mpr h.declared
  rw [convertStatements, selectStatements_of_declared h.texts h.selected hu, Logged.mk_ok_bind,
    readComment_eq_mk, ha]
  rfl

theorem ending_of_annotated (h : Annotated tree requirements.extensions ss rule annotations) :
    Ending tree requirements (convertStatements ss requirements) := by
  rw [convertStatements_of_annotated h]
  cases ho : operatorOf rule (annotations.bind (·.operator)) with
  | error failure => exact .operator h ho
  | ok operator =>
    obtain ⟨conditions, hcome, hend⟩ :=
      exists_conditionsFrom 0 rule.tests ((comparatorsOf annotations).map some)
    simp only [getD_map_some, Nat.zero_add] at hcome hend
    have hunderway : Underway tree requirements.extensions ss rule annotations operator
      conditions := { h with operator := ho, converted := hcome }
    rcases hend with ⟨hlength, hrun⟩ | ⟨test, failure, htest, hfails, hrun⟩
    · rw [conditionsOf, hrun, effectsOf_eq_mk]
      cases he : Effects.ofActions rule.actions requirements.trash with
      | error failure =>
        have hending := Ending.action hunderway hlength he
        simpa using hending
      | ok effects =>
        have hending := Ending.filter hunderway hlength he
        simpa using hending
    · rw [conditionsOf, hrun]
      exact .test hunderway htest hfails

end

theorem ending_of_convert (tree : Source) (requirements : Requirements) :
    Ending tree requirements (convert tree requirements) := by
  cases hs : Script.statements tree with
  | error failure =>
    rw [convert, hs, Logged.lift_error_bind]
    exact .reading hs
  | ok ss =>
    rw [convert, hs, Logged.lift_ok_bind]
    rcases forall_isText_or ss with ht | ⟨v, hm, hv⟩
    · cases hr : lastRule? ss with
      | none =>
        rw [convertStatements, selectStatements_of_no_rule ht hr, Logged.mk_error_bind]
        exact .selection hs ht hr
      | some rule =>
        by_cases hu : undeclared ss requirements.extensions = []
        · have haccepted : Accepted tree requirements.extensions ss rule :=
            ⟨hs, ht, hr, undeclared_eq_nil_iff.mp hu⟩
          cases ha : (lastBlock? ss).mapM Annotations.read with
          | error failure =>
            rw [convertStatements_of_misannotated haccepted ha]
            exact .annotations haccepted ha
          | ok annotations => exact ending_of_annotated { haccepted with annotated := ha }
        · rw [convertStatements, selectStatements_of_undeclared ht hr hu, Logged.mk_error_bind]
          exact .declarations hs ht hr hu
    · rw [convertStatements, selectStatements_of_not_isText hm hv, Logged.mk_error_bind]
      exact .survey hs hm hv

theorem severity_openingRecords {ss : List Statement} {rule : MainRule}
    {annotations : Option Annotations} :
    ∀ r ∈ openingRecords ss rule annotations, r.severity = .debug := by
  intro r hr
  rcases List.mem_cons.mp hr with rfl | hr
  · rfl
  · obtain ⟨a, -, rfl⟩ := List.mem_map.mp hr
    rfl

theorem severity_conditions {ss : List Statement} {rule : MainRule}
    {annotations : Option Annotations} {conditions : List Condition} :
    ∀ r ∈ openingRecords ss rule annotations ++ conditions.mapIdx .condition,
      r.severity = .debug := by
  intro r hr
  rcases List.mem_append.mp hr with hr | hr
  · exact severity_openingRecords r hr
  · obtain ⟨i, hi, rfl⟩ := List.mem_mapIdx.mp hr
    rfl

theorem severity_of_ending {tree : Source} {requirements : Requirements}
    {conversion : Converting SimpleFilter} (h : Ending tree requirements conversion) :
    ∀ r ∈ conversion.records, r.severity = .debug := by
  cases h with
  | reading | survey | selection => simp
  | declarations | annotations => simp [acceptance, Record.severity]
  | operator => exact severity_openingRecords
  | test | action => exact severity_conditions
  | filter =>
    intro r hr
    rcases List.mem_append.mp hr with hr | hr
    · exact severity_conditions r hr
    · simp only [List.mem_cons, List.not_mem_nil, or_false] at hr
      rcases hr with rfl | rfl <;> rfl

/-- A conversion writes one record for each step that it has taken, in order and nothing else, up to
the stage that it ends in, and each of them says what the step came to. The check whether a script
is a simple filter writes the same records, and one more exactly if the script is refused, which
tells the reason. -/
theorem records_of_conversion (tree : Source) (requirements : Requirements) :
    Ending tree requirements (convert tree requirements) ∧
    (∀ r ∈ (convert tree requirements).records,
      r.severity = .debug ∧ Worded r .debug r.message) ∧
    ∃ verdict, (isConvertible tree requirements).records =
        (convert tree requirements).records ++ verdict ∧
      (∀ refusal, (convert tree requirements).outcome = .error (.refused refusal) →
        ∃ r : Record, verdict = [r] ∧ r.severity = .info ∧
          r.message = "Not a simple filter: " ++ refusal.message) ∧
      ((∀ refusal, (convert tree requirements).outcome ≠ .error (.refused refusal)) →
        verdict = []) := by
  have hending := ending_of_convert tree requirements
  refine ⟨hending, fun r hr => ?_, ?_⟩
  · have hdebug := severity_of_ending hending r hr
    exact ⟨hdebug, hdebug ▸ r.worded⟩
  rw [isConvertible]
  cases ho : (convert tree requirements).outcome with
  | ok filter => exact ⟨[], (List.append_nil _).symm, by simp, fun _ => rfl⟩
  | error failure =>
    cases failure with
    | refused refusal =>
      refine ⟨[.notSimple refusal], rfl, ?_, fun h => absurd rfl (h refusal)⟩
      intro other hother
      obtain rfl : refusal = other := by simpa using hother
      exact ⟨_, rfl, rfl, rfl⟩
    | wrongKind | noMember => exact ⟨[], (List.append_nil _).symm, by simp, fun _ => rfl⟩

end MailFilter
