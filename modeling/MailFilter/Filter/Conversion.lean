import MailFilter.Filter.Effects
import MailFilter.Filter.Record
import MailFilter.Filter.Selection
import MailFilter.Filter.TestMeaning
import MailFilter.Script.Reading

/-!
Conversion of a script into a simple filter: select its statements, read the annotations, check the
operator against them, convert the tests one by one, and add up the actions.
-/

namespace MailFilter

open Script (Action MainRule Statement Source Test)

/-- What a conversion is told: the extensions a script must declare, and the folder of discarded
messages. -/
structure Requirements where
  extensions : List String
  trash : Value
  deriving DecidableEq, Inhabited

/-- What filter scripts declare and where they put what they discard, unless told otherwise. -/
def Requirements.standard : Requirements := ⟨defaultExtensions, .str defaultTrash⟩

def selectStatements (statements : List Statement) (required : List String) :
    Converting Selection := do
  let survey ← Survey.ofStatements statements required
  if survey.rule.isSome ∧ survey.undeclared ≠ [] then
    Logged.write (.undeclared survey.undeclared)
  let selection ← survey.select
  Logged.write (.selected selection.rule.tests.length selection.rule.actions.length
    selection.comment.isSome)
  return selection

def readComment : Option String → Converting (Option Annotations)
  | none => return none
  | some text => do
    let annotations ← Annotations.read text
    Logged.write (.annotated annotations)
    return some annotations

def operatorOf (rule : MainRule) (declared : Option Operator) : Except Failure Operator :=
  match Operator.ofTag? rule.tag with
  | none => .error (.invalidInput (.unknownOperator rule.tag))
  | some operator =>
    match declared with
    | some other =>
      if operator = other then .ok operator else .error (.unsupported .operatorMismatch)
    | none => .ok operator

/-- The conditions of tests, the first of which has a number and the first of the comparators. Tests
beyond the comparators have none. -/
def conditionsFrom (index : Nat) : List Test → List (Option String) → Converting (List Condition)
  | [], _ => return []
  | test :: tests, declared => do
    let condition ← Condition.ofTest test (declared.head?.getD none)
    Logged.write (.condition index condition)
    let rest ← conditionsFrom (index + 1) tests declared.tail
    return condition :: rest

def conditionsOf (tests : List Test) (declared : List (Option String)) :
    Converting (List Condition) :=
  conditionsFrom 0 tests declared

def effectsOf (actions : List Action) (trash : Value) : Converting Effects := do
  let effects ← Effects.ofActions actions trash
  Logged.write (.effects effects)
  return effects

def convertStatements (statements : List Statement) (requirements : Requirements) :
    Converting SimpleFilter := do
  let selection ← selectStatements statements requirements.extensions
  let annotations ← readComment selection.comment
  let operator ← operatorOf selection.rule (annotations.bind (·.operator))
  let declared := (annotations.map (·.comparators)).getD []
  let conditions ← conditionsOf selection.rule.tests (declared.map some)
  let effects ← effectsOf selection.rule.actions requirements.trash
  Logged.write (.converted operator conditions.length)
  return ⟨operator, conditions, effects⟩

def convert (tree : Source) (requirements : Requirements) : Converting SimpleFilter := do
  let statements ← Script.statements tree
  convertStatements statements requirements

def isConvertible (tree : Source) (requirements : Requirements) : Converting Bool :=
  let conversion := convert tree requirements
  match conversion.outcome with
  | .ok _ => ⟨conversion.records, .ok true⟩
  | .error (.refused refusal) => ⟨conversion.records ++ [.notSimple refusal], .ok false⟩
  | .error failure => ⟨conversion.records, .error failure⟩

end MailFilter
