import MailFilter.Annotations.Reading
import MailFilter.Filter.Basic
import MailFilter.Logged

/-!
The records that a conversion writes as it goes on.
-/

namespace MailFilter

inductive Record where
  | undeclared (extensions : List String)
  | selected (tests actions : Nat) (annotated : Bool)
  | annotated (annotations : Annotations)
  | condition (index : Nat) (condition : Condition)
  | effects (effects : Effects)
  | converted (operator : Operator) (conditions : Nat)
  | notSimple (refusal : Refusal)
  deriving DecidableEq

inductive Severity where
  | debug
  | info
  deriving DecidableEq, Repr

inductive Stage where
  | selection
  | annotations
  | conditions
  | effects
  | conversion
  deriving DecidableEq, Repr

abbrev Converting := Logged Record Failure

namespace Record

def severity : Record → Severity
  | notSimple _ => .info
  | _ => .debug

def stage : Record → Stage
  | undeclared _ => .selection
  | selected .. => .selection
  | annotated _ => .annotations
  | condition .. => .conditions
  | effects _ => .effects
  | converted .. => .conversion
  | notSimple _ => .conversion

def flag (b : Bool) : String := (Value.bool b).literal

def message : Record → String
  | undeclared names => "Missing required extensions: " ++ String.intercalate ", " names
  | selected tests actions hasComment =>
    s!"Main node found ({tests} tests, {actions} actions, annotation: " ++
      (if hasComment then "yes)" else "no)")
  | annotated a =>
    "Annotation: type=" ++ Text.quoted ((a.operator.map Operator.token).getD "") ++
      " comparators=" ++ (Value.arr (a.comparators.map .str)).literal
  | condition index c =>
    let field := if c.field = .unknown then "<unknown>" else c.field.token
    s!"Condition {index}: {field} {c.comparator.token} " ++ (Value.arr c.values).literal
  | effects e =>
    "Actions: file_into=" ++ (Value.arr e.folders).literal ++
      " mark=Mark(read=" ++ flag e.mark.read ++ ", starred=" ++ flag e.mark.starred ++ ")" ++
      " vacation=" ++ flag e.reply.isSome
  | converted operator conditions =>
    s!"Converted filter: {operator.token} with {conditions} condition(s)"
  | notSimple refusal => "Not a simple filter: " ++ refusal.message

end Record

end MailFilter
