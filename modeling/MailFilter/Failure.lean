import MailFilter.Script.Basic
import MailFilter.Value.Display

/-!
Why a script is no simple filter. It is refused because it is malformed, or because it says what a
simple filter cannot say. Apart from that, a conversion fails on a value of a kind that a step
cannot work with.
-/

namespace MailFilter

open Script (Part)

structure UnknownWord where
  keyword : String
  word : String
  deriving DecidableEq, Repr, Inhabited

/-- The script is malformed, or declares something unknown. -/
inductive InvalidInput where
  | noMainRule (lacking : Part)
  | requirements
  | unknownAnnotations (errors : List UnknownWord)
  | unknownOperator (tag : String)
  | noMatchTag
  | unknownMatchTag
  deriving DecidableEq

/-- The script says something that a simple filter cannot. -/
inductive Unsupported where
  | notList
  | notObject (v : Value)
  | operatorMismatch
  | negationMismatch
  | comparatorMismatch (found : Value) (expected : String)
  | action (tag : String)
  deriving DecidableEq

inductive Refusal where
  | invalidInput (cause : InvalidInput)
  | unsupported (cause : Unsupported)
  deriving DecidableEq

/-- A conversion that did not come to its end: the script was refused, or a value was of the wrong
kind. With `wrongKind` it could not be iterated, matched, stripped or looked up; with `noMember` it
had no entries or no letter case. -/
inductive Failure where
  | refused (refusal : Refusal)
  | wrongKind
  | noMember
  deriving DecidableEq

@[match_pattern] def Failure.invalidInput (cause : InvalidInput) : Failure :=
  .refused (.invalidInput cause)

@[match_pattern] def Failure.unsupported (cause : Unsupported) : Failure :=
  .refused (.unsupported cause)

def UnknownWord.message (e : UnknownWord) : String := e.keyword ++ " \"" ++ e.word ++ "\""

def Script.Part.name : Part → String
  | .statement => "missing"
  | .guard => "If"
  | .consequent => "Then"
  | .tests => "Tests"

def InvalidInput.message : InvalidInput → String
  | .noMainRule part => s!"Invalid tree representation: {part.name} level"
  | .requirements => "Invalid tree representation: requirements"
  | .unknownAnnotations errors => "Unknown " ++ String.intercalate ", " (errors.map (·.message))
  | .unknownOperator tag => s!"Invalid operator: {tag}"
  | .noMatchTag => "Missing match type"
  | .unknownMatchTag => "Invalid match keys"

def Unsupported.message : Unsupported → String
  | .notList => "Array expected."
  | .notObject v => s!"Unsupported node: {v.literal}"
  | .operatorMismatch => "Comment and computed type incompatible"
  | .negationMismatch => "Comment and computed negation incompatible"
  | .comparatorMismatch found expected =>
    s!"Comment and computed comparator incompatible: {found.display} instead of {expected}"
  | .action tag => s!"Unsupported filter representation: {tag}"

def Refusal.kind : Refusal → String
  | .invalidInput _ => "InvalidInputError"
  | .unsupported _ => "UnsupportedRepresentationError"

def Refusal.message : Refusal → String
  | .invalidInput cause => cause.message
  | .unsupported cause => cause.message

end MailFilter
