import MailFilter.Failure
import MailFilter.Filter.Basic
import MailFilter.Text.LetterCase
import MailFilter.Text.Wildcard

/-!
The condition that a test means. A match tag alone does not tell a comparison with the beginning
from one with any pattern, so the comparator that an annotation declares decides, provided that it
agrees with the test.
-/

namespace MailFilter

open Script (Test)

/-- A declared comparator without its exclamation mark, and whether it had one. The empty text
declares nothing. -/
def readDenial : Option String → Option String × Bool
  | none => (none, false)
  | some s =>
    match s.toList with
    | [] => (none, false)
    | '!' :: word => (some (String.ofList word), true)
    | _ => (some s, false)

namespace Script.Test

def underNegation : Test → Test × Bool
  | negated t => (t, true)
  | t => (t, false)

def field : Test → Field
  | present headers => if Value.listHas "X-Attached" headers then .attachments else .unknown
  | header headers _ _ => if Value.listHas "Subject" headers then .subject else .unknown
  | address headers _ _ =>
    if Value.listHas "From" headers then .sender
    else if ["To", "Cc", "Bcc"].any (Value.listHas · headers) then .recipient
    else .unknown
  | other .. => .unknown
  | negated _ => .unknown

def matchTag : Test → Value
  | header _ _ tag => tag
  | address _ _ tag => tag
  | other _ _ _ tag => tag
  | present _ => .null
  | negated _ => .null

def keys : Test → List Value
  | header _ keys _ => keys.getD []
  | address _ keys _ => keys.getD []
  | other _ _ keys _ => keys.getD []
  | present _ => []
  | negated _ => []

/-- The match tag that a test is read with. A test for attachments asks whether there are any. -/
def effectiveTag (t : Test) : Except Failure Value :=
  if t.field = .attachments then .ok (.str "Contains")
  else if t.matchTag.isEmpty then .error (.invalidInput .noMatchTag)
  else .ok t.matchTag

end Script.Test

def Comparator.ofTag (tag : Value) (negated : Bool) : Except Failure Comparator :=
  match tag with
  | .str s =>
    match MatchWord.ofTag? s with
    | some word => .ok ⟨word, negated⟩
    | none => .error (.invalidInput .unknownMatchTag)
  | tag => if tag.isKey then .error (.invalidInput .unknownMatchTag) else .error .wrongKind

/-- A value without the stars that a comparison with the beginning or the end puts around it. -/
def stripStars (strip : List Char → List Char) : Value → Except Failure Value
  | .str s => .ok (.str (String.ofList (strip s.toList)))
  | _ => .error .wrongKind

/-- A comparison with the beginning or the end, which scripts store as a comparison with a pattern.
`proper` is the match tag that such a comparison has by itself. -/
def starred (proper : String) (strip : List Char → List Char) (tag : Value) (values : List Value)
    (negated : Bool) : Except Failure (Comparator × List Value) := do
  if tag ≠ .str "Matches" then
    throw (.unsupported (.comparatorMismatch tag "matches"))
  return (← Comparator.ofTag (.str proper) negated, ← values.mapM (stripStars strip))

/-- The comparator and the values of a test with a match tag, where an annotation declares a word or
the empty one. -/
def resolve (tag : Value) (values : List Value) (negated : Bool) (declared : String) :
    Except Failure (Comparator × List Value) :=
  if declared = "starts" then starred "Starts" Text.dropTrailingStars tag values negated
  else if declared = "ends" then starred "Ends" Text.dropLeadingStars tag values negated
  else do
    if declared ≠ "" then
      match tag with
      | .str s =>
        if Text.lower s ≠ declared then
          throw (.unsupported (.comparatorMismatch tag declared))
      | _ => throw .noMember
    return (← Comparator.ofTag tag negated, values)

/-- The condition that a test means under the comparator that an annotation declares for it. -/
def Condition.ofTest (test : Test) (declared : Option String) : Except Failure Condition := do
  let (word, denied) := readDenial declared
  let word := word.getD ""
  let (inner, negated) := test.underNegation
  if word ≠ "" ∧ denied ≠ negated then
    throw (.unsupported .negationMismatch)
  let tag ← inner.effectiveTag
  let (comparator, values) ← resolve tag inner.keys negated word
  return ⟨inner.field, comparator, values⟩

end MailFilter
