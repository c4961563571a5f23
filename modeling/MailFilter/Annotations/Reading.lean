import MailFilter.Failure
import MailFilter.Filter.Vocabulary
import MailFilter.Text.Blank
import MailFilter.Text.Word

/-!
Reading the annotations of a comment. Each line of the comment is searched for the first complete
annotation: a blank, an at sign, a name, a blank, and the rest of the line. The type annotation
names the operator, each comparator annotation the comparator of one condition.
-/

namespace MailFilter

structure Annotations where
  operator : Option Operator
  comparators : List String
  deriving DecidableEq, Repr, Inhabited

namespace Annotations

open Text (isBlank isWord)

def pieces : List Char → List (List Char)
  | '\r' :: '\n' :: ' ' :: '*' :: rest => [] :: pieces rest
  | c :: rest =>
    match pieces rest with
    | piece :: more => (c :: piece) :: more
    | [] => [[c]]
  | [] => [[]]

/-- The rest of a line, without a final line feed. No other line feed may stand in it. -/
def lineValue? (cs : List Char) : Option (List Char) :=
  match cs.dropWhile (· ≠ '\n') with
  | [] => some cs
  | ['\n'] => some (cs.takeWhile (· ≠ '\n'))
  | _ => none

def annotationAt? : List Char → Option (List Char × List Char)
  | a :: '@' :: rest =>
    if isBlank a then
      match rest.dropWhile isWord with
      | b :: value =>
        if isBlank b then (lineValue? value).map (rest.takeWhile isWord, ·) else none
      | [] => none
    else none
  | _ => none

def find? : List Char → Option (List Char × List Char)
  | [] => none
  | c :: rest => (annotationAt? (c :: rest)).or (find? rest)

def spellDefault : List Char → List Char
  | 'd' :: 'e' :: 'f' :: 'a' :: 'u' :: 'l' :: 't' :: rest =>
    'c' :: 'o' :: 'n' :: 't' :: 'a' :: 'i' :: 'n' :: 's' :: rest
  | c :: rest => c :: spellDefault rest
  | [] => []

structure Reading where
  annotations : Annotations
  errors : List UnknownWord
  deriving DecidableEq, Repr, Inhabited

def Reading.start : Reading := ⟨⟨none, []⟩, []⟩

/-- Takes in one annotation. A type replaces the one before; a comparator is added. -/
def Reading.add (r : Reading) (name value : String) : Reading :=
  if name = "type" then
    match annotationWords.lookup value with
    | some operator => { r with annotations.operator := some operator }
    | none => { r with errors := r.errors ++ [⟨name, value⟩] }
  else if name = "comparator" then
    let comparator := String.ofList (spellDefault value.toList)
    { r with annotations.comparators := r.annotations.comparators ++ [comparator] }
  else r

def Reading.addLine (r : Reading) (line : List Char) : Reading :=
  match find? line with
  | some (name, value) => r.add (String.ofList name) (String.ofList value)
  | none => r

def gather (text : String) : Reading := (pieces text.toList).foldl Reading.addLine Reading.start

def read (text : String) : Except Failure Annotations :=
  let reading := gather text
  if reading.errors.isEmpty then .ok reading.annotations
  else .error (.invalidInput (.unknownAnnotations reading.errors))

end Annotations

end MailFilter
