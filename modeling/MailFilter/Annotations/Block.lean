import MailFilter.Text.Blank

/-!
The form of a comment that holds annotations: an opening line, one line or more with an annotation
each, and a closing line. Nothing may stand before or behind it.
-/

namespace MailFilter.Annotations

open Text (isBlank)

def afterKeyword? : List Char → Option (List Char)
  | 't' :: 'y' :: 'p' :: 'e' :: rest => some rest
  | 'c' :: 'o' :: 'm' :: 'p' :: 'a' :: 'r' :: 'a' :: 't' :: 'o' :: 'r' :: rest => some rest
  | _ => none

/-- The text behind the rest of a line, which is not empty and holds no carriage return, and the
line end. -/
def afterBody? (cs : List Char) : Option (List Char) :=
  match cs.takeWhile (· ≠ '\r'), cs.dropWhile (· ≠ '\r') with
  | _ :: _, '\r' :: '\n' :: rest => some rest
  | _, _ => none

/-- The text behind one annotation line: a star and a keyword, a blank before each, and a body. -/
def afterLine? : List Char → Option (List Char)
  | a :: '*' :: b :: '@' :: rest =>
    if isBlank a && isBlank b then afterKeyword? rest >>= afterBody? else none
  | _ => none

def closes : List Char → Bool
  | [a, '*', '/'] => isBlank a
  | _ => false

/-- Whether a text is a number of annotation lines and the closing line. The fuel bounds the number
of lines. -/
def linesAndClose : Nat → List Char → Bool
  | 0, cs => closes cs
  | fuel + 1, cs =>
    match afterLine? cs with
    | some rest => linesAndClose fuel rest
    | none => closes cs

def opening : List Char := ['/', '*', '*', '\r', '\n']

def isBlock (text : String) : Bool :=
  match opening.isPrefixOf? text.toList with
  | some body =>
    match afterLine? body with
    | some rest => linesAndClose rest.length rest
    | none => false
  | none => false

end MailFilter.Annotations
