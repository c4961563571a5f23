/-!
A place in the text of a configuration document. Indentation decides how its parts nest, so a place
knows its line and its column.
-/

namespace MailFilter.Yaml

structure Cursor where
  rest : List Char
  line : Nat
  column : Nat
  deriving DecidableEq, Repr

namespace Cursor

def next (c : Cursor) : Cursor :=
  match c.rest with
  | [] => c
  | '\n' :: rest => ⟨rest, c.line + 1, 0⟩
  | _ :: rest => ⟨rest, c.line, c.column + 1⟩

def advance : Nat → Cursor → Cursor
  | 0, c => c
  | n + 1, c => advance n c.next

def startsBlank : List Char → Bool
  | [] => true
  | c :: _ => c = ' ' || c = '\t' || c = '\n'

/-- The place behind spaces, line ends and comments. `comment` says whether the text begins inside
of a comment. -/
def skipFrom (line : Nat) (column : Nat) (comment : Bool) : List Char → Cursor
  | [] => ⟨[], line, column⟩
  | c :: rest =>
    if c = '\n' then skipFrom (line + 1) 0 false rest
    else if comment then skipFrom line (column + 1) true rest
    else if c = ' ' then skipFrom line (column + 1) false rest
    else if c = '#' then skipFrom line (column + 1) true rest
    else ⟨c :: rest, line, column⟩

def skip (c : Cursor) : Cursor := skipFrom c.line c.column false c.rest

def atEnd (c : Cursor) : Bool := c.rest.isEmpty

def atMark (c : Cursor) (mark : Char) : Bool :=
  c.column = 0 && c.rest.take 3 = [mark, mark, mark] && startsBlank (c.rest.drop 3)

def atMarker (c : Cursor) : Bool := c.atMark '-' || c.atMark '.'

def atIndicator (c : Cursor) (indicator : Char) : Bool :=
  match c.rest with
  | i :: rest => i = indicator && startsBlank rest
  | [] => false

end Cursor

end MailFilter.Yaml
