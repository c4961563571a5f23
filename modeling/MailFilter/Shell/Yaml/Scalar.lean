import MailFilter.Shell.Yaml.Cursor
import MailFilter.Shell.Yaml.Plain

/-!
Scalars of a configuration document: words without quotes, and texts in single or double quotes.
Each of them may go on over several lines, which are joined by a space, or by the line ends of the
empty lines between them.
-/

namespace MailFilter.Yaml

open Cursor (startsBlank)

def joint (emptyLines : Nat) : List Char :=
  if emptyLines = 0 then [' '] else List.replicate emptyLines '\n'

/-- Passes the spaces and tabs at the beginning of lines and counts the empty lines. A quoted text
does not reach beyond its document. -/
def emptyLines? : Nat → Cursor → Option (Nat × Cursor)
  | 0, _ => none
  | fuel + 1, c =>
    if c.atMarker then none
    else
      let margin := (c.rest.takeWhile fun x => x = ' ' || x = '\t').length
      let c := c.advance margin
      match c.rest with
      | '\n' :: _ => (emptyLines? fuel c.next).map fun (n, c) => (n + 1, c)
      | _ => some (0, c)

def escaped? : Char → Option Char
  | '0' => some '\x00'
  | 'a' => some '\x07'
  | 'b' => some '\x08'
  | 't' => some '\t'
  | '\t' => some '\t'
  | 'n' => some '\n'
  | 'v' => some '\x0b'
  | 'f' => some '\x0c'
  | 'r' => some '\r'
  | 'e' => some '\x1b'
  | ' ' => some ' '
  | '"' => some '"'
  | '\\' => some '\\'
  | '/' => some '/'
  | 'N' => some '\u0085'
  | '_' => some '\u00a0'
  | 'L' => some '\u2028'
  | 'P' => some '\u2029'
  | _ => none

def codeLength? : Char → Option Nat
  | 'x' => some 2
  | 'u' => some 4
  | 'U' => some 8
  | _ => none

def charOfCode? (digits : List Char) : Option Char :=
  if digits.all fun c => (Json.hexValue? c).isSome then
    let n := numeral 16 digits
    if n.isValidChar then some (Char.ofNat n) else none
  else none

def quotedFrom (mark : Char) : Nat → Cursor → Option (List Char × Cursor)
  | 0, _ => none
  | fuel + 1, c =>
    match c.rest with
    | [] => none
    | x :: rest =>
      if x = mark then
        if mark = '\'' ∧ rest.head? = some '\'' then
          (quotedFrom mark fuel (c.advance 2)).map fun (s, c) => ('\'' :: s, c)
        else some ([], c.next)
      else if x = '\\' ∧ mark = '"' then
        match rest with
        | [] => none
        | '\n' :: _ => do
          let (n, c) ← emptyLines? c.rest.length (c.advance 2)
          let (s, c) ← quotedFrom mark fuel c
          return (List.replicate n '\n' ++ s, c)
        | letter :: digits =>
          match codeLength? letter with
          | some length => do
            if digits.length < length then none
            let char ← charOfCode? (digits.take length)
            let (s, c) ← quotedFrom mark fuel (c.advance (2 + length))
            return (char :: s, c)
          | none => do
            let char ← escaped? letter
            let (s, c) ← quotedFrom mark fuel (c.advance 2)
            return (char :: s, c)
      else if x = ' ' ∨ x = '\t' ∨ x = '\n' then
        let space := c.rest.takeWhile fun x => x = ' ' || x = '\t'
        let c := c.advance space.length
        match c.rest with
        | [] => none
        | '\n' :: _ => do
          let (n, c) ← emptyLines? c.rest.length c.next
          let (s, c) ← quotedFrom mark fuel c
          return (joint n ++ s, c)
        | _ => (quotedFrom mark fuel c).map fun (s, c) => (space ++ s, c)
      else (quotedFrom mark fuel c.next).map fun (s, c) => (x :: s, c)

def isFlowMark (c : Char) : Bool := c = ',' || c = '[' || c = ']' || c = '\x7b' || c = '\x7d'

/-- The part of a word up to a blank, a colon that ends a key, or, in brackets, a mark of their
structure. -/
def plainChunk (flow : Bool) : List Char → List Char
  | [] => []
  | c :: rest =>
    if startsBlank [c] then []
    else if c = ':' && (startsBlank rest || (flow && (rest.head?.any isFlowMark))) then []
    else if flow && (isFlowMark c || c = '?') then []
    else c :: plainChunk flow rest

/-- Passes what lies between two parts of a word: spaces, or a line end with empty lines. Gives the
text that stands for it, and none where the word ends. -/
def plainGap? (c : Cursor) : Option (List Char × Cursor) :=
  let space := c.rest.takeWhile (· = ' ')
  let c := c.advance space.length
  match c.rest with
  | '\n' :: _ => lines c.rest.length 0 c.next
  | _ => if space.isEmpty then none else some (space, c)
where
  /-- Counts the empty lines. -/
  lines : Nat → Nat → Cursor → Option (List Char × Cursor)
    | 0, _, _ => none
    | fuel + 1, n, c =>
      if c.atMarker then none
      else
        let c := c.advance (c.rest.takeWhile (· = ' ')).length
        match c.rest with
        | '\n' :: _ => lines fuel (n + 1) c.next
        | _ => some (joint n, c)

/-- A word without quotes, and the place behind it. Outside of brackets its later lines stand at
`indent` at least. -/
def plainFrom (flow : Bool) (indent : Int) : Nat → Cursor → List Char × Cursor
  | 0, c => ([], c)
  | fuel + 1, c =>
    let chunk := plainChunk flow c.rest
    let behind := c.advance chunk.length
    match plainGap? behind with
    | none => (chunk, behind)
    | some (gap, c) =>
      if c.rest.head? = some '#' || (!flow && (c.column : Int) < indent) ||
          (plainChunk flow c.rest).isEmpty then (chunk, behind)
      else
        let (more, c) := plainFrom flow indent fuel c
        (chunk ++ gap ++ more, c)

def isReserved (c : Char) : Bool :=
  ['#', '&', '*', '!', '|', '>', '\'', '"', '%', '@', '\x60'].contains c

def startsPlain (flow : Bool) : List Char → Bool
  | [] => false
  | c :: rest =>
    if c = '-' then !startsBlank rest
    else if c = '?' || c = ':' then !flow && !startsBlank rest
    else !startsBlank [c] && !isFlowMark c && !isReserved c

def scalar? (flow : Bool) (indent : Int) (c : Cursor) : Option (Value × Cursor) :=
  match c.rest with
  | '"' :: _ => quoted '"'
  | '\'' :: _ => quoted '\''
  | cs =>
    if startsPlain flow cs then
      let (word, behind) := plainFrom flow indent cs.length c
      (plainValue? (String.ofList word)).map (·, behind)
    else none
where
  quoted (mark : Char) : Option (Value × Cursor) :=
    (quotedFrom mark (c.rest.length + 1) c.next).map fun (s, c) => (.str (String.ofList s), c)

end MailFilter.Yaml
