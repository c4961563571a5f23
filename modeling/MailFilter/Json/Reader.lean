import MailFilter.Value.Basic

/-!
Reading a value from JSON text. A text that is no JSON is rejected with its first fault and the
place of that fault. Of two entries with one name the later value stays, at the earlier place.
Strings consist of whole characters: one with an escape for half of a character, which JSON permits,
has no value and is rejected too.
-/

namespace MailFilter.Json

open Number (Binary64)

inductive Fault where
  | byteOrderMark
  | expectedValue
  | expectedName
  | expectedColon
  | expectedComma
  | extraData
  | openString
  | controlCharacter
  | badEscape
  | badCodeEscape
  | halfCharacter
  deriving DecidableEq, Repr

structure Reject where
  fault : Fault
  left : Nat
  deriving DecidableEq, Repr

abbrev Reading := Except Reject

def skipSpace (cs : List Char) : List Char :=
  cs.dropWhile fun c => c = ' ' || c = '\t' || c = '\n' || c = '\r'

def hexValue? (c : Char) : Option Nat :=
  if '0' ≤ c ∧ c ≤ '9' then some (c.toNat - '0'.toNat)
  else if 'a' ≤ c ∧ c ≤ 'f' then some (c.toNat - 'a'.toNat + 10)
  else if 'A' ≤ c ∧ c ≤ 'F' then some (c.toNat - 'A'.toNat + 10)
  else none

def hexCode? (a b c d : Char) : Option Nat := do
  let high := 0x10 * (← hexValue? a) + (← hexValue? b)
  let low := 0x10 * (← hexValue? c) + (← hexValue? d)
  return 0x100 * high + low

def escaped? : Char → Option Char
  | '"' => some '"'
  | '\\' => some '\\'
  | '/' => some '/'
  | 'b' => some '\x08'
  | 'f' => some '\x0c'
  | 'n' => some '\n'
  | 'r' => some '\r'
  | 't' => some '\t'
  | _ => none

/-- The code units of a string up to its closing quote. The string opens `opening` characters
before the end of the text. -/
def readUnits (opening : Nat) : List Char → Reading (List Nat × List Char)
  | [] => .error ⟨.openString, opening⟩
  | '"' :: rest => .ok ([], rest)
  | '\\' :: 'u' :: rest =>
    match rest with
    | a :: b :: c :: d :: e :: behind =>
      match hexCode? a b c d with
      | some n => do
        let (units, rest) ← readUnits opening (e :: behind)
        return (n :: units, rest)
      | none => .error ⟨.badCodeEscape, rest.length + 1⟩
    | _ => .error ⟨.badCodeEscape, rest.length + 1⟩
  | ['\\'] => .error ⟨.openString, opening⟩
  | '\\' :: c :: rest =>
    match escaped? c with
    | some c => do
      let (units, rest) ← readUnits opening rest
      return (c.toNat :: units, rest)
    | none => .error ⟨.badEscape, rest.length + 2⟩
  | c :: rest =>
    if c.toNat < 0x20 then .error ⟨.controlCharacter, rest.length + 1⟩
    else do
      let (units, rest) ← readUnits opening rest
      return (c.toNat :: units, rest)

/-- The characters of code units: a high half followed by a low half is one character. No other half
is one. -/
def joinUnits? : List Nat → Option (List Char)
  | [] => some []
  | n :: rest =>
    if 0xD800 ≤ n ∧ n < 0xDC00 then
      match rest with
      | m :: rest =>
        if 0xDC00 ≤ m ∧ m < 0xE000 then
          (joinUnits? rest).map
            (Char.ofNat (0x10000 + (n - 0xD800) * 0x400 + (m - 0xDC00)) :: ·)
        else none
      | [] => none
    else if 0xDC00 ≤ n ∧ n < 0xE000 then none
    else (joinUnits? rest).map (Char.ofNat n :: ·)

def readString (cs : List Char) : Reading (String × List Char) := do
  let (units, rest) ← readUnits (cs.length + 1) cs
  match joinUnits? units with
  | some s => return (String.ofList s, rest)
  | none => .error ⟨.halfCharacter, cs.length + 1⟩

def digitsValue (digits : List Char) : Nat :=
  digits.foldl (fun n c => 10 * n + (c.toNat - '0'.toNat)) 0

/-- The digits of a whole number: a zero alone, or a run that starts with another digit. -/
def readWhole? : List Char → Option (List Char × List Char)
  | '0' :: rest => some (['0'], rest)
  | cs =>
    let digits := cs.takeWhile Char.isDigit
    if digits.isEmpty then none else some (digits, cs.dropWhile Char.isDigit)

/-- The digits behind a point; without a digit the point is not part of the number. -/
def readFraction (cs : List Char) : List Char × List Char :=
  match cs with
  | '.' :: rest =>
    let digits := rest.takeWhile Char.isDigit
    if digits.isEmpty then ([], cs) else (digits, rest.dropWhile Char.isDigit)
  | _ => ([], cs)

def readExponent (cs : List Char) : Option Int × List Char :=
  match cs with
  | e :: rest =>
    if e = 'e' ∨ e = 'E' then
      let (negative, rest) := match rest with
        | '-' :: r => (true, r)
        | '+' :: r => (false, r)
        | _ => (false, rest)
      let digits := rest.takeWhile Char.isDigit
      if digits.isEmpty then (none, cs)
      else
        let n : Int := digitsValue digits
        (some (if negative then -n else n), rest.dropWhile Char.isDigit)
    else (none, cs)
  | [] => (none, cs)

def readNumber? (cs : List Char) : Option (Value × List Char) :=
  let (negative, digits) := match cs with
    | '-' :: rest => (true, rest)
    | _ => (false, cs)
  match readWhole? digits with
  | none => none
  | some (whole, rest) =>
    let (fraction, rest) := readFraction rest
    let (exponent, rest) := readExponent rest
    if fraction.isEmpty && exponent.isNone then
      let n : Int := digitsValue whole
      some (.int (if negative then -n else n), rest)
    else
      some (.float (Binary64.ofDecimal negative (digitsValue (whole ++ fraction))
        (exponent.getD 0 - fraction.length)), rest)

def constants : List (String × Value) := [
  ("null", .null), ("true", .bool true), ("false", .bool false),
  ("NaN", .float .nan), ("Infinity", .float (.infinite false)),
  ("-Infinity", .float (.infinite true))]

def readScalar (cs : List Char) : Reading (Value × List Char) :=
  match constants.findSome? fun (word, v) => (word.toList.isPrefixOf? cs).map (v, ·) with
  | some found => .ok found
  | none => match readNumber? cs with
    | some found => .ok found
    | none => .error ⟨.expectedValue, cs.length⟩

mutual

def readValue : Nat → List Char → Reading (Value × List Char)
  | 0, cs => .error ⟨.expectedValue, cs.length⟩
  | fuel + 1, cs =>
    match cs with
    | '"' :: rest => do
      let (s, rest) ← readString rest
      return (.str s, rest)
    | '[' :: rest =>
      match skipSpace rest with
      | ']' :: rest => .ok (.arr [], rest)
      | rest => do
        let (items, rest) ← readItems fuel rest
        return (.arr items, rest)
    | '\x7b' :: rest =>
      match skipSpace rest with
      | '\x7d' :: rest => .ok (.obj [], rest)
      | rest => do
        let (entries, rest) ← readEntries fuel rest
        return (.ofEntries entries, rest)
    | _ => readScalar cs

def readItems : Nat → List Char → Reading (List Value × List Char)
  | 0, cs => .error ⟨.expectedValue, cs.length⟩
  | fuel + 1, cs => do
    let (v, rest) ← readValue fuel cs
    match skipSpace rest with
    | ']' :: rest => return ([v], rest)
    | ',' :: rest =>
      let (items, rest) ← readItems fuel (skipSpace rest)
      return (v :: items, rest)
    | rest => .error ⟨.expectedComma, rest.length⟩

def readEntries : Nat → List Char → Reading (List (String × Value) × List Char)
  | 0, cs => .error ⟨.expectedName, cs.length⟩
  | fuel + 1, cs =>
    match cs with
    | '"' :: rest => do
      let (key, rest) ← readString rest
      match skipSpace rest with
      | ':' :: rest =>
        let (v, rest) ← readValue fuel (skipSpace rest)
        match skipSpace rest with
        | '\x7d' :: rest => return ([(key, v)], rest)
        | ',' :: rest =>
          let (entries, rest) ← readEntries fuel (skipSpace rest)
          return ((key, v) :: entries, rest)
        | rest => .error ⟨.expectedComma, rest.length⟩
      | rest => .error ⟨.expectedColon, rest.length⟩
    | _ => .error ⟨.expectedName, cs.length⟩

end

def readText (cs : List Char) : Except Reject Value :=
  match cs with
  | '\ufeff' :: _ => .error ⟨.byteOrderMark, cs.length⟩
  | _ => do
    let (v, rest) ← readValue (2 * cs.length + 2) (skipSpace cs)
    match skipSpace rest with
    | [] => return v
    | rest => .error ⟨.extraData, rest.length⟩

structure Error where
  fault : Fault
  line : Nat
  column : Nat
  offset : Nat
  deriving DecidableEq, Repr

def Reject.locate (r : Reject) (cs : List Char) : Error :=
  let before := cs.take (cs.length - r.left)
  { fault := r.fault
    line := before.count '\n' + 1
    column := (before.reverse.takeWhile (· ≠ '\n')).length + 1
    offset := before.length }

def read (s : String) : Except Error Value :=
  (readText s.toList).mapError (·.locate s.toList)

def Fault.message : Fault → String
  | .byteOrderMark => "Unexpected UTF-8 BOM (decode using utf-8-sig)"
  | .expectedValue => "Expecting value"
  | .expectedName => "Expecting property name enclosed in double quotes"
  | .expectedColon => "Expecting ':' delimiter"
  | .expectedComma => "Expecting ',' delimiter"
  | .extraData => "Extra data"
  | .openString => "Unterminated string starting at"
  | .controlCharacter => "Invalid control character at"
  | .badEscape => "Invalid \\escape"
  | .badCodeEscape => "Invalid \\uXXXX escape"
  | .halfCharacter => "Half of a character in the string starting at"

def Error.message (e : Error) : String :=
  s!"{e.fault.message}: line {e.line} column {e.column} (char {e.offset})"

end MailFilter.Json
