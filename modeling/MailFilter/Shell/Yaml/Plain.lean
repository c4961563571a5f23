import MailFilter.Json.Reader

/-!
What a word without quotes stands for: a constant, a whole number in one of five notations, a number
with a point, a date, or itself. Moments and numbers with a point in base sixty have no value here.
-/

namespace MailFilter.Yaml

open Number (Binary64)

def constants : List (List String × Value) := [
  (["", "~", "null", "Null", "NULL"], .null),
  (["yes", "Yes", "YES", "true", "True", "TRUE", "on", "On", "ON"], .bool true),
  (["no", "No", "NO", "false", "False", "FALSE", "off", "Off", "OFF"], .bool false),
  ([".inf", ".Inf", ".INF", "+.inf", "+.Inf", "+.INF"], .float (.infinite false)),
  (["-.inf", "-.Inf", "-.INF"], .float (.infinite true)),
  ([".nan", ".NaN", ".NAN"], .float .nan)]

def splitSign : List Char → Bool × List Char
  | '-' :: rest => (true, rest)
  | '+' :: rest => (false, rest)
  | cs => (false, cs)

/-- The number that digits of a base stand for. Underscores among them mean nothing. -/
def numeral (base : Nat) (digits : List Char) : Nat :=
  (digits.filterMap Json.hexValue?).foldl (fun n d => base * n + d) 0

def isNumeral (base : Nat) (digits : List Char) : Bool :=
  digits.all fun c => c = '_' || (Json.hexValue? c).any (· < base)

/-- Whether a word is the later part of a number in base sixty: one digit, or two with the first
below six. -/
def isSixtieth : List Char → Bool
  | [a] => a.isDigit
  | [a, b] => '0' ≤ a && a ≤ '5' && b.isDigit
  | _ => false

def splitColons : List Char → List (List Char)
  | [] => [[]]
  | c :: rest =>
    if c = ':' then [] :: splitColons rest
    else match splitColons rest with
      | part :: parts => (c :: part) :: parts
      | [] => [[c]]

def isLeadingNumeral : List Char → Bool
  | c :: rest => c.isDigit && c ≠ '0' && isNumeral 10 rest
  | [] => false

def natural? (cs : List Char) : Option Nat :=
  match cs with
  | ['0'] => some 0
  | '0' :: 'b' :: digits =>
    if !digits.isEmpty && isNumeral 2 digits then some (numeral 2 digits) else none
  | '0' :: 'x' :: digits =>
    if !digits.isEmpty && isNumeral 16 digits then some (numeral 16 digits) else none
  | '0' :: digits => if isNumeral 8 digits then some (numeral 8 digits) else none
  | _ =>
    match splitColons cs with
    | first :: rest =>
      if isLeadingNumeral first && rest.all isSixtieth then
        some (rest.foldl (fun n part => 60 * n + numeral 10 part) (numeral 10 first))
      else none
    | [] => none

/-- The exponent at the end of a number with a point, which must have a sign: zero when there is
none. -/
def pointExponent? : List Char → Option Int
  | [] => some 0
  | e :: sign :: digits =>
    if (e = 'e' || e = 'E') && (sign = '+' || sign = '-') && !digits.isEmpty &&
        digits.all Char.isDigit then
      let n : Int := numeral 10 digits
      some (if sign = '-' then -n else n)
    else none
  | _ => none

/-- The number that a word with a point stands for. In front of the point there may be digits and a
sign, or neither. -/
def pointNumber? (cs : List Char) : Option Value :=
  let isDigit (c : Char) : Bool := c.isDigit || c = '_'
  let (negative, unsigned) := splitSign cs
  let whole := unsigned.takeWhile isDigit
  match unsigned.dropWhile isDigit with
  | '.' :: behind =>
    let fraction := behind.takeWhile isDigit
    let shaped := match whole, fraction with
      | w :: _, _ => w.isDigit
      | [], f :: _ => f.isDigit && cs = unsigned
      | [], [] => false
    if shaped then
      (pointExponent? (behind.dropWhile isDigit)).map fun e =>
        .float (Binary64.ofDecimal negative (numeral 10 (whole ++ fraction))
          (e - (fraction.filter Char.isDigit).length))
    else none
  | _ => none

def isPointSixtieth (cs : List Char) : Bool :=
  let unsigned := (splitSign cs).2
  match unsigned.dropWhile (· ≠ '.') with
  | '.' :: fraction =>
    isNumeral 10 fraction &&
      match splitColons (unsigned.takeWhile (· ≠ '.')) with
      | first :: part :: parts =>
        (first.head?.any Char.isDigit) && isNumeral 10 first && (part :: parts).all isSixtieth
      | _ => false
  | _ => false

def daysOf (year month : Nat) : Nat :=
  if month = 2 then
    if year % 4 = 0 ∧ (year % 100 ≠ 0 ∨ year % 400 = 0) then 29 else 28
  else if month = 4 ∨ month = 6 ∨ month = 9 ∨ month = 11 then 30
  else if 1 ≤ month ∧ month ≤ 12 then 31
  else 0

def behindDigits? (least most : Nat) (mark : Char → Bool) (cs : List Char) : Option (List Char) :=
  let count := (cs.takeWhile Char.isDigit).length
  match cs.dropWhile Char.isDigit with
  | c :: rest => if least ≤ count && count ≤ most && mark c then some rest else none
  | [] => none

def isMoment (cs : List Char) : Bool :=
  (do
    let cs ← behindDigits? 4 4 (· = '-') cs
    let cs ← behindDigits? 1 2 (· = '-') cs
    let cs ← behindDigits? 1 2 (fun c => c = 'T' || c = 't' || c = ' ' || c = '\t') cs
    let cs := cs.dropWhile fun c => c = ' ' || c = '\t'
    let cs ← behindDigits? 1 2 (· = ':') cs
    behindDigits? 2 2 (· = ':') cs).isSome

def isDate (cs : List Char) : Bool :=
  match cs with
  | [a, b, c, d, '-', e, f, '-', g, h] => [a, b, c, d, e, f, g, h].all Char.isDigit
  | _ => false

def date? (year month day : Nat) (word : String) : Option Value :=
  if 1 ≤ year ∧ 1 ≤ day ∧ day ≤ daysOf year month then
    some (.foreign ⟨s!"datetime.date({year}, {month}, {day})", word, false, none⟩)
  else none

/-- What a word stands for. The marks for merging and for default values stand for nothing. -/
def plainValue? (word : String) : Option Value :=
  if word = "=" ∨ word = "<<" ∨ isMoment word.toList ∨ isPointSixtieth word.toList then none
  else if isDate word.toList then
    let number (start count : Nat) : Nat := numeral 10 ((word.toList.drop start).take count)
    date? (number 0 4) (number 5 2) (number 8 2) word
  else
    match constants.find? fun (names, _) => names.contains word with
    | some (_, v) => some v
    | none =>
      let (negative, digits) := splitSign word.toList
      match natural? digits with
      | some n => some (.int (if negative then -(n : Int) else n))
      | none => some ((pointNumber? word.toList).getD (.str word))

end MailFilter.Yaml
