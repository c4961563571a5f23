import MailFilter.Number.Binary64

/-!
The shortest decimal that reads back as a given number, nearest to it among those of its length,
and the text of a number built from it: positional for decimal exponents from -4 to 15, with a
power of ten otherwise.
-/

namespace MailFilter.Number

/-- Decimal digits, and the place of the point counted from the first digit: the number
`0.d₁d₂… * 10 ^ point`. -/
structure Decimal where
  digits : List Char
  point : Int
  deriving DecidableEq, Repr

namespace Binary64

/-- The interval of reals that round to `significand * 2 ^ exponent`, in units of
`2 ^ (exponent - 2)`: the number itself, and its two ends. Below a power of two the neighbours
stand twice as close. -/
def interval (significand : Nat) (exponent : Int) : Nat × Nat × Nat :=
  let below := if significand = Nat.pow 2 52 ∧ minExponent < exponent then 1 else 2
  (4 * significand, 4 * significand - below, 4 * significand + 2)

def candidates (num den : Nat) (k : Int) : List Nat :=
  let (p, q) := powerOfTen k
  let below := num * q / (den * p)
  [below, below + 1]

/-- The multiple of `10 ^ k` that rounds to `significand * 2 ^ exponent` and is nearest to it; of
two at equal distance, the even one. -/
def nearestOnGrid? (significand : Nat) (exponent : Int) (k : Int) : Option Nat :=
  let (value, low, high) := interval significand exponent
  let (p, q) := powerOfTwo (exponent - 2)
  let (tp, tq) := powerOfTen k
  let closed := significand % 2 = 0
  -- all three are compared over the common denominator `q * tq`
  let scaled (n : Nat) : Nat := n * p * tq
  let place (c : Nat) : Nat := c * tp * q
  let inside (c : Nat) : Bool :=
    if closed then scaled low ≤ place c && place c ≤ scaled high
    else scaled low < place c && place c < scaled high
  let distance (c : Nat) : Nat :=
    (place c - scaled value) + (scaled value - place c)
  match (candidates (value * p) q k).filter inside with
  | [a, b] =>
    if distance a < distance b then some a
    else if distance b < distance a then some b
    else if a % 2 = 0 then some a else some b
  | [a] => some a
  | _ => none

def decimalPoint (num den : Nat) : Int :=
  let guess : Int := ((num.log2 : Int) - den.log2) * 30103 / 100000 - 1
  let rec search : Nat → Int → Int
    | 0, k => k
    | fuel + 1, k =>
      let (p, q) := powerOfTen k
      if num * q < den * p then k else search fuel (k + 1)
  search 5 guess

/-- The first of the grids `10 ^ k, 10 ^ (k - 1), …` that has a multiple in the interval. -/
def firstOnGrids? (significand : Nat) (exponent : Int) : Nat → Int → Option (Nat × Int)
  | 0, _ => none
  | grids + 1, k =>
    match nearestOnGrid? significand exponent k with
    | some c => some (c, k)
    | none => firstOnGrids? significand exponent grids (k - 1)

def shortest (significand : Nat) (exponent : Int) : Decimal :=
  let (p, q) := powerOfTwo exponent
  match firstOnGrids? significand exponent 17 (decimalPoint (significand * p) q - 1) with
  | some (c, k) =>
    let digits := Nat.toDigits 10 c
    ⟨(digits.reverse.dropWhile (· = '0')).reverse, k + digits.length⟩
  | none => ⟨['0'], 1⟩

end Binary64

def Decimal.positional (d : Decimal) : List Char :=
  if d.point ≤ 0 then
    '0' :: '.' :: List.replicate (-d.point).toNat '0' ++ d.digits
  else
    let whole := d.point.toNat
    if d.digits.length ≤ whole then
      d.digits ++ List.replicate (whole - d.digits.length) '0' ++ ['.', '0']
    else d.digits.take whole ++ '.' :: d.digits.drop whole

/-- One digit before the point, and an exponent of at least two digits with its sign. -/
def Decimal.scientific (d : Decimal) : List Char :=
  let exponent := d.point - 1
  let mantissa := match d.digits with
    | [] => ['0']
    | [first] => [first]
    | first :: rest => first :: '.' :: rest
  let digits := Nat.toDigits 10 exponent.natAbs
  mantissa ++ ['e', if exponent < 0 then '-' else '+'] ++
    List.replicate (2 - digits.length) '0' ++ digits

def Decimal.text (d : Decimal) : List Char :=
  if -4 < d.point ∧ d.point ≤ 16 then d.positional else d.scientific

def Binary64.text : Binary64 → String
  | .finite negative m e =>
    let magnitude := if m = 0 then ['0', '.', '0'] else (Binary64.shortest m e).text
    String.ofList (if negative then '-' :: magnitude else magnitude)
  | .infinite negative => if negative then "-inf" else "inf"
  | .nan => "nan"

end MailFilter.Number
