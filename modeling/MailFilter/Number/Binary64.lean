/-!
Floating-point numbers with 53 significant bits, held as exact integers. A number is read from a
decimal by rounding to the nearest, ties to the even neighbour.
-/

namespace MailFilter.Number

/-- A number `± significand * 2 ^ exponent`, an infinity, or no number. A finite number is in
lowest form when `significand < 2 ^ 53` and either `2 ^ 52 ≤ significand` or `exponent = -1074`. -/
inductive Binary64 where
  | finite (negative : Bool) (significand : Nat) (exponent : Int)
  | infinite (negative : Bool)
  | nan
  deriving DecidableEq, Repr, Inhabited

namespace Binary64

def minExponent : Int := -1074

def maxExponent : Int := 971

def powerOfTwo (e : Int) : Nat × Nat :=
  if 0 ≤ e then (Nat.pow 2 e.toNat, 1) else (1, Nat.pow 2 (-e).toNat)

def powerOfTen (e : Int) : Nat × Nat :=
  if 0 ≤ e then (Nat.pow 10 e.toNat, 1) else (1, Nat.pow 10 (-e).toNat)

def roundQuotient (num den : Nat) : Nat :=
  let q := num / den
  let twice := 2 * (num % den)
  if den < twice ∨ (twice = den ∧ q % 2 = 1) then q + 1 else q

def exponentOf (num den : Nat) : Int :=
  let k : Int := (num.log2 : Int) - den.log2
  let (p, q) := powerOfTwo k
  let e := if den * p ≤ num * q then k - 52 else k - 53
  max e minExponent

def ofRatio (negative : Bool) (num den : Nat) : Binary64 :=
  if num = 0 then finite negative 0 minExponent
  else
    let e := exponentOf num den
    let (p, q) := powerOfTwo e
    let m := roundQuotient (num * q) (den * p)
    let (m, e) := if m = Nat.pow 2 53 then (Nat.pow 2 52, e + 1) else (m, e)
    if maxExponent < e then infinite negative else finite negative m e

/-- The number nearest to `± digits * 10 ^ exponent`. Beyond `10 ^ 400` and below `10 ^ -400` the
answer is known without the power. -/
def ofDecimal (negative : Bool) (digits : Nat) (exponent : Int) : Binary64 :=
  if digits = 0 ∨ exponent + digits.log2 + 1 < -400 then finite negative 0 minExponent
  else if 400 < exponent then infinite negative
  else
    let (p, q) := powerOfTen exponent
    ofRatio negative (digits * p) q

def ratio? : Binary64 → Option (Int × Nat)
  | finite negative m e =>
    let (p, q) := powerOfTwo e
    let n : Int := (m * p : Nat)
    some (if negative then -n else n, q)
  | _ => none

def isZero : Binary64 → Bool
  | finite _ m _ => m == 0
  | _ => false

/-- Numeric equality: the two zeros are equal, and what is no number equals nothing. -/
def same : Binary64 → Binary64 → Bool
  | finite s m e, finite t n f => (m == 0 && n == 0) || (s == t && m == n && e == f)
  | infinite s, infinite t => s == t
  | _, _ => false

def isInt (x : Binary64) (n : Int) : Bool :=
  match x.ratio? with
  | some (p, q) => p == n * q
  | none => false

end Binary64

end MailFilter.Number
