/-!
Sets of characters, given as ascending ranges of code points.
-/

namespace MailFilter.Text

structure CharSet where
  ranges : List (Nat × Nat)
  deriving DecidableEq, Repr

def CharSet.contains (s : CharSet) (c : Char) : Bool :=
  s.ranges.any fun (first, last) => first ≤ c.toNat && c.toNat ≤ last

end MailFilter.Text
