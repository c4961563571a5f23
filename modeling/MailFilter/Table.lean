/-!
Tables that remember the order of their keys. A key that comes again keeps its place and takes the
later value.
-/

namespace MailFilter

/-- Pairs of a key and a value in the order in which the keys came, one pair for each key. -/
abbrev Table (α β : Type) := List (α × β)

namespace Table

variable {α β : Type}

/-- Adds a pair: a new key goes to the end, a known one keeps its place and takes the value. -/
def put [DecidableEq α] (key : α) (value : β) : Table α β → Table α β
  | [] => [(key, value)]
  | (k, v) :: rest => if k = key then (k, value) :: rest else (k, v) :: put key value rest

def ofPairs [DecidableEq α] (pairs : List (α × β)) : Table α β :=
  pairs.foldl (fun t (k, v) => t.put k v) []

/-- The table from values to keys. Of several keys with one value the last one stays. -/
def inverse [DecidableEq β] (t : Table α β) : Table β α :=
  ofPairs (t.map fun (k, v) => (v, k))

end Table

end MailFilter
