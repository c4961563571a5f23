import MailFilter.Script.Basic

/-!
Trees that scripts are read from: values in which some statements may stand in read form already.
-/

namespace MailFilter.Script

open Number (Binary64)

/-- A value whose parts may be statements, guards, tests or actions that were read before. -/
inductive Source where
  | null
  | bool (b : Bool)
  | int (n : Int)
  | float (x : Binary64)
  | str (s : String)
  | arr (items : List Source)
  | obj (fields : List (String × Source))
  | foreign (x : Foreign)
  | statement (statement : Statement)
  | guard (guard : Guard)
  | test (test : Test)
  | action (action : Action)
  deriving Inhabited

namespace Source

mutual

def ofValue : Value → Source
  | .null => null
  | .bool b => bool b
  | .int n => int n
  | .float x => float x
  | .str s => str s
  | .arr items => arr (ofItems items)
  | .obj fields => obj (ofFields fields)
  | .foreign x => foreign x

def ofItems : List Value → List Source
  | [] => []
  | v :: rest => ofValue v :: ofItems rest

def ofFields : List (String × Value) → List (String × Source)
  | [] => []
  | (k, v) :: rest => (k, ofValue v) :: ofFields rest

end

mutual

/-- The value of a tree. Parts that were read before stand where statements, tests and actions
stand, never inside a value that is carried along, and count as null here. -/
def toValue : Source → Value
  | null => .null
  | bool b => .bool b
  | int n => .int n
  | float x => .float x
  | str s => .str s
  | arr items => .arr (toItems items)
  | obj fields => .obj (toFields fields)
  | foreign x => .foreign x
  | statement _ => .null
  | guard _ => .null
  | test _ => .null
  | action _ => .null

def toItems : List Source → List Value
  | [] => []
  | s :: rest => toValue s :: toItems rest

def toFields : List (String × Source) → List (String × Value)
  | [] => []
  | (k, s) :: rest => (k, toValue s) :: toFields rest

end

def entry (name : String) (fields : List (String × Source)) : Source :=
  (fields.lookup name).getD null

end Source

end MailFilter.Script
