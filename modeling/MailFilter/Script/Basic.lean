import MailFilter.Value.Basic

/-!
Statements of a mail filtering script after parsing. Names of headers, keys and folders are values,
since a script may hold anything there; the statements themselves are known by their kind.
-/

namespace MailFilter.Script

open MailFilter (Value)

/-- A test of a message. `present` asks whether headers exist; the others compare headers with keys
under a match tag, which is null when the test has none. -/
inductive Test where
  | present (headers : List Value)
  | header (headers : List Value) (keys : Option (List Value)) (matchTag : Value)
  | address (headers : List Value) (keys : Option (List Value)) (matchTag : Value)
  | other (tag : String) (headers : List Value) (keys : Option (List Value)) (matchTag : Value)
  | negated (test : Test)
  deriving DecidableEq, Inhabited

inductive Guard where
  | group (tag : String) (tests : Option (List Test))
  | single (test : Test)
  deriving DecidableEq, Inhabited

inductive Action where
  | keep
  | discard
  | fileInto (folder : Value)
  | addFlag (flags : List Value)
  | vacation (qualified : Bool) (message : Value)
  | other (tag : String)
  deriving DecidableEq, Inhabited

structure Rule where
  guard : Option Guard
  consequent : Option (List Action)
  alternative : Option (List Action)
  deriving DecidableEq, Inhabited

inductive Statement where
  | require (extensions : List Value)
  | comment (text : Value)
  | rule (rule : Rule)
  | other (tag : String)
  deriving DecidableEq, Inhabited

inductive Part where
  | statement
  | guard
  | consequent
  | tests
  deriving DecidableEq, Repr, Inhabited

structure MainRule where
  tag : String
  tests : List Test
  actions : List Action
  alternative : Option (List Action)
  deriving DecidableEq, Inhabited

def MainRule.toRule (r : MainRule) : Rule where
  guard := some (.group r.tag (some r.tests))
  consequent := some r.actions
  alternative := r.alternative

def Rule.complete? (r : Rule) : Except Part MainRule :=
  match r.guard, r.consequent with
  | none, _ => .error .guard
  | some _, none => .error .consequent
  | some (.group tag (some tests)), some actions => .ok ⟨tag, tests, actions, r.alternative⟩
  | some (.group _ none), some _ => .error .tests
  | some (.single _), some _ => .error .tests

end MailFilter.Script
