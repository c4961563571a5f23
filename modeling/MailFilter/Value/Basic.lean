import MailFilter.Number.Binary64
import MailFilter.Table

/-!
Values of a data format: constants, numbers, texts, arrays, and objects with their entries in order.
Whole numbers and floating-point numbers are different values that may be equal in number. Texts
consist of whole characters. A configuration may hold other values as well, such as dates.
-/

namespace MailFilter

open Number (Binary64)

/-- A value that no JSON text holds: a date, or a table with numbers for names. Nothing looks into
it. All that is asked of it is how it is shown, inside a container and outside, whether it counts as
absent, and the lines of its JSON form, if it has one. -/
structure Foreign where
  literal : String
  display : String
  isEmpty : Bool
  json : Option (List String)
  deriving DecidableEq, Repr, Inhabited

inductive Value where
  | null
  | bool (b : Bool)
  | int (n : Int)
  | float (x : Binary64)
  | str (s : String)
  | arr (items : List Value)
  | obj (fields : List (String × Value))
  | foreign (x : Foreign)
  deriving Inhabited

namespace Value

/-- Null, false, zero, and whatever is empty count as absent. -/
def isEmpty : Value → Bool
  | null => true
  | bool b => !b
  | int n => n == 0
  | float x => x.isZero
  | str s => s == ""
  | arr items => items.isEmpty
  | obj fields => fields.isEmpty
  | foreign x => x.isEmpty

def asInt? : Value → Option Int
  | bool b => some (if b then 1 else 0)
  | int n => some n
  | _ => none

def sameScalar (v w : Value) : Bool :=
  match v, w with
  | null, null => true
  | str s, str t => s == t
  | float x, float y => x.same y
  | foreign x, foreign y => x == y
  | float x, w => match w.asInt? with | some n => x.isInt n | none => false
  | v, float y => match v.asInt? with | some n => y.isInt n | none => false
  | v, w => match v.asInt?, w.asInt? with | some m, some n => m == n | _, _ => false

mutual

def same : Value → Value → Bool
  | arr vs, arr ws => sameItems vs ws
  | obj fs, obj gs => fs.length == gs.length && sameFields fs gs
  | v, w => sameScalar v w

def sameItems : List Value → List Value → Bool
  | [], [] => true
  | v :: vs, w :: ws => same v w && sameItems vs ws
  | _, _ => false

def sameFields : List (String × Value) → List (String × Value) → Bool
  | [], _ => true
  | (k, v) :: fs, gs =>
    (match gs.lookup k with | some w => same v w | none => false) && sameFields fs gs

end

def listHas (s : String) (items : List Value) : Bool := items.any fun v => same v (str s)

def isKey : Value → Bool
  | arr _ => false
  | obj _ => false
  | _ => true

def ofEntries (entries : List (String × Value)) : Value := obj (Table.ofPairs entries)

mutual

def decEq : (v w : Value) → Decidable (v = w)
  | null, null => isTrue rfl
  | bool a, bool b => decidable_of_iff (a = b) (by simp)
  | int a, int b => decidable_of_iff (a = b) (by simp)
  | float a, float b => decidable_of_iff (a = b) (by simp)
  | str a, str b => decidable_of_iff (a = b) (by simp)
  | foreign a, foreign b => decidable_of_iff (a = b) (by simp)
  | arr a, arr b => match decEqItems a b with
    | isTrue h => isTrue (by rw [h])
    | isFalse h => isFalse (by simpa using h)
  | obj a, obj b => match decEqFields a b with
    | isTrue h => isTrue (by rw [h])
    | isFalse h => isFalse (by simpa using h)
  | null, bool _ | null, int _ | null, float _ | null, str _ | null, arr _ | null, obj _
  | null, foreign _
  | bool _, null | bool _, int _ | bool _, float _ | bool _, str _ | bool _, arr _
  | bool _, obj _ | bool _, foreign _
  | int _, null | int _, bool _ | int _, float _ | int _, str _ | int _, arr _ | int _, obj _
  | int _, foreign _
  | float _, null | float _, bool _ | float _, int _ | float _, str _ | float _, arr _
  | float _, obj _ | float _, foreign _
  | str _, null | str _, bool _ | str _, int _ | str _, float _ | str _, arr _ | str _, obj _
  | str _, foreign _
  | arr _, null | arr _, bool _ | arr _, int _ | arr _, float _ | arr _, str _ | arr _, obj _
  | arr _, foreign _
  | obj _, null | obj _, bool _ | obj _, int _ | obj _, float _ | obj _, str _ | obj _, arr _
  | obj _, foreign _
  | foreign _, null | foreign _, bool _ | foreign _, int _ | foreign _, float _
  | foreign _, str _ | foreign _, arr _ | foreign _, obj _ =>
    isFalse (by simp)

def decEqItems : (v w : List Value) → Decidable (v = w)
  | [], [] => isTrue rfl
  | [], _ :: _ => isFalse (by simp)
  | _ :: _, [] => isFalse (by simp)
  | a :: as, b :: bs => match decEq a b, decEqItems as bs with
    | isTrue h, isTrue k => isTrue (by rw [h, k])
    | isFalse h, _ => isFalse (by simp [h])
    | _, isFalse k => isFalse (by simp [k])

def decEqFields : (v w : List (String × Value)) → Decidable (v = w)
  | [], [] => isTrue rfl
  | [], _ :: _ => isFalse (by simp)
  | _ :: _, [] => isFalse (by simp)
  | (k, a) :: as, (l, b) :: bs =>
    if hk : k = l then
      match decEq a b, decEqFields as bs with
      | isTrue h, isTrue h' => isTrue (by rw [hk, h, h'])
      | isFalse h, _ => isFalse (by simp [h])
      | _, isFalse h => isFalse (by simp [h])
    else isFalse (by simp [hk])

end

instance : DecidableEq Value := decEq

end Value

end MailFilter
