import MailFilter.Script.Reading

/-!
# Trees of plain values

A tree in which nothing was read before holds the value it was made from, entry by entry.
-/
namespace MailFilter

def Value.entry (name : String) (fields : List (String × Value)) : Value :=
  (fields.lookup name).getD .null

inductive Script.Visit where
  | statement
  | guard
  | test
  | action
  deriving DecidableEq, Repr

namespace Script.Source

theorem ofItems_eq_map (items : List Value) : ofItems items = items.map ofValue := by
  induction items with
  | nil => rfl
  | cons v rest ih => rw [ofItems, ih, List.map_cons]

mutual

@[simp] theorem toValue_ofValue : (v : Value) → (ofValue v).toValue = v
  | .null | .bool _ | .int _ | .float _ | .str _ | .foreign _ => rfl
  | .arr items => congrArg Value.arr (toItems_ofItems items)
  | .obj fields => congrArg Value.obj (toFields_ofFields fields)

theorem toItems_ofItems : (items : List Value) → toItems (ofItems items) = items
  | [] => rfl
  | v :: rest => by rw [ofItems, toItems, toValue_ofValue v, toItems_ofItems rest]

theorem toFields_ofFields : (fields : List (String × Value)) → toFields (ofFields fields) = fields
  | [] => rfl
  | (k, v) :: rest => by rw [ofFields, toFields, toValue_ofValue v, toFields_ofFields rest]

end

theorem lookup_ofFields (name : String) (fields : List (String × Value)) :
    (ofFields fields).lookup name = (fields.lookup name).map ofValue := by
  induction fields with
  | nil => rfl
  | cons field rest ih =>
    obtain ⟨k, v⟩ := field
    rw [ofFields, List.lookup_cons, List.lookup_cons]
    cases name == k with
    | true => rfl
    | false => exact ih

theorem entry_ofFields (name : String) (fields : List (String × Value)) :
    entry name (ofFields fields) = ofValue (Value.entry name fields) := by
  rw [entry, Value.entry, lookup_ofFields]
  cases fields.lookup name <;> rfl

theorem tagOf_ofFields (fields : List (String × Value)) :
    tagOf (ofFields fields) = Value.entry "Type" fields := by
  rw [tagOf, entry_ofFields, toValue_ofValue]

def without (name : String) (fields : List (String × Source)) : List (String × Source) :=
  fields.filter fun field => field.1 ≠ name

theorem lookup_without (removed name : String) (fields : List (String × Source)) :
    (without removed fields).lookup name = if name = removed then none else fields.lookup name := by
  induction fields with
  | nil => simp [without]
  | cons field rest ih =>
    obtain ⟨k, s⟩ := field
    unfold without at ih ⊢
    by_cases hk : k = removed
    · rw [List.filter_cons_of_neg (by simpa using hk), ih, List.lookup_cons]
      split
      · rfl
      · rename_i hn
        rw [beq_eq_false_iff_ne.mpr (hk ▸ hn)]
    · rw [List.filter_cons_of_pos (by simpa using hk), List.lookup_cons, List.lookup_cons, ih]
      cases hn : name == k with
      | true =>
        obtain rfl := eq_of_beq hn
        exact (if_neg hk).symm
      | false => rfl

theorem entry_without_self (name : String) (fields : List (String × Source)) :
    entry name (without name fields) = null := by
  rw [entry, lookup_without, if_pos rfl]
  rfl

theorem entry_without {removed name : String} (h : name ≠ removed)
    (fields : List (String × Source)) :
    entry name (without removed fields) = entry name fields := by
  rw [entry, lookup_without, if_neg h, entry]

end Script.Source

def Script.guardOf : Script.Source → Except Failure (Option Script.Guard)
  | .null => .ok none
  | s => (Script.Guard.ofSource s).map some

theorem Script.Rule.ofFields_eq (fields : List (String × Script.Source)) :
    Script.Rule.ofFields fields =
      Script.guardOf (Script.Source.entry "If" fields) >>= fun guard =>
      Script.actionsOf (Script.Source.entry "Then" fields) >>= fun consequent =>
      Script.actionsOf (Script.Source.entry "Else" fields) >>= fun alternative =>
      .ok ⟨guard, consequent, alternative⟩ := by
  unfold Script.Rule.ofFields Script.guardOf
  cases Script.Source.entry "If" fields <;> rfl

/-- A negation is read from its entry for a test, which is null when it has none. -/
theorem Script.Test.ofInner_eq (fields : List (String × Script.Source)) :
    Script.Test.ofInner fields = Script.Test.ofSource (Script.Source.entry "Test" fields) := by
  induction fields with
  | nil => rfl
  | cons field rest ih =>
    obtain ⟨name, s⟩ := field
    rw [Script.Test.ofInner, ih]
    by_cases h : name = "Test"
    · simp [h, Script.Source.entry]
    · have hb : ("Test" == name) = false := beq_eq_false_iff_ne.mpr (Ne.symm h)
      simp [h, Script.Source.entry, List.lookup_cons, hb]

end MailFilter
