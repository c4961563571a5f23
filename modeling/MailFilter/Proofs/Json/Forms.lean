import MailFilter.Json.Printer
import MailFilter.Json.Reader
import MailFilter.Proofs.Script.Origins

/-!
# Values that have JSON forms

A value that was read from JSON text can be written as JSON again, and so can its parts.
-/
namespace MailFilter.Json

open FirstFailure

theorem itemsHaveForm_iff {items : List Value} :
    itemsHaveForm items = true ↔ ∀ v ∈ items, hasForm v = true := by
  induction items with
  | nil => simp [itemsHaveForm]
  | cons v rest ih => simp [itemsHaveForm, ih]

theorem fieldsHaveForm_iff {fields : List (String × Value)} :
    fieldsHaveForm fields = true ↔ ∀ field ∈ fields, hasForm field.2 = true := by
  induction fields with
  | nil => simp [fieldsHaveForm]
  | cons field rest ih => simp [fieldsHaveForm, ih]

theorem hasForm_arr {items : List Value} :
    hasForm (.arr items) = true ↔ ∀ v ∈ items, hasForm v = true := by
  rw [hasForm, itemsHaveForm_iff]

theorem hasForm_obj {fields : List (String × Value)} :
    hasForm (.obj fields) = true ↔ ∀ field ∈ fields, hasForm field.2 = true := by
  rw [hasForm, fieldsHaveForm_iff]

theorem inherited_hasForm : Inherited fun v => hasForm v = true where
  null := rfl
  str _ := rfl
  item h hv := hasForm_arr.mp h _ hv
  field h hf := hasForm_obj.mp h _ hf

theorem hasForm_of_readNumber? {cs rest : List Char} {v : Value}
    (h : readNumber? cs = some (v, rest)) : hasForm v = true := by
  unfold readNumber? at h
  split at h
  split at h
  · cases h
  · split at h
    split at h
    split at h
    all_goals
      cases h
      rfl

theorem hasForm_of_readScalar {cs rest : List Char} {v : Value}
    (h : readScalar cs = .ok (v, rest)) : hasForm v = true := by
  unfold readScalar at h
  split at h
  · rename_i found hfound
    obtain ⟨⟨word, w⟩, hw, he⟩ := List.exists_of_findSome?_eq_some hfound
    obtain ⟨_, _, rfl⟩ := Option.map_eq_some_iff.mp he
    cases h
    have hall : ∀ c ∈ constants, hasForm c.2 = true := by decide
    exact hall _ hw
  · split at h
    · rename_i found hfound
      cases h
      exact hasForm_of_readNumber? hfound
    · cases h

theorem hasForm_ofEntries {entries : List (String × Value)}
    (h : ∀ e ∈ entries, hasForm e.2 = true) : hasForm (.ofEntries entries) = true :=
  hasForm_obj.mpr (Table.forall_mem_ofPairs (q := fun v => hasForm v = true) h)

theorem hasForm_of_reading (fuel : Nat) :
    (∀ cs v rest, readValue fuel cs = .ok (v, rest) → hasForm v = true) ∧
    (∀ cs items rest, readItems fuel cs = .ok (items, rest) → ∀ v ∈ items, hasForm v = true) ∧
    (∀ cs entries rest, readEntries fuel cs = .ok (entries, rest) →
      ∀ e ∈ entries, hasForm e.2 = true) := by
  induction fuel with
  | zero =>
    refine ⟨?_, ?_, ?_⟩
    all_goals
      intro cs found rest h
      cases h
  | succ fuel ih =>
    obtain ⟨hvalue, hitems, hentries⟩ := ih
    refine ⟨?_, ?_, ?_⟩
    · intro cs v rest h
      unfold readValue at h
      split at h
      · obtain ⟨⟨s, behind⟩, -, h⟩ := bind_eq_ok.mp h
        cases h
        rfl
      · split at h
        · cases h
          rfl
        · obtain ⟨⟨items, behind⟩, hread, h⟩ := bind_eq_ok.mp h
          cases h
          exact hasForm_arr.mpr (hitems _ _ _ hread)
      · split at h
        · cases h
          rfl
        · obtain ⟨⟨entries, behind⟩, hread, h⟩ := bind_eq_ok.mp h
          cases h
          exact hasForm_ofEntries (hentries _ _ _ hread)
      · exact hasForm_of_readScalar h
    · intro cs items rest h
      unfold readItems at h
      obtain ⟨⟨v, behind⟩, hread, h⟩ := bind_eq_ok.mp h
      have hv := hvalue _ _ _ hread
      dsimp only at h
      split at h
      · cases h
        simpa using hv
      · obtain ⟨⟨others, last⟩, hrest, h⟩ := bind_eq_ok.mp h
        cases h
        exact List.forall_mem_cons.mpr ⟨hv, hitems _ _ _ hrest⟩
      · cases h
    · intro cs entries rest h
      unfold readEntries at h
      split at h
      · obtain ⟨⟨key, behind⟩, -, h⟩ := bind_eq_ok.mp h
        dsimp only at h
        split at h
        · obtain ⟨⟨v, behind⟩, hread, h⟩ := bind_eq_ok.mp h
          have hv := hvalue _ _ _ hread
          dsimp only at h
          split at h
          · cases h
            simpa using hv
          · obtain ⟨⟨others, last⟩, hrest, h⟩ := bind_eq_ok.mp h
            cases h
            exact List.forall_mem_cons.mpr ⟨hv, hentries _ _ _ hrest⟩
          · cases h
        · cases h
      · cases h

theorem hasForm_of_read {text : String} {v : Value} (h : read text = .ok v) :
    hasForm v = true := by
  unfold read at h
  cases hread : readText text.toList with
  | error e => simp [hread, Except.mapError] at h
  | ok w =>
    obtain rfl : w = v := by simpa [hread, Except.mapError] using h
    unfold readText at hread
    split at hread
    · cases hread
    · obtain ⟨⟨w, rest⟩, hvalue, hread⟩ := bind_eq_ok.mp hread
      dsimp only at hread
      split at hread
      · cases hread
        exact (hasForm_of_reading _).1 _ _ _ hvalue
      · cases hread

end MailFilter.Json
