import MailFilter.Table
import Mathlib.Data.List.Induction
import Mathlib.Data.List.Nodup

/-!
# What a table holds

Of pairs put one by one a table keeps each key where it came first, with the value that came last.
So the table from values to keys has each value once, with the last key that has it, and it can be
turned back exactly if no value repeats.
-/
namespace MailFilter.Table

variable {α β : Type}

def keys (t : Table α β) : List α := t.map Prod.fst

def values (t : Table α β) : List β := t.map Prod.snd

def LastWith (t : Table α β) (value : β) (key : α) : Prop :=
  ∃ before after : Table α β, t = before ++ (key, value) :: after ∧ value ∉ after.values

section

variable [DecidableEq α]

theorem eraseDups_concat (xs : List α) (x : α) :
    (xs ++ [x]).eraseDups = if x ∈ xs then xs.eraseDups else xs.eraseDups ++ [x] := by
  rw [List.eraseDups_append]
  split <;> simp [List.removeAll, List.eraseDups_cons, *]

theorem eraseDups_sublist (xs : List α) : xs.eraseDups.Sublist xs := by
  induction xs using List.reverseRecOn with
  | nil => exact List.Sublist.slnil
  | append_singleton xs x ih =>
    rw [eraseDups_concat]
    split
    · exact ih.trans (List.sublist_append_left xs [x])
    · exact ih.append (List.Sublist.refl [x])

theorem nodup_eraseDups (xs : List α) : xs.eraseDups.Nodup := by
  induction xs using List.reverseRecOn with
  | nil => exact List.nodup_nil
  | append_singleton xs x ih =>
    rw [eraseDups_concat]
    split
    · exact ih
    · rename_i h
      rw [← List.concat_eq_append]
      exact ih.concat (mt List.mem_eraseDups.mp h)

theorem lookup_cons_eq_ite (key k : α) (value : β) (t : Table α β) :
    List.lookup k ((key, value) :: t) = if k = key then some value else t.lookup k := by
  rw [List.lookup_cons]
  by_cases hk : k = key
  · simp [hk]
  · rw [if_neg hk, beq_eq_false_iff_ne.mpr hk]

theorem put_of_notMem {t : Table α β} {key : α} (h : key ∉ t.keys) (value : β) :
    t.put key value = t ++ [(key, value)] := by
  induction t with
  | nil => rfl
  | cons first t ih =>
    obtain ⟨hne, h⟩ := not_or.mp (mt List.mem_cons.mpr h)
    rw [put, if_neg (Ne.symm hne), ih h, List.cons_append]

theorem keys_put_of_mem {t : Table α β} {key : α} (h : key ∈ t.keys) (value : β) :
    (t.put key value).keys = t.keys := by
  induction t with
  | nil => exact absurd h List.not_mem_nil
  | cons first t ih =>
    rw [put]
    split
    · rfl
    · rename_i hk
      have h : key ∈ keys t := (List.mem_cons.mp h).resolve_left (Ne.symm hk)
      exact congrArg (first.1 :: ·) (ih h)

theorem keys_put (t : Table α β) (key : α) (value : β) :
    (t.put key value).keys = if key ∈ t.keys then t.keys else t.keys ++ [key] := by
  split
  · rename_i h
    exact keys_put_of_mem h value
  · rename_i h
    rw [put_of_notMem h]
    exact List.map_append

theorem lookup_put (t : Table α β) (key k : α) (value : β) :
    (t.put key value).lookup k = if k = key then some value else t.lookup k := by
  induction t with
  | nil => exact lookup_cons_eq_ite key k value []
  | cons first t ih =>
    obtain ⟨j, v⟩ := first
    rw [put]
    split
    · rename_i hj
      subst hj
      rw [lookup_cons_eq_ite, lookup_cons_eq_ite]
      split <;> rfl
    · rename_i hj
      rw [lookup_cons_eq_ite, lookup_cons_eq_ite, ih]
      by_cases hk : k = j
      · have hne : k ≠ key := fun he => hj (hk.symm.trans he)
        rw [if_pos hk, if_neg hne, if_pos hk]
      · rw [if_neg hk, if_neg hk]

/-- What stays of some pairs: each key where it came first, with the value that came last. -/
structure Holds (t : Table α β) (pairs : List (α × β)) : Prop where
  keys_eq : t.keys = (keys pairs).eraseDups
  lookup_eq : ∀ key, t.lookup key = pairs.reverse.lookup key

theorem Holds.put {t : Table α β} {pairs : List (α × β)} (h : t.Holds pairs) (pair : α × β) :
    (t.put pair.1 pair.2).Holds (pairs ++ [pair]) where
  keys_eq := by
    have hkeys : keys (pairs ++ [pair]) = keys pairs ++ [pair.1] := List.map_append
    rw [keys_put, h.keys_eq, hkeys, eraseDups_concat]
    simp only [List.mem_eraseDups]
  lookup_eq key := by
    rw [lookup_put, h.lookup_eq, List.reverse_concat, lookup_cons_eq_ite]

theorem ofPairs_concat (pairs : List (α × β)) (pair : α × β) :
    ofPairs (pairs ++ [pair]) = (ofPairs pairs).put pair.1 pair.2 :=
  List.foldl_concat _ _ _ _

theorem holds_ofPairs (pairs : List (α × β)) : (ofPairs pairs).Holds pairs := by
  -- From the end, as each pair is put into what those before it have left.
  induction pairs using List.reverseRecOn with
  | nil => exact ⟨rfl, fun _ => rfl⟩
  | append_singleton pairs pair ih =>
    rw [ofPairs_concat]
    exact ih.put pair

theorem Holds.lookup_eq_some_iff {t : Table α β} {pairs : List (α × β)} (h : t.Holds pairs)
    {key : α} {value : β} :
    t.lookup key = some value ↔
      ∃ before after, pairs = before ++ (key, value) :: after ∧ key ∉ keys after := by
  have hkeys : ∀ after : List (α × β),
      (∀ pair ∈ after, (key != pair.1) = true) ↔ key ∉ keys after := by
    intro after
    simp only [bne_iff_ne, keys, List.mem_map, not_exists, not_and]
    exact forall₂_congr fun _ _ => ne_comm
  rw [h.lookup_eq, List.lookup_eq_some_iff]
  constructor
  · rintro ⟨after, before, hp, ha⟩
    refine ⟨before.reverse, after.reverse, ?_, ?_⟩
    · rw [← pairs.reverse_reverse, hp]
      simp
    · rw [← hkeys]
      simpa using ha
  · rintro ⟨before, after, rfl, ha⟩
    refine ⟨after.reverse, before.reverse, by simp, ?_⟩
    rw [← hkeys] at ha
    simpa using ha

theorem mem_of_lookup {t : Table α β} {key : α} {value : β} (h : t.lookup key = some value) :
    (key, value) ∈ t := by
  obtain ⟨before, after, rfl, -⟩ := List.lookup_eq_some_iff.mp h
  simp

theorem forall_mem_put {q : β → Prop} {t : Table α β} (h : ∀ pair ∈ t, q pair.2) (key : α)
    {value : β} (hv : q value) : ∀ pair ∈ t.put key value, q pair.2 := by
  induction t with
  | nil => simpa [put] using hv
  | cons first t ih =>
    rw [List.forall_mem_cons] at h
    rw [put]
    split
    · exact List.forall_mem_cons.mpr ⟨hv, h.2⟩
    · exact List.forall_mem_cons.mpr ⟨h.1, ih h.2⟩

theorem forall_mem_ofPairs {q : β → Prop} {pairs : List (α × β)} (h : ∀ pair ∈ pairs, q pair.2) :
    ∀ pair ∈ ofPairs pairs, q pair.2 := by
  induction pairs using List.reverseRecOn with
  | nil => simp [ofPairs]
  | append_singleton pairs pair ih =>
    rw [List.forall_mem_append] at h
    rw [ofPairs_concat]
    exact forall_mem_put (ih h.1) pair.1 (h.2 pair List.mem_cons_self)

theorem ofPairs_of_nodup {t : Table α β} (h : t.keys.Nodup) : ofPairs t = t := by
  induction t using List.reverseRecOn with
  | nil => rfl
  | append_singleton t pair ih =>
    rw [keys, List.map_append] at h
    obtain ⟨ht, -, hne⟩ := List.nodup_append.mp h
    have hpair : pair.1 ∉ keys t := fun hm => hne pair.1 hm pair.1 List.mem_cons_self rfl
    rw [ofPairs_concat, ih ht, put_of_notMem hpair]

theorem length_ofPairs_le (pairs : List (α × β)) : (ofPairs pairs).length ≤ pairs.length := by
  have h := (eraseDups_sublist (keys pairs)).length_le
  rw [← (holds_ofPairs pairs).keys_eq] at h
  simpa [keys] using h

theorem nodup_of_length_ofPairs {pairs : List (α × β)}
    (h : (ofPairs pairs).length = pairs.length) : (keys pairs).Nodup := by
  have hlen : (keys pairs).eraseDups.length = (keys pairs).length := by
    rw [← (holds_ofPairs pairs).keys_eq]
    simpa [keys] using h
  rw [← (eraseDups_sublist (keys pairs)).eq_of_length hlen]
  exact nodup_eraseDups _

end

theorem keys_map_swap (t : Table α β) : keys (t.map Prod.swap) = t.values := List.map_map

section

variable [DecidableEq β] {t : Table α β} {key : α} {value : β}

theorem inverse_eq (t : Table α β) : t.inverse = ofPairs (t.map Prod.swap) := rfl

theorem keys_inverse (t : Table α β) : t.inverse.keys = t.values.eraseDups := by
  rw [inverse_eq, (holds_ofPairs _).keys_eq, keys_map_swap]

theorem lookup_inverse_eq_some_iff : t.inverse.lookup value = some key ↔ t.LastWith value key := by
  rw [inverse_eq, (holds_ofPairs _).lookup_eq_some_iff]
  constructor
  · rintro ⟨before, after, ht, ha⟩
    refine ⟨before.map Prod.swap, after.map Prod.swap, ?_, ?_⟩
    · have hswap := congrArg (List.map Prod.swap) ht
      rw [List.map_map, Prod.swap_swap_eq, List.map_id] at hswap
      simp [hswap]
    · simpa [keys, values] using ha
  · rintro ⟨before, after, rfl, ha⟩
    exact ⟨before.map Prod.swap, after.map Prod.swap, by simp, by rwa [keys_map_swap]⟩

theorem isSome_lookup_inverse_iff : (t.inverse.lookup value).isSome ↔ value ∈ t.values := by
  rw [← List.mem_eraseDups, ← keys_inverse]
  simp [keys]

theorem mem_of_lookup_inverse (h : t.inverse.lookup value = some key) : (key, value) ∈ t := by
  obtain ⟨before, after, rfl, -⟩ := lookup_inverse_eq_some_iff.mp h
  simp

theorem lookup_inverse_iff_mem (h : t.values.Nodup) :
    t.inverse.lookup value = some key ↔ (key, value) ∈ t := by
  constructor
  · exact mem_of_lookup_inverse
  · intro hm
    obtain ⟨before, after, rfl⟩ := List.append_of_mem hm
    rw [values, List.map_append, List.map_cons] at h
    have ha := (List.nodup_cons.mp (List.nodup_append.mp h).2.1).1
    exact lookup_inverse_eq_some_iff.mpr ⟨before, after, rfl, ha⟩

theorem name_of_lookup_inverse {keys : List α} {name : α → β}
    (h : (inverse (keys.map fun k => (k, name k))).lookup value = some key) : name key = value := by
  obtain ⟨other, -, ho⟩ := List.mem_map.mp (mem_of_lookup_inverse h)
  obtain ⟨rfl, rfl⟩ := Prod.mk.inj ho
  rfl

theorem inverse_of_nodup (h : t.values.Nodup) : t.inverse = t.map Prod.swap := by
  rw [← keys_map_swap] at h
  exact ofPairs_of_nodup h

theorem length_inverse_le (t : Table α β) : t.inverse.length ≤ t.length := by
  have h := length_ofPairs_le (t.map Prod.swap)
  rwa [List.length_map] at h

end

variable [DecidableEq α] [DecidableEq β] {t : Table α β}

/-- Turning a table shortens it where a value repeats, and turning it again adds no pair. -/
theorem nodup_of_inverse_inverse (h : t.inverse.inverse = t) : t.values.Nodup := by
  have hle : t.length ≤ t.inverse.length := by
    have hinv := length_inverse_le t.inverse
    rwa [h] at hinv
  rw [← keys_map_swap]
  apply nodup_of_length_ofPairs
  rw [List.length_map]
  exact Nat.le_antisymm (length_inverse_le t) hle

theorem inverse_inverse_of_nodup (hk : t.keys.Nodup) (hv : t.values.Nodup) :
    t.inverse.inverse = t := by
  rw [inverse_of_nodup hv, inverse_eq, List.map_map, Prod.swap_swap_eq, List.map_id,
    ofPairs_of_nodup hk]

/-- The table from values to keys has each value once, in the order in which the values come first,
and with the last key that has it. Turned twice, a table is what it was exactly if no value
repeats. -/
theorem inverse_of_table (t : Table α β) (distinct : t.keys.Nodup) :
    t.inverse.keys = t.values.eraseDups ∧
    (∀ value, (t.inverse.lookup value).isSome ↔ value ∈ t.values) ∧
    (∀ value key, t.inverse.lookup value = some key ↔ t.LastWith value key) ∧
    (t.inverse.inverse = t ↔ t.values.Nodup) :=
  ⟨keys_inverse t, fun _ => isSome_lookup_inverse_iff, fun _ _ => lookup_inverse_eq_some_iff,
    nodup_of_inverse_inverse, inverse_inverse_of_nodup distinct⟩

/-- Two keys share a value: it stays in front and the later key wins, so one key is lost. -/
theorem inverse_of_table_shared :
    let t : Table String String := [("is", "Is"), ("matches", "Matches"), ("equals", "Is")]
    t.keys.Nodup ∧ t.inverse.keys = ["Is", "Matches"] ∧
      t.inverse.lookup "Is" = some "equals" ∧ t.inverse.inverse ≠ t := by
  intro t
  have distinct : t.keys.Nodup := by decide
  obtain ⟨hkeys, -, hlast, htwice⟩ := inverse_of_table t distinct
  refine ⟨distinct, hkeys.trans (by decide), (hlast "Is" "equals").mpr ?_, mt htwice.mp (by decide)⟩
  exact ⟨[("is", "Is"), ("matches", "Matches")], [], rfl, by decide⟩

end MailFilter.Table
