import MailFilter.Logged
import Mathlib.Data.List.Forall2

/-!
# Computations that stop at their first failure

A list that is read part by part gives a result exactly when every part does. Otherwise its failure
is that of the first part that has one. Computations that write records obey the laws of a monad.
-/
namespace MailFilter.FirstFailure

variable {ε α β : Type}

@[simp] theorem pure_eq_ok (a : α) : (pure a : Except ε α) = .ok a := rfl
@[simp] theorem throw_eq_error (e : ε) : (throw e : Except ε α) = .error e := rfl
@[simp] theorem ok_bind (a : α) (f : α → Except ε β) : (Except.ok a >>= f) = f a := rfl
@[simp] theorem error_bind (e : ε) (f : α → Except ε β) : (Except.error e >>= f) = .error e := rfl

@[simp] theorem outcome_lift {ρ : Type} (x : Except ε α) : (liftM x : Logged ρ ε α).outcome = x :=
  rfl

@[simp] theorem outcome_write {ρ : Type} (r : ρ) :
    (Logged.write r : Logged ρ ε Unit).outcome = .ok () :=
  rfl

/-- Of the demands that fail, some is first. -/
theorem exists_first {ι : Type} (rank : ι → Nat) {p : ι → Prop} {i : ι} (h : ¬ p i) :
    ∃ j, (∀ k, rank k < rank j → p k) ∧ ¬ p j := by
  induction i using (measure rank).wf.induction with
  | h i ih =>
    by_cases hf : ∀ k, rank k < rank i → p k
    · exact ⟨i, hf, h⟩
    · simp only [not_forall] at hf
      obtain ⟨k, hk, hn⟩ := hf
      exact ih k hk hn

theorem bind_eq_ok {x : Except ε α} {f : α → Except ε β} {b : β} :
    (x >>= f) = .ok b ↔ ∃ a, x = .ok a ∧ f a = .ok b := by
  cases x <;> simp

theorem bind_eq_error {x : Except ε α} {f : α → Except ε β} {e : ε} :
    (x >>= f) = .error e ↔ x = .error e ∨ ∃ a, x = .ok a ∧ f a = .error e := by
  cases x <;> simp

theorem map_eq_ok {x : Except ε α} {f : α → β} {b : β} :
    x.map f = .ok b ↔ ∃ a, x = .ok a ∧ f a = b := by
  cases x <;> simp [Except.map]

theorem mapM_eq_ok {f : α → Except ε β} {xs : List α} {ys : List β} :
    xs.mapM f = .ok ys ↔ List.Forall₂ (fun x y => f x = .ok y) xs ys := by
  induction xs generalizing ys with
  | nil => cases ys <;> simp
  | cons x xs ih =>
    rw [List.mapM_cons, bind_eq_ok]
    constructor
    · rintro ⟨y, hy, h⟩
      obtain ⟨rest, hr, h⟩ := bind_eq_ok.mp h
      cases h
      exact .cons hy (ih.mp hr)
    · rintro (_ | ⟨hy, hr⟩)
      exact ⟨_, hy, bind_eq_ok.mpr ⟨_, ih.mpr hr, rfl⟩⟩

theorem mapM_eq_ok_map {f : α → Except ε β} {g : α → β} {xs : List α}
    (h : ∀ x ∈ xs, f x = .ok (g x)) : xs.mapM f = .ok (xs.map g) := by
  rw [mapM_eq_ok, List.forall₂_map_right_iff, List.forall₂_same]
  exact h

theorem getElem?_of_forall₂ {R : α → β → Prop} {xs : List α} {ys : List β}
    (h : List.Forall₂ R xs ys) {i : Nat} {y : β} (hy : ys[i]? = some y) :
    ∃ x, xs[i]? = some x ∧ R x y := by
  induction h generalizing i with
  | nil => cases hy
  | @cons x z xs ys hr _ ih =>
    cases i with
    | zero => exact ⟨x, rfl, Option.some.inj hy ▸ hr⟩
    | succ i => exact ih hy

theorem exists_mem_of_mapM {f : α → Except ε β} {xs : List α} {ys : List β}
    (h : xs.mapM f = .ok ys) {y : β} (hy : y ∈ ys) : ∃ x ∈ xs, f x = .ok y := by
  obtain ⟨i, hi⟩ := List.mem_iff_getElem?.mp hy
  obtain ⟨x, hx, hread⟩ := getElem?_of_forall₂ (mapM_eq_ok.mp h) hi
  exact ⟨x, List.mem_of_getElem? hx, hread⟩

theorem forall₂_iff_getElem? {R : α → β → Prop} {xs : List α} {ys : List β} :
    List.Forall₂ R xs ys ↔
      xs.length = ys.length ∧ ∀ (i : Nat) x y, xs[i]? = some x → ys[i]? = some y → R x y := by
  rw [List.forall₂_iff_get]
  refine and_congr_right fun _ => ⟨?_, ?_⟩
  · intro h i x y hx hy
    obtain ⟨hi, rfl⟩ := List.getElem?_eq_some_iff.mp hx
    obtain ⟨hj, rfl⟩ := List.getElem?_eq_some_iff.mp hy
    exact h i hi hj
  · intro h i hi hj
    exact h i _ _ (List.getElem?_eq_getElem hi) (List.getElem?_eq_getElem hj)

theorem forall_mem_iff_of_forall₂ {R : α → β → Prop} {p : α → Prop} {q : β → Prop}
    (hr : ∀ x y, R x y → (q y ↔ p x)) {xs : List α} {ys : List β} (h : List.Forall₂ R xs ys) :
    (∀ y ∈ ys, q y) ↔ ∀ x ∈ xs, p x := by
  induction h with
  | nil => simp
  | cons hxy _ ih => simp only [List.forall_mem_cons, hr _ _ hxy, ih]

theorem exists_mapM_eq_ok {f : α → Except ε β} {xs : List α} :
    (∃ ys, xs.mapM f = .ok ys) ↔ ∀ (i : Nat) (x : α), xs[i]? = some x → ∃ y, f x = .ok y := by
  induction xs with
  | nil => simp
  | cons x xs ih =>
    rw [List.mapM_cons]
    constructor
    · rintro ⟨ys, h⟩ i z hz
      obtain ⟨y, hy, h⟩ := bind_eq_ok.mp h
      obtain ⟨rest, hr, -⟩ := bind_eq_ok.mp h
      cases i with
      | zero => exact ⟨y, Option.some.inj hz ▸ hy⟩
      | succ i => exact ih.mp ⟨rest, hr⟩ i z hz
    · intro h
      obtain ⟨y, hy⟩ := h 0 x rfl
      obtain ⟨rest, hr⟩ := ih.mpr fun i z hz => h (i + 1) z hz
      exact ⟨y :: rest, by rw [hy, ok_bind, hr]; rfl⟩

/-- The failure of a list is that of a part before which all parts give a result. -/
theorem mapM_eq_error {f : α → Except ε β} {xs : List α} {e : ε} :
    xs.mapM f = .error e ↔ ∃ (i : Nat) (x : α), xs[i]? = some x ∧
      (∀ j < i, ∀ y, xs[j]? = some y → ∃ b, f y = .ok b) ∧ f x = .error e := by
  induction xs with
  | nil => simp
  | cons x xs ih =>
    rw [List.mapM_cons, bind_eq_error]
    constructor
    · rintro (h | ⟨b, hb, h⟩)
      · exact ⟨0, x, rfl, by simp, h⟩
      · rcases bind_eq_error.mp h with h | ⟨_, _, h⟩
        · obtain ⟨i, z, hz, hj, he⟩ := ih.mp h
          refine ⟨i + 1, z, hz, ?_, he⟩
          intro j hlt y hy
          cases j with
          | zero => exact ⟨b, Option.some.inj hy ▸ hb⟩
          | succ j => exact hj j (by omega) y hy
        · cases h
    · rintro ⟨i, z, hz, hj, he⟩
      cases i with
      | zero => exact Or.inl (Option.some.inj hz ▸ he)
      | succ i =>
        obtain ⟨b, hb⟩ := hj 0 (by omega) x rfl
        have hr := ih.mpr ⟨i, z, hz, fun j hlt y hy => hj (j + 1) (by omega) y hy, he⟩
        exact Or.inr ⟨b, hb, bind_eq_error.mpr (Or.inl hr)⟩

end MailFilter.FirstFailure

namespace MailFilter.Logged

variable {ρ ε α β : Type}

theorem bind_eq (x : Logged ρ ε α) (f : α → Logged ρ ε β) : (x >>= f) = Logged.bind x f := rfl

instance : LawfulMonad (Logged ρ ε) := by
  refine LawfulMonad.mk' (Logged ρ ε) ?id_map ?pure_bind ?bind_assoc
  case id_map =>
    rintro α ⟨records, outcome⟩
    cases outcome with
    | ok a =>
      change Logged.mk (records ++ []) (Except.ok a) = _
      rw [List.append_nil]
    | error e => rfl
  case pure_bind =>
    intro α β a f
    rfl
  case bind_assoc =>
    rintro α β γ ⟨records, outcome⟩ f g
    cases outcome with
    | ok a =>
      simp only [bind_eq, Logged.bind]
      cases (f a).outcome with
      | ok b => simp only [List.append_assoc]
      | error e => rfl
    | error e => rfl

@[simp] theorem outcome_map (f : α → β) (x : Logged ρ ε α) :
    (f <$> x).outcome = x.outcome >>= fun a => .ok (f a) := by
  obtain ⟨records, outcome⟩ := x
  cases outcome <;> rfl

@[simp] theorem lift_ok_bind (a : α) (f : α → Logged ρ ε β) :
    ((liftM (Except.ok a : Except ε α) : Logged ρ ε α) >>= f) = f a :=
  rfl

@[simp] theorem lift_error_bind (e : ε) (f : α → Logged ρ ε β) :
    ((liftM (Except.error e : Except ε α) : Logged ρ ε α) >>= f) = ⟨[], .error e⟩ :=
  rfl

@[simp] theorem mk_ok_bind (records : List ρ) (a : α) (f : α → Logged ρ ε β) :
    ((⟨records, .ok a⟩ : Logged ρ ε α) >>= f) = ⟨records ++ (f a).records, (f a).outcome⟩ :=
  rfl

@[simp] theorem mk_error_bind (records : List ρ) (e : ε) (f : α → Logged ρ ε β) :
    ((⟨records, .error e⟩ : Logged ρ ε α) >>= f) = ⟨records, .error e⟩ :=
  rfl

@[simp] theorem records_map (f : α → β) (x : Logged ρ ε α) : (f <$> x).records = x.records := by
  obtain ⟨records, outcome⟩ := x
  cases outcome with
  | ok a => exact List.append_nil records
  | error e => rfl

@[simp] theorem write_bind (r : ρ) (f : Unit → Logged ρ ε α) :
    (write r >>= f) = ⟨r :: (f ()).records, (f ()).outcome⟩ :=
  rfl

theorem lift_map (x : Except ε α) (f : α → β) :
    (liftM (x.map f) : Logged ρ ε β) = f <$> (liftM x : Logged ρ ε α) := by
  cases x <;> rfl

end MailFilter.Logged
