import MailFilter.Proofs.Text.Stars
import Mathlib.Data.List.DropRight

/-!
# Deleting what a pattern takes

A text is gone through from the left, and wherever a pattern takes a stretch of it the longest such
stretch is left out. The stars in front of a text and the stars that end it are two such patterns,
and deleting them is stripping one run each.
-/
namespace MailFilter.Text

/-- A pattern says of a stretch of a text whether it takes it, given what stands before and behind
it. -/
abbrev Pattern := (before taken behind : List Char) → Prop

/-- The longest stretch that a pattern takes at a place. It is not empty. -/
structure Pattern.TakesMost (p : Pattern) (before taken behind : List Char) : Prop where
  takes : p before taken behind
  ne_nil : taken ≠ []
  longest : ∀ other rest, other ++ rest = taken ++ behind → p before other rest →
    other.length ≤ taken.length

/-- The text is what stands behind `before`; with every stretch that the pattern takes left out it
becomes the last argument. -/
inductive Deleted (p : Pattern) : List Char → List Char → List Char → Prop where
  | done {before} : Deleted p before [] []
  | keep {before c rest out} :
      (∀ taken behind, taken ++ behind = c :: rest → taken ≠ [] → ¬ p before taken behind) →
      Deleted p (before ++ [c]) rest out → Deleted p before (c :: rest) (c :: out)
  | leave {before s taken behind out} : s = taken ++ behind → p.TakesMost before taken behind →
      Deleted p (before ++ taken) behind out → Deleted p before s out

theorem Pattern.TakesMost.unique {p : Pattern} {before taken behind other rest : List Char}
    (h : p.TakesMost before taken behind) (ho : p.TakesMost before other rest)
    (he : taken ++ behind = other ++ rest) : taken = other ∧ behind = rest := by
  have hle := h.longest other rest he.symm ho.takes
  have hge := ho.longest taken behind he h.takes
  exact List.append_inj he (by omega)

theorem Deleted.unique {p : Pattern} {before s out other : List Char} (h : Deleted p before s out)
    (ho : Deleted p before s other) : out = other := by
  induction h generalizing other with
  | done =>
    cases ho with
    | done => rfl
    | leave he hm _ => exact absurd (List.append_eq_nil_iff.mp he.symm).1 hm.ne_nil
  | keep hnone _ ih =>
    cases ho with
    | keep _ ho => rw [ih ho]
    | leave he hm _ => exact absurd hm.takes (hnone _ _ he.symm hm.ne_nil)
  | leave he hm _ ih =>
    cases ho with
    | done => exact absurd (List.append_eq_nil_iff.mp he.symm).1 hm.ne_nil
    | keep hnone _ => exact absurd hm.takes (hnone _ _ he.symm hm.ne_nil)
    | leave he' hm' ho =>
      obtain ⟨rfl, rfl⟩ := hm.unique hm' (he.symm.trans he')
      exact ih ho

def leadingStars : Pattern := fun before taken _ => before = [] ∧ ∀ c ∈ taken, c = '*'

theorem deleted_leadingStars_of_before {before : List Char} (h : before ≠ []) (s : List Char) :
    Deleted leadingStars before s s := by
  induction s generalizing before with
  | nil => exact .done
  | cons c s ih =>
    refine .keep ?_ (ih (by simp))
    intro taken behind _ _ ht
    exact h ht.1

theorem deleted_leadingStars (s : List Char) :
    Deleted leadingStars [] s (dropLeadingStars s) := by
  obtain ⟨hhead, n, hs⟩ := dropLeadingStars_eq_iff.mp (rfl : dropLeadingStars s = _)
  generalize dropLeadingStars s = rest at hhead hs
  subst hs
  cases n with
  | zero =>
    cases rest with
    | nil => exact .done
    | cons c rest =>
      refine .keep ?_ (deleted_leadingStars_of_before (by simp) rest)
      intro taken behind he hne ht
      cases taken with
      | nil => exact hne rfl
      | cons d taken =>
        obtain rfl : d = c := (List.cons.inj he).1
        have hd : d = '*' := ht.2 d List.mem_cons_self
        exact hhead (by rw [hd]; rfl)
  | succ n =>
    refine .leave rfl ⟨⟨rfl, fun c hc => (List.mem_replicate.mp hc).2⟩, by simp, ?_⟩
      (deleted_leadingStars_of_before (by simp) rest)
    intro other behind he ho
    have hrest : behind.dropWhile (· = '*') = rest := by
      rw [← dropWhile_stars (n + 1) hhead, ← he,
        List.dropWhile_append_of_pos fun c hc => decide_eq_true (ho.2 c hc)]
    have hle : rest.length ≤ behind.length := hrest ▸ (List.dropWhile_sublist _).length_le
    have hlength := congrArg List.length he
    simp only [List.length_append] at hlength
    omega

theorem deleted_leadingStars_iff {s out : List Char} :
    Deleted leadingStars [] s out ↔ dropLeadingStars s = out := by
  constructor
  · exact fun h => (deleted_leadingStars s).unique h
  · rintro rfl
    exact deleted_leadingStars s

/-- A run of stars behind which the text ends, or a line feed ends it. -/
def trailingStars : Pattern := fun _ taken behind =>
  (∀ c ∈ taken, c = '*') ∧ (behind = [] ∨ behind = ['\n'])

theorem dropTrailingStars_of_takes {before taken behind : List Char}
    (h : trailingStars before taken behind) : dropTrailingStars (taken ++ behind) = behind := by
  obtain ⟨htaken, hbehind⟩ := h
  have hstars : taken = List.replicate taken.length '*' := List.eq_replicate_of_mem htaken
  apply dropTrailingStars_eq_iff.mpr
  rcases hbehind with rfl | rfl
  · left
    refine ⟨?_, by simp, taken.length, by simpa using hstars⟩
    intro hlast
    rw [List.append_nil] at hlast
    exact absurd (htaken _ (List.mem_of_getLast? hlast)) (by decide)
  · right
    exact ⟨taken, [], rfl, rfl, by simp, taken.length, hstars⟩

theorem ClosingStarsGone.cons {c : Char} {line kept : List Char} (h : ClosingStarsGone line kept)
    (hc : kept = [] → c ≠ '*') : ClosingStarsGone (c :: line) (c :: kept) := by
  obtain ⟨hlast, n, rfl⟩ := h
  refine ⟨?_, n, rfl⟩
  cases kept with
  | nil => simpa using hc rfl
  | cons d kept => simpa using hlast

theorem dropTrailingStars_cons {before : List Char} {c : Char} {s : List Char}
    (h : ∀ taken behind, taken ++ behind = c :: s → taken ≠ [] →
      ¬ trailingStars before taken behind) :
    dropTrailingStars (c :: s) = c :: dropTrailingStars s := by
  have hstar : ∀ n feed, s = List.replicate n '*' ++ feed → (feed = [] ∨ feed = ['\n']) →
      c ≠ '*' := by
    rintro n feed rfl hfeed rfl
    refine h ('*' :: List.replicate n '*') feed rfl (by simp) ⟨?_, hfeed⟩
    intro d hd
    rw [← List.replicate_succ] at hd
    exact (List.mem_replicate.mp hd).2
  apply dropTrailingStars_eq_iff.mpr
  rcases dropTrailingStars_eq_iff.mp (rfl : dropTrailingStars s = _) with ⟨hfeed, hgone⟩ | hgone
  · have hc : dropTrailingStars s = [] → c ≠ '*' := by
      intro hnil
      obtain ⟨-, n, hs⟩ := hgone
      rw [hnil, List.nil_append] at hs
      exact hstar n [] (by rw [List.append_nil, ← hs]) (Or.inl rfl)
    by_cases hlast : (c :: s).getLast? = some '\n'
    · -- The line feed is all there is: it stays, and nothing stands before it.
      have hs : s = [] := by
        cases s with
        | nil => rfl
        | cons d s => exact absurd hlast (by simpa using hfeed)
      subst hs
      obtain rfl : c = '\n' := by simpa using hlast
      exact Or.inr ⟨[], [], rfl, rfl, by simp, 0, rfl⟩
    · exact Or.inl ⟨hlast, hgone.cons hc⟩
  · obtain ⟨line, kept, hs, hk, hgone⟩ := hgone
    right
    refine ⟨c :: line, c :: kept, by rw [hs]; rfl, by rw [hk]; rfl, hgone.cons ?_⟩
    rintro rfl
    obtain ⟨-, n, rfl⟩ := hgone
    exact hstar n ['\n'] hs (Or.inr rfl)

theorem deleted_trailingStars_end {behind : List Char} (h : behind = [] ∨ behind = ['\n'])
    (before : List Char) : Deleted trailingStars before behind behind := by
  rcases h with rfl | rfl
  · exact .done
  · refine .keep ?_ .done
    intro taken behind he hne ht
    cases taken with
    | nil => exact hne rfl
    | cons d taken =>
      obtain rfl : d = '\n' := (List.cons.inj he).1
      exact absurd (ht.1 '\n' List.mem_cons_self) (by decide)

theorem deleted_trailingStars (before s : List Char) :
    Deleted trailingStars before s (dropTrailingStars s) := by
  induction s generalizing before with
  | nil => exact .done
  | cons c s ih =>
    by_cases h : ∃ taken behind, taken ++ behind = c :: s ∧ taken ≠ [] ∧
        trailingStars before taken behind
    · obtain ⟨taken, behind, hs, hne, ht⟩ := h
      have hout : dropTrailingStars (c :: s) = behind := hs ▸ dropTrailingStars_of_takes ht
      rw [hout]
      refine .leave hs.symm ⟨ht, hne, ?_⟩ (deleted_trailingStars_end ht.2 _)
      -- What stands behind the run is what is left, so there is one run only.
      intro other rest he ho
      have hrest : rest = behind := by
        rw [← hout, ← hs, ← he, dropTrailingStars_of_takes ho]
      rw [hrest] at he
      rw [List.append_cancel_right he]
    · have hnone : ∀ taken behind, taken ++ behind = c :: s → taken ≠ [] →
          ¬ trailingStars before taken behind :=
        fun taken behind hs hne ht => h ⟨taken, behind, hs, hne, ht⟩
      rw [dropTrailingStars_cons hnone]
      exact .keep hnone (ih _)

theorem deleted_trailingStars_iff {s out : List Char} :
    Deleted trailingStars [] s out ↔ dropTrailingStars s = out := by
  constructor
  · exact fun h => (deleted_trailingStars [] s).unique h
  · rintro rfl
    exact deleted_trailingStars [] s

theorem dropClosingStars_idempotent (s : List Char) :
    dropClosingStars (dropClosingStars s) = dropClosingStars s :=
  List.rdropWhile_idempotent _ s

theorem dropTrailingStars_feed (line : List Char) :
    dropTrailingStars (line ++ ['\n']) = dropClosingStars line ++ ['\n'] := by
  simp [dropTrailingStars]

theorem dropTrailingStars_of_no_feed {s : List Char} (h : s.getLast? ≠ some '\n') :
    dropTrailingStars s = dropClosingStars s := by
  rw [dropTrailingStars, if_neg h]

/-- What is stripped once may end in a line feed that stood before the stars; then the stars before
it are stripped the second time. -/
theorem dropTrailingStars_settled (s : List Char) :
    dropTrailingStars (dropTrailingStars (dropTrailingStars s)) =
      dropTrailingStars (dropTrailingStars s) := by
  have hfeed : ∀ line : List Char, dropTrailingStars (dropTrailingStars (line ++ ['\n'])) =
      dropTrailingStars (line ++ ['\n']) := by
    intro line
    rw [dropTrailingStars_feed, dropTrailingStars_feed, dropClosingStars_idempotent]
  by_cases hs : s.getLast? = some '\n'
  · obtain ⟨line, rfl⟩ := List.getLast?_eq_some_iff.mp hs
    rw [hfeed, hfeed]
  rw [dropTrailingStars_of_no_feed hs]
  by_cases hc : (dropClosingStars s).getLast? = some '\n'
  · obtain ⟨line, hline⟩ := List.getLast?_eq_some_iff.mp hc
    rw [hline, hfeed]
  · have ht := dropTrailingStars_of_no_feed hc
    rw [dropClosingStars_idempotent] at ht
    rw [ht, ht]

theorem dropLeadingStars_concat {c : Char} (h : c ≠ '*') (s : List Char) :
    dropLeadingStars (s ++ [c]) = dropLeadingStars s ++ [c] := by
  have hc : [c].dropWhile (· = '*') = [c] := List.dropWhile_cons_of_neg (by simpa using h)
  unfold dropLeadingStars
  rw [List.dropWhile_append, hc]
  split
  · rename_i he
    rw [List.isEmpty_iff.mp he, List.nil_append]
  · rfl

theorem dropLeadingStars_dropClosingStars (s : List Char) :
    dropLeadingStars (dropClosingStars s) = dropClosingStars (dropLeadingStars s) := by
  induction s using List.reverseRecOn with
  | nil => rfl
  | append_singleton s c ih =>
    by_cases hc : c = '*'
    · have hclosing : ∀ line, dropClosingStars (line ++ [c]) = dropClosingStars line :=
        fun line => List.rdropWhile_concat_pos _ line c (by simpa using hc)
      rw [hclosing, ih]
      unfold dropLeadingStars
      rw [List.dropWhile_append]
      split
      · rename_i he
        rw [List.isEmpty_iff.mp he, List.dropWhile_cons_of_pos (by simpa using hc)]
        rfl
      · rw [hclosing]
    · have hclosing : ∀ line, dropClosingStars (line ++ [c]) = line ++ [c] :=
        fun line => List.rdropWhile_concat_neg _ line c (by simpa using hc)
      rw [hclosing, dropLeadingStars_concat hc, hclosing]

theorem dropLeadingStars_dropTrailingStars (s : List Char) :
    dropLeadingStars (dropTrailingStars s) = dropTrailingStars (dropLeadingStars s) := by
  by_cases hs : s.getLast? = some '\n'
  · obtain ⟨line, rfl⟩ := List.getLast?_eq_some_iff.mp hs
    have hfeed := dropLeadingStars_concat (c := '\n') (by decide)
    rw [dropTrailingStars_feed, hfeed, hfeed, dropTrailingStars_feed,
      dropLeadingStars_dropClosingStars]
  · have hleft : (dropLeadingStars s).getLast? ≠ some '\n' := by
      obtain ⟨front, hf⟩ := List.dropWhile_suffix (l := s) (· = '*')
      intro hlast
      apply hs
      rw [← hf, List.getLast?_append]
      unfold dropLeadingStars at hlast
      rw [hlast]
      rfl
    rw [dropTrailingStars_of_no_feed hs, dropTrailingStars_of_no_feed hleft,
      dropLeadingStars_dropClosingStars]

end MailFilter.Text
