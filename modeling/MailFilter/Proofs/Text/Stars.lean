import MailFilter.Text.Wildcard
import Mathlib.Data.List.TakeWhile

/-!
# Stars at the ends of a text

A run of stars is taken away as a whole: what stays neither begins nor ends with one. A line feed
that ends the text stays too, and then the run before it is the one that goes.
-/
namespace MailFilter.Text

def LeadingStarsGone (s rest : List Char) : Prop :=
  rest.head? ≠ some '*' ∧ ∃ n, s = List.replicate n '*' ++ rest

def ClosingStarsGone (s rest : List Char) : Prop :=
  rest.getLast? ≠ some '*' ∧ ∃ n, s = rest ++ List.replicate n '*'

/-- `rest` is `s` without the stars behind or before the line feed that ends it. -/
def TrailingStarsGone (s rest : List Char) : Prop :=
  s.getLast? ≠ some '\n' ∧ ClosingStarsGone s rest ∨
  ∃ line kept, s = line ++ ['\n'] ∧ rest = kept ++ ['\n'] ∧ ClosingStarsGone line kept

theorem dropWhile_stars (n : Nat) {rest : List Char} (h : rest.head? ≠ some '*') :
    (List.replicate n '*' ++ rest).dropWhile (· = '*') = rest := by
  induction n with
  | zero =>
    cases rest with
    | nil => rfl
    | cons c rest =>
      have hc : c ≠ '*' := by simpa using h
      simp [hc]
  | succ n ih => simpa [List.replicate_succ] using ih

theorem dropLeadingStars_eq_iff {s rest : List Char} :
    dropLeadingStars s = rest ↔ LeadingStarsGone s rest := by
  constructor
  · rintro rfl
    refine ⟨?_, (s.takeWhile (· = '*')).length, ?_⟩
    · intro h
      have hn := List.head?_dropWhile_not (fun c => decide (c = '*')) s
      unfold dropLeadingStars at h
      rw [h] at hn
      simp at hn
    · have hr : s.takeWhile (· = '*') = List.replicate (s.takeWhile (· = '*')).length '*' :=
        List.eq_replicate_of_mem fun c hc => by simpa using List.mem_takeWhile_imp hc
      rw [← hr]
      exact List.takeWhile_append_dropWhile.symm
  · rintro ⟨h, n, rfl⟩
    exact dropWhile_stars n h

theorem dropClosingStars_eq_iff {s rest : List Char} :
    dropClosingStars s = rest ↔ ClosingStarsGone s rest := by
  have hs : dropClosingStars s = rest ↔ dropLeadingStars s.reverse = rest.reverse :=
    List.reverse_eq_iff
  rw [hs, dropLeadingStars_eq_iff]
  have hn : ∀ n, s.reverse = List.replicate n '*' ++ rest.reverse ↔
      s = rest ++ List.replicate n '*' := by
    intro n
    rw [List.reverse_eq_iff]
    simp
  simp only [LeadingStarsGone, ClosingStarsGone, hn, List.head?_reverse]

theorem dropTrailingStars_eq_iff {s rest : List Char} :
    dropTrailingStars s = rest ↔ TrailingStarsGone s rest := by
  unfold dropTrailingStars TrailingStarsGone
  split
  · rename_i h
    obtain ⟨line, rfl⟩ := List.getLast?_eq_some_iff.mp h
    simp only [List.dropLast_concat, h, ne_eq, not_true_eq_false, false_and, false_or]
    constructor
    · rintro rfl
      exact ⟨line, _, rfl, rfl, dropClosingStars_eq_iff.mp rfl⟩
    · rintro ⟨other, kept, hl, rfl, hk⟩
      obtain rfl := List.append_cancel_right hl
      rw [dropClosingStars_eq_iff.mpr hk]
  · rename_i h
    rw [dropClosingStars_eq_iff]
    constructor
    · exact fun hc => Or.inl ⟨h, hc⟩
    · rintro (⟨_, hc⟩ | ⟨line, kept, rfl, _⟩)
      · exact hc
      · exact absurd (by simp) h

theorem dropTrailingStars_append_star {s : List Char} (h : s.getLast? ≠ some '*') :
    dropTrailingStars (s ++ ['*']) = s :=
  dropTrailingStars_eq_iff.mpr (Or.inl ⟨by simp, h, 1, rfl⟩)

theorem dropLeadingStars_cons_star {s : List Char} (h : s.head? ≠ some '*') :
    dropLeadingStars ('*' :: s) = s :=
  dropLeadingStars_eq_iff.mpr ⟨h, 1, rfl⟩

end MailFilter.Text
