import MailFilter.Text.Blank

/-!
# Texts that consist of words

A text is split into words at its blanks. The words are the same however many blanks stand between
them, and whether or not there are blanks at the ends of the text.
-/
namespace MailFilter.Text

def AllBlank (cs : List Char) : Prop := ∀ c ∈ cs, isBlank c = true

def Unbroken (cs : List Char) : Prop := cs ≠ [] ∧ ∀ c ∈ cs, isBlank c = false

/-- A text of words: blanks may stand before the first and behind the last, and at least one stands
between two of them, since what follows a word is empty or begins with a blank. -/
inductive Spaced : List (List Char) → List Char → Prop where
  | blanks {gap} : AllBlank gap → Spaced [] gap
  | word {gap word rest words} : AllBlank gap → Unbroken word →
      (∀ c ∈ rest.head?, isBlank c = true) → Spaced words rest →
      Spaced (word :: words) (gap ++ word ++ rest)

theorem wordsFrom_blanks {gap : List Char} (h : AllBlank gap) (rest : List Char) :
    wordsFrom [] (gap ++ rest) = wordsFrom [] rest := by
  induction gap with
  | nil => rfl
  | cons c gap ih =>
    have hc : isBlank c = true := h c List.mem_cons_self
    have hgap : AllBlank gap := fun d hd => h d (List.mem_cons_of_mem c hd)
    rw [List.cons_append, wordsFrom, if_pos hc, List.isEmpty_nil, if_pos rfl, ih hgap]

theorem wordsFrom_unbroken {word : List Char} (h : ∀ c ∈ word, isBlank c = false)
    (begun rest : List Char) :
    wordsFrom begun (word ++ rest) = wordsFrom (word.reverse ++ begun) rest := by
  induction word generalizing begun with
  | nil => rfl
  | cons c word ih =>
    have hc : isBlank c = false := h c List.mem_cons_self
    have hword : ∀ d ∈ word, isBlank d = false := fun d hd => h d (List.mem_cons_of_mem c hd)
    rw [List.cons_append, wordsFrom, if_neg (by simp [hc]), ih hword, List.reverse_cons,
      List.append_assoc, List.singleton_append]

theorem wordsFrom_end {begun rest : List Char} (hb : begun ≠ [])
    (h : ∀ c ∈ rest.head?, isBlank c = true) :
    wordsFrom begun rest = begun.reverse :: wordsFrom [] rest := by
  have hne : begun.isEmpty = false := by simpa using hb
  cases rest with
  | nil => simp [wordsFrom, hne]
  | cons c rest =>
    have hc : isBlank c = true := h c rfl
    simp [wordsFrom, hc, hne]

theorem wordsFrom_of_spaced {words : List (List Char)} {cs : List Char} (h : Spaced words cs) :
    wordsFrom [] cs = words := by
  induction h with
  | @blanks gap hgap =>
    have hnil := wordsFrom_blanks hgap []
    rwa [List.append_nil] at hnil
  | @word gap word rest words hgap hword hrest _ ih =>
    have hne : word.reverse ++ [] ≠ [] := by simpa using hword.1
    rw [List.append_assoc, wordsFrom_blanks hgap, wordsFrom_unbroken hword.2,
      wordsFrom_end hne hrest, ih, List.append_nil, List.reverse_reverse]

/-- Whatever blanks and whatever part of a word stand before a text, its words are words of the
whole. -/
theorem spaced_wordsFrom {gap : List Char} (hg : AllBlank gap) (begun : List Char)
    (hb : ∀ c ∈ begun, isBlank c = false) (cs : List Char) :
    Spaced (wordsFrom begun cs) (gap ++ begun.reverse ++ cs) := by
  induction cs generalizing gap begun with
  | nil =>
    by_cases hne : begun = []
    · subst hne
      simpa [wordsFrom] using Spaced.blanks hg
    · have hword : Unbroken begun.reverse := ⟨by simpa using hne, by simpa using hb⟩
      have hnone : AllBlank [] := by simp [AllBlank]
      simpa [wordsFrom, hne] using Spaced.word hg hword (by simp) (.blanks hnone)
  | cons c rest ih =>
    by_cases hc : isBlank c = true
    · have hblank : AllBlank [c] := by simpa [AllBlank] using hc
      have hrest : Spaced (wordsFrom [] rest) (c :: rest) := ih hblank [] (by simp)
      by_cases hne : begun = []
      · subst hne
        have hgap : AllBlank (gap ++ [c]) := by
          intro d hd
          rcases List.mem_append.mp hd with hd | hd
          · exact hg d hd
          · exact hblank d hd
        have hmore := ih hgap [] (by simp)
        simpa [wordsFrom, hc] using hmore
      · have hword : Unbroken begun.reverse := ⟨by simpa using hne, by simpa using hb⟩
        have hhead : ∀ d ∈ (c :: rest).head?, isBlank d = true := by simpa using hc
        simpa [wordsFrom, hc, hne] using Spaced.word hg hword hhead hrest
    · have hlonger : ∀ d ∈ c :: begun, isBlank d = false := by
        intro d hd
        rcases List.mem_cons.mp hd with rfl | hd
        · simpa using hc
        · exact hb d hd
      have hmore := ih hg (c :: begun) hlonger
      simpa [wordsFrom, hc] using hmore

theorem splitBlanks_eq_iff {words : List String} {text : String} :
    splitBlanks text = words ↔ Spaced (words.map String.toList) text.toList := by
  constructor
  · rintro rfl
    have hnone : AllBlank [] := by simp [AllBlank]
    have h : Spaced (wordsFrom [] text.toList) text.toList :=
      spaced_wordsFrom hnone [] (by simp) text.toList
    simpa [splitBlanks, Function.comp_def] using h
  · intro h
    rw [splitBlanks, wordsFrom_of_spaced h, List.map_map]
    simp [Function.comp_def]

end MailFilter.Text
