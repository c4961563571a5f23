import MailFilter.Annotations.Block
import Mathlib.Data.List.Infix
import Mathlib.Data.List.TakeWhile

/-!
# The grammar of annotation comments

A comment that holds annotations is an opening line, annotation lines, and a closing line, and it
is so in one way only.
-/
namespace MailFilter.Annotations

open Text (isBlank)

/-- What an annotation line declares: the operator, or the comparator of one condition. -/
inductive Keyword where
  | type
  | comparator
  deriving DecidableEq, Repr

def Keyword.letters : Keyword → List Char
  | .type => ['t', 'y', 'p', 'e']
  | .comparator => ['c', 'o', 'm', 'p', 'a', 'r', 'a', 't', 'o', 'r']

/-- An annotation line: a blank, a star, a blank, an at sign, a keyword, and a body. -/
structure Line where
  before : Char
  between : Char
  keyword : Keyword
  body : List Char
  before_blank : isBlank before = true
  between_blank : isBlank between = true
  body_ne_nil : body ≠ []
  body_no_return : '\r' ∉ body
  deriving DecidableEq

def Line.tail (l : Line) : List Char := l.between :: '@' :: (l.keyword.letters ++ l.body)

def Line.chars (l : Line) : List Char := l.before :: '*' :: (l.tail ++ ['\r', '\n'])

/-- An annotation comment: its lines, and the blank before the star that closes it. -/
structure Block where
  lines : List Line
  closing : Char
  lines_ne_nil : lines ≠ []
  closing_blank : isBlank closing = true
  deriving DecidableEq

def linesChars (lines : List Line) (closing : Char) : List Char :=
  lines.flatMap Line.chars ++ [closing, '*', '/']

def Block.text (b : Block) : String :=
  String.ofList (opening ++ linesChars b.lines b.closing)

theorem linesChars_cons (l : Line) (lines : List Line) (closing : Char) :
    linesChars (l :: lines) closing = l.chars ++ linesChars lines closing := by
  simp [linesChars]

theorem takeWhile_ne_append {c : Char} {s : List Char} (h : c ∉ s) (rest : List Char) :
    (s ++ c :: rest).takeWhile (· ≠ c) = s := by
  have hp : ∀ a ∈ s, decide (a ≠ c) = true := by
    intro a ha
    exact decide_eq_true fun he => h (he ▸ ha)
  rw [List.takeWhile_append_of_pos hp, List.takeWhile_cons_of_neg (by simp), List.append_nil]

theorem dropWhile_ne_append {c : Char} {s : List Char} (h : c ∉ s) (rest : List Char) :
    (s ++ c :: rest).dropWhile (· ≠ c) = c :: rest := by
  have hp : ∀ a ∈ s, decide (a ≠ c) = true := by
    intro a ha
    exact decide_eq_true fun he => h (he ▸ ha)
  rw [List.dropWhile_append_of_pos hp, List.dropWhile_cons_of_neg (by simp)]

theorem eq_of_append_cons_eq {c : Char} {s t xs ys : List Char} (hs : c ∉ s) (ht : c ∉ t)
    (h : s ++ c :: xs = t ++ c :: ys) : s = t ∧ xs = ys := by
  have hst := congrArg (List.takeWhile (· ≠ c)) h
  rw [takeWhile_ne_append hs, takeWhile_ne_append ht] at hst
  subst hst
  exact ⟨rfl, (List.cons.inj (List.append_cancel_left h)).2⟩

theorem afterKeyword?_eq_some {cs rest : List Char} :
    afterKeyword? cs = some rest ↔ ∃ k : Keyword, cs = k.letters ++ rest := by
  constructor
  · intro h
    unfold afterKeyword? at h
    split at h
    · exact ⟨.type, by simp [Keyword.letters, Option.some.inj h]⟩
    · exact ⟨.comparator, by simp [Keyword.letters, Option.some.inj h]⟩
    · cases h
  · rintro ⟨k, rfl⟩
    cases k <;> rfl

theorem afterBody?_eq_some {cs rest : List Char} :
    afterBody? cs = some rest ↔
      ∃ body, body ≠ [] ∧ '\r' ∉ body ∧ cs = body ++ '\r' :: '\n' :: rest := by
  constructor
  · intro h
    unfold afterBody? at h
    split at h
    · rename_i c body more hb hr
      obtain rfl := Option.some.inj h
      refine ⟨c :: body, by simp, ?_, ?_⟩
      · rw [← hb]
        intro hm
        simpa using List.mem_takeWhile_imp hm
      · rw [← hb, ← hr, List.takeWhile_append_dropWhile]
    · cases h
  · rintro ⟨body, hne, hno, rfl⟩
    unfold afterBody?
    rw [takeWhile_ne_append hno, dropWhile_ne_append hno]
    cases body with
    | nil => exact absurd rfl hne
    | cons c body => rfl

theorem afterLine?_eq_some {cs rest : List Char} :
    afterLine? cs = some rest ↔ ∃ l : Line, cs = l.chars ++ rest := by
  constructor
  · intro h
    unfold afterLine? at h
    split at h
    · rename_i a b more
      split_ifs at h with hb
      rw [Bool.and_eq_true] at hb
      obtain ⟨body, hk, hbody⟩ := Option.bind_eq_some_iff.mp h
      obtain ⟨k, rfl⟩ := afterKeyword?_eq_some.mp hk
      obtain ⟨body, hne, hno, rfl⟩ := afterBody?_eq_some.mp hbody
      exact ⟨⟨a, b, k, body, hb.1, hb.2, hne, hno⟩, by simp [Line.chars, Line.tail]⟩
    · cases h
  · rintro ⟨l, rfl⟩
    have hk : afterKeyword? (l.keyword.letters ++ (l.body ++ '\r' :: '\n' :: rest)) =
        some (l.body ++ '\r' :: '\n' :: rest) := afterKeyword?_eq_some.mpr ⟨_, rfl⟩
    have hb : afterBody? (l.body ++ '\r' :: '\n' :: rest) = some rest :=
      afterBody?_eq_some.mpr ⟨l.body, l.body_ne_nil, l.body_no_return, rfl⟩
    simp [afterLine?, Line.chars, Line.tail, l.before_blank, l.between_blank, hk, hb]

theorem closes_iff {cs : List Char} :
    closes cs = true ↔ ∃ c, isBlank c = true ∧ cs = [c, '*', '/'] := by
  constructor
  · intro h
    unfold closes at h
    split at h
    · exact ⟨_, h, rfl⟩
    · cases h
  · rintro ⟨c, hc, rfl⟩
    exact hc

/-- Each line takes a part of the text, so its length bounds the number of lines. -/
theorem linesAndClose_iff {fuel : Nat} {cs : List Char} (h : cs.length ≤ fuel) :
    linesAndClose fuel cs = true ↔
      ∃ lines closing, isBlank closing = true ∧ cs = linesChars lines closing := by
  induction fuel generalizing cs with
  | zero =>
    have hc : cs = [] := List.length_eq_zero_iff.mp (by omega)
    subst hc
    simp [linesAndClose, closes, linesChars]
  | succ fuel ih =>
    unfold linesAndClose
    cases ha : afterLine? cs with
    | some rest =>
      obtain ⟨l, rfl⟩ := afterLine?_eq_some.mp ha
      have hr : rest.length ≤ fuel := by
        simp only [Line.chars, List.length_append, List.length_cons] at h
        omega
      simp only [ih hr]
      constructor
      · rintro ⟨lines, closing, hc, rfl⟩
        exact ⟨l :: lines, closing, hc, (linesChars_cons l lines closing).symm⟩
      · rintro ⟨lines, closing, hc, he⟩
        cases lines with
        | nil => simp [linesChars, Line.chars, Line.tail] at he
        | cons m lines =>
          refine ⟨lines, closing, hc, ?_⟩
          rw [linesChars_cons] at he
          have hm := afterLine?_eq_some.mpr ⟨m, he⟩
          exact Option.some.inj (ha.symm.trans hm)
    | none =>
      simp only [closes_iff]
      constructor
      · rintro ⟨c, hc, rfl⟩
        exact ⟨[], c, hc, rfl⟩
      · rintro ⟨lines, closing, hc, he⟩
        cases lines with
        | nil => exact ⟨closing, hc, he⟩
        | cons m lines =>
          rw [linesChars_cons] at he
          rw [afterLine?_eq_some.mpr ⟨m, he⟩] at ha
          cases ha

theorem isBlock_iff {text : String} : isBlock text = true ↔ ∃ b : Block, b.text = text := by
  have hb : isBlock text = true ↔ ∃ l rest, text.toList = opening ++ (Line.chars l ++ rest) ∧
      linesAndClose rest.length rest = true := by
    unfold isBlock
    constructor
    · intro h
      split at h
      · rename_i body ho
        split at h
        · rename_i rest ha
          obtain ⟨l, rfl⟩ := afterLine?_eq_some.mp ha
          exact ⟨l, rest, (List.append_eq_of_isPrefixOf?_eq_some ho).symm, h⟩
        · cases h
      · cases h
    · rintro ⟨l, rest, ht, h⟩
      have ho : opening.isPrefixOf? text.toList = some (l.chars ++ rest) :=
        List.isPrefixOf?_eq_some_iff_append_eq.mpr ht.symm
      rw [ho]
      simpa only [afterLine?_eq_some.mpr ⟨l, rfl⟩] using h
  rw [hb]
  constructor
  · rintro ⟨l, rest, ht, h⟩
    obtain ⟨lines, closing, hc, rfl⟩ := (linesAndClose_iff le_rfl).mp h
    refine ⟨⟨l :: lines, closing, by simp, hc⟩, ?_⟩
    rw [Block.text, linesChars_cons, ← ht, String.ofList_toList]
  · rintro ⟨⟨lines, closing, hne, hc⟩, rfl⟩
    obtain ⟨l, lines, rfl⟩ := List.exists_cons_of_ne_nil hne
    refine ⟨l, linesChars lines closing, ?_, ?_⟩
    · rw [Block.text, String.toList_ofList, linesChars_cons]
    · exact (linesAndClose_iff le_rfl).mpr ⟨lines, closing, hc, rfl⟩

theorem chars_append_inj {l m : Line} {xs ys : List Char}
    (h : l.chars ++ xs = m.chars ++ ys) : l = m ∧ xs = ys := by
  obtain ⟨a, b, k, body, ha, hb, hne, hno⟩ := l
  obtain ⟨a', b', k', body', ha', hb', hne', hno'⟩ := m
  simp only [Line.chars, Line.tail, List.cons_append, List.append_assoc, List.nil_append,
    List.cons.injEq, true_and] at h
  obtain ⟨rfl, rfl, h⟩ := h
  have hk : k = k' := by
    cases k <;> cases k' <;> first | rfl | simp [Keyword.letters] at h
  subst hk
  obtain ⟨rfl, htail⟩ := eq_of_append_cons_eq hno hno' (List.append_cancel_left h)
  exact ⟨rfl, (List.cons.inj htail).2⟩

/-- Lines and the line that closes them are told from what follows them, and a text of lines leaves
nothing that could follow. -/
theorem linesChars_append_inj {lines more : List Line} {c d : Char} {rest : List Char}
    (h : linesChars lines c ++ rest = linesChars more d) : lines = more ∧ c = d ∧ rest = [] := by
  induction lines generalizing more with
  | nil =>
    cases more with
    | nil => simpa [linesChars] using h
    | cons m more =>
      -- A solidus would have to be the blank between the star and the keyword.
      rw [linesChars_cons] at h
      simp only [linesChars, Line.chars, Line.tail, List.flatMap_nil, List.nil_append,
        List.cons_append, List.cons.injEq, true_and] at h
      have hm := m.between_blank
      rw [← h.2.1] at hm
      exact absurd hm (by decide)
  | cons l lines ih =>
    rw [linesChars_cons, List.append_assoc] at h
    cases more with
    | nil => simp [linesChars, Line.chars, Line.tail] at h
    | cons m more =>
      rw [linesChars_cons] at h
      obtain ⟨rfl, hr⟩ := chars_append_inj h
      obtain ⟨rfl, rfl, hrest⟩ := ih hr
      exact ⟨rfl, rfl, hrest⟩

theorem Block.text_append_inj {b d : Block} {rest : String} (h : b.text ++ rest = d.text) :
    b = d ∧ rest = "" := by
  obtain ⟨lines, c, hne, hc⟩ := b
  obtain ⟨more, e, hne', he⟩ := d
  have hl : opening ++ (linesChars lines c ++ rest.toList) = opening ++ linesChars more e := by
    simpa [Block.text] using congrArg String.toList h
  obtain ⟨rfl, rfl, hrest⟩ := linesChars_append_inj (List.append_cancel_left hl)
  exact ⟨rfl, String.toList_eq_nil_iff.mp hrest⟩

theorem Block.text_injective {b d : Block} (h : b.text = d.text) : b = d :=
  (Block.text_append_inj (by rw [String.append_empty]; exact h)).1

/-- No part of the opening can be put in front of another one to make a longer one. -/
theorem opening_of_prefix {front rest : List Char} (h : opening <+: front ++ (opening ++ rest)) :
    front = [] ∨ opening <+: front := by
  by_cases hl : opening.length ≤ front.length
  · exact Or.inr (List.prefix_of_prefix_length_le h (List.prefix_append _ _) hl)
  · left
    rcases front with _ | ⟨a, _ | ⟨b, _ | ⟨c, _ | ⟨d, _ | ⟨e, front⟩⟩⟩⟩⟩
    · rfl
    all_goals simp [opening] at h hl

/-- The texts that pass are the texts of blocks, each of exactly one. Nothing can stand behind such
a text, and in front of it nothing but what begins as a block itself. -/
theorem block_grammar (text : String) :
    (isBlock text = true ↔ ∃! b : Block, b.text = text) ∧
    (isBlock text = true → ∀ rest, isBlock (text ++ rest) = true → rest = "") ∧
    (isBlock text = true → ∀ front, isBlock (front ++ text) = true →
      front = "" ∨ opening <+: front.toList) := by
  refine ⟨?_, ?_, ?_⟩
  · rw [isBlock_iff]
    constructor
    · rintro ⟨b, hb⟩
      exact ⟨b, hb, fun d hd => Block.text_injective (hd.trans hb.symm)⟩
    · rintro ⟨b, hb, -⟩
      exact ⟨b, hb⟩
  · intro h rest hr
    obtain ⟨b, rfl⟩ := isBlock_iff.mp h
    obtain ⟨d, hd⟩ := isBlock_iff.mp hr
    exact (Block.text_append_inj hd.symm).2
  · intro h front hf
    obtain ⟨b, rfl⟩ := isBlock_iff.mp h
    obtain ⟨d, hd⟩ := isBlock_iff.mp hf
    have hopen : opening <+: front.toList ++ (opening ++ linesChars b.lines b.closing) := by
      have hl := congrArg String.toList hd
      simp only [Block.text, String.toList_append, String.toList_ofList] at hl
      exact ⟨_, hl⟩
    rcases opening_of_prefix hopen with hfront | hfront
    · exact Or.inl (String.toList_eq_nil_iff.mp hfront)
    · exact Or.inr hfront

/-- A block whose blanks are a return, a line feed and a line separator, and whose body ends in a
line feed. -/
def unevenComment : String := "/**\r\n\r*\n@typex\n\r\n\u2028*/"

theorem block_grammar_uneven : isBlock unevenComment = true ∧
    (∃! b : Block, b.text = unevenComment) ∧ isBlock (unevenComment ++ "\n") = false := by
  have h : isBlock unevenComment = true := by decide +kernel
  obtain ⟨hgrammar, hbehind, -⟩ := block_grammar unevenComment
  refine ⟨h, hgrammar.mp h, ?_⟩
  rw [← Bool.not_eq_true]
  intro hfeed
  exact absurd (hbehind h "\n" hfeed) (by decide)

end MailFilter.Annotations
