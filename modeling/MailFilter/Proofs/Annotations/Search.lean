import MailFilter.Proofs.Annotations.Writing

/-!
# The annotation of a line

A line is searched from the left, and the first annotation that is complete is the one that is read.
What looks like one but does not reach to the end of the line is passed over. A line adds one thing
to what was read before it, or nothing.
-/
namespace MailFilter.Annotations

open Text (isBlank isWord)

/-- A complete annotation: a blank, an at sign, all word characters up to another blank, and a value
on one line, which a line feed may end. -/
structure Complete where
  before : Char
  name : List Char
  between : Char
  value : List Char
  fed : Bool
  before_blank : isBlank before = true
  name_words : ∀ c ∈ name, isWord c = true
  between_blank : isBlank between = true
  name_maximal : isWord between = false
  value_no_feed : '\n' ∉ value

def Complete.tail (a : Complete) : List Char := a.value ++ if a.fed then ['\n'] else []

def Complete.chars (a : Complete) : List Char :=
  a.before :: '@' :: (a.name ++ a.between :: a.tail)

def Complete.found (a : Complete) : Found := (a.name, a.value)

def StandsAt (line : List Char) (p : Nat) (a : Complete) : Prop := line.drop p = a.chars

theorem lineValue?_eq_some_iff {cs v : List Char} :
    lineValue? cs = some v ↔ '\n' ∉ v ∧ (cs = v ∨ cs = v ++ ['\n']) := by
  constructor
  · exact lineValue?_eq_some
  · rintro ⟨hv, rfl | rfl⟩
    · exact lineValue?_of_notMem hv
    · have hd := dropWhile_ne_append hv []
      have ht := takeWhile_ne_append hv []
      rw [lineValue?, hd]
      exact congrArg some ht

theorem annotationAt?_chars (a : Complete) : annotationAt? a.chars = some a.found := by
  have hbetween : ¬ isWord a.between = true := by simp [a.name_maximal]
  have hd : (a.name ++ a.between :: a.tail).dropWhile isWord = a.between :: a.tail := by
    rw [List.dropWhile_append_of_pos a.name_words, List.dropWhile_cons_of_neg hbetween]
  have ht : (a.name ++ a.between :: a.tail).takeWhile isWord = a.name := by
    rw [List.takeWhile_append_of_pos a.name_words, List.takeWhile_cons_of_neg hbetween,
      List.append_nil]
  have hv : lineValue? a.tail = some a.value := by
    apply lineValue?_eq_some_iff.mpr
    refine ⟨a.value_no_feed, ?_⟩
    unfold Complete.tail
    cases a.fed
    · exact Or.inl (List.append_nil _)
    · exact Or.inr rfl
  simp [annotationAt?, Complete.chars, Complete.found, a.before_blank, a.between_blank, hd, ht, hv]

/-- What is read at the beginning of a text is a complete annotation that takes it up. -/
theorem annotationAt?_eq_some {cs : List Char} {f : Found} :
    annotationAt? cs = some f ↔ ∃ a : Complete, cs = a.chars ∧ a.found = f := by
  constructor
  · intro h
    unfold annotationAt? at h
    split at h
    · rename_i blank rest
      split_ifs at h with hblank
      split at h
      · rename_i between tail hd
        split_ifs at h with hbetween
        obtain ⟨value, hv, rfl⟩ := Option.map_eq_some_iff.mp h
        obtain ⟨hfeed, htail⟩ := lineValue?_eq_some hv
        have hrest : rest = rest.takeWhile isWord ++ between :: tail := by
          rw [← hd, List.takeWhile_append_dropWhile]
        refine ⟨⟨blank, rest.takeWhile isWord, between, value, decide (tail ≠ value), hblank, ?_,
          hbetween, isWord_of_isBlank hbetween, hfeed⟩, ?_, rfl⟩
        · intro c hc
          exact List.mem_takeWhile_imp hc
        · have ht : tail = value ++ if decide (tail ≠ value) then ['\n'] else [] := by
            rcases htail with rfl | rfl <;> simp
          rw [Complete.chars, Complete.tail, ← ht, ← hrest]
      · cases h
    · cases h
  · rintro ⟨a, rfl, rfl⟩
    exact annotationAt?_chars a

theorem find?_eq_none_iff {line : List Char} :
    find? line = none ↔ ∀ p, annotationAt? (line.drop p) = none := by
  induction line with
  | nil => simp [find?, annotationAt?]
  | cons c line ih =>
    rw [find?, Option.or_eq_none_iff, ih]
    constructor
    · rintro ⟨hfirst, hrest⟩ p
      cases p with
      | zero => exact hfirst
      | succ p => exact hrest p
    · intro h
      exact ⟨h 0, fun p => h (p + 1)⟩

theorem find?_eq_some_iff {line : List Char} {f : Found} :
    find? line = some f ↔ ∃ p, annotationAt? (line.drop p) = some f ∧
      ∀ q < p, annotationAt? (line.drop q) = none := by
  induction line with
  | nil => simp [find?, annotationAt?]
  | cons c line ih =>
    rw [find?, Option.or_eq_some_iff, ih]
    constructor
    · rintro (h | ⟨hfirst, p, hp, hbefore⟩)
      · exact ⟨0, h, fun q hq => absurd hq (by omega)⟩
      · refine ⟨p + 1, hp, ?_⟩
        intro q hq
        cases q with
        | zero => exact hfirst
        | succ q => exact hbefore q (by omega)
    · rintro ⟨p, hp, hbefore⟩
      cases p with
      | zero => exact Or.inl hp
      | succ p =>
        refine Or.inr ⟨hbefore 0 (by omega), p, hp, ?_⟩
        intro q hq
        exact hbefore (q + 1) (by omega)

theorem annotationAt?_drop_eq_none {line : List Char} {p : Nat} :
    annotationAt? (line.drop p) = none ↔ ∀ a, ¬ StandsAt line p a := by
  rw [Option.eq_none_iff_forall_ne_some]
  constructor
  · intro h a ha
    exact h a.found (annotationAt?_eq_some.mpr ⟨a, ha, rfl⟩)
  · intro h f hf
    obtain ⟨a, ha, -⟩ := annotationAt?_eq_some.mp hf
    exact h a ha

/-- What becomes of a reading with what is found in one more line. -/
inductive Taken (r : Reading) : Option Found → Reading → Prop where
  | nothing : Taken r none r
  | other {f} : f.name ∉ ["type", "comparator"] → Taken r (some f) r
  | unknown {f} : f.name = "type" → f.value ∉ ["and", "or"] →
      Taken r (some f) { r with errors := r.errors ++ [⟨"type", f.value⟩] }
  | operator {f o} : f.name = "type" → (f.value, o) ∈ [("and", Operator.all), ("or", .any)] →
      Taken r (some f) { r with annotations.operator := some o }
  | comparator {f c} : f.name = "comparator" →
      FirstReplaced "default".toList "contains".toList f.value.toList c.toList →
      Taken r (some f) { r with annotations.comparators := r.annotations.comparators ++ [c] }

theorem taken_add (r : Reading) (f : Found) : Taken r (some f) (r.add f.name f.value) := by
  unfold Reading.add
  by_cases ht : f.name = "type"
  · rw [if_pos ht, Entry.lookup_annotationWords]
    by_cases ha : f.value = "and"
    · rw [if_pos ha]
      exact .operator ht (by simp [ha])
    by_cases ho : f.value = "or"
    · rw [if_neg ha, if_pos ho]
      exact .operator ht (by simp [ho])
    · rw [if_neg ha, if_neg ho, ht]
      exact .unknown ht (by simp [ha, ho])
  by_cases hc : f.name = "comparator"
  · rw [if_neg ht, if_pos hc]
    have hs : (String.ofList (spellDefault f.value.toList)).toList = spellDefault f.value.toList :=
      String.toList_ofList
    refine .comparator hc ?_
    rw [hs]
    exact firstReplaced_spellDefault f.value.toList
  · rw [if_neg ht, if_neg hc]
    exact .other (by simp [ht, hc])

theorem taken_addLine (r : Reading) (line : List Char) :
    Taken r (find? line) (r.addLine line) := by
  unfold Reading.addLine
  cases find? line with
  | none => exact .nothing
  | some f => exact taken_add r f

/-- The search finds an annotation in a line exactly if a complete one stands there, and it is the
leftmost. A reading takes in one type, known or not, or one comparator of a line, or is left as it
was. -/
theorem search_of_line (line : List Char) :
    (∀ f, find? line = some f ↔ ∃ p a, StandsAt line p a ∧ a.found = f ∧
      ∀ q b, StandsAt line q b → p ≤ q) ∧
    (find? line = none ↔ ∀ p a, ¬ StandsAt line p a) ∧
    (∀ r : Reading, Taken r (find? line) (r.addLine line)) := by
  refine ⟨?_, ?_, fun r => taken_addLine r line⟩
  · intro f
    rw [find?_eq_some_iff]
    constructor
    · rintro ⟨p, hp, hbefore⟩
      obtain ⟨a, ha, hf⟩ := annotationAt?_eq_some.mp hp
      refine ⟨p, a, ha, hf, ?_⟩
      intro q b hb
      by_contra hq
      exact annotationAt?_drop_eq_none.mp (hbefore q (by omega)) b hb
    · rintro ⟨p, a, ha, hf, hleast⟩
      refine ⟨p, annotationAt?_eq_some.mpr ⟨a, ha, hf⟩, ?_⟩
      intro q hq
      apply annotationAt?_drop_eq_none.mpr
      intro b hb
      have hle := hleast q b hb
      omega
  · rw [find?_eq_none_iff]
    exact forall_congr' fun p => annotationAt?_drop_eq_none

/-- A type that a line feed cuts short is passed over for the comparator behind it. -/
example : find? " @type and\n @comparator is\n".toList =
    some ("comparator".toList, "is".toList) := by
  decide +kernel

end MailFilter.Annotations
