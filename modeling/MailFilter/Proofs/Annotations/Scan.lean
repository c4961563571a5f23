import MailFilter.Annotations.Reading
import MailFilter.Proofs.Annotations.Grammar

/-!
# What is read from annotation comments

Reading is a fold over the annotations it finds, and it finds one in each line of the comment that
the next line follows with a plain space and no line feed cuts short. A line that is followed by
another blank, or that holds a line feed, passes for a block but is lost.
-/
namespace MailFilter.Annotations

open Text (isBlank isWord)

abbrev Found := List Char × List Char

def Found.name (a : Found) : String := String.ofList a.1

def Found.value (a : Found) : String := String.ofList a.2

def Found.operator? (a : Found) : Option Operator :=
  if a.name = "type" then annotationWords.lookup a.value else none

def Found.comparator? (a : Found) : Option String :=
  if a.name = "comparator" then some (String.ofList (spellDefault a.2)) else none

def Found.unknown? (a : Found) : Option UnknownWord :=
  if a.name = "type" ∧ annotationWords.lookup a.value = none then some ⟨a.name, a.value⟩ else none

/-- What a list of annotations declares: the last type that is known, all comparators, and each
type that is not known. -/
def Reading.ofFound (found : List Found) : Reading where
  annotations := ⟨(found.filterMap Found.operator?).getLast?, found.filterMap Found.comparator?⟩
  errors := found.filterMap Found.unknown?

def found (cs : List Char) : List Found := (pieces cs).filterMap find?

theorem Reading.ofFound_append_singleton (before : List Found) (a : Found) :
    Reading.ofFound (before ++ [a]) = (Reading.ofFound before).add a.name a.value := by
  unfold Reading.ofFound Reading.add
  by_cases ht : a.name = "type"
  · have hc : a.comparator? = none := by simp [Found.comparator?, ht]
    cases hw : annotationWords.lookup a.value with
    | some operator =>
      have ho : a.operator? = some operator := by simp [Found.operator?, ht, hw]
      have hu : a.unknown? = none := by simp [Found.unknown?, hw]
      simp [List.filterMap_append, ho, hc, hu, ht]
    | none =>
      have ho : a.operator? = none := by simp [Found.operator?, hw]
      have hu : a.unknown? = some ⟨a.name, a.value⟩ := by simp [Found.unknown?, ht, hw]
      simp [List.filterMap_append, ho, hc, hu, ht]
  · have ho : a.operator? = none := by simp [Found.operator?, ht]
    have hu : a.unknown? = none := by simp [Found.unknown?, ht]
    by_cases hn : a.name = "comparator"
    · have hc : a.comparator? = some (String.ofList (spellDefault a.value.toList)) := by
        simp [Found.comparator?, Found.value, hn]
      simp [List.filterMap_append, ho, hc, hu, hn]
    · have hc : a.comparator? = none := by simp [Found.comparator?, hn]
      simp [List.filterMap_append, ho, hc, hu, ht, hn]

theorem foldl_addLine (lines : List (List Char)) :
    lines.foldl Reading.addLine Reading.start = Reading.ofFound (lines.filterMap find?) := by
  -- A type replaces the one before it, so the induction is on the end of the list.
  induction lines using List.reverseRecOn with
  | nil => rfl
  | append_singleton before line ih =>
    rw [List.foldl_append, ih, List.filterMap_append, List.foldl_cons, List.foldl_nil,
      Reading.addLine]
    cases hf : find? line with
    | none => rw [List.filterMap_cons_none hf, List.filterMap_nil, List.append_nil]
    | some a =>
      rw [List.filterMap_cons_some hf, List.filterMap_nil]
      exact (Reading.ofFound_append_singleton _ a).symm

theorem gather_eq_ofFound (text : String) : gather text = Reading.ofFound (found text.toList) :=
  foldl_addLine _

private theorem blank_points_not_words :
    ∀ n ∈ Text.blanks.ranges.flatMap fun (first, last) => List.range' first (last + 1 - first),
      (Text.words.ranges.any fun (first, last) => first ≤ n && n ≤ last) = false := by
  decide +kernel

theorem isWord_of_isBlank {c : Char} (h : isBlank c = true) : isWord c = false := by
  apply blank_points_not_words c.toNat
  obtain ⟨⟨first, last⟩, hr, hc⟩ := List.any_eq_true.mp h
  rw [Bool.and_eq_true, decide_eq_true_iff, decide_eq_true_iff] at hc
  refine List.mem_flatMap.mpr ⟨_, hr, List.mem_range'_1.mpr ?_⟩
  omega

theorem lineValue?_eq_some {cs v : List Char} (h : lineValue? cs = some v) :
    '\n' ∉ v ∧ (cs = v ∨ cs = v ++ ['\n']) := by
  have hsplit := List.takeWhile_append_dropWhile (p := (· ≠ '\n')) (l := cs)
  have hno : '\n' ∉ cs.takeWhile (· ≠ '\n') := by
    intro hm
    simpa using List.mem_takeWhile_imp hm
  unfold lineValue? at h
  split at h
  · rename_i hd
    obtain rfl := Option.some.inj h
    rw [hd, List.append_nil] at hsplit
    exact ⟨hsplit ▸ hno, Or.inl rfl⟩
  · rename_i hd
    obtain rfl := Option.some.inj h
    exact ⟨hno, Or.inr (by rw [← hd, hsplit])⟩
  · cases h

theorem lineValue?_of_notMem {v : List Char} (h : '\n' ∉ v) : lineValue? v = some v := by
  have hd : v.dropWhile (· ≠ '\n') = [] := by
    apply List.dropWhile_eq_nil_iff.mpr
    intro c hc
    exact decide_eq_true fun he => h (he ▸ hc)
  rw [lineValue?, hd]

theorem lineValue?_of_feed (v : List Char) (c : Char) (rest : List Char) :
    lineValue? (v ++ '\n' :: c :: rest) = none := by
  cases hl : lineValue? (v ++ '\n' :: c :: rest) with
  | none => rfl
  | some w =>
    obtain ⟨hno, hw | hw⟩ := lineValue?_eq_some hl
    · exact absurd (hw ▸ by simp) hno
    · have hd := congrArg List.dropLast hw
      rw [List.dropLast_concat, List.dropLast_append_of_ne_nil (by simp)] at hd
      exact absurd (hd ▸ by simp) hno

theorem annotationAt?_across (c : Char) (xs : List Char) (a : Char) (rest : List Char) :
    annotationAt? (c :: (xs ++ '\r' :: '\n' :: a :: rest)) = none := by
  cases xs with
  | nil => rfl
  | cons x xs =>
    by_cases hx : x = '@'
    · subst hx
      have hr : isWord '\r' = false := isWord_of_isBlank (by decide)
      have hd : ∃ b v, (xs ++ '\r' :: '\n' :: a :: rest).dropWhile isWord =
          b :: (v ++ '\n' :: a :: rest) := by
        by_cases hw : ∀ y ∈ xs, isWord y = true
        · refine ⟨'\r', [], ?_⟩
          rw [List.dropWhile_append_of_pos hw, List.dropWhile_cons_of_neg (by simp [hr])]
          rfl
        · have hne : xs.dropWhile isWord ≠ [] := fun he => hw (List.dropWhile_eq_nil_iff.mp he)
          obtain ⟨b, v, hb⟩ := List.exists_cons_of_ne_nil hne
          refine ⟨b, v ++ ['\r'], ?_⟩
          rw [List.dropWhile_append, if_neg (by simp [hb]), hb]
          simp
      obtain ⟨b, v, hd⟩ := hd
      simp [annotationAt?, hd, lineValue?_of_feed]
    · unfold annotationAt?
      split
      · rename_i he
        simp only [List.cons_append, List.cons.injEq] at he
        exact absurd he.2.1 hx
      · rfl

theorem find?_skip (xs : List Char) {a : Char} (ha : isBlank a = true) (rest : List Char) :
    find? (xs ++ '\r' :: '\n' :: a :: '*' :: rest) = find? rest := by
  induction xs with
  | nil =>
    have hne : a ≠ '@' := by
      rintro rfl
      exact absurd ha (by decide)
    have hfeed : annotationAt? ('\n' :: a :: '*' :: rest) = none := by
      unfold annotationAt?
      split
      · rename_i he
        simp only [List.cons.injEq] at he
        exact absurd he.2.1 hne
      · rfl
    have hstar : annotationAt? ('*' :: rest) = none := by
      unfold annotationAt?
      split
      · rename_i he
        simp only [List.cons.injEq] at he
        rw [if_neg (by rw [← he.1]; decide)]
      · rfl
    simp only [List.nil_append, find?, hfeed, hstar, Option.none_or]
    rfl
  | cons c xs ih =>
    rw [List.cons_append, find?, annotationAt?_across, Option.none_or, ih]

theorem pieces_ne_nil (cs : List Char) : pieces cs ≠ [] := by
  unfold pieces
  split
  · simp
  · split <;> simp
  · simp

theorem pieces_cons {c : Char} {cs : List Char}
    (h : ∀ rest, c :: cs ≠ '\r' :: '\n' :: ' ' :: '*' :: rest) :
    pieces (c :: cs) = (pieces cs).modifyHead (c :: ·) := by
  rw [pieces.eq_2 c cs (fun rest hc hcs => h rest (by rw [hc, hcs]))]
  cases hp : pieces cs with
  | nil => exact absurd hp (pieces_ne_nil cs)
  | cons piece more => rfl

/-- A stretch without a line end that a star follows, whatever stands behind it. -/
def Uncut (xs : List Char) : Prop :=
  ∀ cs, pieces (xs ++ cs) = (pieces cs).modifyHead (xs ++ ·)

theorem uncut_cons {c : Char} {xs : List Char} (hc : c = '\r' → xs ≠ [] ∧ xs.head? ≠ some '\n')
    (hx : Uncut xs) : Uncut (c :: xs) := by
  intro cs
  have hsep : ∀ rest, c :: (xs ++ cs) ≠ '\r' :: '\n' :: ' ' :: '*' :: rest := by
    intro rest he
    simp only [List.cons.injEq] at he
    obtain ⟨hne, hhead⟩ := hc he.1
    obtain ⟨x, xs, rfl⟩ := List.exists_cons_of_ne_nil hne
    simp only [List.cons_append, List.cons.injEq] at he
    exact hhead (congrArg some he.2.1)
  rw [List.cons_append, pieces_cons hsep, hx cs, List.modifyHead_modifyHead]
  rfl

theorem uncut_of_no_return {xs : List Char} (h : '\r' ∉ xs) : Uncut xs := by
  induction xs with
  | nil =>
    intro cs
    obtain ⟨piece, more, hp⟩ := List.exists_cons_of_ne_nil (pieces_ne_nil cs)
    simp [hp]
  | cons c xs ih =>
    refine uncut_cons ?_ (ih fun hm => h (List.mem_cons_of_mem c hm))
    rintro rfl
    exact absurd List.mem_cons_self h

theorem Line.tail_uncut (l : Line) : Uncut l.tail := by
  have hk : '\r' ∉ l.keyword.letters := by cases l.keyword <;> decide
  refine uncut_cons (fun _ => by simp) (uncut_of_no_return ?_)
  simp [hk, l.body_no_return]

/-- A line end and a star behind another blank than a plain space do not end a piece, and the
stretch before them is lost. -/
theorem found_line_end {xs : List Char} (hx : Uncut xs) {a : Char} (ha : isBlank a = true)
    (rest : List Char) :
    found (xs ++ '\r' :: '\n' :: a :: '*' :: rest) =
      (if a = ' ' then (find? xs).toList else []) ++ found rest := by
  unfold found
  rw [hx]
  by_cases hs : a = ' '
  · subst hs
    have hp : pieces ('\r' :: '\n' :: ' ' :: '*' :: rest) = [] :: pieces rest := rfl
    rw [hp, if_pos rfl, List.modifyHead_cons, List.append_nil]
    cases hf : find? xs with
    | none => rw [List.filterMap_cons_none hf]; rfl
    | some b => rw [List.filterMap_cons_some hf]; rfl
  · have hstar : Uncut [a, '*'] := by
      refine uncut_cons (fun _ => by simp) (uncut_of_no_return (by simp))
    have hp : pieces ('\r' :: '\n' :: a :: '*' :: rest) =
        (pieces rest).modifyHead (['\r', '\n', a, '*'] ++ ·) := by
      rw [pieces_cons (by simp [hs]), pieces_cons (by simp)]
      rw [show a :: '*' :: rest = [a, '*'] ++ rest from rfl, hstar rest]
      rw [List.modifyHead_modifyHead, List.modifyHead_modifyHead]
      rfl
    obtain ⟨piece, more, hm⟩ := List.exists_cons_of_ne_nil (pieces_ne_nil rest)
    have hf : find? (xs ++ ['\r', '\n', a, '*'] ++ piece) = find? piece := by
      simpa using find?_skip xs ha piece
    rw [hp, hm, if_neg hs, List.nil_append, List.modifyHead_cons, List.modifyHead_cons,
      ← List.append_assoc]
    simp only [List.filterMap_cons, hf]

/-- The value of a line: its body behind one blank, if it begins with one. -/
def Line.value? (l : Line) : Option (List Char) :=
  match l.body with
  | c :: v => if isBlank c then some v else none
  | [] => none

def Line.declared? (l : Line) : Option Found := l.value?.map (l.keyword.letters, ·)

/-- The annotation read from a line, given the blank before the next star. -/
def Line.scanned? (l : Line) (next : Char) : Option Found :=
  if next = ' ' then find? l.tail else none

/-- The next star stands behind a plain space, and no line feed stands in the value. -/
def Line.Kept (l : Line) (next : Char) : Prop :=
  ∀ v, l.value? = some v → next = ' ' ∧ '\n' ∉ v

def Line.Silent (l : Line) (next : Char) : Prop :=
  l.value? = none → ∀ a, l.scanned? next = some a → a.name ≠ "type" ∧ a.name ≠ "comparator"

def firstBlank : List Line → Char → Char
  | [], closing => closing
  | l :: _, _ => l.before

def followed : List Line → Char → List (Line × Char)
  | [], _ => []
  | l :: lines, closing => (l, firstBlank lines closing) :: followed lines closing

def Block.followed (b : Block) : List (Line × Char) := Annotations.followed b.lines b.closing

theorem map_fst_followed (lines : List Line) (closing : Char) :
    (followed lines closing).map Prod.fst = lines := by
  induction lines with
  | nil => rfl
  | cons l lines ih => rw [followed, List.map_cons, ih]

theorem found_of_lines (l : Line) (lines : List Line) {closing : Char}
    (hc : isBlank closing = true) :
    found (l.tail ++ '\r' :: '\n' :: linesChars lines closing) =
      (followed (l :: lines) closing).filterMap fun p => p.1.scanned? p.2 := by
  induction lines generalizing l with
  | nil =>
    have hrest : found ['/'] = [] := by decide
    have h := found_line_end l.tail_uncut hc ['/']
    rw [hrest, List.append_nil] at h
    simp only [linesChars, List.flatMap_nil, List.nil_append, h, followed, firstBlank,
      List.filterMap_cons, List.filterMap_nil, Line.scanned?]
    split <;> cases find? l.tail <;> rfl
  | cons m lines ih =>
    have hm : linesChars (m :: lines) closing =
        m.before :: '*' :: (m.tail ++ '\r' :: '\n' :: linesChars lines closing) := by
      rw [linesChars_cons, Line.chars]
      simp
    have hf : followed (l :: m :: lines) closing = (l, m.before) :: followed (m :: lines) closing :=
      rfl
    rw [hm, found_line_end l.tail_uncut m.before_blank, ih m, hf, List.filterMap_cons,
      Line.scanned?]
    split <;> cases find? l.tail <;> rfl

/-- The annotations found in a block come from its lines, one from a line at most, in order. -/
theorem found_of_block (b : Block) :
    found b.text.toList = b.followed.filterMap fun p => p.1.scanned? p.2 := by
  obtain ⟨lines, closing, hne, hc⟩ := b
  obtain ⟨l, lines, rfl⟩ := List.exists_cons_of_ne_nil hne
  have hopen : Uncut ['/', '*', '*'] := uncut_of_no_return (by decide)
  have hnone : find? ['/', '*', '*'] = none := by decide
  have htext : (Block.mk (l :: lines) closing hne hc).text.toList =
      ['/', '*', '*'] ++ '\r' :: '\n' :: l.before :: '*' ::
        (l.tail ++ '\r' :: '\n' :: linesChars lines closing) := by
    rw [Block.text, String.toList_ofList, linesChars_cons, Line.chars]
    simp [opening]
  rw [htext, found_line_end hopen l.before_blank, hnone, found_of_lines l lines hc]
  simp [Block.followed]

theorem gather_of_block (b : Block) :
    gather b.text = Reading.ofFound (b.followed.filterMap fun p => p.1.scanned? p.2) := by
  rw [gather_eq_ofFound, found_of_block]

theorem find?_no_feed {cs n v : List Char} (h : find? cs = some (n, v)) : '\n' ∉ v := by
  induction cs with
  | nil => cases h
  | cons c cs ih =>
    rw [find?, Option.or_eq_some_iff] at h
    rcases h with h | ⟨-, h⟩
    · unfold annotationAt? at h
      split at h
      · split_ifs at h with ha
        split at h
        · split_ifs at h with hb
          obtain ⟨w, hw, he⟩ := Option.map_eq_some_iff.mp h
          rw [← (Prod.mk.inj he).2]
          exact (lineValue?_eq_some hw).1
        · cases h
      · cases h
    · exact ih h

theorem Keyword.letters_words (k : Keyword) : ∀ c ∈ k.letters, isWord c = true := by
  rw [← List.all_eq_true]
  cases k <;> decide +kernel

theorem Line.scanned?_eq_declared? {l : Line} {v : List Char} (h : l.value? = some v)
    (next : Char) : l.scanned? next = l.declared? ↔ next = ' ' ∧ '\n' ∉ v := by
  have hbody : ∃ c, isBlank c = true ∧ l.body = c :: v := by
    unfold Line.value? at h
    split at h
    · split_ifs at h with hc
      exact ⟨_, hc, by rw [← Option.some.inj h]; assumption⟩
    · cases h
  obtain ⟨c, hc, hbody⟩ := hbody
  rw [Line.declared?, h, Option.map_some]
  constructor
  · intro hs
    unfold Line.scanned? at hs
    split_ifs at hs with hn
    exact ⟨hn, find?_no_feed hs⟩
  · rintro ⟨hn, hv⟩
    have hw : (c :: v).dropWhile isWord = c :: v :=
      List.dropWhile_cons_of_neg (by simp [isWord_of_isBlank hc])
    have hd : (l.keyword.letters ++ c :: v).dropWhile isWord = c :: v := by
      rw [List.dropWhile_append_of_pos l.keyword.letters_words, hw]
    have ht : (l.keyword.letters ++ c :: v).takeWhile isWord = l.keyword.letters := by
      rw [List.takeWhile_append_of_pos l.keyword.letters_words,
        List.takeWhile_cons_of_neg (by simp [isWord_of_isBlank hc]), List.append_nil]
    have ha : annotationAt? l.tail = some (l.keyword.letters, v) := by
      simp [annotationAt?, Line.tail, hbody, hd, ht, l.between_blank, hc, lineValue?_of_notMem hv]
    rw [Line.scanned?, if_pos hn, Line.tail, find?]
    rw [Line.tail] at ha
    rw [ha, Option.some_or]

theorem filterMap_eq_map_iff {α β : Type} {f : α → Option β} {g : α → β} {xs : List α} :
    xs.filterMap f = xs.map g ↔ ∀ x ∈ xs, f x = some (g x) := by
  induction xs with
  | nil => simp
  | cons x xs ih =>
    rw [List.map_cons, List.forall_mem_cons]
    cases hf : f x with
    | none =>
      rw [List.filterMap_cons_none hf]
      constructor
      · intro h
        have hl := List.length_filterMap_le f xs
        rw [h, List.length_cons, List.length_map] at hl
        omega
      · rintro ⟨h, -⟩
        cases h
    | some y => rw [List.filterMap_cons_some hf, List.cons.injEq, Option.some.injEq, ih]

/-- The blocks in which each line declares something are found as declared exactly if each line
is kept. -/
theorem found_eq_declared_iff {b : Block} (h : ∀ l ∈ b.lines, l.value? ≠ none) :
    found b.text.toList = b.lines.filterMap Line.declared? ↔
      ∀ p ∈ b.followed, p.1.Kept p.2 := by
  have hlines : b.followed.map Prod.fst = b.lines := map_fst_followed b.lines b.closing
  have hvalue : ∀ p ∈ b.followed, ∃ v, p.1.value? = some v := by
    intro p hp
    exact Option.ne_none_iff_exists'.mp (h p.1 (hlines ▸ List.mem_map_of_mem hp))
  have hdeclared : b.lines.filterMap Line.declared? =
      b.followed.map fun p => (p.1.keyword.letters, p.1.value?.getD []) := by
    rw [← hlines, List.filterMap_map]
    refine filterMap_eq_map_iff.mpr ?_
    intro p hp
    obtain ⟨v, hv⟩ := hvalue p hp
    simp [Line.declared?, hv]
  rw [hdeclared, found_of_block, filterMap_eq_map_iff]
  refine forall₂_congr fun p hp => ?_
  obtain ⟨v, hv⟩ := hvalue p hp
  have hs := Line.scanned?_eq_declared? hv p.2
  rw [Line.declared?, hv, Option.map_some] at hs
  rw [hv, Option.getD_some, hs, Line.Kept]
  simp [hv]

theorem ofFound_congr {α : Type} {f g : α → Option Found} {xs : List α}
    (h : ∀ x ∈ xs, f x = g x ∨
      g x = none ∧ ∀ a, f x = some a → a.name ≠ "type" ∧ a.name ≠ "comparator") :
    Reading.ofFound (xs.filterMap f) = Reading.ofFound (xs.filterMap g) := by
  have hsame : ∀ {β : Type} (r : Found → Option β),
      (∀ a : Found, a.name ≠ "type" → a.name ≠ "comparator" → r a = none) →
      (xs.filterMap f).filterMap r = (xs.filterMap g).filterMap r := by
    intro β r hr
    rw [List.filterMap_filterMap, List.filterMap_filterMap]
    refine List.filterMap_congr fun x hx => ?_
    obtain he | ⟨hg, hf⟩ := h x hx
    · rw [he]
    · rw [hg]
      cases hx : f x with
      | none => rfl
      | some a => exact hr a (hf a hx).1 (hf a hx).2
  have ho := hsame Found.operator? fun a ht _ => by simp [Found.operator?, ht]
  have hc := hsame Found.comparator? fun a _ hn => by simp [Found.comparator?, hn]
  have hu := hsame Found.unknown? fun a ht _ => by simp [Found.unknown?, ht]
  rw [Reading.ofFound, Reading.ofFound, ho, hc, hu]

theorem gather_of_kept {b : Block}
    (h : ∀ p ∈ b.followed, p.1.Kept p.2 ∧ p.1.Silent p.2) :
    gather b.text = Reading.ofFound (b.lines.filterMap Line.declared?) := by
  have hlines : b.followed.map Prod.fst = b.lines := map_fst_followed b.lines b.closing
  rw [gather_of_block, ← hlines, List.filterMap_map]
  refine ofFound_congr fun p hp => ?_
  obtain ⟨hk, hs⟩ := h p hp
  cases hv : p.1.value? with
  | some v => exact Or.inl ((Line.scanned?_eq_declared? hv p.2).mpr (hk v hv))
  | none => exact Or.inr ⟨by simp [Line.declared?, hv], hs hv⟩

/-- What is read from a comment that passes for a block. Its lines are unique; a line is read for
what it declares exactly if it is kept; and if all lines are kept, and those without a value are
silent, nothing else is read. -/
theorem scan_of_block {text : String} (h : isBlock text = true) :
    ∃ b : Block, (b.text = text ∧ ∀ d : Block, d.text = text → d = b) ∧
      gather text = Reading.ofFound (b.followed.filterMap fun p => p.1.scanned? p.2) ∧
      (∀ p ∈ b.followed, ∀ v, p.1.value? = some v →
        (p.1.scanned? p.2 = p.1.declared? ↔ p.2 = ' ' ∧ '\n' ∉ v)) ∧
      ((∀ l ∈ b.lines, l.value? ≠ none) →
        (found text.toList = b.lines.filterMap Line.declared? ↔
          ∀ p ∈ b.followed, p.1.Kept p.2)) ∧
      ((∀ p ∈ b.followed, p.1.Kept p.2 ∧ p.1.Silent p.2) →
        gather text = Reading.ofFound (b.lines.filterMap Line.declared?)) := by
  obtain ⟨b, rfl⟩ := isBlock_iff.mp h
  refine ⟨b, ⟨rfl, ?_⟩, gather_of_block b, ?_, found_eq_declared_iff, gather_of_kept⟩
  · intro d hd
    exact Block.text_injective hd
  · intro p _ v hv
    exact Line.scanned?_eq_declared? hv p.2

def tabbedComment : String := "/**\r\n * @comparator is\r\n\t* @comparator contains\r\n */"

theorem scan_of_tabbed : isBlock tabbedComment = true ∧
    ∃ b : Block, b.text = tabbedComment ∧
      gather tabbedComment = Reading.ofFound (b.followed.filterMap fun p => p.1.scanned? p.2) := by
  have h : isBlock tabbedComment = true := by decide
  obtain ⟨b, ⟨hb, -⟩, hg, -⟩ := scan_of_block h
  exact ⟨h, b, hb, hg⟩

/-- The first comparator of the two is lost. -/
theorem tabbed_loses_comparator : isBlock tabbedComment = true ∧
    (∃ b : Block, b.text = tabbedComment ∧
      (b.lines.filterMap Line.declared?).map Found.value = ["is", "contains"]) ∧
    (gather tabbedComment).annotations.comparators = ["contains"] := by
  refine ⟨by decide, ⟨⟨[⟨' ', ' ', .comparator, [' ', 'i', 's'], ?_, ?_, ?_, ?_⟩,
    ⟨'\t', ' ', .comparator, " contains".toList, ?_, ?_, ?_, ?_⟩], ' ', ?_, ?_⟩, ?_, ?_⟩, ?_⟩
  all_goals decide +kernel

end MailFilter.Annotations
