import MailFilter.Proofs.Annotations.Scan
import Mathlib.Data.List.Forall2

/-!
# Writing annotation comments

A comment with one annotation on each line, laid out with plain spaces, is a block and is read back:
whatever its words are, none is lost, and each type that is not known is reported.
-/
namespace MailFilter.Annotations

open Text (isBlank)

theorem isBlank_space : isBlank ' ' = true := by decide

def Line.plain (keyword : Keyword) (word : String) (h : '\r' ∉ word.toList) : Line where
  before := ' '
  between := ' '
  keyword := keyword
  body := ' ' :: word.toList
  before_blank := isBlank_space
  between_blank := isBlank_space
  body_ne_nil := by simp
  body_no_return := by simpa using h

theorem followed_snd {lines : List Line} (h : ∀ l ∈ lines, l.before = ' ') :
    ∀ p ∈ followed lines ' ', p.2 = ' ' := by
  induction lines with
  | nil => simp [followed]
  | cons l lines ih =>
    intro p hp
    rcases List.mem_cons.mp hp with rfl | hp
    · cases lines with
      | nil => rfl
      | cons m lines => exact h m (by simp)
    · exact ih (fun m hm => h m (List.mem_cons_of_mem _ hm)) p hp

theorem Block.kept_of_plain {b : Block} (hc : b.closing = ' ')
    (hl : ∀ l ∈ b.lines, l.before = ' ' ∧ ∃ v, l.value? = some v ∧ '\n' ∉ v) :
    ∀ p ∈ b.followed, p.1.Kept p.2 ∧ p.1.Silent p.2 := by
  intro p hp
  have hmem : p.1 ∈ b.lines := by
    rw [← map_fst_followed b.lines b.closing]
    exact List.mem_map_of_mem hp
  have hnext : p.2 = ' ' := by
    rw [Block.followed, hc] at hp
    exact followed_snd (fun l h => (hl l h).1) p hp
  obtain ⟨-, v, hv, hfeed⟩ := hl p.1 hmem
  constructor
  · intro w hw
    rw [hv, Option.some.injEq] at hw
    exact ⟨hnext, hw ▸ hfeed⟩
  · intro hw
    rw [hv] at hw
    cases hw

/-- An annotation to be written: its word stands on one line. -/
structure Entry where
  keyword : Keyword
  word : String
  no_return : '\r' ∉ word.toList
  no_feed : '\n' ∉ word.toList
  deriving DecidableEq

def Keyword.name : Keyword → String
  | .type => "type"
  | .comparator => "comparator"

def Entry.text (e : Entry) : String := " * @" ++ e.keyword.name ++ " " ++ e.word ++ "\r\n"

def written (entries : List Entry) : String :=
  "/**\r\n" ++ String.join (entries.map Entry.text) ++ " */"

def Entry.operator? (e : Entry) : Option Operator :=
  if e.keyword = .type ∧ e.word = "and" then some .all
  else if e.keyword = .type ∧ e.word = "or" then some .any
  else none

def Entry.comparator? (e : Entry) : Option String :=
  if e.keyword = .comparator then some e.word else none

def Entry.unknown? (e : Entry) : Option String :=
  if e.keyword = .type ∧ e.word ≠ "and" ∧ e.word ≠ "or" then some e.word else none

/-- `t` is `s` with `new` in place of the first `old` in it, if there is any. -/
def FirstReplaced (old new s t : List Char) : Prop :=
  ¬ old <:+: s ∧ t = s ∨
  ∃ before after, s = before ++ old ++ after ∧ t = before ++ new ++ after ∧
    ∀ b a, s = b ++ old ++ a → before.length ≤ b.length

theorem spellDefault_cons {c : Char} {s : List Char} (h : ¬ "default".toList <+: c :: s) :
    spellDefault (c :: s) = c :: spellDefault s := by
  refine spellDefault.eq_2 c s ?_
  rintro rest rfl rfl
  exact h ⟨rest, rfl⟩

theorem firstReplaced_spellDefault (s : List Char) :
    FirstReplaced "default".toList "contains".toList s (spellDefault s) := by
  induction s with
  | nil => exact Or.inl ⟨by decide, rfl⟩
  | cons c s ih =>
    by_cases h : "default".toList <+: c :: s
    · obtain ⟨rest, hr⟩ := h
      rw [← hr]
      exact Or.inr ⟨[], rest, rfl, rfl, fun _ _ _ => Nat.zero_le _⟩
    -- No occurrence starts at the first character, so each is one in the rest.
    rw [spellDefault_cons h]
    rcases ih with ⟨hno, hs⟩ | ⟨before, after, hs, ht, hfirst⟩
    · refine Or.inl ⟨?_, by rw [hs]⟩
      rw [List.infix_cons_iff]
      rintro (hp | hi)
      · exact h hp
      · exact hno hi
    · refine Or.inr ⟨c :: before, after, by rw [hs]; rfl, by rw [ht]; rfl, ?_⟩
      intro b a he
      cases b with
      | nil => exact absurd ⟨a, he.symm⟩ h
      | cons d b =>
        have hle := hfirst b a (List.cons.inj he).2
        simp only [List.length_cons]
        omega

namespace Entry

def line (e : Entry) : Line := .plain e.keyword e.word e.no_return

def found (e : Entry) : Found := (e.keyword.letters, e.word.toList)

theorem declared?_line (e : Entry) : e.line.declared? = some e.found := rfl

theorem name_found (e : Entry) : e.found.name = e.keyword.name := by
  cases he : e.keyword <;> simp [found, Found.name, he, Keyword.letters, Keyword.name]

theorem value_found (e : Entry) : e.found.value = e.word := String.ofList_toList

theorem lookup_annotationWords (word : String) :
    annotationWords.lookup word =
      if word = "and" then some .all else if word = "or" then some .any else none := by
  by_cases ha : word = "and"
  · rw [ha]
    rfl
  by_cases ho : word = "or"
  · rw [ho]
    rfl
  rw [if_neg ha, if_neg ho, List.lookup_eq_none_iff]
  simp [annotationWords, ha, ho]

theorem operator?_found (e : Entry) : e.found.operator? = e.operator? := by
  rw [Found.operator?, name_found, value_found, lookup_annotationWords, operator?]
  cases e.keyword <;> simp [Keyword.name]

theorem comparator?_found (e : Entry) :
    e.found.comparator? =
      e.comparator?.map fun word => String.ofList (spellDefault word.toList) := by
  rw [Found.comparator?, name_found, comparator?]
  cases e.keyword <;> simp [Keyword.name, found]

theorem unknown?_found (e : Entry) : e.found.unknown? = e.unknown?.map (UnknownWord.mk "type") := by
  rw [Found.unknown?, name_found, value_found, lookup_annotationWords, unknown?]
  by_cases ha : e.word = "and"
  · simp [ha]
  by_cases ho : e.word = "or"
  · simp [ho]
  cases e.keyword <;> simp [Keyword.name, ha, ho]

end Entry

def Block.ofEntries (entries : List Entry) (h : entries ≠ []) : Block where
  lines := entries.map Entry.line
  closing := ' '
  lines_ne_nil := by simpa using h
  closing_blank := isBlank_space

theorem Block.text_ofEntries {entries : List Entry} (h : entries ≠ []) :
    (Block.ofEntries entries h).text = written entries := by
  have hname : ∀ k : Keyword, k.name.toList = k.letters := by
    intro k
    cases k <;> rfl
  rw [← String.toList_inj, Block.text, String.toList_ofList, written]
  simp [ofEntries, opening, linesChars, Entry.line, Entry.text, Line.plain, Line.chars, Line.tail,
    hname, List.flatMap_map]

theorem gather_written {entries : List Entry} (h : entries ≠ []) :
    gather (written entries) = Reading.ofFound (entries.map Entry.found) := by
  have hkept := Block.kept_of_plain (b := .ofEntries entries h) rfl (by
    intro l hl
    obtain ⟨e, -, rfl⟩ := List.mem_map.mp hl
    exact ⟨rfl, _, rfl, e.no_feed⟩)
  have hdeclared : (Block.ofEntries entries h).lines.filterMap Line.declared? =
      entries.map Entry.found := by
    rw [Block.ofEntries, List.filterMap_map]
    exact filterMap_eq_map_iff.mpr fun e _ => e.declared?_line
  rw [← Block.text_ofEntries h, gather_of_kept hkept, hdeclared]

theorem filterMap_found {α β : Type} {f : Found → Option β} {g : Entry → Option α} {wrap : α → β}
    (h : ∀ e : Entry, f e.found = (g e).map wrap) (entries : List Entry) :
    (entries.map Entry.found).filterMap f = (entries.filterMap g).map wrap := by
  rw [List.filterMap_map, List.map_filterMap]
  exact List.filterMap_congr fun e _ => h e

theorem errors_written {entries : List Entry} (h : entries ≠ []) :
    (gather (written entries)).errors =
      (entries.filterMap Entry.unknown?).map (UnknownWord.mk "type") := by
  rw [gather_written h]
  exact filterMap_found Entry.unknown?_found entries

theorem message_unknownAnnotations (errors : List UnknownWord) :
    (InvalidInput.unknownAnnotations errors).message =
      "Unknown " ++ String.intercalate ", " (errors.map UnknownWord.message) :=
  rfl

/-- A written comment is read as its entries say: the last type that is known, all comparators in
order, and every type that is not known. With such a type it is refused, and the refusal names them
all in order. -/
theorem read_written (entries : List Entry) (h : entries ≠ []) :
    isBlock (written entries) = true ∧
    (gather (written entries)).annotations.operator =
      (entries.filterMap Entry.operator?).getLast? ∧
    List.Forall₂ (fun word comparator => FirstReplaced "default".toList "contains".toList
        word.toList comparator.toList)
      (entries.filterMap Entry.comparator?) (gather (written entries)).annotations.comparators ∧
    (gather (written entries)).errors =
      (entries.filterMap Entry.unknown?).map (UnknownWord.mk "type") ∧
    ((∃ e ∈ entries, e.unknown? ≠ none) → ∃ cause : InvalidInput,
      read (written entries) = .error (.invalidInput cause) ∧
      cause.message = "Unknown " ++ String.intercalate ", "
        ((entries.filterMap Entry.unknown?).map fun word => "type \"" ++ word ++ "\"")) ∧
    ((∀ e ∈ entries, e.unknown? = none) →
      read (written entries) = .ok (gather (written entries)).annotations) := by
  have hread : read (written entries) =
      if (entries.filterMap Entry.unknown?) = [] then .ok (gather (written entries)).annotations
      else .error (.invalidInput (.unknownAnnotations
        ((entries.filterMap Entry.unknown?).map (UnknownWord.mk "type")))) := by
    simp only [read, errors_written h, List.isEmpty_iff, List.map_eq_nil_iff]
  refine ⟨?_, ?_, ?_, errors_written h, ?_, ?_⟩
  · exact isBlock_iff.mpr ⟨_, Block.text_ofEntries h⟩
  · have ho : (entries.map Entry.found).filterMap Found.operator? =
        entries.filterMap Entry.operator? := by
      rw [List.filterMap_map]
      exact List.filterMap_congr fun e _ => e.operator?_found
    rw [gather_written h, ← ho]
    rfl
  · have hc := filterMap_found Entry.comparator?_found entries
    rw [gather_written h]
    show List.Forall₂ _ _ ((entries.map Entry.found).filterMap Found.comparator?)
    rw [hc, List.forall₂_map_right_iff, List.forall₂_same]
    intro word _
    have ht : (String.ofList (spellDefault word.toList)).toList = spellDefault word.toList :=
      String.toList_ofList
    rw [ht]
    exact firstReplaced_spellDefault word.toList
  · rintro ⟨e, he, hu⟩
    have hne : entries.filterMap Entry.unknown? ≠ [] := by
      rw [ne_eq, List.filterMap_eq_nil_iff]
      exact fun hall => hu (hall e he)
    refine ⟨_, hread.trans (if_neg hne), ?_⟩
    rw [message_unknownAnnotations, List.map_map]
    rfl
  · intro hall
    exact hread.trans (if_pos (List.filterMap_eq_nil_iff.mpr hall))

/-- Three types, of which two are not known, and comparators that look like something else. -/
def trickyEntries : List Entry := [
  ⟨.type, "xor", by decide, by decide⟩,
  ⟨.comparator, "default @type or default", by decide, by decide⟩,
  ⟨.type, "or", by decide, by decide⟩,
  ⟨.comparator, "*/", by decide, by decide⟩,
  ⟨.type, "", by decide, by decide⟩]

theorem read_written_tricky :
    trickyEntries ≠ [] ∧ isBlock (written trickyEntries) = true ∧
    (gather (written trickyEntries)).annotations.operator = some .any ∧
    ∃ cause : InvalidInput, read (written trickyEntries) = .error (.invalidInput cause) ∧
      cause.message = "Unknown type \"xor\", type \"\"" := by
  have hne : trickyEntries ≠ [] := by simp [trickyEntries]
  obtain ⟨hblock, hoperator, -, -, hrefused, -⟩ := read_written trickyEntries hne
  refine ⟨hne, hblock, hoperator.trans (by decide), ?_⟩
  obtain ⟨cause, hread, hmessage⟩ := hrefused ⟨_, List.mem_cons_self, by decide⟩
  exact ⟨cause, hread, hmessage.trans (by decide)⟩

end MailFilter.Annotations
