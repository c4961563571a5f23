import MailFilter.Command.Printer
import MailFilter.Text.Printable
import Mathlib.Data.List.Count
import Mathlib.Data.List.Infix

/-!
# What commands may rely on in a console

A console reads tags and the codes of emoji in what it is given. It shows no line as it is that
holds a tag, or a backslash in front of a bracket, and it shows a line as it is that holds no code
either. Markup fails only at a closing tag that closes nothing, and escaped text has no tags. All
this is about lines before they are broken to the width of a screen.
-/
namespace MailFilter.Markup

/-- An opening bracket, a small letter or one of three signs, and what follows up to a closing
bracket. -/
def IsTag (t : List Char) : Prop :=
  ∃ c inner, ('a' ≤ c ∧ c ≤ 'z' ∨ c ∈ ['#', '/', '@']) ∧ '[' ∉ inner ∧ ']' ∉ inner ∧
    t = '[' :: (c :: inner ++ [']'])

def TagFree (cs : List Char) : Prop := ∀ t, IsTag t → ¬ t <:+: cs

structure Verbatim (cs : List Char) : Prop where
  tagFree : TagFree cs
  escapeFree : ¬ ['\\', '['] <:+: cs

/-- A code is a name between colons that has no blank in it. -/
def EmojiFree (cs : List Char) : Prop := ∀ name, ':' :: (name ++ [':']) <:+: cs → ' ' ∈ name

def Plain (words : List Char) : Prop := '\\' ∉ words ∧ '[' ∉ words

instance (words : List Char) : Decidable (Plain words) :=
  inferInstanceAs (Decidable ('\\' ∉ words ∧ '[' ∉ words))

theorem plain_append_iff {words rest : List Char} :
    Plain (words ++ rest) ↔ Plain words ∧ Plain rest := by
  simp only [Plain, List.mem_append]
  tauto

theorem infix_append_iff_of_notMem {x : Char} {t words cs : List Char} (hx : x ∉ words) :
    x :: t <:+: words ++ cs ↔ x :: t <:+: cs := by
  constructor
  · intro h
    induction words with
    | nil => exact h
    | cons w words ih =>
      obtain ⟨hw, hwords⟩ := not_or.mp (mt List.mem_cons.mpr hx)
      rcases List.infix_cons_iff.mp h with hp | hi
      · exact absurd (List.cons_prefix_cons.mp hp).1 hw
      · exact ih hwords hi
  · intro h
    exact h.trans (List.suffix_append words cs).isInfix

theorem tagFree_append_iff {words cs : List Char} (hw : '[' ∉ words) :
    TagFree (words ++ cs) ↔ TagFree cs := by
  constructor
  · rintro h t ⟨c, inner, hc, ho, hi, rfl⟩
    rw [← infix_append_iff_of_notMem hw]
    exact h _ ⟨c, inner, hc, ho, hi, rfl⟩
  · rintro h t ⟨c, inner, hc, ho, hi, rfl⟩
    rw [infix_append_iff_of_notMem hw]
    exact h _ ⟨c, inner, hc, ho, hi, rfl⟩

theorem verbatim_of_not_mem {cs : List Char} (h : '[' ∉ cs) : Verbatim cs := by
  constructor
  · rintro t ⟨c, inner, -, -, -, rfl⟩ hi
    exact h (hi.subset List.mem_cons_self)
  · intro hi
    exact h (hi.subset (by simp))

theorem verbatim_append_iff {words cs : List Char} (hw : Plain words) :
    Verbatim (words ++ cs) ↔ Verbatim cs := by
  constructor
  · rintro ⟨ht, he⟩
    exact ⟨(tagFree_append_iff hw.2).mp ht, (infix_append_iff_of_notMem hw.1).not.mp he⟩
  · rintro ⟨ht, he⟩
    exact ⟨(tagFree_append_iff hw.2).mpr ht, (infix_append_iff_of_notMem hw.1).not.mpr he⟩

theorem emojiFree_of_count_le_one {cs : List Char} (h : cs.count ':' ≤ 1) : EmojiFree cs := by
  intro name hi
  have hcount := hi.sublist.count_le ':'
  simp only [List.count_cons_self, List.count_append, List.count_nil] at hcount
  omega

/-- A colon with a blank behind it begins no code. -/
theorem emojiFree_append {words cs : List Char} (hw : ':' ∉ words) (h : EmojiFree cs) :
    EmojiFree (words ++ ':' :: ' ' :: cs) := by
  intro name hi
  rw [infix_append_iff_of_notMem hw] at hi
  rcases List.infix_cons_iff.mp hi with hp | hi
  · cases name with
    | nil => simp at hp
    | cons c name => simp [(List.cons_prefix_cons.mp (List.cons_prefix_cons.mp hp).2).1]
  · have hblank : ':' ∉ [' '] := by decide
    exact h name ((infix_append_iff_of_notMem hblank).mp hi)

end MailFilter.Markup

namespace MailFilter.Command

open Markup

def Printable (text : List Char) : Prop := ∀ c ∈ text, Text.isPrintable c = true

-- The instance for quantifiers over characters would look at every character there is.
instance (text : List Char) : Decidable (Printable text) :=
  decidable_of_iff (text.all Text.isPrintable = true) List.all_eq_true

theorem printable_append_iff {text rest : List Char} :
    Printable (text ++ rest) ↔ Printable text ∧ Printable rest :=
  List.forall_mem_append

def styles : List String := ["bold", "bold blue", "dim", "green", "red"]

/-- Markup that has no closing tags but those behind its own styles. -/
inductive Closed (escape : String → String) : String → Prop where
  | words {words : String} : Plain words.toList → Closed escape words
  | escaped (text : String) : Closed escape (escape text)
  | behind {words rest : String} : Plain words.toList → Closed escape rest →
      Closed escape (words ++ rest)
  | styled {style words rest : String} : style ∈ styles → Plain words.toList →
      Closed escape rest → Closed escape (Command.styled style words ++ rest)

/-- What is documented of a console. It shows closed markup. Printable characters make one line,
which is not shown as it is where markup reads something in it, and is where there is no emoji
either. -/
structure Printer.Documented (P : Printer) : Prop where
  line_closed {markup : String} : Closed P.escape markup → ∃ shown, P.line markup = .ok shown
  panel_closed {title markup : String} : Closed P.escape title → Closed P.escape markup →
    ∃ shown, P.panel title markup = .ok shown
  grid_closed {title : String} {head : List String} {rows : List (List String)} :
    (∀ cell ∈ title :: (head ++ rows.flatten), Closed P.escape cell) →
    ∃ shown, P.grid title head rows = .ok shown
  line_styled {style words rest : String} : style ∈ styles → Plain words.toList →
    Plain rest.toList → Printable (words ++ rest).toList → EmojiFree (words ++ rest).toList →
    P.line (styled style words ++ rest) = .ok (words ++ rest ++ "\n")
  line_verbatim {text : String} : Printable text.toList → EmojiFree text.toList →
    Verbatim text.toList → P.line text = .ok (text ++ "\n")
  line_marked {text : String} : Printable text.toList → ¬ Verbatim text.toList →
    P.line text ≠ .ok (text ++ "\n")
  line_single {text shown : String} : Printable text.toList → P.line text = .ok shown →
    ∃ row : String, shown = row ++ "\n" ∧ '\n' ∉ row.toList

end MailFilter.Command
