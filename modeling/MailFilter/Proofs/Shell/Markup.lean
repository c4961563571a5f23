import MailFilter.Proofs.Command.Consoles
import MailFilter.Proofs.FirstFailure
import MailFilter.Shell.Screen.Markup
import Mathlib.Data.List.TakeWhile

/-!
# Markup that can be shown

Markup fails only at a closing tag that closes nothing. A text in escaped form has no tags at all,
so it can stand anywhere in markup whose own tags are closed in order.
-/
namespace MailFilter.Screen

open Markup (Plain)

theorem tag?_eq_some {cs inside behind : List Char} :
    tag? cs = some (inside, behind) ↔
      ∃ c inner, inside = c :: inner ∧ beginsTag c = true ∧ (∀ x ∈ inner, isBracket x = false) ∧
        cs = inside ++ ']' :: behind := by
  constructor
  · intro h
    cases cs with
    | nil => cases h
    | cons c rest =>
      simp only [tag?] at h
      split at h
      · rename_i hc
        split at h
        · rename_i after hd
          obtain ⟨rfl, rfl⟩ := Prod.mk.inj (Option.some.inj h)
          refine ⟨c, _, rfl, hc, ?_, ?_⟩
          · intro x hx
            simpa using List.mem_takeWhile_imp hx
          · have hsplit := List.takeWhile_append_dropWhile (p := (!isBracket ·)) (l := rest)
            rw [hd] at hsplit
            rw [List.cons_append, hsplit]
        · cases h
      · cases h
  · rintro ⟨c, inner, rfl, hc, hinner, rfl⟩
    have hall : ∀ x ∈ inner, (!isBracket x) = true := by
      intro x hx
      rw [hinner x hx]
      rfl
    have hdrop : (inner ++ ']' :: behind).dropWhile (!isBracket ·) = ']' :: behind := by
      rw [List.dropWhile_append_of_pos hall]
      rfl
    have htake : (inner ++ ']' :: behind).takeWhile (!isBracket ·) = inner := by
      rw [List.takeWhile_append_of_pos hall]
      exact List.append_nil inner
    simp only [List.cons_append, tag?, hc, if_true, hdrop, htake]

/-- A bracket begins a tag if a tag may begin with the next character, and the next bracket is a
closing one. -/
theorem isSome_tag?_cons (c : Char) (rest : List Char) :
    (tag? (c :: rest)).isSome = true ↔
      beginsTag c = true ∧ (rest.dropWhile (!isBracket ·)).head? = some ']' := by
  simp only [tag?]
  cases hc : beginsTag c with
  | false => simp
  | true =>
    simp only [if_true, true_and]
    split
    · rename_i behind hd
      simp [hd]
    · rename_i hd
      cases he : rest.dropWhile (!isBracket ·) with
      | nil => simp
      | cons d behind =>
        have hne : d ≠ ']' := by
          rintro rfl
          exact hd behind he
        simp [hne]

def slashes (n : Nat) : List Char := List.replicate n '\\'

@[simp] theorem length_slashes (n : Nat) : (slashes n).length = n := List.length_replicate

theorem takeWhile_slashes (n : Nat) {c : Char} (hc : c ≠ '\\') (rest : List Char) :
    (slashes n ++ c :: rest).takeWhile (· = '\\') = slashes n := by
  rw [List.takeWhile_append_of_pos (by simp [slashes]),
    List.takeWhile_cons_of_neg (by simpa using hc), List.append_nil]

theorem dropWhile_slashes (n : Nat) {c : Char} (hc : c ≠ '\\') (rest : List Char) :
    (slashes n ++ c :: rest).dropWhile (· = '\\') = c :: rest := by
  rw [List.dropWhile_append_of_pos (by simp [slashes]),
    List.dropWhile_cons_of_neg (by simpa using hc)]

theorem exists_slashes (cs : List Char) :
    (∃ n, cs = slashes n) ∨ ∃ n c rest, c ≠ '\\' ∧ cs = slashes n ++ c :: rest := by
  have hrun : cs.takeWhile (· = '\\') = slashes (cs.takeWhile (· = '\\')).length :=
    List.eq_replicate_of_mem fun c hc => by simpa using List.mem_takeWhile_imp hc
  have hsplit := List.takeWhile_append_dropWhile (p := (· = '\\')) (l := cs)
  cases hd : cs.dropWhile (· = '\\') with
  | nil =>
    rw [hd, List.append_nil] at hsplit
    exact Or.inl ⟨_, hsplit.symm.trans hrun⟩
  | cons c rest =>
    have hc : c ≠ '\\' := by
      have hhead := List.head?_dropWhile_not (fun c => decide (c = '\\')) cs
      rw [hd] at hhead
      simpa using hhead
    rw [hd, hrun] at hsplit
    exact Or.inr ⟨_, c, rest, hc, hsplit.symm⟩

/-- Markup that is text throughout: what looks like a tag has an odd number of backslashes in
front. -/
inductive Literal : List Char → Prop where
  | slashes (n : Nat) : Literal (slashes n)
  | char {n : Nat} {c : Char} {rest : List Char} : c ≠ '\\' → (c = '[' → tag? rest = none) →
      Literal rest → Literal (slashes n ++ c :: rest)
  | tag {n : Nat} {rest inside behind : List Char} : n % 2 = 1 →
      tag? rest = some (inside, behind) → Literal behind → Literal (slashes n ++ '[' :: rest)

/-- A bracket that begins no tag does not begin one either before a text that agrees with the one
behind it in the first character and in the next bracket. -/
theorem tag?_eq_none_of_agree {cs other : List Char} (h : tag? cs = none)
    (hagree : ∀ c rest, other = c :: rest → beginsTag c = true → ∃ before, cs = c :: before ∧
      (rest.dropWhile (!isBracket ·)).head? = (before.dropWhile (!isBracket ·)).head?) :
    tag? other = none := by
  cases other with
  | nil => rfl
  | cons c rest =>
    rw [← Option.not_isSome_iff_eq_none, isSome_tag?_cons]
    rintro ⟨hc, hclose⟩
    obtain ⟨before, rfl, hb⟩ := hagree c rest rfl hc
    have hsome := (isSome_tag?_cons c before).mpr ⟨hc, hb ▸ hclose⟩
    rw [h] at hsome
    cases hsome

theorem dropWhile_bracket_slashes (n : Nat) (rest : List Char) :
    (slashes n ++ rest).dropWhile (!isBracket ·) = rest.dropWhile (!isBracket ·) := by
  refine List.dropWhile_append_of_pos ?_
  intro x hx
  rw [List.eq_of_mem_replicate hx]
  rfl

theorem not_beginsTag_slash {c : Char} (h : beginsTag c = true) : c ≠ '\\' := by
  rintro rfl
  exact absurd h (by decide)

theorem head?_dropWhile_append_slashes (cs : List Char) (n : Nat) :
    ((cs ++ slashes n).dropWhile (!isBracket ·)).head? = (cs.dropWhile (!isBracket ·)).head? := by
  induction cs with
  | nil =>
    have hnone := dropWhile_bracket_slashes n []
    rw [List.append_nil] at hnone
    rw [List.nil_append, hnone]
  | cons c cs ih =>
    rw [List.cons_append, List.dropWhile_cons, List.dropWhile_cons]
    split
    · exact ih
    · rfl

theorem tag?_append_slashes {cs : List Char} (h : tag? cs = none) (n : Nat) :
    tag? (cs ++ slashes n) = none := by
  refine tag?_eq_none_of_agree h ?_
  intro c rest he hc
  cases cs with
  | nil =>
    have hmem : c ∈ slashes n := by
      rw [List.nil_append] at he
      simp [he]
    exact absurd (List.eq_of_mem_replicate hmem) (not_beginsTag_slash hc)
  | cons d cs =>
    obtain ⟨rfl, rfl⟩ := List.cons.inj he
    exact ⟨cs, rfl, head?_dropWhile_append_slashes cs n⟩

theorem Literal.append_slashes {cs : List Char} (h : Literal cs) (k : Nat) :
    Literal (cs ++ Screen.slashes k) := by
  induction h with
  | slashes n =>
    rw [Screen.slashes, Screen.slashes, List.replicate_append_replicate]
    exact .slashes (n + k)
  | char hc hno _ ih =>
    rw [List.append_assoc, List.cons_append]
    exact .char hc (fun he => tag?_append_slashes (hno he) k) ih
  | tag hn ht _ ih =>
    obtain ⟨c, inner, rfl, hc, hinner, rfl⟩ := tag?_eq_some.mp ht
    rw [List.append_assoc, List.cons_append]
    exact .tag hn (tag?_eq_some.mpr ⟨c, inner, rfl, hc, hinner, by simp⟩) ih

theorem escapeTags_slashes (fuel n : Nat) : escapeTags fuel (slashes n) = slashes n := by
  cases fuel with
  | zero => rfl
  | succ fuel => simp [escapeTags, slashes]

theorem escapeTags_char (fuel n : Nat) {c : Char} {rest : List Char} (hc : c ≠ '\\')
    (hno : c = '[' → tag? rest = none) :
    escapeTags (fuel + 1) (slashes n ++ c :: rest) = slashes n ++ c :: escapeTags fuel rest := by
  have hnone : (if c = '[' then tag? rest else none) = none := by
    split
    · rename_i he
      exact hno he
    · rfl
  simp only [escapeTags, takeWhile_slashes n hc, dropWhile_slashes n hc, hnone]

theorem escapeTags_tag (fuel n : Nat) {rest inside behind : List Char}
    (ht : tag? rest = some (inside, behind)) :
    escapeTags (fuel + 1) (slashes n ++ '[' :: rest) =
      slashes (n + n + 1) ++ '[' :: (inside ++ ']' :: escapeTags fuel behind) := by
  have hc : '[' ≠ '\\' := by decide
  simp only [escapeTags, takeWhile_slashes n hc, dropWhile_slashes n hc, if_true, ht]
  simp [slashes, List.replicate_succ', ← List.replicate_append_replicate]

theorem head?_dropWhile_escapeTags (fuel : Nat) (cs : List Char) :
    ((escapeTags fuel cs).dropWhile (!isBracket ·)).head? =
      (cs.dropWhile (!isBracket ·)).head? := by
  induction fuel generalizing cs with
  | zero => rfl
  | succ fuel ih =>
    rcases exists_slashes cs with ⟨n, rfl⟩ | ⟨n, c, rest, hc, rfl⟩
    · rw [escapeTags_slashes]
    by_cases ht : c = '[' ∧ tag? rest ≠ none
    · obtain ⟨rfl, ht⟩ := ht
      obtain ⟨⟨inside, behind⟩, ht⟩ := Option.ne_none_iff_exists'.mp ht
      rw [escapeTags_tag fuel n ht, dropWhile_bracket_slashes, dropWhile_bracket_slashes]
      rfl
    · rw [escapeTags_char fuel n hc (by simpa using ht), dropWhile_bracket_slashes,
        dropWhile_bracket_slashes, List.dropWhile_cons, List.dropWhile_cons]
      split
      · exact ih rest
      · rfl

theorem tag?_escapeTags {cs : List Char} (h : tag? cs = none) (fuel : Nat) :
    tag? (escapeTags fuel cs) = none := by
  refine tag?_eq_none_of_agree h ?_
  intro c rest he hc
  have hslash := not_beginsTag_slash hc
  cases fuel with
  | zero => exact ⟨rest, he, rfl⟩
  | succ fuel =>
    rcases exists_slashes cs with ⟨n, rfl⟩ | ⟨n, d, behind, hd, rfl⟩
    · rw [escapeTags_slashes] at he
      have hmem : c ∈ slashes n := by simp [he]
      exact absurd (List.eq_of_mem_replicate hmem) hslash
    -- An escaped tag begins with a backslash, and so it is no tag behind another bracket.
    by_cases ht : d = '[' ∧ tag? behind ≠ none
    · obtain ⟨rfl, ht⟩ := ht
      obtain ⟨⟨inside, end'⟩, ht⟩ := Option.ne_none_iff_exists'.mp ht
      rw [escapeTags_tag fuel n ht] at he
      exact absurd (List.cons.inj he).1.symm hslash
    · rw [escapeTags_char fuel n hd (by simpa using ht)] at he
      cases n with
      | zero =>
        obtain ⟨rfl, rfl⟩ := List.cons.inj he
        exact ⟨behind, rfl, head?_dropWhile_escapeTags fuel behind⟩
      | succ n => exact absurd (List.cons.inj he).1.symm hslash

/-- Enough fuel makes text of every tag: each step consumes a part of the text. -/
theorem literal_escapeTags {fuel : Nat} {cs : List Char} (h : cs.length ≤ fuel) :
    Literal (escapeTags fuel cs) := by
  induction fuel generalizing cs with
  | zero =>
    rw [List.eq_nil_of_length_eq_zero (Nat.le_zero.mp h)]
    exact .slashes 0
  | succ fuel ih =>
    rcases exists_slashes cs with ⟨n, rfl⟩ | ⟨n, c, rest, hc, rfl⟩
    · rw [escapeTags_slashes]
      exact .slashes n
    have hrest : rest.length ≤ fuel := by
      simp only [List.length_append, List.length_cons] at h
      omega
    by_cases ht : c = '[' ∧ tag? rest ≠ none
    · obtain ⟨rfl, ht⟩ := ht
      obtain ⟨⟨inside, behind⟩, ht⟩ := Option.ne_none_iff_exists'.mp ht
      obtain ⟨d, inner, hinside, hd, hinner, rfl⟩ := tag?_eq_some.mp ht
      have hbehind : behind.length ≤ fuel := by
        simp only [List.length_append, List.length_cons] at hrest
        omega
      rw [escapeTags_tag fuel n ht]
      exact .tag (by omega) (tag?_eq_some.mpr ⟨d, inner, hinside, hd, hinner, rfl⟩) (ih hbehind)
    · have hno : c = '[' → tag? rest = none := by simpa using ht
      rw [escapeTags_char fuel n hc hno]
      exact .char hc (fun he => tag?_escapeTags (hno he) fuel) (ih hrest)

theorem literal_escapeMarkup (cs : List Char) : Literal (escapeMarkup cs) := by
  have hescaped := literal_escapeTags (Nat.le_refl cs.length)
  simp only [escapeMarkup]
  split
  · exact hescaped.append_slashes 1
  · split
    · exact hescaped
    · exact hescaped.append_slashes 1
  · exact hescaped

theorem piecesFrom_slashes (fuel n : Nat) (before : List Char) :
    piecesFrom (fuel + 1) before (slashes n) = textPiece (before.reverse ++ slashes n) := by
  have htake : (slashes n).takeWhile (· = '\\') = slashes n := by simp [slashes]
  have hdrop : (slashes n).dropWhile (· = '\\') = [] := by simp [slashes]
  simp only [piecesFrom, htake, hdrop]

theorem piecesFrom_char (fuel n : Nat) (before : List Char) {c : Char} {rest : List Char}
    (hc : c ≠ '\\') (hno : c = '[' → tag? rest = none) :
    piecesFrom (fuel + 1) before (slashes n ++ c :: rest) =
      piecesFrom fuel (c :: (slashes n).reverse ++ before) rest := by
  have hnone : (if c = '[' then tag? rest else none) = none := by
    split
    · rename_i he
      exact hno he
    · rfl
  simp only [piecesFrom, takeWhile_slashes n hc, dropWhile_slashes n hc, hnone]

theorem piecesFrom_tag (fuel n : Nat) (before : List Char) {rest inside behind : List Char}
    (ht : tag? rest = some (inside, behind)) :
    piecesFrom (fuel + 1) before (slashes n ++ '[' :: rest) =
      textPiece before.reverse ++ (textPiece (slashes (n / 2)) ++
        (if n % 2 = 1 then .text ('[' :: inside ++ [']']) else .tag inside) ::
          piecesFrom fuel [] behind) := by
  have hc : '[' ≠ '\\' := by decide
  simp only [piecesFrom, takeWhile_slashes n hc, dropWhile_slashes n hc, if_true, ht,
    length_slashes, List.append_assoc]
  rfl

/-- Pieces whose closing tags close the open tags and the ones among them. -/
def Closed (opened : List String) (pieces : List Piece) : Prop :=
  ∃ text, piecesText opened pieces = .ok text

theorem closed_text (opened : List String) (s : List Char) (pieces : List Piece) :
    Closed opened (.text s :: pieces) ↔ Closed opened pieces := by
  cases h : piecesText opened pieces <;> simp [Closed, piecesText, h]

theorem closed_textPiece_append (opened : List String) (s : List Char) (pieces : List Piece) :
    Closed opened (textPiece s ++ pieces) ↔ Closed opened pieces := by
  unfold textPiece
  split
  · rfl
  · exact closed_text opened s pieces

theorem closed_textPiece (opened : List String) (s : List Char) :
    Closed opened (textPiece s) := by
  have h := (closed_textPiece_append opened s []).mpr ⟨[], rfl⟩
  rwa [List.append_nil] at h

/-- Markup that can stand behind any text while some tags are open. -/
def Showable (opened : List String) (cs : List Char) : Prop :=
  ∀ fuel before, Closed opened (piecesFrom fuel before cs)

theorem showable_slashes (opened : List String) (n : Nat) : Showable opened (slashes n) := by
  intro fuel before
  cases fuel with
  | zero => exact closed_textPiece opened _
  | succ fuel =>
    rw [piecesFrom_slashes]
    exact closed_textPiece opened _

theorem Showable.char {opened : List String} {n : Nat} {c : Char} {rest : List Char}
    (hc : c ≠ '\\') (hno : c = '[' → tag? rest = none) (h : Showable opened rest) :
    Showable opened (slashes n ++ c :: rest) := by
  intro fuel before
  cases fuel with
  | zero => exact closed_textPiece opened _
  | succ fuel =>
    rw [piecesFrom_char fuel n before hc hno]
    exact h fuel _

theorem closed_piecesFrom_tag {opened : List String} {fuel n : Nat}
    {rest inside behind before : List Char} (ht : tag? rest = some (inside, behind)) :
    Closed opened (piecesFrom (fuel + 1) before (slashes n ++ '[' :: rest)) ↔
      Closed opened ((if n % 2 = 1 then .text ('[' :: inside ++ [']']) else .tag inside) ::
        piecesFrom fuel [] behind) := by
  rw [piecesFrom_tag fuel n before ht, closed_textPiece_append, closed_textPiece_append]

theorem Literal.showable {cs : List Char} (h : Literal cs) (opened : List String) :
    Showable opened cs := by
  induction h with
  | slashes n => exact showable_slashes opened n
  | char hc hno _ ih => exact ih.char hc hno
  | tag hn ht _ ih =>
    intro fuel before
    cases fuel with
    | zero => exact closed_textPiece opened _
    | succ fuel =>
      rw [closed_piecesFrom_tag ht, if_pos hn, closed_text]
      exact ih fuel []

theorem Showable.plain {opened : List String} {words rest : List Char} (hw : Plain words)
    (h : Showable opened rest) : Showable opened (words ++ rest) := by
  induction words with
  | nil => exact h
  | cons c words ih =>
    obtain ⟨hslash, hopen⟩ := hw
    rw [List.mem_cons, not_or] at hslash hopen
    exact (ih ⟨hslash.2, hopen.2⟩).char (n := 0) (Ne.symm hslash.1)
      fun he => absurd he.symm hopen.1

def opensStyle : List Char → Bool
  | [] => false
  | c :: inner => beginsTag c && c ≠ '/' && inner.all (!isBracket ·)

theorem tag?_style {inside : List Char} (hi : opensStyle inside = true) (behind : List Char) :
    tag? (inside ++ ']' :: behind) = some (inside, behind) := by
  cases inside with
  | nil => cases hi
  | cons c inner =>
    obtain ⟨⟨hc, -⟩, hinner⟩ :
        (beginsTag c = true ∧ c ≠ '/') ∧ ∀ x ∈ inner, isBracket x = false := by
      simpa [opensStyle] using hi
    exact tag?_eq_some.mpr ⟨c, inner, rfl, hc, hinner, rfl⟩

theorem piecesText_style {inside : List Char} (hi : opensStyle inside = true)
    (opened : List String) (pieces : List Piece) :
    piecesText opened (.tag inside :: pieces) =
      piecesText (normalStyle (String.ofList (inside.takeWhile (· ≠ '='))) :: opened) pieces := by
  cases inside with
  | nil => cases hi
  | cons c inner =>
    obtain ⟨⟨hc, hslash⟩, -⟩ :
        (beginsTag c = true ∧ c ≠ '/') ∧ ∀ x ∈ inner, isBracket x = false := by
      simpa [opensStyle] using hi
    have hequal : c ≠ '=' := by
      rintro rfl
      exact absurd hc (by decide)
    simp [piecesText, hequal, hslash]

theorem tag?_end (behind : List Char) : tag? ('/' :: ']' :: behind) = some (['/'], behind) := by
  refine tag?_eq_some.mpr ⟨'/', [], rfl, by decide, ?_, rfl⟩
  simp

theorem piecesText_end (style : String) (opened : List String) (pieces : List Piece) :
    piecesText (style :: opened) (.tag ['/'] :: pieces) = piecesText opened pieces := by
  simp [piecesText, closeTag, Text.trimBlanks, FirstFailure.ok_bind]

theorem Showable.opening {opened : List String} {inside behind : List Char}
    (hi : opensStyle inside = true) (h : ∀ style, Showable (style :: opened) behind) :
    Showable opened ('[' :: inside ++ ']' :: behind) := by
  intro fuel before
  cases fuel with
  | zero => exact closed_textPiece opened _
  | succ fuel =>
    refine (closed_piecesFrom_tag (n := 0) (tag?_style hi behind)).mpr ?_
    obtain ⟨text, htext⟩ := h (normalStyle (String.ofList (inside.takeWhile (· ≠ '=')))) fuel []
    exact ⟨text, (piecesText_style hi opened _).trans htext⟩

theorem Showable.closing {opened : List String} {behind : List Char} (h : Showable opened behind)
    (style : String) : Showable (style :: opened) ('[' :: '/' :: ']' :: behind) := by
  intro fuel before
  cases fuel with
  | zero => exact closed_textPiece _ _
  | succ fuel =>
    refine (closed_piecesFrom_tag (n := 0) (tag?_end behind)).mpr ?_
    obtain ⟨text, htext⟩ := h fuel []
    exact ⟨text, (piecesText_end style opened _).trans htext⟩

theorem Showable.styled {opened : List String} {inside words rest : List Char}
    (hi : opensStyle inside = true) (hw : Plain words) (h : Showable opened rest) :
    Showable opened ('[' :: inside ++ ']' :: (words ++ '[' :: '/' :: ']' :: rest)) :=
  .opening hi fun style => .plain hw (h.closing style)

theorem exists_markupText {cs : List Char} (h : Showable [] cs) :
    ∃ text, markupText cs = .ok text := by
  unfold markupText
  split
  · obtain ⟨text, htext⟩ := h cs.length []
    rw [htext]
    exact ⟨_, rfl⟩
  · exact ⟨_, rfl⟩

end MailFilter.Screen
