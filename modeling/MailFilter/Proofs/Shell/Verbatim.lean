import MailFilter.Proofs.Shell.Markup
import MailFilter.Shell.Screen.Layout

/-!
# Markup that shows itself

Markup shows a part of itself. It shows the whole exactly if it holds nothing that markup reads: no
tag, not even one that a backslash makes text, and no backslash in front of an opening bracket.
-/
namespace MailFilter.Screen

open Markup

theorem beginsTag_iff {c : Char} :
    beginsTag c = true ↔ 'a' ≤ c ∧ c ≤ 'z' ∨ c ∈ ['#', '/', '@'] := by
  simp [beginsTag, or_assoc]

theorem forall_isBracket_iff {inner : List Char} :
    (∀ x ∈ inner, isBracket x = false) ↔ '[' ∉ inner ∧ ']' ∉ inner := by
  simp only [isBracket, Bool.or_eq_false_iff, decide_eq_false_iff_not]
  constructor
  · intro h
    exact ⟨fun hm => (h _ hm).1 rfl, fun hm => (h _ hm).2 rfl⟩
  · rintro ⟨ho, hc⟩ x hx
    exact ⟨fun he => ho (he ▸ hx), fun he => hc (he ▸ hx)⟩

theorem isTag_of_tag? {rest inside behind : List Char} (h : tag? rest = some (inside, behind)) :
    IsTag ('[' :: (inside ++ [']'])) ∧ rest = inside ++ ']' :: behind := by
  obtain ⟨c, inner, rfl, hc, hinner, rfl⟩ := tag?_eq_some.mp h
  obtain ⟨ho, hi⟩ := forall_isBracket_iff.mp hinner
  exact ⟨⟨c, inner, beginsTag_iff.mp hc, ho, hi, rfl⟩, rfl⟩

theorem exists_tag?_of_isTag {t : List Char} (h : IsTag t) :
    ∃ inside, t = '[' :: (inside ++ [']']) ∧
      ∀ behind, tag? (inside ++ ']' :: behind) = some (inside, behind) := by
  obtain ⟨c, inner, hc, ho, hi, rfl⟩ := h
  refine ⟨c :: inner, rfl, fun behind => tag?_eq_some.mpr ?_⟩
  exact ⟨c, inner, rfl, beginsTag_iff.mpr hc, forall_isBracket_iff.mpr ⟨ho, hi⟩, rfl⟩

theorem tagFree_cons_iff {c : Char} {rest : List Char} :
    TagFree (c :: rest) ↔ (c = '[' → tag? rest = none) ∧ TagFree rest := by
  constructor
  · intro h
    constructor
    · rintro rfl
      by_contra hsome
      obtain ⟨⟨inside, behind⟩, ht⟩ := Option.ne_none_iff_exists'.mp hsome
      obtain ⟨htag, rfl⟩ := isTag_of_tag? ht
      exact h _ htag ⟨[], behind, by simp⟩
    · intro t ht hi
      exact h t ht (hi.trans (List.suffix_cons c rest).isInfix)
  · rintro ⟨hnone, hrest⟩ t ht hi
    rcases List.infix_cons_iff.mp hi with ⟨behind, hp⟩ | hi
    · obtain ⟨inside, rfl, hsome⟩ := exists_tag?_of_isTag ht
      rw [List.cons_append, List.append_assoc, List.singleton_append] at hp
      obtain ⟨rfl, rfl⟩ := List.cons.inj hp
      rw [hsome behind] at hnone
      cases hnone rfl
    · exact hrest t ht hi

instance decidableTagFree : ∀ cs, Decidable (TagFree cs)
  | [] => .isTrue fun _ ⟨_, _, _, _, _, ht⟩ h => by simp [ht] at h
  | _ :: rest =>
    haveI := decidableTagFree rest
    decidable_of_iff _ tagFree_cons_iff.symm

instance (cs : List Char) : Decidable (Verbatim cs) :=
  decidable_of_iff (TagFree cs ∧ ¬ ['\\', '['] <:+: cs)
    ⟨fun h => ⟨h.1, h.2⟩, fun h => ⟨h.tagFree, h.escapeFree⟩⟩

theorem not_mem_slashes (n : Nat) : '[' ∉ slashes n := by
  intro h
  exact absurd (List.eq_of_mem_replicate h) (by decide)

theorem tagFree_slashes (n : Nat) : TagFree (slashes n) := by
  rintro t ⟨c, inner, -, -, -, rfl⟩ h
  exact not_mem_slashes n (h.subset List.mem_cons_self)

theorem piecesFrom_of_tagFree {fuel : Nat} {before cs : List Char} (ht : TagFree cs)
    (hf : cs.length ≤ fuel) : piecesFrom fuel before cs = textPiece (before.reverse ++ cs) := by
  induction fuel generalizing before cs with
  | zero =>
    obtain rfl := List.eq_nil_of_length_eq_zero (Nat.le_zero.mp hf)
    rw [List.append_nil]
    rfl
  | succ fuel ih =>
    rcases exists_slashes cs with ⟨n, rfl⟩ | ⟨n, c, rest, hc, rfl⟩
    · exact piecesFrom_slashes fuel n before
    · obtain ⟨hno, hrest⟩ := tagFree_cons_iff.mp ((tagFree_append_iff (not_mem_slashes n)).mp ht)
      have hlen : rest.length ≤ fuel := by
        simp only [List.length_append, List.length_cons] at hf
        omega
      rw [piecesFrom_char fuel n before hc hno, ih hrest hlen]
      simp

theorem plainText_sublist (s : List Char) : List.Sublist (plainText s) s := by
  fun_induction plainText s with
  | case1 rest ih => exact (ih.cons_cons '[').cons '\\'
  | case2 c rest _ ih => exact ih.cons_cons c
  | case3 => exact .slnil

theorem plainText_eq_self_iff (s : List Char) : plainText s = s ↔ ¬ ['\\', '['] <:+: s := by
  fun_induction plainText s with
  | case1 rest ih =>
    have hescape : ['\\', '['] <:+: '\\' :: '[' :: rest := ⟨[], rest, rfl⟩
    simp [hescape]
  | case2 c rest hne ih =>
    have hfront : ¬ ['\\', '['] <+: c :: rest := by
      rintro ⟨behind, h⟩
      obtain ⟨rfl, rfl⟩ := List.cons.inj h
      exact hne behind rfl rfl
    rw [List.cons.injEq, List.infix_cons_iff, ih]
    simp [hfront]
  | case3 => simp

theorem piecesText_textPiece_append {opened : List String} {s text : List Char}
    {pieces : List Piece} :
    piecesText opened (textPiece s ++ pieces) = .ok text ↔
      ∃ behind, piecesText opened pieces = .ok behind ∧ plainText s ++ behind = text := by
  unfold textPiece
  split
  · rename_i hs
    obtain rfl := List.isEmpty_iff.mp hs
    simp [plainText]
  · cases h : piecesText opened pieces <;> simp [piecesText, h]

theorem piecesText_textPiece (opened : List String) (s : List Char) :
    piecesText opened (textPiece s) = .ok (plainText s) := by
  rw [← List.append_nil (textPiece s)]
  exact piecesText_textPiece_append.mpr ⟨[], rfl, List.append_nil _⟩

/-- A tag shows nothing, and one that a backslash makes text shows no more than it is. -/
theorem exists_of_piecesText_tag {opened : List String} {n : Nat} {inside text : List Char}
    {pieces : List Piece}
    (h : piecesText opened ((if n % 2 = 1 then .text ('[' :: inside ++ [']']) else .tag inside) ::
      pieces) = .ok text) :
    ∃ shown behind opened', piecesText opened' pieces = .ok behind ∧ shown ++ behind = text ∧
      List.Sublist shown ('[' :: inside ++ [']']) ∧ (n % 2 = 0 → shown = []) := by
  by_cases hn : n % 2 = 1
  · rw [if_pos hn] at h
    obtain ⟨behind, hb, htext⟩ := FirstFailure.bind_eq_ok.mp h
    refine ⟨_, behind, opened, hb, Except.ok.inj htext, plainText_sublist _, ?_⟩
    omega
  · rw [if_neg hn] at h
    have hrest : ∃ opened', piecesText opened' pieces = .ok text := by
      simp only [piecesText] at h
      split at h
      · obtain ⟨opened', -, h⟩ := FirstFailure.bind_eq_ok.mp h
        exact ⟨opened', h⟩
      · exact ⟨_, h⟩
    obtain ⟨opened', hrest⟩ := hrest
    exact ⟨[], text, opened', hrest, rfl, List.nil_sublist _, fun _ => rfl⟩

/-- What stands in front of the end of a tag is shown in part: an odd backslash is not, and behind
an even number of them the tag is not. -/
theorem exists_of_piecesText_piecesFrom {fuel n : Nat} {opened : List String}
    {before rest inside behind text : List Char} (ht : tag? rest = some (inside, behind))
    (h : piecesText opened (piecesFrom (fuel + 1) before (slashes n ++ '[' :: rest)) = .ok text) :
    ∃ shown last opened', piecesText opened' (piecesFrom fuel [] behind) = .ok last ∧
      shown ++ last = text ∧
      List.Sublist shown (before.reverse ++ (slashes n ++ ('[' :: inside ++ [']']))) ∧
      shown.length < before.length + (n + (inside.length + 2)) := by
  rw [piecesFrom_tag fuel n before ht] at h
  obtain ⟨_, hfirst, rfl⟩ := piecesText_textPiece_append.mp h
  obtain ⟨_, hsecond, rfl⟩ := piecesText_textPiece_append.mp hfirst
  obtain ⟨shown, last, opened', hpieces, rfl, hshown, heven⟩ := exists_of_piecesText_tag hsecond
  have hbefore := plainText_sublist before.reverse
  have hhalf := plainText_sublist (slashes (n / 2))
  have hfewer : List.Sublist (slashes (n / 2)) (slashes n) :=
    (List.replicate_sublist_replicate '\\').mpr (Nat.div_le_self n 2)
  refine ⟨plainText before.reverse ++ (plainText (slashes (n / 2)) ++ shown), last, opened',
    hpieces, by simp, hbefore.append ((hhalf.trans hfewer).append hshown), ?_⟩
  have hlengths := And.intro hbefore.length_le (And.intro hhalf.length_le hshown.length_le)
  simp only [List.length_append, List.length_cons, List.length_reverse, List.length_nil,
    length_slashes] at hlengths ⊢
  rcases Nat.mod_two_eq_zero_or_one n with he | ho
  · rw [heven he, List.length_nil]
    omega
  · omega

theorem sublist_of_piecesText {fuel : Nat} {opened : List String} {before cs text : List Char}
    (hf : cs.length ≤ fuel) (h : piecesText opened (piecesFrom fuel before cs) = .ok text) :
    List.Sublist text (before.reverse ++ cs) ∧
      (¬ TagFree cs → text.length < before.length + cs.length) := by
  induction fuel generalizing opened before cs text with
  | zero =>
    obtain rfl := List.eq_nil_of_length_eq_zero (Nat.le_zero.mp hf)
    obtain rfl := Except.ok.inj ((piecesText_textPiece opened _).symm.trans h)
    refine ⟨?_, fun hn => absurd (tagFree_slashes 0) hn⟩
    rw [List.append_nil]
    exact plainText_sublist _
  | succ fuel ih =>
    rcases exists_slashes cs with ⟨n, rfl⟩ | ⟨n, c, rest, hc, rfl⟩
    · rw [piecesFrom_slashes] at h
      obtain rfl := Except.ok.inj ((piecesText_textPiece opened _).symm.trans h)
      exact ⟨plainText_sublist _, fun hn => absurd (tagFree_slashes n) hn⟩
    have hrest : rest.length ≤ fuel := by
      simp only [List.length_append, List.length_cons] at hf
      omega
    by_cases ht : c = '[' ∧ tag? rest ≠ none
    · obtain ⟨rfl, ht⟩ := ht
      obtain ⟨⟨inside, behind⟩, ht⟩ := Option.ne_none_iff_exists'.mp ht
      obtain ⟨shown, last, opened', hpieces, rfl, hshown, hlt⟩ :=
        exists_of_piecesText_piecesFrom ht h
      obtain ⟨d, inner, -, -, -, rfl⟩ := tag?_eq_some.mp ht
      simp only [List.length_append, List.length_cons] at hrest hlt
      have hlast := (ih (by omega) hpieces).1
      rw [List.reverse_nil, List.nil_append] at hlast
      constructor
      · simpa using hshown.append hlast
      · intro _
        have hle := hlast.length_le
        simp only [List.length_append, List.length_cons, length_slashes]
        omega
    · have hno : c = '[' → tag? rest = none := by simpa using ht
      rw [piecesFrom_char fuel n before hc hno] at h
      obtain ⟨hsub, hlt⟩ := ih hrest h
      constructor
      · simpa using hsub
      · intro hn
        have hfree : ¬ TagFree rest := by
          rw [tagFree_append_iff (not_mem_slashes n), tagFree_cons_iff] at hn
          exact fun hr => hn ⟨hno, hr⟩
        have hless := hlt hfree
        simp only [List.length_append, List.length_cons, List.length_reverse] at hless ⊢
        omega

def Shows (opened : List String) (cs text : List Char) : Prop :=
  ∀ fuel, cs.length ≤ fuel → piecesText opened (piecesFrom fuel [] cs) = .ok text

theorem shows_of_verbatim {cs : List Char} (h : Verbatim cs) (opened : List String) :
    Shows opened cs cs := by
  intro fuel hf
  rw [piecesFrom_of_tagFree h.tagFree hf, piecesText_textPiece]
  exact congrArg Except.ok ((plainText_eq_self_iff cs).mpr h.escapeFree)

theorem piecesFrom_plain {fuel : Nat} {words : List Char} (hw : Plain words)
    (hf : words.length ≤ fuel) (before cs : List Char) :
    piecesFrom fuel before (words ++ cs) =
      piecesFrom (fuel - words.length) (words.reverse ++ before) cs := by
  induction words generalizing fuel before with
  | nil => rfl
  | cons c words ih =>
    obtain ⟨hslash, hopen⟩ := hw
    rw [List.mem_cons, not_or] at hslash hopen
    cases fuel with
    | zero => cases hf
    | succ fuel =>
      have hchar : piecesFrom (fuel + 1) before (c :: (words ++ cs)) =
          piecesFrom fuel (c :: before) (words ++ cs) :=
        piecesFrom_char fuel 0 before (Ne.symm hslash.1) fun he => absurd he.symm hopen.1
      rw [List.cons_append, hchar, ih ⟨hslash.2, hopen.2⟩ (Nat.le_of_succ_le_succ hf)]
      simp

theorem Shows.opening {opened : List String} {inside cs text : List Char}
    (hi : opensStyle inside = true) (h : ∀ style, Shows (style :: opened) cs text) :
    Shows opened ('[' :: inside ++ ']' :: cs) text := by
  intro fuel hf
  cases fuel with
  | zero => cases hf
  | succ fuel =>
    have hlen : cs.length ≤ fuel := by
      simp only [List.length_append, List.length_cons] at hf
      omega
    have hpieces := piecesFrom_tag fuel 0 [] (tag?_style hi cs)
    exact (congrArg _ hpieces).trans ((piecesText_style hi opened _).trans (h _ fuel hlen))

theorem Shows.closing {opened : List String} {words cs text : List Char}
    (hw : Plain words) (h : Shows opened cs text) (style : String) :
    Shows (style :: opened) (words ++ '[' :: '/' :: ']' :: cs) (words ++ text) := by
  intro fuel hf
  simp only [List.length_append, List.length_cons] at hf
  obtain ⟨more, rfl⟩ : ∃ more, fuel = words.length + (more + 1) :=
    ⟨fuel - words.length - 1, by omega⟩
  have hpieces := piecesFrom_tag more 0 words.reverse (tag?_end cs)
  rw [piecesFrom_plain hw (Nat.le_add_right _ _), Nat.add_sub_cancel_left, List.append_nil]
  refine (congrArg _ hpieces).trans (piecesText_textPiece_append.mpr ⟨text, ?_, ?_⟩)
  · exact (piecesText_end style opened _).trans (h more (by omega))
  · rw [List.reverse_reverse,
      (plainText_eq_self_iff words).mpr (verbatim_of_not_mem hw.2).escapeFree]

theorem Shows.styled {inside words cs : List Char} (hi : opensStyle inside = true)
    (hw : Plain words) (hv : Verbatim cs) :
    Shows [] ('[' :: inside ++ ']' :: (words ++ '[' :: '/' :: ']' :: cs)) (words ++ cs) :=
  .opening hi fun style => (shows_of_verbatim hv []).closing hw style

/-- Whether a character neither ends a line, nor moves to a tab stop, nor is kept off the screen. -/
def isShown (c : Char) : Bool := c ≠ '\n' && c ≠ '\t' && !isSilent c

theorem isShown_of_isPrintable {c : Char} (h : Text.isPrintable c = true) : isShown c = true := by
  by_contra hn
  have hkept : c = '\n' ∨ c = '\t' ∨ c = '\x07' ∨ c = '\x08' ∨ c = '\x0b' ∨ c = '\x0c' ∨
      c = '\r' := by
    simp only [isShown, isSilent] at hn
    grind
  rcases hkept with rfl | rfl | rfl | rfl | rfl | rfl | rfl <;> exact absurd h (by decide)

theorem Shows.markupText {cs text : List Char} (h : Shows [] cs text)
    (hs : ∀ c ∈ text, isShown c = true) : markupText cs = .ok text := by
  have hfilter : text.filter (!isSilent ·) = text := by
    refine List.filter_eq_self.mpr ?_
    intro c hc
    exact (Bool.and_eq_true _ _ |>.mp (hs c hc)).2
  have hshown := h cs.length (Nat.le_refl _)
  unfold Screen.markupText
  split
  · rw [hshown]
    exact congrArg Except.ok hfilter
  · rename_i hopen
    have hv : Verbatim cs := verbatim_of_not_mem (by simpa using hopen)
    have hself := shows_of_verbatim hv [] cs.length (Nat.le_refl _)
    obtain rfl := Except.ok.inj (hshown.symm.trans hself)
    exact congrArg Except.ok hfilter

/-- Markup shows a part of itself, and the whole only if it holds nothing to read. -/
theorem sublist_of_markupText {cs text : List Char} (h : markupText cs = .ok text) :
    List.Sublist text cs ∧ (text = cs → Verbatim cs) := by
  unfold markupText at h
  split at h
  · obtain ⟨shown, hs, h⟩ := FirstFailure.bind_eq_ok.mp h
    obtain rfl := Except.ok.inj h
    have hfilter : List.Sublist (shown.filter (!isSilent ·)) shown := List.filter_sublist
    obtain ⟨hsub, hlt⟩ := sublist_of_piecesText (Nat.le_refl cs.length) hs
    rw [List.reverse_nil, List.nil_append] at hsub
    refine ⟨hfilter.trans hsub, ?_⟩
    intro he
    have hshown : shown = cs := hsub.antisymm (he ▸ hfilter)
    have hfree : TagFree cs := by
      by_contra hn
      have hless := hlt hn
      rw [hshown, List.length_nil, Nat.zero_add] at hless
      exact absurd hless (Nat.lt_irrefl _)
    refine ⟨hfree, (plainText_eq_self_iff cs).mp ?_⟩
    rw [piecesFrom_of_tagFree hfree (Nat.le_refl _), piecesText_textPiece] at hs
    exact (Except.ok.inj hs).trans hshown
  · rename_i hopen
    obtain rfl := Except.ok.inj h
    exact ⟨List.filter_sublist, fun _ => verbatim_of_not_mem (by simpa using hopen)⟩

theorem splitLines_eq_self {cs : List Char} (h : '\n' ∉ cs) : Text.splitLines cs = [cs] := by
  induction cs with
  | nil => rfl
  | cons c cs ih =>
    obtain ⟨hc, hcs⟩ := not_or.mp (mt List.mem_cons.mpr h)
    rw [Text.splitLines, if_neg (Ne.symm hc), ih hcs]

theorem expandTabs_eq_self {cs : List Char} (h : '\t' ∉ cs) (column : Nat) :
    expandTabs column cs = cs := by
  induction cs generalizing column with
  | nil => rfl
  | cons c cs ih =>
    obtain ⟨hc, hcs⟩ := not_or.mp (mt List.mem_cons.mpr h)
    rw [expandTabs, if_neg (Ne.symm hc), ih hcs]

theorem screenLines_eq_self {cs : List Char} (h : ∀ c ∈ cs, isShown c = true) :
    screenLines cs = [cs] := by
  have hline : '\n' ∉ cs := fun hc => absurd (h _ hc) (by decide)
  have htab : '\t' ∉ cs := fun hc => absurd (h _ hc) (by decide)
  rw [screenLines, splitLines_eq_self hline, List.map_singleton, expandTabs_eq_self htab]

end MailFilter.Screen
