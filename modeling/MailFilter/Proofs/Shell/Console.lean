import MailFilter.Proofs.Shell.Verbatim
import MailFilter.Shell.Screen.Console

/-!
# The screen is a console

What commands rely on holds of the console of this program.
-/
namespace MailFilter.Screen

open Command (styled styles Printable)
open FirstFailure
open Markup

theorem opensStyle_of_mem {style : String} (h : style ∈ styles) :
    opensStyle style.toList = true := by
  simp only [styles, List.mem_cons, List.not_mem_nil, or_false] at h
  rcases h with rfl | rfl | rfl | rfl | rfl <;> decide

theorem showable_of_closed {markup : String} (h : Command.Closed console.escape markup) :
    Showable [] markup.toList := by
  induction h with
  | @words words hw =>
    have hend := Showable.plain hw (showable_slashes [] 0)
    rwa [slashes, List.replicate_zero, List.append_nil] at hend
  | escaped text =>
    rw [console, String.toList_ofList]
    exact (literal_escapeMarkup text.toList).showable []
  | behind hw _ ih =>
    rw [String.toList_append]
    exact ih.plain hw
  | @styled style words rest hs hw _ ih =>
    have hstyled := Showable.styled (opensStyle_of_mem hs) hw ih
    simpa [Command.styled, String.toList_append] using hstyled

theorem exists_shownText {markup : String} (h : Command.Closed console.escape markup) :
    ∃ text, shownText markup = .ok text := by
  obtain ⟨text, ht⟩ := exists_markupText (showable_of_closed h)
  exact ⟨text, by rw [shownText, ht]; rfl⟩

theorem line_of_markupText {markup : String} {text : List Char}
    (h : markupText markup.toList = .ok text) (hs : ∀ c ∈ text, isShown c = true) :
    console.line markup = .ok (String.ofList text ++ "\n") := by
  have hshown : shownText markup = .ok text := by
    rw [shownText, h]
    rfl
  simp only [console, hshown, ok_bind, pure_eq_ok, screenLines_eq_self hs, joinLines,
    List.map_singleton, String.join_cons, String.join_nil, String.append_empty]

theorem isShown_of_printable {text : List Char} (h : Printable text) :
    ∀ c ∈ text, isShown c = true :=
  fun c hc => isShown_of_isPrintable (h c hc)

/-- A line of printable characters is shown in part, and as a whole only if it holds nothing that
markup reads. -/
theorem exists_of_line_eq_ok {text shown : String} (hp : Printable text.toList)
    (h : console.line text = .ok shown) :
    ∃ row : List Char, shown = String.ofList row ++ "\n" ∧ (∀ c ∈ row, isShown c = true) ∧
      (row = text.toList → Verbatim text.toList) := by
  cases ht : markupText text.toList with
  | error e => simp [console, shownText, ht, Except.mapError, error_bind] at h
  | ok row =>
    obtain ⟨hsub, hv⟩ := sublist_of_markupText ht
    have hs : ∀ c ∈ row, isShown c = true :=
      fun c hc => isShown_of_printable hp c (hsub.subset hc)
    have hline := line_of_markupText ht hs
    exact ⟨row, Except.ok.inj (h.symm.trans hline), hs, hv⟩

theorem exists_grid {title : String} {head : List String} {rows : List (List String)}
    (h : ∀ row ∈ rows, ∀ cell ∈ row, Command.Closed console.escape cell) :
    ∃ shown, console.grid title head rows = .ok shown := by
  have hcells : ∃ cells, rows.mapM (fun row => row.mapM shownText) = .ok cells := by
    refine exists_mapM_eq_ok.mpr fun i row hrow => exists_mapM_eq_ok.mpr fun j cell hcell => ?_
    exact exists_shownText (h row (List.mem_of_getElem? hrow) cell (List.mem_of_getElem? hcell))
  obtain ⟨cells, hcells⟩ := hcells
  simp only [console, hcells, ok_bind]
  exact ⟨_, rfl⟩

theorem line_styled {style words rest : String} (hs : style ∈ styles)
    (hw : Plain words.toList) (hr : Plain rest.toList) (hp : Printable (words ++ rest).toList) :
    console.line (styled style words ++ rest) = .ok (words ++ rest ++ "\n") := by
  rw [String.toList_append] at hp
  have hshows := Shows.styled (opensStyle_of_mem hs) hw (verbatim_of_not_mem hr.2)
  have htext := hshows.markupText (isShown_of_printable hp)
  have hmarkup : (styled style words ++ rest).toList = '[' :: style.toList ++ ']' ::
      (words.toList ++ '[' :: '/' :: ']' :: rest.toList) := by
    simp [styled, String.toList_append]
  rw [← hmarkup] at htext
  rw [line_of_markupText htext (isShown_of_printable hp), String.ofList_append,
    String.ofList_toList, String.ofList_toList]

theorem console_documented : console.Documented where
  line_closed h := by
    obtain ⟨text, ht⟩ := exists_shownText h
    simp only [console, ht, ok_bind]
    exact ⟨_, rfl⟩
  panel_closed _ h := by
    obtain ⟨text, ht⟩ := exists_shownText h
    simp only [console, ht, ok_bind]
    exact ⟨_, rfl⟩
  grid_closed h := by
    refine exists_grid fun row hrow cell hcell => h cell ?_
    exact List.mem_cons_of_mem _ (List.mem_append_right _ (List.mem_flatten.mpr ⟨row, hrow, hcell⟩))
  line_styled hs hw hr hp _ := line_styled hs hw hr hp
  line_verbatim {text} hp _ hv := by
    have hs := isShown_of_printable hp
    have hline := line_of_markupText ((shows_of_verbatim hv []).markupText hs) hs
    rwa [String.ofList_toList] at hline
  line_marked {text} hp hv h := by
    obtain ⟨row, hrow, -, hself⟩ := exists_of_line_eq_ok hp h
    have htext : text = String.ofList row := (String.append_left_inj "\n").mp hrow
    exact hv (hself (by rw [htext, String.toList_ofList]))
  line_single {text shown} hp h := by
    obtain ⟨row, rfl, hs, -⟩ := exists_of_line_eq_ok hp h
    refine ⟨_, rfl, ?_⟩
    rw [String.toList_ofList]
    intro hn
    exact absurd (hs _ hn) (by decide)

end MailFilter.Screen
