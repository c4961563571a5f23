import MailFilter.Command.Printing
import MailFilter.Proofs.Command.Consoles
import MailFilter.Proofs.Filter.Carried
import MailFilter.Proofs.Json.Forms

/-!
# What a filter needs to be shown

A table joins and escapes the values of its filter, and so it can show texts alone. JSON shows what
has a JSON form. Nothing else stops them, whatever the console: the words of a filter have plain
labels, and escaped texts have no tags.
-/
namespace MailFilter.Command

open FirstFailure
open Markup (Plain)

/-- A step that gives a result exactly if a condition holds. Otherwise it fails on a value of the
wrong kind. -/
def Hinges {α : Type} (x : Except Halt α) (p : Prop) : Prop :=
  p ∧ (∃ a, x = .ok a) ∨ ¬ p ∧ x = .error (.escaped .wrongKind)

namespace Hinges

variable {α β : Type} {p q : Prop}

theorem ok (a : α) : Hinges (.ok a) True := Or.inl ⟨trivial, a, rfl⟩

theorem of_exists {x : Except Halt α} (h : ∃ a, x = .ok a) : Hinges x True := Or.inl ⟨trivial, h⟩

theorem congr {x : Except Halt α} (hx : Hinges x p) (h : p ↔ q) : Hinges x q :=
  propext h ▸ hx

theorem bind {x : Except Halt α} {f : α → Except Halt β} (hx : Hinges x p)
    (hf : ∀ a, x = .ok a → Hinges (f a) q) : Hinges (x >>= f) (p ∧ q) := by
  rcases hx with ⟨hp, a, rfl⟩ | ⟨hp, rfl⟩
  · rw [ok_bind]
    exact (hf a rfl).congr (by simp [hp])
  · exact Or.inr ⟨fun h => hp h.1, rfl⟩

theorem bind_of_exists {x : Except Halt α} {f : α → Except Halt β} (hx : ∃ a, x = .ok a)
    (hf : ∀ a, Hinges (f a) q) : Hinges (x >>= f) q := by
  obtain ⟨a, rfl⟩ := hx
  exact hf a

theorem mapM {f : α → Except Halt β} {p : α → Prop} (h : ∀ x, Hinges (f x) (p x)) (xs : List α) :
    Hinges (xs.mapM f) (∀ x ∈ xs, p x) := by
  induction xs with
  | nil => exact (ok []).congr (by simp)
  | cons x xs ih =>
    rw [List.mapM_cons]
    exact ((h x).bind fun _ _ => ih.bind fun _ _ => ok _).congr (by simp)

end Hinges

theorem exists_texts?_iff (values : List Value) :
    (∃ texts, Settings.texts? values = some texts) ↔ ∀ v ∈ values, v.IsText := by
  induction values with
  | nil => simp [Settings.texts?]
  | cons v values ih =>
    cases v with
    | str s =>
      have hs : (Value.str s).IsText := trivial
      simp [Settings.texts?, hs, ih]
    | null | bool | int | float | arr | obj | foreign => simp [Settings.texts?, Value.IsText]

theorem hinges_joinTexts (values : List Value) :
    Hinges (joinTexts values) (∀ v ∈ values, v.IsText) := by
  rw [← exists_texts?_iff, joinTexts]
  cases h : Settings.texts? values with
  | some texts => exact Or.inl ⟨⟨texts, rfl⟩, _, rfl⟩
  | none => exact Or.inr ⟨by simp, rfl⟩

theorem plain_field_label (field : Field) : Plain (labelled field.token).label.toList := by
  cases field <;> decide

theorem plain_comparator_label (c : Comparator) : Plain (labelled c.token).label.toList := by
  obtain ⟨word, negated⟩ := c
  cases word <;> cases negated <;> decide

theorem plain_operator_label (o : Operator) : Plain (labelled o.token).label.toList := by
  cases o <;> decide

theorem plain_flag (b : Bool) : Plain (Record.flag b).toList := by
  cases b <;> decide

section

variable {escape : String → String}

theorem closed_orDash {s : String} (h : Closed escape s) : Closed escape (orDash s) := by
  unfold orDash
  split
  · exact .words (by decide)
  · exact h

theorem closed_styled {style words : String} (hs : style ∈ styles) (hw : Plain words.toList) :
    Closed escape (styled style words) := by
  have hclosed : Closed escape (styled style words ++ "") := .styled hs hw (.words (by decide))
  rwa [String.append_empty] at hclosed

end

theorem hasForm_toValue_iff (f : SimpleFilter) :
    Json.hasForm f.toValue = true ↔ f.CarriesOnly fun v => Json.hasForm v = true := by
  have hlabelled : ∀ l : Labelled, Json.hasForm l.toValue = true := fun _ => rfl
  have hcondition : ∀ c : Condition,
      Json.hasForm c.toValue = true ↔ ∀ v ∈ c.values, Json.hasForm v = true := by
    intro c
    simp [Condition.toValue, Json.hasForm_obj, Json.hasForm_arr, hlabelled]
  have heffects : Json.hasForm f.effects.toValue = true ↔
      (∀ v ∈ f.effects.folders, Json.hasForm v = true) ∧
        ∀ v ∈ f.effects.reply, Json.hasForm v = true := by
    cases hr : f.effects.reply <;>
      simp [Effects.toValue, hr, Json.hasForm, Json.fieldsHaveForm, Json.itemsHaveForm_iff]
  have hparts : Json.hasForm f.toValue = true ↔
      (∀ c ∈ f.conditions, Json.hasForm c.toValue = true) ∧
        Json.hasForm f.effects.toValue = true := by
    simp [SimpleFilter.toValue, Json.hasForm_obj, hlabelled, Json.hasForm_arr]
  simp only [hparts, hcondition, heffects]
  exact ⟨fun h => ⟨h.1, h.2.1, h.2.2⟩, fun h => ⟨h.values, h.folders, h.reply⟩⟩

theorem hinges_printJson (f : SimpleFilter) :
    Hinges (printJson f).outcome (f.CarriesOnly fun v => Json.hasForm v = true) := by
  rw [← hasForm_toValue_iff, printJson, Json.write?]
  by_cases h : Json.hasForm f.toValue = true
  · rw [if_pos h]
    exact Or.inl ⟨h, (), rfl⟩
  · rw [if_neg h]
    exact Or.inr ⟨h, rfl⟩

theorem exists_put {shown : Except Escape String} (h : ∃ text, shown = .ok text) :
    ∃ u, (put shown).outcome = .ok u := by
  obtain ⟨text, rfl⟩ := h
  exact ⟨(), rfl⟩

section

variable {P : Printer}

theorem closed_of_conditionRow {c : Condition} {row : List String}
    (h : conditionRow P c = .ok row) : ∀ cell ∈ row, Closed P.escape cell := by
  obtain ⟨values, -, h⟩ := bind_eq_ok.mp h
  obtain rfl := Except.ok.inj h
  have hfield : Closed P.escape (labelled c.field.token).label := .words (plain_field_label c.field)
  have hcomparator : Closed P.escape (labelled c.comparator.token).label :=
    .words (plain_comparator_label c.comparator)
  simp only [List.mem_cons, List.not_mem_nil, or_false]
  rintro cell (rfl | rfl | rfl)
  · exact closed_orDash hfield
  · exact hcomparator
  · exact closed_orDash (.escaped values)

theorem hinges_conditionRow (c : Condition) :
    Hinges (conditionRow P c) (∀ v ∈ c.values, v.IsText) :=
  ((hinges_joinTexts c.values).bind fun _ _ => .ok _).congr (by rw [and_true])

variable (hP : P.Documented)

include hP

theorem exists_printMarkup {markup : String} (h : Closed P.escape markup) :
    ∃ u, (printMarkup P markup).outcome = .ok u :=
  exists_put (hP.line_closed h)

theorem exists_grid {conditions : List Condition} {rows : List (List String)}
    (h : conditions.mapM (conditionRow P) = .ok rows) :
    ∃ shown, P.grid "Conditions" ["Type", "Comparator", "Values"] rows = .ok shown := by
  refine hP.grid_closed fun cell hcell => ?_
  simp only [List.mem_cons, List.cons_append, List.nil_append] at hcell
  rcases hcell with rfl | rfl | rfl | rfl | hcell
  · exact .words (by decide)
  · exact .words (by decide)
  · exact .words (by decide)
  · exact .words (by decide)
  · obtain ⟨row, hrow, hcell⟩ := List.mem_flatten.mp hcell
    obtain ⟨c, -, hc⟩ := exists_mem_of_mapM h hrow
    exact closed_of_conditionRow hc cell hcell

theorem hinges_printReply (reply : Option Value) :
    Hinges (printReply P reply).outcome (∀ v ∈ reply, v.IsText) := by
  cases reply with
  | none => exact (Hinges.ok ()).congr (by simp)
  | some v =>
    cases v with
    | str message =>
      have hclosed : Closed P.escape ("  Vacation: " ++ P.escape message) :=
        .behind (by decide) (.escaped message)
      exact (Hinges.of_exists (exists_printMarkup hP hclosed)).congr (by simp [Value.IsText])
    | null | bool | int | float | arr | obj | foreign => exact Or.inr ⟨by simp [Value.IsText], rfl⟩

theorem hinges_printTable (f : SimpleFilter) :
    Hinges (printTable P f).outcome (f.CarriesOnly Value.IsText) := by
  have hpanel : ∃ shown, P.panel "Simple Filter"
      (styled "bold blue" ("Match " ++ (labelled f.operator.token).label) ++
        " of the following conditions") = .ok shown := by
    refine hP.panel_closed (.words (by decide)) (.styled (by decide) ?_ (.words (by decide)))
    rw [String.toList_append]
    exact Markup.plain_append_iff.mpr ⟨by decide, plain_operator_label f.operator⟩
  have hheading : Closed P.escape ("\n" ++ styled "bold" "Actions:") :=
    .behind (by decide) (closed_styled (by decide) (by decide))
  have hfolders : ∀ folders, Closed P.escape ("  File into: " ++ orDash (P.escape folders)) :=
    fun folders => .behind (by decide) (closed_orDash (.escaped folders))
  have hmark : Closed P.escape ("  Mark read: " ++ Record.flag f.effects.mark.read ++
      " | Starred: " ++ Record.flag f.effects.mark.starred) := by
    refine .words ?_
    simp only [String.toList_append, Markup.plain_append_iff]
    exact ⟨⟨⟨by decide, plain_flag _⟩, by decide⟩, plain_flag _⟩
  have hrows := Hinges.mapM (hinges_conditionRow (P := P)) f.conditions
  simp only [printTable, Logged.outcome_bind, outcome_lift]
  refine (Hinges.bind_of_exists (exists_put hpanel) fun _ =>
    (hrows.bind fun rows hread =>
      .bind_of_exists (exists_put (exists_grid hP hread)) fun _ =>
      .bind_of_exists (exists_printMarkup hP hheading) fun _ =>
      (hinges_joinTexts f.effects.folders).bind fun folders _ =>
      .bind_of_exists (exists_printMarkup hP (hfolders folders)) fun _ =>
      .bind_of_exists (exists_printMarkup hP hmark) fun _ =>
      hinges_printReply hP f.effects.reply)).congr ?_
  exact ⟨fun h => ⟨h.1, h.2.1, h.2.2⟩, fun h => ⟨h.values, h.folders, h.reply⟩⟩

end

end MailFilter.Command
