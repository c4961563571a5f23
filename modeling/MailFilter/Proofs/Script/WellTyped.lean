import MailFilter.Proofs.Filter.TestMeaning
import MailFilter.Proofs.Script.Source

/-!
# Well-typed trees

In a well-typed tree each entry that a reader takes apart is of a kind that it can take apart. Such
a tree is read, or refused for an object that is missing; no reading fails otherwise.
-/
namespace MailFilter

open Script (Source Visit Test Guard Action Rule Statement)
open FirstFailure

def Value.IsNames : Value → Prop
  | .null | .str _ => True
  | .arr items => ∀ v ∈ items, v.IsText
  | _ => False

def Value.IsBranch : Value → Prop
  | .null | .arr _ => True
  | _ => False

def Value.IsMatch : Value → Prop
  | .null => True
  | .obj fields => (Value.entry "Type" fields).IsTag
  | _ => False

/-- The entries of an object that are taken apart, if it has them: lists of names, the text of a
comment, lists of tests and of actions, and the match entry of a test. -/
structure WellTypedObject (fields : List (String × Value)) : Prop where
  names : ∀ name ∈ ["List", "Keys", "Headers", "Flags"], (Value.entry name fields).IsNames
  text : Value.entry "Text" fields = .null ∨ (Value.entry "Text" fields).IsText
  branches : ∀ name ∈ ["Then", "Else", "Tests"], (Value.entry name fields).IsBranch
  matched : (Value.entry "Match" fields).IsMatch

theorem Value.sizeOf_entry_lt (name : String) (fields : List (String × Value)) :
    sizeOf (Value.entry name fields) < sizeOf (Value.obj fields) := by
  induction fields with
  | nil => simp [Value.entry]
  | cons field rest ih =>
    obtain ⟨k, v⟩ := field
    have hsize : sizeOf (Value.obj ((k, v) :: rest)) =
        sizeOf (Value.obj rest) + sizeOf k + sizeOf v + 2 := by
      simp only [Value.obj.sizeOf_spec, List.cons.sizeOf_spec, Prod.mk.sizeOf_spec]
      omega
    rw [Value.entry, List.lookup_cons, hsize]
    cases name == k with
    | true =>
      change sizeOf v < _
      omega
    | false =>
      change sizeOf (Value.entry name rest) < _
      omega

/-- The objects that are looked into when a value is read. -/
inductive Visits : Visit → Value → List (String × Value) → Prop where
  | here (visit fields) : Visits visit (.obj fields) fields
  | guard {fields seen} : Value.entry "Type" fields = .str "If" →
      Visits .guard (Value.entry "If" fields) seen → Visits .statement (.obj fields) seen
  | action {fields name items v seen} : Value.entry "Type" fields = .str "If" →
      name ∈ ["Then", "Else"] → Value.entry name fields = .arr items → v ∈ items →
      Visits .action v seen → Visits .statement (.obj fields) seen
  | member {fields items v seen} : Value.entry "Tests" fields = .arr items → v ∈ items →
      Visits .test v seen → Visits .guard (.obj fields) seen
  | single {fields seen} : Value.entry "Type" fields ≠ .str "allof" →
      Value.entry "Type" fields ≠ .str "anyof" → fields.lookup "Tests" = none →
      Visits .test (.obj fields) seen → Visits .guard (.obj fields) seen
  | negated {fields seen} : Value.entry "Type" fields = .str "Not" →
      Visits .test (Value.entry "Test" fields) seen → Visits .test (.obj fields) seen

def WellTypedAt (visit : Visit) (v : Value) : Prop :=
  ∀ fields, Visits visit v fields → WellTypedObject fields

/-- A tree whose statements are well-typed. What is no list has no statements. -/
def WellTyped (tree : Value) : Prop :=
  ∀ items, tree = .arr items → ∀ v ∈ items, WellTypedAt .statement v

/-- A reading that gives a result with a property, or refuses what it reads. -/
def Settles {α : Type} (p : α → Prop) (x : Except Failure α) : Prop :=
  (∃ a, x = .ok a ∧ p a) ∨ ∃ refusal, x = .error (.refused refusal)

namespace Settles

variable {α β : Type} {p : α → Prop} {q : β → Prop}

theorem ok {a : α} (h : p a) : Settles p (.ok a) := Or.inl ⟨a, rfl, h⟩

theorem refused (refusal : Refusal) : Settles p (.error (.refused refusal)) := Or.inr ⟨refusal, rfl⟩

theorem mono {p' : α → Prop} {x : Except Failure α} (hx : Settles p x) (h : ∀ a, p a → p' a) :
    Settles p' x := by
  rcases hx with ⟨a, rfl, ha⟩ | ⟨refusal, rfl⟩
  · exact ok (h a ha)
  · exact refused refusal

theorem bind {x : Except Failure α} {f : α → Except Failure β} (hx : Settles p x)
    (hf : ∀ a, p a → Settles q (f a)) : Settles q (x >>= f) := by
  rcases hx with ⟨a, rfl, ha⟩ | ⟨refusal, rfl⟩
  · exact hf a ha
  · exact refused refusal

theorem map {x : Except Failure α} {f : α → β} (hx : Settles p x) (hf : ∀ a, p a → q (f a)) :
    Settles q (x.map f) := by
  rcases hx with ⟨a, rfl, ha⟩ | ⟨refusal, rfl⟩
  · exact ok (hf a ha)
  · exact refused refusal

theorem mapM {f : α → Except Failure β} {xs : List α} (h : ∀ x ∈ xs, Settles q (f x)) :
    Settles (fun ys => ∀ y ∈ ys, q y) (xs.mapM f) := by
  induction xs with
  | nil => exact ok (by simp)
  | cons x xs ih =>
    rw [List.mapM_cons]
    refine bind (h x List.mem_cons_self) ?_
    intro y hy
    refine bind (ih fun z hz => h z (List.mem_cons_of_mem x hz)) ?_
    intro ys hys
    refine ok ?_
    intro z hz
    rcases List.mem_cons.mp hz with rfl | hz
    · exact hy
    · exact hys z hz

end Settles

namespace Script

theorem settles_values {β : Type} {q : β → Prop} {f : Source → Except Failure β}
    {values : List Value} (h : ∀ v ∈ values, Settles q (f (Source.ofValue v))) :
    Settles (fun ys => ∀ y ∈ ys, q y) ((values.map Source.ofValue).mapM f) := by
  refine .mapM ?_
  intro s hs
  obtain ⟨v, hv, rfl⟩ := List.mem_map.mp hs
  exact h v hv

theorem settles_words {v : Value} (h : v.IsNames) :
    Settles (fun _ => True) (Source.ofValue v).words := by
  cases v with
  | null | str | arr => exact .ok trivial
  | bool | int | float | obj | foreign => exact h.elim

theorem settles_names? {v : Value} (h : v.IsNames) :
    Settles (fun names : Option (List Value) => ∀ k ∈ names.getD [], k.IsText)
      (Source.ofValue v).names? := by
  cases v with
  | null => exact .ok (by simp)
  | str s => exact .ok (by simp [Value.IsText])
  | arr items =>
    have hitems : ∀ k ∈ items, k.IsText := h
    refine .ok ?_
    simpa [Source.ofItems_eq_map, Function.comp_def] using hitems
  | bool | int | float | obj | foreign => exact h.elim

theorem settles_parts? {v : Value} (h : v.IsBranch) :
    Settles (fun parts : Option (List Source) => ∀ items, parts = some items →
      ∃ values, v = .arr values ∧ items = values.map Source.ofValue) (Source.ofValue v).parts? := by
  cases v with
  | null => exact .ok (by simp)
  | arr values =>
    refine .ok ?_
    rintro items hi
    obtain rfl := Option.some.inj hi
    exact ⟨values, rfl, Source.ofItems_eq_map values⟩
  | bool | int | float | str | obj | foreign => exact h.elim

theorem settles_matchTagOf {fields : List (String × Value)}
    (h : (Value.entry "Match" fields).IsMatch) :
    Settles Value.IsTag (matchTagOf (Source.ofFields fields)) := by
  rw [matchTagOf, Source.entry_ofFields]
  cases hv : Value.entry "Match" fields with
  | null => exact .ok (Or.inl rfl)
  | obj matched =>
    rw [hv] at h
    refine .ok ?_
    rw [Source.tagOf_ofFields]
    exact h
  | bool | int | float | str | arr | foreign => rw [hv] at h; exact h.elim

theorem settles_plainTest {fields : List (String × Value)} (h : WellTypedObject fields) :
    Settles Test.Textual (plainTest (Source.ofFields fields)) := by
  unfold plainTest
  rw [Source.entry_ofFields, Source.entry_ofFields]
  refine .bind (settles_words (h.names "Headers" (by simp))) ?_
  intro headers _
  refine .bind (settles_names? (h.names "Keys" (by simp))) ?_
  intro keys hk
  refine .bind (settles_matchTagOf h.matched) ?_
  intro tag ht
  split
  · exact .ok trivial
  · exact .ok ⟨hk, ht⟩
  · exact .ok ⟨hk, ht⟩
  · exact .ok ⟨hk, ht⟩

theorem settles_test (v : Value) (h : WellTypedAt .test v) :
    Settles Test.Textual (Test.ofSource (Source.ofValue v)) := by
  cases v with
  | obj fields =>
    rw [Source.ofValue, Test.ofSource.eq_2, Source.tagOf_ofFields]
    split
    · rename_i hnot
      rw [Test.ofInner_eq, Source.entry_ofFields]
      refine .map (settles_test _ ?_) fun _ ht => ht
      intro seen hs
      exact h seen (.negated hnot hs)
    · exact settles_plainTest (h fields (.here _ _))
  | null | bool | int | float | str | arr | foreign => exact .refused _
termination_by sizeOf v
decreasing_by
  subst_vars
  exact Value.sizeOf_entry_lt "Test" fields

theorem of_not_isGroup {fields : List (String × Value)}
    (h : ¬ isGroup (Source.ofFields fields) = true) :
    Value.entry "Type" fields ≠ .str "allof" ∧ Value.entry "Type" fields ≠ .str "anyof" ∧
      fields.lookup "Tests" = none := by
  simp only [isGroup, Source.tagOf_ofFields, Source.lookup_ofFields, Option.isSome_map,
    Bool.or_eq_true, decide_eq_true_eq, not_or, Bool.not_eq_true, Option.isSome_eq_false_iff,
    Option.isNone_iff_eq_none] at h
  exact ⟨h.1.1, h.1.2, h.2⟩

def Guard.Textual (g : Guard) : Prop :=
  ∀ tag tests, g = .group tag (some tests) → ∀ t ∈ tests, t.Textual

theorem settles_guard {v : Value} (h : WellTypedAt .guard v) :
    Settles Guard.Textual (Guard.ofSource (Source.ofValue v)) := by
  cases v with
  | obj fields =>
    have hobject := h fields (.here _ _)
    rw [Source.ofValue, Guard.ofSource]
    split
    · rw [Source.entry_ofFields]
      refine .bind (settles_parts? (hobject.branches "Tests" (by simp))) ?_
      intro parts hp
      cases parts with
      | none =>
        refine .ok ?_
        intro tag tests he
        cases he
      | some parts =>
        obtain ⟨values, hv, rfl⟩ := hp parts rfl
        have htests : ∀ w ∈ values, Settles Test.Textual (Test.ofSource (Source.ofValue w)) := by
          intro w hw
          refine settles_test w ?_
          intro seen hs
          exact h seen (.member hv hw hs)
        refine .bind (settles_values htests) ?_
        intro tests ht
        refine .ok ?_
        intro tag others he
        cases he
        exact ht
    · rename_i hgroup
      obtain ⟨hall, hany, htests⟩ := of_not_isGroup hgroup
      have htest := settles_test (.obj fields) fun seen hs => h seen (.single hall hany htests hs)
      refine .map htest ?_
      intro test _ tag tests he
      cases he
  | null | bool | int | float | str | arr | foreign => exact .refused _

theorem settles_guardOf {v : Value} (h : WellTypedAt .guard v) :
    Settles (fun guard : Option Guard => ∀ g, guard = some g → g.Textual)
      (guardOf (Source.ofValue v)) := by
  have hread := settles_guard h
  unfold guardOf
  split
  · exact .ok (by simp)
  · refine .map hread ?_
    rintro g hg found hf
    obtain rfl := Option.some.inj hf
    exact hg

theorem settles_action (v : Value) (h : WellTypedAt .action v) :
    Settles (fun _ => True) (Action.ofSource (Source.ofValue v)) := by
  cases v with
  | obj fields =>
    have hobject := h fields (.here _ _)
    rw [Source.ofValue, Action.ofSource]
    split
    · exact .ok trivial
    · exact .ok trivial
    · exact .ok trivial
    · rw [Source.entry_ofFields]
      exact .map (settles_words (hobject.names "Flags" (by simp))) fun _ _ => trivial
    · exact .ok trivial
    · exact .ok trivial
    · exact .ok trivial
  | null | bool | int | float | str | arr | foreign => exact .refused _

theorem settles_actionsOf {v : Value} (hb : v.IsBranch)
    (h : ∀ items, v = .arr items → ∀ w ∈ items, WellTypedAt .action w) :
    Settles (fun _ => True) (actionsOf (Source.ofValue v)) := by
  unfold actionsOf
  refine .bind (settles_parts? hb) ?_
  intro parts hp
  cases parts with
  | none => exact .ok trivial
  | some parts =>
    obtain ⟨values, hv, rfl⟩ := hp parts rfl
    have hactions := settles_values fun w hw => settles_action w (h values hv w hw)
    exact .bind hactions fun _ _ => .ok trivial

def Rule.Textual (r : Rule) : Prop := ∀ g, r.guard = some g → g.Textual

theorem settles_rule {fields : List (String × Value)}
    (ht : Value.entry "Type" fields = .str "If") (h : WellTypedAt .statement (.obj fields)) :
    Settles Rule.Textual (Rule.ofFields (Source.ofFields fields)) := by
  have hobject := h fields (.here _ _)
  have hbranch : ∀ name ∈ ["Then", "Else"],
      Settles (fun _ => True) (actionsOf (Source.ofValue (Value.entry name fields))) := by
    intro name hn
    refine settles_actionsOf (hobject.branches name (by simp_all; tauto)) ?_
    intro items hi w hw seen hs
    exact h seen (.action ht hn hi hw hs)
  have hguard : Settles (fun guard : Option Guard => ∀ g, guard = some g → g.Textual)
      (guardOf (Source.ofValue (Value.entry "If" fields))) := by
    refine settles_guardOf ?_
    intro seen hs
    exact h seen (.guard ht hs)
  rw [Rule.ofFields_eq]
  simp only [Source.entry_ofFields]
  refine .bind hguard ?_
  intro guard hg
  refine .bind (hbranch "Then" (by simp)) ?_
  intro consequent _
  refine .bind (hbranch "Else" (by simp)) ?_
  intro alternative _
  exact .ok hg

def Statement.Textual : Statement → Prop
  | .comment v => v.IsText
  | .rule r => r.Textual
  | _ => True

theorem settles_statement (v : Value) (h : WellTypedAt .statement v) :
    Settles Statement.Textual (Statement.ofSource (Source.ofValue v)) := by
  cases v with
  | obj fields =>
    have hobject := h fields (.here _ _)
    rw [Source.ofValue, Statement.ofSource, Source.tagOf_ofFields]
    split
    · rw [Source.entry_ofFields]
      exact .map (settles_names? (hobject.names "List" (by simp))) fun _ _ => trivial
    · refine .ok ?_
      rw [Source.entry_ofFields, Source.toValue_ofValue]
      show Value.IsText _
      rcases hobject.text with hnull | htext
      · rw [hnull]
        trivial
      · split
        · trivial
        · exact htext
    · rename_i ht
      exact .map (settles_rule ht h) fun _ hr => hr
    · exact .ok trivial
  | null | bool | int | float | str | arr | foreign => exact .refused _

theorem settles_statements {tree : Value} (h : WellTyped tree) :
    Settles (fun ss : List Statement => ∀ s ∈ ss, s.Textual)
      (statements (Source.ofValue tree)) := by
  cases tree with
  | arr items =>
    rw [Source.ofValue, Source.ofItems_eq_map]
    exact settles_values fun v hv => settles_statement v (h items rfl v hv)
  | null | bool | int | float | str | obj | foreign => exact .refused _

end Script

end MailFilter
