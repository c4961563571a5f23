import MailFilter.Proofs.FirstFailure
import MailFilter.Proofs.Script.Source
import MailFilter.Proofs.Filter.Selection
import MailFilter.Proofs.Table

/-!
# Where the values of a script come from

The keys, the folders and the messages of a script are parts of the value it was read from, or
texts, or null. What all parts of a value inherit from it is therefore true of them.
-/
namespace MailFilter

open FirstFailure

/-- What is true of texts and of null, and of the parts of whatever it is true of. -/
structure Inherited (p : Value → Prop) : Prop where
  null : p .null
  str (s : String) : p (.str s)
  item {items : List Value} {v : Value} : p (.arr items) → v ∈ items → p v
  field {fields : List (String × Value)} {field : String × Value} : p (.obj fields) →
    field ∈ fields → p field.2

namespace Script

def Action.carried? : Action → Option Value
  | .fileInto folder => some folder
  | .vacation _ message => some message
  | _ => none

variable {p : Value → Prop} (hp : Inherited p)

theorem names?_eq_ok {s : Source} {names : Option (List Value)} (h : s.names? = .ok names) :
    names = none ∨ (∃ text, names = some [.str text]) ∨
      ∃ parts, s.parts = .ok parts ∧ names = some (parts.map Source.toValue) := by
  unfold Source.names? at h
  split at h
  · exact Or.inl (Except.ok.inj h).symm
  · exact Or.inr (Or.inl ⟨_, (Except.ok.inj h).symm⟩)
  · obtain ⟨parts, hparts, he⟩ := map_eq_ok.mp h
    exact Or.inr (Or.inr ⟨parts, hparts, he.symm⟩)

theorem underNegation_of_plainTest {fields : List (String × Source)} {t : Test}
    (h : plainTest fields = .ok t) : t.underNegation.1 = t := by
  unfold plainTest at h
  obtain ⟨headers, -, h⟩ := bind_eq_ok.mp h
  obtain ⟨keys, -, h⟩ := bind_eq_ok.mp h
  obtain ⟨tag, -, h⟩ := bind_eq_ok.mp h
  split at h
  all_goals
    obtain rfl := Except.ok.inj h
    rfl

/-- A test is read from its fields, or, if it is negated, from its entry for a test. -/
theorem test_ofSource_eq_ok {v : Value} {t : Test} (h : Test.ofSource (Source.ofValue v) = .ok t) :
    ∃ fields, v = .obj fields ∧ (plainTest (Source.ofFields fields) = .ok t ∨
      ∃ inner, t = .negated inner ∧
        Test.ofSource (Source.ofValue (Value.entry "Test" fields)) = .ok inner) := by
  cases v with
  | obj fields =>
    refine ⟨fields, rfl, ?_⟩
    rw [Source.ofValue, Test.ofSource.eq_2] at h
    split at h
    · rw [Test.ofInner_eq, Source.entry_ofFields] at h
      obtain ⟨inner, hinner, rfl⟩ := map_eq_ok.mp h
      exact Or.inr ⟨inner, rfl, hinner⟩
    · exact Or.inl h
  | null | bool | int | float | str | arr | foreign => cases h

include hp

theorem inherited_entry {fields : List (String × Value)} (h : p (.obj fields)) (name : String) :
    p (Value.entry name fields) := by
  rw [Value.entry]
  cases hv : fields.lookup name with
  | none => exact hp.null
  | some v => exact hp.field h (Table.mem_of_lookup hv)

theorem inherited_textOf {fields : List (String × Value)} (h : p (.obj fields)) (name : String) :
    p (textOf name (Source.ofFields fields)) := by
  rw [textOf, Source.lookup_ofFields]
  cases hv : fields.lookup name with
  | none => exact hp.str ""
  | some v =>
    simp only [Option.map_some, Source.toValue_ofValue]
    exact hp.field h (Table.mem_of_lookup hv)

theorem inherited_parts {v : Value} {parts : List Source} (h : p v)
    (hparts : (Source.ofValue v).parts = .ok parts) :
    ∀ s ∈ parts, ∃ w, s = Source.ofValue w ∧ p w := by
  cases v with
  | arr items =>
    obtain rfl := Except.ok.inj hparts
    rw [Source.ofItems_eq_map]
    intro s hs
    obtain ⟨w, hw, rfl⟩ := List.mem_map.mp hs
    exact ⟨w, rfl, hp.item h hw⟩
  | str text =>
    obtain rfl := Except.ok.inj hparts
    intro s hs
    obtain ⟨c, -, rfl⟩ := List.mem_map.mp hs
    exact ⟨.str _, rfl, hp.str _⟩
  | obj fields =>
    obtain rfl := Except.ok.inj hparts
    intro s hs
    obtain ⟨field, -, rfl⟩ := List.mem_map.mp hs
    exact ⟨.str field.1, rfl, hp.str _⟩
  | null | bool | int | float | foreign => cases hparts

theorem inherited_parts? {v : Value} {parts : List Source} (h : p v)
    (hparts : (Source.ofValue v).parts? = .ok (some parts)) :
    ∀ s ∈ parts, ∃ w, s = Source.ofValue w ∧ p w := by
  have hsome : (Source.ofValue v).parts.map some = .ok (some parts) := by
    cases v with
    | null => cases hparts
    | bool | int | float | str | arr | obj | foreign => exact hparts
  obtain ⟨found, hfound, he⟩ := map_eq_ok.mp hsome
  exact inherited_parts hp h (Option.some.inj he ▸ hfound)

theorem inherited_names? {v : Value} {names : Option (List Value)} (h : p v)
    (hnames : (Source.ofValue v).names? = .ok names) : ∀ k ∈ names.getD [], p k := by
  rcases names?_eq_ok hnames with rfl | ⟨s, rfl⟩ | ⟨parts, hparts, rfl⟩
  · simp
  · simp [hp.str]
  · intro k hk
    obtain ⟨s, hs, rfl⟩ := List.mem_map.mp hk
    obtain ⟨w, rfl, hw⟩ := inherited_parts hp h hparts s hs
    rwa [Source.toValue_ofValue]

theorem inherited_plainTest {fields : List (String × Value)} {t : Test} (h : p (.obj fields))
    (ht : plainTest (Source.ofFields fields) = .ok t) : ∀ k ∈ t.keys, p k := by
  unfold plainTest at ht
  obtain ⟨headers, -, ht⟩ := bind_eq_ok.mp ht
  obtain ⟨keys, hkeys, ht⟩ := bind_eq_ok.mp ht
  obtain ⟨tag, -, ht⟩ := bind_eq_ok.mp ht
  rw [Source.entry_ofFields] at hkeys
  have hall := inherited_names? hp (inherited_entry hp h "Keys") hkeys
  split at ht
  all_goals obtain rfl := Except.ok.inj ht
  · simp [Test.keys]
  · exact hall
  · exact hall
  · exact hall

theorem inherited_keys {v : Value} {t : Test} (h : p v)
    (ht : Test.ofSource (Source.ofValue v) = .ok t) : ∀ k ∈ t.keys, p k := by
  obtain ⟨fields, rfl, hplain | ⟨inner, rfl, -⟩⟩ := test_ofSource_eq_ok ht
  · exact inherited_plainTest hp h hplain
  · simp [Test.keys]

theorem inherited_keys_underNegation {v : Value} {t : Test} (h : p v)
    (ht : Test.ofSource (Source.ofValue v) = .ok t) : ∀ k ∈ t.underNegation.1.keys, p k := by
  obtain ⟨fields, rfl, hplain | ⟨inner, rfl, hinner⟩⟩ := test_ofSource_eq_ok ht
  · rw [underNegation_of_plainTest hplain]
    exact inherited_plainTest hp h hplain
  · exact inherited_keys hp (inherited_entry hp h "Test") hinner

theorem inherited_action {v : Value} {a : Action} (h : p v)
    (ha : Action.ofSource (Source.ofValue v) = .ok a) : ∀ w ∈ a.carried?, p w := by
  cases v with
  | obj fields =>
    rw [Source.ofValue, Action.ofSource] at ha
    split at ha
    case h_4 =>
      obtain ⟨flags, -, rfl⟩ := map_eq_ok.mp ha
      simp [Action.carried?]
    all_goals
      obtain rfl := Except.ok.inj ha
      simp [Action.carried?, inherited_textOf hp h]
  | null | bool | int | float | str | arr | foreign => cases ha

omit hp in
theorem inherited_mapM {β : Type} {f : Source → Except Failure β} {q : β → Prop}
    (hf : ∀ w b, p w → f (Source.ofValue w) = .ok b → q b) {parts : List Source} {bs : List β}
    (hparts : ∀ s ∈ parts, ∃ w, s = Source.ofValue w ∧ p w) (h : parts.mapM f = .ok bs) :
    ∀ b ∈ bs, q b := by
  intro b hb
  obtain ⟨s, hs, hread⟩ := exists_mem_of_mapM h hb
  obtain ⟨w, rfl, hw⟩ := hparts s hs
  exact hf w b hw hread

theorem inherited_guard {v : Value} {tag : String} {tests : List Test} (h : p v)
    (hg : Guard.ofSource (Source.ofValue v) = .ok (.group tag (some tests))) :
    ∀ t ∈ tests, ∀ k ∈ t.underNegation.1.keys, p k := by
  cases v with
  | obj fields =>
    rw [Source.ofValue, Guard.ofSource] at hg
    split at hg
    · obtain ⟨parts, hparts, hg⟩ := bind_eq_ok.mp hg
      cases parts with
      | none => cases hg
      | some parts =>
        obtain ⟨found, hfound, hg⟩ := bind_eq_ok.mp hg
        cases hg
        rw [Source.entry_ofFields] at hparts
        have hall := inherited_parts? hp (inherited_entry hp h "Tests") hparts
        exact inherited_mapM (fun w t hw ht => inherited_keys_underNegation hp hw ht) hall hfound
    · obtain ⟨test, -, hg⟩ := map_eq_ok.mp hg
      cases hg
  | null | bool | int | float | str | arr | foreign => cases hg

theorem inherited_guardOf {v : Value} {tag : String} {tests : List Test} (h : p v)
    (hg : guardOf (Source.ofValue v) = .ok (some (.group tag (some tests)))) :
    ∀ t ∈ tests, ∀ k ∈ t.underNegation.1.keys, p k := by
  unfold guardOf at hg
  split at hg
  · cases hg
  · obtain ⟨guard, hguard, he⟩ := map_eq_ok.mp hg
    exact inherited_guard hp h (Option.some.inj he ▸ hguard)

theorem inherited_actionsOf {v : Value} {actions : List Action} (h : p v)
    (ha : actionsOf (Source.ofValue v) = .ok (some actions)) :
    ∀ a ∈ actions, ∀ w ∈ a.carried?, p w := by
  obtain ⟨parts, hparts, ha⟩ := bind_eq_ok.mp ha
  cases parts with
  | none => cases ha
  | some parts =>
    obtain ⟨found, hfound, ha⟩ := bind_eq_ok.mp ha
    cases ha
    exact inherited_mapM (fun w a hw ha => inherited_action hp hw ha)
      (inherited_parts? hp h hparts) hfound

theorem inherited_rule {v : Value} {rule : MainRule} (h : p v)
    (hs : Statement.ofSource (Source.ofValue v) = .ok (.rule rule.toRule)) :
    (∀ t ∈ rule.tests, ∀ k ∈ t.underNegation.1.keys, p k) ∧
      ∀ a ∈ rule.actions, ∀ w ∈ a.carried?, p w := by
  cases v with
  | obj fields =>
    rw [Source.ofValue, Statement.ofSource] at hs
    split at hs
    · obtain ⟨names, -, hs⟩ := map_eq_ok.mp hs
      cases hs
    · cases hs
    · obtain ⟨found, hrule, hs⟩ := map_eq_ok.mp hs
      obtain rfl := Statement.rule.inj hs
      rw [Rule.ofFields_eq, Source.entry_ofFields, Source.entry_ofFields] at hrule
      obtain ⟨guard, hguard, hrule⟩ := bind_eq_ok.mp hrule
      obtain ⟨consequent, hconsequent, hrule⟩ := bind_eq_ok.mp hrule
      obtain ⟨alternative, -, hrule⟩ := bind_eq_ok.mp hrule
      obtain ⟨rfl, rfl, rfl⟩ := Rule.mk.inj (Except.ok.inj hrule)
      exact ⟨inherited_guardOf hp (inherited_entry hp h "If") hguard,
        inherited_actionsOf hp (inherited_entry hp h "Then") hconsequent⟩
    · cases hs
  | null | bool | int | float | str | arr | foreign => cases hs

theorem inherited_lastRule {v : Value} {ss : List Statement} {rule : MainRule} (h : p v)
    (hss : statements (Source.ofValue v) = .ok ss) (hrule : lastRule? ss = some rule) :
    (∀ t ∈ rule.tests, ∀ k ∈ t.underNegation.1.keys, p k) ∧
      ∀ a ∈ rule.actions, ∀ w ∈ a.carried?, p w := by
  obtain ⟨before, after, rfl, -⟩ := lastRule?_eq_some_iff.mp hrule
  cases v with
  | arr items =>
    rw [Source.ofValue, Source.ofItems_eq_map] at hss
    obtain ⟨s, hs, hread⟩ := exists_mem_of_mapM hss (y := .rule rule.toRule) (by simp)
    obtain ⟨w, hw, rfl⟩ := List.mem_map.mp hs
    exact inherited_rule hp (hp.item h hw) hread
  | null | bool | int | float | str | obj | foreign => cases hss

end Script

end MailFilter
