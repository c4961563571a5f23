import MailFilter.Proofs.Filter.Comparison
import MailFilter.Proofs.Filter.Stages

/-!
# The words of a plain form

Whatever tags and annotations a script holds, the plain form of its filter shows words of a small
vocabulary only, each beside the label that the table of labels has for it.
-/
namespace MailFilter

open Script (Test Source)
open FirstFailure

/-- An object that shows one of some words beside its label, which is not empty. -/
def Value.ShowsOneOf (words : List String) (v : Value) : Prop :=
  ∃ word ∈ words, ∃ label, labels.lookup word = some label ∧ label ≠ "" ∧
    v = .obj [("label", .str label), ("value", .str word)]

def comparisonWords : List String :=
  ["is", "contains", "matches", "starts", "ends",
    "!is", "!contains", "!matches", "!starts", "!ends"]

/-- Plain forms of conditions in words that the table of labels knows. Only a condition on a field
that no filter knows shows an empty word, for its field, under an empty label. -/
inductive KnownCondition : Value → Prop where
  | attachments {field comparator} : field.ShowsOneOf ["attachments"] →
      comparator.ShowsOneOf ["contains", "!contains"] →
      KnownCondition (.obj [("Type", field), ("Comparator", comparator), ("Values", .arr [])])
  | named {field comparator values} : field.ShowsOneOf ["subject", "sender", "recipient"] →
      comparator.ShowsOneOf comparisonWords →
      KnownCondition (.obj [("Type", field), ("Comparator", comparator), ("Values", .arr values)])
  | unnamed {comparator values} : comparator.ShowsOneOf comparisonWords →
      KnownCondition (.obj [("Type", .obj [("label", .str ""), ("value", .str "")]),
        ("Comparator", comparator), ("Values", .arr values)])

theorem showsOneOf_labelled {word : String} {words : List String} (hw : word ∈ words)
    (hl : (labels.lookup word).getD "" ≠ "") : (labelled word).toValue.ShowsOneOf words := by
  cases h : labels.lookup word with
  | none => simp [h] at hl
  | some label =>
    rw [h] at hl
    exact ⟨word, hw, label, h, hl, by rw [labelled, h]; rfl⟩

theorem showsOneOf_operator (operator : Operator) :
    (labelled operator.token).toValue.ShowsOneOf ["all", "any"] := by
  cases operator <;> exact showsOneOf_labelled (by decide) (by decide)

theorem showsOneOf_comparator (c : Comparator) :
    (labelled c.token).toValue.ShowsOneOf comparisonWords := by
  obtain ⟨word, negated⟩ := c
  cases word <;> cases negated <;> exact showsOneOf_labelled (by decide) (by decide)

theorem showsOneOf_contains (negated : Bool) :
    (labelled (Comparator.token ⟨.contains, negated⟩)).toValue.ShowsOneOf
      ["contains", "!contains"] := by
  cases negated <;> exact showsOneOf_labelled (by decide) (by decide)

theorem field_of_ofTest {test : Test} {declared : Option String} {c : Condition}
    (h : Condition.ofTest test declared = .ok c) : c.field = test.underNegation.1.field := by
  rw [ofTest_eq] at h
  split_ifs at h
  obtain ⟨tag, -, h⟩ := bind_eq_ok.mp h
  obtain ⟨read, -, h⟩ := bind_eq_ok.mp h
  obtain rfl := Except.ok.inj h
  rfl

theorem Script.Test.keys_of_attachments {t : Test} (h : t.field = .attachments) : t.keys = [] := by
  cases t with
  | present => rfl
  | header | address =>
    simp only [field] at h
    split_ifs at h
  | other | negated => cases h

/-- A condition on attachments asks whether there are any, whatever is declared for it. -/
theorem contains_of_attachments {test : Test} {declared : Option String} {c : Condition}
    (h : Condition.ofTest test declared = .ok c) (hf : c.field = .attachments) :
    c.comparator.word = .contains ∧ c.values = [] := by
  rw [field_of_ofTest h] at hf
  obtain ⟨-, tag, htag, hr⟩ := readUnder_of_ofTest h
  rw [Test.effectiveTag, if_pos hf] at htag
  obtain rfl := Except.ok.inj htag
  rw [Test.keys_of_attachments hf] at hr
  obtain ⟨field, comparator, values⟩ := c
  generalize declaredWord declared = word at hr
  cases hr with
  | starts ht | ends ht => exact absurd (Value.str.inj ht) (by decide)
  | tagged _ _ ht hm _ =>
    obtain rfl := Value.str.inj ht
    have hword : ∀ w, (w, "Contains") ∈ matchTags → w = .contains := by simp [matchTags]
    exact ⟨hword _ hm, rfl⟩

theorem knownCondition_of_ofTest {test : Test} {declared : Option String} {c : Condition}
    (h : Condition.ofTest test declared = .ok c) : KnownCondition c.toValue := by
  have hc := showsOneOf_comparator c.comparator
  cases hf : c.field with
  | attachments =>
    obtain ⟨hword, hvalues⟩ := contains_of_attachments h hf
    have hcontains := showsOneOf_contains c.comparator.negated
    rw [← hword] at hcontains
    rw [Condition.toValue, hf, hvalues]
    exact .attachments (showsOneOf_labelled (by decide) (by decide)) hcontains
  | subject | sender | recipient =>
    rw [Condition.toValue, hf]
    exact .named (showsOneOf_labelled (by decide) (by decide)) hc
  | unknown =>
    rw [Condition.toValue, hf]
    exact .unnamed hc

/-- The plain form of every filter is in known words, with one condition for each test of the rule
that it was made from. -/
theorem plain_form_in_known_words {tree : Source} {requirements : Requirements}
    {filter : SimpleFilter} (h : (convert tree requirements).outcome = .ok filter) :
    ∃ ss selection annotations operator conditions effects,
      Stages tree requirements filter ss selection annotations ∧
      filter.toValue =
        .obj [("Operator", operator), ("Conditions", .arr conditions), ("Actions", effects)] ∧
      operator.ShowsOneOf ["all", "any"] ∧
      conditions.length = selection.rule.tests.length ∧ ∀ c ∈ conditions, KnownCondition c := by
  obtain ⟨ss, selection, annotations, hstages⟩ := convert_eq_ok.mp h
  refine ⟨ss, selection, annotations, _, _, _, hstages, rfl, showsOneOf_operator filter.operator,
    ?_, ?_⟩
  · rw [List.length_map, ← hstages.forall₂_paired.length_eq, length_paired]
  · intro v hv
    obtain ⟨c, hc, rfl⟩ := List.mem_map.mp hv
    obtain ⟨i, hi⟩ := List.mem_iff_getElem?.mp hc
    obtain ⟨test, -, ht⟩ := hstages.exists_test hi
    exact knownCondition_of_ofTest ht

/-- A denied test for attachments, and a test of the body that an annotation leaves open. -/
def attachedScript : Value :=
  .arr [.obj [("Type", .str "Require"), ("List", .arr [.str "fileinto", .str "imap4flags"])],
    .obj [("Type", .str "Comment"), ("Text", .str "/**\r\n * @comparator !default\r\n */")],
    .obj [("Type", .str "If"),
      ("If", .obj [("Type", .str "anyof"), ("Tests", .arr [
        .obj [("Type", .str "Not"), ("Test", .obj [("Type", .str "Exists"),
          ("Headers", .str "X-Attached"), ("Keys", .str "pdf")])],
        .obj [("Type", .str "Body"), ("Keys", .arr [.int 5]),
          ("Match", .obj [("Type", .str "Is")])]])]),
      ("Then", .arr [])]]

theorem plain_form_in_known_words_attached :
    (convert (.ofValue attachedScript) .standard).outcome = .ok ⟨.any,
      [⟨.attachments, ⟨.contains, true⟩, []⟩, ⟨.unknown, ⟨.is, false⟩, [.int 5]⟩],
      Effects.none⟩ ∧
    KnownCondition (Condition.toValue ⟨.attachments, ⟨.contains, true⟩, []⟩) ∧
    KnownCondition (Condition.toValue ⟨.unknown, ⟨.is, false⟩, [.int 5]⟩) := by
  have hconvert : (convert (.ofValue attachedScript) .standard).outcome = .ok ⟨.any,
      [⟨.attachments, ⟨.contains, true⟩, []⟩, ⟨.unknown, ⟨.is, false⟩, [.int 5]⟩],
      Effects.none⟩ := by decide +kernel
  obtain ⟨ss, selection, annotations, operator, conditions, effects, -, hplain, -, -, hknown⟩ :=
    plain_form_in_known_words hconvert
  simp only [SimpleFilter.toValue, Value.obj.injEq, List.cons.injEq, Prod.mk.injEq,
    Value.arr.injEq, true_and, and_true] at hplain
  obtain ⟨-, rfl, -⟩ := hplain
  exact ⟨hconvert, hknown _ (by simp), hknown _ (by simp)⟩

end MailFilter
