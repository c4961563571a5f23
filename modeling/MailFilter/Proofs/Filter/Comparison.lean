import MailFilter.Proofs.Filter.TestMeaning
import MailFilter.Proofs.Table

/-!
# How the comparator of a condition is obtained

A declared comparison with the beginning or the end takes a pattern apart. Every other comparator is
that of the match tag, and then the keys stay as they are. This holds of all tests, whatever values
they carry.
-/
namespace MailFilter

open Script (Test)
open FirstFailure

/-- The ways in which a match tag and keys are read under a declared word. -/
inductive ReadUnder (tag : Value) (keys : List Value) (negated : Bool) :
    String → Comparator → List Value → Prop where
  | starts {values} : tag = .str "Matches" →
      keys.mapM (stripStars Text.dropTrailingStars) = .ok values →
      ReadUnder tag keys negated "starts" ⟨.starts, negated⟩ values
  | ends {values} : tag = .str "Matches" →
      keys.mapM (stripStars Text.dropLeadingStars) = .ok values →
      ReadUnder tag keys negated "ends" ⟨.ends, negated⟩ values
  | tagged {word s w} : word ≠ "starts" → word ≠ "ends" → tag = .str s →
      (w, s) ∈ matchTags → (word ≠ "" → w.token = word) →
      ReadUnder tag keys negated word ⟨w, negated⟩ keys

def stripOf : MatchWord → List Char → List Char
  | .starts => Text.dropTrailingStars
  | .ends => Text.dropLeadingStars
  | .is | .contains | .matches => id

/-- A comparison with the beginning or the end is declared, or the match tag says it. -/
theorem ReadUnder.declared_or_tagged {tag : Value} {keys values : List Value} {negated : Bool}
    {word : String} {c : Comparator} (h : ReadUnder tag keys negated word c values)
    (hc : c.word = .starts ∨ c.word = .ends) :
    word = c.word.token ∧ keys.mapM (stripStars (stripOf c.word)) = .ok values ∨
    word = "" ∧ ∃ s, tag = .str s ∧ (c.word, s) ∈ matchTags ∧ values = keys := by
  cases h with
  | starts _ hv | ends _ hv => exact Or.inl ⟨rfl, hv⟩
  | @tagged _ s w hs he ht hm hw =>
    refine Or.inr ⟨?_, s, ht, hm, rfl⟩
    by_contra hne
    rcases hc with rfl | rfl
    · exact hs (hw hne).symm
    · exact he (hw hne).symm

theorem MatchWord.ofTag?_eq_some {tag : String} {word : MatchWord} :
    MatchWord.ofTag? tag = some word ↔ (word, tag) ∈ matchTags :=
  Table.lookup_inverse_iff_mem (by decide)

theorem Comparator.exists_of_ofTag {tag : Value} {negated : Bool} {c : Comparator}
    (h : Comparator.ofTag tag negated = .ok c) :
    ∃ s word, tag = .str s ∧ (word, s) ∈ matchTags ∧ c = ⟨word, negated⟩ := by
  unfold Comparator.ofTag at h
  split at h
  · rename_i s
    cases hw : MatchWord.ofTag? s with
    | none => simp [hw] at h
    | some word =>
      rw [hw] at h
      exact ⟨s, word, rfl, MatchWord.ofTag?_eq_some.mp hw, (Except.ok.inj h).symm⟩
  · split at h <;> cases h

theorem readUnder_of_resolve {tag : Value} {keys values : List Value} {negated : Bool}
    {word : String} {c : Comparator} (h : resolve tag keys negated word = .ok (c, values)) :
    ReadUnder tag keys negated word c values := by
  unfold resolve at h
  by_cases hs : word = "starts"
  · rw [if_pos hs] at h
    obtain ⟨ht, rfl, hv⟩ := (starred_eq_ok MatchWord.ofTag?_starts).mp h
    exact hs ▸ .starts ht hv
  by_cases he : word = "ends"
  · rw [if_neg hs, if_pos he] at h
    obtain ⟨ht, rfl, hv⟩ := (starred_eq_ok MatchWord.ofTag?_ends).mp h
    exact he ▸ .ends ht hv
  rw [if_neg hs, if_neg he] at h
  have hplain : ∀ x : Except Failure Comparator,
      (do return (← x, keys) : Except Failure (Comparator × List Value)) = .ok (c, values) →
        x = .ok c ∧ values = keys := by
    intro x hx
    obtain ⟨d, hd, hx⟩ := bind_eq_ok.mp hx
    obtain ⟨rfl, rfl⟩ := Prod.mk.inj (Except.ok.inj hx)
    exact ⟨hd, rfl⟩
  by_cases hw : word = ""
  · rw [if_neg (not_not.mpr hw)] at h
    obtain ⟨hc, rfl⟩ := hplain _ h
    obtain ⟨s, w, ht, hm, rfl⟩ := Comparator.exists_of_ofTag hc
    exact .tagged hs he ht hm fun hne => absurd hw hne
  · rw [if_pos hw] at h
    cases tag with
    | str s =>
      by_cases hl : Text.lower s = word
      · simp only [hl, ne_eq, not_true_eq_false, if_false] at h
        obtain ⟨hc, rfl⟩ := hplain _ h
        obtain ⟨t, w, ht, hm, rfl⟩ := Comparator.exists_of_ofTag hc
        obtain rfl := Value.str.inj ht
        have hlower := MatchWord.token_of_ofTag? (MatchWord.ofTag?_eq_some.mpr hm)
        exact .tagged hs he rfl hm fun _ => hlower.trans hl
      · simp [hl] at h
    | null | bool | int | float | arr | obj | foreign => cases h

theorem readUnder_of_ofTest {test : Test} {declared : Option String} {c : Condition}
    (h : Condition.ofTest test declared = .ok c) :
    (declaredWord declared ≠ "" → (readDenial declared).2 = test.underNegation.2) ∧
    ∃ tag, test.underNegation.1.effectiveTag = .ok tag ∧
      ReadUnder tag test.underNegation.1.keys test.underNegation.2 (declaredWord declared)
        c.comparator c.values := by
  rw [ofTest_eq] at h
  split_ifs at h with hp
  obtain ⟨tag, htag, h⟩ := bind_eq_ok.mp h
  obtain ⟨⟨comparator, values⟩, hr, h⟩ := bind_eq_ok.mp h
  obtain rfl := Except.ok.inj h
  refine ⟨?_, tag, htag, readUnder_of_resolve hr⟩
  intro hw
  by_contra hne
  exact hp ⟨hw, hne⟩

theorem token_of_declared {test : Test} {declared : String} {c : Condition}
    (h : Condition.ofTest test (some declared) = .ok c) (hw : declaredWord (some declared) ≠ "") :
    c.comparator.token = declared := by
  obtain ⟨hp, tag, -, hr⟩ := readUnder_of_ofTest h
  have hd := Option.some.inj (declared_eq_of_word hw)
  obtain ⟨field, comparator, values⟩ := c
  have hc : comparator.negated = test.underNegation.2 ∧
      comparator.word.token = declaredWord (some declared) := by
    generalize declaredWord (some declared) = word at hr hw
    cases hr with
    | starts | ends => exact ⟨rfl, rfl⟩
    | tagged _ _ _ _ ht => exact ⟨rfl, ht hw⟩
  rw [Comparator.token, hc.1, hc.2, ← hp hw]
  exact hd.symm

theorem forall_of_mapM_stripStars {p : Value → Prop} (hp : ∀ s, p (.str s))
    {strip : List Char → List Char} {keys values : List Value}
    (h : keys.mapM (stripStars strip) = .ok values) : (∀ k ∈ keys, p k) ∧ ∀ v ∈ values, p v := by
  have hall := (mapM_stripStars_eq_ok fun _ _ => Iff.rfl).mp h
  clear h
  induction hall with
  | nil => simp
  | cons hk _ ih =>
    obtain ⟨s, rest, rfl, rfl, -⟩ := hk
    simpa [hp] using ih

/-- What is true of texts is true of the values of a condition exactly if it is of the keys of its
test. -/
theorem forall_values_iff {p : Value → Prop} (hp : ∀ s, p (.str s)) {test : Test}
    {declared : Option String} {c : Condition} (h : Condition.ofTest test declared = .ok c) :
    (∀ v ∈ c.values, p v) ↔ ∀ k ∈ test.underNegation.1.keys, p k := by
  obtain ⟨-, tag, -, hr⟩ := readUnder_of_ofTest h
  obtain ⟨field, comparator, values⟩ := c
  generalize declaredWord declared = word at hr
  cases hr with
  | starts _ hv | ends _ hv =>
    obtain ⟨hkeys, hvalues⟩ := forall_of_mapM_stripStars hp hv
    exact ⟨fun _ => hkeys, fun _ => hvalues⟩
  | tagged => exact Iff.rfl

end MailFilter
