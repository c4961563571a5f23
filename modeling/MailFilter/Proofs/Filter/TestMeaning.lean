import MailFilter.Filter.Conversion
import MailFilter.Proofs.FirstFailure
import MailFilter.Proofs.Table
import MailFilter.Proofs.Text.Stars

/-!
# When a test means a condition

A test has a polarity and a match tag, a declared comparator has a polarity and a word. The test
converts exactly when the two agree, and then the condition says what the annotation says.
-/
namespace MailFilter

open Script (Test)
open FirstFailure

def Value.IsText : Value → Prop
  | .str _ => True
  | _ => False

def Value.IsTag (v : Value) : Prop := v = .null ∨ v.IsText

/-- The keys of a test are texts and so is its match tag, unless it has none. -/
def Script.Test.Textual : Test → Prop
  | .present _ => True
  | .header _ keys tag => (∀ k ∈ keys.getD [], k.IsText) ∧ tag.IsTag
  | .address _ keys tag => (∀ k ∈ keys.getD [], k.IsText) ∧ tag.IsTag
  | .other _ _ keys tag => (∀ k ∈ keys.getD [], k.IsText) ∧ tag.IsTag
  | .negated t => t.Textual

/-- The word of a declared comparator, empty when nothing is declared. -/
def declaredWord (declared : Option String) : String := (readDenial declared).1.getD ""

/-- The match tag that a test is compared under, empty when it has none. A test for attachments has
one of its own, a test that is still negated has none. -/
def Script.Test.comparison : Test → String
  | .present headers => if Value.str "X-Attached" ∈ headers then "Contains" else ""
  | .header _ _ (.str tag) => tag
  | .address _ _ (.str tag) => tag
  | .other _ _ _ (.str tag) => tag
  | _ => ""

structure Agrees (test : Test) (declared : Option String) : Prop where
  polarity : declaredWord declared ≠ "" → (readDenial declared).2 = test.underNegation.2
  tagged : test.underNegation.1.comparison ≠ ""
  pattern : declaredWord declared ∈ ["starts", "ends"] →
    test.underNegation.1.comparison = "Matches"
  sameWord : declaredWord declared ∉ ["", "starts", "ends"] →
    Text.lower test.underNegation.1.comparison = declaredWord declared
  known : test.underNegation.1.comparison ∈ ["Is", "Contains", "Matches", "Starts", "Ends"]

def Failure.ReportedAs (failure : Failure) (kind message : String) : Prop :=
  ∃ refusal, failure = .refused refusal ∧ refusal.kind = kind ∧ refusal.message = message

def SamePolarity (test : Test) (declared : Option String) : Prop :=
  declaredWord declared ≠ "" → (readDenial declared).2 = test.underNegation.2

/-- The kind and the words under which a test is refused, by the first thing that is wrong with
it. -/
inductive Objection (test : Test) (declared : Option String) : String → String → Prop where
  | polarity : ¬ SamePolarity test declared →
      Objection test declared "UnsupportedRepresentationError"
        "Comment and computed negation incompatible"
  | untagged : SamePolarity test declared → test.underNegation.1.comparison = "" →
      Objection test declared "InvalidInputError" "Missing match type"
  | pattern : SamePolarity test declared → test.underNegation.1.comparison ≠ "" →
      declaredWord declared ∈ ["starts", "ends"] → test.underNegation.1.comparison ≠ "Matches" →
      Objection test declared "UnsupportedRepresentationError"
        ("Comment and computed comparator incompatible: " ++ test.underNegation.1.comparison ++
          " instead of " ++ "matches")
  | sameWord : SamePolarity test declared → test.underNegation.1.comparison ≠ "" →
      declaredWord declared ∉ ["", "starts", "ends"] →
      Text.lower test.underNegation.1.comparison ≠ declaredWord declared →
      Objection test declared "UnsupportedRepresentationError"
        ("Comment and computed comparator incompatible: " ++ test.underNegation.1.comparison ++
          " instead of " ++ declaredWord declared)
  | unknown : SamePolarity test declared → test.underNegation.1.comparison ≠ "" →
      declaredWord declared ∉ ["starts", "ends"] →
      (declaredWord declared ≠ "" →
        Text.lower test.underNegation.1.comparison = declaredWord declared) →
      test.underNegation.1.comparison ∉ ["Is", "Contains", "Matches", "Starts", "Ends"] →
      Objection test declared "InvalidInputError" "Invalid match keys"

def ShownUnder (word : String) : Value → Value → Prop
  | .str key, .str value =>
    if word = "starts" then Text.TrailingStarsGone key.toList value.toList
    else if word = "ends" then Text.LeadingStarsGone key.toList value.toList
    else value = key
  | _, _ => False

theorem Value.IsText.exists_eq {v : Value} (h : v.IsText) : ∃ s, v = .str s := by
  cases v with
  | str s => exact ⟨s, rfl⟩
  | _ => exact h.elim

theorem Value.same_str_iff {v : Value} {s : String} :
    Value.same v (.str s) = true ↔ v = .str s := by
  cases v <;> simp [Value.same, Value.sameScalar, Value.asInt?]

theorem Value.listHas_iff {s : String} {vs : List Value} :
    Value.listHas s vs = true ↔ Value.str s ∈ vs := by
  simp [Value.listHas, Value.same_str_iff]

theorem declared_eq_of_word {declared : Option String} (h : declaredWord declared ≠ "") :
    declared = some ((if (readDenial declared).2 then "!" else "") ++ declaredWord declared) := by
  cases declared with
  | none => simp [declaredWord, readDenial] at h
  | some s =>
    cases hs : s.toList with
    | nil => simp [declaredWord, readDenial, hs] at h
    | cons c word =>
      by_cases hc : c = '!'
      · subst hc
        have hd : readDenial (some s) = (some (String.ofList word), true) := by
          simp [readDenial, hs]
        rw [declaredWord, hd, Option.some.injEq, ← String.toList_inj, hs]
        simp
      · have hd : readDenial (some s) = (some s, false) := by
          simp [readDenial, hs, hc]
        simp [declaredWord, hd]

namespace Script.Test

theorem comparison_of_attachments {t : Test} (h : t.field = .attachments) :
    t.comparison = "Contains" := by
  cases t with
  | present headers =>
    simp only [field] at h
    split at h
    · rename_i hm
      simp [comparison, Value.listHas_iff.mp hm]
    · cases h
  | header | address =>
    simp only [field] at h
    split_ifs at h
  | other | negated => cases h

theorem matchTag_of_textual {t : Test} (ht : t.Textual) (h : t.field ≠ .attachments) :
    t.matchTag = .null ∧ t.comparison = "" ∨ t.matchTag = .str t.comparison := by
  cases t with
  | present headers =>
    refine Or.inl ⟨rfl, ?_⟩
    have hm : Value.str "X-Attached" ∉ headers := by
      intro hm
      exact h (by simp [field, Value.listHas_iff.mpr hm])
    simp [comparison, hm]
  | header _ _ tag | address _ _ tag | other _ _ _ tag =>
    rcases ht.2 with rfl | hs
    · exact Or.inl ⟨rfl, rfl⟩
    · obtain ⟨s, rfl⟩ := hs.exists_eq
      exact Or.inr rfl
  | negated => exact Or.inl ⟨rfl, rfl⟩

theorem effectiveTag_of_textual {t : Test} (ht : t.Textual) :
    t.effectiveTag =
      if t.comparison = "" then .error (.invalidInput .noMatchTag)
      else .ok (.str t.comparison) := by
  unfold effectiveTag
  by_cases h : t.field = .attachments
  · rw [if_pos h, comparison_of_attachments h]
    rfl
  · rw [if_neg h]
    rcases matchTag_of_textual ht h with ⟨hm, hc⟩ | hm
    · simp [hm, hc, Value.isEmpty]
    · simp [hm, Value.isEmpty]

theorem textual_underNegation {t : Test} (ht : t.Textual) : t.underNegation.1.Textual := by
  cases t <;> exact ht

theorem keys_of_textual {t : Test} (ht : t.Textual) : ∀ k ∈ t.keys, k.IsText := by
  cases t with
  | present | negated => simp [keys]
  | header | address | other => exact ht.1

end Script.Test

theorem MatchWord.ofTag?_isSome_iff {tag : String} :
    (MatchWord.ofTag? tag).isSome ↔ tag ∈ ["Is", "Contains", "Matches", "Starts", "Ends"] :=
  Table.isSome_lookup_inverse_iff

theorem MatchWord.token_of_ofTag? {tag : String} {word : MatchWord}
    (h : MatchWord.ofTag? tag = some word) : word.token = Text.lower tag := by
  have hm := MatchWord.ofTag?_isSome_iff.mp (by rw [h]; rfl)
  simp only [List.mem_cons, List.not_mem_nil, or_false] at hm
  rcases hm with rfl | rfl | rfl | rfl | rfl <;> cases h <;> decide +kernel

theorem MatchWord.token_injective {v w : MatchWord} (h : v.token = w.token) : v = w := by
  cases v <;> cases w <;> first | rfl | exact absurd h (by decide)

theorem Comparator.ofTag_eq_ok {tag : String} {negated : Bool} {c : Comparator} :
    Comparator.ofTag (.str tag) negated = .ok c ↔
      tag ∈ ["Is", "Contains", "Matches", "Starts", "Ends"] ∧
      c.negated = negated ∧ c.word.token = Text.lower tag := by
  rw [← MatchWord.ofTag?_isSome_iff]
  simp only [Comparator.ofTag]
  cases hw : MatchWord.ofTag? tag with
  | none => simp
  | some word =>
    have hl := MatchWord.token_of_ofTag? hw
    simp only [Except.ok.injEq, Option.isSome_some, true_and]
    constructor
    · rintro rfl
      exact ⟨rfl, hl⟩
    · rintro ⟨rfl, hc⟩
      rw [← MatchWord.token_injective (hc.trans hl.symm)]

theorem mapM_stripStars_eq_ok {strip : List Char → List Char} {Gone : List Char → List Char → Prop}
    (hg : ∀ s rest, strip s = rest ↔ Gone s rest) {keys values : List Value} :
    keys.mapM (stripStars strip) = .ok values ↔
      List.Forall₂ (fun k v => ∃ s rest, k = .str s ∧ v = .str rest ∧ Gone s.toList rest.toList)
        keys values := by
  have hs : ∀ k v, stripStars strip k = .ok v ↔
      ∃ s rest, k = .str s ∧ v = .str rest ∧ Gone s.toList rest.toList := by
    intro k v
    cases k with
    | str s =>
      simp only [stripStars, Except.ok.injEq, Value.str.injEq, ← hg]
      constructor
      · rintro rfl
        exact ⟨s, _, rfl, rfl, String.toList_ofList.symm⟩
      · rintro ⟨_, rest, rfl, rfl, h⟩
        rw [h, String.ofList_toList]
    | _ => simp [stripStars]
  rw [mapM_eq_ok]
  simp only [hs]

theorem MatchWord.ofTag?_starts : MatchWord.ofTag? "Starts" = some .starts := by decide

theorem MatchWord.ofTag?_ends : MatchWord.ofTag? "Ends" = some .ends := by decide

theorem Comparator.ofTag_of_word {tag : String} {word : MatchWord}
    (h : MatchWord.ofTag? tag = some word) (negated : Bool) :
    Comparator.ofTag (.str tag) negated = .ok ⟨word, negated⟩ := by
  simp only [Comparator.ofTag, h]

theorem starred_eq_ok {proper : String} {word : MatchWord}
    (hp : MatchWord.ofTag? proper = some word) {strip : List Char → List Char} {tag : Value}
    {keys values : List Value} {negated : Bool} {c : Comparator} :
    starred proper strip tag keys negated = .ok (c, values) ↔
      tag = .str "Matches" ∧ c = ⟨word, negated⟩ ∧ keys.mapM (stripStars strip) = .ok values := by
  unfold starred
  by_cases h : tag = .str "Matches"
  · subst h
    rw [Comparator.ofTag_of_word hp]
    cases keys.mapM (stripStars strip) <;> simp [eq_comm]
  · simp [h]

theorem shownUnder_iff_of_plain {word : String} (hs : word ≠ "starts") (he : word ≠ "ends")
    {keys values : List Value} (hk : ∀ k ∈ keys, k.IsText) :
    List.Forall₂ (ShownUnder word) keys values ↔ values = keys := by
  induction keys generalizing values with
  | nil => simp
  | cons k keys ih =>
    obtain ⟨s, rfl⟩ := (hk k (by simp)).exists_eq
    rw [List.forall₂_cons_left_iff]
    constructor
    · rintro ⟨v, rest, hv, hr, rfl⟩
      cases v with
      | str t =>
        have ht : t = s := by simpa [ShownUnder, hs, he] using hv
        rw [ht, (ih fun k h => hk k (by simp [h])).mp hr]
      | _ => exact hv.elim
    · rintro rfl
      exact ⟨_, _, by simp [ShownUnder, hs, he], (ih fun k h => hk k (by simp [h])).mpr rfl, rfl⟩

theorem shownUnder_eq (word : String) (Gone : List Char → List Char → Prop)
    (h : ∀ s rest : String, ShownUnder word (.str s) (.str rest) ↔ Gone s.toList rest.toList) :
    ShownUnder word =
      fun k v => ∃ s rest, k = .str s ∧ v = .str rest ∧ Gone s.toList rest.toList := by
  funext k v
  apply propext
  constructor
  · intro hv
    cases k with
    | str s =>
      cases v with
      | str rest => exact ⟨s, rest, rfl, rfl, (h s rest).mp hv⟩
      | _ => exact hv.elim
    | _ => exact hv.elim
  · rintro ⟨s, rest, rfl, rfl, hg⟩
    exact (h s rest).mpr hg

theorem comparator_eq_iff {c : Comparator} {word : MatchWord} {negated : Bool} :
    c = ⟨word, negated⟩ ↔ c.negated = negated ∧ c.word.token = word.token := by
  constructor
  · rintro rfl
    exact ⟨rfl, rfl⟩
  · rintro ⟨rfl, h⟩
    rw [← MatchWord.token_injective h]

theorem resolve_plain_eq_ok {tag word : String} {keys values : List Value} {negated : Bool}
    {c : Comparator} (hs : word ≠ "starts") (he : word ≠ "ends") :
    resolve (.str tag) keys negated word = .ok (c, values) ↔
      (word ≠ "" → Text.lower tag = word) ∧ Comparator.ofTag (.str tag) negated = .ok c ∧
      values = keys := by
  rw [resolve, if_neg hs, if_neg he]
  have hr : ∀ x : Except Failure Comparator,
      (do return (← x, keys) : Except Failure (Comparator × List Value)) = .ok (c, values) ↔
        x = .ok c ∧ values = keys := by
    intro x
    cases x <;> simp [eq_comm]
  by_cases h : word = ""
  · simpa [h] using hr _
  · by_cases hl : Text.lower tag = word
    · simpa [h, hl] using hr _
    · simp [h, hl]

theorem resolve_eq_ok {tag word : String} {keys values : List Value} {negated : Bool}
    {c : Comparator} (hk : ∀ k ∈ keys, k.IsText) :
    resolve (.str tag) keys negated word = .ok (c, values) ↔
      (word ∈ ["starts", "ends"] → tag = "Matches") ∧
      (word ∉ ["", "starts", "ends"] → Text.lower tag = word) ∧
      tag ∈ ["Is", "Contains", "Matches", "Starts", "Ends"] ∧ c.negated = negated ∧
      c.word.token = (if word = "" then Text.lower tag else word) ∧
      List.Forall₂ (ShownUnder word) keys values := by
  by_cases hs : word = "starts"
  · subst hs
    rw [resolve, if_pos rfl, starred_eq_ok MatchWord.ofTag?_starts, Value.str.injEq,
      comparator_eq_iff, mapM_stripStars_eq_ok fun _ _ => Text.dropTrailingStars_eq_iff,
      shownUnder_eq "starts" Text.TrailingStarsGone fun _ _ => by simp [ShownUnder]]
    constructor
    · rintro ⟨rfl, ⟨hn, hw⟩, hv⟩
      exact ⟨fun _ => rfl, fun h => absurd (by simp) h, by simp, hn, hw, hv⟩
    · rintro ⟨ht, -, -, hn, hw, hv⟩
      exact ⟨ht (by simp), ⟨hn, hw⟩, hv⟩
  by_cases he : word = "ends"
  · subst he
    rw [resolve, if_neg (by decide), if_pos rfl, starred_eq_ok MatchWord.ofTag?_ends,
      Value.str.injEq, comparator_eq_iff,
      mapM_stripStars_eq_ok fun _ _ => Text.dropLeadingStars_eq_iff, shownUnder_eq "ends"
      Text.LeadingStarsGone fun _ _ => by simp [ShownUnder]]
    constructor
    · rintro ⟨rfl, ⟨hn, hw⟩, hv⟩
      exact ⟨fun _ => rfl, fun h => absurd (by simp) h, by simp, hn, hw, hv⟩
    · rintro ⟨ht, -, -, hn, hw, hv⟩
      exact ⟨ht (by simp), ⟨hn, hw⟩, hv⟩
  · rw [shownUnder_iff_of_plain hs he hk, resolve_plain_eq_ok hs he, Comparator.ofTag_eq_ok]
    have hm : word ∉ ["", "starts", "ends"] ↔ word ≠ "" := by simp [hs, he]
    rw [hm]
    constructor
    · rintro ⟨hl, ⟨ht, hn, hw⟩, hv⟩
      refine ⟨fun h => absurd h (by simp [hs, he]), hl, ht, hn, ?_, hv⟩
      split
      · exact hw
      · rename_i h
        exact hw.trans (hl h)
    · rintro ⟨-, hl, ht, hn, hw, hv⟩
      refine ⟨hl, ⟨ht, hn, ?_⟩, hv⟩
      split at hw
      · exact hw
      · rename_i h
        exact hw.trans (hl h).symm

theorem ofTest_eq (test : Test) (declared : Option String) :
    Condition.ofTest test declared =
      if declaredWord declared ≠ "" ∧ (readDenial declared).2 ≠ test.underNegation.2 then
        .error (.unsupported .negationMismatch)
      else test.underNegation.1.effectiveTag >>= fun tag =>
        resolve tag test.underNegation.1.keys test.underNegation.2 (declaredWord declared) >>=
          fun read => .ok ⟨test.underNegation.1.field, read.1, read.2⟩ := by
  unfold Condition.ofTest declaredWord
  by_cases hp : (readDenial declared).1.getD "" ≠ "" ∧
      (readDenial declared).2 ≠ test.underNegation.2
  · simp only [if_pos hp]
    rfl
  · simp only [if_neg hp]
    rfl

theorem ofTest_of_textual {test : Test} {declared : Option String} (ht : test.Textual) :
    Condition.ofTest test declared =
      if declaredWord declared ≠ "" ∧ (readDenial declared).2 ≠ test.underNegation.2 then
        .error (.unsupported .negationMismatch)
      else if test.underNegation.1.comparison = "" then .error (.invalidInput .noMatchTag)
      else resolve (.str test.underNegation.1.comparison) test.underNegation.1.keys
          test.underNegation.2 (declaredWord declared) >>= fun read =>
        .ok ⟨test.underNegation.1.field, read.1, read.2⟩ := by
  rw [ofTest_eq, Test.effectiveTag_of_textual (Test.textual_underNegation ht)]
  by_cases hc : test.underNegation.1.comparison = ""
  · simp only [if_pos hc, error_bind]
  · simp only [if_neg hc, ok_bind]

/-- The condition of a test says what the test and the declared comparator say together. -/
theorem ofTest_eq_ok {test : Test} {declared : Option String} {condition : Condition}
    (ht : test.Textual) :
    Condition.ofTest test declared = .ok condition ↔
      Agrees test declared ∧ condition.field = test.underNegation.1.field ∧
      condition.comparator.negated = test.underNegation.2 ∧
      condition.comparator.word.token = (if declaredWord declared = "" then
        Text.lower test.underNegation.1.comparison else declaredWord declared) ∧
      List.Forall₂ (ShownUnder (declaredWord declared)) test.underNegation.1.keys
        condition.values := by
  have hk := Test.keys_of_textual (Test.textual_underNegation ht)
  rw [ofTest_of_textual ht]
  constructor
  · intro h
    split_ifs at h with hp hc
    obtain ⟨⟨c, vs⟩, hr, h⟩ := bind_eq_ok.mp h
    obtain rfl := Except.ok.inj h
    obtain ⟨hpat, hword, hknown, hn, hw, hv⟩ := (resolve_eq_ok hk).mp hr
    refine ⟨⟨?_, hc, hpat, hword, hknown⟩, rfl, hn, hw, hv⟩
    intro hd
    by_contra hne
    exact hp ⟨hd, hne⟩
  · rintro ⟨ha, hf, hn, hw, hv⟩
    rw [if_neg fun h => h.2 (ha.polarity h.1), if_neg ha.tagged]
    rw [(resolve_eq_ok hk).mpr ⟨ha.pattern, ha.sameWord, ha.known, hn, hw, hv⟩]
    cases condition
    simp [← hf]

theorem exists_shownUnder (word : String) {keys : List Value} (hk : ∀ k ∈ keys, k.IsText) :
    ∃ values, List.Forall₂ (ShownUnder word) keys values := by
  induction keys with
  | nil => exact ⟨[], .nil⟩
  | cons k keys ih =>
    obtain ⟨s, rfl⟩ := (hk k (by simp)).exists_eq
    obtain ⟨values, hv⟩ := ih fun k h => hk k (by simp [h])
    by_cases hs : word = "starts"
    · refine ⟨.str (String.ofList (Text.dropTrailingStars s.toList)) :: values, .cons ?_ hv⟩
      simpa [ShownUnder, hs] using Text.dropTrailingStars_eq_iff.mp rfl
    by_cases he : word = "ends"
    · refine ⟨.str (String.ofList (Text.dropLeadingStars s.toList)) :: values, .cons ?_ hv⟩
      simpa [ShownUnder, he] using Text.dropLeadingStars_eq_iff.mp rfl
    · exact ⟨.str s :: values, .cons (by simp [ShownUnder, hs, he]) hv⟩

theorem Comparator.ofTag_eq_error {tag : String} {negated : Bool} {failure : Failure} :
    Comparator.ofTag (.str tag) negated = .error failure ↔
      tag ∉ ["Is", "Contains", "Matches", "Starts", "Ends"] ∧
      failure = .invalidInput .unknownMatchTag := by
  rw [← MatchWord.ofTag?_isSome_iff]
  simp only [Comparator.ofTag]
  cases MatchWord.ofTag? tag with
  | none => simp [eq_comm]
  | some word => simp

theorem resolve_starred_eq_error {tag word : String} {keys : List Value} {negated : Bool}
    {failure : Failure} (hk : ∀ k ∈ keys, k.IsText) (hw : word ∈ ["starts", "ends"])
    (h : resolve (.str tag) keys negated word = .error failure) :
    tag ≠ "Matches" ∧ failure = .unsupported (.comparatorMismatch (.str tag) "matches") := by
  have htag : tag ≠ "Matches" := by
    rintro rfl
    obtain ⟨values, hv⟩ := exists_shownUnder word hk
    obtain ⟨own, hown⟩ : ∃ own : MatchWord, own.token = word := by
      rcases List.mem_pair.mp hw with rfl | rfl
      · exact ⟨.starts, rfl⟩
      · exact ⟨.ends, rfl⟩
    have hne : word ≠ "" := by
      rintro rfl
      simp at hw
    have hok : resolve (.str "Matches") keys negated word = .ok (⟨own, negated⟩, values) :=
      (resolve_eq_ok hk).mpr ⟨fun _ => rfl, fun hn => absurd (List.mem_cons_of_mem _ hw) hn,
        by simp, rfl, by rw [if_neg hne, hown], hv⟩
    rw [hok] at h
    cases h
  refine ⟨htag, ?_⟩
  have hstarred : ∀ proper strip, starred proper strip (.str tag) keys negated =
      .error (.unsupported (.comparatorMismatch (.str tag) "matches")) := by
    intro proper strip
    simp [starred, htag]
  rcases List.mem_pair.mp hw with rfl | rfl
  · rw [resolve, if_pos rfl, hstarred] at h
    exact (Except.error.inj h).symm
  · rw [resolve, if_neg (by decide), if_pos rfl, hstarred] at h
    exact (Except.error.inj h).symm

theorem resolve_plain_eq_error {tag word : String} {keys : List Value} {negated : Bool}
    {failure : Failure} (hw : word ∉ ["starts", "ends"])
    (h : resolve (.str tag) keys negated word = .error failure) :
    word ≠ "" ∧ Text.lower tag ≠ word ∧
        failure = .unsupported (.comparatorMismatch (.str tag) word) ∨
      (word ≠ "" → Text.lower tag = word) ∧
        tag ∉ ["Is", "Contains", "Matches", "Starts", "Ends"] ∧
        failure = .invalidInput .unknownMatchTag := by
  simp only [List.mem_cons, List.not_mem_nil, or_false, not_or] at hw
  rw [resolve, if_neg hw.1, if_neg hw.2] at h
  have hread : ∀ x : Except Failure Comparator,
      (do return (← x, keys) : Except Failure (Comparator × List Value)) = .error failure →
        x = .error failure := by
    intro x hx
    rcases bind_eq_error.mp hx with hx | ⟨_, _, hx⟩
    · exact hx
    · cases hx
  by_cases hmismatch : word ≠ "" ∧ Text.lower tag ≠ word
  · refine Or.inl ⟨hmismatch.1, hmismatch.2, ?_⟩
    simp only [if_pos hmismatch.1, if_pos hmismatch.2] at h
    exact (Except.error.inj h).symm
  · have hsame : word ≠ "" → Text.lower tag = word := fun hne =>
      not_not.mp fun hl => hmismatch ⟨hne, hl⟩
    have hof : Comparator.ofTag (.str tag) negated = .error failure := by
      by_cases hne : word = ""
      · simp only [hne, ne_eq, not_true_eq_false, if_false] at h
        exact hread _ h
      · simp only [hne, hsame hne, ne_eq, not_false_eq_true, not_true_eq_false, if_true,
          if_false] at h
        exact hread _ h
    exact Or.inr ⟨hsame, Comparator.ofTag_eq_error.mp hof⟩

/-- A test that does not convert is refused in the words of the first thing that is wrong. -/
theorem exists_objection_of_ofTest {test : Test} {declared : Option String} {failure : Failure}
    (ht : test.Textual) (h : Condition.ofTest test declared = .error failure) :
    ∃ kind message, Objection test declared kind message ∧ failure.ReportedAs kind message := by
  have hk := Test.keys_of_textual (Test.textual_underNegation ht)
  rw [ofTest_of_textual ht] at h
  by_cases hp : declaredWord declared ≠ "" ∧ (readDenial declared).2 ≠ test.underNegation.2
  · rw [if_pos hp, Except.error.injEq] at h
    exact ⟨_, _, .polarity fun hs => hp.2 (hs hp.1), _, h.symm, rfl, rfl⟩
  rw [if_neg hp] at h
  have hsame : SamePolarity test declared := fun hd => not_not.mp fun hn => hp ⟨hd, hn⟩
  by_cases hc : test.underNegation.1.comparison = ""
  · rw [if_pos hc, Except.error.injEq] at h
    exact ⟨_, _, .untagged hsame hc, _, h.symm, rfl, rfl⟩
  rw [if_neg hc] at h
  have hr : resolve (.str test.underNegation.1.comparison) test.underNegation.1.keys
      test.underNegation.2 (declaredWord declared) = .error failure := by
    rcases bind_eq_error.mp h with hr | ⟨_, _, hr⟩
    · exact hr
    · cases hr
  by_cases hw : declaredWord declared ∈ ["starts", "ends"]
  · obtain ⟨hm, rfl⟩ := resolve_starred_eq_error hk hw hr
    exact ⟨_, _, .pattern hsame hc hw hm, _, rfl, rfl, rfl⟩
  · rcases resolve_plain_eq_error hw hr with ⟨hne, hl, rfl⟩ | ⟨hl, hu, rfl⟩
    · refine ⟨_, _, .sameWord hsame hc ?_ hl, _, rfl, rfl, rfl⟩
      rw [List.mem_cons, not_or]
      exact ⟨hne, hw⟩
    · exact ⟨_, _, .unknown hsame hc hw hl hu, _, rfl, rfl, rfl⟩

theorem Agrees.exists_word {test : Test} {declared : Option String} (h : Agrees test declared) :
    ∃ word : MatchWord, word.token = if declaredWord declared = "" then
      Text.lower test.underNegation.1.comparison else declaredWord declared := by
  obtain ⟨word, hw⟩ := Option.isSome_iff_exists.mp (MatchWord.ofTag?_isSome_iff.mpr h.known)
  have hl := MatchWord.token_of_ofTag? hw
  split
  · exact ⟨word, hl⟩
  · rename_i hd
    by_cases hp : declaredWord declared ∈ ["starts", "ends"]
    · rcases List.mem_pair.mp hp with hs | he
      · exact ⟨.starts, hs.symm⟩
      · exact ⟨.ends, he.symm⟩
    · exact ⟨word, hl.trans (h.sameWord (by simp_all))⟩

theorem Agrees.exists_condition {test : Test} {declared : Option String} (ht : test.Textual)
    (h : Agrees test declared) : ∃ condition, Condition.ofTest test declared = .ok condition := by
  obtain ⟨word, hw⟩ := h.exists_word
  obtain ⟨values, hv⟩ := exists_shownUnder (declaredWord declared)
    (Test.keys_of_textual (Test.textual_underNegation ht))
  exact ⟨⟨test.underNegation.1.field, ⟨word, test.underNegation.2⟩, values⟩,
    (ofTest_eq_ok ht).mpr ⟨h, rfl, rfl, hw, hv⟩⟩

def paired : List Test → List (Option String) → List (Test × Option String)
  | [], _ => []
  | test :: tests, declared => (test, declared.head?.getD none) :: paired tests declared.tail

theorem getElem?_paired (tests : List Test) (declared : List (Option String)) (i : Nat) :
    (paired tests declared)[i]? = tests[i]?.map fun test => (test, declared[i]?.getD none) := by
  induction tests generalizing declared i with
  | nil => simp [paired]
  | cons test tests ih =>
    cases i with
    | zero => cases declared <;> simp [paired]
    | succ i => cases declared <;> simp [paired, ih]

theorem getElem?_paired_eq_some {tests : List Test} {declared : List (Option String)} {i : Nat}
    {p : Test × Option String} :
    (paired tests declared)[i]? = some p ↔
      ∃ test, tests[i]? = some test ∧ p = (test, declared[i]?.getD none) := by
  rw [getElem?_paired, Option.map_eq_some_iff]
  simp only [eq_comm]

theorem getD_map_some (words : List String) (i : Nat) :
    (words.map some)[i]?.getD none = words[i]? := by
  rw [List.getElem?_map]
  cases words[i]? <;> rfl

theorem map_fst_paired (tests : List Test) (declared : List (Option String)) :
    (paired tests declared).map Prod.fst = tests := by
  induction tests generalizing declared with
  | nil => rfl
  | cons test tests ih => rw [paired, List.map_cons, ih]

theorem length_paired (tests : List Test) (declared : List (Option String)) :
    (paired tests declared).length = tests.length := by
  rw [← List.length_map Prod.fst, map_fst_paired]

theorem outcome_conditionsFrom (index : Nat) (tests : List Test) (declared : List (Option String)) :
    (conditionsFrom index tests declared).outcome =
      (paired tests declared).mapM fun p => Condition.ofTest p.1 p.2 := by
  induction tests generalizing index declared with
  | nil => rfl
  | cons test tests ih =>
    simp only [conditionsFrom, paired, List.mapM_cons, Logged.outcome_bind, ih]
    rfl

theorem outcome_conditionsOf (tests : List Test) (declared : List (Option String)) :
    (conditionsOf tests declared).outcome =
      (paired tests declared).mapM fun p => Condition.ofTest p.1 p.2 :=
  outcome_conditionsFrom 0 tests declared

theorem outcome_conditionsOf_single (test : Test) (declared : Option String) :
    (conditionsOf [test] [declared]).outcome =
      Condition.ofTest test declared >>= fun condition => .ok [condition] := by
  rw [outcome_conditionsOf]
  simp [paired]

/-- A test converts exactly when it agrees with the comparator declared for it. Its condition then
has the declared comparator, or else the comparison of the test, and the keys of the test. Under two
negations no test converts. -/
theorem single_test_decision (test : Test) (declared : Option String) (ht : test.Textual) :
    ((∃ conditions, (conditionsOf [test] [declared]).outcome = .ok conditions) ↔
      Agrees test declared) ∧
    (∀ conditions, (conditionsOf [test] [declared]).outcome = .ok conditions →
      ∃ condition, conditions = [condition] ∧
        condition.comparator.negated = test.underNegation.2 ∧
        (declaredWord declared ≠ "" → declared = some condition.comparator.token ∧
          condition.comparator.word.token = declaredWord declared ∧
          condition.comparator.negated = (readDenial declared).2) ∧
        (declaredWord declared = "" → condition.comparator.token =
          (if test.underNegation.2 then "!" else "") ++
            Text.lower test.underNegation.1.comparison) ∧
        List.Forall₂ (ShownUnder (declaredWord declared)) test.underNegation.1.keys
          condition.values) ∧
    (∀ inner, test = .negated (.negated inner) → (conditionsOf [test] [declared]).outcome =
      if declaredWord declared ≠ "" ∧ (readDenial declared).2 = false then
        .error (.unsupported .negationMismatch)
      else .error (.invalidInput .noMatchTag)) := by
  simp only [outcome_conditionsOf_single]
  refine ⟨⟨?_, ?_⟩, ?_, ?_⟩
  · rintro ⟨_, h⟩
    obtain ⟨condition, hc, _⟩ := bind_eq_ok.mp h
    exact ((ofTest_eq_ok ht).mp hc).1
  · intro h
    obtain ⟨condition, hc⟩ := h.exists_condition ht
    exact ⟨[condition], by rw [hc, ok_bind]⟩
  · intro conditions h
    obtain ⟨condition, hc, h⟩ := bind_eq_ok.mp h
    obtain rfl := Except.ok.inj h
    obtain ⟨ha, _, hn, hw, hv⟩ := (ofTest_eq_ok ht).mp hc
    refine ⟨condition, rfl, hn, ?_, ?_, hv⟩
    · intro hd
      rw [if_neg hd] at hw
      have hp := ha.polarity hd
      refine ⟨?_, hw, hn.trans hp.symm⟩
      rw [Comparator.token, hw, hn, ← hp]
      exact declared_eq_of_word hd
    · intro hd
      rw [if_pos hd] at hw
      rw [Comparator.token, hw, hn]
  · rintro inner rfl
    rw [ofTest_of_textual ht]
    simp only [Test.underNegation, Test.comparison, ne_eq, Bool.not_eq_true]
    split <;> rfl

theorem single_test_decision_denied_start :
    (Test.negated (.header [.str "Subject"] (some [.str "re*", .str "*fw**\n"])
      (.str "Matches"))).Textual ∧
    ∃ condition, (conditionsOf [.negated (.header [.str "Subject"]
        (some [.str "re*", .str "*fw**\n"]) (.str "Matches"))] [some "!starts"]).outcome =
      .ok [condition] ∧ some "!starts" = some condition.comparator.token := by
  have ht : (Test.negated (.header [.str "Subject"] (some [.str "re*", .str "*fw**\n"])
      (.str "Matches"))).Textual := by
    simp [Test.Textual, Value.IsTag, Value.IsText]
  obtain ⟨hc, hv, -⟩ := single_test_decision _ (some "!starts") ht
  have ha : Agrees (.negated (.header [.str "Subject"] (some [.str "re*", .str "*fw**\n"])
      (.str "Matches"))) (some "!starts") :=
    ⟨fun _ => by decide, by decide, fun _ => rfl, by decide, by decide⟩
  obtain ⟨conditions, ho⟩ := hc.mpr ha
  obtain ⟨condition, rfl, -, hw, -⟩ := hv conditions ho
  exact ⟨ht, condition, ho, (hw (by decide)).1⟩

end MailFilter
