import MailFilter.Proofs.Filter.Comparison
import MailFilter.Proofs.Filter.Stages
import MailFilter.Proofs.Text.Deletion

/-!
# Stars around the values of a condition

Scripts store a comparison with the beginning or the end as a pattern, with a star where it is open.
Where an annotation declares such a comparison these stars are gone from the values. A match tag may
also say the comparison itself; then there is no pattern, and the stars of a key are its own.
Stripping deletes one run of stars from each value and nothing else.
-/
namespace MailFilter

open Script (Test Source)
open FirstFailure

def Value.EndsInStar : Value → Prop
  | .str s => s.toList.getLast? = some '*'
  | _ => False

def Value.BeginsWithStar : Value → Prop
  | .str s => s.toList.head? = some '*'
  | _ => False

/-- A condition with a comparison, denied or not, has it either from an annotation, and then none of
its values has a star in the place in question, or from the match tag of its test, and then its
values are the keys of the test as they are. -/
def StarsAccountedFor (word : MatchWord) (tag : String) (HasStar : Value → Prop)
    (declared : Option String) (test : Test) (c : Condition) : Prop :=
  c.comparator.token ∈ [word.token, "!" ++ word.token] →
    declaredWord declared = word.token ∧ (∀ v ∈ c.values, ¬ HasStar v) ∨
    declaredWord declared = "" ∧ test.underNegation.1.matchTag = .str tag ∧
      c.values = test.underNegation.1.keys

theorem Comparator.word_of_token {c : Comparator} {word : MatchWord}
    (h : c.token ∈ [word.token, "!" ++ word.token]) : c.word = word := by
  obtain ⟨w, negated⟩ := c
  cases w <;> cases negated <;> cases word <;> first | rfl | exact absurd h (by decide)

theorem exists_stripped {strip : List Char → List Char} {Gone : List Char → List Char → Prop}
    (hg : ∀ s rest, strip s = rest ↔ Gone s rest) {keys values : List Value}
    (h : keys.mapM (stripStars strip) = .ok values) {v : Value} (hv : v ∈ values) :
    ∃ s rest : String, v = .str rest ∧ Gone s.toList rest.toList := by
  obtain ⟨i, hi⟩ := List.mem_iff_getElem?.mp hv
  obtain ⟨k, -, s, rest, -, hrest, hgone⟩ :=
    getElem?_of_forall₂ ((mapM_stripStars_eq_ok hg).mp h) hi
  exact ⟨s, rest, hrest, hgone⟩

theorem not_endsInStar_of_stripped {keys values : List Value}
    (h : keys.mapM (stripStars Text.dropTrailingStars) = .ok values) :
    ∀ v ∈ values, ¬ v.EndsInStar := by
  intro v hv
  obtain ⟨s, rest, rfl, hgone⟩ := exists_stripped (fun _ _ => Text.dropTrailingStars_eq_iff) h hv
  rcases hgone with ⟨-, hclosing⟩ | ⟨line, kept, -, hrest, -⟩
  · exact hclosing.1
  · simp [Value.EndsInStar, hrest]

theorem not_beginsWithStar_of_stripped {keys values : List Value}
    (h : keys.mapM (stripStars Text.dropLeadingStars) = .ok values) :
    ∀ v ∈ values, ¬ v.BeginsWithStar := by
  intro v hv
  obtain ⟨s, rest, rfl, hgone⟩ := exists_stripped (fun _ _ => Text.dropLeadingStars_eq_iff) h hv
  exact hgone.1

theorem Script.Test.matchTag_of_effectiveTag {t : Test} {s : String}
    (h : t.effectiveTag = .ok (.str s)) (hs : s ≠ "Contains") : t.matchTag = .str s := by
  unfold effectiveTag at h
  split_ifs at h
  · exact absurd (Value.str.inj (Except.ok.inj h)).symm hs
  · exact Except.ok.inj h

/-- A comparison whose stars are stripped where it is declared, and which one match tag says. -/
theorem starsAccountedFor_of_ofTest {word : MatchWord} {tag : String} {HasStar : Value → Prop}
    (hword : word = .starts ∨ word = .ends) (htag : ∀ s, (word, s) ∈ matchTags → s = tag)
    (hplain : tag ≠ "Contains")
    (hstrip : ∀ keys values : List Value, keys.mapM (stripStars (stripOf word)) = .ok values →
      ∀ v ∈ values, ¬ HasStar v)
    {test : Test} {declared : Option String} {c : Condition}
    (h : Condition.ofTest test declared = .ok c) :
    StarsAccountedFor word tag HasStar declared test c := by
  intro hc
  obtain rfl := Comparator.word_of_token hc
  obtain ⟨-, found, hfound, hr⟩ := readUnder_of_ofTest h
  rcases hr.declared_or_tagged hword with ⟨hdeclared, hv⟩ | ⟨hdeclared, s, rfl, hm, hv⟩
  · exact Or.inl ⟨hdeclared, hstrip _ _ hv⟩
  · obtain rfl := htag s hm
    exact Or.inr ⟨hdeclared, Test.matchTag_of_effectiveTag hfound hplain, hv⟩

theorem stars_of_ofTest {test : Test} {declared : Option String} {c : Condition}
    (h : Condition.ofTest test declared = .ok c) :
    StarsAccountedFor .starts "Starts" Value.EndsInStar declared test c ∧
    StarsAccountedFor .ends "Ends" Value.BeginsWithStar declared test c := by
  constructor
  · exact starsAccountedFor_of_ofTest (Or.inl rfl) (by simp [matchTags]) (by decide)
      (fun _ _ => not_endsInStar_of_stripped) h
  · exact starsAccountedFor_of_ofTest (Or.inr rfl) (by simp [matchTags]) (by decide)
      (fun _ _ => not_beginsWithStar_of_stripped) h

/-- Of every filter, each condition that compares with the beginning or the end either is declared
so, and then no value has a star where the comparison is open, or shows the keys of its test. -/
theorem outer_stars_accounted_for {tree : Source} {requirements : Requirements}
    {filter : SimpleFilter} (h : (convert tree requirements).outcome = .ok filter) :
    ∃ ss selection annotations, Stages tree requirements filter ss selection annotations ∧
      ∀ (i : Nat) (c : Condition), filter.conditions[i]? = some c →
        ∃ test, selection.rule.tests[i]? = some test ∧
          StarsAccountedFor .starts "Starts" Value.EndsInStar (comparatorsOf annotations)[i]?
            test c ∧
          StarsAccountedFor .ends "Ends" Value.BeginsWithStar (comparatorsOf annotations)[i]?
            test c := by
  obtain ⟨ss, selection, annotations, hstages⟩ := convert_eq_ok.mp h
  refine ⟨ss, selection, annotations, hstages, ?_⟩
  intro i c hc
  obtain ⟨test, hi, ht⟩ := hstages.exists_test hc
  exact ⟨test, hi, stars_of_ofTest ht⟩

/-- Two tests of the subject: one is declared to be about the beginning, the match tag of the other
says so. -/
def starryScript : Value :=
  .arr [.obj [("Type", .str "Require"), ("List", .arr [.str "fileinto", .str "imap4flags"])],
    .obj [("Type", .str "Comment"), ("Text", .str "/**\r\n * @comparator starts\r\n */")],
    .obj [("Type", .str "If"),
      ("If", .obj [("Type", .str "allof"), ("Tests", .arr [
        .obj [("Type", .str "Header"), ("Headers", .str "Subject"), ("Keys", .str "re**"),
          ("Match", .obj [("Type", .str "Matches")])],
        .obj [("Type", .str "Header"), ("Headers", .str "Subject"), ("Keys", .str "fwd*"),
          ("Match", .obj [("Type", .str "Starts")])]])]),
      ("Then", .arr [])]]

def starryFilter : SimpleFilter where
  operator := .all
  conditions := [⟨.subject, ⟨.starts, false⟩, [.str "re"]⟩,
    ⟨.subject, ⟨.starts, false⟩, [.str "fwd*"]⟩]
  effects := Effects.none

theorem convert_starryScript :
    (convert (.ofValue starryScript) .standard).outcome = .ok starryFilter := by
  decide +kernel

def starryRule : Script.MainRule where
  tag := "allof"
  tests := [.header [.str "Subject"] (some [.str "re**"]) (.str "Matches"),
    .header [.str "Subject"] (some [.str "fwd*"]) (.str "Starts")]
  actions := []
  alternative := none

theorem select_starryScript :
    (Script.statements (.ofValue starryScript) >>= fun ss =>
      (selectStatements ss defaultExtensions).outcome) =
      .ok ⟨starryRule, some "/**\r\n * @comparator starts\r\n */"⟩ := by
  decide +kernel

theorem readComment_starryScript :
    (readComment (some "/**\r\n * @comparator starts\r\n */")).outcome =
      .ok (some ⟨none, ["starts"]⟩) := by
  decide +kernel

/-- The first test is declared, the second is not. -/
theorem outer_stars_accounted_for_starry :
    (convert (.ofValue starryScript) .standard).outcome = .ok starryFilter ∧
    StarsAccountedFor .starts "Starts" Value.EndsInStar (some "starts")
      (.header [.str "Subject"] (some [.str "re**"]) (.str "Matches"))
      ⟨.subject, ⟨.starts, false⟩, [.str "re"]⟩ ∧
    StarsAccountedFor .starts "Starts" Value.EndsInStar none
      (.header [.str "Subject"] (some [.str "fwd*"]) (.str "Starts"))
      ⟨.subject, ⟨.starts, false⟩, [.str "fwd*"]⟩ := by
  obtain ⟨ss, selection, annotations, hs, hall⟩ := outer_stars_accounted_for convert_starryScript
  have hselected := select_starryScript
  rw [hs.read, ok_bind] at hselected
  obtain rfl := Except.ok.inj (hs.selected.symm.trans hselected)
  obtain rfl := Except.ok.inj (hs.annotated.symm.trans readComment_starryScript)
  obtain ⟨first, hfirst, hdeclared, -⟩ := hall 0 _ rfl
  obtain ⟨second, hsecond, htagged, -⟩ := hall 1 _ rfl
  obtain rfl := Option.some.inj hfirst
  obtain rfl := Option.some.inj hsecond
  exact ⟨convert_starryScript, hdeclared, htagged⟩

/-- The star of a key that no annotation is about stays. -/
theorem starryScript_keeps_star :
    ∃ filter, (convert (.ofValue starryScript) .standard).outcome = .ok filter ∧
      ∃ c ∈ filter.conditions, c.comparator.token = "starts" ∧ ∃ v ∈ c.values, v.EndsInStar := by
  refine ⟨starryFilter, convert_starryScript, ⟨.subject, ⟨.starts, false⟩, [.str "fwd*"]⟩, ?_,
    by decide, .str "fwd*", ?_, ?_⟩
  · simp [starryFilter]
  · simp
  · show "fwd*".toList.getLast? = some '*'
    decide

theorem starred_of_texts {proper : String} {word : MatchWord}
    (hp : MatchWord.ofTag? proper = some word) (strip : List Char → List Char)
    (values : List String) (negated : Bool) :
    starred proper strip (.str "Matches") (values.map .str) negated =
      .ok (⟨word, negated⟩, values.map fun v => .str (String.ofList (strip v.toList))) := by
  apply (starred_eq_ok hp).mpr
  refine ⟨rfl, rfl, ?_⟩
  rw [List.mapM_map]
  exact mapM_eq_ok_map fun _ _ => rfl

/-- Stripping deletes from a text whatever its pattern takes, and that is the whole run of stars in
front, or the whole run at the end, where a final line feed does not count. The first is done at
once, the second in two turns at most, in either order, and both value by value. -/
theorem stars_stripped (s : List Char) (values : List String) (negated : Bool) :
    (∀ rest, (Text.Deleted Text.leadingStars [] s rest ↔ Text.dropLeadingStars s = rest) ∧
      (Text.dropLeadingStars s = rest ↔ Text.LeadingStarsGone s rest)) ∧
    (∀ rest, (Text.Deleted Text.trailingStars [] s rest ↔ Text.dropTrailingStars s = rest) ∧
      (Text.dropTrailingStars s = rest ↔ Text.TrailingStarsGone s rest)) ∧
    Text.dropLeadingStars (Text.dropLeadingStars s) = Text.dropLeadingStars s ∧
    Text.dropTrailingStars (Text.dropTrailingStars (Text.dropTrailingStars s)) =
      Text.dropTrailingStars (Text.dropTrailingStars s) ∧
    Text.dropLeadingStars (Text.dropTrailingStars s) =
      Text.dropTrailingStars (Text.dropLeadingStars s) ∧
    resolve (.str "Matches") (values.map .str) negated "starts" = .ok (⟨.starts, negated⟩,
      values.map fun v => .str (String.ofList (Text.dropTrailingStars v.toList))) ∧
    resolve (.str "Matches") (values.map .str) negated "ends" = .ok (⟨.ends, negated⟩,
      values.map fun v => .str (String.ofList (Text.dropLeadingStars v.toList))) := by
  refine ⟨fun _ => ⟨Text.deleted_leadingStars_iff, Text.dropLeadingStars_eq_iff⟩,
    fun _ => ⟨Text.deleted_trailingStars_iff, Text.dropTrailingStars_eq_iff⟩,
    List.dropWhile_idempotent _ s, Text.dropTrailingStars_settled s,
    Text.dropLeadingStars_dropTrailingStars s, ?_, ?_⟩
  · exact starred_of_texts MatchWord.ofTag?_starts Text.dropTrailingStars values negated
  · exact starred_of_texts MatchWord.ofTag?_ends Text.dropLeadingStars values negated

/-- A star before a line feed goes only when the stars behind it are gone. -/
example : Text.dropTrailingStars "a*\n*".toList = "a*\n".toList ∧
    Text.dropTrailingStars "a*\n".toList = "a\n".toList := by
  decide

end MailFilter
