import MailFilter.Proofs.Script.Rereading
import MailFilter.Proofs.Text.Words

/-!
# Names written as one text

Headers and flags may be written as one text of words, a single key or extension as a bare text.
Wherever in a script lists are written so, at any depth and in any number of places, the script has
the same statements: each reader looks at a place only as that place is meant.
-/
namespace MailFilter

open FirstFailure

namespace Script

open Source (entry)

/-- What a tree in a script is read as: an object, a list of objects, a list of words, a list of
names, or a value that is taken as it stands. -/
inductive Place where
  | object (visit : Visit)
  | list (visit : Visit)
  | words
  | names
  | kept
  deriving DecidableEq, Repr

/-- The place of an entry in an object. A guard that is no group of tests is read as a test. -/
def Visit.place (visit : Visit) (name : String) : Place :=
  if name = "Headers" ∨ name = "Flags" then .words
  else if name = "Keys" ∨ name = "List" then .names
  else match visit with
    | .statement =>
      if name = "If" then .object .guard
      else if name = "Then" ∨ name = "Else" then .list .action
      else .kept
    | .guard =>
      if name = "Tests" then .list .test else if name = "Test" then .object .test else .kept
    | .test => if name = "Test" then .object .test else .kept
    | .action => .kept

/-- A tree in a place, and the same tree in which any lists of words are written as one text, and
any lists of one name as a bare text. -/
inductive Shortened : Place → Source → Source → Prop where
  | same (place s) : Shortened place s s
  | words {texts : List String} {text : String} :
      Text.Spaced (texts.map String.toList) text.toList →
      Shortened .words (.arr (texts.map .str)) (.str text)
  | name (s) : Shortened .names (.arr [.str s]) (.str s)
  | object {visit fields others} : others.map Prod.fst = fields.map Prod.fst →
      (∀ name s t, fields.lookup name = some s → others.lookup name = some t →
        Shortened (visit.place name) s t) →
      Shortened (.object visit) (.obj fields) (.obj others)
  | list {visit} {items others : List Source} : items.length = others.length →
      (∀ (i : Nat) s t, items[i]? = some s → others[i]? = some t →
        Shortened (.object visit) s t) →
      Shortened (.list visit) (.arr items) (.arr others)

theorem Shortened.ofFields {visit : Visit} {fields others : List (String × Source)}
    (h : List.Forall₂ (fun field other => other.1 = field.1 ∧
      Shortened (visit.place field.1) field.2 other.2) fields others) :
    Shortened (.object visit) (.obj fields) (.obj others) := by
  refine .object ?_ ?_
  · induction h with
    | nil => rfl
    | cons hfield _ ih => rw [List.map_cons, List.map_cons, hfield.1, ih]
  · intro name s t hs ht
    induction h with
    | nil => cases hs
    | @cons field other _ _ hfield _ ih =>
      obtain ⟨hname, hvalue⟩ := hfield
      rw [List.lookup_cons] at hs ht
      rw [hname] at ht
      by_cases hf : name = field.1
      · subst hf
        simp only [beq_self_eq_true, Option.some.injEq] at hs ht
        exact hs ▸ ht ▸ hvalue
      · rw [beq_eq_false_iff_ne.mpr hf] at hs ht
        exact ih hs ht

theorem Shortened.ofItems {visit : Visit} {items others : List Source}
    (h : List.Forall₂ (Shortened (.object visit)) items others) :
    Shortened (.list visit) (.arr items) (.arr others) := by
  obtain ⟨hlength, hitems⟩ := forall₂_iff_getElem?.mp h
  exact .list hlength hitems

def Visit.Agree : Visit → Source → Source → Prop
  | .statement, s, t => Statement.ofSource t = Statement.ofSource s
  | .guard, s, t => guardOf t = guardOf s
  | .test, s, t => Test.ofSource t = Test.ofSource s
  | .action, s, t => Action.ofSource t = Action.ofSource s

def Place.Agree : Place → Source → Source → Prop
  | .object visit, s, t => visit.Agree s t
  | .list visit, s, t => Source.PrereadParts visit.Agree s t
  | .words, s, t => t.words = s.words
  | .names, s, t => t.names? = s.names?
  | .kept, s, t => t = s

theorem Visit.agree_self (visit : Visit) (s : Source) : visit.Agree s s := by
  cases visit <;> rfl

theorem Place.agree_self (place : Place) (s : Source) : place.Agree s s := by
  cases place with
  | object visit => exact visit.agree_self s
  | list => exact .same s
  | words | names | kept => rfl

/-- Two objects with entries of the same names, which are read alike in their places. -/
structure Alike (visit : Visit) (fields others : List (String × Source)) : Prop where
  present : ∀ name, (others.lookup name).isSome = (fields.lookup name).isSome
  entries : ∀ name, (visit.place name).Agree (entry name fields) (entry name others)

section

variable {visit : Visit} {fields others : List (String × Source)}

theorem Alike.lookup (h : Alike visit fields others) {name : String}
    (hk : visit.place name = .kept) : others.lookup name = fields.lookup name := by
  have hp := h.present name
  have he := h.entries name
  rw [hk] at he
  simp only [Place.Agree, entry] at he
  cases hf : fields.lookup name <;> cases ho : others.lookup name <;> simp_all

theorem Alike.entry (h : Alike visit fields others) (name : String)
    (hk : visit.place name = .kept) : Source.entry name others = Source.entry name fields := by
  rw [Source.entry, Source.entry, h.lookup hk]

theorem Alike.tagOf (h : Alike visit fields others) : tagOf others = tagOf fields := by
  rw [Script.tagOf, Script.tagOf, h.entry "Type" (by cases visit <;> rfl)]

theorem Alike.matchTagOf (h : Alike visit fields others) :
    matchTagOf others = matchTagOf fields := by
  rw [Script.matchTagOf, Script.matchTagOf, h.entry "Match" (by cases visit <;> rfl)]

theorem Alike.words (h : Alike visit fields others) (name : String)
    (hw : visit.place name = .words) :
    (Source.entry name others).words = (Source.entry name fields).words := by
  have he := h.entries name
  rwa [hw] at he

theorem Alike.names? (h : Alike visit fields others) (name : String)
    (hn : visit.place name = .names) :
    (Source.entry name others).names? = (Source.entry name fields).names? := by
  have he := h.entries name
  rwa [hn] at he

theorem Alike.textOf (h : Alike visit fields others) (name : String)
    (hk : visit.place name = .kept) : textOf name others = textOf name fields := by
  rw [Script.textOf, Script.textOf, h.lookup hk]

theorem Alike.plainTest (h : Alike visit fields others) : plainTest others = plainTest fields := by
  have hheaders := h.words "Headers" rfl
  have hkeys := h.names? "Keys" rfl
  simp only [Script.plainTest, hheaders, hkeys, h.matchTagOf, h.tagOf]

theorem Alike.test (h : Alike visit fields others) (ht : visit.place "Test" = .object .test) :
    Test.ofSource (.obj others) = Test.ofSource (.obj fields) := by
  have hinner := h.entries "Test"
  rw [ht] at hinner
  have hinner : Test.ofSource (Source.entry "Test" others) =
    Test.ofSource (Source.entry "Test" fields) := hinner
  simp only [Test.ofSource.eq_2, Test.ofInner_eq, h.tagOf, h.plainTest, hinner]

theorem Alike.guard (h : Alike .guard fields others) :
    Guard.ofSource (.obj others) = Guard.ofSource (.obj fields) := by
  have hgroup : isGroup others = isGroup fields := by
    rw [isGroup, isGroup, h.tagOf, h.present]
  have htests : Source.readParts Test.ofSource (Source.entry "Tests" others) =
      Source.readParts Test.ofSource (Source.entry "Tests" fields) :=
    Source.readParts_of_preread (h.entries "Tests") fun _ _ ht => ht
  cases hg : isGroup fields with
  | true => rw [Guard.ofSource_group hg, Guard.ofSource_group (hgroup.trans hg), h.tagOf, htests]
  | false =>
    rw [Guard.ofSource_single hg, Guard.ofSource_single (hgroup.trans hg), h.test rfl]

theorem Alike.action (h : Alike .action fields others) :
    Action.ofSource (.obj others) = Action.ofSource (.obj fields) := by
  have hflags := h.words "Flags" rfl
  have hname := h.textOf "Name" rfl
  have hmessage := h.textOf "Message" rfl
  simp only [Action.ofSource, h.tagOf, hflags, hname, hmessage]

theorem Alike.rule (h : Alike .statement fields others) :
    Rule.ofFields others = Rule.ofFields fields := by
  have hguard : guardOf (Source.entry "If" others) = guardOf (Source.entry "If" fields) :=
    h.entries "If"
  have hconsequent : actionsOf (Source.entry "Then" others) =
      actionsOf (Source.entry "Then" fields) :=
    Source.readParts_of_preread (h.entries "Then") fun _ _ ha => ha
  have halternative : actionsOf (Source.entry "Else" others) =
      actionsOf (Source.entry "Else" fields) :=
    Source.readParts_of_preread (h.entries "Else") fun _ _ ha => ha
  rw [Rule.ofFields_eq, Rule.ofFields_eq, hguard, hconsequent, halternative]

theorem Alike.statement (h : Alike .statement fields others) :
    Statement.ofSource (.obj others) = Statement.ofSource (.obj fields) := by
  have hlist := h.names? "List" rfl
  have htext := h.entry "Text" rfl
  simp only [Statement.ofSource, h.tagOf, hlist, htext, h.rule]

theorem Alike.agree (h : Alike visit fields others) : visit.Agree (.obj fields) (.obj others) := by
  cases visit with
  | statement => exact h.statement
  | guard => exact congrArg (Except.map some) h.guard
  | test => exact h.test rfl
  | action => exact h.action

end

theorem words_of_spaced {texts : List String} {text : String}
    (h : Text.Spaced (texts.map String.toList) text.toList) :
    (Source.str text).words = (Source.arr (texts.map .str)).words := by
  have hlist : (Source.arr (texts.map .str)).words = .ok (texts.map .str) := by
    change Except.ok ((texts.map Source.str).map Source.toValue) = _
    rw [List.map_map]
    rfl
  rw [hlist, Source.words, Text.splitBlanks_eq_iff.mpr h]

theorem lookup_isSome_of_names {fields others : List (String × Source)}
    (h : others.map Prod.fst = fields.map Prod.fst) (name : String) :
    (others.lookup name).isSome = (fields.lookup name).isSome := by
  have hmem : ∀ entries : List (String × Source),
      (entries.lookup name).isSome = true ↔ name ∈ entries.map Prod.fst := by
    intro entries
    rw [List.lookup_isSome_iff, List.mem_map]
    simp only [beq_iff_eq, @eq_comm _ name]
  rw [Bool.eq_iff_iff, hmem, hmem, h]

theorem Shortened.agree {place : Place} {s t : Source} (h : Shortened place s t) :
    place.Agree s t := by
  induction h with
  | same place s => exact place.agree_self s
  | words hspaced => exact words_of_spaced hspaced
  | name s => rfl
  | @object visit fields others hnames _ ih =>
    have hpresent := lookup_isSome_of_names hnames
    have halike : Alike visit fields others := by
      refine ⟨hpresent, ?_⟩
      intro name
      have hname := hpresent name
      rw [Source.entry, Source.entry]
      cases hf : fields.lookup name with
      | none =>
        have ho : others.lookup name = none := by simpa [hf] using hname
        rw [ho]
        exact Place.agree_self _ _
      | some s =>
        obtain ⟨t, ho⟩ : ∃ t, others.lookup name = some t := by
          rwa [hf, Option.isSome_some, Option.isSome_iff_exists] at hname
        rw [ho]
        exact ih name s t hf ho
    exact halike.agree
  | list hlength _ ih => exact .parts (forall₂_iff_getElem?.mpr ⟨hlength, ih⟩)

theorem statements_of_shortened {tree short : Source}
    (h : Shortened (.list .statement) tree short) : statements short = statements tree := by
  cases h.agree with
  | same => rfl
  | parts hitems => exact mapM_of_forall₂ hitems fun _ _ hs => hs

end Script

open Script (Source Shortened)

/-- A script in which lists of words and lists of one name are written as texts has the same
statements as the script with the lists, or fails to be read for the same reason, and so has the
same filter or is refused alike. A bare text for keys or extensions is one name, whatever blanks it
holds. -/
theorem conversion_of_shorthand {tree short : Source}
    (h : Shortened (.list .statement) tree short) (requirements : Requirements) :
    Script.statements short = Script.statements tree ∧
    convert short requirements = convert tree requirements ∧
    isConvertible short requirements = isConvertible tree requirements ∧
    (∀ fields text, Script.tagOf fields = .str "Require" →
      Source.entry "List" fields = .str text →
      Script.Statement.ofSource (.obj fields) = .ok (.require [.str text])) ∧
    (∀ fields text test, Source.entry "Keys" fields = .str text →
      Script.plainTest fields = .ok test →
      test.keys = [.str text] ∨ ∃ headers, test = .present headers) := by
  have hread := Script.statements_of_shortened h
  have hconvert : convert short requirements = convert tree requirements := by
    rw [convert, convert, hread]
  refine ⟨hread, hconvert, by rw [isConvertible, isConvertible, hconvert], ?_, ?_⟩
  · intro fields text htag hlist
    simp only [Script.Statement.ofSource, htag, hlist]
    rfl
  · intro fields text test hkeys htest
    simp only [Script.plainTest, hkeys] at htest
    obtain ⟨headers, -, htest⟩ := bind_eq_ok.mp htest
    obtain ⟨keys, hread, htest⟩ := bind_eq_ok.mp htest
    obtain rfl : some [.str text] = keys := Except.ok.inj hread
    obtain ⟨matchTag, -, htest⟩ := bind_eq_ok.mp htest
    split at htest <;> cases htest
    · exact Or.inr ⟨headers, rfl⟩
    · exact Or.inl rfl
    · exact Or.inl rfl
    · exact Or.inl rfl

/-- A rule with given names in a test under a negation, and with given flags in both branches. -/
def namingScript (extensions headers keys flags others : Value) : Value :=
  .arr [.obj [("Type", .str "Require"), ("List", extensions)],
    .obj [("Type", .str "If"),
      ("If", .obj [("Type", .str "allof"), ("Tests", .arr [.obj [("Type", .str "Not"),
        ("Test", .obj [("Type", .str "Address"), ("Headers", headers), ("Keys", keys),
          ("Match", .obj [("Type", .str "Is")])])]])]),
      ("Then", .arr [.obj [("Type", .str "AddFlag"), ("Flags", flags)]]),
      ("Else", .arr [.obj [("Type", .str "AddFlag"), ("Flags", others)]])]]

def listedScript : Value :=
  namingScript (.arr [.str "file into"]) (.arr [.str "To", .str "Cc"]) (.arr [.str " a b "])
    (.arr [.str "\\Seen", .str "\\Flagged"]) (.arr [])

def wordedScript : Value :=
  namingScript (.str "file into") (.str "\tTo\u3000 Cc") (.str " a b ")
    (.str "\\Seen\n\\Flagged ") (.str "  ")

theorem conversion_of_shorthand_worded :
    Shortened (.list .statement) (.ofValue listedScript) (.ofValue wordedScript) ∧
    (convert (.ofValue wordedScript) ⟨["file into"], .str "trash"⟩).outcome =
      .ok ⟨.all, [⟨.recipient, ⟨.is, true⟩, [.str " a b "]⟩], ⟨[], ⟨true, true⟩, none⟩⟩ := by
  have hwords : ∀ texts text, Text.splitBlanks text = texts →
      Shortened .words (.arr (texts.map .str)) (.str text) :=
    fun _ _ h => .words (Text.splitBlanks_eq_iff.mp h)
  have hheaders := hwords ["To", "Cc"] "\tTo\u3000 Cc" (by decide +kernel)
  have hflags := hwords ["\\Seen", "\\Flagged"] "\\Seen\n\\Flagged " (by decide +kernel)
  have hothers := hwords [] "  " (by decide +kernel)
  have h : Shortened (.list .statement) (.ofValue listedScript) (.ofValue wordedScript) := by
    refine .ofItems (.cons (.ofFields ?require) (.cons (.ofFields ?rule) .nil))
    case require => exact .cons ⟨rfl, .same _ _⟩ (.cons ⟨rfl, .name _⟩ .nil)
    case rule =>
      refine .cons ⟨rfl, .same _ _⟩ (.cons ⟨rfl, .ofFields ?guard⟩
        (.cons ⟨rfl, ?consequent⟩ (.cons ⟨rfl, ?alternative⟩ .nil)))
      case guard =>
        refine .cons ⟨rfl, .same _ _⟩ (.cons ⟨rfl, .ofItems (.cons (.ofFields ?negated) .nil)⟩ .nil)
        refine .cons ⟨rfl, .same _ _⟩ (.cons ⟨rfl, .ofFields ?_⟩ .nil)
        exact .cons ⟨rfl, .same _ _⟩ (.cons ⟨rfl, hheaders⟩ (.cons ⟨rfl, .name _⟩
          (.cons ⟨rfl, .same _ _⟩ .nil)))
      case consequent =>
        exact .ofItems (.cons (.ofFields (.cons ⟨rfl, .same _ _⟩ (.cons ⟨rfl, hflags⟩ .nil))) .nil)
      case alternative =>
        exact .ofItems (.cons (.ofFields (.cons ⟨rfl, .same _ _⟩ (.cons ⟨rfl, hothers⟩ .nil))) .nil)
  refine ⟨h, ?_⟩
  rw [(conversion_of_shorthand h _).2.1]
  decide +kernel

end MailFilter
