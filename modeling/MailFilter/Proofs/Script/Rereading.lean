import MailFilter.Proofs.FirstFailure
import MailFilter.Proofs.Script.Source
import MailFilter.Filter.Conversion

/-!
# Trees of which parts were read before

Any parts of a tree that can be read may be replaced by what they are read as: statements, what a
rule asks, tests below negations, actions. Reading the tree gives the same statements then, or fails
as before, because each reader passes on what it would have made itself.
-/
namespace MailFilter

open FirstFailure

namespace Script

open Source (entry)

/-- The entries of an object with another tree under a name, if it has that name. -/
def Source.put (name : String) (s : Source) (fields : List (String × Source)) :
    List (String × Source) :=
  fields.map fun field => (field.1, if field.1 = name then s else field.2)

/-- The entries of a rule with other trees for what it asks and for its two branches. -/
def Source.putRule (guard consequent alternative : Source) (fields : List (String × Source)) :
    List (String × Source) :=
  Source.put "Else" alternative (Source.put "Then" consequent (Source.put "If" guard fields))

/-- A list and the same list with some of its items changed, or one tree twice. -/
inductive Source.PrereadParts (Changed : Source → Source → Prop) : Source → Source → Prop where
  | same (s) : PrereadParts Changed s s
  | parts {items others} : List.Forall₂ Changed items others →
      PrereadParts Changed (.arr items) (.arr others)

/-- A tree in the place of a test, and the same tree in which tests may have been read. -/
inductive Test.Preread : Source → Source → Prop where
  | same (s) : Preread s s
  | read {s t} : Test.ofSource s = .ok t → Preread s (.test t)
  | negated {fields inner} : tagOf fields = .str "Not" → Preread (entry "Test" fields) inner →
      Preread (.obj fields) (.obj (Source.put "Test" inner fields))

/-- A tree in the place of what a rule asks, and the same tree of which parts may have been read. -/
inductive Guard.Preread : Source → Source → Prop where
  | same (s) : Preread s s
  | read {s g} : Guard.ofSource s = .ok g → Preread s (.guard g)
  | group {fields tests} : isGroup fields = true →
      Source.PrereadParts Test.Preread (entry "Tests" fields) tests →
      Preread (.obj fields) (.obj (Source.put "Tests" tests fields))
  | single {fields s} : isGroup fields = false → Test.Preread (.obj fields) s →
      Preread (.obj fields) s

inductive Action.Preread : Source → Source → Prop where
  | same (s) : Preread s s
  | read {s a} : Action.ofSource s = .ok a → Preread s (.action a)

inductive Statement.Preread : Source → Source → Prop where
  | same (s) : Preread s s
  | read {s st} : Statement.ofSource s = .ok st → Preread s (.statement st)
  | rule {fields guard consequent alternative} : tagOf fields = .str "If" →
      Guard.Preread (entry "If" fields) guard →
      Source.PrereadParts Action.Preread (entry "Then" fields) consequent →
      Source.PrereadParts Action.Preread (entry "Else" fields) alternative →
      Preread (.obj fields) (.obj (Source.putRule guard consequent alternative fields))

/-- A script, and the same script of which any parts that can be read were read before. -/
def Source.Preread : Source → Source → Prop := Source.PrereadParts Statement.Preread

theorem Source.lookup_put (name key : String) (s : Source) (fields : List (String × Source)) :
    (Source.put name s fields).lookup key =
      if key = name then (fields.lookup key).map fun _ => s else fields.lookup key := by
  induction fields with
  | nil => simp [Source.put]
  | cons field rest ih =>
    obtain ⟨k, old⟩ := field
    rw [Source.put, List.map_cons, ← Source.put, List.lookup_cons, List.lookup_cons, ih]
    cases hk : key == k with
    | true =>
      obtain rfl := eq_of_beq hk
      by_cases hn : key = name <;> simp [hn]
    | false => rfl

theorem Source.entry_put_of_ne {name key : String} (h : key ≠ name) (s : Source)
    (fields : List (String × Source)) :
    entry key (Source.put name s fields) = entry key fields := by
  rw [entry, Source.lookup_put, if_neg h, entry]

/-- A reader that tells no difference between two trees tells none when one is put for the other. -/
theorem Source.read_entry_put {α : Type} (reader : Source → α) {name : String} {s : Source}
    {fields : List (String × Source)} (h : reader s = reader (entry name fields)) :
    reader (entry name (Source.put name s fields)) = reader (entry name fields) := by
  cases hf : fields.lookup name with
  | none =>
    rw [entry, Source.lookup_put, if_pos rfl, entry, hf]
    rfl
  | some old =>
    rw [entry, Source.lookup_put, if_pos rfl, hf]
    exact h

theorem tagOf_put {name : String} (h : "Type" ≠ name) (s : Source)
    (fields : List (String × Source)) : tagOf (Source.put name s fields) = tagOf fields := by
  rw [tagOf, Source.entry_put_of_ne h, tagOf]

theorem tagOf_putRule (guard consequent alternative : Source) (fields : List (String × Source)) :
    tagOf (Source.putRule guard consequent alternative fields) = tagOf fields := by
  rw [Source.putRule, tagOf_put (by decide), tagOf_put (by decide), tagOf_put (by decide)]

theorem isGroup_put {name : String} (h : "Type" ≠ name) (s : Source)
    (fields : List (String × Source)) : isGroup (Source.put name s fields) = isGroup fields := by
  have htests : ((Source.put name s fields).lookup "Tests").isSome =
      (fields.lookup "Tests").isSome := by
    rw [Source.lookup_put]
    split
    · exact Option.isSome_map
    · rfl
  rw [isGroup, isGroup, tagOf_put h, htests]

theorem mapM_of_forall₂ {α β ε : Type} {R : α → α → Prop} {f : α → Except ε β} {xs ys : List α}
    (h : List.Forall₂ R xs ys) (hf : ∀ x y, R x y → f y = f x) : ys.mapM f = xs.mapM f := by
  induction h with
  | nil => rfl
  | cons hxy _ ih => rw [List.mapM_cons, List.mapM_cons, hf _ _ hxy, ih]

def Source.readParts {α : Type} (reader : Source → Except Failure α) (s : Source) :
    Except Failure (Option (List α)) := do
  match ← s.parts? with
  | some parts => return some (← parts.mapM reader)
  | none => return none

theorem Source.readParts_of_preread {α : Type} {Changed : Source → Source → Prop}
    {reader : Source → Except Failure α} {s mixed : Source}
    (h : Source.PrereadParts Changed s mixed)
    (hr : ∀ s mixed, Changed s mixed → reader mixed = reader s) :
    Source.readParts reader mixed = Source.readParts reader s := by
  cases h with
  | same => rfl
  | @parts items others hitems =>
    change (do return some (← others.mapM reader)) = (do return some (← items.mapM reader))
    rw [mapM_of_forall₂ hitems hr]

theorem Test.ofSource_of_preread {s mixed : Source} (h : Test.Preread s mixed) :
    Test.ofSource mixed = Test.ofSource s := by
  induction h with
  | same s => rfl
  | read hs => exact hs.symm
  | negated htag _ ih =>
    rw [Test.ofSource.eq_2, Test.ofSource.eq_2, tagOf_put (by decide), htag]
    simp only [Test.ofInner_eq]
    rw [Source.read_entry_put Test.ofSource ih]

theorem Guard.ofSource_group {fields : List (String × Source)} (h : isGroup fields = true) :
    Guard.ofSource (.obj fields) =
      (Source.readParts Test.ofSource (entry "Tests" fields)).map
        (.group (tagOf fields).display) := by
  simp only [Guard.ofSource, h, if_true, Source.readParts]
  cases (entry "Tests" fields).parts? with
  | error failure => rfl
  | ok parts =>
    cases parts with
    | none => rfl
    | some parts =>
      simp only [ok_bind]
      cases parts.mapM Test.ofSource <;> rfl

theorem Guard.ofSource_single {fields : List (String × Source)} (h : isGroup fields = false) :
    Guard.ofSource (.obj fields) = (Test.ofSource (.obj fields)).map .single := by
  simp only [Guard.ofSource, h, Bool.false_eq_true, if_false]

theorem Guard.ofSource_of_preread {s mixed : Source} (h : Guard.Preread s mixed) :
    Guard.ofSource mixed = Guard.ofSource s := by
  cases h with
  | same => rfl
  | read hs => exact hs.symm
  | group hg htests =>
    have hparts := Source.readParts_of_preread htests fun _ _ => Test.ofSource_of_preread
    rw [Guard.ofSource_group hg, Guard.ofSource_group ((isGroup_put (by decide) ..).trans hg),
      tagOf_put (by decide), Source.read_entry_put (Source.readParts Test.ofSource) hparts]
  | single hg ht =>
    have hread := Test.ofSource_of_preread ht
    rw [Guard.ofSource_single hg, ← hread]
    cases ht with
    | same => exact Guard.ofSource_single hg
    | read => rfl
    | negated => exact Guard.ofSource_single ((isGroup_put (by decide) ..).trans hg)

theorem Action.ofSource_of_preread {s mixed : Source} (h : Action.Preread s mixed) :
    Action.ofSource mixed = Action.ofSource s := by
  cases h with
  | same => rfl
  | read hs => exact hs.symm

theorem guardOf_of_ne {s : Source} (h : s ≠ .null) : guardOf s = (Guard.ofSource s).map some := by
  unfold guardOf
  split
  · exact absurd rfl h
  · rfl

theorem guardOf_of_preread {s mixed : Source} (h : Guard.Preread s mixed) :
    guardOf mixed = guardOf s := by
  have hread := Guard.ofSource_of_preread h
  cases h with
  | same => rfl
  | read hs =>
    have hne : s ≠ .null := by
      rintro rfl
      cases hs
    rw [guardOf_of_ne hne, ← hread]
    rfl
  | group => exact congrArg (Except.map some) hread
  | single _ ht =>
    have hne : mixed ≠ .null := by
      rintro rfl
      cases ht
    rw [guardOf_of_ne hne, hread]
    rfl

theorem actionsOf_of_preread {s mixed : Source}
    (h : Source.PrereadParts Action.Preread s mixed) : actionsOf mixed = actionsOf s :=
  Source.readParts_of_preread h fun _ _ => Action.ofSource_of_preread

/-- Each entry of a rule is put by itself, and the other two do not matter to its reader. -/
theorem ofFields_putRule {fields : List (String × Source)} {guard consequent alternative : Source}
    (hguard : Guard.Preread (entry "If" fields) guard)
    (hconsequent : Source.PrereadParts Action.Preread (entry "Then" fields) consequent)
    (halternative : Source.PrereadParts Action.Preread (entry "Else" fields) alternative) :
    Rule.ofFields (Source.putRule guard consequent alternative fields) = Rule.ofFields fields := by
  have hif : guardOf (entry "If" (Source.putRule guard consequent alternative fields)) =
      guardOf (entry "If" fields) := by
    rw [Source.putRule, Source.entry_put_of_ne (by decide), Source.entry_put_of_ne (by decide)]
    exact Source.read_entry_put guardOf (guardOf_of_preread hguard)
  have hthen : actionsOf (entry "Then" (Source.putRule guard consequent alternative fields)) =
      actionsOf (entry "Then" fields) := by
    have hentry := Source.entry_put_of_ne (show "Then" ≠ "If" by decide) guard fields
    rw [Source.putRule, Source.entry_put_of_ne (by decide), ← hentry]
    exact Source.read_entry_put actionsOf (hentry ▸ actionsOf_of_preread hconsequent)
  have helse : actionsOf (entry "Else" (Source.putRule guard consequent alternative fields)) =
      actionsOf (entry "Else" fields) := by
    have hentry : entry "Else" (Source.put "Then" consequent (Source.put "If" guard fields)) =
        entry "Else" fields := by
      rw [Source.entry_put_of_ne (by decide), Source.entry_put_of_ne (by decide)]
    rw [Source.putRule, ← hentry]
    exact Source.read_entry_put actionsOf (hentry ▸ actionsOf_of_preread halternative)
  rw [Rule.ofFields_eq, Rule.ofFields_eq, hif, hthen, helse]

theorem Statement.ofSource_of_preread {s mixed : Source} (h : Statement.Preread s mixed) :
    Statement.ofSource mixed = Statement.ofSource s := by
  cases h with
  | same => rfl
  | read hs => exact hs.symm
  | rule htag hguard hconsequent halternative =>
    rw [Statement.ofSource, Statement.ofSource, tagOf_putRule, htag]
    simp only [ofFields_putRule hguard hconsequent halternative]

theorem statements_of_preread {tree mixed : Source} (h : tree.Preread mixed) :
    statements mixed = statements tree := by
  cases h with
  | same => rfl
  | parts hitems => exact mapM_of_forall₂ hitems fun _ _ => Statement.ofSource_of_preread

theorem preread_statements {tree : Source} {ss : List Statement} (h : statements tree = .ok ss) :
    tree.Preread (.arr (ss.map .statement)) := by
  cases tree with
  | arr items =>
    refine .parts ?_
    rw [List.forall₂_map_right_iff]
    exact (mapM_eq_ok.mp h).imp fun _ _ => .read
  | null | bool | int | float | str | obj | foreign | statement | guard | test | action => cases h

end Script

/-- A script of which parts were read before has the same statements as the script itself, or fails
to be read for the same reason, and so has the same filter or is refused alike. Statements that were
read stay the same when they are read again. -/
theorem conversion_of_preread {tree mixed : Script.Source} (h : tree.Preread mixed)
    (requirements : Requirements) :
    Script.statements mixed = Script.statements tree ∧
    (Script.statements tree >>= fun ss => Script.statements (.arr (ss.map .statement))) =
      Script.statements tree ∧
    convert mixed requirements = convert tree requirements ∧
    isConvertible mixed requirements = isConvertible tree requirements := by
  have hread := Script.statements_of_preread h
  have hconvert : convert mixed requirements = convert tree requirements := by
    rw [convert, convert, hread]
  refine ⟨hread, ?_, hconvert, by rw [isConvertible, isConvertible, hconvert]⟩
  cases hs : Script.statements tree with
  | error failure => rfl
  | ok ss => exact (Script.statements_of_preread (Script.preread_statements hs)).trans hs

def brokenScript : Value :=
  .arr [.obj [("Type", .str "If"),
    ("If", .obj [("Type", .str "allof"), ("Tests", .arr [.obj [("Type", .str "Not"),
      ("Test", .obj [("Type", .str "Exists"), ("Headers", .str "X-Attached")])]])]),
    ("Then", .arr [.obj [("Type", .str "Keep")], .int 5])]]

/-- The same script with the test below the negation and the first action read before. -/
def prereadScript : Script.Source :=
  .arr [.obj [("Type", .str "If"),
    ("If", .obj [("Type", .str "allof"), ("Tests", .arr [.obj [("Type", .str "Not"),
      ("Test", .test (.present [.str "X-Attached"]))]])]),
    ("Then", .arr [.action .keep, .int 5])]]

theorem conversion_of_preread_broken :
    (Script.Source.ofValue brokenScript).Preread prereadScript ∧
    (convert prereadScript .standard).outcome = .error (.unsupported (.notObject (.int 5))) := by
  have h : (Script.Source.ofValue brokenScript).Preread prereadScript := by
    refine .parts (.cons (.rule rfl ?guard ?consequent (.same _)) .nil)
    case guard => exact .group rfl (.parts (.cons (.negated rfl (.read rfl)) .nil))
    case consequent => exact .parts (.cons (.read rfl) (.cons (.same _) .nil))
  refine ⟨h, ?_⟩
  rw [(conversion_of_preread h .standard).2.2.1]
  rfl

end MailFilter
