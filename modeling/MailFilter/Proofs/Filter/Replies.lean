import MailFilter.Proofs.Filter.Effects
import MailFilter.Proofs.Script.Source

/-!
# Replies in the plain form of a filter

The plain form of effects has an entry for a reply exactly if the last reply in the script has a
message that is not null. A null message leaves no entry, and the replies before it are replaced by
it all the same.
-/
namespace MailFilter

open Script (Action Source)
open FirstFailure

namespace Value

def field? (name : String) : Value → Option Value
  | obj fields => fields.lookup name
  | _ => none

/-- A tree that is read as a reply, by its short or its qualified tag. -/
def IsReply (v : Value) : Prop :=
  v.field? "Type" = some (str "Vacation") ∨ v.field? "Type" = some (str "Vacation\\Vacation")

instance (v : Value) : Decidable v.IsReply := inferInstanceAs (Decidable (_ ∨ _))

def messageOf (v : Value) : Value := (v.field? "Message").getD (str "")

def replyMessage? (v : Value) : Option Value := if v.IsReply then some v.messageOf else none

theorem replyMessage?_ne_none {v : Value} : v.replyMessage? ≠ none ↔ v.IsReply := by
  unfold replyMessage?
  split <;> simpa

theorem replyMessage?_eq_some {v message : Value} :
    v.replyMessage? = some message ↔ v.IsReply ∧ v.messageOf = message := by
  unfold replyMessage?
  split <;> simp_all

theorem messageOf_eq_null {v : Value} : v.messageOf = null ↔ v.field? "Message" = some null := by
  unfold messageOf
  cases v.field? "Message" <;> simp

end Value

theorem entry_eq_str {fields : List (String × Value)} {name s : String} :
    Value.entry name fields = .str s ↔ (Value.obj fields).field? name = some (.str s) := by
  rw [Value.entry, Value.field?]
  cases fields.lookup name <;> simp

theorem textOf_ofFields (name : String) (fields : List (String × Value)) :
    Script.textOf name (Source.ofFields fields) = (fields.lookup name).getD (.str "") := by
  rw [Script.textOf, Source.lookup_ofFields]
  cases fields.lookup name with
  | none => rfl
  | some v => exact Source.toValue_ofValue v

theorem message?_of_ofSource {v : Value} {a : Action}
    (h : Action.ofSource (.ofValue v) = .ok a) : a.message? = v.replyMessage? := by
  cases v with
  | null | bool | int | float | str | arr | foreign => cases h
  | obj fields =>
    have hreply : (Value.obj fields).IsReply ↔ Value.entry "Type" fields = .str "Vacation" ∨
        Value.entry "Type" fields = .str "Vacation\\Vacation" := by
      rw [entry_eq_str, entry_eq_str]
      rfl
    have hmessage : (Value.obj fields).messageOf = (fields.lookup "Message").getD (.str "") := rfl
    simp only [Source.ofValue, Action.ofSource, Source.tagOf_ofFields, textOf_ofFields] at h
    rw [Value.replyMessage?, hmessage]
    simp only [hreply]
    split at h
    case h_1 ht | h_2 ht | h_3 ht | h_5 ht | h_6 ht =>
      cases h
      simp [ht, Action.message?]
    case h_4 ht =>
      obtain ⟨flags, -, rfl⟩ := map_eq_ok.mp h
      simp [ht, Action.message?]
    case h_7 hshort hqualified =>
      cases h
      rw [if_neg (not_or.mpr ⟨hshort, hqualified⟩)]
      rfl

theorem filterMap_eq_of_forall₂ {α β γ : Type} {f : α → Option γ} {g : β → Option γ} {xs : List α}
    {ys : List β} (h : List.Forall₂ (fun x y => g y = f x) xs ys) :
    ys.filterMap g = xs.filterMap f := by
  induction h with
  | nil => rfl
  | cons hxy _ ih => rw [List.filterMap_cons, List.filterMap_cons, hxy, ih]

/-- The messages of actions are those of the trees they were read from, in the same order. -/
theorem messages_of_actionsOf {items : List Value} {actions : List Action}
    (h : Script.actionsOf (.ofValue (.arr items)) = .ok (some actions)) :
    actions.filterMap Action.message? = items.filterMap Value.replyMessage? := by
  have hparts : (Source.ofValue (.arr items)).parts? = .ok (some (items.map Source.ofValue)) := by
    rw [← Source.ofItems_eq_map]
    rfl
  simp only [Script.actionsOf, hparts, ok_bind] at h
  obtain ⟨read, hread, h⟩ := bind_eq_ok.mp h
  obtain rfl := Option.some.inj (Except.ok.inj h)
  have hforall := List.forall₂_map_left_iff.mp (mapM_eq_ok.mp hread)
  exact filterMap_eq_of_forall₂ (hforall.imp fun _ _ => message?_of_ofSource)

theorem Effects.field?_toValue_reply (e : Effects) : e.toValue.field? "Vacation" = e.reply := by
  obtain ⟨folders, mark, reply⟩ := e
  cases reply <;> rfl

/-- The plain form of effects tells the message of the last reply of a branch, unless that message
is null. An entry for it therefore tells whether there is a reply exactly as long as the last reply
has no null message. -/
theorem reply_in_plain_form {items : List Value} {actions : List Action} {trash : Value}
    {effects : Effects} (hread : Script.actionsOf (.ofValue (.arr items)) = .ok (some actions))
    (heffects : (effectsOf actions trash).outcome = .ok effects) :
    (∀ message, effects.toValue.field? "Vacation" = some message ↔
      message ≠ .null ∧ ∃ item, LastOf Value.IsReply items item ∧ item.messageOf = message) ∧
    (((effects.toValue.field? "Vacation").isSome ↔ ∃ item ∈ items, item.IsReply) ↔
      ∀ item, LastOf Value.IsReply items item → item.field? "Message" ≠ some .null) := by
  rw [outcome_effectsOf] at heffects
  obtain ⟨-, rfl⟩ := ofActions_eq_ok.mp heffects
  have hlast : ∀ message, (actions.filterMap Action.message?).getLast? = some message ↔
      ∃ item, LastOf Value.IsReply items item ∧ item.messageOf = message := by
    intro message
    rw [messages_of_actionsOf hread, getLast?_filterMap_eq_some]
    simp only [Value.replyMessage?_ne_none, Value.replyMessage?_eq_some]
    refine exists_congr fun item => ⟨fun h => ⟨h.1, h.2.2⟩, fun h => ⟨h.1, h.1.holds, h.2⟩⟩
  have hentry : ∀ message, (effectsByKind actions trash).toValue.field? "Vacation" = some message ↔
      message ≠ .null ∧ ∃ item, LastOf Value.IsReply items item ∧ item.messageOf = message := by
    intro message
    rw [Effects.field?_toValue_reply, effectsByKind, Option.filter_eq_some_iff, hlast, and_comm,
      decide_eq_true_eq]
  refine ⟨hentry, ?_, ?_⟩
  · intro h item hitem hnull
    obtain ⟨message, hm⟩ := Option.isSome_iff_exists.mp (h.mpr ⟨item, hitem.mem, hitem.holds⟩)
    obtain ⟨hne, hshown⟩ := (hentry message).mp hm
    have hfound := (hlast .null).mpr ⟨item, hitem, Value.messageOf_eq_null.mpr hnull⟩
    rw [(hlast message).mpr hshown] at hfound
    exact hne (Option.some.inj hfound)
  · intro h
    rw [Option.isSome_iff_exists]
    constructor
    · rintro ⟨message, hm⟩
      obtain ⟨-, item, hitem, -⟩ := (hentry message).mp hm
      exact ⟨item, hitem.mem, hitem.holds⟩
    · rintro ⟨item, hmem, hreply⟩
      obtain ⟨last, hlast⟩ := exists_lastOf hmem hreply
      have hne : last.messageOf ≠ .null := fun hnull =>
        h last hlast (Value.messageOf_eq_null.mp hnull)
      exact ⟨_, (hentry _).mpr ⟨hne, last, hlast, rfl⟩⟩

/-- A reply with a null message before one that has no message at all. -/
def silentReplies : List Value :=
  [.obj [("Type", .str "Vacation"), ("Message", .null)], .obj [("Type", .str "Keep")],
    .obj [("Type", .str "Vacation\\Vacation")]]

theorem reply_in_plain_form_silent :
    ∃ actions effects, Script.actionsOf (.ofValue (.arr silentReplies)) = .ok (some actions) ∧
      (effectsOf actions (.str "trash")).outcome = .ok effects ∧
      effects.toValue.field? "Vacation" = some (.str "") := by
  have hread : Script.actionsOf (.ofValue (.arr silentReplies)) =
      .ok (some [.vacation false .null, .keep, .vacation true (.str "")]) := by decide +kernel
  have heffects : (effectsOf [.vacation false .null, .keep, .vacation true (.str "")]
      (.str "trash")).outcome = .ok ⟨[], ⟨false, false⟩, some (.str "")⟩ := by decide +kernel
  refine ⟨_, _, hread, heffects, ?_⟩
  have hlast : LastOf Value.IsReply silentReplies (.obj [("Type", .str "Vacation\\Vacation")]) :=
    ⟨silentReplies.take 2, [], rfl, Or.inr rfl, by simp⟩
  exact ((reply_in_plain_form hread heffects).1 (.str "")).mpr ⟨by simp, _, hlast, rfl⟩

def hiddenReply : List Value :=
  [.obj [("Type", .str "Vacation"), ("Message", .str "away")],
    .obj [("Type", .str "Vacation\\Vacation"), ("Message", .null)]]

/-- Both replies are read, and the plain form has no entry for either of them. -/
theorem hiddenReply_lost :
    ∃ actions effects, Script.actionsOf (.ofValue (.arr hiddenReply)) = .ok (some actions) ∧
      (effectsOf actions (.str "trash")).outcome = .ok effects ∧
      (∃ item ∈ hiddenReply, item.IsReply) ∧ effects.toValue.field? "Vacation" = none := by
  refine ⟨[.vacation false (.str "away"), .vacation true .null], Effects.none, ?_, ?_, ?_, ?_⟩
  · decide +kernel
  · decide +kernel
  · exact ⟨_, List.mem_cons_self, Or.inl rfl⟩
  · decide +kernel

end MailFilter
