import MailFilter.Proofs.Filter.Acceptance

/-!
# What a list of actions comes to

The folders of all filing actions in their order, and of the marks and of the replies the last one:
each of the three parts depends on the actions of its own kind alone, and only the folders on where
discarded messages go. Actions of different kinds can therefore change places.
-/
namespace MailFilter

open Script (Action)
open FirstFailure

/-- Where an action files a message: with the discarded ones, or in a folder that it names. -/
inductive Filing where
  | discarded
  | named (folder : Value)
  deriving DecidableEq

def Filing.folder (trash : Value) : Filing → Value
  | .discarded => trash
  | .named folder => folder

namespace Script.Action

def filing? : Action → Option Filing
  | .discard => some .discarded
  | .fileInto folder => some (.named folder)
  | _ => none

def mark? : Action → Option Mark
  | .addFlag flags => some ⟨Value.listHas "\\Seen" flags, Value.listHas "\\Flagged" flags⟩
  | _ => none

def message? : Action → Option Value
  | .vacation _ message => some message
  | _ => none

end Script.Action

def filings (actions : List Action) : List Filing := actions.filterMap Action.filing?

/-- The effects of actions, part by part. -/
def effectsByKind (actions : List Action) (trash : Value) : Effects where
  folders := (filings actions).map (Filing.folder trash)
  mark := (actions.filterMap Action.mark?).getLast?.getD ⟨false, false⟩
  reply := (actions.filterMap Action.message?).getLast?.filter (· ≠ .null)

theorem add_effectsByKind {action : Action} (h : ∀ tag, action ≠ .other tag) (actions : List Action)
    (trash : Value) :
    Effects.add trash (effectsByKind actions trash) action =
      .ok (effectsByKind (actions ++ [action]) trash) := by
  simp only [effectsByKind, filings, getLast?_filterMap_append]
  cases action with
  | keep | discard | fileInto | addFlag =>
    simp [Effects.add, Action.filing?, Action.mark?, Action.message?, Filing.folder]
  | vacation qualified message =>
    by_cases hm : message = .null <;>
      simp [Effects.add, Action.filing?, Action.mark?, Action.message?, Option.filter_some, hm]
  | other tag => exact absurd rfl (h tag)

theorem ofActions_of_meant {actions : List Action} (h : ∀ tag, .other tag ∉ actions)
    (trash : Value) : Effects.ofActions actions trash = .ok (effectsByKind actions trash) := by
  induction actions using List.reverseRecOn with
  | nil => rfl
  | append_singleton before action ih =>
    have hb : ∀ tag, .other tag ∉ before := fun tag hm => h tag (List.mem_append_left _ hm)
    have ha : ∀ tag, action ≠ .other tag := by
      rintro tag rfl
      exact h tag (by simp)
    have hrun : before.foldlM (Effects.add trash) Effects.none = _ := ih hb
    rw [Effects.ofActions, List.foldlM_append, hrun, ok_bind, List.foldlM_cons,
      add_effectsByKind ha, ok_bind]
    rfl

theorem ofActions_eq_ok {actions : List Action} {trash : Value} {effects : Effects} :
    Effects.ofActions actions trash = .ok effects ↔
      (∀ tag, .other tag ∉ actions) ∧ effects = effectsByKind actions trash := by
  constructor
  · intro h
    have hmeant := exists_ofActions_eq_ok.mp ⟨effects, h⟩
    exact ⟨hmeant, Except.ok.inj (h.symm.trans (ofActions_of_meant hmeant trash))⟩
  · rintro ⟨hmeant, rfl⟩
    exact ofActions_of_meant hmeant trash

/-- Where discarded messages go does not decide whether actions have effects. -/
theorem ofActions_eq_error_congr (actions : List Action) (trash other : Value) (failure : Failure) :
    Effects.ofActions actions trash = .error failure ↔
      Effects.ofActions actions other = .error failure :=
  ofActions_eq_error.trans ofActions_eq_error.symm

namespace Script.Action

/-- The part of the effects that an action is about. -/
inductive Kind where
  | idle
  | filing
  | marking
  | replying
  | unknown
  deriving DecidableEq, Repr

def kind : Action → Kind
  | .keep => .idle
  | .discard | .fileInto _ => .filing
  | .addFlag _ => .marking
  | .vacation .. => .replying
  | .other _ => .unknown

def unknownTag? : Action → Option String
  | .other tag => some tag
  | _ => none

def ofKind (kind : Kind) (actions : List Action) : List Action := actions.filter (·.kind = kind)

theorem filing?_of_kind {a : Action} (h : a.kind ≠ .filing) : a.filing? = none := by
  cases a <;> first | rfl | exact absurd rfl h

theorem mark?_of_kind {a : Action} (h : a.kind ≠ .marking) : a.mark? = none := by
  cases a <;> first | rfl | exact absurd rfl h

theorem message?_of_kind {a : Action} (h : a.kind ≠ .replying) : a.message? = none := by
  cases a <;> first | rfl | exact absurd rfl h

theorem unknownTag?_of_kind {a : Action} (h : a.kind ≠ .unknown) : a.unknownTag? = none := by
  cases a <;> first | rfl | exact absurd rfl h

theorem unknownTag?_eq_some {a : Action} {tag : String} :
    a.unknownTag? = some tag ↔ a = .other tag := by
  cases a <;> simp [unknownTag?]

theorem mark?_ne_none {a : Action} : a.mark? ≠ none ↔ a.kind = .marking := by
  cases a <;> simp [mark?, kind]

theorem message?_ne_none {a : Action} : a.message? ≠ none ↔ a.kind = .replying := by
  cases a <;> simp [message?, kind]

end Script.Action

open Script.Action (Kind ofKind)

/-- What is found only where a property holds is found among the elements that have it. -/
theorem filterMap_filter_of_none {α β : Type} {f : α → Option β} {p : α → Bool}
    (h : ∀ a, p a = false → f a = none) (xs : List α) :
    (xs.filter p).filterMap f = xs.filterMap f := by
  rw [List.filterMap_filter]
  refine List.filterMap_congr fun a _ => ?_
  cases hp : p a with
  | true => rfl
  | false => exact (h a hp).symm

theorem filterMap_congr_ofKind {β : Type} {f : Action → Option β} {kind : Kind}
    (h : ∀ a : Action, a.kind ≠ kind → f a = none) {others actions : List Action}
    (hk : ofKind kind others = ofKind kind actions) :
    others.filterMap f = actions.filterMap f := by
  have hf : ∀ a : Action, decide (a.kind = kind) = false → f a = none :=
    fun a ha => h a (of_decide_eq_false ha)
  rw [← filterMap_filter_of_none hf others, ← filterMap_filter_of_none hf actions]
  exact congrArg (List.filterMap f) hk

/-- The first action without a meaning decides, and without such an action each kind by itself. -/
theorem ofActions_eq (actions : List Action) (trash : Value) :
    Effects.ofActions actions trash =
      match (actions.filterMap Action.unknownTag?).head? with
      | some tag => .error (.unsupported (.action tag))
      | none => .ok (effectsByKind actions trash) := by
  rw [List.head?_filterMap]
  cases h : actions.findSome? Action.unknownTag? with
  | none =>
    refine ofActions_of_meant ?_ trash
    intro tag hm
    cases List.findSome?_eq_none_iff.mp h _ hm
  | some tag =>
    obtain ⟨before, action, after, rfl, ha, hb⟩ := List.findSome?_eq_some_iff.mp h
    obtain rfl := Action.unknownTag?_eq_some.mp ha
    refine ofActions_eq_error.mpr ⟨before, tag, after, rfl, ?_, rfl⟩
    intro t ht
    cases hb _ ht

theorem ofActions_congr {others actions : List Action}
    (hf : others.filterMap Action.filing? = actions.filterMap Action.filing?)
    (hm : others.filterMap Action.mark? = actions.filterMap Action.mark?)
    (hr : others.filterMap Action.message? = actions.filterMap Action.message?)
    (hu : others.filterMap Action.unknownTag? = actions.filterMap Action.unknownTag?)
    (trash : Value) : Effects.ofActions others trash = Effects.ofActions actions trash := by
  rw [ofActions_eq, ofActions_eq, effectsByKind, effectsByKind, filings, filings, hf, hm, hr, hu]

theorem ofActions_congr_ofKind {others actions : List Action}
    (h : ∀ kind ∈ [Kind.filing, .marking, .replying, .unknown],
      ofKind kind others = ofKind kind actions)
    (trash : Value) : Effects.ofActions others trash = Effects.ofActions actions trash :=
  ofActions_congr
    (filterMap_congr_ofKind (fun _ => Action.filing?_of_kind) (h .filing (by simp)))
    (filterMap_congr_ofKind (fun _ => Action.mark?_of_kind) (h .marking (by simp)))
    (filterMap_congr_ofKind (fun _ => Action.message?_of_kind) (h .replying (by simp)))
    (filterMap_congr_ofKind (fun _ => Action.unknownTag?_of_kind) (h .unknown (by simp))) trash

theorem ofKind_unknown_eq_nil {actions : List Action} (h : ∀ tag, .other tag ∉ actions) :
    ofKind .unknown actions = [] := by
  refine List.filter_eq_nil_iff.mpr ?_
  intro a ha hk
  cases a with
  | other tag => exact h tag ha
  | keep | discard | fileInto | addFlag | vacation => cases of_decide_eq_true hk

theorem ofKind_filter_keep {kind : Kind} (h : kind ≠ .idle) (actions : List Action) :
    ofKind kind (actions.filter (· ≠ .keep)) = ofKind kind actions := by
  rw [ofKind, ofKind, List.filter_filter]
  refine List.filter_congr fun a _ => ?_
  cases a with
  | keep => simp [Action.kind, h.symm]
  | discard | fileInto | addFlag | vacation | other => simp

/-- What a list of actions comes to: a folder for each filing action in their order, and of the
marks and of the replies the last one alone. A null reply is none. -/
structure ComesTo (actions : List Action) (trash : Value) (effects : Effects) : Prop where
  folders : effects.folders = (filings actions).map (Filing.folder trash)
  marked : ∀ flags, LastOf (fun a => a.kind = .marking) actions (.addFlag flags) →
    (effects.mark.read = true ↔ .str "\\Seen" ∈ flags) ∧
    (effects.mark.starred = true ↔ .str "\\Flagged" ∈ flags)
  unmarked : (∀ a ∈ actions, a.kind ≠ .marking) → effects.mark = ⟨false, false⟩
  replied : ∀ qualified message,
    LastOf (fun a => a.kind = .replying) actions (.vacation qualified message) →
    effects.reply = if message = .null then none else some message
  unreplied : (∀ a ∈ actions, a.kind ≠ .replying) → effects.reply = none

theorem comesTo_effectsByKind (actions : List Action) (trash : Value) :
    ComesTo actions trash (effectsByKind actions trash) := by
  constructor
  case folders => rfl
  case marked =>
    intro flags hl
    have hm : (actions.filterMap Action.mark?).getLast? =
        some ⟨Value.listHas "\\Seen" flags, Value.listHas "\\Flagged" flags⟩ := by
      rw [getLast?_filterMap_eq_some]
      simp only [Action.mark?_ne_none]
      exact ⟨_, hl, rfl⟩
    rw [effectsByKind, hm]
    exact ⟨Value.listHas_iff, Value.listHas_iff⟩
  case unmarked =>
    intro hn
    have hm : actions.filterMap Action.mark? = [] :=
      List.filterMap_eq_nil_iff.mpr fun a ha => Action.mark?_of_kind (hn a ha)
    rw [effectsByKind, hm]
    rfl
  case replied =>
    intro qualified message hl
    have hm : (actions.filterMap Action.message?).getLast? = some message := by
      rw [getLast?_filterMap_eq_some]
      simp only [Action.message?_ne_none]
      exact ⟨_, hl, rfl⟩
    rw [effectsByKind, hm]
    by_cases hnull : message = .null <;> simp [Option.filter_some, hnull]
  case unreplied =>
    intro hn
    have hm : actions.filterMap Action.message? = [] :=
      List.filterMap_eq_nil_iff.mpr fun a ha => Action.message?_of_kind (hn a ha)
    rw [effectsByKind, hm]
    rfl

theorem effectsOf_congr {others actions : List Action} {trash : Value}
    (h : Effects.ofActions others trash = Effects.ofActions actions trash) :
    effectsOf others trash = effectsOf actions trash := by
  rw [effectsOf, effectsOf, h]

/-- Actions have effects unless one of them has no meaning; the first such action is named. Every
filing action counts, and the last mark and the last reply. Actions that keep a message where it is
change nothing, nor does an order that keeps the order within each kind. -/
theorem effects_of_actions (actions : List Action) (trash : Value) :
    ((∃ effects, (effectsOf actions trash).outcome = .ok effects) ↔
      ∀ tag, .other tag ∉ actions) ∧
    (∀ failure, (effectsOf actions trash).outcome = .error failure ↔
      ∃ before tag after, actions = before ++ .other tag :: after ∧ (∀ t, .other t ∉ before) ∧
        failure = .unsupported (.action tag) ∧
        failure.ReportedAs "UnsupportedRepresentationError"
          ("Unsupported filter representation: " ++ tag)) ∧
    (∀ effects, (effectsOf actions trash).outcome = .ok effects →
      ComesTo actions trash effects) ∧
    (∀ others : List Action, others.filter (· ≠ .keep) = actions.filter (· ≠ .keep) →
      effectsOf others trash = effectsOf actions trash) ∧
    (∀ others : List Action, others.Perm actions →
      (∀ kind ∈ [Kind.filing, .marking, .replying], ofKind kind others = ofKind kind actions) →
      (∀ tag, .other tag ∉ actions) ∨ ofKind .unknown others = ofKind .unknown actions →
      effectsOf others trash = effectsOf actions trash) := by
  rw [outcome_effectsOf]
  refine ⟨exists_ofActions_eq_ok, ?_, ?_, ?_, ?_⟩
  · intro failure
    rw [ofActions_eq_error]
    constructor
    · rintro ⟨before, tag, after, ha, hb, rfl⟩
      exact ⟨before, tag, after, ha, hb, rfl, _, rfl, rfl, rfl⟩
    · rintro ⟨before, tag, after, ha, hb, hf, -⟩
      exact ⟨before, tag, after, ha, hb, hf⟩
  · intro effects h
    obtain ⟨-, rfl⟩ := ofActions_eq_ok.mp h
    exact comesTo_effectsByKind actions trash
  · intro others h
    refine effectsOf_congr (ofActions_congr_ofKind ?_ trash)
    intro kind hk
    have hidle : kind ≠ .idle := by
      rintro rfl
      simp at hk
    rw [← ofKind_filter_keep hidle others, h, ofKind_filter_keep hidle actions]
  · intro others hp hk hu
    have hunknown : ofKind .unknown others = ofKind .unknown actions := by
      rcases hu with hn | hu
      · rw [ofKind_unknown_eq_nil hn, ofKind_unknown_eq_nil fun tag hm => hn tag (hp.mem_iff.mp hm)]
      · exact hu
    refine effectsOf_congr (ofActions_congr_ofKind ?_ trash)
    intro kind hmem
    simp only [List.mem_cons, List.not_mem_nil, or_false] at hmem hk
    rcases hmem with rfl | rfl | rfl | rfl
    · exact hk _ (Or.inl rfl)
    · exact hk _ (Or.inr (Or.inl rfl))
    · exact hk _ (Or.inr (Or.inr rfl))
    · exact hunknown

def mixedActions : List Action :=
  [.discard, .addFlag [.str "\\Flagged"], .fileInto (.str "a"), .vacation false (.str "late"),
    .discard, .addFlag [.str "\\Seen"], .vacation true .null]

/-- Replies, marks and filings of mixed actions one after the other. -/
def groupedActions : List Action :=
  [.vacation false (.str "late"), .vacation true .null, .addFlag [.str "\\Flagged"],
    .addFlag [.str "\\Seen"], .discard, .fileInto (.str "a"), .discard]

theorem effects_of_actions_grouped :
    groupedActions.Perm mixedActions ∧
    effectsOf groupedActions (.str "trash") = effectsOf mixedActions (.str "trash") ∧
    effectsOf (.keep :: mixedActions) (.str "trash") = effectsOf mixedActions (.str "trash") ∧
    ∃ effects, (effectsOf mixedActions (.str "trash")).outcome = .ok effects ∧
      effects.folders = [.str "trash", .str "a", .str "trash"] ∧ effects.mark.read = true ∧
      effects.mark.starred = false ∧ effects.reply = none := by
  obtain ⟨hok, -, hcomes, hkeep, horder⟩ := effects_of_actions mixedActions (.str "trash")
  have hmeant : ∀ tag, .other tag ∉ mixedActions := by simp [mixedActions]
  have hperm : groupedActions.Perm mixedActions := by decide
  obtain ⟨effects, he⟩ := hok.mpr hmeant
  have hc := hcomes effects he
  have hmark := hc.marked [.str "\\Seen"]
    ⟨mixedActions.take 5, mixedActions.drop 6, rfl, rfl, by decide⟩
  have hreply := hc.replied true .null ⟨mixedActions.take 6, [], rfl, rfl, by simp⟩
  refine ⟨hperm, horder _ hperm (by decide) (Or.inl hmeant), hkeep _ (by decide), effects, he,
    hc.folders, hmark.1.mpr (by simp), ?_, hreply⟩
  exact Bool.eq_false_iff.mpr fun h => absurd (hmark.2.mp h) (by decide)

end MailFilter
