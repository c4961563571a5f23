import MailFilter.Proofs.Filter.Comparison
import MailFilter.Proofs.Filter.Effects
import MailFilter.Proofs.Filter.Stages
import MailFilter.Proofs.Script.Origins

/-!
# What a filter carries

A conversion carries the keys of its tests, the names of folders, the reply, and the folder of
discarded messages along without a look at them. What is true of all texts is therefore true of all
that a filter carries exactly if it is true of what its script and its settings put there.
-/
namespace MailFilter

open Script (MainRule Action Source Statement lastRule?)
open FirstFailure

structure SimpleFilter.CarriesOnly (p : Value → Prop) (f : SimpleFilter) : Prop where
  values : ∀ c ∈ f.conditions, ∀ v ∈ c.values, p v
  folders : ∀ v ∈ f.effects.folders, p v
  reply : ∀ v ∈ f.effects.reply, p v

/-- The folder of discarded messages matters to a rule that discards, and of several replies the
last one, unless it is null. -/
structure Script.MainRule.CarriesOnly (p : Value → Prop) (trash : Value) (rule : MainRule) :
    Prop where
  keys : ∀ t ∈ rule.tests, ∀ k ∈ t.underNegation.1.keys, p k
  folders : ∀ v, .fileInto v ∈ rule.actions → p v
  trash : .discard ∈ rule.actions → p trash
  reply : ∀ v, (rule.actions.filterMap Action.message?).getLast? = some v → v = .null ∨ p v

def Script.Source.CarriesOnly (p : Value → Prop) (trash : Value) (tree : Source) : Prop :=
  ∃ ss rule, Script.statements tree = .ok ss ∧ lastRule? ss = some rule ∧ rule.CarriesOnly p trash

section

variable {p : Value → Prop}

theorem forall_folders_iff (actions : List Action) (trash : Value) :
    (∀ v ∈ (effectsByKind actions trash).folders, p v) ↔
      (∀ v, .fileInto v ∈ actions → p v) ∧ (.discard ∈ actions → p trash) := by
  constructor
  · intro h
    refine ⟨fun v hv => h v ?_, fun hd => h trash ?_⟩
    · exact List.mem_map.mpr ⟨.named v, List.mem_filterMap.mpr ⟨_, hv, rfl⟩, rfl⟩
    · exact List.mem_map.mpr ⟨.discarded, List.mem_filterMap.mpr ⟨_, hd, rfl⟩, rfl⟩
  · rintro ⟨hnamed, htrash⟩ v hv
    obtain ⟨filing, hf, rfl⟩ := List.mem_map.mp hv
    obtain ⟨action, ha, hfiling⟩ := List.mem_filterMap.mp hf
    cases action with
    | discard =>
      obtain rfl := Option.some.inj hfiling
      exact htrash ha
    | fileInto folder =>
      obtain rfl := Option.some.inj hfiling
      exact hnamed folder ha
    | keep | addFlag | vacation | other => cases hfiling

theorem forall_reply_iff (actions : List Action) (trash : Value) :
    (∀ v ∈ (effectsByKind actions trash).reply, p v) ↔
      ∀ v, (actions.filterMap Action.message?).getLast? = some v → v = .null ∨ p v := by
  simp only [effectsByKind, Option.mem_def, Option.filter_eq_some_iff, decide_eq_true_eq]
  constructor
  · intro h v hv
    rw [or_iff_not_imp_left]
    exact fun hn => h v ⟨hv, hn⟩
  · rintro h v ⟨hv, hn⟩
    exact (h v hv).resolve_left hn

theorem Stages.forall_values_iff (hp : ∀ s, p (.str s)) {tree : Source}
    {requirements : Requirements} {filter : SimpleFilter} {ss : List Statement}
    {selection : Selection} {annotations : Option Annotations}
    (h : Stages tree requirements filter ss selection annotations) :
    (∀ c ∈ filter.conditions, ∀ v ∈ c.values, p v) ↔
      ∀ t ∈ selection.rule.tests, ∀ k ∈ t.underNegation.1.keys, p k := by
  have hpairs :=
    forall_mem_iff_of_forall₂ (fun _ _ hc => MailFilter.forall_values_iff hp hc) h.forall₂_paired
  have htests := map_fst_paired selection.rule.tests ((comparatorsOf annotations).map some)
  rw [hpairs, ← htests, List.forall_mem_map, htests]

theorem carriesOnly_iff (hp : ∀ s, p (.str s)) {tree : Source} {requirements : Requirements}
    {filter : SimpleFilter} (h : (convert tree requirements).outcome = .ok filter) :
    filter.CarriesOnly p ↔ tree.CarriesOnly p requirements.trash := by
  obtain ⟨ss, selection, annotations, hs⟩ := convert_eq_ok.mp h
  obtain ⟨-, hrule, -⟩ := selectStatements_eq_ok.mp hs.selected
  obtain ⟨-, heffects⟩ := ofActions_eq_ok.mp hs.effects
  have hvalues := hs.forall_values_iff hp
  have hfolders := forall_folders_iff (p := p) selection.rule.actions requirements.trash
  have hreply := forall_reply_iff (p := p) selection.rule.actions requirements.trash
  rw [← heffects] at hfolders hreply
  constructor
  · rintro ⟨hv, hf, hr⟩
    obtain ⟨hnamed, htrash⟩ := hfolders.mp hf
    exact ⟨ss, selection.rule, hs.read, hrule, hvalues.mp hv, hnamed, htrash, hreply.mp hr⟩
  · rintro ⟨ss', rule, hread, hlast, hrt⟩
    obtain rfl := Except.ok.inj (hs.read.symm.trans hread)
    obtain rfl := Option.some.inj (hrule.symm.trans hlast)
    exact ⟨hvalues.mpr hrt.keys, hfolders.mpr ⟨hrt.folders, hrt.trash⟩, hreply.mpr hrt.reply⟩

/-- A script that discards messages where its main rule applies. -/
def Script.Source.Discards (tree : Source) : Prop :=
  ∃ ss rule, Script.statements tree = .ok ss ∧ lastRule? ss = some rule ∧ .discard ∈ rule.actions

/-- What a script inherits from the value it was read from, only the folder of discarded messages
can lack. -/
theorem carriesOnly_ofValue_iff (hp : Inherited p) {v : Value} (hv : p v)
    {requirements : Requirements} {filter : SimpleFilter}
    (h : (convert (.ofValue v) requirements).outcome = .ok filter) :
    (Source.ofValue v).CarriesOnly p requirements.trash ↔
      ((Source.ofValue v).Discards → p requirements.trash) := by
  constructor
  · rintro ⟨ss, rule, hread, hrule, hcarries⟩ ⟨ss', rule', hread', hrule', hdiscard⟩
    obtain rfl := Except.ok.inj (hread.symm.trans hread')
    obtain rfl := Option.some.inj (hrule.symm.trans hrule')
    exact hcarries.trash hdiscard
  · intro htrash
    obtain ⟨ss, selection, _, hs⟩ := convert_eq_ok.mp h
    obtain ⟨-, hrule, -⟩ := selectStatements_eq_ok.mp hs.selected
    obtain ⟨hkeys, hactions⟩ := Script.inherited_lastRule hp hv hs.read hrule
    refine ⟨ss, selection.rule, hs.read, hrule, hkeys, ?_, ?_, ?_⟩
    · intro folder hf
      exact hactions _ hf folder rfl
    · exact fun hd => htrash ⟨ss, selection.rule, hs.read, hrule, hd⟩
    · intro message hm
      obtain ⟨a, ha, hma⟩ := List.mem_filterMap.mp (List.mem_of_getLast? hm)
      refine Or.inr (hactions a ha message ?_)
      cases a with
      | vacation => exact hma
      | keep | discard | fileInto | addFlag | other => cases hma

end

end MailFilter
