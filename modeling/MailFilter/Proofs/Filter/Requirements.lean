import MailFilter.Proofs.Filter.Effects
import MailFilter.Proofs.Filter.Stages

/-!
# What requirements change about a filter

Requirements have two parts. The extensions they ask for decide only whether a script is refused for
them, and the folder of discarded messages shows only where a message is discarded.
-/
namespace MailFilter

open Script (Action Source)
open FirstFailure

/-- Two filters with the same conditions and effects, except that the one puts discarded messages
in one folder and the other in another. -/
structure DifferInTrash (actions : List Action) (trash₁ trash₂ : Value) (f₁ f₂ : SimpleFilter) :
    Prop where
  operator : f₂.operator = f₁.operator
  conditions : f₂.conditions = f₁.conditions
  mark : f₂.effects.mark = f₁.effects.mark
  reply : f₂.effects.reply = f₁.effects.reply
  count : f₁.effects.folders.length = (filings actions).length ∧
    f₂.effects.folders.length = (filings actions).length
  discarded : ∀ i : Nat, (filings actions)[i]? = some .discarded →
    f₁.effects.folders[i]? = some trash₁ ∧ f₂.effects.folders[i]? = some trash₂
  named : ∀ (i : Nat) (folder : Value), (filings actions)[i]? = some (.named folder) →
    f₁.effects.folders[i]? = some folder ∧ f₂.effects.folders[i]? = some folder

theorem effectsByKind_folder {actions : List Action} {i : Nat} {filing : Filing}
    (h : (filings actions)[i]? = some filing) (trash : Value) :
    (effectsByKind actions trash).folders[i]? = some (filing.folder trash) := by
  rw [effectsByKind, List.getElem?_map, h, Option.map_some]

theorem Stages.of_subset {tree : Source} {c₁ c₂ : Requirements} {f : SimpleFilter}
    {ss : List Script.Statement} {selection : Selection} {annotations : Option Annotations}
    (h : Stages tree c₁ f ss selection annotations)
    (hsub : ∀ name ∈ c₂.extensions, name ∈ c₁.extensions) :
    Stages tree c₂ ⟨f.operator, f.conditions, effectsByKind selection.rule.actions c₂.trash⟩ ss
      selection annotations := by
  obtain ⟨ht, hrule, hblock, hdeclared⟩ := selectStatements_eq_ok.mp h.selected
  have hmeant := (ofActions_eq_ok.mp h.effects).1
  refine ⟨h.read, ?_, h.annotated, h.operator, h.conditions, ofActions_of_meant hmeant c₂.trash⟩
  refine selectStatements_eq_ok.mpr ⟨ht, hrule, hblock, ?_⟩
  intro name hname
  exact hdeclared name (hsub name hname)

theorem Stages.differInTrash {tree : Source} {c₁ : Requirements} {f : SimpleFilter}
    {ss : List Script.Statement} {selection : Selection} {annotations : Option Annotations}
    (h : Stages tree c₁ f ss selection annotations) (trash : Value) :
    DifferInTrash selection.rule.actions c₁.trash trash f
      ⟨f.operator, f.conditions, effectsByKind selection.rule.actions trash⟩ := by
  have he := (ofActions_eq_ok.mp h.effects).2
  constructor
  case operator => rfl
  case conditions => rfl
  case mark =>
    rw [he]
    rfl
  case reply =>
    rw [he]
    rfl
  case count =>
    rw [he]
    exact ⟨List.length_map _, List.length_map _⟩
  case discarded =>
    intro i hi
    rw [he]
    exact ⟨effectsByKind_folder hi _, effectsByKind_folder hi _⟩
  case named =>
    intro i folder hi
    rw [he]
    exact ⟨effectsByKind_folder hi _, effectsByKind_folder hi _⟩

/-- A script that is a filter under some requirements is one under those that ask for no other
extension, and the filters differ only in the folder of what is discarded. Requirements that ask for
the same extensions refuse the same scripts for the same reasons. -/
theorem conversion_under_requirements (tree : Source) (c₁ c₂ : Requirements)
    (hsub : ∀ name ∈ c₂.extensions, name ∈ c₁.extensions) :
    (∀ f₁, (convert tree c₁).outcome = .ok f₁ → ∃ ss selection f₂,
      Script.statements tree = .ok ss ∧
      (selectStatements ss c₁.extensions).outcome = .ok selection ∧
      (convert tree c₂).outcome = .ok f₂ ∧
      DifferInTrash selection.rule.actions c₁.trash c₂.trash f₁ f₂) ∧
    ((∀ name ∈ c₁.extensions, name ∈ c₂.extensions) → ∀ failure,
      (convert tree c₁).outcome = .error failure ↔ (convert tree c₂).outcome = .error failure) := by
  constructor
  · intro f₁ hf
    obtain ⟨ss, selection, annotations, h⟩ := convert_eq_ok.mp hf
    exact ⟨ss, selection, _, h.read, h.selected,
      convert_eq_ok.mpr ⟨ss, selection, annotations, h.of_subset hsub⟩,
      h.differInTrash c₂.trash⟩
  · intro hsup failure
    -- Of the stages only the first and the last look at the requirements.
    have hselect : ∀ ss, (selectStatements ss c₁.extensions).outcome =
        (selectStatements ss c₂.extensions).outcome := fun ss =>
      outcome_selectStatements_congr ss fun name => ⟨hsup name, hsub name⟩
    have heffects : ∀ actions failure, Effects.ofActions actions c₁.trash = .error failure ↔
        Effects.ofActions actions c₂.trash = .error failure := fun actions =>
      ofActions_eq_error_congr actions c₁.trash c₂.trash
    simp only [outcome_convert, outcome_convertStatements, bind_eq_error, hselect, heffects,
      reduceCtorEq, and_false, exists_false, or_false]

/-- A rule that discards a message and also files it in a folder that is named as the one of
discarded messages is. -/
def discardingScript : Value :=
  .arr [.obj [("Type", .str "Require"), ("List", .arr [.str "imap4flags", .str "fileinto"])],
    .obj [("Type", .str "If"), ("If", .obj [("Type", .str "anyof"), ("Tests", .arr [])]),
      ("Then", .arr [.obj [("Type", .str "Discard")],
        .obj [("Type", .str "FileInto"), ("Name", .str "trash")]])]]

/-- Another folder for discarded messages leaves the folder with its former name alone. -/
theorem conversion_under_requirements_renamed :
    (∀ name ∈ ["fileinto", "fileinto"], name ∈ defaultExtensions) ∧
    (∃ f₁, (convert (.ofValue discardingScript) .standard).outcome = .ok f₁ ∧
      f₁.effects.folders = [.str "trash", .str "trash"]) ∧
    ∃ f₂, (convert (.ofValue discardingScript) ⟨["fileinto", "fileinto"], .int 5⟩).outcome =
        .ok f₂ ∧
      f₂.effects.folders[0]? = some (.int 5) ∧ f₂.effects.folders[1]? = some (.str "trash") := by
  have hsub : ∀ name ∈ ["fileinto", "fileinto"], name ∈ defaultExtensions := by decide
  have hconvert : (convert (.ofValue discardingScript) .standard).outcome = .ok _ := rfl
  have hread : Script.statements (.ofValue discardingScript) = .ok _ := rfl
  have hselect : (selectStatements [.require [.str "imap4flags", .str "fileinto"],
      .rule (Script.MainRule.mk "anyof" [] [.discard, .fileInto (.str "trash")] none).toRule]
      defaultExtensions).outcome = .ok _ := rfl
  obtain ⟨ss, selection, f₂, hss, hs, hf₂, hd⟩ := (conversion_under_requirements
    (.ofValue discardingScript) .standard ⟨["fileinto", "fileinto"], .int 5⟩ hsub).1 _ hconvert
  obtain rfl := Except.ok.inj (hread.symm.trans hss)
  obtain rfl := Except.ok.inj (hselect.symm.trans hs)
  exact ⟨hsub, ⟨_, hconvert, rfl⟩, f₂, hf₂, (hd.discarded 0 rfl).2, (hd.named 1 _ rfl).2⟩

end MailFilter
