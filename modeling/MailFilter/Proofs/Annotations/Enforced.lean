import MailFilter.Annotations.Declared
import MailFilter.Proofs.Filter.Comparison
import MailFilter.Proofs.Filter.Stages

/-!
# The annotations that a conversion goes by

The annotations that a script declares are read on their own, without regard to its rules. A
conversion looks for them in a survey of all statements, and goes by the same ones.
-/
namespace MailFilter

open Script (Source Statement lastBlock?)
open FirstFailure

namespace Annotations

theorem blocks_eq {ss : List Statement} (ht : ∀ v, .comment v ∈ ss → v.IsText) :
    blocks ss = .ok (ss.filterMap Statement.block?) := by
  induction ss with
  | nil => rfl
  | cons s ss ih =>
    have hrest := ih fun v hv => ht v (List.mem_cons_of_mem s hv)
    cases s with
    | comment v =>
      obtain ⟨text, rfl⟩ := (ht v List.mem_cons_self).exists_eq
      rw [blocks, hrest, ok_bind]
      cases hb : isBlock text <;> simp [Statement.block?, hb]
    | require | rule | other => exact hrest

theorem blocks_of_not_isText {ss : List Statement} (ht : ¬ ∀ v, .comment v ∈ ss → v.IsText) :
    blocks ss = .error .wrongKind := by
  induction ss with
  | nil => simp at ht
  | cons s ss ih =>
    cases s with
    | comment v =>
      by_cases hv : v.IsText
      · obtain ⟨text, rfl⟩ := hv.exists_eq
        have hrest : ¬ ∀ v, .comment v ∈ ss → v.IsText := by
          intro h
          exact ht fun v hm => (List.mem_cons.mp hm).elim (fun he => by cases he; exact hv) (h v)
        rw [blocks, ih hrest, error_bind]
      · cases v with
        | str text => exact absurd trivial hv
        | _ => rfl
    | require | rule | other => exact ih fun h => ht fun v hm => h v (by simpa using hm)

theorem declared_eq {ss : List Statement} (ht : ∀ v, .comment v ∈ ss → v.IsText) :
    declared ss = (readComment (lastBlock? ss)).outcome := by
  rw [declared, blocks_eq ht, ok_bind, ← Script.lastBlock?]
  cases lastBlock? ss with
  | none => rfl
  | some text =>
    simp only [readComment, Logged.outcome_bind, outcome_lift, outcome_write, ok_bind]
    rfl

theorem declared_of_selected {ss : List Statement} {required : List String} {selection : Selection}
    (h : (selectStatements ss required).outcome = .ok selection) :
    declared ss = (readComment selection.comment).outcome := by
  obtain ⟨ht, -, hblock, -⟩ := selectStatements_eq_ok.mp h
  rw [declared_eq ht, hblock]

end Annotations

/-- The filter says what the annotations say: their operator if they name one, and each comparator
that has a word, in the condition at its position. -/
structure Enforced (annotations : Option Annotations) (filter : SimpleFilter) : Prop where
  operator : ∀ operator, annotations.bind (·.operator) = some operator → filter.operator = operator
  comparator : ∀ (i : Nat) (declared : String) (c : Condition),
    (comparatorsOf annotations)[i]? = some declared → declaredWord (some declared) ≠ "" →
    filter.conditions[i]? = some c → c.comparator.token = declared

theorem Stages.enforced {tree : Source} {requirements : Requirements} {filter : SimpleFilter}
    {ss : List Statement} {selection : Selection} {annotations : Option Annotations}
    (h : Stages tree requirements filter ss selection annotations) :
    Enforced annotations filter := by
  constructor
  · intro operator hdeclared
    exact ((operatorOf_eq_ok.mp h.operator).2 operator hdeclared).symm
  · intro i declared c hdeclared hword hc
    obtain ⟨test, -, ht⟩ := h.exists_test hc
    rw [hdeclared] at ht
    exact token_of_declared ht hword

/-- The annotations that a script declares, read by themselves, are those that its conversion checks
the operator and the tests against. Where the selected comment has unknown words both fail alike,
and a script whose annotations cannot be read has no filter under any requirements. -/
theorem declared_annotations_enforced (tree : Source) (requirements : Requirements) :
    (∀ filter, (convert tree requirements).outcome = .ok filter →
      ∃ ss selection annotations, Stages tree requirements filter ss selection annotations ∧
        (Script.statements tree >>= Annotations.declared) = .ok annotations ∧
        Enforced annotations filter) ∧
    (∀ ss selection text, Script.statements tree = .ok ss →
      (selectStatements ss requirements.extensions).outcome = .ok selection →
      selection.comment = some text → (Annotations.gather text).errors ≠ [] →
      (Script.statements tree >>= Annotations.declared) =
        .error (.invalidInput (.unknownAnnotations (Annotations.gather text).errors)) ∧
      (convert tree requirements).outcome =
        .error (.invalidInput (.unknownAnnotations (Annotations.gather text).errors))) ∧
    (∀ failure, (Script.statements tree >>= Annotations.declared) = .error failure →
      ∃ other, (convert tree requirements).outcome = .error other) := by
  have hshown : ∀ filter, (convert tree requirements).outcome = .ok filter →
      ∃ ss selection annotations, Stages tree requirements filter ss selection annotations ∧
        (Script.statements tree >>= Annotations.declared) = .ok annotations := by
    intro filter hf
    obtain ⟨ss, selection, annotations, h⟩ := convert_eq_ok.mp hf
    refine ⟨ss, selection, annotations, h, ?_⟩
    rw [h.read, ok_bind, Annotations.declared_of_selected h.selected, h.annotated]
  refine ⟨?_, ?_, ?_⟩
  · intro filter hf
    obtain ⟨ss, selection, annotations, h, hdeclared⟩ := hshown filter hf
    exact ⟨ss, selection, annotations, h, hdeclared, h.enforced⟩
  · intro ss selection text hread hselected hcomment herrors
    have hannotations : (readComment selection.comment).outcome =
        .error (.invalidInput (.unknownAnnotations (Annotations.gather text).errors)) := by
      simp only [hcomment, readComment_eq, if_neg herrors]
    constructor
    · rw [hread, ok_bind, Annotations.declared_of_selected hselected, hannotations]
    · rw [outcome_convert, hread, ok_bind, outcome_convertStatements, hselected, ok_bind,
        hannotations, error_bind]
  · intro failure hfailed
    cases hc : (convert tree requirements).outcome with
    | error other => exact ⟨other, rfl⟩
    | ok filter =>
      obtain ⟨_, _, annotations, -, hdeclared⟩ := hshown filter hc
      rw [hdeclared] at hfailed
      cases hfailed

/-- A rule between two comments with annotations, the first of which it does not agree with. -/
def annotatedScript : Value :=
  .arr [.obj [("Type", .str "Require"), ("List", .arr [.str "fileinto", .str "imap4flags"])],
    .obj [("Type", .str "Comment"), ("Text", .str "/**\r\n * @type or\r\n */")],
    .obj [("Type", .str "If"),
      ("If", .obj [("Type", .str "allof"), ("Tests", .arr [
        .obj [("Type", .str "Not"), ("Test",
          .obj [("Type", .str "Exists"), ("Headers", .str "X-Attached")])]])]),
      ("Then", .arr [])],
    .obj [("Type", .str "Comment"),
      ("Text", .str "/**\r\n * @type and\r\n * @comparator !default\r\n */")]]

theorem declared_annotations_enforced_last :
    ∃ filter, (convert (.ofValue annotatedScript) .standard).outcome = .ok filter ∧
      (Script.statements (.ofValue annotatedScript) >>= Annotations.declared) =
        .ok (some ⟨some .all, ["!contains"]⟩) ∧
      Enforced (some ⟨some .all, ["!contains"]⟩) filter := by
  have hconvert : (convert (.ofValue annotatedScript) .standard).outcome =
      .ok ⟨.all, [⟨.attachments, ⟨.contains, true⟩, []⟩], Effects.none⟩ := by decide +kernel
  have hdeclared : (Script.statements (.ofValue annotatedScript) >>= Annotations.declared) =
      .ok (some ⟨some .all, ["!contains"]⟩) := by decide +kernel
  obtain ⟨-, -, annotations, -, hshown, henforced⟩ :=
    (declared_annotations_enforced (.ofValue annotatedScript) .standard).1 _ hconvert
  obtain rfl := Except.ok.inj (hdeclared.symm.trans hshown)
  exact ⟨_, hconvert, hdeclared, henforced⟩

end MailFilter
