import MailFilter.Command.Tasks
import MailFilter.Proofs.Annotations.Enforced
import MailFilter.Proofs.Annotations.Grammar
import MailFilter.Proofs.Command.ExitCodes

/-!
# The listing of annotations

A comparator is any text, and it is printed as markup. The listing shows the comparators exactly if
the console shows the line of each as it is. It does not where one holds something that markup
reads, and it does where none holds that or the code of an emoji.
-/
namespace MailFilter.Command

open FirstFailure
open Markup (Plain Verbatim EmojiFree)
open Script (Source Statement lastBlock?)

/-- The lines of comparators, each with its number, the first of which is `index`. -/
def comparatorLines (index : Nat) (comparators : List String) : List String :=
  comparators.mapIdx fun i comparator => "  " ++ toString (index + i) ++ ": " ++ comparator

def listing (a : Annotations) : List String :=
  ("Type: " ++ orDash ((a.operator.map Operator.token).getD "")) ::
    ("Comparators (" ++ toString a.comparators.length ++ "):") :: comparatorLines 0 a.comparators

def printed (lines : List String) : String := String.join (lines.map (· ++ "\n"))

theorem comparatorLines_cons (index : Nat) (comparator : String) (rest : List String) :
    comparatorLines index (comparator :: rest) =
      numbered index comparator :: comparatorLines (index + 1) rest := by
  have hnext : (fun (i : Nat) (comparator : String) =>
        "  " ++ toString (index + (i + 1)) ++ ": " ++ comparator) =
      fun i comparator => "  " ++ toString (index + 1 + i) ++ ": " ++ comparator := by
    funext i comparator
    rw [Nat.add_right_comm, Nat.add_assoc]
  rw [comparatorLines, List.mapIdx_cons, hnext]
  rfl

theorem mem_comparatorLines {index : Nat} {comparators : List String} {line : String} :
    line ∈ comparatorLines index comparators ↔
      ∃ i comparator, comparators[i]? = some comparator ∧
        line = numbered (index + i) comparator := by
  simp only [comparatorLines, List.mem_mapIdx, List.getElem?_eq_some_iff, numbered]
  constructor
  · rintro ⟨i, hi, rfl⟩
    exact ⟨i, _, ⟨hi, rfl⟩, rfl⟩
  · rintro ⟨i, _, ⟨hi, rfl⟩, rfl⟩
    exact ⟨i, hi, rfl⟩

theorem mem_digits_of_mem_toString {n : Nat} {c : Char} (h : c ∈ (toString n).toList) :
    c ∈ "0123456789".toList := by
  rw [Nat.toString_eq_repr, Nat.repr_eq_ofList_toDigits, String.toList_ofList] at h
  have hdigit := Nat.isDigit_of_mem_toDigits (by decide) (by decide) h
  obtain ⟨hge, hle⟩ : 48 ≤ c.toNat ∧ c.toNat ≤ 57 := by
    simp only [Char.isDigit, Bool.and_eq_true, decide_eq_true_eq, ge_iff_le,
      UInt32.le_iff_toNat_le] at hdigit
    exact hdigit
  have hall : ∀ n < 58, 48 ≤ n → Char.ofNat n ∈ "0123456789".toList := by decide
  rw [← Char.ofNat_toNat c]
  exact hall c.toNat (by omega) hge

theorem plain_toString (n : Nat) : Plain (toString n).toList :=
  ⟨fun h => absurd (mem_digits_of_mem_toString h) (by decide),
    fun h => absurd (mem_digits_of_mem_toString h) (by decide)⟩

theorem printable_toString (n : Nat) : Printable (toString n).toList := by
  intro c hc
  have hall : Printable "0123456789".toList := by decide +kernel
  exact hall c (mem_digits_of_mem_toString hc)

theorem printable_numbered (index : Nat) {comparator : String}
    (h : Printable comparator.toList) : Printable (numbered index comparator).toList := by
  simp only [numbered, String.toList_append, printable_append_iff]
  exact ⟨⟨⟨by decide +kernel, printable_toString index⟩, by decide +kernel⟩, h⟩

theorem verbatim_numbered_iff (index : Nat) {comparator : String} :
    Verbatim (numbered index comparator).toList ↔ Verbatim comparator.toList := by
  rw [numbered, String.toList_append]
  refine Markup.verbatim_append_iff ?_
  simp only [String.toList_append, Markup.plain_append_iff]
  exact ⟨⟨by decide, plain_toString index⟩, by decide⟩

theorem emojiFree_numbered (index : Nat) {comparator : String}
    (h : EmojiFree comparator.toList) : EmojiFree (numbered index comparator).toList := by
  have hnumber : ':' ∉ ("  " ++ toString index).toList := by
    rw [String.toList_append, List.mem_append]
    rintro (hc | hc)
    · exact absurd hc (by decide)
    · exact absurd (mem_digits_of_mem_toString hc) (by decide)
  have hsplit : (numbered index comparator).toList =
      ("  " ++ toString index).toList ++ ':' :: ' ' :: comparator.toList := by
    simp [numbered, String.toList_append]
  rw [hsplit]
  exact Markup.emojiFree_append hnumber h

theorem eq_of_lines_eq {row line rest behind : String} (hr : '\n' ∉ row.toList)
    (hl : '\n' ∉ line.toList) (h : row ++ "\n" ++ rest = line ++ "\n" ++ behind) :
    row = line ∧ rest = behind := by
  have hlists := congrArg String.toList h
  have hbreak : "\n".toList = ['\n'] := rfl
  simp only [String.toList_append, List.append_assoc, hbreak, List.singleton_append] at hlists
  obtain ⟨hline, hrest⟩ := Annotations.eq_of_append_cons_eq hr hl hlists
  exact ⟨String.toList_inj.mp hline, String.toList_inj.mp hrest⟩

theorem not_mem_of_printable {text : List Char} (h : Printable text) : '\n' ∉ text := by
  intro hn
  exact absurd (h _ hn) (by decide +kernel)

/-- A script whose declared annotations can be read, and have comparators of printable characters.
-/
structure Annotated (text : String) (ss : List Statement) (a : Annotations) : Prop where
  read : ∃ v, Json.read text = .ok v ∧ Script.statements (.ofValue v) = .ok ss
  block : ∃ comment, lastBlock? ss = some comment ∧ Annotations.gather comment = ⟨a, []⟩
  printable : ∀ c ∈ a.comparators, Printable c.toList

/-- A command that ends well after these annotations were printed as they are. -/
def Lists (p : Printing Unit) (a : Annotations) : Prop :=
  exitCode p = 0 ∧ output p = printed (listing a)

theorem outcome_printComparators (P : Printer) (index : Nat) (comparators : List String) :
    (printComparators P index comparators).outcome = .ok () ∨
      ∃ e, (printComparators P index comparators).outcome = .error (.escaped e) := by
  induction comparators generalizing index with
  | nil => exact Or.inl rfl
  | cons comparator rest ih =>
    rw [printComparators, printMarkup, put]
    cases P.line (numbered index comparator) with
    | error e => exact Or.inr ⟨e, rfl⟩
    | ok shown => simpa [Except.mapError] using ih (index + 1)

section

variable {P : Printer} (hP : P.Documented)

include hP

/-- Comparators are listed as they are exactly if the line of each is shown as it is. -/
theorem printComparators_iff {comparators : List String}
    (hp : ∀ c ∈ comparators, Printable c.toList) (index : Nat) :
    (printComparators P index comparators).outcome = .ok () ∧
        String.join (printComparators P index comparators).records =
          printed (comparatorLines index comparators) ↔
      ∀ line ∈ comparatorLines index comparators, P.line line = .ok (line ++ "\n") := by
  induction comparators generalizing index with
  | nil => simp [printComparators, comparatorLines, printed]
  | cons comparator rest ih =>
    rw [List.forall_mem_cons] at hp
    have hprintable := printable_numbered index hp.1
    rw [comparatorLines_cons, List.forall_mem_cons, ← ih hp.2 (index + 1), printComparators,
      printMarkup, put]
    cases hline : P.line (numbered index comparator) with
    | error e => simp [Except.mapError]
    | ok shown =>
      obtain ⟨row, rfl, hrow⟩ := hP.line_single hprintable hline
      have hself := not_mem_of_printable hprintable
      simp only [Except.mapError, Logged.lift_ok_bind, Logged.write_bind, printed, List.map_cons,
        String.join_cons, Except.ok.injEq]
      constructor
      · rintro ⟨hok, hjoin⟩
        obtain ⟨rfl, hrest⟩ := eq_of_lines_eq hrow hself hjoin
        exact ⟨rfl, hok, hrest⟩
      · rintro ⟨hrow, hok, hrest⟩
        exact ⟨hok, by rw [hrow, hrest]⟩

theorem printMarkup_styled {style words rest : String} (hs : style ∈ styles)
    (hw : Plain words.toList) (hr : Plain rest.toList) (hp : Printable (words ++ rest).toList)
    (hc : (words ++ rest).toList.count ':' ≤ 1) :
    printMarkup P (styled style words ++ rest) = ⟨[words ++ rest ++ "\n"], .ok ()⟩ := by
  rw [printMarkup, hP.line_styled hs hw hr hp (Markup.emojiFree_of_count_le_one hc)]
  rfl

theorem printMarkup_type (operator : Option Operator) :
    printMarkup P (styled "bold" "Type:" ++
        (" " ++ orDash ((operator.map Operator.token).getD ""))) =
      ⟨["Type: " ++ orDash ((operator.map Operator.token).getD "") ++ "\n"], .ok ()⟩ := by
  have htoken : orDash ((operator.map Operator.token).getD "") ∈ ["-", "all", "any"] := by
    rcases operator with _ | operator
    · decide
    · cases operator <;> decide
  generalize orDash ((operator.map Operator.token).getD "") = token at htoken
  have hall : ∀ token ∈ ["-", "all", "any"], Plain (" " ++ token).toList ∧
      Printable ("Type:" ++ (" " ++ token)).toList ∧
      ("Type:" ++ (" " ++ token)).toList.count ':' ≤ 1 := by decide +kernel
  obtain ⟨hplain, hprintable, hcount⟩ := hall token htoken
  have hline : "Type:" ++ (" " ++ token) = "Type: " ++ token := by
    rw [← String.append_assoc]
    rfl
  rw [printMarkup_styled hP (by decide) (by decide) hplain hprintable hcount, hline]

theorem printMarkup_count (n : Nat) :
    printMarkup P (styled "bold" ("Comparators (" ++ toString n ++ "):")) =
      ⟨["Comparators (" ++ toString n ++ "):" ++ "\n"], .ok ()⟩ := by
  have hplain : Plain ("Comparators (" ++ toString n ++ "):").toList := by
    simp only [String.toList_append, Markup.plain_append_iff]
    exact ⟨⟨by decide, plain_toString n⟩, by decide⟩
  have hprintable : Printable ("Comparators (" ++ toString n ++ "):").toList := by
    simp only [String.toList_append, printable_append_iff]
    exact ⟨⟨by decide +kernel, printable_toString n⟩, by decide +kernel⟩
  have hcount : ("Comparators (" ++ toString n ++ "):").toList.count ':' ≤ 1 := by
    have hdigits : (toString n).toList.count ':' = 0 :=
      List.count_eq_zero.mpr fun h => absurd (mem_digits_of_mem_toString h) (by decide)
    simp only [String.toList_append, List.count_append, hdigits]
    decide
  rw [← String.append_empty (s := "Comparators (" ++ toString n ++ "):")] at hprintable hcount
  have h := printMarkup_styled hP (by decide : "bold" ∈ styles) hplain (by decide) hprintable hcount
  rwa [String.append_empty, String.append_empty] at h

theorem printAnnotations_eq (a : Annotations) :
    printAnnotations P (some a) =
      ⟨("Type: " ++ orDash ((a.operator.map Operator.token).getD "") ++ "\n") ::
          ("Comparators (" ++ toString a.comparators.length ++ "):" ++ "\n") ::
          (printComparators P 0 a.comparators).records,
        (printComparators P 0 a.comparators).outcome⟩ := by
  rw [printAnnotations, printMarkup_type hP, Logged.mk_ok_bind, printMarkup_count hP,
    Logged.mk_ok_bind]
  rfl

theorem lists_printAnnotations_iff {a : Annotations}
    (hp : ∀ c ∈ a.comparators, Printable c.toList) :
    Lists (printAnnotations P (some a)) a ↔
      ∀ line ∈ comparatorLines 0 a.comparators, P.line line = .ok (line ++ "\n") := by
  rw [← printComparators_iff hP hp, Lists, output, printAnnotations_eq hP]
  simp only [printed, listing, List.map_cons, String.join_cons, String.append_right_inj]
  refine and_congr_left fun _ => ?_
  rcases outcome_printComparators P 0 a.comparators with hok | ⟨e, he⟩
  · simp [exitCode, hok]
  · simp [exitCode, he]

variable (settings : Settings) {order : Order} {ss : List Statement} {a : Annotations}
  (h : Annotated order.text ss a)

include h

theorem lists_annotate_iff :
    Lists (runTask P settings order .annotate) a ↔
      (∀ v, .comment v ∈ ss → v.IsText) ∧
        ∀ line ∈ comparatorLines 0 a.comparators, P.line line = .ok (line ++ "\n") := by
  obtain ⟨v, hv, hread⟩ := h.read
  obtain ⟨comment, hblock, hgather⟩ := h.block
  have htree := treeOfText_of_read hv
  by_cases ht : ∀ v, .comment v ∈ ss → v.IsText
  · have hdeclared : Annotations.declared ss = .ok (some a) := by
      rw [Annotations.declared_eq ht, readComment_eq, hblock]
      simp only [hgather, if_true]
    rw [and_iff_right ht, ← lists_printAnnotations_iff hP h.printable]
    simp only [runTask, runAnnotate, htree, Logged.lift_ok_bind, hread, ok_bind, hdeclared]
  · have hfailed : Annotations.declared ss = .error .wrongKind := by
      rw [Annotations.declared, Annotations.blocks_of_not_isText ht, error_bind]
    constructor
    · rintro ⟨hzero, -⟩
      simp only [runTask, runAnnotate, htree, Logged.lift_ok_bind, hread, ok_bind, hfailed,
        reportFailure] at hzero
      cases hzero
    · exact fun hall => absurd hall.1 ht

end

/-- Declared comparators of printable characters are listed as they are exactly if every comment is
a text and the console shows the line of each comparator as it is. Then none of them holds anything
that markup reads, and where none does and none holds the code of an emoji they are listed. -/
theorem listing_of_annotations {P : Printer} (hP : P.Documented) (settings : Settings)
    {order : Order} {ss : List Statement} {a : Annotations} (h : Annotated order.text ss a) :
    (Lists (runTask P settings order .annotate) a ↔
      (∀ v, .comment v ∈ ss → v.IsText) ∧
        ∀ line ∈ comparatorLines 0 a.comparators, P.line line = .ok (line ++ "\n")) ∧
    (Lists (runTask P settings order .annotate) a → ∀ c ∈ a.comparators, Verbatim c.toList) ∧
    ((∀ v, .comment v ∈ ss → v.IsText) →
      (∀ c ∈ a.comparators, Verbatim c.toList ∧ EmojiFree c.toList) →
      Lists (runTask P settings order .annotate) a) := by
  have hiff := lists_annotate_iff hP settings h
  refine ⟨hiff, ?_, ?_⟩
  · intro hlists c hc
    obtain ⟨i, hi⟩ := List.mem_iff_getElem?.mp hc
    have hline := (hiff.mp hlists).2 _ (mem_comparatorLines.mpr ⟨i, c, hi, rfl⟩)
    by_contra hv
    exact hP.line_marked (printable_numbered _ (h.printable c hc))
      ((verbatim_numbered_iff _).not.mpr hv) hline
  · intro ht hall
    refine hiff.mpr ⟨ht, fun line hline => ?_⟩
    obtain ⟨i, c, hi, rfl⟩ := mem_comparatorLines.mp hline
    have hc := List.mem_of_getElem? hi
    obtain ⟨hv, he⟩ := hall c hc
    exact hP.line_verbatim (printable_numbered _ (h.printable c hc)) (emojiFree_numbered _ he)
      ((verbatim_numbered_iff _).mpr hv)

def commentScript (text : String) : Value :=
  .arr [.obj [("Type", .str "Comment"), ("Text", .str text)]]

theorem annotated_commentScript {script comment : String} {a : Annotations}
    (hread : Json.read script = .ok (commentScript comment))
    (hstatements : Script.statements (.ofValue (commentScript comment)) =
      .ok [.comment (.str comment)])
    (hblock : Annotations.isBlock comment = true) (hgather : Annotations.gather comment = ⟨a, []⟩)
    (hp : ∀ c ∈ a.comparators, Printable c.toList) :
    Annotated script [.comment (.str comment)] a := by
  refine ⟨⟨_, hread, hstatements⟩, ⟨comment, ?_, hgather⟩, hp⟩
  simp [lastBlock?, Statement.block?, hblock]

def bracketText : String :=
  "[\x7b\"Type\": \"Comment\", " ++
  "\"Text\": \"/**\\r\\n * @comparator is\\r\\n * @comparator [X]\\r\\n */\"\x7d]"

def bracketComment : String := "/**\r\n * @comparator is\r\n * @comparator [X]\r\n */"

/-- Brackets around a capital letter are no tag. -/
theorem listing_of_annotations_bracketed :
    Screen.console.Documented ∧
    Annotated bracketText [.comment (.str bracketComment)] ⟨none, ["is", "[X]"]⟩ ∧
    exitCode (runTask Screen.console ⟨.standard, .json, .warning⟩ ⟨none, bracketText⟩ .annotate) =
      0 ∧
    output (runTask Screen.console ⟨.standard, .json, .warning⟩ ⟨none, bracketText⟩ .annotate) =
      "Type: -\nComparators (2):\n  0: is\n  1: [X]\n" := by
  have hannotated : Annotated bracketText [.comment (.str bracketComment)] ⟨none, ["is", "[X]"]⟩ :=
    annotated_commentScript (by decide +kernel) (by decide +kernel) (by decide +kernel)
      (by decide +kernel) (by decide +kernel)
  have hall : ∀ c ∈ ["is", "[X]"], Verbatim c.toList ∧ c.toList.count ':' ≤ 1 := by decide +kernel
  obtain ⟨-, -, hlisted⟩ := @listing_of_annotations _ Screen.console_documented
    ⟨.standard, .json, .warning⟩ ⟨none, bracketText⟩ _ _ hannotated
  obtain ⟨hzero, hout⟩ := hlisted (by simp [Value.IsText]) fun c hc =>
    ⟨(hall c hc).1, Markup.emojiFree_of_count_le_one (hall c hc).2⟩
  exact ⟨Screen.console_documented, hannotated, hzero, hout⟩

def draftText : String :=
  "[\x7b\"Type\": \"Comment\", " ++
  "\"Text\": \"/**\\r\\n * @comparator [draft]\\r\\n */\"\x7d]"

def draftComment : String := "/**\r\n * @comparator [draft]\r\n */"

/-- A comparator that is a tag is missing from the listing. -/
theorem draft_not_listed :
    Annotated draftText [.comment (.str draftComment)] ⟨none, ["[draft]"]⟩ ∧
    exitCode (runTask Screen.console ⟨.standard, .json, .warning⟩ ⟨none, draftText⟩ .annotate) =
      0 ∧
    output (runTask Screen.console ⟨.standard, .json, .warning⟩ ⟨none, draftText⟩ .annotate) =
      "Type: -\nComparators (1):\n  0: \n" ∧
    printed (listing ⟨none, ["[draft]"]⟩) = "Type: -\nComparators (1):\n  0: [draft]\n" := by
  have hannotated : Annotated draftText [.comment (.str draftComment)] ⟨none, ["[draft]"]⟩ :=
    annotated_commentScript (by decide +kernel) (by decide +kernel) (by decide +kernel)
      (by decide +kernel) (by decide +kernel)
  refine ⟨hannotated, ?_, ?_, ?_⟩
  all_goals decide +kernel

end MailFilter.Command
