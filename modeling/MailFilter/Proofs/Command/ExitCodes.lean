import MailFilter.Command.Tasks
import MailFilter.Proofs.Command.Views
import MailFilter.Proofs.Shell.Console

/-!
# Exit codes of the views of a script

A script is shown as a verdict on it, as JSON, or as a table. All three views refuse the same
scripts. Of the others the verdict shows every one, JSON those that do not need a folder without a
JSON form, and the table those whose values are texts: the values were never looked at before.
-/
namespace MailFilter.Command

open Script (Source)
open FirstFailure
open Markup (Plain)

inductive View where
  | verdict
  | filter (format : Format)
  deriving DecidableEq, Repr

def View.show (P : Printer) (settings : Settings) (text : String) : View → Printing Unit
  | .verdict => runTask P settings ⟨none, text⟩ .check
  | .filter format => runTask P settings ⟨some format, text⟩ .convert

/-- What a view asks of a script that converts. -/
structure View.Fits (view : View) (tree : Source) (trash : Value) : Prop where
  json : view = .filter .json → tree.Discards → Json.hasForm trash = true
  table : view = .filter .table → tree.CarriesOnly Value.IsText trash

/-- A failure with exit code 1: it was reported, or it has escaped. -/
def FailsOne (x : Except Halt Unit) : Prop :=
  x = .error (.exit 1) ∨ ∃ e, x = .error (.escaped e)

theorem exitCode_of_failsOne {p : Printing Unit} (h : FailsOne p.outcome) : exitCode p = 1 := by
  rcases h with h | ⟨e, h⟩
  · simp only [exitCode, h]
  · simp only [exitCode, h]

theorem exitCode_of_hinges {p : Printing Unit} {q : Prop} (h : Hinges p.outcome q) :
    q ∧ exitCode p = 0 ∨ ¬ q ∧ exitCode p = 1 ∧ p.outcome = .error (.escaped .wrongKind) := by
  rcases h with ⟨hq, _, h⟩ | ⟨hq, h⟩
  · exact Or.inl ⟨hq, by simp only [exitCode, h]⟩
  · exact Or.inr ⟨hq, by simp only [exitCode, h], h⟩

theorem treeOfText_of_read {text : String} {v : Value} (h : Json.read text = .ok v) :
    treeOfText text = .ok (.ofValue v) := by
  rw [treeOfText, h]

theorem plain_kind (refusal : Refusal) : Plain refusal.kind.toList := by
  cases refusal <;> simp only [Refusal.kind] <;> decide

section

variable {P : Printer} (hP : P.Documented)

include hP

theorem failsOne_reportFailure {words : String} {behind : Refusal → String}
    (hw : Plain words.toList) (hb : ∀ refusal, Plain (behind refusal).toList) (failure : Failure) :
    FailsOne
      (reportFailure P (fun refusal => styled "red" words ++ behind refusal) failure).outcome := by
  cases failure with
  | refused refusal =>
    have hclosed : Closed P.escape
        (styled "red" words ++ behind refusal ++ P.escape refusal.message) := by
      rw [String.append_assoc]
      exact .styled (by decide) hw (.behind (hb refusal) (.escaped _))
    obtain ⟨u, hu⟩ := exists_printMarkup hP hclosed
    refine Or.inl ?_
    simp only [reportFailure, Logged.outcome_bind, hu, ok_bind]
    rfl
  | wrongKind => exact Or.inr ⟨.wrongKind, rfl⟩
  | noMember => exact Or.inr ⟨.noMember, rfl⟩

variable {settings : Settings} {text : String} {v : Value} (hv : Json.read text = .ok v)

include hv

theorem failsOne_show {failure : Failure}
    (hf : (convert (.ofValue v) settings.requirements).outcome = .error failure) (view : View) :
    FailsOne (view.show P settings text).outcome := by
  have htree := treeOfText_of_read hv
  cases view with
  | verdict =>
    simp only [View.show, runTask, runCheck, htree, Logged.lift_ok_bind, hf]
    exact failsOne_reportFailure hP (by decide) (fun _ => by decide) failure
  | filter format =>
    simp only [View.show, runTask, runConvert, htree, Logged.lift_ok_bind, hf]
    refine failsOne_reportFailure hP (by decide) (fun refusal => ?_) failure
    simp only [String.toList_append, Markup.plain_append_iff]
    exact ⟨⟨by decide, plain_kind refusal⟩, by decide⟩

theorem hinges_show {f : SimpleFilter}
    (hf : (convert (.ofValue v) settings.requirements).outcome = .ok f) (view : View) :
    Hinges (view.show P settings text).outcome
      (view.Fits (.ofValue v) settings.requirements.trash) := by
  have htree := treeOfText_of_read hv
  match view with
  | .verdict =>
    simp only [View.show, runTask, runCheck, htree, Logged.lift_ok_bind, hf]
    have hprinted := exists_printMarkup hP (closed_styled (by decide) (by decide) :
      Closed P.escape (styled "green" "✓ Simple filter"))
    exact (Hinges.of_exists hprinted).congr ⟨fun _ => ⟨by simp, by simp⟩, fun _ => trivial⟩
  | .filter .json =>
    simp only [View.show, runTask, runConvert, htree, Logged.lift_ok_bind, hf, Option.getD_some,
      showFilter]
    refine (hinges_printJson f).congr ?_
    rw [carriesOnly_iff (fun _ => rfl) hf,
      carriesOnly_ofValue_iff Json.inherited_hasForm (Json.hasForm_of_read hv) hf]
    exact ⟨fun h => ⟨fun _ => h, by simp⟩, fun h => h.json rfl⟩
  | .filter .table =>
    simp only [View.show, runTask, runConvert, htree, Logged.lift_ok_bind, hf, Option.getD_some,
      showFilter]
    refine (hinges_printTable hP f).congr ?_
    rw [carriesOnly_iff (fun _ => trivial) hf]
    exact ⟨fun h => ⟨by simp, fun _ => h⟩, fun h => h.table rfl⟩

end

/-- A script is shown with exit code 0 exactly if it has a filter that fits the view. Otherwise the
exit code is 1, and where there is a filter a value was of the wrong kind, which is reported to
nobody. -/
theorem exit_code_of_view {P : Printer} (hP : P.Documented) {settings : Settings} {text : String}
    {v : Value} (hv : Json.read text = .ok v) (view : View) :
    (exitCode (view.show P settings text) = 0 ↔
      (∃ f, (convert (.ofValue v) settings.requirements).outcome = .ok f) ∧
        view.Fits (.ofValue v) settings.requirements.trash) ∧
    (exitCode (view.show P settings text) ≠ 0 → exitCode (view.show P settings text) = 1) ∧
    (∀ f, (convert (.ofValue v) settings.requirements).outcome = .ok f →
      exitCode (view.show P settings text) ≠ 0 →
      (view.show P settings text).outcome = .error (.escaped .wrongKind)) := by
  cases hc : (convert (.ofValue v) settings.requirements).outcome with
  | error failure =>
    have hone := exitCode_of_failsOne (failsOne_show hP hv hc view)
    refine ⟨?_, fun _ => hone, by simp⟩
    simp [hone]
  | ok f =>
    rcases exitCode_of_hinges (hinges_show hP hv hc view) with
      ⟨hfits, hzero⟩ | ⟨hfits, hone, hescaped⟩
    · exact ⟨⟨fun _ => ⟨⟨f, rfl⟩, hfits⟩, fun _ => hzero⟩, fun hne => absurd hzero hne,
        fun _ _ hne => absurd hzero hne⟩
    · refine ⟨⟨fun hz => ?_, fun hs => absurd hs.2 hfits⟩, fun _ => hone, fun _ _ _ => hescaped⟩
      rw [hone] at hz
      cases hz

def discardText : String :=
  "[\x7b\"Type\": \"Require\", \"List\": [\"fileinto\", \"imap4flags\"]\x7d, " ++
  "\x7b\"Type\": \"If\", \"If\": \x7b\"Type\": \"allof\", \"Tests\": []\x7d, " ++
  "\"Then\": [\x7b\"Type\": \"Discard\"\x7d]\x7d]"

def discardScript : Value :=
  .arr [
    .obj [("Type", .str "Require"), ("List", .arr [.str "fileinto", .str "imap4flags"])],
    .obj [("Type", .str "If"), ("If", .obj [("Type", .str "allof"), ("Tests", .arr [])]),
      ("Then", .arr [.obj [("Type", .str "Discard")]])]]

def yearDocument : Value := .obj [("trash_folder", .int 2024)]

def yearSettings : Settings where
  requirements := ⟨defaultExtensions, .int 2024⟩
  format := .json
  logLevel := .warning

theorem read_yearDocument : Settings.read "config.yaml" none yearDocument = .ok yearSettings := by
  decide +kernel

theorem read_discardText : Json.read discardText = .ok discardScript := by decide +kernel

theorem convert_discardScript :
    (convert (.ofValue discardScript) yearSettings.requirements).outcome =
      .ok ⟨.all, [], ⟨[.int 2024], ⟨false, false⟩, none⟩⟩ := by
  decide +kernel

theorem not_fits_discardScript :
    ¬ (View.filter .table).Fits (.ofValue discardScript) yearSettings.requirements.trash := by
  intro h
  have hcarries := h.table rfl
  rw [← carriesOnly_iff (fun _ => trivial) convert_discardScript] at hcarries
  exact hcarries.folders (.int 2024) (by simp)

theorem exit_code_of_view_year :
    Screen.console.Documented ∧ Json.read discardText = .ok discardScript ∧
    exitCode (View.show Screen.console yearSettings discardText (.filter .table)) = 1 ∧
    (View.show Screen.console yearSettings discardText (.filter .table)).outcome =
      .error (.escaped .wrongKind) := by
  obtain ⟨hzero, hone, hescaped⟩ :=
    @exit_code_of_view _ Screen.console_documented yearSettings _ _ read_discardText
      (.filter .table)
  have hne : exitCode (View.show Screen.console yearSettings discardText (.filter .table)) ≠ 0 :=
    fun h => not_fits_discardScript (hzero.mp h).2
  exact ⟨Screen.console_documented, read_discardText, hone hne,
    hescaped _ convert_discardScript hne⟩

/-- The verdict and the JSON of a script may end well where its table does not, under one
configuration. -/
theorem year_views_disagree :
    Settings.read "config.yaml" none yearDocument = .ok yearSettings ∧
    (∃ f, (convert (.ofValue discardScript) yearSettings.requirements).outcome = .ok f) ∧
    exitCode (View.show Screen.console yearSettings discardText .verdict) = 0 ∧
    exitCode (View.show Screen.console yearSettings discardText (.filter .json)) = 0 ∧
    exitCode (View.show Screen.console yearSettings discardText (.filter .table)) = 1 := by
  have hshow := fun view => exitCode_of_hinges
    (hinges_show Screen.console_documented read_discardText convert_discardScript view)
  have hzero : ∀ view : View,
      view.Fits (.ofValue discardScript) yearSettings.requirements.trash →
        exitCode (view.show Screen.console yearSettings discardText) = 0 := by
    intro view hfits
    rcases hshow view with ⟨-, h⟩ | ⟨hn, -⟩
    · exact h
    · exact absurd hfits hn
  have hone : exitCode
      (View.show Screen.console yearSettings discardText (.filter .table)) = 1 := by
    rcases hshow (.filter .table) with ⟨hfits, -⟩ | ⟨-, h, -⟩
    · exact absurd hfits not_fits_discardScript
    · exact h
  exact ⟨read_yearDocument, ⟨_, convert_discardScript⟩, hzero .verdict ⟨by simp, by simp⟩,
    hzero (.filter .json) ⟨fun _ _ => rfl, by simp⟩, hone⟩

end MailFilter.Command
