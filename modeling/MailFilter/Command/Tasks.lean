import MailFilter.Command.Printing
import MailFilter.Json.Reader
import MailFilter.Script.Source

/-!
The commands themselves: each reads a script from JSON text and prints what it finds.
-/

namespace MailFilter.Command

open Script (Source)

inductive Task where
  | annotate
  | check
  | convert
  deriving DecidableEq, Repr

structure Order where
  format : Option Format
  text : String
  deriving DecidableEq, Repr

def haltOfSettings : SettingsError → Halt
  | .notMapping => .escaped .noMember
  | .unreadable => .escaped .unreadableSettings
  | e => .badSettings e.message

def treeOfText (text : String) : Except Halt Source :=
  match Json.read text with
  | .ok v => .ok (.ofValue v)
  | .error e => .error (.badJson e.message)

section

variable (P : Printer)

/-- The end of a command that failed. A refusal is reported, behind some words on it. -/
def reportFailure (heading : Refusal → String) (f : Failure) : Printing Unit :=
  match f with
  | .wrongKind => Logged.fail (.escaped .wrongKind)
  | .noMember => Logged.fail (.escaped .noMember)
  | .refused refusal => do
    printMarkup P (heading refusal ++ P.escape refusal.message)
    Logged.fail (.exit 1)

def runConvert (settings : Settings) (order : Order) : Printing Unit := do
  let tree ← treeOfText order.text
  match (convert tree settings.requirements).outcome with
  | .ok f => showFilter P f (order.format.getD settings.format)
  | .error f =>
    reportFailure P (fun refusal => styled "red" "Error:" ++ (" " ++ refusal.kind ++ ": ")) f

def runCheck (settings : Settings) (order : Order) : Printing Unit := do
  let tree ← treeOfText order.text
  match (convert tree settings.requirements).outcome with
  | .ok _ => printMarkup P (styled "green" "✓ Simple filter")
  | .error f => reportFailure P (fun _ => styled "red" "✗ Not a simple filter:" ++ " ") f

def runAnnotate (order : Order) : Printing Unit := do
  let tree ← treeOfText order.text
  match Script.statements tree >>= Annotations.declared with
  | .ok a => printAnnotations P a
  | .error f => reportFailure P (fun _ => styled "red" "Error:" ++ " ") f

def runTask (settings : Settings) (order : Order) : Task → Printing Unit
  | .annotate => runAnnotate P order
  | .check => runCheck P settings order
  | .convert => runConvert P settings order

end

end MailFilter.Command
