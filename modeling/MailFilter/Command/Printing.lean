import MailFilter.Annotations.Declared
import MailFilter.Command.Printer
import MailFilter.Filter.Basic
import MailFilter.Filter.Record
import MailFilter.Json.Printer
import MailFilter.Settings

/-!
What the commands print, and how they end. What was printed before an end stays printed.
-/

namespace MailFilter.Command

/-- How a command ends before its time: with an exit code, with a parameter that is refused, or with
a failure that is reported to nobody. -/
inductive Halt where
  | exit (code : Nat)
  | badSettings (message : String)
  | badJson (message : String)
  | escaped (e : Escape)
  deriving DecidableEq, Repr

abbrev Printing := Logged String Halt

def exitCode (p : Printing Unit) : Nat :=
  match p.outcome with
  | .ok _ => 0
  | .error (.exit code) => code
  | .error (.badSettings _) => 2
  | .error (.badJson _) => 2
  | .error (.escaped _) => 1

def output (p : Printing Unit) : String := String.join p.records

def put (shown : Except Escape String) : Printing Unit := do
  Logged.write (← shown.mapError Halt.escaped)

def orDash (s : String) : String := if s = "" then "-" else s

def joinTexts (values : List Value) : Except Halt String :=
  match Settings.texts? values with
  | some texts => .ok (String.intercalate ", " texts)
  | none => .error (.escaped .wrongKind)

/-- Only a filter whose values have JSON forms can be written. -/
def printJson (f : SimpleFilter) : Printing Unit :=
  match Json.write? f.toValue with
  | some text => Logged.write (text ++ "\n")
  | none => Logged.fail (.escaped .wrongKind)

section

variable (P : Printer)

def printMarkup (markup : String) : Printing Unit := put (P.line markup)

def conditionRow (c : Condition) : Except Halt (List String) := do
  let values ← joinTexts c.values
  return [orDash (labelled c.field.token).label, (labelled c.comparator.token).label,
    orDash (P.escape values)]

def printReply : Option Value → Printing Unit
  | none => return ()
  | some (.str message) => printMarkup P ("  Vacation: " ++ P.escape message)
  | some _ => Logged.fail (.escaped .wrongKind)

/-- A filter as a panel with its operator, a grid of its conditions, and its effects. -/
def printTable (f : SimpleFilter) : Printing Unit := do
  let label := (labelled f.operator.token).label
  put (P.panel "Simple Filter"
    (styled "bold blue" ("Match " ++ label) ++ " of the following conditions"))
  let rows ← (f.conditions.mapM (conditionRow P) : Except Halt _)
  put (P.grid "Conditions" ["Type", "Comparator", "Values"] rows)
  printMarkup P ("\n" ++ styled "bold" "Actions:")
  let folders ← joinTexts f.effects.folders
  printMarkup P ("  File into: " ++ orDash (P.escape folders))
  printMarkup P ("  Mark read: " ++ Record.flag f.effects.mark.read ++
    " | Starred: " ++ Record.flag f.effects.mark.starred)
  printReply P f.effects.reply

def showFilter (f : SimpleFilter) : Format → Printing Unit
  | .json => printJson f
  | .table => printTable P f

def numbered (index : Nat) (comparator : String) : String :=
  "  " ++ toString index ++ ": " ++ comparator

def printComparators (index : Nat) : List String → Printing Unit
  | [] => return ()
  | comparator :: rest => do
    printMarkup P (numbered index comparator)
    printComparators (index + 1) rest

def printAnnotations : Option Annotations → Printing Unit
  | none => printMarkup P (styled "dim" "No annotation comment found.")
  | some a => do
    printMarkup P (styled "bold" "Type:" ++
      (" " ++ orDash ((a.operator.map Operator.token).getD "")))
    printMarkup P (styled "bold" ("Comparators (" ++ toString a.comparators.length ++ "):"))
    printComparators P 0 a.comparators

end

end MailFilter.Command
