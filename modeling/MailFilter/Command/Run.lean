import MailFilter.Command.Tasks
import MailFilter.Shell.Pages
import MailFilter.Shell.Screen.Console
import MailFilter.Shell.Yaml.Reader
import MailFilter.Text.Lines
import MailFilter.Text.Word

/-!
Running a command line as a function from arguments, files and standard input to what is printed
and the exit code. This is where the commands meet a reader of arguments, a reader of configuration
documents, and a console, of which they know nothing.
-/

namespace MailFilter.Command

inductive Stop where
  | exit (code : Nat)
  | help (page : Page)
  | noArguments
  | usage (page : Page) (e : UsageError)
  | escaped (e : Escape)
  deriving DecidableEq, Repr

structure Call where
  args : List String
  files : List (String × String)
  stdin : String
  logLevel : Option String
  deriving DecidableEq, Repr

structure Result where
  exitCode : Nat
  stdout : String
  stderr : String
  escaped : Option Escape
  deriving DecidableEq, Repr

def localPath : List Char → List Char
  | '.' :: '/' :: rest => localPath rest
  | path => path

def Call.text? (call : Call) (path : String) : Option String :=
  let file := call.files.find? fun (name, _) => localPath name.toList = localPath path.toList
  file.map fun (_, s) => String.ofList (Text.uniformLineEnds s.toList)

def Call.input (call : Call) : String :=
  String.ofList (Text.uniformLineEnds call.stdin.toList)

def parsePage (page : Page) (spec : Spec) (args : List String) : Except Stop Parsed := do
  let parsed ← (parse spec args).mapError fun e => .usage page (.argument e)
  if (parsed.value? .help).isSome then throw (.help page)
  return parsed

/-- The arguments in front of a task, and the task with those behind it. A name that looks like an
option is tried as one. -/
def splitTask (args : List String) : Except Stop (Parsed × Task × List String) := do
  if args.isEmpty then throw .noArguments
  let parsed ← parsePage .program programSpec args
  match parsed.positional with
  | [] => throw (.usage .program .missingCommand)
  | name :: rest =>
    match Task.ofName? name with
    | some task => return (parsed, task, rest)
    | none =>
      if name.toList.head?.any fun c => c = '_' || !Text.isWord c then
        let _ ← parsePage .program programSpec (name :: rest)
      throw (.usage .program (.noSuchCommand name))

def configPath (parsed : Parsed) : String := (parsed.value? .config).getD "config.yaml"

def Halt.stop (page : Page) : Halt → Stop
  | .exit code => .exit code
  | .badSettings message => .usage .program (.badSettings message)
  | .badJson message => .usage page (.badJson message)
  | .escaped e => .escaped e

def settingsStop (e : SettingsError) : Stop := (haltOfSettings e).stop .program

def readSettings (call : Call) (path : String) : Except Stop Settings :=
  (Settings.load Yaml.read? path call.logLevel (call.text? path)).mapError settingsStop

/-- The arguments behind a task: the format first, then the file, then what should not be there. -/
def readOrder (call : Call) (task : Task) (args : List String) : Except Stop Order := do
  let refuse (e : UsageError) : Stop := .usage (.task task) e
  let parsed ← parsePage (.task task) task.spec args
  let format ← match parsed.value? .format with
    | none => pure none
    | some name => match Format.ofName? name with
      | some format => pure (some format)
      | none => throw (refuse (.badFormat name))
  let text ← match parsed.positional with
    | [] => throw (refuse .missingFile)
    | "-" :: _ => pure call.input
    | path :: _ => match call.text? path with
      | some text => pure text
      | none => throw (refuse (.noSuchFile path))
  match parsed.positional.drop 1 with
  | [] => return ⟨format, text⟩
  | extra => throw (refuse (.extraArguments extra))

def perform (call : Call) : Logged String Stop Unit := do
  let (parsed, task, args) ← splitTask call.args
  let settings ← readSettings call (configPath parsed)
  let order ← readOrder call task args
  (runTask Screen.console settings order task).mapError (Halt.stop (.task task))

def run (call : Call) : Result :=
  let printing := perform call
  let stdout := String.join printing.records
  match printing.outcome with
  | .ok _ => ⟨0, stdout, "", none⟩
  | .error (.exit code) => ⟨code, stdout, "", none⟩
  | .error (.help page) => ⟨0, stdout ++ page.help, "", none⟩
  | .error .noArguments => ⟨2, stdout, Page.program.help, none⟩
  | .error (.usage page e) => ⟨2, stdout, e.report page, none⟩
  | .error (.escaped e) => ⟨1, stdout, "", some e⟩

/-- The files that a command line may read: its configuration document, and the file of its task. -/
def filesNamed (args : List String) : List String :=
  match splitTask args with
  | .ok (parsed, task, rest) =>
    configPath parsed ::
      (match parse task.spec rest with
      | .ok parsed => parsed.positional.take 1
      | .error _ => [])
  | .error _ => []

end MailFilter.Command
