import MailFilter.Command.Tasks
import MailFilter.Shell.Arguments
import MailFilter.Text.Quoted

/-!
The commands, their options, and what is printed about their use.
-/

namespace MailFilter.Command

def Task.name : Task → String
  | .annotate => "annotate"
  | .check => "check"
  | .convert => "convert"

def Task.ofName? (name : String) : Option Task :=
  [Task.annotate, .check, .convert].find? fun t => t.name = name

inductive Page where
  | program
  | task (t : Task)
  deriving DecidableEq, Repr

def programSpec : Spec where
  long := [("--config", .config), ("--verbose", .verbose), ("--help", .help)]
  short := [('c', .config), ('v', .verbose)]
  interspersed := false

def Task.spec (t : Task) : Spec where
  long := (if t = .convert then [("--format", .format)] else []) ++ [("--help", .help)]
  short := []
  interspersed := true

def Page.path : Page → String
  | .program => "cli"
  | .task t => "cli " ++ t.name

def Page.usage : Page → String
  | .program => "Usage: cli [OPTIONS] COMMAND [ARGS]...\n"
  | .task t => "Usage: cli " ++ t.name ++ " [OPTIONS] FILE\n"

def Task.sentence : Task → String
  | .annotate => "Show the annotations declared in the filter's doc comment."
  | .check => "Check whether a parsed sieve tree can be edited as a simple filter."
  | .convert => "Convert a parsed sieve tree (JSON) into a simple filter."

def Task.optionLines : Task → String
  | .convert =>
    "  --format [json|table]  Output format (defaults to the config file setting)\n" ++
    "  --help                 Show this message and exit.\n"
  | .annotate => "  --help  Show this message and exit.\n"
  | .check => "  --help  Show this message and exit.\n"

def Page.help : Page → String
  | .program =>
    Page.program.usage ++
    "\n  Sieve Simple - Convert parsed sieve scripts into simple filters.\n" ++
    "\nOptions:\n" ++
    "  -c, --config TEXT  Path to config file\n" ++
    "  -v, --verbose      Show debug logs\n" ++
    "  --help             Show this message and exit.\n" ++
    "\nCommands:\n" ++
    "  annotate  Show the annotations declared in the filter's doc comment.\n" ++
    "  check     Check whether a parsed sieve tree can be edited as a simple...\n" ++
    "  convert   Convert a parsed sieve tree (JSON) into a simple filter.\n"
  | .task t =>
    (Page.task t).usage ++ "\n  " ++ t.sentence ++ "\n\nOptions:\n" ++ t.optionLines

inductive UsageError where
  | argument (e : ArgumentError)
  | badFormat (name : String)
  | missingFile
  | noSuchFile (name : String)
  | extraArguments (args : List String)
  | missingCommand
  | noSuchCommand (name : String)
  | badSettings (message : String)
  | badJson (message : String)
  deriving DecidableEq, Repr

def UsageError.message : UsageError → String
  | argument (.unknownOption name) => "No such option " ++ Text.quoted name ++ "."
  | argument (.lacksValue name) => "Option " ++ Text.quoted name ++ " requires an argument."
  | argument (.unwantedValue name) => "Option " ++ Text.quoted name ++ " does not take a value."
  | badFormat name =>
    "Invalid value for '--format': " ++ Text.quoted name ++ " is not one of 'json', 'table'."
  | missingFile => "Missing argument 'FILE'."
  | noSuchFile name => "Invalid value for 'FILE': '" ++ name ++ "': No such file or directory"
  | extraArguments [arg] => "Got unexpected extra argument (" ++ arg ++ ")"
  | extraArguments args =>
    "Got unexpected extra arguments (" ++ String.intercalate " " args ++ ")"
  | missingCommand => "Missing command."
  | noSuchCommand name => "No such command " ++ Text.quoted name ++ "."
  | badSettings message => "Invalid value for --config: " ++ message
  | badJson message => "Invalid value for FILE: invalid JSON: " ++ message

def UsageError.report (page : Page) (e : UsageError) : String :=
  page.usage ++ "Try '" ++ page.path ++ " --help' for help.\n\nError: " ++ e.message ++ "\n"

end MailFilter.Command
