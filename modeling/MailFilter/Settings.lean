import MailFilter.Filter.Conversion
import MailFilter.Text.LetterCase
import MailFilter.Value.Display

/-!
Settings: what a configuration document and the name of a log level say. Whatever the document
leaves out has a standard value; what it says wrongly is refused, the log level first, then the
document itself, the output format, and the required extensions.
-/

namespace MailFilter

inductive Format where
  | json
  | table
  deriving DecidableEq, Repr, Inhabited

inductive LogLevel where
  | critical
  | error
  | warning
  | info
  | debug
  deriving DecidableEq, Repr, Inhabited

structure Settings where
  requirements : Requirements
  format : Format
  logLevel : LogLevel
  deriving DecidableEq, Inhabited

inductive SettingsError where
  | unknownLogLevel (name : String)
  | unreadable
  | notMapping
  | unknownFormat (path : String) (v : Value)
  | badExtensions (path : String) (v : Value)
  deriving DecidableEq

/-- The wording of a refusal. A text that is no document and a document that is no mapping have
none. -/
def SettingsError.message : SettingsError → String
  | unknownLogLevel name => s!"Unknown log level in SIEVE_SIMPLE_LOG_LEVEL: {name}"
  | unreadable => ""
  | notMapping => ""
  | unknownFormat path v => s!"Unknown output format in {path}: {v.display}"
  | badExtensions path v =>
    s!"required_extensions in {path} must be a list of names: {v.literal}"

namespace Format

def name : Format → String
  | json => "json"
  | table => "table"

def names : Table Format String := [json, table].map fun f => (f, f.name)

def ofName? (name : String) : Option Format := names.inverse.lookup name

end Format

namespace LogLevel

def name : LogLevel → String
  | critical => "CRITICAL"
  | error => "ERROR"
  | warning => "WARNING"
  | info => "INFO"
  | debug => "DEBUG"

def names : Table LogLevel String :=
  [critical, error, warning, info, debug].map fun l => (l, l.name)

def ofName? (name : String) : Option LogLevel := names.inverse.lookup name

end LogLevel

namespace Settings

def readLevel (name : Option String) : Except SettingsError LogLevel :=
  let name := Text.upper (name.getD "WARNING")
  match LogLevel.ofName? name with
  | some level => .ok level
  | none => .error (.unknownLogLevel name)

def entries (document : Value) : Except SettingsError (List (String × Value)) :=
  match document with
  | .obj fields => .ok fields
  | v => if v.isEmpty then .ok [] else .error .notMapping

def readFormat (path : String) : Option Value → Except SettingsError Format
  | none => .ok .json
  | some (.str name) =>
    match Format.ofName? name with
    | some format => .ok format
    | none => .error (.unknownFormat path (.str name))
  | some v => .error (.unknownFormat path v)

def texts? : List Value → Option (List String)
  | [] => some []
  | .str s :: rest => (texts? rest).map (s :: ·)
  | _ :: _ => none

/-- The required extensions: one name or a list of names. Null means the standard ones. -/
def readExtensions (path : String) : Value → Except SettingsError (List String)
  | .null => .ok defaultExtensions
  | .str name => .ok [name]
  | .arr items =>
    match texts? items with
    | some names => .ok names
    | none => .error (.badExtensions path (.arr items))
  | v => .error (.badExtensions path v)

def ofDocument (path : String) (level : LogLevel) (document : Value) :
    Except SettingsError Settings := do
  let fields ← entries document
  let format ← readFormat path (fields.lookup "output")
  let extensions ← readExtensions path ((fields.lookup "required_extensions").getD .null)
  let trash := (fields.lookup "trash_folder").getD (.str defaultTrash)
  return ⟨⟨extensions, trash⟩, format, level⟩

def read (path : String) (levelName : Option String) (document : Value) :
    Except SettingsError Settings := do
  let level ← readLevel levelName
  ofDocument path level document

/-- The settings of a configuration file, whose text, if there is any, `read?` reads as a document.
The log level is looked at before. -/
def load (read? : String → Option Value) (path : String) (levelName text : Option String) :
    Except SettingsError Settings := do
  let level ← readLevel levelName
  let document ← match text with
    | none => pure .null
    | some text => match read? text with
      | some document => pure document
      | none => throw .unreadable
  ofDocument path level document

end Settings

end MailFilter
