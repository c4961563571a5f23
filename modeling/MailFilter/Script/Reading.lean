import MailFilter.Failure
import MailFilter.Script.Source
import MailFilter.Text.Blank

/-!
Reading a script from a tree. Every object becomes the statement its `Type` names; what was read
before passes unchanged. Where a list of names is due, a bare text is accepted too: it
is one name, or, for headers and flags, the words it consists of.
-/

namespace MailFilter.Script

open Source (entry)

/-- What a tree consists of: the items of an array, the letters of a text, or the names of an
object. -/
def Source.parts : Source → Except Failure (List Source)
  | .arr items => .ok items
  | .str s => .ok (s.toList.map fun c => .str (String.ofList [c]))
  | .obj fields => .ok (fields.map fun (name, _) => .str name)
  | _ => .error .wrongKind

def Source.parts? : Source → Except Failure (Option (List Source))
  | .null => .ok none
  | s => s.parts.map some

def Source.words : Source → Except Failure (List Value)
  | .null => .ok []
  | .str s => .ok ((Text.splitBlanks s).map .str)
  | s => s.parts.map (·.map Source.toValue)

def Source.names? : Source → Except Failure (Option (List Value))
  | .null => .ok none
  | .str s => .ok (some [.str s])
  | s => s.parts.map fun parts => some (parts.map Source.toValue)

def tagOf (fields : List (String × Source)) : Value := (entry "Type" fields).toValue

def matchTagOf (fields : List (String × Source)) : Except Failure Value :=
  match entry "Match" fields with
  | .obj matched => .ok (tagOf matched)
  | s => if s.toValue.isEmpty then .ok .null else .error .noMember

def plainTest (fields : List (String × Source)) : Except Failure Test := do
  let headers ← (entry "Headers" fields).words
  let keys ← (entry "Keys" fields).names?
  let matchTag ← matchTagOf fields
  match tagOf fields with
  | .str "Exists" => return .present headers
  | .str "Header" => return .header headers keys matchTag
  | .str "Address" => return .address headers keys matchTag
  | tag => return .other tag.display headers keys matchTag

mutual

def Test.ofSource : Source → Except Failure Test
  | .test t => .ok t
  | .obj fields =>
    match tagOf fields with
    | .str "Not" => (Test.ofInner fields).map .negated
    | _ => plainTest fields
  | s => .error (.unsupported (.notObject s.toValue))

def Test.ofInner : List (String × Source) → Except Failure Test
  | [] => .error (.unsupported (.notObject .null))
  | (name, s) :: rest => if name = "Test" then Test.ofSource s else Test.ofInner rest

end

/-- Whether an object is a group of tests: by its tag, or because it has an entry for tests. -/
def isGroup (fields : List (String × Source)) : Bool :=
  tagOf fields = .str "allof" || tagOf fields = .str "anyof" || (fields.lookup "Tests").isSome

def Guard.ofSource : Source → Except Failure Guard
  | .guard g => .ok g
  | .test t => .ok (.single t)
  | .obj fields =>
    if isGroup fields then do
      match ← (entry "Tests" fields).parts? with
      | some parts => return .group (tagOf fields).display (some (← parts.mapM Test.ofSource))
      | none => return .group (tagOf fields).display none
    else (Test.ofSource (.obj fields)).map .single
  | s => .error (.unsupported (.notObject s.toValue))

def textOf (name : String) (fields : List (String × Source)) : Value :=
  match fields.lookup name with
  | some s => s.toValue
  | none => .str ""

def Action.ofSource : Source → Except Failure Action
  | .action a => .ok a
  | .obj fields =>
    match tagOf fields with
    | .str "Keep" => .ok .keep
    | .str "Discard" => .ok .discard
    | .str "FileInto" => .ok (.fileInto (textOf "Name" fields))
    | .str "AddFlag" => (entry "Flags" fields).words.map .addFlag
    | .str "Vacation" => .ok (.vacation false (textOf "Message" fields))
    | .str "Vacation\\Vacation" => .ok (.vacation true (textOf "Message" fields))
    | tag => .ok (.other tag.display)
  | s => .error (.unsupported (.notObject s.toValue))

def actionsOf (s : Source) : Except Failure (Option (List Action)) := do
  match ← s.parts? with
  | some parts => return some (← parts.mapM Action.ofSource)
  | none => return none

def Rule.ofFields (fields : List (String × Source)) : Except Failure Rule := do
  let guard ← match entry "If" fields with
    | .null => pure none
    | s => (Guard.ofSource s).map some
  let consequent ← actionsOf (entry "Then" fields)
  let alternative ← actionsOf (entry "Else" fields)
  return ⟨guard, consequent, alternative⟩

def Statement.ofSource : Source → Except Failure Statement
  | .statement s => .ok s
  | .obj fields =>
    match tagOf fields with
    | .str "Require" => (entry "List" fields).names?.map fun names => .require (names.getD [])
    | .str "Comment" =>
      let text := (entry "Text" fields).toValue
      .ok (.comment (if text.isEmpty then .str "" else text))
    | .str "If" => (Rule.ofFields fields).map .rule
    | tag => .ok (.other tag.display)
  | s => .error (.unsupported (.notObject s.toValue))

def statements : Source → Except Failure (List Statement)
  | .arr items => items.mapM Statement.ofSource
  | _ => .error (.unsupported .notList)

end MailFilter.Script
