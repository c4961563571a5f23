import MailFilter.Value.Basic
import MailFilter.Number.Shortest
import MailFilter.Text.Quoted

/-!
Writing a value as JSON text over several lines, two spaces to a level. Every character from the
space on stands for itself, quotes and backslashes apart. Foreign values may have no JSON form.
-/

namespace MailFilter.Json

def escapeChar (c : Char) : List Char :=
  match c with
  | '"' => ['\\', '"']
  | '\\' => ['\\', '\\']
  | '\n' => ['\\', 'n']
  | '\r' => ['\\', 'r']
  | '\t' => ['\\', 't']
  | '\x08' => ['\\', 'b']
  | '\x0c' => ['\\', 'f']
  | c => if c.toNat < 0x20 then '\\' :: 'u' :: Text.hexDigits 4 c.toNat else [c]

def quote (s : String) : String :=
  String.ofList ('"' :: s.toList.flatMap escapeChar ++ ['"'])

def floatText : Number.Binary64 → String
  | .nan => "NaN"
  | .infinite negative => if negative then "-Infinity" else "Infinity"
  | x => x.text

def lineBreak (level : Nat) : String := "\n" ++ String.ofList (List.replicate (2 * level) ' ')

mutual

def render (level : Nat) : Value → String
  | .null => "null"
  | .bool b => if b then "true" else "false"
  | .int n => toString n
  | .float x => floatText x
  | .str s => quote s
  | .arr [] => "[]"
  | .arr items =>
    "[" ++ lineBreak (level + 1) ++
      String.intercalate ("," ++ lineBreak (level + 1)) (renderItems (level + 1) items) ++
      lineBreak level ++ "]"
  | .obj [] => "\x7b\x7d"
  | .obj fields =>
    "\x7b" ++ lineBreak (level + 1) ++
      String.intercalate ("," ++ lineBreak (level + 1)) (renderFields (level + 1) fields) ++
      lineBreak level ++ "\x7d"
  | .foreign x => String.intercalate (lineBreak level) (x.json.getD [])

def renderItems (level : Nat) : List Value → List String
  | [] => []
  | v :: rest => render level v :: renderItems level rest

def renderFields (level : Nat) : List (String × Value) → List String
  | [] => []
  | (k, v) :: rest => (quote k ++ ": " ++ render level v) :: renderFields level rest

end

mutual

def hasForm : Value → Bool
  | .foreign x => x.json.isSome
  | .arr items => itemsHaveForm items
  | .obj fields => fieldsHaveForm fields
  | _ => true

def itemsHaveForm : List Value → Bool
  | [] => true
  | v :: rest => hasForm v && itemsHaveForm rest

def fieldsHaveForm : List (String × Value) → Bool
  | [] => true
  | (_, v) :: rest => hasForm v && fieldsHaveForm rest

end

def write? (v : Value) : Option String := if hasForm v then some (render 0 v) else none

end MailFilter.Json
