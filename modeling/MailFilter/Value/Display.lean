import MailFilter.Value.Basic
import MailFilter.Number.Shortest
import MailFilter.Text.Quoted

/-!
Values as they appear in messages: texts quoted inside a container and bare outside of one.
-/

namespace MailFilter.Value

mutual

def literal : Value → String
  | null => "None"
  | bool b => if b then "True" else "False"
  | int n => toString n
  | float x => x.text
  | str s => Text.quoted s
  | arr items => "[" ++ String.intercalate ", " (literals items) ++ "]"
  | obj fields => "\x7b" ++ String.intercalate ", " (literalFields fields) ++ "\x7d"
  | foreign x => x.literal

def literals : List Value → List String
  | [] => []
  | v :: rest => literal v :: literals rest

def literalFields : List (String × Value) → List String
  | [] => []
  | (k, v) :: rest => (Text.quoted k ++ ": " ++ literal v) :: literalFields rest

end

def display : Value → String
  | str s => s
  | foreign x => x.display
  | v => literal v

end MailFilter.Value
