import MailFilter.Annotations.Block
import MailFilter.Annotations.Reading

/-!
The annotations that a script declares, whether or not it is a filter otherwise.
-/

namespace MailFilter.Annotations

open Script (Statement)

def blocks : List Statement → Except Failure (List String)
  | [] => .ok []
  | .comment (.str text) :: rest => do
    let more ← blocks rest
    return if isBlock text then text :: more else more
  | .comment _ :: _ => .error .wrongKind
  | .require _ :: rest => blocks rest
  | .rule _ :: rest => blocks rest
  | .other _ :: rest => blocks rest

def declared (statements : List Statement) : Except Failure (Option Annotations) := do
  match (← blocks statements).getLast? with
  | some text => return some (← read text)
  | none => return none

end MailFilter.Annotations
