import MailFilter.Annotations.Block
import MailFilter.Failure

/-!
The statements of a script that a filter is read from: the last complete rule, and the last comment
that holds annotations. The script must declare every required extension somewhere.
-/

namespace MailFilter

open Script (MainRule Statement Part)

structure Selection where
  rule : MainRule
  comment : Option String
  deriving DecidableEq, Inhabited

/-- What the statements so far tell: the extensions not yet declared, the last complete rule, the
last comment with annotations, and what the rules since then lack. -/
structure Survey where
  undeclared : List String
  rule : Option MainRule
  comment : Option String
  lacking : Part
  deriving DecidableEq, Inhabited

namespace Survey

def start (required : List String) : Survey := ⟨required, none, none, .statement⟩

def add (s : Survey) : Statement → Except Failure Survey
  | .require extensions =>
    .ok { s with undeclared := s.undeclared.filter fun name => !Value.listHas name extensions }
  | .rule r =>
    match r.complete? with
    | .ok main => .ok { s with rule := some main, lacking := .statement }
    | .error part => .ok { s with lacking := part }
  | .comment (.str text) =>
    .ok (if Annotations.isBlock text then { s with comment := some text } else s)
  | .comment _ => .error .wrongKind
  | .other _ => .ok s

def ofStatements (statements : List Statement) (required : List String) : Except Failure Survey :=
  statements.foldlM add (start required)

def select (s : Survey) : Except Failure Selection :=
  match s.rule with
  | none => .error (.invalidInput (.noMainRule s.lacking))
  | some rule =>
    if s.undeclared.isEmpty then .ok ⟨rule, s.comment⟩
    else .error (.invalidInput .requirements)

end Survey

end MailFilter
