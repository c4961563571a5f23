import MailFilter.Failure
import MailFilter.Filter.Basic

/-!
The effects of a list of actions. Folders add up; of several marks or replies the last one stays.
-/

namespace MailFilter

open Script (Action)

def Effects.add (trash : Value) (e : Effects) : Action → Except Failure Effects
  | .keep => .ok e
  | .discard => .ok { e with folders := e.folders ++ [trash] }
  | .fileInto folder => .ok { e with folders := e.folders ++ [folder] }
  | .addFlag flags =>
    .ok { e with mark := ⟨Value.listHas "\\Seen" flags, Value.listHas "\\Flagged" flags⟩ }
  | .vacation _ message =>
    .ok { e with reply := if message = .null then Option.none else some message }
  | .other tag => .error (.unsupported (.action tag))

def Effects.ofActions (actions : List Action) (trash : Value) : Except Failure Effects :=
  actions.foldlM (Effects.add trash) Effects.none

end MailFilter
