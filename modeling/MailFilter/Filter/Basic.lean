import MailFilter.Filter.Vocabulary
import MailFilter.Value.Basic

/-!
Simple filters: conditions on a message joined by one operator, and what is done with a message
that meets them. A filter has a plain form, an object with labels beside its words.
-/

namespace MailFilter

structure Condition where
  field : Field
  comparator : Comparator
  values : List Value
  deriving DecidableEq, Inhabited

structure Mark where
  read : Bool
  starred : Bool
  deriving DecidableEq, Repr, Inhabited

/-- What is done with a message. Without a reply, or with a null one, no message is sent back. -/
structure Effects where
  folders : List Value
  mark : Mark
  reply : Option Value
  deriving DecidableEq, Inhabited

structure SimpleFilter where
  operator : Operator
  conditions : List Condition
  effects : Effects
  deriving DecidableEq, Inhabited

def Effects.none : Effects := ⟨[], ⟨false, false⟩, Option.none⟩

def Labelled.toValue (l : Labelled) : Value :=
  .obj [("label", .str l.label), ("value", .str l.value)]

def Condition.toValue (c : Condition) : Value :=
  .obj [
    ("Type", (labelled c.field.token).toValue),
    ("Comparator", (labelled c.comparator.token).toValue),
    ("Values", .arr c.values)]

def Effects.toValue (e : Effects) : Value :=
  .obj ([
    ("FileInto", .arr e.folders),
    ("Mark", .obj [("Read", .bool e.mark.read), ("Starred", .bool e.mark.starred)])] ++
    (match e.reply with
    | some message => [("Vacation", message)]
    | Option.none => []))

def SimpleFilter.toValue (f : SimpleFilter) : Value :=
  .obj [
    ("Operator", (labelled f.operator.token).toValue),
    ("Conditions", .arr (f.conditions.map Condition.toValue)),
    ("Actions", f.effects.toValue)]

end MailFilter
