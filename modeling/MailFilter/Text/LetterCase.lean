import MailFilter.Text.CaseTables

/-!
Lower and upper case of a text, in full: one character may become several, and a capital sigma at
the end of a word has a form of its own.
-/

namespace MailFilter.Text

/-- The image of a character under an expansion if there is one, else under the runs. -/
def mapCase (expansions : List (Nat × List Nat)) (runs : List CaseRun) (c : Char) : List Char :=
  match expansions.lookup c.toNat with
  | some codes => codes.map Char.ofNat
  | none => [Char.ofNat ((runs.findSome? (·.map? c.toNat)).getD c.toNat)]

def meetsCased (cs : List Char) : Bool :=
  match cs.find? (!caseIgnorables.contains ·) with
  | some c => cased.contains c
  | none => false

/-- Lower case of the characters after `before`, which is given in reverse. A capital sigma ends
a word when a cased letter precedes it and none follows. -/
def lowerAfter : List Char → List Char → List Char
  | _, [] => []
  | before, c :: rest =>
    (if c = 'Σ' then
      [if meetsCased before && !meetsCased rest then 'ς' else 'σ']
    else mapCase lowerExpansions lowerRuns c) ++ lowerAfter (c :: before) rest

def lower (s : String) : String := String.ofList (lowerAfter [] s.toList)

def upper (s : String) : String :=
  String.ofList (s.toList.flatMap (mapCase upperExpansions upperRuns))

end MailFilter.Text
