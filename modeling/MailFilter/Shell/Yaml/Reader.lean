import MailFilter.Text.Lines
import MailFilter.Value.Display
import MailFilter.Shell.Yaml.Scalar

/-!
Reading a configuration document that is written in a part of YAML: mappings and lists by
indentation, mappings and lists in brackets, and scalars. A text that is not of this form has no
value. The program runs with this reader; what settings a document gives does not depend on it.
-/

namespace MailFilter.Yaml

def entryName? : Value → Option String
  | v => if v.isKey then some v.display else none

mutual

/-- A scalar or a collection in brackets. The fuel bounds the number of nested calls. -/
def flowNode? : Nat → Cursor → Option (Value × Cursor)
  | 0, _ => none
  | fuel + 1, c =>
    match c.rest with
    | '[' :: _ => (flowItems? fuel c.next.skip).map fun (items, c) => (.arr items, c)
    | '\x7b' :: _ => (flowEntries? fuel c.next.skip).map fun (es, c) => (.ofEntries es, c)
    | _ => scalar? true 0 c

def flowValue? : Nat → Cursor → Option (Value × Cursor)
  | 0, _ => none
  | fuel + 1, c =>
    match c.rest with
    | ',' :: _ => some (.null, c)
    | ']' :: _ => some (.null, c)
    | '\x7d' :: _ => some (.null, c)
    | _ => flowNode? fuel c

/-- The items of a list up to its closing bracket. An item with a colon behind it is a mapping of
one entry. -/
def flowItems? : Nat → Cursor → Option (List Value × Cursor)
  | 0, _ => none
  | fuel + 1, c =>
    match c.rest with
    | ']' :: _ => some ([], c.next)
    | _ => do
      let (item, behind) ← flowNode? fuel c
      let (item, behind) ← do
        let colon := behind.skip
        if colon.rest.head? = some ':' then
          if colon.line ≠ c.line then none
          let key ← entryName? item
          let (v, behind) ← flowValue? fuel colon.next.skip
          pure (Value.obj [(key, v)], behind)
        else pure (item, behind)
      let behind := behind.skip
      match behind.rest with
      | ']' :: _ => return ([item], behind.next)
      | ',' :: _ =>
        let (items, behind) ← flowItems? fuel behind.next.skip
        return (item :: items, behind)
      | _ => none

/-- The entries of a mapping up to its closing brace. A key without a colon has the value null. -/
def flowEntries? : Nat → Cursor → Option (List (String × Value) × Cursor)
  | 0, _ => none
  | fuel + 1, c =>
    match c.rest with
    | '\x7d' :: _ => some ([], c.next)
    | _ => do
      let (key, behind) ← flowNode? fuel c
      let key ← entryName? key
      let colon := behind.skip
      let (v, behind) ←
        if colon.rest.head? = some ':' then
          if colon.line ≠ c.line then none else flowValue? fuel colon.next.skip
        else some (Value.null, behind)
      let behind := behind.skip
      match behind.rest with
      | '\x7d' :: _ => return ([(key, v)], behind.next)
      | ',' :: _ =>
        let (entries, behind) ← flowEntries? fuel behind.next.skip
        return ((key, v) :: entries, behind)
      | _ => none

end

def atom? (indent : Int) (c : Cursor) : Option (Value × Cursor) :=
  match c.rest with
  | '[' :: _ => flowNode? (2 * c.rest.length + 2) c
  | '\x7b' :: _ => flowNode? (2 * c.rest.length + 2) c
  | _ => scalar? false indent c

/-- The key of an entry and the place of the colon behind it, which is in the same line. -/
def key? (indent : Int) (c : Cursor) : Option (Value × Cursor) := do
  let (key, behind) ← atom? indent c
  let colon := behind.skip
  if colon.line = c.line ∧ colon.atIndicator ':' then return (key, colon) else none

mutual

/-- A node inside a collection at `indent`. Where `inline` holds, it stands behind a key in the same
line, and no collection may begin by indentation. -/
def node? : Nat → Int → Bool → Cursor → Option (Value × Cursor)
  | 0, _, _, _ => none
  | fuel + 1, indent, inline, c =>
    if c.atIndicator '-' then
      if inline then none
      else (items? fuel c.column c).map fun (items, c) => (.arr items, c)
    else
      match key? (indent + 1) c with
      | some _ =>
        if inline then none
        else (entries? fuel c.column c).map fun (entries, c) => (.ofEntries entries, c)
      | none => do
        let (v, behind) ← atom? (indent + 1) c
        let after := behind.skip
        if after.line = behind.line ∧ !after.atEnd then none else return (v, behind)

def entries? : Nat → Nat → Cursor → Option (List (String × Value) × Cursor)
  | 0, _, _ => none
  | fuel + 1, column, c => do
    let (key, colon) ← key? (column + 1) c
    let key ← entryName? key
    let start := colon.next.skip
    let (v, behind) ←
      if start.atEnd then some (Value.null, start)
      else if start.line = colon.line then node? fuel column true start
      else if column < start.column then node? fuel column false start
      else if start.column = column ∧ start.atIndicator '-' then
        (items? fuel column start).map fun (items, c) => (.arr items, c)
      else some (Value.null, start)
    let after := behind.skip
    if after.atEnd ∨ after.column < column ∨ after.atMarker then return ([(key, v)], behind)
    else if after.column = column then
      let (entries, behind) ← entries? fuel column after
      return ((key, v) :: entries, behind)
    else none

def items? : Nat → Nat → Cursor → Option (List Value × Cursor)
  | 0, _, _ => none
  | fuel + 1, column, c => do
    let start := c.next.skip
    let (item, behind) ←
      if start.atEnd then some (Value.null, start)
      else if start.line = c.line ∨ column < start.column then node? fuel column false start
      else some (Value.null, start)
    let after := behind.skip
    if after.atEnd ∨ after.column < column then return ([item], behind)
    else if column < after.column then none
    else if after.atIndicator '-' then
      let (items, behind) ← items? fuel column after
      return (item :: items, behind)
    else return ([item], behind)

end

def onlyEnds : Nat → Cursor → Bool
  | 0, _ => false
  | fuel + 1, c =>
    let c := c.skip
    c.atEnd || (c.atMark '.' && onlyEnds fuel (c.advance 3))

def isAllowed (c : Char) : Bool :=
  c = '\t' || c = '\n' || c = '\r' || c = '\u0085' ||
    (' ' ≤ c && c ≤ '~') || ('\u00a0' ≤ c && c ≠ '\ufffe' && c ≠ '\uffff')

def document? (c : Cursor) : Option Value := do
  let fuel := 2 * c.rest.length + 2
  let start := c.skip
  if start.atEnd then return .null
  let marked := start.atMark '-'
  let content := if marked then (start.advance 3).skip else start
  if marked ∧ content.atEnd then return .null
  if content.atMarker then
    if marked ∧ onlyEnds fuel content then return .null else none
  let (v, behind) ← node? fuel (-1) (marked && content.line = start.line) content
  if onlyEnds fuel behind then return v else none

def read? (text : String) : Option Value :=
  let lines := (Text.uniformLineEnds text.toList).map fun c => if c = '\u0085' then '\n' else c
  let body := match lines with
    | '\ufeff' :: rest => rest
    | cs => cs
  if lines.all isAllowed then document? ⟨body, 0, 0⟩ else none

end MailFilter.Yaml
