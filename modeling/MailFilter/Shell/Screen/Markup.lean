import MailFilter.Shell.Screen.Style

/-!
Markup: text with tags in square brackets that style what follows. A tag begins with a small letter,
`#`, `/` or `@`; other brackets are text, and so is a tag behind a backslash. Tags leave no trace in
the text, but a closing tag must close one that is open.
-/

namespace MailFilter.Screen

def beginsTag (c : Char) : Bool := ('a' ≤ c && c ≤ 'z') || c = '#' || c = '/' || c = '@'

def isBracket (c : Char) : Bool := c = '[' || c = ']'

/-- The inside of a tag and the text behind it, for the text behind an opening bracket. -/
def tag? (cs : List Char) : Option (List Char × List Char) :=
  match cs with
  | [] => none
  | c :: rest =>
    if beginsTag c then
      match rest.dropWhile (!isBracket ·) with
      | ']' :: behind => some (c :: rest.takeWhile (!isBracket ·), behind)
      | _ => none
    else none

inductive Piece where
  | text (s : List Char)
  | tag (s : List Char)
  deriving DecidableEq, Repr

def textPiece (s : List Char) : List Piece := if s.isEmpty then [] else [.text s]

/-- The parts of markup. `before` is the text since the last tag, in reverse. Two backslashes in
front of a tag stand for one, and an odd one makes the tag text. -/
def piecesFrom : Nat → List Char → List Char → List Piece
  | 0, before, _ => textPiece before.reverse
  | fuel + 1, before, cs =>
    let slashes := cs.takeWhile (· = '\\')
    match cs.dropWhile (· = '\\') with
    | [] => textPiece (before.reverse ++ slashes)
    | c :: rest =>
      match if c = '[' then tag? rest else none with
      | some (inside, behind) =>
        textPiece before.reverse ++
          textPiece (List.replicate (slashes.length / 2) '\\') ++
          (if slashes.length % 2 = 1 then .text ('[' :: inside ++ [']']) else .tag inside) ::
          piecesFrom fuel [] behind
      | none => piecesFrom fuel (c :: slashes.reverse ++ before) rest

def plainText : List Char → List Char
  | '\\' :: '[' :: rest => '[' :: plainText rest
  | c :: rest => c :: plainText rest
  | [] => []

inductive MarkupError where
  | nothingToClose
  deriving DecidableEq, Repr

def closeTag (name : String) (opened : List String) : Except MarkupError (List String) :=
  match if name = "" then opened.head? else some (normalStyle name) with
  | some style => if opened.contains style then .ok (opened.erase style) else .error .nothingToClose
  | none => .error .nothingToClose

def piecesText (opened : List String) : List Piece → Except MarkupError (List Char)
  | [] => .ok []
  | .text s :: rest => do return plainText s ++ (← piecesText opened rest)
  | .tag inside :: rest => do
    match inside.takeWhile (· ≠ '=') with
    | '/' :: name =>
      let opened ← closeTag (String.ofList (Text.trimBlanks name)) opened
      piecesText opened rest
    | name => piecesText (normalStyle (String.ofList name) :: opened) rest

/-- Whether a control code is kept from the screen: bell, backspace, vertical tab, form feed and
carriage return are. -/
def isSilent (c : Char) : Bool :=
  c = '\x07' || c = '\x08' || c = '\x0b' || c = '\x0c' || c = '\r'

def markupText (markup : List Char) : Except MarkupError (List Char) := do
  let text ← if markup.contains '[' then piecesText [] (piecesFrom markup.length [] markup)
    else pure markup
  return text.filter (!isSilent ·)

def escapeTags : Nat → List Char → List Char
  | 0, cs => cs
  | fuel + 1, cs =>
    let slashes := cs.takeWhile (· = '\\')
    match cs.dropWhile (· = '\\') with
    | [] => slashes
    | c :: rest =>
      match if c = '[' then tag? rest else none with
      | some (inside, behind) =>
        slashes ++ slashes ++ '\\' :: '[' :: inside ++ ']' :: escapeTags fuel behind
      | none => slashes ++ c :: escapeTags fuel rest

/-- Markup that shows a text. A single backslash at its end is doubled, lest it make text of a tag
behind it. -/
def escapeMarkup (s : List Char) : List Char :=
  let escaped := escapeTags s.length s
  match escaped.reverse with
  | ['\\'] => escaped ++ ['\\']
  | '\\' :: c :: _ => if c = '\\' then escaped else escaped ++ ['\\']
  | _ => escaped

end MailFilter.Screen
