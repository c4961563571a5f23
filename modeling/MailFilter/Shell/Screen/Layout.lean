import MailFilter.Text.Blank
import MailFilter.Text.Columns
import MailFilter.Text.Lines

/-!
Text in a number of columns: tabs become spaces, lines break between words, and what is too long for
a line is cut with an ellipsis.
-/

namespace MailFilter.Screen

open Text (columns charColumns isBlank)

def tabStop : Nat := 8

def expandTabs (column : Nat) : List Char → List Char
  | [] => []
  | c :: rest =>
    if c = '\t' then
      let width := tabStop - column % tabStop
      List.replicate width ' ' ++ expandTabs (column + width) rest
    else c :: expandTabs (column + charColumns c) rest

def screenLines (s : List Char) : List (List Char) := (Text.splitLines s).map (expandTabs 0)

/-- The words of a line, each with the blanks behind it, and the first with those before it. -/
def wordsWithBlanks : Nat → List Char → List (List Char)
  | 0, _ => []
  | fuel + 1, cs =>
    let margin := cs.takeWhile isBlank
    let behind := cs.dropWhile isBlank
    if behind.isEmpty then []
    else
      let word := behind.takeWhile (!isBlank ·)
      let behind := behind.dropWhile (!isBlank ·)
      (margin ++ word ++ behind.takeWhile isBlank) ::
        wordsWithBlanks fuel (behind.dropWhile isBlank)

/-- The lines that words make up in a width. `line` is the line under way and `used` what it takes.
A word too wide for any line has a line for itself. -/
def breakWords (width : Nat) (line : List Char) (used : Nat) :
    List (List Char) → List (List Char)
  | [] => [line]
  | word :: rest =>
    let bare := columns (word.reverse.dropWhile isBlank)
    if bare + used ≤ width then breakWords width (line ++ word) (used + columns word) rest
    else if width < bare then
      if line.isEmpty then breakWords width word (columns word) rest
      else line :: breakWords width word (columns word) rest
    else if used = 0 ∨ line.isEmpty then breakWords width (line ++ word) used rest
    else line :: breakWords width word (columns word) rest

def dropExcessBlanks (width : Nat) (line : List Char) : List Char :=
  let blanks := (line.reverse.takeWhile isBlank).length
  line.take (line.length - min blanks (line.length - width))

/-- The part of a line that fits into a width; half of a wide character becomes a space. -/
def crop : Nat → List Char → List Char
  | _, [] => []
  | width, c :: rest =>
    if charColumns c ≤ width then c :: crop (width - charColumns c) rest
    else List.replicate width ' '

def fitLine (width : Nat) (line : List Char) : List Char :=
  if width < columns line then crop (width - 1) line ++ ['…'] else Text.padRight width line

def fitText (width : Nat) (s : List Char) : List (List Char) :=
  (screenLines s).flatMap fun line =>
    let words := wordsWithBlanks line.length line
    let lines := if words.isEmpty then [line] else breakWords width [] 0 words
    lines.map fun line => fitLine width (dropExcessBlanks width line)

def isLineEnd (c : Char) : Bool :=
  c = '\n' || c = '\x0b' || c = '\x0c' || c = '\r' || c = '\x1c' || c = '\x1d' || c = '\x1e' ||
    c = '\u0085' || c = '\u2028' || c = '\u2029'

def measure (s : List Char) : Nat :=
  widest 0 s
where
  /-- The widest of the lines, the first of which has `used` columns so far. -/
  widest (used : Nat) : List Char → Nat
    | [] => used
    | c :: rest =>
      if isLineEnd c then max used (widest 0 rest) else widest (used + charColumns c) rest

def center (width : Nat) (line : List Char) : List Char :=
  Text.padRight width (List.replicate ((width - columns line) / 2) ' ' ++ line)

end MailFilter.Screen
