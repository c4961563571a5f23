import MailFilter.Text.CharSet

/-!
Blank characters and the words between them.
-/

namespace MailFilter.Text

def blanks : CharSet where
  ranges := [
    (0x9, 0xD), (0x1C, 0x20), (0x85, 0x85), (0xA0, 0xA0), (0x1680, 0x1680),
    (0x2000, 0x200A), (0x2028, 0x2029), (0x202F, 0x202F), (0x205F, 0x205F), (0x3000, 0x3000)]

def isBlank (c : Char) : Bool := blanks.contains c

/-- The maximal runs of characters that are not blank, in order. `word` is the run under way. -/
def wordsFrom : List Char → List Char → List (List Char)
  | word, [] => if word.isEmpty then [] else [word.reverse]
  | word, c :: rest =>
    if isBlank c then
      if word.isEmpty then wordsFrom [] rest else word.reverse :: wordsFrom [] rest
    else wordsFrom (c :: word) rest

/-- The words of a text. Blanks at either end and runs of blanks leave no empty word. -/
def splitBlanks (s : String) : List String :=
  (wordsFrom [] s.toList).map String.ofList

def trimBlanks (s : List Char) : List Char :=
  ((s.dropWhile isBlank).reverse.dropWhile isBlank).reverse

end MailFilter.Text
