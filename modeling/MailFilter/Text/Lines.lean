/-!
Lines of a text: one form for the three line ends, and the lines themselves.
-/

namespace MailFilter.Text

def uniformLineEnds : List Char → List Char
  | '\r' :: '\n' :: rest => '\n' :: uniformLineEnds rest
  | '\r' :: rest => '\n' :: uniformLineEnds rest
  | c :: rest => c :: uniformLineEnds rest
  | [] => []

/-- The stretches between line feeds. A text with `n` line feeds has `n + 1` of them. -/
def splitLines : List Char → List (List Char)
  | [] => [[]]
  | c :: rest =>
    if c = '\n' then [] :: splitLines rest
    else match splitLines rest with
      | line :: lines => (c :: line) :: lines
      | [] => [[c]]

end MailFilter.Text
