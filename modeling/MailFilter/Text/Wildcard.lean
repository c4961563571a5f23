/-!
Stars at the ends of a value. A value that must begin with a word is stored with stars behind it,
one that must end with it with stars in front.
-/

namespace MailFilter.Text

def dropLeadingStars (s : List Char) : List Char := s.dropWhile (· = '*')

def dropClosingStars (s : List Char) : List Char := (s.reverse.dropWhile (· = '*')).reverse

/-- As `dropClosingStars`, but a final line feed stays, and the stars before it go. -/
def dropTrailingStars (s : List Char) : List Char :=
  if s.getLast? = some '\n' then dropClosingStars s.dropLast ++ ['\n'] else dropClosingStars s

end MailFilter.Text
