/-!
What commands print with. Lines, panels and grids are given as markup: text in which tags in square
brackets style what they stand around. How a console reads markup and what it shows is not its
business here; a command works with any console.
-/

namespace MailFilter.Command

/-- Failures that no command reports in its own words. -/
inductive Escape where
  | wrongKind
  | noMember
  | unreadableSettings
  | badMarkup
  deriving DecidableEq, Repr

/-- A console. It makes markup of texts, and shows lines, panels with a title, and grids with a
title, a head, and rows, or fails to. -/
structure Printer where
  escape : String → String
  line : String → Except Escape String
  panel : String → String → Except Escape String
  grid : String → List String → List (List String) → Except Escape String

def styled (style words : String) : String := "[" ++ style ++ "]" ++ words ++ "[/]"

end MailFilter.Command
