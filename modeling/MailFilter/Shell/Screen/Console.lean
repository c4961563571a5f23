import MailFilter.Command.Printer
import MailFilter.Shell.Screen.Box
import MailFilter.Shell.Screen.Markup

/-!
The console that the program runs with. It reads tags, but no codes of emoji, and it is as wide as
it has to be. What the commands come to holds for other consoles as well.
-/

namespace MailFilter.Screen

open Command (Printer Escape)

def joinLines (lines : List (List Char)) : String :=
  String.join (lines.map fun line => String.ofList line ++ "\n")

def shownText (markup : String) : Except Escape (List Char) :=
  (markupText markup.toList).mapError fun _ => .badMarkup

def console : Printer where
  escape s := String.ofList (escapeMarkup s.toList)
  line markup := do return joinLines (screenLines (← shownText markup))
  panel title markup := do return joinLines (panel title.toList (← shownText markup))
  grid title head rows := do
    let cells ← rows.mapM fun row => row.mapM shownText
    return joinLines (Grid.lines ⟨title.toList, head.map String.toList, cells⟩)

end MailFilter.Screen
