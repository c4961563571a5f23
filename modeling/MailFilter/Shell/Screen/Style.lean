import MailFilter.Text.Blank
import MailFilter.Text.LetterCase

/-!
Styles of text on a screen, as markup names them: attributes, colors, and a link. Two names that say
the same have one normal form, by which a closing tag finds its opening one.
-/

namespace MailFilter.Screen

def attributeNames : List (String × List String) := [
  ("bold", ["b"]), ("dim", ["d"]), ("italic", ["i"]), ("underline", ["u"]), ("blink", []),
  ("blink2", []), ("reverse", ["r"]), ("conceal", ["c"]), ("strike", ["s"]),
  ("underline2", ["uu"]), ("frame", []), ("encircle", []), ("overline", ["o"])]

def colorNames : List String := [
  "black", "red", "green", "yellow", "blue", "magenta", "cyan", "white", "bright_black",
  "bright_red", "bright_green", "bright_yellow", "bright_blue", "bright_magenta", "bright_cyan",
  "bright_white", "grey0", "gray0", "navy_blue", "dark_blue", "blue3", "blue1", "dark_green",
  "deep_sky_blue4", "dodger_blue3", "dodger_blue2", "green4", "spring_green4", "turquoise4",
  "deep_sky_blue3", "dodger_blue1", "green3", "spring_green3", "dark_cyan", "light_sea_green",
  "deep_sky_blue2", "deep_sky_blue1", "spring_green2", "cyan3", "dark_turquoise", "turquoise2",
  "green1", "spring_green1", "medium_spring_green", "cyan2", "cyan1", "dark_red", "deep_pink4",
  "purple4", "purple3", "blue_violet", "orange4", "grey37", "gray37", "medium_purple4",
  "slate_blue3", "royal_blue1", "chartreuse4", "dark_sea_green4", "pale_turquoise4",
  "steel_blue", "steel_blue3", "cornflower_blue", "chartreuse3", "cadet_blue", "sky_blue3",
  "steel_blue1", "pale_green3", "sea_green3", "aquamarine3", "medium_turquoise", "chartreuse2",
  "sea_green2", "sea_green1", "aquamarine1", "dark_slate_gray2", "dark_magenta", "dark_violet",
  "purple", "light_pink4", "plum4", "medium_purple3", "slate_blue1", "yellow4", "wheat4",
  "grey53", "gray53", "light_slate_grey", "light_slate_gray", "medium_purple",
  "light_slate_blue", "dark_olive_green3", "dark_sea_green", "light_sky_blue3", "sky_blue2",
  "dark_sea_green3", "dark_slate_gray3", "sky_blue1", "chartreuse1", "light_green",
  "pale_green1", "dark_slate_gray1", "red3", "medium_violet_red", "magenta3", "dark_orange3",
  "indian_red", "hot_pink3", "medium_orchid3", "medium_orchid", "medium_purple2",
  "dark_goldenrod", "light_salmon3", "rosy_brown", "grey63", "gray63", "medium_purple1", "gold3",
  "dark_khaki", "navajo_white3", "grey69", "gray69", "light_steel_blue3", "light_steel_blue",
  "yellow3", "dark_sea_green2", "light_cyan3", "light_sky_blue1", "green_yellow",
  "dark_olive_green2", "dark_sea_green1", "pale_turquoise1", "deep_pink3", "magenta2",
  "hot_pink2", "orchid", "medium_orchid1", "orange3", "light_pink3", "pink3", "plum3", "violet",
  "light_goldenrod3", "tan", "misty_rose3", "thistle3", "plum2", "khaki3", "light_goldenrod2",
  "light_yellow3", "grey84", "gray84", "light_steel_blue1", "yellow2", "dark_olive_green1",
  "honeydew2", "light_cyan1", "red1", "deep_pink2", "deep_pink1", "magenta1", "orange_red1",
  "indian_red1", "hot_pink", "dark_orange", "salmon1", "light_coral", "pale_violet_red1",
  "orchid2", "orchid1", "orange1", "sandy_brown", "light_salmon1", "light_pink1", "pink1",
  "plum1", "gold1", "navajo_white1", "misty_rose1", "thistle1", "yellow1", "light_goldenrod1",
  "khaki1", "wheat1", "cornsilk1", "grey100", "gray100", "grey3", "gray3", "grey7", "gray7",
  "grey11", "gray11", "grey15", "gray15", "grey19", "gray19", "grey23", "gray23", "grey27",
  "gray27", "grey30", "gray30", "grey35", "gray35", "grey39", "gray39", "grey42", "gray42",
  "grey46", "gray46", "grey50", "gray50", "grey54", "gray54", "grey58", "gray58", "grey62",
  "gray62", "grey66", "gray66", "grey70", "gray70", "grey74", "gray74", "grey78", "gray78",
  "grey82", "gray82", "grey85", "gray85", "grey89", "gray89", "grey93", "gray93"]

structure Style where
  attributes : List (String × Bool)
  color : Option String
  background : Option String
  link : Option String
  deriving DecidableEq, Repr

def attributeOf? (name : String) : Option String :=
  (attributeNames.find? fun (full, short) => full = name || short.contains name).map (·.1)

def inParentheses? (beginning : String) (s : List Char) : Option (List Char) :=
  match (beginning.toList ++ ['(']).isPrefixOf? s with
  | some rest => if rest.getLast? = some ')' then some rest.dropLast else none
  | none => none

def isByte (digits : List Char) : Bool :=
  !digits.isEmpty && digits.all Char.isDigit &&
    digits.foldl (fun n c => 10 * n + (c.toNat - '0'.toNat)) 0 ≤ 255

def isHexDigit (c : Char) : Bool := c.isDigit || ('a' ≤ c && c ≤ 'f')

/-- Whether a word in lower case is a color: a name, a number, or a mixture of red, green and
blue. -/
def isColor (word : String) : Bool :=
  word = "default" || colorNames.contains word ||
    (match word.toList with
    | '#' :: digits => digits.length = 6 && digits.all isHexDigit
    | s =>
      (inParentheses? "color" s).any (fun digits => digits.length ≤ 3 && isByte digits) ||
        (inParentheses? "rgb" s).any fun parts =>
          match splitCommas parts with
          | [r, g, b] => isByte r && isByte g && isByte b
          | _ => false)
where
  /-- The stretches between commas. -/
  splitCommas : List Char → List (List Char)
    | [] => [[]]
    | c :: rest =>
      if c = ',' then [] :: splitCommas rest
      else match splitCommas rest with
        | part :: parts => (c :: part) :: parts
        | [] => [[c]]

def Style.say (s : Style) (name : String) (positive : Bool) : Style :=
  { s with attributes := (name, positive) :: s.attributes }

def Style.addWords? (s : Style) : List String → Option Style
  | [] => some s
  | word :: rest =>
    let name := Text.lower word
    if name = "on" then
      match rest with
      | [] => none
      | color :: rest =>
        let color := Text.lower color
        if isColor color then { s with background := some color }.addWords? rest else none
    else if name = "not" then
      match rest with
      | [] => none
      | word :: rest =>
        match attributeOf? word with
        | some said => (s.say said false).addWords? rest
        | none => none
    else if name = "link" then
      match rest with
      | [] => none
      | link :: rest => { s with link := some link }.addWords? rest
    else
      match attributeOf? name with
      | some said => (s.say said true).addWords? rest
      | none => if isColor name then { s with color := some name }.addWords? rest else none

def Style.words (s : Style) : List String :=
  (attributeNames.flatMap fun (name, _) =>
    match s.attributes.lookup name with
    | some true => [name]
    | some false => ["not", name]
    | none => []) ++
  s.color.toList ++
  (match s.background with | some color => ["on", color] | none => []) ++
  (match s.link with | some link => ["link", link] | none => [])

/-- The normal form of a style. What describes no style is only put into lower case. -/
def normalStyle (description : String) : String :=
  match Style.addWords? ⟨[], none, none, none⟩ (Text.splitBlanks description) with
  | some s => if s.words.isEmpty then "none" else String.intercalate " " s.words
  | none => Text.lower (String.ofList (Text.trimBlanks description.toList))

end MailFilter.Screen
