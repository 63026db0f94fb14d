import PlanCode.Entries
import PlanCode.Number.Numeral
import PlanCode.Text.Blank
import PlanCode.Text.Hex
import PlanCode.Text.LowerCase
import PlanCode.Text.Replace

/-!
# Styles

A style is written in words: attributes and negated attributes, a colour, a colour behind the text
after `on`, and a link. Styles of one effect have one text, which marks are compared by; words that
are no style are compared as they stand, in small letters.

* `text_none`: a style that sets nothing is shown as `none`.
-/
namespace PlanCode.CommandLine

/-- Why a marked-up line cannot be shown. -/
inductive MarkupFault where
  /-- A mark closes nothing, or its value is not one. -/
  | badMark
  /-- A part of a colour is no numeral. -/
  | badNumeral
deriving DecidableEq, Repr

/-! ## Colours -/

/-- The colours that have a name. -/
def colorNames : String := "
black red green yellow blue magenta cyan white bright_black bright_red bright_green
bright_yellow bright_blue bright_magenta bright_cyan bright_white grey0 gray0 navy_blue
dark_blue blue3 blue1 dark_green deep_sky_blue4 dodger_blue3 dodger_blue2 green4 spring_green4
turquoise4 deep_sky_blue3 dodger_blue1 green3 spring_green3 dark_cyan light_sea_green
deep_sky_blue2 deep_sky_blue1 spring_green2 cyan3 dark_turquoise turquoise2 green1 spring_green1
medium_spring_green cyan2 cyan1 dark_red deep_pink4 purple4 purple3 blue_violet orange4 grey37
gray37 medium_purple4 slate_blue3 royal_blue1 chartreuse4 dark_sea_green4 pale_turquoise4
steel_blue steel_blue3 cornflower_blue chartreuse3 cadet_blue sky_blue3 steel_blue1 pale_green3
sea_green3 aquamarine3 medium_turquoise chartreuse2 sea_green2 sea_green1 aquamarine1
dark_slate_gray2 dark_magenta dark_violet purple light_pink4 plum4 medium_purple3 slate_blue1
yellow4 wheat4 grey53 gray53 light_slate_grey light_slate_gray medium_purple light_slate_blue
dark_olive_green3 dark_sea_green light_sky_blue3 sky_blue2 dark_sea_green3 dark_slate_gray3
sky_blue1 chartreuse1 light_green pale_green1 dark_slate_gray1 red3 medium_violet_red magenta3
dark_orange3 indian_red hot_pink3 medium_orchid3 medium_orchid medium_purple2 dark_goldenrod
light_salmon3 rosy_brown grey63 gray63 medium_purple1 gold3 dark_khaki navajo_white3 grey69
gray69 light_steel_blue3 light_steel_blue yellow3 dark_sea_green2 light_cyan3 light_sky_blue1
green_yellow dark_olive_green2 dark_sea_green1 pale_turquoise1 deep_pink3 magenta2 hot_pink2
orchid medium_orchid1 orange3 light_pink3 pink3 plum3 violet light_goldenrod3 tan misty_rose3
thistle3 plum2 khaki3 light_goldenrod2 light_yellow3 grey84 gray84 light_steel_blue1 yellow2
dark_olive_green1 honeydew2 light_cyan1 red1 deep_pink2 deep_pink1 magenta1 orange_red1
indian_red1 hot_pink dark_orange salmon1 light_coral pale_violet_red1 orchid2 orchid1 orange1
sandy_brown light_salmon1 light_pink1 pink1 plum1 gold1 navajo_white1 misty_rose1 thistle1
yellow1 light_goldenrod1 khaki1 wheat1 cornsilk1 grey100 gray100 grey3 gray3 grey7 gray7 grey11
gray11 grey15 gray15 grey19 gray19 grey23 gray23 grey27 gray27 grey30 gray30 grey35 gray35
grey39 gray39 grey42 gray42 grey46 gray46 grey50 gray50 grey54 gray54 grey58 gray58 grey62
gray62 grey66 gray66 grey70 gray70 grey74 gray74 grey78 gray78 grey82 gray82 grey85 gray85
grey89 gray89 grey93 gray93
"

/-- The text between an opening word with its bracket and the closing bracket. -/
def inCall? (name : String) (s : List Char) : Option (List Char) :=
  if name.toList.isPrefixOf s && s.getLast? == some ')' then some (s.drop name.length).dropLast
  else none

/-- A part of a colour, which is at most 255. -/
def isColorPart (s : List Char) : Except MarkupFault Bool :=
  match Number.readWholeChars? s with
  | some n => .ok (n ≤ 255)
  | none => .error .badNumeral

/-- Whether a word in small letters is a colour: a name, six hexadecimal digits, a number of the
palette, or three parts. -/
def isColor (s : List Char) : Except MarkupFault Bool := do
  if s == "default".toList || (Text.words colorNames.toList).contains s then return true
  if s.head? == some '#' then
    return s.length == 7 && s.tail.all fun c => (Text.hexValue? c).isSome
  if let some digits := inCall? "color(" s then
    if !digits.isEmpty && digits.length ≤ 3 && digits.all Char.isDigit then
      return ← isColorPart digits
  if let some parts := inCall? "rgb(" s then
    if !parts.isEmpty && parts.all fun c => c == ',' || (Text.digitValue? c).isSome then
      match Text.splitOnChar ',' parts with
      | [red, green, blue] =>
        let ok ← [red, green, blue].mapM isColorPart
        return ok.all id
      | _ => return false
  return false

/-! ## Words of a style -/

structure Style where
  /-- The attributes that a style sets, on or off. -/
  attributes : Entries Bool := []
  color : Option String := none
  background : Option String := none
  link : Option String := none
deriving DecidableEq, Repr

namespace Style

/-- The attributes in the order in which a style shows them. -/
def attributeNames : List String := [
  "bold", "dim", "italic", "underline", "blink", "blink2", "reverse", "conceal", "strike",
  "underline2", "frame", "encircle", "overline"]

/-- Short names of attributes. -/
def shortNames : List (String × String) := [
  ("d", "dim"), ("b", "bold"), ("i", "italic"), ("u", "underline"), ("r", "reverse"),
  ("c", "conceal"), ("s", "strike"), ("uu", "underline2"), ("o", "overline")]

/-- The attribute that a word names. -/
def attribute? (word : String) : Option String :=
  if attributeNames.contains word then some word else Entries.find? word shortNames

def attributeText? (st : Style) (name : String) : Option String :=
  (Entries.find? name st.attributes).map fun isOn => if isOn then name else "not " ++ name

/-- The one text of a style. -/
def text (st : Style) : String :=
  let words := attributeNames.filterMap st.attributeText? ++ st.color.toList ++
    (st.background.map ("on " ++ ·)).toList ++ (st.link.map ("link " ++ ·)).toList
  if words.isEmpty then "none" else " ".intercalate words

theorem text_none : ({} : Style).text = "none" := by rfl

/-- The style that some words add to one; none where a word has no meaning. -/
def ofWords? (st : Style) : List String → Except MarkupFault (Option Style)
  | [] => .ok (some st)
  | word :: rest =>
    match Text.lower word, rest with
    | "on", color :: rest =>
      match isColor (Text.lower color).toList with
      | .ok true => ofWords? { st with background := some (Text.lower color) } rest
      | .ok false => .ok none
      | .error e => .error e
    | "not", name :: rest =>
      match attribute? name with
      | some a => ofWords? { st with attributes := Entries.put a false st.attributes } rest
      | none => .ok none
    | "link", address :: rest => ofWords? { st with link := some address } rest
    | "on", [] | "not", [] | "link", [] => .ok none
    | lower, rest =>
      match attribute? lower with
      | some a => ofWords? { st with attributes := Entries.put a true st.attributes } rest
      | none =>
        match isColor lower.toList with
        | .ok true => ofWords? { st with color := some lower } rest
        | .ok false => .ok none
        | .error e => .error e

/-- The style that a text writes. -/
def read? (s : List Char) : Except MarkupFault (Option Style) :=
  if Text.trimChars s == "none".toList then .ok (some {})
  else ofWords? {} ((Text.words s).map String.ofList)

/-- The text that a style is compared by. -/
def key (s : List Char) : Except MarkupFault String := do
  match ← read? s with
  | some st => return st.text
  | none => return Text.lower (Text.trim (String.ofList s))

end Style
end PlanCode.CommandLine
