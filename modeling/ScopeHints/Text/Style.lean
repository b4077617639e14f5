import ScopeHints.Data.Display
import ScopeHints.Data.JsonReader
import ScopeHints.Text.Digit
import ScopeHints.Text.Emoji
import ScopeHints.Text.Styled

/-! The names of text styles. A style is a list of words for attributes and colours, and names of
the same style have one normal form. -/
namespace ScopeHints.Text

def styleAttributes : List (String × String) := [
  ("bold", "b"), ("dim", "d"), ("italic", "i"), ("underline", "u"), ("blink", "blink"),
  ("blink2", "blink2"), ("reverse", "r"), ("conceal", "c"), ("strike", "s"), ("underline2", "uu"),
  ("frame", "frame"), ("encircle", "encircle"), ("overline", "o")]

def colorNames : List String := "default" :: plainWords "
  aquamarine1 aquamarine3 black blue blue1 blue3 blue_violet bright_black bright_blue bright_cyan
  bright_green bright_magenta bright_red bright_white bright_yellow cadet_blue chartreuse1
  chartreuse2 chartreuse3 chartreuse4 cornflower_blue cornsilk1 cyan cyan1 cyan2 cyan3 dark_blue
  dark_cyan dark_goldenrod dark_green dark_khaki dark_magenta dark_olive_green1 dark_olive_green2
  dark_olive_green3 dark_orange dark_orange3 dark_red dark_sea_green dark_sea_green1 dark_sea_green2
  dark_sea_green3 dark_sea_green4 dark_slate_gray1 dark_slate_gray2 dark_slate_gray3 dark_turquoise
  dark_violet deep_pink1 deep_pink2 deep_pink3 deep_pink4 deep_sky_blue1 deep_sky_blue2
  deep_sky_blue3 deep_sky_blue4 dodger_blue1 dodger_blue2 dodger_blue3 gold1 gold3 gray0 gray100
  gray11 gray15 gray19 gray23 gray27 gray3 gray30 gray35 gray37 gray39 gray42 gray46 gray50 gray53
  gray54 gray58 gray62 gray63 gray66 gray69 gray7 gray70 gray74 gray78 gray82 gray84 gray85 gray89
  gray93 green green1 green3 green4 green_yellow grey0 grey100 grey11 grey15 grey19 grey23 grey27
  grey3 grey30 grey35 grey37 grey39 grey42 grey46 grey50 grey53 grey54 grey58 grey62 grey63 grey66
  grey69 grey7 grey70 grey74 grey78 grey82 grey84 grey85 grey89 grey93 honeydew2 hot_pink hot_pink2
  hot_pink3 indian_red indian_red1 khaki1 khaki3 light_coral light_cyan1 light_cyan3
  light_goldenrod1 light_goldenrod2 light_goldenrod3 light_green light_pink1 light_pink3 light_pink4
  light_salmon1 light_salmon3 light_sea_green light_sky_blue1 light_sky_blue3 light_slate_blue
  light_slate_gray light_slate_grey light_steel_blue light_steel_blue1 light_steel_blue3
  light_yellow3 magenta magenta1 magenta2 magenta3 medium_orchid medium_orchid1 medium_orchid3
  medium_purple medium_purple1 medium_purple2 medium_purple3 medium_purple4 medium_spring_green
  medium_turquoise medium_violet_red misty_rose1 misty_rose3 navajo_white1 navajo_white3 navy_blue
  orange1 orange3 orange4 orange_red1 orchid orchid1 orchid2 pale_green1 pale_green3 pale_turquoise1
  pale_turquoise4 pale_violet_red1 pink1 pink3 plum1 plum2 plum3 plum4 purple purple3 purple4 red
  red1 red3 rosy_brown royal_blue1 salmon1 sandy_brown sea_green1 sea_green2 sea_green3 sky_blue1
  sky_blue2 sky_blue3 slate_blue1 slate_blue3 spring_green1 spring_green2 spring_green3
  spring_green4 steel_blue steel_blue1 steel_blue3 tan thistle1 thistle3 turquoise2 turquoise4
  violet wheat1 wheat4 white yellow yellow1 yellow2 yellow3 yellow4
"

inductive StyleError where
  | unknownWord
  | badColor
  deriving DecidableEq, Repr

def colorLimit : Nat := 255

def bracketed? (word : String) (cs : List Char) : Option (List Char) :=
  match Json.afterPrefix? (word ++ "(").toList cs with
  | some rest => if rest.getLast? = some ')' then some rest.dropLast else none
  | none => none

def commaParts : List Char → List (List Char)
  | [] => [[]]
  | c :: cs =>
    if c = ',' then [] :: commaParts cs
    else match commaParts cs with
      | [] => [[c]]
      | p :: ps => (c :: p) :: ps

def decimalOf? (cs : List Char) : Option Nat :=
  if cs.isEmpty || Scalar.digitLimit < cs.length then none
  else cs.foldl (fun n c => do return 10 * (← n) + (← digitOf? c)) (some 0)

/-- Three parts of a colour. Digits and commas may stand anywhere, but each part must be a number,
and none of them too large. -/
def checkParts (cs : List Char) : Except StyleError Unit :=
  let parts := commaParts cs
  if cs.isEmpty || !(cs.all fun c => c = ',' || (digitOf? c).isSome) || parts.length ≠ 3 then
    .error .unknownWord
  else match parts.mapM decimalOf? with
    | none => .error .badColor
    | some numbers => if numbers.all (· ≤ colorLimit) then .ok () else .error .unknownWord

/-- The word is a colour by its name, by hexadecimal digits, by its number or by its parts. -/
def checkColor (word : String) : Except StyleError Unit :=
  let cs := word.toList
  let isHex := cs.head? = some '#' && cs.length = 7 && (Json.ofHex? (cs.drop 1)).isSome
  let isNumber := (bracketed? "color" cs).any fun ds =>
    !ds.isEmpty && ds.length ≤ 3 && ds.all Char.isDigit && Json.ofDigits ds ≤ colorLimit
  if colorNames.contains word || isHex || isNumber then .ok ()
  else match bracketed? "rgb" cs with
    | some parts => checkParts parts
    | none => .error .unknownWord

structure Style where
  attributes : List (String × Bool) := []
  color : Option String := none
  background : Option String := none
  link : Option String := none

namespace Style

def attribute? (word : String) : Option String :=
  (styleAttributes.find? fun (name, short) => name = word || short = word).map Prod.fst

def setAttribute (s : Style) (name : String) (on : Bool) : Style :=
  { s with attributes := (name, on) :: s.attributes }

def read : Style → List String → Except StyleError Style
  | s, [] => .ok s
  | s, given :: rest =>
    let word := toLower given
    match word, rest with
    | "on", color :: rest => do
      checkColor (toLower color)
      { s with background := some (toLower color) }.read rest
    | "on", [] => .error .unknownWord
    | "not", name :: rest =>
      match attribute? name with
      | some name => (s.setAttribute name false).read rest
      | none => .error .unknownWord
    | "not", [] => .error .unknownWord
    | "link", url :: rest => { s with link := some url }.read rest
    | "link", [] => .error .unknownWord
    | word, rest =>
      match attribute? word with
      | some name => (s.setAttribute name true).read rest
      | none => do
        checkColor word
        { s with color := some word }.read rest

def words (s : Style) : List String :=
  (styleAttributes.filterMap fun (name, _) =>
    (s.attributes.lookup name).map fun on => if on then name else "not " ++ name)
    ++ s.color.toList
    ++ (s.background.map fun c => "on " ++ c).toList
    ++ (s.link.map fun url => "link " ++ url).toList

/-- The normal form of a name: that of its style, or else the name in lower case. -/
def normalName (name : String) : Except MarkupError String :=
  if String.ofList (strip name.toList) = "none" || name = "" then .ok "none"
  else match read {} (plainWords name) with
    | .ok s => .ok (if s.words.isEmpty then "none" else " ".intercalate s.words)
    | .error .unknownWord => .ok (toLower (String.ofList (strip name.toList)))
    | .error .badColor => .error .badColor

end Style

end ScopeHints.Text
