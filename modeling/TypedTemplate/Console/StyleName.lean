import TypedTemplate.Text.Digit
import TypedTemplate.Text.Escape
import TypedTemplate.Text.LowerCase
import TypedTemplate.Text.Search

/-! Names of styles. Two names of one style are written the same way, so that a closing tag can name
a style in other words than the opening one. -/
namespace TypedTemplate.Console

def colorNames : List String := [
  "black", "red", "green", "yellow", "blue", "magenta", "cyan", "white", "bright_black",
  "bright_red", "bright_green", "bright_yellow", "bright_blue", "bright_magenta", "bright_cyan",
  "bright_white", "grey0", "gray0", "navy_blue", "dark_blue", "blue3", "blue1", "dark_green",
  "deep_sky_blue4", "dodger_blue3", "dodger_blue2", "green4", "spring_green4", "turquoise4",
  "deep_sky_blue3", "dodger_blue1", "green3", "spring_green3", "dark_cyan", "light_sea_green",
  "deep_sky_blue2", "deep_sky_blue1", "spring_green2", "cyan3", "dark_turquoise", "turquoise2",
  "green1", "spring_green1", "medium_spring_green", "cyan2", "cyan1", "dark_red", "deep_pink4",
  "purple4", "purple3", "blue_violet", "orange4", "grey37", "gray37", "medium_purple4",
  "slate_blue3", "royal_blue1", "chartreuse4", "dark_sea_green4", "pale_turquoise4", "steel_blue",
  "steel_blue3", "cornflower_blue", "chartreuse3", "cadet_blue", "sky_blue3", "steel_blue1",
  "pale_green3", "sea_green3", "aquamarine3", "medium_turquoise", "chartreuse2", "sea_green2",
  "sea_green1", "aquamarine1", "dark_slate_gray2", "dark_magenta", "dark_violet", "purple",
  "light_pink4", "plum4", "medium_purple3", "slate_blue1", "yellow4", "wheat4", "grey53", "gray53",
  "light_slate_grey", "light_slate_gray", "medium_purple", "light_slate_blue", "dark_olive_green3",
  "dark_sea_green", "light_sky_blue3", "sky_blue2", "dark_sea_green3", "dark_slate_gray3",
  "sky_blue1", "chartreuse1", "light_green", "pale_green1", "dark_slate_gray1", "red3",
  "medium_violet_red", "magenta3", "dark_orange3", "indian_red", "hot_pink3", "medium_orchid3",
  "medium_orchid", "medium_purple2", "dark_goldenrod", "light_salmon3", "rosy_brown", "grey63",
  "gray63", "medium_purple1", "gold3", "dark_khaki", "navajo_white3", "grey69", "gray69",
  "light_steel_blue3", "light_steel_blue", "yellow3", "dark_sea_green2", "light_cyan3",
  "light_sky_blue1", "green_yellow", "dark_olive_green2", "dark_sea_green1", "pale_turquoise1",
  "deep_pink3", "magenta2", "hot_pink2", "orchid", "medium_orchid1", "orange3", "light_pink3",
  "pink3", "plum3", "violet", "light_goldenrod3", "tan", "misty_rose3", "thistle3", "plum2",
  "khaki3", "light_goldenrod2", "light_yellow3", "grey84", "gray84", "light_steel_blue1", "yellow2",
  "dark_olive_green1", "honeydew2", "light_cyan1", "red1", "deep_pink2", "deep_pink1", "magenta1",
  "orange_red1", "indian_red1", "hot_pink", "dark_orange", "salmon1", "light_coral",
  "pale_violet_red1", "orchid2", "orchid1", "orange1", "sandy_brown", "light_salmon1",
  "light_pink1", "pink1", "plum1", "gold1", "navajo_white1", "misty_rose1", "thistle1", "yellow1",
  "light_goldenrod1", "khaki1", "wheat1", "cornsilk1", "grey100", "gray100", "grey3", "gray3",
  "grey7", "gray7", "grey11", "gray11", "grey15", "gray15", "grey19", "gray19", "grey23", "gray23",
  "grey27", "gray27", "grey30", "gray30", "grey35", "gray35", "grey39", "gray39", "grey42",
  "gray42", "grey46", "gray46", "grey50", "gray50", "grey54", "gray54", "grey58", "gray58",
  "grey62", "gray62", "grey66", "gray66", "grey70", "gray70", "grey74", "gray74", "grey78",
  "gray78", "grey82", "gray82", "grey85", "gray85", "grey89", "gray89", "grey93", "gray93"]

def properties : List String :=
  ["bold", "dim", "italic", "underline", "blink", "blink2", "reverse", "conceal",
  "strike", "underline2", "frame", "encircle", "overline"]

def shortNames : List (String × String) :=
  [("d", "dim"), ("b", "bold"), ("i", "italic"), ("u", "underline"),
  ("r", "reverse"), ("c", "conceal"), ("s", "strike"), ("uu", "underline2"), ("o", "overline")]

def property? (word : String) : Option String :=
  if properties.contains word then some word else shortNames.lookup word

inductive StyleFault where
  | unknown
  /-- A part of a colour has no digits. -/
  | missingNumber

def isSmall (digits : List Char) : Bool :=
  digits.foldl (fun n d => n * 10 + Text.digitValue d) 0 ≤ 255

def threeParts (s : List Char) : Except StyleFault Unit :=
  let parts := Text.pieces [','] s
  if s.isEmpty || !(s.all fun c => Text.isDigit c || c == ',') || parts.length != 3
    then .error .unknown
  else if parts.any List.isEmpty then .error .missingNumber
  else if parts.all isSmall then .ok ()
  else .error .unknown

/-- A colour is named, or given by six hexadecimal digits, by its number or by its three parts. -/
def checkColor (word : List Char) : Except StyleFault Unit :=
  if word == "default".toList || colorNames.contains (String.ofList word) then .ok ()
  else
    match word with
    | '#' :: ds => if ds.length == 6 && ds.all fun c => (Text.hexValue? c).isSome then .ok ()
      else .error .unknown
    | 'c' :: 'o' :: 'l' :: 'o' :: 'r' :: '(' :: rest =>
      let ds := rest.dropLast
      if rest.getLast? == some ')' && !ds.isEmpty && ds.length ≤ 3 && ds.all Char.isDigit &&
        isSmall ds then .ok ()
      else .error .unknown
    | 'r' :: 'g' :: 'b' :: '(' :: rest =>
      if rest.getLast? == some ')' then threeParts rest.dropLast else .error .unknown
    | _ => .error .unknown

structure StyleName where
  settings : List (String × Bool)
  color : Option String
  background : Option String
  link : Option String

namespace StyleName

def plain : StyleName := ⟨[], none, none, none⟩

/-- The style that words describe, on top of another. -/
def ofWords : StyleName → List (List Char) → Except StyleFault StyleName
  | n, [] => .ok n
  | n, w :: rest =>
    let word := String.ofList (Text.lowered w)
    if word == "on" then
      match rest with
      | c :: rest => do
        let c := Text.lowered c
        checkColor c
        ofWords { n with background := some (String.ofList c) } rest
      | [] => .error .unknown
    else if word == "not" then
      match rest with
      | p :: rest =>
        match property? (String.ofList p) with
        | some p => ofWords { n with settings := (p, false) :: n.settings } rest
        | none => .error .unknown
      | [] => .error .unknown
    else if word == "link" then
      match rest with
      | l :: rest => ofWords { n with link := some (String.ofList l) } rest
      | [] => .error .unknown
    else
      match property? word with
      | some p => ofWords { n with settings := (p, true) :: n.settings } rest
      | none => do
        checkColor word.toList
        ofWords { n with color := some word } rest

/-- A style as words in a fixed order; the last setting of a property counts. -/
def render (n : StyleName) : String :=
  let settings := properties.filterMap fun p =>
    (n.settings.lookup p).map fun on => if on then p else "not " ++ p
  let parts := settings ++ n.color.toList ++ (n.background.map ("on " ++ ·)).toList ++
    (n.link.map ("link " ++ ·)).toList
  if parts.isEmpty then "none" else Text.joinWith " " parts

end StyleName

def blankWords (s : List Char) : List (List Char) :=
  (s.splitBy fun a b => Text.isBlank a == Text.isBlank b).filter fun w => !(w.any Text.isBlank)

/-- The one way in which a style's name is compared, unless a colour in it lacks a number. Names of
no style are taken in lower case. -/
def normalName? (s : List Char) : Option String :=
  if Text.trim s == "none".toList then some "none"
  else
    match StyleName.ofWords .plain (blankWords s) with
    | .ok n => some n.render
    | .error .unknown => some (String.ofList (Text.lowered (Text.trim s)))
    | .error .missingNumber => none

end TypedTemplate.Console
