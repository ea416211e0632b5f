import TypedTemplate.Console.EmojiNames
import TypedTemplate.Console.StyleName

/-! Emoji written as names between colons. -/
namespace TypedTemplate.Console

/-- What a colon can end: a name, or a name with the wish for one of two forms. -/
def splitForm (code : List Char) : List Char × List Char :=
  match Text.cutLast? '-' code with
  | some (name, form) =>
    if form == "emoji".toList then (name, ['\uFE0F'])
    else if form == "text".toList then (name, ['\uFE0E'])
    else (code, [])
  | none => (code, [])

def skinTones : List (String × Char) :=
  [("light", '🏻'), ("medium-light", '🏼'), ("medium", '🏽'), ("medium-dark", '🏾'), ("dark", '🏿')]

def withTone (tone : Char) : List Char → List Char
  | [] => []
  | c :: s => c :: tone :: if s.head? = some '\uFE0F' then s.tail else s

def tonedNamed? (name : List Char) : Option (List Char) :=
  skinTones.findSome? fun (word, tone) =>
    let tail := ("_" ++ word ++ "_skin_tone").toList
    let plain := String.ofList (name.take (name.length - tail.length))
    if Text.endsWith name tail && toned.contains plain then
      (emojiNames.lookup plain).map (withTone tone)
    else none

def flagNamed? (name : List Char) : Option (List Char) :=
  (countries.lookup (String.ofList ((Text.after? "flag_for_".toList name).getD name))).map
    fun letters => letters.map fun c => Char.ofNat (0x1F1E6 + (c.toNat - 'A'.toNat))

def emojiNamed? (name : List Char) : Option (List Char) :=
  (emojiNames.lookup (String.ofList name)).or ((flagNamed? name).or (tonedNamed? name))

def emojiOf? (code : List Char) : Option (List Char) :=
  let (name, form) := splitForm code
  (emojiNamed? (Text.lowered name)).map (· ++ form)

/-- The code up to the next colon, and what follows the colon. No blank stands in a code. -/
def code? (s : List Char) : Option (List Char × List Char) :=
  let code := s.takeWhile fun c => c != ':' && !Text.isBlank c
  match s.drop code.length with
  | ':' :: rest => some (code, rest)
  | _ => none

/-- Codes between colons are replaced by emoji. A code without an emoji stays, and its last
colon opens no other. -/
def withEmojiFrom : Nat → List Char → List Char
  | 0, s => s
  | _ + 1, [] => []
  | n + 1, c :: s =>
    if c == ':' then
      match code? s with
      | some (code, rest) => ((emojiOf? code).getD (':' :: code ++ [':'])) ++ withEmojiFrom n rest
      | none => c :: withEmojiFrom n s
    else c :: withEmojiFrom n s

def withEmoji (s : List Char) : List Char := if s.contains ':' then withEmojiFrom s.length s else s

end TypedTemplate.Console
