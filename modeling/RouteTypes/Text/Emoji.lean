import RouteTypes.Text.Blank
import RouteTypes.Text.Case

/-!
# Emoji

A terminal library shows a name between colons as the emoji of this name. Behind the name a variant
may be asked for. Which names there are is up to the library; a code with another name stays as it
is.
-/

namespace RouteTypes

/-- The emoji that a terminal library knows, by their names in lower case. -/
abbrev EmojiNames := List (String × String)

namespace Text

/-- The marks of the variants that a name may end with, each with the sign that asks for it. -/
def emojiVariants : List (List Char × List Char) :=
  [("-emoji".toList, ['\uFE0F']), ("-text".toList, ['\uFE0E'])]

/-- The name of an emoji and the sign for its variant. -/
def splitVariant (code : List Char) : List Char × List Char :=
  match emojiVariants.find? fun variant => variant.1.isSuffixOf code with
  | some (mark, sign) => (code.take (code.length - mark.length), sign)
  | none => (code, [])

/-- What is shown for a code between colons. -/
def emojiFor (names : EmojiNames) (code : List Char) : List Char :=
  let (name, sign) := splitVariant code
  match names.lookup (String.ofList (lower name)) with
  | some emoji => emoji.toList ++ sign
  | none => ':' :: code ++ [':']

/-- Replaces the codes of emoji in a text. Every step takes a character, so `fuel` lasts when it is
the length of the text. -/
def replaceEmojiFrom (names : EmojiNames) : Nat → List Char → List Char
  | 0, text => text
  | _ + 1, [] => []
  | fuel + 1, ':' :: rest =>
    let code := rest.takeWhile fun c => c != ':' && !isBlank c
    match rest.drop code.length with
    | ':' :: behind => emojiFor names code ++ replaceEmojiFrom names fuel behind
    | _ => ':' :: replaceEmojiFrom names fuel rest
  | fuel + 1, c :: rest => c :: replaceEmojiFrom names fuel rest

/-- Replaces the codes of emoji in a text. -/
def replaceEmoji (names : EmojiNames) (text : String) : String :=
  String.ofList (replaceEmojiFrom names text.length text.toList)

end Text

end RouteTypes
