import Polyphony.Text.Invisible

namespace Polyphony.Text

/-!
# Quoted text

Names and paths appear in messages between double quotes, with every character
that could not be read there spelled out.
-/

/-- The lower case hexadecimal digits of a natural number, without padding. -/
def hexDigits (number : Nat) : List Char :=
  Nat.toDigits 16 number

/-- A character spelled by its code point. -/
def spellCodePoint (character : Char) : List Char :=
  ['\\', 'u', '\x7b'] ++ hexDigits character.toNat ++ ['\x7d']

/-- How one character is written inside quotes. -/
def quoteCharacter (character : Char) : List Char :=
  if character = '"' then
    ['\\', '"']
  else if character = '\\' then
    ['\\', '\\']
  else if character = '\n' then
    ['\\', 'n']
  else if character = '\r' then
    ['\\', 'r']
  else if character = '\t' then
    ['\\', 't']
  else if character.toNat = 0 then
    ['\\', '0']
  else if character.toNat < 32 || character.toNat = 127 then
    spellCodePoint character
  else if 128 ≤ character.toNat && isInvisible character then
    spellCodePoint character
  else
    [character]

/-- A text between double quotes. -/
def quote (text : String) : String :=
  String.ofList <|
    ['"'] ++ text.toList.flatMap quoteCharacter ++ ['"']

end Polyphony.Text
