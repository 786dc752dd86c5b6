import MeshControl.Json
import MeshControl.Text.Hidden

/-!
# Quoted text in messages

Messages show foreign text between quotation marks, with everything escaped that would not be seen.
-/

namespace MeshControl.Text

/-- The lower-case hexadecimal digits of a number, without leading zeros. -/
def hexDigits (number : Nat) : List Char := (Nat.toDigits 16 number)

/-- How a character stands in quoted text: five characters have escapes of their own, characters
without a visible form are written by code point, and all else stands for itself. -/
def quotedChar (char : Char) : List Char :=
  if char = '"' then ['\\', '"']
  else if char = '\\' then ['\\', '\\']
  else if char = '\n' then ['\\', 'n']
  else if char = '\r' then ['\\', 'r']
  else if char = '\t' then ['\\', 't']
  else if char = '\x00' then ['\\', '0']
  else if isHidden char then ['\\', 'u', '\x7b'] ++ hexDigits char.toNat ++ ['\x7d']
  else [char]

/-- Text between quotation marks. -/
def quoted (text : String) : String :=
  String.ofList ('"' :: (text.toList.flatMap quotedChar ++ ['"']))

end MeshControl.Text
