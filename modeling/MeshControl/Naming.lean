import MeshControl.Digest.Sha256
import MeshControl.Json

/-!
# Names of generated objects

A generated name is a fixed stem followed by a readable form of a key, or by a hash of the key where
the readable name would be too long for a label value.
-/

namespace MeshControl.Naming

/-- The greatest length of a name in bytes, which is that of a label value. -/
def maxLength : Nat := 63

/-- Whether a character is an ASCII letter or digit. -/
def isAlphanumeric (char : Char) : Bool := char.isAlphanum

/-- The character that stands for another one in a name: letters in lower case, digits, hyphens and
dots as they are, and a hyphen for all else. -/
def sanitizeChar (char : Char) : Char :=
  let lower := char.toLower
  if isAlphanumeric lower || lower = '-' || lower = '.' then lower else '-'

/-- The part between the first and the last letter or digit, both included. -/
def trimEnds (chars : List Char) : List Char :=
  ((chars.dropWhile fun char => !isAlphanumeric char).reverse.dropWhile fun char =>
    !isAlphanumeric char).reverse

/-- The readable form of a key. -/
def sanitize (key : String) : String := String.ofList (trimEnds (key.toList.map sanitizeChar))

/-- Eight hexadecimal digits of a word. -/
def hexWord (word : UInt32) : List Char :=
  (List.range 8).map fun index => Json.hexDigit (word.toNat / Nat.pow 16 (7 - index) % 16)

/-- The first sixteen hexadecimal digits of the SHA-256 digest of a key. -/
def hash (key : String) : String :=
  let digest := Sha256.digest key.toUTF8.toList
  String.ofList (hexWord digest.a ++ hexWord digest.b)

/-- The stem, a hyphen and the readable form of the key, or the hash where that is too long. -/
def bounded (stem key : String) : String :=
  let name := stem ++ "-" ++ sanitize key
  if name.utf8ByteSize ≤ maxLength then name else stem ++ "-" ++ hash key

end MeshControl.Naming
