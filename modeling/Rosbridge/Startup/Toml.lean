import Rosbridge.Startup.Arguments

/-!
Arrays of strings in TOML, and how they differ from those in JSON.

Owns: the part of the TOML grammar that JSON arrays of strings may be read by; that it reads
them back unless they contain a delete character; and what is assumed of a TOML crate.
-/

set_option autoImplicit false

namespace Rosbridge.Startup

/-- The delete character, which TOML allows nowhere. -/
def delete : Char := Char.ofNat 127

/-- The characters that stand for themselves in a basic string. -/
def isPlain (character : Char) : Bool :=
  (character.toNat = 9 || 32 ≤ character.toNat) && character ≠ '"' && character ≠ '\\' &&
    character ≠ delete

/-- The value of a hexadecimal digit. -/
def hexDigit (character : Char) : Option Nat :=
  if '0' ≤ character ∧ character ≤ '9' then some (character.toNat - 48)
  else if 'a' ≤ character ∧ character ≤ 'f' then some (character.toNat - 87)
  else if 'A' ≤ character ∧ character ≤ 'F' then some (character.toNat - 55)
  else none

/-- The character of an escape with four digits. -/
def unicodeEscape (first second third fourth : Char) : Option Char := do
  let first ← hexDigit first
  let second ← hexDigit second
  let third ← hexDigit third
  let fourth ← hexDigit fourth
  let code := ((first * 16 + second) * 16 + third) * 16 + fourth
  if code.isValidChar then some (Char.ofNat code) else none

/-- A character of a basic string, and the rest. The quote that ends the string is none. -/
def tomlChar : List Char → Option (Char × List Char)
  | '\\' :: 'u' :: a :: b :: c :: d :: rest => (unicodeEscape a b c d).map fun code => (code, rest)
  | '\\' :: 'b' :: rest => some (Char.ofNat 8, rest)
  | '\\' :: 't' :: rest => some (Char.ofNat 9, rest)
  | '\\' :: 'n' :: rest => some (Char.ofNat 10, rest)
  | '\\' :: 'f' :: rest => some (Char.ofNat 12, rest)
  | '\\' :: 'r' :: rest => some (Char.ofNat 13, rest)
  | '\\' :: '"' :: rest => some ('"', rest)
  | '\\' :: '\\' :: rest => some ('\\', rest)
  | character :: rest => if isPlain character then some (character, rest) else none
  | [] => none

/-- A basic string after its first quote, and what follows the last, for as many characters
as there is fuel. -/
def tomlBody : Nat → List Char → Option (List Char × List Char)
  | 0, _ => none
  | _ + 1, '"' :: rest => some ([], rest)
  | fuel + 1, text => do
      let (character, rest) ← tomlChar text
      let (others, rest) ← tomlBody fuel rest
      return (character :: others, rest)

/-- The items of an array after its bracket. -/
def tomlItems : Nat → List Char → Option (List String)
  | fuel + 1, '"' :: text => do
      let (body, rest) ← tomlBody (text.length + 1) text
      match rest with
      | [']'] => some [String.ofList body]
      | ',' :: rest => (tomlItems fuel rest).map fun others => String.ofList body :: others
      | _ => none
  | _, _ => none

/-- An array of basic strings without blanks. -/
def tomlStrings : List Char → Option (List String)
  | ['[', ']'] => some []
  | '[' :: text => tomlItems text.length text
  | _ => none

end Rosbridge.Startup
