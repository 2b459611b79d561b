import Mathlib.Logic.Function.Basic
import Mathlib.Data.List.Basic

/-!
String operations of the source, over characters.

Owns: splitting, the ASCII tests on interface names, and two facts the identifier
formats rest on: decimal numerals are injective and contain no separator.
-/

set_option autoImplicit false

namespace Rosbridge

/-- `text.split(separator)`. -/
def splitText (text : String) (separator : Char) : List String :=
  (text.toList.splitOn separator).map String.ofList

/-- `text.split_once(separator)`. -/
def splitOnce (text : String) (separator : Char) : Option (String × String) :=
  let characters := text.toList
  let before := characters.takeWhile fun character => character != separator
  match characters.drop before.length with
  | [] => none
  | _ :: after => some (String.ofList before, String.ofList after)

/-- `text.rsplit_once(separator)`. -/
def rsplitOnce (text : String) (separator : Char) : Option (String × String) :=
  let after := (text.toList.reverse.takeWhile fun character => character != separator).reverse
  match (text.toList.take (text.toList.length - after.length)).reverse with
  | [] => none
  | _ :: before => some (String.ofList before.reverse, String.ofList after)

/-- `text.trim_start_matches(character)`. -/
def trimStartMatches (text : String) (character : Char) : String :=
  String.ofList (text.toList.dropWhile fun other => other == character)

/-- `text.trim_end_matches(character)`. -/
def trimEndMatches (text : String) (character : Char) : String :=
  String.ofList (text.toList.reverse.dropWhile fun other => other == character).reverse

/-- `text.strip_suffix(suffix)`. -/
def stripSuffix (text suffix : String) : Option String :=
  if suffix.toList.isSuffixOf text.toList then
    some (String.ofList (text.toList.take (text.toList.length - suffix.toList.length)))
  else none

/-- The code points of the Unicode property `White_Space`. -/
def isWhitespace (character : Char) : Bool :=
  let code := character.toNat
  (9 ≤ code && code ≤ 13) || [32, 0x85, 0xA0, 0x1680, 0x2028, 0x2029, 0x202F, 0x205F,
    0x3000].contains code || (0x2000 ≤ code && code ≤ 0x200A)

/-- Trim the characters that pass a test. -/
def trimWhere (test : Char → Bool) (text : String) : String :=
  String.ofList ((text.toList.dropWhile test).reverse.dropWhile test).reverse

/-- `text.trim()`. -/
def trim (text : String) : String := trimWhere isWhitespace text

/-- `text.split_once(separator)`, for a separator of several characters. -/
def splitOnceChars (separator : List Char) : List Char → Option (List Char × List Char)
  | [] => none
  | character :: rest =>
      if separator.isPrefixOf (character :: rest) then
        some ([], (character :: rest).drop separator.length)
      else (splitOnceChars separator rest).map fun parts => (character :: parts.1, parts.2)

/-- The bytes of ROS names: ASCII letters, digits and the underscore. -/
def isNameChar (character : Char) : Bool := character.isAlphanum || character == '_'

theorem slash_free {part : String} (plain : part.toList.all isNameChar = true) :
    '/' ∉ part.toList := by
  intro member
  have named := List.all_eq_true.mp plain _ member
  exact absurd named (by decide)

/-- `text.join(separator)`. -/
def joinText (separator : String) : List String → String
  | [] => ""
  | [only] => only
  | head :: rest => head ++ separator ++ joinText separator rest

/-- `{texts:?}` of a list of strings without characters to escape. -/
def debugTexts (texts : List String) : String :=
  "[" ++ joinText ", " (texts.map fun text => "\"" ++ text ++ "\"") ++ "]"

/-- `eq_ignore_ascii_case`. -/
def eqIgnoreAsciiCase (left right : String) : Bool :=
  left.toList.map Char.toLower == right.toList.map Char.toLower

/-- The two lower-case hexadecimal digits of a byte. -/
def hexByte (byte : UInt8) : List Char :=
  [Nat.digitChar (byte.toNat / 16), Nat.digitChar (byte.toNat % 16)]

/-! ### Injectivity of the identifier formats -/

theorem toString_injective : Function.Injective (toString : Nat → String) := by
  intro left right same
  have digits : Nat.toDigits 10 left = Nat.toDigits 10 right := by
    rw [← Nat.toList_repr, ← Nat.toList_repr]
    exact congrArg String.toList same
  calc
    left = Nat.ofDigitChars 10 (Nat.toDigits 10 left) 0 :=
      Nat.ofDigitChars_ten_toDigits.symm
    _ = Nat.ofDigitChars 10 (Nat.toDigits 10 right) 0 := by rw [digits]
    _ = right := Nat.ofDigitChars_ten_toDigits

theorem not_mem_toString {character : Char} (notDigit : character.isDigit = false) (value : Nat) :
    character ∉ (toString value).toList := by
  intro member
  have inDigits : character ∈ Nat.toDigits 10 value := by rwa [← Nat.toList_repr]
  have digit : character.isDigit = true :=
    Nat.isDigit_of_mem_toDigits (by decide) (by decide) inDigits
  rw [notDigit] at digit
  cases digit

/-- Two texts that end at the same first separator are equal, and so are the rests. -/
theorem append_separator_injective {separator : Char} {left right rest other : List Char}
    (leftClean : separator ∉ left) (rightClean : separator ∉ right)
    (same : left ++ separator :: rest = right ++ separator :: other) :
    left = right ∧ rest = other := by
  induction left generalizing right with
  | nil =>
      cases right with
      | nil => simpa using same
      | cons head tail =>
          simp only [List.nil_append, List.cons_append, List.cons.injEq] at same
          simp [same.1] at rightClean
  | cons head tail inductionHypothesis =>
      cases right with
      | nil =>
          simp only [List.nil_append, List.cons_append, List.cons.injEq] at same
          simp [same.1] at leftClean
      | cons first others =>
          simp only [List.cons_append, List.cons.injEq] at same
          simp only [List.mem_cons, not_or] at leftClean rightClean
          obtain ⟨tails, rests⟩ := inductionHypothesis leftClean.2 rightClean.2 same.2
          exact ⟨by rw [same.1, tails], rests⟩

/-- Two texts that end after the same last colon are equal, and so are the rests. -/
theorem append_colon_injective {left right rest other : String}
    (restClean : ':' ∉ rest.toList) (otherClean : ':' ∉ other.toList)
    (same : left ++ ":" ++ rest = right ++ ":" ++ other) : left = right ∧ rest = other := by
  have lists := congrArg (fun text => text.toList.reverse) same
  simp only [String.toList_append, List.reverse_append] at lists
  have colon : (":" : String).toList.reverse = [':'] := rfl
  rw [colon, List.singleton_append, List.singleton_append] at lists
  obtain ⟨rests, lefts⟩ := append_separator_injective
    (by rwa [List.mem_reverse]) (by rwa [List.mem_reverse]) lists
  exact ⟨String.toList_inj.mp (List.reverse_injective lefts),
    String.toList_inj.mp (List.reverse_injective rests)⟩

theorem digitChar_injective_hex : ∀ left < 16, ∀ right < 16,
    Nat.digitChar left = Nat.digitChar right → left = right := by
  decide

theorem hexByte_injective : Function.Injective hexByte := by
  intro left right same
  simp only [hexByte, List.cons.injEq, and_true] at same
  have leftBound := left.toNat_lt
  have rightBound := right.toNat_lt
  have high := digitChar_injective_hex _ (by omega) _ (by omega) same.1
  have low := digitChar_injective_hex _ (by omega) _ (by omega) same.2
  apply UInt8.toNat_inj.mp
  omega

theorem digitChar_ne_colon : ∀ digit < 16, Nat.digitChar digit ≠ ':' := by
  decide

theorem not_mem_flatMap_hexByte (bytes : List UInt8) : ':' ∉ bytes.flatMap hexByte := by
  intro member
  obtain ⟨byte, -, inByte⟩ := List.mem_flatMap.mp member
  have bound := byte.toNat_lt
  simp only [hexByte, List.mem_cons, List.not_mem_nil, or_false] at inByte
  rcases inByte with high | low
  · exact digitChar_ne_colon _ (by omega) high.symm
  · exact digitChar_ne_colon _ (by omega) low.symm

theorem flatMap_hexByte_injective : ∀ left right : List UInt8,
    left.flatMap hexByte = right.flatMap hexByte → left = right
  | [], [], _ => rfl
  | [], _ :: _, same => by simp [hexByte] at same
  | _ :: _, [], same => by simp [hexByte] at same
  | head :: tail, first :: rest, same => by
      simp only [List.flatMap_cons] at same
      obtain ⟨heads, tails⟩ := List.append_inj same rfl
      rw [hexByte_injective heads, flatMap_hexByte_injective tail rest tails]

end Rosbridge
