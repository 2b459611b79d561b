import Rosbridge.Data.Double

/-!
JSON values as the protocol handlers read and build them.

Owns: the value type, its accessors, and the comparisons with a literal.

An object is the list of its fields in insertion order. Parsing and printing are not
owned here.
-/

set_option autoImplicit false

namespace Rosbridge

/-- A JSON number: a signed or unsigned 64-bit integer, or a finite double. -/
inductive Number where
  | int (value : Int)
  | float (value : F64)
deriving DecidableEq

inductive Json where
  | null
  | bool (value : Bool)
  | num (value : Number)
  | str (value : String)
  | arr (items : List Json)
  | obj (fields : List (String × Json))

/-- The fields of an object literal. -/
abbrev Object : Type := List (String × Json)

namespace Json

instance : Inhabited Json := ⟨null⟩

/-- An integer literal. -/
def int (value : Int) : Json := .num (.int value)

/-- The field of an object, if the value is an object that has it. -/
def get : Json → String → Option Json
  | obj fields, key => fields.lookup key
  | _, _ => none

/-- `value[key]` on a shared value: a missing field reads as null. -/
def index (value : Json) (key : String) : Json := (value.get key).getD null

def asStr : Json → Option String
  | str value => some value
  | _ => none

def asBool : Json → Option Bool
  | bool value => some value
  | _ => none

def asArray : Json → Option (List Json)
  | arr items => some items
  | _ => none

def asObject : Json → Option Object
  | obj fields => some fields
  | _ => none

def isObject (value : Json) : Bool := value.asObject.isSome

def asI64 : Json → Option Int
  | num (.int value) => if -2 ^ 63 ≤ value ∧ value < 2 ^ 63 then some value else none
  | _ => none

def asU64 : Json → Option Nat
  | num (.int value) => if 0 ≤ value ∧ value < 2 ^ 64 then some value.toNat else none
  | _ => none

theorem asI64_int (value : Int) :
    (int value).asI64 = if -2 ^ 63 ≤ value ∧ value < 2 ^ 63 then some value else none := rfl

theorem asU64_int (value : Int) :
    (int value).asU64 = if 0 ≤ value ∧ value < 2 ^ 64 then some value.toNat else none := rfl

def asF64 : Json → Option F64
  | num (.int value) => some (.ofInt value)
  | num (.float value) => some value
  | _ => none

/-- `value == true` and `value == false` in the source. -/
def eqBool (value : Json) (literal : Bool) : Bool := value.asBool == some literal

/-- Comparison of a value with an integer literal. -/
def eqInt (value : Json) (literal : Int) : Bool := value.asI64 == some literal

end Json

/-- `value[key] = entry` on an object: the entry replaces the field in its place,
or is appended. -/
def Object.set : Object → String → Json → Object
  | [], key, entry => [(key, entry)]
  | field :: rest, key, entry =>
      if field.1 = key then (key, entry) :: rest else field :: Object.set rest key entry

theorem Object.lookup_set (key other : String) (entry : Json) : ∀ fields : Object,
    List.lookup other (Object.set fields key entry) =
      if other = key then some entry else List.lookup other fields
  | [] => by
      by_cases same : other = key <;> simp [Object.set, List.lookup_cons, same, beq_false_of_ne]
  | (head, first) :: rest => by
      have tail := Object.lookup_set key other entry rest
      rw [Object.set]
      by_cases atHead : head = key
      · subst atHead
        by_cases same : other = head <;> simp [List.lookup_cons, same, beq_false_of_ne]
      · by_cases same : other = head
        · subst same
          simp [atHead]
        · simp [List.lookup_cons, atHead, tail, beq_false_of_ne same]

end Rosbridge
