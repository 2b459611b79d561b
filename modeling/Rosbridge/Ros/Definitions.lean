import Rosbridge.Backend
import Rosbridge.Foundation.Closure
import Rosbridge.Ros.Message
import Std.Data.TreeMap

/-!
Type definitions (`ros/definitions.rs` and the end of `ros/message.rs`).

Owns: the interfaces of the installed packages; `typedefs`, the descriptions of a message
type and of all types it contains; and `raw`, their definition texts.

Both traversals take fuel, and give nothing when it is used up.
-/

set_option autoImplicit false

namespace Rosbridge.Ros

/-! ### Text -/

/-- `text.split_whitespace()`. -/
def words (text : String) : List String :=
  ((text.toList.splitOnP isWhitespace).filter fun word => !word.isEmpty).map String.ofList

/-- Split at every occurrence of a separator, the first of which is not yet passed by
as many characters. -/
def splitChars (separator : List Char) : Nat → List Char → List Char → List (List Char)
  | _, current, [] => [current.reverse]
  | passed + 1, current, _ :: rest => splitChars separator passed current rest
  | 0, current, character :: rest =>
      if separator.isPrefixOf (character :: rest) then
        current.reverse :: splitChars separator (separator.length - 1) [] rest
      else splitChars separator 0 (character :: current) rest

/-- `text.split(separator)` for a separator of several characters. -/
def splitAll (text separator : String) : List String :=
  (splitChars separator.toList 0 [] text.toList).map String.ofList

/-- `text.replace(pattern, replacement)`. -/
def replaceAll (text pattern replacement : String) : String :=
  joinText replacement (splitAll text pattern)

/-- `text.lines()`. Only a line that ends is stripped of its carriage return. -/
def lines (text : String) : List String :=
  let parts := splitText text '\n'
  (parts.dropLast.map fun line => (stripSuffix line "\r").getD line) ++
    (parts.getLast?.toList.filter fun line => line ≠ "")

/-! ### Installed interfaces -/

/-- `MessageType`: its members, and the memory of a message that its initialisation
function was called on. -/
structure MessageType where
  members : Members
  initial : List Datum

/-- What is installed: the type supports, the prefixes of packages, and the files. -/
structure Interfaces where
  library : String → Except Error MessageType
  prefixes : List String
  isFile : String → Bool
  readFile : String → Except Error String
  codec : Codec

namespace Interfaces

variable (env : Interfaces)

/-- The test on the parts of an interface name. -/
def namePart (part : String) : Bool := part ≠ "" && part.toList.all isNameChar

/-- `MessageType::load`. -/
def load (name : String) : Except Error MessageType :=
  let parts := splitText name '/'
  if parts.length = 3 && parts.all namePart then env.library name
  else .error ⟨"invalid message type " ++ name⟩

/-- `prefix.join(path)`. -/
def joinPath (directory path : String) : String :=
  if directory = "" || directory.toList.getLast? = some '/' then directory ++ path
  else directory ++ "/" ++ path

/-- `interface_path`. -/
def interfacePath (typ : String) : Except Error String :=
  match splitText typ '/' with
  | [package, kind, last] =>
      if [package, kind, last].all namePart then
        let path := "share/" ++ package ++ "/" ++ kind ++ "/" ++ last ++ "." ++ kind
        match (env.prefixes.map fun directory => joinPath directory path).find? env.isFile with
        | some found => .ok found
        | none => .error ⟨"interface source not found: " ++ typ⟩
      else .error ⟨"invalid interface name"⟩
  | _ => .error ⟨"invalid interface name"⟩

/-- The definition text of an interface. -/
def source (typ : String) : Except Error String := do env.readFile (← env.interfacePath typ)

/-! ### Constants -/

/-- The interface whose source has the constants of a type, and the section they are in. -/
def constantsIn (kind last : String) : String × Nat :=
  let strip (suffixes : List (String × Nat)) : String × Nat :=
    (suffixes.findSome? fun entry =>
      (stripSuffix last entry.1).map fun base => (base, entry.2)).getD (last, 0)
  if kind = "srv" then strip [("_Request", 0), ("_Response", 1)]
  else if kind = "action" then strip [("_Goal", 0), ("_Result", 1), ("_Feedback", 2)]
  else (last, 0)

/-- The constant that a line defines. -/
def constantOf (line : String) : Option (String × String) :=
  let line := trim line
  if line.toList.head? = some '#' then none
  else
    match splitOnce line '=' with
    | none => none
    | some (field, value) =>
        match words field with
        | [typ, constant] =>
            if typ = "string" then
              some (constant, trimWhere (fun c => c == '\'' || c == '"') (trim value))
            else some (constant, trim ((splitText value '#').headD ""))
        | _ => none

/-- `constants`. -/
def constants (typ : String) : Std.TreeMap String String :=
  match splitText typ '/' with
  | [package, kind, last] =>
      let (base, part) := constantsIn kind last
      match env.source (package ++ "/" ++ kind ++ "/" ++ base) with
      | .error _ => ∅
      | .ok text =>
          .ofList ((lines ((splitAll text "\n---")[part]?.getD "")).filterMap constantOf)
  | _ => ∅

end Interfaces

/-! ### Descriptions -/

/-- `dependencies`: the types of the nested messages, in order. -/
def Members.dependencies (m : Members) : List String :=
  (m.fields.filter fun member => member.1.typeId = 18).map fun member => member.2.typeName

/-- The member that an empty structure is given. -/
def placeholder : String := "structure_needs_at_least_one_member"

def fieldType (f : Field) (nested : Members) : Except Error String :=
  match f.typeId with
  | 1 => .ok "float"
  | 2 => .ok "double"
  | 3 => .ok "long double"
  | 4 => .ok "uint8"
  | 5 => .ok "wchar"
  | 6 => .ok "boolean"
  | 7 => .ok "octet"
  | 8 => .ok "uint8"
  | 9 => .ok "int8"
  | 10 => .ok "uint16"
  | 11 => .ok "int16"
  | 12 => .ok "uint32"
  | 13 => .ok "int32"
  | 14 => .ok "uint64"
  | 15 => .ok "int64"
  | 16 => .ok "string"
  | 17 => .ok "wstring"
  | 18 => .ok (replaceAll nested.typeName "/msg/" "/")
  | _ => .error ⟨"unknown field type"⟩

/-- `value as i64`. -/
def wrapI64 (value : Nat) : Int := (BitVec.ofNat 64 value).toInt

def fieldLength (f : Field) : Int :=
  if !f.isArray then -1 else if f.isUpperBound then 0 else wrapI64 f.arraySize

/-- How a byte is written in Python. -/
def byteExample (byte : UInt8) : String :=
  if byte = 10 then "b'\\n'"
  else if byte = 13 then "b'\\r'"
  else if byte = 9 then "b'\\t'"
  else if byte = 92 then "b'\\\\'"
  else if byte = 39 then "b\"'\""
  else if 32 ≤ byte ∧ byte ≤ 126 then "b'" ++ String.singleton (Char.ofNat byte.toNat) ++ "'"
  else "b'\\x" ++ String.ofList (hexByte byte) ++ "'"

def fieldExample (codec : Codec) (defaults : Json) (f : Field) : String :=
  if f.isArray then "[]"
  else if f.typeId = 18 then "\x7b\x7d"
  else if f.typeId = 7 then byteExample (UInt8.ofNat (((defaults.index f.name).asU64).getD 0))
  else
    match defaults.index f.name with
    | .str text => text
    | .bool true => "True"
    | .bool false => "False"
    | value => ((codec.toText value).toOption).getD ""

/-- The lists that describe the fields of a type. -/
structure Described where
  names : List String := []
  types : List String := []
  lengths : List Int := []
  examples : List String := []
  dependencies : List String := []

def describeFields (codec : Codec) (defaults : Json) :
    List (Field × Members) → Except Error Described
  | [] => .ok {}
  | (f, nested) :: rest =>
      if f.name = placeholder then describeFields codec defaults rest
      else do
        let typ ← fieldType f nested
        let others ← describeFields codec defaults rest
        return {
          names := f.name :: others.names
          types := typ :: others.types
          lengths := fieldLength f :: others.lengths
          examples := fieldExample codec defaults f :: others.examples
          dependencies :=
            if f.typeId = 18 then nested.typeName :: others.dependencies
            else others.dependencies }

/-- The name of a type without its category. -/
def shortName (full : String) : String :=
  replaceAll (replaceAll (replaceAll full "/msg/" "/") "/srv/" "/") "/action/" "/"

/-- The entry of a type among the descriptions. -/
def typeEntry (full : String) (described : Described) (constants : Std.TreeMap String String) :
    Json :=
  .obj [ ("type", .str (shortName full)),
    ("fieldnames", .arr (described.names.map .str)),
    ("fieldtypes", .arr (described.types.map .str)),
    ("fieldarraylen", .arr (described.lengths.map .int)),
    ("examples", .arr (described.examples.map .str)),
    ("constnames", .arr (constants.toList.map fun entry => .str entry.1)),
    ("constvalues", .arr (constants.toList.map fun entry => .str entry.2)) ]

namespace Interfaces

variable (env : Interfaces)

/-- Describe one type. -/
def describe (typ : MessageType) : Except Error Described := do
  let (defaults, _) ← values env.codec typ.members typ.initial
  describeFields env.codec defaults typ.members.fields

/-- The types seen so far, and their entries. -/
abbrev Visit : Type := List String × List Json

/-- Visit these types one after the other. -/
def visitAll (visit : MessageType → Visit → Option (Except Error Visit)) :
    List String → Visit → Option (Except Error Visit)
  | [], state => some (.ok state)
  | dependency :: rest, state =>
      match env.load dependency with
      | .error cause => some (.error cause)
      | .ok typ =>
          match visit typ state with
          | some (.ok state) => visitAll visit rest state
          | stopped => stopped

/-- `visit` of `typedefs`. -/
def visit : Nat → MessageType → Visit → Option (Except Error Visit)
  | 0, _, _ => none
  | fuel + 1, typ, (seen, result) =>
      let full := typ.members.typeName
      if full ∈ seen then some (.ok (seen, result))
      else
        match describe env typ with
        | .error cause => some (.error cause)
        | .ok described =>
            visitAll env (visit fuel) described.dependencies
              (seen ++ [full], result ++ [typeEntry full described (env.constants full)])

/-- `typedefs`. -/
def typedefs (fuel : Nat) (typ : MessageType) : Option (Except Error Json) :=
  (visit env fuel typ ([], [])).map fun visited => visited.map fun state => .arr state.2

/-- The heading of a definition text after the first. -/
def rawHeading (typ : String) : String :=
  "\n================================================================================\nMSG: " ++
    replaceAll typ "/msg/" "/" ++ "\n"

/-- The loop of `raw`. The top of the stack is its head. -/
def rawLoop : Nat → List String → List String → String → Bool → Option (Except Error String)
  | 0, _, _, _, _ => none
  | _ + 1, [], _, output, _ => some (.ok output)
  | fuel + 1, current :: stack, seen, output, first =>
      match env.source current with
      | .error cause => some (.error cause)
      | .ok text =>
          let output := (if first then output else output ++ rawHeading current) ++ text
          match env.load current with
          | .error cause => some (.error cause)
          | .ok typ =>
              let pushed := Foundation.Closure.push stack seen typ.members.dependencies
              rawLoop fuel pushed.1 pushed.2 output false

/-- `raw`. -/
def raw (fuel : Nat) (typ : String) : Option (Except Error String) :=
  match typeName typ "msg" with
  | .error cause => some (.error cause)
  | .ok typ => rawLoop env fuel [typ] [] "" true

end Interfaces

end Rosbridge.Ros
