import Rosbridge.Startup.Config

/-!
Allowlists from ROS arguments (`Access::from_ros_args` of `access.rs`).

Owns: the assignments among ROS arguments, the two readings of a list, and the allowlists
they give.
-/

set_option autoImplicit false

namespace Rosbridge.Startup

/-! ### Assignments -/

/-- `args.windows(2)`. -/
def windows (args : List String) : List (String × String) := args.zip args.tail

def isFlag (arg : String) : Bool := arg = "-p" || arg = "--param"

/-- The value that a pair of arguments assigns to a parameter. -/
def assigned (name : String) (pair : String × String) : Option String :=
  if isFlag pair.1 then
    match splitOnceChars [':', '='] pair.2.toList with
    | none => none
    | some (key, value) =>
        if (splitText (String.ofList key) ':').getLast? = some name then some (String.ofList value)
        else none
  else none

/-- The values that are assigned to a parameter, in order. -/
def assignments (name : String) (args : List String) : List String :=
  (windows args).filterMap (assigned name)

/-! ### Lists -/

/-- The texts of an array of strings. -/
def Toml.strings : Toml → Except Error (List String)
  | .array items => items.mapM fun item =>
      match item with
      | .string text => .ok text
      | _ => .error ⟨"expected a glob string"⟩
  | _ => .error ⟨"expected an array of glob strings"⟩

/-- What stands between the brackets of a list. -/
def bracketed (value : String) : Option String :=
  match (trim value).toList with
  | '[' :: rest => if rest.getLast? = some ']' then some (String.ofList rest.dropLast) else none
  | _ => none

def isQuote (character : Char) : Bool := character == '\'' || character == '"'

/-- The elements of a list without quotes. -/
def elements (inner : String) : List String :=
  if trim inner = "" then [] else (splitText inner ',').map trim

/-- The list that an unquoted value stands for. -/
def unquoted (name value : String) : Except Error (List String) :=
  match bracketed value with
  | none => .error ⟨name ++ " must be an array of glob strings"⟩
  | some inner => do
      ensure (!inner.toList.any isQuote) ("invalid quoted glob array for " ++ name)
      return elements inner

variable (host : Host)

/-- The texts that a value stands for. -/
def read (name value : String) : Except Error (List String) :=
  match host.toml ("patterns = " ++ value) with
  | .ok table => table.strings
  | .error _ => unquoted name value

/-- The patterns of one parameter. -/
def parse (args : List String) (name : String) : Except Error (Option (List Pattern)) :=
  match (assignments name args).getLast? with
  | none => .ok none
  | some value => do
      let texts ← read host name value
      let patterns ← texts.mapM host.glob
      return some patterns

/-- `merge`. -/
def merge (legacy specific : Option (List Pattern)) : Option (List Pattern) :=
  match specific with
  | none => legacy
  | some patterns => some (patterns ++ legacy.getD [])

/-- `Access::from_ros_args`. -/
def fromRosArgs (args : List String) : Except Error Access := do
  let legacy ← parse host args "topics_glob"
  let pubTopics ← parse host args "topics_pub_glob"
  let subTopics ← parse host args "topics_sub_glob"
  let services ← parse host args "services_glob"
  let params ← parse host args "params_glob"
  return {
    pubTopics := merge legacy pubTopics
    subTopics := merge legacy subTopics
    services := services
    params := params }

end Rosbridge.Startup
