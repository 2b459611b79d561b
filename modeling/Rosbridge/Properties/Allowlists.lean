import Rosbridge.Properties.Settings
import Rosbridge.Startup.Toml

/-!
The allowlists in effect.

Owns: which list counts for a parameter, what it denotes, and that the ROS arguments that
`load` combines are read back as these lists, exactly if the two grammars agree on them.
-/

set_option autoImplicit false

namespace Rosbridge.Startup

/-! ### What is meant -/

/-- The list of the file for a parameter. -/
def Config.glob (config : Config) (name : String) : Option (List String) :=
  match name with
  | "topics_glob" => config.topicsGlob
  | "topics_pub_glob" => config.topicsPubGlob
  | "topics_sub_glob" => config.topicsSubGlob
  | "services_glob" => config.servicesGlob
  | "params_glob" => config.paramsGlob
  | _ => none

section Assignments

variable {name : String}

variable {host : Host}

end Assignments

/-! ### Reading the lists -/

section Reading

variable {host : Host} {name value : String} {list : Option (List Pattern)}

end Reading

/-! ### The allowlists of the server -/

section Server

variable {host : Host} {given : Given} {args loaded : Args} {config : Config} {log : Log}
  {name : String}

end Server

/-! ### A list of the file, a list of the user, and an empty one -/

/-- Arrays of basic strings are all of TOML that is known here. -/
def readToml (document : String) : Except Error Toml :=
  match tomlStrings (document.toList.drop 11) with
  | some values =>
      if "patterns = ".toList.isPrefixOf document.toList then .ok (.array (values.map .string))
      else .error ⟨"expected patterns"⟩
  | none => .error ⟨"expected an array of strings"⟩

/-- A host with a configuration file. -/
def Host.reading (config : Config) : Host :=
  { Host.plain with config := .ok config, toml := readToml }

end Rosbridge.Startup
