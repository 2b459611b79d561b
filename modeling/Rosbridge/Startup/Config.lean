import Rosbridge.Access

/-!
Settings (`config.rs` and `Access::from_ros_args` of `access.rs`).

Owns: the settings of a configuration file and of the command line, how `load` merges and
checks them, and the allowlists that are read back from ROS arguments.

The file is given as it was found and parsed. The glob and TOML crates, IP addresses and the
text of a float are parameters.
-/

set_option autoImplicit false

namespace Rosbridge.Startup

/-! ### Settings -/

inductive Timezone where
  | localTime
  | utc
deriving DecidableEq

structure Log where
  level : String := "info"
  directory : Option String := none
  rotation : String := "20min"
  maxFiles : Nat := 7
  console : Bool := true
  timezone : Timezone := .localTime
  ansi : Bool := true

/-- `Config`: the settings of a file. -/
structure Config where
  address : Option String := none
  port : Option Nat := none
  nodeName : Option String := none
  nodeNamespace : Option String := none
  useSimTime : Option Bool := none
  noRosapi : Option Bool := none
  defaultCallServiceTimeout : Option F64 := none
  maxMessageSize : Option Nat := none
  urlPath : Option String := none
  incomingQueueSize : Option Nat := none
  writeQueueSize : Option Nat := none
  writeQueueBytes : Option Nat := none
  encodingWorkers : Option Nat := none
  fragmentTimeout : Option F64 := none
  websocketPingInterval : Option F64 := none
  websocketPingTimeout : Option F64 := none
  topicsGlob : Option (List String) := none
  topicsPubGlob : Option (List String) := none
  topicsSubGlob : Option (List String) := none
  servicesGlob : Option (List String) := none
  paramsGlob : Option (List String) := none
  paramsTimeout : Option F64 := none
  log : Log := {}

/-- `Args`: the settings of the command line, or their defaults. -/
structure Args where
  logDirectory : Option String
  logLevel : Option String
  logTimezone : Option Timezone
  logAnsi : Option Bool
  urlPath : String
  incomingQueueSize : Nat
  writeQueueSize : Nat
  writeQueueBytes : Nat
  encodingWorkers : Nat
  fragmentTimeout : F64
  websocketPingInterval : F64
  websocketPingTimeout : F64
  bindIp : String
  bindPort : Nat
  nodeName : String
  nodeNamespace : String
  useSimTime : Bool
  noRosapi : Bool
  serviceTimeout : F64
  maxMessageSize : Nat
  rosArgs : List String

/-- The arguments of the command line that were given. -/
abbrev Given : Type := String → Bool

/-- A TOML value, as far as its kind is looked at. -/
inductive Toml where
  | string (text : String)
  | array (items : List Toml)
  | other

/-- What surrounds the process, and the crates it uses. -/
structure Host where
  home : Option String
  rustLog : Option String
  /-- The configuration file, found and parsed. -/
  config : Except Error Config
  parseIp : String → Option String
  glob : String → Except Error Pattern
  showF64 : F64 → String
  /-- The value of `patterns` in a TOML document that starts with its assignment. -/
  toml : String → Except Error Toml

/-! ### JSON texts -/

/-- How `serde_json` prints a character of a string. -/
def escapeChar (character : Char) : List Char :=
  if character = '"' then ['\\', '"']
  else if character = '\\' then ['\\', '\\']
  else if character.toNat = 8 then ['\\', 'b']
  else if character.toNat = 9 then ['\\', 't']
  else if character.toNat = 10 then ['\\', 'n']
  else if character.toNat = 12 then ['\\', 'f']
  else if character.toNat = 13 then ['\\', 'r']
  else if character.toNat < 32 then
    ['\\', 'u', '0', '0'] ++ hexByte (UInt8.ofNat character.toNat)
  else [character]

def jsonString (text : String) : String :=
  String.ofList (['"'] ++ text.toList.flatMap escapeChar ++ ['"'])

/-- `serde_json::to_string` of a list of strings. -/
def jsonStrings (texts : List String) : String :=
  "[" ++ joinText "," (texts.map jsonString) ++ "]"

/-! ### Loading -/

/-- `apply!`: a setting of the file counts unless the argument was given. -/
def apply {α : Type} (given : Bool) (setting : Option α) (argument : α) : α :=
  if given then argument else setting.getD argument

def ensure (condition : Bool) (message : String) : Except Error Unit :=
  if condition then .ok () else .error ⟨message⟩

/-- The allowlists of a file, under their names. -/
def Config.globs (config : Config) : List (String × Option (List String)) :=
  [ ("topics_glob", config.topicsGlob),
    ("topics_pub_glob", config.topicsPubGlob),
    ("topics_sub_glob", config.topicsSubGlob),
    ("services_glob", config.servicesGlob),
    ("params_glob", config.paramsGlob) ]

variable (host : Host)

/-- The ROS arguments for these allowlists. -/
def globParams : List (String × Option (List String)) → Except Error (List String)
  | [] => .ok []
  | (_, none) :: rest => globParams rest
  | (name, some patterns) :: rest => do
      let _ ← patterns.mapM host.glob
      let others ← globParams rest
      return ["-p", name ++ ":=" ++ jsonStrings patterns] ++ others

/-- The ROS arguments for the parameter timeout. -/
def timeoutParams (timeout : Option F64) : Except Error (List String) :=
  match timeout with
  | none => .ok []
  | some timeout => do
      ensure (timeout.isFinite && timeout.isPositive) "params_timeout must be finite and positive"
      return ["-p", "params_timeout:=" ++ host.showF64 timeout]

/-- The ROS arguments, with those for the file's parameters in front. -/
def combineArgs (params rosArgs : List String) : List String :=
  if params.isEmpty then rosArgs
  else ["--ros-args"] ++ params ++ rosArgs.filter fun arg => arg ≠ "--ros-args"

/-- `directory.strip_prefix("~")`. -/
def stripHome (directory : String) : Option String :=
  match splitText directory '/' with
  | "~" :: rest => some (joinText "/" (rest.dropWhile fun part => part = "" || part = "."))
  | _ => none

/-- `home.join(path)`. -/
def joinHome (home path : String) : String :=
  if home = "" || home.toList.getLast? = some '/' then home ++ path else home ++ "/" ++ path

/-- The log settings. -/
def loadLog (args : Args) (log : Log) : Except Error Log := do
  let log := { log with
    level := args.logLevel.getD (host.rustLog.getD log.level)
    directory := args.logDirectory.orElse fun _ => log.directory
    timezone := args.logTimezone.getD log.timezone
    ansi := args.logAnsi.getD log.ansi }
  match log.directory.bind stripHome with
  | none => return log
  | some relative =>
      match host.home with
      | none => .error ⟨"HOME is unset; use an absolute log directory"⟩
      | some home => return { log with directory := some (joinHome home relative) }

/-- The address to listen on. -/
def listenIp (config : Config) (args : Args) : Except Error String :=
  match config.address with
  | none => .ok args.bindIp
  | some address =>
      match host.parseIp (if address = "" then "0.0.0.0" else address) with
      | some ip => .ok ip
      | none => .error ⟨"address must be an IP address"⟩

/-- The address and the port of the file, unless they were given. -/
def loadBind (given : Given) (config : Config) (args : Args) : Except Error Args :=
  if given "bind" then .ok args
  else do
    let ip ← listenIp host config args
    return { args with bindIp := ip, bindPort := config.port.getD args.bindPort }

/-- The settings of the file that count are applied. -/
def applyAll (given : Given) (config : Config) (args : Args) : Args :=
  { args with
    nodeName := apply (given "node_name") config.nodeName args.nodeName
    nodeNamespace := apply (given "namespace") config.nodeNamespace args.nodeNamespace
    useSimTime := apply (given "use_sim_time") config.useSimTime args.useSimTime
    noRosapi := apply (given "no_rosapi") config.noRosapi args.noRosapi
    serviceTimeout :=
      apply (given "service_timeout") config.defaultCallServiceTimeout args.serviceTimeout
    maxMessageSize := apply (given "max_message_size") config.maxMessageSize args.maxMessageSize
    urlPath := apply (given "url_path") config.urlPath args.urlPath
    incomingQueueSize :=
      apply (given "incoming_queue_size") config.incomingQueueSize args.incomingQueueSize
    writeQueueSize := apply (given "write_queue_size") config.writeQueueSize args.writeQueueSize
    writeQueueBytes := apply (given "write_queue_bytes") config.writeQueueBytes args.writeQueueBytes
    encodingWorkers := apply (given "encoding_workers") config.encodingWorkers args.encodingWorkers
    fragmentTimeout := apply (given "fragment_timeout") config.fragmentTimeout args.fragmentTimeout
    websocketPingInterval :=
      apply (given "websocket_ping_interval") config.websocketPingInterval
        args.websocketPingInterval
    websocketPingTimeout :=
      apply (given "websocket_ping_timeout") config.websocketPingTimeout
        args.websocketPingTimeout }

/-- The checks of `load`, in order. -/
def check (args : Args) : Except Error Unit := do
  ensure (0 < args.encodingWorkers && args.encodingWorkers ≤ 256)
    "encoding_workers must be between 1 and 256"
  ensure (0 < args.writeQueueBytes) "write_queue_bytes must be positive"
  ensure (Duration.tryFromSecsF64 args.websocketPingInterval).isOk
    "websocket_ping_interval must be finite, nonnegative and representable"
  ensure ((Duration.tryFromSecsF64 args.websocketPingTimeout).toOption.any fun wait => wait ≠ 0)
    "websocket_ping_timeout must be finite, positive and representable"
  ensure (0 < args.incomingQueueSize && 0 < args.writeQueueSize) "queue sizes must be positive"
  ensure (0 < args.maxMessageSize) "max_message_size must be positive"
  ensure (args.urlPath.toList.head? = some '/' && !args.urlPath.toList.any fun character =>
      character == '?' || character == '#')
    "url_path must be an absolute URL path"
  ensure (args.fragmentTimeout.isFinite && args.fragmentTimeout.isPositive)
    "fragment_timeout must be finite and positive"
  ensure (args.serviceTimeout.isFinite && args.serviceTimeout.isPositive)
    "default_call_service_timeout must be finite and positive"

/-- `load`. -/
def load (given : Given) (args : Args) : Except Error (Args × Log) := do
  let config ← host.config
  let args ← loadBind host given config args
  let args := applyAll given config args
  check args
  let globs ← globParams host config.globs
  let timeout ← timeoutParams host config.paramsTimeout
  let args := { args with rosArgs := combineArgs (globs ++ timeout) args.rosArgs }
  let log ← loadLog host args config.log
  return (args, log)

end Rosbridge.Startup
