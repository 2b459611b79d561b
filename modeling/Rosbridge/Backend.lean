import Rosbridge.Data.Text
import Rosbridge.Wire.Options

/-!
The ROS backend contract of `backend.rs`: interface names, quality of service
and the events a poll returns.

The backend itself is not owned here. Each of its calls is answered by the
environment of a run.
-/

set_option autoImplicit false

namespace Rosbridge

/-- A handle of a publisher, subscription, client or service. -/
abbrev Entity : Type := Nat

/-- `type_name`: the full name of an interface of the given category. -/
def typeName (name category : String) : Except Error String := do
  let parts ← match splitText name '/' with
    | [package, typ] => .ok (package, typ)
    | [package, kind, typ] =>
        if kind = category then .ok (package, typ)
        else .error ⟨"invalid " ++ category ++ " type: " ++ name⟩
    | _ => .error ⟨"invalid " ++ category ++ " type: " ++ name⟩
  let valid (part : String) : Bool := part ≠ "" && part.toList.all isNameChar
  if valid parts.1 && valid category && valid parts.2 then
    -- ROS 1 clients still use the rosapi package name for ROS 2 services.
    let package := if category = "srv" ∧ parts.1 = "rosapi" then "rosapi_msgs" else parts.1
    return joinText "/" [package, category, parts.2]
  else .error ⟨"invalid interface type"⟩

/-- An interface name is its package, then its category, then a last part. -/
theorem typeName_shape {text category typ : String} (named : typeName text category = .ok typ) :
    ∃ package last : String, '/' ∉ package.toList ∧
      typ = package ++ "/" ++ (category ++ "/" ++ last) := by
  have joined {package last : String} {valid : Bool}
      (checked : valid = true → package.toList.all isNameChar = true)
      (result : (if valid then .ok (joinText "/"
        [if category = "srv" ∧ package = "rosapi" then "rosapi_msgs" else package, category, last])
        else .error ⟨"invalid interface type"⟩ : Except Error String) = .ok typ) :
      ∃ package last : String, '/' ∉ package.toList ∧
        typ = package ++ "/" ++ (category ++ "/" ++ last) := by
    split at result
    · next holds =>
        obtain rfl := Except.ok.inj result
        refine ⟨_, last, ?_, rfl⟩
        split
        · decide
        · exact slash_free (checked holds)
    · cases result
  have first {name : Bool} {rest last : Bool} {package : String}
      (all : ((name && package.toList.all isNameChar) && rest && last) = true) :
      package.toList.all isNameChar = true := by
    simp only [Bool.and_eq_true] at all
    exact all.1.1.2
  unfold typeName at named
  split at named
  · exact joined first named
  · next package kind last _ =>
      by_cases same : kind = category
      · simp only [if_pos same] at named
        exact joined first named
      · simp only [if_neg same] at named
        cases named
  · cases named
/-- A converted sample: its JSON and CBOR views, its bytes and its arrival time. -/
structure RosMessage where
  json : Json
  cbor : Cbor
  raw : List UInt8
  stamp : Int × Nat

/-- What one poll reports. -/
inductive Event where
  | message (entity : Entity) (sample : RosMessage)
  | request (entity : Entity) (request : Nat) (args : Json)
  | response (entity : Entity) (sequence : Int) (values : Json)

/-- Names of the graph with the types seen under each. -/
abbrev Graph : Type := List (String × List String)

structure Qos where
  history : Nat := 0
  depth : Nat := 0
  reliability : Nat := 0
  durability : Nat := 0
  deadline : Nat × Nat := (0, 0)
  lifespan : Nat × Nat := (0, 0)
deriving DecidableEq

namespace Qos

def publisher : Qos := { history := 1, depth := 100, reliability := 1, durability := 1 }

def subscriber : Qos := { history := 1, depth := 10, reliability := 2, durability := 2 }

def service : Qos := { history := 1, depth := 10, reliability := 1, durability := 2 }

/-- `policy`: a policy name in any case. -/
def policy (value : Json) (names : List (String × Nat)) : Except Error Nat :=
  match value.asStr with
  | none => .error ⟨"QoS policy must be a string"⟩
  | some name =>
      match names.find? fun entry => eqIgnoreAsciiCase entry.1 name with
      | some entry => .ok entry.2
      | none => .error ⟨"invalid QoS policy: " ++ name⟩

/-- `duration`: seconds, an object of seconds and nanoseconds, or infinite. -/
def duration (v : Json) : Except Error (Nat × Nat) :=
  if v.asStr.any fun text => eqIgnoreAsciiCase text "infinite" then
    .ok (9223372036, 854775807)
  else
    match v.asF64 with
    | some seconds =>
        if seconds.toRat?.any fun value => 0 ≤ value ∧ value < 2 ^ 64 then do
          let length ← Duration.tryFromSecsF64 seconds
          return (length / nanosPerSecond, length % nanosPerSecond)
        else .error ⟨"invalid duration"⟩
    | none =>
        match (v.index "secs").asU64, (v.index "nsecs").asU64 with
        | some secs, some nanos =>
            if secs + nanos / nanosPerSecond < 2 ^ 64 then
              .ok (secs + nanos / nanosPerSecond, nanos % nanosPerSecond)
            else .error ⟨"duration overflow"⟩
        | _, _ => .error ⟨"duration requires nonnegative secs and nsecs"⟩

/-- One field of a quality-of-service object. -/
def parseField (qos : Qos) (key : String) (value : Json) : Except Error Qos :=
  match key with
  | "history" => do
      let history ← policy value [("keep_last", 1), ("keep_all", 2)]
      return { qos with history }
  | "reliability" => do
      let reliability ← policy value [("reliable", 1), ("best_effort", 2), ("best_available", 4)]
      return { qos with reliability }
  | "durability" => do
      let durability ←
        policy value [("transient_local", 1), ("volatile", 2), ("best_available", 4)]
      return { qos with durability }
  | "depth" =>
      match value.asU64 with
      | some depth => .ok { qos with depth := depth }
      | none => .error ⟨"depth must be a nonnegative integer"⟩
  | "deadline" =>
      if value.asStr.any fun text => eqIgnoreAsciiCase text "best_available" then
        .ok { qos with deadline := (9223372036, 854775806) }
      else do
        let deadline ← duration value
        return { qos with deadline }
  | "lifespan" => do
      let lifespan ← duration value
      return { qos with lifespan }
  | _ => .error ⟨"unknown QoS field: " ++ key⟩

/-- `Qos::parse`. -/
def parse (value : Json) : Except Error Qos :=
  match value.asObject with
  | none => .error ⟨"qos must be an object"⟩
  | some fields => fields.foldlM (fun qos field => parseField qos field.1 field.2) {}

end Qos

end Rosbridge
