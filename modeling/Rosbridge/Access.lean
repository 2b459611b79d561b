import Rosbridge.Data.Text
import Rosbridge.Data.Json
import Rosbridge.Data.Time

/-!
Forwarding allowlists of `access.rs`.

Owns: the lists, the checks the bridge makes against them, and the interface
types that carry parameters. Building the lists from ROS arguments is not owned
here.

A glob pattern comes from a third-party crate, so it is modelled by its text and
the names it matches.
-/

set_option autoImplicit false

namespace Rosbridge

/-- A compiled glob pattern. -/
structure Pattern where
  text : String
  accepts : String → Bool

/-- The allowlists. An absent list restricts nothing. -/
structure Access where
  pubTopics : Option (List Pattern) := none
  subTopics : Option (List Pattern) := none
  services : Option (List Pattern) := none
  params : Option (List Pattern) := none

/-- `matches`: the name is on the list. -/
def onList (patterns : Option (List Pattern)) (name : String) : Bool :=
  match patterns with
  | none => true
  | some patterns => patterns.any fun pattern => pattern.accepts name

/-- Services that read or write parameters without rosapi. -/
def rawParameterService (typ : String) : Bool :=
  [ "rcl_interfaces/srv/GetParameters",
    "rcl_interfaces/srv/GetParameterTypes",
    "rcl_interfaces/srv/SetParameters",
    "rcl_interfaces/srv/SetParametersAtomically",
    "rcl_interfaces/srv/ListParameters",
    "rcl_interfaces/srv/DescribeParameters" ].contains typ

/-- The parameter services of rosapi. -/
def rosapiParameterService (typ : String) : Bool :=
  [ "rosapi_msgs/srv/GetParam",
    "rosapi_msgs/srv/SetParam",
    "rosapi_msgs/srv/HasParam",
    "rosapi_msgs/srv/DeleteParam",
    "rosapi_msgs/srv/GetParamNames" ].contains typ

namespace Access

/-- `Access::topic`. -/
def topic (access : Access) (name : String) (publish : Bool) : Except Error Unit :=
  let patterns := if publish then access.pubTopics else access.subTopics
  let setting := if publish then "topics_pub_glob" else "topics_sub_glob"
  if onList patterns name then .ok () else .error ⟨setting ++ " denies " ++ name⟩

/-- `Access::service`. -/
def service (access : Access) (name : String) : Except Error Unit :=
  if onList access.services name then .ok () else .error ⟨"services_glob denies " ++ name⟩

/-- `Access::parameter_service`. -/
def parameterService (access : Access) (typ : String) (args : Json) : Except Error Unit :=
  if access.params.isNone then .ok ()
  else if rawParameterService typ then
    .error ⟨"params_glob restricts raw parameter services; use /rosapi parameter services"⟩
  else if rosapiParameterService typ && typ ≠ "rosapi_msgs/srv/GetParamNames" then
    match (args.index "name").asStr with
    | none => .error ⟨"parameter name must be a string"⟩
    | some full =>
        match splitOnce full ':' with
        | none => .error ⟨"expected <node_name>:<param_name>"⟩
        | some (_, name) =>
            if onList access.params name then .ok ()
            else .error ⟨"params_glob denies " ++ name⟩
  else .ok ()

/-- `Access::advertise_service`. -/
def advertiseService (access : Access) (typ : String) : Except Error Unit :=
  if access.params.isNone || (!rawParameterService typ && !rosapiParameterService typ) then .ok ()
  else .error ⟨"params_glob forbids client-advertised parameter services"⟩

/-- `Access::action`: the three services and two topics of an action. -/
def action (access : Access) (name : String) (advertise : Bool) : Except Error Unit := do
  access.service (name ++ "/_action/send_goal")
  access.service (name ++ "/_action/get_result")
  access.service (name ++ "/_action/cancel_goal")
  access.topic (name ++ "/_action/feedback") advertise
  access.topic (name ++ "/_action/status") advertise

/-! ### What the checks grant -/

/-- The types of an action's services carry no parameters. -/
theorem action_plain {typ : String} {package rest : List Char} (clean : '/' ∉ package)
    (shape : typ.toList = package ++ '/' :: 'a' :: rest) :
    rawParameterService typ = false ∧ rosapiParameterService typ = false := by
  have apart (other package : String) (after : List Char)
      (parts : '/' ∉ package.toList ∧ other.toList = package.toList ++ '/' :: 's' :: after) :
      typ ≠ other := by
    rintro rfl
    rw [shape] at parts
    cases (append_separator_injective clean parts.1 parts.2).2
  constructor
  · unfold rawParameterService
    simp only [List.contains_cons, List.contains_nil, Bool.or_false, Bool.or_eq_false_iff,
      beq_eq_false_iff_ne]
    refine ⟨?_, ?_, ?_, ?_, ?_, ?_⟩ <;>
      exact apart _ "rcl_interfaces" _ ⟨by decide, rfl⟩
  · unfold rosapiParameterService
    simp only [List.contains_cons, List.contains_nil, Bool.or_false, Bool.or_eq_false_iff,
      beq_eq_false_iff_ne]
    refine ⟨?_, ?_, ?_, ?_, ?_⟩ <;>
      exact apart _ "rosapi_msgs" _ ⟨by decide, rfl⟩

/-- A request to a service of the given type asks rosapi for no parameter that is not on
the list. -/
def Permits (access : Access) (typ : String) (args : Json) : Prop :=
  access.params.isSome = true → rosapiParameterService typ = true →
    typ ≠ "rosapi_msgs/srv/GetParamNames" → ∃ full node name,
      (args.index "name").asStr = some full ∧ splitOnce full ':' = some (node, name) ∧
        onList access.params name = true

variable {access : Access} {text typ : String} {publish : Bool} {args : Json}

theorem topic_ok : access.topic text publish = .ok () ↔
    onList (if publish then access.pubTopics else access.subTopics) text = true := by
  unfold topic
  cases listed : onList (if publish then access.pubTopics else access.subTopics) text <;>
    simp only [listed, if_true, Bool.false_eq_true, if_false, reduceCtorEq]

theorem service_ok : access.service text = .ok () ↔ onList access.services text = true := by
  unfold service
  cases listed : onList access.services text <;>
    simp only [if_true, Bool.false_eq_true, if_false, reduceCtorEq]

theorem parameterService_ok (allowed : access.parameterService typ args = .ok ()) :
    (access.params.isSome = true → rawParameterService typ = false) ∧
      access.Permits typ args := by
  unfold parameterService at allowed
  split at allowed
  · next absent =>
      rw [Option.isNone_iff_eq_none] at absent
      exact ⟨by simp [absent], fun restricted => by simp [absent] at restricted⟩
  · split at allowed
    · cases allowed
    · next notRaw =>
        refine ⟨fun _ => by simpa using notRaw, fun _ rosapi other => ?_⟩
        simp only [rosapi, Bool.true_and, decide_eq_true other, if_true] at allowed
        split at allowed
        · cases allowed
        · next full isName =>
            split at allowed
            · cases allowed
            · next node name parts =>
                split at allowed
                · next listed => exact ⟨full, node, name, isName, parts, listed⟩
                · cases allowed

theorem advertiseService_ok (allowed : access.advertiseService typ = .ok ()) :
    access.params.isSome = true →
      rawParameterService typ = false ∧ rosapiParameterService typ = false := by
  intro restricted
  unfold advertiseService at allowed
  split at allowed
  · next free =>
      rw [← Option.not_isSome, restricted] at free
      simpa using free
  · cases allowed

/-- The names of an action are all on the lists. -/
theorem action_ok (allowed : access.action text publish = .ok ()) :
    onList access.services (text ++ "/_action/send_goal") = true ∧
      onList access.services (text ++ "/_action/get_result") = true ∧
      onList access.services (text ++ "/_action/cancel_goal") = true ∧
      onList (if publish then access.pubTopics else access.subTopics)
        (text ++ "/_action/feedback") = true ∧
      onList (if publish then access.pubTopics else access.subTopics)
        (text ++ "/_action/status") = true := by
  have ok_of_bind {first next : Except Error Unit}
      (ran : (do let _ ← first; next) = .ok ()) : first = .ok () ∧ next = .ok () := by
    cases first with
    | ok value => exact ⟨rfl, ran⟩
    | error cause => cases ran
  unfold action at allowed
  obtain ⟨send, allowed⟩ := ok_of_bind allowed
  obtain ⟨result, allowed⟩ := ok_of_bind allowed
  obtain ⟨cancel, allowed⟩ := ok_of_bind allowed
  obtain ⟨feedback, status⟩ := ok_of_bind allowed
  exact ⟨service_ok.mp send, service_ok.mp result, service_ok.mp cancel, topic_ok.mp feedback,
    topic_ok.mp status⟩

end Access

end Rosbridge
