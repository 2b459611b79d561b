import Rosbridge.Refine.Run

/-!
The lifecycle of backend entities.

Owns: that in every state between steps the entities that exist are those the
tables stand for, each in one place, and that no entity is destroyed twice or used
when it does not exist. Also `Environment.steady`, a concrete environment.
-/

set_option autoImplicit false

namespace Rosbridge

open Foundation

/-- An environment in which every call succeeds. An entity is numbered by its place
in the history. -/
def Environment.steady : Environment where
  publisher log _ _ _ := .ok log.length
  subscription log _ _ _ := .ok log.length
  client log _ _ := .ok log.length
  service log _ _ := .ok log.length
  publish _ _ _ := .ok ()
  request log _ _ := .ok log.length
  validateResponse _ _ _ := .ok ()
  respond _ _ _ _ := .ok ()
  poll _ := .ok []
  topics _ := .ok []
  services _ := .ok []
  publisherQos _ _ := .ok []
  now _ := (0, 0)
  instant _ := 0
  uuid log := ⟨List.replicate 16 (UInt8.ofNat log.length), List.length_replicate⟩
  order _ := 0
  sendRequest _ _ _ _ _ _ := .ok ()
  isClosed _ _ := false
  base64 _ := .error ⟨"invalid Base64"⟩

/-! ### Accounting -/

section Accounting

variable {m : Machine}

/-- A ledger of acts on fresh entities, read as facts about the history. -/
theorem Balanced.lifecycle (balanced : Balanced m) (fresh : Fresh m.log) :
    (∀ entity, entity ∈ m.bridge.held ↔
      entity ∈ m.log.created ∧ entity ∉ m.log.destroyed) ∧
    m.bridge.held.Nodup ∧ m.log.destroyed.Nodup := by
  have distinct : (m.log.acts.filterMap Act.acquired?).Nodup := by
    rw [m.log.acts_acquired]
    exact fresh.entities
  obtain ⟨released, held⟩ := Ledger.nodup balanced distinct
  rw [m.log.acts_released] at released
  refine ⟨fun entity => ?_, held, released⟩
  rw [← m.log.acts_acquired, ← m.log.acts_released]
  exact Ledger.live_iff balanced distinct

/-- An entity is used after it was created and before it is destroyed. -/
theorem Balanced.used_live (balanced : Balanced m) (fresh : Fresh m.log) {before after : History}
    {entry : Entry} {entity : Entity} (split : m.log = before ++ entry :: after)
    (used : entry.used? = some entity) :
    entity ∈ before.created ∧ entity ∉ before.destroyed := by
  have acts : m.log.acts = before.acts ++ .use entity :: after.acts := by
    rw [split, History.acts, List.filterMap_append,
      List.filterMap_cons_some (Entry.act?_used used)]
    rfl
  have distinct : (m.log.acts.filterMap Act.acquired?).Nodup := by
    rw [m.log.acts_acquired]
    exact fresh.entities
  unfold Balanced at balanced
  rw [acts] at balanced distinct
  rw [← before.acts_acquired, ← before.acts_released]
  exact Ledger.used_live balanced distinct

end Accounting

/-! ### The lifecycle -/

/-- Whatever the backend answers, in every state between steps the entities created
and not destroyed are those of the tables, each in one place; none is destroyed
twice; and every publish, request and respond call is made on one that exists. -/
theorem entity_lifecycle {env : Environment} {access : Access} {timeout : Duration}
    {m : Machine} (reached : Reachable env access timeout m) (fresh : Fresh m.log) :
    (∀ entity, entity ∈ m.bridge.held ↔
      entity ∈ m.log.created ∧ entity ∉ m.log.destroyed) ∧
    m.bridge.held.Nodup ∧ m.log.destroyed.Nodup ∧
    ∀ (before : History) entry after entity, m.log = before ++ entry :: after →
      entry.used? = some entity → entity ∈ before.created ∧ entity ∉ before.destroyed := by
  have balanced := ReachableBy.balanced reached fresh
  obtain ⟨exact, held, destroyed⟩ := balanced.lifecycle fresh
  exact ⟨exact, held, destroyed, fun _ _ _ _ => balanced.used_live fresh⟩

/-- A connection that advertises a topic and calls a service. -/
theorem entity_lifecycle_steady :
    let m := (((Machine.new {} 5).next Environment.steady (.connect 0)).next Environment.steady
      (.command 0 [("op", .str "advertise"), ("topic", .str "/chatter"),
        ("type", .str "std_msgs/msg/String")])).next Environment.steady
      (.command 0 [("op", .str "call_service"), ("service", .str "/add"),
        ("type", .str "demo/srv/Add")])
    m.log.created = [2, 4] ∧ m.bridge.held.Nodup := by
  refine ⟨by decide, (entity_lifecycle (.step _ (.step _ (.step _ .here ?_ trivial) ?_ trivial) ?_
    trivial) ⟨?_, ?_, ?_⟩).2.1⟩
  all_goals decide

end Rosbridge
