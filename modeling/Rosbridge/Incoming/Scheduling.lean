import Rosbridge.Incoming.Channel

/-!
What one call does to a coherent channel.

Owns: coherence, which ties the ready queue to the clients' fields; `Effect`, the
outcomes and state changes of a call; that every call has one of these effects; and
that the effects keep coherence.
-/

set_option autoImplicit false

namespace Rosbridge.Incoming

open Foundation

variable {ω : Type}

/-! ### Coherence -/

/-- There is a command to hand out. -/
def Client.HasWork (client : Client ω) : Prop :=
  client.output.isSome ∨ client.messages ≠ [] ∨ client.disconnect

/-- A client waits for its turn exactly when it has work. -/
structure Client.Sound (capacity : Nat) (client : Client ω) : Prop where
  busy : client.scheduled = true ↔ client.HasWork
  bounded : client.messages.length ≤ capacity

/-- The ready queue lists each scheduled client once, and nothing else. -/
structure Coherent (s : State ω) : Prop where
  distinct : s.ready.Nodup
  listed : ∀ id, id ∈ s.ready ↔ ∃ client, s.clients.lookup id = some client ∧ client.scheduled
  sound : ∀ id client, s.clients.lookup id = some client → client.Sound s.capacity
  emptied : s.closed = true → s.clients = ∅ ∧ s.ready = []

namespace Coherent

variable {s : State ω} {id : Connection} {client : Client ω} {rest : List Connection}

theorem opened {capacity : Nat} (created : channel (ω := ω) capacity = .ok s) :
    Coherent s ∧ s.capacity = capacity ∧ s.closed = false ∧ s.clients = ∅ := by
  unfold channel at created
  split at created
  · cases created
    exact ⟨⟨List.nodup_nil, fun id => by simp, fun id client found => by simp at found,
      fun closed => by simp at closed⟩, rfl, rfl, rfl⟩
  · cases created

theorem running (coherent : Coherent s) (found : s.clients.lookup id = some client) :
    s.closed = false := by
  cases closed : s.closed with
  | false => rfl
  | true =>
      rw [(coherent.emptied closed).1, AList.lookup_empty] at found
      cases found

/-- The client at the front of the queue is registered, and has work. -/
theorem front (coherent : Coherent s) (queue : s.ready = id :: rest) :
    ∃ client, s.clients.lookup id = some client ∧ client.scheduled ∧ client.HasWork := by
  obtain ⟨client, found, scheduled⟩ :=
    (coherent.listed id).mp (queue ▸ List.mem_cons_self)
  exact ⟨client, found, scheduled, (coherent.sound id client found).busy.mp scheduled⟩

/-- A client that is not scheduled is not in the queue. -/
theorem unlisted (coherent : Coherent s) (found : s.clients.lookup id = some client)
    (idle : client.scheduled = false) : id ∉ s.ready := by
  intro member
  obtain ⟨other, same, scheduled⟩ := (coherent.listed id).mp member
  rw [found] at same
  cases same
  rw [idle] at scheduled
  cases scheduled

end Coherent

/-! ### Effects -/

/-- `after` differs from `before` in the client `id` and in the ready queue only. -/
structure Turns (id : Connection) (client : Option (Client ω)) (ready : List Connection)
    (before after : State ω) : Prop where
  lookup : ∀ other, after.clients.lookup other =
    if other = id then client else before.clients.lookup other
  ready : after.ready = ready
  capacity : after.capacity = before.capacity
  closed : after.closed = before.closed

/-- The queue after `schedule`. -/
def queued (id : Connection) (scheduled : Bool) (ready : List Connection) : List Connection :=
  if scheduled then ready else ready ++ [id]

/-- The client after its turn. -/
def Client.served (client : Client ω) (output : Option ω) (messages : List Json) : Client ω :=
  { client with output := output, messages := messages, scheduled := !messages.isEmpty }

/-- What a call does. -/
inductive Effect : Event ω → State ω → State ω → Prop where
  | refused {call : Call ω} {cause : Error} {state : State ω} (sent : call ≠ .tryRecv) :
      Effect ⟨call, .error cause⟩ state state
  | connected {id : Connection} {output : ω} {before after : State ω}
      (running : before.closed = false) (absent : before.clients.lookup id = none)
      (turns : Turns id (some ⟨some output, [], false, true⟩) (before.ready ++ [id])
        before after) :
      Effect ⟨.connect id output, .ok none⟩ before after
  | accepted {id : Connection} {value : Json} {client : Client ω} {before after : State ω}
      (found : before.clients.lookup id = some client) (staying : client.disconnect = false)
      (space : client.messages.length < before.capacity)
      (turns : Turns id
        (some { client with messages := client.messages ++ [value], scheduled := true })
        (queued id client.scheduled before.ready) before after) :
      Effect ⟨.message id value, .ok none⟩ before after
  | unknown {id : Connection} {state : State ω} (absent : state.clients.lookup id = none) :
      Effect ⟨.disconnect id, .ok none⟩ state state
  | leaving {id : Connection} {client : Client ω} {before after : State ω}
      (found : before.clients.lookup id = some client)
      (turns : Turns id
        (some { client with messages := [], disconnect := true, scheduled := true })
        (queued id client.scheduled before.ready) before after) :
      Effect ⟨.disconnect id, .ok none⟩ before after
  | shut (state : State ω) :
      Effect ⟨.shutdown, .ok none⟩ state { state with clients := ∅, ready := [], closed := true }
  | finished {state : State ω} (closed : state.closed = true) :
      Effect ⟨.tryRecv, .ok (some .shutdown)⟩ state state
  | idle {state : State ω} (running : state.closed = false) (empty : state.ready = []) :
      Effect ⟨.tryRecv, .ok none⟩ state state
  | dropped {id : Connection} {client : Client ω} {rest : List Connection}
      {before after : State ω} (queue : before.ready = id :: rest)
      (found : before.clients.lookup id = some client) (leaving : client.disconnect = true)
      (turns : Turns id none rest before after) :
      Effect ⟨.tryRecv, .ok (some (.disconnect id))⟩ before after
  | introduced {id : Connection} {output : ω} {client : Client ω} {rest : List Connection}
      {before after : State ω} (queue : before.ready = id :: rest)
      (found : before.clients.lookup id = some client) (staying : client.disconnect = false)
      (pending : client.output = some output)
      (turns : Turns id (some (client.served none client.messages))
        (queued id client.messages.isEmpty rest) before after) :
      Effect ⟨.tryRecv, .ok (some (.connect id output))⟩ before after
  | delivered {id : Connection} {value : Json} {messages : List Json} {client : Client ω}
      {rest : List Connection} {before after : State ω} (queue : before.ready = id :: rest)
      (found : before.clients.lookup id = some client) (staying : client.disconnect = false)
      (started : client.output = none) (pending : client.messages = value :: messages)
      (turns : Turns id (some (client.served client.output messages))
        (queued id messages.isEmpty rest) before after) :
      Effect ⟨.tryRecv, .ok (some (.message id value))⟩ before after

/-! ### Every call has one of the effects -/

section Specs

variable {s : State ω} {id : Connection} {client : Client ω}

@[simp] theorem wp_setClient {post : Outcome Error Unit → State ω → Prop}
    (change : Client ω → Client ω) :
    Program.wp (setClient id change) post s ↔
      post (.ok ()) { s with clients := s.clients.alter id change } := Iff.rfl

theorem wp_schedule {post : Outcome Error Unit → State ω → Prop}
    (found : s.clients.lookup id = some client)
    (done : ∀ after, Turns id (some { client with scheduled := true })
      (queued id client.scheduled s.ready) s after → post (.ok ()) after) :
    Program.wp (schedule id) post s := by
  unfold schedule
  rw [Program.wp_bind, Program.wp_get, Program.andThen_ok]
  refine Program.wp_bind_unwrap (fun missing => ?_) fun inner same => ?_
  · rw [found] at missing
    cases missing
  · rw [found] at same
    cases same
    rw [Program.wp_whenever]
    cases scheduled : client.scheduled with
    | true =>
        refine done s ⟨fun other => ?_, by simp [queued, scheduled], rfl, rfl⟩
        split
        · next atId =>
            subst atId
            rw [found, ← scheduled]
        · rfl
    | false =>
        refine done _ ⟨fun other => ?_, by rw [scheduled]; rfl, rfl, rfl⟩
        show AList.lookup other (AList.alter _ _ _) = _
        rw [AList.lookup_alter, found]
        rfl

/-- The client itself after a change in place. -/
theorem lookup_set {change : Client ω → Client ω} (found : s.clients.lookup id = some client) :
    ({ s with clients := s.clients.alter id change } : State ω).clients.lookup id =
      some (change client) := by
  show AList.lookup id (AList.alter _ _ _) = _
  rw [AList.lookup_alter, if_pos rfl, found]
  rfl

/-- One change to a client after another. -/
theorem Turns.after_set {change : Client ω → Client ω} {last : Option (Client ω)}
    {ready : List Connection} {after : State ω}
    (turns : Turns id last ready { s with clients := s.clients.alter id change } after) :
    Turns id last ready s after := by
  refine ⟨fun other => ?_, turns.ready, turns.capacity, turns.closed⟩
  rw [turns.lookup]
  split
  · rfl
  · next different =>
      show AList.lookup other (AList.alter _ _ _) = _
      rw [AList.lookup_alter, if_neg different]

/-- The queue before a turn does not matter. -/
theorem Turns.after_pop {last : Option (Client ω)} {rest ready : List Connection}
    {after : State ω} (turns : Turns id last ready { s with ready := rest } after) :
    Turns id last ready s after :=
  ⟨turns.lookup, turns.ready, turns.capacity, turns.closed⟩

/-- A change to one client, then `schedule`. -/
theorem wp_set_schedule {post : Outcome Error Unit → State ω → Prop}
    (change : Client ω → Client ω) (found : s.clients.lookup id = some client)
    (done : ∀ after, Turns id (some { change client with scheduled := true })
      (queued id (change client).scheduled s.ready) s after → post (.ok ()) after) :
    Program.wp (setClient id change >>= fun _ => schedule id) post s := by
  rw [Program.wp_bind, wp_setClient, Program.andThen_ok]
  refine wp_schedule (lookup_set found) fun after turns =>
    done after (Turns.after_set turns)

theorem connect_spec (output : ω) :
    Program.wp (connect id output) (fun outcome after =>
      (∃ cause, outcome = .error cause ∧ after = s) ∨
      (outcome = .ok () ∧ s.closed = false ∧ s.clients.lookup id = none ∧
        Turns id (some ⟨some output, [], false, true⟩) (s.ready ++ [id]) s after)) s := by
  unfold connect
  rw [Program.wp_bind, Program.wp_get, Program.andThen_ok]
  refine Program.wp_bind_ensure (fun _ => .inl ⟨_, rfl, rfl⟩) fun running => ?_
  refine Program.wp_bind_ensure (fun _ => .inl ⟨_, rfl, rfl⟩) fun absent => ?_
  rw [Program.wp_bind, Program.wp_modify, Program.andThen_ok]
  refine wp_schedule (AList.lookup_insert _) fun after turns =>
    .inr ⟨rfl, by simpa using running, by simpa using absent, fun other => ?_, turns.ready,
      turns.capacity, turns.closed⟩
  rw [turns.lookup]
  split
  · rfl
  · next different => exact AList.lookup_insert_ne different

theorem message_spec (value : Json) :
    Program.wp (message id value) (fun outcome after =>
      (∃ cause, outcome = .error cause ∧ after = s) ∨
      (outcome = .ok () ∧ ∃ client, s.clients.lookup id = some client ∧
        client.disconnect = false ∧ client.messages.length < s.capacity ∧
        Turns id (some { client with messages := client.messages ++ [value], scheduled := true })
          (queued id client.scheduled s.ready) s after)) s := by
  unfold message
  rw [Program.wp_bind, Program.wp_get, Program.andThen_ok]
  refine Program.wp_bind_ensure (fun _ => .inl ⟨_, rfl, rfl⟩) fun running => ?_
  cases found : s.clients.lookup id with
  | none => exact .inl ⟨_, rfl, rfl⟩
  | some client =>
      refine Program.wp_bind_ensure (fun _ => .inl ⟨_, rfl, rfl⟩) fun staying => ?_
      refine Program.wp_bind_ensure (fun _ => .inl ⟨_, rfl, rfl⟩) fun space => ?_
      exact wp_set_schedule _ found fun after turns =>
        .inr ⟨rfl, client, rfl, by simpa using staying, by simpa using space, turns⟩

theorem disconnect_spec :
    Program.wp (disconnect id) (fun outcome after => outcome = .ok () ∧
      (s.clients.lookup id = none ∧ after = s ∨
      ∃ client, s.clients.lookup id = some client ∧
        Turns id (some { client with messages := [], disconnect := true, scheduled := true })
          (queued id client.scheduled s.ready) s after)) s := by
  unfold disconnect
  rw [Program.wp_bind, Program.wp_get, Program.andThen_ok]
  cases found : s.clients.lookup id with
  | none => exact ⟨rfl, .inl ⟨rfl, rfl⟩⟩
  | some client =>
      exact wp_set_schedule _ found fun after turns => ⟨rfl, .inr ⟨client, rfl, turns⟩⟩

/-- The end of a turn: back into the queue if messages remain. -/
theorem wp_reschedule {post : Outcome Error (Option (Command ω)) → State ω → Prop}
    {command : Command ω} (found : s.clients.lookup id = some client)
    (resting : client.scheduled = false)
    (done : ∀ after, Turns id (some { client with scheduled := !client.messages.isEmpty })
      (queued id client.messages.isEmpty s.ready) s after → post (.ok (some command)) after) :
    Program.wp (do
      let s ← Program.get
      let client ← Program.unwrap "clients" (s.clients.lookup id)
      Program.whenever (!client.messages.isEmpty) (schedule id)
      pure (some command)) post s := by
  rw [Program.wp_bind, Program.wp_get, Program.andThen_ok]
  refine Program.wp_bind_unwrap (fun missing => ?_) fun inner same => ?_
  · rw [found] at missing
    cases missing
  · rw [found] at same
    cases same
    rw [Program.wp_bind, Program.wp_whenever]
    cases empty : client.messages.isEmpty with
    | true =>
        refine done s ⟨fun other => ?_, by rw [empty]; rfl, rfl, rfl⟩
        split
        · next atId =>
            subst atId
            rw [found, empty, Bool.not_true, ← resting]
        · rfl
    | false =>
        rw [Bool.not_false, if_pos rfl]
        refine wp_schedule found fun after turns => ?_
        rw [resting] at turns
        rw [empty] at done
        exact done after turns

theorem tryRecv_spec (coherent : Coherent s) :
    Program.wp tryRecv (fun outcome after => Effect ⟨.tryRecv, outcome⟩ s after) s := by
  unfold tryRecv
  rw [Program.wp_bind, Program.wp_get, Program.andThen_ok]
  cases closed : s.closed with
  | true => exact .finished closed
  | false =>
      cases queue : s.ready with
      | nil => exact .idle closed queue
      | cons id rest =>
          obtain ⟨client, found, scheduled, work⟩ := coherent.front queue
          rw [if_neg Bool.false_ne_true]
          show Program.wp (_ >>= _) _ _
          rw [Program.wp_bind, Program.wp_modify, Program.andThen_ok]
          refine Program.wp_bind_unwrap (fun missing => ?_) fun inner same => ?_
          · rw [found] at missing
            cases missing
          rw [found] at same
          cases same
          rw [Program.wp_bind, wp_setClient, Program.andThen_ok]
          cases leaving : client.disconnect with
          | true =>
              refine .dropped queue found leaving ⟨fun other => ?_, rfl, rfl, rfl⟩
              show AList.lookup other (AList.erase _ _) = _
              rw [AList.lookup_erase_if, AList.lookup_alter]
              split <;> rfl
          | false =>
              rw [if_neg Bool.false_ne_true, Program.wp_bind]
              unfold takeCommand
              cases pending : client.output with
              | some output =>
                  rw [Program.wp_bind, wp_setClient, Program.andThen_ok, Program.wp_pure,
                    Program.andThen_ok]
                  refine wp_reschedule (lookup_set (lookup_set found)) rfl fun after turns => ?_
                  exact .introduced queue found leaving pending
                    (Turns.after_set (Turns.after_set turns)).after_pop
              | none =>
                  cases waiting : client.messages with
                  | cons value messages =>
                      rw [Program.wp_bind, wp_setClient, Program.andThen_ok, Program.wp_pure,
                        Program.andThen_ok]
                      refine wp_reschedule (lookup_set (lookup_set found)) rfl
                        fun after turns => ?_
                      exact .delivered queue found leaving pending waiting
                        (Turns.after_set (Turns.after_set turns)).after_pop
                  | nil =>
                      rcases work with output | nonempty | disconnecting
                      · rw [pending] at output
                        cases output
                      · exact absurd waiting nonempty
                      · rw [leaving] at disconnecting
                        cases disconnecting

/-- A call on a coherent channel has one of the effects. -/
theorem Takes.effect {event : Event ω} {before after : State ω} (coherent : Coherent before)
    (taken : Takes event before after) : Effect event before after := by
  obtain ⟨call, outcome⟩ := event
  suffices Program.wp (perform call) (fun outcome after => Effect ⟨call, outcome⟩ before after)
      before by
    rwa [Program.wp_iff, show perform call before = (outcome, after) from taken] at this
  cases call with
  | connect id output =>
      refine (Program.wp_bind _ _).mpr (Program.wp_mono (connect_spec output) ?_)
      rintro _ after (⟨cause, rfl, rfl⟩ | ⟨rfl, running, absent, turns⟩)
      · exact .refused nofun
      · exact .connected running absent turns
  | message id value =>
      refine (Program.wp_bind _ _).mpr (Program.wp_mono (message_spec value) ?_)
      rintro _ after (⟨cause, rfl, rfl⟩ | ⟨rfl, client, found, staying, space, turns⟩)
      · exact .refused nofun
      · exact .accepted found staying space turns
  | disconnect id =>
      refine (Program.wp_bind _ _).mpr (Program.wp_mono disconnect_spec ?_)
      rintro _ after ⟨rfl, ⟨absent, rfl⟩ | ⟨client, found, turns⟩⟩
      · exact .unknown absent
      · exact .leaving found turns
  | shutdown => exact .shut before
  | tryRecv => exact tryRecv_spec coherent

end Specs

/-! ### The effects keep coherence -/

section Preservation

variable {id : Connection} {before after : State ω} {ready rest : List Connection}

/-- Coherence after a change to one client, from what holds of that client. -/
theorem Turns.coherent {client : Option (Client ω)} (turns : Turns id client ready before after)
    (coherent : Coherent before) (running : before.closed = false) (distinct : ready.Nodup)
    (others : ∀ other, other ≠ id → (other ∈ ready ↔ other ∈ before.ready))
    (listed : id ∈ ready ↔ ∃ inner, client = some inner ∧ inner.scheduled)
    (sound : ∀ inner, client = some inner → inner.Sound before.capacity) : Coherent after where
  distinct := turns.ready ▸ distinct
  listed other := by
    rw [turns.ready, turns.lookup]
    split
    · next same => exact same ▸ listed
    · next different => exact (others other different).trans (coherent.listed other)
  sound other inner found := by
    rw [turns.lookup] at found
    rw [turns.capacity]
    split at found
    · exact sound inner found
    · exact coherent.sound other inner found
  emptied closed := by
    rw [turns.closed, running] at closed
    cases closed

theorem mem_queued {scheduled : Bool} {other : Connection} :
    other ∈ queued id scheduled ready ↔ other ∈ ready ∨ (other = id ∧ scheduled = false) := by
  unfold queued
  cases scheduled <;> simp

theorem queued_nodup (scheduled : Bool) (distinct : ready.Nodup)
    (absent : scheduled = false → id ∉ ready) : (queued id scheduled ready).Nodup := by
  unfold queued
  cases scheduled with
  | true => exact distinct
  | false =>
      rw [← List.concat_eq_append]
      exact distinct.concat (absent rfl)

/-- A client that is put into the queue, or stays in it. -/
theorem Turns.coherent_queued {client next : Client ω}
    (turns : Turns id (some next) (queued id client.scheduled before.ready) before after)
    (coherent : Coherent before) (found : before.clients.lookup id = some client)
    (scheduled : next.scheduled = true) (work : next.HasWork)
    (bounded : next.messages.length ≤ before.capacity) : Coherent after := by
  have absent : client.scheduled = false → id ∉ before.ready := coherent.unlisted found
  refine turns.coherent coherent (coherent.running found)
    (queued_nodup _ coherent.distinct absent) (fun other different => ?_) ?_ ?_
  · rw [mem_queued]
    exact ⟨fun member => member.resolve_right fun last => different last.1, .inl⟩
  · refine ⟨fun _ => ⟨next, rfl, scheduled⟩, fun _ => mem_queued.mpr ?_⟩
    cases listed : client.scheduled with
    | true => exact .inl ((coherent.listed id).mpr ⟨client, found, listed⟩)
    | false => exact .inr ⟨rfl, rfl⟩
  · rintro inner ⟨⟩
    exact ⟨⟨fun _ => work, fun _ => scheduled⟩, bounded⟩

/-- A client that had its turn, and waits for another if it has messages left. -/
theorem Turns.coherent_served {client : Client ω} {output : Option ω} {messages : List Json}
    (turns : Turns id (some (client.served output messages)) (queued id messages.isEmpty rest)
      before after)
    (coherent : Coherent before) (running : before.closed = false)
    (queue : before.ready = id :: rest) (started : output = none)
    (staying : client.disconnect = false) (bounded : messages.length ≤ before.capacity) :
    Coherent after := by
  have distinct := queue ▸ coherent.distinct
  obtain ⟨unlisted, distinctRest⟩ := List.nodup_cons.mp distinct
  have served : (client.served output messages).HasWork ↔ messages ≠ [] := by
    simp [Client.HasWork, Client.served, started, staying]
  refine turns.coherent coherent running (queued_nodup _ distinctRest fun _ => unlisted)
    (fun other different => ?_) ?_ ?_
  · rw [mem_queued, queue, List.mem_cons]
    simp [different]
  · simp [mem_queued, unlisted, Client.served]
  · rintro inner ⟨⟩
    refine ⟨Iff.trans ?_ served.symm, bounded⟩
    simp [Client.served]

theorem Effect.coherent {event : Event ω} (effect : Effect event before after)
    (coherent : Coherent before) : Coherent after := by
  cases effect with
  | refused | unknown | finished | idle => exact coherent
  | connected running absent turns =>
      have unlisted : _ ∉ before.ready := fun member => by
        obtain ⟨client, found, -⟩ := (coherent.listed _).mp member
        rw [absent] at found
        cases found
      refine turns.coherent coherent running
        (queued_nodup false coherent.distinct fun _ => unlisted) ?_ ?_ ?_
      · intro other different
        simp [different]
      · simp
      · rintro inner ⟨⟩
        exact ⟨by simp [Client.HasWork], Nat.zero_le _⟩
  | accepted found staying space turns =>
      refine turns.coherent_queued coherent found rfl ?_ ?_
      · exact .inr (.inl (by simp))
      · rw [List.length_append]
        exact space
  | leaving found turns =>
      exact turns.coherent_queued coherent found rfl (.inr (.inr rfl)) (Nat.zero_le _)
  | shut =>
      exact ⟨List.nodup_nil, fun id => by simp, fun id client found => by simp at found,
        fun _ => ⟨rfl, rfl⟩⟩
  | dropped queue found leaving turns =>
      have distinct := queue ▸ coherent.distinct
      obtain ⟨unlisted, distinctRest⟩ := List.nodup_cons.mp distinct
      refine turns.coherent coherent (coherent.running found) distinctRest ?_ ?_ ?_
      · intro other different
        simp [queue, different]
      · simp [unlisted]
      · rintro inner ⟨⟩
  | introduced queue found staying pending turns =>
      exact turns.coherent_served coherent (coherent.running found) queue rfl staying
        (coherent.sound _ _ found).bounded
  | delivered queue found staying started pending turns =>
      have bounded := (coherent.sound _ _ found).bounded
      rw [pending] at bounded
      exact turns.coherent_served coherent (coherent.running found) queue started staying
        (Nat.le_of_succ_le bounded)

end Preservation

end Rosbridge.Incoming
