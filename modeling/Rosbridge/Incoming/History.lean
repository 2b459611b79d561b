import Rosbridge.Incoming.Scheduling

/-!
What a run of the incoming channel has done for each connection.

Owns: the registrations of a connection, read off the events alone; what it means
for one to be served in order; and the invariant that ties the newest registration
to the client's queue.
-/

set_option autoImplicit false

namespace Rosbridge.Incoming

open Foundation

variable {ω : Type}

/-! ### Registrations -/

/-- One registration of a connection: the output it connected with, the messages
accepted for it, the commands returned for it, and whether it was disconnected. -/
structure Registration (ω : Type) where
  output : ω
  accepted : List Json
  returned : List (Command ω)
  disconnected : Bool

namespace Registration

/-- Everything sent for the connection, in order. -/
def commands (id : Connection) (registration : Registration ω) : List (Command ω) :=
  .connect id registration.output :: registration.accepted.map (.message id)

/-- The commands returned are the first of those sent. -/
def Open (id : Connection) (registration : Registration ω) : Prop :=
  registration.returned <+: registration.commands id

/-- After the first of the commands sent came a `Disconnect`, which was asked for. -/
def Ended (id : Connection) (registration : Registration ω) : Prop :=
  registration.disconnected = true ∧
    ∃ sent, sent <+: registration.commands id ∧
      registration.returned = sent ++ [.disconnect id]

end Registration

/-- The registrations of `id` after one more event, newest first. -/
def Event.record (id : Connection) (chronicle : List (Registration ω)) (event : Event ω) :
    List (Registration ω) :=
  match event.call, event.outcome with
  | .connect other output, .ok _ =>
      if other = id then ⟨output, [], [], false⟩ :: chronicle else chronicle
  | .message other value, .ok _ =>
      if other = id then chronicle.modifyHead fun newest =>
        { newest with accepted := newest.accepted ++ [value] }
      else chronicle
  | .disconnect other, .ok _ =>
      if other = id then chronicle.modifyHead fun newest => { newest with disconnected := true }
      else chronicle
  | .tryRecv, .ok (some command) =>
      if command.connection? = some id then chronicle.modifyHead fun newest =>
        { newest with returned := newest.returned ++ [command] }
      else chronicle
  | _, _ => chronicle

section Record

variable (id other : Connection) (chronicle : List (Registration ω))

theorem Event.record_connect (output : ω) :
    Event.record id chronicle ⟨.connect other output, .ok none⟩ =
      if other = id then ⟨output, [], [], false⟩ :: chronicle else chronicle := rfl

theorem Event.record_message (value : Json) :
    Event.record id chronicle ⟨.message other value, .ok none⟩ =
      if other = id then chronicle.modifyHead fun newest =>
        { newest with accepted := newest.accepted ++ [value] }
      else chronicle := rfl

theorem Event.record_disconnect :
    Event.record id chronicle ⟨.disconnect other, .ok none⟩ =
      if other = id then chronicle.modifyHead fun newest => { newest with disconnected := true }
      else chronicle := rfl

theorem Event.record_returned {command : Command ω} (own : command.connection? = some id) :
    Event.record id chronicle ⟨.tryRecv, .ok (some command)⟩ =
      chronicle.modifyHead fun newest =>
        { newest with returned := newest.returned ++ [command] } :=
  if_pos own

end Record

/-- The registrations of `id` in a run, newest first. -/
def chronicle (id : Connection) (log : List (Event ω)) : List (Registration ω) :=
  log.foldl (Event.record id) []

/-- The command a call returned, if it belongs to `id`. -/
def Event.returned? (id : Connection) (event : Event ω) : Option (Command ω) :=
  match event.call, event.outcome with
  | .tryRecv, .ok (some command) => if command.connection? = some id then some command else none
  | _, _ => none

theorem chronicle_snoc (id : Connection) (log : List (Event ω)) (event : Event ω) :
    chronicle id (log ++ [event]) = event.record id (chronicle id log) :=
  List.foldl_append

/-! ### The newest registration and the client -/

/-- The commands a client still has to hand out. -/
def Client.pending (id : Connection) (client : Client ω) : List (Command ω) :=
  (client.output.map (.connect id)).toList ++ client.messages.map (.message id)

/-- The client continues the registration: unless it is disconnecting, what it still
has to hand out is exactly what was sent and not yet returned. -/
structure Client.Continues (id : Connection) (client : Client ω)
    (registration : Registration ω) : Prop where
  leaving : client.disconnect = registration.disconnected
  ordered : registration.Open id
  complete : registration.disconnected = false →
    registration.returned ++ client.pending id = registration.commands id

/-- The registrations of a connection that has this client, or none. -/
def Recorded (id : Connection) (closed : Bool) :
    Option (Client ω) → List (Registration ω) → Prop
  | some client, chronicle => ∃ newest past, chronicle = newest :: past ∧
      client.Continues id newest ∧ ∀ registration ∈ past, registration.Ended id
  | none, chronicle => ∀ registration ∈ chronicle,
      registration.Ended id ∨ closed = true ∧ registration.Open id

namespace Client.Continues

variable {id : Connection} {client : Client ω} {newest : Registration ω}

theorem accept (continues : client.Continues id newest) (value : Json) (scheduled : Bool) :
    Client.Continues id
      { client with messages := client.messages ++ [value], scheduled := scheduled }
      { newest with accepted := newest.accepted ++ [value] } where
  leaving := continues.leaving
  ordered := by
    refine continues.ordered.trans ?_
    simp [Registration.commands]
  complete present := by
    have complete := continues.complete present
    simp only [Client.pending, Registration.commands, List.map_append, ← List.append_assoc,
      ← List.cons_append] at complete ⊢
    rw [complete]

theorem leave (continues : client.Continues id newest) (scheduled : Bool) :
    Client.Continues id
      { client with messages := [], disconnect := true, scheduled := scheduled }
      { newest with disconnected := true } where
  leaving := rfl
  ordered := continues.ordered
  complete present := by cases present

theorem drop (continues : client.Continues id newest) (leaving : client.disconnect = true) :
    Registration.Ended id { newest with returned := newest.returned ++ [.disconnect id] } :=
  ⟨continues.leaving ▸ leaving, newest.returned, continues.ordered, rfl⟩

/-- Handing out the first pending command. -/
theorem serve (continues : client.Continues id newest) (staying : client.disconnect = false)
    {command : Command ω} {next : Client ω}
    (pending : client.pending id = command :: next.pending id)
    (same : next.disconnect = client.disconnect) :
    next.Continues id { newest with returned := newest.returned ++ [command] } := by
  have complete := continues.complete (continues.leaving ▸ staying)
  rw [pending, List.append_cons] at complete
  exact ⟨same.trans continues.leaving, ⟨_, complete⟩, fun _ => complete⟩

end Client.Continues

/-! ### Every effect extends the record -/

section Record

variable {event : Event ω} {log : List (Event ω)} {before after : State ω}

/-- The record of a run that reached `s`. -/
def RecordedIn (log : List (Event ω)) (s : State ω) : Prop :=
  ∀ id, Recorded id s.closed (s.clients.lookup id) (chronicle id log)

/-- An event that concerns one connection extends the record of that connection. -/
theorem Turns.recorded {id : Connection} {client : Option (Client ω)} {ready : List Connection}
    (turns : Turns id client ready before after) (holds : RecordedIn log before)
    (elsewhere : ∀ other, other ≠ id → ∀ chronicle, event.record other chronicle = chronicle)
    (here : Recorded id before.closed client (event.record id (chronicle id log))) :
    RecordedIn (log ++ [event]) after := by
  intro other
  rw [chronicle_snoc, turns.lookup, turns.closed]
  split
  · next same => exact same ▸ here
  · next different =>
      rw [elsewhere other different]
      exact holds other

theorem RecordedIn.at {id : Connection} {client : Client ω} (holds : RecordedIn log before)
    (found : before.clients.lookup id = some client) :
    ∃ newest past, chronicle id log = newest :: past ∧ client.Continues id newest ∧
      ∀ registration ∈ past, registration.Ended id := by
  have here := holds id
  rwa [found] at here

/-- `disconnect` of a connection without a client changes nothing that was recorded. -/
theorem Recorded.mark {id : Connection} {closed : Bool} {chronicle : List (Registration ω)}
    (holds : Recorded id closed none chronicle) :
    Recorded id closed none
      (chronicle.modifyHead fun newest => { newest with disconnected := true }) := by
  cases chronicle with
  | nil => exact holds
  | cons newest past =>
      intro registration member
      rcases List.mem_cons.mp member with rfl | older
      · rcases holds newest List.mem_cons_self with ⟨-, sent, first, returned⟩ | ⟨shut, first⟩
        · exact .inl ⟨rfl, sent, first, returned⟩
        · exact .inr ⟨shut, first⟩
      · exact holds registration (List.mem_cons_of_mem _ older)

theorem Effect.recorded (effect : Effect event before after) (holds : RecordedIn log before) :
    RecordedIn (log ++ [event]) after := by
  cases effect with
  | @refused call cause =>
      intro id
      rw [chronicle_snoc]
      have unchanged : ∀ chronicle, Event.record id chronicle
          (⟨call, .error cause⟩ : Event ω) = chronicle := fun chronicle => by cases call <;> rfl
      rw [unchanged]
      exact holds id
  | @connected id output _ _ running absent turns =>
      refine turns.recorded holds (fun other different chronicle =>
        if_neg (Ne.symm different)) ?_
      rw [Event.record_connect, if_pos rfl]
      refine ⟨_, _, rfl, ⟨rfl, List.nil_prefix, fun _ => rfl⟩, ?_⟩
      have here := holds id
      rw [absent, running] at here
      exact fun registration member => (here registration member).resolve_right
        fun shut => Bool.false_ne_true shut.1
  | accepted found staying space turns =>
      obtain ⟨newest, past, chronicled, continues, ended⟩ := holds.at found
      refine turns.recorded holds (fun other different chronicle =>
        if_neg (Ne.symm different)) ?_
      rw [Event.record_message, if_pos rfl, chronicled]
      exact ⟨_, _, rfl, continues.accept _ true, ended⟩
  | @unknown id _ absent =>
      intro other
      rw [chronicle_snoc, Event.record_disconnect]
      split
      · next same =>
          have here := holds id
          rw [absent] at here
          rw [← same, absent]
          exact here.mark
      · exact holds other
  | leaving found turns =>
      obtain ⟨newest, past, chronicled, continues, ended⟩ := holds.at found
      refine turns.recorded holds (fun other different chronicle =>
        if_neg (Ne.symm different)) ?_
      rw [Event.record_disconnect, if_pos rfl, chronicled]
      exact ⟨_, _, rfl, continues.leave true, ended⟩
  | shut =>
      intro id
      rw [chronicle_snoc]
      show Recorded id true none (chronicle id log)
      have here := holds id
      intro registration member
      cases found : before.clients.lookup id with
      | none =>
          rw [found] at here
          exact (here registration member).imp_right fun shut => ⟨rfl, shut.2⟩
      | some client =>
          obtain ⟨newest, past, chronicled, continues, ended⟩ := holds.at found
          rw [chronicled] at member
          rcases List.mem_cons.mp member with rfl | older
          · exact .inr ⟨rfl, continues.ordered⟩
          · exact .inl (ended registration older)
  | finished =>
      intro id
      rw [chronicle_snoc]
      exact holds id
  | idle =>
      intro id
      rw [chronicle_snoc]
      exact holds id
  | dropped queue found leaving turns =>
      obtain ⟨newest, past, chronicled, continues, ended⟩ := holds.at found
      refine turns.recorded holds (fun other different chronicle => if_neg fun same =>
        different (Option.some.inj same).symm) ?_
      rw [Event.record_returned _ _ rfl, chronicled]
      rintro registration (_ | ⟨_, older⟩)
      · exact .inl (continues.drop leaving)
      · exact .inl (ended registration older)
  | introduced queue found staying pending turns =>
      obtain ⟨newest, past, chronicled, continues, ended⟩ := holds.at found
      refine turns.recorded holds (fun other different chronicle => if_neg fun same =>
        different (Option.some.inj same).symm) ?_
      rw [Event.record_returned _ _ rfl, chronicled]
      refine ⟨_, _, rfl, continues.serve staying ?_ rfl, ended⟩
      rw [Client.pending, pending]
      rfl
  | delivered queue found staying started pending turns =>
      obtain ⟨newest, past, chronicled, continues, ended⟩ := holds.at found
      refine turns.recorded holds (fun other different chronicle => if_neg fun same =>
        different (Option.some.inj same).symm) ?_
      rw [Event.record_returned _ _ rfl, chronicled]
      refine ⟨_, _, rfl, continues.serve staying ?_ rfl, ended⟩
      rw [Client.pending, Client.pending, Client.served, started, pending]
      rfl

end Record

end Rosbridge.Incoming
