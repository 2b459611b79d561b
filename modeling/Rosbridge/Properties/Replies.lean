import Rosbridge.Properties.Lifecycle
import Rosbridge.Protocol.Provenance
import Rosbridge.Refine.Messages

/-!
Replies to the service calls of WebSocket clients.

Owns: `Reply`, what ends a call for its client; that a command that calls a service either
fails with one reply or records one call; and what becomes of a recorded call in any run.
-/

set_option autoImplicit false

namespace Rosbridge

open Foundation Program

/-! ### Replies -/

/-- The end of a service call, as its client hears of it. -/
inductive Reply where
  | failure (owner : Connection) (v : Json) (cause : Error)
  | result (key : Entity × Int) (call : Call) (values : Json)
  | timeout (key : Entity × Int) (call : Call)

namespace Reply

/-- The message of a reply. A failed command is answered under its identifier, if that is a
string. -/
def message : Reply → Message
  | failure owner v cause =>
      ⟨owner, labelled
        [ ("op", .str "service_response"),
          ("service", v.index "service"),
          ("result", .bool false),
          ("values", .str cause.message) ] ((v.get "id").bind Json.asStr), {}⟩
  | result _ call values =>
      ⟨call.owner, labelled (serviceMessage call values) call.id, call.options⟩
  | timeout _ call => ⟨call.owner, labelled (timeoutMessage call) call.id, call.options⟩

/-- The recorded call that a reply ends. -/
def key? : Reply → Option (Entity × Int)
  | failure _ _ _ => none
  | result key _ _ | timeout key _ => some key

end Reply

/-- The messages that answer service calls. -/
def History.serviceResponses (log : History) : List Message :=
  log.messages.filter fun message => message.op = some "service_response"

theorem History.serviceResponses_append (log more : History) :
    (log ++ more).serviceResponses = log.serviceResponses ++ more.serviceResponses := by
  unfold History.serviceResponses
  rw [History.messages_append, List.filter_append]

/-- The reply that a move gives. -/
def Move.reply? : Move → Option Reply
  | refused owner v cause =>
      if (v.index "op").asStr.getD "" = "call_service" then some (.failure owner v cause) else none
  | replied key call values => some (.result key call values)
  | expired key call _ => some (.timeout key call)
  | _ => none

section Moves

variable {env : Environment} {m before after : Machine} {move : Move}

theorem errorResponse_call {v : Json} (cause : Error) (owner : Connection)
    (calls : (v.index "op").asStr.getD "" = "call_service") :
    (⟨owner, labelled (errorResponse v cause) (errorId v), {}⟩ : Message) =
      (Reply.failure owner v cause).message := by
  rw [errorId_eq, errorResponse, calls]
  rfl

/-- The service responses among the messages of a move are its replies. -/
theorem Move.service_responses (enabled : move.Enabled env m) :
    (move.message.toList.filter fun message => message.op = some "service_response") =
      move.reply?.toList.map Reply.message := by
  have other {message : Message} {op : String} (named : message.op = some op)
      (apart : op ≠ "service_response") :
      ([message].filter fun message => message.op = some "service_response") = [] := by
    rw [List.filter_singleton, named]
    simp [apart]
  have same {message : Message} (named : message.op = some "service_response") :
      ([message].filter fun message => message.op = some "service_response") = [message] := by
    rw [List.filter_singleton, named]
    simp
  cases move
  case told message =>
    rcases enabled with op | op | op | op
    all_goals exact other op (by decide)
  case refused owner v cause =>
    have op := (Message.op_labelled owner (errorResponse v cause) (errorId v) {}).trans
      (errorResponse_op v cause)
    by_cases calls : (v.index "op").asStr.getD "" = "call_service"
    · rw [if_pos calls] at op
      have reply : (Move.refused owner v cause).reply? = some (.failure owner v cause) :=
        if_pos calls
      rw [reply, Option.toList_some, List.map_singleton, ← errorResponse_call cause owner calls]
      exact same op
    · rw [if_neg calls] at op
      have reply : (Move.refused owner v cause).reply? = none := if_neg calls
      rw [reply]
      refine other op ?_
      split <;> decide
  case replied key call values => exact same (Message.op_labelled _ _ _ _)
  case expired key call now => exact same (Message.op_labelled _ _ _ _)
  case goalFed key goal sample => exact other (Message.op_labelled _ _ _ _) (by decide)
  case cancelRejected place key goal => exact other (Message.op_labelled _ _ _ _) (by decide)
  case goalFinished key goal values status success =>
    exact other (Message.op_labelled _ _ _ _) (by decide)
  all_goals rfl

/-- What a move adds to the replies and the events of the history. -/
theorem Transition.replies (taken : Transition env move before after) :
    ∃ added : History, after.log = before.log ++ added ∧
      added.serviceResponses = move.reply?.toList.map Reply.message ∧
      added.events = move.heard := by
  obtain ⟨added, grown, messages, events⟩ := taken.hands
  obtain ⟨middle, sent, enabled, -⟩ := taken
  refine ⟨added, grown, ?_, events⟩
  unfold History.serviceResponses
  rw [messages, Move.service_responses enabled]

end Moves

/-! ### Calls and their replies -/

/-- No event is a response to the call. -/
def Unanswered (key : Entity × Int) (events : List Event) : Prop :=
  ∀ values, .response key.1 key.2 values ∉ events

/-- Why a reply ends a call: the first response to it was heard, or its deadline was over
before one was. -/
inductive Reply.Ends (access : Access) (heard : List Event) (added : History)
    (key : Entity × Int) (call : Call) : Reply → Prop where
  | result {earlier later : List Event} {response values : Json}
      (first : heard = earlier ++ .response key.1 key.2 response :: later)
      (unheard : Unanswered key earlier)
      (visible : visibleValues access call response = some values) :
      Ends access heard added key call (.result key call values)
  | timeout {earlier later : History} {now : Instant}
      (read : added = earlier ++ .instant now :: later) (due : call.expires ≤ now)
      (unheard : Unanswered key earlier.events) : Ends access heard added key call (.timeout key call)

/-- What became of a call: it is pending and was not answered; it ended with a reply; or it was
dropped without one because its owner left. -/
inductive Fate (access : Access) (left : Prop) (heard : List Event) (added : History)
    (replies : List Reply) (now : Machine) (key : Entity × Int) (call : Call) : Prop where
  | pending (found : now.bridge.calls.lookup key = some call) (unheard : Unanswered key heard)
      (silent : key ∉ replies.filterMap Reply.key?)
  | ended {reply : Reply} (absent : key ∉ now.bridge.calls) (member : reply ∈ replies)
      (ends : reply.Ends access heard added key call)
  | dropped (absent : key ∉ now.bridge.calls) (silent : key ∉ replies.filterMap Reply.key?)
      (gone : left)

section Fates

variable {access : Access} {heard more : List Event} {added further : History}
  {replies others : List Reply} {key : Entity × Int} {call : Call} {reply : Reply}

theorem Unanswered.append (left : Unanswered key heard) (right : Unanswered key more) :
    Unanswered key (heard ++ more) := by
  intro values member
  rcases List.mem_append.mp member with before | after
  · exact left values before
  · exact right values after

theorem Reply.Ends.keyed (ends : reply.Ends access heard added key call) : reply.key? = some key := by
  cases ends <;> rfl

/-- Later events and calls do not matter. -/
theorem Reply.Ends.grow (ends : reply.Ends access heard added key call) (more : List Event)
    (further : History) : reply.Ends access (heard ++ more) (added ++ further) key call := by
  cases ends with
  | @result earlier later response values first unheard visible =>
      have split : heard ++ more = earlier ++ .response key.1 key.2 response :: (later ++ more) := by
        rw [first, List.append_assoc]
        rfl
      exact .result split unheard visible
  | @timeout earlier later now read due unheard =>
      have split : added ++ further = earlier ++ .instant now :: (later ++ further) := by
        rw [read, List.append_assoc]
        rfl
      exact .timeout split due unheard

/-- Nor do earlier ones that do not answer the call. -/
theorem Reply.Ends.after {before : History} (ends : reply.Ends access heard added key call)
    (unheard : Unanswered key before.events) :
    reply.Ends access (before.events ++ heard) (before ++ added) key call := by
  cases ends with
  | @result earlier later response values first quiet visible =>
      exact .result (by rw [first, List.append_assoc]) (unheard.append quiet) visible
  | @timeout earlier later now read due quiet =>
      refine .timeout (by rw [read, List.append_assoc]) due ?_
      rw [History.events_append]
      exact unheard.append quiet

end Fates

/-! ### Moves and calls -/

section Steps

variable {env : Environment} {m before after : Machine} {move : Move} {key : Entity × Int}
  {call : Call}

/-- Calls only come by being made. -/
theorem Move.call_origin {b : Bridge} (present : key ∈ (move.effect b).calls) :
    key ∈ b.calls ∨ ∃ call typ args reading, move = .called key call typ args reading := by
  have erased {other : Entity × Int} (present : key ∈ b.calls.erase other) : key ∈ b.calls :=
    (AList.mem_erase.mp present).2
  cases move
  case called other call typ args reading =>
    rcases (AList.mem_insert _).mp present with rfl | before
    · exact .inr ⟨call, typ, args, reading, rfl⟩
    · exact .inl before
  case replied other call values => exact .inl (erased present)
  case expired other call now => exact .inl (erased present)
  case abandoned other call => exact .inl (erased present)
  all_goals exact .inl present

/-- What a move does to a call. -/
theorem Move.call_stays (enabled : move.Enabled env m)
    (found : m.bridge.calls.lookup key = some call)
    (apart : ∀ other typ args reading, move ≠ .called key other typ args reading) :
    (move.effect m.bridge).calls.lookup key = some call ∨
    key ∉ (move.effect m.bridge).calls ∧
      ((∃ values, move = .replied key call values) ∨ (∃ now, move = .expired key call now) ∨
        move = .abandoned key call) := by
  have gone : key ∉ m.bridge.calls.erase key := fun present => (AList.mem_erase.mp present).1 rfl
  cases move
  case called other new typ args reading =>
    refine .inl ((AList.lookup_insert_ne ?_).trans found)
    rintro rfl
    exact apart new typ args reading rfl
  case replied other ended values =>
    by_cases here : key = other
    · subst here
      cases found.symm.trans enabled
      exact .inr ⟨gone, .inl ⟨values, rfl⟩⟩
    · exact .inl ((AList.lookup_erase_ne here).trans found)
  case expired other ended now =>
    by_cases here : key = other
    · subst here
      cases found.symm.trans enabled.1
      exact .inr ⟨gone, .inr (.inl ⟨now, rfl⟩)⟩
    · exact .inl ((AList.lookup_erase_ne here).trans found)
  case abandoned other ended =>
    by_cases here : key = other
    · subst here
      cases found.symm.trans enabled.1
      exact .inr ⟨gone, .inr (.inr rfl)⟩
    · exact .inl ((AList.lookup_erase_ne here).trans found)
  all_goals exact .inl found

theorem Move.reply_failure {owner : Connection} {v : Json} {cause : Error}
    (given : move.reply? = some (.failure owner v cause)) :
    move = .refused owner v cause ∧ required v "op" = .ok "call_service" := by
  cases move
  case refused other request failure =>
    by_cases calls : (request.index "op").asStr.getD "" = "call_service"
    · have same : (Move.refused other request failure).reply? =
          some (.failure other request failure) := if_pos calls
      cases same.symm.trans given
      exact ⟨rfl, required_of_index calls (by decide)⟩
    · have none : (Move.refused other request failure).reply? = none := if_neg calls
      rw [none] at given
      cases given
  all_goals cases given

/-- A failed command is answered without a call. -/
theorem Move.reply_refused {owner : Connection} {v : Json} {cause : Error} {reply : Reply}
    (given : (Move.refused owner v cause).reply? = some reply) :
    reply = .failure owner v cause := by
  by_cases calls : (v.index "op").asStr.getD "" = "call_service"
  · have same : (Move.refused owner v cause).reply? = some (.failure owner v cause) := if_pos calls
    exact (Option.some.inj (same.symm.trans given)).symm
  · have none : (Move.refused owner v cause).reply? = none := if_neg calls
    rw [none] at given
    cases given

/-- A reply ends a call that was there. -/
theorem Move.reply_known {reply : Reply} (enabled : move.Enabled env m)
    (given : move.reply? = some reply) (keyed : reply.key? = some key) :
    key ∈ m.bridge.calls ∧ key ∉ (move.effect m.bridge).calls := by
  have gone : key ∉ m.bridge.calls.erase key := fun present => (AList.mem_erase.mp present).1 rfl
  cases move
  case replied other ended values =>
    obtain rfl := Option.some.inj given
    obtain rfl := Option.some.inj keyed
    exact ⟨(AList.mem_iff_lookup _ _).mpr ⟨ended, enabled⟩, gone⟩
  case expired other ended now =>
    obtain rfl := Option.some.inj given
    obtain rfl := Option.some.inj keyed
    exact ⟨(AList.mem_iff_lookup _ _).mpr ⟨ended, enabled.1⟩, gone⟩
  case refused owner v cause =>
    rw [Move.reply_refused given] at keyed
    cases keyed
  all_goals cases given

end Steps

/-! ### One operation -/

/-- What an operation that began in `m` has done to the calls, with the events that it polled
and those that it handled. Only what `asks` for a service can fail. -/
structure Progress (asks : Connection → Json → Prop) (m : Machine) (polled heard : List Event)
    (added : History) (replies : List Reply) (now : Machine) : Prop where
  created : ∀ key ∈ m.bridge.calls, key.1 ∈ m.log.created
  grown : now.log = m.log ++ added
  events : added.events = polled
  access : now.bridge.access = m.bridge.access
  handed : added.serviceResponses = replies.map Reply.message
  once : (replies.filterMap Reply.key?).Nodup
  ended : ∀ key ∈ replies.filterMap Reply.key?,
    key ∉ now.bridge.calls ∧ key.1 ∈ now.log.created ∧
      (key ∈ m.bridge.calls ∨ key.1 ∉ m.log.created)
  known : ∀ key ∈ now.bridge.calls,
    key.1 ∈ now.log.created ∧ (key ∈ m.bridge.calls ∨ key.1 ∉ m.log.created)
  failures : ∀ owner v cause, .failure owner v cause ∈ replies → asks owner v
  fates : ∀ key call, m.bridge.calls.lookup key = some call →
    Fate m.bridge.access (call.owner ∉ now.bridge.outputs) heard added replies now key call

section Progress

variable {env : Environment} {asks : Connection → Json → Prop} {m before after : Machine}
  {move : Move} {polled heard : List Event} {added : History} {replies : List Reply}

theorem Progress.start (created : ∀ key ∈ m.bridge.calls, key.1 ∈ m.log.created) :
    Progress asks m [] [] [] [] m where
  created := created
  grown := (List.append_nil _).symm
  events := rfl
  access := rfl
  handed := rfl
  once := .nil
  ended := nofun
  known := fun key present => ⟨created key present, .inl present⟩
  failures := nofun
  fates := fun _ _ found => .pending found nofun nofun

/-- Events that answer no pending call. -/
theorem Progress.hear (progress : Progress asks m polled heard added replies after)
    {more : List Event} (quiet : ∀ key ∈ after.bridge.calls, Unanswered key more) :
    Progress asks m polled (heard ++ more) added replies after where
  created := progress.created
  grown := progress.grown
  events := progress.events
  access := progress.access
  handed := progress.handed
  once := progress.once
  ended := progress.ended
  known := progress.known
  failures := progress.failures
  fates := fun key call found => by
    cases progress.fates key call found with
    | pending here unheard silent =>
        have present : key ∈ after.bridge.calls := (AList.mem_iff_lookup _ _).mpr ⟨call, here⟩
        exact .pending here (unheard.append (quiet key present)) silent
    | ended absent member ends =>
        have grown := ends.grow more []
        rw [List.append_nil] at grown
        exact .ended absent member grown
    | dropped absent silent gone => exact .dropped absent silent gone

/-- Outputs only come by connecting. -/
theorem Move.output_origin {b : Bridge} {owner : Connection}
    (stays : ∀ connection, move ≠ .connected connection)
    (present : owner ∈ (move.effect b).outputs) : owner ∈ b.outputs := by
  cases move
  case connected connection => exact absurd rfl (stays connection)
  case left other => exact (AList.mem_erase.mp present).2
  all_goals exact present

/-- The entity of a call is created with it. -/
theorem Move.called_created {key : Entity × Int} {call : Call} {typ : String} {args : Json}
    {reading : Instant} :
    key.1 ∈ History.created (Move.called key call typ args reading).entries := by
  simp [History.created, Move.entries, Entry.created?]

/-- No call is made on an entity that was created before. -/
theorem Transition.unmade (taken : Transition env move before after) (fresh : Fresh after.log)
    {key : Entity × Int} (created : key.1 ∈ before.log.created) (call : Call) (typ : String)
    (args : Json) (reading : Instant) : move ≠ .called key call typ args reading := by
  rintro rfl
  obtain ⟨middle, sent, -, rfl⟩ := taken
  exact fresh.created_once ((sent.log_grows.sublist.filterMap _).subset created)
    Move.called_created

/-- The step of a move that ends calls for a reason. -/
theorem Progress.step (progress : Progress asks m polled heard added replies before)
    (taken : Transition env move before after) (fresh : Fresh after.log)
    (stays : (∀ connection, move ≠ .connected connection) ∨
      ∀ key ∈ m.bridge.calls, key ∈ before.bridge.calls) {more : List Event}
    (ends : ∀ key call reply, before.bridge.calls.lookup key = some call → Unanswered key heard →
      move.reply? = some reply → reply.key? = some key →
      reply.Ends m.bridge.access (heard ++ more) added key call)
    (asked : ∀ owner v cause, move.reply? = some (.failure owner v cause) → asks owner v)
    (quiet : ∀ key ∈ after.bridge.calls, Unanswered key more) :
    ∃ added replies, Progress asks m (polled ++ move.heard) (heard ++ more) added replies after := by
  have unmade {key : Entity × Int} (created : key.1 ∈ before.log.created) :=
    taken.unmade fresh created
  have created {key : Entity × Int} (before' : key.1 ∈ before.log.created) :
      key.1 ∈ after.log.created :=
    (taken.log_grows.sublist.filterMap _).subset before'
  have earlier {key : Entity × Int} (old : key.1 ∈ m.log.created) :
      key.1 ∈ before.log.created := by
    rw [progress.grown, History.created, List.filterMap_append]
    exact List.mem_append_left _ old
  obtain ⟨further, grown, handed, events⟩ := taken.replies
  obtain ⟨middle, sent, enabled, rfl⟩ := taken
  obtain ⟨next, failed, tables⟩ := sent.tables
  have calls : middle.bridge.calls = before.bridge.calls := by rw [tables]
  have outputs : middle.bridge.outputs = before.bridge.outputs := by rw [tables]
  have kept {key : Entity × Int} (present : key ∈ (move.effect middle.bridge).calls)
      (old : key.1 ∈ before.log.created) : key ∈ before.bridge.calls := by
    rcases Move.call_origin present with here | ⟨call, typ, args, reading, same⟩
    · rwa [calls] at here
    · exact absurd same (unmade old call typ args reading)
  have given {key : Entity × Int} (member : key ∈ (move.reply?.toList).filterMap Reply.key?) :
      key ∈ before.bridge.calls ∧ key ∉ (move.effect middle.bridge).calls := by
    obtain ⟨reply, given, keyed⟩ := List.mem_filterMap.mp member
    have known := Move.reply_known enabled (Option.mem_toList.mp given) keyed
    rwa [calls] at known
  have silenced {key : Entity × Int} (old : key ∉ replies.filterMap Reply.key?)
      (new : key ∉ (move.reply?.toList).filterMap Reply.key?) :
      key ∉ (replies ++ move.reply?.toList).filterMap Reply.key? := by
    rw [List.filterMap_append]
    exact fun member => (List.mem_append.mp member).elim old new
  refine ⟨added ++ further, replies ++ move.reply?.toList, progress.created,
    ?_, ?_, ?_, ?_, ?_, ?_, ?_, ?_, ?_⟩
  · rw [grown, progress.grown, List.append_assoc]
  · rw [History.events_append, progress.events, events]
  · refine (Move.keeps_access _).trans ?_
    rw [tables]
    exact progress.access
  · rw [History.serviceResponses_append, progress.handed, handed, List.map_append]
  · rw [List.filterMap_append]
    refine List.nodup_append.mpr ⟨progress.once, ?_, ?_⟩
    · cases move.reply? with
      | none => exact .nil
      | some reply =>
          cases reply <;> first | exact List.nodup_nil | exact List.nodup_singleton _
    · rintro key old _ new rfl
      exact (progress.ended key old).1 (given new).1
  · intro key member
    rw [List.filterMap_append] at member
    rcases List.mem_append.mp member with old | new
    · obtain ⟨absent, created', origin⟩ := progress.ended key old
      exact ⟨fun present => absent (kept present created'), created created', origin⟩
    · obtain ⟨present, absent⟩ := given new
      obtain ⟨created', origin⟩ := progress.known key present
      exact ⟨absent, created created', origin⟩
  · intro key present
    rcases Move.call_origin present with here | ⟨call, typ, args, reading, same⟩
    · rw [calls] at here
      obtain ⟨created', origin⟩ := progress.known key here
      exact ⟨created created', origin⟩
    · refine ⟨?_, .inr fun old => unmade (earlier old) call typ args reading same⟩
      refine List.mem_filterMap.mpr ?_
      obtain ⟨entry, member, made⟩ := List.mem_filterMap.mp (same ▸ Move.called_created)
      exact ⟨entry, List.mem_append_right _ member, made⟩
  · intro owner v cause member
    rcases List.mem_append.mp member with old | new
    · exact progress.failures owner v cause old
    · exact asked owner v cause (Option.mem_toList.mp new)
  · intro key call found
    have old : key.1 ∈ before.log.created :=
      earlier (progress.created key ((AList.mem_iff_lookup _ _).mpr ⟨call, found⟩))
    cases progress.fates key call found with
    | pending here unheard silent =>
        have here' : middle.bridge.calls.lookup key = some call := by rwa [calls]
        rcases Move.call_stays enabled here' (unmade old) with still | ⟨absent, ended⟩
        · have present : key ∈ (move.effect middle.bridge).calls :=
            (AList.mem_iff_lookup _ _).mpr ⟨call, still⟩
          exact .pending still (unheard.append (quiet key present))
            (silenced silent fun new => (given new).2 present)
        · have reply {reply : Reply} (gives : move.reply? = some reply)
              (keyed : reply.key? = some key) :
              reply ∈ replies ++ move.reply?.toList ∧
                reply.Ends m.bridge.access (heard ++ more) (added ++ further) key call := by
            have grown := (ends key call reply here unheard gives keyed).grow [] further
            rw [List.append_nil] at grown
            exact ⟨List.mem_append_right _ (Option.mem_toList.mpr gives), grown⟩
          rcases ended with ⟨values, rfl⟩ | ⟨now, rfl⟩ | rfl
          · exact .ended absent (reply rfl rfl).1 (reply rfl rfl).2
          · exact .ended absent (reply rfl rfl).1 (reply rfl rfl).2
          · exact .dropped absent (silenced silent List.not_mem_nil) enabled.2
    | ended absent member ends =>
        exact .ended (fun present => absent (kept present old)) (List.mem_append_left _ member)
          (ends.grow more further)
    | dropped absent silent gone =>
        refine .dropped (fun present => absent (kept present old))
          (silenced silent fun new => absent (given new).1) fun present => gone ?_
        rcases stays with stays | all
        · have present' := Move.output_origin stays present
          rwa [outputs] at present'
        · exact absurd (all key ((AList.mem_iff_lookup _ _).mpr ⟨call, found⟩)) absent

end Progress

/-! ### Operations -/

section Operations

variable {env : Environment} {asks : Connection → Json → Prop} {m before after : Machine}
  {polled heard : List Event} {added : History} {replies : List Reply}

/-- What an operation that began in `m` has done to the calls. -/
def Progressed (asks : Connection → Json → Prop) (m : Machine) (polled heard : List Event)
    (now : Machine) : Prop :=
  ∃ added replies, Progress asks m polled heard added replies now

/-- A reply that waits for the clock is a timeout. -/
theorem Move.reply_late {move : Move} {cause : Cause} {reply : Reply} {key : Entity × Int}
    (given : move.reply? = some reply) (keyed : reply.key? = some key)
    (uncommon : move.Rare → ∃ now, cause = .time now ∧ move.Due now) :
    ∃ now call, cause = .time now ∧ move = .expired key call now ∧ reply = .timeout key call ∧
      call.expires ≤ now := by
  cases move
  case replied other call values =>
    obtain ⟨now, -, due⟩ := uncommon trivial
    exact due.elim
  case expired other call reading =>
    obtain ⟨now, same, due, rfl⟩ := uncommon trivial
    obtain rfl := Option.some.inj given
    obtain rfl := Option.some.inj keyed
    exact ⟨reading, call, same, rfl, rfl, due⟩
  case refused owner v cause =>
    rw [Move.reply_refused given] at keyed
    cases keyed
  all_goals cases given

/-- Moves of calm causes end no call but an overdue one. -/
theorem Progress.caused {label : Cause × Move}
    (progress : Progress asks m polled heard added replies before)
    (caused : Caused env m.log label before after) (fresh : Fresh after.log)
    (calm : label.1.Calm) (settled : ∀ now, label.1 = .time now → polled = heard)
    (asked : ∀ owner v, label.1 = .command owner v → required v "op" = .ok "call_service" →
      asks owner v) : Progressed asks m polled heard after := by
  obtain ⟨noted, allowed, taken⟩ := caused
  have uncommon (rare : label.2.Rare) := allowed.timed calm rare
  have quiet : label.2.heard = [] := by
    by_cases rare : label.2.Rare
    · obtain ⟨now, -, due⟩ := uncommon rare
      cases move : label.2 <;> rw [move] at due <;> first | rfl | exact due.elim
    · cases move : label.2 <;> rw [move] at rare <;> first | rfl | exact absurd trivial rare
  have next : Progressed asks m (polled ++ label.2.heard) (heard ++ []) after :=
    progress.step taken fresh (.inl ?_) ?_ ?_ fun _ _ => nofun
  · rwa [quiet, List.append_nil, List.append_nil] at next
  · rintro connection same
    obtain ⟨now, -, due⟩ := uncommon (by rw [same]; trivial)
    rw [same] at due
    exact due
  rotate_left
  · intro owner v cause given
    obtain ⟨same, calls⟩ := Move.reply_failure given
    rw [same] at allowed
    exact asked owner v allowed.refused calls
  · intro key call reply found unheard given keyed
    obtain ⟨middle, sent, enabled, -⟩ := taken
    obtain ⟨next, failed, tables⟩ := sent.tables
    have late := Move.reply_late given keyed uncommon
    obtain ⟨now, other, timed, same, ended, due⟩ := late
    subst ended
    rw [same] at enabled
    have present : before.bridge.calls.lookup key = some other := by
      have present := enabled.1
      rwa [tables] at present
    cases found.symm.trans present
    rw [timed] at noted
    obtain ⟨entries, longer, read⟩ := noted
    obtain rfl : entries = added := List.append_cancel_left (longer.symm.trans progress.grown)
    obtain ⟨earlier, later, split⟩ := List.append_of_mem read
    refine .timeout split due fun values member => unheard values ?_
    have events := progress.events
    rw [split, History.events_append, settled now timed] at events
    rw [← events]
    exact List.mem_append_left _ member

theorem Progressed.run {passes : Cause × Move → Prop}
    (progressed : Progressed asks m polled heard before)
    (run : Follows (Caused env m.log) passes before after) (fresh : Fresh after.log)
    (calm : ∀ label, passes label → label.1.Calm)
    (settled : ∀ label, passes label → ∀ now, label.1 = .time now → polled = heard)
    (asked : ∀ label, passes label → ∀ owner v, label.1 = .command owner v →
      required v "op" = .ok "call_service" → asks owner v) :
    Progressed asks m polled heard after := by
  refine run.inherited (fun machine => Fresh machine.log) (Progressed asks m polled heard) ?_ ?_
    fresh progressed
  · exact fun _ _ _ caused fresh => fresh.inherit caused.taken.log_grows
  · rintro label before after pass caused fresh ⟨added, replies, progress⟩
    exact progress.caused caused fresh (calm label pass) (settled label pass) (asked label pass)

theorem Progressed.onReply (progressed : Progressed asks m polled heard before)
    (run : Follows (Transition env) Move.OnReply before after) (fresh : Fresh after.log) :
    Progressed asks m polled heard after := by
  refine run.inherited (fun machine => Fresh machine.log) (Progressed asks m polled heard) ?_ ?_
    fresh progressed
  · exact fun _ _ _ taken fresh => fresh.inherit taken.log_grows
  · rintro move before after onReply taken fresh ⟨added, replies, progress⟩
    have mute : move.reply? = none ∧ move.heard = [] ∧
        ∀ connection, move ≠ .connected connection := by
      cases move <;> first | exact onReply.elim | exact ⟨rfl, rfl, nofun⟩
    obtain ⟨mute, unheard, stays⟩ := mute
    have next : Progressed asks m (polled ++ move.heard) (heard ++ []) after := by
      refine progress.step taken fresh (.inl stays) ?_ ?_ fun _ _ => nofun
      · intro key call reply _ _ given
        rw [mute] at given
        cases given
      · intro owner v cause given
        rw [mute] at given
        cases given
    rwa [unheard, List.append_nil, List.append_nil] at next

theorem Progressed.hear {more : List Event} (progressed : Progressed asks m polled heard after)
    (quiet : ∀ key ∈ after.bridge.calls, Unanswered key more) :
    Progressed asks m polled (heard ++ more) after := by
  obtain ⟨added, replies, progress⟩ := progressed
  exact ⟨added, replies, progress.hear quiet⟩

/-- The step of an event. A response to a pending call ends it. -/
theorem Progressed.event {event : Event} (progressed : Progressed asks m polled heard before)
    (taken : EventTaken env m.log event before after) (fresh : Fresh after.log) :
    Progressed asks m polled (heard ++ [event]) after := by
  obtain ⟨caused, done⟩ := taken
  have others (calm : (Cause.event event).Calm)
      (quiet : ∀ key ∈ after.bridge.calls, Unanswered key [event]) :
      Progressed asks m polled (heard ++ [event]) after := by
    refine (progressed.run caused fresh ?_ ?_ ?_).hear quiet
    · rintro label same
      rw [same]
      exact calm
    · rintro label same now timed
      rw [same] at timed
      cases timed
    · rintro label same owner v commanded
      rw [same] at commanded
      cases commanded
  cases event with
  | message entity sample =>
      refine others trivial fun key _ values member => ?_
      cases List.mem_singleton.mp member
  | request entity number args =>
      refine others trivial fun key _ values member => ?_
      cases List.mem_singleton.mp member
  | response entity sequence values =>
      rcases done with ⟨call, shown, found, visible, moved⟩ | ⟨absent, run⟩
      · obtain ⟨added, replies, progress⟩ := progressed
        have next : Progressed asks m (polled ++ [])
            (heard ++ [.response entity sequence values]) after := by
          refine progress.step moved fresh (.inl ?_) ?_ nofun ?_
          · rintro connection ⟨⟩
          · intro key other reply found' unheard given keyed
            obtain rfl := Option.some.inj given
            obtain rfl := Option.some.inj keyed
            cases found.symm.trans found'
            exact .result rfl unheard (by rw [← progress.access]; exact visible)
          · rintro ⟨_, _⟩ present other member
            cases List.mem_singleton.mp member
            obtain ⟨next, failed, tables⟩ := moved.bridge
            rw [tables] at present
            exact (AList.mem_erase.mp present).1 rfl
        rwa [List.append_nil] at next
      · refine (progressed.hear ?_).onReply run fresh
        rintro ⟨_, _⟩ present other member
        cases List.mem_singleton.mp member
        exact AList.lookup_eq_none.mp absent present

/-- The events of a poll, one after the other. -/
theorem Progressed.batch {events : List Event} (progressed : Progressed asks m polled [] before)
    (batch : BatchCaused env m.log events before after) (fresh : Fresh after.log) :
    Progressed asks m polled events after := by
  refine batch.history
    (fun done machine => Fresh machine.log → Progressed asks m polled done machine)
    ?_ (fun _ => progressed) fresh
  intro done event before after taken progressed fresh
  refine (progressed (fresh.inherit ?_)).event taken fresh
  exact reach_log_grows (Follows.moves taken.caused)

theorem Balanced.calls_created (balanced : Balanced m) :
    ∀ key ∈ m.bridge.calls, key.1 ∈ m.log.created := by
  intro key present
  obtain ⟨call, found⟩ := (AList.mem_iff_lookup _ _).mp present
  exact balanced.created (Bridge.mem_held.mpr (.inr (.inr (.inr (.inl ⟨key, call, found, rfl⟩)))))

/-- A move at the beginning that gives no reply. -/
theorem Progress.first {move : Move} (created : ∀ key ∈ m.bridge.calls, key.1 ∈ m.log.created)
    (taken : Transition env move m after) (fresh : Fresh after.log) (mute : move.reply? = none) :
    Progressed asks m move.heard [] after := by
  refine (Progress.start created).step taken fresh (.inr fun _ => id) ?_ ?_ fun _ _ => nofun
  · intro key call reply _ _ given
    rw [mute] at given
    cases given
  · intro owner v cause given
    rw [mute] at given
    cases given

/-- Every operation that returns leaves each call pending, ended with a reply, or dropped. -/
theorem operation_progress (op : Operation) (shaped : Shaped m) (balanced : Balanced m)
    (returns : ¬ (perform env op m).1.IsPanic) (fresh : Fresh (m.next env op).log) :
    ∃ events, Progressed (op.Asks "call_service") m events events (m.next env op) := by
  have created := balanced.calls_created
  have start : Progressed (op.Asks "call_service") m [] [] m := ⟨[], [], Progress.start created⟩
  have caused := operation_caused op shaped returns
  have calmly (calm : ∀ label : Cause × Move, label.1.Within op → label.1.Calm) :
      ∃ events, Progressed (op.Asks "call_service") m events events (m.next env op) := by
    refine ⟨[], start.run caused fresh calm (fun _ _ _ _ => rfl) ?_⟩
    intro label within owner v same
    rw [same] at within
    exact within.asks
  cases op with
  | connect connection =>
      have performed : Transition env (.connected connection) m _ :=
        performed_next (.connect connection) shaped returns
      exact ⟨[], Progress.first created performed fresh rfl⟩
  | command owner v =>
      refine calmly fun label same => ?_
      rw [same]
      trivial
  | tick =>
      rcases tick_next returns with ⟨cause, same⟩ |
        ⟨now, events, polled, handled, timed, ticked⟩
      · have taken : Transition env (.observed [.poll (.error cause)]) m (m.next env .tick) :=
          Move.transition_of _ rfl (by rw [same]; rfl) (by rw [same]; rfl)
            (by simp [Move.Enabled, Entry.Inert])
        exact ⟨[], Progress.first created taken fresh rfl⟩
      · have poll : Transition env (.polled events) m polled :=
          Move.transition_of (.polled events) rfl (by rw [ticked.poll]; rfl)
            (by rw [ticked.poll]; rfl) trivial
        have freshTimed := fresh.inherit (reach_log_grows (Follows.moves ticked.dropped))
        have freshHandled := freshTimed.inherit (reach_log_grows (Follows.moves ticked.waited))
        have freshPolled :=
          freshHandled.inherit (reach_log_grows (Follows.moves ticked.batch.caused))
        have atPoll : Progressed (Operation.tick.Asks "call_service") m events [] polled :=
          Progress.first created poll freshPolled rfl
        have atBatch := atPoll.batch ticked.batch freshHandled
        have atTime := atBatch.run ticked.waited freshTimed
          (by rintro label (same | same) <;> rw [same] <;> trivial) (fun _ _ _ _ => rfl)
          (by rintro label (same | same) owner v noted <;> rw [same] at noted <;> cases noted)
        refine ⟨events, atTime.run ticked.dropped fresh ?_ (fun _ _ _ _ => rfl) ?_⟩
        · rintro label (same | ⟨owner, same⟩) <;> rw [same] <;> trivial
        · rintro label (same | ⟨owner, same⟩) _ v noted <;> rw [same] at noted <;> cases noted
  | disconnect owner =>
      refine calmly fun label same => ?_
      rw [same]
      trivial
  | shutdown =>
      refine calmly ?_
      rintro label (same | ⟨owner, same⟩) <;> rw [same] <;> trivial

end Operations

/-! ### Runs -/

section Runs

variable {env : Environment} {access : Access} {timeout : Duration} {m middle last : Machine}
  {added further : History} {replies : List Reply} {owner : Connection}

/-- The client was not connected at some moment of the run. -/
def Departed (env : Environment) (m last : Machine) (owner : Connection) : Prop :=
  ∃ middle, Continues env m middle ∧ Continues env middle last ∧ owner ∉ middle.bridge.outputs

/-- What a run from `m` has done to the calls. Its service responses are the replies; each call
has at most one, and none once it is gone. -/
structure Settled (env : Environment) (m : Machine) (added : History) (replies : List Reply)
    (last : Machine) : Prop where
  grown : last.log = m.log ++ added
  access : last.bridge.access = m.bridge.access
  handed : added.serviceResponses = replies.map Reply.message
  once : (replies.filterMap Reply.key?).Nodup
  ended : ∀ key ∈ replies.filterMap Reply.key?, key ∉ last.bridge.calls ∧ key.1 ∈ last.log.created
  failures : ∀ owner v cause, .failure owner v cause ∈ replies →
    Requested env m last "call_service" owner v
  fates : ∀ key call, m.bridge.calls.lookup key = some call →
    Fate m.bridge.access (Departed env m last call.owner) added.events added replies last key call

theorem Settled.step {op : Operation} {events : List Event} {others : List Reply}
    (settled : Settled env m added replies middle)
    (created : ∀ key ∈ m.bridge.calls, key.1 ∈ m.log.created) (run : Continues env m middle)
    (returns : ¬ (perform env op middle).1.IsPanic)
    (progress : Progress (op.Asks "call_service") middle events events further others
      (middle.next env op)) :
    Settled env m (added ++ further) (replies ++ others) (middle.next env op) := by
  have next : Continues env middle (middle.next env op) := .step op .here returns trivial
  -- A call that is over does not come back, and no later reply is about it.
  have stale {key : Entity × Int} (absent : key ∉ middle.bridge.calls)
      (old : key.1 ∈ middle.log.created) :
      key ∉ (middle.next env op).bridge.calls ∧ key ∉ others.filterMap Reply.key? :=
    ⟨fun present => (progress.known key present).2.elim absent fun new => new old,
      fun member => (progress.ended key member).2.2.elim absent fun new => new old⟩
  have silenced {key : Entity × Int} (left : key ∉ replies.filterMap Reply.key?)
      (right : key ∉ others.filterMap Reply.key?) :
      key ∉ (replies ++ others).filterMap Reply.key? := by
    rw [List.filterMap_append]
    exact fun member => (List.mem_append.mp member).elim left right
  have longer {key : Entity × Int} (old : key.1 ∈ middle.log.created) :
      key.1 ∈ (middle.next env op).log.created := by
    rw [progress.grown, History.created, List.filterMap_append]
    exact List.mem_append_left _ old
  have earlier {key : Entity × Int} (old : key.1 ∈ m.log.created) :
      key.1 ∈ middle.log.created := by
    rw [settled.grown, History.created, List.filterMap_append]
    exact List.mem_append_left _ old
  refine ⟨?_, progress.access.trans settled.access, ?_, ?_, ?_, ?_, ?_⟩
  · rw [progress.grown, settled.grown, List.append_assoc]
  · rw [History.serviceResponses_append, settled.handed, progress.handed, List.map_append]
  · rw [List.filterMap_append]
    refine List.nodup_append.mpr ⟨settled.once, progress.once, ?_⟩
    rintro key left _ right rfl
    obtain ⟨absent, old⟩ := settled.ended key left
    exact (stale absent old).2 right
  · intro key member
    rw [List.filterMap_append] at member
    rcases List.mem_append.mp member with left | right
    · obtain ⟨absent, old⟩ := settled.ended key left
      exact ⟨(stale absent old).1, longer old⟩
    · exact ⟨(progress.ended key right).1, (progress.ended key right).2.1⟩
  · intro owner v cause member
    rcases List.mem_append.mp member with left | right
    · obtain ⟨asking, ⟨moment, before, rest⟩, calls⟩ := settled.failures owner v cause left
      exact ⟨asking, ⟨moment, before, rest.trans next⟩, calls⟩
    · exact ⟨op, ⟨middle, run, .here⟩, progress.failures owner v cause right⟩
  · intro key call found
    rw [History.events_append]
    cases settled.fates key call found with
    | pending here unheard silent =>
        cases progress.fates key call here with
        | pending there unheard' silent' =>
            rw [← progress.events] at unheard'
            exact .pending there (unheard.append unheard') (silenced silent silent')
        | ended absent member ends =>
            rw [settled.access, ← progress.events] at ends
            exact .ended absent (List.mem_append_right _ member) (ends.after unheard)
        | dropped absent silent' gone =>
            exact .dropped absent (silenced silent silent') ⟨_, run.trans next, .here, gone⟩
    | ended absent member ends =>
        have keyed := List.mem_filterMap.mpr ⟨_, member, ends.keyed⟩
        exact .ended (stale absent (settled.ended key keyed).2).1 (List.mem_append_left _ member)
          (ends.grow further.events further)
    | dropped absent silent gone =>
        obtain ⟨moment, before, after, away⟩ := gone
        have old := earlier (created key ((AList.mem_iff_lookup _ _).mpr ⟨call, found⟩))
        exact .dropped (stale absent old).1 (silenced silent (stale absent old).2)
          ⟨moment, before, after.trans next, away⟩

theorem Continues.settled (run : Continues env m last) (shaped : Shaped m) (balanced : Balanced m)
    (fresh : Fresh last.log) : ∃ added replies, Settled env m added replies last := by
  induction run with
  | here =>
      exact ⟨[], [], (List.append_nil _).symm, rfl, rfl, .nil, nofun, nofun,
        fun key call found => .pending found nofun nofun⟩
  | @step middle op run returns admitted inductionHypothesis =>
      have performed := performed_next op (run.shaped shaped) returns
      have freshMiddle := fresh.inherit (reach_log_grows performed.follows)
      obtain ⟨added, replies, settled⟩ := inductionHypothesis freshMiddle
      have balancedMiddle : Balanced middle :=
        run.carry freshMiddle (fun _ _ _ taken => taken.balanced) shaped balanced
      obtain ⟨events, further, others, progress⟩ :=
        operation_progress op (run.shaped shaped) balancedMiddle returns fresh
      exact ⟨_, _, settled.step balanced.calls_created run returns progress⟩

end Runs

/-! ### Commands -/

/-- What a command that calls a service does: it fails with one reply and records nothing, or
it records one call on a new entity and says nothing. -/
inductive CallMade (m : Machine) (owner : Connection) (v : Json) (after : Machine) : Prop where
  | failed {cause : Error} (handed : Hands m after [(Reply.failure owner v cause).message])
      (unchanged : after.bridge.calls = m.bridge.calls)
  | made {key : Entity × Int} {call : Call} (handed : Hands m after [])
      (absent : key ∉ m.bridge.calls) (fresh : key.1 ∉ m.log.created)
      (recorded : after.bridge.calls = m.bridge.calls.insert key call) (owned : call.owner = owner)
      (identified : requestId v = .ok call.id) (named : name v "service" = .ok call.service)
      (parsed : Options.parse v = .ok call.options)

section Commands

variable {env : Environment} {m : Machine} {owner : Connection} {v : Object}

/-- A command of a connected client that calls a service. -/
theorem call_made (connected : owner ∈ m.bridge.outputs)
    (calls : required (.obj v) "op" = .ok "call_service") (balanced : Balanced m)
    (returns : ¬ (perform env (.command owner v) m).1.IsPanic)
    (fresh : Fresh (m.next env (.command owner v)).log) :
    CallMade m owner (.obj v) (m.next env (.command owner v)) := by
  refine command_kind (fun after => Fresh after.log → CallMade m owner (.obj v) after) connected
    calls ?_ ?_ returns fresh
  · rintro cause after ⟨next, failed, tables⟩ hands -
    have op : ((Json.obj v).index "op").asStr.getD "" = "call_service" := by
      rw [index_of_required calls, Option.getD_some]
    rw [errorMessage, errorResponse_call cause owner op] at hands
    exact .failed hands (by rw [tables])
  · intro granted
    refine wp_mono (callService_spec connected fun service names =>
      Access.service_ok.mp (name_granted granted names)) ?_
    rintro (value | cause | site) after spec
    · obtain ⟨middle, key, call, typ, args, reading, limit, same, reach, taken, owned, identified,
        named, parsed, -⟩ := spec
      intro fresh
      have quiet := (Follows.silent reach fun _ => Move.Harmless.silent).trans taken.handed
      have grown := reach_log_grows reach
      obtain ⟨next, failed, tables⟩ := taken.bridge
      have recorded : after.bridge.calls = m.bridge.calls.insert key call := by
        rw [tables]
        show middle.bridge.calls.insert key call = _
        rw [same]
      have new : key.1 ∉ m.log.created := fun old =>
        taken.unmade fresh ((grown.sublist.filterMap _).subset old) call typ args reading rfl
      exact .made quiet (fun present => new (balanced.calls_created key present)) new recorded
        owned identified named parsed
    · exact spec
    · trivial

end Commands

/-! ### Service calls -/

/-- A command of a connected client that calls a service either fails with exactly one reply
and records no call, or says nothing and records exactly one call on a new entity. Whatever
happens in any run from there, every recorded call is pending and was not answered, or ended
with exactly one reply, by the first response to it or by a tick at or after its deadline, or
was dropped without one after its owner had left. The run hands over no other service response
than these replies and those to failed commands. -/
theorem service_replies {env : Environment} {access : Access} {timeout : Duration} {m : Machine}
    (reached : Reachable env access timeout m) (fresh : Fresh m.log) :
    (∀ owner v, owner ∈ m.bridge.outputs → required (.obj v) "op" = .ok "call_service" →
      ¬ (perform env (.command owner v) m).1.IsPanic →
      Fresh (m.next env (.command owner v)).log →
        CallMade m owner (.obj v) (m.next env (.command owner v))) ∧
    ∀ last, Continues env m last → Fresh last.log →
      ∃ added replies, Settled env m added replies last := by
  have shaped := Onward.shaped reached (shaped_new access timeout)
  have balanced := ReachableBy.balanced reached fresh
  exact ⟨fun owner v connected calls => call_made connected calls balanced,
    fun last run fresh => run.settled shaped balanced fresh⟩

/-- A command of connection 0 that calls a service. -/
def callAdd : Operation :=
  .command 0 [("op", .str "call_service"), ("service", .str "/add"), ("type", .str "demo/srv/Add"),
    ("id", .str "first")]

/-- Every tick brings a response to the first call of a run. -/
def Environment.replying : Environment :=
  { Environment.steady with poll := fun _ => .ok [.response 2 3 (.obj [("sum", .int 3)])] }

/-- The first of two responses to a call is its reply. -/
theorem service_replies_replying :
    let m := ((Machine.new {} 5).next .replying (.connect 0)).next .replying callAdd
    let last := (m.next .replying .tick).next .replying .tick
    last.log.events.length = 2 ∧ ∃ added replies, Settled .replying m added replies last := by
  intro m last
  have reached : Reachable .replying {} 5 m :=
    .step _ (.step _ .here (by decide +kernel) trivial) (by decide +kernel) trivial
  have run : Continues .replying m last :=
    .step _ (.step _ .here (by decide +kernel) trivial) (by decide +kernel) trivial
  have fresh : Fresh m.log := ⟨by decide +kernel, by decide +kernel, by decide +kernel⟩
  have freshLast : Fresh last.log := ⟨by decide +kernel, by decide +kernel, by decide +kernel⟩
  exact ⟨by decide +kernel, (service_replies reached fresh).2 last run freshLast⟩

end Rosbridge
