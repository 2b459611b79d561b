import Rosbridge.Refine.Answers
import Rosbridge.Refine.Causes

/-!
What the bridge hands over and what it hears.

Owns: the messages and the events in a history; what a move adds to them; and the operations
that the messages of moves name.
-/

set_option autoImplicit false

namespace Rosbridge

open Foundation Program

/-! ### Messages and events of a history -/

/-- The events that a call brought. -/
def Entry.events : Entry → List Event
  | poll (.ok events) => events
  | _ => []

/-- The messages handed to `send`. -/
def History.messages (log : History) : List Message := log.filterMap Entry.message?

/-- The events of all polls. -/
def History.events (log : History) : List Event := log.flatMap Entry.events

@[simp]
theorem History.messages_append (log more : History) :
    (log ++ more).messages = log.messages ++ more.messages :=
  List.filterMap_append

@[simp]
theorem History.events_append (log more : History) :
    (log ++ more).events = log.events ++ more.events :=
  List.flatMap_append

/-- The events that a move polls. -/
def Move.heard : Move → List Event
  | polled events => events
  | _ => []

section Moves

variable {env : Environment} {m before after : Machine} {move : Move}

theorem Entry.Silent.message? {entry : Entry} (silent : entry.Silent) : entry.message? = none := by
  cases entry <;> first | rfl | exact silent.elim

/-- Apart from its message, a move hands nothing over. -/
theorem Move.entries_messages (enabled : move.Enabled env m) :
    History.messages move.entries = [] := by
  refine List.filterMap_eq_nil_iff.mpr fun entry member => ?_
  by_cases inner : move.Inner
  · exact (inner.silent enabled entry member).message?
  · cases move
    case connected connection =>
      obtain rfl := List.mem_singleton.mp member
      rfl
    case left owner => cases member
    case failuresTaken => cases member
    case probed readings =>
      obtain ⟨reading, -, rfl⟩ := List.mem_map.mp member
      rfl
    all_goals exact absurd trivial inner

theorem History.events_eq_nil {log : History}
    (mute : ∀ entry ∈ log, ∀ events, entry ≠ .poll (.ok events)) : log.events = [] := by
  refine List.flatMap_eq_nil_iff.mpr fun entry member => ?_
  cases entry
  case poll reply =>
    cases reply with
    | ok events => exact absurd rfl (mute _ member events)
    | error cause => rfl
  all_goals rfl

/-- Only a poll brings events. -/
theorem Move.entries_events (enabled : move.Enabled env m) :
    History.events move.entries = move.heard := by
  cases move
  case polled events => exact List.append_nil _
  case observed entries =>
    refine History.events_eq_nil fun entry member events same => ?_
    rw [same] at member
    exact enabled _ member
  case aborted creations refusal =>
    refine History.events_eq_nil fun entry member events same => ?_
    subst same
    rcases List.mem_append.mp member with before | gone
    · rcases List.mem_append.mp before with made | refused
      · rcases enabled.1 _ made with inert | vain | created
        · exact inert
        · exact vain
        · cases created
      · obtain ⟨pair, -, ⟨⟩⟩ := List.mem_map.mp refused
    · obtain ⟨entity, -, ⟨⟩⟩ := List.mem_map.mp gone
  case used entry =>
    refine History.events_eq_nil fun other member events same => ?_
    obtain rfl := List.mem_singleton.mp member
    subst same
    cases enabled
  case probed readings =>
    refine History.events_eq_nil fun entry member events same => ?_
    subst same
    obtain ⟨reading, -, ⟨⟩⟩ := List.mem_map.mp member
  case goalFinished key goal values status success => rfl
  case actionRemoved action server closed replies =>
    refine History.events_eq_nil fun entry member events same => ?_
    subst same
    rcases List.mem_append.mp member with answered | gone
    · obtain ⟨reply, -, ⟨⟩⟩ := List.mem_map.mp answered
    · obtain ⟨entity, -, ⟨⟩⟩ := List.mem_map.mp gone
  all_goals rfl

/-- What `send` notes of a message. -/
theorem Sent.adds {message : Option Message} (sent : Sent message before after) :
    ∃ said : History, after.log = before.log ++ said ∧ said.messages = message.toList ∧
      said.events = [] := by
  cases sent with
  | silent => exact ⟨[], (List.append_nil _).symm, rfl, rfl⟩
  | @muted message _ failed => exact ⟨[message.entry], rfl, rfl, rfl⟩
  | @unrouted message _ absent => exact ⟨[message.entry], rfl, rfl, rfl⟩
  | @queued message _ output found operation topic queue request =>
      exact ⟨[message.entry, .sendRequest output operation topic queue request (.ok ())],
        List.append_assoc _ _ _, rfl, rfl⟩
  | @rejected message _ output found operation topic queue request cause =>
      exact ⟨[message.entry, .sendRequest output operation topic queue request (.error cause)],
        List.append_assoc _ _ _, rfl, rfl⟩

/-- What a move adds to the messages and the events of the history. -/
theorem Transition.hands (taken : Transition env move before after) :
    ∃ added : History, after.log = before.log ++ added ∧ added.messages = move.message.toList ∧
      added.events = move.heard := by
  obtain ⟨middle, sent, enabled, rfl⟩ := taken
  obtain ⟨said, grown, messages, events⟩ := sent.adds
  refine ⟨said ++ move.entries, ?_, ?_, ?_⟩
  · dsimp only
    rw [grown, List.append_assoc]
  · rw [History.messages_append, messages, Move.entries_messages enabled, List.append_nil]
  · rw [History.events_append, events, Move.entries_events enabled, List.nil_append]

/-- Exactly these messages are handed over between two machines. -/
def Hands (before after : Machine) (messages : List Message) : Prop :=
  ∃ added : History, after.log = before.log ++ added ∧ added.messages = messages

theorem Hands.trans {middle : Machine} {messages further : List Message}
    (first : Hands before middle messages) (rest : Hands middle after further) :
    Hands before after (messages ++ further) := by
  obtain ⟨added, grown, rfl⟩ := first
  obtain ⟨more, grown', rfl⟩ := rest
  exact ⟨added ++ more, by rw [grown', grown, List.append_assoc],
    History.messages_append added more⟩

theorem Transition.handed (taken : Transition env move before after) :
    Hands before after move.message.toList := by
  obtain ⟨added, grown, messages, -⟩ := taken.hands
  exact ⟨added, grown, messages⟩

theorem Follows.silent {passes : Move → Prop} (run : Follows (Transition env) passes before after)
    (quiet : ∀ move, passes move → move.message = none) : Hands before after [] := by
  refine run.invariant (fun machine => Hands before machine []) ?_
    ⟨[], (List.append_nil _).symm, rfl⟩
  intro move earlier last pass taken hands
  have next := taken.handed
  rw [quiet move pass] at next
  exact hands.trans next

end Moves

/-! ### The operations that messages name -/

/-- A label leaves every other field as it is. -/
theorem labelled_lookup {key : String} (other : key ≠ "id") (value : Object) (id : Option String) :
    (labelled value id).lookup key = value.lookup key := by
  cases id with
  | none => rfl
  | some text =>
      refine (Object.lookup_set "id" key (.str text) value).trans ?_
      rw [if_neg other]

theorem Message.op_labelled (owner : Connection) (value : Object) (id : Option String)
    (options : Options) :
    Message.op ⟨owner, labelled value id, options⟩ = (value.lookup "op").bind Json.asStr := by
  unfold Message.op
  rw [labelled_lookup (by decide)]

/-- The reply to a failed request names an operation that depends on the request's. -/
theorem errorResponse_op (v : Json) (cause : Error) :
    ((errorResponse v cause).lookup "op").bind Json.asStr =
      some (if (v.index "op").asStr.getD "" = "call_service" then "service_response"
        else if (v.index "op").asStr.getD "" = "send_action_goal" then "action_result"
        else "status") := by
  unfold errorResponse
  split
  · next op =>
      rw [op]
      rfl
  · next op =>
      rw [op]
      rfl
  · next call goal =>
      rw [if_neg call, if_neg goal]
      rfl

/-- A required field is present. -/
theorem required_ok {v : Json} {key text : String} (found : required v key = .ok text) :
    (v.get key).bind Json.asStr = some text := by
  unfold required at found
  split at found
  · next value same =>
      split at found
      · cases found
      · cases found
        exact same
  · cases found

theorem index_of_required {v : Json} {key text : String} (found : required v key = .ok text) :
    (v.index key).asStr = some text := by
  obtain ⟨field, present, read⟩ := Option.bind_eq_some_iff.mp (required_ok found)
  unfold Json.index
  rw [present]
  exact read

theorem required_of_index {v : Json} {key text : String} (found : (v.index key).asStr.getD "" = text)
    (nonempty : text ≠ "") : required v key = .ok text := by
  unfold required
  unfold Json.index at found
  cases present : v.get key with
  | none =>
      rw [present] at found
      exact absurd found.symm nonempty
  | some value =>
      rw [present, Option.getD_some] at found
      rw [Option.bind_some]
      cases read : value.asStr with
      | none =>
          rw [read] at found
          exact absurd found.symm nonempty
      | some other =>
          rw [read, Option.getD_some] at found
          subst found
          exact if_neg nonempty

theorem errorId_eq (v : Json) : errorId v = (v.get "id").bind Json.asStr := by
  unfold errorId requestId
  cases v.get "id" with
  | none => rfl
  | some value =>
      dsimp only [Option.bind_some]
      cases value.asStr <;> rfl

/-! ### Commands that fail -/

section Commands

variable {env : Environment} {m origin : Machine} {owner : Connection}

theorem Move.Harmless.silent {move : Move} (harmless : move.Harmless) : move.message = none := by
  cases move <;> first | rfl | exact harmless.elim

/-- Harmless moves keep every table. -/
theorem Follows.harmless (reach : Follows (Transition env) Move.Harmless origin m) :
    m.bridge = origin.bridge := by
  refine reach.invariant (fun machine => machine.bridge = origin.bridge) ?_ rfl
  rintro move before after harmless ⟨middle, sent, -, rfl⟩ same
  rw [harmless.silent] at sent
  cases sent
  cases move <;> first | exact same | exact harmless.elim

/-- The message that answers a failed request. -/
def errorMessage (owner : Connection) (v : Json) (cause : Error) : Message :=
  ⟨owner, labelled (errorResponse v cause) (errorId v), {}⟩

theorem error_hands {v : Json} {cause : Error} :
    wp (error env owner v cause)
      (fun _ after => m.SameTables after ∧ Hands m after [errorMessage owner v cause]) m := by
  refine wp_send env fun after sent => ?_
  obtain ⟨said, grown, messages, -⟩ := sent.adds
  exact ⟨sent.tables, said, grown, messages⟩

/-- A command of a known kind, whose operation leaves nothing behind if it fails. -/
theorem command_kind {v : Object} {kind : String} (made : Machine → Prop)
    (connected : owner ∈ m.bridge.outputs) (named : required (.obj v) "op" = .ok kind)
    (failed : ∀ cause after, m.SameTables after →
      Hands m after [errorMessage owner (.obj v) cause] → made after)
    (operates : checkAccess m.bridge.access kind (.obj v) = .ok () →
      wp (operate env owner kind (.obj v)) (fun outcome after =>
        match outcome with
        | .ok _ => made after
        | .error _ => Follows (Transition env) Move.Harmless m after
        | .panic _ => True) m)
    (returns : ¬ (perform env (.command owner v) m).1.IsPanic) :
    made (m.next env (.command owner v)) := by
  let settled (outcome : Outcome Error Unit) (after : Machine) : Prop :=
    ¬ outcome.IsPanic → made after
  have refuses {before : Machine} (cause : Error)
      (reach : Follows (Transition env) Move.Harmless m before) :
      wp (error env owner (.obj v) cause) settled before := by
    refine wp_mono error_hands ?_
    rintro outcome after ⟨tables, hands⟩
    have quiet := (Follows.silent reach fun _ => Move.Harmless.silent).trans hands
    have same := (Machine.SameTables.of_eq (Follows.harmless reach)).trans tables
    exact fun _ => failed cause after same quiet
  have spec : wp (command env owner (.obj v)) settled m := by
    refine wp_command_connected connected (wp_execute named (fun cause _ =>
      refuses cause (.refl m)) fun _ _ granted => wp_mono (operates granted) ?_)
    rintro (value | cause | site) after ends
    · exact fun _ => ends
    · exact refuses cause ends
    · exact fun panics => absurd trivial panics
  have spec : wp (perform env (.command owner v)) settled m := spec
  rw [wp_iff] at spec
  exact spec returns

end Commands

end Rosbridge
