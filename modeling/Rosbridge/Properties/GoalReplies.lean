import Rosbridge.Properties.ClientGoals
import Rosbridge.Refine.Messages

/-!
Messages about the goals of WebSocket clients.

Owns: `GoalMessage`, what a client hears of a goal; that a command that sends a goal either
fails with one result or opens one goal; that the messages about a goal are feedback and then
at most one result; and that no two goals of a client share action and identifier.
-/

set_option autoImplicit false

namespace Rosbridge

open Foundation Program

/-! ### Messages -/

/-- What a client hears of a goal. -/
inductive GoalMessage where
  | failure (owner : Connection) (v : Json) (cause : Error)
  | feedback (key : String) (goal : ClientGoal) (sample : RosMessage)
  | result (key : String) (goal : ClientGoal) (values : Json) (status : Int) (success : Bool)

namespace GoalMessage

/-- The message as it is handed over. A failed command is answered under its identifier, if that
is a string. -/
def message : GoalMessage → Message
  | failure owner v cause =>
      ⟨owner, labelled
        [ ("op", .str "action_result"),
          ("action", v.index "action"),
          ("result", .bool false),
          ("status", .int 6),
          ("values", .str cause.message) ] ((v.get "id").bind Json.asStr), {}⟩
  | feedback _ goal sample =>
      ⟨goal.owner, labelled (feedbackMessage goal sample) goal.id, goal.options⟩
  | result _ goal values status success =>
      ⟨goal.owner, labelled (resultMessage goal values status success) goal.id, goal.options⟩

/-- The goal that a message is about. -/
def key? : GoalMessage → Option String
  | failure _ _ _ => none
  | feedback key _ _ | result key _ _ _ _ => some key

end GoalMessage

/-- A message of the client side of an action. -/
def Message.OfGoal (message : Message) : Prop :=
  message.op = some "action_feedback" ∨ message.op = some "action_result"

instance (message : Message) : Decidable message.OfGoal := by
  unfold Message.OfGoal
  infer_instance

/-- The messages about goals. -/
def History.goalMessages (log : History) : List Message :=
  log.messages.filter fun message => message.OfGoal

theorem History.goalMessages_append (log more : History) :
    (log ++ more).goalMessages = log.goalMessages ++ more.goalMessages := by
  unfold History.goalMessages
  rw [History.messages_append, List.filter_append]

/-- The message about a goal that a move hands over. -/
def Move.goalMessage? : Move → Option GoalMessage
  | refused owner v cause =>
      if (v.index "op").asStr.getD "" = "send_action_goal" then some (.failure owner v cause)
      else none
  | goalFed key goal sample => some (.feedback key goal sample)
  | goalFinished key goal values status success => some (.result key goal values status success)
  | _ => none

section Moves

variable {env : Environment} {m before after : Machine} {move : Move}

theorem errorResponse_goal {v : Json} (cause : Error) (owner : Connection)
    (sends : (v.index "op").asStr.getD "" = "send_action_goal") :
    (⟨owner, labelled (errorResponse v cause) (errorId v), {}⟩ : Message) =
      (GoalMessage.failure owner v cause).message := by
  rw [errorId_eq, errorResponse, sends]
  rfl

/-- The messages of a move about goals. -/
theorem Move.goal_messages (enabled : move.Enabled env m) :
    (move.message.toList.filter fun message => message.OfGoal) =
      move.goalMessage?.toList.map GoalMessage.message := by
  have other {message : Message} {op : String} (named : message.op = some op)
      (feedback : op ≠ "action_feedback") (result : op ≠ "action_result") :
      ([message].filter fun message => message.OfGoal) = [] := by
    have apart : ¬ message.OfGoal := by
      rintro (same | same)
      · exact feedback (Option.some.inj (named.symm.trans same))
      · exact result (Option.some.inj (named.symm.trans same))
    rw [List.filter_singleton]
    simp [apart]
  have same {message : Message} (about : message.OfGoal) :
      ([message].filter fun message => message.OfGoal) = [message] := by
    rw [List.filter_singleton]
    simp [about]
  cases move
  case told message =>
    rcases enabled with op | op | op | op
    all_goals exact other op (by decide) (by decide)
  case refused owner v cause =>
    have op := (Message.op_labelled owner (errorResponse v cause) (errorId v) {}).trans
      (errorResponse_op v cause)
    by_cases sends : (v.index "op").asStr.getD "" = "send_action_goal"
    · rw [sends] at op
      have message : (Move.refused owner v cause).goalMessage? = some (.failure owner v cause) :=
        if_pos sends
      rw [message, Option.toList_some, List.map_singleton, ← errorResponse_goal cause owner sends]
      exact same (.inr op)
    · rw [if_neg sends] at op
      have message : (Move.refused owner v cause).goalMessage? = none := if_neg sends
      rw [message]
      refine other op ?_ ?_
      all_goals split <;> decide
  case replied key call values => exact other (Message.op_labelled _ _ _ _) (by decide) (by decide)
  case expired key call now => exact other (Message.op_labelled _ _ _ _) (by decide) (by decide)
  case goalFed key goal sample => exact same (.inl (Message.op_labelled _ _ _ _))
  case cancelRejected place key goal =>
    exact other (Message.op_labelled _ _ _ _) (by decide) (by decide)
  case goalFinished key goal values status success =>
    exact same (.inr (Message.op_labelled _ _ _ _))
  all_goals rfl

/-- What a move adds to the messages about goals and to the events of the history. -/
theorem Transition.goal_messages (taken : Transition env move before after) :
    ∃ added : History, after.log = before.log ++ added ∧
      added.goalMessages = move.goalMessage?.toList.map GoalMessage.message := by
  obtain ⟨added, grown, messages, events⟩ := taken.hands
  obtain ⟨middle, sent, enabled, -⟩ := taken
  refine ⟨added, grown, ?_⟩
  unfold History.goalMessages
  rw [messages, Move.goal_messages enabled]

/-- A failed command that sends a goal is answered. -/
theorem Move.goal_refused {owner : Connection} {v : Json} {cause : Error} {message : GoalMessage}
    (given : (Move.refused owner v cause).goalMessage? = some message) :
    message = .failure owner v cause ∧ required v "op" = .ok "send_action_goal" := by
  by_cases sends : (v.index "op").asStr.getD "" = "send_action_goal"
  · have same : (Move.refused owner v cause).goalMessage? = some (.failure owner v cause) :=
      if_pos sends
    cases same.symm.trans given
    exact ⟨rfl, required_of_index sends (by decide)⟩
  · have none : (Move.refused owner v cause).goalMessage? = none := if_neg sends
    rw [none] at given
    cases given

theorem Move.goal_failure {owner : Connection} {v : Json} {cause : Error}
    (given : move.goalMessage? = some (.failure owner v cause)) :
    move = .refused owner v cause ∧ required v "op" = .ok "send_action_goal" := by
  cases move
  case refused other request failure =>
    obtain ⟨⟨⟩, sends⟩ := Move.goal_refused given
    exact ⟨rfl, sends⟩
  all_goals cases given

end Moves

/-! ### Goals and their messages -/

/-- The same goal at another moment. -/
def ClientGoal.Same (current goal : ClientGoal) : Prop :=
  current = { goal with accepted := current.accepted, cancelling := current.cancelling }

theorem ClientGoal.Same.trans {last current goal : ClientGoal} (later : last.Same current)
    (earlier : current.Same goal) : last.Same goal := by
  unfold ClientGoal.Same at *
  rw [later, earlier]

/-- The messages about one goal. -/
def words (key : String) (said : List GoalMessage) : List GoalMessage :=
  said.filter fun message => message.key? = some key

/-- A message passes on a sample of the goal's feedback that carries its identifier. -/
def GoalMessage.Feeds (env : Environment) (heard : List Event) (key : String) (goal : ClientGoal)
    (message : GoalMessage) : Prop :=
  ∃ current sample, message = .feedback key current sample ∧ current.Same goal ∧
    goal.feedback = true ∧ .message goal.feedbackSub sample ∈ heard ∧
    ∃ uuid, uuidKey env goal.uuid = .ok uuid ∧
      uuidKey env (sample.json.index "goal_id") = .ok uuid

/-- A message is the result of the goal. -/
def GoalMessage.Concludes (key : String) (goal : ClientGoal) (message : GoalMessage) : Prop :=
  ∃ current values status success, message = .result key current values status success ∧
    current.Same goal

/-- What became of a goal: it is active and only feedback was passed on; or it is over and a
result came last. -/
inductive GoalFate (env : Environment) (heard : List Event) (said : List GoalMessage)
    (now : Machine) (key : String) (goal : ClientGoal) : Prop where
  | active {current : ClientGoal} (found : now.bridge.goals.lookup key = some current)
      (same : current.Same goal) (fed : ∀ message ∈ words key said, message.Feeds env heard key goal)
  | concluded {earlier : List GoalMessage} {last : GoalMessage} (absent : key ∉ now.bridge.goals)
      (word : words key said = earlier ++ [last])
      (fed : ∀ message ∈ earlier, message.Feeds env heard key goal)
      (result : last.Concludes key goal)

section Goals

variable {env : Environment} {m : Machine} {move : Move} {heard : List Event} {key : String}
  {goal : ClientGoal} {message : GoalMessage}

theorem words_append (key : String) (said more : List GoalMessage) :
    words key (said ++ more) = words key said ++ words key more :=
  List.filter_append said more

theorem GoalMessage.Feeds.grow (feeds : message.Feeds env heard key goal) (more : List Event) :
    message.Feeds env (heard ++ more) key goal := by
  obtain ⟨current, sample, same, still, wanted, event, matching⟩ := feeds
  exact ⟨current, sample, same, still, wanted, List.mem_append_left _ event, matching⟩

/-- What a move does to a goal. -/
theorem Move.goal_stays (found : m.bridge.goals.lookup key = some goal)
    (enabled : move.Enabled env m) (apart : ∀ other fresh sequence typ args reading,
      move ≠ .goalOpened key other fresh sequence typ args reading) :
    (∃ current, (move.effect m.bridge).goals.lookup key = some current ∧ current.Same goal) ∨
    key ∉ (move.effect m.bridge).goals ∧
      ∃ values status success, move = .goalFinished key goal values status success := by
  have altered (other : String) {change : ClientGoal → ClientGoal}
      (same : ∀ goal, (change goal).Same goal) :
      ∃ current, (m.bridge.goals.alter other change).lookup key = some current ∧
        current.Same goal := by
    rw [AList.lookup_alter]
    split
    · next here =>
        rw [← here, found]
        exact ⟨change goal, rfl, same goal⟩
    · exact ⟨goal, found, rfl⟩
  cases move
  case goalOpened other opened fresh sequence typ args reading =>
    refine .inl ⟨goal, (AList.lookup_insert_ne ?_).trans found, rfl⟩
    rintro rfl
    exact apart opened fresh sequence typ args reading rfl
  case goalAccepted place other accepted sequence => exact .inl (altered other fun _ => rfl)
  case goalStranded place other accepted cause => exact .inl (altered other fun _ => rfl)
  case cancelSent other cancelled sequence => exact .inl (altered other fun _ => rfl)
  case cancelRejected place other cancelled => exact .inl (altered other fun _ => rfl)
  case goalFinished other finished values status success =>
    by_cases here : key = other
    · subst here
      cases found.symm.trans enabled
      exact .inr ⟨fun present => (AList.mem_erase.mp present).1 rfl, values, status, success, rfl⟩
    · exact .inl ⟨goal, (AList.lookup_erase_ne here).trans found, rfl⟩
  all_goals exact .inl ⟨goal, found, rfl⟩

/-- A message about a goal is about an active one. -/
theorem Move.goal_known (enabled : move.Enabled env m) (given : move.goalMessage? = some message)
    (keyed : message.key? = some key) :
    ∃ goal, m.bridge.goals.lookup key = some goal ∧
      ((∃ sample, move = .goalFed key goal sample ∧ message = .feedback key goal sample) ∨
        ∃ values status success, move = .goalFinished key goal values status success ∧
          message = .result key goal values status success) := by
  cases move
  case refused owner v cause =>
    rw [(Move.goal_refused given).1] at keyed
    cases keyed
  case goalFed other goal sample =>
    obtain rfl := Option.some.inj given
    obtain rfl := Option.some.inj keyed
    exact ⟨goal, enabled.1, .inl ⟨sample, rfl, rfl⟩⟩
  case goalFinished other goal values status success =>
    obtain rfl := Option.some.inj given
    obtain rfl := Option.some.inj keyed
    exact ⟨goal, enabled, .inr ⟨values, status, success, rfl, rfl⟩⟩
  all_goals cases given

end Goals

/-! ### Runs -/

/-- What a run from `m` has told about goals. Only what `asks` for a goal can fail. -/
structure GoalsTold (env : Environment) (asks : Connection → Json → Prop) (m : Machine)
    (added : History) (said : List GoalMessage) (now : Machine) : Prop where
  grown : now.log = m.log ++ added
  handed : added.goalMessages = said.map GoalMessage.message
  failures : ∀ owner v cause, .failure owner v cause ∈ said → asks owner v
  fates : ∀ key goal, m.bridge.goals.lookup key = some goal →
    GoalFate env added.events said now key goal

section Runs

variable {env : Environment} {asks : Connection → Json → Prop} {m before after last : Machine}
  {cause : Cause} {key : String} {goal : ClientGoal}

/-- Only a sample of the feedback feeds a goal. -/
theorem Cause.Allows.fed {sample : RosMessage} (allowed : cause.Allows m (.goalFed key goal sample)) :
    cause = .event (.message goal.feedbackSub sample) := by
  cases cause with
  | connect connection => cases allowed
  | command owner v => exact allowed.by.elim
  | poll =>
      rcases allowed with reading | ⟨events, ⟨⟩⟩
      exact reading.elim
  | event event =>
      cases event with
      | message entity other =>
          obtain ⟨rfl, rfl⟩ := allowed
          rfl
      | response entity sequence values =>
          rcases allowed with ⟨call, shown, -, -, ⟨⟩⟩ | ⟨call, -, replies⟩
          cases replies
      | request entity number args =>
          rcases allowed with unsettling | ⟨⟨⟩⟩ | ⟨⟨⟩⟩
          exact unsettling.elim
  | time now => exact allowed.elim
  | upkeep =>
      rcases allowed with reading | ⟨⟨⟩⟩ | ⟨readings, ⟨⟩⟩
      exact reading.elim
  | disconnect owner =>
      rcases allowed with ⟨⟨⟩⟩ | pass | pass | pass | pass | pass | pass | ⟨⟨⟩⟩
      all_goals exact pass.elim

/-- A goal is not opened under an identifier that was drawn before. -/
theorem Transition.unopened {move : Move} (taken : Transition env move before after)
    (fresh : Fresh after.log) {drawn : Uuid} (old : .uuid drawn ∈ before.log)
    (opened : ClientGoal) (other : Uuid) (sequence : Int) (typ : String) (args : Json)
    (reading : Instant) :
    move ≠ .goalOpened (String.ofList (drawn.bytes.flatMap hexByte)) opened other sequence typ args
      reading := by
  rintro rfl
  obtain ⟨middle, sent, enabled, rfl⟩ := taken
  have same : String.ofList (drawn.bytes.flatMap hexByte) =
      String.ofList (other.bytes.flatMap hexByte) := enabled.2.2.1
  refine fresh.drawn_once (sent.log_grows.subset old) ?_
  rw [Uuid.hex_injective same]
  exact List.mem_cons_self

/-- A sample that feeds a goal was heard. -/
theorem GoalMessage.Feeds.of_move {added : History} {current : ClientGoal} {sample : RosMessage}
    (grown : before.log = m.log ++ added)
    (noted : (Cause.event (.message current.feedbackSub sample)).Noted m.log before.log)
    (same : current.Same goal) (enabled : (Move.goalFed key current sample).Enabled env after) :
    (GoalMessage.feedback key current sample).Feeds env added.events key goal := by
  obtain ⟨entries, events, longer, polled, member⟩ := noted
  obtain rfl : entries = added := List.append_cancel_left (longer.symm.trans grown)
  obtain ⟨-, wanted, uuid, own, other⟩ := enabled
  refine ⟨current, sample, rfl, same, ?_, ?_, uuid, ?_, other⟩
  · rw [same] at wanted
    exact wanted
  · rw [same] at member
    exact List.mem_flatMap.mpr ⟨_, polled, member⟩
  · rw [same] at own
    exact own

theorem GoalsTold.step {added : History} {said : List GoalMessage} {label : Cause × Move}
    (told : GoalsTold env asks m added said before) (drawn : GoalsDrawn m.bridge m.log)
    (caused : Caused env m.log label before after) (fresh : Fresh after.log)
    (asked : ∀ owner v, label.1 = .command owner v → required v "op" = .ok "send_action_goal" →
      asks owner v) : ∃ added said, GoalsTold env asks m added said after := by
  obtain ⟨noted, allowed, taken⟩ := caused
  obtain ⟨further, grown, handed⟩ := taken.goal_messages
  have unopened {key : String} {goal : ClientGoal} (found : m.bridge.goals.lookup key = some goal) :
      ∀ other fresh sequence typ args reading,
        label.2 ≠ .goalOpened key other fresh sequence typ args reading := by
    obtain ⟨uuid, old, rfl, -⟩ := drawn key goal found
    refine taken.unopened fresh ?_
    rw [told.grown]
    exact List.mem_append_left _ old
  obtain ⟨middle, sent, enabled, rfl⟩ := taken
  obtain ⟨next, failed, tables⟩ := sent.tables
  have goals : middle.bridge.goals = before.bridge.goals := by rw [tables]
  refine ⟨added ++ further, said ++ label.2.goalMessage?.toList, ?_, ?_, ?_, ?_⟩
  · rw [grown, told.grown, List.append_assoc]
  · rw [History.goalMessages_append, told.handed, handed, List.map_append]
  · intro owner v cause member
    rcases List.mem_append.mp member with old | new
    · exact told.failures owner v cause old
    · obtain ⟨same, sends⟩ := Move.goal_failure (Option.mem_toList.mp new)
      rw [same] at allowed
      exact asked owner v allowed.refused sends
  · intro key goal found
    rw [History.events_append]
    have known {message : GoalMessage} (member : message ∈ words key label.2.goalMessage?.toList) :=
      Move.goal_known enabled (Option.mem_toList.mp (List.mem_filter.mp member).1)
        (of_decide_eq_true (List.mem_filter.mp member).2)
    cases told.fates key goal found with
    | @active current here same fed =>
        rw [← goals] at here
        rcases Move.goal_stays here enabled (unopened found) with
          ⟨changed, there, still⟩ | ⟨absent, values, status, success, moved⟩
        · refine .active there (still.trans same) fun message member => ?_
          rw [words_append] at member
          rcases List.mem_append.mp member with old | new
          · exact (fed message old).grow _
          obtain ⟨active, here', ⟨sample, moved, rfl⟩ | ⟨values, status, success, moved, rfl⟩⟩ :=
            known new
          · cases here.symm.trans here'
            rw [moved] at enabled allowed
            rw [allowed.fed] at noted
            exact .grow (.of_move told.grown noted same enabled) _
          · rw [moved] at there
            exact absurd ((AList.mem_iff_lookup _ _).mpr ⟨changed, there⟩)
              fun present => (AList.mem_erase.mp present).1 rfl
        · refine .concluded absent ?_ (fun message member => (fed message member).grow _)
            ⟨current, values, status, success, rfl, same⟩
          rw [words_append, moved]
          exact congrArg (words key said ++ ·) (List.filter_cons_of_pos (by simp [GoalMessage.key?]))
    | concluded absent word fed result =>
        refine .concluded (fun present => ?_) ?_ (fun message member => (fed message member).grow _)
          result
        · obtain ⟨active, there⟩ := (AList.mem_iff_lookup _ _).mp present
          rcases Move.goal_history there with ⟨drawn, sequence, typ, args, reading, opened⟩ |
            ⟨old, here, -⟩
          · exact unopened found active drawn sequence typ args reading opened
          · rw [goals] at here
            exact absent ((AList.mem_iff_lookup _ _).mpr ⟨old, here⟩)
        · have quiet : words key label.2.goalMessage?.toList = [] := by
            refine List.eq_nil_iff_forall_not_mem.mpr fun message member => ?_
            obtain ⟨active, here, -⟩ := known member
            rw [goals] at here
            exact absent ((AList.mem_iff_lookup _ _).mpr ⟨active, here⟩)
          rw [words_append, quiet, List.append_nil, word]

theorem GoalsTold.start (env : Environment) (asks : Connection → Json → Prop) (m : Machine) :
    GoalsTold env asks m [] [] m where
  grown := (List.append_nil _).symm
  handed := rfl
  failures := nofun
  fates := fun _ _ found => .active found rfl (List.forall_mem_nil _)

theorem Continues.told (run : Continues env m last) (shaped : Shaped m) (fresh : Fresh last.log) :
    ∃ added said, GoalsTold env (Requested env m last "send_action_goal") m added said last := by
  refine (Continues.caused run shaped).inherited (fun machine => Fresh machine.log)
    (fun machine => ∃ added said,
      GoalsTold env (Requested env m last "send_action_goal") m added said machine) ?_ ?_ fresh
    ⟨[], [], GoalsTold.start _ _ _⟩
  · exact fun _ _ _ caused fresh => fresh.inherit caused.taken.log_grows
  · rintro label before after ⟨op, takes, within⟩ caused fresh ⟨added, said, told⟩
    refine told.step shaped.drawn caused fresh fun owner v same sends => ?_
    rw [same] at within
    exact ⟨op, takes, within.asks sends⟩

end Runs

/-! ### Tables of goals -/

/-- Every awaited reply is about an active goal. -/
def CallsNamed (b : Bridge) : Prop :=
  ∀ pending call, b.actionCalls.lookup pending = some call → call.goal ∈ b.goals

/-- No two goals of a client share their action and their identifier. -/
def GoalsApart (b : Bridge) : Prop :=
  ∀ key goal other active, b.goals.lookup key = some goal → b.goals.lookup other = some active →
    active.owner = goal.owner → active.action = goal.action → active.id = goal.id → other = key

section Tables

variable {env : Environment} {access : Access} {timeout : Duration} {m before after : Machine}
  {move : Move}

theorem Move.keeps_named (enabled : move.Enabled env m) (named : CallsNamed m.bridge) :
    CallsNamed (move.effect m.bridge) := by
  have erased {b : Bridge} {place pending : Entity × Int} {call : ActionCall}
      (found : (b.actionCalls.erase place).lookup pending = some call) :
      b.actionCalls.lookup pending = some call := by
    rw [AList.lookup_erase_if] at found
    split at found
    · cases found
    · exact found
  have inserted {calls : Table (Entity × Int) ActionCall} {place pending : Entity × Int}
      {new call : ActionCall} (found : (calls.insert place new).lookup pending = some call) :
      call = new ∨ calls.lookup pending = some call := by
    rw [AList.lookup_insert_if] at found
    split at found
    · cases found
      exact .inl rfl
    · exact .inr found
  have altered {key other : String} {change : ClientGoal → ClientGoal}
      (present : key ∈ m.bridge.goals) : key ∈ m.bridge.goals.alter other change :=
    (AList.mem_alter _ _ _ _).mpr present
  have member {key : String} {goal : ClientGoal}
      (found : m.bridge.goals.lookup key = some goal) : key ∈ m.bridge.goals :=
    (AList.mem_iff_lookup _ _).mpr ⟨goal, found⟩
  intro pending call found
  cases move
  case goalOpened key goal fresh sequence typ args reading =>
    refine (AList.mem_insert _).mpr ?_
    rcases inserted found with rfl | old
    · exact .inl rfl
    · exact .inr (named pending call old)
  case goalAccepted place key goal sequence =>
    rcases inserted found with rfl | old
    · exact altered (member enabled.2)
    · exact altered (named pending call (erased old))
  case goalStranded place key goal cause => exact altered (named pending call (erased found))
  case cancelSent key goal sequence =>
    rcases inserted found with rfl | old
    · exact altered (member enabled.1)
    · exact altered (named pending call old)
  case cancelSettled place key => exact named pending call (erased found)
  case cancelRejected place key goal => exact altered (named pending call (erased found))
  case replyIgnored place ignored => exact named pending call (erased found)
  case goalFinished key goal values status success =>
    obtain ⟨old, apart⟩ := Option.filter_eq_some_iff.mp ((AList.lookup_retain _ _ _).symm.trans found)
    exact AList.mem_erase.mpr ⟨of_decide_eq_true apart, named pending call old⟩
  all_goals exact named pending call found

theorem Move.keeps_apart (enabled : move.Enabled env m) (apart : GoalsApart m.bridge) :
    GoalsApart (move.effect m.bridge) := by
  intro key goal other active found found' owner action id
  rcases Move.goal_history found with ⟨fresh, sequence, typ, args, reading, rfl⟩ |
    ⟨old, here, same, -⟩
  · rcases Move.goal_history found' with ⟨-, -, -, -, -, ⟨⟩⟩ | ⟨old, here, same, -⟩
    · rfl
    · rw [same] at owner action id
      exact absurd ⟨owner, action, id⟩ (enabled.2.2.2.2.2.1 other old here)
  · rcases Move.goal_history found' with ⟨fresh, sequence, typ, args, reading, rfl⟩ |
      ⟨older, here', same', -⟩
    · rw [same] at owner action id
      exact absurd ⟨owner.symm, action.symm, id.symm⟩ (enabled.2.2.2.2.2.1 key old here)
    · rw [same, same'] at owner action id
      exact apart key old other older here here' owner action id

theorem goals_new (access : Access) (timeout : Duration) :
    CallsNamed (Machine.new access timeout).bridge ∧
      GoalsApart (Machine.new access timeout).bridge := by
  constructor
  · rintro pending call ⟨⟩
  · rintro key goal other active ⟨⟩

theorem Reachable.goals (reached : Reachable env access timeout m) (fresh : Fresh m.log) :
    CallsNamed m.bridge ∧ GoalsApart m.bridge := by
  let inv (machine : Machine) : Prop := CallsNamed machine.bridge ∧ GoalsApart machine.bridge
  suffices inv m from this
  refine Onward.carry reached fresh ?_ (shaped_new access timeout) (goals_new access timeout)
  rintro move before after ⟨middle, sent, enabled, rfl⟩ - - ⟨named, apart⟩
  obtain ⟨next, failed, tables⟩ := sent.tables
  have goals : middle.bridge.goals = before.bridge.goals := by rw [tables]
  have calls : middle.bridge.actionCalls = before.bridge.actionCalls := by rw [tables]
  refine ⟨Move.keeps_named enabled ?_, Move.keeps_apart enabled ?_⟩
  · unfold CallsNamed
    rw [goals, calls]
    exact named
  · unfold GoalsApart
    rw [goals]
    exact apart

end Tables

/-! ### Commands -/

/-- The goal identifier was drawn. -/
def History.Drew (log : History) (key : String) : Prop :=
  ∃ uuid, .uuid uuid ∈ log ∧ key = String.ofList (uuid.bytes.flatMap hexByte)

/-- What a command that sends a goal does: it fails with one result and opens nothing, or it
opens one goal under a new identifier and says nothing. -/
inductive GoalMade (m : Machine) (owner : Connection) (v : Json) (after : Machine) : Prop where
  | failed {cause : Error} (handed : Hands m after [(GoalMessage.failure owner v cause).message])
      (unchanged : after.bridge.goals = m.bridge.goals)
  | made {key : String} {goal : ClientGoal} (handed : Hands m after [])
      (absent : key ∉ m.bridge.goals) (fresh : ¬ m.log.Drew key)
      (recorded : after.bridge.goals = m.bridge.goals.insert key goal) (owned : goal.owner = owner)
      (identified : requestId v = .ok goal.id) (named : name v "action" = .ok goal.action)
      (parsed : Options.parse v = .ok goal.options) (wanted : wantsFeedback v = .ok goal.feedback)

section Commands

variable {env : Environment} {m : Machine} {owner : Connection} {v : Object}

/-- A command of a connected client that sends a goal. -/
theorem goal_made (connected : owner ∈ m.bridge.outputs)
    (sends : required (.obj v) "op" = .ok "send_action_goal") (shaped : Shaped m)
    (returns : ¬ (perform env (.command owner v) m).1.IsPanic)
    (fresh : Fresh (m.next env (.command owner v)).log) :
    GoalMade m owner (.obj v) (m.next env (.command owner v)) := by
  refine command_kind (fun after => Fresh after.log → GoalMade m owner (.obj v) after) connected
    sends ?_ ?_ returns fresh
  · rintro cause after ⟨next, failed, tables⟩ hands -
    have op : ((Json.obj v).index "op").asStr.getD "" = "send_action_goal" := by
      rw [index_of_required sends, Option.getD_some]
    rw [errorMessage, errorResponse_goal cause owner op] at hands
    exact .failed hands (by rw [tables])
  · intro granted
    refine wp_mono (sendGoal_spec connected fun action names => name_granted granted names) ?_
    rintro (value | cause | site) after spec
    · obtain ⟨middle, key, goal, drawn, sequence, typ, args, reading, same, reach, taken, owned,
        identified, named, parsed, wanted, -⟩ := spec
      intro fresh
      have quiet := (Follows.silent reach fun _ => Move.Harmless.silent).trans taken.handed
      have grown := reach_log_grows reach
      have new : ¬ m.log.Drew key := by
        rintro ⟨uuid, old, rfl⟩
        exact taken.unopened fresh (grown.subset old) goal drawn sequence typ args reading rfl
      obtain ⟨next, failed, tables⟩ := taken.bridge
      have recorded : after.bridge.goals = m.bridge.goals.insert key goal := by
        rw [tables]
        show middle.bridge.goals.insert key goal = _
        rw [same]
      refine .made quiet (fun present => new ?_) new recorded owned identified named parsed wanted
      obtain ⟨active, found⟩ := (AList.mem_iff_lookup _ _).mp present
      obtain ⟨uuid, old, filed, -⟩ := shaped.drawn key active found
      exact ⟨uuid, old, filed⟩
    · exact spec
    · trivial

end Commands

/-! ### Goals of clients -/

/-- No two active goals of a client share their action and their identifier. A command of a
connected client that sends a goal either fails with exactly one result and opens no goal, or
says nothing and opens exactly one goal under a new identifier. Whatever happens in any run from
there, the messages about a goal are feedback, as long as it is active, each of it wanted and
from a sample that carries the goal's identifier, and exactly one result once it is gone, with
nothing afterwards. What is gone is in no pending request either. The run hands over no other
feedback or result than these and the results of failed commands. -/
theorem client_goal_messages {env : Environment} {access : Access} {timeout : Duration}
    {m : Machine} (reached : Reachable env access timeout m) (fresh : Fresh m.log) :
    GoalsApart m.bridge ∧
    (∀ owner v, owner ∈ m.bridge.outputs → required (.obj v) "op" = .ok "send_action_goal" →
      ¬ (perform env (.command owner v) m).1.IsPanic →
      Fresh (m.next env (.command owner v)).log →
        GoalMade m owner (.obj v) (m.next env (.command owner v))) ∧
    ∀ last, Continues env m last → Fresh last.log →
      (∀ key, key ∉ last.bridge.goals → ∀ pending call,
        last.bridge.actionCalls.lookup pending = some call → call.goal ≠ key) ∧
      ∃ added said,
        GoalsTold env (Requested env m last "send_action_goal") m added said last := by
  have shaped := Onward.shaped reached (shaped_new access timeout)
  refine ⟨(Reachable.goals reached fresh).2, fun owner v connected sends =>
    goal_made connected sends shaped, fun last run fresh => ⟨?_, run.told shaped fresh⟩⟩
  rintro key absent pending call found rfl
  exact absent ((Reachable.goals (Continues.trans reached run) fresh).1 pending call found)

/-- A command of connection 0 that sends a goal and wants its feedback. -/
def watchedGoal : Operation :=
  .command 0 [("op", .str "send_action_goal"), ("action", .str "/fibonacci"),
    ("action_type", .str "demo/action/Fibonacci"), ("feedback", .bool true)]

/-- A sample of the goal's feedback. -/
def ownFeedback : RosMessage where
  json := .obj [("goal_id", uuidValue (List.replicate 16 1)), ("feedback", .obj [])]
  cbor := .map []
  raw := []
  stamp := (0, 0)

/-- Feedback and the acceptance of the goal come first, and then its result and late feedback. -/
def Environment.feeding : Environment :=
  { Environment.steady with
    poll := fun log =>
      if log.length < 12 then
        .ok [.message 5 ownFeedback, .response 2 7 (.obj [("accepted", .bool true)])]
      else
        .ok [.response 3 13 (.obj [("status", .int 4), ("result", .obj [])]),
          .message 5 ownFeedback] }

/-- The late feedback is not passed on. -/
theorem client_goal_messages_feeding :
    let m := ((Machine.new {} 5).next .feeding (.connect 0)).next .feeding watchedGoal
    let last := (m.next .feeding .tick).next .feeding .tick
    last.log.goalMessages.map Message.op = [some "action_feedback", some "action_result"] ∧
      ∃ added said,
        GoalsTold .feeding (Requested .feeding m last "send_action_goal") m added said last := by
  intro m last
  have reached : Reachable .feeding {} 5 m :=
    .step _ (.step _ .here (by decide +kernel) trivial) (by decide +kernel) trivial
  have run : Continues .feeding m last :=
    .step _ (.step _ .here (by decide +kernel) trivial) (by decide +kernel) trivial
  have fresh : Fresh m.log := ⟨by decide +kernel, by decide +kernel, by decide +kernel⟩
  have freshLast : Fresh last.log := ⟨by decide +kernel, by decide +kernel, by decide +kernel⟩
  exact ⟨by decide +kernel, ((client_goal_messages reached fresh).2.2 last run freshLast).2⟩

end Rosbridge
