import Rosbridge.Refine.Actions

/-!
Handlers of native requests.

Owns: that a handler answers its request, or puts it in a table, exactly once if
it succeeds and at most once if it fails.
-/

set_option autoImplicit false

namespace Rosbridge

open Foundation Program

variable {env : Environment} {m origin : Machine} {entity : Entity} {request : Nat} {args : Json}
  {β : Type}

/-- No action server and no service of a client has the entity. -/
def Bridge.Unserved (b : Bridge) (entity : Entity) : Prop :=
  (∀ action server, b.actionServers.lookup action = some server →
    entity ∉ [server.send, server.cancel, server.result]) ∧
  ∀ name service, b.services.lookup name = some service → service.entity ≠ entity

/-- One move settles the request; the others leave requests alone. -/
def Settles (env : Environment) (request : Entity × Nat) (before after : Machine) : Prop :=
  ∃ middle next move, Follows (Transition env) Move.Unsettling before middle ∧
    Transition env move middle next ∧ move.settles = some request ∧
    Follows (Transition env) Move.Unsettling next after

/-- One move answers the request; the others leave requests alone. -/
def Answers (env : Environment) (request : Entity × Nat) (before after : Machine) : Prop :=
  ∃ middle next move, Follows (Transition env) Move.Unsettling before middle ∧
    Transition env move middle next ∧ move.answers = some request ∧
    Follows (Transition env) Move.Unsettling next after

/-- How the handler of a request may end. -/
def Handled (env : Environment) (request : Entity × Nat) (origin : Machine) :
    Outcome Error Unit → Machine → Prop
  | .ok _, after => Settles env request origin after
  | .error _, after =>
      Follows (Transition env) Move.Unsettling origin after ∨ Answers env request origin after
  | .panic _, after => Overflows env origin.bridge.timeout origin after

theorem Move.settles_of_answers {move : Move} {pair : Entity × Nat}
    (answers : move.answers = some pair) : move.settles = some pair := by
  cases move <;> first | exact answers | cases answers

theorem Answers.settles {pair : Entity × Nat} {before after : Machine}
    (answered : Answers env pair before after) : Settles env pair before after := by
  obtain ⟨middle, next, move, first, taken, answers, rest⟩ := answered
  exact ⟨middle, next, move, first, taken, Move.settles_of_answers answers, rest⟩

theorem Move.Unsettling.keeps_actionServers
    (reach : Follows (Transition env) Move.Unsettling origin m) :
    m.bridge.actionServers = origin.bridge.actionServers := by
  refine Follows.keeps Bridge.actionServers (fun _ _ _ => rfl) ?_ reach
  intro move unsettling b
  cases move <;> first | rfl | exact unsettling.elim

/-- After the request is answered, whatever the rest of the handler does. -/
theorem Handled.of_answered {pair : Entity × Nat} {middle next : Machine} {move : Move}
    (first : Follows (Transition env) Move.Unsettling origin middle)
    (taken : Transition env move middle next) (answers : move.answers = some pair)
    {outcome : Outcome Error Unit} {after : Machine}
    (ends : Ends env Move.Unsettling Never next outcome after) :
    Handled env pair origin outcome after := by
  cases outcome with
  | ok value => exact Answers.settles ⟨middle, next, move, first, taken, answers, ends⟩
  | error cause => exact .inr ⟨middle, next, move, first, taken, answers, ends⟩
  | panic site => exact ends.elim

theorem Settles.prepend {pair : Entity × Nat} {after : Machine}
    (reach : Follows (Transition env) Move.Unsettling origin m) (settled : Settles env pair m after) :
    Settles env pair origin after := by
  obtain ⟨middle, next, move, first, rest⟩ := settled
  exact ⟨middle, next, move, reach.trans first, rest⟩

theorem Answers.prepend {pair : Entity × Nat} {after : Machine}
    (reach : Follows (Transition env) Move.Unsettling origin m) (answered : Answers env pair m after) :
    Answers env pair origin after := by
  obtain ⟨middle, next, move, first, rest⟩ := answered
  exact ⟨middle, next, move, reach.trans first, rest⟩

theorem wp_answered {pair : Entity × Nat} {middle next : Machine} {move : Move}
    {program : Step Unit} (first : Follows (Transition env) Move.Unsettling origin middle)
    (taken : Transition env move middle next) (answers : move.answers = some pair)
    (ends : wp program (Ends env Move.Unsettling Never next) next) :
    wp program (Handled env pair origin) next :=
  wp_mono ends fun _ _ => Handled.of_answered first taken answers

theorem wp_bind_unique (env : Environment) {next : String → Step β} {post : Outcome Error β → Machine → Prop}
    (continues : ∀ id after, Transition env .counted m after →
      (∃ number, after.bridge = { m.bridge with next := number }) → wp (next id) post after) :
    wp (unique >>= next) post m := by
  unfold unique
  rw [wp_bind]
  exact continues _ _ (Move.transition_of .counted rfl rfl (List.append_nil _).symm trivial)
    ⟨_, rfl⟩

/-! ### Requests of an action server -/

section Action

variable {action : String} {server : ActionServer}

theorem goalRequest_handled (found : m.bridge.actionServers.lookup action = some server)
    (same : server.send = entity) :
    wp (goalRequest env action server entity request args)
      (Handled env (entity, request) m) m := by
  have start : Follows (Transition env) Move.Unsettling m m := .refl m
  unfold goalRequest
  refine wp_bind_lift (fun _ _ => .inl start) fun uuid keyed => ?_
  unfold Backend.now
  rw [wp_bind, wp_ask, andThen_ok]
  have timed : Follows (Transition env) Move.Unsettling m
      { m with log := m.log ++ [.now (env.now m.log)] } :=
    Move.observe start trivial (by simp [Entry.Inert])
  refine wp_bind_tables ?_
  rw [wp_ite]
  split
  · refine wp_call_last (fun cause _ => .inl ?_) fun _ _ => ?_
    · exact Move.use timed trivial (.refusal found (by simp [same]))
    · refine Handled.of_answered timed (Move.transition (.requestAnswered entity request _) rfl ?_)
        rfl (.refl _)
      exact ⟨action, server, found, by simp [same]⟩
  · next fresh =>
      -- A failed answer leaves the counter behind; a successful one admits the goal.
      unfold unique
      rw [wp_bind, wp_bind, wp_update, andThen_ok, wp_bind, wp_tables, andThen_ok, wp_pure, andThen_ok]
      refine wp_bind_call (fun cause _ => .inl ?_) fun _ _ => ?_
      · have counted : Transition env .counted
            { m with log := m.log ++ [.now (env.now m.log)] } _ :=
          Move.transition_change .counted rfl trivial rfl
        exact Move.use (timed.trans (.single counted trivial)) trivial
          (.refusal found (by simp [same]))
      refine wp_bind_update ?_
      refine wp_answered timed (Move.transition_of (.goalAdmitted (serverGoalKey action uuid)
        (.accepted server.owner action _ (args.index "goal_id") _) entity request) rfl rfl rfl
          ⟨fresh, rfl, rfl, rfl, ⟨uuid, rfl, keyed⟩, server, found, rfl, same, rfl, rfl⟩)
        rfl ?_
      rw [wp_bind]
      refine wp_send env fun after sent => ?_
      rw [andThen_ok]
      obtain ⟨next, failed, tables⟩ := sent.tables
      refine publishStatus_ends ?_ (fun _ => trivial) (fun _ => trivial) ?_
      · exact Move.say (.refl _) trivial (Or.inr (Or.inr (Or.inl rfl))) sent
      · rw [tables]
        exact (AList.mem_iff_lookup _ _).mpr ⟨server, found⟩

theorem resultRequest_handled (found : m.bridge.actionServers.lookup action = some server)
    (same : server.result = entity) :
    wp (resultRequest env action entity request args) (Handled env (entity, request) m) m := by
  have start : Follows (Transition env) Move.Unsettling m m := .refl m
  have refused (values : Json) (cause : Error) : Follows (Transition env) Move.Unsettling m
      { m with log := m.log ++ [.respond entity request values (.error cause)] } :=
    Move.use start trivial (.refusal found (by simp [same]))
  unfold resultRequest
  refine wp_bind_lift (fun _ _ => .inl start) fun uuid keyed => ?_
  refine wp_bind_tables ?_
  cases known : m.bridge.serverGoals.lookup (serverGoalKey action uuid) with
  | none =>
      refine wp_call_last (fun cause _ => .inl (refused _ cause)) fun _ _ => ?_
      exact Handled.of_answered start (Move.transition (.requestAnswered entity request _) rfl
        ⟨action, server, found, by simp [same]⟩) rfl (.refl _)
  | some goal =>
      cases finished : goal.result with
      | some values =>
          simp only [finished]
          refine wp_call_last (fun cause _ => .inl (refused _ cause)) fun _ _ => ?_
          exact Handled.of_answered start
            (Move.transition (.resultRepeated _ goal values entity request) rfl
              ⟨known, finished, action, server, found, same⟩) rfl (.refl _)
      | none =>
          simp only [finished]
          exact ⟨m, _, .requestParked (serverGoalKey action uuid) (entity, request), start,
            Move.transition_change _ rfl ⟨⟨goal, known, finished⟩, action, server, uuid, rfl,
              uuidKey_clean keyed, found, same⟩ rfl, rfl, .refl _⟩

/-- Marking goals gives and takes no results. -/
theorem Move.Unsettling.keeps_results {key : String} {goal : ServerGoal}
    (reach : Follows (Transition env) Move.Unsettling origin m)
    (found : origin.bridge.serverGoals.lookup key = some goal) :
    ∃ marked, m.bridge.serverGoals.lookup key = some marked ∧ marked.result = goal.result := by
  refine reach.invariant (fun m => ∃ marked, m.bridge.serverGoals.lookup key = some marked ∧
    marked.result = goal.result) ?_ ⟨goal, found, rfl⟩
  rintro move before after unsettling taken ⟨marked, present, same⟩
  obtain ⟨next, failed, tables⟩ := taken.bridge
  rw [tables]
  cases move
  case goalMarked other =>
    rw [Move.effect, AList.lookup_alter]
    split
    · next here =>
        rw [← here]
        exact ⟨{ marked with status := 3 }, by rw [present]; rfl, same⟩
    · exact ⟨marked, present, same⟩
  all_goals first | exact unsettling.elim | exact ⟨marked, present, same⟩

theorem scanGoal_ends {requested : String} {stamp : Int × Nat} (scan : CancelScan)
    {entry : String × ServerGoal}
    (listed : origin.bridge.serverGoals.lookup entry.1 = some entry.2)
    (reach : Follows (Transition env) Move.Unsettling origin m) :
    wp (scanGoal env requested stamp scan entry) (Ends env Move.Unsettling Never origin) m := by
  unfold scanGoal
  refine wp_bind_lift (fun _ _ => reach) fun uuid _ => ?_
  simp only [wp_ite]
  split
  · next chosen =>
      obtain ⟨goal, found, same⟩ := Move.Unsettling.keeps_results reach listed
      rw [Bool.and_eq_true] at chosen
      exact Move.change (.goalMarked entry.1) reach trivial rfl
        ⟨goal, found, same.trans (Option.isNone_iff_eq_none.mp chosen.1)⟩ rfl
  · exact reach

theorem cancelRequest_handled (found : m.bridge.actionServers.lookup action = some server)
    (same : server.cancel = entity) :
    wp (cancelRequest env action server entity request args)
      (Handled env (entity, request) m) m := by
  have start : Follows (Transition env) Move.Unsettling m m := .refl m
  unfold cancelRequest
  refine wp_bind_lift (fun _ _ => .inl start) fun requested _ => ?_
  refine wp_bind_tables ?_
  refine (reads_visit env _).wp_bind start (fun _ => trivial) (fun _ _ _ reach => .inl reach)
    fun goals m₁ visited unchanged reach₁ => ?_
  have listed : ∀ entry ∈ goals, m₁.bridge.serverGoals.lookup entry.1 = some entry.2 := by
    rintro ⟨key, goal⟩ member
    rw [unchanged]
    exact ((mem_visit env visited).1 key goal).mp member
  refine wp_bind_of (foldEach_ends (.refl m₁) fun entry member scan _ reach =>
    scanGoal_ends scan (listed entry (List.mem_of_mem_filter member)) reach) ?_
    (fun _ _ reach => .inl (reach₁.trans reach)) fun _ _ never => never.elim
  intro scan m₂ reach₂
  have reach := reach₁.trans reach₂
  have found₂ : m₂.bridge.actionServers.lookup action = some server := by
    rw [Move.Unsettling.keeps_actionServers reach]
    exact found
  refine wp_bind_call (fun cause _ => .inl ?_) fun _ _ => ?_
  · exact Move.use reach trivial (.refusal found₂ (by simp [same]))
  refine wp_answered reach (Move.transition (.requestAnswered entity request _) rfl
    ⟨action, server, found₂, by simp [same]⟩) rfl ?_
  refine Ends.bind ?_ fun _ m₃ reach => ?_
  · refine forEach_ends (.refl _) fun id _ before reach => ?_
    refine wp_send env fun after sent => ?_
    exact Move.say reach trivial (Or.inr (Or.inr (Or.inr rfl))) sent
  · refine publishStatus_ends reach (fun _ => trivial) (fun _ => trivial) ?_
    rw [Move.Unsettling.keeps_actionServers reach]
    exact (AList.mem_iff_lookup _ _).mpr ⟨server, found₂⟩

end Action

/-! ### Dispatch -/

theorem serverRequest_handled {action : String} {server : ActionServer}
    (found : m.bridge.actionServers.lookup action = some server)
    (member : entity ∈ [server.send, server.cancel, server.result]) :
    wp (serverRequest env action server entity request args)
      (Handled env (entity, request) m) m := by
  unfold serverRequest
  simp only [List.mem_cons, List.not_mem_nil, or_false] at member
  rw [wp_ite]
  split
  · next atSend => exact goalRequest_handled found atSend.symm
  · next notSend =>
      rw [wp_ite]
      split
      · next atResult => exact resultRequest_handled found atResult.symm
      · next notResult =>
          refine cancelRequest_handled found ?_
          rcases member with atSend | atCancel | atResult
          · exact absurd atSend notSend
          · exact atCancel.symm
          · exact absurd atResult notResult

/-- A request for an action server is handled; any other is left to the services. -/
theorem actionRequest_spec :
    wp (actionRequest env entity request args)
      (fun outcome after =>
        match outcome with
        | .ok true => Settles env (entity, request) m after
        | .ok false =>
            Follows (Transition env) Move.Unsettling m after ∧ after.bridge = m.bridge ∧
              ∀ action server, m.bridge.actionServers.lookup action = some server →
                entity ∉ [server.send, server.cancel, server.result]
        | .error _ =>
            Follows (Transition env) Move.Unsettling m after ∨
              Answers env (entity, request) m after
        | .panic _ => Overflows env m.bridge.timeout m after) m := by
  have start : Follows (Transition env) Move.Unsettling m m := .refl m
  unfold actionRequest
  refine wp_bind_tables ?_
  refine (reads_visit env _).wp_bind start (fun _ => trivial) (fun _ _ _ reach => .inl reach)
    fun servers m₁ visited same reach => ?_
  cases chosen : servers.find? fun entry =>
      [entry.2.send, entry.2.cancel, entry.2.result].contains entity with
  | none =>
      refine ⟨reach, same, fun action server found member => ?_⟩
      have listed := ((mem_visit env visited).1 action server).mpr found
      have unmatched := List.find?_eq_none.mp chosen _ listed
      exact unmatched (by simpa using member)
  | some entry =>
      obtain ⟨action, server⟩ := entry
      have found : m₁.bridge.actionServers.lookup action = some server := by
        rw [same]
        exact ((mem_visit env visited).1 action server).mp (List.mem_of_find?_eq_some chosen)
      have member : entity ∈ [server.send, server.cancel, server.result] := by
        simpa using List.find?_some chosen
      refine wp_bind_of (serverRequest_handled found member) ?_ ?_ ?_
      · exact fun _ _ settled => settled.prepend reach
      · exact fun _ _ ends => ends.imp reach.trans (Answers.prepend reach)
      · intro _ after ends
        have past : Overflows env m₁.bridge.timeout m₁ after := ends
        rw [same] at past
        exact past.prepend (reach_log_grows reach)

/-- How the handling of a request ends, whoever it is for. -/
def Received (env : Environment) (pair : Entity × Nat) (origin : Machine) :
    Outcome Error Unit → Machine → Prop
  | .ok _, after =>
      Settles env pair origin after ∨
        (Follows (Transition env) Move.Unsettling origin after ∧
          origin.bridge.Unserved pair.1)
  | .error _, after =>
      Follows (Transition env) Move.Unsettling origin after ∨ Answers env pair origin after
  | .panic _, after => Overflows env origin.bridge.timeout origin after

theorem serviceRequest_received :
    wp (serviceRequest env entity request args) (Received env (entity, request) m) m := by
  unfold serviceRequest
  refine wp_bind_of actionRequest_spec ?_ (fun _ _ ends => ends) fun _ _ past => past
  rintro (_ | _) m₁ spec
  · obtain ⟨reach, same, unserved⟩ := spec
    refine wp_bind_tables ?_
    refine (reads_visit env _).wp_bind reach (fun _ => trivial) (fun _ _ _ reach => .inl reach)
      fun services m₂ visited same₂ reach => ?_
    rw [same] at same₂
    cases chosen : services.find? fun entry => entry.2.entity == entity with
    | none =>
        refine .inr ⟨reach, unserved, fun name service found served => ?_⟩
        have listed := ((mem_visit env visited).1 name service).mpr (by rw [same]; exact found)
        exact List.find?_eq_none.mp chosen _ listed (by simpa using served)
    | some entry =>
        obtain ⟨name, service⟩ := entry
        have found : m₂.bridge.services.lookup name = some service := by
          rw [same₂, ← same]
          exact ((mem_visit env visited).1 name service).mp (List.mem_of_find?_eq_some chosen)
        have served : service.entity = entity := by simpa using List.find?_some chosen
        refine wp_mono (forwardRequest_spec found served) ?_
        rintro (value | cause | site) after ends
        · obtain ⟨external, reading, middle, rfl, rfl, taken, said⟩ := ends
          refine .inl ⟨m₂, middle, _, reach, taken, rfl, said.mono ?_⟩
          rintro move ⟨message, rfl⟩
          exact trivial
        · exact ends.elim
        · rw [same₂] at ends
          exact ends.prepend (reach_log_grows reach)
  · exact .inl spec

/-- What is known of a request event once it is over. -/
def Processed (env : Environment) (pair : Entity × Nat) (origin after : Machine) : Prop :=
  Settles env pair origin after ∨
    (Follows (Transition env) Move.Unsettling origin after ∧ origin.bridge.Unserved pair.1) ∨
    ∃ middle, (Follows (Transition env) Move.Unsettling origin middle ∨
      Answers env pair origin middle) ∧ Transition env (.discarded pair.1 pair.2) middle after

/-- Whatever its handler does, a request event ends without an error. -/
theorem requestEvent_processed :
    wp (requestEvent env entity request args)
      (fun outcome after =>
        match outcome with
        | .ok _ => Processed env (entity, request) m after
        | .error _ => False
        | .panic _ => Overflows env m.bridge.timeout m after) m := by
  unfold requestEvent
  rw [wp_bind, wp_attempt]
  refine wp_mono serviceRequest_received ?_
  rintro (value | cause | site) after received
  · exact received.imp_right .inl
  · exact .inr (.inr ⟨after, received, Move.transition (.discarded entity request) rfl trivial⟩)
  · exact received

end Rosbridge
