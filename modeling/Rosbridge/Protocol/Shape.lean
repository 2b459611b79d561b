import Rosbridge.Protocol.Move

/-!
How the tables of a bridge fit together.

Owns: `Shaped`, the agreement between tables that every move keeps, whatever the
environment answers. No freshness of identifiers is used here.
-/

set_option autoImplicit false

namespace Rosbridge

open Foundation

/-! ### The parts -/

section Parts

variable (b : Bridge) (log : History)

/-- A queue is filed under its connection, which has registered. -/
def OutputsFiled : Prop :=
  ∀ connection output, b.outputs.lookup connection = some output →
    output.connection = connection ∧ .connected connection ∈ log

/-- A native request waits for the service it came to. -/
def RequestsServed : Prop :=
  ∀ id request, b.external.lookup id = some request →
    ∃ service number, b.services.lookup request.service = some service ∧
      service.owner = request.owner ∧ service.entity = request.entity ∧
      id = externalId request.service number ∧ number ≤ service.nextRequest

/-- A goal belongs to the connection that runs its action server. -/
def GoalsServed : Prop :=
  ∀ key goal, b.serverGoals.lookup key = some goal →
    ∃ server, b.actionServers.lookup goal.action = some server ∧ server.owner = goal.owner ∧
      ∀ request ∈ goal.requests, server.result = request.1

/-- A goal of an action server is filed under its action and identifier. -/
def GoalsFiled : Prop :=
  ∀ key goal, b.serverGoals.lookup key = some goal →
    ∃ uuid, key = serverGoalKey goal.action uuid ∧ ':' ∉ uuid.toList

/-- Nothing waits for a goal that has its result. -/
def ResultsDelivered : Prop :=
  ∀ key goal, b.serverGoals.lookup key = some goal →
    (goal.completed ≠ none → goal.result ≠ none) ∧ (goal.result ≠ none → goal.requests = [])

/-- A goal of a client is filed under its random identifier. -/
def GoalsDrawn : Prop :=
  ∀ key goal, b.goals.lookup key = some goal →
    ∃ fresh, .uuid fresh ∈ log ∧ key = String.ofList (fresh.bytes.flatMap hexByte) ∧
      goal.uuid = uuidValue fresh.bytes

end Parts

/-- The tables fit together. -/
structure Shaped (m : Machine) : Prop where
  outputs : OutputsFiled m.bridge m.log
  external : RequestsServed m.bridge
  served : GoalsServed m.bridge
  filed : GoalsFiled m.bridge
  delivered : ResultsDelivered m.bridge
  drawn : GoalsDrawn m.bridge m.log

theorem serverGoalKey_injective {action other uuid otherUuid : String}
    (clean : ':' ∉ uuid.toList) (otherClean : ':' ∉ otherUuid.toList)
    (same : serverGoalKey action uuid = serverGoalKey other otherUuid) :
    action = other ∧ uuid = otherUuid :=
  append_colon_injective clean otherClean same

theorem externalId_injective {service other : String} {number otherNumber : Nat}
    (same : externalId service number = externalId other otherNumber) :
    service = other ∧ number = otherNumber := by
  obtain ⟨services, numbers⟩ := append_colon_injective
    (not_mem_toString (by decide) number) (not_mem_toString (by decide) otherNumber) same
  exact ⟨String.append_right_inj _ |>.mp services, toString_injective numbers⟩

/-! ### One move -/

section Step

variable {env : Environment} {move : Move} {m : Machine}

theorem Move.keeps_outputsFiled (held : OutputsFiled m.bridge m.log) :
    OutputsFiled (move.effect m.bridge) (m.log ++ move.entries) := by
  have grown : OutputsFiled m.bridge (m.log ++ move.entries) := fun connection output found =>
    ⟨(held connection output found).1, List.mem_append_left _ (held connection output found).2⟩
  cases move
  case connected connection =>
    intro other output found
    rw [Move.effect, AList.lookup_insert_if] at found
    split at found
    · next same =>
        cases found
        exact ⟨same.symm, List.mem_append_right _ (by rw [same]; exact List.mem_singleton_self _)⟩
    · exact grown other output found
  case left owner =>
    intro other output found
    rw [Move.effect, AList.lookup_erase_if] at found
    split at found
    · cases found
    · exact grown other output found
  all_goals exact grown

theorem Move.keeps_requestsServed (enabled : move.Enabled env m)
    (held : RequestsServed m.bridge) : RequestsServed (move.effect m.bridge) := by
  cases move
  case serviceOpened name service =>
    intro id request found
    obtain ⟨current, number, present, rest⟩ := held id request found
    refine ⟨current, number, ?_, rest⟩
    have apart : request.service ≠ name := by
      rintro rfl
      exact enabled.1 ((AList.mem_iff_lookup _ _).mpr ⟨current, present⟩)
    exact (AList.lookup_insert_ne apart).trans present
  case serviceRemoved name service =>
    intro id request found
    rw [Move.effect, AList.lookup_retain, Option.filter_eq_some_iff] at found
    obtain ⟨current, number, present, owner, entity, rest⟩ := held id request found.1
    refine ⟨current, number, ?_, owner, entity, rest⟩
    have apart : request.service ≠ name := by
      rintro rfl
      cases enabled.symm.trans present
      exact of_decide_eq_true found.2 entity.symm
    exact (AList.lookup_erase_ne apart).trans present
  case forwarded number request reading =>
    obtain ⟨service, present, owner, entity, counted⟩ := enabled
    have still : (b : Bridge) → b = (Move.forwarded number request reading).effect m.bridge →
        ∀ name service, m.bridge.services.lookup name = some service →
          ∃ after, b.services.lookup name = some after ∧ after.owner = service.owner ∧
            after.entity = service.entity ∧ service.nextRequest ≤ after.nextRequest ∧
            (name = request.service → after.nextRequest = service.nextRequest + 1) := by
      rintro _ rfl name service found
      rw [Move.effect, AList.lookup_alter]
      split
      · next same =>
          rw [← same, found]
          exact ⟨_, rfl, rfl, rfl, Nat.le_succ _, fun _ => rfl⟩
      · next apart => exact ⟨service, found, rfl, rfl, le_rfl, fun same => absurd same apart⟩
    intro id waiting found
    rw [Move.effect, AList.lookup_insert_if] at found
    split at found
    · next same =>
        cases found
        obtain ⟨after, present', owner', entity', -, bumped⟩ := still _ rfl _ service present
        exact ⟨after, number, present', owner'.trans owner, entity'.trans entity, same,
          by rw [bumped rfl, counted]⟩
    · obtain ⟨current, other, present', owner', entity', same, below⟩ := held id waiting found
      obtain ⟨after, present'', owner'', entity'', grown, -⟩ := still _ rfl _ current present'
      exact ⟨after, other, present'', owner''.trans owner', entity''.trans entity', same,
        below.trans grown⟩
  case answered id request values =>
    intro other waiting found
    rw [Move.effect, AList.lookup_erase_if] at found
    split at found
    · cases found
    · exact held other waiting found
  case requestExpired id request =>
    intro other waiting found
    rw [Move.effect, AList.lookup_erase_if] at found
    split at found
    · cases found
    · exact held other waiting found
  case requestsDropped owner =>
    intro id request found
    rw [Move.effect, AList.lookup_retain, Option.filter_eq_some_iff] at found
    exact held id request found.1
  all_goals exact held

/-- What a move can do to a goal of an action server that it does not remove. -/
inductive Move.Alters (move : Move) (key : String) (old : ServerGoal) : ServerGoal → Prop where
  | kept : Alters move key old old
  | marked (is : move = .goalMarked key) (unfinished : old.result = none) :
      Alters move key old { old with status := 3 }
  | parked {request : Entity × Nat} (is : move = .requestParked key request)
      (unfinished : old.result = none) :
      Alters move key old { old with requests := old.requests ++ [request] }
  | answered {request : Entity × Nat} {values : Json}
      (is : move = .parkedAnswered key old request values) :
      Alters move key old { old with requests := old.requests.dropLast }
  | completed {status : Int} {values : Json} {reading : Instant}
      (is : move = .goalCompleted key old status values reading) (alone : old.requests = [])
      (unfinished : old.result = none) (terminal : 4 ≤ status ∧ status ≤ 6) :
      Alters move key old
        { old with status, result := some values, completed := some reading }

/-- How a goal that an action server has after a move came about. -/
theorem Move.serverGoal_history (enabled : move.Enabled env m) {key : String} {goal : ServerGoal}
    (found : (move.effect m.bridge).serverGoals.lookup key = some goal) :
    (∃ entity request, move = .goalAdmitted key goal entity request) ∨
      ∃ old, m.bridge.serverGoals.lookup key = some old ∧ move.Alters key old goal := by
  cases move
  case actionRemoved action server closed replies =>
    rw [Move.effect, AList.lookup_eraseAll] at found
    split at found
    · cases found
    · exact .inr ⟨goal, found, .kept⟩
  case goalAdmitted admitted fresh entity request =>
    rw [Move.effect, AList.lookup_insert_if] at found
    split at found
    · next same =>
        cases found
        exact .inl ⟨entity, request, by rw [same]⟩
    · exact .inr ⟨goal, found, .kept⟩
  case goalMarked marked =>
    obtain ⟨old, present, unfinished⟩ := enabled
    rw [Move.effect, AList.lookup_alter] at found
    split at found
    · next same =>
        rw [present] at found
        cases found
        exact .inr ⟨old, same ▸ present, .marked (by rw [same]) unfinished⟩
    · exact .inr ⟨goal, found, .kept⟩
  case requestParked parked request =>
    obtain ⟨⟨old, present, unfinished⟩, -⟩ := enabled
    rw [Move.effect, AList.lookup_alter] at found
    split at found
    · next same =>
        rw [present] at found
        cases found
        exact .inr ⟨old, same ▸ present, .parked (by rw [same]) unfinished⟩
    · exact .inr ⟨goal, found, .kept⟩
  case parkedAnswered parked old request values =>
    rw [Move.effect, AList.lookup_alter] at found
    split at found
    · next same =>
        rw [enabled.1] at found
        cases found
        exact .inr ⟨old, same ▸ enabled.1, .answered (by rw [same])⟩
    · exact .inr ⟨goal, found, .kept⟩
  case goalCompleted finished old status values reading =>
    obtain ⟨present, alone, unfinished, terminal⟩ := enabled
    rw [Move.effect, AList.lookup_alter] at found
    split at found
    · next same =>
        rw [present] at found
        cases found
        exact .inr ⟨old, same ▸ present, .completed (by rw [same]) alone unfinished terminal⟩
    · exact .inr ⟨goal, found, .kept⟩
  case goalForgotten forgotten old =>
    rw [Move.effect, AList.lookup_erase_if] at found
    split at found
    · cases found
    · exact .inr ⟨goal, found, .kept⟩
  all_goals exact .inr ⟨goal, found, .kept⟩

theorem Move.Alters.same {key : String} {old goal : ServerGoal} (alters : move.Alters key old goal) :
    goal.action = old.action ∧ goal.owner = old.owner ∧ goal.id = old.id ∧ goal.uuid = old.uuid := by
  cases alters <;> exact ⟨rfl, rfl, rfl, rfl⟩

theorem Move.keeps_goalsFiled (enabled : move.Enabled env m) (held : GoalsFiled m.bridge) :
    GoalsFiled (move.effect m.bridge) := by
  intro key goal found
  rcases Move.serverGoal_history enabled found with ⟨entity, request, rfl⟩ | ⟨old, present, alters⟩
  · obtain ⟨uuid, same, keyed⟩ := enabled.2.2.2.2.1
    exact ⟨uuid, same, uuidKey_clean keyed⟩
  · rw [alters.same.1]
    exact held key old present

theorem Move.keeps_resultsDelivered (enabled : move.Enabled env m)
    (held : ResultsDelivered m.bridge) : ResultsDelivered (move.effect m.bridge) := by
  intro key goal found
  rcases Move.serverGoal_history enabled found with ⟨entity, request, rfl⟩ | ⟨old, present, alters⟩
  · obtain ⟨-, requests, result, completed, -⟩ := enabled
    exact ⟨fun done => absurd completed done, fun _ => requests⟩
  · obtain ⟨timed, empty⟩ := held key old present
    cases alters with
    | kept | marked => exact ⟨timed, empty⟩
    | parked _ unfinished => exact ⟨timed, fun done => absurd unfinished done⟩
    | answered => exact ⟨timed, fun done => by rw [empty done, List.dropLast_nil]⟩
    | completed _ alone => exact ⟨fun _ => Option.some_ne_none _, fun _ => alone⟩

/-- A server that a goal belongs to outlives the goal. -/
theorem Move.server_stays (enabled : move.Enabled env m) {key : String} {goal : ServerGoal}
    {server : ActionServer} (found : m.bridge.serverGoals.lookup key = some goal)
    (left : (move.effect m.bridge).serverGoals.lookup key ≠ none)
    (serves : m.bridge.actionServers.lookup goal.action = some server) :
    (move.effect m.bridge).actionServers.lookup goal.action = some server := by
  cases move
  case actionOpened action opened =>
    have apart : goal.action ≠ action := by
      rintro rfl
      exact enabled.1 ((AList.mem_iff_lookup _ _).mpr ⟨server, serves⟩)
    exact (AList.lookup_insert_ne apart).trans serves
  case actionRemoved action removed closed replies =>
    obtain ⟨-, -, listed, -⟩ := enabled
    have apart : goal.action ≠ action := by
      intro same
      have member := (listed key goal).mpr ⟨found, same⟩
      rw [Move.effect, AList.lookup_eraseAll, if_pos (List.mem_map_of_mem member)] at left
      exact left rfl
    exact (AList.lookup_erase_ne apart).trans serves
  all_goals exact serves

theorem Move.keeps_goalsServed (enabled : move.Enabled env m) (filed : GoalsFiled m.bridge)
    (held : GoalsServed m.bridge) : GoalsServed (move.effect m.bridge) := by
  intro key goal found
  rcases Move.serverGoal_history enabled found with ⟨entity, request, rfl⟩ | ⟨old, present, alters⟩
  · obtain ⟨-, requests, -, -, -, server, serves, own, -⟩ := enabled
    exact ⟨server, serves, own, by rw [requests]; simp⟩
  · obtain ⟨server, serves, own, waiting⟩ := held key old present
    have stays := Move.server_stays enabled present (by rw [found]; simp) serves
    obtain ⟨action, owner, -⟩ := alters.same
    refine ⟨server, by rw [action]; exact stays, by rw [owner]; exact own, ?_⟩
    cases alters with
    | kept | marked | completed => exact waiting
    | answered => exact fun pair member => waiting pair (List.mem_of_mem_dropLast member)
    | parked is =>
        subst is
        obtain ⟨-, other, parking, uuid, same, clean, serves', result⟩ := enabled
        obtain ⟨otherUuid, same', clean'⟩ := filed key old present
        obtain ⟨rfl, -⟩ := serverGoalKey_injective clean clean' (same.symm.trans same')
        cases serves.symm.trans serves'
        intro pair member
        rcases List.mem_append.mp member with before | added
        · exact waiting pair before
        · rw [List.mem_singleton.mp added]
          exact result

/-- How a goal that a client has after a move came about. It never loses its acceptance. -/
theorem Move.goal_history {key : String} {goal : ClientGoal}
    (found : (move.effect m.bridge).goals.lookup key = some goal) :
    (∃ fresh sequence typ args reading,
        move = .goalOpened key goal fresh sequence typ args reading) ∨
      ∃ old, m.bridge.goals.lookup key = some old ∧
        goal = { old with accepted := goal.accepted, cancelling := goal.cancelling } ∧
        (goal.accepted = false → old.accepted = false) := by
  cases move
  case goalOpened opened fresh drawn sequence typ args reading =>
    rw [Move.effect, AList.lookup_insert_if] at found
    split at found
    · next same =>
        cases found
        exact .inl ⟨drawn, sequence, typ, args, reading, by rw [same]⟩
    · exact .inr ⟨goal, found, rfl, id⟩
  case goalFinished finished old values status success =>
    rw [Move.effect, AList.lookup_erase_if] at found
    split at found
    · cases found
    · exact .inr ⟨goal, found, rfl, id⟩
  case goalAccepted pending changed old sequence =>
    rw [Move.effect, AList.lookup_alter] at found
    split at found
    · next same =>
        obtain ⟨old, present, rfl⟩ := Option.map_eq_some_iff.mp found
        exact .inr ⟨old, same ▸ present, rfl, nofun⟩
    · exact .inr ⟨goal, found, rfl, id⟩
  case goalStranded pending changed old cause =>
    rw [Move.effect, AList.lookup_alter] at found
    split at found
    · next same =>
        obtain ⟨old, present, rfl⟩ := Option.map_eq_some_iff.mp found
        exact .inr ⟨old, same ▸ present, rfl, nofun⟩
    · exact .inr ⟨goal, found, rfl, id⟩
  case cancelSent changed old sequence =>
    rw [Move.effect, AList.lookup_alter] at found
    split at found
    · next same =>
        obtain ⟨old, present, rfl⟩ := Option.map_eq_some_iff.mp found
        exact .inr ⟨old, same ▸ present, rfl, id⟩
    · exact .inr ⟨goal, found, rfl, id⟩
  case cancelRejected pending changed old =>
    rw [Move.effect, AList.lookup_alter] at found
    split at found
    · next same =>
        obtain ⟨old, present, rfl⟩ := Option.map_eq_some_iff.mp found
        exact .inr ⟨old, same ▸ present, rfl, id⟩
    · exact .inr ⟨goal, found, rfl, id⟩
  all_goals exact .inr ⟨goal, found, rfl, id⟩

theorem Move.goal_origin {key : String} {goal : ClientGoal}
    (found : (move.effect m.bridge).goals.lookup key = some goal) :
    (∃ fresh sequence typ args reading,
        move = .goalOpened key goal fresh sequence typ args reading) ∨
      ∃ old, m.bridge.goals.lookup key = some old ∧
        goal = { old with accepted := goal.accepted, cancelling := goal.cancelling } :=
  (Move.goal_history found).imp_right fun ⟨old, present, same, _⟩ => ⟨old, present, same⟩

theorem Move.keeps_goalsDrawn (enabled : move.Enabled env m)
    (held : GoalsDrawn m.bridge m.log) :
    GoalsDrawn (move.effect m.bridge) (m.log ++ move.entries) := by
  intro key goal found
  rcases Move.goal_origin found with ⟨fresh, sequence, typ, args, reading, rfl⟩ | ⟨old, present, same⟩
  · exact ⟨fresh, by simp [Move.entries], enabled.2.2.1, enabled.2.1⟩
  · obtain ⟨fresh, drawn, filed, uuid⟩ := held key old present
    exact ⟨fresh, List.mem_append_left _ drawn, filed, by rw [same]; exact uuid⟩

theorem Shaped.step (shaped : Shaped m) (enabled : move.Enabled env m) :
    Shaped { bridge := move.effect m.bridge, log := m.log ++ move.entries } where
  outputs := Move.keeps_outputsFiled shaped.outputs
  external := Move.keeps_requestsServed enabled shaped.external
  served := Move.keeps_goalsServed enabled shaped.filed shaped.served
  filed := Move.keeps_goalsFiled enabled shaped.filed
  delivered := Move.keeps_resultsDelivered enabled shaped.delivered
  drawn := Move.keeps_goalsDrawn enabled shaped.drawn

end Step

/-! ### Runs -/

variable {env : Environment} {before after : Machine}

theorem Sent.shaped {message : Option Message} (sent : Sent message before after)
    (shaped : Shaped before) : Shaped after := by
  have grown := sent.log_grows.subset
  obtain ⟨next, failed, tables⟩ := sent.tables
  obtain ⟨b, log⟩ := after
  obtain rfl : b = _ := tables
  exact
    { outputs := fun connection output found =>
        ⟨(shaped.outputs connection output found).1,
          grown (shaped.outputs connection output found).2⟩
      external := shaped.external
      served := shaped.served
      filed := shaped.filed
      delivered := shaped.delivered
      drawn := fun key goal found => by
        obtain ⟨fresh, drawn, rest⟩ := shaped.drawn key goal found
        exact ⟨fresh, grown drawn, rest⟩ }

theorem Transition.shaped {move : Move} (taken : Transition env move before after)
    (shaped : Shaped before) : Shaped after := by
  obtain ⟨middle, sent, enabled, rfl⟩ := taken
  exact (sent.shaped shaped).step enabled

theorem shaped_new (access : Access) (timeout : Duration) :
    Shaped (Machine.new access timeout) where
  outputs := by rintro connection output ⟨⟩
  external := by rintro id request ⟨⟩
  served := by rintro key goal ⟨⟩
  filed := by rintro key goal ⟨⟩
  delivered := by rintro key goal ⟨⟩
  drawn := by rintro key goal ⟨⟩

end Rosbridge
