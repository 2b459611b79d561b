import Rosbridge.Protocol.Entities

/-!
The requests that the goals of clients wait for.

Owns: `GoalsPending`, the agreement between the goals and the pending requests, and
which moves keep it.
-/

set_option autoImplicit false

namespace Rosbridge

open Foundation

/-- The entity of a goal through which a request of the kind is made. -/
def ActionCall.entity (goal : ClientGoal) : ActionCall → Entity
  | send _ => goal.send
  | result _ => goal.result
  | cancel _ => goal.cancel

/-- The request that a goal waits for. -/
def ClientGoal.awaited (goal : ClientGoal) (key : String) : ActionCall :=
  if goal.accepted then .result key else .send key

/-- Every pending request belongs to a goal, and every goal waits for one request: for
its acceptance, and then for its result. -/
structure GoalsPending (b : Bridge) : Prop where
  named : ∀ pending call, b.actionCalls.lookup pending = some call →
    ∃ goal, b.goals.lookup call.goal = some goal ∧ pending.1 = call.entity goal
  awaits : ∀ key goal, b.goals.lookup key = some goal →
    ∃ pending, b.actionCalls.lookup pending = some (goal.awaited key)
  once : ∀ key left right, b.actionCalls.lookup left = some (.send key) ∧
      b.actionCalls.lookup right = some (.send key) ∨
    b.actionCalls.lookup left = some (.result key) ∧
      b.actionCalls.lookup right = some (.result key) → left = right
  unaccepted : ∀ pending key goal, b.actionCalls.lookup pending = some (.send key) →
    b.goals.lookup key = some goal → goal.accepted = false
  accepted : ∀ pending key goal, b.actionCalls.lookup pending = some (.result key) →
    b.goals.lookup key = some goal → goal.accepted = true

section Step

variable {env : Environment} {move : Move} {m : Machine} {b : Bridge}

theorem goal_entities {key : String} {goal : ClientGoal} (distinct : b.held.Nodup)
    (found : b.goals.lookup key = some goal) : goal.entities.Nodup := by
  rw [held_erase_goal found] at distinct
  exact (Multiset.nodup_add.mp distinct).1

/-- No two goals share an entity. -/
theorem goal_unique {key further : String} {goal other : ClientGoal} {entity : Entity}
    (distinct : b.held.Nodup) (found : b.goals.lookup key = some goal)
    (found' : b.goals.lookup further = some other) (member : entity ∈ goal.entities)
    (member' : entity ∈ other.entities) : further = key := by
  by_contra different
  rw [held_erase_goal found] at distinct
  have kept : (b.goals.erase key).lookup further = some other := by
    rw [AList.lookup_erase_ne different, found']
  have held : entity ∈ { b with goals := b.goals.erase key }.held :=
    Bridge.mem_held.mpr (.inr (.inr (.inr (.inr (.inl ⟨further, other, kept, member'⟩)))))
  exact Multiset.disjoint_left.mp (Multiset.nodup_add.mp distinct).2.2 (Multiset.mem_coe.mpr member) held

theorem ActionCall.entity_mem (call : ActionCall) (goal : ClientGoal) :
    call.entity goal ∈ goal.entities := by
  cases call <;> simp [ActionCall.entity, ClientGoal.entities]

/-- A pending request through an entity of a goal belongs to the goal. -/
theorem GoalsPending.belongs (pending : GoalsPending b) (distinct : b.held.Nodup) {key : String}
    {goal : ClientGoal} (found : b.goals.lookup key = some goal) {place : Entity × Int}
    {call : ActionCall} (waits : b.actionCalls.lookup place = some call)
    (through : place.1 ∈ goal.entities) : call.goal = key ∧ place.1 = call.entity goal := by
  obtain ⟨other, active, same⟩ := pending.named place call waits
  have here : call.goal = key :=
    goal_unique distinct found active through (same ▸ call.entity_mem other)
  rw [here] at active
  cases found.symm.trans active
  exact ⟨here, same⟩

/-- What a goal's name, entities and acceptance do not depend on may change. -/
theorem GoalsPending.alter (pending : GoalsPending b) {key : String}
    {change : ClientGoal → ClientGoal} (entities : ∀ goal call,
      ActionCall.entity (change goal) call = call.entity goal)
    (accepted : ∀ goal, (change goal).accepted = goal.accepted) :
    GoalsPending { b with goals := b.goals.alter key change } := by
  have changed : ∀ name goal, (b.goals.alter key change).lookup name = some goal →
      ∃ old, b.goals.lookup name = some old ∧ goal.accepted = old.accepted := by
    intro name goal found
    rw [AList.lookup_alter] at found
    split at found
    · next same =>
        obtain ⟨old, present, rfl⟩ := Option.map_eq_some_iff.mp found
        exact ⟨old, same ▸ present, accepted old⟩
    · exact ⟨goal, found, rfl⟩
  refine ⟨fun place call waits => ?_, fun name goal found => ?_, pending.once, ?_, ?_⟩
  · obtain ⟨goal, active, same⟩ := pending.named place call waits
    dsimp only
    rw [AList.lookup_alter]
    split
    · next here =>
        rw [← here, active]
        exact ⟨change goal, rfl, same.trans (entities goal call).symm⟩
    · exact ⟨goal, active, same⟩
  · obtain ⟨old, present, same⟩ := changed name goal found
    rw [ClientGoal.awaited, same]
    exact pending.awaits name old present
  · intro place name goal waits found
    obtain ⟨old, present, same⟩ := changed name goal found
    exact same.trans (pending.unaccepted place name old waits present)
  · intro place name goal waits found
    obtain ⟨old, present, same⟩ := changed name goal found
    exact same.trans (pending.accepted place name old waits present)

/-- A reply to a cancellation is awaited no longer. -/
theorem GoalsPending.forget (pending : GoalsPending b) {place : Entity × Int} {key : String}
    (found : b.actionCalls.lookup place = some (.cancel key)) :
    GoalsPending { b with actionCalls := b.actionCalls.erase place } := by
  have kept : ∀ other call, (b.actionCalls.erase place).lookup other = some call →
      b.actionCalls.lookup other = some call := by
    intro other call waits
    rw [AList.lookup_erase_if] at waits
    split at waits
    · cases waits
    · exact waits
  refine ⟨fun other call waits => pending.named other call (kept _ _ waits),
    fun name goal active => ?_, fun name left right same => ?_, ?_, ?_⟩
  · obtain ⟨other, waits⟩ := pending.awaits name goal active
    refine ⟨other, ?_⟩
    have apart : other ≠ place := by
      rintro rfl
      have same := found.symm.trans waits
      unfold ClientGoal.awaited at same
      split at same <;> cases same
    exact (AList.lookup_erase_ne apart).trans waits
  · exact pending.once name left right (same.imp
      (fun both => ⟨kept _ _ both.1, kept _ _ both.2⟩) fun both => ⟨kept _ _ both.1, kept _ _ both.2⟩)
  · exact fun other name goal waits => pending.unaccepted other name goal (kept _ _ waits)
  · exact fun other name goal waits => pending.accepted other name goal (kept _ _ waits)

/-- A reply to a cancellation is awaited. -/
theorem GoalsPending.ask (pending : GoalsPending b) (distinct : b.held.Nodup) {key : String}
    {goal : ClientGoal} (found : b.goals.lookup key = some goal) (sequence : Int) :
    GoalsPending { b with
      actionCalls := b.actionCalls.insert (goal.cancel, sequence) (.cancel key) } := by
  -- Only a reply to a cancellation of the same goal can have been awaited there.
  have there : ∀ call, b.actionCalls.lookup (goal.cancel, sequence) = some call →
      call = .cancel key := by
    intro call waits
    have nodup := goal_entities distinct found
    obtain ⟨rfl, same⟩ := pending.belongs distinct found waits (by simp [ClientGoal.entities])
    simp only [ClientGoal.entities, List.nodup_cons, List.mem_cons] at nodup
    cases call with
    | send name => exact absurd same.symm (by tauto)
    | result name => exact absurd same.symm (by tauto)
    | cancel name => rfl
  have kept : ∀ other call, (∀ name, call ≠ .cancel name) →
      ((b.actionCalls.insert (goal.cancel, sequence) (.cancel key)).lookup other = some call ↔
        b.actionCalls.lookup other = some call) := by
    intro other call kind
    rw [AList.lookup_insert_if]
    split
    · next here =>
        rw [here]
        exact ⟨fun same => absurd (Option.some.inj same).symm (kind key),
          fun waits => absurd (there call waits) (kind key)⟩
    · exact Iff.rfl
  have sends := fun other name => kept other (.send name) fun _ same => by cases same
  have results := fun other name => kept other (.result name) fun _ same => by cases same
  refine ⟨fun other call waits => ?_, fun name active present => ?_, fun name left right same => ?_,
    fun other name active waits => ?_, fun other name active waits => ?_⟩
  · dsimp only at waits
    rw [AList.lookup_insert_if] at waits
    split at waits
    · next here =>
        cases waits
        exact ⟨goal, found, by rw [here]; rfl⟩
    · exact pending.named other call waits
  · obtain ⟨other, waits⟩ := pending.awaits name active present
    refine ⟨other, (kept other _ fun further => ?_).mpr waits⟩
    unfold ClientGoal.awaited
    split <;> (intro same; cases same)
  · refine pending.once name left right (same.imp ?_ ?_)
    · exact fun both => ⟨(sends left name).mp both.1, (sends right name).mp both.2⟩
    · exact fun both => ⟨(results left name).mp both.1, (results right name).mp both.2⟩
  · exact pending.unaccepted other name active ((sends other name).mp waits)
  · exact pending.accepted other name active ((results other name).mp waits)

/-- A goal leaves, and with it all its requests. -/
theorem GoalsPending.finish (pending : GoalsPending b) (key : String) :
    GoalsPending { b with
      goals := b.goals.erase key
      actionCalls := b.actionCalls.retain fun _ call => call.goal ≠ key } := by
  have kept : ∀ place call,
      (b.actionCalls.retain fun _ call => call.goal ≠ key).lookup place = some call ↔
        b.actionCalls.lookup place = some call ∧ call.goal ≠ key := by
    intro place call
    rw [AList.lookup_retain, Option.filter_eq_some_iff, decide_eq_true_eq]
  have left : ∀ name goal, (b.goals.erase key).lookup name = some goal →
      name ≠ key ∧ b.goals.lookup name = some goal := by
    intro name goal found
    rw [AList.lookup_erase_if] at found
    split at found
    · cases found
    · next apart => exact ⟨apart, found⟩
  refine ⟨fun place call waits => ?_, fun name goal found => ?_, fun name left right same => ?_,
    fun place name goal waits found => ?_, fun place name goal waits found => ?_⟩
  · obtain ⟨before, apart⟩ := (kept place call).mp waits
    obtain ⟨goal, active, same⟩ := pending.named place call before
    exact ⟨goal, (AList.lookup_erase_ne apart).trans active, same⟩
  · obtain ⟨apart, active⟩ := left name goal found
    obtain ⟨place, waits⟩ := pending.awaits name goal active
    refine ⟨place, (kept place _).mpr ⟨waits, ?_⟩⟩
    unfold ClientGoal.awaited
    split <;> exact apart
  · refine pending.once name left right (same.imp ?_ ?_)
    · exact fun both => ⟨((kept _ _).mp both.1).1, ((kept _ _).mp both.2).1⟩
    · exact fun both => ⟨((kept _ _).mp both.1).1, ((kept _ _).mp both.2).1⟩
  · exact pending.unaccepted place name goal ((kept _ _).mp waits).1 (left name goal found).2
  · exact pending.accepted place name goal ((kept _ _).mp waits).1 (left name goal found).2

/-- A new goal waits for its acceptance. -/
theorem GoalsPending.start (pending : GoalsPending b) {key : String} {goal : ClientGoal}
    (absent : key ∉ b.goals) (unaccepted : goal.accepted = false) {sequence : Int}
    (unused : (goal.send, sequence) ∉ b.actionCalls) :
    GoalsPending { b with
      goals := b.goals.insert key goal
      actionCalls := b.actionCalls.insert (goal.send, sequence) (.send key) } := by
  have unknown : b.goals.lookup key = none := AList.lookup_eq_none.mpr absent
  have foreign : ∀ place call, b.actionCalls.lookup place = some call →
      call.goal ≠ key ∧ place ≠ (goal.send, sequence) := by
    intro place call waits
    refine ⟨?_, ?_⟩
    · rintro here
      obtain ⟨other, active, -⟩ := pending.named place call waits
      rw [here, unknown] at active
      cases active
    · rintro rfl
      exact unused ((AList.mem_iff_lookup _ _).mpr ⟨call, waits⟩)
  have origin : ∀ place call,
      (b.actionCalls.insert (goal.send, sequence) (.send key)).lookup place = some call →
      (place = (goal.send, sequence) ∧ call = .send key) ∨
        b.actionCalls.lookup place = some call := by
    intro place call waits
    rw [AList.lookup_insert_if] at waits
    split at waits
    · next here =>
        cases waits
        exact .inl ⟨here, rfl⟩
    · exact .inr waits
  refine ⟨fun place call waits => ?_, fun name active found => ?_, fun name left right same => ?_,
    fun place name active waits found => ?_, fun place name active waits found => ?_⟩
  · rcases origin place call waits with ⟨rfl, rfl⟩ | before
    · exact ⟨goal, AList.lookup_insert _, rfl⟩
    · obtain ⟨other, active, same⟩ := pending.named place call before
      exact ⟨other, (AList.lookup_insert_ne (foreign place call before).1).trans active, same⟩
  · dsimp only at found
    rw [AList.lookup_insert_if] at found
    split at found
    · next here =>
        cases found
        rw [here, ClientGoal.awaited, unaccepted]
        exact ⟨_, AList.lookup_insert _⟩
    · obtain ⟨place, waits⟩ := pending.awaits name active found
      exact ⟨place, (AList.lookup_insert_ne (foreign place _ waits).2).trans waits⟩
  · rcases same with ⟨first, second⟩ | ⟨first, second⟩
    · rcases origin left _ first with ⟨here, named⟩ | before
      · rcases origin right _ second with ⟨there, -⟩ | before
        · exact here.trans there.symm
        · exact absurd (congrArg ActionCall.goal named) (foreign right _ before).1
      · rcases origin right _ second with ⟨-, named⟩ | after
        · exact absurd (congrArg ActionCall.goal named) (foreign left _ before).1
        · exact pending.once name left right (.inl ⟨before, after⟩)
    · rcases origin left _ first with ⟨-, ⟨⟩⟩ | before
      rcases origin right _ second with ⟨-, ⟨⟩⟩ | after
      exact pending.once name left right (.inr ⟨before, after⟩)
  · dsimp only at found
    rcases origin place _ waits with ⟨-, ⟨⟩⟩ | before
    · rw [AList.lookup_insert] at found
      cases found
      exact unaccepted
    · have apart : name ≠ key := (foreign place _ before).1
      rw [AList.lookup_insert_ne apart] at found
      exact pending.unaccepted place name active before found
  · dsimp only at found
    rcases origin place _ waits with ⟨-, ⟨⟩⟩ | before
    have apart : name ≠ key := (foreign place _ before).1
    rw [AList.lookup_insert_ne apart] at found
    exact pending.accepted place name active before found

/-- An accepted goal waits for its result instead of its acceptance. -/
theorem GoalsPending.accept (pending : GoalsPending b) (distinct : b.held.Nodup) {key : String}
    {goal : ClientGoal} (active : b.goals.lookup key = some goal) {place : Entity × Int}
    (found : b.actionCalls.lookup place = some (.send key)) (sequence : Int) :
    GoalsPending { b with
      goals := b.goals.alter key fun goal => { goal with accepted := true }
      actionCalls := (b.actionCalls.erase place).insert (goal.result, sequence) (.result key) } := by
  have before : goal.accepted = false := pending.unaccepted place key goal found active
  -- Nothing was awaited under the new key: neither a result nor another goal's reply.
  have unused : b.actionCalls.lookup (goal.result, sequence) = none := by
    cases waits : b.actionCalls.lookup (goal.result, sequence) with
    | none => rfl
    | some call =>
        have nodup := goal_entities distinct active
        obtain ⟨rfl, same⟩ := pending.belongs distinct active waits (by simp [ClientGoal.entities])
        simp only [ClientGoal.entities, List.nodup_cons, List.mem_cons] at nodup
        cases call with
        | send name => exact absurd same.symm (by tauto)
        | result name =>
            have known := pending.accepted _ name goal waits active
            exact absurd (before.symm.trans known) Bool.false_ne_true
        | cancel name => exact absurd same (by tauto)
  have origin : ∀ other call,
      ((b.actionCalls.erase place).insert (goal.result, sequence) (.result key)).lookup other =
        some call →
      (other = (goal.result, sequence) ∧ call = .result key) ∨
        (other ≠ place ∧ b.actionCalls.lookup other = some call) := by
    intro other call waits
    rw [AList.lookup_insert_if] at waits
    split at waits
    · next here =>
        cases waits
        exact .inl ⟨here, rfl⟩
    · rw [AList.lookup_erase_if] at waits
      split at waits
      · cases waits
      · next apart => exact .inr ⟨apart, waits⟩
  have goals : ∀ name current,
      (b.goals.alter key fun goal => { goal with accepted := true }).lookup name = some current →
      (name = key ∧ current.accepted = true) ∨
        (name ≠ key ∧ b.goals.lookup name = some current) := by
    intro name current found
    rw [AList.lookup_alter] at found
    split at found
    · next here =>
        obtain ⟨old, -, rfl⟩ := Option.map_eq_some_iff.mp found
        exact .inl ⟨here, rfl⟩
    · next apart => exact .inr ⟨apart, found⟩
  have sends : ∀ other, b.actionCalls.lookup other = some (.send key) → other = place :=
    fun other waits => pending.once key other place (.inl ⟨waits, found⟩)
  have results : ∀ other, b.actionCalls.lookup other ≠ some (.result key) := by
    intro other waits
    exact Bool.false_ne_true (before.symm.trans (pending.accepted other key goal waits active))
  refine ⟨fun other call waits => ?_, fun name current present => ?_, fun name left right same => ?_,
    fun other name current waits present => ?_, fun other name current waits present => ?_⟩
  · dsimp only
    rcases origin other call waits with ⟨rfl, rfl⟩ | ⟨-, waits⟩
    · refine ⟨{ goal with accepted := true }, ?_, rfl⟩
      show (b.goals.alter key _).lookup key = _
      rw [AList.lookup_alter, if_pos rfl, active]
      rfl
    · obtain ⟨current, present, same⟩ := pending.named other call waits
      rw [AList.lookup_alter]
      split
      · next here =>
          rw [← here, present]
          exact ⟨_, rfl, by rw [same]; cases call <;> rfl⟩
      · exact ⟨current, present, same⟩
  · dsimp only
    rcases goals name current present with ⟨rfl, accepted⟩ | ⟨apart, present⟩
    · rw [ClientGoal.awaited, if_pos accepted]
      exact ⟨_, AList.lookup_insert _⟩
    · obtain ⟨other, waits⟩ := pending.awaits name current present
      refine ⟨other, ?_⟩
      have fresh : other ≠ (goal.result, sequence) := by
        rintro rfl
        rw [unused] at waits
        cases waits
      have kept : other ≠ place := by
        rintro rfl
        have same := found.symm.trans waits
        unfold ClientGoal.awaited at same
        split at same
        · cases same
        · cases same
          exact apart rfl
      rw [AList.lookup_insert_ne fresh, AList.lookup_erase_ne kept]
      exact waits
  · rcases same with ⟨first, second⟩ | ⟨first, second⟩
    · rcases origin left _ first with ⟨-, ⟨⟩⟩ | ⟨-, first⟩
      rcases origin right _ second with ⟨-, ⟨⟩⟩ | ⟨-, second⟩
      exact pending.once name left right (.inl ⟨first, second⟩)
    · rcases origin left _ first with ⟨here, ⟨⟩⟩ | ⟨-, first⟩
      · rcases origin right _ second with ⟨there, -⟩ | ⟨-, second⟩
        · exact here.trans there.symm
        · exact absurd second (results right)
      · rcases origin right _ second with ⟨-, ⟨⟩⟩ | ⟨-, second⟩
        · exact absurd first (results left)
        · exact pending.once name left right (.inr ⟨first, second⟩)
  · rcases origin other _ waits with ⟨-, ⟨⟩⟩ | ⟨apart, sent⟩
    rcases goals name current present with ⟨rfl, -⟩ | ⟨-, present⟩
    · exact absurd (sends other sent) apart
    · exact pending.unaccepted other name current sent present
  · rcases goals name current present with ⟨-, accepted⟩ | ⟨different, present⟩
    · exact accepted
    · rcases origin other _ waits with ⟨-, ⟨⟩⟩ | ⟨-, waits⟩
      · exact absurd rfl different
      · exact pending.accepted other name current waits present

/-- Every move but one keeps the goals and the pending requests together. -/
theorem Move.keeps_pending (enabled : move.Enabled env m) (shaped : Shaped m)
    (balanced : Balanced m) (fresh : Fresh (m.log ++ move.entries))
    (whole : ∀ place key goal cause, move ≠ .goalStranded place key goal cause)
    (pending : GoalsPending m.bridge) (distinct : m.bridge.held.Nodup) :
    GoalsPending (move.effect m.bridge) := by
  cases move
  case goalOpened key goal drawn sequence typ args reading =>
    obtain ⟨-, -, filed, unaccepted, -⟩ := enabled
    have absent : key ∉ m.bridge.goals := filed ▸ shaped.goal_absent fresh drawn List.mem_cons_self
    refine pending.start absent unaccepted fun present => ?_
    obtain ⟨call, waits⟩ := (AList.mem_iff_lookup _ _).mp present
    obtain ⟨other, active, same⟩ := pending.named _ call waits
    have held := shaped.held_of_names (Bridge.names_goal active (call.entity_mem other))
    rw [← same] at held
    exact fresh.created_once (balanced.created held)
      (by simp [History.created, Move.entries, Entry.created?])
  case goalAccepted place key goal sequence => exact pending.accept distinct enabled.2 enabled.1 _
  case goalStranded place key goal cause => exact absurd rfl (whole place key goal cause)
  case cancelSent key goal sequence =>
    exact (pending.ask distinct enabled.1 sequence).alter (fun _ call => by cases call <;> rfl)
      fun _ => rfl
  case cancelSettled place key => exact pending.forget enabled
  case cancelRejected place key goal =>
    exact (pending.forget enabled.1).alter (fun _ call => by cases call <;> rfl) fun _ => rfl
  case replyIgnored place call =>
    obtain ⟨goal, active, -⟩ := pending.named place call enabled.1
    cases enabled.2.symm.trans active
  case goalFinished key goal values status success => exact pending.finish key
  all_goals exact ⟨pending.named, pending.awaits, pending.once, pending.unaccepted, pending.accepted⟩

end Step

end Rosbridge
