import Mathlib.Algebra.BigOperators.Group.Multiset.Basic
import Mathlib.Algebra.Order.Group.Multiset
import Mathlib.Tactic.Abel
import Rosbridge.Outgoing.Invariant
import Rosbridge.Outgoing.Workers

/-!
The encoding pool is never over-committed, and no permit is lost.

Owns: the permits of a system and their conservation; the batches outside the queues; and
what every step keeps, in every interleaving of connections, jobs and cancellations.
-/

set_option autoImplicit false

namespace Rosbridge.Outgoing

open Foundation

variable {φ ρ : Type} {sizes : Sizes φ ρ} {workers : Nat}

/-! ### Permits -/

def Task.permits : Task φ ρ → Multiset Permit
  | .granted permit => {permit}
  | .taking permit => {permit}
  | .holding permit _ => {permit}
  | _ => 0

def Stage.permits : Stage φ → Multiset Permit
  | .queued permit => {permit}
  | .running permit => {permit}
  | .returned _ => 0

/-- The permits of all tasks. -/
def System.held (s : System φ ρ) : Multiset Permit := (s.links.map fun link => link.task.permits).sum

/-- The permits of all jobs. -/
def System.working (s : System φ ρ) : Multiset Permit := (s.jobs.map fun job => job.stage.permits).sum

/-- Every permit, wherever it is. -/
def System.permits (s : System φ ρ) : Multiset Permit := ↑s.pool.free + s.held + s.working

/-- The permits an effect takes from the pool or the jobs, and those it gives to them. -/
def Effect.gains : Effect φ ρ → Multiset Permit
  | .acquire permit => {permit}
  | _ => 0

def Effect.gives : Effect φ ρ → Multiset Permit
  | .release permit => {permit}
  | .spawn permit _ => {permit}
  | _ => 0

section Sums

variable {α M : Type} [AddCommMonoid M]

/-- Replacing one element of a list exchanges its summand. -/
theorem sum_map_set (f : α → M) {xs : List α} {position : Nat} {old : α} (new : α)
    (found : xs[position]? = some old) :
    ((xs.set position new).map f).sum + f old = (xs.map f).sum + f new := by
  induction xs generalizing position with
  | nil => simp at found
  | cons head tail inductionHypothesis =>
      cases position with
      | zero =>
          obtain rfl : head = old := by simpa using found
          simp only [List.set_cons_zero, List.map_cons, List.sum_cons]
          abel
      | succ position =>
          have rest : ((tail.set position new).map f).sum + f old = (tail.map f).sum + f new :=
            inductionHypothesis (by simpa using found)
          simp only [List.set_cons_succ, List.map_cons, List.sum_cons]
          rw [add_assoc, rest, add_assoc]

end Sums

variable {act : Act φ ρ} {effect : Effect φ ρ} {before after : Link φ ρ} {position : Nat}
  {s middle : System φ ρ} {happening : Happening φ ρ}

@[simp] theorem Task.checked_permits (state : State φ ρ) :
    (Task.checked state).permits = 0 := by
  unfold Task.checked
  split
  · rfl
  · split <;> rfl

@[simp] theorem Task.finished_permits (outcome : Outcome Error (Option (List φ))) :
    (Task.finished outcome : Task φ ρ).permits = 0 := by
  rcases outcome with (_ | frames) | cause | site <;> rfl

@[simp] theorem Task.joined_permits (topic : Bool) (result : Option (Except Error (List φ))) :
    (Task.joined topic result : Task φ ρ).permits = 0 := by
  cases result <;> rfl

/-- A task keeps its permits but for those it asks for and gives up. -/
theorem Turns.permits (turns : Turns sizes act effect before after) :
    before.task.permits + effect.gains = after.task.permits + effect.gives := by
  cases turns with
  | enqueue | dropOutput => rfl
  | call here | wake here | closed here | dropReceiver here => rw [here]; rfl
  | check here => rw [here, Task.checked_permits]; rfl
  | grant permit here | acquired here | closedGranted here => rw [here]; simp [Task.permits, Effect.gains, Effect.gives]
  | take here ran =>
      rw [here]
      rename_i outcome _
      rcases outcome with batch | (_ | _) | site <;>
        simp [Task.permits, Task.taken, Effect.taken, Effect.gains, Effect.gives]
  | spawn handle here | pass here => rw [here]; simp [Task.permits, Effect.gains, Effect.gives]
  | join result here => rw [here, Task.joined_permits]; rfl
  | fail here => rw [here]; rfl
  | finish here => rw [here, Task.finished_permits]; rfl
  | cancel here =>
      cases task : before.task <;> rw [task] at here <;> cases here <;> rfl

/-- What a step of a connection takes and gives, the pool and the jobs give and take. -/
theorem Absorbs.permits (absorbs : Absorbs position after effect s middle) :
    (↑middle.pool.free + middle.working : Multiset Permit) + effect.gains =
        ↑s.pool.free + s.working + effect.gives ∧
      middle.links = s.links := by
  cases absorbs with
  | none | join => exact ⟨rfl, rfl⟩
  | @acquire permit s available =>
      refine ⟨?_, rfl⟩
      have split : (permit ::ₘ ↑(s.pool.free.erase permit) : Multiset Permit) = ↑s.pool.free :=
        Multiset.coe_eq_coe.mpr (List.perm_cons_erase available).symm
      show (↑(s.pool.free.erase permit) + s.working : Multiset Permit) + {permit} = _
      rw [← split, ← Multiset.singleton_add]
      simp only [Effect.gives]
      abel
  | release permit s =>
      refine ⟨?_, rfl⟩
      show (↑(permit :: s.pool.free) + s.working : Multiset Permit) + 0 = _
      rw [← Multiset.cons_coe, ← Multiset.singleton_add]
      simp only [Effect.gives]
      abel
  | @spawn topic permit batch s handled =>
      refine ⟨?_, rfl⟩
      have added : ({ s with jobs := s.jobs ++ [⟨position, batch, .queued permit⟩] } :
          System φ ρ).working = s.working + {permit} := by
        simp [System.working, Stage.permits]
      rw [added]
      simp only [Effect.gains, Effect.gives]
      abel

/-- A job that ends gives its permit back. -/
theorem Works.permits {batch : Batch φ ρ} {closed : Bool} {old new : Stage φ}
    {permit : Option Permit} (works : Works batch closed old new permit) :
    old.permits = (↑permit.toList + new.permits : Multiset Permit) := by
  cases works <;> rfl

/-- No step creates, copies or loses a permit. -/
theorem Advances.permits (advances : Advances sizes happening s middle) :
    middle.permits = s.permits := by
  cases advances with
  | opened s created =>
      simp [System.permits, System.held, System.working, Task.permits]
  | @turn position act effect before after _ middle found turns absorbs =>
      obtain ⟨exchanged, same⟩ := absorbs.permits
      have turned := turns.permits
      have replaced : System.held { middle with links := middle.links.set position after } +
          before.task.permits = s.held + after.task.permits := by
        rw [← same] at found
        have summed := sum_map_set (fun link => link.task.permits) after found
        rw [same] at summed
        unfold System.held
        rw [same]
        exact summed
      have exchange : (↑middle.pool.free + middle.working : Multiset Permit) + effect.gains +
          (System.held { middle with links := middle.links.set position after } +
            before.task.permits) =
          ↑s.pool.free + s.working + effect.gives + (s.held + after.task.permits) := by
        rw [exchanged, replaced]
      refine (add_left_inj (before.task.permits + effect.gains)).mp ?_
      calc (↑middle.pool.free + System.held { middle with links := middle.links.set position after } +
              middle.working : Multiset Permit) + (before.task.permits + effect.gains)
          = ↑middle.pool.free + middle.working + effect.gains +
              (System.held { middle with links := middle.links.set position after } +
                before.task.permits) := by abel
        _ = ↑s.pool.free + s.held + s.working + (after.task.permits + effect.gives) := by
            rw [exchange]
            abel
        _ = s.permits + (before.task.permits + effect.gains) := by
            rw [turned]
            rfl
  | @work handle job link stage permit s found owned works =>
      have summed := sum_map_set (fun job => job.stage.permits) { job with stage } found
      rw [works.permits, ← add_assoc] at summed
      have returned := (add_left_inj stage.permits).mp summed
      show (↑(permit.toList ++ s.pool.free) + s.held +
        ((s.jobs.set handle { job with stage }).map fun job => job.stage.permits).sum :
          Multiset Permit) = ↑s.pool.free + s.held + s.working
      rw [System.working, ← returned, ← Multiset.coe_add]
      abel

/-- Every permit is in exactly one place, in every state. -/
def System.Conserved (workers : Nat) (s : System φ ρ) : Prop :=
  s.permits = ↑(List.range workers)

theorem System.start_conserved {pool : Pool} (created : Pool.new workers = .ok pool) :
    (System.start pool : System φ ρ).Conserved workers := by
  unfold Pool.new at created
  split at created
  · cases created
    simp [System.Conserved, System.permits, System.held, System.working, System.start]
  · cases created

/-! ### Batches outside the queues -/

/-- The task has a batch at hand. -/
def Task.Carries : Task φ ρ → Prop
  | .holding _ _ => True
  | .finishing _ _ => True
  | .failing _ => True
  | _ => False

def Task.Joins (handle : Nat) (task : Task φ ρ) : Prop := ∃ topic, task = .joining topic handle

/-- Not in a call of `recv`. -/
def Task.Rests (task : Task φ ρ) : Prop := task = .idle ∨ task = .gone

def Stage.Unfinished : Stage φ → Prop
  | .returned _ => False
  | _ => True

/-- Where a batch may be outside its queue. -/
inductive Place where
  | receiver
  | job (handle : Nat)

/-- A batch of the connection is outside its queue and may still be delivered. -/
def System.OnWay (s : System φ ρ) (position : Nat) : Place → Prop
  | .receiver => ∃ link : Link φ ρ, s.links[position]? = some link ∧ link.task.Carries
  | .job handle => ∃ job : Job φ ρ, s.jobs[handle]? = some job ∧ job.connection = position ∧
      ∃ other : Nat, ∃ link : Link φ ρ, s.links[other]? = some link ∧ link.task.Joins handle

/-- A batch of the connection is outside its queue: it may still be delivered, or its job
goes on after `recv` was canceled. -/
def System.Outside (s : System φ ρ) (position : Nat) (place : Place) : Prop :=
  s.OnWay position place ∨ ∃ handle : Nat, ∃ job : Job φ ρ, place = .job handle ∧ s.jobs[handle]? = some job ∧
    job.connection = position ∧ job.stage.Unfinished

/-- Every job belongs to a connection, which alone may join it. Until a `recv` is called
after a canceled one, a connection has at most one unfinished job; and it waits for it,
unless it canceled. -/
structure System.Tidy (s : System φ ρ) : Prop where
  placed : ∀ {handle : Nat} {job : Job φ ρ}, s.jobs[handle]? = some job →
    job.connection < s.links.length
  own : ∀ {position handle : Nat} {link : Link φ ρ}, s.links[position]? = some link →
    link.task.Joins handle → ∃ job, s.jobs[handle]? = some job ∧ job.connection = position
  rests : ∀ {position : Nat} {link : Link φ ρ}, s.links[position]? = some link →
    link.recalled = false → link.canceled = true → link.task.Rests
  awaited : ∀ {handle : Nat} {job : Job φ ρ} {link : Link φ ρ}, s.jobs[handle]? = some job →
    s.links[job.connection]? = some link → job.stage.Unfinished → link.canceled = false →
      link.task.Joins handle
  sole : ∀ {handle other : Nat} {job rival : Job φ ρ} {link : Link φ ρ},
    s.jobs[handle]? = some job → s.jobs[other]? = some rival →
    job.connection = rival.connection → job.stage.Unfinished → rival.stage.Unfinished →
    s.links[job.connection]? = some link → link.recalled = false → handle = other

section Turning

variable {handle : Nat} {job : Job φ ρ}

theorem Task.Joins.not_rests {task : Task φ ρ} (joins : task.Joins handle) : ¬ task.Rests := by
  obtain ⟨topic, rfl⟩ := joins
  rintro (same | same) <;> cases same

theorem Task.Joins.not_carries {task : Task φ ρ} (joins : task.Joins handle) : ¬ task.Carries := by
  obtain ⟨topic, rfl⟩ := joins
  exact id

theorem Task.not_joins_checked (state : State φ ρ) : ¬ (Task.checked state).Joins handle := by
  unfold Task.checked
  rintro ⟨topic, same⟩
  split at same
  · cases same
  · split at same <;> cases same

theorem Task.not_joins_finished (outcome : Outcome Error (Option (List φ))) :
    ¬ (Task.finished outcome : Task φ ρ).Joins handle := by
  rintro ⟨topic, same⟩
  rcases outcome with (_ | frames) | cause | site <;> cases same

theorem Task.not_joins_joined (topic : Bool) (result : Option (Except Error (List φ))) :
    ¬ (Task.joined topic result : Task φ ρ).Joins handle := by
  rintro ⟨topic, same⟩
  cases result <;> cases same

theorem Task.not_joins_taken (permit : Permit) (outcome : Outcome TryRecvError (Batch φ ρ)) :
    ¬ (Task.taken permit outcome).Joins handle := by
  rintro ⟨topic, same⟩
  rcases outcome with batch | (_ | _) | site <;> cases same

/-- A task comes to wait for a job only by spawning one. -/
theorem Turns.joins (turns : Turns sizes act effect before after)
    (joins : after.task.Joins handle) :
    before.task.Joins handle ∨ ∃ permit batch, effect = .spawn permit batch := by
  cases turns with
  | enqueue | dropOutput => exact .inl joins
  | spawn => exact .inr ⟨_, _, rfl⟩
  | check => exact absurd joins (Task.not_joins_checked _)
  | take => exact absurd joins (Task.not_joins_taken _ _)
  | join => exact absurd joins (Task.not_joins_joined _ _)
  | finish => exact absurd joins (Task.not_joins_finished _)
  | call | wake | grant | acquired | closed | closedGranted | pass | fail | cancel | dropReceiver =>
      obtain ⟨topic, same⟩ := joins
      cases same

/-- A task stops waiting for a job only by joining it or being canceled. -/
theorem Turns.leaves (turns : Turns sizes act effect before after)
    (joins : before.task.Joins handle) :
    after.task.Joins handle ∨ after.canceled = true ∨ ∃ result, effect = .join handle result := by
  obtain ⟨topic, joining⟩ := joins
  cases turns with
  | enqueue | dropOutput => exact .inl ⟨topic, joining⟩
  | cancel => exact .inr (.inl rfl)
  | join result here =>
      cases joining.symm.trans here
      exact .inr (.inr ⟨result, rfl⟩)
  | call here | check here | wake here | grant _ here | acquired here | closed here
  | closedGranted here | take here | spawn _ here | pass here | fail here | finish here
  | dropReceiver here => cases joining.symm.trans here

theorem Turns.spawns {permit : Permit} {batch : Batch φ ρ}
    (turns : Turns sizes act effect before after) (spawned : effect = .spawn permit batch) :
    before.task = .holding permit batch ∧ before.canceled = after.canceled := by
  cases turns with
  | spawn handle here =>
      cases spawned
      exact ⟨here, rfl⟩
  | @take link permit outcome state here ran =>
      rcases outcome with batch | cause | site <;> cases spawned
  | cancel here =>
      subst spawned
      cases task : before.task <;> rw [task] at here <;> cases here
  | enqueue | dropOutput | call | check | wake | grant | acquired | closed | closedGranted | pass
  | join | fail | finish | dropReceiver => cases spawned

/-- That a connection was canceled, or called after that, stays known. -/
theorem Turns.flags (turns : Turns sizes act effect before after) :
    (after.canceled = false → before.canceled = false) ∧
      (after.recalled = false → before.recalled = false) := by
  cases turns with
  | call here =>
      refine ⟨id, fun fresh => ?_⟩
      exact (Bool.or_eq_false_iff.mp fresh).1
  | cancel here => exact ⟨fun never => Bool.noConfusion never, id⟩
  | enqueue | dropOutput | check | wake | grant | acquired | closed | closedGranted | take | spawn
  | pass | join | fail | finish | dropReceiver => exact ⟨id, id⟩

theorem Turns.rests (turns : Turns sizes act effect before after)
    (resting : before.recalled = false → before.canceled = true → before.task.Rests)
    (fresh : after.recalled = false) (canceled : after.canceled = true) : after.task.Rests := by
  have awake {task : Task φ ρ} (here : before.task = task) (up : ¬ task.Rests)
      (recalled : before.recalled = false) (flag : before.canceled = true) : after.task.Rests :=
    absurd (here ▸ resting recalled flag) up
  cases turns with
  | enqueue | dropOutput => exact resting fresh canceled
  | call here =>
      obtain ⟨-, never⟩ := Bool.or_eq_false_iff.mp fresh
      exact absurd (never.symm.trans canceled) Bool.false_ne_true
  | cancel here => exact .inl rfl
  | dropReceiver here => exact .inr rfl
  | closed here | closedGranted here => exact .inl rfl
  | check here | wake here | grant _ here | acquired here | take here | spawn _ here | pass here
  | join _ here | fail here | finish here =>
      refine awake here ?_ fresh canceled
      rintro (same | same) <;> cases same

/-- The jobs after a step of a connection: those before, and the one it spawned. -/
theorem Absorbs.jobs (absorbs : Absorbs position after effect s middle) :
    (middle.jobs = s.jobs ∧ ∀ permit batch, effect ≠ .spawn permit batch) ∨
      ∃ topic permit batch, effect = .spawn permit batch ∧
        after.task = .joining topic s.jobs.length ∧
        middle.jobs = s.jobs ++ [⟨position, batch, .queued permit⟩] := by
  cases absorbs with
  | none | acquire | release | join => exact .inl ⟨rfl, fun _ _ same => by cases same⟩
  | spawn handled => exact .inr ⟨_, _, _, rfl, handled, rfl⟩

end Turning

section Places

variable {α : Type} {xs : List α} {x y : α} {index other : Nat}

theorem getElem?_snoc (found : (xs ++ [x])[index]? = some y) :
    xs[index]? = some y ∨ index = xs.length ∧ y = x := by
  rcases Nat.lt_trichotomy index xs.length with less | rfl | more
  · exact .inl (by rwa [List.getElem?_append_left less] at found)
  · simp only [List.getElem?_concat_length, Option.some.injEq] at found
    exact .inr ⟨rfl, found.symm⟩
  · rw [List.getElem?_eq_none (by rw [List.length_append]; exact more)] at found
    cases found

theorem getElem?_put {old : α} (there : xs[index]? = some old)
    (found : (xs.set index x)[other]? = some y) :
    (other = index ∧ y = x) ∨ other ≠ index ∧ xs[other]? = some y := by
  obtain ⟨bound, -⟩ := List.getElem?_eq_some_iff.mp there
  by_cases same : other = index
  · subst same
    rw [List.getElem?_set_self bound] at found
    exact .inl ⟨rfl, (Option.some.inj found).symm⟩
  · rw [List.getElem?_set_ne (Ne.symm same)] at found
    exact .inr ⟨same, found⟩

end Places

theorem System.Tidy.opened {fresh : Link φ ρ} (tidy : s.Tidy) (idle : fresh.task = .idle)
    (never : fresh.canceled = false) : System.Tidy { s with links := s.links ++ [fresh] } := by
  have known {handle : Nat} {job : Job φ ρ} {link : Link φ ρ} (listed : s.jobs[handle]? = some job)
      (found : (s.links ++ [fresh])[job.connection]? = some link) :
      s.links[job.connection]? = some link := by
    rwa [List.getElem?_append_left (tidy.placed listed)] at found
  refine ⟨fun listed => ?_, fun found joins => ?_, fun found fresh' canceled => ?_,
    fun listed found => tidy.awaited listed (known listed found),
    fun listed rival same unfinished working found =>
      tidy.sole listed rival same unfinished working (known listed found)⟩
  · have placed := tidy.placed listed
    rw [List.length_append]
    omega
  · rcases getElem?_snoc found with found | ⟨-, rfl⟩
    · exact tidy.own found joins
    · exact absurd (.inl idle) joins.not_rests
  · rcases getElem?_snoc found with found | ⟨-, rfl⟩
    · exact tidy.rests found fresh' canceled
    · exact .inl idle

theorem System.Tidy.turn (tidy : s.Tidy) (found : s.links[position]? = some before)
    (turns : Turns sizes act effect before after) (absorbs : Absorbs position after effect s middle) :
    System.Tidy { middle with links := middle.links.set position after } := by
  have links := absorbs.permits.2
  obtain ⟨canceledKept, recalledKept⟩ := turns.flags
  have bound : position < s.links.length := (List.getElem?_eq_some_iff.mp found).1
  -- a job is an old one, or the one just spawned
  have origin {handle : Nat} {job : Job φ ρ} (listed : middle.jobs[handle]? = some job) :
      s.jobs[handle]? = some job ∨ (job.connection = position ∧ handle = s.jobs.length ∧
        after.task.Joins handle ∧ ∃ permit batch, effect = .spawn permit batch) := by
    rcases absorbs.jobs with ⟨same, -⟩ | ⟨topic, permit, batch, rfl, joining, same⟩
    · exact .inl (by rwa [same] at listed)
    · rw [same] at listed
      rcases getElem?_snoc listed with listed | ⟨rfl, rfl⟩
      · exact .inl listed
      · exact .inr ⟨rfl, rfl, ⟨topic, joining⟩, permit, batch, rfl⟩
  have kept {handle : Nat} {job : Job φ ρ} (listed : s.jobs[handle]? = some job) :
      middle.jobs[handle]? = some job := by
    rcases absorbs.jobs with ⟨same, -⟩ | ⟨topic, permit, batch, -, -, same⟩
    · rwa [same]
    · obtain ⟨less, -⟩ := List.getElem?_eq_some_iff.mp listed
      rwa [same, List.getElem?_append_left less]
  have looked {index : Nat} {link : Link φ ρ}
      (put : (middle.links.set position after)[index]? = some link) :
      (index = position ∧ link = after) ∨ index ≠ position ∧ s.links[index]? = some link := by
    rw [links] at put
    exact getElem?_put found put
  -- the spawning task had no unfinished job before
  have alone {handle : Nat} {job : Job φ ρ} {permit : Permit} {batch : Batch φ ρ}
      (spawned : effect = .spawn permit batch) (recalled : after.recalled = false)
      (listed : s.jobs[handle]? = some job) (mine : job.connection = position)
      (unfinished : job.stage.Unfinished) : False := by
    obtain ⟨holding, -⟩ := turns.spawns spawned
    subst mine
    cases canceled : before.canceled with
    | true =>
        have resting := tidy.rests found (recalledKept recalled) canceled
        rw [holding] at resting
        rcases resting with same | same <;> cases same
    | false =>
        obtain ⟨topic, joining⟩ := tidy.awaited listed found unfinished canceled
        cases holding.symm.trans joining
  refine ⟨fun listed => ?_, fun put joins => ?_, fun put fresh canceled => ?_,
    fun listed put unfinished never => ?_, ?_⟩
  · rw [List.length_set, links]
    rcases origin listed with old | ⟨mine, -⟩
    · exact tidy.placed old
    · rwa [mine]
  · rcases looked put with ⟨rfl, rfl⟩ | ⟨-, put⟩
    · rcases turns.joins joins with joined | ⟨permit, batch, spawned⟩
      · obtain ⟨job, listed, mine⟩ := tidy.own found joined
        exact ⟨job, kept listed, mine⟩
      · rcases absorbs.jobs with ⟨-, none⟩ | ⟨topic, permit, batch, -, joining, same⟩
        · exact absurd spawned (none permit batch)
        · obtain ⟨_, joined⟩ := joins
          cases joining.symm.trans joined
          refine ⟨⟨_, batch, .queued permit⟩, ?_, rfl⟩
          rw [same]
          exact List.getElem?_concat_length
    · obtain ⟨job, listed, mine⟩ := tidy.own put joins
      exact ⟨job, kept listed, mine⟩
  · rcases looked put with ⟨rfl, rfl⟩ | ⟨-, put⟩
    · exact turns.rests (tidy.rests found) fresh canceled
    · exact tidy.rests put fresh canceled
  · rcases origin listed with old | ⟨mine, -, joins, -⟩
    · rcases looked put with ⟨mine, rfl⟩ | ⟨-, put⟩
      · rw [← mine] at found
        rcases turns.leaves (tidy.awaited old found unfinished (canceledKept never)) with
          joins | canceled | ⟨result, joined⟩
        · exact joins
        · exact absurd (never.symm.trans canceled) Bool.false_ne_true
        · subst joined
          cases absorbs with
          | join there returned =>
              cases old.symm.trans there
              rw [returned] at unfinished
              exact unfinished.elim
      · exact tidy.awaited old put unfinished never
    · rcases looked put with ⟨-, rfl⟩ | ⟨other, -⟩
      · exact joins
      · exact absurd mine other
  · intro handle other job rival link listed against same unfinished working put recalled
    rcases looked put with ⟨mine, rfl⟩ | ⟨other, put⟩
    · rcases origin listed with old | ⟨-, here, -, permit, batch, spawned⟩
      · rcases origin against with rivalOld | ⟨-, -, -, permit, batch, spawned⟩
        · rw [← mine] at found
          exact tidy.sole old rivalOld same unfinished working found (recalledKept recalled)
        · exact (alone spawned recalled old mine unfinished).elim
      · rcases origin against with rivalOld | ⟨-, there, -⟩
        · exact (alone spawned recalled rivalOld (same.symm.trans mine) working).elim
        · exact here.trans there.symm
    · rcases origin listed with old | ⟨mine, -⟩
      · rcases origin against with rivalOld | ⟨mine, -⟩
        · exact tidy.sole old rivalOld same unfinished working put recalled
        · exact absurd (same.trans mine) other
      · exact absurd mine other

theorem System.Tidy.work {handle : Nat} {job : Job φ ρ} {stage : Stage φ} {pool : Pool}
    (tidy : s.Tidy) (found : s.jobs[handle]? = some job)
    (unfinished : job.stage.Unfinished) :
    System.Tidy { s with pool, jobs := s.jobs.set handle { job with stage } } := by
  have origin {index : Nat} {after : Job φ ρ}
      (listed : (s.jobs.set handle { job with stage })[index]? = some after) :
      ∃ before, s.jobs[index]? = some before ∧ before.connection = after.connection ∧
        (after.stage.Unfinished → before.stage.Unfinished) := by
    rcases getElem?_put found listed with ⟨rfl, rfl⟩ | ⟨-, listed⟩
    · exact ⟨job, found, rfl, fun _ => unfinished⟩
    · exact ⟨after, listed, rfl, id⟩
  have replaced {index owner : Nat}
      (there : ∃ old, s.jobs[index]? = some old ∧ old.connection = owner) :
      ∃ new, (s.jobs.set handle { job with stage })[index]? = some new ∧
        new.connection = owner := by
    obtain ⟨old, listed, mine⟩ := there
    by_cases same : handle = index
    · subst same
      cases found.symm.trans listed
      exact ⟨_, List.getElem?_set_self (List.getElem?_eq_some_iff.mp found).1, mine⟩
    · exact ⟨old, by rwa [List.getElem?_set_ne same], mine⟩
  refine ⟨fun listed => ?_, fun put joins => ?_, tidy.rests, fun listed put working never => ?_, ?_⟩
  · obtain ⟨before, old, same, -⟩ := origin listed
    exact same ▸ tidy.placed old
  · exact replaced (tidy.own put joins)
  · obtain ⟨before, old, same, still⟩ := origin listed
    exact tidy.awaited old (by rwa [same]) (still working) never
  · intro index other after rival link listed against same working running put recalled
    obtain ⟨before, old, mine, still⟩ := origin listed
    obtain ⟨rivalBefore, rivalOld, theirs, rivalStill⟩ := origin against
    exact tidy.sole old rivalOld ((mine.trans same).trans theirs.symm) (still working)
      (rivalStill running) (by rwa [mine]) recalled

theorem Works.unfinished {batch : Batch φ ρ} {closed : Bool} {old new : Stage φ}
    {permit : Option Permit} (works : Works batch closed old new permit) : old.Unfinished := by
  cases works <;> trivial

theorem Works.ended {batch : Batch φ ρ} {closed : Bool} {old new : Stage φ} {permit : Permit}
    (works : Works batch closed old new (some permit)) : ¬ new.Unfinished := by
  cases works <;> exact id

theorem Advances.tidy (advances : Advances sizes happening s middle) (tidy : s.Tidy) :
    middle.Tidy := by
  cases advances with
  | opened s created => exact tidy.opened rfl rfl
  | turn found turns absorbs => exact tidy.turn found turns absorbs
  | work found owned works => exact tidy.work found works.unfinished

theorem System.start_tidy (pool : Pool) : (System.start pool : System φ ρ).Tidy := by
  refine ⟨fun listed => ?_, fun found => ?_, fun found => ?_, fun listed => ?_, fun listed => ?_⟩
  all_goals simp [System.start] at *

/-! ### The queues -/

/-- The batches in the queue, in the order they are taken. -/
def Link.queue (link : Link φ ρ) : List (Batch φ ρ) :=
  link.shared.state.control ++ link.shared.state.topics

/-- The queue of a connection keeps its bounds until the receiver is dropped, and is empty
once it is closed. -/
structure Link.Intact (link : Link φ ρ) : Prop where
  sound : link.task ≠ .gone → Sound link.shared.state
  cleared : Cleared link.shared.state
  gone : link.task = .gone → link.shared.state.receiverClosed = true

/-- What a step does to the queue of a connection: nothing; or the sender adds a batch;
or the queue is closed; or `recv` takes the first batch, with a permit it keeps. -/
def Queues (act : Act φ ρ) (before after : Link φ ρ) : Prop :=
  after.queue = before.queue ∨
  (∃ connection topic topicLimit payload outcome,
    act = .enqueue connection topic topicLimit payload outcome) ∨
  (after.shared.state.isClosed = true ∧ after.queue = []) ∨
  ∃ permit batch, before.task = .taking permit ∧ after.task = .holding permit batch ∧
    before.queue = batch :: after.queue

theorem Link.Intact.present (intact : before.Intact) (open_ : before.shared.state.isClosed = false) :
    before.task ≠ .gone := by
  intro gone
  rw [State.isClosed, intact.gone gone] at open_
  cases open_

theorem Link.Intact.enqueues {connection : Connection} {topic : Option String} {topicLimit : Nat}
    {payload : Payload φ ρ} {outcome : Outcome SendError Unit} {state : Shared φ ρ}
    (intact : before.Intact)
    (ran : enqueue sizes connection topic topicLimit payload before.shared = (outcome, state)) :
    Enqueues sizes connection topicLimit payload before.shared topic outcome state := by
  have spec : Program.wp (enqueue sizes connection topic topicLimit payload) (fun outcome after =>
      Enqueues sizes connection topicLimit payload before.shared topic outcome after)
      before.shared :=
    enqueue_spec connection topic topicLimit payload fun running =>
      (intact.sound (intact.present running)).topicSum
  rwa [Program.wp_iff, ran] at spec

theorem Link.Intact.takeoff {outcome : Outcome TryRecvError (Batch φ ρ)} {state : Shared φ ρ}
    (intact : before.Intact) (present : before.task ≠ .gone)
    (ran : take before.shared = (outcome, state)) : Takeoff before.shared outcome state := by
  have spec := take_spec (intact.sound present)
  rwa [Program.wp_iff, ran] at spec

/-- A batch that is refused leaves the queue as it is, or closes it. -/
theorem Finishes.queue {topic : Bool} {result : Except Error (List φ)}
    {outcome : Outcome Error (Option (List φ))} {state : Shared φ ρ} {task : Task φ ρ}
    (effect : Finishes sizes before.shared topic result outcome state) :
    Queues act before { before with shared := state, task } := by
  cases effect with
  | late | returned | droppedTopic => exact .inl rfl
  | closed => exact .inr (.inr (.inl ⟨Bool.or_true before.shared.state.receiverClosed, rfl⟩))

theorem Turns.queues (turns : Turns sizes act effect before after) (intact : before.Intact) :
    Queues act before after := by
  cases turns with
  | enqueue ran => exact .inr (.inl ⟨_, _, _, _, _, rfl⟩)
  | dropOutput =>
      exact .inr (.inr (.inl ⟨Bool.or_true before.shared.state.receiverClosed, rfl⟩))
  | @take _ permit outcome state here ran =>
      have effect := intact.takeoff (by rw [here]; exact fun same => by cases same) ran
      cases effect with
      | control queue =>
          refine .inr (.inr (.inr ⟨permit, _, here, rfl, ?_⟩))
          rw [Link.queue, queue]
          rfl
      | topic quiet queue =>
          refine .inr (.inr (.inr ⟨permit, _, here, rfl, ?_⟩))
          rw [Link.queue, Link.queue, quiet, queue]
          rfl
      | nothing => exact .inl rfl
  | fail here ran => exact (finishes ran).queue
  | finish here ran => exact (finishes ran).queue
  | dropReceiver here =>
      exact .inr (.inr (.inl ⟨Bool.true_or before.shared.state.senderClosed, rfl⟩))
  | call | check | wake | grant | acquired | closed | closedGranted | spawn | pass | join
  | cancel => exact .inl rfl

theorem Link.Intact.awake {task : Task φ ρ} (intact : before.Intact) (here : before.task ≠ .gone)
    (up : task ≠ .gone) {shared : Shared φ ρ} {canceled recalled : Bool}
    (sound : Sound before.shared.state → Sound shared.state)
    (cleared : Cleared before.shared.state → Cleared shared.state) :
    Link.Intact ⟨shared, task, canceled, recalled⟩ :=
  ⟨fun _ => sound (intact.sound here), cleared intact.cleared, fun gone => absurd gone up⟩

theorem Turns.intact (turns : Turns sizes act effect before after) (intact : before.Intact) :
    after.Intact := by
  have present {task : Task φ ρ} (here : before.task = task) (up : task ≠ .gone) :
      before.task ≠ .gone := here ▸ up
  cases turns with
  | enqueue ran =>
      have effect := intact.enqueues ran
      refine ⟨fun here => effect.sound (intact.sound here), effect.cleared intact.cleared,
        fun gone => ?_⟩
      rw [effect.receiverClosed]
      exact intact.gone gone
  | dropOutput => exact ⟨fun _ => Sound.cleared rfl rfl rfl rfl, fun _ => ⟨rfl, rfl⟩, intact.gone⟩
  | @take _ permit outcome state here ran =>
      have here := present here (by simp)
      have effect := intact.takeoff here ran
      refine intact.awake here ?_ effect.sound effect.cleared
      cases effect with
      | control | topic => simp [Task.taken]
      | nothing => split <;> simp [Task.taken]
  | fail here ran =>
      have effect := finishes ran
      exact intact.awake (present here (by simp)) (by simp) effect.sound effect.cleared
  | finish here ran =>
      have effect := finishes ran
      refine intact.awake (present here (by simp)) ?_ effect.sound effect.cleared
      cases effect <;> simp [Task.finished]
  | dropReceiver here =>
      exact ⟨fun here => absurd rfl here, fun _ => ⟨rfl, rfl⟩, fun _ => rfl⟩
  | call here => exact intact.awake (present here (by simp)) (by simp) id id
  | check here =>
      refine intact.awake (present here (by simp)) ?_ id id
      unfold Task.checked
      split
      · simp
      · split <;> simp
  | wake here | grant permit here | acquired here | closed here | closedGranted here | spawn handle here | pass here =>
      exact intact.awake (present here (by simp)) (by simp) id id
  | join result here =>
      refine intact.awake (present here (by simp)) ?_ id id
      cases result <;> simp [Task.joined]
  | cancel here =>
      refine intact.awake (fun gone => ?_) (by simp) id id
      rw [gone] at here
      cases here

/-- Every connection of the system is intact. -/
def System.Intact (s : System φ ρ) : Prop :=
  ∀ (position : Nat) (link : Link φ ρ), s.links[position]? = some link → link.Intact

theorem System.start_intact (pool : Pool) : (System.start pool : System φ ρ).Intact := by
  intro position link found
  simp [System.start] at found

theorem Advances.intact (advances : Advances sizes happening s middle) (intact : s.Intact) :
    middle.Intact := by
  intro position link found
  cases advances with
  | opened s created =>
      rcases getElem?_snoc found with found | ⟨-, rfl⟩
      · exact intact _ _ found
      · unfold channelWithPool at created
        split at created
        · cases created
          exact ⟨fun _ => Sound.cleared rfl rfl rfl rfl, fun _ => ⟨rfl, rfl⟩, fun gone => by cases gone⟩
        · cases created
  | turn there turns absorbs =>
      rw [absorbs.permits.2] at found
      rcases getElem?_put there found with ⟨-, rfl⟩ | ⟨-, found⟩
      · exact turns.intact (intact _ _ there)
      · exact intact _ _ found
  | work => exact intact _ _ found

/-! ### The bound -/

instance (stage : Stage φ) : Decidable stage.Unfinished :=
  match stage with
  | .queued _ => .isTrue trivial
  | .running _ => .isTrue trivial
  | .returned _ => .isFalse id

/-- The jobs that are not over. -/
def System.running (s : System φ ρ) : Nat := s.jobs.countP fun job => decide job.stage.Unfinished

/-- The tasks with a permit they have not given to a job. -/
def System.holders (s : System φ ρ) : Nat := s.links.countP fun link => link.task.permits ≠ 0

/-- What holds in every state: jobs and tasks share the permits of the pool, and what they
do not have is free; a connection has at most one batch on its way, or, if it never called
`recv` after a canceled one, outside its queue; and the batches in its queue are bounded. -/
structure System.Bounded (workers : Nat) (s : System φ ρ) : Prop where
  limit : s.running + s.holders ≤ workers
  recovered : s.running = 0 → s.holders = 0 → s.pool.free.Perm (List.range workers)
  owned : ∀ job ∈ s.jobs, ∀ permit ∈ job.stage.permits, permit ∉ s.pool.free
  single : ∀ position place other, s.OnWay position place → s.OnWay position other →
    place = other
  alone : ∀ position link, s.links[position]? = some link → link.recalled = false →
    ∀ place other, s.Outside position place → s.Outside position other → place = other
  queued : ∀ link ∈ s.links, link.task ≠ .gone →
    link.shared.state.control.length ≤ controlCapacity ∧
      link.shared.state.topics.length ≤ link.shared.state.capacity

/-- What every step keeps to: the queues change as `Queues` allows; and a permit becomes
free only when a task gives it up that no job has had, or with the end of its job. -/
structure Orderly (happening : Happening φ ρ) (s after : System φ ρ) : Prop where
  queues : ∀ {position : Nat} {old new : Link φ ρ}, s.links[position]? = some old →
    after.links[position]? = some new → new.queue ≠ old.queue →
      ∃ act, happening = .turn position act ∧ Queues act old new
  permits : ∀ permit ∈ after.pool.free, permit ∉ s.pool.free →
    (∃ link ∈ s.links, permit ∈ link.task.permits ∧
      ∀ job ∈ s.jobs, permit ∉ job.stage.permits) ∨
    ∃ handle : Nat, ∃ job ended : Job φ ρ, s.jobs[handle]? = some job ∧ permit ∈ job.stage.permits ∧
      after.jobs[handle]? = some ended ∧ ¬ ended.stage.Unfinished

section Counting

variable {α : Type} {xs : List α} {f : α → Multiset Permit}

theorem mem_sum_map {permit : Permit} : permit ∈ (xs.map f).sum ↔ ∃ x ∈ xs, permit ∈ f x := by
  induction xs with
  | nil => simp
  | cons head tail inductionHypothesis => simp [inductionHypothesis]

theorem card_sum_map (test : α → Bool) (counts : ∀ x, (f x).card = if test x then 1 else 0) :
    (xs.map f).sum.card = xs.countP test := by
  induction xs with
  | nil => rfl
  | cons head tail inductionHypothesis =>
      rw [List.map_cons, List.sum_cons, Multiset.card_add, inductionHypothesis, counts,
        List.countP_cons, Nat.add_comm]

end Counting

theorem System.card_working (s : System φ ρ) : s.working.card = s.running := by
  refine card_sum_map _ fun job => ?_
  cases job.stage <;> rfl

theorem System.card_held (s : System φ ρ) : s.held.card = s.holders := by
  refine card_sum_map _ fun link => ?_
  cases link.task <;> rfl

theorem System.Conserved.bounded (conserved : s.Conserved workers) (tidy : s.Tidy)
    (intact : s.Intact) : s.Bounded workers := by
  have total : s.pool.free.length + s.holders + s.running = workers := by
    have counted := congrArg Multiset.card conserved
    simpa [System.permits, s.card_held, s.card_working] using counted
  have distinct : s.permits.Nodup := by
    rw [conserved]
    exact Multiset.coe_nodup.mpr List.nodup_range
  have joined {position handle : Nat} (way : s.OnWay position (.job handle)) :
      ∃ link, s.links[position]? = some link ∧ link.task.Joins handle := by
    obtain ⟨job, listed, rfl, other, link, found, joins⟩ := way
    obtain ⟨own, same, rfl⟩ := tidy.own found joins
    cases listed.symm.trans same
    exact ⟨link, found, joins⟩
  have single : ∀ position place other, s.OnWay position place → s.OnWay position other →
      place = other := by
    intro position place other first second
    cases place with
    | receiver =>
        cases other with
        | receiver => rfl
        | job handle =>
            obtain ⟨link, found, carries⟩ := first
            obtain ⟨_, same, joins⟩ := joined second
            cases found.symm.trans same
            exact (joins.not_carries carries).elim
    | job handle =>
        obtain ⟨link, found, joins⟩ := joined first
        cases other with
        | receiver =>
            obtain ⟨_, same, carries⟩ := second
            cases found.symm.trans same
            exact (joins.not_carries carries).elim
        | job rival =>
            obtain ⟨_, same, against⟩ := joined second
            cases found.symm.trans same
            obtain ⟨topic, joining⟩ := joins
            obtain ⟨_, joining'⟩ := against
            cases joining.symm.trans joining'
            rfl
  refine ⟨by omega, fun none nobody => ?_, fun job listed permit owns free => ?_, single, ?_, ?_⟩
  · refine Multiset.coe_eq_coe.mp (Eq.trans ?_ conserved)
    have noWork := Multiset.card_eq_zero.mp (s.card_working.trans none)
    have noHolder := Multiset.card_eq_zero.mp (s.card_held.trans nobody)
    simp [System.permits, noWork, noHolder]
  · have apart := (Multiset.nodup_add.mp distinct).2.2
    refine Multiset.disjoint_left.mp apart ?_ (mem_sum_map.mpr ⟨job, listed, owns⟩)
    exact Multiset.mem_add.mpr (.inl free)
  · intro position link found recalled place other first second
    cases canceled : link.canceled with
    | false =>
        have waited {place : Place} (outside : s.Outside position place) :
            s.OnWay position place := by
          rcases outside with way | ⟨handle, job, rfl, listed, rfl, unfinished⟩
          · exact way
          · exact ⟨job, listed, rfl, _, link, found,
              tidy.awaited listed found unfinished canceled⟩
        exact single position place other (waited first) (waited second)
    | true =>
        have resting := tidy.rests found recalled canceled
        have abandoned {place : Place} (outside : s.Outside position place) :
            ∃ handle job, place = .job handle ∧ s.jobs[handle]? = some job ∧
              job.connection = position ∧ job.stage.Unfinished := by
          rcases outside with way | abandoned
          · cases place with
            | receiver =>
                obtain ⟨_, same, carries⟩ := way
                cases found.symm.trans same
                rcases resting with same | same <;> rw [same] at carries <;> exact carries.elim
            | job handle =>
                obtain ⟨_, same, joins⟩ := joined way
                cases found.symm.trans same
                exact absurd resting joins.not_rests
          · exact abandoned
        obtain ⟨handle, job, rfl, listed, rfl, unfinished⟩ := abandoned first
        obtain ⟨rival, against, rfl, there, same, working⟩ := abandoned second
        rw [tidy.sole listed there same.symm unfinished working found recalled]
  · intro link member present
    obtain ⟨position, found⟩ := List.getElem?_of_mem member
    have sound := (intact _ _ found).sound present
    exact ⟨sound.controlRoom, sound.topicRoom⟩

theorem Advances.orderly (advances : Advances sizes happening s middle)
    (conserved : s.Conserved workers) (intact : s.Intact) : Orderly happening s middle := by
  refine ⟨fun {position old new} found later changed => ?_, fun permit free taken => ?_⟩
  · cases advances with
    | opened s created =>
        have bound := (List.getElem?_eq_some_iff.mp found).1
        rw [List.getElem?_append_left bound] at later
        cases found.symm.trans later
        exact absurd rfl changed
    | turn there turns absorbs =>
        rw [absorbs.permits.2] at later
        rcases getElem?_put there later with ⟨rfl, rfl⟩ | ⟨-, later⟩
        · cases there.symm.trans found
          exact ⟨_, rfl, turns.queues (intact _ _ there)⟩
        · cases found.symm.trans later
          exact absurd rfl changed
    | work =>
        cases found.symm.trans later
        exact absurd rfl changed
  · cases advances with
    | opened => exact absurd free taken
    | @turn position act effect before after _ middle there turns absorbs =>
        have exchanged := turns.permits
        cases absorbs with
        | none | spawn | join => exact absurd free taken
        | acquire => exact absurd (List.mem_of_mem_erase free) taken
        | release released =>
            rcases List.mem_cons.mp free with rfl | kept
            · have owns : permit ∈ before.task.permits := by
                have gave : before.task.permits + 0 = after.task.permits + {permit} := exchanged
                rw [add_zero] at gave
                rw [gave]
                exact Multiset.mem_add.mpr (.inr (Multiset.mem_singleton_self _))
              have member := List.mem_of_getElem? there
              refine .inl ⟨before, member, owns, fun job listed works => ?_⟩
              have distinct : s.permits.Nodup := by
                rw [conserved]
                exact Multiset.coe_nodup.mpr List.nodup_range
              refine Multiset.disjoint_left.mp (Multiset.nodup_add.mp distinct).2.2 ?_
                (mem_sum_map.mpr ⟨job, listed, works⟩)
              exact Multiset.mem_add.mpr (.inr (mem_sum_map.mpr ⟨before, member, owns⟩))
            · exact absurd kept taken
    | @work handle job link stage returned _ found owned works =>
        refine .inr ⟨handle, job, { job with stage }, found, ?_,
          List.getElem?_set_self (List.getElem?_eq_some_iff.mp found).1, ?_⟩
        · rcases List.mem_append.mp free with back | kept
          · rw [works.permits]
            exact Multiset.mem_add.mpr (.inl back)
          · exact absurd kept taken
        · cases returned with
          | none => exact absurd free taken
          | some permit => exact works.ended

/-- In every run of a server whose connections share a pool, whatever is enqueued, encoded,
closed and canceled, and at whatever moment: jobs and tasks share the permits of the pool
and no permit is lost; `recv` takes a batch only with a permit; a connection has at most
one batch outside its queue; and a permit comes back only before a job has had it, or with
the end of its job. -/
theorem pool_bound {pool : Pool} (created : Pool.new workers = .ok pool)
    {done : List (Happening φ ρ)} (run : Trail (Advances sizes) done (.start pool) s) :
    s.Bounded workers ∧ ∀ happening after, Advances sizes happening s after →
      Orderly happening s after := by
  have kept : s.Conserved workers ∧ s.Tidy ∧ s.Intact := by
    refine run.invariant (fun _ => True) (fun s => s.Conserved workers ∧ s.Tidy ∧ s.Intact)
      (fun _ _ _ _ _ => trivial) ?_ trivial ⟨System.start_conserved created,
        System.start_tidy pool, System.start_intact pool⟩
    rintro happening before after advances - ⟨conserved, tidy, intact⟩
    exact ⟨advances.permits.trans conserved, advances.tidy tidy, advances.intact intact⟩
  obtain ⟨conserved, tidy, intact⟩ := kept
  exact ⟨conserved.bounded tidy intact, fun _ _ advances => advances.orderly conserved intact⟩

/-- A single worker: `recv` is canceled while its job runs, which keeps the permit. -/
theorem pool_bound_canceled :
    ∃ s : System Nat Nat, s.Bounded 1 ∧ s.running = 1 ∧ s.pool.free = [] ∧
      s.links.map Link.canceled = [true] := by
  let turn {act effect before after s middle} (turns) (absorbs) (found) :=
    @Advances.turn Nat Nat ⟨id, id⟩ 0 act effect before after s middle found turns absorbs
  refine ⟨_, (pool_bound (rfl : Pool.new 1 = .ok ⟨[0]⟩) <|
    .cons (@Advances.opened _ _ _ 1 8 _ _ rfl) <|
    .cons (turn (@Turns.enqueue _ _ _ 0 none 0 (.encode 1) _ _ _ rfl) (.none _) rfl) <|
    .cons (turn (.call rfl) (.none _) rfl) <|
    .cons (turn (.check rfl) (.none _) rfl) <|
    .cons (turn (.grant 0 rfl) (.acquire (List.mem_singleton_self 0)) rfl) <|
    .cons (turn (.acquired rfl) (.none _) rfl) <|
    .cons (turn (@Turns.take _ _ _ _ 0 _ _ rfl rfl) (.none _) rfl) <|
    .cons (turn (.spawn 0 rfl rfl) (.spawn rfl) rfl) <|
    .cons (turn (.cancel rfl) (.none _) rfl) <|
    .cons (@Advances.work _ _ _ 0 _ _ _ _ _ rfl rfl (by exact .start 0 rfl)) <| .nil _).1, ?_, ?_, ?_⟩ <;> rfl

end Rosbridge.Outgoing
