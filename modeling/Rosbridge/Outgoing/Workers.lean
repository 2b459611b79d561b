import Rosbridge.Outgoing.Queue

/-!
The encoding pool shared by all connections (`encoding.rs`, `Receiver::recv`).

Owns: the permits of the pool, the phases of `recv` with the permit it holds in each,
the blocking jobs, and the runs of any number of connections, workers and
cancellations.

The pool is a semaphore: a permit is free, or held by one task or one job. Grants are
not ordered. A job keeps its place in the list of all jobs, which is its handle; a
result nobody joins is dropped.
-/

set_option autoImplicit false

namespace Rosbridge.Outgoing

open Foundation

abbrev Permit := Nat

/-- `encoding::Pool`: the permits that are free. -/
structure Pool where
  free : List Permit

/-- `Pool::new`. -/
def Pool.new (workers : Nat) : Outcome Error Pool :=
  if 0 < workers then .ok ⟨List.range workers⟩ else .panic "assertion failed: workers > 0"

/-- Where a blocking job stands. Its closure owns a permit until it is over. -/
inductive Stage (φ : Type) where
  | queued (permit : Permit)
  | running (permit : Permit)
  /-- The closure is gone: it returned, or `none` if it panicked or never ran. -/
  | returned (result : Option (Except Error (List φ)))

structure Job (φ ρ : Type) where
  connection : Nat
  batch : Batch φ ρ
  stage : Stage φ

/-- Where `recv` stands. It can be canceled at `awaiting`, `pooling`, `granted` and
`joining`; the other phases run up to the next of these. -/
inductive Task (φ ρ : Type) where
  /-- Between two calls, or canceled. -/
  | idle
  /-- About to look for pending batches. -/
  | checking
  /-- Waiting for `ready`. -/
  | awaiting
  /-- Waiting for the pool, or for `closed`. -/
  | pooling
  /-- The semaphore assigned a permit to the waiting future. -/
  | granted (permit : Permit)
  /-- About to take a batch. -/
  | taking (permit : Permit)
  /-- About to spawn a job for the batch, or to pass its frames on. -/
  | holding (permit : Permit) (batch : Batch φ ρ)
  /-- Waiting for a job. -/
  | joining (topic : Bool) (handle : Nat)
  /-- About to finish a batch. -/
  | finishing (topic : Bool) (result : Except Error (List φ))
  /-- The job was lost: about to close the connection. -/
  | failing (topic : Bool)
  /-- The receiver is dropped. -/
  | gone

/-- One connection: its queue and its `recv`, and whether a `recv` was ever canceled, and
ever called after that. -/
structure Link (φ ρ : Type) where
  shared : Shared φ ρ
  task : Task φ ρ
  canceled : Bool
  recalled : Bool

/-- What a step of a connection asks of the pool and of the jobs. -/
inductive Effect (φ ρ : Type) where
  | none
  | acquire (permit : Permit)
  | release (permit : Permit)
  | spawn (permit : Permit) (batch : Batch φ ρ)
  | join (handle : Nat) (result : Option (Except Error (List φ)))

/-- One step of a connection. -/
inductive Act (φ ρ : Type) where
  | enqueue (connection : Connection) (topic : Option String) (topicLimit : Nat)
      (payload : Payload φ ρ) (outcome : Outcome SendError Unit)
  | dropOutput
  | call
  | check
  | wake
  | grant
  | acquired
  /-- `closed.notified()` completes first. -/
  | closed
  | take (outcome : Outcome TryRecvError (Batch φ ρ))
  | spawn
  | pass
  | join
  | fail (outcome : Outcome Error (Option (List φ)))
  | finish (outcome : Outcome Error (Option (List φ)))
  /-- The `recv` future is dropped at an await point. -/
  | cancel
  | dropReceiver

variable {φ ρ : Type}

def Task.checked (s : State φ ρ) : Task φ ρ :=
  if s.senderClosed then .idle
  else if !s.control.isEmpty || !s.topics.isEmpty then .pooling
  else .awaiting

/-- After `take`: the batch comes with the permit, which is dropped if there is none. -/
def Task.taken (permit : Permit) : Outcome TryRecvError (Batch φ ρ) → Task φ ρ
  | .ok batch => .holding permit batch
  | .error .disconnected => .idle
  | .error .empty => .checking
  | .panic _ => .gone

def Effect.taken (permit : Permit) : Outcome TryRecvError (Batch φ ρ) → Effect φ ρ
  | .ok _ => .none
  | _ => .release permit

def Task.finished : Outcome Error (Option (List φ)) → Task φ ρ
  | .ok (some _) => .idle
  | .ok none => .checking
  | _ => .gone

/-- After the job is over: its result, or the worker failed. -/
def Task.joined (topic : Bool) : Option (Except Error (List φ)) → Task φ ρ
  | some result => .finishing topic result
  | none => .failing topic

/-- A task that `cancel` may drop, and what dropping it gives back. -/
def Task.cancels : Task φ ρ → Option (Effect φ ρ)
  | .awaiting => some .none
  | .pooling => some .none
  | .granted permit => some (.release permit)
  | .joining _ _ => some .none
  | _ => none

/-- The steps of one connection. -/
inductive Turns (sizes : Sizes φ ρ) : Act φ ρ → Effect φ ρ → Link φ ρ → Link φ ρ → Prop where
  | enqueue {connection : Connection} {topic : Option String} {topicLimit : Nat}
      {payload : Payload φ ρ} {outcome : Outcome SendError Unit} {link : Link φ ρ}
      {after : Shared φ ρ}
      (ran : Outgoing.enqueue sizes connection topic topicLimit payload link.shared =
        (outcome, after)) :
      Turns sizes (.enqueue connection topic topicLimit payload outcome) .none link
        { link with shared := after }
  | dropOutput (link : Link φ ρ) :
      Turns sizes .dropOutput .none link
        { link with
          shared := ((Outgoing.dropOutput : Program (Shared φ ρ) Error Unit) link.shared).2 }
  | call {link : Link φ ρ} (here : link.task = .idle) :
      Turns sizes .call .none link
        { link with task := .checking, recalled := link.recalled || link.canceled }
  | check {link : Link φ ρ} (here : link.task = .checking) :
      Turns sizes .check .none link { link with task := .checked link.shared.state }
  | wake {link : Link φ ρ} (here : link.task = .awaiting) (notified : link.shared.ready = true) :
      Turns sizes .wake .none link
        { link with task := .checking, shared := { link.shared with ready := false } }
  | grant {link : Link φ ρ} (permit : Permit) (here : link.task = .pooling) :
      Turns sizes .grant (.acquire permit) link { link with task := .granted permit }
  | acquired {link : Link φ ρ} {permit : Permit} (here : link.task = .granted permit) :
      Turns sizes .acquired .none link { link with task := .taking permit }
  | closed {link : Link φ ρ} (here : link.task = .pooling)
      (notified : link.shared.closed = true) :
      Turns sizes .closed .none link
        { link with task := .idle, shared := { link.shared with closed := false } }
  | closedGranted {link : Link φ ρ} {permit : Permit} (here : link.task = .granted permit)
      (notified : link.shared.closed = true) :
      Turns sizes .closed (.release permit) link
        { link with task := .idle, shared := { link.shared with closed := false } }
  | take {link : Link φ ρ} {permit : Permit} {outcome : Outcome TryRecvError (Batch φ ρ)}
      {after : Shared φ ρ} (here : link.task = .taking permit)
      (ran : Outgoing.take link.shared = (outcome, after)) :
      Turns sizes (.take outcome) (.taken permit outcome) link
        { link with shared := after, task := .taken permit outcome }
  | spawn {link : Link φ ρ} {permit : Permit} {batch : Batch φ ρ} {request : ρ} (handle : Nat)
      (here : link.task = .holding permit batch) (encoding : batch.payload = .encode request) :
      Turns sizes .spawn (.spawn permit batch) link
        { link with task := .joining batch.topic.isSome handle }
  | pass {link : Link φ ρ} {permit : Permit} {batch : Batch φ ρ} {frames : List φ}
      (here : link.task = .holding permit batch) (ready : batch.payload = .frames frames) :
      Turns sizes .pass (.release permit) link
        { link with task := .finishing batch.topic.isSome (.ok frames) }
  | join {link : Link φ ρ} {topic : Bool} {handle : Nat}
      (result : Option (Except Error (List φ))) (here : link.task = .joining topic handle) :
      Turns sizes .join (.join handle result) link { link with task := .joined topic result }
  | fail {link : Link φ ρ} {topic : Bool} {outcome : Outcome Error (Option (List φ))}
      {after : Shared φ ρ} (here : link.task = .failing topic)
      (ran : Outgoing.finish sizes false (.error ⟨"encoding worker failed"⟩) link.shared =
        (outcome, after)) :
      Turns sizes (.fail outcome) .none link
        { link with
          shared := after, task := .finishing topic (.error ⟨"encoding worker failed"⟩) }
  | finish {link : Link φ ρ} {topic : Bool} {result : Except Error (List φ)}
      {outcome : Outcome Error (Option (List φ))} {after : Shared φ ρ}
      (here : link.task = .finishing topic result)
      (ran : Outgoing.finish sizes topic result link.shared = (outcome, after)) :
      Turns sizes (.finish outcome) .none link
        { link with shared := after, task := .finished outcome }
  | cancel {link : Link φ ρ} {effect : Effect φ ρ} (here : link.task.cancels = some effect) :
      Turns sizes .cancel effect link { link with task := .idle, canceled := true }
  | dropReceiver {link : Link φ ρ} (here : link.task = .idle) :
      Turns sizes .dropReceiver .none link
        { link with
          shared := ((Outgoing.dropReceiver : Program (Shared φ ρ) Error Unit) link.shared).2
          task := .gone }

/-- All connections of a server, its pool and every job it spawned. -/
structure System (φ ρ : Type) where
  pool : Pool
  links : List (Link φ ρ)
  jobs : List (Job φ ρ)

/-- A server without connections. -/
def System.start (pool : Pool) : System φ ρ := ⟨pool, [], []⟩

/-- The pool and the jobs follow a step of connection `position`, which leaves its link
as `after`. -/
inductive Absorbs (position : Nat) (after : Link φ ρ) :
    Effect φ ρ → System φ ρ → System φ ρ → Prop where
  | none (s : System φ ρ) : Absorbs position after .none s s
  | acquire {permit : Permit} {s : System φ ρ} (available : permit ∈ s.pool.free) :
      Absorbs position after (.acquire permit) s { s with pool := ⟨s.pool.free.erase permit⟩ }
  | release (permit : Permit) (s : System φ ρ) :
      Absorbs position after (.release permit) s { s with pool := ⟨permit :: s.pool.free⟩ }
  | spawn {topic : Bool} {permit : Permit} {batch : Batch φ ρ} {s : System φ ρ}
      (handled : after.task = .joining topic s.jobs.length) :
      Absorbs position after (.spawn permit batch) s
        { s with jobs := s.jobs ++ [⟨position, batch, .queued permit⟩] }
  | join {handle : Nat} {result : Option (Except Error (List φ))} {job : Job φ ρ}
      {s : System φ ρ} (found : s.jobs[handle]? = some job)
      (returned : job.stage = .returned result) :
      Absorbs position after (.join handle result) s s

/-- The steps of a blocking job, by whether its connection is closed, with the permit they
give back. -/
inductive Works (batch : Batch φ ρ) (closed : Bool) : Stage φ → Stage φ → Option Permit → Prop where
  | start (permit : Permit) (opened : closed = false) :
      Works batch closed (.queued permit) (.running permit) none
  | refuse (permit : Permit) (shut : closed = true) :
      Works batch closed (.queued permit)
        (.returned (some (.error ⟨"encoding canceled"⟩))) (some permit)
  | encode {result : Except Error (List φ)} (permit : Permit)
      (encoded : batch.payload.Encodes result) :
      Works batch closed (.running permit) (.returned (some result)) (some permit)
  /-- The encoder panics. -/
  | panic (permit : Permit) : Works batch closed (.running permit) (.returned none) (some permit)
  /-- The runtime shuts down before the job has started. -/
  | dropped (permit : Permit) : Works batch closed (.queued permit) (.returned none) (some permit)

/-- The steps of the server. -/
inductive Happening (φ ρ : Type) where
  | opened
  | turn (position : Nat) (act : Act φ ρ)
  | work (handle : Nat)

inductive Advances (sizes : Sizes φ ρ) : Happening φ ρ → System φ ρ → System φ ρ → Prop where
  /-- A connection gets a queue that shares the pool. -/
  | opened {capacity byteLimit : Nat} {shared : Shared φ ρ} (s : System φ ρ)
      (created : channelWithPool capacity byteLimit = .ok shared) :
      Advances sizes .opened s { s with links := s.links ++ [⟨shared, .idle, false, false⟩] }
  | turn {position : Nat} {act : Act φ ρ} {effect : Effect φ ρ} {before after : Link φ ρ}
      {s middle : System φ ρ} (found : s.links[position]? = some before)
      (turns : Turns sizes act effect before after)
      (absorbs : Absorbs position after effect s middle) :
      Advances sizes (.turn position act) s
        { middle with links := middle.links.set position after }
  | work {handle : Nat} {job : Job φ ρ} {link : Link φ ρ} {stage : Stage φ}
      {permit : Option Permit} {s : System φ ρ} (found : s.jobs[handle]? = some job)
      (owned : s.links[job.connection]? = some link)
      (works : Works job.batch link.shared.state.isClosed job.stage stage permit) :
      Advances sizes (.work handle) s
        { s with
          pool := ⟨permit.toList ++ s.pool.free⟩
          jobs := s.jobs.set handle { job with stage } }

end Rosbridge.Outgoing
