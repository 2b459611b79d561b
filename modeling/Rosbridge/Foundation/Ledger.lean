import Mathlib.Algebra.BigOperators.Group.Multiset.Basic
import Mathlib.Data.Multiset.UnionInter

/-!
Accounting for resources that are acquired, used and released.

Owns: `Ledger`, the sequences of acts in which every use and every release is of a
live resource; how ledgers compose; and what a ledger from nothing says when no
resource is acquired twice.
-/

set_option autoImplicit false

namespace Foundation

variable {ρ : Type}

/-- What happens to a resource. -/
inductive Act (ρ : Type) where
  | acquire (resource : ρ)
  | use (resource : ρ)
  | release (resource : ρ)

namespace Act

def acquired? : Act ρ → Option ρ
  | acquire resource => some resource
  | _ => none

def released? : Act ρ → Option ρ
  | release resource => some resource
  | _ => none

end Act

/-- `Ledger live acts final`: the acts are all on live resources, and lead from the
live resources `live` to `final`. -/
inductive Ledger : Multiset ρ → List (Act ρ) → Multiset ρ → Prop where
  | nil (live : Multiset ρ) : Ledger live [] live
  | acquire {live final : Multiset ρ} {acts : List (Act ρ)} {resource : ρ}
      (rest : Ledger (resource ::ₘ live) acts final) :
      Ledger live (.acquire resource :: acts) final
  | use {live final : Multiset ρ} {acts : List (Act ρ)} {resource : ρ}
      (isLive : resource ∈ live) (rest : Ledger live acts final) :
      Ledger live (.use resource :: acts) final
  | release {live final : Multiset ρ} {acts : List (Act ρ)} {resource : ρ}
      (rest : Ledger live acts final) :
      Ledger (resource ::ₘ live) (.release resource :: acts) final

namespace Ledger

variable {live middle final : Multiset ρ} {acts left right : List (Act ρ)} {resource : ρ}

theorem append (first : Ledger live left middle) (second : Ledger middle right final) :
    Ledger live (left ++ right) final := by
  induction first with
  | nil => exact second
  | acquire _ inductionHypothesis => exact .acquire (inductionHypothesis second)
  | use isLive _ inductionHypothesis => exact .use isLive (inductionHypothesis second)
  | release _ inductionHypothesis => exact .release (inductionHypothesis second)

theorem split (ledger : Ledger live (left ++ right) final) :
    ∃ middle, Ledger live left middle ∧ Ledger middle right final := by
  induction left generalizing live with
  | nil => exact ⟨live, .nil live, ledger⟩
  | cons act left inductionHypothesis =>
      cases ledger with
      | acquire rest =>
          obtain ⟨middle, first, second⟩ := inductionHypothesis rest
          exact ⟨middle, .acquire first, second⟩
      | use isLive rest =>
          obtain ⟨middle, first, second⟩ := inductionHypothesis rest
          exact ⟨middle, .use isLive first, second⟩
      | release rest =>
          obtain ⟨middle, first, second⟩ := inductionHypothesis rest
          exact ⟨middle, .release first, second⟩

theorem acquires (resources : List ρ) (live : Multiset ρ) :
    Ledger live (resources.map .acquire) ((resources : Multiset ρ) + live) := by
  induction resources generalizing live with
  | nil =>
      rw [Multiset.coe_nil, zero_add]
      exact .nil live
  | cons resource rest inductionHypothesis =>
      refine .acquire ?_
      rw [← Multiset.cons_coe, Multiset.cons_add, ← Multiset.add_cons]
      exact inductionHypothesis _

theorem releases (resources : List ρ) (live : Multiset ρ) :
    Ledger ((resources : Multiset ρ) + live) (resources.map .release) live := by
  induction resources with
  | nil =>
      rw [Multiset.coe_nil, zero_add]
      exact .nil live
  | cons resource rest inductionHypothesis =>
      rw [← Multiset.cons_coe, Multiset.cons_add]
      exact .release inductionHypothesis

theorem uses (resources : List ρ) (areLive : ∀ resource ∈ resources, resource ∈ live) :
    Ledger live (resources.map .use) live := by
  induction resources with
  | nil => exact .nil live
  | cons resource rest inductionHypothesis =>
      exact .use (areLive resource List.mem_cons_self)
        (inductionHypothesis fun other member => areLive other (List.mem_cons_of_mem _ member))

theorem same (unchanged : final = live) : Ledger live [] final :=
  unchanged ▸ .nil live

theorem gain (gained : final = resource ::ₘ live) : Ledger live [.acquire resource] final :=
  .acquire (same gained)

theorem lose (lost : live = resource ::ₘ final) : Ledger live [.release resource] final :=
  lost ▸ .release (.nil final)

theorem touch (isLive : resource ∈ live) (unchanged : final = live) :
    Ledger live [.use resource] final :=
  .use isLive (same unchanged)

/-- What was live or acquired has been released or is live. -/
theorem balance (ledger : Ledger live acts final) :
    live + (acts.filterMap Act.acquired? : Multiset ρ) =
      (acts.filterMap Act.released? : Multiset ρ) + final := by
  induction ledger with
  | nil live => simp
  | @acquire live final acts resource _ inductionHypothesis =>
      calc
        live + ↑(resource :: acts.filterMap Act.acquired?) =
            resource ::ₘ live + ↑(acts.filterMap Act.acquired?) := by
          rw [← Multiset.cons_coe, Multiset.add_cons, Multiset.cons_add]
        _ = _ := inductionHypothesis
  | use _ _ inductionHypothesis => exact inductionHypothesis
  | @release live final acts resource _ inductionHypothesis =>
      calc
        resource ::ₘ live + ↑(acts.filterMap Act.acquired?) =
            resource ::ₘ (↑(acts.filterMap Act.released?) + final) := by
          rw [Multiset.cons_add, inductionHypothesis]
        _ = ↑(resource :: acts.filterMap Act.released?) + final := by
          rw [← Multiset.cons_coe, Multiset.cons_add]

/-! ### Ledgers from nothing -/

/-- A resource that is live was acquired, and has not been released, if nothing is
acquired twice. -/
theorem live_iff (ledger : Ledger 0 acts final) (distinct : (acts.filterMap Act.acquired?).Nodup) :
    resource ∈ final ↔
      resource ∈ acts.filterMap Act.acquired? ∧ resource ∉ acts.filterMap Act.released? := by
  have balanced := ledger.balance
  rw [zero_add] at balanced
  have separate : (acts.filterMap Act.released? + final : Multiset ρ).Nodup := by
    rw [← balanced]
    exact Multiset.coe_nodup.mpr distinct
  have apart := (Multiset.nodup_add.mp separate).2.2
  have member : resource ∈ acts.filterMap Act.acquired? ↔
      resource ∈ acts.filterMap Act.released? ∨ resource ∈ final := by
    rw [← Multiset.mem_coe, balanced, Multiset.mem_add, Multiset.mem_coe]
  rw [member]
  constructor
  · exact fun isLive => ⟨.inr isLive, fun released =>
      Multiset.disjoint_left.mp apart (Multiset.mem_coe.mpr released) isLive⟩
  · rintro ⟨released | isLive, unreleased⟩
    · exact absurd released unreleased
    · exact isLive

theorem nodup (ledger : Ledger 0 acts final) (distinct : (acts.filterMap Act.acquired?).Nodup) :
    (acts.filterMap Act.released?).Nodup ∧ final.Nodup := by
  have balanced := ledger.balance
  rw [zero_add] at balanced
  have separate : (acts.filterMap Act.released? + final : Multiset ρ).Nodup := by
    rw [← balanced]
    exact Multiset.coe_nodup.mpr distinct
  obtain ⟨released, left, -⟩ := Multiset.nodup_add.mp separate
  exact ⟨Multiset.coe_nodup.mp released, left⟩

/-- A resource is used after it was acquired and before it is released. -/
theorem used_live (ledger : Ledger 0 (left ++ .use resource :: right) final)
    (distinct : ((left ++ .use resource :: right).filterMap Act.acquired?).Nodup) :
    resource ∈ left.filterMap Act.acquired? ∧ resource ∉ left.filterMap Act.released? := by
  obtain ⟨middle, first, second⟩ := ledger.split
  rw [List.filterMap_append, List.nodup_append] at distinct
  cases second with
  | use isLive _ => exact (first.live_iff distinct.1).mp isLive

end Ledger

end Foundation
