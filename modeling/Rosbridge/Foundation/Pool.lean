import Mathlib.Algebra.Order.Group.Multiset
import Mathlib.Data.Multiset.UnionInter

/-!
Tickets that are issued, redeemed and withdrawn.

Owns: `Change`, what happens to a pool of open tickets; `Pool`, the sequences of
changes in which every redeemed ticket is open; how they compose; and that a ticket
issued once is redeemed at most once.
-/

set_option autoImplicit false

namespace Foundation

variable {τ : Type}

/-- What happens to the open tickets. A withdrawal drops every open ticket it is about. -/
inductive Change (τ : Type) where
  | issue (tickets : List τ)
  | redeem (ticket : τ)
  | withdraw (about : τ → Bool)

namespace Change

def issued : Change τ → List τ
  | issue tickets => tickets
  | _ => []

def redeemed? : Change τ → Option τ
  | redeem ticket => some ticket
  | _ => none

/-- The open tickets after a change. -/
def after [DecidableEq τ] (live : Multiset τ) : Change τ → Multiset τ
  | issue tickets => live + tickets
  | redeem ticket => live.erase ticket
  | withdraw about => live.filter fun ticket => about ticket = false

end Change

/-- `Pool live changes final`: the changes redeem only open tickets, and lead from the
open tickets `live` to `final`. -/
inductive Pool : Multiset τ → List (Change τ) → Multiset τ → Prop where
  | nil (live : Multiset τ) : Pool live [] live
  | issue {live final : Multiset τ} {changes : List (Change τ)} {tickets : List τ}
      (rest : Pool (live + tickets) changes final) :
      Pool live (.issue tickets :: changes) final
  | redeem {live final : Multiset τ} {changes : List (Change τ)} {ticket : τ}
      (rest : Pool live changes final) :
      Pool (ticket ::ₘ live) (.redeem ticket :: changes) final
  | withdraw {live final : Multiset τ} {changes : List (Change τ)} {about : τ → Bool}
      (rest : Pool (live.filter fun ticket => about ticket = false) changes final) :
      Pool live (.withdraw about :: changes) final

namespace Pool

variable {live middle final : Multiset τ} {changes left right : List (Change τ)}

theorem append (first : Pool live left middle) (second : Pool middle right final) :
    Pool live (left ++ right) final := by
  induction first with
  | nil => exact second
  | issue _ inductionHypothesis => exact .issue (inductionHypothesis second)
  | redeem _ inductionHypothesis => exact .redeem (inductionHypothesis second)
  | withdraw _ inductionHypothesis => exact .withdraw (inductionHypothesis second)

theorem same (unchanged : final = live) : Pool live [] final :=
  unchanged ▸ .nil live

theorem redeems (tickets : List τ) (live : Multiset τ) :
    Pool ((tickets : Multiset τ) + live) (tickets.map .redeem) live := by
  induction tickets with
  | nil =>
      rw [Multiset.coe_nil, zero_add]
      exact .nil live
  | cons ticket rest inductionHypothesis =>
      rw [← Multiset.cons_coe, Multiset.cons_add]
      exact .redeem inductionHypothesis

/-- Withdrawals that together are about `dropped` and about no other open ticket. -/
theorem withdraws (abouts : List (τ → Bool)) (dropped live : Multiset τ)
    (gone : ∀ ticket ∈ dropped, ∃ about ∈ abouts, about ticket = true)
    (kept : ∀ ticket ∈ live, ∀ about ∈ abouts, about ticket = false) :
    Pool (dropped + live) (abouts.map .withdraw) live := by
  induction abouts generalizing dropped with
  | nil =>
      have none : dropped = 0 := by
        refine Multiset.eq_zero_of_forall_notMem fun ticket member => ?_
        obtain ⟨about, listed, -⟩ := gone ticket member
        cases listed
      rw [none, zero_add]
      exact .nil live
  | cons about rest inductionHypothesis =>
      refine .withdraw ?_
      have stays : live.filter (fun ticket => about ticket = false) = live :=
        Multiset.filter_eq_self.mpr fun ticket member => kept ticket member about List.mem_cons_self
      rw [Multiset.filter_add, stays]
      refine inductionHypothesis _ (fun ticket member => ?_) fun ticket member other listed =>
        kept ticket member other (List.mem_cons_of_mem _ listed)
      obtain ⟨isDropped, spared⟩ := Multiset.mem_filter.mp member
      obtain ⟨other, listed, drops⟩ := gone ticket isDropped
      rcases List.mem_cons.mp listed with rfl | listed
      · rw [drops] at spared
        cases spared
      · exact ⟨other, listed, drops⟩

/-- The open tickets are those that the changes leave one after the other. -/
theorem eq_foldl [DecidableEq τ] (pool : Pool live changes final) :
    final = changes.foldl Change.after live := by
  induction pool with
  | nil => rfl
  | issue _ inductionHypothesis => exact inductionHypothesis
  | @redeem live final changes ticket _ inductionHypothesis =>
      rw [List.foldl_cons, Change.after, Multiset.erase_cons_head]
      exact inductionHypothesis
  | withdraw _ inductionHypothesis => exact inductionHypothesis

/-- What was redeemed or is open was open before or has been issued. -/
theorem balance (pool : Pool live changes final) :
    (changes.filterMap Change.redeemed? : Multiset τ) + final ≤
      live + (changes.flatMap Change.issued : Multiset τ) := by
  induction pool with
  | nil live => simp
  | @issue live final changes tickets _ inductionHypothesis =>
      refine inductionHypothesis.trans (le_of_eq ?_)
      rw [add_assoc, List.flatMap_cons, ← Multiset.coe_add]
      rfl
  | @redeem live final changes ticket _ inductionHypothesis =>
      rw [List.filterMap_cons_some (show Change.redeemed? (.redeem ticket) = some ticket from rfl),
        ← Multiset.cons_coe, Multiset.cons_add, Multiset.cons_add]
      exact Multiset.cons_le_cons ticket inductionHypothesis
  | withdraw _ inductionHypothesis =>
      exact inductionHypothesis.trans (Multiset.add_le_add_right (Multiset.filter_le _ _))

/-- Tickets that are issued once are redeemed at most once, and then are not open. -/
theorem nodup (pool : Pool 0 changes final) (distinct : (changes.flatMap Change.issued).Nodup) :
    (changes.filterMap Change.redeemed?).Nodup ∧ final.Nodup ∧
      ∀ ticket ∈ changes.filterMap Change.redeemed?, ticket ∉ final := by
  have within := pool.balance
  rw [zero_add] at within
  have separate := Multiset.nodup_of_le within (Multiset.coe_nodup.mpr distinct)
  obtain ⟨redeemed, left, apart⟩ := Multiset.nodup_add.mp separate
  exact ⟨Multiset.coe_nodup.mp redeemed, left, fun ticket member =>
    Multiset.disjoint_left.mp apart (Multiset.mem_coe.mpr member)⟩

end Pool

end Foundation
