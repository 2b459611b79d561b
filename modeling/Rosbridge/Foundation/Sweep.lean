import Rosbridge.Foundation.Program
import Rosbridge.Foundation.Table

/-!
Loops over a snapshot of a finite map.

Owns: the rule for a loop that visits the entries of a map it changes. As long as
each round changes only the entry it visits, every entry is found as it was when
the snapshot was taken. Also the rule for a loop of which one round matters.
-/

set_option autoImplicit false

namespace Foundation

open Program

variable {σ ε κ ν : Type} [DecidableEq κ]

/-- `cleared` holds of what a round leaves at its key. -/
theorem wp_sweep {state : σ} {post : Outcome ε Unit → σ → Prop}
    {body : κ × ν → Program σ ε Unit} (table : σ → Table κ ν) (invariant : σ → Prop)
    (cleared : Option ν → Prop) (items : List (κ × ν)) (distinct : (items.map Prod.fst).Nodup)
    (listed : ∀ entry ∈ items, (table state).lookup entry.1 = some entry.2)
    (start : invariant state)
    (iterate : ∀ entry ∈ items, ∀ before, invariant before →
      (table before).lookup entry.1 = some entry.2 →
      wp (body entry) (fun outcome after =>
        match outcome with
        | .ok _ => invariant after ∧ cleared ((table after).lookup entry.1) ∧
            ∀ other, other ≠ entry.1 → (table after).lookup other = (table before).lookup other
        | .error cause => post (.error cause) after
        | .panic site => post (.panic site) after) before)
    (finish : ∀ after, invariant after →
      (∀ entry ∈ items, cleared ((table after).lookup entry.1)) →
      (∀ key, key ∉ items.map Prod.fst →
        (table after).lookup key = (table state).lookup key) →
      post (.ok ()) after) :
    wp (forEach items body) post state := by
  induction items generalizing state with
  | nil => exact finish state start (by simp) fun _ _ => rfl
  | cons entry rest inductionHypothesis =>
      rw [List.map_cons, List.nodup_cons] at distinct
      obtain ⟨unvisited, distinctRest⟩ := distinct
      rw [wp_forEach_cons]
      refine wp_mono (iterate entry List.mem_cons_self state start
        (listed entry List.mem_cons_self)) ?_
      rintro (value | cause | site) after round
      · obtain ⟨held, clear, same⟩ := round
        refine inductionHypothesis distinctRest ?_ held
          (fun other member => iterate other (List.mem_cons_of_mem _ member)) ?_
        · intro other member
          have apart : other.1 ≠ entry.1 := fun equal =>
            unvisited (equal ▸ List.mem_map_of_mem member)
          rw [same _ apart]
          exact listed other (List.mem_cons_of_mem _ member)
        · intro last held cleared' kept
          refine finish last held ?_ ?_
          · intro other member
            rcases List.mem_cons.mp member with rfl | inRest
            · rw [kept _ unvisited]
              exact clear
            · exact cleared' other inRest
          · intro key absent
            rw [List.map_cons, List.mem_cons, not_or] at absent
            rw [kept key absent.2, same key absent.1]
      · exact round
      · exact round

/-- A loop with an accumulator in which each round settles what its entry stands for. -/
theorem wp_settle {γ δ : Type} {state : σ} {body : γ → κ × ν → Program σ ε γ}
    (table : σ → Table κ ν) (invariant : σ → Prop) (duties : σ → Multiset δ)
    (weight : κ × ν → Multiset δ) (items : List (κ × ν)) (seed : γ)
    (distinct : (items.map Prod.fst).Nodup)
    (listed : ∀ entry ∈ items, (table state).lookup entry.1 = some entry.2)
    (start : invariant state)
    (iterate : ∀ entry ∈ items, ∀ value before, invariant before →
      (table before).lookup entry.1 = some entry.2 →
      wp (body value entry) (fun outcome after =>
        (∃ next, outcome = .ok next) ∧ invariant after ∧
          duties after + weight entry = duties before ∧
          ∀ other, other ≠ entry.1 →
            (table after).lookup other = (table before).lookup other) before) :
    wp (foldEach items seed body) (fun outcome after =>
      (∃ value, outcome = .ok value) ∧ invariant after ∧
        duties after + (items.map weight).sum = duties state ∧
        ∀ key, key ∉ items.map Prod.fst →
          (table after).lookup key = (table state).lookup key) state := by
  induction items generalizing state seed with
  | nil => exact ⟨⟨seed, rfl⟩, start, add_zero _, fun _ _ => rfl⟩
  | cons entry rest inductionHypothesis =>
      rw [List.map_cons, List.nodup_cons] at distinct
      obtain ⟨unvisited, distinctRest⟩ := distinct
      rw [wp_foldEach_cons]
      refine wp_mono (iterate entry List.mem_cons_self seed state start
        (listed entry List.mem_cons_self)) ?_
      rintro outcome after ⟨⟨next, rfl⟩, held, settled, same⟩
      have remaining : ∀ other ∈ rest, (table after).lookup other.1 = some other.2 := by
        intro other member
        have apart : other.1 ≠ entry.1 := fun equal =>
          unvisited (equal ▸ List.mem_map_of_mem member)
        rw [same _ apart]
        exact listed other (List.mem_cons_of_mem _ member)
      rw [andThen_ok]
      refine wp_mono (inductionHypothesis next distinctRest remaining held fun other member =>
        iterate other (List.mem_cons_of_mem _ member)) ?_
      rintro outcome last ⟨returned, held, rested, kept⟩
      refine ⟨returned, held, ?_, fun key absent => ?_⟩
      · rw [List.map_cons, List.sum_cons, ← settled, ← rested, add_comm (weight entry), add_assoc]
      · rw [List.map_cons, List.mem_cons, not_or] at absent
        rw [kept key absent.2, same key absent.1]

/-- A loop with an accumulator that always returns. -/
theorem wp_foldEach_lands {α β : Type} {state : σ} {body : β → α → Program σ ε β}
    {holds : β → σ → Prop} (items : List α) (seed : β) (start : holds seed state)
    (iterate : ∀ item ∈ items, ∀ value before, holds value before →
      wp (body value item) (fun outcome after => ∃ next, outcome = .ok next ∧ holds next after)
        before) :
    wp (foldEach items seed body)
      (fun outcome after => ∃ value, outcome = .ok value ∧ holds value after) state := by
  induction items generalizing state seed with
  | nil => exact ⟨seed, rfl, start⟩
  | cons item rest inductionHypothesis =>
      rw [wp_foldEach_cons]
      refine wp_mono (iterate item List.mem_cons_self seed state start) ?_
      rintro outcome after ⟨next, rfl, held⟩
      exact inductionHypothesis next held fun other member =>
        iterate other (List.mem_cons_of_mem _ member)

omit [DecidableEq κ] in
/-- A loop of which only the round of one key matters: it leads from `idle` to `done`, and
every other round keeps both. -/
theorem wp_foldEach_once {β : Type} {state : σ} {body : β → κ × ν → Program σ ε β}
    {idle done : β → σ → Prop} {key : κ} {value : ν} (items : List (κ × ν)) (seed : β)
    (distinct : (items.map Prod.fst).Nodup) (listed : (key, value) ∈ items)
    (start : idle seed state)
    (others : ∀ holds, holds = idle ∨ holds = done → ∀ entry ∈ items, entry.1 ≠ key →
      ∀ current before, holds current before → wp (body current entry)
        (fun outcome after => ∃ next, outcome = .ok next ∧ holds next after) before)
    (own : ∀ current before, idle current before → wp (body current (key, value))
      (fun outcome after => ∃ next, outcome = .ok next ∧ done next after) before) :
    wp (foldEach items seed body)
      (fun outcome after => ∃ last, outcome = .ok last ∧ done last after) state := by
  induction items generalizing state seed with
  | nil => cases listed
  | cons entry rest inductionHypothesis =>
      rw [List.map_cons, List.nodup_cons] at distinct
      obtain ⟨unvisited, distinct⟩ := distinct
      rw [wp_foldEach_cons]
      rcases List.mem_cons.mp listed with rfl | later
      · refine wp_mono (own seed state start) ?_
        rintro outcome after ⟨next, rfl, held⟩
        apply wp_foldEach_lands rest next held
        intro other member
        have apart : other.1 ≠ key := by
          rintro same
          exact unvisited (List.mem_map.mpr ⟨other, member, same⟩)
        exact others done (.inr rfl) other (List.mem_cons_of_mem _ member) apart
      · have apart : entry.1 ≠ key := by
          intro same
          exact unvisited (List.mem_map.mpr ⟨(key, value), later, same.symm⟩)
        refine wp_mono (others idle (.inl rfl) entry List.mem_cons_self apart seed state start) ?_
        rintro outcome after ⟨next, rfl, held⟩
        exact inductionHypothesis next distinct later held fun holds either other member =>
          others holds either other (List.mem_cons_of_mem _ member)

end Foundation
