import Mathlib.Data.List.Basic
import Mathlib.Logic.Function.Basic

/-!
Writers that share a sink behind a lock.

Owns: `Weave`, which says that the sink carries the jobs of all writers one after the other, each in
one piece and those of one writer in order, but for the job of the one that has the lock; a rule for
each step of a writer; and `Woven`, which is what is left of it when all writers are stopped.
-/

set_option autoImplicit false

namespace Foundation

variable {ι α : Type} [DecidableEq ι]

/-- The parcels of one writer, in order. -/
def parcelsOf (writer : ι) (parcels : List (ι × List α)) : List (List α) :=
  (parcels.filter fun parcel => parcel.1 = writer).map Prod.snd

theorem parcelsOf_snoc (writer : ι) (parcels : List (ι × List α)) (parcel : ι × List α) :
    parcelsOf writer (parcels ++ [parcel]) =
      parcelsOf writer parcels ++ if parcel.1 = writer then [parcel.2] else [] := by
  unfold parcelsOf
  rw [List.filter_append, List.map_append]
  by_cases own : parcel.1 = writer <;> simp [own]

/-- What the writer that has the lock sent so far. -/
def cut (jobs : ι → Option (List α × List α)) (holder : Option ι) : List α :=
  (holder.bind jobs).elim [] Prod.fst

/-- `asked` is the jobs of each writer, the current one included, of which `jobs` has what was sent
and what is left. -/
structure Weave (asked : ι → List (List α)) (jobs : ι → Option (List α × List α))
    (holder : Option ι) (sent : List α) : Prop where
  waiting : ∀ writer job, jobs writer = some job → holder ≠ some writer → job.1 = []
  holding : ∀ writer, holder = some writer → (jobs writer).isSome = true
  woven : ∃ parcels : List (ι × List α), sent = parcels.flatMap Prod.snd ++ cut jobs holder ∧
    ∀ writer, asked writer =
      parcelsOf writer parcels ++ (jobs writer).toList.map fun job => job.1 ++ job.2

/-- What was sent when all writers are stopped: whole jobs in order, and at most one more that is cut
short. -/
def Woven (asked : ι → List (List α)) (sent : List α) : Prop :=
  ∃ (parcels : List (ι × List α)) (torn : List α), sent = parcels.flatMap Prod.snd ++ torn ∧
    (∀ writer, ∃ left, asked writer = parcelsOf writer parcels ++ left ∧ left.length ≤ 1) ∧
    (torn = [] ∨ ∃ writer whole, asked writer = parcelsOf writer parcels ++ [whole] ∧
      torn <+: whole)

namespace Weave

variable {asked : ι → List (List α)} {jobs : ι → Option (List α × List α)} {holder : Option ι}
  {sent : List α} {writer : ι}

theorem nothing : Weave (fun _ : ι => []) (fun _ => none) none ([] : List α) :=
  ⟨by simp, by simp, [], rfl, fun _ => rfl⟩

/-- A writer that is idle does not have the lock. -/
theorem unheld (weave : Weave asked jobs holder sent) (idle : jobs writer = none) :
    holder ≠ some writer := by
  intro held
  have some := weave.holding writer held
  rw [idle] at some
  cases some

/-- A writer begins a job. -/
theorem start (weave : Weave asked jobs holder sent) (idle : jobs writer = none) (items : List α) :
    Weave (Function.update asked writer (asked writer ++ [items]))
      (Function.update jobs writer (some ([], items))) holder sent := by
  have unheld := weave.unheld idle
  obtain ⟨parcels, sent', all⟩ := weave.woven
  refine ⟨fun other job found held => ?_, fun other held => ?_, parcels, ?_, fun other => ?_⟩
  · by_cases own : other = writer
    · subst own
      rw [Function.update_self] at found
      cases found
      rfl
    · rw [Function.update_of_ne own] at found
      exact weave.waiting other job found held
  · by_cases own : other = writer
    · exact absurd (own ▸ held) unheld
    · rw [Function.update_of_ne own]
      exact weave.holding other held
  · rw [sent']
    cases holder with
    | none => rfl
    | some other =>
        have apart : other ≠ writer := fun own => unheld (congrArg some own)
        simp [cut, Function.update_of_ne apart]
  · by_cases own : other = writer
    · subst own
      rw [Function.update_self, Function.update_self, all, idle]
      simp
    · rw [Function.update_of_ne own, Function.update_of_ne own]
      exact all other

/-- A writer takes the lock. -/
theorem lock (weave : Weave asked jobs none sent) (busy : (jobs writer).isSome = true) :
    Weave asked jobs (some writer) sent := by
  obtain ⟨job, found⟩ := Option.isSome_iff_exists.mp busy
  obtain ⟨parcels, sent', all⟩ := weave.woven
  have unsent : job.1 = [] := weave.waiting writer job found nofun
  refine ⟨fun other job found _ => weave.waiting other job found nofun, fun other held => ?_,
    parcels, ?_, all⟩
  · cases held
    exact busy
  · rw [sent']
    simp [cut, found, unsent]

/-- The writer that has the lock sends its next item. -/
theorem feed {done rest : List α} {item : α} (weave : Weave asked jobs (some writer) sent)
    (found : jobs writer = some (done, item :: rest)) :
    Weave asked (Function.update jobs writer (some (done ++ [item], rest))) (some writer)
      (sent ++ [item]) := by
  obtain ⟨parcels, sent', all⟩ := weave.woven
  refine ⟨fun other job there held => ?_, fun other held => ?_, parcels, ?_, fun other => ?_⟩
  · have apart : other ≠ writer := fun own => held (congrArg some own.symm)
    rw [Function.update_of_ne apart] at there
    exact weave.waiting other job there held
  · cases held
    rw [Function.update_self]
    rfl
  · rw [sent']
    simp [cut, found]
  · by_cases own : other = writer
    · subst own
      rw [Function.update_self, all, found]
      simp
    · rw [Function.update_of_ne own]
      exact all other

/-- The writer that has the lock is done. -/
theorem flush {done : List α} (weave : Weave asked jobs (some writer) sent)
    (found : jobs writer = some (done, [])) :
    Weave asked (Function.update jobs writer none) none sent := by
  obtain ⟨parcels, sent', all⟩ := weave.woven
  refine ⟨fun other job there _ => ?_, by simp, parcels ++ [(writer, done)], ?_, fun other => ?_⟩
  · by_cases own : other = writer
    · subst own
      rw [Function.update_self] at there
      cases there
    · rw [Function.update_of_ne own] at there
      exact weave.waiting other job there fun same => own (Option.some.inj same).symm
  · rw [sent']
    simp [cut, found]
  · rw [parcelsOf_snoc]
    by_cases own : other = writer
    · subst own
      rw [Function.update_self, all, found]
      simp
    · rw [Function.update_of_ne own, all, if_neg fun same => own same.symm, List.append_nil]

/-- All writers are stopped. -/
theorem stop (weave : Weave asked jobs holder sent) : Woven asked sent := by
  obtain ⟨parcels, sent', all⟩ := weave.woven
  refine ⟨parcels, cut jobs holder, sent', fun writer => ⟨_, all writer, ?_⟩, ?_⟩
  · cases jobs writer <;> simp
  · cases held : holder with
    | none => exact .inl rfl
    | some writer =>
        obtain ⟨job, found⟩ := Option.isSome_iff_exists.mp (weave.holding writer held)
        refine .inr ⟨writer, job.1 ++ job.2, ?_, ?_⟩
        · rw [all, found]
          rfl
        · simp [cut, found]

end Weave

/-- Everything that was sent is of a job. -/
theorem Woven.asked_of_mem {asked : ι → List (List α)} {sent : List α} (woven : Woven asked sent)
    {item : α} (member : item ∈ sent) : ∃ writer, ∃ items ∈ asked writer, item ∈ items := by
  obtain ⟨parcels, torn, rfl, all, last⟩ := woven
  rcases List.mem_append.mp member with whole | torn
  · obtain ⟨parcel, inside, here⟩ := List.mem_flatMap.mp whole
    obtain ⟨left, asks, -⟩ := all parcel.1
    refine ⟨parcel.1, parcel.2, ?_, here⟩
    rw [asks]
    refine List.mem_append_left _ (List.mem_map.mpr ⟨parcel, List.mem_filter.mpr ⟨inside, ?_⟩, rfl⟩)
    exact decide_eq_true rfl
  · rcases last with rfl | ⟨writer, whole, asks, first⟩
    · cases torn
    · refine ⟨writer, whole, ?_, first.subset torn⟩
      rw [asks]
      exact List.mem_append_right _ (List.mem_singleton_self whole)

end Foundation
