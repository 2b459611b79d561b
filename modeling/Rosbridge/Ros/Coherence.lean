import Rosbridge.Ros.Changes

/-!
The tables of the pending parameter requests agree.

Owns: `Coherent`, which every change keeps: each pending call belongs to a group, each group
counts its pending calls, every client is destroyed or waits for an answer, and what is
asked for and told is on the list of parameters.
-/

set_option autoImplicit false

namespace Rosbridge.Ros

open Foundation

/-- The pending calls of a group. -/
def waitingCalls (a : Api) (id : Nat) : Multiset (Entity × Int) :=
  a.pending.total fun key p => if p.group = id then {key} else 0

/-- The number of pending calls of a group. -/
def waiting (a : Api) (id : Nat) : Nat := Multiset.card (waitingCalls a id)

section Waiting

variable {a : Api} {id : Nat} {key : Entity × Int} {p : Pending}

theorem mem_waitingCalls :
    key ∈ waitingCalls a id ↔ ∃ p, a.pending.lookup key = some p ∧ p.group = id := by
  rw [waitingCalls, AList.mem_total]
  constructor
  · rintro ⟨other, p, found, member⟩
    split at member
    · next owned =>
        rw [Multiset.mem_singleton.mp member]
        exact ⟨p, found, owned⟩
    · cases member
  · rintro ⟨p, found, owned⟩
    refine ⟨key, p, found, ?_⟩
    rw [if_pos owned]
    exact Multiset.mem_singleton_self key

theorem waiting_pos (found : a.pending.lookup key = some p) : 0 < waiting a p.group :=
  Multiset.card_pos_iff_exists_mem.mpr ⟨key, mem_waitingCalls.mpr ⟨p, found, rfl⟩⟩

theorem waiting_insert {groups : Table Nat Group} (fresh : a.pending.lookup key = none) :
    waiting { a with pending := a.pending.insert key p, groups } id =
      waiting a id + if p.group = id then 1 else 0 := by
  unfold waiting waitingCalls
  rw [AList.total_insert _ (AList.lookup_eq_none.mp fresh), Multiset.card_add, Nat.add_comm]
  split <;> rfl

theorem waiting_erase {groups : Table Nat Group} (found : a.pending.lookup key = some p) :
    waiting { a with pending := a.pending.erase key, groups } id =
      waiting a id - if p.group = id then 1 else 0 := by
  unfold waiting waitingCalls
  rw [AList.total_erase _ found, Multiset.card_add]
  split <;> simp

/-- The calls of one group can go without any other noticing. -/
theorem waiting_eraseAll {groups : Table Nat Group} {keys : List (Entity × Int)} {closed : Nat}
    (other : id ≠ closed)
    (all : ∀ key ∈ keys, ∃ p, a.pending.lookup key = some p ∧ p.group = closed) :
    waiting { a with groups, pending := a.pending.eraseAll keys } id = waiting a id := by
  unfold waiting waitingCalls
  rw [AList.total_eraseAll_zero]
  intro key member p found
  obtain ⟨q, same, owned⟩ := all key member
  cases same.symm.trans found
  exact if_neg fun named => other (named.symm.trans owned)

end Waiting

/-! ### Agreement -/

/-- The tables of the pending parameter requests agree. -/
structure Coherent (s : Native) : Prop where
  known : ∀ key p, s.api.pending.lookup key = some p → ∃ g,
    s.api.groups.lookup p.group = some g ∧
      (p.deleteCheck = true → ParameterNames s.api.config.params g.args)
  counted : ∀ id g, s.api.groups.lookup id = some g → g.remaining = waiting s.api id
  named : ∀ id g, s.api.groups.lookup id = some g →
    g.request = id ∧ s.api.operations.lookup g.service = some g.op ∧
      ∀ full ∈ g.names, Shows s.api.config.params full
  bounded : ∀ key p, s.api.pending.lookup key = some p → key.1 ≤ s.node.next
  clients : ∀ name typ entity, Act.client name typ (.ok entity) ∈ s.trace →
    .destroy entity ∈ s.trace ∨
      ∃ sequence p, s.api.pending.lookup (entity, sequence) = some p

/-- What the tables say about one group. -/
structure GroupAgrees (s : Native) (id : Nat) (g : Group) : Prop where
  counted : g.remaining = waiting s.api id
  request : g.request = id
  served : s.api.operations.lookup g.service = some g.op
  names : ∀ full ∈ g.names, Shows s.api.config.params full

section Coherent

variable {s after : Native}

theorem Coherent.group (coherent : Coherent s) {id : Nat} {g : Group}
    (found : s.api.groups.lookup id = some g) : GroupAgrees s id g :=
  ⟨coherent.counted id g found, (coherent.named id g found).1, (coherent.named id g found).2.1,
    (coherent.named id g found).2.2⟩

theorem Coherent.of_groups
    (groups : ∀ id g, s.api.groups.lookup id = some g → GroupAgrees s id g)
    (known : ∀ key p, s.api.pending.lookup key = some p → (∃ g,
      s.api.groups.lookup p.group = some g ∧
        (p.deleteCheck = true → ParameterNames s.api.config.params g.args)) ∧
      key.1 ≤ s.node.next)
    (clients : ∀ name typ entity, Act.client name typ (.ok entity) ∈ s.trace →
      .destroy entity ∈ s.trace ∨
        ∃ sequence p, s.api.pending.lookup (entity, sequence) = some p) : Coherent s where
  known key p found := (known key p found).1
  counted id g found := (groups id g found).counted
  named id g found := ⟨(groups id g found).request, (groups id g found).served,
    (groups id g found).names⟩
  bounded key p found := (known key p found).2
  clients := clients

/-- A call for which nothing waits yet has a new number. -/
theorem Coherent.fresh (coherent : Coherent s) (sequence : Int) :
    s.api.pending.lookup (s.node.next + 1, sequence) = none := by
  cases found : s.api.pending.lookup (s.node.next + 1, sequence) with
  | none => rfl
  | some p =>
      have := coherent.bounded _ p found
      simp at this

/-- The clients after more acts. -/
theorem Coherent.clients_append (coherent : Coherent s) {acts : Trace}
    {pending : Table (Entity × Int) Pending}
    (kept : ∀ entity sequence p, s.api.pending.lookup (entity, sequence) = some p →
      .destroy entity ∈ acts ∨ ∃ sequence p, pending.lookup (entity, sequence) = some p)
    (created : ∀ name typ entity, Act.client name typ (.ok entity) ∈ acts →
      .destroy entity ∈ acts ∨ ∃ sequence p, pending.lookup (entity, sequence) = some p) :
    ∀ name typ entity, Act.client name typ (.ok entity) ∈ s.trace ++ acts →
      .destroy entity ∈ s.trace ++ acts ∨
        ∃ sequence p, pending.lookup (entity, sequence) = some p := by
  intro name typ entity member
  have destroyed (late : .destroy entity ∈ acts ∨ ∃ sequence p,
      pending.lookup (entity, sequence) = some p) : .destroy entity ∈ s.trace ++ acts ∨
        ∃ sequence p, pending.lookup (entity, sequence) = some p :=
    late.imp_left (List.mem_append_right _)
  rcases List.mem_append.mp member with early | late
  · rcases coherent.clients name typ entity early with gone | ⟨sequence, p, found⟩
    · exact .inl (List.mem_append_left _ gone)
    · exact destroyed (kept entity sequence p found)
  · exact destroyed (created name typ entity late)

/-- Acts that create no client change nothing about the clients. -/
theorem Coherent.clients_same (coherent : Coherent s) {acts : Trace}
    (none : ∀ name typ entity, Act.client name typ (.ok entity) ∉ acts) :
    ∀ name typ entity, Act.client name typ (.ok entity) ∈ s.trace ++ acts →
      .destroy entity ∈ s.trace ++ acts ∨
        ∃ sequence p, s.api.pending.lookup (entity, sequence) = some p :=
  coherent.clients_append (fun _ sequence p found => .inr ⟨sequence, p, found⟩)
    fun name typ entity member => (none name typ entity member).elim

theorem client_not_idle {acts : Trace} (idle : ∀ act ∈ acts, act.isIdle = true) {name typ : String}
    {entity : Entity} : Act.client name typ (.ok entity) ∉ acts := by
  intro member
  have := idle _ member
  cases this

/-- A group that nothing is known about has no pending calls. -/
theorem Coherent.unknown (coherent : Coherent s) {id : Nat}
    (absent : s.api.groups.lookup id = none) : waiting s.api id = 0 := by
  rw [waiting, Multiset.card_eq_zero, Multiset.eq_zero_iff_forall_notMem]
  intro key member
  obtain ⟨p, found, rfl⟩ := mem_waitingCalls.mp member
  obtain ⟨g, known, -⟩ := coherent.known key p found
  cases absent.symm.trans known

theorem Coherent.opened (coherent : Coherent s) {id : Nat} {group : Group}
    (fresh : s.api.groups.lookup id = none) (named : group.request = id)
    (idle : group.remaining = 0) (bare : group.names = [])
    (served : s.api.operations.lookup group.service = some group.op) :
    Coherent { s with api := { s.api with groups := s.api.groups.insert id group } } := by
  refine .of_groups (fun other g found => ?_) (fun key p found => ?_) coherent.clients
  · change (s.api.groups.insert id group).lookup other = some g at found
    rw [AList.lookup_insert_if] at found
    split at found
    · next same =>
        cases found
        refine ⟨?_, named.trans same.symm, served, ?_⟩
        · rw [idle, same]
          exact (coherent.unknown fresh).symm
        · rw [bare]
          simp
    · have agrees := coherent.group found
      exact ⟨agrees.counted, agrees.request, agrees.served, agrees.names⟩
  · obtain ⟨g, known, checked⟩ := coherent.known key p found
    refine ⟨⟨g, ?_, checked⟩, coherent.bounded key p found⟩
    show (s.api.groups.insert id group).lookup p.group = some g
    rw [AList.lookup_insert_if, if_neg, known]
    rintro rfl
    cases fresh.symm.trans known

theorem Coherent.issued (coherent : Coherent s) {node : Node} {id : Nat} {group : Group}
    {name typ : String} {args : Json} {sequence : Int} {pending : Pending}
    (next : node.next = s.node.next + 1) (known : s.api.groups.lookup id = some group)
    (owned : pending.group = id)
    (checked : pending.deleteCheck = true → ParameterNames s.api.config.params group.args) :
    Coherent ⟨{ s.api with
        pending := s.api.pending.insert (s.node.next + 1, sequence) pending
        groups := s.api.groups.alter id fun g => { g with remaining := g.remaining + 1 } },
      node, s.trace ++ [.client name typ (.ok (s.node.next + 1)),
        .request (s.node.next + 1) args (.ok sequence)]⟩ := by
  have fresh := coherent.fresh sequence
  refine .of_groups (fun other g found => ?_) (fun key p found => ?_)
    (coherent.clients_append (fun entity number p found => .inr ⟨number, p, ?_⟩)
      fun name typ entity member => .inr ⟨sequence, pending, ?_⟩)
  · change (s.api.groups.alter id _).lookup other = some g at found
    rw [AList.lookup_alter] at found
    split at found
    · next same =>
        rw [known] at found
        cases found
        have agrees := coherent.group known
        refine ⟨?_, agrees.request.trans same.symm, agrees.served, agrees.names⟩
        rw [waiting_insert fresh, if_pos (owned.trans same.symm), same, ← agrees.counted]
    · next different =>
        have agrees := coherent.group found
        refine ⟨?_, agrees.request, agrees.served, agrees.names⟩
        rw [waiting_insert fresh, if_neg fun same => different (same.symm.trans owned),
          agrees.counted, Nat.add_zero]
  · change (s.api.pending.insert _ pending).lookup key = some p at found
    rw [AList.lookup_insert_if] at found
    show (∃ g, (s.api.groups.alter id _).lookup p.group = some g ∧ _) ∧ key.1 ≤ node.next
    rw [next]
    split at found
    · next same =>
        cases found
        rw [same]
        refine ⟨⟨{ group with remaining := group.remaining + 1 }, ?_, checked⟩, Nat.le_refl _⟩
        rw [AList.lookup_alter, if_pos owned, known]
        rfl
    · obtain ⟨g, there, deletes⟩ := coherent.known key p found
      refine ⟨?_, (coherent.bounded key p found).trans (Nat.le_succ _)⟩
      rw [AList.lookup_alter]
      split
      · next same =>
          rw [same, known] at there
          cases there
          rw [known]
          exact ⟨_, rfl, deletes⟩
      · exact ⟨g, there, deletes⟩
  · rw [AList.lookup_insert_ne]
    · exact found
    · intro same
      rw [same, fresh] at found
      cases found
  · rw [List.mem_cons, List.mem_singleton] at member
    rcases member with same | same
    · cases same
      exact AList.lookup_insert _
    · cases same

theorem Coherent.answered (coherent : Coherent s) {node : Node} {entity : Entity} {sequence : Int}
    {pending : Pending} (next : node.next = s.node.next)
    (found : s.api.pending.lookup (entity, sequence) = some pending) :
    Coherent ⟨{ s.api with
        pending := s.api.pending.erase (entity, sequence)
        groups := s.api.groups.alter pending.group fun g =>
          { g with remaining := g.remaining - 1 } },
      node, s.trace ++ [.destroy entity]⟩ := by
  refine .of_groups (fun other g known => ?_) (fun key p there => ?_)
    (coherent.clients_append (fun other number p there => ?_) fun name typ other member => ?_)
  · change (s.api.groups.alter pending.group _).lookup other = some g at known
    rw [AList.lookup_alter] at known
    split at known
    · next same =>
        obtain ⟨group, here, rfl⟩ := Option.map_eq_some_iff.mp known
        have agrees := coherent.group here
        refine ⟨?_, agrees.request.trans same.symm, agrees.served, agrees.names⟩
        rw [waiting_erase found, if_pos same.symm, same, ← agrees.counted]
    · next different =>
        have agrees := coherent.group known
        refine ⟨?_, agrees.request, agrees.served, agrees.names⟩
        rw [waiting_erase found, if_neg (Ne.symm different), agrees.counted, Nat.sub_zero]
  · change (s.api.pending.erase _).lookup key = some p at there
    rw [AList.lookup_erase_if] at there
    split at there
    · cases there
    · obtain ⟨g, known, deletes⟩ := coherent.known key p there
      refine ⟨?_, (coherent.bounded key p there).trans (Nat.le_of_eq next.symm)⟩
      show ∃ g, (s.api.groups.alter pending.group _).lookup p.group = some g ∧ _
      rw [AList.lookup_alter]
      split
      · next same =>
          rw [same] at known
          rw [known]
          exact ⟨_, rfl, deletes⟩
      · exact ⟨g, known, deletes⟩
  · by_cases same : other = entity
    · rw [same]
      exact .inl List.mem_cons_self
    · refine .inr ⟨number, p, ?_⟩
      rw [AList.lookup_erase_ne fun both => same (congrArg Prod.fst both)]
      exact there
  · rw [List.mem_singleton] at member
    cases member

theorem Coherent.listed (coherent : Coherent s) {id : Nat} {names : List String}
    (shown : ∀ full ∈ names, Shows s.api.config.params full) :
    Coherent { s with api := { s.api with groups := s.api.groups.alter id fun g =>
      { g with names := g.names ++ names } } } := by
  refine .of_groups (fun other g found => ?_) (fun key p found => ?_) coherent.clients
  · change (s.api.groups.alter id _).lookup other = some g at found
    rw [AList.lookup_alter] at found
    split at found
    · next same =>
        obtain ⟨group, here, rfl⟩ := Option.map_eq_some_iff.mp found
        rw [same]
        have agrees := coherent.group here
        exact ⟨agrees.counted, agrees.request, agrees.served,
          List.forall_mem_append.mpr ⟨agrees.names, shown⟩⟩
    · have agrees := coherent.group found
      exact ⟨agrees.counted, agrees.request, agrees.served, agrees.names⟩
  · obtain ⟨g, known, deletes⟩ := coherent.known key p found
    refine ⟨?_, coherent.bounded key p found⟩
    show ∃ g, (s.api.groups.alter id _).lookup p.group = some g ∧ _
    rw [AList.lookup_alter]
    split
    · next same =>
        rw [same] at known
        rw [known]
        exact ⟨_, rfl, deletes⟩
    · exact ⟨g, known, deletes⟩

theorem Coherent.closed (coherent : Coherent s) {node : Node} {id : Nat}
    {keys : List (Entity × Int)} {acts : Trace} (next : node.next = s.node.next)
    (all : ∀ key, key ∈ keys ↔ ∃ p, s.api.pending.lookup key = some p ∧ p.group = id)
    (gone : ∀ key ∈ keys, .destroy key.1 ∈ acts)
    (none : ∀ name typ entity, Act.client name typ (.ok entity) ∉ acts) :
    Coherent ⟨{ s.api with
        groups := s.api.groups.erase id
        pending := s.api.pending.eraseAll keys }, node, s.trace ++ acts⟩ := by
  refine .of_groups (fun other g found => ?_) (fun key p found => ?_)
    (coherent.clients_append (fun entity number p found => ?_) fun name typ entity member =>
      (none name typ entity member).elim)
  · change (s.api.groups.erase id).lookup other = some g at found
    rw [AList.lookup_erase_if] at found
    split at found
    · cases found
    · next different =>
        have agrees := coherent.group found
        refine ⟨?_, agrees.request, agrees.served, agrees.names⟩
        rw [waiting_eraseAll different fun key member => (all key).mp member, agrees.counted]
  · change (s.api.pending.eraseAll keys).lookup key = some p at found
    rw [AList.lookup_eraseAll] at found
    split at found
    · cases found
    · next kept =>
        obtain ⟨g, known, deletes⟩ := coherent.known key p found
        refine ⟨⟨g, ?_, deletes⟩, (coherent.bounded key p found).trans (Nat.le_of_eq next.symm)⟩
        show (s.api.groups.erase id).lookup p.group = some g
        rw [AList.lookup_erase_ne fun same => kept ((all key).mpr ⟨p, found, same⟩)]
        exact known
  · by_cases member : (entity, number) ∈ keys
    · exact .inl (gone _ member)
    · refine .inr ⟨number, p, ?_⟩
      rw [AList.lookup_eraseAll, if_neg member]
      exact found

/-- No change breaks the agreement. -/
theorem Alters.coherent {change : Change} (altered : Alters change s after)
    (coherent : Coherent s) : Coherent after := by
  have here := coherent.known
  cases altered with
  | watched idle next =>
      refine .of_groups (fun id g found => ?_) (fun key p found => ?_)
        (coherent.clients_same fun _ _ _ => client_not_idle idle)
      · have agrees := coherent.group found
        exact ⟨agrees.counted, agrees.request, agrees.served, agrees.names⟩
      · exact ⟨here key p found, (coherent.bounded key p found).trans next⟩
  | opened fresh named idle bare served => exact coherent.opened fresh named idle bare served
  | refused =>
      refine .of_groups (fun id g found => ?_) (fun key p found => ?_)
        (coherent.clients_same fun name typ entity member => ?_)
      · have agrees := coherent.group found
        exact ⟨agrees.counted, agrees.request, agrees.served, agrees.names⟩
      · exact ⟨here key p found, coherent.bounded key p found⟩
      · rw [List.mem_singleton] at member
        cases member
  | dropped next =>
      refine .of_groups (fun id g found => ?_) (fun key p found => ?_)
        (coherent.clients_append (fun _ sequence p found => .inr ⟨sequence, p, found⟩)
          fun name typ entity member => .inl ?_)
      · have agrees := coherent.group found
        exact ⟨agrees.counted, agrees.request, agrees.served, agrees.names⟩
      · refine ⟨here key p found, (coherent.bounded key p found).trans ?_⟩
        rw [next]
        exact Nat.le_succ _
      · simp only [List.mem_cons, List.not_mem_nil, or_false, Act.client.injEq, Except.ok.injEq,
          reduceCtorEq] at member
        rw [member.2.2]
        simp
  | issued next known owned checked => exact coherent.issued next known owned checked
  | answered next found known some => exact coherent.answered next found
  | listed shown => exact coherent.listed shown
  | closed next known distinct lists all =>
      rw [List.append_assoc]
      refine coherent.closed next all (fun key member => ?_) fun name typ entity member => ?_
      · refine List.mem_append_left _ (List.mem_cons_of_mem _ ?_)
        exact List.mem_map.mpr ⟨key, member, rfl⟩
      · simp at member
  | replied next served plain =>
      refine .of_groups (fun id g found => ?_) (fun key p found => ?_)
        (coherent.clients_same fun name typ entity member => ?_)
      · have agrees := coherent.group found
        exact ⟨agrees.counted, agrees.request, agrees.served, agrees.names⟩
      · exact ⟨here key p found, (coherent.bounded key p found).trans (Nat.le_of_eq next.symm)⟩
      · rw [List.mem_singleton] at member
        cases member

end Coherent

end Rosbridge.Ros
