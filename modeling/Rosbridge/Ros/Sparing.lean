import Rosbridge.Foundation.Frame
import Rosbridge.Ros.Polling

/-!
What rosapi leaves to its neighbours.

Owns: `Foreign`, the entities of the node that are none of rosapi's; `Spares`, that their handles
and their open requests stay, and that every other handle that is new belongs to a client of rosapi;
and that whatever rosapi does, and however it ends, is one such step.
-/

set_option autoImplicit false

namespace Rosbridge.Ros

open Foundation Program

variable {env : Middleware} {s t : Native} {α : Type}

/-! ### Neighbours -/

/-- The entity exists, and is none of rosapi's. -/
structure Foreign (s : Native) (entity : Entity) : Prop where
  given : entity ≤ s.node.next
  unserved : s.api.operations.lookup entity = none
  unasked : ∀ key p, s.api.pending.lookup key = some p → key.1 ≠ entity
  ungrouped : ∀ id g, s.api.groups.lookup id = some g → g.service ≠ entity

/-- The entities of rosapi have numbers that were given out, and those it destroyed are gone. -/
structure Clear (s : Native) : Prop where
  served : ∀ entity op, s.api.operations.lookup entity = some op → entity ≤ s.node.next
  asked : ∀ key p, s.api.pending.lookup key = some p → key.1 ≤ s.node.next
  destroyed : ∀ entity, .destroy entity ∈ s.trace →
    entity ≤ s.node.next ∧ s.node.handles.lookup entity = none

/-- A client that rosapi created. -/
def Native.Asked (s : Native) (entity : Entity) (h : Handle) : Prop :=
  h.role = .client ∧ ∃ name typ, .client name typ (.ok entity) ∈ s.trace

/-- From one state to the other, rosapi spares its neighbours. -/
structure Spares (s after : Native) : Prop where
  grown : s.trace <+: after.trace
  next : s.node.next ≤ after.node.next
  clock : after.node.clockSubscription = s.node.clockSubscription
  operations : after.api.operations = s.api.operations
  clear : Clear s → Clear after
  foreign : ∀ entity, Foreign s entity → Foreign after entity
  handles : ∀ entity, Foreign s entity →
    after.node.handles.lookup entity = s.node.handles.lookup entity
  requests : ∀ entity id, Foreign s entity → (entity, id) ∈ s.node.requests →
    (entity, id) ∈ after.node.requests
  origin : ∀ entity h, after.node.handles.lookup entity = some h →
    s.node.handles.lookup entity = some h ∨ after.Asked entity h

theorem Native.Asked.grow {entity : Entity} {h : Handle} (asked : s.Asked entity h)
    (grown : s.trace <+: t.trace) : t.Asked entity h := by
  obtain ⟨role, name, typ, member⟩ := asked
  exact ⟨role, name, typ, grown.subset member⟩

namespace Spares

theorem refl (s : Native) : Spares s s where
  grown := List.prefix_rfl
  next := Nat.le_refl _
  clock := rfl
  operations := rfl
  clear holds := holds
  foreign _ holds := holds
  handles _ _ := rfl
  requests _ _ _ member := member
  origin _ _ found := .inl found

theorem trans {after : Native} (first : Spares s t) (rest : Spares t after) : Spares s after where
  grown := first.grown.trans rest.grown
  next := first.next.trans rest.next
  clock := rest.clock.trans first.clock
  operations := rest.operations.trans first.operations
  clear holds := rest.clear (first.clear holds)
  foreign entity holds := rest.foreign entity (first.foreign entity holds)
  handles entity holds :=
    (rest.handles entity (first.foreign entity holds)).trans (first.handles entity holds)
  requests entity id holds member :=
    rest.requests entity id (first.foreign entity holds) (first.requests entity id holds member)
  origin entity h found := by
    rcases rest.origin entity h found with earlier | asked
    · rcases first.origin entity h earlier with there | asked
      · exact .inl there
      · exact .inr (asked.grow rest.grown)
    · exact .inr asked

instance : Std.Refl Spares := ⟨refl⟩

instance : IsTrans Native Spares := ⟨fun _ _ _ => trans⟩

/-! ### Steps -/

/-- An act that destroys nothing. -/
theorem noting (spares : Spares s t) {acts : Trace}
    (keeps : ∀ entity, .destroy entity ∉ acts) : Spares s { t with trace := t.trace ++ acts } where
  grown := spares.grown.trans (List.prefix_append _ _)
  next := spares.next
  clock := spares.clock
  operations := spares.operations
  clear holds := by
    have clear := spares.clear holds
    refine ⟨clear.served, clear.asked, fun entity member => clear.destroyed entity ?_⟩
    exact (List.mem_append.mp member).resolve_right (keeps entity)
  foreign entity holds :=
    ⟨(spares.foreign entity holds).given, (spares.foreign entity holds).unserved,
      (spares.foreign entity holds).unasked, (spares.foreign entity holds).ungrouped⟩
  handles := spares.handles
  requests := spares.requests
  origin entity h found := by
    rcases spares.origin entity h found with earlier | asked
    · exact .inl earlier
    · exact .inr (asked.grow (List.prefix_append _ _))

/-- A look changes at most the definitions. -/
theorem looked (spares : Spares s t) {definitions : Definitions} {acts : Trace}
    (idle : ∀ act ∈ acts, act.isIdle = true) :
    Spares s ⟨{ t.api with definitions }, t.node, t.trace ++ acts⟩ := by
  have noted : Spares s { t with trace := t.trace ++ acts } := by
    apply spares.noting
    intro entity member
    cases idle _ member
  exact ⟨noted.grown, noted.next, noted.clock, noted.operations,
    fun holds => ⟨(noted.clear holds).served, (noted.clear holds).asked, (noted.clear holds).destroyed⟩,
    fun entity holds => ⟨(noted.foreign entity holds).given, (noted.foreign entity holds).unserved,
      (noted.foreign entity holds).unasked, (noted.foreign entity holds).ungrouped⟩,
    noted.handles, noted.requests, noted.origin⟩

/-- The tables of rosapi change, and name no new neighbour. -/
theorem tabled (spares : Spares s t) (a : Api) (operations : a.operations = t.api.operations)
    (pending : ∀ key p, a.pending.lookup key = some p →
      (∃ p, t.api.pending.lookup key = some p) ∨
        key.1 ≤ t.node.next ∧ ∀ entity, Foreign s entity → key.1 ≠ entity)
    (groups : ∀ id g, a.groups.lookup id = some g →
      (∃ id g', t.api.groups.lookup id = some g' ∧ g'.service = g.service) ∨
        ∀ entity, Foreign s entity → g.service ≠ entity) : Spares s { t with api := a } where
  grown := spares.grown
  next := spares.next
  clock := spares.clock
  operations := operations.trans spares.operations
  clear holds := by
    have clear := spares.clear holds
    refine ⟨fun entity op found => ?_, fun key p found => ?_, clear.destroyed⟩
    · rw [operations] at found
      exact clear.served entity op found
    · rcases pending key p found with ⟨p, earlier⟩ | ⟨given, -⟩
      · exact clear.asked key p earlier
      · exact given
  foreign entity holds := by
    have foreign := spares.foreign entity holds
    refine ⟨foreign.given, by rw [operations]; exact foreign.unserved, fun key p found => ?_,
      fun id g found => ?_⟩
    · rcases pending key p found with ⟨p, earlier⟩ | ⟨-, other⟩
      · exact foreign.unasked key p earlier
      · exact other entity holds
    · rcases groups id g found with ⟨id, g', earlier, same⟩ | other
      · rw [← same]
        exact foreign.ungrouped id g' earlier
      · exact other entity holds
  handles := spares.handles
  requests := spares.requests
  origin := spares.origin

/-- A client is created, under a new number. -/
theorem created (spares : Spares s t) (name typ : String) :
    Spares s ({ t with node := t.node.with ⟨.client, name, typ⟩ }.noting
      (.client name typ (.ok (t.node.next + 1)))) := by
  have other {entity : Entity} (given : entity ≤ t.node.next) :
      (t.node.with ⟨.client, name, typ⟩).handles.lookup entity = t.node.handles.lookup entity :=
    AList.lookup_insert_ne (Nat.ne_of_lt (Nat.lt_succ_of_le given))
  have more : t.node.next ≤ t.node.next + 1 := Nat.le_succ _
  refine ⟨spares.grown.trans (List.prefix_append _ _), spares.next.trans more, spares.clock,
    spares.operations, fun holds => ?_, fun entity holds => ?_, fun entity holds => ?_,
    spares.requests, fun entity h found => ?_⟩
  · have clear := spares.clear holds
    refine ⟨fun entity op found => (clear.served entity op found).trans more,
      fun key p found => (clear.asked key p found).trans more, fun entity member => ?_⟩
    rcases List.mem_append.mp member with old | new
    · obtain ⟨given, gone⟩ := clear.destroyed entity old
      exact ⟨given.trans more, (other given).trans gone⟩
    · cases List.mem_singleton.mp new
  · have foreign := spares.foreign entity holds
    exact ⟨foreign.given.trans more, foreign.unserved, foreign.unasked, foreign.ungrouped⟩
  · exact (other (spares.foreign entity holds).given).trans (spares.handles entity holds)
  · change (t.node.handles.insert _ _).lookup entity = some h at found
    rw [AList.lookup_insert_if] at found
    split at found
    · next same =>
        cases found
        rw [same]
        exact .inr ⟨rfl, name, typ, List.mem_append_right _ (List.mem_singleton_self _)⟩
    · rcases spares.origin entity h found with earlier | asked
      · exact .inl earlier
      · exact .inr (asked.grow (List.prefix_append _ _))

/-- Entities of rosapi's own are destroyed. -/
theorem destroyed (spares : Spares s t) (node : Node) (entities : List Entity)
    (next : node.next = t.node.next) (clock : node.clockSubscription = t.node.clockSubscription)
    (gone : ∀ entity ∈ entities, node.handles.lookup entity = none)
    (kept : ∀ entity h, node.handles.lookup entity = some h →
      t.node.handles.lookup entity = some h)
    (handles : ∀ entity, entity ∉ entities →
      node.handles.lookup entity = t.node.handles.lookup entity)
    (requests : ∀ entity id, entity ∉ entities → (entity, id) ∈ t.node.requests →
      (entity, id) ∈ node.requests)
    (given : Clear s → ∀ entity ∈ entities, entity ≤ t.node.next)
    (own : ∀ entity, Foreign s entity → entity ∉ entities) :
    Spares s ⟨t.api, node, t.trace ++ entities.map .destroy⟩ := by
  refine ⟨spares.grown.trans (List.prefix_append _ _), spares.next.trans (Nat.le_of_eq next.symm),
    clock.trans spares.clock, spares.operations, fun holds => ?_, fun entity holds => ?_,
    fun entity holds => ?_, fun entity id holds member => ?_, fun entity h found => ?_⟩
  · have clear := spares.clear holds
    refine ⟨fun entity op found => ?_, fun key p found => ?_, fun entity member => ?_⟩
    · rw [next]
      exact clear.served entity op found
    · rw [next]
      exact clear.asked key p found
    · rw [next]
      rcases List.mem_append.mp member with old | new
      · obtain ⟨bound, absent⟩ := clear.destroyed entity old
        refine ⟨bound, Option.eq_none_iff_forall_ne_some.mpr fun h found => ?_⟩
        cases absent.symm.trans (kept entity h found)
      · obtain ⟨other, listed, same⟩ := List.mem_map.mp new
        cases same
        exact ⟨given holds entity listed, gone entity listed⟩
  · have foreign := spares.foreign entity holds
    refine ⟨?_, foreign.unserved, foreign.unasked, foreign.ungrouped⟩
    rw [next]
    exact foreign.given
  · exact (handles entity (own entity holds)).trans (spares.handles entity holds)
  · exact requests entity id (own entity holds) (spares.requests entity id holds member)
  · rcases spares.origin entity h (kept entity h found) with earlier | asked
    · exact .inl earlier
    · exact .inr (asked.grow (List.prefix_append _ _))

/-- One entity of rosapi's own is destroyed. -/
theorem without (spares : Spares s t) {entity : Entity}
    (given : Clear s → entity ≤ t.node.next) (own : ∀ other, Foreign s other → other ≠ entity) :
    Spares s ({ t with node := t.node.without entity }.noting (.destroy entity)) := by
  apply spares.destroyed (t.node.without entity) [entity] rfl rfl
  · intro other member
    rw [List.mem_singleton.mp member]
    exact AList.lookup_erase _ _
  · intro other h found
    change (t.node.handles.erase entity).lookup other = some h at found
    rw [AList.lookup_erase_if] at found
    split at found
    · cases found
    · exact found
  · intro other apart
    exact AList.lookup_erase_ne fun same => apart (List.mem_singleton.mpr same)
  · intro other id apart member
    exact Finset.mem_filter.mpr ⟨member, fun same => apart (List.mem_singleton.mpr same)⟩
  · intro holds other member
    rw [List.mem_singleton.mp member]
    exact given holds
  · intro other holds member
    exact own other holds (List.mem_singleton.mp member)

/-- Requests of rosapi's own are answered or forgotten. -/
theorem awaiting (spares : Spares s t) {requests : Finset (Entity × Nat)} (acts : Trace)
    (keeps : ∀ entity, .destroy entity ∉ acts)
    (kept : ∀ entity id, Foreign s entity → (entity, id) ∈ t.node.requests →
      (entity, id) ∈ requests) :
    Spares s { t.awaiting requests with trace := t.trace ++ acts } := by
  have fewer : Spares s (t.awaiting requests) := ⟨spares.grown, spares.next, spares.clock,
    spares.operations,
    fun holds => ⟨(spares.clear holds).served, (spares.clear holds).asked,
      (spares.clear holds).destroyed⟩,
    fun entity holds => ⟨(spares.foreign entity holds).given, (spares.foreign entity holds).unserved,
      (spares.foreign entity holds).unasked, (spares.foreign entity holds).ungrouped⟩,
    spares.handles,
    fun entity id holds member => kept entity id holds (spares.requests entity id holds member),
    spares.origin⟩
  exact fewer.noting keeps

end Spares

/-! ### Calls -/

theorem Looks.spares {passes : α → Prop} {program : Action α} (looks : Looks program passes s) :
    Spares s (program s).2 := by
  obtain ⟨reply, acts, definitions, ran, idle, -⟩ := looks
  rw [ran]
  exact (Spares.refl s).looked idle

theorem Watches.spares {program : Action α} (watches : Watches program) :
    Within Spares program := fun s => (watches s).spares

/-- Only a role is looked up. -/
theorem handle_run (role : Role) (missing : String) (entity : Entity) (s : Native) :
    ∃ reply, handle role missing entity s = (answered reply, s) ∧
      ∀ h, reply = .ok h → s.node.handles.lookup entity = some h ∧ h.role = role := by
  unfold handle
  rw [bind_ok (show node s = (.ok s.node, s) from rfl)]
  cases found : s.node.handles.lookup entity with
  | none => exact ⟨.error ⟨missing⟩, rfl, fun h same => by cases same⟩
  | some h =>
      dsimp only
      by_cases same : h.role = role
      · rw [if_pos same]
        refine ⟨.ok h, rfl, fun other ok => ?_⟩
        cases ok
        exact ⟨rfl, same⟩
      · rw [if_neg same]
        exact ⟨.error ⟨missing⟩, rfl, fun h same => by cases same⟩

/-- A request changes nothing but the history. -/
theorem request_run (env : Middleware) (entity : Entity) (args : Json) (s : Native) : ∃ reply,
    request env entity args s = (answered reply, s.noting (.request entity args reply)) := by
  obtain ⟨held, ran, -⟩ := handle_run .client "service client no longer exists" entity s
  suffices body : ∃ reply, (do
      let typ := (← handle .client "service client no longer exists" entity).typ
      Program.ofExcept (env.fill (typ ++ "_Request") args)
      Program.ofExcept (← consult fun trace => env.sendRequest trace entity args) : Action Int) s =
        (answered reply, s) by
    obtain ⟨reply, body⟩ := body
    exact ⟨reply, recorded_of body⟩
  cases held with
  | error cause => exact ⟨.error cause, bind_error ran⟩
  | ok h =>
      rw [bind_ok ran]
      cases env.fill (h.typ ++ "_Request") args with
      | error cause => exact ⟨.error cause, rfl⟩
      | ok _ =>
          refine ⟨env.sendRequest s.trace entity args, ?_⟩
          show Program.ofExcept (env.sendRequest s.trace entity args) s = _
          cases env.sendRequest s.trace entity args <;> rfl

/-- A response closes at most its own request. -/
theorem respond_run (env : Middleware) (entity : Entity) (id : Nat) (value : Json) (s : Native) :
    ∃ reply requests, respond env entity id value s =
        (answered reply, (s.awaiting requests).noting (.respond entity id value reply)) ∧
      ((∃ cause, reply = .error cause) ∧ requests = s.node.requests ∨
        reply = .ok () ∧ requests = s.node.requests.erase (entity, id)) := by
  obtain ⟨held, ran, -⟩ := handle_run .service "service no longer exists" entity s
  suffices body : ∃ reply requests, (do
      let typ := (← handle .service "service no longer exists" entity).typ
      Program.ofExcept (env.fill (typ ++ "_Response") value)
      Program.ensure ((entity, id) ∈ (← node).requests) ⟨"unknown request"⟩
      Program.ofExcept (← consult fun trace => env.sendResponse trace entity id value)
      changeNode fun n => { n with requests := n.requests.erase (entity, id) } : Action Unit) s =
        (answered reply, s.awaiting requests) ∧
          ((∃ cause, reply = .error cause) ∧ requests = s.node.requests ∨
            reply = .ok () ∧ requests = s.node.requests.erase (entity, id)) by
    obtain ⟨reply, requests, body, kept⟩ := body
    exact ⟨reply, requests, recorded_of body, kept⟩
  have fails (cause : Error) : ∃ reply requests, ((.error cause, s) : Outcome Error Unit × Native) =
      (answered reply, s.awaiting requests) ∧
        ((∃ cause, reply = .error cause) ∧ requests = s.node.requests ∨
          reply = .ok () ∧ requests = s.node.requests.erase (entity, id)) :=
    ⟨.error cause, s.node.requests, rfl, .inl ⟨⟨cause, rfl⟩, rfl⟩⟩
  cases held with
  | error cause =>
      rw [bind_error ran]
      exact fails cause
  | ok h =>
      rw [bind_ok ran]
      cases env.fill (h.typ ++ "_Response") value with
      | error cause => exact fails cause
      | ok _ =>
          rw [bind_ok (show Program.ofExcept (.ok ()) s = (.ok (), s) from rfl),
            bind_ok (show node s = (.ok s.node, s) from rfl)]
          by_cases known : (entity, id) ∈ s.node.requests
          · rw [bind_ok (show Program.ensure (decide _) _ s = (.ok (), s) by
              rw [decide_eq_true known]; rfl)]
            rw [bind_ok (show consult _ s = (.ok (env.sendResponse s.trace entity id value), s)
              from rfl)]
            cases env.sendResponse s.trace entity id value with
            | error cause => exact fails cause
            | ok _ => exact ⟨.ok (), _, rfl, .inr ⟨rfl, rfl⟩⟩
          · rw [bind_error (show Program.ensure (decide _) _ s = (.error _, s) by
              rw [decide_eq_false known]; rfl)]
            exact fails _

/-- A response to a request of rosapi's own. -/
theorem Spares.answered (spares : Spares s t) {entity : Entity}
    (own : ∀ other, Foreign s other → other ≠ entity) (id : Nat) (value : Json) :
    Spares s (respond env entity id value t).2 := by
  obtain ⟨reply, requests, ran, kept⟩ := respond_run env entity id value t
  rw [ran]
  refine spares.awaiting [.respond entity id value reply] (by simp)
    fun other number holds member => ?_
  rcases kept with ⟨-, rfl⟩ | ⟨-, rfl⟩
  · exact member
  · exact Finset.mem_erase.mpr ⟨fun same => own other holds (congrArg Prod.fst same), member⟩

/-- A request that is forgotten. -/
theorem Spares.discarded (spares : Spares s t) {entity : Entity}
    (own : ∀ other, Foreign s other → other ≠ entity) (id : Nat) :
    Spares s (discardRequest entity id t).2 := by
  refine spares.awaiting [.discardRequest entity id] (by simp) fun other number holds member => ?_
  exact Finset.mem_erase.mpr ⟨fun same => own other holds (congrArg Prod.fst same), member⟩

/-! ### Parameter requests -/

theorem withoutAll_next (keys : List (Entity × Int)) (n : Node) :
    (n.withoutAll keys).next = n.next ∧ (n.withoutAll keys).clockSubscription = n.clockSubscription := by
  induction keys generalizing n with
  | nil => exact ⟨rfl, rfl⟩
  | cons key rest inductionHypothesis => exact inductionHypothesis _

theorem withoutAll_handles (keys : List (Entity × Int)) (n : Node) (entity : Entity) :
    (n.withoutAll keys).handles.lookup entity =
      if entity ∈ keys.map Prod.fst then none else n.handles.lookup entity := by
  induction keys generalizing n with
  | nil => rfl
  | cons key rest inductionHypothesis =>
      refine (inductionHypothesis _).trans ?_
      change (if _ then _ else (n.handles.erase key.1).lookup entity) = _
      rw [AList.lookup_erase_if]
      have either : entity ∈ (key :: rest).map Prod.fst ↔
          entity = key.1 ∨ entity ∈ rest.map Prod.fst := List.mem_cons
      by_cases here : entity ∈ rest.map Prod.fst
      · rw [if_pos here, if_pos (either.mpr (.inr here))]
      · rw [if_neg here]
        exact if_congr (either.trans (or_iff_left here)).symm rfl rfl

theorem withoutAll_requests (keys : List (Entity × Int)) (n : Node) {entity : Entity} {id : Nat}
    (apart : entity ∉ keys.map Prod.fst) (member : (entity, id) ∈ n.requests) :
    (entity, id) ∈ (n.withoutAll keys).requests := by
  induction keys generalizing n with
  | nil => exact member
  | cons key rest inductionHypothesis =>
      rw [List.map_cons, List.mem_cons, not_or] at apart
      exact inductionHypothesis _ apart.2 (Finset.mem_filter.mpr ⟨member, apart.1⟩)

/-- A parameter request is finished: its calls are dropped, and its reply is sent. -/
theorem finish_spares (id : Nat) (value : Option Json) (error : Option String) :
    Within Spares (finish env id value error) := by
  intro s
  cases known : s.api.groups.lookup id with
  | none =>
      have ran : finish env id value error s = (.error ⟨"missing parameter request"⟩, s) := by
        refine (bind_ok (show api s = (.ok s.api, s) from rfl)).trans ?_
        rw [known]
        rfl
      rw [ran]
      exact .refl s
  | some group =>
      have ran : finish env id value error s =
          respond env group.service group.request (groupResponse env group value error)
            (s.forgetting env id) := by
        rw [finish_known env known, closeGroup, bind_ok (show changeApi _ s = _ from rfl),
          bind_ok (show api _ = _ from rfl), bind_ok (show visit env _ _ = _ from rfl),
          bind_ok (forget_exact _ _)]
        rfl
      rw [ran]
      refine Spares.answered ?_ (fun entity holds => (holds.ungrouped id group known).symm) _ _
      have own : ∀ key ∈ (groupCalls (env.order s.trace) s.api id).map Prod.fst,
          ∃ p, s.api.pending.lookup key = some p := by
        intro key member
        obtain ⟨call, listed, rfl⟩ := List.mem_map.mp member
        exact ⟨call.2, (mem_groupCalls.mp listed).1⟩
      unfold Native.forgetting
      dsimp only
      generalize (groupCalls (env.order s.trace) s.api id).map Prod.fst = keys at own
      have visited : Spares s { s with trace := s.trace ++ [.order (env.order s.trace)] } :=
        (Spares.refl s).noting (by simp)
      have closed : Spares s ⟨{ s.api with
          groups := s.api.groups.erase id, pending := s.api.pending.eraseAll keys },
          s.node, s.trace ++ [.order (env.order s.trace)]⟩ := by
        apply visited.tabled { s.api with
          groups := s.api.groups.erase id, pending := s.api.pending.eraseAll keys } rfl
        · intro key p found
          rw [AList.lookup_eraseAll] at found
          split at found
          · cases found
          · exact .inl ⟨p, found⟩
        · intro other g found
          rw [AList.lookup_erase_if] at found
          split at found
          · cases found
          · exact .inl ⟨other, g, found, rfl⟩
      have entities : ∀ entity ∈ keys.map Prod.fst, ∃ key p, s.api.pending.lookup key = some p ∧
          key.1 = entity := by
        intro entity member
        obtain ⟨key, listed, rfl⟩ := List.mem_map.mp member
        obtain ⟨p, found⟩ := own key listed
        exact ⟨key, p, found, rfl⟩
      rw [show (keys.map fun key => Act.destroy key.1) = (keys.map Prod.fst).map .destroy by
        rw [List.map_map]; rfl]
      have held := withoutAll_handles keys s.node
      apply closed.destroyed (s.node.withoutAll keys) (keys.map Prod.fst)
        (withoutAll_next keys s.node).1 (withoutAll_next keys s.node).2
      · intro entity member
        rw [held, if_pos member]
      · intro entity h found
        rw [held] at found
        split at found
        · cases found
        · exact found
      · intro entity apart
        rw [held, if_neg apart]
      · exact fun entity number apart member => withoutAll_requests keys s.node apart member
      · intro holds entity member
        obtain ⟨key, p, found, rfl⟩ := entities entity member
        exact holds.asked key p found
      · intro entity holds member
        obtain ⟨key, p, found, same⟩ := entities entity member
        exact holds.unasked key p found same

/-- A client is created for one request, and is gone again if the request is refused. -/
theorem requestOn_spares (env : Middleware) (service typ : String) (payload : Json) (s : Native) :
    (∃ cause after, requestOn env service typ payload s = (.error cause, after) ∧
        Spares s after) ∨
      ∃ reply after, requestOn env service typ payload s = (.ok (s.node.next + 1, reply), after) ∧
        Spares s after ∧ s.node.next + 1 ≤ after.node.next := by
  unfold requestOn
  rcases client_spec env (s := s) service typ with ⟨-, created⟩ | ⟨cause, -, refused⟩
  · obtain ⟨reply, asked⟩ := request_run env (s.node.next + 1) payload (s.having service typ)
    have created : client env service typ s = (.ok (s.node.next + 1), s.having service typ) := created
    rw [bind_ok created]
    have having : Spares s (s.having service typ) := (Spares.refl s).created service typ
    have noted : Spares s ((s.having service typ).noting
        (.request (s.node.next + 1) payload reply)) := having.noting (by simp)
    rw [bind_ok (attempt_of asked)]
    cases reply with
    | ok sequence => exact .inr ⟨_, _, rfl, noted, Nat.le_refl _⟩
    | error cause =>
        refine .inr ⟨_, _, rfl, noted.without (fun _ => Nat.le_refl _) ?_, Nat.le_refl _⟩
        exact fun other holds => Nat.ne_of_lt (Nat.lt_succ_of_le holds.given)
  · rw [bind_error refused]
    exact .inl ⟨cause, _, rfl, (Spares.refl s).noting (by simp)⟩

/-- A call waits on a client that is new. -/
theorem Spares.waits (spares : Spares s t) {sequence : Int} {p : Pending} {groups : Table Nat Group}
    (created : s.node.next + 1 ≤ t.node.next)
    (services : ∀ id g, groups.lookup id = some g →
      ∃ id g', t.api.groups.lookup id = some g' ∧ g'.service = g.service) :
    Spares s { t with api := { t.api with
      pending := t.api.pending.insert (s.node.next + 1, sequence) p, groups } } := by
  apply spares.tabled { t.api with
    pending := t.api.pending.insert (s.node.next + 1, sequence) p, groups } rfl
  · intro key other found
    rw [AList.lookup_insert_if] at found
    split at found
    · next here =>
        rw [here]
        refine .inr ⟨created, fun entity holds => ?_⟩
        exact Nat.ne_of_gt (Nat.lt_succ_of_le holds.given)
    · exact .inl ⟨other, found⟩
  · exact fun id g found => .inl (services id g found)

/-- Groups that are altered keep their services. -/
theorem services_alter (groups : Table Nat Group) (id : Nat) {change : Group → Group}
    (keeps : ∀ g, (change g).service = g.service) (other : Nat) (g : Group)
    (found : (groups.alter id change).lookup other = some g) :
    ∃ id g', groups.lookup id = some g' ∧ g'.service = g.service := by
  rw [AList.lookup_alter] at found
  split at found
  · next same =>
      obtain ⟨old, present, rfl⟩ := Option.map_eq_some_iff.mp found
      exact ⟨other, old, same ▸ present, (keeps old).symm⟩
  · exact ⟨other, g, found, rfl⟩

theorem issue_spares (id : Nat) (op : Query) (call : NodeCall) :
    Within Spares (issue env id op call) := by
  intro s
  unfold issue
  rcases requestOn_spares env call.service ("rcl_interfaces/srv/" ++ call.typ) call.payload s
    with ⟨cause, after, ran, spares⟩ | ⟨reply, after, ran, spares, created⟩
  · rw [bind_error ran]
    exact spares
  · rw [bind_ok ran]
    cases reply with
    | error cause => exact spares
    | ok sequence =>
        dsimp only
        rw [bind_ok (show Program.ofExcept (.ok sequence) after = (.ok sequence, after) from rfl),
          bind_ok (show changeApi _ after = _ from rfl), bind_ok (show api _ = _ from rfl)]
        dsimp only
        cases found : after.api.groups.lookup id with
        | none =>
            exact spares.waits created fun id g found => ⟨id, g, found, rfl⟩
        | some group =>
            exact spares.waits created (services_alter after.api.groups id fun _ => rfl)

/-- Tables in which only a group changed, which keeps its service. -/
theorem Spares.regrouped (spares : Spares s t) (id : Nat) {change : Group → Group}
    (keeps : ∀ g, (change g).service = g.service) :
    Spares s { t with api := { t.api with groups := t.api.groups.alter id change } } := by
  apply spares.tabled { t.api with groups := t.api.groups.alter id change } rfl
  · exact fun key p found => .inl ⟨p, found⟩
  · exact fun other g found => .inl (services_alter t.api.groups id keeps other g found)

theorem deleteFound_spares (pending : Pending) (group : Group) :
    Within Spares (deleteFound env pending group) := by
  refine Within.bind (Within.unwrap _ _) fun parts s => ?_
  rcases requestOn_spares env (pending.node ++ "/set_parameters")
      "rcl_interfaces/srv/SetParameters" (deletion parts.2) s with
    ⟨cause, after, ran, spares⟩ | ⟨reply, after, ran, spares, created⟩
  · rw [deletion] at ran
    rw [bind_error ran]
    exact spares
  · rw [deletion] at ran
    rw [bind_ok ran]
    unfold confirmDelete
    cases reply with
    | error cause => exact spares.trans (finish_spares _ _ _ after)
    | ok sequence =>
        exact spares.waits created (services_alter after.api.groups pending.group fun _ => rfl)

theorem useAnswer_spares (pending : Pending) (group : Group) (response : Json) :
    Within Spares (useAnswer env pending group response) := by
  unfold useAnswer
  split
  · split
    · exact deleteFound_spares pending group
    · exact finish_spares _ _ _
  · cases group.op
    case getParamNames =>
      refine Within.bind Watches.api.spares fun a => Within.bind (fun s => ?_) fun _ => ?_
      · exact (Spares.refl s).regrouped pending.group fun _ => rfl
      · exact Within.whenever (finish_spares _ _ _)
    all_goals exact finish_spares _ _ _

theorem conclude_spares (id : Nat) (result : Except Error Unit) :
    Within Spares (conclude env id result) := by
  cases result with
  | error cause => exact finish_spares _ _ _
  | ok _ =>
      exact Within.bind Watches.api.spares fun _ => Within.bind (Within.unwrap _ _) fun _ =>
        Within.whenever (finish_spares _ _ _)

/-- A parameter request to one of rosapi's services. -/
theorem parameter_spares {entity : Entity} (id : Nat) (op : Query) (args : Json)
    (own : ∀ other, Foreign s other → other ≠ entity) :
    Spares s (parameter env entity id op args s).2 := by
  unfold parameter
  rw [bind_ok (show api s = (.ok s.api, s) from rfl)]
  have timed : Within Spares (after env s.api.parameterTimeout) :=
    Within.bind Watches.instant.spares fun _ => Within.unwrap _ _
  have begun := timed s
  rcases ran : after env s.api.parameterTimeout s with ⟨deadline | cause | site, middle⟩
  · rw [ran] at begun
    rw [bind_ok ran, bind_ok (show changeApi _ middle = _ from rfl)]
    have opened : Spares s { middle with api := { middle.api with
        groups := middle.api.groups.insert id ⟨entity, id, op, args, 0, [], deadline⟩ } } := by
      apply begun.tabled { middle.api with
        groups := middle.api.groups.insert id ⟨entity, id, op, args, 0, [], deadline⟩ } rfl
      · exact fun key p found => .inl ⟨p, found⟩
      · intro other g found
        rw [AList.lookup_insert_if] at found
        split at found
        · cases found
          exact .inr fun neighbour holds same => own neighbour holds same.symm
        · exact .inl ⟨other, g, found, rfl⟩
    have rest : Within Spares (do
        let result ← Program.attempt do
          let calls ← nodeCalls env op args
          Program.forEach calls (issue env id op)
        conclude env id result) := by
      refine Within.bind (Within.attempt (Within.bind (fun s => ?_) fun calls => ?_))
        (conclude_spares id)
      · exact (nodeCalls_looks env op args).spares
      · exact Within.forEach (issue_spares id op)
    exact opened.trans (rest _)
  · rw [ran] at begun
    rw [bind_error ran]
    exact begun
  · rw [ran] at begun
    rw [bind_panic ran]
    exact begun

theorem parameterResponse_spares (pending : Pending) (response : Json) :
    Within Spares (parameterResponse env pending response) := by
  refine Within.bind Watches.api.spares fun a => Within.bind (Within.unwrap _ _) fun group => ?_
  refine Within.ite (Within.panic _) (Within.bind (fun s => ?_) fun _ => useAnswer_spares _ _ _)
  exact (Spares.refl s).regrouped pending.group fun _ => rfl

/-! ### Rounds -/

theorem reply_spares {entity : Entity} (id : Nat) (op : Query) (args : Json)
    (own : ∀ other, Foreign s other → other ≠ entity) :
    Spares s (reply env entity id op args s).2 := by
  unfold reply
  split
  · exact parameter_spares id op args own
  · have begun := (graphReply_watches env op args).spares s
    rcases ran : graphReply env op args s with ⟨value | cause | site, middle⟩
    · rw [ran] at begun
      rw [bind_ok ran]
      exact begun.answered own id value
    · rw [ran] at begun
      rw [bind_error ran]
      exact begun
    · rw [ran] at begun
      rw [bind_panic ran]
      exact begun

theorem handleEvent_spares (event : Event) : Within Spares (handleEvent env event) := by
  intro s
  unfold handleEvent
  rw [bind_ok (show api s = (.ok s.api, s) from rfl)]
  cases event with
  | message entity message => exact .refl s
  | request entity id args =>
      dsimp only
      cases served : s.api.operations.lookup entity with
      | none => exact .refl s
      | some op =>
          have own (other : Entity) (holds : Foreign s other) : other ≠ entity := by
            rintro rfl
            cases served.symm.trans holds.unserved
          have replied := @reply_spares env s entity id op args own
          dsimp only
          rcases ran : reply env entity id op args s with ⟨value | cause | site, middle⟩
          · rw [ran] at replied
            rw [bind_ok (show Program.attempt _ s = (.ok (.ok value), middle) by
              rw [Program.attempt, ran])]
            exact replied
          · rw [ran] at replied
            rw [bind_ok (show Program.attempt _ s = (.ok (.error cause), middle) by
              rw [Program.attempt, ran])]
            exact replied.discarded own id
          · rw [ran] at replied
            rw [bind_panic (show Program.attempt _ s = (.panic site, middle) by
              rw [Program.attempt, ran])]
            exact replied
  | response entity sequence values =>
      dsimp only
      cases waits : s.api.pending.lookup (entity, sequence) with
      | none => exact .refl s
      | some pending =>
          have fewer : Spares s { s with api := { s.api with
              pending := s.api.pending.erase (entity, sequence) } } := by
            apply (Spares.refl s).tabled { s.api with
              pending := s.api.pending.erase (entity, sequence) } rfl
            · intro key p found
              rw [AList.lookup_erase_if] at found
              split at found
              · cases found
              · exact .inl ⟨p, found⟩
            · exact fun id g found => .inl ⟨id, g, found, rfl⟩
          have gone : Spares s ({ s with
              api := { s.api with pending := s.api.pending.erase (entity, sequence) }
              node := s.node.without entity }.noting (.destroy entity)) :=
            fewer.without (fun clear => clear.asked _ pending waits)
              fun other holds same => holds.unasked _ pending waits same.symm
          dsimp only
          rw [bind_ok (show changeApi _ s = _ from rfl), bind_ok (destroy_run entity)]
          have used : Within Spares (do
              parameterResponse env pending values
              return none : Action (Option Event)) :=
            Within.bind (parameterResponse_spares pending values) fun _ => Within.pure none
          exact gone.trans (used _)

theorem process_spares (events : List Event) : Within Spares (process env events) := by
  refine Within.bind (Within.foldEach (fun seen event => ?_) []) fun output => ?_
  · exact Within.bind (handleEvent_spares event) fun _ => Within.pure _
  · exact Within.bind (expiredGroups_watches env).spares fun expired =>
      Within.bind (Within.forEach fun _ => finish_spares _ _ _) fun _ => Within.pure _

/-- A sample that is taken at most adds a request and moves the clock. -/
theorem takeSample_spares (stamp : Int × Nat) (entity : Entity) (role : Role) (sample : Sample) :
    Within Spares (takeSample stamp entity role sample) := by
  have told {n : Node} (s : Native) (next : n.next = s.node.next)
      (clock : n.clockSubscription = s.node.clockSubscription)
      (handles : n.handles = s.node.handles) (requests : s.node.requests ⊆ n.requests) :
      Spares s { s with node := n } := by
    refine ⟨List.prefix_rfl, Nat.le_of_eq next.symm, clock, rfl, fun holds => ?_,
      fun entity holds => ?_, fun entity holds => by rw [handles],
      fun entity id holds member => requests member, fun entity h found => .inl ?_⟩
    · refine ⟨fun entity op found => ?_, fun key p found => ?_, fun entity member => ?_⟩
      · exact (holds.served entity op found).trans (Nat.le_of_eq next.symm)
      · exact (holds.asked key p found).trans (Nat.le_of_eq next.symm)
      · obtain ⟨given, gone⟩ := holds.destroyed entity member
        exact ⟨given.trans (Nat.le_of_eq next.symm), by rw [handles]; exact gone⟩
    · exact ⟨holds.given.trans (Nat.le_of_eq next.symm), holds.unserved, holds.unasked,
        holds.ungrouped⟩
    · rwa [handles] at found
  unfold takeSample
  cases role with
  | publisher => exact Within.pure none
  | client => exact Within.bind (Within.ofExcept _) fun _ => Within.pure _
  | service =>
      refine Within.bind (fun s => told s rfl rfl rfl (Finset.subset_insert _ _)) fun _ => ?_
      exact Within.bind Watches.node.spares fun _ => Within.bind (Within.ofExcept _) fun _ =>
        Within.pure _
  | subscription =>
      refine Within.bind (Within.ofExcept _) fun values => ?_
      refine Within.bind Watches.node.spares fun n => Within.ite ?_ ?_
      · exact Within.bind (fun s => told s rfl rfl rfl (Finset.Subset.refl _)) fun _ => Within.pure _
      · exact Within.bind (Within.ofExcept _) fun _ => Within.pure _

/-- A poll spares the neighbours of rosapi. -/
theorem poll_spares (serving : Bool) (inbox : Entity → List Sample) :
    Within Spares (poll env serving inbox) := by
  refine Within.bind (Watches.spares ?_) fun stamp => Within.bind Watches.node.spares fun n => ?_
  · refine Watches.node.bind fun n => ?_
    cases n.simulated with
    | none => exact Watches.consult env.systemTime
    | some time => exact Watches.pure time
  · refine Within.bind (Watches.visit n.handles).spares fun handles => ?_
    refine Within.bind (Within.foldEach (fun seen entry => ?_) []) fun events => Within.ite ?_ ?_
    · exact Within.bind (takeSample_spares _ _ _ _) fun _ => Within.pure _
    · exact process_spares _
    · exact Within.pure _

end Rosbridge.Ros
