import Rosbridge.Properties.ServerGoals
import Rosbridge.Refine.Answers

/-!
Native requests of action servers, and what they do when they are answered or not.

Owns: which goals a cancel request selects; that what is recorded and what clients are
told agrees with the answer a request got; and when a request that got none has changed
something all the same.
-/

set_option autoImplicit false

namespace Rosbridge

open Foundation Program

/-! ### Who serves an entity -/

/-- The services of an action server that are called from outside. -/
def ActionServer.services (server : ActionServer) : List Entity :=
  [server.send, server.cancel, server.result]

/-- The entity is a service of this action server, and of no other. -/
structure Bridge.ServedBy (b : Bridge) (entity : Entity) (action : String)
    (server : ActionServer) : Prop where
  found : b.actionServers.lookup action = some server
  member : entity ∈ server.services
  alone : ∀ other known, b.actionServers.lookup other = some known → entity ∈ known.services →
    other = action

section Served

variable {env : Environment} {m : Machine} {action : String} {server : ActionServer}
  {entity : Entity} {request : Nat} {args : Json}

/-- No two action servers share an entity. -/
theorem server_unique {b : Bridge} {other : String} {known : ActionServer}
    (distinct : b.held.Nodup) (found : b.actionServers.lookup action = some server)
    (found' : b.actionServers.lookup other = some known) (member : entity ∈ server.entities)
    (member' : entity ∈ known.entities) : other = action := by
  by_contra different
  rw [held_erase_server found] at distinct
  have kept : (b.actionServers.erase action).lookup other = some known := by
    rw [AList.lookup_erase_ne different, found']
  have held : entity ∈ { b with actionServers := b.actionServers.erase action }.held :=
    Bridge.mem_held.mpr (.inr (.inr (.inr (.inr (.inr ⟨other, known, kept, member'⟩)))))
  have apart := (Multiset.nodup_add.mp distinct).2.2
  exact Multiset.disjoint_left.mp apart (Multiset.mem_coe.mpr member) held

theorem ActionServer.mem_entities (served : entity ∈ server.services) :
    entity ∈ server.entities := by
  unfold services at served
  unfold entities
  simp only [List.mem_cons, List.not_mem_nil, or_false] at served ⊢
  tauto

theorem served_of_distinct {b : Bridge} (distinct : b.held.Nodup)
    (found : b.actionServers.lookup action = some server) (member : entity ∈ server.services) :
    b.ServedBy entity action server where
  found := found
  member := member
  alone _ _ known member' := server_unique distinct found known
    (ActionServer.mem_entities member) (ActionServer.mem_entities member')

/-- The services of one action server are different entities. -/
theorem services_distinct {b : Bridge} (distinct : b.held.Nodup)
    (found : b.actionServers.lookup action = some server) : server.services.Nodup := by
  rw [held_erase_server found] at distinct
  have entities : server.entities.Nodup := (Multiset.nodup_add.mp distinct).1
  unfold ActionServer.entities at entities
  unfold ActionServer.services
  simp only [List.nodup_cons, List.mem_cons, List.not_mem_nil, or_false, not_or] at entities ⊢
  tauto

/-- The machine after one visit of a table. -/
def Machine.looked (env : Environment) (m : Machine) : Machine :=
  { m with log := m.log ++ [.order (env.order m.log)] }

theorem looked_tells : Says m (m.looked env) [] [] := .quiet rfl rfl rfl

/-- A request for a service of an action server is handled as one. -/
theorem actionRequest_served (served : m.bridge.ServedBy entity action server)
    {post : Outcome Error Unit → Machine → Prop}
    (handled : wp (serverRequest env action server entity request args) post (m.looked env)) :
    wp (actionRequest env entity request args)
      (fun outcome after => post outcome.void after) m := by
  unfold actionRequest
  refine wp_bind_tables ?_
  have visited : visit env m.bridge.actionServers m = (.ok (permute (env.order m.log)
      (m.bridge.actionServers.entries.map fun entry => (entry.1, entry.2))), m.looked env) := rfl
  have listed := (mem_visit env visited).1
  rw [wp_bind, wp_iff, visited]
  dsimp only [andThen]
  cases chosen : (permute (env.order m.log)
      (m.bridge.actionServers.entries.map fun entry => (entry.1, entry.2))).find? fun entry =>
        [entry.2.send, entry.2.cancel, entry.2.result].contains entity with
  | none =>
      have unmatched := List.find?_eq_none.mp chosen _ ((listed action server).mpr served.found)
      exact absurd (by simpa [ActionServer.services] using served.member) unmatched
  | some entry =>
      obtain ⟨name, other⟩ := entry
      have known := (listed name other).mp (List.mem_of_find?_eq_some chosen)
      have member : entity ∈ other.services := by
        simpa [ActionServer.services] using List.find?_some chosen
      cases served.alone name other known member
      cases served.found.symm.trans known
      exact wp_bind_of handled (fun _ _ held => held) (fun _ _ held => held) fun _ _ held => held

end Served

/-! ### Cancel selection -/

section Cancel

variable {env : Environment} {m : Machine} {action : String} {server : ActionServer}
  {entity : Entity} {request : Nat} {args : Json} {requested : String} {stamp : Int × Nat}

theorem Bridge.mem_goalsOf {b : Bridge} {key : String} {goal : ServerGoal} :
    (key, goal) ∈ b.goalsOf action ↔
      b.serverGoals.lookup key = some goal ∧ goal.action = action := by
  unfold Bridge.goalsOf
  rw [List.mem_filter, List.mem_map, decide_eq_true_eq, AList.lookup_eq_some_iff]
  constructor
  · rintro ⟨⟨⟨key', goal'⟩, member, same⟩, own⟩
    cases same
    exact ⟨member, own⟩
  · rintro ⟨member, own⟩
    exact ⟨⟨⟨key, goal⟩, member, rfl⟩, own⟩

theorem Bridge.mem_selected {b : Bridge} {key : String} {goal : ServerGoal} :
    (key, goal) ∈ b.selected env action requested stamp ↔
      b.serverGoals.lookup key = some goal ∧ goal.action = action ∧
        goal.Selected env requested stamp := by
  unfold Bridge.selected
  rw [List.mem_filter, mem_goalsOf, decide_eq_true_eq, and_assoc]

theorem Bridge.selected_nodup {b : Bridge} :
    ((b.selected env action requested stamp).map Prod.fst).Nodup := by
  have keys : ((b.serverGoals.entries.map fun entry => (entry.1, entry.2)).map Prod.fst).Nodup := by
    rw [List.map_map]
    exact b.serverGoals.keys_nodup
  exact keys.sublist ((List.filter_sublist.trans List.filter_sublist).map _)

/-- What becomes of the goals of all actions: those that are selected are cancelling. -/
def ServerGoal.cancelledBy (env : Environment) (action requested : String) (stamp : Int × Nat)
    (goal : ServerGoal) : ServerGoal :=
  if goal.action = action ∧ goal.Selected env requested stamp then { goal with status := 3 }
  else goal

theorem lookup_mark_selected {items : List (String × ServerGoal)}
    (permuted : items.Perm (m.bridge.selected env action requested stamp)) (key : String) :
    (m.bridge.mark (items.map Prod.fst)).serverGoals.lookup key =
      (m.bridge.serverGoals.lookup key).map
        (ServerGoal.cancelledBy env action requested stamp) := by
  rw [Bridge.lookup_mark]
  cases found : m.bridge.serverGoals.lookup key with
  | none => simp
  | some goal =>
      have listed : key ∈ items.map Prod.fst ↔
          goal.action = action ∧ goal.Selected env requested stamp := by
        rw [List.mem_map]
        constructor
        · rintro ⟨⟨other, picked⟩, member, rfl⟩
          obtain ⟨known, own, selected⟩ := Bridge.mem_selected.mp (permuted.mem_iff.mp member)
          cases found.symm.trans known
          exact ⟨own, selected⟩
        · intro selected
          exact ⟨(key, goal), permuted.mem_iff.mpr (Bridge.mem_selected.mpr ⟨found, selected⟩), rfl⟩
      unfold ServerGoal.cancelledBy
      simp only [listed, Option.map_some]
      split <;> rfl

/-- A request for the cancel service is a cancel request. -/
theorem cancel_served (cancels : entity = server.cancel) (distinct : server.services.Nodup)
    {post : Outcome Error Unit → Machine → Prop}
    (handled : wp (cancelRequest env action server entity request args) post (m.looked env)) :
    wp (serverRequest env action server entity request args) post (m.looked env) := by
  unfold ActionServer.services at distinct
  simp only [List.nodup_cons, List.mem_cons, List.not_mem_nil, or_false, not_or] at distinct
  unfold serverRequest
  rw [if_neg (by rw [cancels]; exact Ne.symm distinct.1.1),
    if_neg (by rw [cancels]; exact distinct.2.1)]
  exact handled

variable (request) in
/-- A cancel request, from its dispatch to its end. -/
theorem actionRequest_cancel
    (identified : ∀ key goal, m.bridge.serverGoals.lookup key = some goal →
      ∃ uuid, uuidKey env goal.uuid = .ok uuid)
    (served : m.bridge.ServedBy entity action server) (cancels : entity = server.cancel)
    (distinct : server.services.Nodup)
    (named : uuidKey env ((args.index "goal_info").index "goal_id") = .ok requested)
    (stamped : stampOf ((args.index "goal_info").index "stamp") = stamp) :
    wp (actionRequest env entity request args)
      (fun outcome after =>
        let selected := (m.looked env).cancelled env action requested stamp
        let reply := (m.looked env).verdict env entity request action requested stamp
        Says m after
            (if reply = .ok () then selected.map fun entry => cancelMessage server action entry.2
              else [])
            [⟨entity, request,
              cancelReply (m.bridge.cancelCode env action requested stamp) selected, reply⟩] ∧
          Machine.SameTables { m with bridge := m.bridge.mark (selected.map Prod.fst) } after ∧
          ¬ outcome.IsPanic ∧ ∀ cause, reply = .error cause → outcome = .error cause) m := by
  subst stamped
  have handled := cancelRequest_exact (m := m.looked env) entity request
    served.found identified named
  refine wp_mono (actionRequest_served served (cancel_served cancels distinct handled)) ?_
  rintro outcome after ⟨told, same, returns, refused⟩
  refine ⟨looked_tells.trans told, same, ?_, fun cause failed => ?_⟩
  · cases outcome <;> exact returns
  · have ended := refused cause failed
    cases outcome with
    | error other =>
        cases ended
        rfl
    | ok value => cases ended
    | panic site => cases ended

/-- Whatever goals there are, a cancel request that is answered cancels exactly those it
selects: they are listed in the answer, have status 3 and are told to the owner of the action
server, once each. Every other goal is left alone. In which order the goals are visited
decides nothing but the order of the list and of the messages. -/
theorem cancel_selection
    (identified : ∀ key goal, m.bridge.serverGoals.lookup key = some goal →
      ∃ uuid, uuidKey env goal.uuid = .ok uuid)
    (served : m.bridge.ServedBy entity action server) (cancels : entity = server.cancel)
    (distinct : server.services.Nodup)
    (named : uuidKey env ((args.index "goal_info").index "goal_id") = .ok requested)
    (stamped : stampOf ((args.index "goal_info").index "stamp") = stamp) :
    ∃ selected messages reply,
      selected.Perm (m.bridge.selected env action requested stamp) ∧
      Says m (actionRequest env entity request args m).2 messages
        [⟨entity, request,
          cancelReply (m.bridge.cancelCode env action requested stamp) selected, reply⟩] ∧
      (reply = .ok () → messages = selected.map fun entry => cancelMessage server action entry.2) ∧
      (∃ goals next failed, (actionRequest env entity request args m).2.bridge =
        { m.bridge with serverGoals := goals, next := next, failed := failed }) ∧
      ∀ key, (actionRequest env entity request args m).2.bridge.serverGoals.lookup key =
        (m.bridge.serverGoals.lookup key).map
          (ServerGoal.cancelledBy env action requested stamp) := by
  have run := actionRequest_cancel request identified served cancels distinct named
    stamped
  rw [wp_iff] at run
  obtain ⟨told, ⟨next, failed, same⟩, -, -⟩ := run
  have permuted := (m.looked env).cancelled_perm env action requested stamp
  refine ⟨_, _, _, permuted, told, fun answered => if_pos answered, ⟨_, next, failed, same⟩, ?_⟩
  intro key
  rw [same]
  exact lookup_mark_selected permuted key

end Cancel

/-! ### Answered and unanswered requests -/

section Faithful

variable {env : Environment} {m : Machine} {action : String} {server : ActionServer}
  {entity : Entity} {request : Nat} {args : Json}

/-- What an answer that the backend took stands for. A goal is accepted if it is recorded
and announced; a result changes nothing; the goals listed as cancelling are marked, and the
owner is told of each. -/
def Reflected (env : Environment) (m after : Machine) (args : Json) (action : String)
    (server : ActionServer) (messages : List Message) (answer : Answer) : Prop :=
  (answer.entity = server.send →
    (∃ stamp, answer.values = acceptReply false stamp ∧ messages = [] ∧
      after.bridge.serverGoals = m.bridge.serverGoals) ∨
    ∃ uuid id stamp, uuidKey env (args.index "goal_id") = .ok uuid ∧
      serverGoalKey action uuid ∉ m.bridge.serverGoals ∧
      answer.values = acceptReply true stamp ∧
      after.bridge.serverGoals = m.bridge.serverGoals.insert (serverGoalKey action uuid)
        (.accepted server.owner action id (args.index "goal_id") stamp) ∧
      messages =
        [⟨server.owner, labelled (goalMessage action server.advertisedType args) (some id), {}⟩]) ∧
  (answer.entity = server.result →
    messages = [] ∧ after.bridge.serverGoals = m.bridge.serverGoals) ∧
  (answer.entity = server.cancel → ∃ code selected,
    answer.values = cancelReply code selected ∧ (selected.map Prod.fst).Nodup ∧
    (∀ entry ∈ selected, m.bridge.serverGoals.lookup entry.1 = some entry.2) ∧
    after.bridge.serverGoals = (m.bridge.mark (selected.map Prod.fst)).serverGoals ∧
    messages = selected.map fun entry => cancelMessage server action entry.2)

/-- A request that fails without an answer leaves the goals alone and tells nobody. What
is answered is so. -/
def Faithful (env : Environment) (m : Machine) (args : Json) (action : String)
    (server : ActionServer) (outcome : Outcome Error Unit) (after : Machine) : Prop :=
  ∃ messages answers, Says m after messages answers ∧
    (∀ cause, outcome = .error cause → (∀ answer ∈ answers, answer.reply ≠ .ok ()) →
      messages = [] ∧ after.bridge.serverGoals = m.bridge.serverGoals) ∧
    ∀ answer ∈ answers, answer.reply = .ok () →
      Reflected env m after args action server messages answer

/-- A cancel request that the backend does not let the bridge answer, and that selects a
goal which was not being cancelled before. -/
def Spoiled (env : Environment) (entity : Entity) (request : Nat) (args : Json)
    (m : Machine) (action : String) (server : ActionServer) : Prop :=
  entity = server.cancel ∧
    ∃ requested, uuidKey env ((args.index "goal_info").index "goal_id") = .ok requested ∧
      (∃ entry ∈ m.bridge.selected env action requested
        (stampOf ((args.index "goal_info").index "stamp")), entry.2.status ≠ 3) ∧
      ∃ cause, (m.looked env).verdict env entity request action requested
        (stampOf ((args.index "goal_info").index "stamp")) = .error cause

theorem faithful_failed {cause : Error} :
    Faithful env m args action server (.error cause) m :=
  ⟨[], [], .refl m, fun _ _ _ => ⟨rfl, rfl⟩, by simp⟩

/-- One attempt to answer that leaves the goals alone. -/
theorem Attempted.faithful {values : Json} {outcome : Outcome Error Unit} {after : Machine}
    (attempted : Attempted entity request values m outcome after)
    (same : after.bridge.serverGoals = m.bridge.serverGoals)
    (reflected : Reflected env m after args action server [] ⟨entity, request, values, .ok ()⟩) :
    Faithful env m args action server outcome after := by
  cases outcome with
  | ok value =>
      refine ⟨_, _, attempted, nofun, ?_⟩
      rintro answer member -
      rw [List.mem_singleton] at member
      rwa [member]
  | error cause =>
      refine ⟨_, _, attempted, fun _ _ _ => ⟨rfl, same⟩, ?_⟩
      intro answer member taken
      rw [List.mem_singleton] at member
      rw [member] at taken
      cases taken
  | panic site => exact attempted.elim

theorem services_apart (distinct : server.services.Nodup) :
    server.send ≠ server.cancel ∧ server.send ≠ server.result ∧ server.cancel ≠ server.result := by
  unfold ActionServer.services at distinct
  simp only [List.nodup_cons, List.mem_cons, List.not_mem_nil, or_false, not_or] at distinct
  exact ⟨distinct.1.1, distinct.1.2, distinct.2.1⟩

theorem goalRequest_faithful (found : m.bridge.actionServers.lookup action = some server)
    (distinct : server.services.Nodup) :
    wp (goalRequest env action server server.send request args)
      (Faithful env m args action server) m := by
  obtain ⟨notCancel, notResult, -⟩ := services_apart distinct
  cases named : uuidKey env (args.index "goal_id") with
  | error cause =>
      refine wp_bind_lift (fun _ _ => faithful_failed) fun uuid read => ?_
      rw [named] at read
      cases read
  | ok uuid =>
      refine wp_mono (goalRequest_exact found named) ?_
      rintro outcome after ⟨stamp, declined | refused | opened⟩
      · obtain ⟨-, ⟨next, failed, same⟩, attempted⟩ := declined
        have unchanged : after.bridge.serverGoals = m.bridge.serverGoals := by rw [same]
        refine attempted.faithful unchanged ⟨fun _ => .inl ⟨stamp, rfl, rfl, unchanged⟩, ?_, ?_⟩
        · exact fun atResult => absurd atResult notResult
        · exact fun atCancel => absurd atCancel notCancel
      · obtain ⟨-, ⟨next, failed, same⟩, cause, rfl, told⟩ := refused
        refine ⟨_, _, told, fun _ _ _ => ⟨rfl, by rw [same]⟩, ?_⟩
        intro answer member taken
        rw [List.mem_singleton] at member
        rw [member] at taken
        cases taken
      · obtain ⟨fresh, -, id, told, next, failed, same⟩ := opened
        refine ⟨_, _, told, fun cause _ unanswered => ?_, ?_⟩
        · exact absurd rfl (unanswered _ (List.mem_singleton_self _))
        · rintro answer member -
          rw [List.mem_singleton] at member
          subst member
          refine ⟨fun _ => .inr ⟨uuid, id, stamp, named, fresh, rfl, by rw [same], rfl⟩, ?_, ?_⟩
          · exact fun atResult => absurd atResult notResult
          · exact fun atCancel => absurd atCancel notCancel

theorem resultRequest_faithful (distinct : server.services.Nodup) :
    wp (resultRequest env action server.result request args)
      (Faithful env m args action server) m := by
  obtain ⟨-, notSend, notCancel⟩ := services_apart distinct
  cases named : uuidKey env (args.index "goal_id") with
  | error cause =>
      refine wp_bind_lift (fun _ _ => faithful_failed) fun uuid read => ?_
      rw [named] at read
      cases read
  | ok uuid =>
      refine wp_mono (resultRequest_exact named) ?_
      rintro outcome after (⟨values, attempted, same⟩ | ⟨rfl, told⟩)
      · have unchanged : after.bridge.serverGoals = m.bridge.serverGoals := by rw [same]
        refine attempted.faithful unchanged ⟨?_, fun _ => ⟨rfl, unchanged⟩, ?_⟩
        · exact fun atSend => absurd atSend.symm notSend
        · exact fun atCancel => absurd atCancel.symm notCancel
      · exact ⟨[], [], told, nofun, by simp⟩

/-- Marking goals leaves the table as it is exactly when they are marked already. -/
theorem mark_eq_self {items : List (String × ServerGoal)}
    (listed : ∀ entry ∈ items, m.bridge.serverGoals.lookup entry.1 = some entry.2) :
    (m.bridge.mark (items.map Prod.fst)).serverGoals = m.bridge.serverGoals ↔
      ∀ entry ∈ items, entry.2.status = 3 := by
  constructor
  · rintro same ⟨key, goal⟩ member
    have found := listed (key, goal) member
    have marked := m.bridge.lookup_mark (items.map Prod.fst) key
    rw [if_pos (List.mem_map_of_mem member), same, found, Option.map_some] at marked
    exact congrArg ServerGoal.status (Option.some.inj marked)
  · intro marked
    induction items with
    | nil => rfl
    | cons entry rest inductionHypothesis =>
        have same : m.bridge.serverGoals.alter entry.1 (fun goal => { goal with status := 3 }) =
            m.bridge.serverGoals := by
          refine AList.alter_eq_self fun goal found => ?_
          cases found.symm.trans (listed entry List.mem_cons_self)
          have here := marked entry List.mem_cons_self
          rw [← here]
        refine Eq.trans ?_ (inductionHypothesis
          (fun other member => listed other (List.mem_cons_of_mem _ member))
          fun other member => marked other (List.mem_cons_of_mem _ member))
        unfold Bridge.mark
        simp only [List.map_cons, List.foldl_cons, same]

/-- A visit before the request is handled says nothing. -/
theorem Faithful.of_looked {outcome : Outcome Error Unit} {after : Machine}
    (faithful : Faithful env (m.looked env) args action server outcome after) :
    Faithful env m args action server outcome after := by
  obtain ⟨messages, answers, told, unanswered, answered⟩ := faithful
  exact ⟨messages, answers, looked_tells.trans told, unanswered, answered⟩

variable (request args) in
/-- A cancel request goes wrong only when it is refused after it selected a goal that was
not being cancelled. -/
theorem cancel_faithful_iff
    (identified : ∀ key goal, m.bridge.serverGoals.lookup key = some goal →
      ∃ uuid, uuidKey env goal.uuid = .ok uuid)
    (served : m.bridge.ServedBy server.cancel action server) (distinct : server.services.Nodup) :
    wp (actionRequest env server.cancel request args)
      (fun outcome after => Faithful env m args action server outcome.void after ↔
        ¬ Spoiled env server.cancel request args m action server) m := by
  obtain ⟨notSend, -, notResult⟩ := services_apart distinct
  cases named : uuidKey env ((args.index "goal_info").index "goal_id") with
  | error cause =>
      have failed : wp (cancelRequest env action server server.cancel request args)
          (Faithful env (m.looked env) args action server) (m.looked env) := by
        refine wp_bind_lift (fun _ _ => faithful_failed) fun uuid read => ?_
        rw [named] at read
        cases read
      refine wp_mono (actionRequest_served served (cancel_served rfl distinct failed)) ?_
      intro outcome after faithful
      refine iff_of_true faithful.of_looked ?_
      rintro ⟨-, requested, read, -⟩
      rw [named] at read
      cases read
  | ok requested =>
      refine wp_mono (actionRequest_cancel request identified served rfl distinct named
        rfl) ?_
      rintro outcome after ⟨told, ⟨next, failed, same⟩, returns, refused⟩
      have permuted := (m.looked env).cancelled_perm env action requested
        (stampOf ((args.index "goal_info").index "stamp"))
      generalize (m.looked env).cancelled env action requested
        (stampOf ((args.index "goal_info").index "stamp")) = selected at permuted told same
      have listed : ∀ entry ∈ selected, m.bridge.serverGoals.lookup entry.1 = some entry.2 :=
        fun entry member => (Bridge.mem_selected.mp (permuted.mem_iff.mp member)).1
      have spoiled : Spoiled env server.cancel request args m action server ↔
          (∃ entry ∈ selected, entry.2.status ≠ 3) ∧
            ∃ cause, (m.looked env).verdict env server.cancel request action requested
              (stampOf ((args.index "goal_info").index "stamp")) = .error cause := by
        constructor
        · rintro ⟨-, requested', read, ⟨entry, member, unmarked⟩, cause⟩
          cases named.symm.trans read
          exact ⟨⟨entry, permuted.mem_iff.mpr member, unmarked⟩, cause⟩
        · rintro ⟨⟨entry, member, unmarked⟩, cause⟩
          exact ⟨rfl, requested, named, ⟨entry, permuted.mem_iff.mp member, unmarked⟩, cause⟩
      have goals : after.bridge.serverGoals =
          (m.bridge.mark (selected.map Prod.fst)).serverGoals := by
        rw [same]
      rw [spoiled]
      generalize (m.looked env).verdict env server.cancel request action requested
        (stampOf ((args.index "goal_info").index "stamp")) = reply at told refused
      cases reply with
      | ok taken =>
          refine iff_of_true ⟨_, _, told, fun cause _ unanswered => ?_, ?_⟩ ?_
          · exact absurd rfl (unanswered _ (List.mem_singleton_self _))
          · rintro answer member -
            rw [List.mem_singleton] at member
            subst member
            refine ⟨fun atSend => absurd atSend.symm notSend,
              fun atResult => absurd atResult notResult, fun _ => ?_⟩
            exact ⟨_, selected, rfl, (permuted.map Prod.fst).nodup_iff.mpr Bridge.selected_nodup,
              listed, goals, if_pos rfl⟩
          · rintro ⟨-, cause, ⟨⟩⟩
      | error cause =>
          have ended := refused cause rfl
          subst ended
          rw [if_neg nofun] at told
          have marked : after.bridge.serverGoals = m.bridge.serverGoals ↔
              ∀ entry ∈ selected, entry.2.status = 3 := by
            rw [goals]
            exact mark_eq_self listed
          constructor
          · rintro ⟨messages, answers, told', unanswered, -⟩ ⟨⟨entry, member, unmarked⟩, -⟩
            obtain ⟨-, rfl⟩ := told.unique told'
            have unchanged := (unanswered cause rfl (by simp)).2
            exact unmarked (marked.mp unchanged entry member)
          · intro unspoiled
            have unchanged := marked.mpr fun entry member => by
              by_contra unmarked
              exact unspoiled ⟨⟨entry, member, unmarked⟩, cause, rfl⟩
            refine ⟨_, _, told, fun _ _ _ => ⟨rfl, unchanged⟩, ?_⟩
            intro answer member taken
            rw [List.mem_singleton] at member
            rw [member] at taken
            cases taken

end Faithful

/-! ### In every state of a run -/

/-- A state that a run passes through, also in the middle of a tick. -/
def Passed (env : Environment) (access : Access) (timeout : Duration) (m : Machine) : Prop :=
  ∃ start, Reachable env access timeout start ∧ Follows (Transition env) (fun _ => True) start m

section Passed

variable {env : Environment} {access : Access} {timeout : Duration} {m : Machine}

theorem Passed.of_reachable (reached : Reachable env access timeout m) :
    Passed env access timeout m := ⟨m, reached, .refl m⟩

theorem Passed.sound (passed : Passed env access timeout m) : GoalsSound env m.bridge := by
  obtain ⟨start, reached, later⟩ := passed
  have sound : GoalsSound env start.bridge :=
    Onward.always (fun m => GoalsSound env m.bridge) reached
      (fun _ _ _ _ _ performed sound => (performed.goalsContinue sound).1)
      (shaped_new access timeout) ⟨nofun, nofun, nofun, nofun⟩
  exact (later.invariant
    (fun m => GoalsSound env m.bridge ∧ GoalsContinue start.bridge m.bridge)
    (fun _ _ _ _ taken => taken.goalsContinue)
    ⟨sound, le_rfl, fun _ goal found => .inl ⟨goal, found, rfl, .refl goal⟩⟩).1

theorem GoalsSound.identified (sound : GoalsSound env m.bridge) (key : String) (goal : ServerGoal)
    (found : m.bridge.serverGoals.lookup key = some goal) :
    ∃ uuid, uuidKey env goal.uuid = .ok uuid := by
  obtain ⟨uuid, named, -⟩ := sound.keyed key goal found
  exact ⟨uuid, named⟩

theorem Passed.distinct (passed : Passed env access timeout m) (fresh : Fresh m.log) :
    m.bridge.held.Nodup := by
  obtain ⟨start, reached, later⟩ := passed
  have balanced : Balanced m :=
    Follows.carry later (fun _ _ _ taken shaped fresh => taken.balanced shaped fresh)
      (Onward.shaped reached (shaped_new access timeout)) fresh
      (ReachableBy.balanced reached (fresh.inherit (reach_log_grows later)))
  exact (balanced.lifecycle fresh).2.1

end Passed

theorem Passed.servedBy {env : Environment} {access : Access} {timeout : Duration} {m : Machine}
    {entity : Entity} {action : String} {server : ActionServer}
    (passed : Passed env access timeout m) (fresh : Fresh m.log)
    (found : m.bridge.actionServers.lookup action = some server)
    (member : entity ∈ server.services) : m.bridge.ServedBy entity action server :=
  served_of_distinct (passed.distinct fresh) found member

/-- A cancel request, in a state of a run. -/
theorem Passed.cancel_iff {env : Environment} {access : Access} {timeout : Duration} {m : Machine}
    {args : Json} {action : String} {server : ActionServer} (request : Nat)
    (passed : Passed env access timeout m) (fresh : Fresh m.log)
    (found : m.bridge.actionServers.lookup action = some server) :
    Faithful env m args action server (actionRequest env server.cancel request args m).1.void
        (actionRequest env server.cancel request args m).2 ↔
      ¬ Spoiled env server.cancel request args m action server := by
  have distinct := services_distinct (passed.distinct fresh) found
  have served : m.bridge.ServedBy server.cancel action server :=
    passed.servedBy fresh found (List.mem_cons_of_mem _ List.mem_cons_self)
  have run := cancel_faithful_iff request args passed.sound.identified served distinct
  rwa [wp_iff] at run

/-- In every state of a run, a request of an action server agrees with its answer: what is
refused or malformed changes no goal and is told to nobody, and what is answered is so. This
fails exactly for a cancel request that the backend does not let the bridge answer and that
selects a goal which was not being cancelled yet. -/
theorem answered_requests {env : Environment} {access : Access} {timeout : Duration} {m : Machine}
    {entity : Entity} {request : Nat} {args : Json} {action : String} {server : ActionServer}
    (passed : Passed env access timeout m) (fresh : Fresh m.log)
    (found : m.bridge.actionServers.lookup action = some server)
    (member : entity ∈ server.services) :
    Faithful env m args action server (actionRequest env entity request args m).1.void
        (actionRequest env entity request args m).2 ↔
      ¬ Spoiled env entity request args m action server := by
  have distinct := services_distinct (passed.distinct fresh) found
  have served := passed.servedBy fresh found member
  obtain ⟨sendCancel, sendResult, cancelResult⟩ := services_apart distinct
  have always {handler : Step Unit}
      (same : serverRequest env action server entity request args = handler)
      (notCancel : entity ≠ server.cancel)
      (faithful : wp handler (Faithful env (m.looked env) args action server) (m.looked env)) :
      Faithful env m args action server (actionRequest env entity request args m).1.void
          (actionRequest env entity request args m).2 ↔
        ¬ Spoiled env entity request args m action server := by
    have run := actionRequest_served served (same ▸ faithful)
    rw [wp_iff] at run
    exact iff_of_true run.of_looked fun spoiled => notCancel spoiled.1
  unfold ActionServer.services at member
  simp only [List.mem_cons, List.not_mem_nil, or_false] at member
  rcases member with rfl | rfl | rfl
  · have atSend : serverRequest env action server server.send request args =
        goalRequest env action server server.send request args := if_pos rfl
    exact always atSend sendCancel (goalRequest_faithful found distinct)
  · exact passed.cancel_iff request fresh found
  · have atResult : serverRequest env action server server.result request args =
        resultRequest env action server.result request args :=
      (if_neg sendResult.symm).trans (if_pos rfl)
    exact always atResult cancelResult.symm (resultRequest_faithful distinct)

/-! ### Requests of one server -/

/-- A request to cancel the goal that every tick asks for. -/
def cancelFibonacci : Json := .obj [("goal_info", .obj [("goal_id", fibonacciUuid)])]

deriving instance DecidableEq for ActionServer

def fibonacci : ActionServer :=
  ⟨0, "demo/action/Fibonacci", "demo/action/Fibonacci", 1, 3, 2, 4, 5⟩

/-- One goal is under way at an action server. -/
def fibonacciRun (env : Environment) : Machine :=
  (((Machine.new {} 5).next env (.connect 0)).next env fibonacciServer).next env .tick

theorem asked : Reachable .asking {} 5 (fibonacciRun .asking) :=
  .step _ (.step _ (.step _ .here (by decide +kernel) trivial) (by decide +kernel) trivial)
    (by decide +kernel) trivial

theorem askedFresh : Fresh (fibonacciRun .asking).log :=
  ⟨by decide +kernel, by decide +kernel, by decide +kernel⟩

/-- The backend does not let the cancel service answer. -/
def Environment.unanswering : Environment :=
  { Environment.asking with
    respond := fun _ entity _ _ => if entity = 3 then .error ⟨"timeout"⟩ else .ok () }

/-- The goal is named and under way, so it is cancelled. -/
theorem cancel_selection_fibonacci :
    ((actionRequest .asking fibonacci.cancel 9 cancelFibonacci
        (fibonacciRun .asking)).2.bridge.serverGoals.lookup
      "/fibonacci:01010101010101010101010101010101").map ServerGoal.status = some 3 := by
  have passed := Passed.of_reachable asked
  have found : (fibonacciRun .asking).bridge.actionServers.lookup "/fibonacci" =
      some fibonacci := by
    decide +kernel
  obtain ⟨selected, messages, reply, -, -, -, -, goals⟩ :=
    @cancel_selection .asking (fibonacciRun .asking) "/fibonacci" fibonacci fibonacci.cancel 9
      cancelFibonacci "01010101010101010101010101010101" (0, 0) passed.sound.identified
      (passed.servedBy askedFresh found (List.mem_cons_of_mem _ List.mem_cons_self)) rfl
      (by decide) (by decide +kernel) (by decide)
  rw [goals]
  decide +kernel

/-- Cancelling is answered, so nothing is wrong with it. -/
theorem answered_requests_asking :
    Faithful .asking (fibonacciRun .asking) cancelFibonacci "/fibonacci" fibonacci
      (actionRequest .asking fibonacci.cancel 9 cancelFibonacci (fibonacciRun .asking)).1.void
      (actionRequest .asking fibonacci.cancel 9 cancelFibonacci (fibonacciRun .asking)).2 := by
  refine (answered_requests (.of_reachable asked) askedFresh ?_ (by decide +kernel)).mpr ?_
  · decide +kernel
  · rintro ⟨-, requested, -, -, cause, ⟨⟩⟩

/-- A refused answer leaves the goal cancelling. -/
theorem answered_requests_refusing :
    Reachable .unanswering {} 5 (fibonacciRun .unanswering) ∧
      (fibonacciRun .unanswering).bridge.actionServers.lookup "/fibonacci" = some fibonacci ∧
      ¬ Faithful .unanswering (fibonacciRun .unanswering) cancelFibonacci "/fibonacci" fibonacci
        (actionRequest .unanswering fibonacci.cancel 9 cancelFibonacci (fibonacciRun .unanswering)).1.void
        (actionRequest .unanswering fibonacci.cancel 9 cancelFibonacci (fibonacciRun .unanswering)).2 := by
  have reached : Reachable .unanswering {} 5 (fibonacciRun .unanswering) :=
    .step _ (.step _ (.step _ .here (by decide +kernel) trivial) (by decide +kernel) trivial)
      (by decide +kernel) trivial
  have fresh : Fresh (fibonacciRun .unanswering).log :=
    ⟨by decide +kernel, by decide +kernel, by decide +kernel⟩
  have found : (fibonacciRun .unanswering).bridge.actionServers.lookup "/fibonacci" =
      some fibonacci := by
    decide +kernel
  refine ⟨reached, found, fun faithful => ?_⟩
  refine ((Passed.of_reachable reached).cancel_iff 9 fresh found).mp faithful
    ⟨rfl, "01010101010101010101010101010101", ?_, ?_, ⟨"timeout"⟩, ?_⟩
  · decide +kernel
  · decide +kernel
  · rfl

end Rosbridge
