import Rosbridge.Properties.Requests
import Rosbridge.Refine.Messages

/-!
Native requests of the services that WebSocket clients advertise.

Owns: that a pending request stays until it is answered, overdue or without a service; that
only a service response of its owner answers it; and that no request takes the identifier of
a pending one.
-/

set_option autoImplicit false

namespace Rosbridge

open Foundation Program

/-! ### Pending requests -/

/-- A request that was pending when the history was `base` is over. -/
inductive Concluded (base : History) (request : ExternalRequest) (log : History) : Prop where
  | answered {entries : History} {values : Json} (grown : log = base ++ entries)
      (taken : .respond request.entity request.request values (.ok ()) ∈ entries)
  | overdue {entries : History} {now : Instant} (grown : log = base ++ entries)
      (read : .instant now ∈ entries) (due : request.expires ≤ now)
      (discarded : .discardRequest request.entity request.request ∈ entries)
  | removed {entries : History} (grown : log = base ++ entries)
      (destroyed : .destroy request.entity ∈ entries)

section Pending

variable {env : Environment} {base : History} {m before after : Machine} {move : Move}
  {id : String} {request : ExternalRequest}

theorem Concluded.grow {log : History} (concluded : Concluded base request before.log)
    (grown : before.log <+: log) : Concluded base request log := by
  obtain ⟨more, rfl⟩ := grown
  cases concluded with
  | @answered entries values same taken =>
      exact .answered (by rw [same, List.append_assoc]) (List.mem_append_left more taken)
  | @overdue entries now same read due discarded =>
      exact .overdue (by rw [same, List.append_assoc]) (List.mem_append_left more read) due
        (List.mem_append_left more discarded)
  | @removed entries same destroyed =>
      exact .removed (by rw [same, List.append_assoc]) (List.mem_append_left more destroyed)

/-- What a move can do to a pending request. -/
theorem Move.request_stays (enabled : move.Enabled env m) (served : RequestsServed m.bridge)
    (found : m.bridge.external.lookup id = some request) :
    (move.effect m.bridge).external.lookup id = some request ∨
      (∃ values, .respond request.entity request.request values (.ok ()) ∈ move.entries) ∨
      move = .requestExpired id request ∨ .destroy request.entity ∈ move.entries := by
  obtain ⟨service, number, known, owner, entity, same, within⟩ := served id request found
  cases move
  case forwarded next other reading =>
    obtain ⟨current, known', -, -, counted⟩ := enabled
    refine .inl ((AList.lookup_insert_ne fun taken => ?_).trans found)
    obtain ⟨services, numbers⟩ := externalId_injective (same.symm.trans taken)
    rw [services, known'] at known
    cases known
    omega
  case answered other waiting values =>
    by_cases here : id = other
    · subst here
      cases found.symm.trans enabled
      exact .inr (.inl ⟨values, List.mem_singleton_self _⟩)
    · exact .inl ((AList.lookup_erase_ne here).trans found)
  case requestExpired other waiting =>
    by_cases here : id = other
    · subst here
      cases found.symm.trans enabled
      exact .inr (.inr (.inl rfl))
    · exact .inl ((AList.lookup_erase_ne here).trans found)
  case serviceRemoved name gone =>
    by_cases here : request.entity = gone.entity
    · exact .inr (.inr (.inr (by rw [here]; exact List.mem_singleton_self _)))
    · refine .inl ((AList.lookup_retain _ _ _).trans ?_)
      exact Option.filter_eq_some_iff.mpr ⟨found, decide_eq_true here⟩
  case requestsDropped gone =>
    refine .inl ((AList.lookup_retain _ _ _).trans ?_)
    refine Option.filter_eq_some_iff.mpr ⟨found, decide_eq_true ?_⟩
    rw [← owner]
    exact enabled _ service known
  all_goals exact .inl found

/-- Only time makes a request overdue. -/
theorem Cause.Allows.overdue {cause : Cause} (allowed : cause.Allows m (.requestExpired id request)) :
    ∃ now, cause = .time now ∧ request.expires ≤ now := by
  by_cases calm : cause.Calm
  · exact allowed.timed calm trivial
  · cases cause with
    | connect _ => cases allowed
    | poll =>
        rcases allowed with reading | ⟨events, ⟨⟩⟩
        exact reading.elim
    | event event =>
        cases event with
        | response entity sequence values =>
            rcases allowed with ⟨call, shown, -, -, same⟩ | ⟨call, -, replies⟩
            · cases same
            · cases replies
        | message _ _ => exact absurd trivial calm
        | request _ _ _ => exact absurd trivial calm
    | command _ _ => exact absurd trivial calm
    | time _ => exact absurd trivial calm
    | upkeep => exact absurd trivial calm
    | disconnect _ => exact absurd trivial calm

theorem Caused.request_stays {label : Cause × Move} (caused : Caused env base label before after)
    (grown : base <+: before.log) (shaped : Shaped before)
    (found : before.bridge.external.lookup id = some request) :
    after.bridge.external.lookup id = some request ∨ Concluded base request after.log := by
  obtain ⟨noted, allowed, middle, sent, enabled, rfl⟩ := caused
  obtain ⟨next, failed, tables⟩ := sent.tables
  obtain ⟨entries, same⟩ := grown
  obtain ⟨more, same'⟩ := sent.log_grows
  have delta : middle.log ++ label.2.entries = base ++ (entries ++ more ++ label.2.entries) := by
    rw [← same', ← same]
    simp only [List.append_assoc]
  have found' : middle.bridge.external.lookup id = some request := by
    rw [tables]
    exact found
  rcases Move.request_stays enabled (sent.shaped shaped).external found' with
    kept | ⟨values, answered⟩ | overdue | destroyed
  · exact .inl kept
  · exact .inr (.answered delta (List.mem_append_right _ answered))
  · rw [overdue] at allowed
    obtain ⟨now, timed, due⟩ := allowed.overdue
    rw [timed] at noted
    obtain ⟨earlier, same'', read⟩ := noted
    obtain rfl : earlier = entries := List.append_cancel_left (same''.symm.trans same.symm)
    refine .inr (.overdue delta (List.mem_append_left _ (List.mem_append_left _ read)) due ?_)
    rw [overdue]
    exact List.mem_append_right _ (List.mem_singleton_self _)
  · exact .inr (.removed delta (List.mem_append_right _ destroyed))

/-- A pending request stays pending until it is over. -/
theorem Follows.request_stays {allowed : Cause × Move → Prop}
    (run : Follows (Caused env m.log) allowed m after) (shaped : Shaped m)
    (found : m.bridge.external.lookup id = some request) :
    after.bridge.external.lookup id = some request ∨ Concluded m.log request after.log := by
  refine (run.invariant (fun machine => Shaped machine ∧ m.log <+: machine.log ∧
    (machine.bridge.external.lookup id = some request ∨ Concluded m.log request machine.log))
    ?_ ⟨shaped, List.prefix_rfl, .inl found⟩).2.2
  rintro label before after - caused ⟨shaped, grown, pending⟩
  refine ⟨caused.taken.shaped shaped, grown.trans caused.taken.log_grows, ?_⟩
  rcases pending with found | concluded
  · exact caused.request_stays grown shaped found
  · exact .inr (concluded.grow caused.taken.log_grows)

end Pending

/-! ### Answers -/

section Answers

variable {env : Environment} {m before after : Machine} {move : Move} {passes : Move → Prop}
  {entity : Entity} {number : Nat} {values : Json} {reply : Except Error Unit}

/-- The entity of a service that some client advertises. -/
def Bridge.Serves (b : Bridge) (entity : Entity) : Prop :=
  ∃ name service, b.services.lookup name = some service ∧ service.entity = entity

/-- A response is given by an action server, or to a pending request. -/
theorem Move.responds (enabled : move.Enabled env m) (served : GoalsServed m.bridge)
    (member : .respond entity number values reply ∈ move.entries) :
    (∃ action server, m.bridge.actionServers.lookup action = some server ∧
      entity ∈ server.entities) ∨
    ∃ id request, m.bridge.external.lookup id = some request ∧ entity = request.entity ∧
      number = request.request ∧ (move = .answered id request values ∨
        ∃ cause, move = .answerRefused id request values cause) := by
  have among {action : String} {server : ActionServer}
      (found : m.bridge.actionServers.lookup action = some server)
      (among : entity ∈ [server.send, server.result, server.cancel]) :
      ∃ action server, m.bridge.actionServers.lookup action = some server ∧
        entity ∈ server.entities := by
    refine ⟨action, server, found, ?_⟩
    simp only [List.mem_cons, List.not_mem_nil, or_false] at among
    rcases among with rfl | rfl | rfl <;> simp [ActionServer.entities]
  have parked {key : String} {goal : ServerGoal} {request : Entity × Nat}
      (found : m.bridge.serverGoals.lookup key = some goal) (member : request ∈ goal.requests)
      (here : entity = request.1) :
      ∃ action server, m.bridge.actionServers.lookup action = some server ∧
        entity ∈ server.entities := by
    obtain ⟨server, serves, -, result⟩ := served key goal found
    exact among serves (by rw [here, result request member]; simp)
  cases move
  case observed entries => exact (enabled _ member).elim
  case aborted creations refusal =>
    rcases List.mem_append.mp member with made | gone
    · rcases List.mem_append.mp made with created | refused
      · rcases enabled.1 _ created with inert | vain | some
        · exact inert.elim
        · exact vain.elim
        · cases some
      · obtain ⟨pair, -, ⟨⟩⟩ := List.mem_map.mp refused
    · obtain ⟨entity, -, ⟨⟩⟩ := List.mem_map.mp gone
  case used entry =>
    obtain rfl := List.mem_singleton.mp member
    cases enabled with
    | refusal found within => exact .inl (among found within)
  case answered id request shown =>
    obtain ⟨⟩ := List.mem_singleton.mp member
    exact .inr ⟨id, request, enabled, rfl, rfl, .inl rfl⟩
  case answerRefused id request shown cause =>
    obtain ⟨⟩ := List.mem_singleton.mp member
    exact .inr ⟨id, request, enabled, rfl, rfl, .inr ⟨cause, rfl⟩⟩
  case actionRemoved action server closed replies =>
    obtain ⟨found, -, listed, asked⟩ := enabled
    rcases List.mem_append.mp member with answered | gone
    · obtain ⟨⟨other, asker, answer⟩, within, ⟨⟩⟩ := List.mem_map.mp answered
      have request : (other, asker) ∈ closed.flatMap fun entry => entry.2.requests := by
        rw [← asked]
        exact List.mem_map.mpr ⟨_, within, rfl⟩
      obtain ⟨⟨key, goal⟩, inClosed, waiting⟩ := List.mem_flatMap.mp request
      exact .inl (parked ((listed key goal).mp inClosed).1 waiting rfl)
    · obtain ⟨entity, -, ⟨⟩⟩ := List.mem_map.mp gone
  case requestAnswered other asker shown =>
    obtain ⟨⟩ := List.mem_singleton.mp member
    obtain ⟨action, server, found, member⟩ := enabled
    exact .inl (among found member)
  case goalAdmitted key goal other asker =>
    obtain ⟨⟩ := List.mem_singleton.mp member
    obtain ⟨-, -, -, -, -, server, found, -, rfl, -⟩ := enabled
    exact .inl (among found (by simp))
  case resultRepeated key goal stored other asker =>
    obtain ⟨⟩ := List.mem_singleton.mp member
    obtain ⟨-, -, action, server, found, rfl⟩ := enabled
    exact .inl (among found (by simp))
  case parkedAnswered key goal request shown =>
    obtain ⟨⟩ := List.mem_singleton.mp member
    exact .inl (parked enabled.1 (List.mem_of_getLast? enabled.2) rfl)
  case parkedRefused key goal request shown cause =>
    obtain ⟨⟩ := List.mem_singleton.mp member
    exact .inl (parked enabled.1 (List.mem_of_getLast? enabled.2) rfl)
  all_goals simp [Move.entries] at member

/-- No service is an entity of an action server. -/
theorem Bridge.Serves.apart {b : Bridge} (serves : b.Serves entity) (distinct : b.held.Nodup)
    {action : String} {server : ActionServer}
    (found : b.actionServers.lookup action = some server) : entity ∉ server.entities := by
  obtain ⟨name, service, known, rfl⟩ := serves
  intro member
  rw [held_erase_server found] at distinct
  have held : service.entity ∈
      { b with actionServers := b.actionServers.erase action }.held :=
    Bridge.mem_held.mpr (.inr (.inr (.inl ⟨name, service, known, rfl⟩)))
  exact Multiset.disjoint_left.mp (Multiset.nodup_add.mp distinct).2.2
    (Multiset.mem_coe.mpr member) held

/-- A service goes only with its entity. -/
theorem Move.keeps_serves (enabled : move.Enabled env m) (serves : m.bridge.Serves entity) :
    (move.effect m.bridge).Serves entity ∨ .destroy entity ∈ move.entries := by
  obtain ⟨name, service, known, rfl⟩ := serves
  cases move
  case serviceOpened other opened =>
    refine .inl ⟨name, service, (AList.lookup_insert_ne ?_).trans known, rfl⟩
    rintro rfl
    exact enabled.1 ((AList.mem_iff_lookup _ _).mpr ⟨service, known⟩)
  case serviceRemoved other removed =>
    by_cases here : name = other
    · subst here
      cases known.symm.trans enabled
      exact .inr (List.mem_singleton_self _)
    · exact .inl ⟨name, service, (AList.lookup_erase_ne here).trans known, rfl⟩
  case forwarded next request reading =>
    by_cases here : name = request.service
    · refine .inl ⟨name, { service with nextRequest := service.nextRequest + 1 }, ?_, rfl⟩
      show (AList.alter _ _ _).lookup name = _
      rw [AList.lookup_alter, if_pos here, ← here, known]
      rfl
    · refine .inl ⟨name, service, ?_, rfl⟩
      show (AList.alter _ _ _).lookup name = _
      rw [AList.lookup_alter, if_neg here]
      exact known
  all_goals exact .inl ⟨name, service, known, rfl⟩

/-- Whether a response on the entity of a service is one of these moves. -/
def Responding (passes : Move → Prop) (env : Environment) (m : Machine) (entity : Entity)
    (number : Nat) (values : Json) : Prop :=
  ∃ before id request move, Follows (Transition env) passes m before ∧
    before.bridge.external.lookup id = some request ∧ entity = request.entity ∧
    number = request.request ∧ passes move ∧
    (move = .answered id request values ∨ ∃ cause, move = .answerRefused id request values cause)

theorem Transition.responses (taken : Transition env move before after) (pass : passes move)
    (run : Follows (Transition env) passes m before) (shaped : Shaped before)
    (balanced : Balanced before) (fresh : Fresh before.log)
    (serves : before.bridge.Serves entity ∨ entity ∈ before.log.destroyed)
    {entries : History} (grown : before.log = m.log ++ entries)
    (responding : ∀ number values reply, .respond entity number values reply ∈ entries →
      Responding passes env m entity number values) :
    ∃ entries, after.log = m.log ++ entries ∧
      ∀ number values reply, .respond entity number values reply ∈ entries →
        Responding passes env m entity number values := by
  obtain ⟨said, added, spoken⟩ := taken.adds
  refine ⟨entries ++ (said ++ move.entries), by rw [added, grown, List.append_assoc], ?_⟩
  intro number values reply member
  rcases List.mem_append.mp member with old | new
  · exact responding number values reply old
  rcases List.mem_append.mp new with inSaid | inMove
  · exact absurd trivial (spoken _ inSaid)
  obtain ⟨middle, sent, enabled, -⟩ := taken
  obtain ⟨next, failed, tables⟩ := sent.tables
  have goals : GoalsServed middle.bridge := (sent.shaped shaped).served
  obtain ⟨exact, distinct, -⟩ := balanced.lifecycle fresh
  rcases Move.responds enabled goals inMove with ⟨action, server, found, within⟩ |
    ⟨id, request, found, same, same', is⟩
  · rw [tables] at found
    have found' : before.bridge.actionServers.lookup action = some server := found
    rcases serves with serves | destroyed
    · exact absurd within (serves.apart distinct found')
    · have held : entity ∈ before.bridge.held :=
        Bridge.mem_held.mpr (.inr (.inr (.inr (.inr (.inr ⟨action, server, found', within⟩)))))
      exact absurd destroyed ((exact entity).mp held).2
  · rw [tables] at found
    exact ⟨before, id, request, move, run, found, same, same', pass, is⟩

theorem Transition.keeps_serves (taken : Transition env move before after)
    (serves : before.bridge.Serves entity ∨ entity ∈ before.log.destroyed) :
    after.bridge.Serves entity ∨ entity ∈ after.log.destroyed := by
  obtain ⟨middle, sent, enabled, rfl⟩ := taken
  have gone {entry : Entry} (within : entry ∈ middle.log ++ move.entries)
      (destroys : entry.destroyed? = some entity) :
      entity ∈ History.destroyed (middle.log ++ move.entries) :=
    List.mem_filterMap.mpr ⟨entry, within, destroys⟩
  rcases serves with serves | destroyed
  · obtain ⟨next, failed, tables⟩ := sent.tables
    have here : middle.bridge.Serves entity := by
      rw [tables]
      exact serves
    exact (Move.keeps_serves enabled here).imp id fun destroyed =>
      gone (List.mem_append_right _ destroyed) rfl
  · obtain ⟨entry, within, destroys⟩ := List.mem_filterMap.mp destroyed
    exact .inr (gone (List.mem_append_left _ (sent.log_grows.subset within)) destroys)

/-- Every response on the entity of a service answers a pending request. -/
theorem Follows.responses (run : Follows (Transition env) passes m after) (shaped : Shaped m)
    (balanced : Balanced m) (fresh : Fresh after.log) (serves : m.bridge.Serves entity) :
    ∃ entries, after.log = m.log ++ entries ∧
      ∀ number values reply, .respond entity number values reply ∈ entries →
        Responding passes env m entity number values := by
  refine (run.inherited (fun machine => Fresh machine.log) (fun machine =>
    Follows (Transition env) passes m machine ∧ Shaped machine ∧ Balanced machine ∧
    (machine.bridge.Serves entity ∨ entity ∈ machine.log.destroyed) ∧
    ∃ entries, machine.log = m.log ++ entries ∧
      ∀ number values reply, .respond entity number values reply ∈ entries →
        Responding passes env m entity number values) ?_ ?_ fresh
    ⟨.refl m, shaped, balanced, .inl serves, [], (List.append_nil _).symm, by simp⟩).2.2.2.2
  · exact fun _ _ _ taken fresh => fresh.inherit taken.log_grows
  · rintro move before after pass taken fresh
      ⟨run, shaped, balanced, serves, entries, grown, responding⟩
    exact ⟨run.trans (.single taken pass), taken.shaped shaped,
      taken.balanced shaped fresh balanced, taken.keeps_serves serves,
      taken.responses pass run shaped balanced (fresh.inherit taken.log_grows) serves grown
        responding⟩

end Answers

/-! ### Service responses -/

section Commands

variable {env : Environment} {m after : Machine} {owner : Connection} {v : Object}

/-- The service response that answers a pending request. -/
inductive Answering (m : Machine) : Operation → Entity → Nat → Json → Prop where
  | response {owner : Connection} {v : Object} {id : String} {request : ExternalRequest}
      (asks : required (.obj v) "op" = .ok "service_response")
      (identified : required (.obj v) "id" = .ok id)
      (pending : m.bridge.external.lookup id = some request) (owned : request.owner = owner)
      (addressed : name (.obj v) "service" = .ok request.service) :
      Answering m (.command owner v) request.entity request.request ((Json.obj v).index "values")

/-- A command forwards nothing, so what is pending was pending before. -/
theorem Move.By.pending {before : Machine} (run : Follows (Transition env) (Move.By owner) m before)
    {id : String} {request : ExternalRequest}
    (found : before.bridge.external.lookup id = some request) :
    m.bridge.external.lookup id = some request := by
  revert id request
  refine run.invariant (fun machine => ∀ {id : String} {request : ExternalRequest},
    machine.bridge.external.lookup id = some request →
      m.bridge.external.lookup id = some request) ?_ id
  intro move before after own taken earlier id request found
  obtain ⟨next, failed, tables⟩ := taken.bridge
  rw [tables] at found
  refine earlier ?_
  cases move
  case answered other waiting values =>
    rw [Move.effect, AList.lookup_erase_if] at found
    split at found
    · cases found
    · exact found
  case serviceRemoved name service =>
    rw [Move.effect, AList.lookup_retain, Option.filter_eq_some_iff] at found
    exact found.1
  all_goals first | exact found | exact own.elim

/-- Whatever answers a pending request of a service is a service response that names it. -/
theorem operation_responses (op : Operation) (shaped : Shaped m) (balanced : Balanced m)
    (returns : ¬ (perform env op m).1.IsPanic) (fresh : Fresh (m.next env op).log)
    {entity : Entity} (serves : m.bridge.Serves entity) :
    ∃ entries, (m.next env op).log = m.log ++ entries ∧
      ∀ number values reply, .respond entity number values reply ∈ entries →
        Answering m op entity number values := by
  by_cases commanded : ∃ owner v, op = .command owner v
  · obtain ⟨owner, v, rfl⟩ := commanded
    obtain ⟨entries, grown, responding⟩ :=
      Follows.responses (command_next shaped returns) shaped balanced fresh serves
    refine ⟨entries, grown, fun number values reply member => ?_⟩
    obtain ⟨before, id, request, move, run, found, rfl, rfl, under, is⟩ :=
      responding number values reply member
    have pending := Move.By.pending (run.mono fun _ => Move.Under.by) found
    have answers : required (.obj v) "op" = .ok "service_response" ∧
        request.owner = owner ∧ required (.obj v) "id" = .ok id ∧
        name (.obj v) "service" = .ok request.service ∧
        values = (Json.obj v).index "values" := by
      rcases is with rfl | ⟨cause, rfl⟩ <;>
        rcases under with beside | ⟨other, ⟨⟩⟩ | ⟨-, advertises⟩ | ⟨asks, responds⟩ | ⟨-, completes⟩ <;>
        first | exact ⟨asks, responds⟩ | exact beside.elim | exact advertises.elim |
          exact completes.elim
    obtain ⟨asks, owned, identified, addressed, rfl⟩ := answers
    exact .response asks identified pending owned addressed
  · obtain ⟨entries, grown, responding⟩ :=
      Follows.responses (performed_next op shaped returns).during shaped balanced fresh serves
    refine ⟨entries, grown, fun number values reply member => ?_⟩
    obtain ⟨before, id, request, move, -, -, -, -, during, rfl | ⟨cause, rfl⟩⟩ :=
      responding number values reply member
    all_goals
      exact absurd trivial (during.uncommanded fun owner v same => commanded ⟨owner, v, same⟩)

/-- The service response of the owner to a pending request. -/
structure Answering.Proper (m : Machine) (owner : Connection) (v : Json) (id : String)
    (request : ExternalRequest) : Prop where
  connected : owner ∈ m.bridge.outputs
  asks : required v "op" = .ok "service_response"
  identified : required v "id" = .ok id
  pending : m.bridge.external.lookup id = some request
  owned : request.owner = owner
  addressed : name v "service" = .ok request.service
  succeeds : (v.index "result").asBool = some true

section Proper

variable {v : Json} {id : String} {request : ExternalRequest}

theorem requestId_required (identified : required v "id" = .ok id) :
    requestId v = .ok (some id) := by
  obtain ⟨value, present, text⟩ := Option.bind_eq_some_iff.mp (required_ok identified)
  unfold requestId
  rw [present]
  simp only [text]

/-- A proper response reaches the backend once. It ends the request if it is taken; a
refusal leaves the request pending. -/
theorem serviceResponse_exact (proper : Answering.Proper m owner v id request) :
    wp (serviceResponse env owner v)
      (fun outcome after =>
        (env.respond m.log request.entity request.request (v.index "values") = .ok () ∧
          outcome = .ok () ∧
          after = { bridge := { m.bridge with external := m.bridge.external.erase id }
                    log := m.log ++
                      [.respond request.entity request.request (v.index "values") (.ok ())] }) ∨
        ∃ cause,
          env.respond m.log request.entity request.request (v.index "values") = .error cause ∧
          outcome = .error cause ∧
          after = { m with log := m.log ++
            [.respond request.entity request.request (v.index "values") (.error cause)] }) m := by
  obtain ⟨-, -, identified, pending, owned, addressed, succeeds⟩ := proper
  unfold serviceResponse
  rw [identified, addressed]
  refine wp_bind_lift nofun fun other same => ?_
  cases same
  refine wp_bind_lift nofun fun other same => ?_
  cases same
  refine wp_bind_tables ?_
  simp only [pending]
  refine wp_bind_ensure (fun foreign => ?_) fun _ => ?_
  · simp [owned] at foreign
  simp only [succeeds]
  refine wp_bind_ensure nofun fun _ => ?_
  refine wp_bind_call (fun cause refused => ?_) fun _ taken => ?_
  · exact .inr ⟨cause, refused, rfl, rfl⟩
  · exact .inl ⟨taken, rfl, rfl⟩

end Proper

/-- An answer is handed to the backend. It ends the request if it is taken; a refusal leaves
the request pending. -/
structure Tried (env : Environment) (m : Machine) (id : String) (request : ExternalRequest)
    (values : Json) (after : Machine) : Prop where
  taken : env.respond m.log request.entity request.request values = .ok () →
    after =
      { bridge := { m.bridge with external := m.bridge.external.erase id }
        log := m.log ++ [.respond request.entity request.request values (.ok ())] }
  refused : ∀ cause, env.respond m.log request.entity request.request values = .error cause →
    after.bridge.external = m.bridge.external ∧
      m.log ++ [.respond request.entity request.request values (.error cause)] <+: after.log

/-- What a proper response does to the bridge. -/
theorem response_next {id : String} {request : ExternalRequest}
    (proper : Answering.Proper m owner (.obj v) id request) :
    Tried env m id request ((Json.obj v).index "values") (m.next env (.command owner v)) := by
  show wp (command env owner (.obj v))
    (fun _ after => Tried env m id request ((Json.obj v).index "values") after) m
  refine wp_command proper.connected proper.asks (requestId_required proper.identified) rfl ?_
  refine wp_mono (serviceResponse_exact proper) ?_
  rintro outcome after (⟨taken, rfl, rfl⟩ | ⟨cause, refused, rfl, rfl⟩)
  · refine ⟨fun _ => rfl, fun cause refused => ?_⟩
    rw [taken] at refused
    cases refused
  · refine wp_send env fun after sent => ?_
    obtain ⟨next, failed, tables⟩ := sent.tables
    refine ⟨fun taken => ?_, fun other same => ?_⟩
    · rw [refused] at taken
      cases taken
    · cases refused.symm.trans same
      exact ⟨by rw [tables], sent.log_grows⟩

end Commands

/-! ### Correlation -/

/-- A move that files no request under the identifier of a pending one. -/
def Filing (env : Environment) (move : Move) (before after : Machine) : Prop :=
  Transition env move before after ∧ ∀ number request reading,
    move = .forwarded number request reading →
      externalId request.service number ∉ before.bridge.external

theorem Follows.filing {env : Environment} {passes : Move → Prop} {m after : Machine}
    (run : Follows (Transition env) passes m after) (shaped : Shaped m) :
    Follows (Filing env) passes m after := by
  obtain ⟨labels, run, pass⟩ := run
  refine ⟨labels, ?_, pass⟩
  clear pass
  induction run with
  | nil => exact .nil _
  | cons taken _ inductionHypothesis =>
      refine .cons ⟨taken, ?_⟩ (inductionHypothesis (taken.shaped shaped))
      rintro number request reading rfl
      obtain ⟨middle, sent, enabled, -⟩ := taken
      obtain ⟨next, failed, tables⟩ := sent.tables
      have absent := (sent.shaped shaped).external_absent enabled
      rwa [tables] at absent

/-- Every pending request belongs to a service that its owner advertises, under a number that
the service has given out, so the next number is free. No operation files a request under the
identifier of a pending one. What is pending stays so until an answer is taken, its time is
over or its service goes. Only a service response of the owner that names the service and the
identifier is handed to the backend: it ends the request if it is taken, and otherwise leaves
it pending. If requests arrive once, none is answered twice. -/
theorem request_correlation {env : Environment} {access : Access} {timeout : Duration}
    {m : Machine} (reached : Reachable env access timeout m) {op : Operation}
    (returns : ¬ (perform env op m).1.IsPanic) (fresh : Fresh (m.next env op).log) :
    RequestsServed m.bridge ∧
    (∀ name service number, m.bridge.services.lookup name = some service →
      service.nextRequest < number → externalId name number ∉ m.bridge.external) ∧
    Follows (Filing env) (fun _ => True) m (m.next env op) ∧
    (∀ id request, m.bridge.external.lookup id = some request →
      (m.next env op).bridge.external.lookup id = some request ∨
        Concluded m.log request (m.next env op).log) ∧
    (∀ entity, m.bridge.Serves entity → ∃ entries, (m.next env op).log = m.log ++ entries ∧
      ∀ number values reply, .respond entity number values reply ∈ entries →
        Answering m op entity number values) ∧
    (∀ owner v id request, op = .command owner v →
      Answering.Proper m owner (.obj v) id request →
        Tried env m id request ((Json.obj v).index "values") (m.next env op)) ∧
    (Asked m.log → m.log.answered.Nodup) := by
  have shaped := Onward.shaped reached (shaped_new access timeout)
  have performed := performed_next op shaped returns
  have before : Fresh m.log := fresh.inherit (reach_log_grows performed.follows)
  have balanced := ReachableBy.balanced reached before
  refine ⟨shaped.external, ?_, Follows.filing performed.follows shaped, ?_, ?_, ?_, ?_⟩
  · intro name service number known later present
    obtain ⟨request, found⟩ := (AList.mem_iff_lookup _ _).mp present
    obtain ⟨current, other, known', -, -, same, within⟩ := shaped.external _ request found
    obtain ⟨names, numbers⟩ := externalId_injective same
    rw [← names, known] at known'
    cases known'
    omega
  · exact fun id request found =>
      Follows.request_stays (operation_caused op shaped returns) shaped found
  · exact fun entity serves => operation_responses op shaped balanced returns fresh serves
  · rintro owner v id request rfl proper
    exact response_next proper
  · exact fun asked => ((Reachable.accounted reached ⟨before, asked⟩).conserved.nodup asked).1

/-! ### A service of a client -/

def addServer : Operation :=
  .command 0 [("op", .str "advertise_service"), ("service", .str "/add"),
    ("type", .str "demo/srv/Add")]

/-- The answer to the first request. -/
def addResponse : Object :=
  [("op", .str "service_response"), ("id", .str "service_request:/add:1"),
    ("service", .str "/add"), ("result", .bool true), ("values", .obj [])]

/-- Every tick brings a request for the first service of a run. -/
def Environment.calling : Environment :=
  { Environment.steady with poll := fun log => .ok [.request 1 log.length (.obj [])] }

/-- The first request is answered. -/
theorem request_correlation_calling :
    let m := (((Machine.new {} 5).next .calling (.connect 0)).next .calling addServer).next
      .calling .tick
    (m.next .calling (.command 0 addResponse)).log =
      m.log ++ [.respond 1 2 (.obj []) (.ok ())] := by
  intro m
  have reached : Reachable .calling {} 5 m :=
    .step _ (.step _ (.step _ .here (by decide +kernel) trivial) (by decide +kernel) trivial)
      (by decide +kernel) trivial
  have fresh : Fresh (m.next .calling (.command 0 addResponse)).log :=
    ⟨by decide +kernel, by decide +kernel, by decide +kernel⟩
  have waiting : (m.bridge.external.lookup "service_request:/add:1").map
      (fun request => (request.owner, request.entity, request.request, request.service)) =
        some (0, 1, 2, "/add") := by
    decide +kernel
  obtain ⟨request, pending, same⟩ := Option.map_eq_some_iff.mp waiting
  simp only [Prod.mk.injEq] at same
  obtain ⟨owned, entity, number, service⟩ := same
  have proper : Answering.Proper m 0 (.obj addResponse) "service_request:/add:1" request :=
    ⟨by decide +kernel, by decide, by decide, pending, owned, by rw [service]; decide, rfl⟩
  have correlated := request_correlation reached (by decide +kernel) fresh
  have tried := correlated.2.2.2.2.2.1 0 addResponse _ request rfl proper
  have answered := congrArg Machine.log (tried.taken rfl)
  rw [entity, number] at answered
  exact answered

end Rosbridge
