import Rosbridge.Refine.Rules

/-!
The service handlers take moves.
-/

set_option autoImplicit false

namespace Rosbridge

open Foundation Program

variable {env : Environment} {owner : Connection} {v : Json} {m : Machine}

/-! ### Calls of clients -/

theorem wp_bind_requestOrDestroy {β : Type} {entity : Entity} {args : Json}
    {next : Int → Step β} {post : Outcome Error β → Machine → Prop}
    (onError : ∀ cause, post (.error cause)
      { m with log := m.log ++ [.request entity args (.error cause)] ++ [.destroy entity] })
    (onOk : ∀ sequence, wp (next sequence) post
      { m with log := m.log ++ [.request entity args (.ok sequence)] }) :
    wp (requestOrDestroy env entity args >>= next) post m := by
  unfold requestOrDestroy
  rw [wp_bind, wp_bind, wp_attempt]
  refine wp_call_last (fun cause _ => ?_) fun sequence _ => ?_
  · exact onError cause
  · exact onOk sequence

theorem requestArgs_index (key : String) :
    (requestArgs v).index key = (v.index "args").index key := by
  unfold requestArgs Json.index
  cases v.get "args" <;> rfl

/-- A successful `call_service` adds one call; a failed one leaves nothing behind. -/
theorem callService_spec (connected : owner ∈ m.bridge.outputs)
    (listed : ∀ service, name v "service" = .ok service →
      onList m.bridge.access.services service = true) :
    wp (callService env owner v)
      (fun outcome after =>
        match outcome with
        | .ok _ =>
            ∃ middle key call typ args reading timeout,
              middle.bridge = m.bridge ∧
              Follows (Transition env) Move.Harmless m middle ∧
              Transition env (.called key call typ args reading) middle after ∧
              call.owner = owner ∧ requestId v = .ok call.id ∧
              name v "service" = .ok call.service ∧ Options.parse v = .ok call.options ∧
              callTimeout m.bridge.timeout v = .ok timeout ∧
              Instant.add? reading timeout = some call.expires
        | .error _ => Follows (Transition env) Move.Harmless m after
        | .panic _ =>
            ∃ timeout, callTimeout m.bridge.timeout v = .ok timeout ∧
              Overflows env timeout m after) m := by
  have start : Follows (Transition env) Move.Harmless m m := .refl m
  unfold callService
  refine wp_bind_lift (fun _ _ => start) fun id identified => ?_
  refine wp_bind_lift (fun _ _ => start) fun service named => ?_
  refine wp_bind_lift (fun _ _ => start) fun options parsed => ?_
  refine (reads_resolve env v _ _).wp_bind start (fun _ => trivial)
    (fun _ _ _ reach => reach) fun typ m₁ _ same reach => ?_
  refine wp_bind_tables ?_
  refine wp_bind_lift (fun _ _ => reach) fun _ allowed => ?_
  refine wp_bind_tables ?_
  refine wp_bind_lift (fun _ _ => reach) fun timeout timed => ?_
  rw [same] at timed
  obtain ⟨cooked, permitted⟩ := Access.parameterService_ok allowed
  have permits : m₁.bridge.access.Permits typ (requestArgs v) := by
    intro restricted rosapi other
    rw [requestArgs_index]
    exact permitted restricted rosapi other
  have granted (reply : Except Error Entity) :
      (Entry.client service typ reply).Granted m₁.bridge.access := by
    refine ⟨?_, cooked⟩
    rw [same]
    exact listed service named
  refine wp_bind_call (fun cause _ => ?_) fun entity _ => ?_
  · exact Move.refuse reach trivial trivial (granted _)
  refine wp_bind_requestOrDestroy (fun cause => ?_) fun sequence => ?_
  · have undone := Move.take
      (.aborted [.client service typ (.ok entity)] (some (entity, requestArgs v, cause)))
      reach trivial rfl (by simp [Move.Enabled, Entry.created?, granted, permits])
    simpa [Move.entries, Move.effect, Entry.created?] using undone
  refine wp_bind_after (fun site past => ?_) fun reading expires sum => ?_
  · refine ⟨timeout, timed, overflows ((reach_log_grows reach).trans ?_) past⟩
    exact ⟨_, (List.append_assoc _ _ _).symm⟩
  have connected₁ : owner ∈ m₁.bridge.outputs := by
    rw [same]
    exact connected
  exact ⟨m₁, (entity, sequence), _, typ, requestArgs v, reading, timeout, same, reach,
    Move.transition_of _ rfl rfl (by simp [Move.entries, update])
      ⟨connected₁, granted _, permits, rfl⟩, rfl, identified, named, parsed, timed, sum⟩

/-! ### Services of clients -/

theorem removeService_spec (env : Environment) {service : String} :
    wp (removeService owner service)
      (fun outcome after =>
        match outcome with
        | .ok _ =>
            ∃ current, m.bridge.services.lookup service = some current ∧
              current.owner = owner ∧ Transition env (.serviceRemoved service current) m after
        | .error _ =>
            after = m ∧ ∀ current, m.bridge.services.lookup service = some current →
              current.owner ≠ owner
        | .panic _ => False) m := by
  unfold removeService
  refine wp_bind_tables ?_
  cases found : m.bridge.services.lookup service with
  | none => exact ⟨rfl, by simp⟩
  | some current =>
      refine wp_bind_ensure (fun foreign => ⟨rfl, ?_⟩) fun owned => ?_
      · rintro other ⟨⟩
        exact of_decide_eq_false foreign
      · exact ⟨current, rfl, of_decide_eq_true owned,
          Move.transition (.serviceRemoved service current) rfl found⟩

theorem removeService_ends {service : String} :
    wp (removeService owner service) (Ends env (Move.Beside owner) Never m) m := by
  refine wp_mono (removeService_spec env) ?_
  rintro (value | cause | site) after spec
  · obtain ⟨current, -, owned, taken⟩ := spec
    exact .single taken owned
  · rw [spec.1]
    exact .refl m
  · exact spec

theorem openService_ends {service typ : String} {origin : Machine}
    (reach : Follows (Transition env) (Move.Beside owner) origin m)
    (fresh : service ∉ m.bridge.services) (connected : owner ∈ m.bridge.outputs)
    (granted : ∀ reply, (Entry.service service typ reply).Granted m.bridge.access) :
    wp (openService env owner service typ) (Ends env (Move.Beside owner) Never origin) m := by
  unfold openService
  refine wp_bind_call (fun cause _ => ?_) fun entity _ => ?_
  · exact Move.refuse reach trivial trivial (granted _)
  · exact Move.take (.serviceOpened service { nextRequest := 0, owner, entity, typ }) reach
      rfl rfl ⟨fresh, connected, granted _⟩

theorem advertiseService_ends (connected : owner ∈ m.bridge.outputs)
    (listed : ∀ service, name v "service" = .ok service →
      onList m.bridge.access.services service = true) :
    wp (advertiseService env owner v) (Ends env (Move.Beside owner) Never m) m := by
  have start : Follows (Transition env) (Move.Beside owner) m m := .refl m
  unfold advertiseService
  refine wp_bind_lift (fun _ _ => start) fun service named => ?_
  refine wp_bind_lift (fun _ _ => start) fun text _ => ?_
  refine wp_bind_lift (fun _ _ => start) fun typ _ => ?_
  refine wp_bind_tables ?_
  refine wp_bind_lift (fun _ _ => start) fun _ allowed => ?_
  have granted (reply : Except Error Entity) :
      (Entry.service service typ reply).Granted m.bridge.access :=
    ⟨listed service named, Access.advertiseService_ok allowed⟩
  refine wp_bind_tables ?_
  cases found : m.bridge.services.lookup service with
  | none => exact openService_ends start (AList.lookup_eq_none.mp found) connected granted
  | some current =>
      refine wp_bind_ensure (fun _ => start) fun _ => ?_
      rw [wp_ite]
      split
      · exact start
      · refine wp_bind_of (removeService_spec env) ?_ ?_ fun _ _ never => never
        · rintro _ m₁ ⟨removed, -, owned, taken⟩
          obtain ⟨next, failed, tables⟩ := taken.bridge
          refine openService_ends (.single taken owned) ?_ ?_ ?_
          · rw [tables]
            exact AList.mem_erase.not.mpr fun held => held.1 rfl
          · rw [tables]
            exact connected
          · rw [tables]
            exact granted
        · rintro _ _ ⟨rfl, -⟩
          exact start

/-- A service response answers the request that it names, or tries to. -/
theorem serviceResponse_ends :
    wp (serviceResponse env owner v) (Ends env (Move.Responds owner v) Never m) m := by
  have start : Follows (Transition env) (Move.Responds owner v) m m := .refl m
  unfold serviceResponse
  refine wp_bind_lift (fun _ _ => start) fun id identified => ?_
  refine wp_bind_lift (fun _ _ => start) fun service named => ?_
  refine wp_bind_tables ?_
  cases found : m.bridge.external.lookup id with
  | none => exact start
  | some request =>
      refine wp_bind_ensure (fun _ => start) fun own => ?_
      rw [Bool.and_eq_true] at own
      have owned : request.owner = owner := of_decide_eq_true own.1
      have asked : request.service = service := of_decide_eq_true own.2
      cases (v.index "result").asBool with
      | none => exact start
      | some result =>
          refine wp_bind_ensure (fun _ => start) fun _ => ?_
          subst asked
          refine wp_bind_call (fun cause _ => ?_) fun _ _ => ?_
          · exact Move.take (.answerRefused id request (v.index "values") cause) start
              ⟨owned, identified, named, rfl⟩ rfl found
          · exact Move.take (.answered id request (v.index "values")) start
              ⟨owned, identified, named, rfl⟩ rfl found

/-- A native request is recorded before its client hears of it. -/
theorem forwardRequest_spec {service : String} {current : Service} {entity : Entity}
    {request : Nat} {args : Json} (found : m.bridge.services.lookup service = some current)
    (served : current.entity = entity) :
    wp (forwardRequest env service current entity request args)
      (fun outcome after =>
        match outcome with
        | .ok _ =>
            ∃ external reading middle,
              external.entity = entity ∧ external.request = request ∧
              Transition env (.forwarded (current.nextRequest + 1) external reading) m middle ∧
              Follows (Transition env) (fun move => ∃ message, move = .told message)
                middle after
        | .error _ => False
        | .panic _ => Overflows env m.bridge.timeout m after) m := by
  unfold forwardRequest
  refine wp_bind_update ?_
  refine wp_bind_tables ?_
  refine wp_bind_after (fun site past => ?_) fun reading expires sum => ?_
  · exact overflows List.prefix_rfl past
  refine wp_bind_update ?_
  refine wp_send env fun after sent => ?_
  refine ⟨{ owner := current.owner, entity, request, service, expires }, reading, _, rfl, rfl,
    Move.transition _ rfl ⟨current, found, rfl, served, rfl⟩, ?_⟩
  exact Move.say (.refl _) ⟨_, rfl⟩ (Or.inr (Or.inl rfl)) sent

end Rosbridge
