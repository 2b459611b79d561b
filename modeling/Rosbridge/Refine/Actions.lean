import Rosbridge.Refine.Services
import Rosbridge.Bridge.Actions

/-!
The action handlers take moves.
-/

set_option autoImplicit false

namespace Rosbridge

open Foundation Program

variable {env : Environment} {owner : Connection} {v : Json} {m origin : Machine}
  {passes : Move → Prop} {β : Type}

/-! ### Constructions -/

theorem wp_destroyAll {entities : List Entity} {post : Outcome Error Unit → Machine → Prop} :
    wp (destroyAll entities) post m ↔
      post (.ok ()) { m with log := m.log ++ entities.map .destroy } := by
  unfold destroyAll
  induction entities generalizing m with
  | nil => simp
  | cons head tail inductionHypothesis =>
      rw [wp_forEach_cons, Backend.destroy, wp_note, andThen_ok, inductionHypothesis]
      simp

theorem wp_orRelease {α : Type} {created : List Entity} {step : Step α}
    {post : Outcome Error α → Machine → Prop} :
    wp (orRelease created step) post m ↔
      wp step (fun outcome after =>
        match outcome with
        | .ok value => post (.ok value) after
        | .error cause =>
            post (.error cause) { after with log := after.log ++ created.map .destroy }
        | .panic site => post (.panic site) after) m := by
  unfold orRelease
  rw [wp_bind, wp_attempt, wp_iff, wp_iff]
  rcases step m with ⟨value | cause | site, after⟩
  · exact Iff.rfl
  · show wp (destroyAll created >>= fun _ => fail cause) post after ↔ _
    rw [wp_bind, wp_destroyAll, andThen_ok, wp_fail]
  · exact Iff.rfl

/-- The entities of `creations` are under construction: no table names them yet. -/
def Building (env : Environment) (passes : Move → Prop) (origin : Machine)
    (creations : List Entry) (m : Machine) : Prop :=
  ∃ base, Follows (Transition env) passes origin base ∧
    (∀ entry ∈ creations, entry.created?.isSome ∧ entry.Granted base.bridge.access) ∧
    m = { base with log := base.log ++ creations }

namespace Building

variable {creations : List Entry} {created : List Entity} {entry : Entry}

theorem start (reach : Follows (Transition env) passes origin m) :
    Building env passes origin [] m :=
  ⟨m, reach, by simp, by simp⟩

theorem create (building : Building env passes origin creations m)
    (fresh : entry.created?.isSome) (granted : entry.Granted m.bridge.access) :
    Building env passes origin (creations ++ [entry]) { m with log := m.log ++ [entry] } := by
  obtain ⟨base, reach, allowed, rfl⟩ := building
  refine ⟨base, reach, ?_, by simp⟩
  intro other member
  rcases List.mem_append.mp member with here | last
  · exact allowed other here
  · rw [List.mem_singleton.mp last]
    exact ⟨fresh, granted⟩

/-- A creation failed: the earlier ones are undone. -/
theorem abort (building : Building env passes origin creations m)
    (listed : creations.filterMap Entry.created? = created) (vain : entry.Vain)
    (granted : entry.Granted m.bridge.access)
    (pass : ∀ creations, passes (.aborted creations none)) :
    Follows (Transition env) passes origin
      { m with log := m.log ++ [entry] ++ created.map .destroy } := by
  obtain ⟨base, reach, allowed, rfl⟩ := building
  have undone := Move.take (.aborted (creations ++ [entry]) none) reach (pass _) rfl
    ⟨?_, by simp, ?_, by simp⟩
  · simpa [Move.entries, Move.effect, vain.created?, listed] using undone
  · intro other member
    rcases List.mem_append.mp member with here | last
    · exact .inr (.inr (allowed other here).1)
    · rw [List.mem_singleton.mp last]
      exact .inr (.inl vain)
  · intro other member
    rcases List.mem_append.mp member with here | last
    · exact (allowed other here).2
    · rw [List.mem_singleton.mp last]
      exact granted

/-- The request on a new client was refused: everything is undone. -/
theorem refuse (building : Building env passes origin creations m)
    (listed : creations.filterMap Entry.created? = created) {name typ : String}
    {entity : Entity} {args : Json} {cause : Error}
    (member : .client name typ (.ok entity) ∈ creations)
    (permits : m.bridge.access.Permits typ args)
    (pass : ∀ creations, passes (.aborted creations (some (entity, args, cause)))) :
    Follows (Transition env) passes origin
      { m with
        log := m.log ++ [.request entity args (.error cause)] ++ created.map .destroy } := by
  obtain ⟨base, reach, allowed, rfl⟩ := building
  have undone := Move.take (.aborted creations (some (entity, args, cause))) reach (pass _) rfl
    ⟨fun entry made => .inr (.inr (allowed entry made).1), ?_,
      fun entry made => (allowed entry made).2, ?_⟩
  · simpa [Move.entries, Move.effect, listed] using undone
  · rintro _ ⟨⟩
    exact List.mem_filterMap.mpr ⟨_, member, rfl⟩
  · rintro _ ⟨⟩
    exact ⟨name, typ, member, permits⟩

/-- One more creation. -/
theorem wp_bind_create (building : Building env passes origin creations m)
    (listed : creations.filterMap Entry.created? = created)
    {answer : History → Except Error Entity} {entry : Except Error Entity → Entry}
    {next : Entity → Step β} {post : Outcome Error β → Machine → Prop}
    (pass : ∀ creations, passes (.aborted creations none))
    (vain : ∀ cause, (entry (.error cause)).Vain)
    (creates : ∀ entity, (entry (.ok entity)).created?.isSome)
    (granted : ∀ reply, (entry reply).Granted m.bridge.access)
    (onError : ∀ cause after, Follows (Transition env) passes origin after →
      post (.error cause) after)
    (onOk : ∀ entity, Building env passes origin (creations ++ [entry (.ok entity)])
      { m with log := m.log ++ [entry (.ok entity)] } →
      wp (next entity) post { m with log := m.log ++ [entry (.ok entity)] }) :
    wp (orRelease created (call answer entry) >>= next) post m := by
  rw [wp_bind, wp_orRelease]
  refine wp_call_last (fun cause _ => ?_) fun entity _ => ?_
  · exact onError cause _ (building.abort listed (vain cause) (granted _) pass)
  · exact onOk entity (building.create (creates entity) (granted _))

/-- The first request on one of the new clients. -/
theorem wp_bind_request (building : Building env passes origin creations m)
    (listed : creations.filterMap Entry.created? = created) {name typ : String}
    {entity : Entity} {args : Json} {next : Int → Step β}
    {post : Outcome Error β → Machine → Prop}
    (member : .client name typ (.ok entity) ∈ creations)
    (permits : m.bridge.access.Permits typ args)
    (pass : ∀ creations refusal, passes (.aborted creations refusal))
    (onError : ∀ cause after, Follows (Transition env) passes origin after →
      post (.error cause) after)
    (onOk : ∀ sequence, wp (next sequence) post
      { m with log := m.log ++ [.request entity args (.ok sequence)] }) :
    wp (orRelease created (Backend.request env entity args) >>= next) post m := by
  rw [wp_bind, wp_orRelease]
  refine wp_call_last (fun cause _ => ?_) fun sequence _ => ?_
  · exact onError cause _ (building.refuse listed member permits fun _ => pass _ _)
  · exact onOk sequence

end Building

/-! ### Client goals -/

/-- The entries of a goal's construction. -/
def openedEntries (action typ : String) (uuid args : Json) (opened : OpenedGoal) : List Entry :=
  [ .client (action ++ "/_action/send_goal") (typ ++ "_SendGoal") (.ok opened.send),
    .client (action ++ "/_action/get_result") (typ ++ "_GetResult") (.ok opened.result),
    .client (action ++ "/_action/cancel_goal") "action_msgs/srv/CancelGoal"
      (.ok opened.cancel),
    .subscription (action ++ "/_action/feedback") (typ ++ "_FeedbackMessage")
      Qos.service (.ok opened.feedbackSub),
    .subscription (action ++ "/_action/status") "action_msgs/msg/GoalStatusArray"
      { Qos.service with durability := 1 } (.ok opened.statusSub),
    .request opened.send (.obj [("goal_id", uuid), ("goal", args)]) (.ok opened.sequence) ]

theorem openGoal_spec {action text typ : String} {uuid args : Json}
    (reach : Follows (Transition env) Move.Harmless origin m)
    (allowed : m.bridge.access.action action false = .ok ())
    (typed : typeName text "action" = .ok typ) :
    wp (openGoal env action typ uuid args)
      (fun outcome after =>
        match outcome with
        | .ok opened =>
            after = { m with log := m.log ++ openedEntries action typ uuid args opened }
        | .error _ => Follows (Transition env) Move.Harmless origin after
        | .panic _ => False) m := by
  obtain ⟨sendListed, resultListed, cancelListed, feedbackListed, statusListed⟩ :=
    Access.action_ok allowed
  have plain := typeName_action typed
  have sendGranted (reply : Except Error Entity) :
      (Entry.client (action ++ "/_action/send_goal") (typ ++ "_SendGoal") reply).Granted
        m.bridge.access := ⟨sendListed, fun _ => (plain _).1⟩
  unfold openGoal
  refine wp_bind_call (fun cause _ => ?_) fun send _ => ?_
  · exact Move.refuse reach trivial trivial (sendGranted _)
  have building : Building env Move.Harmless origin
      [.client (action ++ "/_action/send_goal") (typ ++ "_SendGoal") (.ok send)]
      { m with
        log := m.log ++ [.client (action ++ "/_action/send_goal") (typ ++ "_SendGoal")
          (.ok send)] } :=
    (Building.start reach).create rfl (sendGranted _)
  refine building.wp_bind_create rfl (fun _ => trivial) (fun _ => trivial) (fun _ => rfl)
    (fun _ => ⟨resultListed, fun _ => (plain _).1⟩) (fun _ _ reach => reach)
    fun result building => ?_
  refine building.wp_bind_create rfl (fun _ => trivial) (fun _ => trivial) (fun _ => rfl)
    (fun _ => ⟨cancelListed, fun _ => rfl⟩) (fun _ _ reach => reach) fun cancel building => ?_
  refine building.wp_bind_create rfl (fun _ => trivial) (fun _ => trivial) (fun _ => rfl)
    (fun _ => feedbackListed) (fun _ _ reach => reach) fun feedbackSub building => ?_
  refine building.wp_bind_create rfl (fun _ => trivial) (fun _ => trivial) (fun _ => rfl)
    (fun _ => statusListed) (fun _ _ reach => reach) fun statusSub building => ?_
  have permits (args : Json) : m.bridge.access.Permits (typ ++ "_SendGoal") args := by
    intro _ rosapi
    rw [(plain _).2] at rosapi
    cases rosapi
  refine building.wp_bind_request rfl (List.mem_cons_self) (permits _) (fun _ _ => trivial)
    (fun _ _ reach => reach) fun sequence => ?_
  simp [wp, pure, Program.pure, openedEntries]

private theorem uuidBytes_items : ∀ bytes : List UInt8,
    (bytes.map fun byte => Json.int byte.toNat).mapM (fun item =>
      match item.asU64 with
      | none => (.error ⟨"invalid UUID byte"⟩ : Except Error UInt8)
      | some byte =>
          if byte < 256 then .ok (UInt8.ofNat byte)
          else .error ⟨"out of range integral type conversion attempted"⟩) = .ok bytes
  | [] => rfl
  | byte :: rest => by
      have small : byte.toNat < 256 := byte.toNat_lt
      have read : (Json.int byte.toNat).asU64 = some byte.toNat := by
        have below : byte.toNat < 18446744073709551616 := by omega
        simp [Json.int, Json.asU64, below]
      rw [List.map_cons, List.mapM_cons, uuidBytes_items rest]
      simp [read, small]
      rfl

/-- The key of a new goal is the hexadecimal form of its identifier. -/
theorem uuidKey_uuidValue (fresh : Uuid) :
    uuidKey env (uuidValue fresh.bytes) =
      .ok (String.ofList (fresh.bytes.flatMap hexByte)) := by
  have bytes : uuidBytes env (uuidValue fresh.bytes) = .ok fresh.bytes := by
    show List.mapM _ (fresh.bytes.map fun byte => Json.int byte.toNat) = _
    exact uuidBytes_items fresh.bytes
  unfold uuidKey
  rw [bytes]
  show (if fresh.bytes.length = 16 then _ else _) = _
  rw [if_pos fresh.length]
  rfl

/-- A successful `send_goal` adds one goal; a failed one leaves nothing behind. -/
theorem sendGoal_spec (connected : owner ∈ m.bridge.outputs)
    (allowed : ∀ action, name v "action" = .ok action →
      m.bridge.access.action action false = .ok ()) :
    wp (sendGoal env owner v)
      (fun outcome after =>
        match outcome with
        | .ok _ =>
            ∃ middle key goal fresh sequence typ args reading,
              middle.bridge = m.bridge ∧
              Follows (Transition env) Move.Harmless m middle ∧
              Transition env (.goalOpened key goal fresh sequence typ args reading)
                middle after ∧
              goal.owner = owner ∧ requestId v = .ok goal.id ∧
              name v "action" = .ok goal.action ∧ Options.parse v = .ok goal.options ∧
              wantsFeedback v = .ok goal.feedback ∧
              Instant.add? reading m.bridge.timeout = some goal.acceptanceDeadline
        | .error _ => Follows (Transition env) Move.Harmless m after
        | .panic _ => Overflows env m.bridge.timeout m after) m := by
  have start : Follows (Transition env) Move.Harmless m m := .refl m
  unfold sendGoal
  refine wp_bind_lift (fun _ _ => start) fun action named => ?_
  refine wp_bind_lift (fun _ _ => start) fun text _ => ?_
  refine wp_bind_lift (fun _ _ => start) fun typ typed => ?_
  refine wp_bind_lift (fun _ _ => start) fun id identified => ?_
  refine wp_bind_lift (fun _ _ => start) fun options parsed => ?_
  refine wp_bind_tables ?_
  refine wp_bind_ensure (fun _ => start) fun inactive => ?_
  refine wp_bind_lift (fun _ _ => start) fun feedback wanted => ?_
  rw [wp_bind, wp_ask, andThen_ok]
  generalize env.uuid m.log = fresh
  refine wp_bind_lift (fun cause failed => ?_) fun key keyEq => ?_
  · rw [uuidKey_uuidValue] at failed
    cases failed
  rw [uuidKey_uuidValue] at keyEq
  cases keyEq
  have drawn : Follows (Transition env) Move.Harmless m
      { m with log := m.log ++ [.uuid fresh] } :=
    Move.observe start trivial (by simp [Entry.Inert])
  refine wp_bind_of (openGoal_spec drawn (allowed action named) typed) ?_
    (fun _ _ reach => reach) fun _ _ never => never.elim
  rintro opened _ rfl
  refine wp_bind_update ?_
  refine wp_bind_tables ?_
  refine wp_bind_after (fun site past => ?_) fun reading deadline sum => ?_
  · refine overflows ?_ past
    exact ⟨_, (List.append_assoc _ _ _).symm⟩
  refine ⟨m, _, _, fresh, opened.sequence, typ, requestArgs v, reading, rfl, start,
    Move.transition_of _ rfl rfl (by simp [Move.entries, openedEntries, update]) ?_,
    rfl, identified, named, parsed, wanted, sum⟩
  refine ⟨connected, rfl, rfl, rfl, rfl, ?_, allowed action named, text, typed⟩
  rintro other active found ⟨sameOwner, sameAction, sameId⟩
  rw [AList.lookup_eq_some_iff] at found
  simp only [Bool.not_eq_true', List.any_eq_false, Bool.and_eq_true, decide_eq_true_eq]
    at inactive
  exact inactive _ found ⟨⟨sameOwner, sameAction⟩, sameId⟩

theorem cancelGoal_ends : wp (cancelGoal env owner v) (Ends env (Move.Beside owner) Never m) m := by
  have start : Follows (Transition env) (Move.Beside owner) m m := .refl m
  unfold cancelGoal
  refine wp_bind_lift (fun _ _ => start) fun action _ => ?_
  refine wp_bind_lift (fun _ _ => start) fun id _ => ?_
  refine wp_bind_tables ?_
  refine (reads_visit env _).wp_bind start (fun _ => trivial) (fun _ _ _ reach => reach)
    fun goals m₁ visited same reach => ?_
  cases chosen : goals.find? fun entry =>
      entry.2.owner = owner && entry.2.action = action && entry.2.id = some id with
  | none => exact reach
  | some entry =>
      obtain ⟨key, goal⟩ := entry
      have found : m₁.bridge.goals.lookup key = some goal := by
        rw [same]
        exact ((mem_visit env visited).1 key goal).mp (List.mem_of_find?_eq_some chosen)
      have owned : goal.owner = owner := by
        have fits := List.find?_some chosen
        simp only [Bool.and_eq_true, decide_eq_true_eq] at fits
        exact fits.1.1
      refine wp_bind_ensure (fun _ => reach) fun idle => ?_
      refine wp_bind_ensure (fun _ => reach) fun accepted => ?_
      refine wp_bind_call (fun cause _ => ?_) fun sequence _ => ?_
      · exact Move.use reach trivial (.cancel found)
      · exact Move.take (.cancelSent key goal sequence) reach owned rfl
          ⟨found, accepted, by simpa using idle⟩

/-- `finish_goal` ends the goal it is given, if there is one. -/
theorem finishGoal_spec {key : String} {values : Json} {status : Int} {success : Bool} :
    wp (finishGoal env key values status success)
      (fun outcome after =>
        outcome = .ok () ∧
          ((m.bridge.goals.lookup key = none ∧ after = m) ∨
            ∃ goal, m.bridge.goals.lookup key = some goal ∧
              Transition env (.goalFinished key goal values status success) m after)) m := by
  unfold finishGoal
  refine wp_bind_tables ?_
  cases found : m.bridge.goals.lookup key with
  | none => exact ⟨rfl, .inl ⟨rfl, rfl⟩⟩
  | some goal =>
      refine wp_bind_update ?_
      rw [wp_bind]
      refine wp_send env fun after sent => ?_
      obtain ⟨middle, handed, rfl⟩ := Sent.commute m
        (fun b => { b with goals := b.goals.erase key })
        (fun _ => rfl) (fun _ => rfl) (fun _ => rfl) (fun _ _ _ => rfl) sent
      rw [andThen_ok, wp_bind, wp_destroyAll, andThen_ok]
      obtain ⟨next, failed, tables⟩ := handed.tables
      exact ⟨rfl, .inr ⟨goal, rfl, middle, handed,
        by rw [Move.Enabled, tables]; exact found, rfl⟩⟩

/-! ### Action servers -/

theorem openAction_ends {action typ text : String}
    (reach : Follows (Transition env) (Move.Beside owner) origin m)
    (given : required v "type" = .ok text) (typed : typeName text "action" = .ok typ)
    (fresh : action ∉ m.bridge.actionServers) (connected : owner ∈ m.bridge.outputs)
    (allowed : m.bridge.access.action action true = .ok ()) :
    wp (openAction env owner action typ v) (Ends env (Move.Beside owner) Never origin) m := by
  obtain ⟨sendListed, resultListed, cancelListed, feedbackListed, statusListed⟩ :=
    Access.action_ok allowed
  have plain := typeName_action typed
  have sendGranted (reply : Except Error Entity) :
      (Entry.service (action ++ "/_action/send_goal") (typ ++ "_SendGoal") reply).Granted
        m.bridge.access := ⟨sendListed, fun _ => plain _⟩
  unfold openAction
  refine wp_bind_call (fun cause _ => ?_) fun send _ => ?_
  · exact Move.refuse reach trivial trivial (sendGranted _)
  have building : Building env (Move.Beside owner) origin
      [.service (action ++ "/_action/send_goal") (typ ++ "_SendGoal") (.ok send)]
      { m with
        log := m.log ++ [.service (action ++ "/_action/send_goal") (typ ++ "_SendGoal")
          (.ok send)] } :=
    (Building.start reach).create rfl (sendGranted _)
  refine building.wp_bind_create rfl (fun _ => trivial) (fun _ => trivial) (fun _ => rfl)
    (fun _ => ⟨resultListed, fun _ => plain _⟩) (fun _ _ reach => reach)
    fun result building => ?_
  refine building.wp_bind_create rfl (fun _ => trivial) (fun _ => trivial) (fun _ => rfl)
    (fun _ => ⟨cancelListed, fun _ => ⟨rfl, rfl⟩⟩) (fun _ _ reach => reach)
    fun cancel building => ?_
  refine building.wp_bind_create rfl (fun _ => trivial) (fun _ => trivial) (fun _ => rfl)
    (fun _ => feedbackListed) (fun _ _ reach => reach) fun feedback building => ?_
  refine building.wp_bind_create rfl (fun _ => trivial) (fun _ => trivial) (fun _ => rfl)
    (fun _ => statusListed) (fun _ _ reach => reach) fun status building => ?_
  rw [wp_bind, wp_orRelease, given, wp_ofExcept]
  exact reach.trans (.single (Move.transition_of (.actionOpened action _)
    rfl rfl (by simp [Move.entries, update]) ⟨fresh, connected, allowed, text, typed⟩) rfl)

/-- Answer the parked requests of one goal. -/
private theorem wp_parked {requests : List (Entity × Nat)}
    {post : Outcome Error Unit → Machine → Prop}
    (answered : ∀ replies : List (Entity × Nat × Except Error Unit),
      replies.map (fun reply => (reply.1, reply.2.1)) = requests →
      post (.ok ()) { m with
        log := m.log ++ replies.map fun reply =>
          .respond reply.1 reply.2.1 (resultReply 6 (.obj [])) reply.2.2 }) :
    wp (forEach requests fun request => do
      let _ ← attempt (Backend.respond env request.1 request.2 (resultReply 6 (.obj [])))) post
      m := by
  induction requests generalizing m with
  | nil => simpa using answered [] rfl
  | cons request rest inductionHypothesis =>
      rw [wp_forEach_cons, wp_bind, wp_attempt]
      refine wp_call_last (fun cause _ => ?_) fun value _ => ?_
      · refine inductionHypothesis fun replies same => ?_
        simpa [pure, Program.pure] using
          answered ((request.1, request.2, .error cause) :: replies) (by simp [same])
      · refine inductionHypothesis fun replies same => ?_
        simpa [pure, Program.pure] using
          answered ((request.1, request.2, .ok value) :: replies) (by simp [same])

/-- Close the goals of an action server, one after the other. -/
private theorem wp_closeGoals {goals : List (String × ServerGoal)}
    {post : Outcome Error Unit → Machine → Prop}
    (closed : ∀ replies : List (Entity × Nat × Except Error Unit),
      replies.map (fun reply => (reply.1, reply.2.1)) =
        goals.flatMap (fun entry => entry.2.requests) →
      post (.ok ())
        { bridge :=
            { m.bridge with
              serverGoals := m.bridge.serverGoals.eraseAll (goals.map Prod.fst) }
          log := m.log ++ replies.map fun reply =>
            .respond reply.1 reply.2.1 (resultReply 6 (.obj [])) reply.2.2 }) :
    wp (forEach goals fun entry => do
      update fun b => { b with serverGoals := b.serverGoals.erase entry.1 }
      forEach entry.2.requests fun request => do
        let _ ← attempt (Backend.respond env request.1 request.2 (resultReply 6 (.obj [])))) post
      m := by
  induction goals generalizing m with
  | nil => simpa [AList.eraseAll] using closed [] rfl
  | cons entry rest inductionHypothesis =>
      rw [wp_forEach_cons]
      refine wp_bind_update ?_
      refine wp_parked fun replies same => ?_
      refine inductionHypothesis fun more sameRest => ?_
      have finish := closed (replies ++ more) (by simp [same, sameRest])
      simpa [AList.eraseAll] using finish

/-- An action server is removed after a look at its goals. -/
def Removes (env : Environment) (action : String) (server : ActionServer)
    (before after : Machine) : Prop :=
  ∃ middle closed replies, Follows (Transition env) Move.Reading before middle ∧
    middle.bridge = before.bridge ∧
    Transition env (.actionRemoved action server closed replies) middle after

theorem Removes.follows {action : String} {server : ActionServer} {after : Machine}
    (removes : Removes env action server m after)
    (observes : ∀ entries, passes (.observed entries))
    (pass : ∀ closed replies, passes (.actionRemoved action server closed replies)) :
    Follows (Transition env) passes m after := by
  obtain ⟨middle, closed, replies, looked, -, taken⟩ := removes
  refine (looked.mono fun move reading => ?_).trans (.single taken (pass _ _))
  cases move <;> first | exact observes _ | exact reading.elim

theorem closeAction_spec {action : String} {server : ActionServer}
    (found : m.bridge.actionServers.lookup action = some server) :
    wp (closeAction env action server)
      (fun outcome after => outcome = .ok () ∧ Removes env action server m after) m := by
  unfold closeAction
  have start : Follows (Transition env) Move.Reading m m := .refl m
  refine wp_bind_tables ?_
  refine wp_bind_visit env start (fun _ => trivial) fun goals m₁ listed distinct same reach => ?_
  rw [wp_bind]
  refine wp_closeGoals fun replies answered => ?_
  rw [andThen_ok]
  refine wp_bind_update ?_
  rw [wp_destroyAll]
  refine ⟨rfl, m₁, goals.filter fun entry => entry.2.action = action, replies, reach, same,
    Move.transition_of (.actionRemoved action server _ replies) rfl rfl (by simp [Move.entries])
      ⟨?_, distinct.sublist (List.filter_sublist.map _), ?_, answered⟩⟩
  · rw [same]
    exact found
  · intro key goal
    rw [List.mem_filter, listed key goal, same, decide_eq_true_eq]

theorem removeAction_spec {action : String} :
    wp (removeAction env owner action)
      (fun outcome after =>
        match outcome with
        | .ok _ =>
            ∃ server, m.bridge.actionServers.lookup action = some server ∧
              server.owner = owner ∧ Removes env action server m after
        | .error _ =>
            after = m ∧ ∀ server, m.bridge.actionServers.lookup action = some server →
              server.owner ≠ owner
        | .panic _ => False) m := by
  unfold removeAction
  refine wp_bind_tables ?_
  cases found : m.bridge.actionServers.lookup action with
  | none => exact ⟨rfl, by simp⟩
  | some server =>
      refine wp_bind_ensure (fun foreign => ⟨rfl, ?_⟩) fun owned => ?_
      · rintro other ⟨⟩
        exact of_decide_eq_false foreign
      · refine wp_mono (closeAction_spec found) ?_
        rintro outcome after ⟨rfl, removes⟩
        exact ⟨server, rfl, of_decide_eq_true owned, removes⟩

theorem removeAction_ends {action : String} :
    wp (removeAction env owner action) (Ends env (Move.Beside owner) Never m) m := by
  refine wp_mono removeAction_spec ?_
  rintro (value | cause | site) after spec
  · obtain ⟨server, -, owned, removes⟩ := spec
    exact removes.follows (fun _ => trivial) fun _ _ => owned
  · rw [spec.1]
    exact .refl m
  · exact spec

theorem advertiseAction_ends (connected : owner ∈ m.bridge.outputs)
    (allowed : ∀ action, name v "action" = .ok action →
      m.bridge.access.action action true = .ok ()) :
    wp (advertiseAction env owner v) (Ends env (Move.Beside owner) Never m) m := by
  have start : Follows (Transition env) (Move.Beside owner) m m := .refl m
  unfold advertiseAction
  refine wp_bind_lift (fun _ _ => start) fun action named => ?_
  refine wp_bind_lift (fun _ _ => start) fun text given => ?_
  refine wp_bind_lift (fun _ _ => start) fun typ typed => ?_
  refine wp_bind_tables ?_
  cases found : m.bridge.actionServers.lookup action with
  | none =>
      exact openAction_ends start given typed (AList.lookup_eq_none.mp found) connected
        (allowed action named)
  | some current =>
      refine wp_bind_ensure (fun _ => start) fun _ => ?_
      rw [wp_ite]
      split
      · exact start
      · refine wp_bind_of removeAction_spec ?_ ?_ fun _ _ never => never
        · rintro _ m₁ ⟨server, -, owned, removes⟩
          have reach : Follows (Transition env) (Move.Beside owner) m m₁ :=
            removes.follows (fun _ => trivial) fun _ _ => owned
          obtain ⟨middle, closed, replies, -, same, taken⟩ := removes
          obtain ⟨next, failed, tables⟩ := taken.bridge
          rw [same] at tables
          refine openAction_ends reach given typed ?_ ?_ ?_
          · rw [tables]
            exact AList.mem_erase.not.mpr fun held => held.1 rfl
          · rw [tables]
            exact connected
          · rw [tables]
            exact allowed action named
        · rintro _ _ ⟨rfl, -⟩
          exact start

/-! ### Goals of action servers -/

/-- Every goal of an action server has its server. -/
def Bridge.Served (b : Bridge) : Prop :=
  ∀ key goal, b.serverGoals.lookup key = some goal → goal.action ∈ b.actionServers

theorem wp_bind_actionServer {action : String} {next : ActionServer → Step β}
    {post : Outcome Error β → Machine → Prop} (served : action ∈ m.bridge.actionServers)
    (continues : ∀ server, m.bridge.actionServers.lookup action = some server →
      wp (next server) post m) :
    wp (actionServer action >>= next) post m := by
  unfold actionServer
  obtain ⟨server, found⟩ := (AList.mem_iff_lookup _ _).mp served
  rw [wp_bind]
  refine wp_bind_tables ?_
  rw [found]
  exact continues server found

theorem publishStatus_ends {action : String} (reach : Follows (Transition env) passes origin m)
    (observes : ∀ entries, passes (.observed entries)) (uses : ∀ entry, passes (.used entry))
    (served : action ∈ m.bridge.actionServers) :
    wp (publishStatus env action) (Ends env passes Never origin) m := by
  unfold publishStatus
  refine wp_bind_tables ?_
  refine (reads_visit env _).wp_bind reach observes (fun _ _ _ reach => reach)
    fun goals m₁ _ same reach => ?_
  refine wp_bind_actionServer (by rw [same]; exact served) fun server found => ?_
  refine wp_call_last (fun cause _ => ?_) fun _ _ => ?_
  · exact Move.use reach (uses _) (.server found (by simp))
  · exact Move.use reach (uses _) (.server found (by simp))

/-- The goal a client's message is about, with what the search says of it. -/
private theorem ownServerGoal_some {id action key : String} {goal : ServerGoal}
    {goals : List (String × ServerGoal)} {before after : Machine}
    (visited : visit env before.bridge.serverGoals before = (.ok goals, after))
    (chosen : ownServerGoal owner id action goals = some (key, goal)) :
    before.bridge.serverGoals.lookup key = some goal ∧ goal.owner = owner ∧
      goal.action = action := by
  refine ⟨((mem_visit env visited).1 key goal).mp (List.mem_of_find?_eq_some chosen), ?_⟩
  have fits := List.find?_some chosen
  simp only [Bool.and_eq_true, decide_eq_true_eq] at fits
  exact ⟨fits.1.1, fits.2⟩

theorem actionFeedback_ends (served : m.bridge.Served) :
    wp (actionFeedback env owner v) (Ends env (Move.Beside owner) Never m) m := by
  have start : Follows (Transition env) (Move.Beside owner) m m := .refl m
  unfold actionFeedback
  refine wp_bind_lift (fun _ _ => start) fun id _ => ?_
  refine wp_bind_lift (fun _ _ => start) fun action _ => ?_
  refine wp_bind_tables ?_
  refine (reads_visit env _).wp_bind start (fun _ => trivial) (fun _ _ _ reach => reach)
    fun goals m₁ visited same reach => ?_
  cases chosen : ownServerGoal owner id action goals with
  | none => exact reach
  | some entry =>
      obtain ⟨found, -, rfl⟩ := ownServerGoal_some visited chosen
      refine wp_bind_ensure (fun _ => reach) fun _ => ?_
      refine wp_bind_ensure (fun _ => reach) fun _ => ?_
      refine wp_bind_actionServer (by rw [same]; exact served _ _ found) fun server listed => ?_
      refine wp_call_last (fun cause _ => ?_) fun _ _ => ?_
      · exact Move.use reach trivial (.server listed (by simp))
      · exact Move.use reach trivial (.server listed (by simp))

/-- Answering the parked requests of a goal, the latest first, leaves it with those
that were not answered. -/
theorem answerParked_spec {key : String} {reply : Json} {goal : ServerGoal}
    (answers : ∀ goal request, goal.owner = owner →
      passes (.parkedAnswered key goal request reply))
    (refuses : ∀ goal request cause, goal.owner = owner →
      passes (.parkedRefused key goal request reply cause)) :
    ∀ (m : Machine) (requests : List (Entity × Nat)), goal.owner = owner →
      Follows (Transition env) passes origin m →
      m.bridge.serverGoals.lookup key = some { goal with requests } →
      wp (answerParked env key requests reply)
        (fun outcome after =>
          Ends env passes Never origin outcome after ∧
            (outcome = .ok () →
              after.bridge.actionServers = m.bridge.actionServers ∧
              after.bridge.serverGoals.lookup key = some { goal with requests := [] })) m := by
  intro m requests
  unfold answerParked
  induction requests using List.reverseRecOn generalizing m with
  | nil => exact fun _ reach found => ⟨reach, fun _ => ⟨rfl, found⟩⟩
  | append_singleton rest request inductionHypothesis =>
      intro owned reach found
      rw [List.reverse_append, List.reverse_singleton, List.singleton_append, wp_forEach_cons,
        wp_bind]
      refine wp_call_last (fun cause _ => ⟨?_, fun never => by cases never⟩) fun _ _ => ?_
      · exact Move.take
          (.parkedRefused key { goal with requests := rest ++ [request] } request reply cause)
          reach (refuses _ _ _ owned) rfl ⟨found, by simp⟩
      · have answered := Move.take
          (.parkedAnswered key { goal with requests := rest ++ [request] } request reply)
          reach (answers _ _ owned) rfl ⟨found, by simp⟩
        refine inductionHypothesis _ owned answered ?_
        have after := AList.lookup_alter key key
          (fun goal : ServerGoal => { goal with requests := goal.requests.dropLast })
          m.bridge.serverGoals
        rw [if_pos rfl, found] at after
        exact after.trans (by rw [Option.map_some, List.dropLast_concat])

/-- A client can only report a terminal status. -/
theorem reportedResult_terminal {status : Int} {values : Json}
    (reported : reportedResult v = .ok (status, values)) : 4 ≤ status ∧ status ≤ 6 := by
  unfold reportedResult at reported
  split at reported
  · cases reported
  · split at reported
    · next within =>
        split at reported
        · cases reported
        · split at reported
          · cases reported
            exact within
          · cases reported
        · cases reported
          exact within
    · cases reported

/-- A reported result goes to the requests that wait for it, and is kept. -/
theorem actionResult_ends (served : m.bridge.Served) :
    wp (actionResult env owner v) (Ends env (Move.Completes owner v) Never m) m := by
  have start : Follows (Transition env) (Move.Completes owner v) m m := .refl m
  unfold actionResult
  refine wp_bind_lift (fun _ _ => start) fun id _ => ?_
  refine wp_bind_lift (fun _ _ => start) fun action _ => ?_
  refine wp_bind_tables ?_
  refine (reads_visit env _).wp_bind start (fun _ => trivial) (fun _ _ _ reach => reach)
    fun goals m₁ visited same reach => ?_
  cases chosen : ownServerGoal owner id action goals with
  | none => exact reach
  | some entry =>
      obtain ⟨key, goal⟩ := entry
      obtain ⟨found, owned, rfl⟩ := ownServerGoal_some visited chosen
      refine wp_bind_ensure (fun _ => reach) fun unfinished => ?_
      refine wp_bind_lift (fun _ _ => reach) fun reported terminal => ?_
      obtain ⟨status, values⟩ := reported
      have servedHere : goal.action ∈ m₁.bridge.actionServers := by
        rw [same]
        exact served _ _ found
      refine wp_bind_actionServer servedHere fun server listed => ?_
      refine wp_bind_call (fun cause _ => ?_) fun _ _ => ?_
      · exact Move.observe reach trivial (by simp [Entry.Inert])
      have validated : Follows (Transition env) (Move.Completes owner v) m
          { m₁ with
            log := m₁.log ++
              [.validateResponse server.result (resultReply status values) (.ok ())] } :=
        Move.observe reach trivial (by simp [Entry.Inert])
      refine wp_bind_of (answerParked_spec
        (fun _ _ own => ⟨own, status, values, terminal, rfl⟩)
        (fun _ _ _ own => ⟨own, status, values, terminal, rfl⟩) _ goal.requests owned
        validated ?_) ?_ (fun _ _ holds => holds.1) fun _ _ holds => holds.1
      · show m₁.bridge.serverGoals.lookup key = some goal
        rw [same]
        exact found
      rintro _ m₂ ⟨reach, answered⟩
      obtain ⟨servers, emptied⟩ := answered rfl
      rw [wp_bind]
      unfold instant
      rw [wp_ask, andThen_ok]
      refine wp_bind_update ?_
      refine publishStatus_ends ?_ (fun _ => trivial) (fun _ => trivial) ?_
      · exact Move.take
          (.goalCompleted key { goal with requests := [] } status values (env.instant m₂.log))
          reach ⟨owned, terminal⟩ rfl ⟨emptied, rfl, Option.isNone_iff_eq_none.mp unfinished,
            reportedResult_terminal terminal⟩
      · show goal.action ∈ m₂.bridge.actionServers
        rw [servers]
        exact servedHere

end Rosbridge
