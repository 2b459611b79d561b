import Mathlib.Data.Prod.Lex
import Rosbridge.Refine.Requests

/-!
What the handlers of native action requests do, exactly.

Owns: the answers and the messages a run adds to the history; the goals a cancel
request selects; and the outcome of each kind of request of an action server.
-/

set_option autoImplicit false

namespace Rosbridge

open Foundation Program

/-! ### What a run adds to the history -/

/-- An attempt to answer a native request, and whether the backend took the answer. -/
structure Answer where
  entity : Entity
  request : Nat
  values : Json
  reply : Except Error Unit

def Entry.answer? : Entry → Option Answer
  | respond entity number values reply => some ⟨entity, number, values, reply⟩
  | _ => none

def Entry.message? : Entry → Option Message
  | handed owner value options => some ⟨owner, value, options⟩
  | _ => none

/-- From one machine to the other, these messages are handed over and these answers
are attempted, and nothing else of either kind. -/
def Says (before after : Machine) (messages : List Message) (answers : List Answer) : Prop :=
  ∃ added, after.log = before.log ++ added ∧ added.filterMap Entry.message? = messages ∧
    added.filterMap Entry.answer? = answers

namespace Says

variable {before middle after : Machine} {messages further : List Message}
  {answers others : List Answer}

theorem refl (m : Machine) : Says m m [] [] := ⟨[], (List.append_nil _).symm, rfl, rfl⟩

theorem trans (first : Says before middle messages answers)
    (rest : Says middle after further others) :
    Says before after (messages ++ further) (answers ++ others) := by
  obtain ⟨added, longer, rfl, rfl⟩ := first
  obtain ⟨added', longer', rfl, rfl⟩ := rest
  exact ⟨added ++ added', by rw [longer', longer, List.append_assoc], List.filterMap_append,
    List.filterMap_append⟩

/-- The history decides what is said. -/
theorem unique (first : Says before after messages answers)
    (second : Says before after further others) : further = messages ∧ others = answers := by
  obtain ⟨added, longer, rfl, rfl⟩ := first
  obtain ⟨added', longer', rfl, rfl⟩ := second
  cases List.append_cancel_left (longer.symm.trans longer')
  exact ⟨rfl, rfl⟩

/-- One call that is neither an answer nor a message. -/
theorem quiet {entry : Entry} (longer : after.log = before.log ++ [entry])
    (noMessage : entry.message? = none) (noAnswer : entry.answer? = none) :
    Says before after [] [] :=
  ⟨[entry], longer, by rw [List.filterMap_cons_none noMessage]; rfl,
    by rw [List.filterMap_cons_none noAnswer]; rfl⟩

theorem of_sent {message : Message} (sent : Sent (some message) before after) :
    Says before after [message] [] := by
  cases sent with
  | muted _ => exact ⟨_, rfl, rfl, rfl⟩
  | unrouted _ => exact ⟨_, rfl, rfl, rfl⟩
  | queued _ _ _ _ _ => exact ⟨_, List.append_assoc _ _ _, rfl, rfl⟩
  | rejected _ _ _ _ _ _ => exact ⟨_, List.append_assoc _ _ _, rfl, rfl⟩

end Says

/-- The tables are the same but for the counter and the failed connections. -/
def Machine.SameTables (m after : Machine) : Prop :=
  ∃ next failed, after.bridge = { m.bridge with next := next, failed := failed }

section SameTables

variable {m middle after : Machine}

theorem Machine.SameTables.of_eq (same : after.bridge = m.bridge) : m.SameTables after :=
  ⟨m.bridge.next, m.bridge.failed, same⟩

theorem Machine.SameTables.trans (first : m.SameTables middle) (rest : middle.SameTables after) :
    m.SameTables after := by
  obtain ⟨next, failed, same⟩ := first
  obtain ⟨next', failed', same'⟩ := rest
  exact ⟨next', failed', by rw [same', same]⟩

end SameTables

section Answers

variable {env : Environment} {m : Machine} {action : String} {server : ActionServer}
  {entity : Entity} {request : Nat} {args : Json}

/-- The backend is asked once to publish the status, which changes no table. -/
theorem publishStatus_tells (found : m.bridge.actionServers.lookup action = some server) :
    wp (publishStatus env action)
      (fun outcome after => ¬ outcome.IsPanic ∧ after.bridge = m.bridge ∧ Says m after [] []) m := by
  unfold publishStatus visit
  simp only [wp_bind, wp_tables, andThen_ok, wp_ask, wp_pure]
  unfold actionServer
  simp only [wp_bind, wp_tables, andThen_ok, found, wp_unwrap]
  unfold Backend.publish
  rw [wp_call]
  generalize env.publish _ _ _ = reply
  cases reply with
  | ok value => exact ⟨id, rfl, ⟨_, List.append_assoc _ _ _, rfl, rfl⟩⟩
  | error cause => exact ⟨id, rfl, ⟨_, List.append_assoc _ _ _, rfl, rfl⟩⟩

/-- Messages to one owner, one after the other. -/
theorem tell_tells {owner : Connection} {value : Object} (ids : List String) :
    wp (forEach ids fun id => send env owner value (some id) {} none)
      (fun outcome after => outcome = .ok () ∧ m.SameTables after ∧
        Says m after (ids.map fun id => ⟨owner, labelled value (some id), {}⟩) []) m := by
  induction ids generalizing m with
  | nil => exact ⟨rfl, .of_eq rfl, .refl m⟩
  | cons id rest inductionHypothesis =>
      apply (wp_forEach_cons _ _ _).mpr
      refine wp_send env fun middle sent => ?_
      obtain ⟨next, failed, tables⟩ := sent.tables
      rw [andThen_ok]
      refine wp_mono inductionHypothesis ?_
      rintro outcome after ⟨rfl, same, told⟩
      exact ⟨rfl, .trans ⟨next, failed, tables⟩ same, (Says.of_sent sent).trans told⟩

end Answers

/-! ### Cancel requests -/

/-- The goals a cancel request for `requested` at `stamp` selects: all of them, those not
after the stamp, and the one it names, as far as they have no result. -/
def ServerGoal.Selected (env : Environment) (requested : String) (stamp : Int × Nat)
    (goal : ServerGoal) : Prop :=
  goal.result = none ∧
    (requested = zeroUuid ∧ stamp = (0, 0) ∨
      stamp ≠ (0, 0) ∧ toLex (stampOf goal.stamp) ≤ toLex stamp ∨
      uuidKey env goal.uuid = .ok requested)

instance (env : Environment) (requested : String) (stamp : Int × Nat) (goal : ServerGoal) :
    Decidable (goal.Selected env requested stamp) :=
  inferInstanceAs (Decidable (_ ∧ (_ ∨ _ ∨ _)))

/-- How the answer to a cancel request lists a goal. -/
def ServerGoal.info (goal : ServerGoal) : Json :=
  .obj [("goal_id", goal.uuid), ("stamp", goal.stamp)]

/-- The goals with these keys are being cancelled. -/
def Bridge.mark (keys : List String) (b : Bridge) : Bridge :=
  { b with
    serverGoals := (keys.foldl
      (fun goals key => goals.alter key fun goal => { goal with status := 3 }) b.serverGoals) }

theorem Bridge.lookup_mark (keys : List String) (b : Bridge) (key : String) :
    (b.mark keys).serverGoals.lookup key =
      if key ∈ keys then
        (b.serverGoals.lookup key).map fun goal => { goal with status := 3 }
      else b.serverGoals.lookup key := by
  induction keys generalizing b with
  | nil => simp [Bridge.mark]
  | cons first rest inductionHypothesis =>
      have step : b.mark (first :: rest) = Bridge.mark rest
          { b with
            serverGoals := (b.serverGoals.alter first fun goal => { goal with status := 3 }) } :=
        rfl
      rw [step, inductionHypothesis]
      simp only [AList.lookup_alter, List.mem_cons]
      by_cases here : key = first
      · subst here
        by_cases again : key ∈ rest
        · rw [if_pos again, if_pos rfl, if_pos (.inl rfl), Option.map_map]
          rfl
        · rw [if_neg again, if_pos rfl, if_pos (.inl rfl)]
      · simp only [here, if_false, false_or]

section Scan

variable {env : Environment} {m : Machine} {requested : String} {stamp : Int × Nat}

/-- The code's comparison of stamps is the lexicographic order. -/
theorem notAfter_iff (left right : Int × Nat) :
    notAfter left right = true ↔ toLex left ≤ toLex right := by
  unfold notAfter
  rw [Prod.Lex.toLex_le_toLex]
  simp

/-- The test that the loop over the goals makes. -/
def chosen (requested : String) (stamp : Int × Nat) (goal : ServerGoal) (uuid : String) : Bool :=
  goal.result.isNone && (decide (uuid = requested) ||
    (decide (requested = zeroUuid) && stamp = (0, 0)) ||
    (stamp ≠ (0, 0) && notAfter (stampOf goal.stamp) stamp))

theorem chosen_iff {goal : ServerGoal} {uuid : String} (named : uuidKey env goal.uuid = .ok uuid) :
    chosen requested stamp goal uuid = true ↔ goal.Selected env requested stamp := by
  unfold chosen ServerGoal.Selected
  rw [named, ← notAfter_iff]
  simp only [Bool.and_eq_true, Bool.or_eq_true, Option.isNone_iff_eq_none, decide_eq_true_eq,
    Except.ok.injEq]
  tauto

/-- One goal is compared. -/
theorem scanGoal_exact (scan : CancelScan) {entry : String × ServerGoal} {uuid : String}
    (named : uuidKey env entry.2.uuid = .ok uuid) :
    wp (scanGoal env requested stamp scan entry)
      (fun outcome after =>
        let selected := if entry.2.Selected env requested stamp then [entry] else []
        outcome = .ok
          { cancelling := scan.cancelling ++ selected.map fun entry => entry.2.info
            notify := scan.notify ++ selected.map fun entry => entry.2.id
            known := scan.known || decide (uuid = requested)
            terminal :=
              if decide (uuid = requested) then entry.2.result.isSome else scan.terminal } ∧
          after = { m with bridge := m.bridge.mark (selected.map Prod.fst) }) m := by
  unfold scanGoal
  refine wp_bind_lift (fun cause failed => ?_) fun found read => ?_
  · rw [named] at failed
    cases failed
  cases named.symm.trans read
  rw [wp_ite]
  have test : chosen requested stamp entry.2 uuid = true ↔
      entry.2.Selected env requested stamp := chosen_iff named
  unfold chosen at test
  split
  · next picked =>
      rw [if_pos (test.mp picked)]
      exact ⟨rfl, rfl⟩
  · next passed =>
      rw [if_neg (fun selected => passed (test.mpr selected))]
      simp only [List.map_nil, List.append_nil]
      exact ⟨rfl, rfl⟩

theorem Bridge.mark_append (b : Bridge) (first rest : List String) :
    (b.mark first).mark rest = b.mark (first ++ rest) := by
  unfold Bridge.mark
  simp only [List.foldl_append]

/-- All goals are compared. -/
theorem scan_exact (items : List (String × ServerGoal))
    (named : ∀ entry ∈ items, ∃ uuid, uuidKey env entry.2.uuid = .ok uuid) (scan : CancelScan) :
    wp (foldEach items scan (scanGoal env requested stamp))
      (fun outcome after =>
        let selected := items.filter fun entry => entry.2.Selected env requested stamp
        ∃ final, outcome = .ok final ∧
          final.cancelling = scan.cancelling ++ selected.map (fun entry => entry.2.info) ∧
          final.notify = scan.notify ++ selected.map (fun entry => entry.2.id) ∧
          (final.known = true ↔ scan.known = true ∨
            ∃ entry ∈ items, uuidKey env entry.2.uuid = .ok requested) ∧
          ((∀ entry ∈ items, uuidKey env entry.2.uuid = .ok requested → entry.2.result ≠ none) →
            (final.terminal = true ↔ scan.terminal = true ∨
              ∃ entry ∈ items, uuidKey env entry.2.uuid = .ok requested)) ∧
          after = { m with bridge := m.bridge.mark (selected.map Prod.fst) }) m := by
  induction items generalizing scan m with
  | nil => exact ⟨scan, rfl, by simp, by simp, by simp, by simp, rfl⟩
  | cons entry rest inductionHypothesis =>
      obtain ⟨uuid, here⟩ := named entry List.mem_cons_self
      apply (wp_foldEach_cons _ _ _ _).mpr
      refine wp_mono (scanGoal_exact scan here) ?_
      rintro outcome middle ⟨rfl, rfl⟩
      rw [andThen_ok]
      refine wp_mono (inductionHypothesis
        (fun other member => named other (List.mem_cons_of_mem _ member)) _) ?_
      rintro outcome after ⟨final, rfl, cancelling, notify, known, terminal, rfl⟩
      have split : (entry :: rest).filter (fun entry => entry.2.Selected env requested stamp) =
          (if entry.2.Selected env requested stamp then [entry] else []) ++
            rest.filter fun entry => entry.2.Selected env requested stamp := by
        by_cases picked : entry.2.Selected env requested stamp <;> simp [picked]
      have same : uuidKey env entry.2.uuid = .ok requested ↔ uuid = requested := by
        rw [here, Except.ok.injEq]
      refine ⟨final, rfl, ?_, ?_, ?_, fun finished => ?_, ?_⟩
      · rw [cancelling, split, List.map_append, List.append_assoc]
      · rw [notify, split, List.map_append, List.append_assoc]
      · rw [known, Bool.or_eq_true, decide_eq_true_eq, List.exists_mem_cons_iff, same, or_assoc]
      · rw [terminal fun other member => finished other (List.mem_cons_of_mem _ member),
          List.exists_mem_cons_iff, same]
        by_cases exact : uuid = requested
        · have result := finished entry List.mem_cons_self (same.mpr exact)
          simp [exact, Option.isSome_iff_ne_none, result]
        · simp [exact]
      · simp only [Bridge.mark_append, split, List.map_append]

end Scan

/-! ### The handlers of an action server -/

section Handlers

variable {env : Environment} {m : Machine} {action : String} {server : ActionServer}
  {entity : Entity} {request : Nat} {args : Json}

/-- The goals of an action. -/
def Bridge.goalsOf (action : String) (b : Bridge) : List (String × ServerGoal) :=
  (b.serverGoals.entries.map fun entry => (entry.1, entry.2)).filter fun entry =>
    entry.2.action = action

/-- The goals of an action that a cancel request selects. -/
def Bridge.selected (env : Environment) (action requested : String) (stamp : Int × Nat)
    (b : Bridge) : List (String × ServerGoal) :=
  (b.goalsOf action).filter fun entry => entry.2.Selected env requested stamp

/-- The return code of a cancel request: some goal is cancelled or any would do; the goal
it names is finished; or there is no such goal. -/
def Bridge.cancelCode (env : Environment) (action requested : String) (stamp : Int × Nat)
    (b : Bridge) : Int :=
  if b.selected env action requested stamp ≠ [] ∨ requested = zeroUuid then 0
  else if ∃ entry ∈ b.goalsOf action,
      uuidKey env entry.2.uuid = .ok requested ∧ entry.2.result ≠ none then 3
  else 2

/-- The answer to a cancel request. -/
def cancelReply (code : Int) (selected : List (String × ServerGoal)) : Json :=
  .obj [("return_code", .int code),
    ("goals_canceling", .arr (selected.map fun entry => entry.2.info))]

/-- The message that asks the owner of an action server to cancel a goal. -/
def cancelMessage (server : ActionServer) (action : String) (goal : ServerGoal) : Message :=
  ⟨server.owner, labelled [("op", .str "cancel_action_goal"), ("action", .str action)]
    (some goal.id), {}⟩

/-- The selected goals in the order a visit of the goals yields them. -/
def Machine.cancelled (env : Environment) (action requested : String) (stamp : Int × Nat)
    (m : Machine) : List (String × ServerGoal) :=
  ((permute (env.order m.log)
    (m.bridge.serverGoals.entries.map fun entry => (entry.1, entry.2))).filter
      fun entry => entry.2.action = action).filter
        fun entry => entry.2.Selected env requested stamp

theorem Machine.cancelled_perm (env : Environment) (action requested : String)
    (stamp : Int × Nat) (m : Machine) :
    (m.cancelled env action requested stamp).Perm (m.bridge.selected env action requested stamp) :=
  ((permute_perm _ _).filter _).filter _

/-- What the backend says to the answer to a cancel request. -/
def Machine.verdict (env : Environment) (entity : Entity) (request : Nat)
    (action requested : String) (stamp : Int × Nat) (m : Machine) : Except Error Unit :=
  env.respond (m.log ++ [.order (env.order m.log)]) entity request
    (cancelReply (m.bridge.cancelCode env action requested stamp)
      (m.cancelled env action requested stamp))

variable (m action) in
/-- Code 1 is never returned: a goal that is named and not finished is selected. -/
theorem code_exact {requested : String} {stamp : Int × Nat} {final : CancelScan}
    {items : List (String × ServerGoal)} (permuted : items.Perm (m.bridge.goalsOf action))
    (cancelling : final.cancelling =
      (items.filter fun entry => entry.2.Selected env requested stamp).map fun entry =>
        entry.2.info)
    (known : final.known = true ↔
      ∃ entry ∈ items, uuidKey env entry.2.uuid = .ok requested)
    (terminal : (∀ entry ∈ items, uuidKey env entry.2.uuid = .ok requested →
        entry.2.result ≠ none) →
      (final.terminal = true ↔ ∃ entry ∈ items, uuidKey env entry.2.uuid = .ok requested)) :
    final.code requested = m.bridge.cancelCode env action requested stamp := by
  have same : (items.filter fun entry => entry.2.Selected env requested stamp).Perm
      (m.bridge.selected env action requested stamp) := permuted.filter _
  unfold CancelScan.code Bridge.cancelCode
  by_cases none : m.bridge.selected env action requested stamp = []
  · rw [none] at same
    have empty : final.cancelling = [] := by
      rw [cancelling, same.eq_nil]
      rfl
    by_cases all : requested = zeroUuid
    · simp [empty, all]
    · have finished : ∀ entry ∈ items, uuidKey env entry.2.uuid = .ok requested →
          entry.2.result ≠ Option.none := by
        intro entry member named unfinished
        have picked : entry ∈ items.filter fun entry => entry.2.Selected env requested stamp :=
          List.mem_filter.mpr ⟨member, decide_eq_true ⟨unfinished, .inr (.inr named)⟩⟩
        rw [same.eq_nil] at picked
        exact List.not_mem_nil picked
      have ended := terminal finished
      by_cases there : ∃ entry ∈ items, uuidKey env entry.2.uuid = .ok requested
      · obtain ⟨entry, member, named⟩ := there
        have terminated : ∃ entry ∈ m.bridge.goalsOf action,
            uuidKey env entry.2.uuid = .ok requested ∧ entry.2.result ≠ Option.none :=
          ⟨entry, permuted.mem_iff.mp member, named, finished entry member named⟩
        simp [empty, all, none, ended.mpr ⟨entry, member, named⟩, if_pos terminated]
      · have unknown : ¬ ∃ entry ∈ m.bridge.goalsOf action,
            uuidKey env entry.2.uuid = .ok requested ∧ entry.2.result ≠ Option.none := by
          rintro ⟨entry, member, named, -⟩
          exact there ⟨entry, permuted.mem_iff.mpr member, named⟩
        have silent : final.terminal = false := Bool.eq_false_iff.mpr (there ∘ ended.mp)
        have unseen : final.known = false := Bool.eq_false_iff.mpr (there ∘ known.mp)
        simp [empty, all, none, silent, unseen, if_neg unknown]
  · have some : final.cancelling ≠ [] := by
      rw [cancelling]
      intro empty
      rw [List.map_eq_nil_iff.mp empty] at same
      exact none same.nil_eq.symm
    simp [some, none]

/-- Answer, and if the backend takes the answer, tell the owner and publish the status. -/
theorem answer_tells (found : m.bridge.actionServers.lookup action = some server)
    (values : Json) (value : Object) (ids : List String) :
    wp (do
      Backend.respond env entity request values
      forEach ids fun id => send env server.owner value (some id) {} none
      publishStatus env action)
      (fun outcome after =>
        let reply := env.respond m.log entity request values
        Says m after
            (if reply = .ok () then
              ids.map fun id => ⟨server.owner, labelled value (some id), {}⟩ else [])
            [⟨entity, request, values, reply⟩] ∧
          m.SameTables after ∧ ¬ outcome.IsPanic ∧
          ∀ cause, reply = .error cause → outcome = .error cause) m := by
  unfold Backend.respond
  rw [wp_bind, wp_call]
  cases answered : env.respond m.log entity request values with
  | error cause =>
      refine ⟨⟨_, rfl, rfl, rfl⟩, .of_eq rfl, id, fun other same => ?_⟩
      cases same
      rfl
  | ok taken =>
      dsimp only
      rw [andThen_ok]
      refine wp_bind_returns (tell_tells ids) fun told spec => ?_
      obtain ⟨⟨next, failed, tables⟩, heard⟩ := spec
      refine wp_mono (publishStatus_tells (by rw [tables]; exact found)) ?_
      rintro outcome after ⟨returns, same, quiet⟩
      have taken : Says m { m with log := m.log ++ [.respond entity request values (.ok taken)] } []
          [⟨entity, request, values, .ok taken⟩] := ⟨_, rfl, rfl, rfl⟩
      refine ⟨?_, ⟨next, failed, same.trans tables⟩, returns, fun cause absurd => ?_⟩
      · simpa using (taken.trans heard).trans quiet
      · cases absurd

variable (entity request) in
theorem cancelRequest_exact (found : m.bridge.actionServers.lookup action = some server)
    (identified : ∀ key goal, m.bridge.serverGoals.lookup key = some goal →
      ∃ uuid, uuidKey env goal.uuid = .ok uuid) {requested : String}
    (named : uuidKey env ((args.index "goal_info").index "goal_id") = .ok requested) :
    wp (cancelRequest env action server entity request args)
      (fun outcome after =>
        let stamp := stampOf ((args.index "goal_info").index "stamp")
        let selected := m.cancelled env action requested stamp
        let reply := m.verdict env entity request action requested stamp
        Says m after
            (if reply = .ok () then selected.map fun entry => cancelMessage server action entry.2
              else [])
            [⟨entity, request,
              cancelReply (m.bridge.cancelCode env action requested stamp) selected, reply⟩] ∧
          Machine.SameTables { m with bridge := m.bridge.mark (selected.map Prod.fst) } after ∧
          ¬ outcome.IsPanic ∧ ∀ cause, reply = .error cause → outcome = .error cause) m := by
  unfold cancelRequest
  refine wp_bind_lift (fun cause failed => ?_) fun uuid read => ?_
  · rw [named] at failed
    cases failed
  cases named.symm.trans read
  refine wp_bind_tables ?_
  unfold visit
  simp only [wp_bind, wp_ask, andThen_ok, wp_pure]
  rw [← wp_bind]
  refine wp_bind_of (scan_exact _ ?_ {}) ?_ ?_ ?_
  · intro entry member
    have listed := List.mem_of_mem_filter member
    rw [mem_permute, List.mem_map] at listed
    obtain ⟨⟨key, goal⟩, inside, rfl⟩ := listed
    refine identified key goal ?_
    rw [AList.lookup_eq_some_iff]
    exact inside
  · rintro value middle ⟨final, same, cancelling, notify, known, terminal, rfl⟩
    cases same
    have code := code_exact m action ((permute_perm _ _).filter _) cancelling
      (by simpa using known) (by simpa using terminal)
    rw [code, cancelling, notify, List.nil_append, List.nil_append]
    refine wp_mono (answer_tells ?_ _ _ _) ?_
    · exact found
    rintro outcome after ⟨told, same, returns, refused⟩
    have looked : Says m { m with log := m.log ++ [.order (env.order m.log)] } [] [] :=
      .quiet rfl rfl rfl
    refine ⟨?_, same, returns, refused⟩
    have whole := looked.trans told
    rw [List.nil_append, List.nil_append, List.map_map] at whole
    exact whole
  · rintro cause middle ⟨final, ⟨⟩, -⟩
  · rintro site middle ⟨final, ⟨⟩, -⟩

/-- How an attempt to answer ends. -/
def Attempted (entity : Entity) (request : Nat) (values : Json) (m : Machine) :
    Outcome Error Unit → Machine → Prop
  | .ok _, after => Says m after [] [⟨entity, request, values, .ok ()⟩]
  | .error cause, after => Says m after [] [⟨entity, request, values, .error cause⟩]
  | .panic _, _ => False

theorem respond_attempts (values : Json) :
    wp (Backend.respond env entity request values)
      (fun outcome after =>
        Attempted entity request values m outcome after ∧ after.bridge = m.bridge) m := by
  unfold Backend.respond
  rw [wp_call]
  generalize env.respond _ _ _ _ = reply
  cases reply with
  | ok taken => exact ⟨⟨_, rfl, rfl, rfl⟩, rfl⟩
  | error cause => exact ⟨⟨_, rfl, rfl, rfl⟩, rfl⟩

theorem Attempted.after_quiet {values : Json} {middle after : Machine}
    {outcome : Outcome Error Unit} (quiet : Says m middle [] [])
    (attempted : Attempted entity request values middle outcome after) :
    Attempted entity request values m outcome after := by
  cases outcome with
  | ok taken => exact quiet.trans attempted
  | error cause => exact quiet.trans attempted
  | panic site => exact attempted

/-- A `SendGoal` request for a goal that is known is declined. One for a new goal is refused
by the backend or opens the goal, and then its owner is told of it. -/
theorem goalRequest_exact (found : m.bridge.actionServers.lookup action = some server)
    {uuid : String} (named : uuidKey env (args.index "goal_id") = .ok uuid) :
    wp (goalRequest env action server entity request args)
      (fun outcome after => ∃ stamp,
        (serverGoalKey action uuid ∈ m.bridge.serverGoals ∧ m.SameTables after ∧
          Attempted entity request (acceptReply false stamp) m outcome after) ∨
        (serverGoalKey action uuid ∉ m.bridge.serverGoals ∧ m.SameTables after ∧
          ∃ cause, outcome = .error cause ∧
            Says m after [] [⟨entity, request, acceptReply true stamp, .error cause⟩]) ∨
        (serverGoalKey action uuid ∉ m.bridge.serverGoals ∧ ¬ outcome.IsPanic ∧ ∃ id,
          Says m after
            [⟨server.owner, labelled (goalMessage action server.advertisedType args) (some id), {}⟩]
            [⟨entity, request, acceptReply true stamp, .ok ()⟩] ∧
          Machine.SameTables
            { m with
              bridge :=
                { m.bridge with
                  serverGoals := (m.bridge.serverGoals.insert (serverGoalKey action uuid)
                    (.accepted server.owner action id (args.index "goal_id") stamp)) } } after)) m := by
  unfold goalRequest
  refine wp_bind_lift (fun cause failed => ?_) fun uuid' read => ?_
  · rw [named] at failed
    cases failed
  cases named.symm.trans read
  unfold Backend.now
  rw [wp_bind, wp_ask, andThen_ok]
  have looked : Says m { m with log := m.log ++ [.now (env.now m.log)] } [] [] :=
    .quiet rfl rfl rfl
  refine wp_bind_tables ?_
  generalize Json.obj [("sec", .int (env.now m.log).1), ("nanosec", .int (env.now m.log).2)] = stamp
  rw [wp_ite]
  split
  · next known =>
      refine wp_mono (respond_attempts _) ?_
      rintro outcome after ⟨attempted, same⟩
      exact ⟨stamp, .inl ⟨known, .of_eq same, attempted.after_quiet looked⟩⟩
  · next fresh =>
      unfold unique
      rw [wp_bind, wp_bind, wp_update, andThen_ok, wp_bind, wp_tables, andThen_ok, wp_pure, andThen_ok]
      generalize "rosbridge:" ++ toString (_ : Nat) = id
      refine wp_bind_of (respond_attempts _) ?_ ?_ fun _ _ spec => spec.1.elim
      · rintro taken answered ⟨attempted, same⟩
        refine wp_bind_update ?_
        rw [wp_bind]
        refine wp_send env fun told sent => ?_
        rw [andThen_ok]
        obtain ⟨next, failed, tables⟩ := sent.tables
        refine wp_mono (publishStatus_tells (by rw [tables, same]; exact found)) ?_
        · rintro outcome after ⟨returns, unchanged, quiet⟩
          have heard := Says.of_sent sent
          change Says answered told _ _ at heard
          have whole := ((looked.trans attempted).trans heard).trans quiet
          have recorded := unchanged.trans tables
          rw [same] at recorded
          exact ⟨stamp, .inr (.inr ⟨fresh, returns, id, whole, next, failed, recorded⟩)⟩
      · rintro cause after ⟨attempted, same⟩
        exact ⟨stamp, .inr (.inl ⟨fresh, ⟨_, _, same⟩, cause, rfl, looked.trans attempted⟩)⟩

/-- A `GetResult` request touches no goal but the one it is parked at. -/
theorem resultRequest_exact {uuid : String}
    (named : uuidKey env (args.index "goal_id") = .ok uuid) :
    wp (resultRequest env action entity request args)
      (fun outcome after =>
        (∃ values, Attempted entity request values m outcome after ∧ after.bridge = m.bridge) ∨
        (outcome = .ok () ∧ Says m after [] [])) m := by
  unfold resultRequest
  refine wp_bind_lift (fun cause failed => ?_) fun uuid' read => ?_
  · rw [named] at failed
    cases failed
  cases named.symm.trans read
  refine wp_bind_tables ?_
  cases known : m.bridge.serverGoals.lookup (serverGoalKey action uuid) with
  | none => exact wp_mono (respond_attempts _) fun _ _ spec => .inl ⟨_, spec⟩
  | some goal =>
      cases finished : goal.result with
      | some values =>
          simp only [finished]
          exact wp_mono (respond_attempts _) fun _ _ spec => .inl ⟨_, spec⟩
      | none =>
          simp only [finished]
          exact .inr ⟨rfl, .refl _⟩

end Handlers

end Rosbridge
