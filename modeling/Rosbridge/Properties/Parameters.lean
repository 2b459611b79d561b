import Rosbridge.Ros.Rounds

/-!
The parameter requests of rosapi, over whole runs.

Owns: `Runs`, the runs of rosapi beside the rest of the node; that a run whose rounds are
all clean serves every parameter request well; and the run that leaves a request to delete
a parameter without an answer to come.
-/

set_option autoImplicit false

namespace Rosbridge.Ros

open Foundation Program

/-- A run of rosapi, whose rounds all pass the test, with the events given to it so far.
Requests come under numbers of their own, as `Ros::poll` counts them. Between two rounds
the rest of the node creates and destroys entities. -/
inductive Runs (env : Middleware) (passes : List Event → Native → Prop) :
    List Event → Native → Prop where
  | started {config : Access} {parameterTimeout : Duration} {s after : Native} (new : s.trace = [])
      (ran : serveApi env config parameterTimeout s = (.ok (), after)) : Runs env passes [] after
  | elsewhere {given : List Event} {s : Native} {node : Node} {acts : Trace}
      (before : Runs env passes given s) (idle : ∀ act ∈ acts, act.isIdle = true)
      (later : s.node.next ≤ node.next) : Runs env passes given ⟨s.api, node, s.trace ++ acts⟩
  | round {given events : List Event} {s after : Native} {reply : Except Error (List Event)}
      (before : Runs env passes given s) (distinct : (numbers (given ++ events)).Nodup)
      (passed : passes events s) (ran : process env events s = (answered reply, after)) :
      Runs env passes (given ++ events) after

/-- Every parameter request is in a group whose pending calls are counted, of which there is
at least one, or has had exactly one reply and has no pending call; and every client waits
for an answer to a request that has had no reply, or is destroyed. -/
structure WellServed (s : Native) (given : List Event) : Prop where
  grouped : ∀ key p, s.api.pending.lookup key = some p → p.group ∈ s.api.groups
  counted : ∀ id g, s.api.groups.lookup id = some g → g.remaining = waiting s.api id
  answerable : ∀ id g, s.api.groups.lookup id = some g → 0 < waiting s.api id
  once : ∀ request ∈ asked s.api.operations given,
    attempts s.trace request = if request.2 ∈ s.api.groups then 0 else 1
  gone : ∀ request ∈ asked s.api.operations given, 0 < attempts s.trace request →
    waiting s.api request.2 = 0
  clients : ∀ name typ entity, Act.client name typ (.ok entity) ∈ s.trace →
    .destroy entity ∈ s.trace ∨ ∃ sequence p g,
      s.api.pending.lookup (entity, sequence) = some p ∧
        s.api.groups.lookup p.group = some g ∧ attempts s.trace (g.service, p.group) = 0

/-! ### Starting -/

section Starting

variable {env : Middleware} {s after : Native}

/-- Nothing has been asked for. -/
structure Blank (s : Native) : Prop where
  pending : s.api.pending = ∅
  groups : s.api.groups = ∅
  acts : ∀ act ∈ s.trace, ∃ name typ reply, act = .service name typ reply

theorem service_run (env : Middleware) (name typ : String) (s : Native) : ∃ reply node,
    service env name typ s =
      (answered reply, ⟨s.api, node, s.trace ++ [.service name typ reply]⟩) := by
  rcases create_spec env (s := s) ⟨.service, name, typ⟩ with ⟨-, created⟩ | ⟨cause, -, failed⟩
  · exact ⟨.ok (s.node.next + 1), s.node.with ⟨.service, name, typ⟩,
      @recorded_of s _ _ _ (.ok (s.node.next + 1)) _ created⟩
  · exact ⟨.error cause, _, @recorded_of s _ _ _ (.error cause) _ failed⟩

theorem Blank.noting (blank : Blank s) {name typ : String} {reply : Except Error Entity}
    {operations : Table Entity Query} {node : Node} :
    Blank ⟨{ s.api with operations }, node, s.trace ++ [.service name typ reply]⟩ := by
  refine ⟨blank.pending, blank.groups, fun act member => ?_⟩
  rcases List.mem_append.mp member with old | new
  · exact blank.acts act old
  · exact ⟨name, typ, reply, List.mem_singleton.mp new⟩

theorem serveApi_blank {config : Access} {parameterTimeout : Duration} (new : s.trace = [])
    (ran : serveApi env config parameterTimeout s = (.ok (), after)) : Blank after := by
  suffices wp (serveApi env config parameterTimeout)
      (fun outcome state => outcome = .ok () → Blank state) s by
    rw [wp_iff, ran] at this
    exact this rfl
  unfold serveApi
  rw [wp_bind, wp_changeApi, andThen_ok]
  refine wp_forEach (fun _ => Blank) apiServices ⟨rfl, rfl, by simp [new]⟩ ?_ fun _ blank _ => blank
  intro entry rest state blank
  rw [wp_bind]
  obtain ⟨reply, node, created⟩ :=
    service_run env ("/rosapi/" ++ entry.2.1) ("rosapi_msgs/srv/" ++ entry.2.2) state
  rw [wp_iff, created]
  cases reply with
  | ok entity => exact blank.noting
  | error cause => exact nofun

theorem Blank.coherent (blank : Blank s) : Coherent s := by
  refine .of_groups (fun id g found => ?_) (fun key p found => ?_) fun name typ entity member => ?_
  · rw [blank.groups] at found
    cases found
  · rw [blank.pending] at found
    cases found
  · obtain ⟨_, _, _, same⟩ := blank.acts _ member
    cases same

theorem Blank.steady (blank : Blank s) : Steady s [] := by
  refine ⟨⟨blank.coherent, ⟨fun id g found => ?_, nofun, fun request some => ?_⟩⟩,
    fun id g found => ?_⟩
  · rw [blank.groups] at found
    cases found
  · have silent : ∀ act ∈ s.trace, act.replies request = false := by
      intro act member
      obtain ⟨_, _, _, rfl⟩ := blank.acts act member
      rfl
    have none : attempts s.trace request = 0 := attempts_same silent []
    omega
  · rw [blank.groups] at found
    cases found

end Starting

/-! ### Runs -/

section Runs

variable {env : Middleware} {passes : List Event → Native → Prop} {given : List Event} {s : Native}

theorem Runs.distinct (run : Runs env passes given s) : (numbers given).Nodup := by
  induction run with
  | started => exact .nil
  | elsewhere _ _ _ inductionHypothesis => exact inductionHypothesis
  | round _ distinct => exact distinct

/-- Between two rounds of a clean run nothing is lost. -/
theorem Runs.steady (run : Runs env (Clean env) given s) : Steady s given := by
  induction run with
  | started new ran => exact (serveApi_blank new ran).steady
  | @elsewhere given s node acts before idle later inductionHypothesis =>
      have altered : Alters (.watched acts) s ⟨s.api, node, s.trace ++ acts⟩ :=
        @Alters.watched s s.api.definitions node acts idle later
      exact inductionHypothesis.watched before.distinct altered
  | @round given events _ _ reply _ distinct clean ran inductionHypothesis =>
      rcases process_steady distinct inductionHypothesis clean with
        ⟨after, done⟩ | ⟨other, after, done, steady⟩
      · cases reply <;> cases ran.symm.trans done
      · cases (congrArg Prod.snd (ran.symm.trans done) : _ = after)
        exact steady

/-- The tables agree in every run, whether a request is lost or not. -/
theorem Runs.coherent (run : Runs env passes given s) : Coherent s ∧ Grouped s given := by
  induction run with
  | started new ran =>
      have blank := serveApi_blank new ran
      refine ⟨blank.coherent, fun id g found => ?_⟩
      rw [blank.groups] at found
      cases found
  | @elsewhere given s node acts before idle later inductionHypothesis =>
      have altered : Alters (.watched acts) s ⟨s.api, node, s.trace ++ acts⟩ :=
        @Alters.watched s s.api.definitions node acts idle later
      exact ⟨altered.coherent inductionHypothesis.1, inductionHypothesis.2⟩
  | @round given events _ _ reply _ distinct passed ran inductionHypothesis =>
      obtain ⟨coherent, grouped⟩ := inductionHypothesis
      rcases process_rounds distinct coherent grouped with
        ⟨after, done⟩ | ⟨other, after, done, rounds⟩
      · cases reply <;> cases ran.symm.trans done
      · cases (congrArg Prod.snd (ran.symm.trans done) : _ = after)
        exact ⟨rounds.coherent coherent, rounds.grouped grouped⟩

theorem Steady.wellServed (steady : Steady s given) (distinct : (numbers given).Nodup) :
    WellServed s given := by
  obtain ⟨⟨coherent, accounted⟩, settled⟩ := steady
  have open_iff (id : Nat) : id ∈ s.api.groups ↔ ∃ g, s.api.groups.lookup id = some g :=
    AList.mem_iff_lookup id s.api.groups
  have once : ∀ request ∈ asked s.api.operations given,
      attempts s.trace request = if request.2 ∈ s.api.groups then 0 else 1 := by
    intro request member
    cases found : s.api.groups.lookup request.2 with
    | none =>
        rw [accounted.replied request member found, if_neg]
        rintro there
        obtain ⟨g, known⟩ := (open_iff _).mp there
        cases found.symm.trans known
    | some g =>
        obtain ⟨owner, unanswered⟩ := accounted.waiting _ g found
        rw [if_pos ((open_iff _).mpr ⟨g, found⟩), asked_unique distinct member owner rfl]
        exact unanswered
  refine ⟨fun key p found => ?_, coherent.counted, fun id g found => ?_, once,
    fun request member attempted => ?_, fun name typ entity created => ?_⟩
  · obtain ⟨g, known, -⟩ := coherent.known key p found
    exact (open_iff _).mpr ⟨g, known⟩
  · rw [← coherent.counted id g found]
    exact settled id g found
  · rw [once request member] at attempted
    split at attempted
    · omega
    · next closed =>
        apply coherent.unknown
        cases found : s.api.groups.lookup request.2 with
        | none => rfl
        | some g => exact (closed ((open_iff _).mpr ⟨g, found⟩)).elim
  · refine (coherent.clients name typ entity created).imp_right ?_
    rintro ⟨sequence, p, found⟩
    obtain ⟨g, known, -⟩ := coherent.known _ p found
    exact ⟨sequence, p, g, found, known, (accounted.waiting _ g known).2⟩

/-- In a run whose rounds are all clean every parameter request is well served; and no round
that may follow panics, but at the end of the clock's range. -/
theorem parameters_served (env : Middleware) (given : List Event) (s : Native)
    (run : Runs env (Clean env) given s) : WellServed s given ∧
      ∀ events, (numbers (given ++ events)).Nodup → ∀ site,
        (process env events s).1 = .panic site → site = clockOverflow := by
  refine ⟨run.steady.wellServed run.distinct, fun events distinct site panicked => ?_⟩
  obtain ⟨coherent, grouped⟩ := run.coherent
  rcases process_rounds distinct coherent grouped with ⟨after, ran⟩ | ⟨reply, after, ran, -⟩
  · rw [ran] at panicked
    cases panicked
    rfl
  · rw [ran] at panicked
    cases reply <;> cases panicked

end Runs

/-! ### A request without an answer -/

/-- A graph with one node, whose parameters can be read; ROS refuses the clients that
`refused` names. -/
def oneNode (refused : String → Bool) : Middleware where
  create _ handle := if refused handle.name then .error ⟨"refused"⟩ else .ok ()
  fill _ _ := .ok ()
  sendRequest _ _ _ := .ok 1
  sendResponse _ _ _ _ := .ok ()
  topics _ := .ok []
  services _ := .ok [("/n/get_parameters", ["rcl_interfaces/srv/GetParameters"])]
  nodeNames _ := .ok [("n", "/")]
  nodeGraph _ _ _ _ := .ok []
  systemTime _ := (0, 0)
  instant _ := 0
  order _ := 0
  interfaces _ := []
  rawText _ _ := .ok ""
  typedefs _ _ := .ok .null
  fromStr _ := .ok .null
  toText _ := "null"
  distro := "humble"
  humble := true

theorem ran_to {α : Type} {program : Action α} {s : Native}
    (calm : ¬ (program s).1.IsPanic) :
    ∃ reply, program s = (answered reply, (program s).2) := by
  cases outcome : (program s).1 with
  | ok value => exact ⟨.ok value, Prod.ext outcome rfl⟩
  | error cause => exact ⟨.error cause, Prod.ext outcome rfl⟩
  | panic site =>
      rw [outcome] at calm
      exact (calm trivial).elim

/-- rosapi, started on a new node. -/
def afterStart (env : Middleware) : Native := (serveApi env {} 5 ⟨{}, {}, []⟩).2

/-- The request to delete a parameter of the node. -/
def deleteRequest : Event := .request 26 1 (.obj [("name", .str "n:p")])

/-- The answer of the node that the parameter is there. -/
def parameterFound : Event :=
  .response 30 1 (.obj [("values", .arr [.obj [("type", .int 1)]])])

def afterRequest (env : Middleware) : Native := (process env [deleteRequest] (afterStart env)).2

def afterAnswer (env : Middleware) : Native := (process env [parameterFound] (afterRequest env)).2

theorem startRun {env : Middleware} {passes : List Event → Native → Prop}
    (started : (serveApi env {} 5 ⟨{}, {}, []⟩).1 = .ok ()) :
    Runs env passes [] (afterStart env) :=
  .started (s := ⟨{}, {}, []⟩) rfl (Prod.ext started rfl)

theorem requestRun {env : Middleware} {passes : List Event → Native → Prop}
    (started : (serveApi env {} 5 ⟨{}, {}, []⟩).1 = .ok ())
    (passed : passes [deleteRequest] (afterStart env))
    (asked : ¬ (process env [deleteRequest] (afterStart env)).1.IsPanic) :
    Runs env passes [deleteRequest] (afterRequest env) :=
  .round (startRun started) (List.nodup_singleton 1) passed (ran_to asked).choose_spec

/-- The client that is to delete the parameter is refused: the request to delete it stays in
a group, and no pending call is left to answer it. -/
theorem deletion_stranded : ¬ ∀ (env : Middleware) (given : List Event) (s : Native),
    Runs env (fun _ _ => True) given s → WellServed s given := by
  intro served
  have calm : ¬ (process (oneNode (· = "/n/set_parameters")) [parameterFound]
      (afterRequest (oneNode (· = "/n/set_parameters")))).1.IsPanic := by
    decide +kernel
  have run : Runs (oneNode (· = "/n/set_parameters")) (fun _ _ => True)
      ([deleteRequest] ++ [parameterFound]) (afterAnswer (oneNode (· = "/n/set_parameters"))) :=
    .round (requestRun (by decide +kernel) trivial (by decide +kernel)) (List.nodup_singleton 1)
      trivial (ran_to calm).choose_spec
  have left : 1 ∈ (afterAnswer (oneNode (· = "/n/set_parameters"))).api.groups := by
    decide +kernel
  obtain ⟨g, found⟩ := (AList.mem_iff_lookup _ _).mp left
  have waits := (served _ _ _ run).answerable 1 g found
  have idle : waiting (afterAnswer (oneNode (· = "/n/set_parameters"))).api 1 = 0 := by
    decide +kernel
  omega

/-- A request that is taken up, with its call to the node under way. -/
theorem deletion_underway :
    (∃ g, (afterRequest (oneNode fun _ => false)).api.groups.lookup 1 = some g ∧
      g.remaining = 1) ∧
      WellServed (afterRequest (oneNode fun _ => false)) [deleteRequest] := by
  have clean : Clean (oneNode fun _ => false) [deleteRequest]
      (afterStart (oneNode fun _ => false)) := by
    refine ⟨?_, ?_, fun _ => trivial⟩
    · rintro ⟨_, _, _, _, same, _⟩
      cases same
    · rintro ⟨⟨_, _, _, same⟩, _⟩
      cases same
  have served := parameters_served _ _ _
    (requestRun (by decide +kernel) clean (by decide +kernel))
  refine ⟨?_, served.1⟩
  have found : ((afterRequest (oneNode fun _ => false)).api.groups.lookup 1).map
      Group.remaining = some 1 := by
    decide +kernel
  exact Option.map_eq_some_iff.mp found

end Rosbridge.Ros
