import Rosbridge.Ros.Numbering
import Rosbridge.Ros.Polling
import Rosbridge.Properties.Parameters

/-!
The polls of the node.

Owns: the events that the samples of a poll become; `Lives`, the runs of the node poll by poll;
and that a poll reports every event that is not for rosapi if and only if each sample converts
and rosapi gets through its own events and deadlines.
-/

set_option autoImplicit false

namespace Rosbridge.Ros

open Foundation Program

variable {env : Middleware} {s after : Native}

/-! ### Samples -/

/-- A sample that a poll takes, with the entity it waited at. -/
abbrev Arrival : Type := Entity × Role × Sample

/-- The node after a sample was taken: a request gets its number, and the clock is read. -/
def Node.take (n : Node) : Arrival → Node
  | (_, .publisher, _) | (_, .client, _) => n
  | (entity, .service, _) =>
      { n with
        nextRequest := n.nextRequest + 1
        requests := insert (entity, n.nextRequest + 1) n.requests }
  | (entity, .subscription, sample) =>
      match sample.values with
      | .error _ => n
      | .ok (json, _) =>
          if n.clockSubscription = some entity then
            let clock := json.index "clock"
            { n with simulated := some ((clock.index "sec").asI64.getD 0,
                (clock.index "nanosec").asU64.getD 0 % 2 ^ 32) }
          else n

/-- The event that a sample becomes, if it converts. The clock becomes none. -/
def converted (stamp : Int × Nat) (n : Node) : Arrival → Except Error (Option Event)
  | (_, .publisher, _) => .ok none
  | (entity, .subscription, sample) => do
      let values ← sample.values
      if n.clockSubscription = some entity then return none
      else
        let raw ← sample.raw
        return some (.message entity { json := values.1, cbor := values.2, raw, stamp })
  | (entity, .client, sample) => do
      let values ← sample.values
      return some (.response entity sample.sequence values.1)
  | (entity, .service, sample) => do
      let values ← sample.values
      return some (.request entity (n.nextRequest + 1) values.1)

/-- The samples of a poll, one by one. -/
def conversions (stamp : Int × Nat) : Node → List Arrival → List (Except Error (Option Event))
  | _, [] => []
  | n, arrival :: rest => converted stamp n arrival :: conversions stamp (n.take arrival) rest

/-- The event of a sample that converts. -/
def eventOf : Except Error (Option Event) → Option Event
  | .ok event => event
  | .error _ => none

/-- The events of the samples that convert. -/
def reported (stamp : Int × Nat) (n : Node) (arrivals : List Arrival) : List Event :=
  (conversions stamp n arrivals).filterMap eventOf

theorem takeSample_run (stamp : Int × Nat) (arrival : Arrival) (s : Native) :
    takeSample stamp arrival.1 arrival.2.1 arrival.2.2 s =
      (answered (converted stamp s.node arrival), { s with node := s.node.take arrival }) := by
  obtain ⟨entity, role, sample⟩ := arrival
  cases role with
  | publisher => rfl
  | client =>
      unfold takeSample converted Node.take
      dsimp only
      cases sample.values <;> rfl
  | service =>
      unfold takeSample converted Node.take
      dsimp only
      cases sample.values <;> rfl
  | subscription =>
      unfold takeSample
      cases values : sample.values with
      | error cause =>
          have event : converted stamp s.node (entity, .subscription, sample) = .error cause := by
            unfold converted
            dsimp only
            rw [values]
            rfl
          have took : s.node.take (entity, .subscription, sample) = s.node := by
            unfold Node.take
            dsimp only
            rw [values]
          rw [event, took]
          rfl
      | ok pair =>
          obtain ⟨json, cbor⟩ := pair
          refine (bind_ok rfl).trans ((bind_ok (show node s = (.ok s.node, s) from rfl)).trans ?_)
          by_cases clock : s.node.clockSubscription = some entity
          · have event : converted stamp s.node (entity, .subscription, sample) = .ok none := by
              unfold converted
              dsimp only
              rw [values]
              exact if_pos clock
            have took : s.node.take (entity, .subscription, sample) =
                { s.node with simulated := some (((json.index "clock").index "sec").asI64.getD 0,
                  ((json.index "clock").index "nanosec").asU64.getD 0 % 2 ^ 32) } := by
              unfold Node.take
              dsimp only
              rw [values]
              exact if_pos clock
            rw [event, took, if_pos clock]
            rfl
          · have event : converted stamp s.node (entity, .subscription, sample) =
                sample.raw.map fun raw =>
                  some (.message entity { json := json, cbor := cbor, raw := raw, stamp }) := by
              unfold converted
              dsimp only
              rw [values]
              refine (if_neg clock).trans ?_
              cases sample.raw <;> rfl
            have took : s.node.take (entity, .subscription, sample) = s.node := by
              unfold Node.take
              dsimp only
              rw [values]
              exact if_neg clock
            rw [event, took, if_neg clock]
            cases sample.raw <;> rfl

theorem take_numbered (n : Node) (arrival : Arrival) :
    (n.take arrival).next = n.next ∧ (n.take arrival).handles = n.handles ∧
      n.nextRequest ≤ (n.take arrival).nextRequest := by
  obtain ⟨entity, role, sample⟩ := arrival
  cases role with
  | publisher | client => exact ⟨rfl, rfl, Nat.le_refl _⟩
  | service => exact ⟨rfl, rfl, Nat.le_succ _⟩
  | subscription =>
      unfold Node.take
      dsimp only
      cases sample.values with
      | error cause => exact ⟨rfl, rfl, Nat.le_refl _⟩
      | ok values =>
          dsimp only
          split <;> exact ⟨rfl, rfl, Nat.le_refl _⟩

/-- The samples are taken in order, up to the first that does not convert. -/
theorem takes_run (stamp : Int × Nat) (arrivals : List Arrival) (seen : List (Option Event))
    (s : Native) : ∃ reply node,
      foldEach arrivals seen (fun seen arrival => do
          return seen ++ [← takeSample stamp arrival.1 arrival.2.1 arrival.2.2]) s =
        (answered reply, { s with node }) ∧
      node.next = s.node.next ∧ node.handles = s.node.handles ∧
      s.node.nextRequest ≤ node.nextRequest ∧
      match reply with
      | .ok events =>
          (∀ result ∈ conversions stamp s.node arrivals, ∃ event, result = .ok event) ∧
          events.filterMap id = seen.filterMap id ++ reported stamp s.node arrivals ∧
          node = arrivals.foldl Node.take s.node
      | .error cause => ∃ result ∈ conversions stamp s.node arrivals, result = .error cause := by
  induction arrivals generalizing seen s with
  | nil =>
      refine ⟨.ok seen, s.node, rfl, rfl, rfl, Nat.le_refl _, nofun, ?_, rfl⟩
      simp [reported, conversions]
  | cons arrival rest inductionHypothesis =>
      obtain ⟨next, handles, counted⟩ := take_numbered s.node arrival
      have ran := takeSample_run stamp arrival s
      cases result : converted stamp s.node arrival with
      | error cause =>
          rw [result] at ran
          refine ⟨.error cause, _, bind_error (bind_error ran), next, handles, counted, ?_⟩
          exact ⟨_, List.mem_cons_self, result⟩
      | ok event =>
          rw [result] at ran
          obtain ⟨reply, node, rests, later, kept, more, outcome⟩ :=
            inductionHypothesis (seen ++ [event]) { s with node := s.node.take arrival }
          refine ⟨reply, node, (bind_ok ((bind_ok ran).trans rfl)).trans rests,
            later.trans next, kept.trans handles, counted.trans more, ?_⟩
          cases reply with
          | error cause =>
              obtain ⟨result, member, same⟩ := outcome
              exact ⟨result, List.mem_cons_of_mem _ member, same⟩
          | ok events =>
              obtain ⟨all, given, same⟩ := outcome
              refine ⟨?_, ?_, same⟩
              · intro other member
                rcases List.mem_cons.mp member with rfl | old
                · exact ⟨event, result⟩
                · exact all other old
              · have first : reported stamp s.node (arrival :: rest) =
                    event.toList ++ reported stamp (s.node.take arrival) rest := by
                  show (converted stamp s.node arrival :: _).filterMap eventOf = _
                  rw [result]
                  cases event <;> rfl
                rw [given, first, List.filterMap_append, List.append_assoc]
                cases event <;> rfl

theorem reported_cons (stamp : Int × Nat) (n : Node) (arrival : Arrival) (rest : List Arrival) :
    reported stamp n (arrival :: rest) =
      (eventOf (converted stamp n arrival)).toList ++ reported stamp (n.take arrival) rest := by
  show (converted stamp n arrival :: _).filterMap eventOf = _
  cases event : eventOf (converted stamp n arrival) <;> rw [List.filterMap_cons, event] <;> rfl

/-- A sample becomes an event of the entity at which it waited. -/
theorem converted_event {stamp : Int × Nat} {n : Node} {entity : Entity} {role : Role}
    {sample : Sample} {event : Event}
    (becomes : eventOf (converted stamp n (entity, role, sample)) = some event) :
    (∃ message, event = .message entity message) ∨
      (∃ values, event = .response entity sample.sequence values) ∨
        ∃ values, event = .request entity (n.nextRequest + 1) values ∧ role = .service := by
  unfold converted at becomes
  cases role with
  | publisher => cases becomes
  | client =>
      dsimp only at becomes
      cases values : sample.values with
      | error cause =>
          rw [values] at becomes
          cases becomes
      | ok pair =>
          rw [values] at becomes
          cases becomes
          exact .inr (.inl ⟨_, rfl⟩)
  | service =>
      dsimp only at becomes
      cases values : sample.values with
      | error cause =>
          rw [values] at becomes
          cases becomes
      | ok pair =>
          rw [values] at becomes
          cases becomes
          exact .inr (.inr ⟨_, rfl, rfl⟩)
  | subscription =>
      dsimp only at becomes
      cases values : sample.values with
      | error cause =>
          rw [values] at becomes
          cases becomes
      | ok pair =>
          rw [values] at becomes
          change eventOf (if n.clockSubscription = some entity then _ else _) = _ at becomes
          split at becomes
          · cases becomes
          · cases raw : sample.raw with
            | error cause =>
                rw [raw] at becomes
                cases becomes
            | ok bytes =>
                rw [raw] at becomes
                cases becomes
                exact .inl ⟨_, rfl⟩

/-- Only a request gets a number, which is the next one. -/
theorem converted_number {stamp : Int × Nat} {n : Node} {arrival : Arrival} {event : Event}
    {id : Nat} (becomes : eventOf (converted stamp n arrival) = some event)
    (number : requestNumber? event = some id) :
    id = n.nextRequest + 1 ∧ (n.take arrival).nextRequest = n.nextRequest + 1 := by
  obtain ⟨entity, role, sample⟩ := arrival
  rcases converted_event becomes with ⟨message, rfl⟩ | ⟨values, rfl⟩ | ⟨values, rfl, rfl⟩
  · cases number
  · cases number
  · cases number
    exact ⟨rfl, rfl⟩

theorem converted_bounded {stamp : Int × Nat} {n : Node} {arrival : Arrival} {event : Event}
    {limit : Nat} (becomes : eventOf (converted stamp n arrival) = some event)
    (bounded : arrival.1 ≤ limit) : Bounded limit event := by
  obtain ⟨entity, role, sample⟩ := arrival
  rcases converted_event becomes with ⟨message, rfl⟩ | ⟨values, rfl⟩ | ⟨values, rfl, -⟩
  · trivial
  · exact bounded
  · trivial

theorem reported_bounded {stamp : Int × Nat} {limit : Nat} (arrivals : List Arrival) (n : Node)
    (bounded : ∀ arrival ∈ arrivals, arrival.1 ≤ limit) :
    ∀ event ∈ reported stamp n arrivals, Bounded limit event := by
  induction arrivals generalizing n with
  | nil => exact nofun
  | cons arrival rest inductionHypothesis =>
      obtain ⟨here, later⟩ := List.forall_mem_cons.mp bounded
      intro event member
      rw [reported_cons] at member
      rcases List.mem_append.mp member with first | others
      · exact converted_bounded (Option.mem_toList.mp first) here
      · exact inductionHypothesis _ later event others

theorem takes_numbered (arrivals : List Arrival) (n : Node) :
    (arrivals.foldl Node.take n).next = n.next ∧
      (arrivals.foldl Node.take n).handles = n.handles ∧
        n.nextRequest ≤ (arrivals.foldl Node.take n).nextRequest := by
  induction arrivals generalizing n with
  | nil => exact ⟨rfl, rfl, Nat.le_refl _⟩
  | cons arrival rest inductionHypothesis =>
      obtain ⟨next, handles, counted⟩ := take_numbered n arrival
      obtain ⟨later, kept, more⟩ := inductionHypothesis (n.take arrival)
      exact ⟨later.trans next, kept.trans handles, counted.trans more⟩

/-- The requests of a poll get new numbers, each its own. -/
theorem reported_numbers (stamp : Int × Nat) (arrivals : List Arrival) (n : Node) :
    (numbers (reported stamp n arrivals)).Nodup ∧
      ∀ id ∈ numbers (reported stamp n arrivals),
        n.nextRequest < id ∧ id ≤ (arrivals.foldl Node.take n).nextRequest := by
  induction arrivals generalizing n with
  | nil => exact ⟨.nil, nofun⟩
  | cons arrival rest inductionHypothesis =>
      obtain ⟨distinct, bounds⟩ := inductionHypothesis (n.take arrival)
      have later : n.nextRequest ≤ (n.take arrival).nextRequest := (take_numbered n arrival).2.2
      have more := (takes_numbered rest (n.take arrival)).2.2
      have first : ∀ id ∈ numbers (eventOf (converted stamp n arrival)).toList,
          id = n.nextRequest + 1 ∧ (n.take arrival).nextRequest = n.nextRequest + 1 := by
        intro id member
        obtain ⟨event, listed, number⟩ := List.mem_filterMap.mp member
        exact converted_number (Option.mem_toList.mp listed) number
      have single : (numbers (eventOf (converted stamp n arrival)).toList).Nodup := by
        cases eventOf (converted stamp n arrival) with
        | none => exact .nil
        | some event =>
            show (numbers [event]).Nodup
            cases event <;> first | exact List.nodup_nil | exact List.nodup_singleton _
      rw [reported_cons, numbers_append]
      refine ⟨List.nodup_append.mpr ⟨single, distinct, ?_⟩, ?_⟩
      · intro id old other new same
        have earlier := first id old
        have after := (bounds other new).1
        omega
      · intro id member
        rw [List.foldl_cons]
        rcases List.mem_append.mp member with old | new
        · have here := first id old
          omega
        · have here := bounds id new
          omega

/-! ### Polls -/

section Polls

variable (env : Middleware) (serving : Bool) (inbox : Entity → List Sample) (s : Native)

/-- The samples that a poll takes, in the order in which it visits the entities. -/
def arrivals : List Arrival :=
  (permute (env.order s.trace) (s.node.handles.entries.map fun entry => (entry.1, entry.2))).flatMap
    fun entry => (taken (inbox entry.1)).map fun sample => (entry.1, entry.2.role, sample)

/-- The time of a poll. -/
def pollTime : Int × Nat := s.node.simulated.getD (env.systemTime s.trace)

/-- The state after the samples of a poll were taken. -/
def Native.polling : Native :=
  { s with node := (arrivals env inbox s).foldl Node.take s.node }.noting
    (.order (env.order s.trace))

/-- The events of the samples that convert, in the order in which they are taken. -/
def arrived : List Event := reported (pollTime env s) s.node (arrivals env inbox s)

/-- Every sample converts. -/
def AllConvert : Prop :=
  ∀ result ∈ conversions (pollTime env s) s.node (arrivals env inbox s),
    ∃ event, result = .ok event

/-- The events that are not addressed to rosapi, if it is served. -/
def leftOver (events : List Event) : List Event := if serving then s.others events else events

/-- The poll succeeds, and reports every sample that converts and is not addressed to rosapi. -/
def Isolates : Prop :=
  ∃ events after, poll env serving inbox s = (.ok events, after) ∧
    leftOver serving s events = leftOver serving s (arrived env inbox s)

/-- Nothing goes wrong in a poll: every sample converts, and rosapi gets through the events. -/
def Undisturbed : Prop :=
  AllConvert env inbox s ∧
    (serving = true → RoundPasses env (arrived env inbox s) (s.polling env inbox))

variable {env serving inbox s}

theorem now_run (env : Middleware) (s : Native) : now env s = (.ok (pollTime env s), s) := by
  unfold pollTime
  refine (bind_ok (show node s = (.ok s.node, s) from rfl)).trans ?_
  cases s.node.simulated <;> rfl

/-- A poll from its two parts: the samples, and the events. -/
theorem poll_run (env : Middleware) (serving : Bool) (inbox : Entity → List Sample)
    (s : Native) : ∃ reply node,
      poll env serving inbox s = ((do
        let events ← Program.ofExcept reply
        if serving then process env events else return events : Action (List Event))
          (Native.noting { s with node } (.order (env.order s.trace)))) ∧
      node.next = s.node.next ∧ node.handles = s.node.handles ∧
      s.node.nextRequest ≤ node.nextRequest ∧
      match reply with
      | .ok events => AllConvert env inbox s ∧ events = arrived env inbox s ∧
          node = (arrivals env inbox s).foldl Node.take s.node
      | .error _ => ¬ AllConvert env inbox s := by
  obtain ⟨reply, node, ran, next, handles, counted, outcome⟩ :=
    takes_run (pollTime env s) (arrivals env inbox s) [] (s.noting (.order (env.order s.trace)))
  have starts : poll env serving inbox s = (do
      let events ← collect (arrivals env inbox s) fun entry =>
        takeSample (pollTime env s) entry.1 entry.2.1 entry.2.2
      let events := events.filterMap id
      if serving then process env events else return events : Action (List Event))
        (s.noting (.order (env.order s.trace))) :=
    (bind_ok (now_run env s)).trans ((bind_ok rfl).trans (bind_ok rfl))
  rw [starts]
  cases reply with
  | error cause =>
      refine ⟨.error cause, node, bind_error ran, next, handles, counted, fun all => ?_⟩
      obtain ⟨result, member, same⟩ := outcome
      obtain ⟨event, ok⟩ := all result member
      cases same.symm.trans ok
  | ok events =>
      obtain ⟨all, given, same⟩ := outcome
      refine ⟨.ok (events.filterMap id), node, bind_ok ran, next, handles, counted, all, ?_, same⟩
      rw [given]
      rfl

end Polls

/-! ### Runs of the node -/

/-- A run of the node, poll by poll. Before its first poll rosapi may be started, and between
two polls the rest of the node creates and destroys entities, under numbers of its own. -/
inductive Lives (env : Middleware) (serving : Bool) : Native → Prop where
  | started {config : Access} {parameterTimeout : Duration} {after : Native}
      (ran : (if serving then serveApi env config parameterTimeout else pure ()) ⟨{}, {}, []⟩ =
        (.ok (), after)) : Lives env serving after
  | elsewhere {s : Native} {node : Node} {acts : Trace} (before : Lives env serving s)
      (idle : ∀ act ∈ acts, act.isIdle = true) (later : s.node.next ≤ node.next)
      (counted : s.node.nextRequest ≤ node.nextRequest) (numbered : node.Numbered) :
      Lives env serving ⟨s.api, node, s.trace ++ acts⟩
  | polled {s after : Native} {inbox : Entity → List Sample} {reply : Except Error (List Event)}
      (before : Lives env serving s)
      (ran : poll env serving inbox s = (answered reply, after)) : Lives env serving after

/-- What holds between two polls. -/
structure Sound (s : Native) : Prop where
  coherent : Coherent s
  grouped : ∃ given, (numbers given).Nodup ∧ Grouped s given ∧
    ∀ id ∈ numbers given, id ≤ s.node.nextRequest
  numbered : s.node.Numbered

theorem Blank.sound (blank : Blank s) (numbered : s.node.Numbered) : Sound s := by
  refine ⟨blank.coherent, ⟨[], .nil, fun id g found => ?_, nofun⟩, numbered⟩
  rw [blank.groups] at found
  cases found

theorem serveApi_tame (env : Middleware) (config : Access) (parameterTimeout : Duration) :
    Tame (serveApi env config parameterTimeout) :=
  (Tame.changeApi _).bind fun _ =>
    .forEach fun _ => (service_tame _ _).bind fun _ => .changeApi _

section Runs

variable {serving : Bool} {inbox : Entity → List Sample}

/-- The state in which the events of a poll are handled. -/
theorem Sound.taken (sound : Sound s) {node : Node} {acts : Trace}
    (idle : ∀ act ∈ acts, act.isIdle = true) (later : s.node.next ≤ node.next)
    (counted : s.node.nextRequest ≤ node.nextRequest) (numbered : node.Numbered) :
    Sound ⟨s.api, node, s.trace ++ acts⟩ := by
  have altered : Alters (.watched acts) s ⟨s.api, node, s.trace ++ acts⟩ :=
    @Alters.watched s s.api.definitions node acts idle later
  obtain ⟨given, distinct, grouped, bounds⟩ := sound.grouped
  exact ⟨altered.coherent sound.coherent,
    ⟨given, distinct, grouped, fun id member => (bounds id member).trans counted⟩, numbered⟩

/-- The requests of a poll have numbers that no group has. -/
theorem Sound.distinct {given : List Event} (distinct : (numbers given).Nodup)
    (bounds : ∀ id ∈ numbers given, id ≤ s.node.nextRequest) :
    (numbers (given ++ arrived env inbox s)).Nodup := by
  obtain ⟨new, range⟩ := reported_numbers (pollTime env s) (arrivals env inbox s) s.node
  rw [numbers_append]
  refine List.nodup_append.mpr ⟨distinct, new, ?_⟩
  intro id old other member same
  have earlier := bounds id old
  have after := (range other member).1
  omega

/-- The entities that a poll visits have numbers that were given out. -/
theorem Sound.bounded (sound : Sound s) : ∀ event ∈ arrived env inbox s,
    Bounded s.node.next event := by
  refine reported_bounded _ _ fun arrival member => ?_
  obtain ⟨entry, visited, waits⟩ := List.mem_flatMap.mp member
  obtain ⟨sample, -, rfl⟩ := List.mem_map.mp waits
  rw [mem_permute, List.mem_map] at visited
  obtain ⟨held, listed, rfl⟩ := visited
  exact sound.numbered held.1 (AList.mem_keys.mpr (List.mem_map.mpr ⟨held, listed, rfl⟩))

theorem Sound.noting (sound : Sound s) {node : Node} (next : node.next = s.node.next)
    (handles : node.handles = s.node.handles) (counted : s.node.nextRequest ≤ node.nextRequest) :
    Sound (Native.noting { s with node } (.order (env.order s.trace))) := by
  refine sound.taken (by simp [Act.isIdle]) (Nat.le_of_eq next.symm) counted ?_
  intro entity member
  rw [handles] at member
  rw [next]
  exact sound.numbered entity member

/-- A round of rosapi on the events of a poll leaves the tables sound. -/
theorem Sound.processed (sound : Sound s) {reply : Except Error (List Event)}
    (ran : process env (arrived env inbox s) (s.polling env inbox) = (answered reply, after)) :
    Sound after := by
  obtain ⟨next, handles, counted⟩ := takes_numbered (arrivals env inbox s) s.node
  have taken : Sound (s.polling env inbox) := sound.noting next handles counted
  obtain ⟨given, distinct, grouped, bounds⟩ := sound.grouped
  have tidy := (process_tame _ : Tame (process env (arrived env inbox s))) (s.polling env inbox)
  rw [ran] at tidy
  rcases process_rounds (Sound.distinct distinct bounds) taken.coherent grouped with
    ⟨other, panics⟩ | ⟨other, last, done, rounds⟩
  · cases reply <;> cases ran.symm.trans panics
  · cases (congrArg Prod.snd (ran.symm.trans done) : after = last)
    refine ⟨rounds.coherent taken.coherent, ⟨_, Sound.distinct distinct bounds,
      rounds.grouped grouped, fun id member => ?_⟩, tidy.numbered taken.numbered⟩
    rw [tidy.requests]
    rw [numbers_append] at member
    rcases List.mem_append.mp member with old | new
    · exact (bounds id old).trans counted
    · exact ((reported_numbers _ _ _).2 id new).2

theorem Sound.polled (sound : Sound s) {reply : Except Error (List Event)}
    (ran : poll env serving inbox s = (answered reply, after)) : Sound after := by
  obtain ⟨taken, node, polls, next, handles, counted, outcome⟩ := poll_run env serving inbox s
  have polls := polls.symm.trans ran
  cases taken with
  | error cause =>
      cases (congrArg Prod.snd ((bind_error rfl).symm.trans polls) : _ = after)
      exact sound.noting next handles counted
  | ok events =>
      obtain ⟨-, rfl, rfl⟩ := outcome
      have polls := (bind_ok rfl).symm.trans polls
      cases serving with
      | true => exact sound.processed polls
      | false =>
          cases (congrArg Prod.snd polls : _ = after)
          exact sound.noting next handles counted

theorem Lives.sound (run : Lives env serving s) : Sound s := by
  induction run with
  | @started config parameterTimeout after ran =>
      have numbered : (Node.mk ∅ 0 ∅ 0 none none).Numbered := nofun
      cases serving with
      | false =>
          cases ran
          exact Blank.sound ⟨rfl, rfl, nofun⟩ numbered
      | true =>
          have tidy := serveApi_tame env config parameterTimeout ⟨{}, {}, []⟩
          rw [show serveApi env config parameterTimeout ⟨{}, {}, []⟩ = (.ok (), after) from ran]
            at tidy
          exact (serveApi_blank rfl ran).sound (tidy.numbered numbered)
  | elsewhere _ idle later counted numbered sound => exact sound.taken idle later counted numbered
  | polled _ ran sound => exact sound.polled ran

/-- A poll reports every event that is not for rosapi if and only if nothing goes wrong in it. -/
theorem poll_isolates (env : Middleware) (serving : Bool) (s : Native) (run : Lives env serving s)
    (inbox : Entity → List Sample) :
    Isolates env serving inbox s ↔ Undisturbed env serving inbox s := by
  have sound := run.sound
  obtain ⟨next, handles, counted⟩ := takes_numbered (arrivals env inbox s) s.node
  have start : Sound (s.polling env inbox) := sound.noting next handles counted
  obtain ⟨given, distinct, grouped, bounds⟩ := sound.grouped
  have new := @Sound.distinct env s inbox given distinct bounds
  have passes : Succeeds (process env (arrived env inbox s)) (s.polling env inbox) ↔
      RoundPasses env (arrived env inbox s) (s.polling env inbox) :=
    process_succeeds new start.coherent grouped
  obtain ⟨taken, node, polls, -, -, -, outcome⟩ := poll_run env serving inbox s
  cases taken with
  | error cause =>
      refine iff_of_false ?_ fun undisturbed => outcome undisturbed.1
      rintro ⟨events, last, ran, -⟩
      cases (polls.symm.trans ran).symm.trans (bind_error rfl)
  | ok events =>
      obtain ⟨all, rfl, rfl⟩ := outcome
      have polls : poll env serving inbox s = _ := polls.trans (bind_ok rfl)
      unfold Isolates Undisturbed leftOver
      rw [polls, and_iff_right all]
      cases serving with
      | false => exact iff_of_true ⟨_, _, rfl, rfl⟩ nofun
      | true =>
          refine Iff.trans ?_ (passes.trans ⟨fun rounds _ => rounds, fun rounds => rounds rfl⟩)
          constructor
          · rintro ⟨output, last, ran, -⟩
            exact succeeds_of ran
          · rintro ⟨output, same⟩
            have ran : process env (arrived env inbox s) (s.polling env inbox) =
              (.ok output, (process env (arrived env inbox s) (s.polling env inbox)).2) :=
              Prod.ext same rfl
            have bounded : ∀ event ∈ arrived env inbox s,
                Bounded (s.polling env inbox).node.next event := by
              rw [show (s.polling env inbox).node.next = s.node.next from next]
              exact sound.bounded
            have left : (s.polling env inbox).others output =
                (s.polling env inbox).others (arrived env inbox s) :=
              process_output new start.coherent grouped bounded ran
            exact ⟨output, _, ran, left⟩

end Runs

/-! ### A sample that does not convert -/

/-- A node with two subscriptions. -/
def twoSubscriptions : Node where
  handles := ((∅ : Table Entity Handle).insert 1 ⟨.subscription, "/a", "std_msgs/msg/String"⟩).insert
    2 ⟨.subscription, "/b", "std_msgs/msg/String"⟩
  next := 2

/-- A message that is no UTF-8 waits at the first, a good one at the second. -/
def oneBadSample : Entity → List Sample
  | 1 => [{ values := .error ⟨"invalid utf-8 sequence"⟩ }]
  | 2 => [{ values := .ok (.obj [("data", .str "b")], .null) }]
  | _ => []

/-- A run that reaches the node with two subscriptions. -/
theorem twoSubscriptions_lives :
    Lives (oneNode fun _ => false) false ⟨{}, twoSubscriptions, [] ++ []⟩ := by
  have start : Lives (oneNode fun _ => false) false ⟨{}, {}, []⟩ :=
    @Lives.started _ _ {} 0 _ rfl
  refine .elsewhere start nofun (by decide) (by decide) fun entity member => ?_
  have all : ∀ entity ∈ twoSubscriptions.handles.keys, entity ≤ twoSubscriptions.next := by
    decide
  exact all entity (AList.mem_keys.mp member)

/-- The good sample is lost with the bad one. -/
theorem bad_sample_spreads : ¬ ∀ (env : Middleware) (serving : Bool) (s : Native),
    Lives env serving s → ∀ inbox, Isolates env serving inbox s := by
  intro isolates
  obtain ⟨events, after, ran, -⟩ := isolates _ _ _ twoSubscriptions_lives oneBadSample
  have failed : (poll (oneNode fun _ => false) false oneBadSample
      ⟨{}, twoSubscriptions, [] ++ []⟩).1 = .error ⟨"invalid utf-8 sequence"⟩ := rfl
  rw [ran] at failed
  cases failed

/-- The good sample alone is reported. -/
theorem good_sample_reported : Isolates (oneNode fun _ => false) false
    (fun entity => if entity = 2 then oneBadSample 2 else []) ⟨{}, twoSubscriptions, [] ++ []⟩ := by
  refine (poll_isolates _ _ _ twoSubscriptions_lives _).mpr ⟨fun result member => ?_, nofun⟩
  have all : conversions (pollTime (oneNode fun _ => false) ⟨{}, twoSubscriptions, [] ++ []⟩)
      twoSubscriptions (arrivals (oneNode fun _ => false)
        (fun entity => if entity = 2 then oneBadSample 2 else [])
          ⟨{}, twoSubscriptions, [] ++ []⟩) = [.ok (some (.message 2
            { json := .obj [("data", .str "b")], cbor := .null, raw := [], stamp := (0, 0) }))] := rfl
  rw [all, List.mem_singleton] at member
  exact ⟨_, member⟩

end Rosbridge.Ros
