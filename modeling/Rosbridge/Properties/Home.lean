import Rosbridge.Properties.Handles

/-!
The node and the history of the bridge.

Owns: `Home`, that the node agrees with the history; that every call of the bridge and every poll
keeps it; and that it holds of every node that hosts a bridge.
-/

set_option autoImplicit false

namespace Rosbridge.Ros

open Foundation Program

variable {env : Middleware} {serving : Bool} {inbox : Entity → List Sample} {log : History}
  {s after : Native} {entry : Entry}

/-! ### The node and the history -/

theorem arrived_snoc (log : History) (entry : Entry) :
    History.arrived (log ++ [entry]) = log.arrived ++ entry.asked := by
  unfold History.arrived History.changes
  rw [List.filterMap_append, List.flatMap_append, List.filterMap_cons]
  congr 1
  cases entry with
  | poll reply =>
      cases reply with
      | error cause => rfl
      | ok events => exact List.append_nil _
  | respond entity id values reply => cases reply <;> rfl
  | _ => rfl

theorem outstanding_snoc (log : History) (entry : Entry) :
    History.outstanding (log ++ [entry]) =
      (entry.change?.map (Change.after log.outstanding)).getD log.outstanding := by
  unfold History.outstanding History.changes
  rw [List.filterMap_append, List.foldl_append, List.filterMap_cons]
  cases entry.change? <;> rfl

/-- The node agrees with the history of the bridge. -/
structure Home (serving : Bool) (log : History) (s : Native) : Prop where
  sound : Sound s
  clear : Clear s
  idle : serving = false → ∀ entity, s.api.operations.lookup entity = none
  distinct : log.created.Nodup
  foreign : ∀ entity ∈ log.created, Foreign s entity
  handles : ∀ entity ∈ log.created, s.node.handles.lookup entity = (kept log).lookup entity
  others : ∀ entity h, entity ∉ log.created → s.node.handles.lookup entity = some h →
    (s.node.clockSubscription = some entity ∧ h.role = .subscription) ∨
      (∃ op, s.api.operations.lookup entity = some op) ∨ s.Asked entity h
  arrived : ∀ pair ∈ log.arrived, pair.1 ∈ log.created ∧ pair.2 ≤ s.node.nextRequest
  once : log.arrived.Nodup
  fewer : log.outstanding ≤ (log.arrived : Multiset (Entity × Nat))
  opens : ∀ pair ∈ log.outstanding, pair ∈ s.node.requests

/-- The new entity of a node is none of rosapi's. -/
theorem Sound.foreign (sound : Sound s) (clear : Clear s) (handle : Handle) :
    Foreign { s with node := s.node.with handle } (s.node.next + 1) := by
  have above {entity : Entity} (given : entity ≤ s.node.next) : entity ≠ s.node.next + 1 :=
    Nat.ne_of_lt (Nat.lt_succ_of_le given)
  refine ⟨Nat.le_refl _, ?_, fun key p found => above (clear.asked key p found),
    fun id g found => ?_⟩
  · cases served : s.api.operations.lookup (s.node.next + 1) with
    | none => rfl
    | some op => exact absurd rfl (above (clear.served _ op served))
  · exact above (clear.served _ g.op (sound.coherent.named id g found).2.1)

theorem Sound.elsewhere (sound : Sound s) {node : Node} (later : s.node.next ≤ node.next)
    (counted : s.node.nextRequest ≤ node.nextRequest) (numbered : node.Numbered) :
    Sound { s with node } := by
  have still : Sound ⟨s.api, node, s.trace ++ []⟩ := sound.taken (by simp) later counted numbered
  rwa [List.append_nil] at still

/-- An entry that creates nothing and brings no request. -/
theorem Home.quiet (home : Home serving log s) (node : Node) (opens : opened? entry = none)
    (asked : entry.asked = []) (next : node.next = s.node.next)
    (counted : node.nextRequest = s.node.nextRequest)
    (handles : ∀ entity, entity ∈ log.created →
      node.handles.lookup entity = (keep (kept log) entry).lookup entity)
    (less : ∀ entity h, node.handles.lookup entity = some h →
      s.node.handles.lookup entity = some h)
    (clock : node.clockSubscription = s.node.clockSubscription)
    (fewer : History.outstanding (log ++ [entry]) ≤ log.outstanding)
    (still : ∀ pair ∈ History.outstanding (log ++ [entry]), pair ∈ node.requests) :
    Home serving (log ++ [entry]) { s with node } := by
  have creates : entry.created? = none := by
    rw [← opened?_created, opens]
    rfl
  have created : History.created (log ++ [entry]) = log.created := by
    rw [created_snoc, creates, Option.toList_none, List.append_nil]
  have arrived : History.arrived (log ++ [entry]) = log.arrived := by
    rw [arrived_snoc, asked, List.append_nil]
  have numbered : node.Numbered := by
    intro entity member
    obtain ⟨h, found⟩ := (AList.mem_iff_lookup _ _).mp member
    rw [next]
    exact home.sound.numbered entity ((AList.mem_iff_lookup _ _).mpr ⟨h, less entity h found⟩)
  refine ⟨home.sound.elsewhere (Nat.le_of_eq next.symm) (Nat.le_of_eq counted.symm) numbered,
    ⟨fun entity op found => ?_, fun key p found => ?_, fun entity member => ?_⟩, home.idle, ?_, ?_,
    ?_, ?_, ?_, ?_, ?_, still⟩
  · rw [next]
    exact home.clear.served entity op found
  · rw [next]
    exact home.clear.asked key p found
  · obtain ⟨given, gone⟩ := home.clear.destroyed entity member
    refine ⟨by rw [next]; exact given, Option.eq_none_iff_forall_ne_some.mpr fun h found => ?_⟩
    cases gone.symm.trans (less entity h found)
  · rw [created]
    exact home.distinct
  · intro entity member
    rw [created] at member
    have foreign := home.foreign entity member
    exact ⟨by rw [next]; exact foreign.given, foreign.unserved, foreign.unasked, foreign.ungrouped⟩
  · intro entity member
    rw [created] at member
    rw [kept_snoc]
    exact handles entity member
  · intro entity h apart found
    rw [created] at apart
    rw [clock]
    exact home.others entity h apart (less entity h found)
  · intro pair member
    rw [arrived] at member
    rw [created, counted]
    exact home.arrived pair member
  · rw [arrived]
    exact home.once
  · rw [arrived]
    exact fewer.trans home.fewer

theorem Home.effect (home : Home serving log s) {node : Node} (effect : Effect entry s.node node) :
    Home serving (log ++ [entry]) { s with node } := by
  have unissued {entry : Entry} {pair : Entity × Nat} (settles : entry = .discardRequest pair.1 pair.2 ∨
      ∃ values, entry = .respond pair.1 pair.2 values (.ok ())) : opened? entry = none ∧
        entry.asked = [] ∧ entry.destroyed? = none := by
    rcases settles with rfl | ⟨values, rfl⟩ <;> exact ⟨rfl, rfl, rfl⟩
  cases effect with
  | still opens lasts idle =>
      have same : History.outstanding (log ++ [entry]) = log.outstanding := by
        rw [outstanding_snoc, idle]
        rfl
      have asked : entry.asked = [] := by
        cases entry with
        | poll reply =>
            cases reply with
            | error cause => rfl
            | ok events => cases idle
        | _ => rfl
      apply home.quiet s.node opens asked rfl rfl _ (fun _ _ found => found) rfl (le_of_eq same)
      · rw [same]
        exact home.opens
      · rw [keep_same opens lasts]
        exact home.handles
  | closed entity =>
      have less (other : Entity) (h : Handle)
          (found : (s.node.without entity).handles.lookup other = some h) :
          s.node.handles.lookup other = some h := by
        change (s.node.handles.erase entity).lookup other = some h at found
        rw [AList.lookup_erase_if] at found
        split at found
        · cases found
        · exact found
      have left : History.outstanding (log ++ [.destroy entity]) =
          log.outstanding.filter fun pair => decide (pair.1 = entity) = false := outstanding_snoc _ _
      apply home.quiet (s.node.without entity) rfl rfl rfl rfl _ less rfl
      · rw [left]
        exact Multiset.filter_le _ _
      · rw [left]
        intro pair member
        obtain ⟨waits, apart⟩ := Multiset.mem_filter.mp member
        exact Finset.mem_filter.mpr ⟨home.opens pair waits, of_decide_eq_false apart⟩
      · intro other member
        change (s.node.handles.erase entity).lookup other = ((kept log).erase entity).lookup other
        rw [AList.lookup_erase_if, AList.lookup_erase_if, home.handles other member]
  | @settled _ _ entity id settles =>
      obtain ⟨opens, asked, lasts⟩ := @unissued entry (entity, id) settles
      have left : History.outstanding (log ++ [entry]) ≤ log.outstanding ∧
          ∀ pair ∈ History.outstanding (log ++ [entry]), pair ≠ (entity, id) := by
        have single : log.outstanding.Nodup :=
          Multiset.nodup_of_le home.fewer (Multiset.coe_nodup.mpr home.once)
        rw [outstanding_snoc]
        rcases settles with rfl | ⟨values, rfl⟩
        · refine ⟨Multiset.filter_le _ _, fun pair member => ?_⟩
          exact of_decide_eq_false (Multiset.mem_filter.mp member).2
        · refine ⟨Multiset.erase_le _ _, fun pair member same => ?_⟩
          rw [same] at member
          exact single.notMem_erase member
      apply home.quiet { s.node with requests := s.node.requests.erase (entity, id) } opens asked
        rfl rfl _ (fun _ _ found => found) rfl left.1
      · intro pair member
        refine Finset.mem_erase.mpr ⟨left.2 pair member, home.opens pair ?_⟩
        exact Multiset.mem_of_le left.1 member
      · rw [keep_same opens lasts]
        exact home.handles
  | @opened _ _ h opens =>
      have creates : entry.created? = some (s.node.next + 1) := by
        rw [← opened?_created, opens]
        rfl
      have created : History.created (log ++ [entry]) = log.created ++ [s.node.next + 1] := by
        rw [created_snoc, creates]
        rfl
      have arrived : History.arrived (log ++ [entry]) = log.arrived := by
        rw [arrived_snoc]
        cases entry <;> first | exact List.append_nil _ | cases opens
      have outstanding : History.outstanding (log ++ [entry]) = log.outstanding := by
        rw [outstanding_snoc]
        cases entry <;> first | rfl | cases opens
      have above {entity : Entity} (member : entity ∈ log.created) : entity ≠ s.node.next + 1 :=
        Nat.ne_of_lt (Nat.lt_succ_of_le (home.foreign entity member).given)
      have other {entity : Entity} (apart : entity ≠ s.node.next + 1) :
          (s.node.with h).handles.lookup entity = s.node.handles.lookup entity :=
        AList.lookup_insert_ne apart
      have more : s.node.next ≤ s.node.next + 1 := Nat.le_succ _
      have numbered : (s.node.with h).Numbered := by
        intro entity member
        rcases (AList.mem_insert _).mp member with rfl | old
        · exact Nat.le_refl _
        · exact (home.sound.numbered entity old).trans more
      refine ⟨home.sound.elsewhere more (Nat.le_refl _) numbered,
        ⟨fun entity op found => (home.clear.served entity op found).trans more,
          fun key p found => (home.clear.asked key p found).trans more, fun entity member => ?_⟩,
        home.idle, ?_, ?_, ?_, ?_, ?_, ?_, ?_, ?_⟩
      · obtain ⟨given, gone⟩ := home.clear.destroyed entity member
        refine ⟨given.trans more, ?_⟩
        rw [← gone]
        exact other (Nat.ne_of_lt (Nat.lt_succ_of_le given))
      · rw [created]
        refine List.nodup_append.mpr ⟨home.distinct, List.nodup_singleton _, ?_⟩
        intro entity member new same
        rw [List.mem_singleton.mp same]
        exact above member
      · intro entity member
        rw [created] at member
        rcases List.mem_append.mp member with old | new
        · have foreign := home.foreign entity old
          exact ⟨foreign.given.trans more, foreign.unserved, foreign.unasked, foreign.ungrouped⟩
        · rw [List.mem_singleton.mp new]
          exact home.sound.foreign home.clear h
      · intro entity member
        rw [kept_snoc, keep_opened opens]
        change (s.node.handles.insert (s.node.next + 1) h).lookup entity = _
        rw [AList.lookup_insert_if, AList.lookup_insert_if]
        by_cases same : entity = s.node.next + 1
        · rw [if_pos same, if_pos same]
        · rw [if_neg same, if_neg same]
          rw [created] at member
          refine home.handles entity ((List.mem_append.mp member).resolve_right fun new => ?_)
          exact same (List.mem_singleton.mp new)
      · intro entity found apart there
        rw [created, List.mem_append, not_or] at apart
        refine home.others entity found apart.1 ?_
        rw [← other fun same => apart.2 (List.mem_singleton.mpr same)]
        exact there
      · intro pair member
        rw [arrived] at member
        rw [created]
        obtain ⟨known, given⟩ := home.arrived pair member
        exact ⟨List.mem_append_left _ known, given⟩
      · rw [arrived]
        exact home.once
      · rw [arrived, outstanding]
        exact home.fewer
      · rw [outstanding]
        exact home.opens

/-! ### Polls -/

theorem take_requests (n : Node) (arrival : Arrival) : n.requests ⊆ (n.take arrival).requests := by
  obtain ⟨entity, role, sample⟩ := arrival
  cases role with
  | publisher | client => exact Finset.Subset.refl _
  | service => exact Finset.subset_insert _ _
  | subscription =>
      unfold Node.take
      dsimp only
      cases sample.values with
      | error cause => exact Finset.Subset.refl _
      | ok values =>
          dsimp only
          split <;> exact Finset.Subset.refl _

theorem takes_requests (arrivals : List Arrival) (n : Node) :
    n.requests ⊆ (arrivals.foldl Node.take n).requests := by
  induction arrivals generalizing n with
  | nil => exact Finset.Subset.refl _
  | cons arrival rest inductionHypothesis =>
      exact (take_requests n arrival).trans (inductionHypothesis _)

/-- A request that is reported came to a service, and is open. -/
theorem reported_requests {stamp : Int × Nat} {arrivals : List Arrival} {n : Node} {entity : Entity}
    {id : Nat} {args : Json} (reports : .request entity id args ∈ reported stamp n arrivals) :
    (∃ sample, (entity, Role.service, sample) ∈ arrivals) ∧
      (entity, id) ∈ (arrivals.foldl Node.take n).requests := by
  induction arrivals generalizing n with
  | nil => cases reports
  | cons arrival rest inductionHypothesis =>
      rw [reported_cons] at reports
      rcases List.mem_append.mp reports with first | later
      · obtain ⟨other, role, sample⟩ := arrival
        rcases converted_event (Option.mem_toList.mp first) with
          ⟨message, same⟩ | ⟨values, same⟩ | ⟨values, same, rfl⟩
        · cases same
        · cases same
        · cases same
          exact ⟨⟨sample, List.mem_cons_self⟩,
            takes_requests rest _ (Finset.mem_insert_self _ _)⟩
      · obtain ⟨⟨sample, member⟩, opened⟩ := inductionHypothesis later
        exact ⟨⟨sample, List.mem_cons_of_mem _ member⟩, opened⟩

/-- A sample waits at a handle. -/
theorem mem_arrivals {entity : Entity} {role : Role} {sample : Sample}
    (member : (entity, role, sample) ∈ arrivals env inbox s) :
    ∃ h, s.node.handles.lookup entity = some h ∧ h.role = role := by
  obtain ⟨entry, visited, waits⟩ := List.mem_flatMap.mp member
  obtain ⟨other, -, same⟩ := List.mem_map.mp waits
  cases same
  rw [mem_permute, List.mem_map] at visited
  obtain ⟨held, listed, rfl⟩ := visited
  exact ⟨held.2, (AList.lookup_eq_some_iff _ _ _).mpr listed, rfl⟩

/-- What is handled is left out, and a request to rosapi is handled. -/
theorem handleEvent_left {event : Event} {output : Option Event}
    (ran : handleEvent env event s = (.ok output, after)) :
    output = none ∨ output = some event ∧
      ∀ entity id args, event = .request entity id args →
        s.api.operations.lookup entity = none := by
  unfold handleEvent at ran
  rw [bind_ok (show api s = (.ok s.api, s) from rfl)] at ran
  cases event with
  | message entity message =>
      cases ran
      exact .inr ⟨rfl, fun _ _ _ same => by cases same⟩
  | request entity id args =>
      dsimp only at ran
      cases served : s.api.operations.lookup entity with
      | none =>
          rw [served] at ran
          cases ran
          refine .inr ⟨rfl, fun other _ _ same => ?_⟩
          cases same
          exact served
      | some op =>
          rw [served] at ran
          obtain ⟨answer, middle, -, rest⟩ := bind_returned ran
          cases answer with
          | ok _ =>
              cases rest
              exact .inl rfl
          | error cause =>
              obtain ⟨_, last, -, done⟩ := bind_returned rest
              cases done
              exact .inl rfl
  | response entity sequence values =>
      dsimp only at ran
      cases waits : s.api.pending.lookup (entity, sequence) with
      | none =>
          rw [waits] at ran
          cases ran
          exact .inr ⟨rfl, fun _ _ _ same => by cases same⟩
      | some pending =>
          rw [waits] at ran
          obtain ⟨_, _, -, rest⟩ := bind_returned ran
          obtain ⟨_, _, -, rest⟩ := bind_returned rest
          obtain ⟨_, _, -, done⟩ := bind_returned rest
          cases done
          exact .inl rfl

/-- A round reports events that came, in order, and no request to rosapi. -/
theorem process_left {events output : List Event}
    (ran : process env events s = (.ok output, after)) :
    output.Sublist events ∧ ∀ entity id args, .request entity id args ∈ output →
      s.api.operations.lookup entity = none := by
  have loop (events : List Event) (s last : Native) (seen outputs : List (Option Event))
      (folded : foldEach events seen (fun seen event => do
        return seen ++ [← handleEvent env event]) s = (.ok outputs, last)) :
      ∃ left, outputs.filterMap id = seen.filterMap id ++ left ∧ left.Sublist events ∧
        ∀ entity id args, .request entity id args ∈ left →
          s.api.operations.lookup entity = none := by
    induction events generalizing s seen with
    | nil =>
        cases folded
        exact ⟨[], (List.append_nil _).symm, .slnil, fun _ _ _ member => by cases member⟩
    | cons event rest inductionHypothesis =>
        obtain ⟨next, middle, noted, rests⟩ := bind_returned folded
        obtain ⟨output, state, handled, same⟩ := bind_returned noted
        cases same
        obtain ⟨left, given, among, foreign⟩ := inductionHypothesis middle (seen ++ [output]) rests
        have operations : middle.api.operations = s.api.operations := by
          have spares : Spares s (handleEvent env event s).2 := handleEvent_spares event s
          rw [handled] at spares
          exact spares.operations
        rw [operations] at foreign
        rw [List.filterMap_append] at given
        rcases handleEvent_left handled with rfl | ⟨rfl, unserved⟩
        · exact ⟨left, by simpa using given, among.cons event, foreign⟩
        · refine ⟨event :: left, by simpa using given, among.cons_cons event, ?_⟩
          intro entity id args member
          rcases List.mem_cons.mp member with here | later
          · exact unserved entity id args here.symm
          · exact foreign entity id args later
  obtain ⟨outputs, last, folded, rest⟩ := bind_returned ran
  obtain ⟨expired, _, -, rest⟩ := bind_returned rest
  obtain ⟨_, _, -, done⟩ := bind_returned rest
  cases done
  obtain ⟨left, given, among, foreign⟩ := loop events s last [] outputs folded
  rw [show outputs.filterMap id = left by simpa using given]
  exact ⟨among, foreign⟩

/-- What a poll tells the bridge of a request: it came to a service that is none of rosapi's, under
a new number, and it is open. -/
structure Reported (s after : Native) (pair : Entity × Nat) : Prop where
  service : ∃ h, s.node.handles.lookup pair.1 = some h ∧ h.role = .service
  unserved : s.api.operations.lookup pair.1 = none
  new : s.node.nextRequest < pair.2
  given : pair.2 ≤ after.node.nextRequest
  opens : Foreign s pair.1 → pair ∈ after.node.requests

theorem asked_numbers (events : List Event) :
    (events.filterMap Event.asked?).map Prod.snd = numbers events := by
  unfold numbers
  rw [List.map_filterMap]
  congr 1
  funext event
  cases event <;> rfl

/-- The requests of a poll. -/
theorem poll_reports {events : List Event} (idle : serving = false →
      ∀ entity, s.api.operations.lookup entity = none)
    (ran : poll env serving inbox s = (.ok events, after)) :
    (events.filterMap Event.asked?).Nodup ∧
      ∀ pair ∈ events.filterMap Event.asked?, Reported s after pair := by
  obtain ⟨taken, node, polls, next, handles, counted, outcome⟩ := poll_run env serving inbox s
  have polls := polls.symm.trans ran
  cases taken with
  | error cause => cases (bind_error rfl).symm.trans polls
  | ok all =>
      obtain ⟨-, rfl, rfl⟩ := outcome
      have polls : (if serving then process env (arrived env inbox s)
          else return arrived env inbox s : Action (List Event)) (s.polling env inbox) =
            (.ok events, after) := (bind_ok rfl).symm.trans polls
      obtain ⟨distinct, range⟩ := reported_numbers (pollTime env s) (arrivals env inbox s) s.node
      have leads : events.Sublist (arrived env inbox s) ∧
          (∀ entity id args, .request entity id args ∈ events →
            s.api.operations.lookup entity = none) ∧
          after.node.nextRequest = (s.polling env inbox).node.nextRequest ∧
          Spares (s.polling env inbox) after := by
        cases serving with
        | false =>
            cases polls
            exact ⟨.refl _, fun entity _ _ _ => idle rfl entity, rfl, .refl _⟩
        | true =>
            have polls : process env (arrived env inbox s) (s.polling env inbox) =
                (.ok events, after) := polls
            obtain ⟨among, foreign⟩ := process_left polls
            have tidy := (process_tame _ : Tame (process env (arrived env inbox s)))
              (s.polling env inbox)
            have spares : Spares (s.polling env inbox)
                (process env (arrived env inbox s) (s.polling env inbox)).2 :=
              process_spares (arrived env inbox s) (s.polling env inbox)
            rw [polls] at tidy spares
            exact ⟨among, foreign, tidy.requests, spares⟩
      obtain ⟨among, foreign, same, spares⟩ := leads
      have within : ∀ pair ∈ events.filterMap Event.asked?, ∃ args,
          .request pair.1 pair.2 args ∈ events := by
        intro pair member
        obtain ⟨event, listed, asks⟩ := List.mem_filterMap.mp member
        cases event <;> cases asks
        exact ⟨_, listed⟩
      constructor
      · have numbered : (numbers events).Nodup := distinct.sublist (among.filterMap _)
        rw [← asked_numbers] at numbered
        exact numbered.of_map _
      · intro pair member
        obtain ⟨args, listed⟩ := within pair member
        have reports := among.subset listed
        obtain ⟨⟨sample, waits⟩, opened⟩ := reported_requests reports
        have number : pair.2 ∈ numbers (arrived env inbox s) :=
          List.mem_filterMap.mpr ⟨_, reports, rfl⟩
        obtain ⟨new, given⟩ := range pair.2 number
        refine ⟨mem_arrivals waits, foreign _ _ _ listed, new, by rw [same]; exact given,
          fun holds => ?_⟩
        have still : Foreign (s.polling env inbox) pair.1 :=
          ⟨holds.given.trans (Nat.le_of_eq next.symm), holds.unserved, holds.unasked,
            holds.ungrouped⟩
        exact spares.requests pair.1 pair.2 still opened

/-- A poll takes no number back. -/
theorem poll_counted {reply : Except Error (List Event)}
    (ran : poll env serving inbox s = (answered reply, after)) :
    s.node.nextRequest ≤ after.node.nextRequest := by
  obtain ⟨taken, node, polls, -, -, counted, outcome⟩ := poll_run env serving inbox s
  have polls := polls.symm.trans ran
  cases taken with
  | error cause =>
      cases (congrArg Prod.snd ((bind_error rfl).symm.trans polls) : _ = after)
      exact counted
  | ok events =>
      have polls := (bind_ok rfl).symm.trans polls
      cases serving with
      | false =>
          cases (congrArg Prod.snd polls : _ = after)
          exact counted
      | true =>
          have tidy := (process_tame events : Tame (process env events)) (Native.noting { s with node }
            (.order (env.order s.trace)))
          rw [show process env events _ = (answered reply, after) from polls] at tidy
          exact counted.trans (Nat.le_of_eq tidy.requests.symm)

/-- A request that is reported came to a service of the bridge. -/
theorem Home.reported (home : Home serving log s) {pair : Entity × Nat}
    (reported : Reported s after pair) :
    pair.1 ∈ log.created ∧ ∃ h, (kept log).lookup pair.1 = some h ∧ h.role = .service := by
  obtain ⟨h, found, role⟩ := reported.service
  have member : pair.1 ∈ log.created := by
    by_contra apart
    rcases home.others pair.1 h apart found with ⟨-, listens⟩ | ⟨op, served⟩ | ⟨asks, -⟩
    · cases role.symm.trans listens
    · cases reported.unserved.symm.trans served
    · cases role.symm.trans asks
  exact ⟨member, h, by rw [← home.handles pair.1 member]; exact found, role⟩

theorem Home.polled (home : Home serving log s) {reply : Except Error (List Event)}
    (ran : poll env serving inbox s = (answered reply, after)) :
    Home serving (log ++ [.poll reply]) after := by
  have spares : Spares s after := by
    have within : Spares s (poll env serving inbox s).2 := poll_spares serving inbox s
    rwa [ran] at within
  have created : History.created (log ++ [.poll reply]) = log.created := by
    rw [created_snoc]
    exact List.append_nil _
  have counted := poll_counted ran
  have reports : (Entry.asked (.poll reply)).Nodup ∧
      ∀ pair ∈ Entry.asked (.poll reply), Reported s after pair := by
    cases reply with
    | error cause => exact ⟨List.nodup_nil, fun _ member => by cases member⟩
    | ok events => exact poll_reports home.idle ran
  have outstanding : History.outstanding (log ++ [.poll reply]) =
      log.outstanding + (Entry.asked (.poll reply) : Multiset (Entity × Nat)) := by
    rw [outstanding_snoc]
    cases reply with
    | error cause => exact (add_zero _).symm
    | ok events => rfl
  refine ⟨home.sound.polled ran, spares.clear home.clear, ?_, ?_, ?_, ?_, ?_, ?_, ?_, ?_, ?_⟩
  · rw [spares.operations]
    exact home.idle
  · rw [created]
    exact home.distinct
  · rw [created]
    exact fun entity member => spares.foreign entity (home.foreign entity member)
  · rw [created, kept_snoc]
    exact fun entity member => (spares.handles entity (home.foreign entity member)).trans
      (home.handles entity member)
  · rw [created, spares.operations, spares.clock]
    intro entity h apart found
    rcases spares.origin entity h found with earlier | asked
    · rcases home.others entity h apart earlier with clock | served | asked
      · exact .inl clock
      · exact .inr (.inl served)
      · exact .inr (.inr (asked.grow spares.grown))
    · exact .inr (.inr asked)
  · rw [created, arrived_snoc]
    intro pair member
    rcases List.mem_append.mp member with old | new
    · obtain ⟨known, given⟩ := home.arrived pair old
      exact ⟨known, given.trans counted⟩
    · have reported := reports.2 pair new
      exact ⟨(home.reported reported).1, reported.given⟩
  · rw [arrived_snoc]
    refine List.nodup_append.mpr ⟨home.once, reports.1, fun pair old other new same => ?_⟩
    have earlier := (home.arrived pair old).2
    have later := (reports.2 other new).new
    rw [← same] at later
    exact absurd (Nat.lt_of_lt_of_le later earlier) (Nat.lt_irrefl _)
  · rw [arrived_snoc, outstanding, ← Multiset.coe_add]
    exact Multiset.add_le_add_right home.fewer
  · rw [outstanding]
    intro pair member
    rcases Multiset.mem_add.mp member with old | new
    · have known := (home.arrived pair (Multiset.mem_coe.mp (Multiset.mem_of_le home.fewer old))).1
      exact spares.requests pair.1 pair.2 (home.foreign pair.1 known) (home.opens pair old)
    · have reported := reports.2 pair (Multiset.mem_coe.mp new)
      exact reported.opens (home.foreign pair.1 (home.reported reported).1)

/-! ### Start -/

/-- The handles of a node that starts. -/
structure Staffed (s : Native) : Prop where
  served : ∀ entity op, s.api.operations.lookup entity = some op → entity ≤ s.node.next
  others : ∀ entity h, s.node.handles.lookup entity = some h →
    (s.node.clockSubscription = some entity ∧ h.role = .subscription) ∨
      ∃ op, s.api.operations.lookup entity = some op

theorem Staffed.hire (staffed : Staffed s) (handle : Handle) (op : Query) {acts : Trace} :
    Staffed ⟨{ s.api with operations := s.api.operations.insert (s.node.next + 1) op },
      s.node.with handle, acts⟩ := by
  constructor
  · intro entity other found
    change (s.api.operations.insert (s.node.next + 1) op).lookup entity = some other at found
    rw [AList.lookup_insert_if] at found
    split at found
    · next same => exact Nat.le_of_eq same
    · exact (staffed.served entity other found).trans (Nat.le_succ _)
  · intro entity h found
    change (s.node.handles.insert (s.node.next + 1) handle).lookup entity = some h at found
    change _ ∨ ∃ other, (s.api.operations.insert (s.node.next + 1) op).lookup entity = some other
    rw [AList.lookup_insert_if] at found ⊢
    split at found
    · next same =>
        rw [if_pos same]
        exact .inr ⟨op, rfl⟩
    · next apart =>
        rw [if_neg apart]
        exact staffed.others entity h found

theorem serveApi_staffed {env : Middleware} {config : Access} {parameterTimeout : Duration}
    (staffed : Staffed { s with api := {} })
    (ran : serveApi env config parameterTimeout s = (.ok (), after)) :
    Staffed after ∧ after.node.clockSubscription = s.node.clockSubscription := by
  suffices wp (serveApi env config parameterTimeout) (fun outcome state => outcome = .ok () →
      Staffed state ∧ state.node.clockSubscription = s.node.clockSubscription) s by
    rw [wp_iff, ran] at this
    exact this rfl
  unfold serveApi
  rw [wp_bind, wp_changeApi, andThen_ok]
  refine wp_forEach (fun _ state => Staffed state ∧
    state.node.clockSubscription = s.node.clockSubscription) apiServices
    ⟨⟨(fun _ _ found => by cases found), staffed.others⟩, rfl⟩ ?_ fun _ held _ => held
  intro entry rest state held
  rw [wp_bind, wp_iff]
  unfold service
  rcases create_spec env (s := state)
    ⟨.service, "/rosapi/" ++ entry.2.1, "rosapi_msgs/srv/" ++ entry.2.2⟩ with
    ⟨-, created⟩ | ⟨cause, -, failed⟩
  · have created : _ = (answered (.ok (state.node.next + 1)), _) := created
    rw [recorded_of created]
    exact ⟨held.1.hire _ entry.1, held.2⟩
  · have failed : _ = (answered (.error cause), _) := failed
    rw [recorded_of failed]
    exact fun returned => by cases returned

/-- `Ros::new` creates at most the subscription to the clock. -/
theorem new_run {env : Middleware} {simulated : Bool}
    (ran : new env simulated ⟨{}, {}, []⟩ = (.ok (), s)) :
    s.api = {} ∧ s.trace = [] ∧ s.node.Numbered ∧ Staffed s := by
  cases simulated with
  | false =>
      cases ran
      refine ⟨rfl, rfl, fun entity member => ?_, ⟨fun entity op found => ?_, fun entity h found => ?_⟩⟩
      · exact absurd member (AList.notMem_empty entity)
      · cases found
      · cases found
  | true =>
      obtain ⟨_, middle, changed, rest⟩ := bind_returned ran
      cases changed
      obtain ⟨clock, last, created, rest⟩ := bind_returned rest
      rcases create_spec env (s := ⟨{}, { simulated := some (0, 0) }, []⟩)
        ⟨.subscription, "/clock", "rosgraph_msgs/msg/Clock"⟩ with ⟨-, made⟩ | ⟨cause, -, failed⟩
      · cases made.symm.trans created
        cases rest
        refine ⟨rfl, rfl, fun entity member => ?_,
          ⟨fun entity op found => ?_, fun entity h found => ?_⟩⟩
        · rcases (AList.mem_insert _).mp member with same | old
          · exact Nat.le_of_eq same
          · exact absurd old (AList.notMem_empty entity)
        · cases found
        · change ((∅ : Table Entity Handle).insert _ _).lookup entity = some h at found
          rw [AList.lookup_insert_if] at found
          split at found
          · next same =>
              cases found
              exact .inl ⟨congrArg some same.symm, rfl⟩
          · cases found
      · cases failed.symm.trans created

/-- A node that starts agrees with the empty history. -/
theorem Starts.home {simulated : Bool} (starts : Starts simulated serving s) :
    Home serving [] s := by
  obtain ⟨env, config, parameterTimeout, ran⟩ := starts
  obtain ⟨_, middle, began, rest⟩ := bind_returned ran
  obtain ⟨plain, silent, numbered, staffed⟩ := new_run began
  suffices Blank s ∧ s.node.Numbered ∧ Staffed s ∧
      (serving = false → ∀ entity, s.api.operations.lookup entity = none) by
    obtain ⟨blank, numbered, staffed, idle⟩ := this
    refine ⟨blank.sound numbered, ⟨staffed.served, fun key p found => ?_, fun entity member => ?_⟩,
      idle, .nil, fun _ member => ?_, fun _ member => ?_, fun entity h _ found => ?_,
      fun _ member => ?_, .nil, Multiset.zero_le _, fun _ member => ?_⟩
    · rw [blank.pending] at found
      cases found
    · obtain ⟨_, _, _, same⟩ := blank.acts _ member
      cases same
    · cases member
    · cases member
    · exact (staffed.others entity h found).imp_right .inl
    · cases member
    · exact absurd member (Multiset.notMem_zero _)
  cases serving with
  | false =>
      cases rest
      refine ⟨⟨?_, ?_, ?_⟩, numbered, staffed, fun _ entity => ?_⟩
      · rw [plain]
      · rw [plain]
      · rw [silent]
        exact fun _ member => by cases member
      · rw [plain]
        rfl
  | true =>
      have tidy := serveApi_tame env config parameterTimeout middle
      have rest : serveApi env config parameterTimeout middle = (.ok (), s) := rest
      rw [rest] at tidy
      refine ⟨serveApi_blank silent rest, tidy.numbered numbered, (serveApi_staffed ?_ rest).1,
        fun off => by cases off⟩
      rw [← plain]
      exact staffed

/-! ### Runs -/

theorem Home.served (home : Home serving log s) (serves : Serves serving entry s after) :
    Home serving (log ++ [entry]) after := by
  by_cases calls : ∀ reply, entry ≠ .poll reply
  · obtain ⟨node, rfl, effect⟩ := serves.effect calls
    exact home.effect effect
  · simp only [ne_eq, not_forall, not_not] at calls
    obtain ⟨reply, rfl⟩ := calls
    obtain ⟨host, inbox, ran⟩ := serves
    exact home.polled ran

theorem Home.trail {later : History} (home : Home serving log s)
    (run : Trail (Serves serving) later s after) : Home serving (log ++ later) after := by
  apply run.history (fun done state => Home serving (log ++ done) state)
  · intro done entry before next serves held
    rw [← List.append_assoc]
    exact held.served serves
  · rwa [List.append_nil]

theorem Hosted.home {simulated : Bool} (hosted : Hosted simulated serving log s) :
    Home serving log s := by
  obtain ⟨start, starts, run⟩ := hosted
  exact starts.home.trail run

end Rosbridge.Ros
