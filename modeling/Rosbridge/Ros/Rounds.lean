import Rosbridge.Ros.Accounts

/-!
One round of rosapi over the events of a poll.

Owns: the changes of a round; `Clean`, the rounds in which no request is lost; and that such
a round keeps the tables in agreement, the replies accounted for, and every open request
with an answer to come.
-/

set_option autoImplicit false

namespace Rosbridge.Ros

open Foundation Program

variable {env : Middleware} {s after : Native} {given : List Event}

/-! ### Runs of changes -/

theorem Change.Serves.quiet {params : Option (List Pattern)} {id : Nat} {change : Change}
    (serves : change.Serves params id) : change.Quiet := by
  cases change with
  | opened | replied => exact serves.elim
  | _ => trivial

/-- Coherent and accounted for. -/
structure Kept (s : Native) (given : List Event) : Prop where
  coherent : Coherent s
  accounted : Accounted s given

theorem Kept.quiet (kept : Kept s given) (distinct : (numbers given).Nodup) {change : Change}
    (altered : Alters change s after) (quiet : change.Quiet) : Kept after given :=
  ⟨altered.coherent kept.coherent, kept.accounted.quiet distinct kept.coherent altered quiet⟩

theorem Kept.served (kept : Kept s given) (distinct : (numbers given).Nodup) {id : Nat}
    (served : Served id s after) : Kept after given := by
  refine served.invariant (fun state => Kept state given) ?_ kept
  intro change before after serves altered kept
  exact kept.quiet distinct altered serves.quiet

/-- No new parameter request came. -/
theorem Kept.more (kept : Kept s given) {events : List Event}
    (none : asked s.api.operations events = []) : Kept s (given ++ events) :=
  ⟨kept.coherent, kept.accounted.more none⟩

/-- The request whose group a change touches. -/
def Change.group? : Change → Option Nat
  | .opened id _ | .issued id _ _ _ _ _ | .listed id _ | .closed id _ _ _ _ => some id
  | .answered _ _ pending => some pending.group
  | _ => none

/-- Every other group stays as it is. -/
theorem Alters.untouched {change : Change} (altered : Alters change s after) {id : Nat}
    (other : change.group? ≠ some id) : after.api.groups.lookup id = s.api.groups.lookup id := by
  have apart {touched : Nat} (same : change.group? = some touched) : id ≠ touched := by
    rintro rfl
    exact other same
  cases altered with
  | opened => exact AList.lookup_insert_ne (apart rfl)
  | issued | answered | listed =>
      refine (AList.lookup_alter _ _ _ _).trans ?_
      rw [if_neg (apart rfl)]
  | closed => exact AList.lookup_erase_ne (apart rfl)
  | _ => rfl

theorem Served.untouched {id other : Nat} (served : Served id s after) (apart : other ≠ id) :
    after.api.groups.lookup other = s.api.groups.lookup other := by
  refine served.invariant
    (fun state => state.api.groups.lookup other = s.api.groups.lookup other) ?_ rfl
  intro change before after serves altered same
  refine (altered.untouched fun touched => ?_).trans same
  cases change with
  | issued => exact apart ((Option.some.inj touched).symm.trans serves.1)
  | listed | closed => exact apart ((Option.some.inj touched).symm.trans serves)
  | opened | answered => exact serves.elim
  | _ => cases touched

/-! ### One event -/

/-- The number of a new request has not been seen. -/
theorem number_new {event : Event} {id : Nat} (distinct : (numbers (given ++ [event])).Nodup)
    (number : id ∈ numbers [event]) : id ∉ numbers given := by
  rw [numbers_append] at distinct
  exact fun old => (List.nodup_append.mp distinct).2.2 id old id number rfl

theorem Handles.kept {event : Event} (handles : Handles env s event after)
    (distinct : (numbers (given ++ [event])).Nodup) (kept : Kept s given) :
    Kept after (given ++ [event]) := by
  have before : (numbers given).Nodup := by
    rw [numbers_append] at distinct
    exact (List.nodup_append.mp distinct).1
  cases handles with
  | left other =>
      apply kept.more
      cases event with
      | request entity id args =>
          simp [asked, parameterRequest?, other entity id args rfl]
      | _ => rfl
  | @told entity id args op _ operation plain changes =>
      have none : asked s.api.operations [.request entity id args] = [] := by
        simp [asked, parameterRequest?, operation, plain]
      have number : id ∈ numbers [.request entity id args] := List.mem_cons_self
      refine (changes.invariant (fun state => state.api.operations = s.api.operations ∧
        Kept state (given ++ [.request entity id args])) ?_ ⟨rfl, kept.more none⟩).2
      rintro change first second tells altered ⟨same, kept⟩
      refine ⟨altered.constant.2.trans same, altered.coherent kept.coherent,
        kept.accounted.tells (fun request member named => ?_) ?_ altered tells⟩
      · rw [same, asked_append, none, List.append_nil] at member
        have old := asked_number member
        rw [named] at old
        exact number_new distinct number old
      · rw [numbers_append]
        exact List.mem_append_right _ number
  | @served entity id args op _ _ group _ _ _ _ operation parameter service started opening serves
      settles finished =>
      have asks : asked s.api.operations [.request entity id args] = [(group.service, id)] := by
        simp [asked, parameterRequest?, operation, parameter, service]
      have kept := kept.quiet before started trivial
      rw [← started.constant.2] at asks
      have opened : Kept _ (given ++ [.request entity id args]) :=
        ⟨opening.coherent kept.coherent, kept.accounted.opened asks distinct opening⟩
      exact (opened.served distinct serves).quiet distinct finished trivial
  | used answers serves =>
      have kept := (kept.quiet before answers trivial).served before serves
      exact kept.more rfl

/-- Every request in a group still waits for an answer. -/
def AllSettled (s : Native) : Prop := ∀ id, Settled id s

theorem AllSettled.untouched (all : AllSettled s) (id : Nat) (settled : Settled id after)
    (others : ∀ other, other ≠ id →
      after.api.groups.lookup other = s.api.groups.lookup other) : AllSettled after := by
  intro other
  by_cases same : other = id
  · rw [same]
    exact settled
  · intro g found
    rw [others other same] at found
    exact all other g found

theorem Handles.settled {event : Event} (handles : Handles env s event after)
    (all : AllSettled s) (answerable : ¬ Strands env s event) : AllSettled after := by
  cases handles with
  | left => exact all
  | told operation plain changes =>
      refine changes.invariant AllSettled ?_ all
      intro change before after tells altered all id g found
      rw [altered.untouched] at found
      · exact all id g found
      · cases change with
        | watched | replied => exact nofun
        | _ => exact tells.elim
  | @served entity id args op _ _ _ _ _ _ _ operation parameter service started opening serves
      settles finished =>
      refine all.untouched id (fun g found => ?_) fun other apart => ?_
      · rw [finished.untouched nofun] at found
        exact settles g found
      · rw [finished.untouched nofun, serves.untouched apart,
          opening.untouched fun same => apart (Option.some.inj same).symm, started.untouched nofun]
  | used answers serves settles =>
      refine all.untouched _ (settles.resolve_right answerable) fun other apart => ?_
      rw [serves.untouched apart, answers.untouched fun same => apart (Option.some.inj same).symm]

/-! ### Any round -/

/-- A change that asks only for listed parameters, and takes up only the given requests. -/
def Change.Fits (params : Option (List Pattern)) (ids : List Nat) : Change → Prop
  | .opened id _ => id ∈ ids
  | .dropped _ typ args _ | .issued _ _ typ args _ _ => Asks params typ args
  | _ => True

/-- The changes of a round. -/
abbrev Rounds (ids : List Nat) (s after : Native) : Prop :=
  Follows Alters (Change.Fits s.api.config.params ids) s after

theorem Rounds.config {ids : List Nat} (rounds : Rounds ids s after) :
    after.api.config = s.api.config := by
  refine rounds.invariant (fun state => state.api.config = s.api.config) ?_ rfl
  intro change before after _ altered same
  exact altered.constant.1.trans same

theorem Rounds.trans {ids others : List Nat} {middle : Native} (first : Rounds ids s middle)
    (second : Rounds others middle after) : Rounds (ids ++ others) s after := by
  rw [Rounds, first.config] at second
  refine Follows.trans (first.mono fun change fits => ?_) (second.mono fun change fits => ?_)
  · cases change with
    | opened => exact List.mem_append_left _ fits
    | _ => exact fits
  · cases change with
    | opened => exact List.mem_append_right _ fits
    | _ => exact fits

theorem Served.rounds {id : Nat} (served : Served id s after) : Rounds [] s after := by
  refine served.mono fun change serves => ?_
  cases change with
  | opened => exact serves.elim
  | dropped => exact serves
  | issued => exact serves.2
  | _ => trivial

theorem Handles.rounds {event : Event} (handles : Handles env s event after) :
    Rounds (numbers [event]) s after := by
  cases handles with
  | left => exact .refl s
  | told operation plain changes =>
      refine changes.mono fun change tells => ?_
      cases change with
      | watched | replied => trivial
      | _ => exact tells.elim
  | @served entity id args _ _ _ _ _ _ _ _ operation parameter service started opening serves
      settles finished =>
      have here : id ∈ numbers [.request entity id args] := List.mem_cons_self
      have first : Rounds [] s _ := .single started trivial
      have second : Rounds (numbers [.request entity id args]) _ _ := .single opening here
      have last : Rounds [] _ after := .single finished trivial
      simpa using ((first.trans second).trans serves.rounds).trans last
  | used answers serves =>
      have first : Rounds [] s _ := .single answers trivial
      exact first.trans serves.rounds

/-- Only requests that came are in groups. -/
def Grouped (s : Native) (given : List Event) : Prop :=
  ∀ id g, s.api.groups.lookup id = some g → id ∈ numbers given

theorem Rounds.grouped {events : List Event} (rounds : Rounds (numbers events) s after)
    (grouped : Grouped s given) : Grouped after (given ++ events) := by
  have start : Grouped s (given ++ events) := by
    intro id g found
    rw [numbers_append]
    exact List.mem_append_left _ (grouped id g found)
  refine rounds.invariant (fun state => Grouped state (given ++ events)) ?_ start
  intro change before after fits altered grouped id g found
  by_cases touched : change.group? = some id
  · cases known : before.api.groups.lookup id with
    | some group => exact grouped id group known
    | none =>
        cases altered with
        | opened =>
            rw [numbers_append, ← Option.some.inj touched]
            exact List.mem_append_right _ fits
        | issued _ there => cases (Option.some.inj touched ▸ there).symm.trans known
        | answered _ _ there => cases (Option.some.inj touched ▸ there).symm.trans known
        | closed _ there => cases (Option.some.inj touched ▸ there).symm.trans known
        | listed =>
            change (before.api.groups.alter _ _).lookup id = some g at found
            rw [AList.lookup_alter, known] at found
            split at found
            · next same =>
                rw [← same, known] at found
                cases found
            · cases found
        | _ => cases touched
  · rw [altered.untouched touched] at found
    exact grouped id g found

theorem Rounds.coherent {ids : List Nat} (rounds : Rounds ids s after) (coherent : Coherent s) :
    Coherent after :=
  rounds.invariant Coherent (fun _ _ _ _ altered coherent => altered.coherent coherent) coherent

/-- The number of a request that comes is in no group. -/
theorem Grouped.fresh {event : Event} (grouped : Grouped s given)
    (distinct : (numbers (given ++ [event])).Nodup) :
    ∀ entity id args, event = .request entity id args → s.api.groups.lookup id = none := by
  rintro entity id args rfl
  cases found : s.api.groups.lookup id with
  | none => rfl
  | some g => exact (number_new distinct List.mem_cons_self (grouped id g found)).elim

theorem events_rounds {events : List Event} (seen : List (Option Event))
    (distinct : (numbers (given ++ events)).Nodup) (coherent : Coherent s)
    (grouped : Grouped s given) :
    (∃ after, foldEach events seen (fun seen event => do
        return seen ++ [← handleEvent env event]) s = (.panic clockOverflow, after)) ∨
      ∃ reply after, foldEach events seen (fun seen event => do
          return seen ++ [← handleEvent env event]) s = (answered reply, after) ∧
        Rounds (numbers events) s after := by
  induction events generalizing s given seen with
  | nil => exact .inr ⟨.ok seen, s, rfl, .refl s⟩
  | cons event rest inductionHypothesis =>
      rw [List.append_cons] at distinct
      have first : (numbers (given ++ [event])).Nodup := by
        rw [numbers_append] at distinct
        exact (List.nodup_append.mp distinct).1
      have numbered : numbers (event :: rest) = numbers [event] ++ numbers rest :=
        @numbers_append [event] rest
      rw [numbered]
      rcases handleEvent_run env coherent (grouped.fresh first) with
        ⟨after, ran⟩ | ⟨reply, middle, ran, handles, -⟩
      · exact .inl ⟨after, bind_panic (bind_panic ran)⟩
      · have rounds := handles.rounds
        cases reply with
        | error cause =>
            refine .inr ⟨.error cause, middle, bind_error (bind_error ran), ?_⟩
            have none : Rounds (numbers rest) middle middle := .refl middle
            exact rounds.trans none
        | ok output =>
            refine (inductionHypothesis (seen ++ [output]) distinct (rounds.coherent coherent)
              (rounds.grouped grouped)).imp ?_ ?_
            · exact fun ⟨last, rests⟩ => ⟨last, (bind_ok ((bind_ok ran).trans rfl)).trans rests⟩
            · exact fun ⟨reply, last, rests, later⟩ =>
                ⟨reply, last, (bind_ok ((bind_ok ran).trans rfl)).trans rests, rounds.trans later⟩

/-! ### The events of a poll -/

/-- No request is lost among the events: none is left in a group without an answer to come,
and no parameter request waits behind an answer whose reply is refused. -/
def Clean (env : Middleware) : List Event → Native → Prop
  | [], _ => True
  | event :: rest, s =>
      ¬ Strands env s event ∧ (Fails env s event → asked s.api.operations rest = []) ∧
        (¬ Fails env s event → Clean env rest (handleEvent env event s).2)

/-- What holds between two rounds. -/
structure Steady (s : Native) (given : List Event) : Prop where
  kept : Kept s given
  settled : AllSettled s

theorem Handles.operations {event : Event} (handles : Handles env s event after) :
    after.api.operations = s.api.operations := by
  have along {passes : Change → Prop} {first last : Native}
      (changes : Follows Alters passes first last) :
      last.api.operations = first.api.operations := by
    refine changes.invariant (fun state => state.api.operations = first.api.operations) ?_ rfl
    intro change before after _ altered same
    exact altered.constant.2.trans same
  cases handles with
  | left => rfl
  | told operation plain changes => exact along changes
  | served operation parameter service started opening serves settles finished =>
      rw [finished.constant.2, along serves, opening.constant.2, started.constant.2]
  | used answers serves => rw [along serves, answers.constant.2]

theorem events_run {events : List Event} (seen : List (Option Event))
    (distinct : (numbers (given ++ events)).Nodup) (steady : Steady s given)
    (clean : Clean env events s) :
    (∃ after, foldEach events seen (fun seen event => do
        return seen ++ [← handleEvent env event]) s = (.panic clockOverflow, after)) ∨
      ∃ reply after, foldEach events seen (fun seen event => do
          return seen ++ [← handleEvent env event]) s = (answered reply, after) ∧
        Steady after (given ++ events) := by
  induction events generalizing s given seen with
  | nil =>
      rw [List.append_nil]
      exact .inr ⟨.ok seen, s, rfl, steady⟩
  | cons event rest inductionHypothesis =>
      rw [List.append_cons] at distinct ⊢
      have first : (numbers (given ++ [event])).Nodup := by
        rw [numbers_append] at distinct
        exact (List.nodup_append.mp distinct).1
      obtain ⟨answerable, drops, goes⟩ := clean
      have grouped : Grouped s given := fun id g found =>
        asked_number (steady.kept.accounted.waiting id g found).1
      rcases handleEvent_run env steady.kept.coherent (grouped.fresh first) with
        ⟨after, ran⟩ | ⟨reply, after, ran, handles, ended⟩
      · exact .inl ⟨after, bind_panic (bind_panic ran)⟩
      · have kept := handles.kept first steady.kept
        have settled := handles.settled steady.settled answerable
        have failed := ended.resolve_left answerable
        cases reply with
        | error cause =>
            refine .inr ⟨.error cause, after, bind_error (bind_error ran), kept.more ?_, settled⟩
            rw [handles.operations]
            exact drops (failed.mpr ⟨cause, rfl⟩)
        | ok output =>
            have clean := goes fun fails => nomatch failed.mp fails
            rw [ran] at clean
            refine (inductionHypothesis (seen ++ [output]) distinct ⟨kept, settled⟩
              clean).imp ?_ ?_
            · exact fun ⟨last, rests⟩ => ⟨last, (bind_ok ((bind_ok ran).trans rfl)).trans rests⟩
            · exact fun ⟨reply, last, rests, steady⟩ =>
                ⟨reply, last, (bind_ok ((bind_ok ran).trans rfl)).trans rests, steady⟩

/-! ### Deadlines -/

theorem Steady.watched (steady : Steady s given) (distinct : (numbers given).Nodup) {acts : Trace}
    (altered : Alters (.watched acts) s after) : Steady after given := by
  refine ⟨steady.kept.quiet distinct altered trivial, fun id g found => ?_⟩
  rw [altered.untouched nofun] at found
  exact steady.settled id g found

/-- A request is finished, if it is known. -/
theorem finish_any (env : Middleware) (id : Nat) (value : Option Json) (error : Option String)
    (s : Native) : ∃ reply after, finish env id value error s = (answered reply, after) ∧
      Served id s after ∧ Settled id after := by
  cases known : s.api.groups.lookup id with
  | none =>
      refine ⟨.error ⟨"missing parameter request"⟩, s, ?_, .refl s, fun g found => ?_⟩
      · refine (bind_ok (show api s = (.ok s.api, s) from rfl)).trans ?_
        rw [known]
        rfl
      · cases known.symm.trans found
  | some group =>
      obtain ⟨reply, after, ran, served, settles⟩ := finish_served env known value error
      exact ⟨reply, after, ran, served, settles.settled⟩

/-- What finishing a request keeps, the deadlines keep. -/
theorem expire_run (env : Middleware) (ids : List Nat) (inv : Native → Prop)
    (keeps : ∀ id (before after : Native), Served id before after → Settled id after →
      inv before → inv after) (holds : inv s) : ∃ reply after,
      forEach ids (fun id => finish env id none (some "Timeout occurred")) s =
        (answered reply, after) ∧ inv after := by
  induction ids generalizing s with
  | nil => exact ⟨.ok (), s, rfl, holds⟩
  | cons id rest inductionHypothesis =>
      obtain ⟨reply, middle, ran, served, settled⟩ :=
        finish_any env id none (some "Timeout occurred") s
      have holds := keeps id s middle served settled holds
      cases reply with
      | error cause => exact ⟨.error cause, middle, bind_error ran, holds⟩
      | ok _ =>
          obtain ⟨reply, after, rests, holds⟩ := inductionHypothesis holds
          exact ⟨reply, after, (bind_ok ran).trans rests, holds⟩

theorem Steady.served (steady : Steady s given) (distinct : (numbers given).Nodup) {id : Nat}
    (served : Served id s after) (settled : Settled id after) : Steady after given :=
  ⟨steady.kept.served distinct served,
    steady.settled.untouched id settled fun _ apart => served.untouched apart⟩

/-- A round from its two loops: what the events keep, the looks keep, and the deadlines keep
holds at its end. -/
theorem process_of {events : List Event} (inv : Native → Prop)
    (loop : (∃ after, foldEach events [] (fun seen event => do
        return seen ++ [← handleEvent env event]) s = (.panic clockOverflow, after)) ∨
      ∃ reply after, foldEach events [] (fun seen event => do
          return seen ++ [← handleEvent env event]) s = (answered reply, after) ∧ inv after)
    (looks : ∀ acts (before after : Native), Alters (.watched acts) before after →
      inv before → inv after)
    (keeps : ∀ id (before after : Native), Served id before after → Settled id after →
      inv before → inv after) :
    (∃ after, process env events s = (.panic clockOverflow, after)) ∨
      ∃ reply after, process env events s = (answered reply, after) ∧ inv after := by
  rcases loop with ⟨after, ran⟩ | ⟨reply, middle, ran, holds⟩
  · exact .inl ⟨after, bind_panic ran⟩
  · cases reply with
    | error cause => exact .inr ⟨.error cause, middle, bind_error ran, holds⟩
    | ok output =>
        obtain ⟨reply, acts, definitions, looked, idle, -⟩ := expiredGroups_watches env middle
        have holds := looks acts _ _ (@Looks.watched _ definitions _ idle) holds
        cases reply with
        | error cause =>
            exact .inr ⟨.error cause, _, (bind_ok ran).trans (bind_error looked), holds⟩
        | ok ids =>
            obtain ⟨reply, after, done, holds⟩ := expire_run env ids inv keeps holds
            cases reply with
            | error cause =>
                exact .inr ⟨.error cause, after,
                  (bind_ok ran).trans ((bind_ok looked).trans (bind_error done)), holds⟩
            | ok _ =>
                exact .inr ⟨.ok (output.filterMap id), after,
                  (bind_ok ran).trans ((bind_ok looked).trans (bind_ok done)), holds⟩

/-- A round takes changes that fit, and panics nowhere but at the end of the clock. -/
theorem process_rounds {events : List Event} (distinct : (numbers (given ++ events)).Nodup)
    (coherent : Coherent s) (grouped : Grouped s given) :
    (∃ after, process env events s = (.panic clockOverflow, after)) ∨
      ∃ reply after, process env events s = (answered reply, after) ∧
        Rounds (numbers events) s after := by
  refine process_of (Rounds (numbers events) s) (events_rounds [] distinct coherent grouped) ?_ ?_
  · intro acts before after altered rounds
    have last : Rounds [] before after := .single altered trivial
    simpa using rounds.trans last
  · intro id before after served _ rounds
    simpa using rounds.trans served.rounds

/-- A clean round loses no request. -/
theorem process_steady {events : List Event} (distinct : (numbers (given ++ events)).Nodup)
    (steady : Steady s given) (clean : Clean env events s) :
    (∃ after, process env events s = (.panic clockOverflow, after)) ∨
      ∃ reply after, process env events s = (answered reply, after) ∧
        Steady after (given ++ events) := by
  refine process_of (fun state => Steady state (given ++ events))
    (events_run [] distinct steady clean) ?_ ?_
  · exact fun acts before after altered steady => steady.watched distinct altered
  · exact fun id before after served settled steady => steady.served distinct served settled

end Rosbridge.Ros
