import Rosbridge.Ros.Handling

/-!
The replies to the parameter requests are counted.

Owns: the requests among the events given to rosapi, the replies attempted to each, and
`Accounted`, which the handling of an event keeps: a request in a group has had no reply,
and every other one has had exactly one.
-/

set_option autoImplicit false

namespace Rosbridge.Ros

open Foundation

/-! ### Requests and replies -/

/-- The number of a request. -/
def requestNumber? : Event → Option Nat
  | .request _ id _ => some id
  | _ => none

/-- The request, if it is a parameter request for rosapi. -/
def parameterRequest? (operations : Table Entity Query) : Event → Option (Entity × Nat)
  | .request entity id _ =>
      if (operations.lookup entity).any Query.isParameter then some (entity, id) else none
  | _ => none

def numbers (events : List Event) : List Nat := events.filterMap requestNumber?

/-- The parameter requests among the events. -/
def asked (operations : Table Entity Query) (events : List Event) : List (Entity × Nat) :=
  events.filterMap (parameterRequest? operations)

/-- A reply to the request is attempted. -/
def Act.replies (request : Entity × Nat) : Act → Bool
  | .respond entity id _ _ => (entity, id) = request
  | _ => false

/-- The number of replies attempted to a request. -/
def attempts (trace : Trace) (request : Entity × Nat) : Nat := trace.countP (Act.replies request)

section Requests

variable {operations : Table Entity Query} {events : List Event} {request : Entity × Nat}

@[simp] theorem numbers_append (others : List Event) :
    numbers (events ++ others) = numbers events ++ numbers others := List.filterMap_append

@[simp] theorem asked_append (others : List Event) :
    asked operations (events ++ others) = asked operations events ++ asked operations others :=
  List.filterMap_append

theorem asked_sublist : ((asked operations events).map Prod.snd).Sublist (numbers events) := by
  induction events with
  | nil => exact .slnil
  | cons event rest inductionHypothesis =>
      unfold asked numbers at inductionHypothesis ⊢
      cases event with
      | request entity id args =>
          rw [List.filterMap_cons, List.filterMap_cons]
          simp only [parameterRequest?, requestNumber?]
          split
          · next none =>
              split at none
              · cases none
              · exact inductionHypothesis.cons id
          · next found =>
              split at found
              · cases found
                exact inductionHypothesis.cons_cons id
              · cases found
      | _ => exact inductionHypothesis

theorem asked_number (member : request ∈ asked operations events) :
    request.2 ∈ numbers events :=
  asked_sublist.subset (List.mem_map.mpr ⟨request, member, rfl⟩)

/-- Two requests with the same number are one. -/
theorem asked_unique {other : Entity × Nat} (distinct : (numbers events).Nodup)
    (first : request ∈ asked operations events) (second : other ∈ asked operations events)
    (same : request.2 = other.2) : request = other :=
  List.inj_on_of_nodup_map (distinct.sublist asked_sublist) first second same

@[simp] theorem attempts_append (left right : Trace) :
    attempts (left ++ right) request = attempts left request + attempts right request :=
  List.countP_append

/-- Acts that are no reply change nothing. -/
theorem attempts_same {acts : Trace} (none : ∀ act ∈ acts, act.replies request = false)
    (trace : Trace) : attempts (trace ++ acts) request = attempts trace request := by
  have zero : attempts acts request = 0 := by
    refine List.countP_eq_zero.mpr fun act member => ?_
    rw [none act member]
    exact Bool.false_ne_true
  rw [attempts_append, zero, Nat.add_zero]

theorem attempts_respond {entity : Entity} {id : Nat} {value : Json}
    {reply : Except Error Unit} :
    attempts [.respond entity id value reply] request = if (entity, id) = request then 1 else 0 := by
  rw [attempts, List.countP_singleton]
  simp [Act.replies]

end Requests

/-- The replies that a change attempts. -/
def Change.replies (request : Entity × Nat) : Change → Nat
  | .closed _ group _ _ _ => if (group.service, group.request) = request then 1 else 0
  | .replied entity id _ _ => if (entity, id) = request then 1 else 0
  | _ => 0

theorem Alters.replies {change : Change} {s after : Native} (altered : Alters change s after)
    (request : Entity × Nat) :
    attempts after.trace request = attempts s.trace request + change.replies request := by
  cases altered with
  | watched idle =>
      refine attempts_same (fun act member => ?_) s.trace
      have still := idle act member
      cases act with
      | respond => cases still
      | _ => rfl
  | opened | listed => rfl
  | closed =>
      rw [attempts_append, attempts_respond, attempts_same]
      · rfl
      · intro act member
        rcases List.mem_cons.mp member with rfl | member
        · rfl
        · obtain ⟨key, -, rfl⟩ := List.mem_map.mp member
          rfl
  | replied =>
      rw [attempts_append, attempts_respond]
      rfl
  | _ => exact attempts_same (by simp [Act.replies]) s.trace

/-! ### The account -/

/-- Every request in a group is unanswered, and every other parameter request has had one
reply. -/
structure Accounted (s : Native) (given : List Event) : Prop where
  waiting : ∀ id g, s.api.groups.lookup id = some g →
    (g.service, id) ∈ asked s.api.operations given ∧ attempts s.trace (g.service, id) = 0
  replied : ∀ request ∈ asked s.api.operations given,
    s.api.groups.lookup request.2 = none → attempts s.trace request = 1
  known : ∀ request, 0 < attempts s.trace request → request.2 ∈ numbers given

/-- A change that neither takes up a request nor answers a question. -/
def Change.Quiet : Change → Prop
  | .opened _ _ | .replied _ _ _ _ => False
  | _ => True

section Account

variable {s after : Native} {given : List Event}

/-- No new parameter request came. -/
theorem Accounted.more (accounted : Accounted s given) {events : List Event}
    (none : asked s.api.operations events = []) : Accounted s (given ++ events) where
  waiting id g found := by
    rw [asked_append, none, List.append_nil]
    exact accounted.waiting id g found
  replied request := by
    rw [asked_append, none, List.append_nil]
    exact accounted.replied request
  known request attempted := by
    rw [numbers_append]
    exact List.mem_append_left _ (accounted.known request attempted)

/-- Once closed, a group has had its reply. -/
theorem Accounted.closed (accounted : Accounted s given) (distinct : (numbers given).Nodup)
    {id : Nat} {group : Group} (known : s.api.groups.lookup id = some group)
    (named : group.request = id) (operations : after.api.operations = s.api.operations)
    (groups : after.api.groups = s.api.groups.erase id)
    (counted : ∀ request, attempts after.trace request = attempts s.trace request +
      if (group.service, group.request) = request then 1 else 0) : Accounted after given := by
  obtain ⟨member, unanswered⟩ := accounted.waiting id group known
  refine ⟨fun other g found => ?_, fun request there gone => ?_, fun request attempted => ?_⟩
  · rw [groups, AList.lookup_erase_if] at found
    split at found
    · cases found
    · next different =>
        have waits := accounted.waiting other g found
        rw [operations, counted, if_neg]
        · exact waits
        · intro same
          exact different ((congrArg Prod.snd same).symm.trans named)
  · rw [operations] at there
    rw [groups, AList.lookup_erase_if] at gone
    rw [counted, named]
    by_cases same : request.2 = id
    · have one := asked_unique distinct there member same
      rw [one, unanswered, if_pos rfl]
    · rw [if_neg same] at gone
      rw [accounted.replied request there gone, if_neg]
      rintro rfl
      exact same rfl
  · rw [counted] at attempted
    split at attempted
    · next same =>
        rw [← same, named]
        exact asked_number member
    · exact accounted.known request attempted

/-- A change that leaves the group's service and every reply alone. -/
theorem Accounted.still (accounted : Accounted s given)
    (operations : after.api.operations = s.api.operations)
    (groups : ∀ id, (after.api.groups.lookup id).map Group.service =
      (s.api.groups.lookup id).map Group.service)
    (counted : ∀ request, attempts after.trace request = attempts s.trace request) :
    Accounted after given := by
  refine ⟨fun id g found => ?_, fun request there gone => ?_, fun request attempted => ?_⟩
  · have same := groups id
    rw [found] at same
    obtain ⟨group, known, service⟩ := Option.map_eq_some_iff.mp same.symm
    rw [operations, counted, ← service]
    exact accounted.waiting id group known
  · rw [operations] at there
    rw [counted]
    refine accounted.replied request there (Option.map_eq_none_iff.mp ((groups request.2).symm.trans ?_))
    rw [gone]
    rfl
  · rw [counted] at attempted
    exact accounted.known request attempted

/-- A quiet change keeps the account. -/
theorem Accounted.quiet (accounted : Accounted s given) (distinct : (numbers given).Nodup)
    (coherent : Coherent s) {change : Change} (altered : Alters change s after)
    (quiet : change.Quiet) : Accounted after given := by
  have counted := altered.replies
  have operations := altered.constant.2
  have alters (id : Nat) (change : Group → Group) (keeps : ∀ g, (change g).service = g.service)
      (other : Nat) : ((s.api.groups.alter id change).lookup other).map Group.service =
        (s.api.groups.lookup other).map Group.service := by
    rw [AList.lookup_alter]
    split
    · next same =>
        rw [same]
        cases s.api.groups.lookup id with
        | none => rfl
        | some g => exact congrArg some (keeps g)
    · rfl
  cases altered with
  | opened | replied => exact quiet.elim
  | closed next known different lists all =>
      exact accounted.closed distinct known (coherent.group known).request rfl rfl counted
  | issued | answered | listed =>
      exact accounted.still operations (alters _ _ fun _ => rfl) counted
  | _ => exact accounted.still operations (fun _ => rfl) counted

/-- A question leaves the account of the parameter requests alone. -/
theorem Accounted.tells (accounted : Accounted s given) {entity : Entity} {id : Nat}
    (plain : ∀ request ∈ asked s.api.operations given, request.2 ≠ id)
    (named : id ∈ numbers given) {change : Change} (altered : Alters change s after)
    (tells : change.Tells entity id) : Accounted after given := by
  have counted := altered.replies
  have operations := altered.constant.2
  cases altered with
  | watched => exact accounted.still rfl (fun _ => rfl) counted
  | replied =>
      obtain ⟨rfl, rfl⟩ := tells
      refine ⟨fun other g found => ?_, fun request there gone => ?_, fun request attempted => ?_⟩
      · have waits := accounted.waiting other g found
        refine ⟨waits.1, (counted _).trans ?_⟩
        rw [waits.2, Change.replies, if_neg]
        intro same
        exact plain _ waits.1 (congrArg Prod.snd same).symm
      · refine (counted _).trans ?_
        rw [accounted.replied request there gone, Change.replies, if_neg]
        rintro rfl
        exact plain _ there rfl
      · rw [counted, Change.replies] at attempted
        split at attempted
        · next same =>
            rw [← same]
            exact named
        · exact accounted.known request attempted
  | _ => exact tells.elim

/-- A parameter request is taken up. -/
theorem Accounted.opened (accounted : Accounted s given) {id : Nat} {group : Group} {event : Event}
    (asks : asked s.api.operations [event] = [(group.service, id)])
    (distinct : (numbers (given ++ [event])).Nodup)
    (altered : Alters (.opened id group) s after) : Accounted after (given ++ [event]) := by
  have number : id ∈ numbers [event] := asked_number (by rw [asks]; exact List.mem_singleton_self _)
  have new : id ∉ numbers given := by
    rw [numbers_append] at distinct
    exact fun old => (List.nodup_append.mp distinct).2.2 id old id number rfl
  cases altered
  refine ⟨fun other g found => ?_, fun request there gone => ?_, fun request attempted => ?_⟩
  · change (s.api.groups.insert id group).lookup other = some g at found
    show _ ∈ asked s.api.operations _ ∧ attempts s.trace _ = 0
    rw [asked_append, asks]
    rw [AList.lookup_insert_if] at found
    split at found
    · next same =>
        cases found
        rw [same]
        refine ⟨List.mem_append_right _ List.mem_cons_self, Nat.eq_zero_of_not_pos fun some => ?_⟩
        exact new (accounted.known _ some)
    · have waits := accounted.waiting other g found
      exact ⟨List.mem_append_left _ waits.1, waits.2⟩
  · change (s.api.groups.insert id group).lookup request.2 = none at gone
    change request ∈ asked s.api.operations _ at there
    rw [AList.lookup_insert_if] at gone
    split at gone
    · cases gone
    · next different =>
        rw [asked_append, asks] at there
        rcases List.mem_append.mp there with old | same
        · exact accounted.replied request old gone
        · rw [List.mem_singleton.mp same] at different
          exact (different rfl).elim
  · rw [numbers_append]
    exact List.mem_append_left _ (accounted.known request attempted)

end Account

end Rosbridge.Ros
