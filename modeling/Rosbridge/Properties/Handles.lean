import Rosbridge.Properties.Polling
import Rosbridge.Protocol.Requests
import Rosbridge.Ros.Backend
import Rosbridge.Ros.Sparing

/-!
The handles that a bridge makes on the node.

Owns: `kept`, the handles that the calls of a bridge made and left; that they are those of the
entities that were not destroyed; and `Effect`, what one call of the bridge does to the node.
-/

set_option autoImplicit false

namespace Rosbridge.Ros

open Foundation Program

variable {serving : Bool} {log : History} {s after : Native} {entry : Entry}

/-! ### The handles of a bridge -/

/-- The entity that a creation made, with its handle. -/
def opened? : Entry → Option (Entity × Handle)
  | .publisher name typ _ (.ok entity) => some (entity, ⟨.publisher, name, typ⟩)
  | .subscription name typ _ (.ok entity) => some (entity, ⟨.subscription, name, typ⟩)
  | .client name typ (.ok entity) => some (entity, ⟨.client, name, typ⟩)
  | .service name typ (.ok entity) => some (entity, ⟨.service, name, typ⟩)
  | _ => none

def keep (handles : Table Entity Handle) (entry : Entry) : Table Entity Handle :=
  match opened? entry, entry.destroyed? with
  | some (entity, h), _ => handles.insert entity h
  | none, some entity => handles.erase entity
  | none, none => handles

/-- The handles that the calls of a bridge made and left. -/
def kept (log : History) : Table Entity Handle := log.foldl keep ∅

theorem kept_snoc (log : History) (entry : Entry) : kept (log ++ [entry]) = keep (kept log) entry :=
  List.foldl_append

theorem opened?_created (entry : Entry) : (opened? entry).map Prod.fst = entry.created? := by
  cases entry with
  | publisher name typ qos reply => cases reply <;> rfl
  | subscription name typ qos reply => cases reply <;> rfl
  | client name typ reply => cases reply <;> rfl
  | service name typ reply => cases reply <;> rfl
  | _ => rfl

theorem keep_opened {handles : Table Entity Handle} {entity : Entity} {h : Handle}
    (opens : opened? entry = some (entity, h)) : keep handles entry = handles.insert entity h := by
  unfold keep
  rw [opens]

theorem keep_same {handles : Table Entity Handle} (opens : opened? entry = none)
    (lasts : entry.destroyed? = none) : keep handles entry = handles := by
  unfold keep
  rw [opens, lasts]

theorem created_snoc (log : History) (entry : Entry) :
    History.created (log ++ [entry]) = log.created ++ entry.created?.toList := by
  unfold History.created
  rw [List.filterMap_append, List.filterMap_cons]
  cases entry.created? <;> rfl

theorem destroyed_snoc (log : History) (entry : Entry) :
    History.destroyed (log ++ [entry]) = log.destroyed ++ entry.destroyed?.toList := by
  unfold History.destroyed
  rw [List.filterMap_append, List.filterMap_cons]
  cases entry.destroyed? <;> rfl

/-- A handle that is kept was made by an entry. -/
theorem kept_made {entity : Entity} {h : Handle} (found : (kept log).lookup entity = some h) :
    ∃ entry ∈ log, opened? entry = some (entity, h) := by
  induction log using List.reverseRecOn with
  | nil => cases found
  | append_singleton log entry inductionHypothesis =>
      have earlier (found : (kept log).lookup entity = some h) :
          ∃ other ∈ log ++ [entry], opened? other = some (entity, h) := by
        obtain ⟨other, member, opens⟩ := inductionHypothesis found
        exact ⟨other, List.mem_append_left _ member, opens⟩
      rw [kept_snoc] at found
      unfold keep at found
      split at found
      · next other made opens =>
          rw [AList.lookup_insert_if] at found
          split at found
          · next same =>
              cases found
              exact ⟨entry, List.mem_append_right _ (List.mem_singleton_self _), same ▸ opens⟩
          · exact earlier found
      · rw [AList.lookup_erase_if] at found
        split at found
        · cases found
        · exact earlier found
      · exact earlier found

/-- Entities are destroyed after they were created. -/
def Disciplined (log : History) : Prop :=
  ∀ (earlier : History) entity later, log = earlier ++ .destroy entity :: later →
    entity ∈ earlier.created

theorem Disciplined.left {rest : History} (disciplined : Disciplined (log ++ rest)) :
    Disciplined log := by
  intro earlier entity later whole
  apply disciplined earlier entity (later ++ rest)
  rw [whole, List.append_assoc]
  rfl

theorem Disciplined.created (disciplined : Disciplined log) {entity : Entity}
    (gone : entity ∈ log.destroyed) : entity ∈ log.created := by
  obtain ⟨entry, member, destroys⟩ := List.mem_filterMap.mp gone
  obtain ⟨earlier, later, whole⟩ := List.append_of_mem member
  have same : entry = .destroy entity := by
    cases entry <;> cases destroys
    rfl
  rw [same] at whole
  have made := disciplined earlier entity later whole
  rw [whole]
  unfold History.created
  rw [List.filterMap_append]
  exact List.mem_append_left _ made

/-- The handles that are kept are those of the entities that were not destroyed. -/
theorem Disciplined.kept_iff (disciplined : Disciplined log) (distinct : log.created.Nodup)
    (entity : Entity) : (∃ h, (kept log).lookup entity = some h) ↔
      entity ∈ log.created ∧ entity ∉ log.destroyed := by
  induction log using List.reverseRecOn with
  | nil =>
      refine iff_of_false ?_ fun ⟨member, _⟩ => List.not_mem_nil member
      rintro ⟨h, found⟩
      cases found
  | append_singleton log entry inductionHypothesis =>
      rw [created_snoc] at distinct
      have earlier := disciplined.left
      have before := inductionHypothesis earlier (List.nodup_append.mp distinct).1
      rw [kept_snoc, created_snoc, destroyed_snoc]
      cases opens : opened? entry with
      | some made =>
          obtain ⟨other, h⟩ := made
          have creates : entry.created? = some other := by rw [← opened?_created, opens]; rfl
          have lasts : entry.destroyed? = none := by
            cases entry <;> first | rfl | cases opens
          rw [creates] at distinct
          have new : other ∉ History.created log := fun old =>
            (List.nodup_append.mp distinct).2.2 other old other List.mem_cons_self rfl
          rw [keep_opened opens, creates, lasts, AList.lookup_insert_if]
          by_cases same : entity = other
          · rw [if_pos same, same]
            refine iff_of_true ⟨h, rfl⟩ ⟨List.mem_append_right _ List.mem_cons_self, ?_⟩
            rw [Option.toList_none, List.append_nil]
            exact fun gone => new (earlier.created gone)
          · rw [if_neg same, before]
            simp [same]
      | none =>
          have creates : entry.created? = none := by rw [← opened?_created, opens]; rfl
          cases destroys : entry.destroyed? with
          | none =>
              rw [keep_same opens destroys, creates]
              simpa using before
          | some other =>
              have erased : keep (kept log) entry = (kept log).erase other := by
                unfold keep
                rw [opens, destroys]
              rw [erased, creates, AList.lookup_erase_if]
              by_cases same : entity = other
              · rw [if_pos same, same]
                simp
              · rw [if_neg same, before]
                simp [same]

/-- An entity is created by one entry only. -/
theorem opened_once (distinct : log.created.Nodup) {first second : Entry} {entity : Entity}
    {h h' : Handle} (here : first ∈ log) (there : second ∈ log)
    (opens : opened? first = some (entity, h)) (also : opened? second = some (entity, h')) :
    h = h' := by
  have creates {entry : Entry} {h : Handle} (opens : opened? entry = some (entity, h)) :
      entry.created? = some entity := by
    rw [← opened?_created, opens]
    rfl
  induction log with
  | nil => cases here
  | cons entry log inductionHypothesis =>
      have member {other : Entry} {h : Handle} (listed : other ∈ log)
          (opens : opened? other = some (entity, h)) : entity ∈ History.created log :=
        List.mem_filterMap.mpr ⟨other, listed, creates opens⟩
      have apart {h : Handle} (opens : opened? entry = some (entity, h)) :
          entity ∉ History.created log := by
        unfold History.created at distinct
        rw [List.filterMap_cons_some (creates opens)] at distinct
        exact (List.nodup_cons.mp distinct).1
      rcases List.mem_cons.mp here with rfl | inside <;>
        rcases List.mem_cons.mp there with rfl | within
      · cases opens.symm.trans also
        rfl
      · exact absurd (member within also) (apart opens)
      · exact absurd (member inside opens) (apart also)
      · refine inductionHypothesis (distinct.sublist ?_) inside within
        exact (List.sublist_cons_self entry log).filterMap _

/-! ### One call -/

/-- What a call of the bridge does to the node, but for a poll. -/
inductive Effect : Entry → Node → Node → Prop where
  | opened {entry : Entry} {n : Node} {h : Handle} (opens : opened? entry = some (n.next + 1, h)) :
      Effect entry n (n.with h)
  | closed {n : Node} (entity : Entity) : Effect (.destroy entity) n (n.without entity)
  | settled {entry : Entry} {n : Node} {entity : Entity} {id : Nat}
      (settles : entry = .discardRequest entity id ∨
        ∃ values, entry = .respond entity id values (.ok ())) :
      Effect entry n { n with requests := n.requests.erase (entity, id) }
  | still {entry : Entry} {n : Node} (opens : opened? entry = none) (lasts : entry.destroyed? = none)
      (idle : entry.change? = none) : Effect entry n n

/-- An answer to the bridge is the answer of the call. -/
theorem aside_ran {α : Type} {program : Action α} {reply answer : Except Error α} {after last : Native}
    (ran : aside program s = (answered reply, after)) (did : program s = (answered answer, last)) :
    reply = answer ∧ after = { last with trace := s.trace } := by
  have same : ((answered answer, { last with trace := s.trace }) : Outcome Error α × Native) =
      (answered reply, after) := by
    rw [← ran, aside, did]
  refine ⟨?_, (congrArg Prod.snd same).symm⟩
  have outcomes : answered answer = answered reply := congrArg Prod.fst same
  cases answer <;> cases reply <;> cases outcomes <;> rfl

theorem create_served {env : Middleware} {handle : Handle} {reply : Except Error Entity}
    (ran : create env handle s = (answered reply, after)) :
    (∃ cause, reply = .error cause ∧ after = s) ∨
      reply = .ok (s.node.next + 1) ∧ after = { s with node := s.node.with handle } := by
  rcases create_spec env (s := s) handle with ⟨-, created⟩ | ⟨cause, -, failed⟩
  · have same := created.symm.trans ran
    refine .inr ⟨?_, (congrArg Prod.snd same).symm⟩
    have outcomes := congrArg Prod.fst same
    cases reply <;> cases outcomes
    rfl
  · have same := failed.symm.trans ran
    refine .inl ⟨cause, ?_, (congrArg Prod.snd same).symm⟩
    have outcomes := congrArg Prod.fst same
    cases reply <;> cases outcomes
    rfl

theorem aside_created {env : Middleware} {handle : Handle} {act : Except Error Entity → Act}
    {reply : Except Error Entity}
    (ran : aside (recorded (create env handle) act) s = (answered reply, after)) :
    (∃ cause, reply = .error cause ∧ after = s) ∨
      reply = .ok (s.node.next + 1) ∧ after = { s with node := s.node.with handle } := by
  rcases create_spec env (s := s) handle with ⟨-, created⟩ | ⟨cause, -, failed⟩
  · have created : create env handle s =
        (answered (.ok (s.node.next + 1)), { s with node := s.node.with handle }) := created
    exact .inr (aside_ran ran (recorded_of created))
  · have failed : create env handle s = (answered (.error cause), s) := failed
    obtain ⟨same, stays⟩ := aside_ran ran (recorded_of failed)
    exact .inl ⟨cause, same, stays⟩

theorem ofExcept_read {α : Type} (reply : Except Error α) (s : Native) :
    (Program.ofExcept reply : Action α) s = (answered reply, s) := by
  cases reply <;> rfl

theorem publish_read (host : Host) (entity : Entity) (value : Json) (s : Native) :
    ∃ answer, publish host entity value s = (answered answer, s) := by
  obtain ⟨held, ran, -⟩ := handle_run .publisher "publisher no longer exists" entity s
  unfold publish
  cases held with
  | error cause => exact ⟨.error cause, bind_error ran⟩
  | ok h =>
      rw [bind_ok ran]
      cases host.fill h.typ value with
      | error cause => exact ⟨.error cause, rfl⟩
      | ok _ => exact ⟨host.publish s.trace entity value, ofExcept_read _ s⟩

theorem validateResponse_read (host : Host) (entity : Entity) (value : Json) (s : Native) :
    ∃ answer, validateResponse host entity value s = (answered answer, s) := by
  obtain ⟨held, ran, -⟩ := handle_run .service "service no longer exists" entity s
  unfold validateResponse
  cases held with
  | error cause => exact ⟨.error cause, bind_error ran⟩
  | ok h =>
      rw [bind_ok ran]
      exact ⟨host.fill (h.typ ++ "_Response") value, ofExcept_read _ s⟩

theorem listed_read (answer : Trace → Except Error Names) (s : Native) :
    ∃ reply, listed (do return nameMap (← look answer)) s = (answered reply, s.noting .graph) := by
  have looked : look answer s = (answered (answer s.trace), s.noting .graph) :=
    ofExcept_read (answer s.trace) _
  cases given : answer s.trace with
  | error cause =>
      rw [given] at looked
      exact ⟨.error cause, bind_error (bind_error looked)⟩
  | ok names =>
      rw [given] at looked
      exact ⟨.ok (nameMap names).toList, bind_ok ((bind_ok looked).trans rfl)⟩

/-- A call of the bridge, but for a poll, has one of these effects. -/
theorem Serves.effect (serves : Serves serving entry s after)
    (calls : ∀ reply, entry ≠ .poll reply) :
    ∃ node, after = { s with node } ∧ Effect entry s.node node := by
  obtain ⟨host, inbox, served⟩ := serves
  have still (opens : opened? entry = none) (lasts : entry.destroyed? = none)
      (idle : entry.change? = none) (stays : after = s) :
      ∃ node, after = { s with node } ∧ Effect entry s.node node :=
    ⟨s.node, stays, .still opens lasts idle⟩
  have creates {handle : Handle} {reply : Except Error Entity}
      (made : (∃ cause, reply = .error cause ∧ after = s) ∨
        reply = .ok (s.node.next + 1) ∧ after = { s with node := s.node.with handle })
      (fails : ∀ cause, reply = .error cause → opened? entry = none)
      (opens : ∀ entity, reply = .ok entity → opened? entry = some (entity, handle))
      (lasts : entry.destroyed? = none) (idle : entry.change? = none) :
      ∃ node, after = { s with node } ∧ Effect entry s.node node := by
    rcases made with ⟨cause, refused, stays⟩ | ⟨accepted, same⟩
    · exact still (fails cause refused) lasts idle stays
    · exact ⟨_, same, .opened (opens _ accepted)⟩
  have reads {α : Type} {program : Action α} {reply answer : Except Error α}
      (did : program s = (answered answer, s)) (ran : program s = (answered reply, after)) :
      after = s := (congrArg Prod.snd (did.symm.trans ran)).symm
  cases entry with
  | poll reply => exact absurd rfl (calls reply)
  | publisher name typ qos reply =>
      refine creates (create_served served) (fun _ same => by rw [same]; rfl)
        (fun _ same => by rw [same]; rfl) rfl rfl
  | subscription name typ qos reply =>
      refine creates (create_served served) (fun _ same => by rw [same]; rfl)
        (fun _ same => by rw [same]; rfl) rfl rfl
  | client name typ reply =>
      refine creates (aside_created served) (fun _ same => by rw [same]; rfl)
        (fun _ same => by rw [same]; rfl) rfl rfl
  | service name typ reply =>
      refine creates (aside_created served) (fun _ same => by rw [same]; rfl)
        (fun _ same => by rw [same]; rfl) rfl rfl
  | publish entity message reply =>
      obtain ⟨answer, did⟩ := publish_read host entity message s
      exact still rfl rfl rfl (reads did served)
  | request entity args reply =>
      obtain ⟨answer, did⟩ := request_run host.toMiddleware entity args s
      exact still rfl rfl rfl (aside_ran served did).2
  | validateResponse entity values reply =>
      obtain ⟨answer, did⟩ := validateResponse_read host entity values s
      exact still rfl rfl rfl (reads did served)
  | respond entity id values reply =>
      obtain ⟨answer, requests, did, kept⟩ := respond_run host.toMiddleware entity id values s
      obtain ⟨same, leads⟩ := aside_ran served did
      rcases kept with ⟨⟨cause, refused⟩, rfl⟩ | ⟨accepted, rfl⟩
      · rw [same, refused]
        exact ⟨s.node, leads, .still rfl rfl rfl⟩
      · rw [same, accepted]
        exact ⟨_, leads, .settled (.inr ⟨values, rfl⟩)⟩
  | discardRequest entity id => exact ⟨_, (congrArg Prod.snd served).symm, .settled (.inl rfl)⟩
  | destroy entity => exact ⟨_, (congrArg Prod.snd served).symm, .closed entity⟩
  | topics reply =>
      obtain ⟨answer, did⟩ := listed_read host.topics s
      exact still rfl rfl rfl (aside_ran served did).2
  | services reply =>
      obtain ⟨answer, did⟩ := listed_read host.services s
      exact still rfl rfl rfl (aside_ran served did).2
  | publisherQos topic reply =>
      have did : publisherQos host topic s = (answered (host.publishersInfo s.trace topic), s) :=
        ofExcept_read _ s
      exact still rfl rfl rfl (reads did served)
  | now stamp =>
      exact still rfl rfl rfl (congrArg Prod.snd ((now_run host.toMiddleware s).symm.trans served)).symm
  | _ => exact still rfl rfl rfl served

end Rosbridge.Ros
