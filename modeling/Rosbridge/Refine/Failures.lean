import Rosbridge.Refine.Commands

/-!
What a command has changed when it fails.

Owns: the programs that change no table; that the commands that acquire entities fail before
they change a table; and the one exception, the registration that is replaced.
-/

set_option autoImplicit false

namespace Rosbridge

open Foundation Program

variable {α β : Type} {env : Environment} {owner : Connection} {v : Json} {m : Machine}

/-! ### Programs that change no table -/

/-- However it ends, the program changes at most the history. -/
def Still (program : Step α) : Prop := ∀ m, (program m).2.bridge = m.bridge

namespace Still

theorem pure (value : α) : Still (Pure.pure value : Step α) := fun _ => rfl

theorem fail (cause : Error) : Still (Program.fail cause : Step α) := fun _ => rfl

theorem note (entry : Entry) : Still (Rosbridge.note entry) := fun _ => rfl

theorem reads {program : Step α} (reads : Reads program) : Still program := by
  intro m
  obtain ⟨entries, -, same, -⟩ := reads m
  rw [same]

theorem bind {first : Step α} {next : α → Step β} (firstStill : Still first)
    (nextStill : ∀ value, Still (next value)) : Still (first >>= next) := by
  intro m
  have middle := firstStill m
  show (Program.bind first next m).2.bridge = m.bridge
  unfold Program.bind
  rcases run : first m with ⟨value | cause | site, after⟩
  · rw [run] at middle
    exact (nextStill value after).trans middle
  · rw [run] at middle
    exact middle
  · rw [run] at middle
    exact middle

theorem call (answer : History → Except Error α) (entry : Except Error α → Entry) :
    Still (Rosbridge.call answer entry) := by
  refine bind (fun _ => rfl) fun reply => ?_
  cases reply with
  | ok value => exact pure value
  | error cause => exact fail cause

theorem attempt {program : Step α} (still : Still program) : Still (Program.attempt program) := by
  intro m
  have same := still m
  unfold Program.attempt
  rcases run : program m with ⟨value | cause | site, after⟩ <;> rwa [run] at same

theorem destroyAll (entities : List Entity) : Still (Rosbridge.destroyAll entities) := by
  unfold Rosbridge.destroyAll
  induction entities with
  | nil => exact pure ()
  | cons entity entities inductionHypothesis =>
      exact bind (note _) fun _ => inductionHypothesis

theorem orRelease {created : List Entity} {step : Step α} (still : Still step) :
    Still (Rosbridge.orRelease created step) := by
  unfold Rosbridge.orRelease
  refine bind (attempt still) fun ended => ?_
  cases ended with
  | ok value => exact pure value
  | error cause => exact bind (destroyAll created) fun _ => fail cause

/-- A still program first. -/
theorem wp_bind {first : Step α} {next : α → Step β} {post : Outcome Error β → Machine → Prop}
    (still : Still first)
    (onError : ∀ cause after, after.bridge = m.bridge → post (.error cause) after)
    (onPanic : ∀ site after, post (.panic site) after)
    (onOk : ∀ value after, after.bridge = m.bridge → wp (next value) post after) :
    wp (first >>= next) post m := by
  have middle := still m
  rw [Program.wp_bind, wp_iff]
  rcases run : first m with ⟨value | cause | site, after⟩
  · rw [run] at middle
    exact onOk value after middle
  · rw [run] at middle
    exact onError cause after middle
  · exact onPanic site after

end Still

/-- The entities of a goal are created, or destroyed again, before it is recorded. -/
theorem still_openGoal (action typ : String) (uuid args : Json) :
    Still (openGoal env action typ uuid args) := by
  unfold openGoal
  refine .bind (.call _ _) fun send => ?_
  refine .bind (.orRelease (.call _ _)) fun result => ?_
  refine .bind (.orRelease (.call _ _)) fun cancel => ?_
  refine .bind (.orRelease (.call _ _)) fun feedback => ?_
  refine .bind (.orRelease (.call _ _)) fun status => ?_
  exact .bind (.orRelease (.call _ _)) fun sequence => .pure _

theorem still_requestOrDestroy (entity : Entity) (args : Json) :
    Still (requestOrDestroy env entity args) := by
  unfold requestOrDestroy
  refine .bind (.attempt (.call _ _)) fun ended => ?_
  cases ended with
  | ok sequence => exact .pure sequence
  | error cause => exact .bind (.note _) fun _ => .fail cause

/-! ### Commands that fail before they change a table -/

/-- If the program fails, the tables are the given ones. -/
def Clean (b : Bridge) : Outcome Error α → Machine → Prop
  | .error _, after => after.bridge = b
  | _, _ => True

theorem Still.clean {first : Step α} {next : α → Step β} (still : Still first)
    (continues : ∀ value after, after.bridge = m.bridge → wp (next value) (Clean m.bridge) after) :
    wp (first >>= next) (Clean m.bridge) m :=
  still.wp_bind (fun _ _ same => same) (fun _ _ => trivial) continues

/-- Messages are handed over without failing. -/
theorem deliverTopic_clean {b : Bridge} {topic : String} {sample : RosMessage}
    {options : Options} : wp (deliverTopic env owner topic sample options) (Clean b) m := by
  unfold deliverTopic
  rw [wp_ite]
  split
  · exact wp_send env fun _ _ => trivial
  · exact wp_send env fun _ _ => trivial

theorem advertise_clean : wp (advertise env owner v) (Clean m.bridge) m := by
  unfold advertise
  refine wp_bind_lift (fun _ _ => rfl) fun topic _ => ?_
  refine wp_bind_lift (fun _ _ => rfl) fun registration _ => ?_
  refine wp_bind_tables ?_
  cases m.bridge.publishers.lookup topic with
  | some publisher => exact wp_bind_lift (fun _ _ => rfl) fun _ _ => trivial
  | none =>
      refine Still.clean (.reads (reads_resolve env v _ _)) fun typ m₁ same => ?_
      refine wp_bind_lift (fun _ _ => same) fun qos _ => ?_
      exact wp_bind_call (fun _ _ => same) fun _ _ => trivial

theorem shareSubscription_clean {topic typ : String} :
    wp (shareSubscription env topic typ v) (Clean m.bridge) m := by
  unfold shareSubscription
  refine wp_bind_tables ?_
  cases m.bridge.subscriptions.lookup topic with
  | some subscription =>
      rw [wp_ensure]
      split
      · trivial
      · rfl
  | none =>
      have choosing : Still (newSubscriptionQos env topic v) := by
        unfold newSubscriptionQos
        cases v.get "qos" with
        | some value => exact .reads (.ofExcept _)
        | none => exact .bind (.call _ _) fun _ => .pure _
      refine Still.clean choosing fun qos m₁ same => ?_
      exact wp_bind_call (fun _ _ => same) fun _ _ => trivial

/-- The identifier has been read when the client is registered, so nothing fails any more. -/
theorem joinSubscription_clean {topic : String} {options : Options} {id : Option String}
    {b : Bridge} (identified : requestId v = .ok id) :
    wp (joinSubscription env owner topic options v) (Clean b) m := by
  unfold joinSubscription
  refine wp_bind_tables ?_
  refine wp_bind_unwrap (fun _ => trivial) fun subscription _ => ?_
  refine wp_bind_update ?_
  refine wp_bind_lift (fun cause refused => ?_) fun registration _ => ?_
  · rw [identified] at refused
    cases refused
  refine wp_bind_update ?_
  cases if owner ∈ subscription.clients then none else subscription.retained with
  | none => trivial
  | some sample =>
      unfold instant
      rw [wp_bind, wp_ask, andThen_ok]
      refine wp_bind_update ?_
      exact deliverTopic_clean

theorem subscribe_clean {id : Option String} (identified : requestId v = .ok id) :
    wp (subscribe env owner v) (Clean m.bridge) m := by
  unfold subscribe
  refine wp_bind_lift (fun _ _ => rfl) fun topic _ => ?_
  refine wp_bind_lift (fun _ _ => rfl) fun options _ => ?_
  refine Still.clean (.reads (reads_resolve env v _ _)) fun typ m₁ same => ?_
  rw [← same]
  refine wp_bind_of shareSubscription_clean ?_ (fun _ _ clean => clean) fun _ _ _ => trivial
  exact fun _ _ _ => joinSubscription_clean identified

theorem callService_clean : wp (callService env owner v) (Clean m.bridge) m := by
  unfold callService
  refine wp_bind_lift (fun _ _ => rfl) fun id _ => ?_
  refine wp_bind_lift (fun _ _ => rfl) fun service _ => ?_
  refine wp_bind_lift (fun _ _ => rfl) fun options _ => ?_
  refine Still.clean (.reads (reads_resolve env v _ _)) fun typ m₁ same => ?_
  refine wp_bind_tables ?_
  refine wp_bind_lift (fun _ _ => same) fun _ _ => ?_
  refine wp_bind_tables ?_
  refine wp_bind_lift (fun _ _ => same) fun timeout _ => ?_
  refine wp_bind_call (fun _ _ => same) fun entity _ => ?_
  rw [← same]
  refine Still.wp_bind (still_requestOrDestroy _ _) (fun _ _ same => same) (fun _ _ => trivial)
    fun sequence m₂ _ => ?_
  exact wp_bind_after (fun _ _ => trivial) fun _ _ _ => trivial

theorem sendGoal_clean : wp (sendGoal env owner v) (Clean m.bridge) m := by
  unfold sendGoal
  refine wp_bind_lift (fun _ _ => rfl) fun action _ => ?_
  refine wp_bind_lift (fun _ _ => rfl) fun text _ => ?_
  refine wp_bind_lift (fun _ _ => rfl) fun typ _ => ?_
  refine wp_bind_lift (fun _ _ => rfl) fun id _ => ?_
  refine wp_bind_lift (fun _ _ => rfl) fun options _ => ?_
  refine wp_bind_tables ?_
  refine wp_bind_ensure (fun _ => rfl) fun _ => ?_
  refine wp_bind_lift (fun _ _ => rfl) fun feedback _ => ?_
  rw [wp_bind, wp_ask, andThen_ok]
  refine wp_bind_lift (fun _ _ => rfl) fun key _ => ?_
  refine Still.wp_bind (still_openGoal _ _ _ _) (fun _ _ same => same) (fun _ _ => trivial)
    fun opened m₁ _ => ?_
  refine wp_bind_update ?_
  refine wp_bind_tables ?_
  exact wp_bind_after (fun _ _ => trivial) fun _ _ _ => trivial

theorem openService_clean {service typ : String} :
    wp (openService env owner service typ) (Clean m.bridge) m := by
  unfold openService
  exact wp_bind_call (fun _ _ => rfl) fun _ _ => trivial

theorem openAction_clean {action typ : String} :
    wp (openAction env owner action typ v) (Clean m.bridge) m := by
  unfold openAction
  refine Still.clean (.call _ _) fun send m₁ same => ?_
  rw [← same]
  refine Still.clean (.orRelease (.call _ _)) fun result m₂ same => ?_
  rw [← same]
  refine Still.clean (.orRelease (.call _ _)) fun cancel m₃ same => ?_
  rw [← same]
  refine Still.clean (.orRelease (.call _ _)) fun feedback m₄ same => ?_
  rw [← same]
  refine Still.clean (.orRelease (.call _ _)) fun status m₅ same => ?_
  rw [← same]
  exact Still.clean (.orRelease (.reads (.ofExcept _))) fun _ _ _ => trivial

/-! ### Registrations that are replaced -/

/-- The client advertises its own service with another type. -/
def Bridge.ReplacesService (b : Bridge) (owner : Connection) (v : Json) : Prop :=
  ∃ service text typ current, name v "service" = .ok service ∧ required v "type" = .ok text ∧
    typeName text "srv" = .ok typ ∧ b.access.advertiseService typ = .ok () ∧
    b.services.lookup service = some current ∧ current.owner = owner ∧ current.typ ≠ typ

/-- The client advertises its own action with another type. -/
def Bridge.ReplacesAction (b : Bridge) (owner : Connection) (v : Json) : Prop :=
  ∃ action text typ current, name v "action" = .ok action ∧ required v "type" = .ok text ∧
    typeName text "action" = .ok typ ∧ b.actionServers.lookup action = some current ∧
    current.owner = owner ∧ current.typ ≠ typ

/-- If the program fails, the tables are the given ones, or a registration was replaced and
is gone. -/
def Loses (b : Bridge) (replaces : Prop) : Outcome Error α → Machine → Prop
  | .error _, after =>
      (¬ replaces ∧ after.bridge = b) ∨
        (replaces ∧ (after.bridge.services ≠ b.services ∨
          after.bridge.actionServers ≠ b.actionServers))
  | _, _ => True

theorem Clean.loses {b : Bridge} {replaces : Prop} {program : Step α} (retains : ¬ replaces)
    (clean : wp program (Clean b) m) : wp program (Loses b replaces) m := by
  refine wp_mono clean ?_
  rintro (value | cause | site) after same
  · trivial
  · exact .inl ⟨retains, same⟩
  · trivial

theorem advertiseService_fails :
    wp (advertiseService env owner v) (Loses m.bridge (m.bridge.ReplacesService owner v)) m := by
  unfold advertiseService
  refine wp_bind_lift (fun cause failed => .inl ⟨?_, rfl⟩) fun service named => ?_
  · rintro ⟨service, text, typ, current, named, -⟩
    rw [named] at failed
    cases failed
  refine wp_bind_lift (fun cause failed => .inl ⟨?_, rfl⟩) fun text given => ?_
  · rintro ⟨service, text, typ, current, -, given, -⟩
    rw [given] at failed
    cases failed
  refine wp_bind_lift (fun cause failed => .inl ⟨?_, rfl⟩) fun typ typed => ?_
  · rintro ⟨service, other, typ, current, -, given', typed, -⟩
    cases given.symm.trans given'
    rw [typed] at failed
    cases failed
  -- What is replaced, in terms of what has been read.
  have replaces (holds : m.bridge.ReplacesService owner v) :
      m.bridge.access.advertiseService typ = .ok () ∧ ∃ current,
        m.bridge.services.lookup service = some current ∧ current.owner = owner ∧
          current.typ ≠ typ := by
    obtain ⟨service', text', typ', current, named', given', typed', allowed, found, owned, other⟩ :=
      holds
    cases named.symm.trans named'
    cases given.symm.trans given'
    cases typed.symm.trans typed'
    exact ⟨allowed, current, found, owned, other⟩
  refine wp_bind_tables ?_
  refine wp_bind_lift (fun cause failed => .inl ⟨fun holds => ?_, rfl⟩) fun _ allowed => ?_
  · rw [(replaces holds).1] at failed
    cases failed
  refine wp_bind_tables ?_
  cases found : m.bridge.services.lookup service with
  | none =>
      refine Clean.loses (fun holds => ?_) openService_clean
      obtain ⟨-, current, found', -⟩ := replaces holds
      rw [found] at found'
      cases found'
  | some current =>
      refine wp_bind_ensure (fun foreign => .inl ⟨fun holds => ?_, rfl⟩) fun owned => ?_
      · obtain ⟨-, current', found', owned, -⟩ := replaces holds
        cases found.symm.trans found'
        exact of_decide_eq_false foreign owned
      rw [wp_ite]
      split
      · trivial
      · next other =>
        refine wp_bind_of (removeService_spec env) ?_ ?_ fun _ _ never => never.elim
        · rintro _ m₁ ⟨removed, -, -, taken⟩
          obtain ⟨next, failed, tables⟩ := taken.bridge
          refine wp_mono openService_clean ?_
          rintro (value | cause | site) after same
          · trivial
          · refine .inr ⟨⟨service, text, typ, current, named, given, typed, allowed, found,
              of_decide_eq_true owned, other⟩, .inl fun kept => ?_⟩
            have gone : after.bridge.services.lookup service = none := by
              rw [same, tables]
              exact AList.lookup_erase _ _
            rw [kept, found] at gone
            cases gone
          · trivial
        · rintro cause after ⟨rfl, foreign⟩
          exact absurd (of_decide_eq_true owned) (foreign _ found)

theorem advertiseAction_fails :
    wp (advertiseAction env owner v) (Loses m.bridge (m.bridge.ReplacesAction owner v)) m := by
  unfold advertiseAction
  refine wp_bind_lift (fun cause failed => .inl ⟨?_, rfl⟩) fun action named => ?_
  · rintro ⟨action, text, typ, current, named, -⟩
    rw [named] at failed
    cases failed
  refine wp_bind_lift (fun cause failed => .inl ⟨?_, rfl⟩) fun text given => ?_
  · rintro ⟨action, text, typ, current, -, given, -⟩
    rw [given] at failed
    cases failed
  refine wp_bind_lift (fun cause failed => .inl ⟨?_, rfl⟩) fun typ typed => ?_
  · rintro ⟨action, other, typ, current, -, given', typed, -⟩
    cases given.symm.trans given'
    rw [typed] at failed
    cases failed
  have replaces (holds : m.bridge.ReplacesAction owner v) : ∃ current,
      m.bridge.actionServers.lookup action = some current ∧ current.owner = owner ∧
        current.typ ≠ typ := by
    obtain ⟨action', text', typ', current, named', given', typed', found, owned, other⟩ := holds
    cases named.symm.trans named'
    cases given.symm.trans given'
    cases typed.symm.trans typed'
    exact ⟨current, found, owned, other⟩
  refine wp_bind_tables ?_
  cases found : m.bridge.actionServers.lookup action with
  | none =>
      refine Clean.loses (fun holds => ?_) openAction_clean
      obtain ⟨current, found', -⟩ := replaces holds
      rw [found] at found'
      cases found'
  | some current =>
      refine wp_bind_ensure (fun foreign => .inl ⟨fun holds => ?_, rfl⟩) fun owned => ?_
      · obtain ⟨current', found', owned, -⟩ := replaces holds
        cases found.symm.trans found'
        exact of_decide_eq_false foreign owned
      rw [wp_ite]
      split
      · trivial
      · next other =>
        refine wp_bind_of removeAction_spec ?_ ?_ fun _ _ never => never.elim
        · rintro _ m₁ ⟨removed, -, -, middle, closed, replies, -, looked, taken⟩
          obtain ⟨next, failed, tables⟩ := taken.bridge
          rw [looked] at tables
          refine wp_mono openAction_clean ?_
          rintro (value | cause | site) after same
          · trivial
          · refine .inr ⟨⟨action, text, typ, current, named, given, typed, found,
              of_decide_eq_true owned, other⟩, .inr fun kept => ?_⟩
            have gone : after.bridge.actionServers.lookup action = none := by
              rw [same, tables]
              exact AList.lookup_erase _ _
            rw [kept, found] at gone
            cases gone
          · trivial
        · rintro cause after ⟨rfl, foreign⟩
          exact absurd (of_decide_eq_true owned) (foreign _ found)

end Rosbridge
