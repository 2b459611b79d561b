import Rosbridge.Foundation.Trail
import Rosbridge.Protocol.Move

/-!
Rules for showing that handlers only take moves.

Owns: `Reads`, the programs that change nothing but the history; the rules that
extend a run of moves by a read, a message or a table change; and the
specifications of the shared helpers.

Every rule carries the run from the handler's origin to the current machine, so a
proof follows the handler line by line.
-/

set_option autoImplicit false

namespace Rosbridge

open Foundation Program

variable {α β : Type} {env : Environment} {passes : Move → Prop} {origin m : Machine}

/-! ### Extending a run -/

/-- A move without a message. -/
theorem Move.transition (move : Move) (quiet : move.message = none)
    (enabled : move.Enabled env m) :
    Transition env move m { bridge := move.effect m.bridge, log := m.log ++ move.entries } :=
  ⟨m, by rw [quiet]; exact .silent, enabled, rfl⟩

/-- A move without a message, to a machine that is given by its parts. -/
theorem Move.transition_of (move : Move) {after : Machine} (quiet : move.message = none)
    (bridge : after.bridge = move.effect m.bridge) (log : after.log = m.log ++ move.entries)
    (enabled : move.Enabled env m) : Transition env move m after := by
  obtain ⟨b, history⟩ := after
  cases bridge
  cases log
  exact Move.transition move quiet enabled

theorem Move.take (move : Move) (reach : Follows (Transition env) passes origin m)
    (pass : passes move) (quiet : move.message = none) (enabled : move.Enabled env m) :
    Follows (Transition env) passes origin
      { bridge := move.effect m.bridge, log := m.log ++ move.entries } :=
  reach.trans (.single (Move.transition move quiet enabled) pass)

/-- A move that leaves no entry. -/
theorem Move.transition_change (move : Move) (quiet : move.message = none)
    (enabled : move.Enabled env m) (unnoted : move.entries = []) :
    Transition env move m { m with bridge := move.effect m.bridge } :=
  Move.transition_of move quiet rfl (by rw [unnoted, List.append_nil]) enabled

theorem Move.change (move : Move) (reach : Follows (Transition env) passes origin m)
    (pass : passes move) (quiet : move.message = none) (enabled : move.Enabled env m)
    (unnoted : move.entries = []) :
    Follows (Transition env) passes origin { m with bridge := move.effect m.bridge } :=
  reach.trans (.single (Move.transition_change move quiet enabled unnoted) pass)

/-- A move whose message was handed over already. -/
theorem Move.send {after : Machine} (move : Move) (reach : Follows (Transition env) passes origin m)
    (pass : passes move) (sent : Sent move.message m after) (enabled : move.Enabled env after) :
    Follows (Transition env) passes origin
      { bridge := move.effect after.bridge, log := after.log ++ move.entries } :=
  reach.trans (.single ⟨after, sent, enabled, rfl⟩ pass)

/-- A move that is only a message. -/
theorem Move.speak {after : Machine} (move : Move)
    (reach : Follows (Transition env) passes origin m) (pass : passes move)
    (sent : Sent move.message m after) (enabled : move.Enabled env after)
    (unnoted : move.entries = []) (unchanged : move.effect after.bridge = after.bridge) :
    Follows (Transition env) passes origin after := by
  have taken := Move.send move reach pass sent enabled
  rwa [unnoted, unchanged, List.append_nil] at taken

theorem Move.say {message : Message} {after : Machine}
    (reach : Follows (Transition env) passes origin m) (pass : passes (.told message))
    (plain : message.Plain) (sent : Sent (some message) m after) :
    Follows (Transition env) passes origin after :=
  Move.speak (.told message) reach pass sent plain rfl rfl

theorem Move.observe {entries : List Entry} (reach : Follows (Transition env) passes origin m)
    (pass : passes (.observed entries)) (inert : ∀ entry ∈ entries, entry.Inert) :
    Follows (Transition env) passes origin { m with log := m.log ++ entries } :=
  Move.take (.observed entries) reach pass rfl inert

theorem reach_log_grows (reach : Follows (Transition env) passes origin m) :
    origin.log <+: m.log := by
  obtain ⟨labels, run, -⟩ := reach
  induction run with
  | nil => exact List.prefix_rfl
  | cons taken _ inductionHypothesis => exact taken.log_grows.trans inductionHypothesis

/-! ### Frames -/

/-- A part of the tables that a move's table change keeps is the same after the move. -/
theorem Transition.keeps {move : Move} {before after : Machine} (part : Bridge → α)
    (unsent : ∀ b next failed, part { b with next := next, failed := failed } = part b)
    (kept : ∀ b, part (move.effect b) = part b) (taken : Transition env move before after) :
    part after.bridge = part before.bridge := by
  obtain ⟨next, failed, tables⟩ := taken.bridge
  rw [tables, kept, unsent]

theorem Follows.keeps (part : Bridge → α)
    (unsent : ∀ b next failed, part { b with next := next, failed := failed } = part b)
    (kept : ∀ move, passes move → ∀ b, part (move.effect b) = part b)
    (reach : Follows (Transition env) passes origin m) : part m.bridge = part origin.bridge := by
  obtain ⟨labels, run, pass⟩ := reach
  induction run with
  | nil => rfl
  | cons taken _ inductionHypothesis =>
      rw [inductionHypothesis fun label member => pass label (List.mem_cons_of_mem _ member)]
      exact taken.keeps part unsent (kept _ (pass _ List.mem_cons_self))

/-! ### Reading -/

/-- A program that changes nothing but the history, never panics, and adds only
inert entries. -/
def Reads (program : Step α) : Prop :=
  ∀ m, ∃ entries : List Entry, (∀ entry ∈ entries, entry.Inert) ∧
    (program m).2 = { m with log := m.log ++ entries } ∧ ¬ (program m).1.IsPanic

namespace Reads

theorem pure (value : α) : Reads (Pure.pure value : Step α) := fun m =>
  ⟨[], by simp, by simp [Pure.pure, Program.pure], Outcome.isPanic_ok value⟩

theorem fail (cause : Error) : Reads (Program.fail cause : Step α) := fun m =>
  ⟨[], by simp, by simp [Program.fail], Outcome.isPanic_error cause⟩

theorem ofExcept (result : Except Error α) : Reads (Program.ofExcept result) := by
  cases result with
  | ok value => exact pure value
  | error cause => exact fail cause

theorem lift (result : Except Error α) : Reads (liftM result : Step α) := ofExcept result

theorem ensure (condition : Bool) (cause : Error) : Reads (Program.ensure condition cause) := by
  cases condition with
  | true => exact pure ()
  | false => exact fail cause

theorem tables : Reads Rosbridge.tables := fun m =>
  ⟨[], by simp, by simp [Rosbridge.tables], Outcome.isPanic_ok m.bridge⟩

theorem ask {answer : History → α} {entry : α → Entry} (inert : ∀ reply, (entry reply).Inert) :
    Reads (Rosbridge.ask answer entry) := fun m =>
  ⟨[entry (answer m.log)], by simpa using inert _, rfl, Outcome.isPanic_ok _⟩

theorem bind {first : Step α} {next : α → Step β} (firstReads : Reads first)
    (nextReads : ∀ value, Reads (next value)) : Reads (first >>= next) := by
  intro m
  obtain ⟨entries, inert, after, returns⟩ := firstReads m
  show ∃ entries : List Entry, _ ∧ (Program.bind first next m).2 = _ ∧
    ¬ (Program.bind first next m).1.IsPanic
  unfold Program.bind
  rcases run : first m with ⟨value | cause | site, middle⟩
  · rw [run] at after
    obtain rfl : middle = { m with log := m.log ++ entries } := after
    obtain ⟨more, moreInert, finish, finishReturns⟩ := nextReads value _
    refine ⟨entries ++ more, ?_, ?_, finishReturns⟩
    · intro entry member
      rcases List.mem_append.mp member with here | there
      · exact inert entry here
      · exact moreInert entry there
    · exact finish.trans (by rw [List.append_assoc])
  · rw [run] at after
    exact ⟨entries, inert, after, Outcome.isPanic_error cause⟩
  · rw [run] at returns
    exact absurd trivial returns

theorem call {answer : History → Except Error α} {entry : Except Error α → Entry}
    (inert : ∀ reply, (entry reply).Inert) : Reads (Rosbridge.call answer entry) :=
  bind (ask inert) ofExcept

theorem ite {condition : Prop} [Decidable condition] {program other : Step α}
    (left : Reads program) (right : Reads other) :
    Reads (if condition then program else other) := by
  split
  · exact left
  · exact right

/-- Run a reading program first: the run continues at a machine with the same
tables. -/
theorem wp_bind {first : Step α} {next : α → Step β} {post : Outcome Error β → Machine → Prop}
    (reads : Reads first) (reach : Follows (Transition env) passes origin m)
    (pass : ∀ entries, passes (.observed entries))
    (onError : ∀ cause after, after.bridge = m.bridge →
      Follows (Transition env) passes origin after → post (.error cause) after)
    (onOk : ∀ value after, first m = (.ok value, after) → after.bridge = m.bridge →
      Follows (Transition env) passes origin after → wp (next value) post after) :
    wp (first >>= next) post m := by
  obtain ⟨entries, inert, same, returns⟩ := reads m
  have reached : Follows (Transition env) passes origin (first m).2 := by
    rw [same]
    exact Move.observe reach (pass entries) inert
  have sameBridge : (first m).2.bridge = m.bridge := by rw [same]
  rw [Program.wp_bind, wp_iff]
  rcases run : first m with ⟨value | cause | site, after⟩
  · rw [run] at reached sameBridge
    exact onOk value after run sameBridge reached
  · rw [run] at reached sameBridge
    exact onError cause after sameBridge reached
  · rw [run] at returns
    exact absurd trivial returns

end Reads

/-! ### How handlers end -/

/-- A handler ends with a run of moves that pass, or in a panic that `panics`
accounts for. -/
def Ends (env : Environment) (passes : Move → Prop) (panics : Machine → Prop) (origin : Machine) :
    Outcome Error α → Machine → Prop
  | .panic _, after => panics after
  | _, after => Follows (Transition env) passes origin after

/-- No panic is possible. -/
abbrev Never : Machine → Prop := fun _ => False

/-- The last thing that happened after `origin` was a reading of the clock to which
the duration cannot be added. -/
def Overflows (env : Environment) (duration : Duration) (origin after : Machine) : Prop :=
  ∃ log, origin.log <+: log ∧ after.log = log ++ [.instant (env.instant log)] ∧
    Instant.add? (env.instant log) duration = none

theorem Overflows.prepend {duration : Duration} {after : Machine}
    (before : origin.log <+: m.log) (past : Overflows env duration m after) :
    Overflows env duration origin after := by
  obtain ⟨log, grown, last, none⟩ := past
  exact ⟨log, before.trans grown, last, none⟩

theorem Ends.mono {weaker : Move → Prop} {panics mayPanic : Machine → Prop}
    {outcome : Outcome Error α} {after : Machine} (ends : Ends env passes panics origin outcome after)
    (weakens : ∀ move, passes move → weaker move)
    (allowed : ∀ after, panics after → mayPanic after) :
    Ends env weaker mayPanic origin outcome after := by
  cases outcome with
  | ok value => exact Follows.mono ends weakens
  | error cause => exact Follows.mono ends weakens
  | panic site => exact allowed after ends

/-- A handler that never panics. -/
theorem Ends.calm {panics : Machine → Prop} {program : Step α}
    (ends : wp program (Ends env passes Never origin) m) :
    wp program (Ends env passes panics origin) m :=
  wp_mono ends fun _ _ ends => ends.mono (fun _ => id) fun _ => False.elim

/-- A loop whose body only takes moves that pass. -/
theorem forEach_ends {panics : Machine → Prop} {items : List α} {body : α → Step Unit}
    (reach : Follows (Transition env) passes origin m)
    (iterate : ∀ item ∈ items, ∀ before, Follows (Transition env) passes origin before →
      wp (body item) (Ends env passes panics origin) before) :
    wp (forEach items body) (Ends env passes panics origin) m := by
  refine wp_forEach (fun rest before => (∀ item ∈ rest, item ∈ items) ∧
    Follows (Transition env) passes origin before) items ⟨fun _ => id, reach⟩ ?_ fun _ held => held.2
  rintro item rest before ⟨within, reach⟩
  refine wp_mono (iterate item (within item (by simp)) before reach) ?_
  rintro (value | cause | site) after ends
  · exact ⟨fun other member => within other (by simp [member]), ends⟩
  · exact ends
  · exact ends

theorem foldEach_ends {panics : Machine → Prop} {items : List α} {seed : β}
    {body : β → α → Step β} (reach : Follows (Transition env) passes origin m)
    (iterate : ∀ item ∈ items, ∀ value before, Follows (Transition env) passes origin before →
      wp (body value item) (Ends env passes panics origin) before) :
    wp (foldEach items seed body) (Ends env passes panics origin) m := by
  refine wp_foldEach (fun rest _ before => (∀ item ∈ rest, item ∈ items) ∧
    Follows (Transition env) passes origin before) items seed ⟨fun _ => id, reach⟩ ?_
    fun _ _ held => held.2
  rintro item rest value before ⟨within, reach⟩
  refine wp_mono (iterate item (within item (by simp)) value before reach) ?_
  rintro (next | cause | site) after ends
  · exact ⟨fun other member => within other (by simp [member]), ends⟩
  · exact ends
  · exact ends

/-- Sequencing of handlers that only take moves that pass. -/
theorem Ends.bind {panics : Machine → Prop} {first : Step α} {next : α → Step β}
    (holds : wp first (Ends env passes panics origin) m)
    (continues : ∀ value after, Follows (Transition env) passes origin after →
      wp (next value) (Ends env passes panics origin) after) :
    wp (first >>= next) (Ends env passes panics origin) m :=
  wp_bind_of holds continues (fun _ _ ends => ends) fun _ _ ends => ends

/-- A program that always returns, after a run of moves that pass. -/
def Returns (env : Environment) (passes : Move → Prop) (origin : Machine) :
    Outcome Error α → Machine → Prop
  | .ok _, after => Follows (Transition env) passes origin after
  | _, _ => False

theorem Returns.ends {panics : Machine → Prop} {program : Step α}
    (returns : wp program (Returns env passes origin) m) :
    wp program (Ends env passes panics origin) m := by
  refine wp_mono returns ?_
  rintro (value | cause | site) after held
  · exact held
  · exact held.elim
  · exact held.elim

theorem Returns.bind {first : Step α} {next : α → Step β} {post : Outcome Error β → Machine → Prop}
    (holds : wp first (Returns env passes origin) m)
    (continues : ∀ value after, Follows (Transition env) passes origin after →
      wp (next value) post after) :
    wp (first >>= next) post m :=
  wp_bind_of holds continues (fun _ _ held => held.elim) fun _ _ held => held.elim

theorem forEach_returns {items : List α} {body : α → Step Unit}
    (reach : Follows (Transition env) passes origin m)
    (iterate : ∀ item before, Follows (Transition env) passes origin before →
      wp (body item) (Returns env passes origin) before) :
    wp (forEach items body) (Returns env passes origin) m := by
  refine wp_forEach (fun _ before => Follows (Transition env) passes origin before) items reach ?_
    fun _ held => held
  rintro item rest before reach
  refine wp_mono (iterate item before reach) ?_
  rintro (value | cause | site) after held
  · exact held
  · exact held.elim
  · exact held.elim

theorem foldEach_returns {items : List α} {seed : β} {body : β → α → Step β}
    (reach : Follows (Transition env) passes origin m)
    (iterate : ∀ item value before, Follows (Transition env) passes origin before →
      wp (body value item) (Returns env passes origin) before) :
    wp (foldEach items seed body) (Returns env passes origin) m := by
  refine wp_foldEach (fun _ _ before => Follows (Transition env) passes origin before) items seed
    reach ?_ fun _ _ held => held
  rintro item rest value before reach
  refine wp_mono (iterate item value before reach) ?_
  rintro (next | cause | site) after held
  · exact held
  · exact held.elim
  · exact held.elim

/-! ### Single steps -/

theorem wp_bind_tables {next : Bridge → Step β} {post : Outcome Error β → Machine → Prop}
    (continues : wp (next m.bridge) post m) : wp (tables >>= next) post m := continues

theorem wp_bind_update {next : Unit → Step β} {post : Outcome Error β → Machine → Prop}
    {change : Bridge → Bridge}
    (continues : wp (next ()) post { m with bridge := change m.bridge }) :
    wp (update change >>= next) post m := continues

theorem wp_bind_call {next : α → Step β} {post : Outcome Error β → Machine → Prop}
    {answer : History → Except Error α} {entry : Except Error α → Entry}
    (onError : ∀ cause, answer m.log = .error cause →
      post (.error cause) { m with log := m.log ++ [entry (.error cause)] })
    (onOk : ∀ value, answer m.log = .ok value →
      wp (next value) post { m with log := m.log ++ [entry (.ok value)] }) :
    wp (call answer entry >>= next) post m := by
  rw [wp_bind, wp_call]
  cases result : answer m.log with
  | ok value => exact onOk value result
  | error cause => exact onError cause result

theorem wp_call_last {post : Outcome Error α → Machine → Prop}
    {answer : History → Except Error α} {entry : Except Error α → Entry}
    (onError : ∀ cause, answer m.log = .error cause →
      post (.error cause) { m with log := m.log ++ [entry (.error cause)] })
    (onOk : ∀ value, answer m.log = .ok value →
      post (.ok value) { m with log := m.log ++ [entry (.ok value)] }) :
    wp (call answer entry) post m := by
  rw [wp_call]
  cases result : answer m.log with
  | ok value => exact onOk value result
  | error cause => exact onError cause result

/-- A call on an entity that the tables name, and that changes no table. -/
theorem Move.use {entry : Entry} (reach : Follows (Transition env) passes origin m)
    (pass : passes (.used entry)) (uses : m.bridge.Uses entry) :
    Follows (Transition env) passes origin { m with log := m.log ++ [entry] } :=
  Move.take (.used entry) reach pass rfl uses

/-- A creation that was refused. -/
theorem Move.refuse {entry : Entry} (reach : Follows (Transition env) passes origin m)
    (pass : passes (.aborted [entry] none)) (vain : entry.Vain)
    (granted : entry.Granted m.bridge.access) :
    Follows (Transition env) passes origin { m with log := m.log ++ [entry] } := by
  have undone := Move.take (.aborted [entry] none) reach pass rfl
    (by simp [Move.Enabled, vain, granted])
  simpa [Move.entries, Move.effect, vain.created?] using undone

/-- An addition of a duration to the current time. -/
theorem wp_bind_after {duration : Duration} {next : Instant → Step β}
    {post : Outcome Error β → Machine → Prop}
    (onPanic : ∀ site, Instant.add? (env.instant m.log) duration = none →
      post (.panic site) { m with log := m.log ++ [.instant (env.instant m.log)] })
    (onOk : ∀ reading moment, Instant.add? reading duration = some moment →
      wp (next moment) post { m with log := m.log ++ [.instant reading] }) :
    wp (Rosbridge.after env duration >>= next) post m := by
  unfold Rosbridge.after instant
  rw [wp_bind, wp_bind, wp_ask, andThen_ok, wp_unwrap]
  cases sum : Instant.add? (env.instant m.log) duration with
  | none => exact onPanic _ sum
  | some moment => exact onOk _ moment sum

theorem overflows {duration : Duration} (before : origin.log <+: m.log)
    (past : Instant.add? (env.instant m.log) duration = none) :
    Overflows env duration origin
      { m with log := m.log ++ [.instant (env.instant m.log)] } :=
  ⟨m.log, before, rfl, past⟩

/-! ### Shared helpers -/

section Helpers

variable (env)

theorem reads_resolve (v : Json) (key kind : String) : Reads (resolve env v key kind) := by
  unfold resolve
  refine Reads.bind (Reads.ite ?_ ?_) fun _ => Reads.lift _
  · exact Reads.call fun _ => trivial
  · exact Reads.call fun _ => trivial

theorem reads_visit {κ ν : Type} (table : Table κ ν) : Reads (visit env table) :=
  Reads.bind (Reads.ask fun _ => trivial) fun _ => Reads.pure _

theorem reads_instant : Reads (instant env) := Reads.ask fun _ => trivial

/-- The entries a visit yields. -/
theorem mem_visit {κ ν : Type} [DecidableEq κ] {table : Table κ ν} {items : List (κ × ν)}
    {after : Machine} (visited : visit env table m = (.ok items, after)) :
    (∀ key value, (key, value) ∈ items ↔ table.lookup key = some value) ∧
      (items.map Prod.fst).Nodup := by
  have itemsEq : items = permute (env.order m.log)
      (table.entries.map fun entry => (entry.1, entry.2)) := by
    have value := congrArg Prod.fst visited
    simp only [visit] at value
    cases value
    rfl
  constructor
  · intro key value
    rw [itemsEq, mem_permute, AList.lookup_eq_some_iff, List.mem_map]
    constructor
    · rintro ⟨⟨k, v⟩, member, same⟩
      cases same
      exact member
    · intro member
      exact ⟨⟨key, value⟩, member, rfl⟩
  · have keys : (table.entries.map fun entry => (entry.1, entry.2)).map Prod.fst =
        table.keys := by
      rw [List.map_map]
      rfl
    rw [itemsEq, ((permute_perm _ _).map Prod.fst).nodup_iff, keys]
    exact table.keys_nodup

/-- A visit never fails. -/
theorem wp_bind_visit {κ ν : Type} [DecidableEq κ] {table : Table κ ν}
    {next : List (κ × ν) → Step β} {post : Outcome Error β → Machine → Prop}
    (reach : Follows (Transition env) passes origin m)
    (observes : ∀ entries, passes (.observed entries))
    (continues : ∀ items after,
      (∀ key value, (key, value) ∈ items ↔ table.lookup key = some value) →
      (items.map Prod.fst).Nodup → after.bridge = m.bridge →
      Follows (Transition env) passes origin after → wp (next items) post after) :
    wp (visit env table >>= next) post m := by
  have visited : visit env table m =
      (.ok (permute (env.order m.log) (table.entries.map fun entry => (entry.1, entry.2))),
        { m with log := m.log ++ [.order (env.order m.log)] }) := rfl
  obtain ⟨listed, distinct⟩ := mem_visit env visited
  rw [wp_bind, wp_iff, visited]
  exact continues _ _ listed distinct rfl (Move.observe reach (observes _) (by simp [Entry.Inert]))

/-- A reading of the clock never fails. -/
theorem wp_bind_instant {next : Instant → Step β} {post : Outcome Error β → Machine → Prop}
    (reach : Follows (Transition env) passes origin m)
    (observes : ∀ entries, passes (.observed entries))
    (continues : ∀ now after, .instant now ∈ after.log → after.bridge = m.bridge →
      Follows (Transition env) passes origin after → wp (next now) post after) :
    wp (instant env >>= next) post m := by
  unfold instant
  rw [wp_bind, wp_ask, andThen_ok]
  exact continues _ _ (by simp) rfl (Move.observe reach (observes _) (by simp [Entry.Inert]))

/-- `send` hands its message over and never fails. -/
theorem wp_send {owner : Connection} {value : Object} {id : Option String} {options : Options}
    {binary : Option Cbor} {post : Outcome Error Unit → Machine → Prop}
    (handed : ∀ after, Sent (some ⟨owner, labelled value id, options⟩) m after →
      post (.ok ()) after) :
    wp (send env owner value id options binary) post m := by
  unfold send
  simp only [wp_bind, wp_note, andThen_ok, wp_tables, wp_ite]
  split
  · next failed => exact handed _ (.muted failed)
  · unfold unique
    simp only [wp_bind, wp_update, andThen_ok, wp_tables, wp_pure]
    cases found : m.bridge.outputs.lookup owner with
    | none => exact handed _ (.unrouted found)
    | some output =>
        simp only [sendRequest, wp_bind, wp_ask, andThen_ok]
        generalize env.sendRequest _ _ _ _ _ _ = reply
        cases reply with
        | ok _ => exact handed _ (.queued found _ _ _ _)
        | error cause => exact handed _ (.rejected found _ _ _ _ cause)

end Helpers

end Rosbridge
