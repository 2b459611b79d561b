import Rosbridge.Logging.Invariant

/-!
Runs of log files.

Owns: the steps of a process that writes log files, starts again and is stopped; and that
rotation loses nothing, as long as the old name of a linked file can be removed.
-/

set_option autoImplicit false

namespace Rosbridge.Logging

open Foundation

/-! ### Steps -/

/-- Bytes that were written: since which start, to which file, and in which period. -/
structure Written where
  session : Nat
  file : Nat
  period : String
  bytes : List UInt8

/-- The directory, the open log file, and what was written so far. -/
structure World where
  directory : Directory
  log : Option LogFile
  session : Nat
  journal : List Written

inductive Event where
  | start (faults final : Faults) (rotation : Rotation) (maxFiles : Nat) (time : DateTime)
      (stamp : Nat)
  | rotate (faults : Faults) (time : DateTime) (stamp : Nat)
  | write (faults : Faults) (time : DateTime) (stamp count : Nat) (bytes : List UInt8)
  | drop (faults : Faults)
  | crash

namespace World

/-- What was written to the file after a write that ended so. -/
def written (w : World) (log : LogFile) (time : DateTime) (bytes : List UInt8)
    (result : Outcome Failure Nat × Writer) : List Written :=
  match result.1 with
  | .ok taken =>
      [⟨w.session, result.2.self.file, log.rotation.period time, bytes.take taken⟩]
  | _ => []

/-- A step, and how it ends. A start while a log file is open, and any other step while none
is, does nothing. A drop ends in what it prints. -/
def step (w : World) : Event → Outcome Failure Unit × World
  | .start faults final rotation maxFiles time stamp =>
      match w.log with
      | some _ => (.ok (), w)
      | none =>
          let result := startAt faults final rotation maxFiles time stamp w.directory
          match result.1 with
          | .ok log =>
              (.ok (), { w with directory := result.2, log := some log, session := w.session + 1 })
          | outcome => (outcome.void, { w with directory := result.2 })
  | .rotate faults time stamp =>
      match w.log with
      | none => (.ok (), w)
      | some log =>
          let result := Logging.rotate faults time stamp ⟨log, w.directory⟩
          (result.1, { w with directory := result.2.directory, log := some result.2.self })
  | .write faults time stamp count bytes =>
      match w.log with
      | none => (.ok (), w)
      | some log =>
          let result := Logging.write faults time stamp count bytes ⟨log, w.directory⟩
          (result.1.void,
            { w with
              directory := result.2.directory
              log := some result.2.self
              journal := w.journal ++ w.written log time bytes result })
  | .drop faults =>
      match w.log with
      | none => (.ok (), w)
      | some log =>
          ((finish faults log w.directory).1,
            { w with directory := (Logging.drop faults log w.directory).2, log := none })
  | .crash => (.ok (), { w with log := none })

/-- The step links the active file and cannot remove its old name. -/
def Strands (w : World) : Event → Prop
  | .rotate faults time stamp =>
      ∃ log, w.log = some log ∧ Logging.Strands faults log time stamp w.directory
  | .write faults time stamp _ _ =>
      ∃ log, w.log = some log ∧ Logging.Strands faults log time stamp w.directory
  | _ => False

/-- How many archives a step is to leave. -/
def limit (w : World) (event : Event) : Nat :=
  match w.log, event with
  | some log, _ => log.maxFiles
  | none, .start _ _ _ maxFiles _ _ => maxFiles
  | none, _ => 0

/-- The step opens a file, changes to the next one, or ends with one. -/
def Turns (w : World) : Event → Prop
  | .start .. => w.log = none
  | .rotate _ time _ => ∃ log, w.log = some log ∧ log.rotation.period time ≠ log.period
  | .write _ time _ _ _ => ∃ log, w.log = some log ∧ log.rotation.period time ≠ log.period
  | .drop _ => ∃ log, w.log = some log
  | .crash => False

/-- Files have the bytes of one period each, and the active file those of its period. -/
def OnePeriod (w : World) : Prop :=
  (∀ log, w.log = some log → ∀ entry ∈ w.journal, entry.file = log.file →
    entry.period = log.period) ∧
  ∀ entry ∈ w.journal, ∀ other ∈ w.journal, entry.file = other.file → entry.period = other.period

/-- The bytes written to a file, in order. -/
def bytes (w : World) (file : Nat) : List UInt8 :=
  (w.journal.filter fun entry => entry.file = file).flatMap Written.bytes

/-- The contents of a file. -/
def content (w : World) (file : Nat) : Option (List UInt8) :=
  (w.directory.files[file]?).map File.content

/-- Files that were written have exactly what was written, and the names of log files, unless
they were pruned. -/
def Complete (w : World) : Prop :=
  ∀ entry ∈ w.journal, w.content entry.file = some (w.bytes entry.file) ∧
    w.directory.Holds IsName isArchive entry.file

/-- What the open log file has written is in the active file, in an archive, or was pruned. -/
def Present (w : World) : Prop :=
  ∀ log, w.log = some log → ∀ entry ∈ w.journal, entry.session = w.session →
    entry.file = log.file ∧ w.directory.names.lookup log.path = some (.file log.file) ∨
      w.directory.Holds IsLog isArchive entry.file

end World

/-! ### The invariant -/

/-- The invariant of a run in which no step strands a file. -/
structure World.Sound (w : World) : Prop where
  live : ∀ log, w.log = some log → Live w.directory log
  known : ∀ entry ∈ w.journal, entry.file < w.directory.files.length
  sessions : ∀ entry ∈ w.journal, entry.session ≤ w.session
  content : ∀ entry ∈ w.journal, w.content entry.file = some (w.bytes entry.file)
  active : ∀ log, w.log = some log → w.content log.file = some (w.bytes log.file)
  periods : w.OnePeriod
  retained : ∀ entry ∈ w.journal, w.directory.Holds IsName isArchive entry.file
  held : ∀ log, w.log = some log → ∀ entry ∈ w.journal, entry.session = w.session →
    entry.file = log.file ∨ w.directory.Holds IsLog isArchive entry.file

namespace World.Sound

variable {w : World} {directory : Directory} {log : LogFile} {limit : Nat}

theorem complete (sound : w.Sound) : w.Complete :=
  fun entry member => ⟨sound.content entry member, sound.retained entry member⟩

theorem present (sound : w.Sound) : w.Present := by
  intro log opened entry member own
  rcases sound.held log opened entry member own with active | archived
  · exact .inl ⟨active, (sound.live log opened).found⟩
  · exact .inr archived

/-- Nothing was written yet. -/
theorem start (closed : w.log = none) (unwritten : w.journal = []) : w.Sound where
  live log opened := by
    rw [closed] at opened
    cases opened
  known entry member := by
    rw [unwritten] at member
    cases member
  sessions entry member := by
    rw [unwritten] at member
    cases member
  content entry member := by
    rw [unwritten] at member
    cases member
  active log opened := by
    rw [closed] at opened
    cases opened
  periods := by
    refine ⟨fun log opened => ?_, fun entry member => ?_⟩
    · rw [closed] at opened
      cases opened
    · rw [unwritten] at member
      cases member
  retained entry member := by
    rw [unwritten] at member
    cases member
  held log opened := by
    rw [closed] at opened
    cases opened

/-- A safe change of the directory that leaves the open log file open. -/
theorem change (sound : w.Sound) (safe : Safe limit w.directory directory)
    (live : ∀ log, w.log = some log → Live directory log) :
    World.Sound { w with directory } := by
  have same {file : Nat} (known : file < w.directory.files.length) :
      World.content { w with directory } file = w.content file := by
    show (directory.files[file]?).map _ = _
    rw [Directory.getElem?_of_prefix safe.files known]
    rfl
  exact {
    live := live
    known := fun entry member => (sound.known entry member).trans_le safe.files.length_le
    sessions := sound.sessions
    content := fun entry member =>
      (same (sound.known entry member)).trans (sound.content entry member)
    active := fun log opened =>
      (same (sound.live log opened).known).trans (sound.active log opened)
    periods := sound.periods
    retained := fun entry member => safe.retains _ (sound.retained entry member)
    held := fun log opened entry member own =>
      (sound.held log opened entry member own).imp_right fun held => safe.ages.holds held }

/-- The log file is closed. -/
theorem close (sound : w.Sound) : World.Sound { w with log := none } where
  live _ opened := by cases opened
  known := sound.known
  sessions := sound.sessions
  content := sound.content
  active _ opened := by cases opened
  periods := ⟨fun _ opened => (by cases opened), sound.periods.2⟩
  retained := sound.retained
  held _ opened := by cases opened

/-- A new log file is opened. -/
theorem reopen {session : Nat} (sound : w.Sound) (live : Live w.directory log)
    (empty : w.content log.file = some []) (unused : ∀ entry ∈ w.journal, entry.file ≠ log.file)
    (later : w.session ≤ session)
    (held : ∀ entry ∈ w.journal, entry.session = session →
      w.directory.Holds IsLog isArchive entry.file) :
    World.Sound { w with log := some log, session } where
  live other opened := by
    cases opened
    exact live
  known := sound.known
  sessions entry member := (sound.sessions entry member).trans later
  content := sound.content
  active other opened := by
    cases opened
    have none : w.bytes log.file = [] := by
      unfold World.bytes
      rw [List.filter_eq_nil_iff.mpr fun entry member => by simpa using unused entry member]
      rfl
    exact empty.trans (congrArg some none.symm)
  periods := by
    refine ⟨fun other opened entry member same => ?_, sound.periods.2⟩
    cases opened
    exact absurd same (unused entry member)
  retained := sound.retained
  held other opened entry member own := .inr (held entry member own)

section Append

variable {bytes : List UInt8} {stamp : Nat}

/-- Bytes are written to the active file. -/
def appended (w : World) (log : LogFile) (bytes : List UInt8) (stamp : Nat) : World :=
  { w with
    directory := w.directory.append log.file bytes stamp
    journal := w.journal ++ [⟨w.session, log.file, log.period, bytes⟩] }

theorem bytes_appended (file : Nat) :
    (appended w log bytes stamp).bytes file =
      w.bytes file ++ if log.file = file then bytes else [] := by
  show ((w.journal ++ [_]).filter _).flatMap Written.bytes = _
  rw [List.filter_append, List.flatMap_append]
  congr 1
  by_cases same : log.file = file
  · simp [same]
  · simp [same]

theorem content_appended (file : Nat) :
    (appended w log bytes stamp).content file =
      (w.content file).map fun content => content ++ if log.file = file then bytes else [] := by
  show ((w.directory.files.modify log.file _)[file]?).map File.content = _
  unfold World.content
  rw [List.getElem?_modify]
  cases w.directory.files[file]? with
  | none => rfl
  | some found =>
      by_cases same : log.file = file
      · simp [same]
      · simp [same]

/-- What a file holds is still what was written to it. -/
theorem agree_appended {file : Nat} (agrees : w.content file = some (w.bytes file)) :
    (appended w log bytes stamp).content file =
      some ((appended w log bytes stamp).bytes file) := by
  rw [content_appended, bytes_appended, agrees, Option.map_some]

variable (bytes stamp) in
theorem append (sound : w.Sound) (opened : w.log = some log) :
    (appended w log bytes stamp).Sound := by
  have split {entry : Written} (member : entry ∈ (appended w log bytes stamp).journal) :
      entry ∈ w.journal ∨ entry = ⟨w.session, log.file, log.period, bytes⟩ :=
    (List.mem_append.mp member).imp_right List.mem_singleton.mp
  have live := sound.live log opened
  have length : (appended w log bytes stamp).directory.files.length =
      w.directory.files.length := List.length_modify _ _ _
  constructor
  case live =>
    intro other same
    have kept := sound.live other same
    exact ⟨kept.active, kept.found, kept.only, kept.unarchived⟩
  case known =>
    intro entry member
    rw [length]
    rcases split member with old | rfl
    · exact sound.known entry old
    · exact live.known
  case sessions =>
    intro entry member
    rcases split member with old | rfl
    · exact sound.sessions entry old
    · exact le_rfl
  case content =>
    intro entry member
    rcases split member with old | rfl
    · exact agree_appended (sound.content entry old)
    · exact agree_appended (sound.active log opened)
  case active => exact fun other same => agree_appended (sound.active other same)
  case periods =>
    have own {entry : Written} (member : entry ∈ (appended w log bytes stamp).journal)
        (same : entry.file = log.file) : entry.period = log.period := by
      rcases split member with old | rfl
      · exact sound.periods.1 log opened entry old same
      · rfl
    refine ⟨fun other same entry member leads => ?_, fun entry member other second same => ?_⟩
    · have active : log = other := Option.some.inj (opened.symm.trans same)
      subst active
      exact own member leads
    · rcases split member with old | rfl
      · rcases split second with earlier | rfl
        · exact sound.periods.2 entry old other earlier same
        · exact own member same
      · exact (own second same.symm).symm
  case retained =>
    intro entry member
    rcases split member with old | rfl
    · exact sound.retained entry old
    · exact .inl ⟨log.path, .inr live.active, live.found⟩
  case held =>
    intro other same entry member own
    rcases split member with old | rfl
    · exact sound.held other same entry old own
    · exact .inl (congrArg LogFile.file (Option.some.inj (opened.symm.trans same)))

end Append

end World.Sound

/-! ### Steps keep it -/

/-- What a step ends in. -/
structure World.Ends (w : World) (event : Event) (outcome : Outcome Failure Unit) (after : World) :
    Prop where
  ages : Directory.Ages IsLog isArchive (w.limit event) w.directory after.directory
  few : w.Turns event → outcome = .ok () →
    (after.directory.dated isArchive).length ≤ w.limit event
  sound : ¬ w.Strands event → after.Sound

section Steps

variable {w : World} {log : LogFile} {faults : Faults} {time : DateTime} {stamp : Nat}

/-- A step that changes nothing. -/
theorem World.Sound.stays (sound : w.Sound) {event : Event} (idle : ¬ w.Turns event) :
    w.Ends event (.ok ()) w :=
  ⟨.refl, fun turns => absurd turns idle, fun _ => sound⟩

/-- The log file after a rotation is open, and its period is that of the time if it succeeds. -/
theorem World.Sound.rotated (sound : w.Sound) (opened : w.log = some log)
    {outcome : Outcome Failure Unit} {after : Writer}
    (rotated : Rotated faults ⟨log, w.directory⟩ time stamp outcome after)
    (kept : ¬ Logging.Strands faults log time stamp w.directory ∨ outcome = .ok ()) :
    World.Sound { w with directory := after.directory, log := some after.self } ∧
      after.self.maxFiles = log.maxFiles ∧
      (outcome = .ok () → after.self.period = log.rotation.period time) := by
  rcases rotated.either with ⟨same, live, period⟩ | switched
  · have whole : Live after.directory log := by
      refine live ?_
      rcases kept with kept | ok
      · exact kept
      · exact fun strands => strands.1 (period ok)
    have changed := sound.change rotated.safe fun other same => by
      cases opened.symm.trans same
      exact whole
    rw [same, ← opened]
    exact ⟨changed, rfl, fun ok => (period ok).symm⟩
  · refine ⟨?_, switched.maxFiles, fun _ => switched.period⟩
    have closed := sound.close.change rotated.safe fun other opened => by cases opened
    refine closed.reopen switched.live switched.empty (fun entry member same => ?_) le_rfl ?_
    · exact absurd (sound.known entry member) (Nat.not_lt.mpr (same ▸ switched.new))
    · intro entry member own
      rcases sound.held log opened entry member own with active | held
      · rw [active]
        exact switched.held
      · exact rotated.safe.ages.holds held

/-- A step that rotates. -/
structure World.Rotates (w : World) (log : LogFile) (faults : Faults) (time : DateTime)
    (stamp : Nat) (event : Event) : Prop where
  limit : w.limit event = log.maxFiles
  turns : w.Turns event → log.rotation.period time ≠ log.period
  strands : Logging.Strands faults log time stamp w.directory → w.Strands event

/-- What it ends in when nothing is written. -/
theorem World.Sound.ends_rotated (sound : w.Sound) (opened : w.log = some log) {event : Event}
    (rotates : w.Rotates log faults time stamp event) {outcome : Outcome Failure Unit}
    {after : Writer} (rotated : Rotated faults ⟨log, w.directory⟩ time stamp outcome after) :
    w.Ends event outcome { w with directory := after.directory, log := some after.self } where
  ages := by
    rw [rotates.limit]
    exact rotated.safe.ages
  few turns ok := by
    rw [rotates.limit]
    exact rotated.few (rotates.turns turns) ok
  sound kept := (sound.rotated opened rotated (.inl fun strands => kept (rotates.strands strands))).1

theorem World.Sound.rotate (sound : w.Sound) :
    w.Ends (.rotate faults time stamp) (w.step (.rotate faults time stamp)).1
      (w.step (.rotate faults time stamp)).2 := by
  cases opened : w.log with
  | none =>
      simp only [World.step, opened]
      refine sound.stays ?_
      rintro ⟨log, same, -⟩
      rw [opened] at same
      cases same
  | some log =>
      have rotates : w.Rotates log faults time stamp (.rotate faults time stamp) := by
        refine ⟨?_, ?_, fun strands => ⟨log, opened, strands⟩⟩
        · unfold World.limit
          rw [opened]
        · rintro ⟨other, same, new⟩
          cases opened.symm.trans same
          exact new
      simp only [World.step, opened]
      exact sound.ends_rotated opened rotates
        (wp_rotate ⟨log, w.directory⟩ (sound.live log opened))

/-- A write is a rotation, and then the bytes are added if nothing has failed. -/
theorem wp_write (writer : Writer) {count : Nat} {bytes : List UInt8}
    (post : Outcome Failure Nat → Writer → Prop) (live : Live writer.directory writer.self)
    (failed : ∀ cause after, Rotated faults writer time stamp (.error cause) after →
      post (.error cause) after)
    (refused : ∀ after, Rotated faults writer time stamp (.ok ()) after → faults .write = true →
      post (.error .faulty) after)
    (done : ∀ after, Rotated faults writer time stamp (.ok ()) after →
      post (.ok (bytes.take count).length)
        { after with
          directory := after.directory.append after.self.file (bytes.take count) stamp }) :
    Program.wp (write faults time stamp count bytes) post writer := by
  unfold write
  rw [Program.wp_bind]
  refine Program.wp_mono (wp_rotate writer live) ?_
  rintro (value | cause | site) after rotated
  · rw [Program.andThen_ok]
    refine Program.wp_bind_ensure (fun fails => ?_) fun _ => done after rotated
    exact refused after rotated (by simpa using fails)
  · exact failed cause after rotated
  · exact absurd trivial rotated.calm

theorem World.Sound.write (sound : w.Sound) {count : Nat} {bytes : List UInt8} :
    w.Ends (.write faults time stamp count bytes)
      (w.step (.write faults time stamp count bytes)).1
      (w.step (.write faults time stamp count bytes)).2 := by
  cases opened : w.log with
  | none =>
      simp only [World.step, opened]
      refine sound.stays ?_
      rintro ⟨log, same, -⟩
      rw [opened] at same
      cases same
  | some log =>
      have rotates : w.Rotates log faults time stamp (.write faults time stamp count bytes) := by
        refine ⟨?_, ?_, fun strands => ⟨log, opened, strands⟩⟩
        · unfold World.limit
          rw [opened]
        · rintro ⟨other, same, new⟩
          cases opened.symm.trans same
          exact new
      simp only [World.step, opened]
      refine wp_write ⟨log, w.directory⟩ (fun outcome after =>
        w.Ends (.write faults time stamp count bytes) outcome.void
          { w with
            directory := after.directory
            log := some after.self
            journal := w.journal ++ w.written log time bytes (outcome, after) })
        (sound.live log opened) ?_ ?_ ?_
      · intro cause after rotated
        have ends := sound.ends_rotated opened rotates rotated
        simpa only [World.written, List.append_nil, Outcome.void] using ends
      · intro after rotated _
        have ends := sound.ends_rotated opened rotates rotated
        simp only [World.written, List.append_nil, Outcome.void]
        exact ⟨ends.ages, fun _ ok => (by cases ok), ends.sound⟩
      · intro after rotated
        obtain ⟨middle, maxFiles, period⟩ := sound.rotated opened rotated (.inr rfl)
        have live := middle.live after.self rfl
        have taken : bytes.take (bytes.take count).length = bytes.take count := by
          rw [List.length_take, ← List.take_take, List.take_length]
        simp only [World.written, Outcome.void, taken]
        have added := middle.append (bytes.take count) stamp rfl
        have same := period rfl
        refine ⟨?_, fun turns ok => ?_, fun _ => ?_⟩
        · rw [rotates.limit]
          exact rotated.safe.ages.tail (.inl (.append live.elsewhere))
        · rw [rotates.limit]
          refine le_of_eq_of_le (congrArg List.length (Directory.dated_append ?_))
            (rotated.few (rotates.turns turns) rfl)
          exact fun name accepted => live.elsewhere name (isLog_of_isArchive accepted)
        · rw [← same]
          exact added

theorem World.Sound.startAt (sound : w.Sound) {final : Faults} {rotation : Rotation}
    {maxFiles : Nat} :
    w.Ends (.start faults final rotation maxFiles time stamp)
      (w.step (.start faults final rotation maxFiles time stamp)).1
      (w.step (.start faults final rotation maxFiles time stamp)).2 := by
  cases opened : w.log with
  | some log =>
      simp only [World.step, opened]
      refine sound.stays fun closed => ?_
      have none : w.log = none := closed
      rw [opened] at none
      cases none
  | none =>
      have limited : w.limit (.start faults final rotation maxFiles time stamp) = maxFiles := by
        unfold World.limit
        rw [opened]
      have started : Program.wp (Logging.startAt faults final rotation maxFiles time stamp) _
        w.directory := wp_startAt
      simp only [World.step, opened]
      unfold Program.wp at started
      generalize Logging.startAt faults final rotation maxFiles time stamp w.directory = result
        at started ⊢
      obtain ⟨outcome, after⟩ := result
      obtain ⟨safe, calm, made⟩ := started
      have changed : World.Sound { w with directory := after, log := none } :=
        sound.close.change safe fun other same => by cases same
      cases outcome with
      | panic site => exact absurd trivial calm
      | error cause =>
          refine ⟨by rw [limited]; exact safe.ages, fun _ ok => (by cases ok), fun _ => changed⟩
      | ok log =>
          have started := made log rfl
          refine ⟨by rw [limited]; exact safe.ages, fun _ _ => ?_, fun _ => ?_⟩
          · rw [limited]
            exact started.few
          · refine changed.reopen started.live started.empty (fun entry member same => ?_)
              (Nat.le_succ _) fun entry member own => ?_
            · exact absurd (sound.known entry member) (Nat.not_lt.mpr (same ▸ started.new))
            · exact absurd (sound.sessions entry member) (by omega)

/-- A drop leaves the directory as what it tries does. -/
theorem drop_state (directory : Directory) :
    (drop faults log directory).2 = (finish faults log directory).2 := by
  show (Program.bind (Program.attempt (finish faults log)) _ directory).2 = _
  unfold Program.bind Program.attempt
  rcases finish faults log directory with ⟨value | cause | site, after⟩ <;> rfl

theorem World.Sound.drop (sound : w.Sound) :
    w.Ends (.drop faults) (w.step (.drop faults)).1 (w.step (.drop faults)).2 := by
  cases opened : w.log with
  | none =>
      simp only [World.step, opened]
      refine sound.stays ?_
      rintro ⟨log, same⟩
      rw [opened] at same
      cases same
  | some log =>
      have limited : w.limit (.drop faults) = log.maxFiles := by
        unfold World.limit
        rw [opened]
      have finished : Program.wp (finish faults log) _ w.directory :=
        wp_finish (sound.live log opened)
      simp only [World.step, opened, drop_state]
      obtain ⟨safe, -, few⟩ := finished
      refine ⟨by rw [limited]; exact safe.ages, fun _ ok => by rw [limited]; exact few ok, fun _ => ?_⟩
      exact sound.close.change safe fun other same => by cases same

/-- Every step keeps the invariant, if it strands no file. -/
theorem World.Sound.step (sound : w.Sound) (event : Event) :
    w.Ends event (w.step event).1 (w.step event).2 := by
  cases event with
  | start faults final rotation maxFiles time stamp => exact sound.startAt
  | rotate faults time stamp => exact sound.rotate
  | write faults time stamp count bytes => exact sound.write
  | drop faults => exact sound.drop
  | crash => exact ⟨.refl, fun turns => turns.elim, fun _ => sound.close⟩

end Steps

/-! ### Runs -/

/-- The first minute of a day. -/
def midnight (day : Nat) (small : day < 32) : DateTime :=
  ⟨2026, 9, day, 0, 0, 0, by decide, small, by decide, by decide⟩

/-- An empty directory, and nothing written. -/
def nothing : World := ⟨⟨∅, [], [], fun _ _ found => by cases found⟩, none, 0, []⟩

/-- A daily log file with one byte. -/
def begun : World :=
  ((nothing.step (.start (fun _ => false) (fun _ => false) .daily 7 (midnight 6 (by decide)) 1)).2.step
    (.write (fun _ => false) (midnight 6 (by decide)) 2 1 [65])).2

end Rosbridge.Logging
