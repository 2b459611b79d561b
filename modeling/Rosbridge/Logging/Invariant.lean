import Rosbridge.Logging.Names

/-!
What the operations of a log file do to its directory.

Owns: the invariant of an open log file; and one specification for each operation: which
names it adds, that archives only age, and when it returns.
-/

set_option autoImplicit false

namespace Rosbridge.Logging

open Foundation

/-- A name leads where it led, or is that of an active file and leads to a new one. -/
def Fresh (before after : Directory) : Prop :=
  ∀ name node, after.names.lookup name = some node →
    before.names.lookup name = some node ∨
      IsActive name ∧ ∃ number, node = .file number ∧ before.files.length ≤ number

/-- What the directory is like after an unsuccessful `create`. -/
structure Littered (before after : Directory) : Prop where
  grown : before.Grows after
  fresh : Fresh before after

/-- What it is like after a successful one. -/
structure Created (before after : Directory) (file : Nat) (path : String) (stamp : Nat) :
    Prop where
  grown : before.Grows after
  added : ∀ name node, after.names.lookup name = some node →
    before.names.lookup name = some node ∨ name = path ∧ node = .file file
  active : IsActive path
  free : before.names.lookup path = none
  found : after.names.lookup path = some (.file file)
  unarchived : after.names.lookup (withExtension path "log") = none
  new : before.files.length ≤ file
  empty : after.files[file]? = some ⟨[], stamp⟩

/-! ### Creation -/

section Creation

variable {faults : Faults} {time : DateTime} {stamp : Nat}

/-- Nothing but unnamed files is new. -/
structure Unchanged (before after : Directory) : Prop where
  grown : before.Grows after
  names : ∀ name, after.names.lookup name = before.names.lookup name

/-- Names that `create` finds taken are as many as there are entries at most. -/
theorem tried_le {directory : Directory} {tried : Nat}
    (taken : ∀ index < tried,
      (directory.names.lookup (activeName time index)).isSome = true ∨
      (directory.names.lookup (withExtension (activeName time index) "log")).isSome = true) :
    tried ≤ directory.names.entries.length := by
  classical
  let used (index : Nat) : String :=
    if (directory.names.lookup (activeName time index)).isSome then activeName time index
    else withExtension (activeName time index) "log"
  have present : ∀ index ∈ List.range tried, used index ∈ directory.names.keys := by
    intro index member
    rw [← AList.mem_keys, ← AList.lookup_isSome]
    by_cases active : (directory.names.lookup (activeName time index)).isSome = true
    · dsimp only [used]
      rwa [if_pos active]
    · dsimp only [used]
      rw [if_neg active]
      exact (taken index (List.mem_range.mp member)).resolve_left active
  have distinct : ∀ left ∈ List.range tried, ∀ right ∈ List.range tried,
      used left = used right → left = right := by
    intro left _ right _ same
    have leftActive := activeName_isActive time left
    have rightActive := activeName_isActive time right
    simp only [used] at same
    split at same <;> split at same
    · exact activeName_injective time same
    · exact absurd (same ▸ rightActive.isLog) leftActive.not_isLog
    · exact absurd (same ▸ leftActive.isLog) rightActive.not_isLog
    · exact activeName_injective time (leftActive.archive_injective rightActive same)
  have nodup : ((List.range tried).map used).Nodup :=
    List.Nodup.map_on (fun left hl right hr => distinct left hl right hr) List.nodup_range
  have inside : (List.range tried).map used ⊆ directory.names.keys := by
    intro name member
    obtain ⟨index, ranged, rfl⟩ := List.mem_map.mp member
    exact present index ranged
  have count := (nodup.subperm inside).length_le
  rw [List.length_map, List.length_range] at count
  exact count.trans (le_of_eq (List.length_map _))

namespace Unchanged

variable {before middle after : Directory}

theorem refl (directory : Directory) : Unchanged directory directory :=
  ⟨.refl directory, fun _ => rfl⟩

/-- A name that was free comes and goes. -/
theorem retracted {path : String} {number : Nat} (unchanged : Unchanged before after)
    (free : after.names.lookup path = none) :
    Unchanged before ((after.add path stamp).unlink path (.file number)) where
  grown := unchanged.grown.trans (.unlink free (.add free))
  names name := by
    refine Eq.trans ?_ (unchanged.names name)
    show ((after.names.insert path _).erase path).lookup name = _
    rw [AList.lookup_erase_if]
    by_cases same : name = path
    · rw [if_pos same, same, free]
    · rw [if_neg same, AList.lookup_insert_ne same]

theorem littered (unchanged : Unchanged before after) : Littered before after where
  grown := unchanged.grown
  fresh name node found := .inl (by rwa [← unchanged.names name])

end Unchanged

section Adding

variable {before middle : Directory} {path : String}

/-- The lookup of a name after a file was made. -/
theorem lookup_add (directory : Directory) (path name : String) :
    (directory.add path stamp).names.lookup name =
      if name = path then some (.file directory.files.length)
      else directory.names.lookup name :=
  AList.lookup_insert_if path name _ directory.names

theorem Unchanged.added (unchanged : Unchanged before middle) {name : String} {node : Node}
    (found : (middle.add path stamp).names.lookup name = some node) :
    before.names.lookup name = some node ∨ name = path ∧ node = .file middle.files.length := by
  rw [lookup_add] at found
  by_cases same : name = path
  · rw [if_pos same] at found
    exact .inr ⟨same, (Option.some.inj found).symm⟩
  · rw [if_neg same, unchanged.names] at found
    exact .inl found

theorem Unchanged.littered_add (unchanged : Unchanged before middle) (active : IsActive path)
    (free : middle.names.lookup path = none) : Littered before (middle.add path stamp) where
  grown := unchanged.grown.trans (.add free)
  fresh name node found := by
    rcases unchanged.added found with old | ⟨rfl, rfl⟩
    · exact .inl old
    · exact .inr ⟨active, _, rfl, unchanged.grown.files.length_le⟩

theorem Unchanged.created (unchanged : Unchanged before middle) (active : IsActive path)
    (free : middle.names.lookup path = none)
    (unused : (middle.add path stamp).names.lookup (withExtension path "log") = none) :
    Created before (middle.add path stamp) middle.files.length path stamp where
  grown := unchanged.grown.trans (.add free)
  added _ _ := unchanged.added
  active := active
  free := by rwa [← unchanged.names]
  found := by rw [lookup_add, if_pos rfl]
  unarchived := unused
  new := unchanged.grown.files.length_le
  empty := by
    show (middle.files ++ [_])[middle.files.length]? = _
    rw [List.getElem?_concat_length]

end Adding

/-- What `create` ends in. -/
def CreateEnds (before : Directory) (stamp : Nat) : Outcome Failure (Nat × String) → Directory → Prop
  | .ok result, after => Created before after result.1 result.2 stamp
  | .error _, after => Littered before after
  | .panic _, _ => False

/-- No operation fails. -/
def Faultless (faults : Faults) : Prop := ∀ operation, faults operation = false

theorem wp_createFrom {before : Directory} : ∀ (fuel index : Nat) {directory : Directory},
    Unchanged before directory →
    (∀ earlier < index, (before.names.lookup (activeName time earlier)).isSome = true ∨
      (before.names.lookup (withExtension (activeName time earlier) "log")).isSome = true) →
    before.names.entries.length < fuel + index →
    Program.wp (createFrom faults time stamp fuel index) (fun outcome after =>
      CreateEnds before stamp outcome after ∧
        (Faultless faults → ∃ value, outcome = .ok value)) directory
  | 0, index, directory, _, taken, enough => by
      rw [Nat.zero_add] at enough
      exact absurd (tried_le taken) (Nat.not_le.mpr enough)
  | fuel + 1, index, directory, unchanged, taken, enough => by
      have active := activeName_isActive time index
      -- The next name is tried when this one, or its archive, is taken.
      have continues {next : Directory} (same : Unchanged before next)
          (used : (before.names.lookup (activeName time index)).isSome = true ∨
            (before.names.lookup (withExtension (activeName time index) "log")).isSome = true) :=
        wp_createFrom fuel (index + 1) same (fun earlier early => by
          rcases Nat.lt_succ_iff_lt_or_eq.mp early with less | rfl
          · exact taken earlier less
          · exact used) (by omega)
      unfold createFrom
      rw [Program.wp_bind, Program.wp_attempt, wp_createNew]
      split
      · next fails =>
        dsimp only
        rw [Program.andThen_ok, Program.wp_fail]
        refine ⟨unchanged.littered, fun sound => ?_⟩
        rw [sound] at fails
        cases fails
      · split
        · next used =>
          dsimp only
          rw [Program.andThen_ok]
          exact continues unchanged (.inl (by rwa [← unchanged.names]))
        · next free =>
          have free : directory.names.lookup (activeName time index) = none :=
            Option.not_isSome_iff_eq_none.mp free
          dsimp only
          rw [Program.andThen_ok]
          dsimp only
          rw [Program.wp_bind, wp_isUsed, Program.andThen_ok, Program.wp_ite]
          split
          · next used =>
            have other : withExtension (activeName time index) "log" ≠ activeName time index :=
              fun same => active.not_isLog (same ▸ active.isLog)
            rw [lookup_add, if_neg other, unchanged.names] at used
            rw [Program.wp_bind]
            refine wp_removeFile (fun fails => ?_) (fun missing => ?_) fun number _ found => ?_
            · rw [Program.andThen_error]
              refine ⟨unchanged.littered_add active free, fun sound => ?_⟩
              rw [sound] at fails
              cases fails
            · rw [lookup_add, if_pos rfl] at missing
              exact absurd rfl (missing _)
            · rw [Program.andThen_ok]
              exact continues (unchanged.retracted free) (.inr used)
          · next unused =>
            rw [Program.wp_pure]
            exact ⟨unchanged.created active free (Option.not_isSome_iff_eq_none.mp unused),
              fun _ => ⟨_, rfl⟩⟩

theorem wp_create (directory : Directory) :
    Program.wp (create faults time stamp) (fun outcome after =>
      CreateEnds directory stamp outcome after ∧
        (Faultless faults → ∃ value, outcome = .ok value)) directory := by
  unfold create
  rw [Program.wp_bind, Program.wp_get, Program.andThen_ok]
  exact wp_createFrom _ 0 (.refl directory) (fun earlier early => absurd early (Nat.not_lt_zero _))
    (Nat.lt_succ_self _)

end Creation

/-! ### Archives -/

/-- Names of log files, active or not. -/
def IsName (name : String) : Prop := IsLog name ∨ IsActive name

/-- The invariant of an open log file: its name alone leads to its file, and its archive does
not exist. -/
structure Live (directory : Directory) (log : LogFile) : Prop where
  active : IsActive log.path
  found : directory.names.lookup log.path = some (.file log.file)
  only : ∀ name, directory.names.lookup name = some (.file log.file) → name = log.path
  unarchived : directory.names.lookup (withExtension log.path "log") = none

section Archives

variable {faults : Faults} {log : LogFile} {directory after : Directory}

namespace Live

theorem known (live : Live directory log) : log.file < directory.files.length :=
  directory.numbered _ _ live.found

/-- No archive leads to the active file. -/
theorem elsewhere (live : Live directory log) (name : String) (guarded : IsLog name) :
    directory.names.lookup name ≠ some (.file log.file) := by
  intro found
  have same := live.only name found
  subst same
  exact live.active.not_isLog guarded

/-- New files do not disturb it. -/
theorem littered (live : Live directory log) (litter : Littered directory after) :
    Live after log where
  active := live.active
  found := litter.grown.names _ _ live.found
  only name found := by
    rcases litter.fresh name _ found with old | ⟨-, number, same, new⟩
    · exact live.only name old
    · cases same
      exact absurd live.known (Nat.not_lt.mpr new)
  unarchived := by
    by_contra used
    obtain ⟨node, found⟩ := Option.ne_none_iff_exists'.mp used
    rcases litter.fresh _ node found with old | ⟨active, -⟩
    · rw [live.unarchived] at old
      cases old
    · exact active.not_isLog live.active.isLog

/-- Neither does the removal of archives. -/
theorem shed {limit : Nat} (live : Live directory log)
    (run : Relation.ReflTransGen (Directory.Sheds isArchive limit) directory after) :
    Live after log := by
  obtain ⟨-, others, fewer⟩ := Directory.Sheds.frame run
  refine ⟨live.active, ?_, fun name found => live.only name (fewer name _ found), ?_⟩
  · rw [others _ live.active.refused]
    exact live.found
  · by_contra used
    obtain ⟨node, found⟩ := Option.ne_none_iff_exists'.mp used
    have old := fewer _ node found
    rw [live.unarchived] at old
    cases old

end Live

/-- The directory when the active file is archived. -/
def archived (directory : Directory) (log : LogFile) (known : log.file < directory.files.length) :
    Directory :=
  (directory.share (withExtension log.path "log") log.file known).unlink log.path
    (.file log.file)

theorem lookup_archived {known : log.file < directory.files.length} (name : String) :
    (archived directory log known).names.lookup name =
      if name = log.path then none
      else if name = withExtension log.path "log" then some (.file log.file)
      else directory.names.lookup name := by
  show ((directory.names.insert _ _).erase log.path).lookup name = _
  rw [AList.lookup_erase_if, AList.lookup_insert_if]

theorem wp_archive {post : Outcome Failure Unit → Directory → Prop} (live : Live directory log)
    (unlinked : faults (.link log.path) = true → post (.error .faulty) directory)
    (stranded : faults (.link log.path) = false → faults (.remove log.path) = true →
      post (.error .faulty) (directory.share (withExtension log.path "log") log.file live.known))
    (done : faults (.link log.path) = false → faults (.remove log.path) = false →
      post (.ok ()) (archived directory log live.known)) :
    Program.wp (archive faults log) post directory := by
  unfold archive
  rw [Program.wp_bind]
  refine wp_hardLink (fun fails => unlinked fails) (fun missing => ?_) (fun used => ?_)
    fun number known fails found _ => ?_
  · exact absurd live.found (missing _)
  · rw [live.unarchived] at used
    cases used
  · rw [live.found] at found
    cases found
    rw [Program.andThen_ok]
    have different : log.path ≠ withExtension log.path "log" :=
      fun same => live.active.not_isLog (same ▸ live.active.isLog)
    have shared : (directory.share (withExtension log.path "log") log.file known).names.lookup
        log.path = some (.file log.file) :=
      (AList.lookup_insert_ne different).trans live.found
    refine wp_removeFile (fun kept => stranded fails kept) (fun missing => ?_)
      fun number removed found => ?_
    · exact absurd shared (missing _)
    · rw [shared] at found
      cases found
      exact done fails removed

/-- All archives stay, and there is one more. -/
theorem archived_keeps (live : Live directory log) :
    directory.Keeps IsLog (archived directory log live.known) where
  names name guarded node found := by
    rw [lookup_archived, if_neg, if_neg, found]
    · rintro rfl
      rw [live.unarchived] at found
      cases found
    · rintro rfl
      exact live.active.not_isLog guarded
  contents _ _ _ _ := rfl
  removed _ member := List.mem_append_left _ member

theorem archived_holds (live : Live directory log) :
    (archived directory log live.known).Holds IsLog isArchive log.file := by
  refine .inl ⟨_, live.active.isLog, ?_⟩
  rw [lookup_archived, if_neg, if_pos rfl]
  exact fun same => live.active.not_isLog (same ▸ live.active.isLog)

/-- No file loses its only name. -/
theorem archived_retains (live : Live directory log) {number : Nat}
    (held : directory.Holds IsName isArchive number) :
    (archived directory log live.known).Holds IsName isArchive number := by
  rcases held with ⟨name, named, found⟩ | ⟨name, accepted, gone⟩
  · by_cases active : name = log.path
    · rw [active, live.found] at found
      cases found
      rcases archived_holds live with ⟨name, guarded, leads⟩ | gone
      · exact .inl ⟨name, .inl guarded, leads⟩
      · exact .inr gone
    · refine .inl ⟨name, named, ?_⟩
      rw [lookup_archived, if_neg active, if_neg, found]
      rintro rfl
      rw [live.unarchived] at found
      cases found
  · exact .inr ⟨name, accepted, List.mem_append_left _ gone⟩

theorem wp_prune (log : LogFile) (directory : Directory) :
    Program.wp (prune faults log) (fun outcome after =>
      Relation.ReflTransGen (Directory.Sheds isArchive log.maxFiles) directory after ∧
        ¬ outcome.IsPanic ∧
        (outcome = .ok () → (after.dated isArchive).length ≤ log.maxFiles) ∧
        (Faultless faults → outcome = .ok ())) directory := by
  unfold prune
  rw [Program.wp_bind]
  refine wp_listDated (fun fails => ?_) ?_
  · refine ⟨.refl, id, (fun ok => by cases ok), fun sound => ?_⟩
    rcases fails with list | ⟨name, inspect⟩
    · rw [sound] at list
      cases list
    · rw [sound] at inspect
      cases inspect
  · rw [Program.andThen_ok]
    let files := directory.dated isArchive
    let excess := files.length - log.maxFiles
    rcases Nat.le_total files.length log.maxFiles with few | many
    · have none : excess = 0 := Nat.sub_eq_zero_of_le few
      show Program.wp (Program.forEach (files.take excess) _) _ _
      rw [none, List.take_zero, Program.wp_forEach_nil]
      exact ⟨.refl, id, fun _ => few, fun _ => rfl⟩
    · have left : (files.drop excess).length = log.maxFiles := by
        rw [List.length_drop]
        omega
      have limited : log.maxFiles ≤ (files.drop excess).length := left.ge
      refine Program.wp_mono (Directory.wp_shed limited _
        (List.take_append_drop excess files).symm) ?_
      rintro outcome after ⟨run, calm, listed, sound⟩
      refine ⟨run, calm, fun ok => ?_, fun faultless => sound fun name => faultless _⟩
      rw [listed ok, left]

end Archives

/-! ### Operations -/

/-- What no operation does: change an archive, remove one that is not the oldest of too many,
change the contents of a file, or take its last name from one. -/
structure Safe (limit : Nat) (before after : Directory) : Prop where
  ages : Directory.Ages IsLog isArchive limit before after
  files : before.files <+: after.files
  retains : ∀ number, before.Holds IsName isArchive number → after.Holds IsName isArchive number

section Operations

variable {limit : Nat} {before middle after directory : Directory} {log : LogFile}

namespace Safe

theorem refl (directory : Directory) : Safe limit directory directory :=
  ⟨.refl, List.prefix_refl _, fun _ held => held⟩

theorem trans (first : Safe limit before middle) (second : Safe limit middle after) :
    Safe limit before after where
  ages := first.ages.trans second.ages
  files := first.files.trans second.files
  retains number held := second.retains number (first.retains number held)

theorem grows (grown : before.Grows after) : Safe limit before after where
  ages := .single (.inl grown.keeps)
  files := grown.files
  retains _ held := grown.keeps.holds held

theorem shed (run : Relation.ReflTransGen (Directory.Sheds isArchive limit) before after) :
    Safe limit before after where
  ages := Directory.Sheds.ages run
  files := by
    rw [(Directory.Sheds.frame run).1]
  retains number held := by
    have ages : Directory.Ages IsName isArchive limit before after := Directory.Sheds.ages run
    exact ages.holds held

theorem archived (live : Live directory log) :
    Safe limit directory (archived directory log live.known) where
  ages := .single (.inl (archived_keeps live))
  files := List.prefix_refl _
  retains _ := archived_retains live

end Safe

/-- A rotation that cannot remove the old name of the file that it has linked. -/
def Strands (faults : Faults) (log : LogFile) (time : DateTime) (stamp : Nat)
    (directory : Directory) : Prop :=
  log.rotation.period time ≠ log.period ∧
    (∃ created, (create faults time stamp directory).1 = .ok created) ∧
    faults (.link log.path) = false ∧ faults (.remove log.path) = true

/-- The log file after a rotation: it is the same, or a new one for the period of the time. -/
structure Switched (before : Writer) (time : DateTime) (after : Writer) : Prop where
  rotation : after.self.rotation = before.self.rotation
  maxFiles : after.self.maxFiles = before.self.maxFiles
  period : after.self.period = before.self.rotation.period time
  live : Live after.directory after.self
  new : before.directory.files.length ≤ after.self.file
  empty : (after.directory.files[after.self.file]?).map File.content = some []
  held : after.directory.Holds IsLog isArchive before.self.file

/-- What a rotation ends in. -/
structure Rotated (faults : Faults) (before : Writer) (time : DateTime) (stamp : Nat)
    (outcome : Outcome Failure Unit) (after : Writer) : Prop where
  safe : Safe before.self.maxFiles before.directory after.directory
  calm : ¬ outcome.IsPanic
  either : (after.self = before.self ∧
      (¬ Strands faults before.self time stamp before.directory →
        Live after.directory before.self) ∧
      (outcome = .ok () → before.self.rotation.period time = before.self.period)) ∨
    Switched before time after
  few : before.self.rotation.period time ≠ before.self.period → outcome = .ok () →
    (after.directory.dated isArchive).length ≤ before.self.maxFiles
  sound : Faultless faults → outcome = .ok ()

theorem wp_onDirectory {α : Type} {program : Disk α} {post : Outcome Failure α → Writer → Prop}
    {writer : Writer} : Program.wp (onDirectory program) post writer ↔
      Program.wp program (fun outcome after => post outcome { writer with directory := after })
        writer.directory := Iff.rfl

variable {faults : Faults} {time : DateTime} {stamp : Nat}

/-- A name that `create` has made goes again. -/
theorem Created.removed {file : Nat} {path : String}
    (created : Created before after file path stamp) :
    Littered before (after.unlink path (.file file)) where
  grown := .unlink created.free created.grown
  fresh name node found := by
    have old : after.names.lookup name = some node := by
      by_cases same : name = path
      · subst same
        exact absurd ((AList.lookup_erase _ _).symm.trans found) (by simp)
      · exact (AList.lookup_erase_ne same).symm.trans found
    rcases created.added name node old with earlier | ⟨rfl, rfl⟩
    · exact .inl earlier
    · exact .inr ⟨created.active, _, rfl, created.new⟩

theorem Created.littered {file : Nat} {path : String}
    (created : Created before after file path stamp) : Littered before after where
  grown := created.grown
  fresh name node found := by
    rcases created.added name node found with old | ⟨rfl, rfl⟩
    · exact .inl old
    · exact .inr ⟨created.active, _, rfl, created.new⟩

/-- A file that was just made is open. -/
theorem Created.live {file : Nat} {path : String} {rotation : Rotation} {period : String}
    {maxFiles : Nat} (created : Created before after file path stamp) :
    Live after ⟨file, path, rotation, period, maxFiles⟩ where
  active := created.active
  found := created.found
  only name found := by
    rcases created.added name _ found with old | ⟨rfl, -⟩
    · exact absurd (before.numbered name file old) (Nat.not_lt.mpr created.new)
    · rfl
  unarchived := created.unarchived

/-- It stays open when another file is archived. -/
theorem Live.archived {other : LogFile} (live : Live directory log) (second : Live directory other)
    (different : log.path ≠ other.path) (known : other.file < directory.files.length) :
    Live (archived directory other known) log where
  active := live.active
  found := by
    rw [lookup_archived, if_neg different, if_neg, live.found]
    exact fun same => live.active.not_isLog (same ▸ second.active.isLog)
  only name found := by
    rw [lookup_archived] at found
    split at found
    · cases found
    · split at found
      · have number : other.file = log.file := Node.file.inj (Option.some.inj found)
        have shared := second.found
        rw [number] at shared
        exact absurd (live.only _ shared).symm different
      · exact live.only name found
  unarchived := by
    rw [lookup_archived, if_neg, if_neg, live.unarchived]
    · exact fun same => different (live.active.archive_injective second.active same)
    · exact fun same => second.active.not_isLog (same ▸ live.active.isLog)

/-- A rotation that fails and leaves the log file as it is. -/
theorem Rotated.failed {writer : Writer} {cause : Failure}
    (safe : Safe writer.self.maxFiles writer.directory after)
    (live : ¬ Strands faults writer.self time stamp writer.directory → Live after writer.self)
    (faulty : ¬ Faultless faults) :
    Rotated faults writer time stamp (.error cause) ⟨writer.self, after⟩ where
  safe := safe
  calm := id
  either := .inl ⟨rfl, live, fun ok => by cases ok⟩
  few _ ok := by cases ok
  sound faultless := absurd faultless faulty

/-- A new file is removed again, and the operation fails. -/
theorem wp_withdraw {log : LogFile} {path : String} {number : Nat} {cause : Failure}
    {post : Outcome Failure Unit → Writer → Prop}
    (found : directory.names.lookup path = some (.file number))
    (kept : post (.error cause) ⟨log, directory⟩)
    (removed : post (.error cause) ⟨log, directory.unlink path (.file number)⟩) :
    Program.wp (Program.attempt (onDirectory (removeFile faults path)) >>= fun _ =>
      Program.fail cause) post ⟨log, directory⟩ := by
  rw [Program.wp_bind, Program.wp_attempt, wp_onDirectory]
  refine wp_removeFile (fun _ => kept) (fun missing => absurd found (missing _)) ?_
  intro other _ leads
  rw [found] at leads
  cases leads
  exact removed

/-- A new file takes the place of one that was archived. -/
theorem Switched.of_created {writer : Writer} {file : Nat} {path : String}
    (live : Live writer.directory writer.self)
    (created : Created writer.directory middle file path stamp)
    (known : writer.self.file < middle.files.length)
    (run : Relation.ReflTransGen (Directory.Sheds isArchive writer.self.maxFiles)
      (archived middle writer.self known) after) :
    Switched writer time
      ⟨{ writer.self with file, path, period := writer.self.rotation.period time }, after⟩ where
  rotation := rfl
  maxFiles := rfl
  period := rfl
  live := by
    have different : path ≠ writer.self.path := by
      rintro rfl
      have free := created.free
      rw [live.found] at free
      cases free
    exact (created.live.archived (live.littered created.littered) different known).shed run
  new := created.new
  empty := by
    show (after.files[file]?).map _ = _
    rw [(Directory.Sheds.frame run).1]
    show (middle.files[file]?).map _ = _
    rw [created.empty]
    rfl
  held := (Directory.Sheds.ages run).holds (archived_holds (live.littered created.littered))

theorem wp_rotate (writer : Writer) (live : Live writer.directory writer.self) :
    Program.wp (rotate faults time stamp) (Rotated faults writer time stamp) writer := by
  unfold rotate
  rw [Program.wp_bind, Program.wp_get, Program.andThen_ok]
  dsimp only
  rw [Program.wp_ite]
  split
  · next same =>
    exact ⟨.refl _, id, .inl ⟨rfl, fun _ => live, fun _ => same⟩, fun new => absurd same new,
      fun _ => rfl⟩
  · next new =>
    rw [Program.wp_bind, wp_onDirectory]
    have creation : Program.wp (create faults time stamp) _ writer.directory :=
      wp_create writer.directory
    refine Program.wp_mono (Program.wp_and creation (Program.wp_self _ _)) ?_
    rintro (⟨file, path⟩ | cause | site) middle ⟨⟨ends, sound⟩, ran⟩
    · have created : Created writer.directory middle file path stamp := ends
      have known := live.littered created.littered
      have grown : Safe writer.self.maxFiles writer.directory middle := .grows created.grown
      rw [Program.andThen_ok]
      dsimp only
      rw [Program.wp_bind, Program.wp_attempt, wp_onDirectory]
      refine wp_archive known (fun fails => ?_) (fun linked fails => ?_) fun linked removed => ?_
      · -- The link fails: the log file is as before.
        dsimp only
        rw [Program.andThen_ok]
        have faulty : ¬ Faultless faults := fun sound => by
          rw [sound] at fails
          cases fails
        exact wp_withdraw created.found
          (.failed grown (fun _ => known) faulty)
          (.failed (.grows created.removed.grown) (fun _ => live.littered created.removed) faulty)
      · -- The old name stays: this is the branch that the condition excludes.
        dsimp only
        rw [Program.andThen_ok]
        have strands : Strands faults writer.self time stamp writer.directory :=
          ⟨new, ⟨_, ran.symm⟩, linked, fails⟩
        have faulty : ¬ Faultless faults := fun sound => by
          rw [sound] at fails
          cases fails
        have linked : Directory.Grows middle (middle.share _ _ known.known) :=
          Directory.Grows.share known.unarchived
        have shared := created.grown.trans linked
        exact wp_withdraw (linked.names _ _ created.found)
          (.failed (.grows shared) (absurd strands) faulty)
          (.failed (.grows (.unlink created.free shared)) (absurd strands) faulty)
      · dsimp only
        rw [Program.andThen_ok]
        dsimp only
        rw [Program.wp_bind, Program.wp_modify, Program.andThen_ok, wp_onDirectory]
        refine Program.wp_mono (wp_prune _ _) ?_
        rintro outcome after ⟨run, calm, few, sound⟩
        exact ⟨grown.trans ((Safe.archived known).trans (.shed run)), calm,
          .inr (.of_created live created known.known run), fun _ => few, sound⟩
    · have litter : Littered writer.directory middle := ends
      rw [Program.andThen_error]
      refine .failed (.grows litter.grown) (fun _ => live.littered litter) fun faultless => ?_
      obtain ⟨value, ok⟩ := sound faultless
      cases ok
    · exact ends.elim

theorem wp_finish (live : Live directory log) :
    Program.wp (finish faults log) (fun outcome after =>
      Safe log.maxFiles directory after ∧ ¬ outcome.IsPanic ∧
        (outcome = .ok () → (after.dated isArchive).length ≤ log.maxFiles)) directory := by
  unfold finish
  rw [Program.wp_bind]
  refine wp_archive live (fun _ => ?_) (fun _ _ => ?_) fun _ _ => ?_
  · exact ⟨.refl _, id, fun ok => by cases ok⟩
  · exact ⟨.grows (Directory.Grows.share live.unarchived), id, fun ok => by cases ok⟩
  · rw [Program.andThen_ok]
    refine Program.wp_mono (wp_prune log _) ?_
    rintro outcome after ⟨run, calm, few, -⟩
    exact ⟨(Safe.archived live).trans (.shed run), calm, few⟩

/-- The log file that a start makes. -/
structure Started (before : Directory) (rotation : Rotation) (limit : Nat) (time : DateTime)
    (log : LogFile) (after : Directory) : Prop where
  maxFiles : log.maxFiles = limit
  period : log.period = rotation.period time
  live : Live after log
  new : before.files.length ≤ log.file
  empty : (after.files[log.file]?).map File.content = some []
  few : (after.dated isArchive).length ≤ limit

theorem wp_startAt {final : Faults} {rotation : Rotation} {maxFiles : Nat} :
    Program.wp (startAt faults final rotation maxFiles time stamp) (fun outcome after =>
      Safe maxFiles directory after ∧ ¬ outcome.IsPanic ∧
        ∀ log, outcome = .ok log → Started directory rotation maxFiles time log after) directory := by
  unfold startAt
  refine Program.wp_bind_ensure (fun _ => ⟨.refl _, id, fun log ok => by cases ok⟩) fun _ => ?_
  rw [Program.wp_bind]
  refine Program.wp_mono (wp_create directory) ?_
  rintro (⟨file, path⟩ | cause | site) middle ⟨ends, -⟩
  · have created : Created directory middle file path stamp := ends
    have live : Live middle ⟨file, path, rotation, rotation.period time, maxFiles⟩ := created.live
    have grown : Safe maxFiles directory middle := .grows created.grown
    rw [Program.andThen_ok]
    dsimp only
    rw [Program.wp_bind, Program.wp_attempt]
    refine Program.wp_mono (wp_prune _ middle) ?_
    rintro (done | cause | site) after ⟨run, calm, few, -⟩
    · dsimp only
      rw [Program.andThen_ok, Program.wp_pure]
      refine ⟨grown.trans (.shed run), id, fun log ok => ?_⟩
      cases ok
      refine ⟨rfl, rfl, live.shed run, created.new, ?_, few rfl⟩
      rw [(Directory.Sheds.frame run).1, created.empty, Option.map_some]
    · dsimp only
      rw [Program.andThen_ok]
      dsimp only
      unfold drop
      rw [Program.bind_assoc, Program.wp_bind, Program.wp_attempt]
      refine Program.wp_mono (wp_finish (live.shed run)) ?_
      rintro (done | reason | site) last ⟨safe, quiet, -⟩
      · exact ⟨grown.trans ((Safe.shed run).trans safe), id, fun log ok => by cases ok⟩
      · exact ⟨grown.trans ((Safe.shed run).trans safe), id, fun log ok => by cases ok⟩
      · exact absurd trivial quiet
    · exact absurd trivial calm
  · have litter : Littered directory middle := ends
    exact ⟨.grows litter.grown, id, fun log ok => by cases ok⟩
  · exact ends.elim

end Operations

end Rosbridge.Logging
