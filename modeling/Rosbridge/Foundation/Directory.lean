import Mathlib.Data.List.Sort
import Mathlib.Data.String.Basic
import Mathlib.Data.Prod.Lex
import Mathlib.Logic.Relation
import Rosbridge.Foundation.Program
import Rosbridge.Foundation.Table

/-!
Directories whose names may share files, and programs on them.

Owns: the operations of a directory, each of which may fail; the list of accepted files,
the oldest first; and what a run of operations can do to the names that it protects:
they stay as they are, but for the removal of the oldest accepted file while too many are
left.
-/

set_option autoImplicit false

namespace Foundation

/-- The contents of a file, and when they last changed. -/
structure File where
  content : List UInt8
  modified : Nat
deriving DecidableEq

/-- What a name leads to: a file, by its number, or something that is no file. -/
inductive Node where
  | file (number : Nat)
  | other
deriving DecidableEq

/-- Names of files. Several names may lead to one file, and a file may have lost all names. -/
structure Directory where
  names : Table String Node
  files : List File
  /-- The names removed so far, with what they led to. -/
  removed : List (String × Node)
  numbered : ∀ name number, names.lookup name = some (.file number) → number < files.length

/-- An operation on a directory. -/
inductive Operation where
  | prepare
  | create (name : String)
  | link (name : String)
  | remove (name : String)
  | list
  | inspect (name : String)
  | write
deriving DecidableEq

/-- The operations that fail. -/
abbrev Faults : Type := Operation → Bool

/-- Why an operation failed. -/
inductive Failure where
  | alreadyExists
  | notFound
  | faulty
deriving DecidableEq

/-- A program on a directory. -/
abbrev Disk (α : Type) : Type := Program Directory Failure α

namespace Directory

/-! ### States -/

/-- A new empty file. -/
def add (directory : Directory) (name : String) (time : Nat) : Directory where
  names := directory.names.insert name (.file directory.files.length)
  files := directory.files ++ [⟨[], time⟩]
  removed := directory.removed
  numbered other number found := by
    rw [AList.lookup_insert_if] at found
    rw [List.length_append, List.length_singleton]
    by_cases same : other = name
    · rw [if_pos same] at found
      cases found
      exact Nat.lt_succ_self _
    · rw [if_neg same] at found
      exact Nat.lt_succ_of_lt (directory.numbered other number found)

/-- A further name for a file. -/
def share (directory : Directory) (name : String) (number : Nat)
    (known : number < directory.files.length) : Directory :=
  { directory with
    names := directory.names.insert name (.file number)
    numbered := fun other found present => by
      rw [AList.lookup_insert_if] at present
      by_cases same : other = name
      · rw [if_pos same] at present
        cases present
        exact known
      · rw [if_neg same] at present
        exact directory.numbered other found present }

/-- A name less. -/
def unlink (directory : Directory) (name : String) (node : Node) : Directory :=
  { directory with
    names := directory.names.erase name
    removed := directory.removed ++ [(name, node)]
    numbered := fun other number found => by
      rw [AList.lookup_erase_if] at found
      by_cases same : other = name
      · rw [if_pos same] at found
        cases found
      · rw [if_neg same] at found
        exact directory.numbered other number found }

/-- Bytes at the end of a file. -/
def append (directory : Directory) (number : Nat) (bytes : List UInt8) (time : Nat) :
    Directory :=
  { directory with
    files := directory.files.modify number fun file => ⟨file.content ++ bytes, time⟩
    numbered := fun name other found => by
      rw [List.length_modify]
      exact directory.numbered name other found }

/-- The time of the last change of a file. -/
def modified (directory : Directory) (number : Nat) : Nat :=
  ((directory.files[number]?).map File.modified).getD 0

/-- The accepted file that a name leads to. -/
def datedEntry (accepts : String → Bool) (directory : Directory)
    (entry : Sigma fun _ : String => Node) : Option (ℕ ×ₗ String) :=
  match entry.2 with
  | .file number =>
      if accepts entry.1 then some (toLex (directory.modified number, entry.1)) else none
  | .other => none

/-- The accepted files with the times of their last changes, the oldest first. -/
def dated (accepts : String → Bool) (directory : Directory) : List (ℕ ×ₗ String) :=
  (directory.names.entries.filterMap (directory.datedEntry accepts)).insertionSort (· ≤ ·)

end Directory

/-! ### Operations -/

/-- Make a file under a name that is free. -/
def createNew (faults : Faults) (name : String) (time : Nat) : Disk Nat := do
  let directory ← Program.get
  Program.ensure (!faults (.create name)) .faulty
  Program.ensure (directory.names.lookup name).isNone .alreadyExists
  Program.modify fun directory => directory.add name time
  return directory.files.length

/-- Whether a name is in use. -/
def isUsed (name : String) : Disk Bool := do
  return ((← Program.get).names.lookup name).isSome

/-- Make a second name for a file. It must be free. -/
def hardLink (faults : Faults) (name other : String) : Disk Unit := fun directory =>
  if faults (.link name) then (.error .faulty, directory)
  else
    match found : directory.names.lookup name with
    | some (.file number) =>
        if (directory.names.lookup other).isSome then (.error .alreadyExists, directory)
        else (.ok (), directory.share other number (directory.numbered name number found))
    | _ => (.error .notFound, directory)

/-- Remove a name of a file. -/
def removeFile (faults : Faults) (name : String) : Disk Unit := fun directory =>
  if faults (.remove name) then (.error .faulty, directory)
  else
    match directory.names.lookup name with
    | some (.file number) => (.ok (), directory.unlink name (.file number))
    | _ => (.error .notFound, directory)

/-- The accepted files, if the directory and all its entries can be read. -/
def listDated (faults : Faults) (accepts : String → Bool) : Disk (List (ℕ ×ₗ String)) := do
  let directory ← Program.get
  Program.ensure (!faults .list) .faulty
  Program.ensure (directory.names.keys.all fun name => !faults (.inspect name)) .faulty
  return directory.dated accepts

/-! ### Rules -/

section Rules

variable {faults : Faults} {directory : Directory}

theorem wp_createNew {name : String} {time : Nat} {post : Outcome Failure Nat → Directory → Prop} :
    Program.wp (createNew faults name time) post directory ↔
      if faults (.create name) then post (.error .faulty) directory
      else if (directory.names.lookup name).isSome then post (.error .alreadyExists) directory
      else post (.ok directory.files.length) (directory.add name time) := by
  unfold createNew
  rw [Program.wp_bind, Program.wp_get, Program.andThen_ok, Program.wp_bind, Program.wp_ensure]
  cases faults (.create name)
  · cases directory.names.lookup name <;> exact Iff.rfl
  · exact Iff.rfl

theorem wp_isUsed {name : String} {post : Outcome Failure Bool → Directory → Prop} :
    Program.wp (isUsed name) post directory ↔
      post (.ok (directory.names.lookup name).isSome) directory := Iff.rfl

theorem wp_hardLink {name other : String} {post : Outcome Failure Unit → Directory → Prop}
    (faulty : faults (.link name) = true → post (.error .faulty) directory)
    (missing : (∀ number, directory.names.lookup name ≠ some (.file number)) →
      post (.error .notFound) directory)
    (used : (directory.names.lookup other).isSome = true → post (.error .alreadyExists) directory)
    (linked : ∀ number (known : number < directory.files.length),
      faults (.link name) = false → directory.names.lookup name = some (.file number) →
      directory.names.lookup other = none → post (.ok ()) (directory.share other number known)) :
    Program.wp (hardLink faults name other) post directory := by
  unfold Program.wp hardLink
  cases fails : faults (.link name) with
  | true => exact faulty fails
  | false =>
      simp only [Bool.false_eq_true, if_false]
      split
      · next number found =>
        cases free : (directory.names.lookup other).isSome with
        | true => exact used free
        | false =>
            exact linked number (directory.numbered name number found) fails found
              (Option.not_isSome_iff_eq_none.mp (by rw [free]; exact Bool.false_ne_true))
      · next different => exact missing fun number found => different number found

theorem wp_removeFile {name : String} {post : Outcome Failure Unit → Directory → Prop}
    (faulty : faults (.remove name) = true → post (.error .faulty) directory)
    (missing : (∀ number, directory.names.lookup name ≠ some (.file number)) →
      post (.error .notFound) directory)
    (removed : ∀ number, faults (.remove name) = false →
      directory.names.lookup name = some (.file number) →
      post (.ok ()) (directory.unlink name (.file number))) :
    Program.wp (removeFile faults name) post directory := by
  unfold Program.wp removeFile
  cases fails : faults (.remove name) with
  | true => exact faulty fails
  | false =>
      simp only [Bool.false_eq_true, if_false]
      split
      · next number found => exact removed number fails found
      · next different => exact missing fun number found => different number found

theorem wp_listDated {accepts : String → Bool}
    {post : Outcome Failure (List (ℕ ×ₗ String)) → Directory → Prop}
    (faulty : (faults .list = true ∨ ∃ name, faults (.inspect name) = true) →
      post (.error .faulty) directory)
    (listed : post (.ok (directory.dated accepts)) directory) :
    Program.wp (listDated faults accepts) post directory := by
  unfold listDated
  rw [Program.wp_bind, Program.wp_get, Program.andThen_ok]
  refine Program.wp_bind_ensure (fun unreadable => ?_) fun _ => ?_
  · exact faulty (.inl (by simpa using unreadable))
  · refine Program.wp_bind_ensure (fun unreadable => ?_) fun _ => listed
    rw [List.all_eq_false] at unreadable
    obtain ⟨name, -, fails⟩ := unreadable
    exact faulty (.inr ⟨name, by simpa using fails⟩)

end Rules

/-! ### The oldest file -/

namespace Directory

variable {accepts : String → Bool} {directory : Directory}

theorem datedEntry_eq_some {entry : Sigma fun _ : String => Node} {item : ℕ ×ₗ String} :
    directory.datedEntry accepts entry = some item ↔
      ∃ number, entry.2 = .file number ∧ accepts entry.1 = true ∧
        item = toLex (directory.modified number, entry.1) := by
  obtain ⟨name, number | -⟩ := entry
  · simp only [datedEntry]
    by_cases accepted : accepts name = true
    · simp [accepted, eq_comm]
    · simp [accepted]
  · simp [datedEntry]

theorem mem_dated {date : Nat} {name : String} :
    toLex (date, name) ∈ directory.dated accepts ↔
      accepts name = true ∧ ∃ number, directory.names.lookup name = some (.file number) ∧
        directory.modified number = date := by
  unfold dated
  rw [List.mem_insertionSort]
  rw [List.mem_filterMap]
  constructor
  · rintro ⟨entry, member, found⟩
    obtain ⟨number, leads, accepted, same⟩ := datedEntry_eq_some.mp found
    obtain ⟨rfl, rfl⟩ := Prod.mk.inj (toLex.injective same)
    refine ⟨accepted, number, ?_, rfl⟩
    rw [AList.lookup_eq_some_iff, ← leads]
    exact member
  · rintro ⟨accepted, number, found, rfl⟩
    exact ⟨_, (AList.lookup_eq_some_iff name _ _).mp found,
      datedEntry_eq_some.mpr ⟨number, rfl, accepted, rfl⟩⟩

/-- The list is in order. -/
theorem dated_sorted : (directory.dated accepts).Pairwise (· ≤ ·) :=
  List.pairwise_insertionSort _ _

/-- Without the oldest file, the rest of the list is left. -/
theorem dated_unlink {item : ℕ ×ₗ String} {rest : List (ℕ ×ₗ String)} {node : Node}
    (oldest : directory.dated accepts = item :: rest) :
    (directory.unlink (ofLex item).2 node).dated accepts = rest := by
  have member : toLex ((ofLex item).1, (ofLex item).2) ∈ directory.dated accepts := by
    rw [oldest]
    exact List.mem_cons_self
  obtain ⟨accepted, number, found, date⟩ := mem_dated.mp member
  obtain ⟨held, before, after, -, entries, erased⟩ := List.exists_of_kerase
    (AList.mem_keys.mp (AList.lookup_isSome.mp (by rw [found]; rfl)))
  have leads : held = .file number := by
    have inside : (⟨(ofLex item).2, held⟩ : Sigma fun _ : String => Node) ∈
        directory.names.entries := by
      rw [entries]
      exact List.mem_append_right _ List.mem_cons_self
    rw [← AList.lookup_eq_some_iff, found] at inside
    exact (Option.some.inj inside).symm
  have own : directory.datedEntry accepts ⟨(ofLex item).2, held⟩ = some item :=
    datedEntry_eq_some.mpr ⟨number, leads, accepted, by rw [date]; rfl⟩
  -- The list with the oldest file in front, and the same files in the order of the names.
  have moved : (directory.names.entries.filterMap (directory.datedEntry accepts)).Perm
      (item :: (before ++ after).filterMap (directory.datedEntry accepts)) := by
    rw [entries, List.filterMap_append, List.filterMap_cons_some own, List.filterMap_append]
    exact List.perm_middle
  have sorted : (item :: rest).Perm
      (item :: (before ++ after).filterMap (directory.datedEntry accepts)) := by
    rw [← oldest]
    exact (List.perm_insertionSort _ _).trans moved
  have left : (directory.unlink (ofLex item).2 node).dated accepts =
      ((before ++ after).filterMap (directory.datedEntry accepts)).insertionSort (· ≤ ·) := by
    rw [← erased]
    rfl
  have order : rest.Pairwise (· ≤ ·) := by
    have whole : (directory.dated accepts).Pairwise (· ≤ ·) := dated_sorted
    rw [oldest] at whole
    exact whole.of_cons
  rw [left]
  exact ((List.perm_insertionSort _ _).trans sorted.cons_inv.symm).eq_of_pairwise'
    (List.pairwise_insertionSort _ _) order

/-! ### What a run changes -/

/-- Names and files are only added. -/
structure Grows (before after : Directory) : Prop where
  names : ∀ name node, before.names.lookup name = some node → after.names.lookup name = some node
  files : before.files <+: after.files
  removed : ∀ entry ∈ before.removed, entry ∈ after.removed

/-- A file that was there has the contents it had. -/
theorem getElem?_of_prefix {before after : List File} (longer : before <+: after) {number : Nat}
    (known : number < before.length) : after[number]? = before[number]? := by
  obtain ⟨added, rfl⟩ := longer
  exact List.getElem?_append_left known

namespace Grows

variable {before middle after : Directory}

theorem refl (directory : Directory) : Grows directory directory :=
  ⟨fun _ _ found => found, List.prefix_refl _, fun _ member => member⟩

theorem trans (first : Grows before middle) (second : Grows middle after) : Grows before after where
  names name node found := second.names name node (first.names name node found)
  files := first.files.trans second.files
  removed entry member := second.removed entry (first.removed entry member)

/-- A name that was free is inserted. -/
theorem names_insert {name other : String} {node new : Node}
    (free : before.names.lookup name = none) (found : before.names.lookup other = some node) :
    (before.names.insert name new).lookup other = some node := by
  rw [AList.lookup_insert_if, if_neg, found]
  rintro rfl
  rw [free] at found
  cases found

theorem add {name : String} {time : Nat} (free : before.names.lookup name = none) :
    Grows before (before.add name time) where
  names _ _ := names_insert free
  files := List.prefix_append _ _
  removed _ member := member

theorem share {name : String} {number : Nat} {known : number < before.files.length}
    (free : before.names.lookup name = none) : Grows before (before.share name number known) where
  names _ _ := names_insert free
  files := List.prefix_refl _
  removed _ member := member

/-- A name that has come to a directory goes again. -/
theorem unlink {name : String} {node : Node} (free : before.names.lookup name = none)
    (grown : Grows before after) : Grows before (after.unlink name node) where
  names other found present := by
    show (after.names.erase name).lookup other = some found
    rw [AList.lookup_erase_if, if_neg, grown.names other found present]
    rintro rfl
    rw [free] at present
    cases present
  files := grown.files
  removed entry member := List.mem_append_left _ (grown.removed entry member)

end Grows

variable {protects : String → Prop} {limit : Nat}

/-- The protected names lead where they led, to the same contents. -/
structure Keeps (protects : String → Prop) (before after : Directory) : Prop where
  names : ∀ name, protects name → ∀ node, before.names.lookup name = some node →
    after.names.lookup name = some node
  contents : ∀ name, protects name → ∀ number, before.names.lookup name = some (.file number) →
    after.files[number]? = before.files[number]?
  removed : ∀ entry ∈ before.removed, entry ∈ after.removed

theorem Grows.keeps {before after : Directory} (grown : Grows before after) :
    Keeps protects before after where
  names name _ := grown.names name
  contents name _ number found :=
    getElem?_of_prefix grown.files (before.numbered name number found)
  removed := grown.removed

section Append

variable {number : Nat} {bytes : List UInt8} {time : Nat}

/-- The other files stay as they are. -/
theorem getElem?_append {other : Nat} (different : number ≠ other) :
    (directory.append number bytes time).files[other]? = directory.files[other]? := by
  show (directory.files.modify number _)[other]? = _
  rw [List.getElem?_modify]
  cases directory.files[other]? with
  | none => rfl
  | some file =>
      show some (if number = other then _ else file) = _
      rw [if_neg different]

/-- Protected names that do not lead to a file are not disturbed by a change of it. -/
theorem Keeps.append
    (elsewhere : ∀ name, protects name → directory.names.lookup name ≠ some (.file number)) :
    Keeps protects directory (directory.append number bytes time) where
  names _ _ _ found := found
  contents name guarded other found := by
    refine getElem?_append ?_
    rintro rfl
    exact elsewhere name guarded found
  removed _ member := member

/-- Neither are accepted names. -/
theorem dated_append
    (elsewhere : ∀ name, accepts name = true →
      directory.names.lookup name ≠ some (.file number)) :
    (directory.append number bytes time).dated accepts = directory.dated accepts := by
  unfold dated
  refine congrArg (List.insertionSort _) (List.filterMap_congr fun entry member => ?_)
  obtain ⟨name, other | -⟩ := entry
  · by_cases accepted : accepts name = true
    · have found := (AList.lookup_eq_some_iff name _ directory.names).mpr member
      have different : number ≠ other := by
        rintro rfl
        exact elsewhere name accepted found
      simp only [datedEntry, modified, getElem?_append different]
    · simp only [datedEntry, accepted]
      rfl
  · rfl

end Append

/-- The oldest accepted file goes, and there are more of them than allowed. -/
def Sheds (accepts : String → Bool) (limit : Nat) (before after : Directory) : Prop :=
  ∃ item rest number, before.dated accepts = item :: rest ∧ limit < (item :: rest).length ∧
    before.names.lookup (ofLex item).2 = some (.file number) ∧
    after = before.unlink (ofLex item).2 (.file number)

/-- The protected names stay, but for the oldest accepted files while there are too many. -/
def Ages (protects : String → Prop) (accepts : String → Bool) (limit : Nat) :
    Directory → Directory → Prop :=
  Relation.ReflTransGen fun before after =>
    Keeps protects before after ∨ Sheds accepts limit before after

/-- A protected name leads to the file, or one that was accepted did and was removed. -/
def Holds (protects : String → Prop) (accepts : String → Bool) (directory : Directory)
    (number : Nat) : Prop :=
  (∃ name, protects name ∧ directory.names.lookup name = some (.file number)) ∨
    ∃ name, accepts name = true ∧ (name, Node.file number) ∈ directory.removed

theorem Keeps.holds {before after : Directory} {number : Nat}
    (kept : Keeps protects before after) (held : before.Holds protects accepts number) :
    after.Holds protects accepts number := by
  rcases held with ⟨name, guarded, found⟩ | ⟨name, accepted, gone⟩
  · exact .inl ⟨name, guarded, kept.names name guarded _ found⟩
  · exact .inr ⟨name, accepted, kept.removed _ gone⟩

theorem Sheds.accepted {before : Directory} {item : ℕ ×ₗ String} {rest : List (ℕ ×ₗ String)}
    (oldest : before.dated accepts = item :: rest) : accepts (ofLex item).2 = true := by
  have member : toLex ((ofLex item).1, (ofLex item).2) ∈ before.dated accepts := by
    rw [oldest]
    exact List.mem_cons_self
  exact (mem_dated.mp member).1

theorem Sheds.holds {before after : Directory} {number : Nat}
    (sheds : Sheds accepts limit before after) (held : before.Holds protects accepts number) :
    after.Holds protects accepts number := by
  obtain ⟨item, rest, removed, oldest, -, leads, rfl⟩ := sheds
  rcases held with ⟨name, guarded, found⟩ | ⟨name, accepted, gone⟩
  · by_cases same : name = (ofLex item).2
    · subst same
      rw [leads] at found
      cases found
      exact .inr ⟨_, Sheds.accepted oldest, List.mem_append_right _ (List.mem_singleton_self _)⟩
    · refine .inl ⟨name, guarded, ?_⟩
      show (before.names.erase _).lookup name = _
      rw [AList.lookup_erase_if, if_neg same, found]
  · exact .inr ⟨name, accepted, List.mem_append_left _ gone⟩

/-- A file stays held while a directory ages. -/
theorem Ages.holds {before after : Directory} {number : Nat}
    (ages : Ages protects accepts limit before after)
    (held : before.Holds protects accepts number) : after.Holds protects accepts number := by
  induction ages with
  | refl => exact held
  | tail _ step inductionHypothesis =>
      rcases step with kept | sheds
      · exact kept.holds inductionHypothesis
      · exact sheds.holds inductionHypothesis

/-- Shedding removes accepted names only, and no file. -/
theorem Sheds.frame {before after : Directory}
    (run : Relation.ReflTransGen (Sheds accepts limit) before after) :
    after.files = before.files ∧
      (∀ name, accepts name = false → after.names.lookup name = before.names.lookup name) ∧
      ∀ name node, after.names.lookup name = some node → before.names.lookup name = some node := by
  induction run with
  | refl => exact ⟨rfl, fun _ _ => rfl, fun _ _ found => found⟩
  | tail _ sheds inductionHypothesis =>
      obtain ⟨files, others, fewer⟩ := inductionHypothesis
      obtain ⟨item, rest, removed, oldest, -, leads, rfl⟩ := sheds
      refine ⟨files, fun name refused => ?_, fun name node found => ?_⟩
      · have different : name ≠ (ofLex item).2 := by
          rintro rfl
          rw [Sheds.accepted oldest] at refused
          cases refused
        exact (AList.lookup_erase_ne different).trans (others name refused)
      · refine fewer name node ?_
        by_cases same : name = (ofLex item).2
        · subst same
          exact absurd ((AList.lookup_erase _ _).symm.trans found) (by simp)
        · exact (AList.lookup_erase_ne same).symm.trans found

theorem Sheds.ages {before after : Directory}
    (run : Relation.ReflTransGen (Sheds accepts limit) before after) :
    Ages protects accepts limit before after :=
  run.lift id fun _ _ shed => .inr shed

/-- Removing the oldest files of a list, one after the other. -/
theorem wp_shed {faults : Faults} {rest : List (ℕ ×ₗ String)} (limited : limit ≤ rest.length) :
    ∀ (gone : List (ℕ ×ₗ String)) {directory : Directory},
      directory.dated accepts = gone ++ rest →
      Program.wp (Program.forEach gone fun item => removeFile faults (ofLex item).2)
        (fun outcome after =>
          Relation.ReflTransGen (Sheds accepts limit) directory after ∧ ¬ outcome.IsPanic ∧
            (outcome = .ok () → after.dated accepts = rest) ∧
            ((∀ name, faults (.remove name) = false) → outcome = .ok ())) directory
  | [], directory, listed => by
      rw [Program.wp_forEach_nil]
      exact ⟨.refl, id, fun _ => listed, fun _ => rfl⟩
  | item :: gone, directory, listed => by
      rw [Program.wp_forEach_cons]
      have member : toLex ((ofLex item).1, (ofLex item).2) ∈ directory.dated accepts := by
        rw [listed]
        exact List.mem_cons_self
      obtain ⟨-, leads, found, -⟩ := mem_dated.mp member
      refine wp_removeFile (fun fails => ?_) (fun missing => ?_) fun number _ leads => ?_
      · refine ⟨.refl, id, (fun ok => by cases ok), fun sound => ?_⟩
        rw [sound] at fails
        cases fails
      · exact absurd found (missing leads)
      · have sheds : Sheds accepts limit directory
            (directory.unlink (ofLex item).2 (.file number)) :=
          ⟨item, gone ++ rest, number, listed, by
            rw [List.length_cons, List.length_append]
            omega, leads, rfl⟩
        rw [Program.andThen_ok]
        refine Program.wp_mono (wp_shed limited gone (dated_unlink listed)) ?_
        rintro outcome after ⟨run, calm, left, sound⟩
        exact ⟨.head sheds run, calm, left, sound⟩

end Directory

end Foundation
