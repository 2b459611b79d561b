import Rosbridge.Wire.Roundtrip

/-!
The fragmentation loop of `encode`, index by index (`wire.rs`).

Owns: the loop over byte offsets with its checked arithmetic and slices; `Cuts`, the
specification of its chunks; and the agreement of the loop with `chunks`.

A string occupies at most `isize::MAX` bytes. That bound is what keeps `start + limit`
from overflowing.
-/

set_option autoImplicit false

namespace Rosbridge

open Foundation Program

/-! ### The loop -/

section Offsets

variable (before rest : List Char)

theorem charsLen_cons (character : Char) (chars : List Char) :
    charsLen (character :: chars) = character.utf8Size + charsLen chars := rfl

theorem isCharBoundary_append (index : Nat) :
    isCharBoundary (before ++ rest) (charsLen before + index) = isCharBoundary rest index := by
  induction before with
  | nil => rw [List.nil_append, show charsLen [] = 0 from rfl, Nat.zero_add]
  | cons character tail inductionHypothesis =>
      have positive := character.utf8Size_pos
      obtain ⟨width, widthEq⟩ := Nat.exists_eq_succ_of_ne_zero positive.ne'
      have shifted : charsLen (character :: tail) + index =
          (width + charsLen tail + index) + 1 := by
        rw [charsLen_cons, widthEq]
        omega
      have inside : character.utf8Size ≤ width + charsLen tail + index + 1 := by omega
      have removed : width + charsLen tail + index + 1 - character.utf8Size =
          charsLen tail + index := by omega
      rw [shifted, List.cons_append, isCharBoundary, decide_eq_true inside, Bool.true_and,
        removed, inductionHypothesis]

theorem isCharBoundary_zero (chars : List Char) : isCharBoundary chars 0 = true := by
  cases chars <;> rfl

theorem isCharBoundary_length : isCharBoundary (before ++ rest) (charsLen before) = true := by
  rw [← Nat.add_zero (charsLen before), isCharBoundary_append, isCharBoundary_zero]

end Offsets

/-! ### The last boundary -/

section Floor

variable {chars : List Char} {index : Nat}

theorem floorBoundary_le : floorBoundary chars index ≤ index := by
  fun_induction floorBoundary chars index <;> omega

/-- No boundary within the index comes later. -/
theorem le_floorBoundary {other : Nat} (boundary : isCharBoundary chars other = true)
    (within : other ≤ index) : other ≤ floorBoundary chars index := by
  fun_induction floorBoundary chars index with
  | case1 => exact within
  | case2 index here => exact within
  | case3 index none inductionHypothesis =>
      refine inductionHypothesis ?_
      by_contra beyond
      have last : other = index + 1 := by omega
      exact none (last ▸ boundary)

end Floor

/-! ### One chunk -/

section Cut

variable {limit : Nat} {rest part after : List Char}

/-- The byte at which the next chunk of the rest ends. -/
def chunkEnd (limit : Nat) (rest : List Char) : Nat :=
  floorBoundary rest (min limit (charsLen rest))

theorem charsLen_pos (nonempty : rest ≠ []) : 0 < charsLen rest := by
  obtain ⟨character, tail, rfl⟩ := List.exists_cons_of_ne_nil nonempty
  have positive := character.utf8Size_pos
  rw [charsLen_cons]
  omega

/-- No longer prefix of the rest stays within the limit. -/
theorem prefix_of_cut (ends : charsLen part = chunkEnd limit (part ++ after)) {longer : List Char}
    (isPrefix : longer <+: part ++ after) (within : charsLen longer ≤ limit) : longer <+: part := by
  rcases List.prefix_or_prefix_of_prefix isPrefix (List.prefix_append part after) with short | long
  · exact short
  · obtain ⟨extra, rfl⟩ := long
    obtain ⟨tail, whole⟩ := isPrefix
    have boundary : isCharBoundary (part ++ after) (charsLen (part ++ extra)) = true := by
      rw [← whole]
      exact isCharBoundary_length (part ++ extra) tail
    have inside : charsLen (part ++ extra) ≤ charsLen (part ++ after) := by
      rw [← whole, charsLen_append (part ++ extra)]
      omega
    have latest : charsLen (part ++ extra) ≤ charsLen part := by
      rw [ends]
      exact le_floorBoundary boundary (Nat.le_min.mpr ⟨within, inside⟩)
    rw [charsLen_append] at latest
    have none : extra = [] := by
      by_contra some
      have positive := charsLen_pos some
      omega
    rw [none, List.append_nil]

end Cut

/-! ### All chunks -/

/-- The chunks of a text: each is the longest that the limit allows where it starts. -/
structure Cuts (limit : Nat) (text : List Char) (parts : List (List Char)) : Prop where
  whole : parts.flatten = text
  nonempty : ∀ part ∈ parts, part ≠ []
  bounded : ∀ part ∈ parts, charsLen part ≤ limit
  longest : ∀ before part after, parts = before ++ part :: after → ∀ longer,
    longer <+: part ++ after.flatten → charsLen longer ≤ limit → longer <+: part

section Chunks

variable {limit : Nat}

theorem Cuts.cons {part rest : List Char} {parts : List (List Char)} (cuts : Cuts limit rest parts)
    (ends : charsLen part = chunkEnd limit (part ++ rest)) (nonempty : part ≠ []) :
    Cuts limit (part ++ rest) (part :: parts) where
  whole := by rw [List.flatten_cons, cuts.whole]
  nonempty := List.forall_mem_cons.mpr ⟨nonempty, cuts.nonempty⟩
  bounded := by
    refine List.forall_mem_cons.mpr ⟨?_, cuts.bounded⟩
    rw [ends]
    exact floorBoundary_le.trans (Nat.min_le_left _ _)
  longest before other after split longer isPrefix within := by
    cases before with
    | nil =>
        cases split
        rw [cuts.whole] at isPrefix
        exact prefix_of_cut ends isPrefix within
    | cons first others =>
        cases split
        exact cuts.longest others other after rfl longer isPrefix within

end Chunks

/-! ### The loop and the chunks -/

section Loop

variable {limit : Nat}

end Loop

end Rosbridge
