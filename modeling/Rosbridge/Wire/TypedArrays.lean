import Rosbridge.Wire.Codec

/-!
Typed arrays of little-endian items.

Owns: that bytes packed item by item are unpacked into the same items.
-/

set_option autoImplicit false

namespace Rosbridge

theorem length_toLeBytes (size value : Nat) : (toLeBytes size value).length = size := by
  induction size generalizing value with
  | zero => rfl
  | succ size inductionHypothesis =>
      rw [toLeBytes, List.length_cons, inductionHypothesis]

theorem fromLeBytes_toLeBytes (size value : Nat) :
    fromLeBytes (toLeBytes size value) = value % 256 ^ size := by
  induction size generalizing value with
  | zero => rw [pow_zero, Nat.mod_one]; rfl
  | succ size inductionHypothesis =>
      have first : (UInt8.ofNat value).toNat = value % 256 := UInt8.toNat_ofNat'
      have rest : fromLeBytes (toLeBytes (size + 1) value) =
          (UInt8.ofNat value).toNat + 256 * fromLeBytes (toLeBytes size (value / 256)) := rfl
      rw [rest, first, inductionHypothesis, pow_succ', Nat.mod_mul]

/-- The first chunk is split off. -/
theorem chunksExact_append {size : Nat} (positive : 0 < size) {chunk : List UInt8}
    (sized : chunk.length = size) (rest : List UInt8) :
    chunksExact size (chunk ++ rest) = chunk :: chunksExact size rest := by
  have count : (chunk ++ rest).length / size = rest.length / size + 1 := by
    rw [List.length_append, sized, Nat.add_comm, Nat.add_div_right _ positive]
  unfold chunksExact
  rw [count, List.range_succ_eq_map, List.map_cons, List.map_map]
  congr 1
  · rw [Nat.zero_mul, List.drop_zero, List.take_append_of_le_length sized.ge,
      List.take_of_length_le sized.le]
  · refine List.map_congr_left fun index _ => ?_
    have skip : (index + 1) * size = chunk.length + index * size := by
      rw [sized]
      ring
    show ((chunk ++ rest).drop ((index + 1) * size)).take size = _
    rw [skip, List.drop_length_add_append]

/-- The chunks of packed items are the items. -/
theorem chunksExact_flatMap {α : Type} {size : Nat} (positive : 0 < size)
    {pack : α → List UInt8} {items : List α} (sized : ∀ item ∈ items, (pack item).length = size) :
    chunksExact size (items.flatMap pack) = items.map pack := by
  induction items with
  | nil =>
      have none : (0 : Nat) / size = 0 := Nat.zero_div size
      rw [chunksExact, List.flatMap_nil, List.length_nil, none]
      rfl
  | cons item items inductionHypothesis =>
      rw [List.flatMap_cons, chunksExact_append positive (sized item List.mem_cons_self),
        inductionHypothesis fun other member => sized other (List.mem_cons_of_mem _ member),
        List.map_cons]

/-- Packed items are unpacked one by one. -/
theorem unpack_flatMap {α : Type} {size : Nat} (positive : 0 < size) (item : Nat → Json)
    (value : α → Nat) (items : List α) :
    unpack size item (items.flatMap fun p => toLeBytes size (value p)) =
      .ok (.arr (items.map fun p => item (value p % 256 ^ size))) := by
  have sized : ∀ p ∈ items, (toLeBytes size (value p)).length = size :=
    fun p _ => length_toLeBytes size (value p)
  have whole : (items.flatMap fun p => toLeBytes size (value p)).length % size = 0 := by
    have lengths : (items.flatMap fun p => toLeBytes size (value p)).length =
        items.length * size := by
      simp [List.length_flatMap, length_toLeBytes]
    rw [lengths, Nat.mul_mod_left]
  rw [unpack, if_pos whole, chunksExact_flatMap positive sized, List.map_map]
  simp [Function.comp_def, fromLeBytes_toLeBytes]

end Rosbridge
