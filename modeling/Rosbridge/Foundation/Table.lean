import Mathlib.Data.List.AList
import Mathlib.Algebra.Order.Group.Multiset
import Mathlib.Algebra.BigOperators.Group.Multiset.Basic

/-!
Finite maps with one value type, and the order in which they are visited.

Owns: the operations `retain` and `alter` that `AList` lacks, the lookup law of
every operation in one conditional form, and `total`, the multiset that a weight
collects over all entries.

A hash map is visited in an unspecified order. `permute code` is the list of its
entries in the order numbered `code`; every order has a number.
-/

set_option autoImplicit false

/-- A finite map. Its well-formedness, one entry for each key, is a field. -/
abbrev Foundation.Table (κ ν : Type) : Type := AList fun _ : κ => ν

namespace AList

open Foundation

section Operations

variable {κ ν : Type}

/-- No entries. -/
def isEmpty (table : Table κ ν) : Bool := table.entries.isEmpty

theorem isEmpty_iff {table : Table κ ν} : table.isEmpty = true ↔ table = ∅ := by
  rw [isEmpty, List.isEmpty_iff]
  exact ⟨fun none => ext none, fun none => by rw [none]; rfl⟩

/-- Keep the entries that satisfy a test. -/
def retain (keep : κ → ν → Bool) (table : Table κ ν) : Table κ ν where
  entries := table.entries.filter fun entry => keep entry.1 entry.2
  nodupKeys := table.nodupKeys.sublist List.filter_sublist

variable [DecidableEq κ]

/-- Change the value at one key, if it is there. -/
def alter (key : κ) (change : ν → ν) (table : Table κ ν) : Table κ ν :=
  match table.lookup key with
  | some value => table.replace key (change value)
  | none => table

/-- Remove several keys. -/
def eraseAll (keys : List κ) (table : Table κ ν) : Table κ ν :=
  keys.foldl (fun table key => table.erase key) table

/-! ### Lookup laws -/

theorem lookup_insert_if (key other : κ) (value : ν) (table : Table κ ν) :
    (table.insert key value).lookup other =
      if other = key then some value else table.lookup other := by
  split
  · next same => rw [same, lookup_insert]
  · next different => exact lookup_insert_ne different

theorem lookup_erase_if (key other : κ) (table : Table κ ν) :
    (table.erase key).lookup other = if other = key then none else table.lookup other := by
  split
  · next same => rw [same, lookup_erase]
  · next different => exact lookup_erase_ne different

theorem lookup_eq_some_iff (key : κ) (value : ν) (table : Table κ ν) :
    table.lookup key = some value ↔ (⟨key, value⟩ : Sigma fun _ : κ => ν) ∈ table.entries :=
  mem_lookup_iff

theorem lookup_retain (keep : κ → ν → Bool) (key : κ) (table : Table κ ν) :
    (table.retain keep).lookup key = (table.lookup key).filter (keep key) := by
  ext value
  rw [lookup_eq_some_iff, Option.filter_eq_some_iff, lookup_eq_some_iff]
  exact List.mem_filter

private theorem kreplace_cons_eq (key : κ) (old new : ν)
    (rest : List (Sigma fun _ : κ => ν)) :
    List.kreplace key new (⟨key, old⟩ :: rest) = ⟨key, new⟩ :: rest :=
  List.lookmap_cons_some _ _ (if_pos rfl)

private theorem kreplace_cons_ne {key head : κ} (different : key ≠ head) (old new : ν)
    (rest : List (Sigma fun _ : κ => ν)) :
    List.kreplace key new (⟨head, old⟩ :: rest) = ⟨head, old⟩ :: List.kreplace key new rest :=
  List.lookmap_cons_none _ _ (if_neg different)

private theorem dlookup_kreplace (key other : κ) (old new : ν) :
    ∀ entries : List (Sigma fun _ : κ => ν), List.dlookup key entries = some old →
      List.dlookup other (List.kreplace key new entries) =
        if other = key then some new else List.dlookup other entries
  | [], found => by cases found
  | ⟨head, first⟩ :: rest, found => by
      by_cases atHead : key = head
      · subst atHead
        rw [kreplace_cons_eq]
        by_cases same : other = key
        · subst same
          rw [List.dlookup_cons_eq, if_pos rfl]
        · rw [List.dlookup_cons_ne _ _ same, List.dlookup_cons_ne _ _ same, if_neg same]
      · rw [List.dlookup_cons_ne _ _ atHead] at found
        rw [kreplace_cons_ne atHead]
        by_cases same : other = head
        · subst same
          rw [List.dlookup_cons_eq, List.dlookup_cons_eq, if_neg (Ne.symm atHead)]
        · rw [List.dlookup_cons_ne _ _ same, List.dlookup_cons_ne _ _ same,
            dlookup_kreplace key other old new rest found]

theorem lookup_alter (key other : κ) (change : ν → ν) (table : Table κ ν) :
    (table.alter key change).lookup other =
      if other = key then (table.lookup key).map change else table.lookup other := by
  unfold alter
  cases found : table.lookup key with
  | none =>
      by_cases same : other = key
      · subst same; simp [found]
      · simp [same]
  | some value => exact dlookup_kreplace key other value (change value) table.entries found

theorem lookup_eraseAll (keys : List κ) (other : κ) (table : Table κ ν) :
    (table.eraseAll keys).lookup other =
      if other ∈ keys then none else table.lookup other := by
  induction keys generalizing table with
  | nil => simp [eraseAll]
  | cons head tail inductionHypothesis =>
      have step : table.eraseAll (head :: tail) = (table.erase head).eraseAll tail := rfl
      rw [step, inductionHypothesis, lookup_erase_if]
      by_cases inTail : other ∈ tail
      · simp [inTail]
      · by_cases same : other = head <;> simp [inTail, same]

/-- Changing a new entry is inserting the changed value. -/
theorem alter_insert (key : κ) (value : ν) (change : ν → ν) (table : Table κ ν) :
    (table.insert key value).alter key change = table.insert key (change value) := by
  unfold alter
  rw [lookup_insert]
  apply ext
  exact kreplace_cons_eq key value (change value) _

private theorem kreplace_kreplace (key : κ) (first second : ν) :
    ∀ entries : List (Sigma fun _ : κ => ν),
      List.kreplace key second (List.kreplace key first entries) =
        List.kreplace key second entries
  | [] => rfl
  | ⟨head, value⟩ :: rest => by
      by_cases atHead : key = head
      · subst atHead
        rw [kreplace_cons_eq, kreplace_cons_eq, kreplace_cons_eq]
      · rw [kreplace_cons_ne atHead, kreplace_cons_ne atHead, kreplace_cons_ne atHead,
          kreplace_kreplace key first second rest]

theorem alter_alter (key : κ) (first second : ν → ν) (table : Table κ ν) :
    (table.alter key first).alter key second =
      table.alter key fun value => second (first value) := by
  have found := lookup_alter key key first table
  rw [if_pos rfl] at found
  cases before : table.lookup key with
  | none =>
      rw [before] at found
      simp only [alter, before]
  | some value =>
      rw [before] at found
      simp only [alter, before] at found ⊢
      simp only [found, Option.map_some]
      exact ext (kreplace_kreplace key (first value) (second (first value)) table.entries)

private theorem kerase_kreplace (key : κ) (value : ν) :
    ∀ entries : List (Sigma fun _ : κ => ν),
      List.kerase key (List.kreplace key value entries) = List.kerase key entries
  | [] => rfl
  | ⟨head, first⟩ :: rest => by
      by_cases atHead : key = head
      · subst atHead
        have erased : ∀ held : ν, List.kerase key (⟨key, held⟩ :: rest) = rest :=
          fun held => List.kerase_cons_eq rfl
        rw [kreplace_cons_eq, erased, erased]
      · rw [kreplace_cons_ne atHead, List.kerase_cons_ne atHead, List.kerase_cons_ne atHead,
          kerase_kreplace key value rest]

/-! ### Partial views -/

/-- What a partial reading of the values sees under a key. -/
def seen {μ : Type} (look : ν → Option μ) (table : Table κ ν) (key : κ) : Option μ :=
  (table.lookup key).bind look

section Seen

variable {μ : Type} {look : ν → Option μ} {table : Table κ ν}

theorem seen_insert {key : κ} (value : ν) (absent : key ∉ table) (hidden : look value = none) :
    (table.insert key value).seen look = table.seen look := by
  funext other
  rw [seen, seen, lookup_insert_if]
  split
  · next same => rw [same, lookup_eq_none.mpr absent, Option.bind_some, Option.bind_none, hidden]
  · rfl

theorem seen_erase {key : κ} (hidden : ∀ value, table.lookup key = some value → look value = none) :
    (table.erase key).seen look = table.seen look := by
  funext other
  rw [seen, seen, lookup_erase_if]
  split
  · next same =>
      cases found : table.lookup other with
      | none => rfl
      | some value => exact (hidden value (same ▸ found)).symm
  · rfl

theorem seen_eraseAll {keys : List κ}
    (hidden : ∀ key ∈ keys, ∀ value, table.lookup key = some value → look value = none) :
    (table.eraseAll keys).seen look = table.seen look := by
  funext other
  rw [seen, seen, lookup_eraseAll]
  split
  · next member =>
      cases found : table.lookup other with
      | none => rfl
      | some value => exact (hidden other member value found).symm
  · rfl

theorem seen_alter {key : κ} {change : ν → ν}
    (same : ∀ value, table.lookup key = some value → look (change value) = look value) :
    (table.alter key change).seen look = table.seen look := by
  funext other
  rw [seen, seen, lookup_alter]
  split
  · next here =>
      rw [here]
      cases found : table.lookup key with
      | none => rfl
      | some value => exact same value found
  · rfl

theorem seen_retain {keep : κ → ν → Bool}
    (hidden : ∀ key value, table.lookup key = some value → keep key value = false →
      look value = none) : (table.retain keep).seen look = table.seen look := by
  funext other
  rw [seen, seen, lookup_retain]
  cases found : table.lookup other with
  | none => rfl
  | some value =>
      cases kept : keep other value with
      | true => rw [Option.filter_some, if_pos kept]
      | false =>
          rw [Option.filter_some, if_neg (kept ▸ Bool.false_ne_true)]
          exact (hidden other value found kept).symm

end Seen

/-- A changed entry is erased like the entry it was. -/
theorem erase_alter (key : κ) (change : ν → ν) (table : Table κ ν) :
    (table.alter key change).erase key = table.erase key := by
  unfold alter
  cases table.lookup key with
  | none => rfl
  | some value => exact ext (kerase_kreplace key (change value) table.entries)

/-- A written entry is erased like the entry it was. -/
theorem erase_insert (key : κ) (value : ν) (table : Table κ ν) :
    (table.insert key value).erase key = table.erase key :=
  ext (List.kerase_cons_eq rfl)

theorem keys_alter (key : κ) (change : ν → ν) (table : Table κ ν) :
    (table.alter key change).keys = table.keys := by
  unfold alter
  cases table.lookup key with
  | none => rfl
  | some value => exact keys_replace key (change value) table

/-- Changing a value into itself changes nothing. -/
theorem alter_eq_self {key : κ} {change : ν → ν} {table : Table κ ν}
    (same : ∀ value, table.lookup key = some value → change value = value) :
    table.alter key change = table := by
  unfold alter
  cases found : table.lookup key with
  | none => rfl
  | some value =>
      dsimp only
      rw [same value found]
      exact ext (List.kreplace_self table.nodupKeys ((lookup_eq_some_iff _ _ _).mp found))

omit [DecidableEq κ] in
theorem length_keys_retain (keep : κ → ν → Bool) (table : Table κ ν) :
    (table.retain keep).keys.length ≤ table.keys.length := by
  show (List.map Sigma.fst _).length ≤ (List.map Sigma.fst _).length
  rw [List.length_map, List.length_map]
  exact List.length_filter_le _ _

theorem length_keys_erase (key : κ) (table : Table κ ν) :
    (table.erase key).keys.length ≤ table.keys.length := by
  rw [keys_erase]
  exact List.length_erase_le

theorem length_keys_insert {key : κ} (value : ν) {table : Table κ ν} (absent : key ∉ table) :
    (table.insert key value).keys.length = table.keys.length + 1 := by
  rw [keys_insert, List.erase_of_not_mem (mem_keys.not.mp absent), List.length_cons]

private theorem filter_kerase {keep : κ → ν → Bool} {key : κ} :
    ∀ entries : List (Sigma fun _ : κ => ν),
      (∀ value, List.dlookup key entries = some value → keep key value = false) →
      (List.kerase key entries).filter (fun entry => keep entry.1 entry.2) =
        entries.filter fun entry => keep entry.1 entry.2
  | [], _ => rfl
  | ⟨head, first⟩ :: rest, dropped => by
      by_cases atHead : key = head
      · subst atHead
        have erased : List.kerase key (⟨key, first⟩ :: rest) = rest := List.kerase_cons_eq rfl
        have out := dropped first (List.dlookup_cons_eq rest key first)
        rw [erased, List.filter_cons_of_neg (by simpa using out)]
      · have inRest : ∀ value, List.dlookup key rest = some value → keep key value = false :=
          fun value found => dropped value (by rw [List.dlookup_cons_ne _ _ atHead, found])
        rw [List.kerase_cons_ne atHead, List.filter_cons, List.filter_cons,
          filter_kerase rest inRest]

/-- Erasing an entry that a filter drops anyway changes nothing. -/
theorem retain_erase {keep : κ → ν → Bool} {key : κ} {table : Table κ ν}
    (dropped : ∀ value, table.lookup key = some value → keep key value = false) :
    (table.erase key).retain keep = table.retain keep :=
  ext (filter_kerase table.entries dropped)

theorem mem_iff_lookup (key : κ) (table : Table κ ν) :
    key ∈ table ↔ ∃ value, table.lookup key = some value := by
  rw [← lookup_isSome, Option.isSome_iff_exists]

theorem mem_alter (key other : κ) (change : ν → ν) (table : Table κ ν) :
    other ∈ table.alter key change ↔ other ∈ table := by
  unfold alter
  cases table.lookup key with
  | none => exact Iff.rfl
  | some value => exact mem_replace

theorem eq_empty_iff (table : Table κ ν) : table = ∅ ↔ ∀ key, table.lookup key = none := by
  constructor
  · rintro rfl key
    exact lookup_empty key
  · intro absent
    apply ext
    rw [empty_entries, List.eq_nil_iff_forall_not_mem]
    rintro ⟨key, value⟩ member
    rw [← lookup_eq_some_iff, absent key] at member
    cases member

theorem alter_eq_empty_iff (key : κ) (change : ν → ν) (table : Table κ ν) :
    table.alter key change = ∅ ↔ table = ∅ := by
  simp only [eq_empty_iff, ← Option.not_isSome_iff_eq_none, lookup_isSome, mem_alter]

theorem ne_empty_of_lookup {table : Table κ ν} {key : κ} {value : ν}
    (found : table.lookup key = some value) : table ≠ ∅ := by
  rintro rfl
  cases found

end Operations

/-! ### Totals -/

section Totals

variable {κ ν β : Type}

/-- The multiset that `weight` collects over all entries. -/
def total (weight : κ → ν → Multiset β) (table : Table κ ν) : Multiset β :=
  (table.entries.map fun entry => weight entry.1 entry.2).sum

variable (weight : κ → ν → Multiset β)

@[simp] theorem total_empty : (∅ : Table κ ν).total weight = 0 := rfl

private theorem sum_filter (keep : κ → ν → Bool) :
    ∀ entries : List (Sigma fun _ : κ => ν),
      (entries.map fun entry => weight entry.1 entry.2).sum =
        ((entries.filter fun entry => keep entry.1 entry.2).map
            fun entry => weight entry.1 entry.2).sum +
          ((entries.filter fun entry => !keep entry.1 entry.2).map
            fun entry => weight entry.1 entry.2).sum
  | [] => rfl
  | entry :: rest => by
      rw [List.map_cons, List.sum_cons, sum_filter keep rest]
      cases kept : keep entry.1 entry.2
      · simp [kept, add_left_comm]
      · simp [kept, add_assoc]

/-- The total splits into the part a filter keeps and the part it drops. -/
theorem total_retain (keep : κ → ν → Bool) (table : Table κ ν) :
    table.total weight =
      (table.retain keep).total weight +
        (table.retain fun key value => !keep key value).total weight :=
  sum_filter weight keep table.entries

variable [DecidableEq κ]

theorem total_insert {key : κ} {value : ν} {table : Table κ ν} (fresh : key ∉ table) :
    (table.insert key value).total weight = weight key value + table.total weight := by
  unfold total
  rw [entries_insert_of_notMem fresh, List.map_cons, List.sum_cons]

private theorem sum_kerase (key : κ) (value : ν) :
    ∀ entries : List (Sigma fun _ : κ => ν), List.dlookup key entries = some value →
      (entries.map fun entry => weight entry.1 entry.2).sum =
        weight key value +
          ((List.kerase key entries).map fun entry => weight entry.1 entry.2).sum
  | [], found => by cases found
  | ⟨head, first⟩ :: rest, found => by
      by_cases atHead : key = head
      · subst atHead
        rw [List.dlookup_cons_eq] at found
        cases found
        have erased : List.kerase key (⟨key, value⟩ :: rest) = rest := List.kerase_cons_eq rfl
        rw [erased, List.map_cons, List.sum_cons]
      · rw [List.dlookup_cons_ne _ _ atHead] at found
        rw [List.kerase_cons_ne atHead, List.map_cons, List.map_cons, List.sum_cons,
          List.sum_cons, sum_kerase key value rest found, add_left_comm]

theorem total_erase {key : κ} {value : ν} {table : Table κ ν}
    (found : table.lookup key = some value) :
    table.total weight = weight key value + (table.erase key).total weight :=
  sum_kerase weight key value table.entries found

theorem total_alter_some {key : κ} {change : ν → ν} {value : ν} {table : Table κ ν}
    (found : table.lookup key = some value) :
    (table.alter key change).total weight =
      weight key (change value) + (table.erase key).total weight := by
  have changed : (table.alter key change).lookup key = some (change value) := by
    rw [lookup_alter, if_pos rfl, found]
    rfl
  rw [total_erase weight changed, erase_alter]

/-- Changing a value without changing its weight keeps the total. -/
theorem total_alter {key : κ} {change : ν → ν} {table : Table κ ν}
    (same : ∀ value, table.lookup key = some value →
      weight key (change value) = weight key value) :
    (table.alter key change).total weight = table.total weight := by
  cases found : table.lookup key with
  | none =>
      unfold alter
      rw [found]
  | some value => rw [total_alter_some weight found, total_erase weight found, same value found]

/-- The total splits into the parts of several entries and the rest. -/
theorem total_eraseAll {table : Table κ ν} (chosen : List (κ × ν))
    (distinct : (chosen.map Prod.fst).Nodup)
    (found : ∀ entry ∈ chosen, table.lookup entry.1 = some entry.2) :
    table.total weight = (chosen.map fun entry => weight entry.1 entry.2).sum +
      (table.eraseAll (chosen.map Prod.fst)).total weight := by
  induction chosen generalizing table with
  | nil => exact (zero_add _).symm
  | cons entry rest inductionHypothesis =>
      obtain ⟨absent, distinct⟩ := List.nodup_cons.mp distinct
      have others : ∀ other ∈ rest, (table.erase entry.1).lookup other.1 = some other.2 := by
        intro other member
        have apart : other.1 ≠ entry.1 := fun same =>
          absent (List.mem_map.mpr ⟨other, member, same⟩)
        rw [lookup_erase_ne apart]
        exact found other (List.mem_cons_of_mem _ member)
      rw [total_erase weight (found entry List.mem_cons_self), inductionHypothesis distinct others,
        List.map_cons, List.sum_cons, add_assoc]
      rfl

/-- The total over a snapshot of the table. -/
theorem total_of_listed {table : Table κ ν} {items : List (κ × ν)}
    (distinct : (items.map Prod.fst).Nodup)
    (listed : ∀ key value, (key, value) ∈ items ↔ table.lookup key = some value) :
    (items.map fun entry => weight entry.1 entry.2).sum = table.total weight := by
  have none : table.eraseAll (items.map Prod.fst) = ∅ := by
    refine (eq_empty_iff _).mpr fun key => ?_
    rw [lookup_eraseAll]
    split
    · rfl
    · next unlisted =>
        by_contra present
        obtain ⟨value, found⟩ := Option.ne_none_iff_exists'.mp present
        exact unlisted (List.mem_map.mpr ⟨(key, value), (listed key value).mpr found, rfl⟩)
  have split := total_eraseAll weight items distinct fun entry member =>
    (listed entry.1 entry.2).mp member
  rw [split, none, total_empty, add_zero]

section Order

theorem total_erase_le (key : κ) (table : Table κ ν) :
    (table.erase key).total weight ≤ table.total weight := by
  cases found : table.lookup key with
  | some value =>
      rw [total_erase weight found]
      exact Multiset.le_add_left _ _
  | none =>
      rw [show table.erase key = table from
        AList.ext (List.kerase_of_notMem_keys (lookup_eq_none.mp found))]

omit [DecidableEq κ] in
theorem total_retain_le (keep : κ → ν → Bool) (table : Table κ ν) :
    (table.retain keep).total weight ≤ table.total weight := by
  rw [total_retain weight keep table]
  exact Multiset.le_add_right _ _

theorem total_alter_le {key : κ} {change : ν → ν} {table : Table κ ν}
    (less : ∀ value, weight key (change value) ≤ weight key value) :
    (table.alter key change).total weight ≤ table.total weight := by
  cases found : table.lookup key with
  | some value =>
      rw [total_alter_some weight found, total_erase weight found]
      exact add_le_add_left (less value) _
  | none =>
      unfold alter
      rw [found]

end Order

/-- Entries of no weight can go. -/
theorem total_eraseAll_zero {table : Table κ ν} {keys : List κ}
    (weightless : ∀ key ∈ keys, ∀ value, table.lookup key = some value → weight key value = 0) :
    (table.eraseAll keys).total weight = table.total weight := by
  induction keys generalizing table with
  | nil => rfl
  | cons key rest inductionHypothesis =>
      rw [List.forall_mem_cons] at weightless
      have others : ∀ other ∈ rest, ∀ value, (table.erase key).lookup other = some value →
          weight other value = 0 := by
        intro other member value found
        rw [lookup_erase_if] at found
        split at found
        · cases found
        · exact weightless.2 other member value found
      refine (inductionHypothesis others).trans ?_
      cases found : table.lookup key with
      | some value => rw [total_erase weight found, weightless.1 value found, zero_add]
      | none =>
          rw [show table.erase key = table from ?_]
          refine AList.ext ?_
          exact List.kerase_of_notMem_keys (lookup_eq_none.mp found)

theorem mem_total {table : Table κ ν} {item : β} :
    item ∈ table.total weight ↔ ∃ key value, table.lookup key = some value ∧
      item ∈ weight key value := by
  unfold total
  simp only [lookup_eq_some_iff]
  induction table.entries with
  | nil => simp
  | cons entry rest inductionHypothesis =>
      rw [List.map_cons, List.sum_cons, Multiset.mem_add, inductionHypothesis]
      constructor
      · rintro (here | ⟨key, value, member, inside⟩)
        · exact ⟨entry.1, entry.2, by simp, here⟩
        · exact ⟨key, value, by simp [member], inside⟩
      · rintro ⟨key, value, member, inside⟩
        rcases List.mem_cons.mp member with rfl | member
        · exact Or.inl inside
        · exact Or.inr ⟨key, value, member, inside⟩

theorem total_eq_zero {table : Table κ ν} :
    table.total weight = 0 ↔ ∀ key value, table.lookup key = some value →
      weight key value = 0 := by
  simp only [Multiset.eq_zero_iff_forall_notMem, mem_total, not_exists, not_and]
  exact ⟨fun none key value found item => none item key value found,
    fun none item key value found => none key value found item⟩

end Totals

end AList

/-! ### Visiting order -/

namespace Foundation

/-- The arrangement of a list numbered `code`. -/
def permute {α : Type} : Nat → List α → List α
  | _, [] => []
  | code, head :: tail =>
      (permute (code / (tail.length + 1)) tail).insertIdx (code % (tail.length + 1)) head

theorem permute_length {α : Type} : ∀ (code : Nat) (items : List α),
    (permute code items).length = items.length
  | _, [] => rfl
  | code, head :: tail => by
      have below : code % (tail.length + 1) ≤ tail.length :=
        Nat.le_of_lt_succ (Nat.mod_lt _ (Nat.succ_pos _))
      rw [permute, List.length_insertIdx_of_le_length, permute_length, List.length_cons]
      rw [permute_length]
      exact below

theorem permute_perm {α : Type} : ∀ (code : Nat) (items : List α),
    (permute code items).Perm items
  | _, [] => List.Perm.nil
  | code, head :: tail => by
      have below : code % (tail.length + 1) ≤ tail.length :=
        Nat.le_of_lt_succ (Nat.mod_lt _ (Nat.succ_pos _))
      rw [permute]
      refine (List.perm_insertIdx head _ ?_).trans ((permute_perm _ tail).cons head)
      rw [permute_length]
      exact below

@[simp] theorem mem_permute {α : Type} {code : Nat} {items : List α} {item : α} :
    item ∈ permute code items ↔ item ∈ items :=
  (permute_perm code items).mem_iff

private theorem insertIdx_length_append {α : Type} (item : α) :
    ∀ left right : List α, (left ++ right).insertIdx left.length item = left ++ item :: right
  | [], _ => rfl
  | head :: left, right => by
      rw [List.cons_append, List.length_cons, List.insertIdx_succ_cons,
        insertIdx_length_append item left right, List.cons_append]

/-- Every order is some arrangement, so a number may stand for an unknown order. -/
theorem exists_permute {α : Type} : ∀ {items order : List α}, order.Perm items →
    ∃ code, permute code items = order
  | [], order, same => ⟨0, by rw [List.perm_nil.mp same]; rfl⟩
  | head :: tail, order, same => by
      have member : head ∈ order := same.mem_iff.mpr List.mem_cons_self
      obtain ⟨left, right, rfl⟩ := List.append_of_mem member
      obtain ⟨rest, restEq⟩ := exists_permute
        (List.Perm.cons_inv (List.perm_middle.symm.trans same))
      have length : left.length + right.length = tail.length := by
        have := same.length_eq
        simp only [List.length_append, List.length_cons] at this
        omega
      refine ⟨left.length + (tail.length + 1) * rest, ?_⟩
      have below : left.length < tail.length + 1 := by omega
      rw [permute, Nat.add_mul_mod_self_left, Nat.mod_eq_of_lt below,
        Nat.add_mul_div_left _ _ (Nat.succ_pos _), Nat.div_eq_of_lt below, Nat.zero_add, restEq]
      exact insertIdx_length_append head left right

end Foundation
