import Rosbridge.Wire.Frames

/-!
What one call of the fragment decoder does.

Owns: the assembly after a part was stored; `Adds`, the fragments that reach an
assembly; the specification of `decode`; and the soundness of assemblies.
-/

set_option autoImplicit false

namespace Rosbridge

open Foundation

variable {codec : Codec} {limit : Nat}

/-! ### Storing a part -/

/-- The total size of the parts present. -/
def partsBytes (parts : List (Option String)) : Nat :=
  (parts.map fun part => part.elim 0 byteLen).sum

/-- The assembly after `store`. -/
def Assembly.stored (a : Assembly) (num : Nat) (data : String) : Assembly :=
  if a.parts[num]? = some none then
    { a with parts := a.parts.set num (some data), bytes := a.bytes + byteLen data }
  else a

theorem store_spec {a : Assembly} {num : Nat} (data : String) (within : num < a.parts.length)
    (decoder : Decoder) : a.store num data decoder = (.ok (a.stored num data), decoder) := by
  have found : a.parts[num]? = some a.parts[num] := List.getElem?_eq_getElem within
  unfold Assembly.store Assembly.stored
  rw [found]
  cases part : a.parts[num] with
  | none => simp; rfl
  | some text => simp; rfl

theorem partsBytes_set {parts : List (Option String)} {num : Nat} (data : String)
    (missing : parts[num]? = some none) :
    partsBytes (parts.set num (some data)) = partsBytes parts + byteLen data := by
  induction parts generalizing num with
  | nil => simp at missing
  | cons part rest inductionHypothesis =>
      cases num with
      | zero =>
          obtain rfl : part = none := by simpa using missing
          simp [partsBytes, Nat.add_comm]
      | succ num =>
          have missing : rest[num]? = some none := by simpa using missing
          have later := inductionHypothesis missing
          simp only [partsBytes, List.set_cons_succ, List.map_cons, List.sum_cons] at later ⊢
          omega

/-! ### One call -/

/-- The frame is a fragment that reaches its assembly: its size, its syntax and its
fields are right, there is an assembly or room for one, and the total is the same. -/
structure Adds (codec : Codec) (limit : Nat) (decoder : Decoder) (now : Instant)
    (frame : Frame) (fragment : Fragment) : Prop where
  read : ∃ value, readFrame codec limit frame = .ok (some value) ∧ value.isObject = true ∧
    value.isFragment = true ∧ Fragment.parse value = .ok fragment
  room : decoder.fragments.keys.length < 16 ∨ (decoder.fragments.lookup fragment.id).isSome
  total : (decoder.entry now fragment).parts.length = fragment.total

theorem Adds.unique {decoder : Decoder} {now : Instant} {frame : Frame}
    {fragment other : Fragment} (adds : Adds codec limit decoder now frame fragment)
    (also : Adds codec limit decoder now frame other) : fragment = other := by
  obtain ⟨value, read, -, -, parsed⟩ := adds.read
  obtain ⟨value', read', -, -, parsed'⟩ := also.read
  cases Option.some.inj (Except.ok.inj (read.symm.trans read'))
  exact Except.ok.inj (parsed.symm.trans parsed')

/-- The assembly of a fragment with its part stored. -/
def Decoder.filled (decoder : Decoder) (now : Instant) (fragment : Fragment) : Assembly :=
  (decoder.entry now fragment).stored fragment.num fragment.data

/-- The decoder without the assembly `id`. -/
def Decoder.without (decoder : Decoder) (id : String) : Decoder :=
  { decoder with fragments := decoder.fragments.erase id }

/-- The decoder with the assembly `a` under `id`. -/
def Decoder.with (decoder : Decoder) (id : String) (a : Assembly) : Decoder :=
  if (decoder.fragments.lookup id).isSome then
    { decoder with fragments := decoder.fragments.alter id fun _ => a }
  else { decoder with fragments := decoder.fragments.insert id a }

/-- What `decode` does after the sweep. -/
inductive Decodes (codec : Codec) (limit : Nat) (swept : Decoder) (now : Instant) (frame : Frame) :
    Outcome Error (Option Json) → Decoder → Prop where
  | passed {value : Option Json} (read : readFrame codec limit frame = .ok value)
      (plain : ∀ inner, value = some inner → inner.isObject = true ∧ inner.isFragment = false)
      (foreign : ∀ fragment, ¬ Adds codec limit swept now frame fragment) :
      Decodes codec limit swept now frame (.ok value) swept
  | refused {cause : Error} (foreign : ∀ fragment, ¬ Adds codec limit swept now frame fragment) :
      Decodes codec limit swept now frame (.error cause) swept
  | overflowed {fragment : Fragment} (adds : Adds codec limit swept now frame fragment)
      (large : limit < (swept.filled now fragment).bytes) :
      Decodes codec limit swept now frame (.error ⟨"assembled message too large"⟩)
        (swept.without fragment.id)
  | completed {fragment : Fragment} {outcome : Outcome Error (Option Json)}
      (adds : Adds codec limit swept now frame fragment)
      (fits : (swept.filled now fragment).bytes ≤ limit)
      (complete : (swept.filled now fragment).complete = true)
      (ended : outcome = match assembled codec (swept.filled now fragment).text with
        | .ok value => .ok value
        | .error cause => .error cause) :
      Decodes codec limit swept now frame outcome (swept.without fragment.id)
  | stored {fragment : Fragment} (adds : Adds codec limit swept now frame fragment)
      (fits : (swept.filled now fragment).bytes ≤ limit)
      (incomplete : (swept.filled now fragment).complete = false) :
      Decodes codec limit swept now frame (.ok none)
        (swept.with fragment.id (swept.filled now fragment))

section Programs

variable {decoder : Decoder} {post : Outcome Error Unit → Decoder → Prop}

theorem wp_insertNew (id : String) (a : Assembly) :
    Program.wp (Decoder.insertNew id a) post decoder ↔ post (.ok ())
      (if (decoder.fragments.lookup id).isSome then decoder
      else { decoder with fragments := decoder.fragments.insert id a }) := Iff.rfl

theorem wp_put (id : String) (a : Assembly) :
    Program.wp (Decoder.put id a) post decoder ↔ post (.ok ())
      { decoder with fragments := decoder.fragments.alter id fun _ => a } := Iff.rfl

theorem wp_remove (id : String) :
    Program.wp (Decoder.remove id) post decoder ↔ post (.ok ()) (decoder.without id) := Iff.rfl

end Programs

/-- Inserting if new, then writing back. -/
theorem Decoder.insertNew_put (decoder : Decoder) (id : String) (a b : Assembly) :
    (fun middle : Decoder => { middle with fragments := middle.fragments.alter id fun _ => b })
      (if (decoder.fragments.lookup id).isSome then decoder
      else { decoder with fragments := decoder.fragments.insert id a }) = decoder.with id b := by
  unfold Decoder.with
  split
  · rfl
  · exact congrArg (Decoder.mk · decoder.timeout)
      (AList.alter_insert id a (fun _ => b) decoder.fragments)

theorem Decoder.with_without (decoder : Decoder) (id : String) (a : Assembly) :
    (decoder.with id a).without id = decoder.without id := by
  unfold Decoder.with
  split
  · exact congrArg (Decoder.mk · decoder.timeout) (AList.erase_alter id _ decoder.fragments)
  · exact congrArg (Decoder.mk · decoder.timeout) (AList.erase_insert id a decoder.fragments)

/-- A fragment is parsed with a number below its total. -/
theorem Fragment.parse_within {value : Json} {fragment : Fragment}
    (parsed : Fragment.parse value = .ok fragment) :
    fragment.num < fragment.total ∧ fragment.total ≤ 65536 := by
  unfold Fragment.parse at parsed
  cases id : fragmentField value "id" Json.asStr with
  | error => simp [id, bind, Except.bind] at parsed
  | ok id' =>
  cases total : fragmentField value "total" Json.asU64 with
  | error => simp [id, total, bind, Except.bind] at parsed
  | ok total' =>
  cases num : fragmentField value "num" Json.asU64 with
  | error => simp [id, total, num, bind, Except.bind] at parsed
  | ok num' =>
  cases data : fragmentField value "data" Json.asStr with
  | error => simp [id, total, num, data, bind, Except.bind] at parsed
  | ok data' =>
      simp only [id, total, num, data, bind, Except.bind] at parsed
      split at parsed
      · next within =>
          cases parsed
          exact ⟨within.2.2, within.2.1⟩
      · cases parsed

theorem Decoder.entry_new {decoder : Decoder} {fragment : Fragment} (now : Instant)
    (absent : decoder.fragments.lookup fragment.id = none) :
    (decoder.entry now fragment).parts = List.replicate fragment.total none := by
  rw [Decoder.entry, absent]
  rfl

theorem assemble_spec {swept : Decoder} {now : Instant} {frame : Frame} {value : Json}
    {fragment : Fragment} (read : readFrame codec limit frame = .ok (some value))
    (object : value.isObject = true) (isFragment : value.isFragment = true)
    (parsed : Fragment.parse value = .ok fragment) :
    Program.wp (Decoder.assemble codec limit now fragment) (fun outcome after =>
      Decodes codec limit swept now frame outcome after) swept := by
  have reads := (⟨value, read, object, isFragment, parsed⟩ : ∃ value,
    readFrame codec limit frame = .ok (some value) ∧ value.isObject = true ∧
      value.isFragment = true ∧ Fragment.parse value = .ok fragment)
  have foreign : (∀ other, Adds codec limit swept now frame other →
      Adds codec limit swept now frame fragment) := by
    intro other adds
    obtain ⟨_, same, -, -, also⟩ := adds.read
    cases Option.some.inj (Except.ok.inj (read.symm.trans same))
    cases Except.ok.inj (parsed.symm.trans also)
    exact adds
  unfold Decoder.assemble
  rw [Program.wp_bind, Program.wp_get, Program.andThen_ok]
  refine Program.wp_bind_ensure (fun full => ?_) fun room => ?_
  · refine .refused fun other adds => ?_
    have room := (foreign other adds).room
    rw [Bool.or_eq_false_iff, decide_eq_false_iff_not] at full
    rcases room with few | known
    · exact full.1 few
    · exact Bool.false_ne_true (full.2.symm.trans known)
  · have room : swept.fragments.keys.length < 16 ∨ (swept.fragments.lookup fragment.id).isSome := by
      simpa using room
    rw [Program.wp_bind, wp_insertNew, Program.andThen_ok]
    refine Program.wp_bind_ensure (fun changed => ?_) fun same => ?_
    · have changed : (swept.entry now fragment).parts.length ≠ fragment.total := by
        simpa using changed
      cases known : swept.fragments.lookup fragment.id with
      | none => exact absurd (by rw [swept.entry_new now known, List.length_replicate]) changed
      | some a =>
          rw [Option.isSome_some, if_pos rfl]
          exact .refused fun other adds => changed (foreign other adds).total
    · have total : (swept.entry now fragment).parts.length = fragment.total := by
        simpa using same
      have adds : Adds codec limit swept now frame fragment := ⟨reads, room, total⟩
      have within : fragment.num < (swept.entry now fragment).parts.length :=
        total ▸ (Fragment.parse_within parsed).1
      rw [Program.wp_bind, Program.wp_iff, store_spec _ within, Program.andThen_ok,
        Program.wp_bind, wp_put, Program.andThen_ok]
      suffices Program.wp (if limit < (swept.filled now fragment).bytes then do
          Decoder.remove fragment.id
          Program.fail ⟨"assembled message too large"⟩
        else if (swept.filled now fragment).complete then do
          Decoder.remove fragment.id
          Program.ofExcept (assembled codec (swept.filled now fragment).text)
        else pure none) (fun outcome after => Decodes codec limit swept now frame outcome after)
          (swept.with fragment.id (swept.filled now fragment)) by
        rw [← swept.insertNew_put fragment.id (swept.entry now fragment)] at this
        exact this
      rw [Program.wp_ite]
      split
      · next large =>
          rw [Program.wp_bind, wp_remove, Program.andThen_ok, Program.wp_fail, swept.with_without]
          exact .overflowed adds large
      · next fits =>
          rw [Program.wp_ite]
          split
          · next complete =>
              rw [Program.wp_bind, wp_remove, Program.andThen_ok, swept.with_without]
              refine (Program.wp_ofExcept _).mpr ?_
              have fits := Nat.le_of_not_lt fits
              cases result : assembled codec (swept.filled now fragment).text with
              | ok value => exact .completed adds fits complete (by rw [result])
              | error cause => exact .completed adds fits complete (by rw [result])
          · next incomplete =>
              exact .stored adds (Nat.le_of_not_lt fits) (Bool.eq_false_iff.mpr incomplete)

theorem decode_spec (arrival : Arrival) (decoder : Decoder) :
    Program.wp (Decoder.decode codec limit arrival) (fun outcome after =>
      Decodes codec limit (decoder.sweep arrival.clock) arrival.clock.now arrival.frame
        outcome after) decoder := by
  unfold Decoder.decode
  rw [Program.wp_bind, Program.wp_modify, Program.andThen_ok]
  refine Program.wp_bind_lift (fun cause failed => ?_) fun value read => ?_
  · refine .refused fun fragment adds => ?_
    obtain ⟨_, read, -⟩ := adds.read
    rw [failed] at read
    cases read
  · cases value with
    | none =>
        refine .passed read nofun fun fragment adds => ?_
        obtain ⟨_, same, -⟩ := adds.read
        rw [read] at same
        cases same
    | some value =>
        refine Program.wp_bind_ensure (fun scalar => ?_) fun object => ?_
        · refine .refused fun fragment adds => ?_
          obtain ⟨_, same, isObject, -⟩ := adds.read
          cases Option.some.inj (Except.ok.inj (read.symm.trans same))
          exact Bool.false_ne_true (scalar.symm.trans isObject)
        · cases isFragment : value.isFragment with
          | false =>
              refine .passed read (by rintro _ ⟨⟩; exact ⟨object, isFragment⟩) fun fragment adds => ?_
              obtain ⟨_, same, -, fragmented, -⟩ := adds.read
              cases Option.some.inj (Except.ok.inj (read.symm.trans same))
              exact Bool.false_ne_true (isFragment.symm.trans fragmented)
          | true =>
              rw [if_pos rfl]
              refine Program.wp_bind_lift (fun cause failed => ?_) fun fragment parsed => ?_
              · refine .refused fun fragment adds => ?_
                obtain ⟨_, same, -, -, parsed⟩ := adds.read
                cases Option.some.inj (Except.ok.inj (read.symm.trans same))
                rw [failed] at parsed
                cases parsed
              · exact assemble_spec read object isFragment parsed

/-! ### Soundness of the assemblies -/

/-- An assembly under way: its size is in range, some part is there and some is missing,
and the counter is the size of the parts present, within the limit. -/
structure Assembly.Sound (limit : Nat) (a : Assembly) : Prop where
  size : 0 < a.parts.length ∧ a.parts.length ≤ 65536
  present : ∃ data, some data ∈ a.parts
  missing : none ∈ a.parts
  summed : a.bytes = partsBytes a.parts
  bounded : a.bytes ≤ limit

/-- At most 16 assemblies, all sound. -/
structure Decoder.Bounded (limit : Nat) (decoder : Decoder) : Prop where
  few : decoder.fragments.keys.length ≤ 16
  sound : ∀ id a, decoder.fragments.lookup id = some a → a.Sound limit

section Lookups

variable (decoder : Decoder) (id other : String)

theorem Decoder.lookup_sweep (clock : Clock) :
    (decoder.sweep clock).fragments.lookup id =
      (decoder.fragments.lookup id).filter (decoder.unexpired clock id) :=
  AList.lookup_retain _ _ _

theorem Decoder.lookup_without :
    (decoder.without id).fragments.lookup other =
      if other = id then none else decoder.fragments.lookup other :=
  AList.lookup_erase_if _ _ _

theorem Decoder.lookup_with (a : Assembly) :
    (decoder.with id a).fragments.lookup other =
      if other = id then some a else decoder.fragments.lookup other := by
  unfold Decoder.with
  split
  · next known =>
      obtain ⟨old, known⟩ := Option.isSome_iff_exists.mp known
      rw [AList.lookup_alter, known]
      rfl
  · exact AList.lookup_insert_if _ _ _ _

end Lookups

theorem Decoder.Bounded.sweep {decoder : Decoder} (bounded : decoder.Bounded limit)
    (clock : Clock) : (decoder.sweep clock).Bounded limit where
  few := (AList.length_keys_retain _ _).trans bounded.few
  sound id a found := by
    rw [decoder.lookup_sweep] at found
    exact bounded.sound id a (Option.filter_eq_some_iff.mp found).1

theorem Decoder.Bounded.without {decoder : Decoder} (bounded : decoder.Bounded limit)
    (id : String) : (decoder.without id).Bounded limit where
  few := (AList.length_keys_erase _ _).trans bounded.few
  sound other a found := by
    rw [decoder.lookup_without] at found
    split at found
    · cases found
    · exact bounded.sound other a found

theorem Decoder.length_with {decoder : Decoder} {id : String} {a : Assembly}
    (few : decoder.fragments.keys.length ≤ 16)
    (room : decoder.fragments.keys.length < 16 ∨ (decoder.fragments.lookup id).isSome) :
    (decoder.with id a).fragments.keys.length ≤ 16 := by
  unfold Decoder.with
  split
  · rwa [AList.keys_alter]
  · next absent =>
      have unknown : id ∉ decoder.fragments := by rwa [← AList.lookup_isSome]
      rw [AList.length_keys_insert a unknown]
      exact room.resolve_right absent

/-- Storing a part keeps the counter and the size. -/
theorem Assembly.stored_summed {a : Assembly} (summed : a.bytes = partsBytes a.parts) (num : Nat)
    (data : String) : (a.stored num data).bytes = partsBytes (a.stored num data).parts ∧
      (a.stored num data).parts.length = a.parts.length := by
  unfold Assembly.stored
  split
  · next missing =>
      exact ⟨by rw [partsBytes_set data missing, summed], List.length_set⟩
  · exact ⟨summed, rfl⟩

theorem Assembly.stored_created (a : Assembly) (num : Nat) (data : String) :
    (a.stored num data).created = a.created := by
  unfold Assembly.stored
  split <;> rfl

theorem Assembly.stored_present {a : Assembly} {num : Nat} (within : num < a.parts.length)
    (data : String) : ∃ text, some text ∈ (a.stored num data).parts := by
  unfold Assembly.stored
  split
  · exact ⟨data, List.mem_set within _⟩
  · next present =>
      cases part : a.parts[num] with
      | none => exact absurd (part ▸ List.getElem?_eq_getElem within) present
      | some text => exact ⟨text, part ▸ List.getElem_mem within⟩

theorem Decodes.bounded {swept after : Decoder} {now : Instant} {frame : Frame}
    {outcome : Outcome Error (Option Json)}
    (decodes : Decodes codec limit swept now frame outcome after)
    (bounded : swept.Bounded limit) : after.Bounded limit := by
  cases decodes with
  | passed | refused => exact bounded
  | overflowed adds | completed adds => exact bounded.without _
  | @stored fragment adds fits incomplete =>
      obtain ⟨value, -, -, -, parsed⟩ := adds.read
      have within := Fragment.parse_within parsed
      have summed : (swept.entry now fragment).bytes =
          partsBytes (swept.entry now fragment).parts := by
        unfold Decoder.entry
        cases known : swept.fragments.lookup fragment.id with
        | none => simp [partsBytes]
        | some a => exact (bounded.sound fragment.id a known).summed
      refine ⟨swept.length_with bounded.few adds.room, fun id a found => ?_⟩
      rw [swept.lookup_with] at found
      split at found
      · cases found
        obtain ⟨sum, length⟩ := Assembly.stored_summed summed fragment.num fragment.data
        rw [adds.total] at length
        refine ⟨?_, Assembly.stored_present (adds.total ▸ within.1) _, ?_, sum, fits⟩
        · have size : (swept.filled now fragment).parts.length = fragment.total := length
          omega
        · have missing := List.all_eq_false.mp incomplete
          obtain ⟨part, member, absent⟩ := missing
          cases part with
          | none => exact member
          | some text => exact absurd rfl absent
      · exact bounded.sound id a found

end Rosbridge
