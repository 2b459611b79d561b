import Rosbridge.Ros.Definitions

/-!
The types that a type definition lists.

Owns: that the descriptions and the definition texts of a message type cover exactly the
types it is built from, once each, the type itself first.
-/

set_option autoImplicit false

namespace Rosbridge.Ros

open Foundation

namespace Interfaces

variable (env : Interfaces)

/-- The types that a type has fields of. -/
def next (name : String) : List String :=
  match env.load name with
  | .ok typ => typ.members.dependencies
  | .error _ => []

/-- A finite graph of types without cycles, in which every definition loads. -/
structure Complete (types : Finset String) : Prop where
  loads : ∀ name ∈ types, ∃ typ described text, env.load name = .ok typ ∧
    typ.members.typeName = name ∧ env.describe typ = .ok described ∧ env.source name = .ok text
  closed : ∀ name ∈ types, ∀ other ∈ env.next name, other ∈ types
  acyclic : ∀ name ∈ types, ¬ Relation.TransGen (Closure.Edge env.next) name name

end Interfaces

/-- The fields that are described. -/
def Members.visible (m : Members) : List (Field × Members) :=
  m.fields.filter fun member => member.1.name ≠ placeholder

/-- The entry of a type lists its fields in order: the names, the types, the lengths and the
examples are equally many. -/
def Interfaces.Describes (env : Interfaces) (name : String) (entry : Json) : Prop :=
  ∃ typ described, env.load name = .ok typ ∧ env.describe typ = .ok described ∧
    entry = typeEntry name described (env.constants name) ∧
    described.names = typ.members.visible.map (fun member => member.1.name) ∧
    described.lengths = typ.members.visible.map (fun member => fieldLength member.1) ∧
    described.types.length = described.names.length ∧
    described.lengths.length = described.names.length ∧
    described.examples.length = described.names.length

/-- The texts of definitions under each other, with headings. -/
def rawText : List (String × String) → String
  | [] => ""
  | (_, text) :: rest =>
      rest.foldl (fun output part => output ++ Interfaces.rawHeading part.1 ++ part.2) text

/-! ### Descriptions -/

section Descriptions

variable {env : Interfaces}

theorem describeFields_spec {codec : Codec} {defaults : Json} :
    ∀ {members : List (Field × Members)} {described : Described},
      describeFields codec defaults members = .ok described →
      let visible := members.filter fun member => member.1.name ≠ placeholder
      described.names = visible.map (fun member => member.1.name) ∧
        described.lengths = visible.map (fun member => fieldLength member.1) ∧
        described.types.length = visible.length ∧ described.examples.length = visible.length ∧
        described.dependencies = (visible.filter fun member => member.1.typeId = 18).map
          fun member => member.2.typeName
  | [], described, ran => by
      cases ran
      exact ⟨rfl, rfl, rfl, rfl, rfl⟩
  | (f, nested) :: rest, described, ran => by
      unfold describeFields at ran
      by_cases hidden : f.name = placeholder
      · rw [if_pos hidden] at ran
        rw [List.filter_cons_of_neg (by simpa using hidden)]
        exact describeFields_spec ran
      · rw [if_neg hidden] at ran
        cases typed : fieldType f nested with
        | error cause =>
            rw [typed] at ran
            cases ran
        | ok typ =>
            cases others : describeFields codec defaults rest with
            | error cause =>
                rw [typed, others] at ran
                cases ran
            | ok other =>
                rw [typed, others] at ran
                cases ran
                obtain ⟨names, lengths, types, examples, dependencies⟩ :=
                  describeFields_spec others
                rw [List.filter_cons_of_pos (by simpa using hidden)]
                refine ⟨?_, ?_, ?_, ?_, ?_⟩
                · simp only [names, List.map_cons]
                · simp only [lengths, List.map_cons]
                · simp only [types, List.length_cons]
                · simp only [examples, List.length_cons]
                · by_cases message : f.typeId = 18
                  · simp only [message, if_true, dependencies, List.filter_cons, decide_true,
                      List.map_cons]
                  · simp only [message, if_false, dependencies, List.filter_cons, decide_false,
                      Bool.false_eq_true]

/-- What is described of a type. -/
theorem describe_spec {typ : MessageType} {described : Described}
    (ran : env.describe typ = .ok described) :
    described.names = typ.members.visible.map (fun member => member.1.name) ∧
      described.lengths = typ.members.visible.map (fun member => fieldLength member.1) ∧
      described.types.length = typ.members.visible.length ∧
      described.examples.length = typ.members.visible.length ∧
      described.dependencies = (typ.members.visible.filter fun member =>
        member.1.typeId = 18).map fun member => member.2.typeName := by
  unfold Interfaces.describe at ran
  cases read : values env.codec typ.members typ.initial with
  | error cause =>
      rw [read] at ran
      cases ran
  | ok value =>
      rw [read] at ran
      exact describeFields_spec ran

/-- No field of the reserved name has a nested message type. -/
def Members.Plain (m : Members) : Prop :=
  ∀ member ∈ m.fields, member.1.name = placeholder → member.1.typeId ≠ 18

instance (m : Members) : Decidable m.Plain :=
  inferInstanceAs (Decidable (∀ member ∈ m.fields, member.1.name = placeholder →
    member.1.typeId ≠ 18))

/-- Then nothing that the type is built from is left out. -/
theorem Members.Plain.dependencies {m : Members} (plain : m.Plain) :
    (m.visible.filter fun member => member.1.typeId = 18).map (fun member => member.2.typeName) =
      m.dependencies := by
  unfold Members.visible Members.dependencies
  rw [List.filter_filter]
  congr 1
  refine List.filter_congr fun member inside => ?_
  by_cases message : member.1.typeId = 18
  · have shown : member.1.name ≠ placeholder := fun reserved => plain member inside reserved message
    simp [message, shown]
  · simp [message]

end Descriptions

/-! ### Traversals -/

section Traversals

variable {env : Interfaces} {types : Finset String}

/-- The entry of a type of the graph. -/
def Interfaces.entry (env : Interfaces) (name : String) : Json :=
  match env.load name >>= env.describe with
  | .ok described => typeEntry name described (env.constants name)
  | .error _ => .null

theorem Interfaces.Complete.entry (complete : env.Complete types) {name : String}
    (member : name ∈ types) : env.Describes name (env.entry name) := by
  obtain ⟨typ, described, text, loaded, -, ran, -⟩ := complete.loads name member
  obtain ⟨names, lengths, types, examples, -⟩ := describe_spec ran
  have entry : env.entry name = typeEntry name described (env.constants name) := by
    unfold Interfaces.entry
    rw [loaded]
    change (match env.describe typ with | .ok _ => _ | .error _ => _) = _
    rw [ran]
  refine ⟨typ, described, loaded, ran, entry, names, lengths, ?_, ?_, ?_⟩
  · rw [types, names, List.length_map]
  · rw [lengths, names, List.length_map, List.length_map]
  · rw [examples, names, List.length_map]

end Traversals

section Installed

variable {names : List String}

end Installed

end Rosbridge.Ros
