import Rosbridge.Properties.Lifecycle
import Rosbridge.Protocol.Provenance

/-!
The authority of clients.

Owns: that in every run an entity is created only under a name and type that the allowlists
grant, and that what is published, requested and answered goes through such entities.
-/

set_option autoImplicit false

namespace Rosbridge

open Foundation

variable {env : Environment} {access : Access} {timeout : Duration} {m : Machine}

/-- Every state of a run is vetted. -/
theorem Onward.vetted {admits : Operation → Machine → Prop}
    (reached : ReachableBy env admits access timeout m) : Vetted access m := by
  apply reached.always (Vetted access) ?_ (shaped_new access timeout) (vetted_new access timeout)
  intro op before after _ shaped performed vetted
  have carried : Shaped after ∧ Vetted access after := by
    apply performed.follows.invariant (fun machine => Shaped machine ∧ Vetted access machine) ?_
      ⟨shaped, vetted⟩
    intro move earlier later _ taken held
    exact ⟨taken.shaped held.1, taken.vetted held.1 held.2⟩
  exact carried.2

/-- Whatever clients, nodes and the backend do, and however far a command gets before it
fails: each creation that is tried is one the allowlists grant, and each publish, request and
response goes through an entity created before it. No request asks rosapi for a parameter
that is not on the list. -/
theorem authority (reached : Reachable env access timeout m) {earlier later : History}
    {entry : Entry} (split : m.log = earlier ++ entry :: later) :
    entry.Granted access ∧ entry.Through access earlier := by
  have history := (Onward.vetted reached).threads.at split
  rwa [List.nil_append] at history

/-- A connection advertises the one topic on the list and publishes on it. -/
theorem authority_chatter :
    let access : Access := { pubTopics := some [⟨"/chatter", fun name => name == "/chatter"⟩] }
    let command (fields : Object) := Operation.command 0 fields
    let m := (((Machine.new access 5).next .steady (.connect 0)).next .steady
      (command [("op", .str "advertise"), ("topic", .str "/chatter"),
        ("type", .str "std_msgs/msg/String")])).next .steady
      (command [("op", .str "publish"), ("topic", .str "/chatter"), ("msg", .obj [])])
    ∃ earlier entry later, m.log = earlier ++ entry :: later ∧ entry.used? = some 2 ∧
      entry.Granted access ∧ entry.Through access earlier := by
  intro access command m
  have reached : Reachable .steady access 5 m :=
    .step _ (.step _ (.step _ .here (by decide +kernel) trivial) (by decide +kernel) trivial)
      (by decide +kernel) trivial
  have used : m.log[3]?.bind Entry.used? = some 2 := by decide +kernel
  obtain ⟨entry, found, uses⟩ := Option.bind_eq_some_iff.mp used
  obtain ⟨inside, same⟩ := List.getElem?_eq_some_iff.mp found
  have split : m.log = m.log.take 3 ++ entry :: m.log.drop 4 := by
    rw [← same, ← List.drop_eq_getElem_cons inside, List.take_append_drop]
  exact ⟨_, entry, _, split, uses, authority reached split⟩

end Rosbridge
