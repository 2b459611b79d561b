import Rosbridge.Bridge.Preview

/-!
Previews are longest prefixes.

Owns: that a preview is the longest prefix of the text within the limit, whichever pieces the
text is written in, that the error and the flag tell whether something is missing, and that
nothing panics.
-/

set_option autoImplicit false

namespace Rosbridge

open Foundation Program

/-- The preview of a text. -/
structure PayloadPreview.Shows (preview : PayloadPreview) (whole : String) : Prop where
  text : Utf8.Longest 4096 whole preview.text
  truncated : preview.truncated = true ↔ 4096 < whole.utf8ByteSize

/-- A preview shows one thing of a text. -/
theorem PayloadPreview.Shows.unique {whole : String} {first second : PayloadPreview}
    (shown : first.Shows whole) (also : second.Shows whole) : first = second := by
  obtain ⟨text, truncated⟩ := first
  obtain ⟨other, marked⟩ := second
  have texts : text = other := shown.text.unique also.text
  have marks : truncated = marked := by
    rw [Bool.eq_iff_iff]
    exact shown.truncated.trans also.truncated.symm
  rw [texts, marks]

/-- One piece after a text that fits. -/
theorem wp_writeStr {done : String} (fits : done.utf8ByteSize ≤ 4096) (value : String)
    {post : Outcome FormatError Unit → PayloadPreview → Prop}
    (whole : (done ++ value).utf8ByteSize ≤ 4096 → post (.ok ()) ⟨done ++ value, false⟩)
    (cut : ∀ text, 4096 < (done ++ value).utf8ByteSize →
      Utf8.Longest 4096 (done ++ value) text → post (.error ⟨⟩) ⟨text, true⟩) :
    wp (writeStr value) post ⟨done, false⟩ := by
  obtain ⟨first, found, sliced, longest⟩ := Utf8.longest_slice value (4096 - done.utf8ByteSize)
  have total : (done ++ value).utf8ByteSize = done.utf8ByteSize + value.utf8ByteSize :=
    String.utf8ByteSize_append
  unfold writeStr
  rw [wp_bind, wp_get, andThen_ok, if_pos fits]
  refine wp_bind_unwrap (fun none => by cases none) fun room same => ?_
  cases same
  rw [found]
  refine wp_bind_unwrap (fun none => by cases none) fun stop same => ?_
  cases same
  rw [sliced]
  refine wp_bind_unwrap (fun none => by cases none) fun taken same => ?_
  cases same
  rw [wp_bind, wp_modify, andThen_ok, wp_ite]
  by_cases missing : first.utf8ByteSize < value.utf8ByteSize
  · rw [if_pos missing, wp_bind, wp_modify, andThen_ok, wp_fail]
    have long : 4096 < (done ++ value).utf8ByteSize := by
      by_contra short
      -- A piece that fits would have been taken whole.
      rw [longest.eq_of_fits (by omega)] at missing
      omega
    exact cut _ long (longest.prepend done (by omega))
  · rw [if_neg missing, wp_pure]
    have same : first = value := longest.eq_of_size (by omega)
    subst same
    have bounded := longest.fits
    exact whole (by omega)

/-- Pieces after a text that fits. -/
theorem writeAll_shows (pieces : List String) :
    wp (writeAll pieces) (fun outcome preview =>
      (outcome = if 4096 < (String.join pieces).utf8ByteSize then .error ⟨⟩ else .ok ()) ∧
        preview.Shows (String.join pieces)) {} := by
  unfold writeAll
  -- The pieces so far fit and have been taken whole.
  refine wp_forEach (fun rest preview => ∃ done, preview = ⟨done, false⟩ ∧
    done.utf8ByteSize ≤ 4096 ∧ String.join pieces = done ++ String.join rest) pieces
    ⟨"", rfl, by decide, by rw [String.empty_append]⟩ ?_ ?_
  · rintro value rest preview ⟨done, rfl, fits, parts⟩
    rw [String.join_cons, ← String.append_assoc] at parts
    refine wp_writeStr fits value (fun short => ⟨_, rfl, short, parts⟩) fun text long longest => ?_
    have longer : 4096 < (String.join pieces).utf8ByteSize := by
      rw [parts, String.utf8ByteSize_append]
      omega
    refine ⟨by rw [if_pos longer], ?_, iff_of_true rfl longer⟩
    rw [parts]
    exact longest.append long _
  · rintro preview ⟨done, rfl, fits, parts⟩
    rw [String.join_nil, String.append_empty] at parts
    have short : ¬ 4096 < (String.join pieces).utf8ByteSize := by
      rw [parts]
      omega
    refine ⟨by rw [if_neg short], ?_, iff_of_false Bool.false_ne_true short⟩
    rw [parts]
    exact .whole_of_fits fits

/-- However a text is cut into pieces, writing them does not panic, the preview is the longest
prefix of the text with at most 4096 bytes, an error and the flag say whether the text is
longer, and other pieces of the same text end in the same way. -/
theorem payload_preview (pieces : List String) :
    ¬ (writeAll pieces {}).1.IsPanic ∧
      Utf8.Longest 4096 (String.join pieces) (writeAll pieces {}).2.text ∧
      ((writeAll pieces {}).2.truncated = true ↔ 4096 < (String.join pieces).utf8ByteSize) ∧
      ((writeAll pieces {}).1 = .error ⟨⟩ ↔ 4096 < (String.join pieces).utf8ByteSize) ∧
      ∀ others, String.join others = String.join pieces → writeAll others {} = writeAll pieces {} := by
  obtain ⟨ended, shown⟩ := writeAll_shows pieces
  refine ⟨?_, shown.text, shown.truncated, ?_, fun others same => ?_⟩
  · rw [ended]
    split <;> exact id
  · rw [ended]
    split
    · next long => exact iff_of_true rfl long
    · next short => exact iff_of_false (fun error => by cases error) short
  · obtain ⟨endedAlso, shownAlso⟩ := writeAll_shows others
    rw [same] at endedAlso shownAlso
    exact Prod.ext (endedAlso.trans ended.symm) (shownAlso.unique shown)

/-- The record of a payload holds the preview of its text. -/
theorem logPayload_record (connection : Connection) (service : String)
    (requestId : Option String) (direction kind : String) (pieces : List String) :
    wp (logPayload true connection service requestId direction kind pieces)
      (fun outcome _ => ∃ record, outcome = .ok (some record) ∧
        PayloadPreview.Shows ⟨record.payload, record.truncated⟩ (String.join pieces)) {} := by
  unfold logPayload
  rw [if_pos rfl, wp_bind, wp_attempt]
  refine wp_mono (writeAll_shows pieces) ?_
  rintro (value | cause | site) preview ⟨ended, shown⟩
  · exact ⟨_, rfl, shown⟩
  · exact ⟨_, rfl, shown⟩
  · split at ended <;> cases ended

end Rosbridge
