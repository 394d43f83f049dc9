import ModuleReach.Proofs.Text.WellFormed
import ModuleReach.Source.Decoding

/-!
# The text of a source, and where it has none

A source has a text if its bytes, after a byte-order mark at the front, are well formed; and then these bytes are the
encoding of the text.  Otherwise the fault names the source and the offset at which the bytes behind the mark stop to be
well formed.  That is the offset in the source itself if it has no mark, and falls short of it by the three bytes of the
mark if it has one.

## Main results

* `Source.decode_reports` — the text of a source, and the offset that the fault reports.
* `Source.decode_marked` — in a source with a mark another byte is reported than the one that is wrong.
-/

namespace ModuleReach.Source

open Utf8 (IllFormedAt mark)

/-- A source is decoded as the bytes behind its mark are. -/
theorem decode_eq_ok_iff {path text : String} {content : Bytes} :
    decode path content = .ok text ↔ Utf8.encode text.toList = Utf8.dropMark content := by
  rw [← Utf8.decode_eq_ok_iff, decode]
  cases Utf8.decode (Utf8.dropMark content) with
  | error m => simp
  | ok s =>
    constructor
    · intro h
      rw [← Except.ok.inj h, String.toList_ofList]
    · intro h
      obtain rfl := Except.ok.inj h
      exact congrArg Except.ok String.ofList_toList

/-- **When a source has a text, and what is reported if not.**  A source has a text exactly if the bytes behind one mark at
its front, or all of its bytes if it has no mark there, are the encoding of the text.  If they are the encoding of no text,
the fault names the source, and the offset at which they stop to be well formed.  That is the offset at which the bytes of
the source do so exactly if it has no mark. -/
theorem decode_reports (path : String) (content : Bytes) :
    ∃ body, (content = mark ++ body ∨ ¬ mark <+: content ∧ content = body) ∧
      (∀ text, decode path content = .ok text ↔ Utf8.encode text.toList = body) ∧
      ((∀ text : String, Utf8.encode text.toList ≠ body) → ∃ reason offset,
        decode path content = .error (.source path (malformedReason ⟨reason, offset⟩)) ∧
        IllFormedAt body offset ∧ (IllFormedAt content offset ↔ ¬ mark <+: content)) := by
  refine ⟨Utf8.dropMark content, ?_, fun text => decode_eq_ok_iff, fun hnone => ?_⟩
  · by_cases hmark : mark <+: content
    · obtain ⟨body, rfl⟩ := hmark
      exact .inl (by rw [Utf8.dropMark_mark_append])
    · exact .inr ⟨hmark, (Utf8.dropMark_of_not_prefix hmark).symm⟩
  · cases hdecode : Utf8.decode (Utf8.dropMark content) with
    | ok s => exact absurd (Utf8.decode_eq_ok_iff.1 hdecode) (by simpa using hnone (String.ofList s))
    | error m =>
      have hstop := Utf8.illFormedAt_of_decode hdecode
      refine ⟨m.reason, m.offset, by rw [decode, hdecode], hstop, ?_, ?_⟩
      · rintro hcontent ⟨body, rfl⟩
        -- Behind a mark, the bytes go wrong three bytes after the reported offset.
        have hlater := hstop.mark_append.unique hcontent
        omega
      · intro hmark
        rwa [Utf8.dropMark_of_not_prefix hmark] at hstop

/-- Behind a mark, a byte that begins no character stands at offset 3 and is reported at offset 0. -/
theorem decode_marked :
    decode "/a.js" [0xEF, 0xBB, 0xBF, 0xFF] =
        .error (.source "/a.js" "not valid UTF-8 (invalid start byte at byte 0)") ∧
      IllFormedAt [0xEF, 0xBB, 0xBF, 0xFF] 3 := by
  have hstop : IllFormedAt [0xFF] 0 := Utf8.illFormedAt_of_decode (m := ⟨.start, 0⟩) rfl
  exact ⟨by decide +kernel, hstop.mark_append⟩

end ModuleReach.Source
