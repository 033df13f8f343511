import XochiSdk.Wire.FormatDeep
import XochiSdk.Wire.FormatWrite

/-!
# The formatter is a normal form

What it accepts, what it writes, and which texts it does not tell apart.
-/

namespace XochiSdk.Wire

open XochiSdk.Js XochiSdk.Library JsonText Signer

/-- What comes of a document: the written text, or a refusal for its depth. -/
theorem formatDocument_document {text : List Char} {x : JsonData} (said : Document text x) :
    formatDocument text =
      if height x ≤ maxDepth then .ok (formatted x) else .error .incomparable := by
  unfold formatDocument
  rw [scan_document said]
  split_ifs <;> rfl

theorem formatted_normal (x : JsonData) : formatted (normal x) = formatted x := by
  rw [formatted, formatted, normal_normal]

/-- The formatter accepts the JSON texts within its depth and raises one of its two errors on every
other; what it writes says the same value, with every number as it was spelled; formatting again
changes nothing; and the spelling of strings, the white space and the order of members do not
matter. -/
theorem format_normal_form :
    (∀ text, (∃ out, formatDocument text = .ok out) ↔
      ∃ x, Document text x ∧ height x ≤ maxDepth) ∧
    (∀ text e, formatDocument text = .error e →
      e = .incomparable ∨ ∃ what rest, e = .malformed what rest) ∧
    (∀ text out x, formatDocument text = .ok out → Document text x →
      ∃ y, Document out y ∧ SameValue x y) ∧
    (∀ text out, formatDocument text = .ok out → formatDocument out = .ok out) ∧
    ∀ text text' x y, Document text x → Document text' y → Reordered x y →
      formatDocument text = formatDocument text' := by
  refine ⟨fun text => ?_, fun text e _ => ?_, fun text out x h said => ?_, fun text out h => ?_,
    fun text text' x y said said' same => ?_⟩
  · constructor
    · rintro ⟨out, h⟩
      obtain ⟨x, said, bounded, -⟩ := formatDocument_ok.mp h
      exact ⟨x, said, bounded⟩
    · rintro ⟨x, said, bounded⟩
      exact ⟨formatted x, formatDocument_ok.mpr ⟨x, said, bounded, rfl⟩⟩
  · cases e with
    | incomparable => exact Or.inl rfl
    | malformed what rest => exact Or.inr ⟨what, rest, rfl⟩
  · rw [formatDocument_document said] at h
    split_ifs at h with bounded
    obtain rfl := Except.ok.inj h
    exact ⟨normal x, formatted_document said, sameValue_normal x⟩
  · obtain ⟨x, said, bounded, rfl⟩ := formatDocument_ok.mp h
    rw [formatDocument_document (formatted_document said),
      if_pos ((height_normal x).trans bounded), formatted_normal]
  · rw [formatDocument_document said, formatDocument_document said', same.height, formatted,
      formatted, normal_congr same.same]

end XochiSdk.Wire
