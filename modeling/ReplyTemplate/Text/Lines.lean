import ReplyTemplate.Text.Cut

/-! The lines of a text. -/

namespace ReplyTemplate.Text

def lines (text : String) : List String := (cut (· == '\n') text.toList).map String.ofList

theorem lines_intercalate {pieces : List String} (hne : pieces ≠ [])
    (h : ∀ piece ∈ pieces, '\n' ∉ piece.toList) : lines ("\n".intercalate pieces) = pieces := by
  have hpieces : ∀ piece ∈ pieces.map String.toList, ∀ a ∈ piece, (a == '\n') = false := by
    simp only [List.forall_mem_map, beq_eq_false_iff_ne]
    intro piece hpiece a ha hnewline
    exact h piece hpiece (hnewline ▸ ha)
  have hnewline : "\n".toList = ['\n'] := by simp
  rw [lines, String.toList_intercalate, hnewline,
    cut_intercalate (by rfl) (by simpa using hne) hpieces, List.map_map]
  simp [Function.comp_def]

/-- The lines before the first one that is not UTF-8. -/
def linesOfBytes (bytes : ByteArray) : List String :=
  let texts := (cut (· == 0x0A) bytes.toList).map fun line => String.fromUTF8? ⟨line.toArray⟩
  (texts.takeWhile Option.isSome).filterMap id

end ReplyTemplate.Text
