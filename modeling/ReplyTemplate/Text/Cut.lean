/-! Sequences cut at their separators. -/

namespace ReplyTemplate.Text

variable {α : Type}

/-- The pieces between the separators, of which there is one more than there are separators. -/
def cut (isSeparator : α → Bool) : List α → List (List α)
  | [] => [[]]
  | a :: rest =>
    if isSeparator a then [] :: cut isSeparator rest
    else match cut isSeparator rest with
      | [] => [[a]]
      | piece :: pieces => (a :: piece) :: pieces

theorem cut_eq_singleton {isSeparator : α → Bool} {s : List α}
    (h : ∀ a ∈ s, isSeparator a = false) : cut isSeparator s = [s] := by
  induction s with
  | nil => rfl
  | cons a rest ih =>
    obtain ⟨ha, hrest⟩ := List.forall_mem_cons.mp h
    simp [cut, ha, ih hrest]

theorem cut_append_cons {isSeparator : α → Bool} {s : List α} {separator : α}
    (h : ∀ a ∈ s, isSeparator a = false) (hseparator : isSeparator separator) (t : List α) :
    cut isSeparator (s ++ separator :: t) = s :: cut isSeparator t := by
  induction s with
  | nil => simp [cut, hseparator]
  | cons a rest ih =>
    obtain ⟨ha, hrest⟩ := List.forall_mem_cons.mp h
    simp [cut, ha, ih hrest]

theorem cut_intercalate {isSeparator : α → Bool} {separator : α}
    (hseparator : isSeparator separator) {pieces : List (List α)} (hne : pieces ≠ [])
    (h : ∀ piece ∈ pieces, ∀ a ∈ piece, isSeparator a = false) :
    cut isSeparator ([separator].intercalate pieces) = pieces := by
  induction pieces with
  | nil => contradiction
  | cons piece rest ih =>
    obtain ⟨hpiece, hrest⟩ := List.forall_mem_cons.mp h
    cases rest with
    | nil => rw [List.intercalate_singleton, cut_eq_singleton hpiece]
    | cons next rest =>
      rw [List.intercalate_cons_cons, List.append_assoc, List.singleton_append,
        cut_append_cons hpiece hseparator, ih (by simp) hrest]

end ReplyTemplate.Text
