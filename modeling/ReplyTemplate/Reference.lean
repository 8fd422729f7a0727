import ReplyTemplate.Table

/-! References of the form `%NAME:KEY%` in text, and their replacement by values. -/

namespace ReplyTemplate

/-- A part of a text as substitution sees it. -/
inductive Piece where
  | literal (c : Char)
  | reference (name key : String)
deriving DecidableEq, Repr

namespace Reference

/-- Neither the name nor the key of a reference holds one of these. -/
def isDelimiter (c : Char) : Bool := c == '%' || c == ':'

/-- The part before the first delimiter, which must be the given one, and the rest after it. -/
def takeBefore? (delimiter : Char) (cs : List Char) : Option (List Char × List Char) :=
  let part := cs.takeWhile fun c => !isDelimiter c
  match cs.dropWhile fun c => !isDelimiter c with
  | c :: rest => if c = delimiter ∧ part ≠ [] then some (part, rest) else none
  | [] => none

/-- Name and key of a reference that continues after its first percent sign, and what follows it. -/
def ofChars? (cs : List Char) : Option (List Char × List Char × List Char) := do
  let (name, rest) ← takeBefore? ':' cs
  let (key, rest) ← takeBefore? '%' rest
  return (name, key, rest)

theorem takeBefore?_eq_some {delimiter : Char} {cs part rest : List Char}
    (h : takeBefore? delimiter cs = some (part, rest)) :
    cs = part ++ delimiter :: rest ∧ part ≠ [] ∧ ∀ c ∈ part, isDelimiter c = false := by
  have hs := List.takeWhile_append_dropWhile (p := fun c => !isDelimiter c) (l := cs)
  have ha := List.all_takeWhile (p := fun c => !isDelimiter c) (l := cs)
  simp only [takeBefore?] at h
  split at h
  · rename_i heq
    split at h
    · rename_i hc
      obtain ⟨rfl, hp⟩ := hc
      obtain ⟨rfl, rfl⟩ := Prod.mk.inj (Option.some.inj h)
      exact ⟨by rw [← heq, hs], hp, fun c hc => by simpa using List.all_eq_true.1 ha c hc⟩
    · cases h
  · cases h

theorem length_of_ofChars? {cs name key rest : List Char}
    (h : ofChars? cs = some (name, key, rest)) : rest.length < cs.length := by
  simp only [ofChars?, Option.bind_eq_bind, Option.bind_eq_some_iff] at h
  obtain ⟨⟨n, r⟩, hn, ⟨k, r'⟩, hk, h⟩ := h
  obtain ⟨-, h⟩ := Prod.mk.inj (Option.some.inj h)
  obtain ⟨-, rfl⟩ := Prod.mk.inj h
  have hr : r = k ++ '%' :: r' := (takeBefore?_eq_some hk).1
  rw [(takeBefore?_eq_some hn).1, hr]
  simp
  omega

end Reference

namespace Piece

/-- A text from left to right, where references do not overlap and the earlier one counts. -/
def ofChars : List Char → List Piece
  | [] => []
  | c :: cs =>
    match h : if c = '%' then Reference.ofChars? cs else none with
    | some (name, key, rest) =>
      have : rest.length < cs.length := by
        split at h
        · exact Reference.length_of_ofChars? h
        · simp at h
      reference (String.ofList name) (String.ofList key) :: ofChars rest
    | none => literal c :: ofChars cs
termination_by cs => cs.length

/-- What stands for a piece in the output. -/
def expand (table : Table) : Piece → Except TemplateError (List Char)
  | literal c => return [c]
  | reference name key => return (← table.lookup name key).toList

end Piece

/-- Replaces the references in a text by their values, which are not searched again. -/
def Table.substitute (table : Table) (text : String) : Except TemplateError String := do
  let pieces ← (Piece.ofChars text.toList).mapM (Piece.expand table)
  return String.ofList pieces.flatten

end ReplyTemplate
