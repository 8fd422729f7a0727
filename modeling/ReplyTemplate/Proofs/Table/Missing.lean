import ReplyTemplate.Reference

/-! References that a table does not hold. A substitution fails only for one of these. -/

namespace ReplyTemplate

section

variable {ε α β : Type} {error : ε}

theorem cases_of_bind_eq_error {x : Except ε α} {f : α → Except ε β}
    (h : x >>= f = .error error) : x = .error error ∨ ∃ a, x = .ok a ∧ f a = .error error := by
  cases x with
  | error error' =>
    cases h
    exact .inl rfl
  | ok a => exact .inr ⟨a, rfl, h⟩

theorem exists_of_mapM_eq_error {f : α → Except ε β} {xs : List α}
    (h : xs.mapM f = .error error) : ∃ x ∈ xs, f x = .error error := by
  induction xs with
  | nil => cases h
  | cons x xs ih =>
    rw [List.mapM_cons] at h
    obtain hx | ⟨y, -, h⟩ := cases_of_bind_eq_error h
    · exact ⟨x, List.mem_cons_self, hx⟩
    obtain hxs | ⟨ys, -, h⟩ := cases_of_bind_eq_error h
    · obtain ⟨x', hmem, hx'⟩ := ih hxs
      exact ⟨x', List.mem_cons_of_mem x hmem, hx'⟩
    · cases h

end

namespace Table

/-- What a lookup reports is not in the table: the name, or a key of a name that is. -/
def Misses (table : Table) : TemplateError → Prop
  | .unknownMacro name => ¬ table.contains name
  | .unknownKey name key => table.contains name ∧ table.get? name key = none
  | _ => False

theorem misses_of_lookup {table : Table} {name key : String} {error : TemplateError}
    (h : table.lookup name key = .error error) : table.Misses error := by
  unfold lookup at h
  have hcontains := table.contains_eq_isSome_entries name
  cases hvalues : table.entries[name]? with
  | none =>
    rw [hvalues] at h hcontains
    cases h
    rw [Misses, hcontains]
    exact Bool.false_ne_true
  | some values =>
    rw [hvalues] at h hcontains
    dsimp only at h
    cases hvalue : values[key]? with
    | none =>
      rw [hvalue] at h
      cases h
      exact ⟨hcontains, by rw [get?, hvalues, Option.bind_some, hvalue]⟩
    | some value =>
      rw [hvalue] at h
      cases h

theorem misses_of_expand {table : Table} {piece : Piece} {error : TemplateError}
    (h : piece.expand table = .error error) : table.Misses error := by
  cases piece with
  | literal c => cases h
  | reference name key =>
    obtain hlookup | ⟨value, -, h⟩ := cases_of_bind_eq_error h
    · exact misses_of_lookup hlookup
    · cases h

theorem misses_of_substitute {table : Table} {text : String} {error : TemplateError}
    (h : table.substitute text = .error error) : table.Misses error := by
  obtain hpieces | ⟨pieces, -, h⟩ := cases_of_bind_eq_error h
  · obtain ⟨piece, -, hpiece⟩ := exists_of_mapM_eq_error hpieces
    exact misses_of_expand hpiece
  · cases h

end Table

end ReplyTemplate
