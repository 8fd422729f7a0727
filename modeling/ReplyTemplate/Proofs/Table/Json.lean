import ReplyTemplate.Proofs.Json.Record
import ReplyTemplate.Table.Json

/-! The JSON values that are read as tables. -/

namespace ReplyTemplate

/-- An object of objects of strings. -/
def Json.IsTable (value : Json) : Prop :=
  ∃ members, value = .object members ∧ ∀ member ∈ members, ∃ pairs, member.2 = .object pairs ∧
    ∀ pair ∈ pairs, ∃ text, pair.2 = .string text

theorem isSome_bind_some {α β : Type} {read : Option α} {make : α → β} :
    (read.bind fun a => some (make a)).isSome = read.isSome := by
  cases read <;> rfl

theorem isSome_foldlM_iff {α β γ : Type} {read : α → Option β} {add : γ → α → β → γ} {l : List α}
    {start : γ} :
    (l.foldlM (fun result a => (read a).bind fun b => some (add result a b)) start).isSome ↔
      ∀ a ∈ l, (read a).isSome := by
  induction l generalizing start with
  | nil => simp
  | cons a l ih =>
    rw [List.foldlM_cons, List.forall_mem_cons]
    cases hread : read a with
    | none => simp
    | some b => simpa using ih

namespace Table

theorem isSome_stringsOfJson?_iff {value : Json} :
    (stringsOfJson? value).isSome ↔
      ∃ pairs, value = .object pairs ∧ ∀ pair ∈ pairs, ∃ text, pair.2 = .string text := by
  cases value with
  | object pairs =>
    simp only [stringsOfJson?, Option.bind_eq_bind, Option.pure_def, isSome_foldlM_iff]
    simp [Option.isSome_iff_exists, Json.string?_eq_some_iff]
  | null | bool | number | string | illFormed | array => simp [stringsOfJson?]

theorem isSome_ofJson?_iff {value : Json} : (ofJson? value).isSome ↔ value.IsTable := by
  cases value with
  | object members =>
    simp only [ofJson?, Option.bind_eq_bind, Option.pure_def, isSome_bind_some, isSome_foldlM_iff,
      isSome_stringsOfJson?_iff]
    simp [Json.IsTable]
  | null | bool | number | string | illFormed | array => simp [ofJson?, Json.IsTable]

end Table

end ReplyTemplate
