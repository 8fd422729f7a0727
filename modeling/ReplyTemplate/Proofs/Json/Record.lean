import ReplyTemplate.Json

/-! Records of fields, which are objects or arrays. -/

namespace ReplyTemplate

namespace Json

/-- The first member of a name. -/
def named? (name : String) : Json → Option Json
  | object members => (members.find? fun member => member.1 == name).map Prod.snd
  | _ => none

/-- What a record has as a field: the member of an object, or the item of an array at the place of
the field. -/
def field? (name : String) (place : Nat) : Json → Option Json
  | object members => (object members).named? name
  | array items => items[place]?
  | _ => none

/-- An object with no field twice, or an array with nothing but fields. -/
def IsRecord (names : List String) : Json → Prop
  | object members => ∀ name ∈ names, members.countP (fun member => member.1 == name) ≤ 1
  | array items => items.length ≤ names.length
  | _ => False

theorem member?_eq_some_iff {members : List (String × Json)} {name : String}
    {written : Option Json} :
    member? members name = some written ↔
      members.countP (fun member => member.1 == name) ≤ 1 ∧
        written = (object members).named? name := by
  rw [named?, ← List.head?_filter, List.countP_eq_length_filter, member?]
  cases members.filter fun member => member.1 == name with
  | nil => simp [eq_comm]
  | cons member others => cases others <;> simp [eq_comm]

theorem mapM_member?_eq_some_iff {members : List (String × Json)} {names : List String}
    {written : List (Option Json)} :
    names.mapM (member? members) = some written ↔
      (∀ name ∈ names, members.countP (fun member => member.1 == name) ≤ 1) ∧
        written = names.map fun name => (object members).named? name := by
  induction names generalizing written with
  | nil => simp [eq_comm]
  | cons name names ih =>
    simp only [List.mapM_cons, Option.bind_eq_bind, Option.bind_eq_some_iff, member?_eq_some_iff,
      ih, List.forall_mem_cons, List.map_cons]
    constructor
    · rintro ⟨first, ⟨hfirst, rfl⟩, rest, ⟨hrest, rfl⟩, h⟩
      exact ⟨⟨hfirst, hrest⟩, (Option.some.inj h).symm⟩
    · rintro ⟨⟨hfirst, hrest⟩, rfl⟩
      exact ⟨_, ⟨hfirst, rfl⟩, _, ⟨hrest, rfl⟩, rfl⟩

theorem map_some_append_replicate {items : List Json} {names : List String}
    (h : items.length ≤ names.length) :
    items.map some ++ List.replicate (names.length - items.length) none =
      names.mapIdx fun place _ => items[place]? := by
  apply List.ext_getElem
  · simp
    omega
  · intro place hplace _
    rw [List.getElem_mapIdx, List.getElem_append]
    split
    · next hitem =>
      rw [List.length_map] at hitem
      rw [List.getElem_map, List.getElem?_eq_getElem hitem]
    · next hmissing =>
      rw [List.length_map] at hmissing
      rw [List.getElem_replicate, List.getElem?_eq_none (Nat.le_of_not_lt hmissing)]

theorem fields?_eq_some_iff {names : List String} {value : Json} {written : List (Option Json)} :
    value.fields? names = some written ↔
      value.IsRecord names ∧ written = names.mapIdx fun place name => value.field? name place := by
  cases value with
  | object members =>
    have hfields : (names.mapIdx fun place name => (object members).field? name place) =
        names.map fun name => (object members).named? name :=
      List.ext_getElem (by simp) (by simp [field?])
    rw [hfields]
    exact mapM_member?_eq_some_iff
  | array items =>
    rw [fields?, IsRecord]
    simp only [field?]
    split
    · next hlength =>
      rw [map_some_append_replicate hlength]
      simp [hlength, eq_comm]
    · next hlength => simp [hlength]
  | null | bool | number | string | illFormed => simp [fields?, IsRecord]

/-- A method that reads the fields needs a record of them. -/
theorem isSome_fields?_bind {α : Type} {names : List String} {value : Json}
    {next : List (Option Json) → Option α} :
    ((value.fields? names).bind next).isSome ↔ value.IsRecord names ∧
      (next (names.mapIdx fun place name => value.field? name place)).isSome := by
  by_cases hrecord : value.IsRecord names
  · rw [fields?_eq_some_iff.mpr ⟨hrecord, rfl⟩, Option.bind_some]
    exact (and_iff_right hrecord).symm
  · have hnone : value.fields? names = none :=
      Option.eq_none_iff_forall_ne_some.mpr fun written h => hrecord (fields?_eq_some_iff.mp h).1
    rw [hnone]
    simp [hrecord]

theorem named?_filter_ne {members : List (String × Json)} {name other : String}
    (h : name ≠ other) :
    (object (members.filter fun entry => entry.1 ≠ other)).named? name =
      (object members).named? name := by
  rw [named?, named?, List.find?_filter]
  congr 2
  funext entry
  by_cases hname : entry.1 = name <;> simp [hname, h]

theorem isRecord_filter_ne_iff {members : List (String × Json)} {names : List String}
    {other : String} (h : ∀ name ∈ names, name ≠ other) :
    (object (members.filter fun entry => entry.1 ≠ other)).IsRecord names ↔
      (object members).IsRecord names := by
  have hcount : ∀ name ∈ names,
      (members.filter fun entry => entry.1 ≠ other).countP (fun member => member.1 == name) =
        members.countP fun member => member.1 == name := by
    intro name hname
    rw [List.countP_filter]
    congr 1
    funext member
    by_cases heq : member.1 = name <;> simp [heq, h name hname]
  rw [IsRecord, IsRecord]
  exact forall₂_congr fun name hname => by rw [hcount name hname]

theorem string?_eq_some_iff {value : Json} {text : String} :
    value.string? = some text ↔ value = .string text := by
  cases value <;> simp [string?]

end Json

end ReplyTemplate
