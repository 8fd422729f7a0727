import ReplyTemplate.Proofs.Json.Record
import ReplyTemplate.Proofs.Table.Json
import ReplyTemplate.Service.Request

/-! Requests and what is written of them: which JSON values are requests, and what stands in them as
method and id. -/

namespace ReplyTemplate

namespace Request

inductive Field where
  | id
  | text
  | optionalText
  | macros

def Field.Allows : Field → Option Json → Prop
  | id, _ => True
  | text, written => ∃ contents, written = some (.string contents)
  | optionalText, written => ∀ value, written = some value →
    value = .null ∨ ∃ contents, value = .string contents
  | macros, written => ∀ value, written = some value → value.IsTable

def fieldsOf? : String → Option (List (String × Field))
  | "render" => some [("id", .id), ("template", .text), ("macros", .macros)]
  | "parse" => some [("id", .id), ("template", .text)]
  | "help" => some [("id", .id), ("name", .text)]
  | "list_plugins" => some [("id", .id), ("category", .optionalText)]
  | _ => none

/-- Whether a record has its fields, from the one at a place on, as they may be written. -/
def HasFields (value : Json) (place : Nat) : List (String × Field) → Prop
  | [] => True
  | (name, field) :: fields =>
    field.Allows (value.field? name place) ∧ HasFields value (place + 1) fields

/-- Whether a value is a request: a record of a method and of the fields of the method. -/
def IsWritten (value : Json) : Prop :=
  ∃ method fields, value.field? "method" 0 = some (.string method) ∧
    fieldsOf? method = some fields ∧ value.IsRecord ("method" :: fields.map Prod.fst) ∧
    HasFields value 1 fields

theorem allows_text_iff {written : Option Json} :
    Field.text.Allows written ↔ (written.bind Json.string?).isSome := by
  simp [Field.Allows, Option.isSome_iff_exists, Option.bind_eq_some_iff, Json.string?_eq_some_iff]

theorem allows_optionalText_iff {written : Option Json} :
    Field.optionalText.Allows written ↔ (written.getD .null).optionalString?.isSome := by
  cases written with
  | none => simp [Field.Allows, Json.optionalString?]
  | some value => cases value <;> simp [Field.Allows, Json.optionalString?]

theorem allows_macros_iff {written : Option Json} :
    Field.macros.Allows written ↔ (Table.ofJson? (written.getD (.object []))).isSome := by
  rw [Table.isSome_ofJson?_iff]
  cases written with
  | none => simp [Field.Allows, Json.IsTable]
  | some value => simp [Field.Allows]

theorem isSome_ofFields?_iff {method : String} {rest : Json} :
    (ofFields? method rest).isSome ↔ ∃ fields, fieldsOf? method = some fields ∧
      rest.IsRecord (fields.map Prod.fst) ∧ HasFields rest 0 fields := by
  have hid : ∀ written, Field.id.Allows written := fun _ => trivial
  -- a field without which nothing is read is a case of its own
  unfold ofFields?
  split <;> simp only [Option.bind_eq_bind, Json.isSome_fields?_bind, fieldsOf?, List.mapIdx_cons,
    List.mapIdx_nil]
  · cases htemplate : rest.field? "template" 1 with
    | none => simp [HasFields, allows_text_iff, htemplate]
    | some template =>
      cases hmacros : Table.ofJson? ((rest.field? "macros" 2).getD (.object [])) <;>
        simp [HasFields, htemplate, hmacros, allows_text_iff, allows_macros_iff, hid,
          isSome_bind_some]
  · cases htemplate : rest.field? "template" 1 with
    | none => simp [HasFields, allows_text_iff, htemplate]
    | some template => simp [HasFields, htemplate, allows_text_iff, hid, isSome_bind_some]
  · cases hname : rest.field? "name" 1 with
    | none => simp [HasFields, allows_text_iff, hname]
    | some name => simp [HasFields, hname, allows_text_iff, hid, isSome_bind_some]
  · simp [HasFields, allows_optionalText_iff, hid, isSome_bind_some]
  · simp

theorem ne_method_of_fieldsOf? {method : String} {fields : List (String × Field)}
    (h : fieldsOf? method = some fields) : ∀ name ∈ fields.map Prod.fst, name ≠ "method" := by
  unfold fieldsOf? at h
  split at h <;> cases h <;> decide

theorem hasFields_congr {value other : Json} {fields : List (String × Field)} {place start : Nat}
    (h : ∀ name ∈ fields.map Prod.fst, ∀ n,
      value.field? name (place + n) = other.field? name (start + n)) :
    HasFields value place fields ↔ HasFields other start fields := by
  induction fields generalizing place start with
  | nil => rfl
  | cons field fields ih =>
    obtain ⟨hfield, hfields⟩ := List.forall_mem_cons.mp h
    have hfirst := hfield 0
    have hrest : HasFields value (place + 1) fields ↔ HasFields other (start + 1) fields := by
      apply ih
      intro name hname n
      have hnext := hfields name hname (n + 1)
      rwa [← Nat.add_assoc, ← Nat.add_assoc, Nat.add_right_comm, Nat.add_right_comm start] at hnext
    rw [HasFields, HasFields, hrest]
    rw [Nat.add_zero, Nat.add_zero] at hfirst
    rw [hfirst]

theorem isWritten_array_iff {method : String} {items : List Json} :
    IsWritten (.array (.string method :: items)) ↔ (ofFields? method (.array items)).isSome := by
  have hfields : ∀ fields : List (String × Field),
      HasFields (.array (.string method :: items)) 1 fields ↔ HasFields (.array items) 0 fields := by
    intro fields
    apply hasFields_congr
    intro name _ n
    simp [Json.field?, Nat.add_comm 1]
  rw [isSome_ofFields?_iff]
  simp [IsWritten, Json.field?, Json.IsRecord, hfields]

theorem isWritten_object_iff {members : List (String × Json)} :
    IsWritten (.object members) ↔
      ∃ method, Json.member? members "method" = some (some (.string method)) ∧
        (ofFields? method (.object (members.filter fun entry => entry.1 ≠ "method"))).isSome := by
  have hrest : ∀ fields : List (String × Field), (∀ name ∈ fields.map Prod.fst, name ≠ "method") →
      (HasFields (.object members) 1 fields ↔
        HasFields (.object (members.filter fun entry => entry.1 ≠ "method")) 0 fields) := by
    intro fields hnames
    apply hasFields_congr
    intro name hname n
    rw [Json.field?, Json.field?, Json.named?_filter_ne (hnames name hname)]
  simp only [isSome_ofFields?_iff, Json.member?_eq_some_iff]
  constructor
  · rintro ⟨method, fields, hmethod, hfields, hrecord, hhas⟩
    obtain ⟨hcount, hrecord⟩ := List.forall_mem_cons.mp hrecord
    have hnames := ne_method_of_fieldsOf? hfields
    exact ⟨method, ⟨hcount, hmethod.symm⟩, fields, hfields,
      (Json.isRecord_filter_ne_iff hnames).mpr hrecord, (hrest fields hnames).mp hhas⟩
  · rintro ⟨method, ⟨hcount, hmethod⟩, fields, hfields, hrecord, hhas⟩
    have hnames := ne_method_of_fieldsOf? hfields
    exact ⟨method, fields, hmethod.symm, hfields,
      List.forall_mem_cons.mpr ⟨hcount, (Json.isRecord_filter_ne_iff hnames).mp hrecord⟩,
      (hrest fields hnames).mpr hhas⟩

theorem isSome_ofJson?_iff {value : Json} : (ofJson? value).isSome ↔ IsWritten value := by
  cases value with
  | object members =>
    rw [isWritten_object_iff, ofJson?]
    obtain _ | _ | _ | _ | _ | _ | _ | _ | _ := Json.member? members "method" <;> simp
  | array items =>
    obtain _ | ⟨_ | _ | _ | method | _ | _ | _, items⟩ := items
    case cons.string => rw [isWritten_array_iff, ofJson?]
    all_goals simp [ofJson?, IsWritten, Json.field?]
  | null | bool | number | string | illFormed => simp [ofJson?, IsWritten, Json.field?]

end Request

end ReplyTemplate
