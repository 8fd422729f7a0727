import Mathlib.Data.List.Forall2
import ReplyTemplate.Template.Json

/-! Templates that are read back from the JSON values that they are written as. -/

namespace ReplyTemplate

/-- The same value, whatever the order of the members of its objects is. -/
inductive Json.Alike : Json → Json → Prop where
  | leaf {value : Json} (h : value.depth = 0) : Alike value value
  | array {items others : List Json} (h : List.Forall₂ Alike items others) :
      Alike (.array items) (.array others)
  | object {members reordered others : List (String × Json)} (order : members.Perm reordered)
      (names : reordered.map Prod.fst = others.map Prod.fst)
      (values : List.Forall₂ Alike (reordered.map Prod.snd) (others.map Prod.snd)) :
      Alike (.object members) (.object others)

namespace Json

theorem Alike.refl (value : Json) : value.Alike value := by
  induction value with
  | null | bool | number | string | illFormed => exact .leaf rfl
  | array items ih => exact .array (List.forall₂_same.mpr ih)
  | object members ih =>
    exact .object (.refl members) rfl (List.forall₂_same.mpr (List.forall_mem_map.mpr ih))

theorem Alike.eq_string {value : Json} {contents : String} (h : value.Alike (.string contents)) :
    value = .string contents := by
  cases h
  rfl

def AreAlike (members others : List (String × Json)) : Prop :=
  List.Forall₂ (fun member other => member.1 = other.1 ∧ member.2.Alike other.2) members others

theorem areAlike_of_map {members others : List (String × Json)}
    (names : members.map Prod.fst = others.map Prod.fst)
    (values : List.Forall₂ Alike (members.map Prod.snd) (others.map Prod.snd)) :
    AreAlike members others := by
  induction members generalizing others with
  | nil =>
    cases others with
    | nil => exact .nil
    | cons other others => cases names
  | cons member members ih =>
    cases others with
    | nil => cases names
    | cons other others =>
      obtain ⟨hname, hnames⟩ := List.cons.inj names
      obtain ⟨hvalue, hvalues⟩ := List.forall₂_cons.mp values
      exact .cons ⟨hname, hvalue⟩ (ih hnames hvalues)

theorem Alike.exists_members {value : Json} {others : List (String × Json)}
    (h : value.Alike (.object others)) :
    ∃ members reordered, value = .object members ∧ members.Perm reordered ∧
      AreAlike reordered others := by
  cases h with
  | leaf h => simp [depth] at h
  | object order names values => exact ⟨_, _, rfl, order, areAlike_of_map names values⟩

theorem Alike.exists_items {value : Json} {others : List Json} (h : value.Alike (.array others)) :
    ∃ items, value = .array items ∧ List.Forall₂ Alike items others := by
  cases h with
  | leaf h => simp [depth] at h
  | array items => exact ⟨_, rfl, items⟩

theorem AreAlike.exists_append {members head rest : List (String × Json)}
    (h : AreAlike members (head ++ rest)) :
    ∃ first second, members = first ++ second ∧ AreAlike first head ∧ AreAlike second rest :=
  ⟨members.take head.length, members.drop head.length, (List.take_append_drop _ _).symm,
    List.forall₂_take_append _ _ _ h, List.forall₂_drop_append _ _ _ h⟩

theorem AreAlike.exists_singleton {members : List (String × Json)} {name : String} {other : Json}
    (h : AreAlike members [(name, other)]) :
    ∃ inner : Json, members = [(name, inner)] ∧ inner.Alike other := by
  obtain ⟨⟨_, inner⟩, _, ⟨rfl, hinner⟩, hnil, rfl⟩ := List.forall₂_cons_right_iff.mp h
  cases hnil
  exact ⟨inner, rfl, hinner⟩

theorem Alike.exists_member {value other : Json} {name : String}
    (h : value.Alike (.object [(name, other)])) :
    ∃ inner : Json, value = .object [(name, inner)] ∧ inner.Alike other := by
  obtain ⟨members, reordered, rfl, horder, halike⟩ := h.exists_members
  obtain ⟨inner, rfl, hinner⟩ := halike.exists_singleton
  exact ⟨inner, by rw [List.perm_singleton.mp horder], hinner⟩

/-- Strings are only alike if they are equal. -/
theorem AreAlike.eq_of_strings {members others : List (String × Json)} (h : AreAlike members others)
    (hstrings : ∀ other ∈ others, ∃ contents, other.2 = .string contents) : members = others := by
  induction h with
  | nil => rfl
  | @cons member other members others hmember _ ih =>
    obtain ⟨⟨contents, hcontents⟩, hstrings⟩ := List.forall_mem_cons.mp hstrings
    obtain ⟨hname, hvalue⟩ := hmember
    rw [hcontents] at hvalue
    have heq : member = other := Prod.ext hname (hvalue.eq_string.trans hcontents.symm)
    rw [heq, ih hstrings]

end Json

namespace Template

inductive CallFields.Reads (fields : CallFields) : String → Json → CallFields → Prop where
  | name {value : Json} {plugin : String} (missing : fields.name = none)
      (string : value.string? = some plugin) :
      Reads fields "name" value { fields with name := some plugin }
  | argument {value : Json} {argument : Option String} (missing : fields.argument = none)
      (string : value.optionalString? = some argument) :
      Reads fields "value" value { fields with argument := some argument }
  | noScope (missing : fields.scope = none) :
      Reads fields "scope" .null { fields with scope := some none }
  | scope {value : Json} {scope : Template} (missing : fields.scope = none)
      (template : ofJson? value = some scope) :
      Reads fields "scope" value { fields with scope := some (some scope) }
  | other {name : String} {value : Json} (unknown : name ≠ "name" ∧ name ≠ "value" ∧ name ≠ "scope") :
      Reads fields name value fields

theorem ofMembers?_cons_eq_some_iff {fields last : CallFields} {name : String} {value : Json}
    {members : List (String × Json)} :
    ofMembers? fields ((name, value) :: members) = some last ↔
      ∃ next, fields.Reads name value next ∧ ofMembers? next members = some last := by
  constructor
  · intro h
    rw [ofMembers?.eq_def] at h
    dsimp only at h
    split at h
    · next hname =>
      obtain ⟨plugin, hstring, h⟩ := Option.bind_eq_some_iff.mp h
      obtain ⟨rfl, hmissing⟩ := hname
      exact ⟨_, .name (Option.isNone_iff_eq_none.mp hmissing) hstring, h⟩
    split at h
    · next hname =>
      obtain ⟨argument, hstring, h⟩ := Option.bind_eq_some_iff.mp h
      obtain ⟨rfl, hmissing⟩ := hname
      exact ⟨_, .argument (Option.isNone_iff_eq_none.mp hmissing) hstring, h⟩
    split at h
    · next hname =>
      obtain ⟨rfl, hmissing⟩ := hname
      split at h
      · exact ⟨_, .noScope (Option.isNone_iff_eq_none.mp hmissing), h⟩
      · obtain ⟨scope, htemplate, h⟩ := Option.bind_eq_some_iff.mp h
        exact ⟨_, .scope (Option.isNone_iff_eq_none.mp hmissing) htemplate, h⟩
    split at h
    · cases h
    · next hname =>
      exact ⟨fields, .other (by simpa using hname), h⟩
  · rintro ⟨next, hreads, h⟩
    rw [ofMembers?.eq_def]
    cases hreads with
    | name missing string => simp [missing, string, h]
    | argument missing string => simp [missing, string, h]
    | noScope missing => simp [missing, h]
    | @scope value scope missing template =>
      have hnull : value ≠ .null := by
        rintro rfl
        cases template
      simp [missing, template, h]
    | other unknown => simp [unknown, h]

/-- Two members can be read in either order. -/
theorem CallFields.Reads.swap {fields next last : CallFields} {first second : String}
    {value other : Json} (hfirst : fields.Reads first value next)
    (hsecond : next.Reads second other last) :
    ∃ middle, fields.Reads second other middle ∧ middle.Reads first value last := by
  -- a field that has been read is not missing any more, so that the two members are of two fields
  cases hfirst <;> cases hsecond <;>
    first
    | contradiction
    | exact ⟨_, by constructor <;> assumption, by constructor <;> assumption⟩

theorem ofMembers?_perm {members others : List (String × Json)} (hperm : members.Perm others)
    {fields last : CallFields} (h : ofMembers? fields members = some last) :
    ofMembers? fields others = some last := by
  induction hperm generalizing fields with
  | nil => exact h
  | cons member _ ih =>
    obtain ⟨next, hreads, hrest⟩ := ofMembers?_cons_eq_some_iff.mp h
    exact ofMembers?_cons_eq_some_iff.mpr ⟨next, hreads, ih hrest⟩
  | swap first second members =>
    obtain ⟨next, hfirst, h⟩ := ofMembers?_cons_eq_some_iff.mp h
    obtain ⟨afterBoth, hsecond, hrest⟩ := ofMembers?_cons_eq_some_iff.mp h
    obtain ⟨middle, hsecond, hfirst⟩ := hfirst.swap hsecond
    exact ofMembers?_cons_eq_some_iff.mpr
      ⟨middle, hsecond, ofMembers?_cons_eq_some_iff.mpr ⟨afterBoth, hfirst, hrest⟩⟩
  | trans _ _ ihFirst ihSecond => exact ihSecond (ihFirst h)

theorem ofMembers?_headMembers (plugin : String) (argument : Option String)
    (members : List (String × Json)) :
    ofMembers? {} (toJson.headMembers plugin argument ++ members) =
      ofMembers? { name := some plugin, argument := argument.map some } members := by
  cases argument with
  | none => simp [toJson.headMembers, Json.present, ofMembers?, Json.string?]
  | some text =>
    simp [toJson.headMembers, Json.present, ofMembers?, Json.string?, Json.optionalString?]

theorem toJsonAll_eq_map (parts : List Template) : toJsonAll parts = parts.map toJson := by
  induction parts with
  | nil => rfl
  | cons part parts ih => rw [toJsonAll, ih, List.map_cons]

theorem ofJsonAll?_of_forall₂ {items : List Json} {parts : List Template}
    (h : List.Forall₂ (fun item part => ofJson? item = some part) items parts) :
    ofJsonAll? items = some parts := by
  induction h with
  | nil => rfl
  | cons hitem _ ih => rw [ofJsonAll?, hitem, ih]; rfl

theorem ofJson?_call (members : List (String × Json)) :
    ofJson? (.object [("macro", .object members)]) =
      (ofMembers? {} members).bind CallFields.toCall? := by
  rw [ofJson?]
  rfl

theorem headMembers_strings (plugin : String) (argument : Option String) :
    ∀ member ∈ toJson.headMembers plugin argument, ∃ contents, member.2 = .string contents := by
  cases argument with
  | none => simp [toJson.headMembers, Json.present]
  | some text => simp [toJson.headMembers, Json.present]

theorem toCall?_of_present (plugin : String) (argument : Option String) (scope : Option Template) :
    CallFields.toCall? ⟨some plugin, argument.map some, scope.map some⟩ =
      some (call plugin argument scope) := by
  cases argument <;> cases scope <;> rfl

/-- A template is read back from every value that is alike to its own. -/
theorem ofJson?_of_alike {template : Template} {value : Json} (h : value.Alike template.toJson) :
    ofJson? value = some template := by
  induction template generalizing value with
  | text contents =>
    rw [toJson] at h
    obtain ⟨inner, rfl, hinner⟩ := h.exists_member
    rw [hinner.eq_string, ofJson?]
  | group parts ih =>
    rw [toJson, toJsonAll_eq_map] at h
    obtain ⟨inner, rfl, hinner⟩ := h.exists_member
    obtain ⟨items, rfl, hitems⟩ := hinner.exists_items
    rw [List.forall₂_map_right_iff, List.forall₂_iff_zip] at hitems
    obtain ⟨hlength, hitems⟩ := hitems
    have hread : List.Forall₂ (fun item part => ofJson? item = some part) items parts :=
      List.forall₂_iff_zip.mpr
        ⟨hlength, fun hmem => ih _ (List.of_mem_zip hmem).2 (hitems hmem)⟩
    rw [ofJson?, ofJsonAll?_of_forall₂ hread]
    rfl
  | bareCall plugin argument =>
    rw [toJson] at h
    obtain ⟨inner, rfl, hinner⟩ := h.exists_member
    obtain ⟨members, reordered, rfl, horder, halike⟩ := hinner.exists_members
    obtain rfl := halike.eq_of_strings (headMembers_strings plugin argument)
    have hread := ofMembers?_headMembers plugin argument []
    rw [List.append_nil, ofMembers?] at hread
    rw [ofJson?_call, ofMembers?_perm horder.symm hread]
    exact toCall?_of_present plugin argument none
  | scopedCall plugin argument scope ih =>
    rw [toJson] at h
    obtain ⟨inner, rfl, hinner⟩ := h.exists_member
    obtain ⟨members, reordered, rfl, horder, halike⟩ := hinner.exists_members
    obtain ⟨head, rest, rfl, hhead, hrest⟩ := halike.exists_append
    obtain rfl := hhead.eq_of_strings (headMembers_strings plugin argument)
    obtain ⟨written, rfl, hwritten⟩ := hrest.exists_singleton
    have hread : ofMembers? {} (toJson.headMembers plugin argument ++ [("scope", written)]) =
        some ⟨some plugin, argument.map some, some (some scope)⟩ := by
      rw [ofMembers?_headMembers]
      exact ofMembers?_cons_eq_some_iff.mpr ⟨_, .scope rfl (ih hwritten), rfl⟩
    rw [ofJson?_call, ofMembers?_perm horder.symm hread]
    exact toCall?_of_present plugin argument (some scope)

/-- A template is read back from its own value, also with the members of objects in another order,
and no other template has a value that is alike. -/
theorem ofJson?_toJson (template : Template) :
    ofJson? template.toJson = some template ∧
    (∀ value : Json, value.Alike template.toJson → ofJson? value = some template) ∧
    ∀ other : Template, other.toJson.Alike template.toJson ↔ other = template := by
  refine ⟨ofJson?_of_alike (.refl _), fun value => ofJson?_of_alike, fun other => ?_⟩
  constructor
  · intro halike
    have hother : ofJson? other.toJson = some other := ofJson?_of_alike (.refl _)
    rw [ofJson?_of_alike halike] at hother
    exact (Option.some.inj hother).symm
  · rintro rfl
    exact .refl _

/-- The members of a call with an empty argument and an empty scope, from the last to the first. -/
theorem ofJson?_toJson_reordered :
    let template := call "A" (some "") (some (text ""))
    let value : Json := .object [("macro", .object
      [("scope", .object [("text", .string "")]), ("value", .string ""), ("name", .string "A")])]
    value.Alike template.toJson ∧ ofJson? value = some template ∧
      ¬ (call "A" none (some (text ""))).toJson.Alike template.toJson ∧
      ¬ (call "A" (some "") none).toJson.Alike template.toJson := by
  intro template value
  obtain ⟨-, hread, hdistinct⟩ := ofJson?_toJson template
  have hmembers : Json.Alike _ _ :=
    .object (List.reverse_perm [("name", .string "A"), ("value", .string ""),
      ("scope", (text "").toJson)]) rfl (.cons (.refl _) (.cons (.refl _) (.cons (.refl _) .nil)))
  have halike : value.Alike template.toJson := .object (.refl _) rfl (.cons hmembers .nil)
  refine ⟨halike, hread value halike, ?_, ?_⟩
  · rw [hdistinct]
    decide
  · rw [hdistinct]
    decide

end Template

end ReplyTemplate
