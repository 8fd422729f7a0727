import ReplyTemplate.Table

/-! Tables in which pairs are installed one name after the other. Nothing goes away, and other names
stay as they are. -/

namespace ReplyTemplate.Table

def installAll (table : Table) (installations : List (String × List (String × String))) : Table :=
  installations.foldl (fun table (name, pairs) => table.install name pairs) table

@[simp] theorem installAll_cons (table : Table) (name : String) (pairs : List (String × String))
    (installations : List (String × List (String × String))) :
    table.installAll ((name, pairs) :: installations) =
      (table.install name pairs).installAll installations := rfl

theorem installAll_append (table : Table) (s t : List (String × List (String × String))) :
    table.installAll (s ++ t) = (table.installAll s).installAll t := List.foldl_append

theorem entries_install_of_ne {name other : String} (h : name ≠ other) (table : Table)
    (pairs : List (String × String)) :
    (table.install name pairs).entries[other]? = table.entries[other]? := by
  simp [install, Std.ExtTreeMap.getElem?_insert, h]

def lastValue? (pairs : List (String × String)) (key : String) : Option String :=
  (pairs.reverse.find? (·.1 == key)).map Prod.snd

theorem lastValue?_append (s t : List (String × String)) (key : String) :
    lastValue? (s ++ t) key = (lastValue? t key).or (lastValue? s key) := by
  rw [lastValue?, lastValue?, lastValue?, List.reverse_append, List.find?_append]
  cases t.reverse.find? (·.1 == key) <;> rfl

theorem mem_of_lastValue? {pairs : List (String × String)} {key value : String}
    (h : lastValue? pairs key = some value) : (key, value) ∈ pairs := by
  obtain ⟨pair, hpair, rfl⟩ := Option.map_eq_some_iff.mp h
  have hkey := List.find?_some hpair
  obtain rfl : pair.1 = key := beq_iff_eq.mp hkey
  exact List.mem_reverse.mp (List.mem_of_find?_eq_some hpair)

theorem lastValue?_eq_none_iff {pairs : List (String × String)} {key : String} :
    lastValue? pairs key = none ↔ ∀ value, (key, value) ∉ pairs := by
  rw [lastValue?, Option.map_eq_none_iff, List.find?_eq_none]
  constructor
  · intro h value hmem
    exact h _ (List.mem_reverse.mpr hmem) (beq_self_eq_true key)
  · rintro h ⟨other, value⟩ hmem hkey
    obtain rfl : other = key := beq_iff_eq.mp hkey
    exact h value (List.mem_reverse.mp hmem)

/-- Where a key has one value at most, any order of the pairs gives it. -/
theorem lastValue?_of_mem_iff {pairs : List (String × String)} {key : String}
    {value? : Option String} (h : ∀ value, (key, value) ∈ pairs ↔ value? = some value) :
    lastValue? pairs key = value? := by
  cases hlast : lastValue? pairs key with
  | none =>
    refine (Option.eq_none_iff_forall_ne_some.mpr fun value hvalue => ?_).symm
    exact lastValue?_eq_none_iff.mp hlast value ((h value).mpr hvalue)
  | some value => exact ((h value).mp (mem_of_lastValue? hlast)).symm

theorem lastValue?_of_mem {pairs : List (String × String)} {key value : String}
    (hnodup : (pairs.map Prod.fst).Nodup) (hmem : (key, value) ∈ pairs) :
    lastValue? pairs key = some value := by
  induction pairs with
  | nil => cases hmem
  | cons pair pairs ih =>
    obtain ⟨hfirst, hrest⟩ := List.nodup_cons.mp hnodup
    rw [← List.singleton_append, lastValue?_append]
    obtain rfl | htail := List.mem_cons.mp hmem
    · have hnone : lastValue? pairs key = none :=
        lastValue?_eq_none_iff.mpr fun other hother =>
          hfirst (List.mem_map.mpr ⟨_, hother, rfl⟩)
      rw [hnone, Option.none_or, lastValue?]
      simp
    · rw [ih hrest htail, Option.some_or]

theorem exists_lastValue?_iff {pairs : List (String × String)} {key : String} :
    (∃ value, lastValue? pairs key = some value) ↔ key ∈ pairs.map Prod.fst := by
  constructor
  · rintro ⟨value, hvalue⟩
    exact List.mem_map_of_mem (mem_of_lastValue? hvalue)
  · intro hkey
    obtain ⟨⟨_, value⟩, hmem, rfl⟩ := List.mem_map.mp hkey
    apply Option.ne_none_iff_exists'.mp
    exact fun hnone => lastValue?_eq_none_iff.mp hnone value hmem

theorem getElem?_foldl_insert (pairs : List (String × String)) (values : KeyedValues)
    (key : String) :
    (pairs.foldl (fun values (key, value) => values.insert key value) values)[key]? =
      (lastValue? pairs key).or values[key]? := by
  induction pairs generalizing values with
  | nil => rfl
  | cons pair pairs ih =>
    rw [List.foldl_cons, ih, lastValue?, lastValue?, List.reverse_cons, List.find?_append,
      Std.ExtTreeMap.getElem?_insert]
    by_cases hkey : pair.1 = key <;> cases pairs.reverse.find? (·.1 == key) <;> simp [hkey]

theorem get?_install (table : Table) (name : String) (pairs : List (String × String))
    (other key : String) :
    (table.install name pairs).get? other key =
      if name = other then (lastValue? pairs key).or (table.get? other key)
      else table.get? other key := by
  by_cases hname : name = other
  · subst hname
    have hvalues : (table.install name pairs).entries[name]? =
        some (pairs.foldl (fun values (key, value) => values.insert key value)
          (table.entries.getD name ∅)) := by
      simp [install]
    rw [get?, hvalues, Option.bind_some, getElem?_foldl_insert, if_pos rfl, get?,
      Std.ExtTreeMap.getD_eq_getD_getElem?]
    cases table.entries[name]? <;> simp
  · rw [get?, get?, entries_install_of_ne hname, if_neg hname]

theorem lookup_install_of_mem {pairs : List (String × String)} {key value : String}
    (hnodup : (pairs.map Prod.fst).Nodup) (hmem : (key, value) ∈ pairs) (table : Table)
    (name : String) : (table.install name pairs).lookup name key = .ok value := by
  rw [lookup_eq_ok_iff, get?_install, if_pos rfl, lastValue?_of_mem hnodup hmem, Option.some_or]

theorem get?_of_not_contains {table : Table} {name : String} (h : ¬ table.contains name)
    (key : String) : table.get? name key = none := by
  rw [contains_eq_isSome_entries, Option.not_isSome_iff_eq_none] at h
  rw [get?, h, Option.bind_none]

/-- Under a new name only the keys of the pairs are found. -/
theorem exists_lookup_install_iff {table : Table} {name : String} (h : ¬ table.contains name)
    (pairs : List (String × String)) (key : String) :
    (∃ value, (table.install name pairs).lookup name key = .ok value) ↔
      key ∈ pairs.map Prod.fst := by
  simp only [lookup_eq_ok_iff, get?_install, if_pos, get?_of_not_contains h, Option.or_none,
    exists_lastValue?_iff]

theorem isSome_get?_install {table : Table} {other key : String}
    (h : (table.get? other key).isSome) (name : String) (pairs : List (String × String)) :
    ((table.install name pairs).get? other key).isSome := by
  rw [get?_install]
  split
  · rw [Option.isSome_or, h, Bool.or_true]
  · exact h

theorem contains_installAll {table : Table} {name : String} (h : table.contains name)
    (installations : List (String × List (String × String))) :
    (table.installAll installations).contains name := by
  induction installations generalizing table with
  | nil => exact h
  | cons installation installations ih => exact ih (by simp [h])

theorem isSome_get?_installAll {table : Table} {name key : String}
    (h : (table.get? name key).isSome) (installations : List (String × List (String × String))) :
    ((table.installAll installations).get? name key).isSome := by
  induction installations generalizing table with
  | nil => exact h
  | cons installation installations ih => exact ih (isSome_get?_install h _ _)

theorem entries_installAll_of_not_mem {installations : List (String × List (String × String))}
    {name : String} (h : name ∉ installations.map Prod.fst) (table : Table) :
    (table.installAll installations).entries[name]? = table.entries[name]? := by
  induction installations generalizing table with
  | nil => rfl
  | cons installation installations ih =>
    rw [List.map_cons, List.mem_cons, not_or] at h
    rw [installAll_cons, ih h.2, entries_install_of_ne (Ne.symm h.1)]

end ReplyTemplate.Table
