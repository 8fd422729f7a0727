import ReplyTemplate.Proofs.Table
import ReplyTemplate.Proofs.Table.Substitution

/-! Tables laid over one another, key by key. What is laid over another table may be met in any
order, and the same laws hold of pairs under one name and of triples. -/

namespace ReplyTemplate.Table

theorem ext_of_get? {t u : Table} (hcontains : ∀ name, t.contains name = u.contains name)
    (hget : ∀ name key, t.get? name key = u.get? name key) : t = u := by
  have hentries : t.entries = u.entries := by
    apply Std.ExtTreeMap.ext_getElem?
    intro name
    have hnames := hcontains name
    have hkeys := hget name
    rw [contains_eq_isSome_entries, contains_eq_isSome_entries] at hnames
    unfold get? at hkeys
    rcases ht : t.entries[name]? with _ | values <;> rcases hu : u.entries[name]? with _ | others <;>
      rw [ht, hu] at hnames hkeys
    · cases hnames
    · cases hnames
    · exact congrArg some (Std.ExtTreeMap.ext_getElem? hkeys)
  cases t
  cases u
  cases hentries
  rfl

/-! ### Pairs under several names -/

def pairsOf (installations : List (String × List (String × String))) (name : String) :
    List (String × String) :=
  (installations.filter (·.1 == name)).flatMap Prod.snd

theorem mem_pairsOf {installations : List (String × List (String × String))} {name : String}
    {pair : String × String} :
    pair ∈ pairsOf installations name ↔ ∃ pairs, (name, pairs) ∈ installations ∧ pair ∈ pairs := by
  simp only [pairsOf, List.mem_flatMap, List.mem_filter, beq_iff_eq, Prod.exists]
  constructor
  · rintro ⟨other, pairs, ⟨hmem, rfl⟩, hpair⟩
    exact ⟨pairs, hmem, hpair⟩
  · rintro ⟨pairs, hmem, hpair⟩
    exact ⟨name, pairs, ⟨hmem, rfl⟩, hpair⟩

theorem get?_installAll (table : Table) (installations : List (String × List (String × String)))
    (name key : String) :
    (table.installAll installations).get? name key =
      (lastValue? (pairsOf installations name) key).or (table.get? name key) := by
  induction installations generalizing table with
  | nil => rfl
  | cons installation installations ih =>
    obtain ⟨other, pairs⟩ := installation
    rw [installAll_cons, ih, get?_install]
    by_cases hname : other = name
    · have hpairs : pairsOf ((other, pairs) :: installations) name =
          pairs ++ pairsOf installations name := by
        simp [pairsOf, hname]
      rw [if_pos hname, hpairs, lastValue?_append, Option.or_assoc]
    · have hpairs : pairsOf ((other, pairs) :: installations) name =
          pairsOf installations name := by
        simp [pairsOf, hname]
      rw [if_neg hname, hpairs]

theorem contains_installAll_iff (table : Table)
    (installations : List (String × List (String × String))) (name : String) :
    (table.installAll installations).contains name ↔
      table.contains name ∨ name ∈ installations.map Prod.fst := by
  induction installations generalizing table with
  | nil => simp [installAll]
  | cons installation installations ih =>
    rw [installAll_cons, ih, contains_install, Bool.or_eq_true, beq_iff_eq, List.map_cons,
      List.mem_cons, eq_comm (a := name), or_assoc, or_left_comm]

/-! ### Tables -/

/-- The names of a table and the pairs of each name, in whatever order they are met. -/
structure Visits (table : Table) (visited : List (String × List (String × String))) : Prop where
  names : (visited.map Prod.fst).Perm table.entries.keys
  pairs : ∀ visit ∈ visited, ∃ values, table.entries[visit.1]? = some values ∧
    visit.2.Perm values.toList

theorem visits_toList (table : Table) : table.Visits table.toList := by
  constructor
  case names =>
    rw [toList, List.map_map, ← Std.ExtTreeMap.map_fst_toList_eq_keys]
    exact .refl _
  case pairs =>
    intro visit hvisit
    obtain ⟨⟨name, values⟩, hmem, rfl⟩ := List.mem_map.mp hvisit
    exact ⟨values, Std.ExtTreeMap.mem_toList_iff_getElem?_eq_some.mp hmem, .refl _⟩

namespace Visits

variable {table : Table} {visited : List (String × List (String × String))}

theorem mem_map_fst_iff (h : table.Visits visited) (name : String) :
    name ∈ visited.map Prod.fst ↔ table.contains name := by
  rw [h.names.mem_iff, Std.ExtTreeMap.mem_keys]
  rfl

theorem mem_pairsOf_iff (h : table.Visits visited) (name key value : String) :
    (key, value) ∈ pairsOf visited name ↔ table.get? name key = some value := by
  have hvisit : ∀ pairs, (name, pairs) ∈ visited →
      ((key, value) ∈ pairs ↔ table.get? name key = some value) := by
    intro pairs hmem
    obtain ⟨values, hvalues, hperm⟩ := h.pairs _ hmem
    rw [hperm.mem_iff, Std.ExtTreeMap.mem_toList_iff_getElem?_eq_some, get?, hvalues,
      Option.bind_some]
  rw [mem_pairsOf]
  constructor
  · rintro ⟨pairs, hmem, hpair⟩
    exact (hvisit pairs hmem).mp hpair
  · intro hget
    have hcontains : table.contains name := by
      obtain ⟨values, hvalues, -⟩ := Option.bind_eq_some_iff.mp hget
      rw [contains_eq_isSome_entries, hvalues, Option.isSome_some]
    obtain ⟨⟨_, pairs⟩, hmem, rfl⟩ := List.mem_map.mp ((h.mem_map_fst_iff name).mpr hcontains)
    exact ⟨pairs, hmem, (hvisit pairs hmem).mpr hget⟩

theorem get?_installAll (h : table.Visits visited) (base : Table) (name key : String) :
    (base.installAll visited).get? name key = (table.get? name key).or (base.get? name key) := by
  rw [Table.get?_installAll, lastValue?_of_mem_iff (h.mem_pairsOf_iff name key)]

theorem contains_installAll (h : table.Visits visited) (base : Table) (name : String) :
    (base.installAll visited).contains name ↔ base.contains name ∨ table.contains name := by
  rw [contains_installAll_iff, h.mem_map_fst_iff]

end Visits

theorem get?_merge (base top : Table) (name key : String) :
    (base.merge top).get? name key = (top.get? name key).or (base.get? name key) :=
  top.visits_toList.get?_installAll base name key

theorem contains_merge (base top : Table) (name : String) :
    (base.merge top).contains name ↔ base.contains name ∨ top.contains name :=
  top.visits_toList.contains_installAll base name

theorem Visits.installAll_eq_merge {top : Table} {visited : List (String × List (String × String))}
    (h : top.Visits visited) (base : Table) : base.installAll visited = base.merge top := by
  apply ext_of_get?
  · intro name
    rw [Bool.eq_iff_iff, h.contains_installAll, contains_merge]
  · intro name key
    rw [h.get?_installAll, get?_merge]

theorem merge_assoc (a b c : Table) : (a.merge b).merge c = a.merge (b.merge c) := by
  apply ext_of_get?
  · intro name
    rw [Bool.eq_iff_iff]
    simp only [contains_merge, or_assoc]
  · intro name key
    simp only [get?_merge, Option.or_assoc]

theorem merge_self (table : Table) : table.merge table = table := by
  apply ext_of_get?
  · intro name
    rw [Bool.eq_iff_iff, contains_merge, or_self]
  · intro name key
    rw [get?_merge, Option.or_self]

theorem merge_empty (table : Table) : table.merge ∅ = table := rfl

theorem empty_merge (table : Table) : merge ∅ table = table := by
  apply ext_of_get?
  · intro name
    have hnone : ¬ contains ∅ name := Std.ExtTreeMap.not_mem_empty
    rw [Bool.eq_iff_iff, contains_merge, or_iff_right hnone]
  · intro name key
    rw [get?_merge, get?_empty, Option.or_none]

/-- A table that holds all of two others. Where both have a key, the upper one counts. -/
structure IsOverlay (base top result : Table) : Prop where
  get? : ∀ name key, result.get? name key = (top.get? name key).or (base.get? name key)
  contains : ∀ name, result.contains name ↔ base.contains name ∨ top.contains name
  /-- A name without any keys is known too. -/
  lookup : ∀ name key, base.get? name key = none → top.get? name key = none →
    result.lookup name key = .error
      (if base.contains name ∨ top.contains name then .unknownKey name key else .unknownMacro name)

theorem isOverlay_merge (base top : Table) : base.IsOverlay top (base.merge top) := by
  constructor
  case get? => exact get?_merge base top
  case contains => exact contains_merge base top
  case lookup =>
    intro name key hbase htop
    have hnone : (base.merge top).get? name key = none := by
      rw [get?_merge, hbase, htop, Option.or_none]
    have hcontains := contains_merge base top name
    rw [lookup_of_get?_eq_none hnone, notFound]
    simp only [hcontains]

/-- A table with more pairs under some of its names. The last pair of a key counts, and nothing else
changes. -/
structure Receives (table : Table) (installations : List (String × List (String × String)))
    (result : Table) : Prop where
  get? : ∀ name key, result.get? name key =
    (lastValue? (pairsOf installations name) key).or (table.get? name key)
  contains : ∀ name, result.contains name ↔
    table.contains name ∨ name ∈ installations.map Prod.fst
  others : ∀ name ∉ installations.map Prod.fst, result.entries[name]? = table.entries[name]?

theorem receives_installAll (table : Table)
    (installations : List (String × List (String × String))) :
    table.Receives installations (table.installAll installations) where
  get? := get?_installAll table installations
  contains := contains_installAll_iff table installations
  others _ hname := entries_installAll_of_not_mem hname table

def ofTriples (triples : List (String × String × String)) :
    List (String × List (String × String)) :=
  triples.map fun (name, pair) => (name, [pair])

theorem ofEntries_append (triples more : List (String × String × String)) :
    ofEntries (triples ++ more) = (ofEntries triples).installAll (ofTriples more) := by
  rw [ofEntries, ofEntries, List.foldl_append, installAll, ofTriples, List.foldl_map]
  rfl

/-- Merging is the union of two tables in favour of the second one, in whatever order its names and
keys are met. Pairs under one name and triples are laid over a table in the same way. -/
theorem merge_union (a b c : Table) :
    a.IsOverlay b (a.merge b) ∧
    (∀ visited, b.Visits visited → a.installAll visited = a.merge b) ∧
    (a.merge b).merge c = a.merge (b.merge c) ∧
    a.merge a = a ∧ a.merge ∅ = a ∧ merge ∅ a = a ∧
    (∀ name pairs, a.Receives [(name, pairs)] (a.install name pairs)) ∧
    ∀ triples more, (ofEntries triples).Receives (ofTriples more) (ofEntries (triples ++ more)) := by
  refine ⟨isOverlay_merge a b, fun visited h => h.installAll_eq_merge a, merge_assoc a b c,
    merge_self a, merge_empty a, empty_merge a, fun name pairs => ?_, fun triples more => ?_⟩
  · exact receives_installAll a [(name, pairs)]
  · rw [ofEntries_append]
    exact receives_installAll (ofEntries triples) (ofTriples more)

/-- A name without keys, and names and keys that are met backwards. -/
theorem merge_union_backwards :
    let base := ofEntries [("A", "x", "1"), ("A", "y", "2")]
    let top := (ofEntries [("A", "y", "3"), ("A", "z", "4")]).install "B" []
    let visited := [("B", []), ("A", [("z", "4"), ("y", "3")])]
    top.Visits visited ∧ base.installAll visited = base.merge top ∧
      (base.merge top).toList = [("A", [("x", "1"), ("y", "3"), ("z", "4")]), ("B", [])] ∧
      (base.merge top).lookup "B" "x" = .error (.unknownKey "B" "x") := by
  intro base top visited
  have hvisits : top.Visits visited := by
    constructor
    case names => decide +kernel
    case pairs =>
      intro visit hvisit
      rw [List.mem_cons, List.mem_singleton] at hvisit
      obtain rfl | rfl := hvisit
      · exact ⟨∅, by decide +kernel, by decide +kernel⟩
      · exact ⟨.ofList [("y", "3"), ("z", "4")], by decide +kernel, by decide +kernel⟩
  obtain ⟨hoverlay, hvisited, -⟩ := merge_union base top ∅
  refine ⟨hvisits, hvisited visited hvisits, by decide +kernel, ?_⟩
  rw [hoverlay.lookup "B" "x" (by decide +kernel) (by decide +kernel), if_pos (by decide +kernel)]

end ReplyTemplate.Table
