import ReplyTemplate.Json
import Std.Data.ExtTreeMap

/-! JSON values as they are held in memory. Nothing is left there of how they were written. -/

namespace ReplyTemplate.Json

/-- The members in the order of their names. Of those with equal names only the last one counts. -/
def ordered (members : List (String × Json)) : List (String × Json) :=
  (Std.ExtTreeMap.ofList members).toList

mutual

/-- Whether the members of every object are in the order of their names, which all differ, every
number is an integer or binary64, and nothing is ill formed. -/
def isCanonical : Json → Bool
  | number value => value.isCanonical
  | illFormed => false
  | array items => isCanonicalAll items
  | object members =>
    decide ((members.map Prod.fst).Pairwise (· < ·)) && isCanonicalMembers members
  | _ => true

def isCanonicalAll : List Json → Bool
  | [] => true
  | item :: items => isCanonical item && isCanonicalAll items

def isCanonicalMembers : List (String × Json) → Bool
  | [] => true
  | (_, value) :: members => isCanonical value && isCanonicalMembers members

end

mutual

/-- The value that is held after reading. What is ill formed is not read at all. -/
def canonical : Json → Json
  | number value => number value.canonical
  | illFormed => null
  | array items => array (canonicalAll items)
  | object members => object (ordered (canonicalMembers members))
  | value => value

def canonicalAll : List Json → List Json
  | [] => []
  | item :: items => canonical item :: canonicalAll items

def canonicalMembers : List (String × Json) → List (String × Json)
  | [] => []
  | (name, value) :: members => (name, canonical value) :: canonicalMembers members

end

/-- The last member of each name is left. -/
theorem mem_ordered_iff {members : List (String × Json)} {member : String × Json} :
    member ∈ ordered members ↔
      (members.reverse.find? fun written => written.1 == member.1) = some member := by
  rw [ordered, Std.ExtTreeMap.mem_toList_iff_getElem?_eq_some,
    Std.ExtTreeMap.ofList_eq_insertMany_empty, Std.ExtTreeMap.getElem?_insertMany_list,
    Std.ExtTreeMap.getElem?_empty, Option.or_none, List.findSomeRev?_eq_findSome?_reverse]
  induction members.reverse with
  | nil => simp
  | cons last rest ih =>
    by_cases hname : last.1 = member.1
    · simp [hname, Prod.ext_iff]
    · simpa [hname] using ih

theorem pairwise_ordered (members : List (String × Json)) :
    ((ordered members).map Prod.fst).Pairwise (· < ·) := by
  have hordered : ((ordered members).map Prod.fst).Pairwise fun name other =>
      compare name other = .lt := by
    rw [ordered, Std.ExtTreeMap.map_fst_toList_eq_keys]
    exact Std.ExtTreeMap.ordered_keys
  exact hordered.imp compareOfLessAndEq_eq_lt.mp

theorem isCanonicalAll_iff {items : List Json} :
    isCanonicalAll items ↔ ∀ item ∈ items, item.isCanonical := by
  induction items with
  | nil => simp [isCanonicalAll]
  | cons item items ih => simp [isCanonicalAll, ih]

theorem isCanonicalMembers_iff {members : List (String × Json)} :
    isCanonicalMembers members ↔ ∀ member ∈ members, member.2.isCanonical := by
  induction members with
  | nil => simp [isCanonicalMembers]
  | cons member members ih => simp [isCanonicalMembers, ih]

theorem canonicalAll_eq_map (items : List Json) : canonicalAll items = items.map canonical := by
  induction items with
  | nil => rfl
  | cons item items ih => rw [canonicalAll, ih, List.map_cons]

theorem canonicalMembers_eq_map (members : List (String × Json)) :
    canonicalMembers members = members.map fun member => (member.1, member.2.canonical) := by
  induction members with
  | nil => rfl
  | cons member members ih => rw [canonicalMembers, ih, List.map_cons]

/-- Ordering only leaves members out, so that those left are still canonical. -/
theorem isCanonical_canonical (value : Json) : value.canonical.isCanonical := by
  induction value with
  | null | bool | string | illFormed => rfl
  | number value => exact value.isCanonical_canonical
  | array items ih =>
    rw [canonical, isCanonical, isCanonicalAll_iff, canonicalAll_eq_map]
    exact List.forall_mem_map.mpr ih
  | object members ih =>
    have hmembers : isCanonicalMembers (ordered (canonicalMembers members)) := by
      rw [isCanonicalMembers_iff]
      intro member hmember
      have hmapped := List.mem_reverse.mp (List.mem_of_find?_eq_some (mem_ordered_iff.mp hmember))
      rw [canonicalMembers_eq_map] at hmapped
      obtain ⟨written, hwritten, rfl⟩ := List.mem_map.mp hmapped
      exact ih written hwritten
    rw [canonical, isCanonical, hmembers, decide_eq_true (pairwise_ordered _), Bool.and_true]

example : canonical (.object [("b", .null), ("a", .bool true), ("a", .bool false)]) =
    .object [("a", .bool false), ("b", .null)] := rfl

/-- A value in memory. -/
structure Value where
  json : Json
  isCanonical : json.isCanonical

/-- The value that is held of a written one. -/
def value (written : Json) : Value := ⟨written.canonical, isCanonical_canonical written⟩

end ReplyTemplate.Json
