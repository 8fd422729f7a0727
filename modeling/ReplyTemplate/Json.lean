import ReplyTemplate.Json.Number

/-! JSON values. -/

namespace ReplyTemplate

/-- An object holds its members as they were written, those with equal names too. -/
inductive Json where
  | null
  | bool (value : Bool)
  | number (value : Json.Number)
  | string (value : String)
  /-- A string with half of a surrogate pair, or an object with a member of such a name. It stands
  for nothing and can only be passed over. -/
  | illFormed
  | array (items : List Json)
  | object (members : List (String × Json))
deriving Inhabited

namespace Json

/-- Induction over the items of arrays and the values of members. -/
@[induction_eliminator]
theorem induction {motive : Json → Prop} (null : motive null) (bool : ∀ value, motive (bool value))
    (number : ∀ value, motive (number value)) (string : ∀ value, motive (string value))
    (illFormed : motive illFormed)
    (array : ∀ items, (∀ item ∈ items, motive item) → motive (array items))
    (object : ∀ members, (∀ member ∈ members, motive member.2) → motive (object members))
    (value : Json) : motive value := by
  refine @Json.rec motive (fun items => ∀ item ∈ items, motive item)
    (fun members => ∀ member ∈ members, motive member.2) (fun member => motive member.2)
    null bool number string illFormed array object ?noItem ?item ?noMember ?member ?pair value
  case noItem | noMember => exact List.forall_mem_nil _
  case item => exact fun item items hitem hitems => List.forall_mem_cons.mpr ⟨hitem, hitems⟩
  case member => exact fun member members hvalue hmembers =>
    List.forall_mem_cons.mpr ⟨hvalue, hmembers⟩
  case pair => exact fun name value hvalue => hvalue

/-- Text is read as long as arrays and objects nest at most this deep. -/
def depthLimit : Nat := 127

mutual

/-- How many arrays and objects stand inside each other at the deepest place. -/
def depth : Json → Nat
  | array items => depthAll items + 1
  | object members => depthMembers members + 1
  | _ => 0

def depthAll : List Json → Nat
  | [] => 0
  | item :: items => max (depth item) (depthAll items)

def depthMembers : List (String × Json) → Nat
  | [] => 0
  | (_, value) :: members => max (depth value) (depthMembers members)

end

mutual

/-- Whether every number in the value is in range and nothing is ill formed. -/
def isReadable : Json → Bool
  | number value => value.inRange
  | illFormed => false
  | array items => isReadableAll items
  | object members => isReadableMembers members
  | _ => true

def isReadableAll : List Json → Bool
  | [] => true
  | item :: items => isReadable item && isReadableAll items

def isReadableMembers : List (String × Json) → Bool
  | [] => true
  | (_, value) :: members => isReadable value && isReadableMembers members

end

def string? : Json → Option String
  | string value => some value
  | _ => none

/-- A string, or `null` for none. -/
def optionalString? : Json → Option (Option String)
  | null => some none
  | string value => some (some value)
  | _ => none

/-- What a member holds, if there is one of the name; a second one of the name is refused. -/
def member? (members : List (String × Json)) (name : String) : Option (Option Json) :=
  match members.filter fun entry => entry.1 == name with
  | [] => some none
  | [(_, value)] => some (some value)
  | _ => none

/-- The fields of a record. It is an object, in which other members do not count, or an array of the
fields in their order, in which the last ones may be missing. -/
def fields? (names : List String) : Json → Option (List (Option Json))
  | object members => names.mapM (member? members)
  | array items =>
    if items.length ≤ names.length then
      some (items.map some ++ List.replicate (names.length - items.length) none)
    else none
  | _ => none

/-- A member for each value that is there. -/
def present (name : String) (value : Option Json) : List (String × Json) :=
  match value with
  | none => []
  | some value => [(name, value)]

end Json

end ReplyTemplate
