/-! Reply templates as trees of text and plugin calls. -/

namespace ReplyTemplate

/-- A call names a plugin. It may have an argument for it, and a scope to use its bindings in. -/
inductive Template where
  | text (contents : String)
  | group (parts : List Template)
  | call (plugin : String) (argument : Option String) (scope : Option Template)
deriving Repr, Inhabited

namespace Template

mutual

def decEq : (s t : Template) → Decidable (s = t)
  | text a, text b => decidable_of_iff (a = b) (by simp)
  | group a, group b => match decEqAll a b with
    | isTrue h => isTrue (by rw [h])
    | isFalse h => isFalse (by simpa using h)
  | call p a none, call q b none => decidable_of_iff (p = q ∧ a = b) (by simp)
  | call p a (some s), call q b (some t) => match decEq s t with
    | isTrue h => decidable_of_iff (p = q ∧ a = b) (by simp [h])
    | isFalse h => isFalse (by simp [h])
  | call _ _ none, call _ _ (some _) => isFalse (by simp)
  | call _ _ (some _), call _ _ none => isFalse (by simp)
  | text _, group _ | text _, call .. | group _, text _ | group _, call .. | call .., text _
  | call .., group _ => isFalse (by simp)

def decEqAll : (ss ts : List Template) → Decidable (ss = ts)
  | [], [] => isTrue rfl
  | [], _ :: _ | _ :: _, [] => isFalse (by simp)
  | s :: ss, t :: ts => match decEq s t, decEqAll ss ts with
    | isTrue h, isTrue hs => isTrue (by rw [h, hs])
    | isFalse h, _ => isFalse (by simp [h])
    | _, isFalse h => isFalse (by simp [h])

end

instance : DecidableEq Template := decEq

/-- Induction over the parts of groups and the scopes of calls. -/
@[induction_eliminator]
theorem induction {motive : Template → Prop} (text : ∀ contents, motive (text contents))
    (group : ∀ parts, (∀ part ∈ parts, motive part) → motive (group parts))
    (bareCall : ∀ plugin argument, motive (call plugin argument none))
    (scopedCall : ∀ plugin argument scope, motive scope →
      motive (call plugin argument (some scope)))
    (template : Template) : motive template := by
  refine @Template.rec motive (fun parts => ∀ part ∈ parts, motive part)
    (fun scope? => ∀ scope ∈ scope?, motive scope) text group ?call ?nil ?cons ?none ?some template
  case call =>
    intro plugin argument scope? ih
    cases scope? with
    | none => exact bareCall plugin argument
    | some scope => exact scopedCall plugin argument scope (ih scope rfl)
  case nil => simp
  case cons => exact fun part parts hpart hparts => List.forall_mem_cons.mpr ⟨hpart, hparts⟩
  case none => simp
  case some => simp

/-- A call with neither argument nor scope. -/
def invoke (plugin : String) : Template := call plugin none none

/-- Only a call takes an argument. -/
def withArgument (template : Template) (argument : String) : Template :=
  match template with
  | call plugin _ scope => call plugin (some argument) scope
  | other => other

/-- Only a call takes a scope. -/
def withScope (template scope : Template) : Template :=
  match template with
  | call plugin argument _ => call plugin argument (some scope)
  | other => other

mutual

/-- The names of the called plugins, each call before the calls in its scope. -/
def pluginNames : Template → List String
  | text _ => []
  | group parts => pluginNamesAll parts
  | call plugin _ none => [plugin]
  | call plugin _ (some scope) => plugin :: pluginNames scope

def pluginNamesAll : List Template → List String
  | [] => []
  | part :: parts => pluginNames part ++ pluginNamesAll parts

end

mutual

/-- How many calls stand inside each other at the deepest place. -/
def depth : Template → Nat
  | text _ => 0
  | group parts => depthAll parts
  | call _ _ none => 1
  | call _ _ (some scope) => depth scope + 1

def depthAll : List Template → Nat
  | [] => 0
  | part :: parts => max (depth part) (depthAll parts)

end

theorem depthAll_le_iff {parts : List Template} {n : Nat} :
    depthAll parts ≤ n ↔ ∀ part ∈ parts, depth part ≤ n := by
  induction parts with
  | nil => simp [depthAll]
  | cons part parts ih => rw [depthAll, Nat.max_le, ih, List.forall_mem_cons]

/-- One part stands for itself, and no part for empty text. -/
def ofParts : List Template → Template
  | [] => text ""
  | [part] => part
  | parts => group parts

end Template

end ReplyTemplate
