import ReplyTemplate.Proofs.EndAlike
import ReplyTemplate.Proofs.Table
import ReplyTemplate.Reference

/-! Tables with the same names and keys. References in a text are found in both tables or missing in
both, whatever the values are. -/

namespace ReplyTemplate

def Reference.inText (text : String) : List (String × String) :=
  (Piece.ofChars text.toList).filterMap fun
    | .literal _ => none
    | .reference name key => some (name, key)

theorem Reference.mem_inText {text name key : String}
    (h : .reference name key ∈ Piece.ofChars text.toList) : (name, key) ∈ Reference.inText text :=
  List.mem_filterMap.mpr ⟨_, h, rfl⟩

namespace Table

structure SameKeys (t u : Table) : Prop where
  names : ∀ name, t.contains name = u.contains name
  keys : ∀ name key, (t.get? name key).isSome = (u.get? name key).isSome

theorem sameKeys_insert (table : Table) (name key value other : String) :
    (table.insert name key value).SameKeys (table.insert name key other) := by
  constructor
  · intro name'
    rw [insert, insert, contains_install, contains_install]
  · intro name' key'
    rw [get?_insert, get?_insert]
    split
    · rfl
    · rfl

structure AlikeAt (same : String × String → Prop) (t u : Table) : Prop extends SameKeys t u where
  values : ∀ name key, same (name, key) → t.get? name key = u.get? name key

variable {same : String × String → Prop} {t u : Table}

theorem AlikeAt.install (h : t.AlikeAt same u) (name : String) (pairs : List (String × String)) :
    (t.install name pairs).AlikeAt same (u.install name pairs) := by
  constructor
  · constructor
    · intro other
      rw [contains_install, contains_install, h.names]
    · intro other key
      have hkeys := h.keys other key
      rw [get?_install, get?_install]
      split
      · rw [Option.isSome_or, Option.isSome_or, hkeys]
      · exact hkeys
  · intro other key hsame
    rw [get?_install, get?_install, h.values other key hsame]

theorem AlikeAt.lookup (h : t.AlikeAt same u) (name key : String) :
    EndAlike (fun a b => same (name, key) → a = b) (t.lookup name key) (u.lookup name key) := by
  have hnames := h.names name
  have hkeys := h.keys name key
  have hvalues := h.values name key
  rw [contains_eq_isSome_entries, contains_eq_isSome_entries] at hnames
  unfold get? at hkeys hvalues
  unfold Table.lookup
  rcases ht : t.entries[name]? with _ | values <;> rcases hu : u.entries[name]? with _ | others <;>
    rw [ht, hu] at hnames hkeys hvalues
  · exact .error _
  · cases hnames
  · cases hnames
  dsimp only
  rw [Option.bind_some, Option.bind_some] at hkeys hvalues
  rcases hvalue : values[key]? with _ | value <;> rcases hother : others[key]? with _ | other <;>
    rw [hvalue, hother] at hkeys hvalues
  · exact .error _
  · cases hkeys
  · cases hkeys
  · exact .ok fun hsame => Option.some.inj (hvalues hsame)

/-- Only the values that a text refers to make a difference to it. -/
theorem AlikeAt.substitute (h : t.AlikeAt same u) (text : String) :
    EndAlike (fun a b => (∀ reference ∈ Reference.inText text, same reference) → a = b)
      (t.substitute text) (u.substitute text) := by
  have hpieces : ∀ piece ∈ Piece.ofChars text.toList,
      EndAlike (fun a b => (∀ reference ∈ Reference.inText text, same reference) → a = b)
        (piece.expand t) (piece.expand u) := by
    intro piece hpiece
    cases piece with
    | literal c => exact .ok fun _ => rfl
    | reference name key =>
      refine (h.lookup name key).bind fun a b hab => ?_
      refine .ok fun hsame => ?_
      rw [hab (hsame _ (Reference.mem_inText hpiece))]
  unfold Table.substitute
  refine (EndAlike.mapM hpieces).bind fun as bs habs => ?_
  refine .ok fun hsame => ?_
  have heq : List.Forall₂ (· = ·) as bs := habs.imp fun _ _ hab => hab hsame
  rw [List.forall₂_eq_eq_eq] at heq
  rw [heq]

end Table

end ReplyTemplate
