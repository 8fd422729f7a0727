import ReplyTemplate.Proofs.EndAlike
import ReplyTemplate.Proofs.Table
import ReplyTemplate.Reference

/-! Tables that hold all of another one. References that are found in the smaller table have the
same values in the larger one. -/

namespace ReplyTemplate.Table

structure Within (t u : Table) : Prop where
  names : ∀ name, t.contains name → u.contains name
  values : ∀ name key value, t.get? name key = some value → u.get? name key = some value

namespace Within

variable {t u : Table}

/-- What is installed in both tables takes the place of what only one of them held. -/
theorem install (h : t.Within u) (name : String) (pairs : List (String × String)) :
    (t.install name pairs).Within (u.install name pairs) := by
  constructor
  · intro other hother
    rw [contains_install, Bool.or_eq_true] at hother ⊢
    exact hother.imp_right (h.names other)
  · intro other key value hvalue
    rw [get?_install] at hvalue ⊢
    split at hvalue
    · next hname =>
      rw [if_pos hname]
      rw [Option.or_eq_some_iff] at hvalue ⊢
      exact hvalue.imp_right (And.imp_right (h.values other key value))
    · next hname =>
      rw [if_neg hname]
      exact h.values other key value hvalue

theorem lookup (h : t.Within u) (name key : String) :
    OkAlike (t.lookup name key) (u.lookup name key) := by
  intro value hvalue
  rw [lookup_eq_ok_iff] at hvalue ⊢
  exact h.values name key value hvalue

theorem expand (h : t.Within u) (piece : Piece) : OkAlike (piece.expand t) (piece.expand u) := by
  cases piece with
  | literal c => exact .refl _
  | reference name key => exact (h.lookup name key).bind fun _ => .refl _

theorem substitute (h : t.Within u) (text : String) :
    OkAlike (t.substitute text) (u.substitute text) := by
  have hpieces : OkAlike ((Piece.ofChars text.toList).mapM (Piece.expand t))
      ((Piece.ofChars text.toList).mapM (Piece.expand u)) := .mapM fun piece _ => h.expand piece
  exact hpieces.bind fun _ => .refl _

end Within

theorem within_insert {table : Table} {name key : String} (h : table.get? name key = none)
    (value : String) : table.Within (table.insert name key value) := by
  constructor
  · intro other hother
    rw [insert, contains_install, hother, Bool.or_true]
  · intro other otherKey found hfound
    have hne : ¬ (name = other ∧ key = otherKey) := by
      rintro ⟨rfl, rfl⟩
      rw [h] at hfound
      cases hfound
    rw [get?_insert, if_neg hne, hfound]

end ReplyTemplate.Table
