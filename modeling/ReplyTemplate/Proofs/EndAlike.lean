import Mathlib.Data.List.Forall2

/-! Computations that end in the same way, or do so where one of them gives a result. -/

namespace ReplyTemplate

/-- Both give results, which are related, or both fail with the same error. -/
inductive EndAlike {ε α β : Type} (R : α → β → Prop) : Except ε α → Except ε β → Prop where
  | ok {a : α} {b : β} (h : R a b) : EndAlike R (.ok a) (.ok b)
  | error (error : ε) : EndAlike R (.error error) (.error error)

namespace EndAlike

variable {ε δ α β γ : Type} {R : α → β → Prop}

theorem refl {R : α → α → Prop} (hrefl : ∀ a, R a a) (x : Except ε α) : EndAlike R x x := by
  cases x with
  | ok a => exact .ok (hrefl a)
  | error error => exact .error error

theorem cases {x : Except ε α} {y : Except ε β} (h : EndAlike R x y) :
    (∃ a b, x = .ok a ∧ y = .ok b) ∨ ∃ error, x = .error error ∧ y = .error error := by
  cases h with
  | @ok a b => exact .inl ⟨a, b, rfl, rfl⟩
  | error error => exact .inr ⟨error, rfl, rfl⟩

theorem eq {x y : Except ε α} (h : EndAlike (· = ·) x y) : x = y := by
  cases h with
  | ok h => rw [h]
  | error error => rfl

theorem bind {α' β' : Type} {S : α' → β' → Prop} {x : Except ε α} {y : Except ε β}
    {f : α → Except ε α'} {g : β → Except ε β'} (h : EndAlike R x y)
    (hnext : ∀ a b, R a b → EndAlike S (f a) (g b)) : EndAlike S (x >>= f) (y >>= g) := by
  cases h with
  | ok h => exact hnext _ _ h
  | error error => exact .error error

theorem mapM {f : γ → Except ε α} {g : γ → Except ε β} {xs : List γ}
    (h : ∀ x ∈ xs, EndAlike R (f x) (g x)) :
    EndAlike (List.Forall₂ R) (xs.mapM f) (xs.mapM g) := by
  induction xs with
  | nil =>
    rw [List.mapM_nil, List.mapM_nil]
    exact .ok .nil
  | cons x xs ih =>
    obtain ⟨hx, hxs⟩ := List.forall_mem_cons.mp h
    rw [List.mapM_cons, List.mapM_cons]
    refine hx.bind fun a b hab => ?_
    refine (ih hxs).bind fun as bs habs => ?_
    exact .ok (.cons hab habs)

theorem mapError {x : Except ε α} {y : Except ε β} (h : EndAlike R x y) (f : ε → δ) :
    EndAlike R (x.mapError f) (y.mapError f) := by
  cases h with
  | ok h => exact .ok h
  | error error => exact .error (f error)

theorem mono {S : α → β → Prop} {x : Except ε α} {y : Except ε β} (h : EndAlike R x y)
    (hmono : ∀ a b, R a b → S a b) : EndAlike S x y := by
  cases h with
  | ok h => exact .ok (hmono _ _ h)
  | error error => exact .error error

theorem map {x : Except ε α} {y : Except ε β} (h : EndAlike R x y) {α' β' : Type}
    {S : α' → β' → Prop} {f : α → α'} {g : β → β'} (hmap : ∀ a b, R a b → S (f a) (g b)) :
    EndAlike S (x.map f) (y.map g) := by
  cases h with
  | ok h => exact .ok (hmap _ _ h)
  | error error => exact .error error

end EndAlike

/-- If the first computation gives a result, the second gives the same one. -/
def OkAlike {ε α : Type} (x y : Except ε α) : Prop := ∀ a, x = .ok a → y = .ok a

namespace OkAlike

variable {ε δ α β : Type}

theorem refl (x : Except ε α) : OkAlike x x := fun _ h => h

theorem bind {x y : Except ε α} {f g : α → Except ε β} (h : OkAlike x y)
    (hnext : ∀ a, OkAlike (f a) (g a)) : OkAlike (x >>= f) (y >>= g) := by
  intro b hb
  cases hx : x with
  | error error =>
    rw [hx] at hb
    cases hb
  | ok a =>
    rw [hx] at hb
    rw [h a hx]
    exact hnext a b hb

theorem mapM {f g : α → Except ε β} {xs : List α} (h : ∀ x ∈ xs, OkAlike (f x) (g x)) :
    OkAlike (xs.mapM f) (xs.mapM g) := by
  induction xs with
  | nil => exact refl _
  | cons x xs ih =>
    obtain ⟨hx, hxs⟩ := List.forall_mem_cons.mp h
    rw [List.mapM_cons, List.mapM_cons]
    refine hx.bind fun y => ?_
    refine (ih hxs).bind fun ys => ?_
    exact refl _

theorem mapError {x y : Except ε α} (h : OkAlike x y) (f : ε → δ) :
    OkAlike (x.mapError f) (y.mapError f) := by
  intro a ha
  cases hx : x with
  | error error =>
    rw [hx] at ha
    cases ha
  | ok a' =>
    rw [hx] at ha
    cases ha
    rw [h a hx]
    rfl

end OkAlike

end ReplyTemplate
