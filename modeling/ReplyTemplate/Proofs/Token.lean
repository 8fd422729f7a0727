import ReplyTemplate.Template.Source
import ReplyTemplate.Token

/-! Tokens of written characters, and how deep calls nest in tokens. -/

namespace ReplyTemplate.Token

/-- The token of a character that no other goes with. -/
def ofChar : Char → Token
  | ')' => closing
  | '=' => equals
  | '|' => bar
  | c => plain c

def written (isSpecial : Char → Bool) (c : Char) : Token :=
  if isSpecial c then escaped c else ofChar c

theorem ofChars_cons {c : Char} (hb : c ≠ '\\') (hd : c ≠ '$') (rest : List Char) :
    ofChars (c :: rest) = ofChar c :: ofChars rest := by
  unfold ofChar
  split
  · rw [ofChars]
  · rw [ofChars]
  · rw [ofChars]
  · next hclosing hequals hbar =>
    rw [ofChars]
    all_goals simp_all

theorem ofChars_escape (isSpecial : Char → Bool) (hb : isSpecial '\\') (hd : isSpecial '$')
    (cs rest : List Char) :
    ofChars (escape isSpecial cs ++ rest) = cs.map (written isSpecial) ++ ofChars rest := by
  induction cs with
  | nil => rfl
  | cons c cs ih =>
    by_cases hc : isSpecial c
    · have hcons : escape isSpecial (c :: cs) = '\\' :: c :: escape isSpecial cs := by
        simp [escape, hc]
      rw [hcons, List.cons_append, List.cons_append, ofChars, ih, List.map_cons, written, if_pos hc,
        List.cons_append]
    · have hne : c ≠ '\\' ∧ c ≠ '$' := by
        constructor <;> rintro rfl <;> contradiction
      have hcons : escape isSpecial (c :: cs) = c :: escape isSpecial cs := by simp [escape, hc]
      rw [hcons, List.cons_append, ofChars_cons hne.1 hne.2, ih, List.map_cons, written, if_neg hc,
        List.cons_append]

def totalSize (tokens : List Token) : Nat := byteSize (tokens.flatMap spelling)

@[simp] theorem totalSize_nil : totalSize [] = 0 := rfl

@[simp] theorem totalSize_cons (token : Token) (tokens : List Token) :
    totalSize (token :: tokens) = token.size + totalSize tokens := by simp [totalSize, size]

@[simp] theorem totalSize_append (s t : List Token) :
    totalSize (s ++ t) = totalSize s + totalSize t := by simp [totalSize]

/-- How many calls are open after some tokens; `none` if one of them closes a call that is not
open. -/
def depthAfter (depth : Nat) : List Token → Option Nat
  | [] => some depth
  | opening :: tokens => depthAfter (depth + 1) tokens
  | closing :: tokens => if depth = 0 then none else depthAfter (depth - 1) tokens
  | _ :: tokens => depthAfter depth tokens

theorem depthAfter_append (depth : Nat) (s t : List Token) :
    depthAfter depth (s ++ t) = (depthAfter depth s).bind fun depth => depthAfter depth t := by
  fun_induction depthAfter depth s with
  | case1 => rfl
  | case2 depth tokens ih => simpa [depthAfter] using ih
  | case3 tokens => simp [depthAfter]
  | case4 depth tokens hdepth ih => simpa [depthAfter, hdepth] using ih
  | case5 depth token tokens ho hc ih => simpa [depthAfter] using ih

/-- Where closing parentheses are escaped, written characters neither open nor close a call. -/
theorem depthAfter_map_written (isSpecial : Char → Bool) (hc : isSpecial ')') (depth : Nat)
    (cs : List Char) : depthAfter depth (cs.map (written isSpecial)) = some depth := by
  induction cs with
  | nil => rfl
  | cons c cs ih =>
    rw [List.map_cons, written]
    split
    · simpa [depthAfter] using ih
    · next h =>
      unfold ofChar
      split
      · contradiction
      all_goals simpa [depthAfter] using ih

end ReplyTemplate.Token
