import Mathlib.Data.List.Basic
import ReplyTemplate.Proofs.Token

/-! Tokens and their spelling. Tokens that stand together in a source are read from their own
spelling alone as they are in the source. -/

namespace ReplyTemplate.Token

theorem ofChars_dollar {rest : List Char} (h : rest.head? ≠ some '(') :
    ofChars ('$' :: rest) = plain '$' :: ofChars rest := by
  match rest, h with
  | [], _ => rfl
  | c :: rest, h =>
    have hc : c ≠ '(' := by simpa using h
    rw [ofChars]
    all_goals simp_all

/-- Whether a token stays the same in front of some characters. -/
def CanPrecede (rest : List Char) : Token → Prop
  | plain c => c ≠ '\\' ∧ ofChar c = plain c ∧ (c = '$' → rest.head? ≠ some '(')
  | dangling => rest = []
  | _ => True

theorem CanPrecede.of_append {token : Token} {p q : List Char} (h : token.CanPrecede (p ++ q)) :
    token.CanPrecede p := by
  cases token with
  | plain c =>
    obtain ⟨hb, hc, hd⟩ := h
    refine ⟨hb, hc, fun hdollar hp => hd hdollar ?_⟩
    rw [List.head?_append, hp, Option.some_or]
  | dangling => exact (List.append_eq_nil_iff.mp h).1
  | _ => trivial

theorem ofChars_spelling_append {token : Token} {rest : List Char} (h : token.CanPrecede rest) :
    ofChars (token.spelling ++ rest) = token :: ofChars rest := by
  cases token with
  | plain c =>
    obtain ⟨hb, hc, hd⟩ := h
    by_cases hdollar : c = '$'
    · subst hdollar
      exact ofChars_dollar (hd rfl)
    · rw [spelling, List.singleton_append, ofChars_cons hb hdollar, hc]
  | dangling =>
    obtain rfl : rest = [] := h
    rfl
  | _ => simp [spelling, ofChars]

theorem spelling_ofChar {c : Char} (hb : c ≠ '\\') (hd : c ≠ '$') (rest : List Char) :
    (ofChar c).spelling = [c] ∧ (ofChar c).CanPrecede rest := by
  by_cases hc : ofChar c = plain c
  · rw [hc]
    exact ⟨rfl, hb, hc, fun h => absurd h hd⟩
  · unfold ofChar at hc ⊢
    split at hc
    · exact ⟨rfl, trivial⟩
    · exact ⟨rfl, trivial⟩
    · exact ⟨rfl, trivial⟩
    · exact absurd rfl hc

/-- The first token is read from its spelling, and the rest of the characters by themselves. -/
theorem ofChars_eq_cons {cs : List Char} {token : Token} {tokens : List Token}
    (h : ofChars cs = token :: tokens) :
    ∃ rest, cs = token.spelling ++ rest ∧ token.CanPrecede rest ∧ ofChars rest = tokens := by
  match cs with
  | [] => cases h
  | c :: rest =>
    by_cases hb : c = '\\'
    · subst hb
      cases rest with
      | nil =>
        cases h
        exact ⟨[], rfl, rfl, rfl⟩
      | cons c rest =>
        rw [ofChars] at h
        cases h
        exact ⟨rest, rfl, trivial, rfl⟩
    by_cases hd : c = '$'
    · subst hd
      by_cases ho : rest.head? = some '('
      · obtain ⟨rest, rfl⟩ := List.head?_eq_some_iff.mp ho
        rw [ofChars] at h
        cases h
        exact ⟨rest, rfl, trivial, rfl⟩
      · rw [ofChars_dollar ho] at h
        cases h
        exact ⟨rest, rfl, ⟨by decide, rfl, fun _ => ho⟩, rfl⟩
    · rw [ofChars_cons hb hd] at h
      cases h
      obtain ⟨hspelling, hprecede⟩ := spelling_ofChar hb hd rest
      exact ⟨rest, by rw [hspelling, List.singleton_append], hprecede, rfl⟩

def AreRead (tokens : List Token) : Prop := ofChars (tokens.flatMap spelling) = tokens

theorem areRead_ofChars (cs : List Char) : AreRead (ofChars cs) := by
  rw [AreRead, flatMap_spelling_ofChars]

theorem areRead_cons_iff {token : Token} {tokens : List Token} :
    AreRead (token :: tokens) ↔ token.CanPrecede (tokens.flatMap spelling) ∧ AreRead tokens := by
  rw [AreRead, List.flatMap_cons]
  constructor
  · intro h
    obtain ⟨rest, hcs, hrest, htokens⟩ := ofChars_eq_cons h
    obtain rfl := List.append_cancel_left hcs
    exact ⟨hrest, htokens⟩
  · rintro ⟨htoken, htokens⟩
    rw [ofChars_spelling_append htoken, htokens]

theorem AreRead.of_append_right {s t : List Token} (h : AreRead (s ++ t)) : AreRead t := by
  induction s with
  | nil => exact h
  | cons token s ih => exact ih (areRead_cons_iff.mp h).2

theorem AreRead.of_append_left {s t : List Token} (h : AreRead (s ++ t)) : AreRead s := by
  induction s with
  | nil => rfl
  | cons token s ih =>
    rw [List.cons_append, areRead_cons_iff, List.flatMap_append] at h
    exact areRead_cons_iff.mpr ⟨h.1.of_append, ih h.2⟩

theorem spelling_ne_nil (token : Token) : token.spelling ≠ [] := by
  cases token <;> simp [spelling]

/-- A backslash without a character after it is the last of the tokens. -/
theorem AreRead.dangling_not_mem {s t : List Token} (h : AreRead (s ++ t)) (ht : t ≠ []) :
    dangling ∉ s := by
  induction s with
  | nil => simp
  | cons token s ih =>
    rw [List.cons_append, areRead_cons_iff] at h
    have hne : dangling ≠ token := by
      rintro rfl
      have hnil : (s ++ t).flatMap spelling = [] := h.1
      obtain ⟨last, hlast⟩ := List.exists_mem_of_ne_nil t ht
      have hspelling := List.flatMap_eq_nil_iff.mp hnil last (List.mem_append_right s hlast)
      exact spelling_ne_nil last hspelling
    rw [List.mem_cons, not_or]
    exact ⟨hne, ih h.2⟩

/-- Characters are read apart from those before them, unless a backslash or `$` comes between. -/
theorem ofChars_append {cs rest : List Char} (hd : dangling ∉ ofChars cs)
    (ho : cs.getLast? = some '$' → rest.head? ≠ some '(') :
    ofChars (cs ++ rest) = ofChars cs ++ ofChars rest := by
  induction htokens : ofChars cs generalizing cs with
  | nil =>
    have hcs : cs = [] := by rw [← flatMap_spelling_ofChars cs, htokens, List.flatMap_nil]
    rw [hcs, List.nil_append, List.nil_append]
  | cons token tokens ih =>
    rw [htokens, List.mem_cons, not_or] at hd
    obtain ⟨cs, rfl, htoken, rfl⟩ := ofChars_eq_cons htokens
    have hrest : ofChars (cs ++ rest) = ofChars cs ++ ofChars rest := by
      refine ih hd.2 (fun h => ho ?_) rfl
      rw [List.getLast?_append, h, Option.some_or]
    have hprecede : token.CanPrecede (cs ++ rest) := by
      cases token with
      | plain c =>
        -- a `$` at the end of `cs` could go together with `(` in `rest`
        obtain ⟨hb, hc, hhead⟩ := htoken
        refine ⟨hb, hc, fun hdollar => ?_⟩
        subst hdollar
        cases cs with
        | nil => exact ho rfl
        | cons next cs => exact hhead rfl
      | dangling => exact absurd rfl hd.1
      | _ => trivial
    rw [List.append_assoc, ofChars_spelling_append hprecede, hrest, List.cons_append]

theorem mem_of_mem_spelling {cs : List Char} {token : Token} (h : token ∈ ofChars cs) {c : Char}
    (hc : c ∈ token.spelling) : c ∈ cs := by
  rw [← flatMap_spelling_ofChars cs, List.mem_flatMap]
  exact ⟨token, h, hc⟩

def textChars : Token → List Char
  | dangling => ['\\']
  | token => token.contents

/-- Without backslashes all characters stand for themselves. -/
theorem flatMap_contents_ofChars {cs : List Char} (h : '\\' ∉ cs) :
    (ofChars cs).flatMap contents = cs := by
  calc (ofChars cs).flatMap contents = (ofChars cs).flatMap spelling := by
        apply List.flatMap_congr
        intro token hmem
        cases token with
        | escaped c => exact absurd (mem_of_mem_spelling hmem (by simp [spelling])) h
        | dangling => exact absurd (mem_of_mem_spelling hmem (by simp [spelling])) h
        | _ => rfl
    _ = cs := flatMap_spelling_ofChars cs

theorem utf8ByteSize_ofList (cs : List Char) : (String.ofList cs).utf8ByteSize = byteSize cs := by
  induction cs with
  | nil => rfl
  | cons c cs ih =>
    rw [byteSize, ← ih, ← List.singleton_append, String.ofList_append, String.utf8ByteSize_append]
    simp

theorem totalSize_ofChars (cs : List Char) : totalSize (ofChars cs) = byteSize cs := by
  rw [totalSize, flatMap_spelling_ofChars]

/-- Characters that are always read as the same tokens have their size. -/
theorem totalSize_of_ofChars_append {cs : List Char} {tokens : List Token}
    (h : ∀ rest, ofChars (cs ++ rest) = tokens ++ ofChars rest) :
    totalSize tokens = byteSize cs := by
  have hall := h []
  rw [List.append_nil, ofChars, List.append_nil] at hall
  rw [← hall, totalSize_ofChars]

theorem totalSize_ofString (source : String) :
    totalSize (ofString source) = source.utf8ByteSize := by
  rw [ofString, totalSize_ofChars, ← utf8ByteSize_ofList, String.ofList_toList]

def sourceOf (tokens : List Token) : String := String.ofList (tokens.flatMap spelling)

theorem sourceOf_append (s t : List Token) : sourceOf (s ++ t) = sourceOf s ++ sourceOf t := by
  rw [sourceOf, List.flatMap_append, String.ofList_append]
  rfl

theorem utf8ByteSize_sourceOf (tokens : List Token) :
    (sourceOf tokens).utf8ByteSize = totalSize tokens := utf8ByteSize_ofList _

theorem sourceOf_ofString (source : String) : sourceOf (ofString source) = source := by
  rw [sourceOf, ofString, flatMap_spelling_ofChars, String.ofList_toList]

theorem AreRead.ofString_sourceOf {tokens : List Token} (h : AreRead tokens) :
    ofString (sourceOf tokens) = tokens := by
  rw [ofString, sourceOf, String.toList_ofList]
  exact h

theorem depthAfter_cons {token : Token} (ho : token ≠ opening) (hc : token ≠ closing)
    (depth : Nat) (tokens : List Token) :
    depthAfter depth (token :: tokens) = depthAfter depth tokens := by
  cases token with
  | opening => exact absurd rfl ho
  | closing => exact absurd rfl hc
  | _ => rfl

/-- How many calls are open after one more token, if it closes no call that is not open. -/
def nextDepth (depth : Nat) : Token → Nat
  | opening => depth + 1
  | closing => depth - 1
  | _ => depth

theorem nextDepth_mono {depth more : Nat} (h : depth ≤ more) (token : Token) :
    nextDepth depth token ≤ nextDepth more token := by
  cases token <;> simp only [nextDepth] <;> omega

/-- The calls that are open after some tokens and those closed by them are the ones that were open
before and those opened by them. -/
theorem add_count_closing_of_depthAfter {depth after : Nat} {tokens : List Token}
    (h : depthAfter depth tokens = some after) :
    after + tokens.count closing = depth + tokens.count opening := by
  fun_induction depthAfter depth tokens with
  | case1 depth =>
    obtain rfl := Option.some.inj h
    rfl
  | case2 depth tokens ih =>
    have hrest := ih h
    rw [List.count_cons_self, List.count_cons_of_ne (by decide)]
    omega
  | case3 tokens => cases h
  | case4 depth tokens hdepth ih =>
    have hrest := ih h
    rw [List.count_cons_self, List.count_cons_of_ne (by decide)]
    omega
  | case5 depth token tokens ho hc ih =>
    rw [List.count_cons_of_ne hc, List.count_cons_of_ne ho]
    exact ih h

theorem depthAfter_concat_eq_some_iff {depth after : Nat} {tokens : List Token} {token : Token} :
    depthAfter depth (tokens ++ [token]) = some after ↔
      ∃ before, depthAfter depth tokens = some before ∧ (token = closing → 0 < before) ∧
        nextDepth before token = after := by
  rw [depthAfter_append, Option.bind_eq_some_iff]
  refine exists_congr fun before => and_congr_right fun _ => ?_
  cases token with
  | closing =>
    by_cases h : before = 0 <;> simp [depthAfter, nextDepth, h]
    omega
  | _ => simp [depthAfter, nextDepth]

end ReplyTemplate.Token
