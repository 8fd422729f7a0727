import Mathlib.Algebra.Group.Nat.Even
import ReplyTemplate.Proofs.Template.Balance

/-! Places of errors. An error of a source is at a `$(` of the source itself, however deep the scope
in which it was found. -/

namespace ReplyTemplate.Template

open Token (AreRead areRead_cons_iff spelling totalSize)

def endingBackslashes (cs : List Char) : Nat := (cs.reverse.takeWhile (· == '\\')).length

/-- What the characters before the first `=` or `|` stand for. -/
def nameChars : List Char → List Char
  | [] => []
  | ['\\'] => []
  | '\\' :: c :: rest => c :: nameChars rest
  | c :: rest => if c = '=' ∨ c = '|' then [] else c :: nameChars rest

/-! Tokens after the `$(` of a call. -/

def startsRest : Token → Bool
  | .equals | .bar => true
  | _ => false

/-- What an error tells of the call at `offset` that has the tokens `after` behind its `$(`. -/
def PointsTo (offset : Nat) (after : List Token) : TemplateError → Prop
  | .emptyName place => place = offset ∧ ∃ token ∈ after.head?, Reader.endsName token
  | .nestingTooDeep place limit => place = offset ∧ limit = nestingLimit
  | .unterminated name place => place = offset ∧
    name = String.ofList ((after.takeWhile (!startsRest ·)).flatMap Token.contents)
  | _ => False

theorem contents_ne_nil {token : Token} (h : token ≠ .dangling) : token.contents ≠ [] := by
  cases token with
  | dangling => exact absurd rfl h
  | _ => exact List.cons_ne_nil _ _

theorem eq_nil_of_flatMap_contents {tokens : List Token} (hdangling : .dangling ∉ tokens)
    (h : tokens.flatMap Token.contents = []) : tokens = [] := by
  apply List.eq_nil_iff_forall_not_mem.mpr
  intro token hmem
  refine contents_ne_nil ?_ (List.flatMap_eq_nil_iff.mp h token hmem)
  rintro rfl
  exact hdangling hmem

theorem takeWhile_of_isOpen {nameTokens rest : List Token}
    (hname : ∀ token ∈ nameTokens, ¬ Reader.endsName token)
    (hrest : ∀ token ∈ rest.head?, token = .equals ∨ token = .bar) :
    (nameTokens ++ rest).takeWhile (!startsRest ·) = nameTokens := by
  have hstart : ∀ token ∈ nameTokens, (!startsRest token) = true := by
    intro token hmem
    have hends := hname token hmem
    cases token <;> simp [startsRest, Reader.endsName] at hends ⊢
  rw [List.takeWhile_append_of_pos hstart]
  cases rest with
  | nil => exact List.append_nil nameTokens
  | cons token rest =>
    obtain rfl | rfl := hrest token rfl
    all_goals simp [startsRest]

/-- The own error of a reading points to a call that opens in its tokens. -/
theorem Fails.exists_pointsTo {room start : Nat} {tokens : List Token} {error : TemplateError}
    (h : Fails room start tokens error) (hread : AreRead tokens) :
    ∃ before after, tokens = before ++ .opening :: after ∧
      PointsTo (start + totalSize before) after error := by
  cases h with
  | @nestingTooDeep before after r htokens hrun =>
    exact ⟨before, after, htokens, (Reader.leads_of_run hrun).1, rfl⟩
  | @emptyName read after r offset htokens hrun hcall =>
    obtain ⟨rest, before, nameTokens, r, rfl, hopened, -, rfl, hname, -, hrest⟩ :=
      (Reader.leads_of_run hrun).2.isOpen hcall
    have hnil : nameTokens = [] := by
      refine eq_nil_of_flatMap_contents (fun hmem => ?_) (by simpa using hname)
      rw [htokens] at hread
      exact hread.dangling_not_mem (by simp) (by simp [hmem])
    subst hnil
    refine ⟨before, rest ++ .closing :: after, by simp [htokens], ?_, ?_⟩
    · exact (Reader.leads_of_run hopened).1
    cases rest with
    | nil => exact ⟨.closing, rfl, rfl⟩
    | cons token rest =>
      refine ⟨token, rfl, ?_⟩
      obtain rfl | rfl := hrest token rfl
      all_goals rfl
  | @unterminated r offset name hrun hcall =>
    obtain ⟨rest, before, nameTokens, r, rfl, hopened, -, rfl, rfl, hname, hrest⟩ :=
      (Reader.leads_of_run hrun).2.isOpen hcall
    refine ⟨before, nameTokens ++ rest, rfl, (Reader.leads_of_run hopened).1, ?_⟩
    rw [takeWhile_of_isOpen hname hrest]

/-- More tokens behind make no difference to an error that is not about their end. -/
theorem PointsTo.append {offset : Nat} {after : List Token} {error : TemplateError}
    (h : PointsTo offset after error) (hne : ∀ name place, error ≠ .unterminated name place)
    (more : List Token) : PointsTo offset (after ++ more) error := by
  cases error with
  | emptyName place =>
    obtain ⟨hplace, token, hmem, hends⟩ := h
    refine ⟨hplace, token, ?_, hends⟩
    rw [List.head?_append, hmem, Option.some_or]
    rfl
  | unterminated name place => exact absurd rfl (hne name place)
  | _ => exact h

theorem exists_pointsTo_of_readWithin {room start : Nat} {tokens : List Token}
    {error : TemplateError} (h : readWithin room start tokens = .error error)
    (hread : AreRead tokens) :
    ∃ before after, tokens = before ++ .opening :: after ∧
      PointsTo (start + totalSize before) after error := by
  obtain ⟨room', start', tokens', hreads, hfails⟩ := exists_fails_of_readWithin h
  obtain ⟨before, after, rfl, hpoints⟩ := hfails.exists_pointsTo (hreads.areRead hread)
  obtain ⟨-, rfl, rfl⟩ | ⟨first, last, rfl, rfl, hdepth⟩ := hreads.self_or_scope
  · exact ⟨before, after, rfl, hpoints⟩
  · -- behind the scope there are more tokens, which only an unterminated call would take in
    refine ⟨first ++ before, after ++ .closing :: last, by simp, ?_⟩
    rw [Token.totalSize_append, ← Nat.add_assoc]
    refine hpoints.append ?_ _
    rintro name place rfl
    exact not_fails_unterminated hdepth name place hfails

/-! The characters of such tokens. -/

theorem endingBackslashes_concat (cs : List Char) (c : Char) :
    endingBackslashes (cs ++ [c]) = if c = '\\' then endingBackslashes cs + 1 else 0 := by
  rw [endingBackslashes, List.reverse_concat, List.takeWhile_cons]
  by_cases h : c = '\\' <;> simp [h, endingBackslashes]

theorem endingBackslashes_append (before : List Char) {cs : List Char} {c : Char}
    (hlast : cs.getLast? = some c) (hc : c ≠ '\\') : endingBackslashes (before ++ cs) = 0 := by
  obtain ⟨cs, rfl⟩ := List.getLast?_eq_some_iff.mp hlast
  rw [← List.append_assoc, endingBackslashes_concat, if_neg hc]

/-- Backslashes come in pairs where no character is escaped. -/
theorem even_endingBackslashes {before : List Token} {token : Token} {after : List Token}
    (h : AreRead (before ++ token :: after)) :
    Even (endingBackslashes (before.flatMap spelling)) := by
  induction before using List.reverseRecOn generalizing token after with
  | nil => exact ⟨0, rfl⟩
  | append_singleton before last ih =>
    have hdangling := h.dangling_not_mem (List.cons_ne_nil token after)
    rw [List.append_assoc, List.singleton_append] at h
    have hlast := (areRead_cons_iff.mp h.of_append_right).1
    rw [List.flatMap_append, List.flatMap_singleton]
    -- only an escaped backslash ends in one: with the one before it, it adds two to those so far
    cases last with
    | escaped c =>
      have hsplit : spelling (.escaped c) = ['\\'] ++ [c] := rfl
      rw [hsplit, ← List.append_assoc, endingBackslashes_concat, endingBackslashes_concat,
        if_pos rfl]
      split
      · exact (ih h).add ⟨1, rfl⟩
      · exact ⟨0, rfl⟩
    | dangling => exact absurd (by simp) hdangling
    | plain c => exact ⟨0, endingBackslashes_append _ rfl hlast.1⟩
    | _ => exact ⟨0, endingBackslashes_append _ rfl (by decide)⟩

theorem dangling_not_mem_of_even {cs : List Char} (h : Even (endingBackslashes cs)) :
    .dangling ∉ Token.ofChars cs := by
  intro hmem
  obtain ⟨before, after, htokens⟩ := List.append_of_mem hmem
  have hread := Token.areRead_ofChars cs
  rw [htokens] at hread
  obtain rfl : after = [] := by
    by_contra hne
    rw [List.append_cons] at hread
    exact hread.dangling_not_mem hne (by simp)
  have hcs : before.flatMap Token.spelling ++ ['\\'] = cs := by
    rw [← Token.flatMap_spelling_ofChars cs, htokens]
    simp [Token.spelling]
  rw [← hcs, endingBackslashes_concat, if_pos rfl] at h
  exact (Nat.even_add_one.mp h) (even_endingBackslashes hread)

theorem nameChars_cons {c : Char} (hb : c ≠ '\\') (rest : List Char) :
    nameChars (c :: rest) = if c = '=' ∨ c = '|' then [] else c :: nameChars rest := by
  rw [nameChars]
  all_goals simp [hb]

theorem nameChars_flatMap_spelling {tokens : List Token} (h : AreRead tokens) :
    nameChars (tokens.flatMap spelling) =
      (tokens.takeWhile (!startsRest ·)).flatMap Token.contents := by
  induction tokens with
  | nil => rfl
  | cons token tokens ih =>
    obtain ⟨hprecede, htokens⟩ := areRead_cons_iff.mp h
    have hrest := ih htokens
    rw [List.flatMap_cons, List.takeWhile_cons]
    cases token with
    | plain c =>
      obtain ⟨hb, hc, -⟩ := hprecede
      have hstart : ¬ (c = '=' ∨ c = '|') := by
        rintro (rfl | rfl)
        · cases hc
        · cases hc
      rw [spelling, List.singleton_append, nameChars_cons hb, if_neg hstart, hrest]
      rfl
    | escaped c =>
      rw [spelling, List.cons_append, List.singleton_append, nameChars, hrest]
      rfl
    | dangling =>
      have hnil : tokens.flatMap spelling = [] := hprecede
      rw [hnil] at hrest ⊢
      exact hrest
    | opening =>
      rw [spelling, List.cons_append, List.singleton_append, nameChars_cons (by decide),
        nameChars_cons (by decide), hrest]
      rfl
    | closing =>
      rw [spelling, List.singleton_append, nameChars_cons (by decide), hrest]
      rfl
    | equals | bar => exact nameChars_cons (by decide) _

/-- What an error tells of a call that opens between `before` and `after` in a source. -/
def IsAt (before after : String) : TemplateError → Prop
  | .emptyName place =>
    place = before.utf8ByteSize ∧ ∃ c ∈ after.toList.head?, c = ')' ∨ c = '=' ∨ c = '|'
  | .nestingTooDeep place limit => place = before.utf8ByteSize ∧ limit = 32
  | .unterminated name place =>
    place = before.utf8ByteSize ∧ name = String.ofList (nameChars after.toList)
  | _ => False

theorem PointsTo.isAt {before after : List Token} {error : TemplateError}
    (h : PointsTo (totalSize before) after error) (hread : AreRead after) :
    IsAt (String.ofList (before.flatMap spelling)) (String.ofList (after.flatMap spelling))
      error := by
  cases error with
  | emptyName place =>
    obtain ⟨hplace, token, hmem, hends⟩ := h
    obtain ⟨tokens, rfl⟩ := List.head?_eq_some_iff.mp hmem
    refine ⟨by rw [hplace, Token.utf8ByteSize_ofList, totalSize], ?_⟩
    rw [String.toList_ofList, List.flatMap_cons]
    cases token <;> simp [Reader.endsName, spelling] at hends ⊢
  | nestingTooDeep place limit =>
    exact ⟨by rw [h.1, Token.utf8ByteSize_ofList, totalSize], h.2⟩
  | unterminated name place =>
    refine ⟨by rw [h.1, Token.utf8ByteSize_ofList, totalSize], ?_⟩
    rw [h.2, String.toList_ofList, nameChars_flatMap_spelling hread]
  | _ => exact h

/-- An error is about a `$(` of the source that no backslash escapes. -/
theorem exists_isAt_of_parse {source : String} {error : TemplateError}
    (h : parse source = .error error) :
    ∃ before after : String, source = before ++ "$(" ++ after ∧
      Even (endingBackslashes before.toList) ∧ IsAt before after error := by
  have hread := Token.areRead_ofChars source.toList
  obtain ⟨before, after, htokens, hpoints⟩ := exists_pointsTo_of_readWithin h hread
  rw [Nat.zero_add] at hpoints
  have hsource :
      before.flatMap spelling ++ (['$', '('] ++ after.flatMap spelling) = source.toList := by
    rw [← Token.flatMap_spelling_ofChars source.toList, ← Token.ofString, htokens]
    simp [spelling]
  rw [← Token.ofString, htokens] at hread
  refine ⟨String.ofList (before.flatMap spelling), String.ofList (after.flatMap spelling),
    ?_, ?_, ?_⟩
  · apply String.toList_injective
    simpa using hsource.symm
  · rw [String.toList_ofList]
    exact even_endingBackslashes hread
  · exact hpoints.isAt (areRead_cons_iff.mp hread.of_append_right).2

theorem exists_isAt_of_parse_nested :
    (parse "é\\\\$(Ä=\\)|ö$(B|ß\\\\$(|x)))" = .error (.emptyName 22) ∧
      ∃ before after : String, "é\\\\$(Ä=\\)|ö$(B|ß\\\\$(|x)))" = before ++ "$(" ++ after ∧
        Even (endingBackslashes before.toList) ∧ IsAt before after (.emptyName 22)) ∧
    (parse "ß\\\\$(B)$(é$(\\=b\\" = .error (.unterminated "é$(=b" 8) ∧
      ∃ before after : String, "ß\\\\$(B)$(é$(\\=b\\" = before ++ "$(" ++ after ∧
        Even (endingBackslashes before.toList) ∧
        IsAt before after (.unterminated "é$(=b" 8)) := by
  have hempty : parse "é\\\\$(Ä=\\)|ö$(B|ß\\\\$(|x)))" = .error (.emptyName 22) := by decide +kernel
  have hopen : parse "ß\\\\$(B)$(é$(\\=b\\" = .error (.unterminated "é$(=b" 8) := by decide +kernel
  exact ⟨⟨hempty, exists_isAt_of_parse hempty⟩, hopen, exists_isAt_of_parse hopen⟩

end ReplyTemplate.Template
