import ReplyTemplate.Proofs.Template.Shift

/-! Balanced sources, which close the calls that they open. Scopes are balanced, so only a call
outside every scope can be left open. -/

namespace ReplyTemplate

open Token (depthAfter nextDepth ofChars totalSize)

/-- Whether some characters close all calls, `depth` of which were open before them, and no others.
A backslash goes with the character after it, which must be there. -/
def closesCalls (depth : Nat) : List Char → Bool
  | [] => depth == 0
  | ['\\'] => false
  | '\\' :: _ :: rest => closesCalls depth rest
  | '$' :: '(' :: rest => closesCalls (depth + 1) rest
  | ')' :: rest => 0 < depth && closesCalls (depth - 1) rest
  | _ :: rest => closesCalls depth rest

def IsBalanced (source : String) : Prop := closesCalls 0 source.toList

instance (source : String) : Decidable (IsBalanced source) :=
  inferInstanceAs (Decidable (closesCalls 0 source.toList = true))

theorem closesCalls_iff {depth : Nat} {cs : List Char} :
    closesCalls depth cs ↔ .dangling ∉ ofChars cs ∧ depthAfter depth (ofChars cs) = some 0 := by
  fun_induction closesCalls depth cs with
  | case1 depth => simp [ofChars, depthAfter]
  | case2 => simp [ofChars]
  | case3 depth c rest ih => simpa [ofChars, depthAfter] using ih
  | case4 depth rest ih => simpa [ofChars, depthAfter] using ih
  | case5 depth rest ih =>
    by_cases h : depth = 0
    · simp [ofChars, depthAfter, h]
    · simpa [ofChars, depthAfter, h, Nat.pos_of_ne_zero h] using ih
  | case6 depth c rest hb he ho hc ih =>
    have hb : c ≠ '\\' := by
      cases rest with
      | nil => exact fun h => hb h rfl
      | cons next rest => exact fun h => he next rest h rfl
    obtain ⟨token, htoken, hne⟩ : ∃ token, ofChars (c :: rest) = token :: ofChars rest ∧
        token ≠ .dangling ∧ token ≠ .opening ∧ token ≠ .closing := by
      by_cases hd : c = '$'
      · subst hd
        have hhead : rest.head? ≠ some '(' := by
          intro h
          obtain ⟨rest, rfl⟩ := List.head?_eq_some_iff.mp h
          exact ho rest rfl rfl
        exact ⟨.plain '$', Token.ofChars_dollar hhead, by simp⟩
      · refine ⟨Token.ofChar c, Token.ofChars_cons hb hd rest, ?_⟩
        unfold Token.ofChar
        split
        · exact absurd rfl hc
        all_goals simp
    rw [htoken, List.mem_cons, not_or, Token.depthAfter_cons hne.2.1 hne.2.2, ih]
    simp [hne.1.symm]

theorem isBalanced_iff {source : String} : IsBalanced source ↔
    .dangling ∉ Token.ofString source ∧ depthAfter 0 (Token.ofString source) = some 0 :=
  closesCalls_iff

namespace Template

namespace Reader

theorem openCalls_pos_of_run {room start : Nat} {readScope : ScopeReader} {tokens : List Token}
    {r : Reader} (h : run room readScope start tokens = .ok r) (hopen : r.mode ≠ .text) :
    0 < r.mode.openCalls := by
  obtain ⟨-, hleads⟩ := leads_of_run h
  cases hmode : r.mode with
  | text => exact absurd hmode hopen
  | name | argument => exact Nat.one_pos
  | scope =>
    rw [hmode] at hleads
    obtain ⟨_, _, _, hpos, _⟩ := hleads
    exact hpos

/-- A name and an argument may hold `$(` without opening a call, and text `)` without closing one.
So a reader takes no more calls for open than its tokens would have. -/
theorem openCalls_le_of_run {room start depth : Nat} {readScope : ScopeReader}
    {tokens : List Token} {r : Reader} (h : run room readScope start tokens = .ok r)
    (hdepth : depthAfter 0 tokens = some depth) : r.mode.openCalls ≤ depth := by
  induction tokens using List.reverseRecOn generalizing r depth with
  | nil =>
    cases h
    exact Nat.zero_le depth
  | append_singleton tokens token ih =>
    obtain ⟨before, hrun, hstep⟩ := run_concat_eq_ok h
    obtain ⟨depth, hbefore, hclosing, rfl⟩ := Token.depthAfter_concat_eq_some_iff.mp hdepth
    have hcount := count_openCalls (next_of_step hstep).1 (openCalls_pos_of_run hrun)
    calc r.mode.openCalls ≤ nextDepth before.mode.openCalls token := by
          rw [nextDepth_of_count hcount]
          exact Nat.le_add_right _ _
      _ ≤ nextDepth depth token := Token.nextDepth_mono (ih hrun hbefore) token

end Reader

theorem not_fails_unterminated {room start : Nat} {tokens : List Token}
    (h : depthAfter 0 tokens = some 0) (name : String) (offset : Nat) :
    ¬ Fails room start tokens (.unterminated name offset) := by
  rintro (_ | _ | ⟨hrun, hcall⟩)
  have hle := Reader.openCalls_le_of_run hrun h
  have hopen := Reader.openCalls_pos_of_run hrun fun hmode => by
    simp [hmode, Reader.Mode.call?] at hcall
  omega

theorem readWithin_ne_unterminated {room start : Nat} {tokens : List Token}
    (h : depthAfter 0 tokens = some 0) (name : String) (offset : Nat) :
    readWithin room start tokens ≠ .error (.unterminated name offset) := by
  intro hread
  obtain ⟨room', start', tokens', hreads, hfails⟩ := exists_fails_of_readWithin hread
  obtain ⟨-, -, rfl⟩ | ⟨_, _, _, _, hdepth⟩ := hreads.self_or_scope
  · exact not_fails_unterminated h name offset hfails
  · exact not_fails_unterminated hdepth name offset hfails

/-- A call that is left open stands outside every scope. -/
theorem fails_of_unterminated {room start : Nat} {tokens : List Token} {name : String}
    {offset : Nat} (h : readWithin room start tokens = .error (.unterminated name offset)) :
    Fails room start tokens (.unterminated name offset) := by
  obtain ⟨room', start', tokens', hreads, hfails⟩ := exists_fails_of_readWithin h
  obtain ⟨rfl, rfl, rfl⟩ | ⟨_, _, _, _, hdepth⟩ := hreads.self_or_scope
  · exact hfails
  · exact absurd hfails (not_fails_unterminated hdepth name offset)

/-- A scope is the text of a balanced source. -/
theorem HandsOver.exists_isBalanced {room start scopeStart : Nat} {tokens scope : List Token}
    (h : HandsOver room start tokens scopeStart scope) (hread : Token.AreRead tokens) :
    ∃ source, IsBalanced source ∧ Token.ofString source = scope := by
  obtain ⟨before, after, rfl, -, hdepth⟩ := h.exists_eq_append
  have hbefore : Token.AreRead (before ++ scope) := hread.of_append_left
  have hscope : Token.ofString (Token.sourceOf scope) = scope :=
    hbefore.of_append_right.ofString_sourceOf
  refine ⟨Token.sourceOf scope, ?_, hscope⟩
  rw [isBalanced_iff, hscope]
  have hdangling := hread.dangling_not_mem (by simp)
  exact ⟨fun hmem => hdangling (List.mem_append_right before hmem), hdepth⟩

theorem Reads.areRead {room start room' start' : Nat} {tokens tokens' : List Token}
    (h : Reads room start tokens room' start' tokens') (hread : Token.AreRead tokens) :
    Token.AreRead tokens' := by
  obtain ⟨-, -, rfl⟩ | ⟨before, after, rfl, -, -⟩ := h.self_or_scope
  · exact hread
  · exact hread.of_append_left.of_append_right

/-! Calls with a balanced scope. -/

namespace Reader

theorem foldlM_step_nameTokens {room : Nat} {readScope : ScopeReader} {tokens : List Token}
    (h : ∀ token ∈ tokens, ¬ endsName token) (r : Reader) (start offset : Nat) (name : String) :
    tokens.foldlM (step room readScope) { r with offset, mode := .name start name } =
      .ok { r with
        offset := offset + totalSize tokens
        mode := .name start (name ++ String.ofList (tokens.flatMap Token.contents)) } := by
  induction tokens generalizing offset name with
  | nil =>
    rw [List.flatMap_nil, String.ofList_nil, String.append_empty]
    rfl
  | cons token tokens ih =>
    rw [List.forall_mem_cons] at h
    have hstep : step room readScope { r with offset, mode := .name start name } token =
        .ok { r with offset := offset + token.size, mode := .name start (extend name token) } := by
      cases token with
      | closing | equals | bar => exact absurd rfl h.1
      | _ => rfl
    rw [foldlM_cons_of_eq_ok hstep, ih h.2, extend, String.append_assoc, ← String.ofList_append,
      Token.totalSize_cons, Nat.add_assoc]
    rfl

end Reader

section

variable {room : Nat} {nameTokens : List Token}
  (hends : ∀ token ∈ nameTokens, ¬ Reader.endsName token)

include hends

/-- Behind the name of a call and its bar a scope is collected, up to where its call could close. -/
theorem run_scopedCall {scope : List Token} {depth : Nat} (hdepth : depthAfter 0 scope = some depth)
    (start : Nat) (rest : List Token) :
    Reader.run (room + 1) (readWithin room) start
        (.opening :: (nameTokens ++ .bar :: (scope ++ rest))) =
      rest.foldlM (Reader.step (room + 1) (readWithin room))
        { offset := start + totalSize (.opening :: (nameTokens ++ [.bar])) + totalSize scope
          mode := .scope start (String.ofList (nameTokens.flatMap Token.contents)) none
            (start + totalSize (.opening :: (nameTokens ++ [.bar]))) (depth + 1)
            scope.toArray } := by
  have hopening : Reader.step (room + 1) (readWithin room) { offset := start } .opening =
      .ok { offset := start + Token.opening.size, mode := .name start "" } := rfl
  have hhead : nameTokens.foldlM (Reader.step (room + 1) (readWithin room))
      { offset := start + Token.opening.size, mode := .name start "" } =
        .ok { offset := start + Token.opening.size + totalSize nameTokens
              mode := .name start (String.ofList (nameTokens.flatMap Token.contents)) } := by
    have h := @Reader.foldlM_step_nameTokens (room + 1) (readWithin room) nameTokens hends
      { offset := start } start (start + Token.opening.size) ""
    rwa [String.empty_append] at h
  have hscope (offset : Nat) (name : String) :
      (Token.bar :: scope).foldlM (Reader.step (room + 1) (readWithin room))
          { offset, mode := .name start name } =
        .ok { offset := offset + Token.bar.size + totalSize scope
              mode := .scope start name none (offset + Token.bar.size) (depth + 1)
                scope.toArray } :=
    Reader.foldlM_step_bar hdepth { offset } start offset name none
  have hplace : start + Token.opening.size + totalSize nameTokens + Token.bar.size =
      start + totalSize (.opening :: (nameTokens ++ [.bar])) := by
    simp only [Token.totalSize_cons, Token.totalSize_append, Token.totalSize_nil]
    omega
  rw [Reader.run, Reader.foldlM_cons_of_eq_ok hopening, Reader.foldlM_append_of_eq_ok hhead,
    ← List.cons_append, Reader.foldlM_append_of_eq_ok (hscope _ _), hplace]

/-- Reading a call with a scope is reading the scope at its place. -/
theorem readWithin_scopedCall {scope : List Token} (hname : nameTokens.flatMap Token.contents ≠ [])
    (hdepth : depthAfter 0 scope = some 0) (start : Nat) :
    readWithin (room + 1) start (.opening :: (nameTokens ++ .bar :: (scope ++ [.closing]))) =
      (readWithin room (start + totalSize (.opening :: (nameTokens ++ [.bar]))) scope).map
        fun template =>
          call (String.ofList (nameTokens.flatMap Token.contents)) none (some template) := by
  have hempty : String.ofList (nameTokens.flatMap Token.contents) ≠ "" := by simpa using hname
  rw [readWithin_eq, scopeReader, run_scopedCall hends hdepth, List.foldlM_cons]
  generalize String.ofList (nameTokens.flatMap Token.contents) = name at hempty
  generalize start + totalSize (.opening :: (nameTokens ++ [.bar])) = place
  cases hread : readWithin room place scope with
  | error error =>
    have hclosing (offset : Nat) : Reader.step (room + 1) (readWithin room)
        { offset, mode := .scope start name none place 1 scope.toArray } .closing = .error error :=
      Reader.close_of_read_eq_error hempty hread _ start none
    rw [hclosing]
    rfl
  | ok template =>
    have hclosing (offset : Nat) : Reader.step (room + 1) (readWithin room)
        { offset, mode := .scope start name none place 1 scope.toArray } .closing =
          .ok { offset := offset + Token.closing.size
                parts := #[call name none (some template)] } :=
      Reader.close_of_read hempty (by simp [hread]) _ start none
    rw [hclosing]
    rfl

/-- A call with a scope that opens more calls than it closes is never closed. -/
theorem readWithin_scopedCall_eq_unterminated {scope : List Token} {depth : Nat}
    (hdepth : depthAfter 0 scope = some depth) (start : Nat) :
    readWithin (room + 1) start (.opening :: (nameTokens ++ .bar :: scope)) =
      .error (.unterminated (String.ofList (nameTokens.flatMap Token.contents)) start) := by
  have hrun := @run_scopedCall room nameTokens hends scope depth hdepth start []
  rw [List.append_nil] at hrun
  rw [readWithin_eq, scopeReader, hrun]
  rfl

end

theorem ofString_scopedCall {name text : String}
    (hname : ∀ c ∈ name.toList, c ∉ ['\\', ')', '=', '|'])
    (htext : .dangling ∉ Token.ofString text) :
    Token.ofString ("$(" ++ name ++ "|" ++ text ++ ")") =
      .opening :: (Token.ofString name ++ .bar :: (Token.ofString text ++ [.closing])) := by
  have hdangling : .dangling ∉ ofChars name.toList := by
    intro hmem
    exact hname '\\' (Token.mem_of_mem_spelling hmem (by simp [Token.spelling])) (by simp)
  have htoList : ("$(" ++ name ++ "|" ++ text ++ ")").toList =
      '$' :: '(' :: (name.toList ++ '|' :: (text.toList ++ [')'])) := by simp
  rw [Token.ofString, htoList, ofChars, Token.ofChars_append hdangling (by simp),
    Token.ofChars_cons (by decide) (by decide),
    Token.ofChars_append htext (by simp)]
  rfl

theorem not_endsName_of_mem_ofString {name : String}
    (hname : ∀ c ∈ name.toList, c ∉ ['\\', ')', '=', '|']) {token : Token}
    (hmem : token ∈ Token.ofString name) : ¬ Reader.endsName token := by
  have hspelling : ∀ c ∈ token.spelling, c ∉ ['\\', ')', '=', '|'] :=
    fun c hc => hname c (Token.mem_of_mem_spelling hmem hc)
  cases token with
  | closing | equals | bar => simp [Token.spelling] at hspelling
  | _ => simp [Reader.endsName]

theorem flatMap_contents_ofString {name : String}
    (hname : ∀ c ∈ name.toList, c ∉ ['\\', ')', '=', '|']) :
    (Token.ofString name).flatMap Token.contents = name.toList :=
  Token.flatMap_contents_ofChars fun hmem => hname '\\' hmem (by simp)

/-- A balanced text in a scope is read as it is by itself, with one level less to nest in. -/
theorem parse_append_closing {name text : String} (hne : name ≠ "")
    (hname : ∀ c ∈ name.toList, c ∉ ['\\', ')', '=', '|']) (htext : IsBalanced text) :
    parse ("$(" ++ name ++ "|" ++ text ++ ")") =
      match readWithin (nestingLimit - 1) 0 (Token.ofString text) with
      | .ok scope => .ok (call name none (some scope))
      | .error error => .error (error.shift ("$(" ++ name ++ "|").utf8ByteSize) := by
  have hcontents := flatMap_contents_ofString hname
  have hnil : name.toList ≠ [] := by simpa using hne
  have hplace : totalSize (.opening :: (Token.ofString name ++ [.bar])) =
      ("$(" ++ name ++ "|").utf8ByteSize := by
    rw [String.utf8ByteSize_append, String.utf8ByteSize_append, Token.totalSize_cons,
      Token.totalSize_append, Token.totalSize_ofString, Nat.add_assoc]
    rfl
  rw [parse, ofString_scopedCall hname (isBalanced_iff.mp htext).1, nestingLimit,
    readWithin_scopedCall (fun _ => not_endsName_of_mem_ofString hname) (by rwa [hcontents])
      (isBalanced_iff.mp htext).2, hplace, Nat.add_comm, readWithin_shift, hcontents,
    String.ofList_toList]
  cases readWithin 31 0 (Token.ofString text) <;> rfl

/-- A scope in which more is opened than closed leaves its call open. -/
theorem parse_append_closing_eq_unterminated {name text : String} {depth : Nat}
    (hname : ∀ c ∈ name.toList, c ∉ ['\\', ')', '=', '|']) (htext : .dangling ∉ Token.ofString text)
    (hdepth : depthAfter 0 (Token.ofString text) = some (depth + 1)) :
    parse ("$(" ++ name ++ "|" ++ text ++ ")") = .error (.unterminated name 0) := by
  have hscope : depthAfter 0 (Token.ofString text ++ [.closing]) = some depth := by
    rw [Token.depthAfter_append, hdepth]
    rfl
  rw [parse, ofString_scopedCall hname htext, nestingLimit,
    readWithin_scopedCall_eq_unterminated (fun _ => not_endsName_of_mem_ofString hname) hscope,
    flatMap_contents_ofString hname, String.ofList_toList]

/-- Whether a call that a source opens outside every scope is still open at the end. -/
def LeavesOpen (source : String) (offset : Nat) (name : String) : Prop :=
  ∃ last rest,
    Reader.run nestingLimit (scopeReader nestingLimit) 0 (Token.ofString source) = .ok last ∧
    last.mode.call? = some (offset, name) ∧
    Reader.IsOpen nestingLimit (scopeReader nestingLimit) 0 (Token.ofString source) offset name rest

theorem leavesOpen_of_parse {source name : String} {offset : Nat}
    (h : parse source = .error (.unterminated name offset)) : LeavesOpen source offset name := by
  cases fails_of_unterminated h with
  | unterminated hrun hcall =>
    obtain ⟨rest, hopen⟩ := (Reader.leads_of_run hrun).2.isOpen hcall
    exact ⟨_, rest, hrun, hcall, hopen⟩

/-- Scopes are balanced, balanced texts leave no call open, so that only a call outside every scope
can be unterminated, and a balanced text is the same in a scope as it is by itself. -/
theorem balance_of_scopes :
    (∀ source room start tokens scopeStart scope,
      Reads nestingLimit 0 (Token.ofString source) room start tokens →
      HandsOver room start tokens scopeStart scope →
      ∃ text, IsBalanced text ∧ Token.ofString text = scope) ∧
    (∀ text, IsBalanced text → ∀ room start name offset,
      readWithin room start (Token.ofString text) ≠ .error (.unterminated name offset)) ∧
    (∀ source name offset, parse source = .error (.unterminated name offset) →
      LeavesOpen source offset name) ∧
    ∀ name text, name ≠ "" → (∀ c ∈ name.toList, c ∉ ['\\', ')', '=', '|']) → IsBalanced text →
      parse ("$(" ++ name ++ "|" ++ text ++ ")") =
        match readWithin (nestingLimit - 1) 0 (Token.ofString text) with
        | .ok scope => .ok (call name none (some scope))
        | .error error => .error (error.shift ("$(" ++ name ++ "|").utf8ByteSize) := by
  refine ⟨?_, ?_, ?_, ?_⟩
  · intro source room start tokens scopeStart scope hreads hscope
    exact hscope.exists_isBalanced (hreads.areRead (Token.areRead_ofChars source.toList))
  · intro text htext room start name offset
    exact readWithin_ne_unterminated (isBalanced_iff.mp htext).2 name offset
  · intro source name offset h
    exact leavesOpen_of_parse h
  · intro name text hne hname htext
    exact parse_append_closing hne hname htext

theorem balance_of_scopes_nested :
    IsBalanced "$x $(B=(|\\))" ∧
      parse ("$(" ++ "A$" ++ "|" ++ "$x $(B=(|\\))" ++ ")") =
        .ok (call "A$" none (some (group [text "$x ", call "B" (some "(") (some (text ")"))]))) ∧
      IsBalanced "é$(=)" ∧
      parse ("$(" ++ "A$" ++ "|" ++ "é$(=)" ++ ")") = .error (.emptyName (5 + 2)) := by
  have hread : IsBalanced "$x $(B=(|\\))" := by decide
  have hfail : IsBalanced "é$(=)" := by decide
  refine ⟨hread, ?_, hfail, ?_⟩
  · rw [balance_of_scopes.2.2.2 "A$" "$x $(B=(|\\))" (by decide) (by simp) hread]
    decide +kernel
  · rw [balance_of_scopes.2.2.2 "A$" "é$(=)" (by decide) (by simp) hfail]
    decide +kernel

end Template

end ReplyTemplate
