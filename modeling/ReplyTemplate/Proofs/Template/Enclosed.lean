import ReplyTemplate.Proofs.Template.ErrorPlace
import ReplyTemplate.Proofs.Template.Room

/-! Sources in the scope of a call. Where a scope is collected every `$(` counts as open, also one
in a name or an argument, which opens nothing. -/

namespace ReplyTemplate.Template

open Token (depthAfter nextDepth ofString)

namespace Reader

/-- Whether a token is a `)` in text, which closes nothing. -/
def isLooseClosing : Mode × Token → Bool
  | (.text, .closing) => true
  | _ => false

/-- The scope that a token closes, and where it starts. -/
def closedScope : Mode × Token → Option (Nat × List Token)
  | (.scope _ _ _ start 1 scope, .closing) => some (start, scope.toList)
  | _ => none

def trace (room : Nat) (readScope : ScopeReader) : Reader → List Token → List (Mode × Token)
  | _, [] => []
  | r, token :: tokens => (r.mode, token) :: match step room readScope r token with
    | .ok next => trace room readScope next tokens
    | .error _ => []

section

variable {room : Nat} {readScope : ScopeReader}

theorem trace_concat {tokens : List Token} {r r' : Reader}
    (h : tokens.foldlM (step room readScope) r = .ok r') (token : Token) :
    trace room readScope r (tokens ++ [token]) =
      trace room readScope r tokens ++ [(r'.mode, token)] := by
  induction tokens generalizing r with
  | nil =>
    cases h
    simp only [trace, List.nil_append]
    cases step room readScope r' token <;> rfl
  | cons first tokens ih =>
    obtain ⟨next, hstep, hrest⟩ := exists_of_foldlM_cons_eq_ok h
    rw [List.cons_append, trace, trace, hstep]
    exact congrArg _ (ih hrest)

/-- What is read in a mode is read by a reader that has come to it. -/
theorem exists_of_mem_trace {tokens : List Token} {r last : Reader}
    (h : tokens.foldlM (step room readScope) r = .ok last) {mode : Mode} {token : Token}
    (hmem : (mode, token) ∈ trace room readScope r tokens) :
    ∃ (before : List Token) (next next' : Reader),
      before.foldlM (step room readScope) r = .ok next ∧ next.mode = mode ∧
      step room readScope next token = .ok next' := by
  induction tokens generalizing r with
  | nil => cases hmem
  | cons first tokens ih =>
    obtain ⟨next, hstep, hrest⟩ := exists_of_foldlM_cons_eq_ok h
    rw [trace, hstep, List.mem_cons] at hmem
    obtain heq | hmem := hmem
    · cases heq
      exact ⟨[], r, next, rfl, rfl, hstep⟩
    · obtain ⟨before, reached, reached', hbefore, hmode, hreached⟩ := ih hrest hmem
      exact ⟨first :: before, reached, reached', by rw [foldlM_cons_of_eq_ok hstep, hbefore], hmode,
        hreached⟩

theorem nextDepth_add {depth : Nat} {token : Token} (h : token = .closing → 0 < depth)
    (more : Nat) : nextDepth (depth + more) token = nextDepth depth token + more := by
  cases token <;> simp [nextDepth] at h ⊢ <;> omega

/-- Where every `)` closes a call, the calls that count as open are those of the reader, and one for
each `$(` that has opened nothing. -/
theorem depthAfter_of_run {start : Nat} {tokens : List Token} {r : Reader}
    (h : run room readScope start tokens = .ok r)
    (hclosing : ∀ read ∈ trace room readScope { offset := start } tokens, ¬ isLooseClosing read) :
    depthAfter 0 tokens = some (r.mode.openCalls +
      (trace room readScope { offset := start } tokens).countP isLooseOpening) := by
  induction tokens using List.reverseRecOn generalizing r with
  | nil =>
    cases h
    rfl
  | append_singleton tokens token ih =>
    obtain ⟨before, hrun, hstep⟩ := run_concat_eq_ok h
    rw [trace_concat hrun, List.forall_mem_append, List.forall_mem_singleton] at hclosing
    rw [trace_concat hrun, List.countP_append, Token.depthAfter_concat_eq_some_iff]
    have hdepth := ih hrun hclosing.1
    generalize (trace room readScope { offset := start } tokens).countP isLooseOpening = loose at *
    have hpos : token = .closing → 0 < before.mode.openCalls := by
      rintro rfl
      refine openCalls_pos_of_run hrun fun hmode => ?_
      rw [hmode] at hclosing
      exact hclosing.2 rfl
    have hcount := count_openCalls (next_of_step hstep).1 (openCalls_pos_of_run hrun)
    refine ⟨_, hdepth, fun htoken => Nat.add_pos_left (hpos htoken) loose, ?_⟩
    rw [nextDepth_add hpos, nextDepth_of_count hcount, Nat.add_right_comm, Nat.add_assoc]

/-- A scope that is closed closes the calls that it opens, and could be read. -/
theorem exists_read_of_closedScope {start : Nat} {tokens : List Token} {r : Reader}
    (h : run room readScope start tokens = .ok r) {scopeStart : Nat} {scope : List Token}
    (hmem : (scopeStart, scope) ∈
      (trace room readScope { offset := start } tokens).filterMap closedScope) :
    depthAfter 0 scope = some 0 ∧ ∃ template, readScope scopeStart scope = .ok template := by
  obtain ⟨⟨mode, token⟩, hread, hclosed⟩ := List.mem_filterMap.mp hmem
  obtain ⟨before, next, next', hrun, hmode, hstep⟩ := exists_of_mem_trace h hread
  unfold closedScope at hclosed
  split at hclosed
  · next offset name argument start collected heq =>
    cases heq
    cases hclosed
    have hleads := (leads_of_run hrun).2
    rw [hmode] at hleads
    obtain ⟨-, -, -, -, hdepth⟩ := hleads
    simp only [step, hmode, if_pos] at hstep
    obtain ⟨-, scope, hscope, -⟩ := close_eq_ok_iff.mp hstep
    refine ⟨hdepth, ?_⟩
    cases hread : readScope scopeStart collected.toList with
    | error error => simp [hread] at hscope
    | ok template => exact ⟨template, rfl⟩
  · cases hclosed

end

end Reader

/-- The tokens of a reading and of the scopes in it, each with the mode in which it is read. -/
def traceWithin : (room start : Nat) → List Token → List (Reader.Mode × Token)
  | 0, start, tokens => Reader.trace 0 (scopeReader 0) { offset := start } tokens
  | room + 1, start, tokens =>
    let read := Reader.trace (room + 1) (scopeReader (room + 1)) { offset := start } tokens
    read ++ (read.filterMap Reader.closedScope).flatMap fun scope =>
      traceWithin room scope.1 scope.2

/-- Whether every `)` that no backslash escapes closes a call. -/
def ClosesAll (source : String) : Prop :=
  ∀ read ∈ traceWithin nestingLimit 0 (ofString source), ¬ Reader.isLooseClosing read

/-- Whether every `$(` that no backslash escapes opens a call. -/
def OpensAll (source : String) : Prop :=
  ∀ read ∈ traceWithin nestingLimit 0 (ofString source), ¬ Reader.isLooseOpening read

instance (source : String) : Decidable (ClosesAll source) :=
  inferInstanceAs (Decidable (∀ _ ∈ _, _))

instance (source : String) : Decidable (OpensAll source) :=
  inferInstanceAs (Decidable (∀ _ ∈ _, _))

theorem trace_subset_traceWithin (room start : Nat) (tokens : List Token) :
    Reader.trace room (scopeReader room) { offset := start } tokens ⊆
      traceWithin room start tokens := by
  cases room with
  | zero => exact List.Subset.refl _
  | succ room => exact List.subset_append_left _ _

section

variable {room start : Nat} {tokens : List Token} {template : Template}

theorem depthAfter_of_readWithin (h : readWithin room start tokens = .ok template)
    (hclosing : ∀ read ∈ traceWithin room start tokens, ¬ Reader.isLooseClosing read) :
    depthAfter 0 tokens = some ((Reader.trace room (scopeReader room) { offset := start }
      tokens).countP Reader.isLooseOpening) := by
  obtain ⟨r, hrun, hfinish⟩ := exists_run_of_readWithin h
  have hdepth := Reader.depthAfter_of_run hrun fun read hmem =>
    hclosing read (trace_subset_traceWithin room start tokens hmem)
  rwa [Reader.mode_of_finish_eq_ok hfinish, Reader.Mode.openCalls, Nat.zero_add] at hdepth

/-- Where all calls that count as open are closed, every `$(` opens one, in scopes too. -/
theorem not_isLooseOpening_of_depthAfter (h : readWithin room start tokens = .ok template)
    (hclosing : ∀ read ∈ traceWithin room start tokens, ¬ Reader.isLooseClosing read)
    (hdepth : depthAfter 0 tokens = some 0) :
    ∀ read ∈ traceWithin room start tokens, ¬ Reader.isLooseOpening read := by
  induction room generalizing start tokens template with
  | zero =>
    have hcount := (depthAfter_of_readWithin h hclosing).symm.trans hdepth
    exact List.countP_eq_zero.mp (Option.some.inj hcount)
  | succ room ih =>
    have hcount := (depthAfter_of_readWithin h hclosing).symm.trans hdepth
    obtain ⟨r, hrun, -⟩ := exists_run_of_readWithin h
    rw [traceWithin, List.forall_mem_append] at hclosing ⊢
    refine ⟨List.countP_eq_zero.mp (Option.some.inj hcount), fun read hmem => ?_⟩
    obtain ⟨scope, hscope, hread⟩ := List.mem_flatMap.mp hmem
    obtain ⟨hbalanced, inner, hinner⟩ := Reader.exists_read_of_closedScope hrun hscope
    have hclosed := fun read hread => hclosing.2 read (List.mem_flatMap.mpr ⟨scope, hscope, hread⟩)
    exact ih hinner hclosed hbalanced read hread

end

/-- Where every `)` closes a call, every `$(` opens one exactly if the source is balanced. -/
theorem opensAll_iff {source : String} {template : Template} (h : parse source = .ok template)
    (hclosing : ClosesAll source) : OpensAll source ↔ depthAfter 0 (ofString source) = some 0 := by
  refine ⟨fun hopening => ?_, not_isLooseOpening_of_depthAfter h hclosing⟩
  rw [depthAfter_of_readWithin h hclosing, Option.some_inj, List.countP_eq_zero]
  exact fun read hmem =>
    hopening read (trace_subset_traceWithin nestingLimit 0 (ofString source) hmem)

/-- In a scope a source is read as it is by itself, unless a `$(` in it opens nothing. That counts
as open there, so that the call of the scope is never closed. -/
theorem parse_enclosed {source : String} {template : Template} (h : parse source = .ok template)
    (hdepth : template.depth < nestingLimit) (hclosing : ClosesAll source)
    (hbackslash : Even (endingBackslashes source.toList)) :
    parse ("$(A|" ++ source ++ ")") =
      if OpensAll source then .ok (call "A" none (some template))
      else .error (.unterminated "A" 0) := by
  have hname : ∀ c ∈ "A".toList, c ∉ ['\\', ')', '=', '|'] := by simp
  have hhead : "$(A|" = "$(" ++ "A" ++ "|" := by decide
  have hdangling := dangling_not_mem_of_even hbackslash
  by_cases hopening : OpensAll source
  · have hbalanced : IsBalanced source :=
      isBalanced_iff.mpr ⟨hdangling, (opensAll_iff h hclosing).mp hopening⟩
    have hread := readWithin_of_depth_le h (Nat.le_sub_one_of_lt hdepth)
    rw [if_pos hopening, hhead, parse_append_closing (by decide) hname hbalanced, hread]
  · have hcount := depthAfter_of_readWithin h hclosing
    generalize (Reader.trace nestingLimit (scopeReader nestingLimit) { offset := 0 }
      (ofString source)).countP Reader.isLooseOpening = loose at hcount
    have hne : loose ≠ 0 := by
      rintro rfl
      exact hopening ((opensAll_iff h hclosing).mpr hcount)
    obtain ⟨depth, rfl⟩ := Nat.exists_eq_succ_of_ne_zero hne
    rw [if_neg hopening, hhead, parse_append_closing_eq_unterminated hname hdangling hcount]

theorem parse_enclosed_both :
    let template := group [call "B" (some ")") none, call "C" none (some (call "D" none none))]
    parse "$(B=\\))$(C|$(D))" = .ok template ∧ OpensAll "$(B=\\))$(C|$(D))" ∧
      parse ("$(A|" ++ "$(B=\\))$(C|$(D))" ++ ")") = .ok (call "A" none (some template)) ∧
    parse "$(B=x$(y)" = .ok (call "B" (some "x$(y") none) ∧ ¬ OpensAll "$(B=x$(y)" ∧
      parse ("$(A|" ++ "$(B=x$(y)" ++ ")") = .error (.unterminated "A" 0) := by
  intro template
  have hparse : parse "$(B=\\))$(C|$(D))" = .ok template := by decide +kernel
  have hopens : OpensAll "$(B=\\))$(C|$(D))" := by decide +kernel
  have hloose : parse "$(B=x$(y)" = .ok (call "B" (some "x$(y") none) := by decide +kernel
  have hopensNot : ¬ OpensAll "$(B=x$(y)" := by decide +kernel
  refine ⟨hparse, hopens, ?_, hloose, hopensNot, ?_⟩
  · have henclosed := parse_enclosed hparse (by decide) (by decide +kernel) (by decide +kernel)
    exact henclosed.trans (if_pos hopens)
  · have henclosed := parse_enclosed hloose (by decide) (by decide +kernel) (by decide +kernel)
    exact henclosed.trans (if_neg hopensNot)

/-- A `$(` in an argument has no meaning at the top, but it has one in a scope. -/
theorem parse_enclosed_ne :
    parse "$(B=x$(y)" = .ok (call "B" (some "x$(y") none) ∧
      (call "B" (some "x$(y") none).depth < nestingLimit ∧ ClosesAll "$(B=x$(y)" ∧
      Even (endingBackslashes "$(B=x$(y)".toList) ∧
      parse ("$(A|" ++ "$(B=x$(y)" ++ ")") ≠
        .ok (call "A" none (some (call "B" (some "x$(y") none))) :=
  ⟨by decide +kernel, by decide, by decide +kernel, by decide +kernel, by decide +kernel⟩

end ReplyTemplate.Template
