import ReplyTemplate.Proofs.Template.RoundTrip
import ReplyTemplate.Proofs.Token.Spelling

/-! The modes of a reader. While a call is open, its mode tells the place of the call and the tokens
that have been read since. -/

namespace ReplyTemplate.Template.Reader

open Token (totalSize depthAfter nextDepth)

def endsName : Token → Bool
  | .closing | .equals | .bar => true
  | _ => false

def Mode.openCalls : Mode → Nat
  | .text => 0
  | .name .. | .argument .. => 1
  | .scope _ _ _ _ depth _ => depth

inductive Next (r : Reader) (token : Token) : Mode → Prop
  | text : r.mode = .text → token ≠ .opening → Next r token .text
  | opened : r.mode = .text → token = .opening → Next r token (.name r.offset "")
  | name {offset : Nat} {name : String} : r.mode = .name offset name → ¬ endsName token →
      Next r token (.name offset (extend name token))
  | equals {offset : Nat} {name : String} : r.mode = .name offset name → token = .equals →
      Next r token (.argument offset name "")
  | argument {offset : Nat} {name argument : String} : r.mode = .argument offset name argument →
      token ≠ .closing → Next r token (.argument offset name (extend argument token))
  | bar {offset : Nat} {name : String} {argument : Option String} :
      r.mode = afterHead offset name argument → token = .bar →
      Next r token (.scope offset name argument (r.offset + token.size) 1 #[])
  | scope {offset start depth : Nat} {name : String} {argument : Option String}
      {tokens : Array Token} : r.mode = .scope offset name argument start depth tokens →
      (token = .closing → depth ≠ 1) →
      Next r token (.scope offset name argument start (nextDepth depth token) (tokens.push token))
  | closed : r.mode.openCalls = 1 → token = .closing → Next r token .text

variable {room : Nat} {readScope : ScopeReader}

theorem next_of_step {r r' : Reader} {token : Token} (h : step room readScope r token = .ok r') :
    Next r token r'.mode ∧ r'.offset = r.offset + token.size := by
  cases hmode : r.mode with
  | text =>
    simp only [step, hmode] at h
    split at h
    · split at h
      · cases h
      · cases h
        exact ⟨.opened hmode rfl, rfl⟩
    · cases h
      exact ⟨.text hmode (by simp), rfl⟩
    · next hopening _ =>
      cases h
      exact ⟨.text hmode hopening, rfl⟩
  | name offset name =>
    simp only [step, hmode] at h
    split at h
    · obtain ⟨-, scope, -, rfl⟩ := close_eq_ok_iff.mp h
      exact ⟨.closed (by rw [hmode]; rfl) rfl, rfl⟩
    · cases h
      exact ⟨.equals hmode rfl, rfl⟩
    · cases h
      have hhead : r.mode = afterHead offset name none := hmode
      exact ⟨.bar hhead rfl, rfl⟩
    · next hclosing hequals hbar =>
      cases h
      exact ⟨.name hmode (by cases token <;> simp_all [endsName]), rfl⟩
  | argument offset name argument =>
    simp only [step, hmode] at h
    split at h
    · obtain ⟨-, scope, -, rfl⟩ := close_eq_ok_iff.mp h
      exact ⟨.closed (by rw [hmode]; rfl) rfl, rfl⟩
    · cases h
      have hhead : r.mode = afterHead offset name (some argument) := hmode
      exact ⟨.bar hhead rfl, rfl⟩
    · next hclosing hbar =>
      cases h
      exact ⟨.argument hmode hclosing, rfl⟩
  | scope offset name argument start depth tokens =>
    simp only [step, hmode] at h
    split at h
    · split at h
      · next hdepth =>
        obtain ⟨-, scope, -, rfl⟩ := close_eq_ok_iff.mp h
        exact ⟨.closed (by rw [hmode]; exact hdepth) rfl, rfl⟩
      · next hdepth =>
        cases h
        exact ⟨.scope hmode fun _ => hdepth, rfl⟩
    · cases h
      exact ⟨.scope hmode (by simp), rfl⟩
    · next hclosing hopening =>
      cases h
      have hdepth : nextDepth depth token = depth := by
        cases token <;> simp_all [nextDepth]
      have hnext : Next r token (.scope offset name argument start (nextDepth depth token)
          (tokens.push token)) := .scope hmode fun h => absurd h hclosing
      rw [hdepth] at hnext
      exact ⟨hnext, rfl⟩

/-- Whether a token is a `$(` in a name or an argument, which opens nothing. -/
def isLooseOpening : Mode × Token → Bool
  | (.name .., .opening) | (.argument .., .opening) => true
  | _ => false

/-- A counter of open calls after a token that is read in a mode: set where a call opens, going up
and down in its scope, reset where it closes. `none` if it would go below zero. -/
def count (calls : Nat) : Mode × Token → Option Nat
  | (.text, .opening) => some 1
  | (.name .., .closing) | (.argument .., .closing) => some 0
  | (.scope .., .opening) => some (calls + 1)
  | (.scope .., .closing) => if calls = 0 then none else some (calls - 1)
  | _ => some calls

/-- Each step moves the calls that are open as the counter. -/
theorem count_openCalls {r : Reader} {token : Token} {mode : Mode} (hnext : Next r token mode)
    (hpos : r.mode ≠ .text → 0 < r.mode.openCalls) :
    count r.mode.openCalls (r.mode, token) = some mode.openCalls := by
  cases hnext with
  | text hmode htoken =>
    rw [hmode]
    cases token with
    | opening => exact absurd rfl htoken
    | _ => rfl
  | opened hmode htoken =>
    rw [hmode, htoken]
    rfl
  | name hmode htoken =>
    rw [hmode]
    cases token with
    | closing => exact absurd rfl htoken
    | _ => rfl
  | equals hmode htoken =>
    rw [hmode, htoken]
    rfl
  | argument hmode htoken =>
    rw [hmode]
    cases token with
    | closing => exact absurd rfl htoken
    | _ => rfl
  | @bar _ _ argument hmode htoken =>
    rw [hmode, htoken]
    cases argument <;> rfl
  | @scope _ _ depth _ _ _ hmode htoken =>
    -- the counter goes down from the depth, which is not zero while the call is open
    rw [hmode] at hpos ⊢
    have hdepth : depth ≠ 0 := Nat.pos_iff_ne_zero.mp (hpos (by simp))
    cases token with
    | closing => exact if_neg hdepth
    | _ => rfl
  | closed hopen htoken =>
    rw [hopen, htoken]
    cases hmode : r.mode with
    | text =>
      rw [hmode] at hopen
      cases hopen
    | _ => rfl

/-- By itself a token opens and closes as many calls as in the mode, but for a `$(` that opens
nothing. -/
theorem nextDepth_of_count {mode : Mode} {token : Token} {calls : Nat}
    (h : count mode.openCalls (mode, token) = some calls) :
    nextDepth mode.openCalls token = calls + [(mode, token)].countP isLooseOpening := by
  cases mode with
  | text | name | argument => cases token <;> cases h <;> rfl
  | scope offset name argument start depth tokens =>
    cases token with
    | closing =>
      have hclosing : (if depth = 0 then none else some (depth - 1)) = some calls := h
      split at hclosing <;> cases hclosing
      rfl
    | _ =>
      cases h
      rfl

theorem offset_of_foldlM {tokens : List Token} {r r' : Reader}
    (h : tokens.foldlM (step room readScope) r = .ok r') :
    r'.offset = r.offset + totalSize tokens := by
  induction tokens generalizing r with
  | nil =>
    cases h
    rfl
  | cons token tokens ih =>
    obtain ⟨next, hstep, hrest⟩ := exists_of_foldlM_cons_eq_ok h
    rw [ih hrest, (next_of_step hstep).2, Token.totalSize_cons, Nat.add_assoc]

theorem step_text_of_ne_opening {r : Reader} (hmode : r.mode = .text) {token : Token}
    (htoken : token ≠ .opening) :
    step room readScope r token =
      .ok { r.absorb (text (String.ofList token.textChars)) with
        offset := r.offset + token.size, mode := .text } := by
  simp only [step, hmode]
  cases token with
  | opening => exact absurd rfl htoken
  | dangling =>
    rw [String.push_eq_append]
    rfl
  | _ => rfl

/-- A call that was open and is not any more is the last of the parts. -/
theorem exists_parts_eq_push {r r' : Reader} {token : Token}
    (h : step room readScope r token = .ok r') (hopen : r.mode ≠ .text)
    (hclosed : r'.mode = .text) :
    ∃ name argument scope, r'.parts = r.flush.push (call name argument scope) ∧
      r'.pending = "" := by
  cases hmode : r.mode with
  | text => exact absurd hmode hopen
  | name offset name =>
    simp only [step, hmode] at h
    split at h
    · obtain ⟨-, scope, -, rfl⟩ := close_eq_ok_iff.mp h
      exact ⟨name, none, scope, rfl, rfl⟩
    all_goals
      cases h
      cases hclosed
  | argument offset name argument =>
    simp only [step, hmode] at h
    split at h
    · obtain ⟨-, scope, -, rfl⟩ := close_eq_ok_iff.mp h
      exact ⟨name, some argument, scope, rfl, rfl⟩
    all_goals
      cases h
      cases hclosed
  | scope offset name argument start depth tokens =>
    simp only [step, hmode] at h
    split at h
    · split at h
      · obtain ⟨-, scope, -, rfl⟩ := close_eq_ok_iff.mp h
        exact ⟨name, argument, scope, rfl, rfl⟩
      · cases h
        cases hclosed
    all_goals
      cases h
      cases hclosed

/-! Readers that have got somewhere. -/

variable {start : Nat} {tokens : List Token}

def run (room : Nat) (readScope : ScopeReader) (start : Nat) (tokens : List Token) :
    Except TemplateError Reader :=
  tokens.foldlM (step room readScope) { offset := start }

theorem run_concat {r : Reader} (h : run room readScope start tokens = .ok r) (token : Token) :
    run room readScope start (tokens ++ [token]) = step room readScope r token := by
  rw [run, foldlM_append_of_eq_ok h, List.foldlM_cons]
  exact bind_pure _

theorem run_append_of_eq_error {error : TemplateError}
    (h : run room readScope start tokens = .error error) (more : List Token) :
    run room readScope start (tokens ++ more) = .error error := by
  rw [run] at h
  rw [run, List.foldlM_append, h]
  rfl

theorem run_concat_eq_ok {r' : Reader} {token : Token}
    (h : run room readScope start (tokens ++ [token]) = .ok r') :
    ∃ r, run room readScope start tokens = .ok r ∧ step room readScope r token = .ok r' := by
  cases hrun : run room readScope start tokens with
  | error error =>
    rw [run_append_of_eq_error hrun] at h
    cases h
  | ok r =>
    rw [run_concat hrun] at h
    exact ⟨r, rfl, h⟩

/-- Whether a call is open whose `$(` is at `offset`. After that came the tokens of its name, and
then `rest`. -/
def IsOpen (room : Nat) (readScope : ScopeReader) (start : Nat) (tokens : List Token)
    (offset : Nat) (name : String) (rest : List Token) : Prop :=
  ∃ before nameTokens r, tokens = before ++ .opening :: (nameTokens ++ rest) ∧
    run room readScope start before = .ok r ∧ r.mode = .text ∧ r.offset = offset ∧
    String.ofList (nameTokens.flatMap Token.contents) = name ∧
    (∀ token ∈ nameTokens, ¬ endsName token) ∧ ∀ token ∈ rest.head?, token = .equals ∨ token = .bar

theorem IsOpen.concat_name {offset : Nat} {name : String} {token : Token}
    (h : IsOpen room readScope start tokens offset name []) (htoken : ¬ endsName token) :
    IsOpen room readScope start (tokens ++ [token]) offset (extend name token) [] := by
  obtain ⟨before, nameTokens, r, rfl, hrun, hmode, hoffset, rfl, hname, -⟩ := h
  refine ⟨before, nameTokens ++ [token], r, by simp, hrun, hmode, hoffset, ?_, ?_, by simp⟩
  · rw [extend, List.flatMap_append, String.ofList_append, List.flatMap_singleton]
  · rw [List.forall_mem_append, List.forall_mem_singleton]
    exact ⟨hname, htoken⟩

theorem IsOpen.concat {offset : Nat} {name : String} {rest : List Token} {token : Token}
    (h : IsOpen room readScope start tokens offset name rest)
    (htoken : rest = [] → token = .equals ∨ token = .bar) :
    IsOpen room readScope start (tokens ++ [token]) offset name (rest ++ [token]) := by
  obtain ⟨before, nameTokens, r, rfl, hrun, hmode, hoffset, hname, hends, hrest⟩ := h
  refine ⟨before, nameTokens, r, by simp, hrun, hmode, hoffset, hname, hends, ?_⟩
  cases rest with
  | nil => simpa using htoken rfl
  | cons first rest => simpa using hrest

def Leads (room : Nat) (readScope : ScopeReader) (start : Nat) (tokens : List Token) : Mode → Prop
  | .text => True
  | .name offset name => IsOpen room readScope start tokens offset name []
  | .argument offset name _ =>
    ∃ argument, IsOpen room readScope start tokens offset name (.equals :: argument)
  | .scope offset name _ scopeStart depth scope =>
    ∃ head, IsOpen room readScope start tokens offset name (head ++ .bar :: scope.toList) ∧
      scopeStart + totalSize scope.toList = start + totalSize tokens ∧
      0 < depth ∧ depthAfter 0 scope.toList = some (depth - 1)

theorem Leads.afterHead {offset : Nat} {name : String} {argument : Option String}
    (h : Leads room readScope start tokens (afterHead offset name argument)) :
    ∃ head, IsOpen room readScope start tokens offset name head := by
  cases argument with
  | none => exact ⟨[], h⟩
  | some argument =>
    obtain ⟨argument, hopen⟩ := h
    exact ⟨.equals :: argument, hopen⟩

theorem Leads.concat {r : Reader} {token : Token} {mode : Mode}
    (hrun : run room readScope start tokens = .ok r)
    (hoffset : r.offset = start + totalSize tokens)
    (h : Leads room readScope start tokens r.mode) (hnext : Next r token mode) :
    Leads room readScope start (tokens ++ [token]) mode := by
  cases hnext with
  | text | closed => trivial
  | opened hmode htoken =>
    subst htoken
    exact ⟨tokens, [], r, rfl, hrun, hmode, rfl, rfl, by simp, by simp⟩
  | name hmode htoken =>
    rw [hmode] at h
    exact h.concat_name htoken
  | equals hmode htoken =>
    rw [hmode] at h
    subst htoken
    exact ⟨[], IsOpen.concat h fun _ => .inl rfl⟩
  | argument hmode htoken =>
    rw [hmode] at h
    obtain ⟨argument, hopen⟩ := h
    exact ⟨argument ++ [token], hopen.concat (by simp)⟩
  | bar hmode htoken =>
    rw [hmode] at h
    subst htoken
    obtain ⟨head, hopen⟩ := h.afterHead
    refine ⟨head, hopen.concat fun _ => .inr rfl, ?_, Nat.one_pos, rfl⟩
    simp [hoffset, Nat.add_assoc]
  | @scope _ _ depth _ _ scope hmode htoken =>
    rw [hmode] at h
    obtain ⟨head, hopen, hstart, hpos, hdepth⟩ := h
    have hnextDepth : 0 < nextDepth depth token ∧
        nextDepth (depth - 1) token = nextDepth depth token - 1 := by
      cases token <;> simp [nextDepth] at htoken ⊢ <;> omega
    refine ⟨head, ?_, ?_, hnextDepth.1, ?_⟩
    · rw [Array.toList_push, ← List.cons_append, ← List.append_assoc]
      exact hopen.concat (by simp)
    · simp only [Array.toList_push, Token.totalSize_append]
      omega
    · rw [Array.toList_push, Token.depthAfter_concat_eq_some_iff]
      refine ⟨depth - 1, hdepth, fun hclosing => ?_, hnextDepth.2⟩
      have hne := htoken hclosing
      omega

/-- Every mode that a reader gets to is led to by the tokens so far. -/
theorem leads_of_run {r : Reader} (h : run room readScope start tokens = .ok r) :
    r.offset = start + totalSize tokens ∧ Leads room readScope start tokens r.mode := by
  refine ⟨offset_of_foldlM h, ?_⟩
  induction tokens using List.reverseRecOn generalizing r with
  | nil =>
    cases h
    trivial
  | append_singleton tokens token ih =>
    obtain ⟨before, hrun, hstep⟩ := run_concat_eq_ok h
    exact (ih hrun).concat hrun (offset_of_foldlM hrun) (next_of_step hstep).1

/-- A scope is what has been read since its bar, and its call is still open. -/
theorem exists_eq_append_of_scope {r : Reader} (h : run room readScope start tokens = .ok r)
    {offset scopeStart depth : Nat} {name : String} {argument : Option String} {scope : Array Token}
    (hmode : r.mode = .scope offset name argument scopeStart depth scope) :
    ∃ before, tokens = before ++ scope.toList ∧ scopeStart = start + totalSize before ∧
      0 < depth ∧ depthAfter 0 scope.toList = some (depth - 1) := by
  obtain ⟨hoffset, hleads⟩ := leads_of_run h
  rw [hmode] at hleads
  obtain ⟨head, ⟨before, nameTokens, -, rfl, -⟩, hstart, hpos, hdepth⟩ := hleads
  refine ⟨before ++ .opening :: (nameTokens ++ head) ++ [.bar], by simp, ?_, hpos, hdepth⟩
  simp only [Token.totalSize_append, Token.totalSize_cons, Token.totalSize_nil] at hstart ⊢
  omega

end ReplyTemplate.Template.Reader
