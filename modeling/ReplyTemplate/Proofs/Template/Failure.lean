import ReplyTemplate.Proofs.Template.Modes

/-! Where errors come from. A reading makes readings of the scopes in it, and its error is that of
one of these or its own. -/

namespace ReplyTemplate.Template

open Token (totalSize depthAfter)

namespace Reader

def Mode.call? : Mode → Option (Nat × String)
  | .text => none
  | .name offset plugin | .argument offset plugin _ | .scope offset plugin .. =>
    some (offset, plugin)

theorem Leads.isOpen {room start : Nat} {readScope : ScopeReader} {tokens : List Token}
    {mode : Mode} (h : Leads room readScope start tokens mode) {offset : Nat} {name : String}
    (hcall : mode.call? = some (offset, name)) :
    ∃ rest, IsOpen room readScope start tokens offset name rest := by
  cases mode with
  | text => cases hcall
  | name offset name =>
    cases hcall
    exact ⟨[], h⟩
  | argument offset name argument =>
    cases hcall
    obtain ⟨argument, hopen⟩ := h
    exact ⟨.equals :: argument, hopen⟩
  | scope offset name argument scopeStart depth scope =>
    cases hcall
    obtain ⟨head, hopen, -⟩ := h
    exact ⟨_, hopen⟩

theorem finish_eq_error {r : Reader} {error : TemplateError} (h : r.finish = .error error) :
    ∃ offset name, r.mode.call? = some (offset, name) ∧ error = .unterminated name offset := by
  unfold finish at h
  cases hmode : r.mode with
  | text =>
    simp only [hmode] at h
    cases h
  | name offset name | argument offset name argument
  | scope offset name argument start depth tokens =>
    simp only [hmode] at h
    cases h
    exact ⟨offset, name, rfl, rfl⟩

theorem close_of_read_eq_error {readScope : ScopeReader} {name : String} {start : Nat}
    {tokens : Array Token} {error : TemplateError} (hname : name ≠ "")
    (hread : readScope start tokens.toList = .error error) (r : Reader) (offset : Nat)
    (argument : Option String) :
    r.close readScope offset name argument (some (start, tokens)) = .error error := by
  have hempty : name.isEmpty = false := by simpa using hname
  simp [close, hempty, hread]

theorem close_eq_error {r : Reader} {readScope : ScopeReader} {offset : Nat} {name : String}
    {argument : Option String} {source : Option (Nat × Array Token)} {error : TemplateError}
    (h : r.close readScope offset name argument source = .error error) :
    (name = "" ∧ error = .emptyName offset) ∨
      ∃ start tokens, name ≠ "" ∧ source = some (start, tokens) ∧
        readScope start tokens.toList = .error error := by
  by_cases hname : name = ""
  · subst hname
    have hclose : r.close readScope offset "" argument source = .error (.emptyName offset) := rfl
    rw [hclose] at h
    cases h
    exact .inl ⟨rfl, rfl⟩
  · have hempty : name.isEmpty = false := by simpa using hname
    cases source with
    | none => simp [close, hempty, bind, Except.bind, pure, Except.pure] at h
    | some source =>
      obtain ⟨start, tokens⟩ := source
      refine .inr ⟨start, tokens, hname, rfl, ?_⟩
      cases hread : readScope start tokens.toList with
      | error error' =>
        rw [close_of_read_eq_error hname hread] at h
        cases h
        rfl
      | ok scope => simp [close, hempty, hread, bind, Except.bind, pure, Except.pure] at h

/-- A token is refused if it opens a call too deep, or closes one that has no name or whose scope
cannot be read. -/
theorem step_eq_error {room : Nat} {readScope : ScopeReader} {r : Reader} {token : Token}
    {error : TemplateError} (h : step room readScope r token = .error error) :
    (r.mode = .text ∧ token = .opening ∧ room = 0 ∧
        error = .nestingTooDeep r.offset nestingLimit) ∨
      (token = .closing ∧ ∃ offset, r.mode.call? = some (offset, "") ∧
        error = .emptyName offset) ∨
      (token = .closing ∧ ∃ offset name argument start tokens,
        r.mode = .scope offset name argument start 1 tokens ∧ name ≠ "" ∧
        readScope start tokens.toList = .error error) := by
  cases hmode : r.mode with
  | text =>
    simp only [step, hmode] at h
    split at h
    · split at h
      · next hroom =>
        cases h
        exact .inl ⟨rfl, rfl, hroom, rfl⟩
      · cases h
    all_goals cases h
  | name offset name =>
    simp only [step, hmode] at h
    split at h
    · obtain ⟨rfl, rfl⟩ | ⟨start, tokens, -, hsource, -⟩ := close_eq_error h
      · exact .inr (.inl ⟨rfl, offset, rfl, rfl⟩)
      · cases hsource
    all_goals cases h
  | argument offset name argument =>
    simp only [step, hmode] at h
    split at h
    · obtain ⟨rfl, rfl⟩ | ⟨start, tokens, -, hsource, -⟩ := close_eq_error h
      · exact .inr (.inl ⟨rfl, offset, rfl, rfl⟩)
      · cases hsource
    all_goals cases h
  | scope offset name argument start depth tokens =>
    simp only [step, hmode] at h
    split at h
    · split at h
      · next hdepth =>
        subst hdepth
        obtain ⟨rfl, rfl⟩ | ⟨_, _, hname, hsource, hread⟩ := close_eq_error h
        · exact .inr (.inl ⟨rfl, offset, rfl, rfl⟩)
        · cases hsource
          exact .inr (.inr ⟨rfl, offset, name, argument, start, tokens, rfl, hname, hread⟩)
      · cases h
    all_goals cases h

theorem exists_of_run_eq_error {room start : Nat} {readScope : ScopeReader} {tokens : List Token}
    {error : TemplateError} (h : run room readScope start tokens = .error error) :
    ∃ before token after r, tokens = before ++ token :: after ∧
      run room readScope start before = .ok r ∧ step room readScope r token = .error error := by
  induction tokens using List.reverseRecOn with
  | nil => cases h
  | append_singleton tokens token ih =>
    cases hrun : run room readScope start tokens with
    | error error' =>
      rw [run_append_of_eq_error hrun] at h
      cases h
      obtain ⟨before, first, after, r, rfl, hbefore, hstep⟩ := ih hrun
      exact ⟨before, first, after ++ [token], r, by simp, hbefore, hstep⟩
    | ok r =>
      rw [run_concat hrun] at h
      exact ⟨tokens, token, [], r, rfl, hrun, h⟩

end Reader

def scopeReader : (room : Nat) → ScopeReader
  | 0 => fun start _ => throw (.nestingTooDeep start nestingLimit)
  | room + 1 => readWithin room

theorem readWithin_eq (room start : Nat) (tokens : List Token) :
    readWithin room start tokens = (Reader.run room (scopeReader room) start tokens).bind
      Reader.finish := by
  cases room <;> rfl

theorem sound_of_run {room start : Nat} {tokens : List Token} {r : Reader}
    (h : Reader.run room (scopeReader room) start tokens = .ok r) : r.Sound room := by
  have hscope {start : Nat} {tokens : List Token} {template : Template}
      (hread : scopeReader room start tokens = .ok template) :
      IsNormal template ∧ depth template < room := by
    cases room with
    | zero => cases hread
    | succ room =>
      obtain ⟨hnormal, hdepth⟩ := readWithin_sound hread
      exact ⟨hnormal, Nat.lt_succ_of_le hdepth⟩
  exact (Reader.sound_start room start).foldlM hscope h

theorem room_pos_of_run {room start : Nat} {tokens : List Token} {r : Reader}
    (h : Reader.run room (scopeReader room) start tokens = .ok r) (hmode : r.mode ≠ .text) :
    0 < room := (sound_of_run h).1 hmode

/-- A reading hands a scope over to be read by itself when the call of the scope is closed. -/
def HandsOver (room start : Nat) (tokens : List Token) (scopeStart : Nat) (scope : List Token) :
    Prop :=
  ∃ before after r offset name argument, tokens = before ++ .closing :: after ∧
    Reader.run room (scopeReader room) start before = .ok r ∧
    r.mode = .scope offset name argument scopeStart 1 scope.toArray ∧ name ≠ ""

/-- The readings that a reading consists of: itself, and those of the scopes, at any depth. -/
inductive Reads : (room start : Nat) → List Token → (room' start' : Nat) → List Token → Prop
  | self (room start : Nat) (tokens : List Token) : Reads room start tokens room start tokens
  | scope {room start scopeStart room' start' : Nat} {tokens scope tokens' : List Token} :
      HandsOver (room + 1) start tokens scopeStart scope →
      Reads room scopeStart scope room' start' tokens' →
      Reads (room + 1) start tokens room' start' tokens'

/-- The errors of a reading that are not those of a scope in it. -/
inductive Fails (room start : Nat) (tokens : List Token) : TemplateError → Prop
  | nestingTooDeep {before after : List Token} {r : Reader} :
      tokens = before ++ .opening :: after →
      Reader.run room (scopeReader room) start before = .ok r →
      Fails room start tokens (.nestingTooDeep r.offset nestingLimit)
  | emptyName {before after : List Token} {r : Reader} {offset : Nat} :
      tokens = before ++ .closing :: after →
      Reader.run room (scopeReader room) start before = .ok r →
      r.mode.call? = some (offset, "") → Fails room start tokens (.emptyName offset)
  | unterminated {r : Reader} {offset : Nat} {name : String} :
      Reader.run room (scopeReader room) start tokens = .ok r →
      r.mode.call? = some (offset, name) → Fails room start tokens (.unterminated name offset)

theorem fails_or_handsOver {room start : Nat} {tokens : List Token} {error : TemplateError}
    (h : readWithin room start tokens = .error error) :
    Fails room start tokens error ∨ ∃ scopeStart scope, 0 < room ∧
      HandsOver room start tokens scopeStart scope ∧
      scopeReader room scopeStart scope = .error error := by
  rw [readWithin_eq] at h
  cases hrun : Reader.run room (scopeReader room) start tokens with
  | ok r =>
    rw [hrun] at h
    obtain ⟨offset, name, hcall, rfl⟩ := Reader.finish_eq_error h
    exact .inl (.unterminated hrun hcall)
  | error error' =>
    rw [hrun] at h
    cases h
    obtain ⟨before, token, after, r, htokens, hbefore, hstep⟩ := Reader.exists_of_run_eq_error hrun
    obtain ⟨-, rfl, -, rfl⟩ | ⟨rfl, offset, hcall, rfl⟩ |
      ⟨rfl, offset, name, argument, scopeStart, scope, hmode, hname, hread⟩ :=
      Reader.step_eq_error hstep
    · exact .inl (.nestingTooDeep htokens hbefore)
    · exact .inl (.emptyName htokens hbefore hcall)
    · have hroom : 0 < room := room_pos_of_run hbefore (by simp [hmode])
      refine .inr ⟨scopeStart, scope.toList, hroom, ?_, hread⟩
      exact ⟨before, after, r, offset, name, argument, htokens, hbefore, by simp [hmode], hname⟩

/-- Every error is the own one of a reading. -/
theorem exists_fails_of_readWithin {room start : Nat} {tokens : List Token}
    {error : TemplateError} (h : readWithin room start tokens = .error error) :
    ∃ room' start' tokens', Reads room start tokens room' start' tokens' ∧
      Fails room' start' tokens' error := by
  induction room generalizing start tokens with
  | zero =>
    obtain hfails | ⟨_, _, hroom, -, -⟩ := fails_or_handsOver h
    · exact ⟨0, start, tokens, .self 0 start tokens, hfails⟩
    · exact absurd hroom (Nat.lt_irrefl 0)
  | succ room ih =>
    obtain hfails | ⟨scopeStart, scope, -, hscope, hread⟩ := fails_or_handsOver h
    · exact ⟨room + 1, start, tokens, .self (room + 1) start tokens, hfails⟩
    · obtain ⟨room', start', tokens', hreads, hfails⟩ := ih hread
      exact ⟨room', start', tokens', .scope hscope hreads, hfails⟩

/-- A scope is a part of the tokens in which it is read, and closes the calls that it opens. -/
theorem HandsOver.exists_eq_append {room start scopeStart : Nat} {tokens scope : List Token}
    (h : HandsOver room start tokens scopeStart scope) :
    ∃ before after, tokens = before ++ scope ++ .closing :: after ∧
      scopeStart = start + totalSize before ∧ depthAfter 0 scope = some 0 := by
  obtain ⟨read, after, r, offset, name, argument, rfl, hrun, hmode, -⟩ := h
  obtain ⟨before, rfl, hstart, -, hdepth⟩ := Reader.exists_eq_append_of_scope hrun hmode
  exact ⟨before, after, rfl, hstart, hdepth⟩

/-- All readings but the first are of scopes. -/
theorem Reads.self_or_scope {room start room' start' : Nat} {tokens tokens' : List Token}
    (h : Reads room start tokens room' start' tokens') :
    (room' = room ∧ start' = start ∧ tokens' = tokens) ∨
      ∃ before after, tokens = before ++ tokens' ++ .closing :: after ∧
        start' = start + totalSize before ∧ depthAfter 0 tokens' = some 0 := by
  induction h with
  | self => exact .inl ⟨rfl, rfl, rfl⟩
  | scope hscope _ ih =>
    obtain ⟨before, after, rfl, rfl, hdepth⟩ := hscope.exists_eq_append
    obtain ⟨-, rfl, rfl⟩ | ⟨first, last, rfl, rfl, hinner⟩ := ih
    · exact .inr ⟨before, after, rfl, rfl, hdepth⟩
    · refine .inr ⟨before ++ first, last ++ .closing :: after, by simp, ?_, hinner⟩
      rw [Token.totalSize_append, Nat.add_assoc]

end ReplyTemplate.Template
