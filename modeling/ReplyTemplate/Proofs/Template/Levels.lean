import ReplyTemplate.Proofs.Template.Enclosed

/-! Levels of readings. A reader counts the calls that are open, and hands each scope over to a
reading one level further in, of which there are no more than the limit of nesting allows. -/

namespace ReplyTemplate.Template

open Token (ofString sourceOf totalSize)

namespace Reader

def counted (room : Nat) (readScope : ScopeReader) (start : Nat) (tokens : List Token) :
    Option Nat :=
  (trace room readScope { offset := start } tokens).foldlM count 0

/-- What the counter must be in a mode. In a scope it is the depth that the reader keeps, and tells
how many calls the tokens of the scope have opened and closed. -/
def Mode.IsCounted (calls : Nat) : Mode → Prop
  | .text => calls = 0
  | .name .. | .argument .. => calls = 1
  | .scope _ _ _ _ depth tokens =>
    calls = depth ∧ 0 < calls ∧
      calls + tokens.toList.count .closing = 1 + tokens.toList.count .opening

section

variable {room start : Nat} {readScope : ScopeReader} {tokens : List Token} {r : Reader}

/-- The counter says how many calls are open, as far as the reader tells. -/
theorem counted_of_run (h : run room readScope start tokens = .ok r) :
    counted room readScope start tokens = some r.mode.openCalls := by
  induction tokens using List.reverseRecOn generalizing r with
  | nil =>
    cases h
    rfl
  | append_singleton tokens token ih =>
    obtain ⟨before, hrun, hstep⟩ := run_concat_eq_ok h
    have hbefore := ih hrun
    have hnext := count_openCalls (next_of_step hstep).1 (openCalls_pos_of_run hrun)
    unfold counted at hbefore ⊢
    rw [trace_concat hrun, List.foldlM_append, hbefore]
    simp [hnext]

theorem isCounted_openCalls (h : run room readScope start tokens = .ok r) :
    r.mode.IsCounted r.mode.openCalls := by
  cases hmode : r.mode with
  | text | name | argument => exact rfl
  | scope offset name argument scopeStart depth scope =>
    obtain ⟨-, -, -, hpos, hdepth⟩ := exists_eq_append_of_scope h hmode
    have hcount := Token.add_count_closing_of_depthAfter hdepth
    have hcalls : depth + scope.toList.count .closing = 1 + scope.toList.count .opening := by omega
    exact ⟨rfl, hpos, hcalls⟩

theorem isSome_count {calls : Nat} {mode : Mode} (h : mode.IsCounted calls) (token : Token) :
    (count calls (mode, token)).isSome := by
  cases mode with
  | scope offset name argument scopeStart depth scope =>
    have hcalls : calls ≠ 0 := Nat.pos_iff_ne_zero.mp h.2.1
    cases token with
    | closing => simp [count, hcalls]
    | _ => rfl
  | _ => cases token <;> rfl

end

/-! A reader without room. -/

section

variable {readScope : ScopeReader} {r r' : Reader} {token : Token}

theorem mode_of_step_zero (h : step 0 readScope r token = .ok r') (hmode : r.mode = .text) :
    r'.mode = .text := by
  cases step_of_eq_ok h with
  | text => rfl
  | opened _ hroom => exact absurd hroom (Nat.lt_irrefl 0)
  | within _ hopen => exact absurd hmode hopen
  | closed => rfl

/-- It never gets to a scope, so it does not matter how scopes are read. -/
theorem foldlM_step_zero (hmode : r.mode = .text) (readScope' : ScopeReader)
    (tokens : List Token) :
    tokens.foldlM (step 0 readScope) r = tokens.foldlM (step 0 readScope') r := by
  induction tokens generalizing r with
  | nil => rfl
  | cons token tokens ih =>
    have hstep : step 0 readScope r token = step 0 readScope' r token := by
      refine step_congr (fun _ _ => Iff.rfl) fun hscope => ?_
      rw [hmode] at hscope
      cases hscope
    rw [List.foldlM_cons, List.foldlM_cons, hstep]
    cases hnext : step 0 readScope' r token with
    | error error => rfl
    | ok next => exact ih (mode_of_step_zero hnext hmode)

end

end Reader

/-! Readings and their levels. -/

def roomAt (level : Nat) : Nat := nestingLimit + 1 - level

/-- The readings that a source needs: of all of it at level 1, and of each scope one level further
in than what hands it over. -/
inductive Reaches (source : String) : (level start : Nat) → List Token → Prop
  | source : Reaches source 1 0 (ofString source)
  | scope {level start scopeStart : Nat} {tokens scope : List Token} :
      Reaches source level start tokens →
      HandsOver (roomAt level) start tokens scopeStart scope →
      Reaches source (level + 1) scopeStart scope

theorem readTokens_zero (readScope readScope' : ScopeReader) :
    readTokens 0 readScope = readTokens 0 readScope' := by
  funext start tokens
  rw [readTokens, readTokens, Reader.foldlM_step_zero rfl readScope']

/-- If each level reads its scopes by the next one, without an end, then still no level beyond the
limit is ever asked. -/
theorem forall_eq_readWithin_iff {read : Nat → ScopeReader} :
    (∀ level, read level = readTokens (roomAt level) (read (level + 1))) ↔
      ∀ level, read level = readWithin (roomAt level) := by
  constructor
  · intro h level
    -- the induction is on the room, which is used up one level beyond the limit
    induction hroom : roomAt level generalizing level with
    | zero =>
      rw [h level, hroom]
      exact readTokens_zero _ _
    | succ room ih =>
      have hnext : roomAt (level + 1) = room := by
        unfold roomAt at hroom ⊢
        omega
      rw [h level, hroom, ih (level + 1) hnext]
      rfl
  · intro h level
    rw [h level, h (level + 1)]
    cases hroom : roomAt level with
    | zero => exact readTokens_zero _ _
    | succ room =>
      have hnext : roomAt (level + 1) = room := by
        unfold roomAt at hroom ⊢
        omega
      rw [hnext]
      rfl

theorem HandsOver.room_pos {room start scopeStart : Nat} {tokens scope : List Token}
    (h : HandsOver room start tokens scopeStart scope) : 0 < room := by
  obtain ⟨before, after, r, offset, name, argument, -, hrun, hmode, -⟩ := h
  exact room_pos_of_run hrun (by simp [hmode])

/-- A scope that a reading hands over is read next. -/
theorem Reads.concat {room start room' start' scopeStart : Nat} {tokens tokens' scope : List Token}
    (h : Reads room start tokens (room' + 1) start' tokens')
    (hscope : HandsOver (room' + 1) start' tokens' scopeStart scope) :
    Reads room start tokens room' scopeStart scope := by
  generalize hroom : room' + 1 = next at h
  induction h with
  | self =>
    subst hroom
    exact .scope hscope (.self room' scopeStart scope)
  | scope houter _ ih => exact .scope houter (ih hscope hroom)

section

variable {source : String} {level start scopeStart : Nat} {tokens scope : List Token}

theorem roomAt_eq_succ (h : HandsOver (roomAt level) start tokens scopeStart scope) :
    roomAt level = roomAt (level + 1) + 1 := by
  have hpos := h.room_pos
  unfold roomAt at hpos ⊢
  omega

theorem Reaches.level_le (h : Reaches source level start tokens) : level ≤ nestingLimit + 1 := by
  cases h with
  | source => decide
  | scope _ hscope =>
    have hpos := hscope.room_pos
    unfold roomAt at hpos
    omega

theorem Reaches.level_pos (h : Reaches source level start tokens) : 0 < level := by
  cases h with
  | source => exact Nat.one_pos
  | scope => exact Nat.succ_pos _

theorem Reaches.reads (h : Reaches source level start tokens) :
    Reads nestingLimit 0 (ofString source) (roomAt level) start tokens := by
  induction h with
  | source => exact .self nestingLimit 0 (ofString source)
  | scope _ hscope ih =>
    rw [roomAt_eq_succ hscope] at ih hscope
    exact ih.concat hscope

theorem Reaches.areRead (h : Reaches source level start tokens) : Token.AreRead tokens :=
  h.reads.areRead (Token.areRead_ofChars source.toList)

theorem Reaches.exists_eq_append (h : Reaches source level start tokens) :
    ∃ before after, ofString source = before ++ tokens ++ after ∧ start = totalSize before := by
  obtain ⟨-, rfl, rfl⟩ | ⟨before, after, htokens, hstart, -⟩ := h.reads.self_or_scope
  · exact ⟨[], [], by simp, rfl⟩
  · rw [Nat.zero_add] at hstart
    exact ⟨before, .closing :: after, htokens, hstart⟩

/-- Whether a text stands in a source behind `place` bytes. -/
def StandsAt (source text : String) (place : Nat) : Prop :=
  ∃ before after, source = before ++ text ++ after ∧ place = before.utf8ByteSize

/-- What holds of a scope that a reading of `tokens` at `level` hands over. It starts at `start`,
and the `)` at `place` closes its call. -/
structure IsHandedOver (source : String) (level : Nat) (tokens : List Token) (start place : Nat)
    (scope : List Token) : Prop where
  reaches : Reaches source (level + 1) start scope
  level_le : level + 1 ≤ nestingLimit + 1
  /-- It is read as at the next level, and not refused for want of room. -/
  scopeReader_eq : scopeReader (roomAt level) = readWithin (roomAt (level + 1))
  standsAt : StandsAt source (sourceOf scope ++ ")") start
  place_eq : place = start + (sourceOf scope).utf8ByteSize
  /-- Its text alone is read as the same tokens. -/
  ofString_sourceOf : ofString (sourceOf scope) = scope
  size_lt : (sourceOf scope).utf8ByteSize < (sourceOf tokens).utf8ByteSize

theorem Reaches.isHandedOver (h : Reaches source level start tokens) {read rest : List Token}
    {r : Reader} (htokens : tokens = read ++ .closing :: rest)
    (hrun : Reader.run (roomAt level) (scopeReader (roomAt level)) start read = .ok r)
    {offset : Nat} {name : String} {argument : Option String}
    (hmode : r.mode = .scope offset name argument scopeStart 1 scope.toArray) (hname : name ≠ "") :
    IsHandedOver source level tokens scopeStart r.offset scope := by
  have hscope : HandsOver (roomAt level) start tokens scopeStart scope :=
    ⟨read, rest, r, offset, name, argument, htokens, hrun, hmode, hname⟩
  have hnext : Reaches source (level + 1) scopeStart scope := h.scope hscope
  obtain ⟨before, rfl, hstart, -, -⟩ := Reader.exists_eq_append_of_scope hrun hmode
  obtain ⟨first, last, hsource, hfirst⟩ := h.exists_eq_append
  have hplace := Reader.offset_of_foldlM hrun
  rw [htokens] at hsource
  refine ⟨hnext, hnext.level_le, by rw [roomAt_eq_succ hscope]; rfl, ?_, ?_,
    hnext.areRead.ofString_sourceOf, ?_⟩
  · refine ⟨sourceOf (first ++ before), sourceOf (rest ++ last), ?_, ?_⟩
    · have hclosing : sourceOf [.closing] = ")" := by decide
      rw [← Token.sourceOf_ofString source, hsource, ← hclosing, ← Token.sourceOf_append,
        ← Token.sourceOf_append, ← Token.sourceOf_append]
      simp
    · rw [Token.utf8ByteSize_sourceOf, Token.totalSize_append, hstart, hfirst]
  · rw [Token.utf8ByteSize_sourceOf]
    simp only [Token.totalSize_append] at hplace
    omega
  · have hpos : 0 < Token.closing.size := by decide
    rw [Token.utf8ByteSize_sourceOf, Token.utf8ByteSize_sourceOf, htokens]
    simp only [Token.totalSize_append, Token.totalSize_cons]
    omega

end

/-! Sources that need all levels. -/

/-- A reading of a written call hands over the written scope. -/
theorem handsOver_sourceTokens {name : String} (hname : name ≠ "") (argument : Option String)
    (scope : Template) (inScope : Bool) (room start : Nat) :
    HandsOver (room + 1) start (sourceTokens inScope (call name argument (some scope)))
      (start + totalSize (.opening :: headTokens name argument ++ [.bar]))
      (sourceTokens true scope) := by
  have hrun := @Reader.foldlM_step_collected (room + 1) (readWithin room) (Nat.succ_pos room)
    { offset := start } rfl name argument scope []
  rw [List.append_nil, List.foldlM_nil] at hrun
  exact ⟨_, [], _, start, name, argument, by rw [sourceTokens], hrun, rfl, hname⟩

def nested : Nat → Template
  | 0 => text ""
  | depth + 1 => call "A" none (some (nested depth))

theorem sourceTokens_nested (inScope : Bool) (depth : Nat) :
    sourceTokens inScope (nested depth) = sourceTokens true (nested depth) := by
  cases depth <;> rfl

/-- However deep calls nest, their scopes are read up to the level at which the limit stops them. -/
theorem exists_reaches_nested {outside : Nat} (hroom : outside ≤ nestingLimit) (inside : Nat) :
    ∃ start, Reaches (nested (inside + outside)).source (outside + 1) start
      (sourceTokens true (nested inside)) := by
  induction outside generalizing inside with
  | zero =>
    refine ⟨0, ?_⟩
    rw [← sourceTokens_nested false, ← ofString_source]
    exact .source
  | succ outside ih =>
    obtain ⟨start, hreaches⟩ := ih (Nat.le_of_succ_le hroom) (inside + 1)
    have hnext : roomAt (outside + 1) = (nestingLimit - (outside + 1)) + 1 := by
      unfold roomAt
      omega
    have hname : "A" ≠ "" := by decide
    have hscope := handsOver_sourceTokens hname none (nested inside) true
      (nestingLimit - (outside + 1)) start
    have hsum : inside + (outside + 1) = inside + 1 + outside := by omega
    rw [← hnext] at hscope
    rw [hsum]
    exact ⟨_, hreaches.scope hscope⟩

theorem exists_reaches_iff {level : Nat} :
    (∃ source start tokens, Reaches source level start tokens) ↔
      0 < level ∧ level ≤ nestingLimit + 1 := by
  constructor
  · rintro ⟨source, start, tokens, h⟩
    exact ⟨h.level_pos, h.level_le⟩
  · rintro ⟨hpos, hle⟩
    obtain ⟨outside, rfl⟩ := Nat.exists_eq_succ_of_ne_zero (Nat.ne_of_gt hpos)
    obtain ⟨start, hreaches⟩ := exists_reaches_nested (Nat.le_of_succ_le_succ hle) 0
    exact ⟨_, start, _, hreaches⟩

/-- The levels at which something is read end one beyond the limit. At each place that a reading
gets to, the counter of open calls is the one of its mode, and no token takes it below zero. A scope
that is handed over is a part of the source, and shorter than what it is read in. Readings that
always go on to the next level are the same ones, so the levels need no end of their own. -/
theorem invariants_of_reading :
    (∀ level, (∃ source start tokens, Reaches source level start tokens) ↔
      0 < level ∧ level ≤ nestingLimit + 1) ∧
    (∀ source level start tokens, Reaches source level start tokens →
      ∀ read rest r, tokens = read ++ rest →
        Reader.run (roomAt level) (scopeReader (roomAt level)) start read = .ok r →
        (∃ calls,
          Reader.counted (roomAt level) (scopeReader (roomAt level)) start read = some calls ∧
          r.mode.IsCounted calls ∧ ∀ token, (Reader.count calls (r.mode, token)).isSome) ∧
        ∀ offset name argument scopeStart scope,
          r.mode = .scope offset name argument scopeStart 1 scope → rest.head? = some .closing →
          name ≠ "" → IsHandedOver source level tokens scopeStart r.offset scope.toList) ∧
    ∀ read : Nat → ScopeReader,
      (∀ level, read level = readTokens (roomAt level) (read (level + 1))) ↔
        ∀ level, read level = readWithin (roomAt level) := by
  refine ⟨fun level => exists_reaches_iff, ?_, fun read => forall_eq_readWithin_iff⟩
  intro source level start tokens h read rest r htokens hrun
  constructor
  · have hcounted := Reader.isCounted_openCalls hrun
    exact ⟨r.mode.openCalls, Reader.counted_of_run hrun, hcounted, Reader.isSome_count hcounted⟩
  · intro offset name argument scopeStart scope hmode hclosing hname
    obtain ⟨rest, rfl⟩ := List.head?_eq_some_iff.mp hclosing
    exact h.isHandedOver htokens hrun hmode hname

theorem invariants_of_reading_nested :
    let source := "é$(A|$(B|ö)\\))"
    let inner : List Token := [.opening, .plain 'B', .bar, .plain 'ö', .closing, .escaped ')']
    Reaches source 1 0 (ofString source) ∧
      (∃ calls, Reader.counted (roomAt 1) (scopeReader (roomAt 1)) 0
          [.plain 'é', .opening, .plain 'A', .bar, .opening, .plain 'B'] = some calls ∧
        (Reader.Mode.scope 2 "A" none 6 2 #[.opening, .plain 'B']).IsCounted calls) ∧
      IsHandedOver source 1 (ofString source) 6 15 inner ∧
      IsHandedOver source 2 inner 10 12 [.plain 'ö'] := by
  intro source inner
  obtain ⟨-, hreading, -⟩ := invariants_of_reading
  have houter : Reaches source 1 0 (ofString source) := .source
  have htokens : ofString source =
      [.plain 'é', .opening, .plain 'A', .bar] ++ inner ++ [.closing] := by decide
  have hpart := hreading source 1 0 (ofString source) houter
    [.plain 'é', .opening, .plain 'A', .bar, .opening, .plain 'B']
    [.bar, .plain 'ö', .closing, .escaped ')', .closing]
    { offset := 9, pending := "é", mode := .scope 2 "A" none 6 2 #[.opening, .plain 'B'] }
    htokens rfl
  have hscope := hreading source 1 0 (ofString source) houter
    ([.plain 'é', .opening, .plain 'A', .bar] ++ inner) [.closing]
    { offset := 15, pending := "é", mode := .scope 2 "A" none 6 1 inner.toArray }
    htokens rfl
  obtain ⟨calls, hcounted, hcalls, -⟩ := hpart.1
  have hover := hscope.2 2 "A" none 6 inner.toArray rfl rfl (by decide)
  have hdeeper := hreading source 2 6 inner hover.reaches
    [.opening, .plain 'B', .bar, .plain 'ö'] [.closing, .escaped ')']
    { offset := 12, mode := .scope 6 "B" none 10 1 #[.plain 'ö'] } rfl rfl
  exact ⟨houter, ⟨calls, hcounted, hcalls⟩, hover,
    hdeeper.2 6 "B" none 10 #[.plain 'ö'] rfl rfl (by decide)⟩

end ReplyTemplate.Template
