import ReplyTemplate.Proofs.Template.Reading
import ReplyTemplate.Proofs.Template.Source

/-! Reading what has been written. A template is read back in its normal form, and so is a normal
template as it is. -/

namespace ReplyTemplate.Template

open Token (ofChar written totalSize depthAfter)

namespace Reader

section

variable {room : Nat} {readScope : ScopeReader}

theorem foldlM_cons_of_eq_ok {r r' : Reader} {token : Token}
    (h : step room readScope r token = .ok r') (tokens : List Token) :
    (token :: tokens).foldlM (step room readScope) r = tokens.foldlM (step room readScope) r' := by
  rw [List.foldlM_cons, h]
  rfl

theorem foldlM_append_of_eq_ok {r r' : Reader} {s : List Token}
    (h : s.foldlM (step room readScope) r = .ok r') (t : List Token) :
    (s ++ t).foldlM (step room readScope) r = t.foldlM (step room readScope) r' := by
  rw [List.foldlM_append, h]
  rfl

/-- Where every written character makes a string longer by itself, all of them together do. -/
theorem foldlM_step_map_written (isSpecial : Char → Bool) (place : Nat → String → Reader)
    (hstep : ∀ offset s c, step room readScope (place offset s) (written isSpecial c) =
      .ok (place (offset + (written isSpecial c).size) (s ++ String.ofList [c])))
    (contents : String) (offset : Nat) (s : String) :
    (contents.toList.map (written isSpecial)).foldlM (step room readScope) (place offset s) =
      .ok (place (offset + totalSize (contents.toList.map (written isSpecial)))
        (s ++ contents)) := by
  suffices hchars : ∀ (cs : List Char) (offset : Nat) (s : String),
      (cs.map (written isSpecial)).foldlM (step room readScope) (place offset s) =
        .ok (place (offset + totalSize (cs.map (written isSpecial))) (s ++ String.ofList cs)) by
    have h := hchars contents.toList offset s
    rw [String.ofList_toList] at h
    exact h
  intro cs
  induction cs with
  | nil =>
    intro offset s
    rw [String.ofList_nil, String.append_empty]
    rfl
  | cons c cs ih =>
    intro offset s
    rw [List.map_cons, foldlM_cons_of_eq_ok (hstep offset s c), ih, String.append_assoc,
      ← String.ofList_append, Token.totalSize_cons, Nat.add_assoc]
    rfl

theorem foldlM_step_text (inScope : Bool) (contents : String) {r : Reader}
    (hmode : r.mode = .text) :
    (sourceTokens inScope (text contents)).foldlM (step room readScope) r =
      .ok { r.absorb (text contents) with
        offset := r.offset + totalSize (sourceTokens inScope (text contents)) } := by
  obtain ⟨offset, parts, pending, mode⟩ := r
  obtain rfl : mode = .text := hmode
  have hstep : ∀ offset s c,
      step room readScope ⟨offset, parts, s, .text⟩ (written (specialInText inScope) c) =
        .ok ⟨offset + (written (specialInText inScope) c).size, parts, s ++ String.ofList [c],
          .text⟩ := by
    intro offset s c
    unfold written ofChar
    split
    · rfl
    · split <;> rfl
  exact foldlM_step_map_written (specialInText inScope) _ hstep contents offset pending

theorem foldlM_step_name (r : Reader) (start offset : Nat) (name : String) :
    (name.toList.map (written specialInName)).foldlM (step room readScope)
        { r with offset, mode := .name start "" } =
      .ok { r with
        offset := offset + totalSize (name.toList.map (written specialInName))
        mode := .name start name } := by
  have hstep : ∀ offset s c,
      step room readScope { r with offset, mode := .name start s } (written specialInName c) =
        .ok { r with
          offset := offset + (written specialInName c).size
          mode := .name start (s ++ String.ofList [c]) } := by
    intro offset s c
    unfold written ofChar
    split
    · rfl
    · next h =>
      split
      · exact absurd rfl h
      · exact absurd rfl h
      · exact absurd rfl h
      · rfl
  have hall := foldlM_step_map_written specialInName _ hstep name offset ""
  rw [String.empty_append] at hall
  exact hall

theorem foldlM_step_argument (r : Reader) (start offset : Nat) (name argument : String) :
    (argument.toList.map (written specialInArgument)).foldlM (step room readScope)
        { r with offset, mode := .argument start name "" } =
      .ok { r with
        offset := offset + totalSize (argument.toList.map (written specialInArgument))
        mode := .argument start name argument } := by
  have hstep : ∀ offset s c,
      step room readScope { r with offset, mode := .argument start name s }
          (written specialInArgument c) =
        .ok { r with
          offset := offset + (written specialInArgument c).size
          mode := .argument start name (s ++ String.ofList [c]) } := by
    intro offset s c
    unfold written ofChar
    split
    · rfl
    · next h =>
      split
      · exact absurd rfl h
      · rfl
      · exact absurd rfl h
      · rfl
  have hall := foldlM_step_map_written specialInArgument _ hstep argument offset ""
  rw [String.empty_append] at hall
  exact hall

def afterHead (start : Nat) (name : String) : Option String → Mode
  | none => .name start name
  | some argument => .argument start name argument

theorem foldlM_step_headTokens (r : Reader) (start offset : Nat) (name : String)
    (argument : Option String) :
    (headTokens name argument).foldlM (step room readScope)
        { r with offset, mode := .name start "" } =
      .ok { r with
        offset := offset + totalSize (headTokens name argument)
        mode := afterHead start name argument } := by
  cases argument with
  | none => exact foldlM_step_name r start offset name
  | some argument =>
    have hequals : step room readScope
        { r with
          offset := offset + totalSize (name.toList.map (written specialInName))
          mode := .name start name } .equals =
        .ok { r with
          offset := offset + totalSize (name.toList.map (written specialInName)) +
            Token.equals.size
          mode := .argument start name "" } := rfl
    rw [headTokens, foldlM_append_of_eq_ok (foldlM_step_name r start offset name),
      foldlM_cons_of_eq_ok hequals, foldlM_step_argument, Token.totalSize_append,
      Token.totalSize_cons, Nat.add_assoc, Nat.add_assoc]
    rfl

/-- A scope is collected as long as it closes no more calls than it opens. -/
theorem foldlM_step_scope {tokens : List Token} {depth after : Nat}
    (h : depthAfter depth tokens = some after) (r : Reader) (start offset scopeStart : Nat)
    (name : String) (argument : Option String) (collected : Array Token) :
    tokens.foldlM (step room readScope)
        { r with offset, mode := .scope start name argument scopeStart (depth + 1) collected } =
      .ok { r with
        offset := offset + totalSize tokens
        mode := .scope start name argument scopeStart (after + 1)
          (collected ++ tokens.toArray) } := by
  induction tokens generalizing depth offset collected with
  | nil =>
    obtain rfl : depth = after := Option.some.inj h
    rw [List.foldlM_nil, Token.totalSize_nil, Array.append_empty]
    rfl
  | cons token tokens ih =>
    have hcollect : collected ++ (token :: tokens).toArray =
        collected.push token ++ tokens.toArray := by simp
    rw [Token.totalSize_cons, ← Nat.add_assoc, hcollect]
    cases token with
    | closing =>
      rw [depthAfter] at h
      split at h
      · cases h
      · next hdepth =>
        obtain ⟨depth, rfl⟩ := Nat.exists_eq_succ_of_ne_zero hdepth
        rw [foldlM_cons_of_eq_ok rfl]
        exact ih h _ _
    | _ =>
      rw [foldlM_cons_of_eq_ok rfl]
      exact ih h _ _

/-- Behind a call's head and its bar a scope is collected. -/
theorem foldlM_step_bar {tokens : List Token} {depth : Nat} (h : depthAfter 0 tokens = some depth)
    (r : Reader) (start offset : Nat) (name : String) (argument : Option String) :
    (Token.bar :: tokens).foldlM (step room readScope)
        { r with offset, mode := afterHead start name argument } =
      .ok { r with
        offset := offset + Token.bar.size + totalSize tokens
        mode := .scope start name argument (offset + Token.bar.size) (depth + 1)
          tokens.toArray } := by
  have hbar : step room readScope { r with offset, mode := afterHead start name argument } .bar =
      .ok { r with
        offset := offset + Token.bar.size
        mode := .scope start name argument (offset + Token.bar.size) (0 + 1) #[] } := by
    cases argument <;> rfl
  rw [foldlM_cons_of_eq_ok hbar, foldlM_step_scope h, Array.empty_append]

section Call

variable (hroom : 0 < room) {r : Reader} (hmode : r.mode = .text)

include hroom hmode

theorem foldlM_step_opened (name : String) (argument : Option String) (rest : List Token) :
    (Token.opening :: headTokens name argument ++ rest).foldlM (step room readScope) r =
      rest.foldlM (step room readScope) { r with
        offset := r.offset + totalSize (.opening :: headTokens name argument)
        mode := afterHead r.offset name argument } := by
  have hopening : step room readScope r .opening =
      .ok { r with offset := r.offset + Token.opening.size, mode := .name r.offset "" } := by
    simp only [step, hmode, if_neg (Nat.ne_of_gt hroom)]
    rfl
  rw [List.cons_append, foldlM_cons_of_eq_ok hopening,
    foldlM_append_of_eq_ok (foldlM_step_headTokens r r.offset _ name argument),
    Token.totalSize_cons, Nat.add_assoc]

/-- Behind a written call's head its written scope is collected. -/
theorem foldlM_step_collected (name : String) (argument : Option String) (scope : Template)
    (rest : List Token) :
    (Token.opening :: headTokens name argument ++ .bar :: sourceTokens true scope ++ rest).foldlM
        (step room readScope) r =
      rest.foldlM (step room readScope) { r with
        offset := r.offset + totalSize (.opening :: headTokens name argument ++ [.bar]) +
          totalSize (sourceTokens true scope)
        mode := .scope r.offset name argument
          (r.offset + totalSize (.opening :: headTokens name argument ++ [.bar])) 1
          (sourceTokens true scope).toArray } := by
  have hplace : r.offset + totalSize (.opening :: headTokens name argument) + Token.bar.size =
      r.offset + totalSize (.opening :: headTokens name argument ++ [.bar]) := by
    simp only [Token.totalSize_append, Token.totalSize_cons, Token.totalSize_nil, Nat.add_zero,
      Nat.add_assoc]
  rw [List.append_assoc, foldlM_step_opened hroom hmode,
    foldlM_append_of_eq_ok (foldlM_step_bar (depthAfter_sourceTokens 0 scope) r _ _ _ _), hplace]

/-- Reading a written call comes down to closing it. -/
theorem foldlM_step_call (name : String) (argument : Option String) (scope : Option Template)
    (inScope : Bool) :
    (sourceTokens inScope (call name argument scope)).foldlM (step room readScope) r =
      close
        { r with
          offset := r.offset + totalSize (sourceTokens inScope (call name argument scope)) }
        readScope r.offset name argument (scope.map fun scope =>
          (r.offset + totalSize (.opening :: headTokens name argument ++ [.bar]),
            (sourceTokens true scope).toArray)) := by
  cases scope with
  | none =>
    have hclosing (offset : Nat) : step room readScope
        { r with offset, mode := afterHead r.offset name argument } .closing =
          close { r with offset := offset + Token.closing.size } readScope r.offset name argument
            none := by
      cases argument <;> rfl
    rw [sourceTokens, foldlM_step_opened hroom hmode, List.foldlM_cons, hclosing,
      Token.totalSize_append, ← Nat.add_assoc]
    exact bind_pure _
  | some scope =>
    have hclosing (offset start : Nat) : step room readScope
        { r with
          offset
          mode := .scope r.offset name argument start 1 (sourceTokens true scope).toArray }
        .closing =
          close { r with offset := offset + Token.closing.size } readScope r.offset name argument
            (some (start, (sourceTokens true scope).toArray)) := rfl
    rw [sourceTokens, foldlM_step_collected hroom hmode, List.foldlM_cons, hclosing]
    simp only [Token.totalSize_append, Token.totalSize_cons, Token.totalSize_nil, ← Nat.add_assoc]
    exact bind_pure _

theorem foldlM_step_bareCall {name : String} (hname : name ≠ "") (argument : Option String)
    (inScope : Bool) :
    (sourceTokens inScope (call name argument none)).foldlM (step room readScope) r =
      .ok { r.absorb (call name argument none) with
        offset := r.offset + totalSize (sourceTokens inScope (call name argument none))
        mode := .text } := by
  rw [foldlM_step_call hroom hmode]
  exact close_of_read hname rfl _ r.offset argument

theorem foldlM_step_scopedCall {name : String} (hname : name ≠ "") (argument : Option String)
    {scope scope' : Template}
    (hscope : ∀ start, readScope start (scope.sourceTokens true) = .ok scope') (inScope : Bool) :
    (sourceTokens inScope (call name argument (some scope))).foldlM (step room readScope) r =
      .ok { r.absorb (call name argument (some scope')) with
        offset := r.offset + totalSize (sourceTokens inScope (call name argument (some scope)))
        mode := .text } := by
  rw [foldlM_step_call hroom hmode]
  refine close_of_read hname ?_ _ r.offset argument
  simp only [Option.map_some, Option.mapM_some, hscope]
  rfl

end Call

/-- What has been written adds its flat parts to those that a reader holds. -/
theorem exists_foldlM_step_sourceTokens
    (hscope : ∀ {scope : Template}, scope.isNamed → scope.depth < room →
      ∀ start, readScope start (scope.sourceTokens true) = .ok scope.normalize)
    {template : Template} (hnamed : template.isNamed) (hdepth : template.depth ≤ room)
    (inScope : Bool) {r : Reader} (hmode : r.mode = .text) {parts : List Template}
    (hholds : r.Holds parts) :
    ∃ r', (template.sourceTokens inScope).foldlM (step room readScope) r = .ok r' ∧
      r'.mode = .text ∧ r'.Holds (parts ++ template.flatParts) := by
  induction template generalizing r parts with
  | text contents =>
    exact ⟨_, foldlM_step_text inScope contents hmode, hmode, (hholds.absorb _).move _ _⟩
  | group items ih =>
    rw [isNamed, isNamedAll_iff] at hnamed
    rw [depth, depthAll_le_iff] at hdepth
    rw [sourceTokens, flatParts]
    induction items generalizing r parts with
    | nil => exact ⟨r, rfl, hmode, by simpa [flatPartsAll] using hholds⟩
    | cons item items ihItems =>
      rw [List.forall_mem_cons] at ih hnamed hdepth
      obtain ⟨next, hitem, hmode, hholds⟩ := ih.1 hnamed.1 hdepth.1 hmode hholds
      obtain ⟨last, hitems, hmode, hholds⟩ := ihItems ih.2 hnamed.2 hdepth.2 hmode hholds
      refine ⟨last, ?_, hmode, ?_⟩
      · rw [sourceTokensAll, foldlM_append_of_eq_ok hitem, hitems]
      · rw [flatPartsAll, ← List.append_assoc]
        exact hholds
  | bareCall name argument =>
    have hname : name ≠ "" := by simpa [isNamed] using hnamed
    exact ⟨_, foldlM_step_bareCall hdepth hmode hname argument inScope, rfl,
      (hholds.absorb _).move _ _⟩
  | scopedCall name argument scope =>
    have hname : name ≠ "" ∧ scope.isNamed := by simpa [isNamed] using hnamed
    have hread := foldlM_step_scopedCall (Nat.zero_lt_of_lt hdepth) hmode hname.1 argument
      (hscope hname.2 hdepth) inScope
    exact ⟨_, hread, rfl, (hholds.absorb _).move _ _⟩

end

end Reader

theorem readTokens_sourceTokens {room : Nat} {readScope : ScopeReader}
    (hscope : ∀ {scope : Template}, scope.isNamed → scope.depth < room →
      ∀ start, readScope start (scope.sourceTokens true) = .ok scope.normalize)
    {template : Template} (hnamed : template.isNamed) (hdepth : template.depth ≤ room)
    (inScope : Bool) (start : Nat) :
    readTokens room readScope start (template.sourceTokens inScope) = .ok template.normalize := by
  obtain ⟨r, hrun, hmode, hholds⟩ := Reader.exists_foldlM_step_sourceTokens hscope hnamed hdepth
    inScope rfl (Reader.holds_start start)
  rw [readTokens, hrun]
  exact Reader.finish_of_holds hholds hmode

/-- What has been written is read back in its normal form, at the top as in a scope. -/
theorem readWithin_sourceTokens {room : Nat} {template : Template} (hnamed : template.isNamed)
    (hdepth : template.depth ≤ room) (inScope : Bool) (start : Nat) :
    readWithin room start (template.sourceTokens inScope) = .ok template.normalize := by
  induction room generalizing template inScope start with
  | zero =>
    apply readTokens_sourceTokens _ hnamed hdepth
    intro scope _ hlt
    exact absurd hlt (Nat.not_lt_zero _)
  | succ room ih =>
    apply readTokens_sourceTokens _ hnamed hdepth
    intro scope hnamed hlt
    exact ih hnamed (Nat.le_of_lt_succ hlt) true

/-- Writing keeps all of a template but needless structure. -/
theorem parse_source {template : Template} (hnamed : template.isNamed)
    (hdepth : template.depth ≤ nestingLimit) :
    parse template.source = .ok template.normalize := by
  rw [parse, ofString_source]
  exact readWithin_sourceTokens hnamed hdepth false 0

theorem parse_source_untidy :
    let template := group [text "", group [text "a\\", text ")"],
      call "p|" (some "$(") (some (group [text "x", group [], text ")"])), text " "]
    template.isNamed ∧ template.depth ≤ nestingLimit ∧ parse template.source =
      .ok (group [text "a\\)", call "p|" (some "$(") (some (text "x)"))]) := by
  refine ⟨by decide, by decide, (parse_source (by decide) (by decide)).trans (congrArg _ ?_)⟩
  decide

/-- What has been read is read again from its source. -/
theorem parse_source_of_parse {source : String} {template : Template}
    (h : parse source = .ok template) : parse template.source = .ok template := by
  obtain ⟨hnormal, hdepth⟩ := readWithin_sound h
  rw [parse, ofString_source, readWithin_sourceTokens (isNamed_of_isNormal hnormal) hdepth,
    normalize_of_isNormal hnormal]

theorem parse_source_of_parse_nested : ∃ template,
    parse "$(A=b|$(C) \\) ) \\" = .ok template ∧ parse template.source = .ok template := by
  have h : (parse "$(A=b|$(C) \\) ) \\").toOption = some (group [call "A" (some "b")
      (some (group [call "C" none none, text " ) "])), text " \\"]) := by decide +kernel
  have hparse := parse_eq_ok_of_toOption h
  exact ⟨_, hparse, parse_source_of_parse hparse⟩

end ReplyTemplate.Template
