import ReplyTemplate.Evaluation
import ReplyTemplate.Proofs.Table.Substitution
import ReplyTemplate.Proofs.Template.Room

/-! Plain sources, which are read as the text that they are. -/

namespace ReplyTemplate

namespace Token

/-- Whether a token stands for all its characters in text. -/
def isLiteral : Token → Bool
  | escaped _ | opening => false
  | _ => true

theorem textChars_of_isLiteral {token : Token} (h : token.isLiteral) :
    token.textChars = token.spelling := by
  cases token with
  | escaped | opening => cases h
  | _ => rfl

theorem length_textChars_le (tokens : List Token) :
    (tokens.flatMap textChars).length ≤ (tokens.flatMap spelling).length := by
  induction tokens with
  | nil => exact Nat.le_refl 0
  | cons token tokens ih =>
    have htoken : token.textChars.length ≤ token.spelling.length := by
      cases token with
      | escaped c => exact Nat.le_succ 1
      | _ => exact Nat.le_refl _
    rw [List.flatMap_cons, List.flatMap_cons, List.length_append, List.length_append]
    omega

/-- A backslash before a character is lost in text. -/
theorem isLiteral_of_flatMap_textChars {tokens : List Token} (hopening : .opening ∉ tokens)
    (h : tokens.flatMap textChars = tokens.flatMap spelling) :
    ∀ token ∈ tokens, token.isLiteral := by
  induction tokens with
  | nil => simp
  | cons token tokens ih =>
    rw [List.mem_cons, not_or] at hopening
    have htoken : token.isLiteral := by
      cases token with
      | escaped c =>
        have hlength : ([c] ++ tokens.flatMap textChars).length =
            (['\\', c] ++ tokens.flatMap spelling).length := congrArg List.length h
        have hle := length_textChars_le tokens
        simp only [List.length_append, List.length_cons, List.length_nil] at hlength
        omega
      | opening => exact absurd rfl hopening.1
      | _ => rfl
    rw [List.flatMap_cons, List.flatMap_cons, textChars_of_isLiteral htoken] at h
    exact List.forall_mem_cons.mpr ⟨htoken, ih hopening.2 (List.append_cancel_left h)⟩

/-- Of the characters only `$(` and backslashes before others do not stand for themselves. -/
theorem forall_isLiteral_iff {cs : List Char} :
    (∀ token ∈ ofChars cs, token.isLiteral) ↔ ¬ ['$', '('] <:+: cs ∧ '\\' ∉ cs.dropLast := by
  fun_induction ofChars cs with
  | case1 => simp
  | case2 =>
    have hshort : ¬ ['$', '('] <:+: ['\\'] := fun h => Nat.not_succ_le_self 1 h.length_le
    rw [List.forall_mem_singleton]
    exact iff_of_true rfl ⟨hshort, List.not_mem_nil⟩
  | case3 c rest ih =>
    rw [List.forall_mem_cons]
    exact iff_of_false (fun h => Bool.false_ne_true h.1) fun h => h.2 List.mem_cons_self
  | case4 rest ih =>
    rw [List.forall_mem_cons]
    exact iff_of_false (fun h => Bool.false_ne_true h.1) fun h => h.1 ⟨[], rest, rfl⟩
  | case5 c rest hdangling hescaped hopening ih =>
    have hbackslash : c ≠ '\\' := by
      rintro rfl
      cases rest with
      | nil => exact hdangling rfl rfl
      | cons next rest => exact hescaped next rest rfl rfl
    have hprefix : ¬ ['$', '('] <+: c :: rest := by
      rintro ⟨rest', hrest⟩
      obtain ⟨rfl, rfl⟩ := List.cons.inj hrest
      exact hopening rest' rfl rfl
    have hlast : '\\' ∈ (c :: rest).dropLast ↔ '\\' ∈ rest.dropLast := by
      cases rest <;> simp [hbackslash.symm]
    rw [List.forall_mem_cons, ih, List.infix_cons_iff, or_iff_right hprefix, hlast]
    refine and_iff_right ?_
    split <;> rfl

end Token

namespace Template

namespace Reader

variable {room : Nat} {readScope : ScopeReader}

/-- Where no call opens, all tokens are text. -/
theorem foldlM_step_of_not_mem_opening {tokens : List Token} (h : .opening ∉ tokens) {r : Reader}
    (hmode : r.mode = .text) :
    tokens.foldlM (step room readScope) r =
      .ok { r.absorb (text (String.ofList (tokens.flatMap Token.textChars))) with
        offset := r.offset + Token.totalSize tokens, mode := .text } := by
  induction tokens generalizing r with
  | nil =>
    obtain ⟨offset, parts, pending, mode⟩ := r
    obtain rfl : mode = .text := hmode
    rw [List.flatMap_nil, String.ofList_nil, absorb, String.append_empty]
    rfl
  | cons token tokens ih =>
    rw [List.mem_cons, not_or] at h
    have hstep : step room readScope r token = .ok _ :=
      step_text_of_ne_opening hmode (Ne.symm h.1)
    rw [foldlM_cons_of_eq_ok hstep, ih h.2 rfl]
    simp [absorb, String.append_assoc, Nat.add_assoc]

theorem not_mem_opening_of_foldlM {tokens : List Token} {r r' : Reader}
    (h : tokens.foldlM (step 0 readScope) r = .ok r') (hmode : r.mode = .text) :
    .opening ∉ tokens := by
  induction tokens generalizing r with
  | nil => simp
  | cons token tokens ih =>
    obtain ⟨next, hstep, hrest⟩ := exists_of_foldlM_cons_eq_ok h
    have htoken : token ≠ .opening := by
      rintro rfl
      simp only [step, hmode, if_pos] at hstep
      cases hstep
    rw [step_text_of_ne_opening hmode htoken] at hstep
    cases hstep
    rw [List.mem_cons, not_or]
    exact ⟨Ne.symm htoken, ih hrest rfl⟩

end Reader

theorem readWithin_of_not_mem_opening {room start : Nat} {tokens : List Token}
    (h : .opening ∉ tokens) :
    readWithin room start tokens = .ok (text (String.ofList (tokens.flatMap Token.textChars))) := by
  have hrun : Reader.run room (scopeReader room) start tokens = .ok _ :=
    Reader.foldlM_step_of_not_mem_opening h rfl
  have hholds := (Reader.holds_start start).absorb
    (text (String.ofList (tokens.flatMap Token.textChars)))
  have hfinish := Reader.finish_of_holds (hholds.move (start + Token.totalSize tokens) .text) rfl
  rw [List.nil_append, ofFlatParts_singleton] at hfinish
  rw [readWithin_eq, hrun]
  exact hfinish

/-- A call that opens is in what is read. -/
theorem not_mem_opening_of_depth {room start : Nat} {tokens : List Token} {template : Template}
    (h : readWithin room start tokens = .ok template) (hdepth : template.depth = 0) :
    .opening ∉ tokens := by
  obtain ⟨r, hrun, -⟩ := exists_run_of_readWithin (readWithin_of_depth_le h (Nat.le_of_eq hdepth))
  exact Reader.not_mem_opening_of_foldlM hrun rfl

/-- Whether a source opens no call and escapes no character. Its last one may be a backslash. -/
def IsPlain (source : String) : Prop :=
  ¬ ['$', '('] <:+: source.toList ∧ '\\' ∉ source.toList.dropLast

instance (source : String) : Decidable (IsPlain source) :=
  inferInstanceAs (Decidable (_ ∧ _))

theorem isPlain_iff {source : String} :
    IsPlain source ↔ ∀ token ∈ Token.ofString source, token.isLiteral :=
  Token.forall_isLiteral_iff.symm

theorem parse_of_isPlain {source : String} (h : IsPlain source) :
    parse source = .ok (text source) := by
  rw [isPlain_iff] at h
  have hopening : .opening ∉ Token.ofString source := by
    intro hmem
    cases h _ hmem
  have hchars : (Token.ofString source).flatMap Token.textChars = source.toList := by
    rw [← Token.flatMap_spelling_ofChars source.toList]
    exact List.flatMap_congr fun token hmem => Token.textChars_of_isLiteral (h token hmem)
  rw [parse, readWithin_of_not_mem_opening hopening, hchars, String.ofList_toList]

theorem isPlain_of_parse {source : String} (h : parse source = .ok (text source)) :
    IsPlain source := by
  have hopening : .opening ∉ Token.ofString source := not_mem_opening_of_depth h rfl
  have hread : readWithin nestingLimit 0 (Token.ofString source) = .ok _ :=
    readWithin_of_not_mem_opening hopening
  have hsource : String.ofList ((Token.ofString source).flatMap Token.textChars) = source :=
    text.inj (Except.ok.inj (hread.symm.trans h))
  rw [isPlain_iff]
  apply Token.isLiteral_of_flatMap_textChars hopening
  rw [Token.ofString, Token.flatMap_spelling_ofChars, ← Token.ofString]
  simpa using congrArg String.toList hsource

theorem render_of_isPlain {σ : Type} {source : String} (h : IsPlain source) (registry : Registry σ)
    (run : Run σ) : render registry source run = (run.table.substitute source, run) := by
  rw [render, parse_of_isPlain h]
  rfl

/-- Plain sources, and no others, are read as the text that they are. Rendering replaces their
references and does nothing else. -/
theorem parse_eq_text_iff (source : String) :
    (parse source = .ok (text source) ↔ IsPlain source) ∧
    (IsPlain source → ∀ {σ : Type} (registry : Registry σ) (run : Run σ),
      render registry source run = (run.table.substitute source, run) ∧
      ((∀ reference : Reference, ¬ reference.spelling <:+: source.toList) →
        render registry source run = (.ok source, run))) := by
  refine ⟨⟨isPlain_of_parse, parse_of_isPlain⟩, fun h σ registry run => ?_⟩
  have hrender := render_of_isPlain h registry run
  refine ⟨hrender, fun hnone => ?_⟩
  rw [hrender, Table.substitute_of_not_isInfix run.table hnone]

theorem parse_eq_text_iff_lone_backslash :
    let run : Run Unit := ⟨.insert ∅ "A" "B" "C", (), []⟩
    IsPlain " $%A:B%\\" ∧ parse " $%A:B%\\" = .ok (text " $%A:B%\\") ∧
      render ∅ " $%A:B%\\" run = (.ok " $C\\", run) ∧
      IsPlain "5% |)\\" ∧
      (∀ reference : Reference, ¬ reference.spelling <:+: "5% |)\\".toList) ∧
      render ∅ "5% |)\\" run = (.ok "5% |)\\", run) := by
  intro run
  have hfilled : IsPlain " $%A:B%\\" := by decide +kernel
  have hkept : IsPlain "5% |)\\" := by decide +kernel
  have hnone : ∀ reference : Reference, ¬ reference.spelling <:+: "5% |)\\".toList := by
    intro reference hfound
    have hcolon : ':' ∈ reference.spelling := by simp [Reference.spelling]
    have hmem := hfound.subset hcolon
    simp at hmem
  obtain ⟨hparse, hrender⟩ := parse_eq_text_iff " $%A:B%\\"
  have hsubstitute : run.table.substitute " $%A:B%\\" = .ok " $C\\" := by
    decide +kernel
  refine ⟨hfilled, hparse.mpr hfilled, ?_, hkept, hnone, ?_⟩
  · rw [(hrender hfilled ∅ run).1, hsubstitute]
  · exact ((parse_eq_text_iff "5% |)\\").2 hkept ∅ run).2 hnone

end Template

end ReplyTemplate
