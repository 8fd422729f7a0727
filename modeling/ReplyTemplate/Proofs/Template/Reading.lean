import ReplyTemplate.Proofs.Template.Normal
import ReplyTemplate.Template.Reader

/-! Reading gives normal templates. Text and closed calls add to what a reader holds, and what it
holds at the end is joined as in normalizing. -/

namespace ReplyTemplate.Template

namespace Reader

def absorb (r : Reader) : Template → Reader
  | text contents => { r with pending := r.pending ++ contents }
  | part => { r with parts := r.flush.push part, pending := "" }

theorem absorb_of_not_isText {part : Template} (h : ¬ part.isText) (r : Reader) :
    r.absorb part = { r with parts := r.flush.push part, pending := "" } := by
  cases part with
  | text => simp [isText] at h
  | group | call => rfl

theorem toList_flush (r : Reader) :
    r.flush.toList = r.parts.toList ++ joinTexts [text r.pending] := by
  by_cases h : r.pending = "" <;> simp [flush, joinTexts, h]

/-- Taking up parts joins their texts, pending text included. -/
theorem toList_flush_foldl_absorb (parts : List Template) (r : Reader) :
    (parts.foldl absorb r).flush.toList =
      r.parts.toList ++ joinTexts (text r.pending :: parts) := by
  induction parts generalizing r with
  | nil => exact toList_flush r
  | cons part parts ih =>
    rw [List.foldl_cons, ih]
    by_cases h : part.isText
    · obtain ⟨contents, rfl⟩ := exists_eq_text_of_isText h
      rw [joinTexts_text_text]
      rfl
    · rw [absorb_of_not_isText h, joinTexts_text_cons h, joinTexts_text_empty]
      simp [toList_flush]

/-- Text is pending until another part comes, so it is never the last part. -/
theorem not_isText_getLast?_foldl_absorb (parts : List Template) {r : Reader}
    (h : ¬ r.parts.toList.getLast?.any isText) :
    ¬ (parts.foldl absorb r).parts.toList.getLast?.any isText := by
  induction parts generalizing r with
  | nil => exact h
  | cons part parts ih =>
    rw [List.foldl_cons]
    apply ih
    by_cases hpart : part.isText
    · obtain ⟨contents, rfl⟩ := exists_eq_text_of_isText hpart
      exact h
    · simp [absorb_of_not_isText hpart, hpart]

/-- Apart from its place, the reader is one that has taken up the parts. -/
def Holds (r : Reader) (parts : List Template) : Prop :=
  parts.foldl absorb { offset := 0 } = { r with offset := 0, mode := .text }

theorem holds_start (offset : Nat) : Holds { offset } [] := rfl

theorem Holds.move {r : Reader} {parts : List Template} (h : r.Holds parts) (offset : Nat)
    (mode : Mode) : Holds { r with offset, mode } parts := h

theorem Holds.absorb {r : Reader} {parts : List Template} (h : r.Holds parts) (part : Template) :
    (r.absorb part).Holds (parts ++ [part]) := by
  rw [Holds, List.foldl_concat, h]
  cases part <;> rfl

theorem toList_flush_of_holds {r : Reader} {parts : List Template} (h : r.Holds parts) :
    r.flush.toList = joinTexts parts := by
  have hflush := toList_flush_foldl_absorb parts { offset := 0 }
  rw [h, joinTexts_text_empty] at hflush
  exact hflush

theorem not_isText_getLast?_of_holds {r : Reader} {parts : List Template} (h : r.Holds parts) :
    ¬ r.parts.toList.getLast?.any isText := by
  have hlast := not_isText_getLast?_foldl_absorb parts (r := { offset := 0 }) (by simp)
  rw [h] at hlast
  exact hlast

/-- Blank text is dropped at the end exactly where normalizing drops it. -/
theorem toList_kept {r : Reader} (h : ¬ r.parts.toList.getLast?.any isText) :
    (if !r.parts.isEmpty && r.pending.toList.all Text.isBlank then r.parts else r.flush).toList =
      dropBlankEnd r.flush.toList := by
  by_cases hpending : r.pending = ""
  · have hblank : ¬ r.parts.toList.getLast?.any isBlankText := by
      intro hb
      obtain ⟨part, hlast, hpart⟩ := (Option.any_eq_true _ _).mp hb
      exact h ((Option.any_eq_true _ _).mpr ⟨part, hlast, isText_of_isBlankText hpart⟩)
    have hflush : r.flush = r.parts := by simp [flush, hpending]
    rw [hflush, ite_self, dropBlankEnd, if_neg fun hd => hblank hd.2]
  · have hflush : r.flush.toList = r.parts.toList ++ [text r.pending] := by
      simp [flush, hpending]
    have hlen : 1 < r.flush.toList.length ↔ r.parts.isEmpty = false := by
      rw [hflush, List.length_append, List.length_singleton, ← Array.isEmpty_toList,
        List.isEmpty_eq_false_iff, ← List.length_pos_iff]
      omega
    have hlast : r.flush.toList.getLast?.any isBlankText = r.pending.toList.all Text.isBlank := by
      rw [hflush, List.getLast?_concat, Option.any_some, isBlankText]
    have hdrop : (!r.parts.isEmpty && r.pending.toList.all Text.isBlank) = true ↔
        1 < r.flush.toList.length ∧ r.flush.toList.getLast?.any isBlankText := by
      rw [Bool.and_eq_true, Bool.not_eq_true', hlen, hlast]
    by_cases hdropped : 1 < r.flush.toList.length ∧ r.flush.toList.getLast?.any isBlankText
    · rw [dropBlankEnd, if_pos hdropped, if_pos (hdrop.mpr hdropped), hflush, List.dropLast_concat]
    · rw [dropBlankEnd, if_neg hdropped, if_neg (mt hdrop.mp hdropped)]

theorem finish_of_holds {r : Reader} {parts : List Template} (h : r.Holds parts)
    (hmode : r.mode = .text) : r.finish = .ok (ofFlatParts parts) := by
  rw [finish, hmode, ofFlatParts, ← toList_flush_of_holds h,
    ← toList_kept (not_isText_getLast?_of_holds h)]
  rfl

theorem mode_of_finish_eq_ok {r : Reader} {template : Template} (h : r.finish = .ok template) :
    r.mode = .text := by
  rw [finish] at h
  split at h
  · assumption
  all_goals cases h

/-- A call closes if it has a name and its scope can be read. -/
theorem close_eq_ok_iff {r r' : Reader} {readScope : ScopeReader} {offset : Nat} {name : String}
    {argument : Option String} {source : Option (Nat × Array Token)} :
    r.close readScope offset name argument source = .ok r' ↔
      name ≠ "" ∧ ∃ scope, (source.mapM fun (start, tokens) => readScope start tokens.toList) =
        .ok scope ∧ r' = { r.absorb (call name argument scope) with mode := .text } := by
  by_cases hname : name = ""
  · simp [close, hname, throw, throwThe, MonadExceptOf.throw, bind, Except.bind]
  · have hempty : name.isEmpty = false := by simpa using hname
    cases hscope : (source.mapM fun (start, tokens) => readScope start tokens.toList) with
    | error error => simp [close, hempty, hscope, bind, Except.bind]
    | ok scope =>
      simp [close, hempty, hscope, hname, bind, Except.bind, pure, Except.pure, absorb, eq_comm]

theorem close_of_read {readScope : ScopeReader} {name : String} {scope : Option Template}
    {source : Option (Nat × Array Token)} (hname : name ≠ "")
    (hscope : (source.mapM fun (start, tokens) => readScope start tokens.toList) = .ok scope)
    (r : Reader) (offset : Nat) (argument : Option String) :
    r.close readScope offset name argument source =
      .ok { r.absorb (call name argument scope) with mode := .text } :=
  close_eq_ok_iff.mpr ⟨hname, scope, hscope, rfl⟩

inductive Step (room : Nat) (readScope : ScopeReader) (r : Reader) (token : Token) : Reader → Prop
  | text (contents : String) : r.mode = .text →
      Step room readScope r token
        { r.absorb (text contents) with offset := r.offset + token.size, mode := .text }
  | opened : r.mode = .text → 0 < room →
      Step room readScope r token
        { r with offset := r.offset + token.size, mode := .name r.offset "" }
  | within (mode : Mode) : r.mode ≠ .text →
      Step room readScope r token { r with offset := r.offset + token.size, mode }
  | closed (name : String) (argument : Option String) (source : Option (Nat × Array Token))
      (scope : Option Template) : r.mode ≠ .text → name ≠ "" →
      (source.mapM fun (start, tokens) => readScope start tokens.toList) = .ok scope →
      Step room readScope r token
        { r.absorb (call name argument scope) with
          offset := r.offset + token.size, mode := .text }

theorem step_of_eq_ok {room : Nat} {readScope : ScopeReader} {r r' : Reader} {token : Token}
    (h : step room readScope r token = .ok r') : Step room readScope r token r' := by
  cases hmode : r.mode with
  | text =>
    simp only [step, hmode] at h
    split at h
    · split at h
      · cases h
      · next hroom =>
        cases h
        exact .opened hmode (Nat.pos_of_ne_zero hroom)
    · cases h
      rw [String.push_eq_append]
      exact .text (String.singleton '\\') hmode
    · cases h
      exact .text (String.ofList token.contents) hmode
  | name offset name =>
    have hne : r.mode ≠ .text := by simp [hmode]
    simp only [step, hmode] at h
    split at h
    · obtain ⟨hname, scope, hscope, rfl⟩ := close_eq_ok_iff.mp h
      exact .closed name none none scope hne hname hscope
    all_goals
      cases h
      exact .within _ hne
  | argument offset name argument =>
    have hne : r.mode ≠ .text := by simp [hmode]
    simp only [step, hmode] at h
    split at h
    · obtain ⟨hname, scope, hscope, rfl⟩ := close_eq_ok_iff.mp h
      exact .closed name (some argument) none scope hne hname hscope
    all_goals
      cases h
      exact .within _ hne
  | scope offset name argument start depth tokens =>
    have hne : r.mode ≠ .text := by simp [hmode]
    simp only [step, hmode] at h
    split at h
    · split at h
      · obtain ⟨hname, scope, hscope, rfl⟩ := close_eq_ok_iff.mp h
        exact .closed name argument (some (start, tokens)) scope hne hname hscope
      · cases h
        exact .within _ hne
    all_goals
      cases h
      exact .within _ hne

/-- Whether a reader has read flat parts, in which at most `room` calls nest. -/
def Sound (room : Nat) (r : Reader) : Prop :=
  (r.mode ≠ .text → 0 < room) ∧ ∃ parts, r.Holds parts ∧
    ∀ part ∈ parts, (¬ part.isGroup ∧ IsNormal part) ∧ depth part ≤ room

theorem sound_start (room offset : Nat) : Sound room { offset } :=
  ⟨fun h => absurd rfl h, [], holds_start offset, by simp⟩

theorem exists_read_of_mem {readScope : ScopeReader} {source : Option (Nat × Array Token)}
    {scope : Option Template} {template : Template}
    (h : (source.mapM fun (start, tokens) => readScope start tokens.toList) = .ok scope)
    (hmem : template ∈ scope) : ∃ start tokens, readScope start tokens = .ok template := by
  obtain rfl := hmem
  cases source with
  | none => cases h
  | some source =>
    refine ⟨source.1, source.2.toList, ?_⟩
    cases hread : readScope source.1 source.2.toList with
    | error error => simp [hread] at h
    | ok scope => simpa [hread, Except.map] using h

theorem isNormal_call {name : String} (hname : name ≠ "") (argument : Option String)
    {scope : Option Template} (hscope : ∀ template ∈ scope, IsNormal template) :
    IsNormal (call name argument scope) := by
  cases scope with
  | none => exact hname
  | some scope => exact ⟨hname, hscope scope rfl⟩

theorem depth_call_le {room : Nat} (hroom : 0 < room) (name : String) (argument : Option String)
    {scope : Option Template} (hscope : ∀ template ∈ scope, depth template < room) :
    depth (call name argument scope) ≤ room := by
  cases scope with
  | none => exact hroom
  | some scope => exact hscope scope rfl

theorem exists_of_foldlM_cons_eq_ok {room : Nat} {readScope : ScopeReader} {r r' : Reader}
    {token : Token} {tokens : List Token}
    (h : (token :: tokens).foldlM (Reader.step room readScope) r = .ok r') :
    ∃ next, Reader.step room readScope r token = .ok next ∧
      tokens.foldlM (Reader.step room readScope) next = .ok r' := by
  rw [List.foldlM_cons] at h
  cases hstep : Reader.step room readScope r token with
  | error error =>
    rw [hstep] at h
    cases h
  | ok next =>
    rw [hstep] at h
    exact ⟨next, rfl, h⟩

section

variable {room : Nat} {readScope : ScopeReader}
  (hscope : ∀ {start tokens template}, readScope start tokens = .ok template →
    IsNormal template ∧ depth template < room)

include hscope

theorem Sound.step {r r' : Reader} {token : Token} (hr : r.Sound room)
    (h : Step room readScope r token r') : r'.Sound room := by
  obtain ⟨hroom, parts, hholds, hparts⟩ := hr
  cases h with
  | text contents hmode =>
    refine ⟨fun hne => absurd rfl hne, _, (hholds.absorb (.text contents)).move _ _, ?_⟩
    rw [List.forall_mem_append, List.forall_mem_singleton]
    exact ⟨hparts, ⟨by simp [isGroup], trivial⟩, Nat.zero_le room⟩
  | opened hmode hpos => exact ⟨fun _ => hpos, parts, hholds.move _ _, hparts⟩
  | within mode hmode => exact ⟨fun _ => hroom hmode, parts, hholds.move _ _, hparts⟩
  | closed name argument source scope hmode hname hread =>
    have hsound : ∀ template ∈ scope, IsNormal template ∧ depth template < room := by
      intro template hmem
      obtain ⟨start, tokens, hread⟩ := exists_read_of_mem hread hmem
      exact hscope hread
    refine ⟨fun hne => absurd rfl hne, _, (hholds.absorb (call name argument scope)).move _ _, ?_⟩
    rw [List.forall_mem_append, List.forall_mem_singleton]
    exact ⟨hparts, ⟨by simp [isGroup],
      isNormal_call hname argument fun template hmem => (hsound template hmem).1⟩,
      depth_call_le (hroom hmode) name argument fun template hmem => (hsound template hmem).2⟩

theorem Sound.foldlM {tokens : List Token} {r r' : Reader} (hr : r.Sound room)
    (h : tokens.foldlM (Reader.step room readScope) r = .ok r') : r'.Sound room := by
  induction tokens generalizing r with
  | nil =>
    cases h
    exact hr
  | cons token tokens ih =>
    obtain ⟨next, hstep, hrest⟩ := exists_of_foldlM_cons_eq_ok h
    exact ih (hr.step hscope (step_of_eq_ok hstep)) hrest

end

end Reader

theorem readTokens_sound {room : Nat} {readScope : ScopeReader}
    (hscope : ∀ {start tokens template}, readScope start tokens = .ok template →
      IsNormal template ∧ depth template < room)
    {start : Nat} {tokens : List Token} {template : Template}
    (h : readTokens room readScope start tokens = .ok template) :
    IsNormal template ∧ depth template ≤ room := by
  unfold readTokens at h
  cases hrun : tokens.foldlM (Reader.step room readScope) { offset := start } with
  | error error => simp [hrun, bind, Except.bind] at h
  | ok r =>
    rw [hrun] at h
    obtain ⟨-, parts, hholds, hparts⟩ := (Reader.sound_start room start).foldlM hscope hrun
    have hfinish := Reader.finish_of_holds hholds (Reader.mode_of_finish_eq_ok h)
    obtain rfl : ofFlatParts parts = template := Except.ok.inj (hfinish.symm.trans h)
    exact ⟨isNormal_ofFlatParts fun part hmem => (hparts part hmem).1,
      depth_ofFlatParts_le fun part hmem => (hparts part hmem).2⟩

theorem readWithin_sound {room start : Nat} {tokens : List Token} {template : Template}
    (h : readWithin room start tokens = .ok template) :
    IsNormal template ∧ depth template ≤ room := by
  induction room generalizing start tokens template with
  | zero => exact readTokens_sound (fun h => by cases h) h
  | succ room ih => exact readTokens_sound (fun h => (ih h).imp_right Nat.lt_succ_of_le) h

theorem parse_eq_ok_of_toOption {source : String} {template : Template}
    (h : (parse source).toOption = some template) : parse source = .ok template := by
  cases hparse : parse source with
  | error error => simp [hparse, Except.toOption] at h
  | ok read =>
    rw [hparse] at h
    exact congrArg Except.ok (Option.some.inj h)

/-- What is read has no needless structure, and calls nest in it no deeper than the limit. -/
theorem isNormal_of_parse {source : String} {template : Template}
    (h : parse source = .ok template) :
    template.IsNormal ∧ template.depth ≤ nestingLimit := readWithin_sound h

theorem isNormal_of_parse_nested : ∃ template,
    parse "\\$ $(A=$(|$(B)x$(C| ) \\) )  \\" = .ok template ∧
      template.IsNormal ∧ template.depth ≤ nestingLimit := by
  have h : (parse "\\$ $(A=$(|$(B)x$(C| ) \\) )  \\").toOption = some (group [text "$ ",
      call "A" (some "$(") (some (group [call "B" none none, text "x",
        call "C" none (some (text " ")), text " ) "])), text "  \\"]) := by decide +kernel
  have hparse := parse_eq_ok_of_toOption h
  exact ⟨_, hparse, isNormal_of_parse hparse⟩

end ReplyTemplate.Template
