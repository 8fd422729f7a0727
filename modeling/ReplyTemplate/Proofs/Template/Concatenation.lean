import ReplyTemplate.Proofs.Template.ErrorPlace
import ReplyTemplate.Proofs.Template.Room

/-! Sources one after the other. What they are read as stands together as it would in one group. -/

namespace ReplyTemplate.Template

/-! Parts of which some are joined first. -/

theorem joinTexts_cons_congr (part : Template) {s t : List Template}
    (h : joinTexts s = joinTexts t) : joinTexts (part :: s) = joinTexts (part :: t) := by
  cases part with
  | text contents => rw [joinTexts, joinTexts, h]
  | group | call => simp [joinTexts, h]

theorem joinTexts_append_joinTexts (s t : List Template) :
    joinTexts (s ++ joinTexts t) = joinTexts (s ++ t) := by
  induction s with
  | nil =>
    exact joinTexts_of_isChain (isChain_joinTexts t) fun part h => (forall_mem_joinTexts t part h).1
  | cons part s ih => exact joinTexts_cons_congr part ih

theorem joinTexts_joinTexts_append (s t : List Template) :
    joinTexts (joinTexts s ++ t) = joinTexts (s ++ t) := by
  fun_induction joinTexts s with
  | case1 => rfl
  | case2 contents parts more rest heq ih =>
    rw [heq] at ih
    rw [List.cons_append, ← joinTexts_text_text]
    exact joinTexts_cons_congr (text contents) ih
  | case3 parts hhead ih => rw [List.cons_append, joinTexts_text_empty, ih]
  | case4 contents parts hne hhead ih => exact joinTexts_cons_congr (text contents) ih
  | case5 part parts hpart ih => exact joinTexts_cons_congr part ih

/-- Other parts than text keep what is on their two sides apart. -/
theorem joinTexts_append_cons {part : Template} (h : ¬ part.isText) (s t : List Template) :
    joinTexts (s ++ part :: t) = joinTexts s ++ part :: joinTexts t := by
  have hjoined : joinTexts (part :: t) = part :: joinTexts t := joinTexts_cons h t
  have hc : (joinTexts s ++ joinTexts (part :: t)).IsChain Apart := by
    refine List.isChain_append.mpr ⟨isChain_joinTexts s, isChain_joinTexts _, ?_⟩
    rintro last - next hnext ⟨-, htext⟩
    rw [hjoined] at hnext
    obtain rfl : part = next := Option.some.inj hnext
    exact h htext
  have hne : ∀ part' ∈ joinTexts s ++ joinTexts (part :: t), part' ≠ text "" := by
    rw [List.forall_mem_append]
    exact ⟨fun part' hmem => (forall_mem_joinTexts s part' hmem).1,
      fun part' hmem => (forall_mem_joinTexts _ part' hmem).1⟩
  rw [← hjoined, ← joinTexts_of_isChain hc hne, joinTexts_joinTexts_append,
    joinTexts_append_joinTexts]

/-- Blank text that is dropped stands behind something that is not text. -/
theorem dropBlankEnd_cases {parts : List Template} (hc : parts.IsChain Apart) :
    dropBlankEnd parts = parts ∨ ∃ front part last, parts = front ++ [part, last] ∧
      ¬ part.isText ∧ last.isBlankText ∧ dropBlankEnd parts = front ++ [part] := by
  by_cases hdrop : 1 < parts.length ∧ parts.getLast?.any isBlankText
  · obtain ⟨hlength, hblank⟩ := hdrop
    obtain rfl | ⟨others, last, rfl⟩ := List.eq_nil_or_concat' parts
    · cases hblank
    obtain rfl | ⟨front, part, rfl⟩ := List.eq_nil_or_concat' others
    · simp at hlength
    have hlast : last.isBlankText := by simpa using hblank
    have hapart : Apart part last := by simpa using hc.rel_getLast_dropLast (by simp)
    refine .inr ⟨front, part, last, by simp, fun htext => ?_, hlast, ?_⟩
    · exact hapart ⟨htext, isText_of_isBlankText hlast⟩
    · rw [dropBlankEnd, if_pos ⟨hlength, hblank⟩, List.dropLast_concat]
  · exact .inl (if_neg hdrop)

/-- Blank text that is dropped by itself would be dropped behind other parts as well. -/
theorem dropBlankEnd_joinTexts_append (s t : List Template) :
    dropBlankEnd (joinTexts (s ++ dropBlankEnd (joinTexts t))) =
      dropBlankEnd (joinTexts (s ++ t)) := by
  rw [← joinTexts_append_joinTexts s t]
  obtain hkept | ⟨front, part, last, hparts, hpart, hlast, hdropped⟩ :=
    dropBlankEnd_cases (isChain_joinTexts t)
  · rw [hkept]
  obtain ⟨blank, rfl⟩ := exists_eq_text_of_isText (isText_of_isBlankText hlast)
  have hjoined : joinTexts [text blank] = [text blank] := by
    have hne : text blank ≠ text "" := (forall_mem_joinTexts t _ (by simp [hparts])).1
    exact joinTexts_of_isChain (.singleton _) (by simpa using hne)
  have hwhole : joinTexts (s ++ joinTexts t) =
      joinTexts (s ++ front) ++ [part] ++ [text blank] := by
    rw [hparts, ← List.append_assoc, joinTexts_append_cons hpart, hjoined, List.append_assoc,
      List.singleton_append]
  have hrest : joinTexts (s ++ dropBlankEnd (joinTexts t)) = joinTexts (s ++ front) ++ [part] := by
    rw [hdropped, ← List.append_assoc, joinTexts_append_cons hpart, joinTexts]
  have hblank : ¬ part.isBlankText := fun h => hpart (isText_of_isBlankText h)
  rw [hrest, hwhole, dropBlankEnd, if_neg (by simp [hblank]), dropBlankEnd,
    if_pos ⟨by simp, by simpa using hlast⟩, List.dropLast_concat]

/-! Templates next to each other. -/

/-- The parts of a template are found again in it, or empty text if there are none. -/
theorem joinTexts_flatParts_ofParts_append {parts : List Template} (h : AreNormalParts parts)
    (others : List Template) :
    joinTexts (flatParts (ofParts parts) ++ others) = joinTexts (parts ++ others) := by
  have hflat : ∀ part ∈ parts, flatParts part = [part] := by
    intro part hmem
    obtain ⟨hgroup, -, hnormal⟩ := areNormalParts_iff.mp h part hmem
    rw [flatParts_eq_singleton hgroup, normalize_of_isNormal hnormal]
  match parts with
  | [] => exact joinTexts_text_empty others
  | [part] => rw [ofParts, hflat part (by simp)]
  | first :: second :: rest =>
    rw [ofParts, flatParts, flatPartsAll_eq_flatMap, List.flatMap_congr hflat,
      List.flatMap_singleton']
    all_goals simp

/-- Two templates in a group are as good as their parts in one, if the first one keeps its end. -/
theorem normalize_group_ofFlatParts {s t : List Template}
    (hs : ∀ part ∈ s, ¬ part.isGroup ∧ IsNormal part)
    (ht : ∀ part ∈ t, ¬ part.isGroup ∧ IsNormal part)
    (hend : dropBlankEnd (joinTexts s) = joinTexts s) :
    normalize (group [ofFlatParts s, ofFlatParts t]) = ofFlatParts (s ++ t) := by
  have hnext := joinTexts_flatParts_ofParts_append (areNormalParts_dropBlankEnd_joinTexts ht) []
  have hjoined : joinTexts (flatParts (ofFlatParts s) ++ (flatParts (ofFlatParts t) ++ [])) =
      joinTexts (s ++ dropBlankEnd (joinTexts t)) := by
    rw [ofFlatParts, joinTexts_flatParts_ofParts_append (areNormalParts_dropBlankEnd_joinTexts hs),
      hend, joinTexts_joinTexts_append, ← joinTexts_append_joinTexts, ofFlatParts, hnext,
      List.append_nil, joinTexts_append_joinTexts]
  rw [normalize, flatParts, flatPartsAll, flatPartsAll, flatPartsAll, ofFlatParts, hjoined,
    dropBlankEnd_joinTexts_append]
  rfl

namespace Reader

def held (r : Reader) : List Template := r.parts.toList ++ [text r.pending]

/-- The reader that has read after `r` what `next` has read from where `r` is. -/
def resume (r next : Reader) : Reader :=
  { next.held.foldl absorb r with offset := next.offset, mode := next.mode }

theorem foldl_absorb_flush (r next : Reader) :
    next.flush.toList.foldl absorb r = next.held.foldl absorb r := by
  by_cases hpending : next.pending = ""
  · simp [flush, held, hpending, absorb]
  · simp [flush, held, hpending]

theorem resume_absorb (r next : Reader) (part : Template) :
    r.resume (next.absorb part) = (r.resume next).absorb part := by
  by_cases hpart : part.isText
  · obtain ⟨contents, rfl⟩ := exists_eq_text_of_isText hpart
    simp [resume, held, absorb, String.append_assoc]
  · have hheld : (next.absorb part).held = next.flush.toList ++ [part, text ""] := by
      simp [absorb_of_not_isText hpart, held]
    have hfolded : (next.absorb part).held.foldl absorb r =
        (next.held.foldl absorb r).absorb part := by
      rw [hheld, List.foldl_append, foldl_absorb_flush]
      simp [absorb]
    rw [resume, hfolded, resume, absorb_of_not_isText hpart, absorb_of_not_isText hpart,
      absorb_of_not_isText hpart]
    rfl

/-- A reader that has read nothing more. -/
theorem resume_start {r : Reader} (hmode : r.mode = .text) :
    r.resume { offset := r.offset } = r := by
  obtain ⟨offset, parts, pending, mode⟩ := r
  obtain rfl : mode = .text := hmode
  simp [resume, held, absorb]

theorem foldl_absorb_resume (parts : List Template) (r next : Reader) :
    parts.foldl absorb (r.resume next) = r.resume (parts.foldl absorb next) := by
  induction parts generalizing next with
  | nil => rfl
  | cons part parts ih => rw [List.foldl_cons, List.foldl_cons, ← resume_absorb, ih]

theorem foldl_absorb_move (parts : List Template) (r : Reader) (offset : Nat) (mode : Mode) :
    parts.foldl absorb { r with offset, mode } = { parts.foldl absorb r with offset, mode } := by
  induction parts generalizing r with
  | nil => rfl
  | cons part parts ih =>
    rw [List.foldl_cons, List.foldl_cons, ← ih]
    cases part <;> rfl

theorem Holds.resume {r next : Reader} {s t : List Template} (hr : r.Holds s)
    (hnext : next.Holds t) : (r.resume next).Holds (s ++ t) := by
  have hstart : Reader.resume { r with offset := 0, mode := .text } { offset := 0 } =
      { r with offset := 0, mode := .text } := resume_start rfl
  rw [Holds, List.foldl_append, hr, ← hstart, foldl_absorb_resume, hnext, Reader.resume,
    foldl_absorb_move]
  rfl

section

variable {room : Nat} {readScope : ScopeReader}

theorem close_resume (r next : Reader) (offset : Nat) (name : String) (argument : Option String)
    (source : Option (Nat × Array Token)) :
    (r.resume next).close readScope offset name argument source =
      (next.close readScope offset name argument source).map r.resume := by
  cases hclose : next.close readScope offset name argument source with
  | error error =>
    obtain ⟨rfl, rfl⟩ | ⟨start, tokens, hname, rfl, hread⟩ := close_eq_error hclose
    · rfl
    · exact close_of_read_eq_error hname hread (r.resume next) offset argument
  | ok closed =>
    obtain ⟨hname, scope, hread, rfl⟩ := close_eq_ok_iff.mp hclose
    rw [close_of_read hname hread, ← resume_absorb]
    rfl

/-- What a token does is the same whatever has been read before. -/
theorem step_resume (r next : Reader) (token : Token) :
    step room readScope (r.resume next) token = (step room readScope next token).map r.resume := by
  obtain ⟨place, parts, pending, mode⟩ := next
  cases mode with
  | text =>
    by_cases htoken : token = .opening
    · subst htoken
      by_cases hroom : room = 0
      · subst hroom
        rfl
      · simp only [step, resume, if_neg hroom]
        rfl
    · rw [step_text_of_ne_opening rfl htoken, step_text_of_ne_opening rfl htoken, ← resume_absorb]
      rfl
  | name offset name =>
    cases token with
    | closing =>
      exact close_resume r ⟨_, parts, pending, .name offset name⟩ offset name none none
    | _ => rfl
  | argument offset name argument =>
    cases token with
    | closing =>
      exact close_resume r ⟨_, parts, pending, .argument offset name argument⟩ offset name
        (some argument) none
    | _ => rfl
  | scope offset name argument start depth tokens =>
    cases token with
    | closing =>
      by_cases hdepth : depth = 1
      · subst hdepth
        exact close_resume r ⟨_, parts, pending, .scope offset name argument start 1 tokens⟩ offset
          name argument (some (start, tokens))
      · simp only [step, resume, if_neg hdepth]
        rfl
    | _ => rfl

theorem foldlM_step_resume (r next : Reader) (tokens : List Token) :
    tokens.foldlM (step room readScope) (r.resume next) =
      (tokens.foldlM (step room readScope) next).map r.resume := by
  induction tokens generalizing next with
  | nil => rfl
  | cons token tokens ih =>
    rw [List.foldlM_cons, List.foldlM_cons, step_resume]
    cases step room readScope next token with
    | error error => rfl
    | ok next' => exact ih next'

/-- What is pending ends as the tokens do, since only text comes after the last call. -/
theorem pending_of_run {start : Nat} {tokens : List Token} {r : Reader}
    (h : run room readScope start tokens = .ok r) (hmode : r.mode = .text) :
    r.pending = "" ∨ r.pending.toList.getLast? = (tokens.flatMap Token.spelling).getLast? := by
  obtain rfl | ⟨tokens, token, rfl⟩ := List.eq_nil_or_concat' tokens
  · cases h
    exact .inl rfl
  obtain ⟨before, -, hstep⟩ := run_concat_eq_ok h
  by_cases hbefore : before.mode = .text
  · have htoken : token ≠ .opening := by
      rintro rfl
      have hnext := (next_of_step hstep).1
      rw [hmode] at hnext
      cases hnext with
      | text _ hne => exact hne rfl
      | closed hopen => simp [hbefore, Mode.openCalls] at hopen
    rw [step_text_of_ne_opening hbefore htoken] at hstep
    cases hstep
    have htoken : token.textChars.getLast? = token.spelling.getLast? := by cases token <;> rfl
    have hlast := List.getLast?_eq_some_getLast (Token.spelling_ne_nil token)
    refine .inr ?_
    rw [absorb, String.toList_append, String.toList_ofList, List.flatMap_append,
      List.flatMap_singleton, List.getLast?_append, List.getLast?_append, htoken, hlast,
      Option.some_or, Option.some_or]
  · obtain ⟨-, -, -, -, hpending⟩ := exists_parts_eq_push hstep hbefore hmode
    exact .inl hpending

end

theorem dropBlankEnd_flush {r : Reader} (hparts : ¬ r.parts.toList.getLast?.any isText)
    (hpending : ∀ c ∈ r.pending.toList.getLast?, ¬ Text.isBlank c) :
    dropBlankEnd r.flush.toList = r.flush.toList := by
  refine if_neg fun hdrop => ?_
  obtain ⟨part, hlast, hblank⟩ := (Option.any_eq_true _ _).mp hdrop.2
  by_cases hempty : r.pending = ""
  · have hflush : r.flush = r.parts := by simp [flush, hempty]
    rw [hflush] at hlast
    exact hparts ((Option.any_eq_true _ _).mpr ⟨part, hlast, isText_of_isBlankText hblank⟩)
  · have hflush : r.flush.toList = r.parts.toList ++ [text r.pending] := by simp [flush, hempty]
    rw [hflush, List.getLast?_concat, Option.some_inj] at hlast
    subst hlast
    have hne : r.pending.toList ≠ [] := by simpa using hempty
    refine hpending _ (List.getLast?_eq_some_getLast hne) ?_
    exact List.all_eq_true.mp hblank _ (List.getLast_mem hne)

theorem finish_resume_of_eq_error {r next : Reader} {error : TemplateError}
    (h : next.finish = .error error) : (r.resume next).finish = .error error := by
  obtain ⟨offset, parts, pending, mode⟩ := next
  cases mode with
  | text => cases h
  | name | argument | scope => exact h

end Reader

section

variable {room start : Nat} {s t : List Token} {r : Reader}
  (h : Reader.run room (scopeReader room) start s = .ok r)

include h

/-- The second tokens are read by themselves, and then stand behind the first ones. -/
theorem readWithin_append (hmode : r.mode = .text) :
    readWithin room start (s ++ t) =
      (Reader.run room (scopeReader room) r.offset t).bind fun next => (r.resume next).finish := by
  have hrun : t.foldlM (Reader.step room (scopeReader room)) r =
      (Reader.run room (scopeReader room) r.offset t).map r.resume := by
    rw [Reader.run, ← Reader.foldlM_step_resume, Reader.resume_start hmode]
  rw [Reader.run] at h
  rw [readWithin_eq, Reader.run, Reader.foldlM_append_of_eq_ok h, hrun]
  cases Reader.run room (scopeReader room) r.offset t <;> rfl

theorem readWithin_append_of_eq_error (hmode : r.mode = .text) {error : TemplateError}
    (hnext : readWithin room r.offset t = .error error) :
    readWithin room start (s ++ t) = .error error := by
  rw [readWithin_eq] at hnext
  rw [readWithin_append h hmode]
  cases hrun : Reader.run room (scopeReader room) r.offset t with
  | error error' =>
    rw [hrun] at hnext
    exact hnext
  | ok next =>
    rw [hrun] at hnext
    exact Reader.finish_resume_of_eq_error hnext

/-- What is read of tokens stands in one group, if no blank at the end of the first ones can be
dropped. -/
theorem readWithin_append_of_eq_ok {template template' : Template}
    (hfinish : r.finish = .ok template)
    (hblank : ∀ c ∈ (s.flatMap Token.spelling).getLast?, ¬ Text.isBlank c)
    (hnext : readWithin room r.offset t = .ok template') :
    readWithin room start (s ++ t) = .ok (normalize (group [template, template'])) := by
  obtain ⟨next, hrun, hfinish'⟩ := exists_run_of_readWithin hnext
  have hmode := Reader.mode_of_finish_eq_ok hfinish
  have hmode' := Reader.mode_of_finish_eq_ok hfinish'
  obtain ⟨-, parts, hholds, hparts⟩ := sound_of_run h
  obtain ⟨-, parts', hholds', hparts'⟩ := sound_of_run hrun
  obtain rfl : ofFlatParts parts = template :=
    Except.ok.inj ((Reader.finish_of_holds hholds hmode).symm.trans hfinish)
  obtain rfl : ofFlatParts parts' = template' :=
    Except.ok.inj ((Reader.finish_of_holds hholds' hmode').symm.trans hfinish')
  -- the end of the input drops blank text, so there must be none where the first tokens end
  have hpending : ∀ c ∈ r.pending.toList.getLast?, ¬ Text.isBlank c := by
    obtain hempty | hlast := Reader.pending_of_run h hmode
    · simp [hempty]
    · rwa [hlast]
  have hend := Reader.dropBlankEnd_flush (Reader.not_isText_getLast?_of_holds hholds) hpending
  rw [Reader.toList_flush_of_holds hholds] at hend
  rw [readWithin_append h hmode, hrun, normalize_group_ofFlatParts
    (fun part hmem => (hparts part hmem).1) (fun part hmem => (hparts' part hmem).1) hend]
  exact Reader.finish_of_holds (hholds.resume hholds') hmode'

end

/-- Sources that no token and no blank goes across are read one after the other. -/
theorem parse_append {first second : String} {template : Template}
    (h : parse first = .ok template)
    (hblank : ∀ c ∈ first.toList.getLast?, ¬ Text.isBlank c)
    (hbackslash : Even (endingBackslashes first.toList))
    (hopening : first.toList.getLast? = some '$' → second.toList.head? ≠ some '(') :
    parse (first ++ second) = match parse second with
      | .ok next => .ok (normalize (group [template, next]))
      | .error error => .error (error.shift first.utf8ByteSize) := by
  have htokens : Token.ofString (first ++ second) =
      Token.ofString first ++ Token.ofString second := by
    rw [Token.ofString, String.toList_append,
      Token.ofChars_append (dangling_not_mem_of_even hbackslash) hopening]
    rfl
  obtain ⟨r, hrun, hfinish⟩ := exists_run_of_readWithin h
  have hoffset : r.offset = first.utf8ByteSize + 0 := by
    rw [(Reader.leads_of_run hrun).1, Token.totalSize_ofString, Nat.add_comm]
  have hsecond := readWithin_shift nestingLimit first.utf8ByteSize 0 (Token.ofString second)
  rw [← hoffset, ← parse] at hsecond
  rw [parse, htokens]
  cases hparse : parse second with
  | error error =>
    rw [hparse] at hsecond
    exact readWithin_append_of_eq_error hrun (Reader.mode_of_finish_eq_ok hfinish) hsecond
  | ok next =>
    rw [hparse] at hsecond
    refine readWithin_append_of_eq_ok hrun hfinish ?_ hsecond
    rwa [Token.ofString, Token.flatMap_spelling_ofChars]

theorem parse_append_escaped_dollar :
    parse "é$(A)\\$" = .ok (group [text "é", call "A" none none, text "$"]) ∧
      parse ("é$(A)\\$" ++ "x $(B) ") =
        .ok (group [text "é", call "A" none none, text "$x ", call "B" none none]) ∧
      parse ("é$(A)\\$" ++ "ö$(|)") = .error (.emptyName 10) := by
  have hfirst : parse "é$(A)\\$" = .ok (group [text "é", call "A" none none, text "$"]) := by
    decide +kernel
  have hsecond : parse "x $(B) " = .ok (group [text "x ", call "B" none none]) := by decide +kernel
  have hfails : parse "ö$(|)" = .error (.emptyName 2) := by decide +kernel
  have hlast : "é$(A)\\$".toList.getLast? = some '$' := by decide +kernel
  have hblank : ∀ c ∈ "é$(A)\\$".toList.getLast?, ¬ Text.isBlank c := by
    intro c hmem
    obtain rfl : '$' = c := Option.some.inj (hlast.symm.trans hmem)
    decide
  have hbackslash : Even (endingBackslashes "é$(A)\\$".toList) := by decide +kernel
  refine ⟨hfirst, ?_, ?_⟩
  · rw [parse_append hfirst hblank hbackslash (by decide +kernel), hsecond]
    exact congrArg Except.ok (by decide +kernel)
  · rw [parse_append hfirst hblank hbackslash (by decide +kernel), hfails]
    exact congrArg Except.error (by decide +kernel)

end ReplyTemplate.Template
