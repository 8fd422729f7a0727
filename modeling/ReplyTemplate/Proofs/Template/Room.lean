import ReplyTemplate.Proofs.Template.Failure

/-! The room of readings. One that succeeds needs no more of it than what it reads is deep. -/

namespace ReplyTemplate.Template

theorem depth_le_of_mem {part : Template} {parts : List Template} (h : part ∈ parts) :
    depth part ≤ depth (ofParts parts) := by
  match parts with
  | [] => cases h
  | [single] =>
    rw [List.mem_singleton.mp h]
    exact Nat.le_refl _
  | first :: second :: rest => exact depthAll_le_iff.mp (Nat.le_refl _) part h

theorem depth_call_pos (name : String) (argument : Option String) (scope : Option Template) :
    0 < depth (call name argument scope) := by
  cases scope with
  | none => exact Nat.one_pos
  | some scope => exact Nat.succ_pos (depth scope)

namespace Reader

/-- Whether the calls that a reader holds nest no deeper than `depth`, the open one included. -/
def Fits (depth : Nat) (r : Reader) : Prop :=
  (∀ part ∈ r.parts.toList, part.depth ≤ depth) ∧ (r.mode ≠ .text → 0 < depth)

theorem parts_subset_flush (r : Reader) : r.parts.toList ⊆ r.flush.toList := by
  rw [toList_flush]
  exact List.subset_append_left _ _

theorem fits_of_finish {r : Reader} {template : Template} (h : r.finish = .ok template) :
    r.Fits template.depth := by
  have hmode := mode_of_finish_eq_ok h
  refine ⟨fun part hmem => ?_, fun hne => absurd hmode hne⟩
  rw [finish, hmode] at h
  obtain rfl := Except.ok.inj h
  apply depth_le_of_mem
  split
  · exact hmem
  · exact parts_subset_flush r hmem

variable {room : Nat} {readScope : ScopeReader} {r r' : Reader} {token : Token}

theorem parts_subset_of_step (h : step room readScope r token = .ok r') :
    r.parts.toList ⊆ r'.parts.toList := by
  cases step_of_eq_ok h with
  | text | opened | within => exact List.Subset.refl _
  | closed name argument source scope =>
    have hparts : (r.flush.push (call name argument scope)).toList =
        r.flush.toList ++ [call name argument scope] := Array.toList_push
    show r.parts.toList ⊆ (r.flush.push (call name argument scope)).toList
    rw [hparts]
    exact List.Subset.trans (parts_subset_flush r) (List.subset_append_left _ _)

/-- What is read of a template is never deeper than the whole. -/
theorem Fits.of_step {depth : Nat} (hfits : r'.Fits depth)
    (h : step room readScope r token = .ok r') : r.Fits depth := by
  refine ⟨fun part hmem => hfits.1 part (parts_subset_of_step h hmem), fun hopen => ?_⟩
  by_cases hmode : r'.mode = .text
  · obtain ⟨name, argument, scope, hparts, -⟩ := exists_parts_eq_push h hopen hmode
    have hmem : call name argument scope ∈ r'.parts.toList := by simp [hparts]
    exact Nat.lt_of_lt_of_le (depth_call_pos name argument scope) (hfits.1 _ hmem)
  · exact hfits.2 hmode

/-- Readers with other room go on in the same way unless they open a call or read a scope. -/
theorem step_congr {room' : Nat} {readScope' : ScopeReader}
    (hroom : r.mode = .text → token = .opening → (room = 0 ↔ room' = 0))
    (hscope : ∀ {offset name argument start tokens},
      r.mode = .scope offset name argument start 1 tokens → token = .closing → name ≠ "" →
      readScope start tokens.toList = readScope' start tokens.toList) :
    step room readScope r token = step room' readScope' r token := by
  cases hmode : r.mode with
  | text =>
    simp only [step, hmode]
    cases token with
    | opening => simp only [hroom hmode rfl]
    | _ => rfl
  | name offset name =>
    simp only [step, hmode]
    cases token <;> rfl
  | argument offset name argument =>
    simp only [step, hmode]
    cases token <;> rfl
  | scope offset name argument start depth tokens =>
    simp only [step, hmode]
    cases token with
    | closing =>
      by_cases hdepth : depth = 1
      · subst hdepth
        by_cases hname : name = ""
        · subst hname
          rfl
        · simp only [if_pos, close, Option.mapM_some, hscope hmode rfl hname]
      · simp only [if_neg hdepth]
    | _ => rfl

/-- What is read from here on fits if all of it does in the end. -/
theorem fits_of_foldlM {tokens : List Token} {template : Template}
    (h : tokens.foldlM (step room readScope) r = .ok r') (hfinish : r'.finish = .ok template) :
    r.Fits template.depth := by
  induction tokens generalizing r with
  | nil =>
    cases h
    exact fits_of_finish hfinish
  | cons token tokens ih =>
    obtain ⟨next, hstep, hrest⟩ := exists_of_foldlM_cons_eq_ok h
    exact (ih hrest).of_step hstep

section

variable {room' : Nat} {readScope' : ScopeReader} {template : Template}
  (hdepth : template.depth ≤ room')
  (hscope : ∀ {start tokens scope}, readScope start tokens = .ok scope → scope.depth < room' →
    readScope' start tokens = .ok scope)

include hdepth hscope

theorem step_of_fits (h : step room readScope r token = .ok r') (hfits : r'.Fits template.depth) :
    step room' readScope' r token = .ok r' := by
  rw [← h]
  refine (step_congr ?_ ?_).symm
  · rintro hmode rfl
    have hroom : room ≠ 0 := by
      rintro rfl
      simp only [step, hmode, if_pos] at h
      cases h
    -- the call that is opened here is one of those in the template
    simp only [step, hmode, if_neg hroom] at h
    obtain rfl := Except.ok.inj h
    have hpos : 0 < template.depth := hfits.2 (by simp)
    omega
  · rintro offset name argument start tokens hmode rfl hname
    simp only [step, hmode, if_pos] at h
    obtain ⟨-, scope?, hread, rfl⟩ := close_eq_ok_iff.mp h
    cases hscope' : readScope start tokens.toList with
    | error error => simp [hscope'] at hread
    | ok scope =>
      obtain rfl : some scope = scope? := by simpa [hscope', Except.map] using hread
      have hcall : scope.depth + 1 ≤ template.depth :=
        hfits.1 (call name argument (some scope)) (by simp [absorb])
      exact (hscope hscope' (by omega)).symm

theorem foldlM_step_of_finish {tokens : List Token}
    (h : tokens.foldlM (step room readScope) r = .ok r') (hfinish : r'.finish = .ok template) :
    tokens.foldlM (step room' readScope') r = .ok r' := by
  induction tokens generalizing r with
  | nil => exact h
  | cons token tokens ih =>
    obtain ⟨next, hstep, hrest⟩ := exists_of_foldlM_cons_eq_ok h
    have hfits := fits_of_foldlM hrest hfinish
    rw [foldlM_cons_of_eq_ok (step_of_fits hdepth hscope hstep hfits), ih hrest]

end

end Reader

theorem exists_run_of_readWithin {room start : Nat} {tokens : List Token} {template : Template}
    (h : readWithin room start tokens = .ok template) :
    ∃ r, Reader.run room (scopeReader room) start tokens = .ok r ∧ r.finish = .ok template := by
  rw [readWithin_eq] at h
  cases hrun : Reader.run room (scopeReader room) start tokens with
  | error error =>
    rw [hrun] at h
    cases h
  | ok r =>
    rw [hrun] at h
    exact ⟨r, rfl, h⟩

theorem readWithin_of_scopeReader {room room' start : Nat}
    (hscope : ∀ {start tokens scope}, scopeReader room start tokens = .ok scope →
      scope.depth < room' → scopeReader room' start tokens = .ok scope)
    {tokens : List Token} {template : Template} (h : readWithin room start tokens = .ok template)
    (hdepth : template.depth ≤ room') : readWithin room' start tokens = .ok template := by
  obtain ⟨r, hrun, hfinish⟩ := exists_run_of_readWithin h
  have hrun' : Reader.run room' (scopeReader room') start tokens = .ok r :=
    Reader.foldlM_step_of_finish hdepth hscope hrun hfinish
  rw [readWithin_eq, hrun']
  exact hfinish

/-- What has been read is read in the same way wherever there is room for its calls. -/
theorem readWithin_of_depth_le {room room' start : Nat} {tokens : List Token} {template : Template}
    (h : readWithin room start tokens = .ok template) (hdepth : template.depth ≤ room') :
    readWithin room' start tokens = .ok template := by
  induction room' generalizing room start tokens template with
  | zero => exact readWithin_of_scopeReader (fun _ hlt => absurd hlt (Nat.not_lt_zero _)) h hdepth
  | succ room' ih =>
    refine readWithin_of_scopeReader (fun {start tokens scope} hread hlt => ?_) h hdepth
    cases room with
    | zero => cases hread
    | succ room => exact ih hread (Nat.le_of_lt_succ hlt)

end ReplyTemplate.Template
