import ReplyTemplate.Proofs.Template.Failure

/-! Written templates that cannot be read back. The first call that has no name or nests too deep is
the one that their source is refused for. -/

namespace ReplyTemplate.Template

open Token (byteSize totalSize)

/-- A call of a written template. One outside every scope has level 1. -/
structure CallSite where
  plugin : String
  level : Nat
  /-- The characters before the `$(` of the call. -/
  before : List Char
deriving DecidableEq, Repr

namespace CallSite

def isRefused (site : CallSite) : Bool := site.plugin = "" || nestingLimit < site.level

def refusal (site : CallSite) : TemplateError :=
  if nestingLimit < site.level then .nestingTooDeep (byteSize site.before) nestingLimit
  else .emptyName (byteSize site.before)

end CallSite

mutual

def sitesFrom (inScope : Bool) (level : Nat) (before : List Char) : Template → List CallSite
  | text _ => []
  | group parts => sitesFromAll inScope level before parts
  | call plugin _ none => [⟨plugin, level, before⟩]
  | call plugin argument (some scope) =>
    ⟨plugin, level, before⟩ :: sitesFrom true (level + 1)
      (before ++ ['$', '('] ++ sourceChars.headChars plugin argument ++ ['|']) scope

def sitesFromAll (inScope : Bool) (level : Nat) (before : List Char) :
    List Template → List CallSite
  | [] => []
  | part :: parts =>
    sitesFrom inScope level before part ++
      sitesFromAll inScope level (before ++ sourceChars inScope part) parts

end

/-- The calls of a template where they stand in its source, in the order of `pluginNames`. -/
def callSites (template : Template) : List CallSite := template.sitesFrom false 1 []

theorem map_plugin_sitesFrom (inScope : Bool) (level : Nat) (before : List Char)
    (template : Template) :
    (template.sitesFrom inScope level before).map (·.plugin) = template.pluginNames := by
  induction template generalizing inScope level before with
  | text => rfl
  | group parts ih =>
    rw [sitesFrom, pluginNames]
    induction parts generalizing before with
    | nil => rfl
    | cons part parts ihParts =>
      rw [List.forall_mem_cons] at ih
      rw [sitesFromAll, pluginNamesAll, List.map_append, ih.1, ihParts ih.2]
  | bareCall => rfl
  | scopedCall plugin argument scope ih => rw [sitesFrom, pluginNames, List.map_cons, ih]

/-- Each call stands after its characters in what is written. -/
theorem exists_eq_append_of_mem_sitesFrom {inScope : Bool} {level : Nat} {before : List Char}
    {template : Template} {site : CallSite} (h : site ∈ template.sitesFrom inScope level before) :
    ∃ after, before ++ template.sourceChars inScope = site.before ++ '$' :: '(' :: after := by
  induction template generalizing inScope level before with
  | text => cases h
  | group parts ih =>
    rw [sitesFrom] at h
    rw [sourceChars]
    induction parts generalizing before with
    | nil => cases h
    | cons part parts ihParts =>
      rw [List.forall_mem_cons] at ih
      rw [sitesFromAll, List.mem_append] at h
      rw [sourceCharsAll, ← List.append_assoc]
      obtain h | h := h
      · obtain ⟨after, hafter⟩ := ih.1 h
        exact ⟨after ++ sourceCharsAll inScope parts, by rw [hafter]; simp⟩
      · exact ihParts ih.2 h
  | bareCall plugin argument =>
    obtain rfl := List.mem_singleton.mp h
    exact ⟨_, rfl⟩
  | scopedCall plugin argument scope ih =>
    rw [sitesFrom, List.mem_cons] at h
    obtain rfl | h := h
    · exact ⟨_, by simp only [sourceChars, List.append_assoc]; rfl⟩
    · obtain ⟨after, hafter⟩ := ih h
      refine ⟨after ++ [')'], ?_⟩
      rw [← List.cons_append, ← List.cons_append, ← List.append_assoc, ← hafter]
      simp [sourceChars]

/-- A template without refused calls can be read. -/
theorem isNamed_of_sitesFrom {inScope : Bool} {level room : Nat} {before : List Char}
    {template : Template} (hlevel : level + room = nestingLimit + 1)
    (h : ∀ site ∈ template.sitesFrom inScope level before, ¬ site.isRefused) :
    template.isNamed ∧ template.depth ≤ room := by
  induction template generalizing inScope level room before with
  | text => exact ⟨rfl, Nat.zero_le room⟩
  | group parts ih =>
    rw [sitesFrom] at h
    rw [isNamed, isNamedAll_iff, depth, depthAll_le_iff]
    induction parts generalizing before with
    | nil => simp
    | cons part parts ihParts =>
      rw [List.forall_mem_cons] at ih
      rw [sitesFromAll, List.forall_mem_append] at h
      obtain ⟨hnamed, hdepth⟩ := ih.1 hlevel h.1
      obtain ⟨hnamedAll, hdepthAll⟩ := ihParts ih.2 h.2
      exact ⟨List.forall_mem_cons.mpr ⟨hnamed, hnamedAll⟩,
        List.forall_mem_cons.mpr ⟨hdepth, hdepthAll⟩⟩
  | bareCall plugin argument =>
    have hself : plugin ≠ "" ∧ level ≤ nestingLimit := by
      simpa [sitesFrom, CallSite.isRefused] using h
    refine ⟨by simpa [isNamed] using hself.1, ?_⟩
    rw [depth]
    omega
  | scopedCall plugin argument scope ih =>
    rw [sitesFrom, List.forall_mem_cons] at h
    have hself : plugin ≠ "" ∧ level ≤ nestingLimit := by simpa [CallSite.isRefused] using h.1
    obtain ⟨room, rfl⟩ : ∃ room', room = room' + 1 := ⟨room - 1, by omega⟩
    have hinner : level + 1 + room = nestingLimit + 1 := by omega
    obtain ⟨hnamed, hdepth⟩ := ih hinner h.2
    exact ⟨by simp [isNamed, hself.1, hnamed], Nat.succ_le_succ hdepth⟩

theorem totalSize_sourceTokens (inScope : Bool) (template : Template) :
    totalSize (template.sourceTokens inScope) = byteSize (template.sourceChars inScope) :=
  Token.totalSize_of_ofChars_append (ofChars_sourceChars inScope template)

theorem totalSize_headTokens (plugin : String) (argument : Option String) :
    totalSize (headTokens plugin argument) = byteSize (sourceChars.headChars plugin argument) :=
  Token.totalSize_of_ofChars_append (ofChars_headChars plugin argument)

theorem scopeReader_sourceTokens {room : Nat} {scope : Template} (hnamed : scope.isNamed)
    (hdepth : scope.depth < room) (start : Nat) :
    scopeReader room start (scope.sourceTokens true) = .ok scope.normalize := by
  cases room with
  | zero => exact absurd hdepth (Nat.not_lt_zero _)
  | succ room => exact readWithin_sourceTokens hnamed (Nat.le_of_lt_succ hdepth) true start

namespace Reader

/-- A call that is refused for itself is refused before its scope is read. -/
theorem foldlM_step_of_isRefused {room : Nat} {readScope : ScopeReader} {r : Reader}
    (hmode : r.mode = .text) {site : CallSite} (hlevel : site.level + room = nestingLimit + 1)
    (hoffset : r.offset = byteSize site.before) (h : site.isRefused) (argument : Option String)
    (scope : Option Template) (inScope : Bool) :
    (sourceTokens inScope (call site.plugin argument scope)).foldlM (step room readScope) r =
      .error site.refusal := by
  rw [CallSite.refusal, ← hoffset]
  by_cases hroom : room = 0
  · -- the call is too deep before anything is known of its name
    have hopening : step room readScope r .opening =
        .error (.nestingTooDeep r.offset nestingLimit) := by
      simp only [step, hmode, if_pos hroom]
      rfl
    obtain ⟨rest, hrest⟩ : ∃ rest,
        sourceTokens inScope (call site.plugin argument scope) = .opening :: rest := by
      cases scope <;> exact ⟨_, rfl⟩
    rw [hrest, List.foldlM_cons, hopening, if_pos (by omega)]
    rfl
  · have hname : site.plugin = "" := by
      have hshallow : ¬ nestingLimit < site.level := by omega
      simpa [CallSite.isRefused, hshallow] using h
    rw [foldlM_step_call (Nat.pos_of_ne_zero hroom) hmode, hname, if_neg (by omega)]
    rfl

/-- What has been written is refused for the first call in it that is refused. -/
theorem foldlM_step_eq_refusal {template : Template} {inScope : Bool} {level room : Nat}
    {before : List Char} {r : Reader} {parts : List Template} {site : CallSite}
    (hlevel : level + room = nestingLimit + 1) (hmode : r.mode = .text) (hholds : r.Holds parts)
    (hoffset : r.offset = byteSize before)
    (h : (template.sitesFrom inScope level before).find? CallSite.isRefused = some site) :
    (template.sourceTokens inScope).foldlM (step room (scopeReader room)) r =
      .error site.refusal := by
  induction template generalizing inScope level room before r parts with
  | text => cases h
  | group items ih =>
    rw [sitesFrom] at h
    rw [sourceTokens]
    induction items generalizing before r parts with
    | nil => cases h
    | cons item items ihItems =>
      rw [List.forall_mem_cons] at ih
      rw [sitesFromAll, List.find?_append] at h
      rw [sourceTokensAll, List.foldlM_append]
      cases hitem : (item.sitesFrom inScope level before).find? CallSite.isRefused with
      | some first =>
        rw [hitem, Option.some_or] at h
        cases h
        rw [ih.1 hlevel hmode hholds hoffset hitem]
        rfl
      | none =>
        -- what comes before the refused call is read, which brings the reader to its place
        rw [hitem, Option.none_or] at h
        obtain ⟨hnamed, hdepth⟩ := isNamed_of_sitesFrom hlevel (List.find?_eq_none.mp hitem)
        obtain ⟨next, hread, hmode, hholds⟩ := exists_foldlM_step_sourceTokens
          scopeReader_sourceTokens hnamed hdepth inScope hmode hholds
        have hplace : next.offset = byteSize (before ++ item.sourceChars inScope) := by
          rw [offset_of_foldlM hread, hoffset, totalSize_sourceTokens, Token.byteSize_append]
        rw [hread]
        exact ihItems ih.2 hmode hholds hplace h
  | bareCall plugin argument =>
    obtain ⟨hrefused, hmem⟩ : CallSite.isRefused site ∧ site ∈ [⟨plugin, level, before⟩] :=
      ⟨List.find?_some h, List.mem_of_find?_eq_some h⟩
    obtain rfl := List.mem_singleton.mp hmem
    exact foldlM_step_of_isRefused hmode hlevel hoffset hrefused argument none inScope
  | scopedCall plugin argument scope ih =>
    rw [sitesFrom] at h
    by_cases hself : CallSite.isRefused ⟨plugin, level, before⟩
    · rw [List.find?_cons_of_pos hself] at h
      cases h
      exact foldlM_step_of_isRefused hmode hlevel hoffset hself argument (some scope) inScope
    · -- the call gets as far as its scope, which is refused where it stands in the whole source
      rw [List.find?_cons_of_neg hself] at h
      have hcalled : plugin ≠ "" ∧ level ≤ nestingLimit := by simpa [CallSite.isRefused] using hself
      obtain ⟨room, rfl⟩ : ∃ room', room = room' + 1 := ⟨room - 1, by omega⟩
      have hinner : level + 1 + room = nestingLimit + 1 := by omega
      have hstart : r.offset + totalSize (.opening :: headTokens plugin argument ++ [.bar]) =
          byteSize (before ++ ['$', '('] ++ sourceChars.headChars plugin argument ++ ['|']) := by
        simp only [List.cons_append, Token.totalSize_cons, Token.totalSize_append,
          totalSize_headTokens, Token.totalSize_nil, Token.byteSize_append, hoffset, Nat.add_assoc]
        rfl
      have hread := ih hinner rfl (holds_start _) hstart h
      rw [foldlM_step_call (Nat.succ_pos room) hmode]
      refine close_of_read_eq_error hcalled.1 ?_ _ r.offset argument
      rw [scopeReader, readWithin_eq, run, hread]
      rfl

end Reader

/-- What has been written is read back, or refused for its first call that cannot be. -/
theorem parse_source_eq (template : Template) :
    template.callSites.map (·.plugin) = template.pluginNames ∧
    (∀ site ∈ template.callSites, ∃ after,
      template.source.toList = site.before ++ '$' :: '(' :: after) ∧
    parse template.source = match template.callSites.find? CallSite.isRefused with
      | some site => .error site.refusal
      | none => .ok template.normalize := by
  refine ⟨map_plugin_sitesFrom false 1 [] template, fun site hmem => ?_, ?_⟩
  · rw [source, String.toList_ofList]
    exact exists_eq_append_of_mem_sitesFrom hmem
  rw [parse, ofString_source]
  have hlevel : 1 + nestingLimit = nestingLimit + 1 := Nat.add_comm 1 nestingLimit
  cases hfirst : template.callSites.find? CallSite.isRefused with
  | none =>
    obtain ⟨hnamed, hdepth⟩ := isNamed_of_sitesFrom hlevel (List.find?_eq_none.mp hfirst)
    exact readWithin_sourceTokens hnamed hdepth false 0
  | some site =>
    have hread := Reader.foldlM_step_eq_refusal hlevel rfl (Reader.holds_start 0) rfl hfirst
    rw [readWithin_eq, Reader.run, hread]
    rfl

theorem parse_source_eq_refused :
    let named := group [text "é$", call "A" (some "|") (some (group [call "B" none none,
      call "" (some "ß") (some (call "" none none))])), call "" none none]
    let deep := (List.replicate 32 "A").foldr (fun plugin scope => call plugin none (some scope))
      (call "" none none)
    named.callSites.find? CallSite.isRefused = some ⟨"", 2, "é\\$$(A=\\||$(B)".toList⟩ ∧
      parse named.source = .error (.emptyName 15) ∧
      parse deep.source = .error (.nestingTooDeep 128 32) := by
  intro named deep
  have hnamed : named.callSites.find? CallSite.isRefused =
      some ⟨"", 2, "é\\$$(A=\\||$(B)".toList⟩ := by decide +kernel
  have hdeep : (deep.callSites.find? CallSite.isRefused).map CallSite.refusal =
      some (.nestingTooDeep 128 32) := by decide +kernel
  obtain ⟨site, hsite, hrefusal⟩ := Option.map_eq_some_iff.mp hdeep
  have hnamedSource := (parse_source_eq named).2.2
  have hdeepSource := (parse_source_eq deep).2.2
  rw [hnamed] at hnamedSource
  rw [hsite, ← hrefusal] at *
  exact ⟨hnamed, hnamedSource, hdeepSource⟩

end ReplyTemplate.Template
