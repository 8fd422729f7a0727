import ReplyTemplate.Proofs.Engine.Session
import ReplyTemplate.Standard

/-! Counters over sessions. The count of a name is the number of invocations that were answered with
one of its counts, which were 1, 2, 3 and so on. -/

namespace ReplyTemplate.Standard

/-- Nothing, blanks only, or several words. -/
def IsRefused (argument : Option String) : Prop :=
  ∀ text ∈ argument, Text.trim text.toList = [] ∨ ∃ c ∈ Text.trim text.toList, Text.isBlank c

def countsAs (name : String) (invocation : Invocation) : Bool :=
  invocation.plugin == counterManual.name && invocation.result.isOk &&
    invocation.argument.any fun text => Text.trim text.toList == name.toList

theorem requireTrimmed_some (plugin text : String) :
    requireTrimmed plugin (some text) =
      if Text.trim text.toList = [] then .error (.missing plugin)
      else .ok (Text.trim text.toList) := by
  have hargument : requireArgument plugin (some text) = .ok text := rfl
  rw [requireTrimmed, hargument]
  dsimp only [bind, Except.bind]
  cases Text.trim text.toList with
  | nil => rfl
  | cons c cs => rfl

/-- Every argument is refused or names one counter. -/
theorem counterName_cases (argument : Option String) :
    (IsRefused argument ∧ ∃ error, counterName argument = .error error) ∨
      ∃ text name, argument = some text ∧ Text.trim text.toList = name.toList ∧
        ¬ IsRefused argument ∧ counterName argument = .ok name := by
  cases argument with
  | none =>
    left
    constructor
    · intro _ h
      cases h
    · exact ⟨_, rfl⟩
  | some text =>
    unfold counterName
    rw [requireTrimmed_some]
    by_cases hempty : Text.trim text.toList = []
    · rw [if_pos hempty]
      left
      constructor
      · rintro _ ⟨⟩
        exact .inl hempty
      · exact ⟨_, rfl⟩
    rw [if_neg hempty]
    by_cases hblank : (Text.trim text.toList).any Text.isBlank
    · left
      constructor
      · rintro _ ⟨⟩
        exact .inr (List.any_eq_true.mp hblank)
      · exact ⟨_, if_pos hblank⟩
    · right
      refine ⟨text, _, rfl, String.toList_ofList.symm, ?_, if_neg hblank⟩
      intro hrefused
      obtain hnil | hsome := hrefused text rfl
      · exact hempty hnil
      · exact hblank (List.any_eq_true.mpr hsome)

inductive Counting (before after : Counters) (invocation : Invocation) : Prop where
  | other (plugin : invocation.plugin ≠ counterManual.name) (unchanged : after = before)
  | refused {reason : String} (argument : IsRefused invocation.argument)
      (result : invocation.result = .error reason) (unchanged : after = before)
  | counted {text name : String} (plugin : invocation.plugin = counterManual.name)
      (argument : invocation.argument = some text) (trimmed : Text.trim text.toList = name.toList)
      (accepted : ¬ IsRefused invocation.argument)
      (result : invocation.result =
        .ok (.bindings [("NAME", name), ("COUNT", toString (before.count name + 1))]))
      (incremented : after = before.increment name)

theorem not_countsAs_of_error {invocation : Invocation} {reason : String}
    (h : invocation.result = .error reason) (name : String) : ¬ countsAs name invocation := by
  simp [countsAs, h, Except.isOk, Except.toBool]

theorem countsAs_iff {invocation : Invocation} {outcome : Plugin.Outcome} {text name : String}
    (hplugin : invocation.plugin = counterManual.name) (hresult : invocation.result = .ok outcome)
    (hargument : invocation.argument = some text)
    (htrimmed : Text.trim text.toList = name.toList) (other : String) :
    countsAs other invocation ↔ name = other := by
  simp [countsAs, hplugin, hresult, hargument, htrimmed, Except.isOk, Except.toBool,
    String.toList_inj]

namespace Counting

variable {before after : Counters} {invocation : Invocation}

/-- An invocation counts once for its name, and for no other. -/
theorem count_eq (h : Counting before after invocation) (name : String) :
    after.count name = before.count name + if countsAs name invocation then 1 else 0 := by
  cases h with
  | other plugin unchanged =>
    have hnot : ¬ countsAs name invocation := by simp [countsAs, plugin]
    rw [unchanged, if_neg hnot, Nat.add_zero]
  | refused argument result unchanged =>
    rw [unchanged, if_neg (not_countsAs_of_error result name), Nat.add_zero]
  | counted plugin argument trimmed accepted result incremented =>
    have hiff := countsAs_iff plugin result argument trimmed name
    rw [incremented, Counters.count_increment]
    split
    · next heq =>
      rw [if_pos (hiff.mpr heq), heq]
    · next hne =>
      rw [if_neg (mt hiff.mp hne), Nat.add_zero]

theorem result_eq (h : Counting before after invocation) {name : String}
    (hname : countsAs name invocation) :
    invocation.result =
      .ok (.bindings [("NAME", name), ("COUNT", toString (before.count name + 1))]) := by
  cases h with
  | other plugin unchanged => simp [countsAs, plugin] at hname
  | refused argument result unchanged =>
    exact absurd hname (not_countsAs_of_error result name)
  | counted plugin argument trimmed accepted result incremented =>
    obtain rfl := (countsAs_iff plugin result argument trimmed name).mp hname
    exact result

theorem eq_of_plugin_ne (h : Counting before after invocation)
    (hne : invocation.plugin ≠ counterManual.name) : after = before := by
  cases h with
  | other _ unchanged => exact unchanged
  | refused _ _ unchanged => exact unchanged
  | counted plugin => exact absurd plugin hne

end Counting

/-- No counter is kept before it has counted. -/
def Counters.IsPositive (counters : Counters) : Prop := ∀ name : String, counters[name]? ≠ some 0

theorem Counters.IsPositive.eq {first second : Counters} (hfirst : first.IsPositive)
    (hsecond : second.IsPositive) (h : ∀ name, first.count name = second.count name) :
    first = second := by
  apply Std.ExtTreeMap.ext_getElem?
  intro name
  have hcount := h name
  have hne := hfirst name
  have hne' := hsecond name
  rw [count, count, Std.ExtTreeMap.getD_eq_getD_getElem?,
    Std.ExtTreeMap.getD_eq_getD_getElem?] at hcount
  cases h₁ : first[name]? <;> cases h₂ : second[name]? <;> simp_all

theorem Counting.isPositive {before after : Counters} {invocation : Invocation}
    (h : Counting before after invocation) (hbefore : before.IsPositive) : after.IsPositive := by
  cases h with
  | other _ unchanged => rwa [unchanged]
  | refused _ _ unchanged => rwa [unchanged]
  | @counted _ name _ _ _ _ _ incremented =>
    intro other
    rw [incremented, Counters.increment, Std.ExtTreeMap.getElem?_insert]
    split
    · simp
    · exact hbefore other

/-- A registry whose plugins share a state of which the counters are a part. No plugin but `COUNTER`
changes them. -/
structure HoldsCounter {σ : Type} (registry : Registry σ) (counts : σ → Counters) : Prop where
  exists_counter : ∃ plugin, registry.find? counterManual.name = some plugin ∧
    ∀ argument context state,
      (plugin.invoke argument context state).1 =
        (counter.invoke argument context (counts state)).1 ∧
      counts (plugin.invoke argument context state).2 =
        (counter.invoke argument context (counts state)).2
  others : ∀ name plugin, registry.find? name = some plugin → name ≠ counterManual.name →
    ∀ argument context state, counts (plugin.invoke argument context state).2 = counts state

namespace HoldsCounter

variable {σ : Type} {registry : Registry σ} {counts : σ → Counters}

theorem counting (h : HoldsCounter registry counts) {invocation : Invocation} {state next : σ}
    (hanswers : registry.Answers invocation state next) :
    Counting (counts state) (counts next) invocation := by
  obtain ⟨plugin, context, hfind, hinvoke⟩ := hanswers
  by_cases hplugin : invocation.plugin = counterManual.name
  · obtain ⟨counterPlugin, hcounter, hagree⟩ := h.exists_counter
    rw [hplugin, hcounter] at hfind
    cases hfind
    obtain ⟨hresult, hcounts⟩ := hagree invocation.argument context state
    rw [hinvoke] at hresult hcounts
    unfold counter at hresult hcounts
    dsimp only at hresult hcounts
    obtain ⟨hrefused, error, herror⟩ | ⟨text, name, hargument, htrimmed, haccepted, hname⟩ :=
      counterName_cases invocation.argument
    · rw [herror] at hresult hcounts
      exact .refused hrefused hresult hcounts
    · rw [hname] at hresult hcounts
      dsimp only at hresult
      rw [Counters.count_increment, if_pos rfl] at hresult
      exact .counted hplugin hargument htrimmed haccepted hresult hcounts
  · have hcounts := h.others _ plugin hfind hplugin invocation.argument context state
    rw [hinvoke] at hcounts
    exact .other hplugin hcounts

theorem count_eq (h : HoldsCounter registry counts) {start last : σ} {log : List Invocation}
    (hsession : Session registry start log last) (name : String) :
    (counts last).count name = (counts start).count name + log.countP (countsAs name) := by
  induction hsession with
  | nil => rfl
  | cons first rest ih =>
    have hfirst := (h.counting first).count_eq name
    rw [ih, hfirst, List.countP_cons]
    omega

theorem result_eq (h : HoldsCounter registry counts) {start last : σ} {log : List Invocation}
    (hsession : Session registry start log last) {name : String} {k : Nat}
    {invocation : Invocation}
    (hk : (log.filter (countsAs name))[k]? = some invocation) :
    invocation.result = .ok (.bindings
      [("NAME", name), ("COUNT", toString ((counts start).count name + k + 1))]) := by
  induction hsession generalizing k with
  | nil => cases hk
  | @cons state next last first log hfirst rest ih =>
    have hcounting := h.counting hfirst
    have hcount := hcounting.count_eq name
    rw [List.filter_cons] at hk
    -- if the first invocation counts, the others are one further in the filtered log
    split at hk
    · next hname =>
      rw [if_pos hname] at hcount
      cases k with
      | zero =>
        cases hk
        exact hcounting.result_eq hname
      | succ k =>
        have hresult := ih hk
        rw [hcount] at hresult
        have hsum : (counts state).count name + 1 + k = (counts state).count name + (k + 1) := by
          omega
        rw [hsum] at hresult
        exact hresult
    · next hname =>
      rw [if_neg hname, Nat.add_zero] at hcount
      have hresult := ih hk
      rw [hcount] at hresult
      exact hresult

theorem counts_eq_of_plugin_ne (h : HoldsCounter registry counts) {start last : σ}
    {log : List Invocation} (hsession : Session registry start log last)
    (hne : ∀ invocation ∈ log, invocation.plugin ≠ counterManual.name) :
    counts last = counts start := by
  induction hsession with
  | nil => rfl
  | cons first rest ih =>
    rw [List.forall_mem_cons] at hne
    rw [ih hne.2, (h.counting first).eq_of_plugin_ne hne.1]

theorem isPositive (h : HoldsCounter registry counts) {start last : σ} {log : List Invocation}
    (hsession : Session registry start log last) (hstart : (counts start).IsPositive) :
    (counts last).IsPositive := by
  induction hsession with
  | nil => exact hstart
  | cons first rest ih => exact ih ((h.counting first).isPositive hstart)

end HoldsCounter

theorem holdsCounter_registry : HoldsCounter registry id := by
  constructor
  · refine ⟨counter, ?_, fun _ _ _ => ⟨rfl, rfl⟩⟩
    rw [registry, Registry.ofList, Registry.find?_registerAll, Registry.find?_empty]
    rfl
  · intro name plugin hfind hname argument context state
    rw [registry, Registry.ofList, Registry.find?_registerAll, Registry.find?_empty,
      Option.or_none] at hfind
    have hmem := List.mem_reverse.mp (List.mem_of_find?_eq_some hfind)
    have hfound : plugin.name = name := by simpa using List.find?_some hfind
    simp only [plugins, List.mem_cons, List.not_mem_nil, or_false] at hmem
    obtain rfl | rfl | rfl | rfl | rfl := hmem
    · rfl
    · rfl
    · rfl
    · rfl
    · exact absurd hfound.symm hname

/-- Counters lose, repeat and invent no count, whatever engines render and whatever is invoked. -/
theorem counts_of_performAll {σ : Type} {registry : Registry σ} {counts : σ → Counters}
    (hcounter : HoldsCounter registry counts) {start : σ} (hstart : counts start = ∅)
    (operations : List Operation) :
    let log := (Operation.performAll registry operations start).1
    let last := (Operation.performAll registry operations start).2
    (∀ name k (invocation : Invocation), (log.filter (countsAs name))[k]? = some invocation →
      invocation.result =
        .ok (.bindings [("NAME", name), ("COUNT", toString (k + 1))])) ∧
    (∀ name, (counts last).count name = log.countP (countsAs name)) ∧
    (∀ before state, Session registry start before state →
      ∀ name, (counts state).count name = before.countP (countsAs name)) ∧
    ∀ before invocation after, log = before ++ invocation :: after →
      ∃ state next, Session registry start before state ∧
        registry.Answers invocation state next ∧ Session registry next after last ∧
        (invocation.plugin = counterManual.name →
          (IsRefused invocation.argument →
            (∃ reason, invocation.result = .error reason) ∧ counts next = counts state) ∧
          (¬ IsRefused invocation.argument → ∃ name, countsAs name invocation)) := by
  intro log last
  have hsession : Session registry start log last :=
    Operation.session_of_performAll registry operations start
  have hzero : ∀ name, (counts start).count name = 0 := by
    intro name
    rw [hstart]
    rfl
  have hcounts : ∀ before state, Session registry start before state →
      ∀ name, (counts state).count name = before.countP (countsAs name) := by
    intro before state hbefore name
    have hcount := hcounter.count_eq hbefore name
    rw [hzero, Nat.zero_add] at hcount
    exact hcount
  refine ⟨?_, hcounts log last hsession, hcounts, ?_⟩
  · intro name k invocation hk
    have hresult := hcounter.result_eq hsession hk
    rw [hzero, Nat.zero_add] at hresult
    exact hresult
  · intro before invocation after hlog
    rw [hlog] at hsession
    obtain ⟨state, hbefore, hrest⟩ := hsession.exists_of_append
    cases hrest with
    | @cons _ next _ _ _ hanswers hafter =>
      refine ⟨state, next, hbefore, hanswers, hafter, fun hplugin => ?_⟩
      cases hcounter.counting hanswers with
      | other hother => exact absurd hplugin hother
      | refused hrefused hresult hunchanged =>
        exact ⟨fun _ => ⟨⟨_, hresult⟩, hunchanged⟩, fun h => absurd hrefused h⟩
      | @counted text name _ hargument htrimmed haccepted hresult _ =>
        refine ⟨fun h => absurd h haccepted, fun _ => ⟨name, ?_⟩⟩
        exact (countsAs_iff hplugin hresult hargument htrimmed name).mpr rfl

theorem counts_of_performAll_interleaved :
    let operations : List Operation :=
      [.render ∅ "$(COUNTER=a|$(COUNTER= b |$(COUNTER=a)))",
        .invoke "COUNTER" (some "a b") ⟨"", ∅⟩, .invoke "COUNTER" (some "a ") ⟨"", ∅⟩]
    let log := (Operation.performAll registry operations ∅).1
    let last := (Operation.performAll registry operations ∅).2
    HoldsCounter registry id ∧ id (∅ : Counters) = ∅ ∧ log.countP (countsAs "a") = 3 ∧
      last.count "a" = log.countP (countsAs "a") ∧
      ∀ k (invocation : Invocation), (log.filter (countsAs "a"))[k]? = some invocation →
        invocation.result =
          .ok (.bindings [("NAME", "a"), ("COUNT", toString (k + 1))]) := by
  intro operations log last
  obtain ⟨hresults, hlast, -⟩ := counts_of_performAll holdsCounter_registry rfl operations
  exact ⟨holdsCounter_registry, rfl, by decide +kernel, hlast "a", hresults "a"⟩

end ReplyTemplate.Standard
