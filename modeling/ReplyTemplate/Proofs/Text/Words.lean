import Mathlib.Data.List.TakeWhile
import ReplyTemplate.Text.Blank

/-! The words of a text, which do not hang on the blanks around and between them. -/

namespace ReplyTemplate.Text

def IsGap (s : List Char) : Prop := ∀ c ∈ s, isBlank c

def StartsInk (s : List Char) : Prop := ∀ c ∈ s.head?, isBlank c = false

def EndsInk (s : List Char) : Prop := ∀ c ∈ s.getLast?, isBlank c = false

/-- The words of a text from left to right. A word reaches from blanks, or the start of the text, to
the next blank, or the end of the text. -/
inductive AreWords : List Char → List (List Char) → Prop where
  | nil {gap : List Char} (isGap : IsGap gap) : AreWords gap []
  | cons {gap word rest : List Char} {words : List (List Char)} (isGap : IsGap gap)
      (ne_nil : word ≠ []) (ink : ∀ c ∈ word, isBlank c = false)
      (ends : ∀ c ∈ rest.head?, isBlank c) (areWords : AreWords rest words) :
      AreWords (gap ++ word ++ rest) (word :: words)

structure IsTrimmed (s trimmed : List Char) : Prop where
  within : ∃ before after, IsGap before ∧ IsGap after ∧ s = before ++ trimmed ++ after
  startsInk : StartsInk trimmed
  endsInk : EndsInk trimmed

theorem IsGap.eq_nil {s : List Char} (h : IsGap s) (hstart : StartsInk s) : s = [] := by
  cases s with
  | nil => rfl
  | cons c rest =>
    have hblank := h c List.mem_cons_self
    rw [hstart c rfl] at hblank
    cases hblank

/-! ### Words -/

theorem words_cons_of_isBlank {c : Char} (h : isBlank c) (s : List Char) :
    words (c :: s) = words s := by
  simp [words, cut, h]

theorem words_append_of_isGap {gap : List Char} (h : IsGap gap) (s : List Char) :
    words (gap ++ s) = words s := by
  induction gap with
  | nil => rfl
  | cons c gap ih =>
    obtain ⟨hc, hgap⟩ := List.forall_mem_cons.mp h
    rw [List.cons_append, words_cons_of_isBlank hc, ih hgap]

theorem words_of_isGap {gap : List Char} (h : IsGap gap) : words gap = [] := by
  have hwords := words_append_of_isGap h []
  rw [List.append_nil] at hwords
  exact hwords

theorem words_append_of_ink {word rest : List Char} (hne : word ≠ [])
    (hink : ∀ c ∈ word, isBlank c = false) (hends : ∀ c ∈ rest.head?, isBlank c) :
    words (word ++ rest) = word :: words rest := by
  cases rest with
  | nil => simp [words, cut_eq_singleton hink, cut, hne]
  | cons c rest =>
    have hc : isBlank c := hends c rfl
    rw [words_cons_of_isBlank hc, words, cut_append_cons hink hc, words]
    simp [hne]

theorem AreWords.eq_words {s : List Char} {ws : List (List Char)} (h : AreWords s ws) :
    ws = words s := by
  induction h with
  | nil hgap => exact (words_of_isGap hgap).symm
  | cons hgap hne hink hends _ ih =>
    rw [List.append_assoc, words_append_of_isGap hgap, words_append_of_ink hne hink hends, ih]

theorem isGap_takeWhile (s : List Char) : IsGap (s.takeWhile isBlank) :=
  fun _ hc => List.mem_takeWhile_imp hc

theorem startsInk_trimStart (s : List Char) : StartsInk (trimStart s) := by
  intro c hc
  have hblank := List.head?_dropWhile_not isBlank s
  rw [← trimStart, hc] at hblank
  exact hblank

theorem exists_areWords (s : List Char) : ∃ ws, AreWords s ws := by
  -- on the length of the text: what follows the first word is shorter
  induction hlength : s.length using Nat.strongRecOn generalizing s with
  | _ n ih =>
    have hstart := startsInk_trimStart s
    have hs : s.takeWhile isBlank ++ trimStart s = s := List.takeWhile_append_dropWhile
    cases htrim : trimStart s with
    | nil =>
      rw [htrim, List.append_nil] at hs
      exact ⟨[], .nil (hs ▸ isGap_takeWhile s)⟩
    | cons c rest =>
      let word := (c :: rest).takeWhile fun c => !isBlank c
      let after := (c :: rest).dropWhile fun c => !isBlank c
      have hc : isBlank c = false := hstart c (by rw [htrim]; rfl)
      have hword : word ≠ [] := by simp [word, hc]
      have hsplit : word ++ after = c :: rest := List.takeWhile_append_dropWhile
      have hshorter : after.length < n := by
        have hsum := congrArg List.length hs
        have hparts := congrArg List.length hsplit
        have hpos := List.length_pos_iff.mpr hword
        rw [List.length_append, htrim] at hsum
        rw [List.length_append] at hparts
        omega
      obtain ⟨ws, hws⟩ := ih _ hshorter after rfl
      refine ⟨word :: ws, ?_⟩
      rw [← hs, htrim, ← hsplit, ← List.append_assoc]
      refine .cons (isGap_takeWhile s) hword (fun a ha => ?_) (fun a ha => ?_) hws
      · simpa using List.mem_takeWhile_imp ha
      · have hhead := List.head?_dropWhile_not (fun c => !isBlank c) (c :: rest)
        rw [ha] at hhead
        simpa using hhead

theorem areWords_words (s : List Char) : AreWords s (words s) := by
  obtain ⟨ws, hws⟩ := exists_areWords s
  exact hws.eq_words ▸ hws

theorem areWords_iff {s : List Char} {ws : List (List Char)} : AreWords s ws ↔ ws = words s :=
  ⟨AreWords.eq_words, fun h => h ▸ areWords_words s⟩

theorem AreWords.append_gap {s gap : List Char} {ws : List (List Char)} (h : AreWords s ws)
    (hgap : IsGap gap) : AreWords (s ++ gap) ws := by
  induction h with
  | nil hblank => exact .nil (List.forall_mem_append.mpr ⟨hblank, hgap⟩)
  | @cons _ _ rest _ hblank hne hink hends _ ih =>
    rw [List.append_assoc]
    refine .cons hblank hne hink (fun c hc => ?_) ih
    cases rest with
    | nil => exact hgap c (List.mem_of_mem_head? hc)
    | cons => exact hends c hc

/-! ### Trimmed text -/

theorem isTrimmed_trim (s : List Char) : IsTrimmed s (trim s) := by
  let inner := trimStart s
  let after := (inner.reverse.takeWhile isBlank).reverse
  have hafter : trim s ++ after = inner := by
    have hends := List.takeWhile_append_dropWhile (p := isBlank) (l := inner.reverse)
    have hreverse := congrArg List.reverse hends
    rw [List.reverse_append, List.reverse_reverse] at hreverse
    exact hreverse
  constructor
  case within =>
    refine ⟨s.takeWhile isBlank, after, isGap_takeWhile s, fun c hc => ?_, ?_⟩
    · exact isGap_takeWhile _ c (List.mem_reverse.mp hc)
    · rw [List.append_assoc, hafter]
      exact List.takeWhile_append_dropWhile.symm
  case startsInk =>
    intro c hc
    have hhead : inner.head? = some c := by
      rw [← hafter, List.head?_append, hc]
      rfl
    exact startsInk_trimStart s c hhead
  case endsInk =>
    intro c hc
    have hlast := startsInk_trimStart inner.reverse c
    rw [trim, trimEnd, List.getLast?_reverse] at hc
    exact hlast hc

theorem IsTrimmed.words_eq {s trimmed : List Char} (h : IsTrimmed s trimmed) :
    words trimmed = words s := by
  obtain ⟨before, after, hbefore, hafter, rfl⟩ := h.within
  rw [List.append_assoc, words_append_of_isGap hbefore]
  exact ((areWords_words trimmed).append_gap hafter).eq_words

theorem trimStart_of_startsInk {s : List Char} (h : StartsInk s) : trimStart s = s := by
  cases s with
  | nil => rfl
  | cons c rest => rw [trimStart, List.dropWhile_cons_of_neg (by simp [h c rfl])]

theorem trim_of_ink {s : List Char} (hstart : StartsInk s) (hend : EndsInk s) : trim s = s := by
  have hreverse : StartsInk s.reverse := by
    rw [StartsInk, List.head?_reverse]
    exact hend
  have htrim : s.reverse.dropWhile isBlank = s.reverse := trimStart_of_startsInk hreverse
  rw [trim, trimStart_of_startsInk hstart, trimEnd, htrim, List.reverse_reverse]

theorem trim_trim (s : List Char) : trim (trim s) = trim s :=
  trim_of_ink (isTrimmed_trim s).startsInk (isTrimmed_trim s).endsInk

/-! ### What follows the first word -/

theorem words_eq_nil_iff {s : List Char} (h : StartsInk s) : words s = [] ↔ s = [] := by
  constructor
  · intro hwords
    cases hwords ▸ areWords_words s with
    | nil hgap => exact hgap.eq_nil h
  · rintro rfl
    rfl

theorem exists_of_words_eq_cons {s word : List Char} {ws : List (List Char)} (h : StartsInk s)
    (hwords : words s = word :: ws) :
    ∃ rest, s = word ++ rest ∧ (∀ c ∈ rest.head?, isBlank c) ∧ words rest = ws ∧
      afterFirstWord s = trimStart rest := by
  cases hwords ▸ areWords_words s with
  | @cons gap _ rest _ hgap hne hink hends hrest =>
    have hnil : gap = [] := by
      apply hgap.eq_nil
      intro c hc
      apply h c
      rw [List.append_assoc, List.head?_append, hc]
      rfl
    subst hnil
    refine ⟨rest, rfl, hends, hrest.eq_words.symm, ?_⟩
    have hdrop : rest.dropWhile (fun c => !isBlank c) = rest := by
      cases rest with
      | nil => rfl
      | cons c rest => exact List.dropWhile_cons_of_neg (by simp [hends c rfl])
    rw [afterFirstWord, List.nil_append, List.dropWhile_append_of_pos (by simpa using hink), hdrop]

theorem startsInk_afterFirstWord (s : List Char) : StartsInk (afterFirstWord s) :=
  startsInk_trimStart _

theorem words_afterFirstWord {s : List Char} (h : StartsInk s) :
    words (afterFirstWord s) = (words s).tail := by
  cases hwords : words s with
  | nil =>
    rw [words_eq_nil_iff h] at hwords
    rw [hwords]
    rfl
  | cons word ws =>
    obtain ⟨rest, -, -, hrest, hafter⟩ := exists_of_words_eq_cons h hwords
    have htrim := words_append_of_isGap (isGap_takeWhile rest) (trimStart rest)
    rw [trimStart, List.takeWhile_append_dropWhile] at htrim
    rw [hafter, List.tail_cons, ← hrest, htrim, trimStart]

theorem afterFirstWord_eq_nil_iff {s : List Char} (h : StartsInk s) :
    afterFirstWord s = [] ↔ (words s).length ≤ 1 := by
  rw [← words_eq_nil_iff (startsInk_afterFirstWord s), words_afterFirstWord h,
    ← List.length_eq_zero_iff, List.length_tail]
  omega

theorem exists_gap_afterFirstWord {s first second : List Char} {ws : List (List Char)}
    (h : StartsInk s) (hwords : words s = first :: second :: ws) :
    ∃ gap, gap ≠ [] ∧ IsGap gap ∧ s = first ++ gap ++ afterFirstWord s ∧
      second <+: afterFirstWord s := by
  obtain ⟨rest, hs, hends, hrest, hafter⟩ := exists_of_words_eq_cons h hwords
  have hsecond : words (afterFirstWord s) = second :: ws := by
    rw [words_afterFirstWord h, hwords, List.tail_cons]
  refine ⟨rest.takeWhile isBlank, ?_, isGap_takeWhile rest, ?_, ?_⟩
  · cases rest with
    | nil => cases hrest
    | cons c rest => simp [hends c rfl]
  · rw [hafter, List.append_assoc, trimStart, List.takeWhile_append_dropWhile, ← hs]
  · obtain ⟨others, hothers, -⟩ := exists_of_words_eq_cons (startsInk_afterFirstWord s) hsecond
    exact ⟨others, hothers.symm⟩

end ReplyTemplate.Text
