import Mathlib.Data.List.Nodup
import ReplyTemplate.Proofs.Table
import ReplyTemplate.Proofs.Text.Words
import ReplyTemplate.Standard.Split
import Std.Data.String.ToNat

/-! What the bindings of a split argument tell of its words. -/

namespace ReplyTemplate.Standard

open Text

/-- The words of a text, the text without the blanks around it, and what follows its first word. -/
structure SplitsInto (text : List Char) (words : List (List Char)) (all rest : List Char) : Prop where
  areWords : ∀ others, AreWords text others ↔ others = words
  isTrimmed : IsTrimmed text all
  rest_eq_nil : rest = [] ↔ words.length ≤ 1
  rest : ∀ first second others, words = first :: second :: others →
    ∃ gap, gap ≠ [] ∧ IsGap gap ∧ all = first ++ gap ++ rest ∧ second <+: rest

def found (table : Table) (pairs : List (String × String)) (key : String) :
    Except TemplateError String :=
  (table.install splitManual.name pairs).lookup splitManual.name key

/-- Pairs that tell of words by their positions, of their number, and of parts of the text, in
whatever table they are installed. -/
structure Binds (pairs : List (String × String)) (words : List (List Char)) (all rest : List Char) :
    Prop where
  nodup_keys : (pairs.map Prod.fst).Nodup
  word : ∀ table, ∀ i, ∀ h : i < words.length,
    found table pairs (toString (i + 1)) = .ok (String.ofList words[i])
  count : ∀ table, found table pairs "COUNT" = .ok (toString words.length)
  first : ∀ table, found table pairs "FIRST" = .ok (String.ofList (words.headD []))
  all : ∀ table, found table pairs "ALL" = .ok (String.ofList all)
  rest : ∀ table, found table pairs "REST" = .ok (String.ofList rest)
  /-- Nothing else is bound. -/
  key : ∀ table, ¬ table.contains splitManual.name → ∀ key,
    (∃ value, found table pairs key = .ok value) ↔
      (∃ i, 1 ≤ i ∧ i ≤ words.length ∧ key = toString i) ∨ key ∈ ["COUNT", "ALL", "FIRST", "REST"]
  position : ∀ table, ¬ table.contains splitManual.name → ∀ i : Nat,
    (∃ value, found table pairs (toString i) = .ok value) ↔ 1 ≤ i ∧ i ≤ words.length

theorem splitsInto_words (text : List Char) :
    SplitsInto text (words text) (trim text) (afterFirstWord (trim text)) := by
  have htrimmed := isTrimmed_trim text
  have hstart := htrimmed.startsInk
  constructor
  case areWords => exact fun others => areWords_iff
  case isTrimmed => exact htrimmed
  case rest_eq_nil => rw [afterFirstWord_eq_nil_iff hstart, htrimmed.words_eq]
  case rest =>
    intro first second others hwords
    exact exists_gap_afterFirstWord hstart (htrimmed.words_eq.trans hwords)

/-! ### Keys -/

theorem isDigit_of_mem_toString {n : Nat} {c : Char} (h : c ∈ (toString n).toList) : c.isDigit := by
  have hdigits : (toString n).toList = Nat.toDigits 10 n := by simp
  rw [hdigits] at h
  exact Nat.isDigit_of_mem_toDigits (by decide) (by decide) h

/-- No position is written like a word. -/
theorem toString_not_mem (n : Nat) : toString n ∉ ["COUNT", "ALL", "FIRST", "REST"] := by
  have hletter : ∀ name ∈ ["COUNT", "ALL", "FIRST", "REST"],
      (name.toList.any fun c => !c.isDigit) = true := by
    decide
  intro h
  obtain ⟨c, hc, hdigit⟩ := List.any_eq_true.mp (hletter _ h)
  rw [isDigit_of_mem_toString hc] at hdigit
  cases hdigit

def positionKeys (n : Nat) : List String := (List.range n).map fun i => toString (i + 1)

theorem mem_positionKeys_iff {n : Nat} {key : String} :
    key ∈ positionKeys n ↔ ∃ i, 1 ≤ i ∧ i ≤ n ∧ key = toString i := by
  rw [positionKeys, List.mem_map]
  constructor
  · rintro ⟨i, hi, rfl⟩
    exact ⟨i + 1, by omega, List.mem_range.mp hi, rfl⟩
  · rintro ⟨i, hpos, hle, rfl⟩
    exact ⟨i - 1, List.mem_range.mpr (by omega), by rw [Nat.sub_add_cancel hpos]⟩

theorem nodup_positionKeys (n : Nat) : (positionKeys n).Nodup := by
  refine List.Nodup.map (fun i j h => ?_) List.nodup_range
  exact Nat.succ.inj (Nat.repr_inj.mp h)

theorem map_fst_splitBindings (text : List Char) :
    (splitBindings text).map Prod.fst =
      positionKeys (words (trim text)).length ++ ["COUNT", "ALL", "FIRST", "REST"] := by
  have hpositions : (words (trim text)).zipIdx.map (fun entry => toString (entry.2 + 1)) =
      positionKeys (words (trim text)).length := by
    rw [positionKeys, List.range_eq_range', ← List.zipIdx_map_snd 0, List.map_map]
    rfl
  rw [splitBindings, List.map_append, List.map_map, ← hpositions]
  rfl

theorem nodup_map_fst_splitBindings (text : List Char) :
    ((splitBindings text).map Prod.fst).Nodup := by
  rw [map_fst_splitBindings]
  refine (nodup_positionKeys _).append (by decide) (List.disjoint_left.mpr fun key hkey => ?_)
  obtain ⟨i, -, -, rfl⟩ := mem_positionKeys_iff.mp hkey
  exact toString_not_mem i

theorem binds_splitBindings (text : List Char) :
    Binds (splitBindings text) (words text) (trim text) (afterFirstWord (trim text)) := by
  have hnodup := nodup_map_fst_splitBindings text
  have hkeys := map_fst_splitBindings text
  have hwords : words (trim text) = words text := (isTrimmed_trim text).words_eq
  have hfound : ∀ {key value}, (key, value) ∈ splitBindings text → ∀ table,
      found table (splitBindings text) key = .ok value :=
    fun hmem table => Table.lookup_install_of_mem hnodup hmem table _
  rw [hwords] at hkeys
  have hkey : ∀ table : Table, ¬ table.contains splitManual.name → ∀ key,
      (∃ value, found table (splitBindings text) key = .ok value) ↔
        (∃ i, 1 ≤ i ∧ i ≤ (words text).length ∧ key = toString i) ∨
          key ∈ ["COUNT", "ALL", "FIRST", "REST"] := by
    intro table htable key
    rw [← mem_positionKeys_iff, ← List.mem_append, ← hkeys]
    exact Table.exists_lookup_install_iff htable (splitBindings text) key
  constructor
  case nodup_keys => exact hnodup
  case word =>
    intro table i hi
    apply hfound
    rw [splitBindings, hwords]
    refine List.mem_append_left _ (List.mem_map.mpr ⟨((words text)[i], i), ?_, rfl⟩)
    exact List.mk_mem_zipIdx_iff_getElem?.mpr (List.getElem?_eq_getElem hi)
  case count => exact hfound (by simp [splitBindings, hwords])
  case first => exact hfound (by simp [splitBindings, hwords])
  case all => exact hfound (by simp [splitBindings])
  case rest => exact hfound (by simp [splitBindings])
  case key => exact hkey
  case position =>
    intro table htable i
    rw [hkey table htable, or_iff_left (toString_not_mem i)]
    constructor
    · rintro ⟨j, hpos, hle, hij⟩
      obtain rfl : i = j := Nat.repr_inj.mp hij
      exact ⟨hpos, hle⟩
    · rintro ⟨hpos, hle⟩
      exact ⟨i, hpos, hle, rfl⟩

example : splitBindings " a\u3000\tb  c ".toList =
    [("1", "a"), ("2", "b"), ("3", "c"), ("COUNT", "3"), ("ALL", "a\u3000\tb  c"), ("FIRST", "a"),
      ("REST", "b  c")] := by
  decide +kernel

variable {σ : Type}

theorem split_invoke (argument : Option String) (context : Plugin.Context) (state : σ) :
    split.invoke argument context state =
      (.ok (.bindings (splitBindings (argument.getD "").toList)), state) := rfl

/-- The trimmed text is split in the same way as the text. -/
theorem splitBindings_trim (text : List Char) : splitBindings (trim text) = splitBindings text := by
  rw [splitBindings, splitBindings, trim_trim]

/-- What is bound for an argument tells of one list of words, and so does what is bound for the
parts of the argument that are bound. -/
theorem exists_splitsInto (argument : Option String) (context : Plugin.Context) (state : σ) :
    ∃ words all rest pairs, SplitsInto (argument.getD "").toList words all rest ∧
      Binds pairs words all rest ∧
      split.invoke argument context state = (.ok (.bindings pairs), state) ∧
      split.invoke (some (String.ofList all)) context state = (.ok (.bindings pairs), state) ∧
      ∃ trimmedRest restOfRest restPairs, SplitsInto rest words.tail trimmedRest restOfRest ∧
        Binds restPairs words.tail trimmedRest restOfRest ∧
        split.invoke (some (String.ofList rest)) context state =
          (.ok (.bindings restPairs), state) := by
  let text := (argument.getD "").toList
  let rest := afterFirstWord (trim text)
  have htrimmed := isTrimmed_trim text
  have hrest : words rest = (words text).tail := by
    rw [words_afterFirstWord htrimmed.startsInk, htrimmed.words_eq]
  refine ⟨words text, trim text, rest, splitBindings text, splitsInto_words text,
    binds_splitBindings text, split_invoke argument context state, ?_,
    trim rest, afterFirstWord (trim rest), splitBindings rest, ?_, ?_, ?_⟩
  · rw [split_invoke, Option.getD_some, String.toList_ofList, splitBindings_trim]
  · rw [← hrest]
    exact splitsInto_words rest
  · rw [← hrest]
    exact binds_splitBindings rest
  · rw [split_invoke, Option.getD_some, String.toList_ofList]

end ReplyTemplate.Standard
