import ReplyTemplate.Reference

/-! References as they stand in a text. A substitution replaces those that are met from left to
right, where each is looked for from the end of the one before. -/

namespace ReplyTemplate

theorem drop_add_length {α : Type} {text after : List α} {position : Nat} (before : List α)
    (h : text.drop position = before ++ after) :
    text.drop (position + before.length) = after := by
  rw [← List.drop_drop, h, List.drop_left]

namespace Reference

/-- At least one character, and none that a reference itself is made of. -/
def IsPart (part : String) : Prop := part ≠ "" ∧ ∀ c ∈ part.toList, c ≠ '%' ∧ c ≠ ':'

theorem IsPart.toList {part : String} (h : IsPart part) :
    part.toList ≠ [] ∧ ∀ c ∈ part.toList, isDelimiter c = false := by
  refine ⟨fun hnil => h.1 (String.toList_eq_nil_iff.mp hnil), fun c hc => ?_⟩
  have hne := h.2 c hc
  simp [isDelimiter, hne]

theorem isPart_ofList {part : List Char} (hne : part ≠ [])
    (hpart : ∀ c ∈ part, isDelimiter c = false) : IsPart (String.ofList part) := by
  refine ⟨fun hempty => hne (by simpa using hempty), fun c hc => ?_⟩
  rw [String.toList_ofList] at hc
  simpa [isDelimiter] using hpart c hc

end Reference

structure Reference where
  name : String
  key : String
  isPart_name : Reference.IsPart name
  isPart_key : Reference.IsPart key

namespace Reference

def spelling (reference : Reference) : List Char :=
  '%' :: (reference.name.toList ++ ':' :: (reference.key.toList ++ ['%']))

/-- The reference stands in the text, with its first percent sign at a position. -/
def StartsAt (reference : Reference) (text : List Char) (start : Nat) : Prop :=
  reference.spelling <+: text.drop start

/-- From a position on, the reference with the smallest start is the next one, and the others are
looked for from its end on. -/
inductive Chosen (text : List Char) : Nat → List (Nat × Reference) → Prop where
  | none {position : Nat} (others : ∀ start ≥ position, ∀ other : Reference,
      ¬ other.StartsAt text start) : Chosen text position []
  | next {position start : Nat} {reference : Reference} {chosen : List (Nat × Reference)}
      (le : position ≤ start) (startsAt : reference.StartsAt text start)
      (others : ∀ earlier, position ≤ earlier → earlier < start → ∀ other : Reference,
        ¬ other.StartsAt text earlier)
      (rest : Chosen text (start + reference.spelling.length) chosen) :
      Chosen text position ((start, reference) :: chosen)

def splice (value : Reference → String) (text : List Char) (position : Nat) :
    List (Nat × Reference) → List Char
  | [] => text.drop position
  | (start, reference) :: chosen =>
    (text.drop position).take (start - position) ++ (value reference).toList ++
      splice value text (start + reference.spelling.length) chosen

theorem takeBefore?_append {delimiter : Char} {part : List Char} (hne : part ≠ [])
    (hpart : ∀ c ∈ part, isDelimiter c = false) (hdelimiter : isDelimiter delimiter)
    (rest : List Char) : takeBefore? delimiter (part ++ delimiter :: rest) = some (part, rest) := by
  have hpos : ∀ c ∈ part, (!isDelimiter c) = true := by simpa using hpart
  have htake : (part ++ delimiter :: rest).takeWhile (fun c => !isDelimiter c) = part := by
    rw [List.takeWhile_append_of_pos hpos, List.takeWhile_cons_of_neg (by simpa using hdelimiter),
      List.append_nil]
  have hdrop : (part ++ delimiter :: rest).dropWhile (fun c => !isDelimiter c) =
      delimiter :: rest := by
    rw [List.dropWhile_append_of_pos hpos, List.dropWhile_cons_of_neg (by simpa using hdelimiter)]
  rw [takeBefore?, htake, hdrop]
  exact if_pos ⟨rfl, hne⟩

theorem exists_of_ofChars? {cs name key rest : List Char}
    (h : ofChars? cs = some (name, key, rest)) :
    ∃ reference : Reference, reference.name = String.ofList name ∧
      reference.key = String.ofList key ∧ '%' :: cs = reference.spelling ++ rest := by
  simp only [ofChars?, Option.bind_eq_bind, Option.bind_eq_some_iff] at h
  obtain ⟨⟨_, afterName⟩, hname, ⟨_, _⟩, hkey, h⟩ := h
  cases h
  obtain ⟨hcs, hname, hnameParts⟩ := takeBefore?_eq_some hname
  obtain ⟨hafter, hkey, hkeyParts⟩ := takeBefore?_eq_some hkey
  have hafterName : afterName = _ := hafter
  refine ⟨⟨_, _, isPart_ofList hname hnameParts, isPart_ofList hkey hkeyParts⟩, rfl, rfl, ?_⟩
  simp [spelling, hcs, hafterName]

theorem ofChars?_spelling (reference : Reference) (rest : List Char) :
    ofChars? (reference.name.toList ++ ':' :: (reference.key.toList ++ '%' :: rest)) =
      some (reference.name.toList, reference.key.toList, rest) := by
  obtain ⟨hname, hnameParts⟩ := reference.isPart_name.toList
  obtain ⟨hkey, hkeyParts⟩ := reference.isPart_key.toList
  have hcolon : isDelimiter ':' := rfl
  have hpercent : isDelimiter '%' := rfl
  have hafterName := takeBefore?_append hname hnameParts hcolon
    (reference.key.toList ++ '%' :: rest)
  have hafterKey := takeBefore?_append hkey hkeyParts hpercent rest
  simp [ofChars?, hafterName, hafterKey]

theorem spelling_append (reference : Reference) (rest : List Char) :
    reference.spelling ++ rest =
      '%' :: (reference.name.toList ++ ':' :: (reference.key.toList ++ '%' :: rest)) := by
  simp [spelling]

theorem length_spelling_pos (reference : Reference) : 0 < reference.spelling.length := by
  simp [spelling]

/-- A reference ends at the first percent sign after its key, so that no other starts where it
does. -/
theorem StartsAt.eq {first second : Reference} {text : List Char} {start : Nat}
    (hfirst : first.StartsAt text start) (hsecond : second.StartsAt text start) :
    first = second := by
  obtain ⟨restFirst, hfirst⟩ := hfirst
  obtain ⟨restSecond, hsecond⟩ := hsecond
  have hchars := hfirst.trans hsecond.symm
  rw [spelling_append, spelling_append] at hchars
  have hread := ofChars?_spelling first restFirst
  rw [(List.cons.inj hchars).2, ofChars?_spelling, Option.some.injEq] at hread
  obtain ⟨hname, hread⟩ := Prod.mk.inj hread
  obtain ⟨hkey, -⟩ := Prod.mk.inj hread
  cases first
  cases second
  cases String.toList_inj.mp hname
  cases String.toList_inj.mp hkey
  rfl

theorem StartsAt.lt_length {reference : Reference} {text : List Char} {start : Nat}
    (h : reference.StartsAt text start) : start < text.length := by
  have hlength := h.length_le
  have hpos := reference.length_spelling_pos
  rw [List.length_drop] at hlength
  omega

theorem Chosen.of_succ {text : List Char} {position : Nat} {chosen : List (Nat × Reference)}
    (h : Chosen text (position + 1) chosen)
    (hposition : ∀ other : Reference, ¬ other.StartsAt text position) :
    Chosen text position chosen := by
  -- a start from the position on is the position itself or one of those after it
  cases h with
  | none others =>
    refine .none fun start hstart other => ?_
    obtain rfl | hlt := Nat.eq_or_lt_of_le hstart
    · exact hposition other
    · exact others start hlt other
  | next hle startsAt others rest =>
    refine .next (by omega) startsAt (fun earlier hearlier hlt other => ?_) rest
    obtain rfl | hgt := Nat.eq_or_lt_of_le hearlier
    · exact hposition other
    · exact others earlier hgt hlt other

theorem Chosen.eq {text : List Char} {position : Nat} {chosen other : List (Nat × Reference)}
    (h : Chosen text position chosen) (hother : Chosen text position other) : chosen = other := by
  induction h generalizing other with
  | none others => cases hother with
    | none => rfl
    | next hle startsAt => exact absurd startsAt (others _ hle _)
  | @next _ start _ _ hle startsAt others rest ih => cases hother with
    | none others' => exact absurd startsAt (others' _ hle _)
    | @next _ start' _ _ hle' startsAt' others' rest' =>
      obtain hlt | rfl | hgt := Nat.lt_trichotomy start start'
      · exact absurd startsAt (others' _ hle hlt _)
      · obtain rfl := startsAt.eq startsAt'
        rw [ih rest']
      · exact absurd startsAt' (others _ hle' hgt _)

end Reference

namespace Piece

theorem ofChars_spelling (reference : Reference) (rest : List Char) :
    ofChars (reference.spelling ++ rest) =
      .reference reference.name reference.key :: ofChars rest := by
  have hread := reference.ofChars?_spelling rest
  rw [Reference.spelling_append, ofChars]
  split
  · next name key rest' h =>
    rw [if_pos rfl, hread] at h
    cases h
    rw [String.ofList_toList, String.ofList_toList]
  · next h =>
    rw [if_pos rfl, hread] at h
    cases h

theorem ofChars_cons {c : Char} {cs : List Char}
    (h : ∀ reference : Reference, ¬ reference.spelling <+: c :: cs) :
    ofChars (c :: cs) = .literal c :: ofChars cs := by
  rw [ofChars]
  split
  · next name key rest hread =>
    split at hread
    · next hc =>
      obtain ⟨reference, -, -, hspelling⟩ := Reference.exists_of_ofChars? hread
      rw [← hc] at hspelling
      exact absurd ⟨rest, hspelling.symm⟩ (h reference)
    · cases hread
  · rfl

def expandAll (table : Table) (pieces : List Piece) : Except TemplateError (List Char) :=
  (pieces.mapM (expand table)).map List.flatten

theorem expandAll_cons_of_ok {table : Table} {piece : Piece} {expanded : List Char}
    (h : expand table piece = .ok expanded) (pieces : List Piece) :
    expandAll table (piece :: pieces) = (expandAll table pieces).map (expanded ++ ·) := by
  rw [expandAll, expandAll, List.mapM_cons, h]
  cases pieces.mapM (expand table) with
  | error error => rfl
  | ok others => rfl

theorem expandAll_cons_of_error {table : Table} {piece : Piece} {error : TemplateError}
    (h : expand table piece = .error error) (pieces : List Piece) :
    expandAll table (piece :: pieces) = .error error := by
  rw [expandAll, List.mapM_cons, h]
  rfl

theorem expand_reference_of_ok {table : Table} {name key value : String}
    (h : table.lookup name key = .ok value) :
    expand table (.reference name key) = .ok value.toList := by
  rw [expand, h]
  rfl

theorem expand_reference_of_error {table : Table} {name key : String} {error : TemplateError}
    (h : table.lookup name key = .error error) :
    expand table (.reference name key) = .error error := by
  rw [expand, h]
  rfl

end Piece

namespace Table

def notFound (table : Table) (name key : String) : TemplateError :=
  if table.contains name then .unknownKey name key else .unknownMacro name

def isMissing (table : Table) (reference : Reference) : Bool :=
  (table.get? reference.name reference.key).isNone

def valueOf (table : Table) (reference : Reference) : String :=
  (table.get? reference.name reference.key).getD ""

/-- The text from a position on with the values of its chosen references, unless one of them is
missing. -/
def filled (table : Table) (text : List Char) (position : Nat) (chosen : List (Nat × Reference)) :
    Except TemplateError (List Char) :=
  match (chosen.map Prod.snd).find? table.isMissing with
  | some reference => .error (table.notFound reference.name reference.key)
  | none => .ok (Reference.splice table.valueOf text position chosen)

theorem lookup_of_get?_eq_none {table : Table} {name key : String} (h : table.get? name key = none) :
    table.lookup name key = .error (table.notFound name key) := by
  unfold get? at h
  rw [notFound, contains_eq_isSome_entries]
  unfold lookup
  cases hvalues : table.entries[name]? with
  | none => rfl
  | some values =>
    rw [hvalues, Option.bind_some] at h
    dsimp only
    rw [h]
    rfl

theorem substitute_eq_expandAll (table : Table) (text : String) :
    table.substitute text =
      (Piece.expandAll table (Piece.ofChars text.toList)).map String.ofList := by
  rw [substitute, Piece.expandAll]
  cases (Piece.ofChars text.toList).mapM (Piece.expand table) with
  | error error => rfl
  | ok pieces => rfl

open Reference

variable {text : List Char} {position : Nat} {chosen : List (Nat × Reference)}

theorem filled_succ {c : Char} {cs : List Char} (hcs : text.drop position = c :: cs)
    (h : Chosen text (position + 1) chosen) (table : Table) :
    table.filled text position chosen =
      (table.filled text (position + 1) chosen).map (c :: ·) := by
  have hrest : text.drop (position + 1) = cs := drop_add_length [c] hcs
  have hsplice : splice table.valueOf text position chosen =
      c :: splice table.valueOf text (position + 1) chosen := by
    cases h with
    | none => rw [splice, splice, hcs, hrest]
    | @next _ start _ _ hle =>
      have hstart : start - position = start - (position + 1) + 1 := by omega
      rw [splice, splice, hcs, hrest, hstart, List.take_succ_cons, List.cons_append,
        List.cons_append]
  rw [filled, filled, hsplice]
  cases (chosen.map Prod.snd).find? table.isMissing with
  | none => rfl
  | some reference => rfl

theorem filled_next_of_some {table : Table} {reference : Reference} {value : String}
    (h : table.get? reference.name reference.key = some value) :
    table.filled text position ((position, reference) :: chosen) =
      (table.filled text (position + reference.spelling.length) chosen).map
        (value.toList ++ ·) := by
  have hfound : ¬ table.isMissing reference := by simp [isMissing, h]
  have hvalue : table.valueOf reference = value := by rw [valueOf, h, Option.getD_some]
  rw [filled, filled, List.map_cons, List.find?_cons_of_neg hfound, splice, hvalue, Nat.sub_self,
    List.take_zero, List.nil_append]
  cases (chosen.map Prod.snd).find? table.isMissing with
  | none => rfl
  | some reference => rfl

theorem filled_next_of_none {table : Table} {reference : Reference}
    (h : table.get? reference.name reference.key = none) :
    table.filled text position ((position, reference) :: chosen) =
      .error (table.notFound reference.name reference.key) := by
  have hmissing : table.isMissing reference := by simp [isMissing, h]
  rw [filled, List.map_cons, List.find?_cons_of_pos hmissing]

/-- A reference at the position itself is the next one that is replaced. -/
theorem expandAll_of_startsAt {table : Table} {reference : Reference}
    (h : reference.StartsAt text position)
    (hexpand : Piece.expandAll table
      (Piece.ofChars (text.drop (position + reference.spelling.length))) =
        table.filled text (position + reference.spelling.length) chosen) :
    Piece.expandAll table (Piece.ofChars (text.drop position)) =
      table.filled text position ((position, reference) :: chosen) := by
  obtain ⟨rest, hrest⟩ := h
  rw [drop_add_length _ hrest.symm] at hexpand
  rw [← hrest, Piece.ofChars_spelling]
  cases hget : table.get? reference.name reference.key with
  | none =>
    have hpiece := Piece.expand_reference_of_error (lookup_of_get?_eq_none hget)
    rw [filled_next_of_none hget, Piece.expandAll_cons_of_error hpiece]
  | some value =>
    have hpiece := Piece.expand_reference_of_ok (lookup_eq_ok_iff.mpr hget)
    rw [filled_next_of_some hget, Piece.expandAll_cons_of_ok hpiece, hexpand]

/-- A character at which no reference starts stays as it is. -/
theorem expandAll_of_not_startsAt {table : Table} {c : Char} {cs : List Char}
    (hcs : text.drop position = c :: cs)
    (hnone : ∀ other : Reference, ¬ other.StartsAt text position)
    (hchosen : Chosen text (position + 1) chosen)
    (hexpand : Piece.expandAll table (Piece.ofChars (text.drop (position + 1))) =
      table.filled text (position + 1) chosen) :
    Piece.expandAll table (Piece.ofChars (text.drop position)) =
      table.filled text position chosen := by
  have hliteral : Piece.ofChars (c :: cs) = .literal c :: Piece.ofChars cs := by
    apply Piece.ofChars_cons
    intro other hother
    rw [← hcs] at hother
    exact hnone other hother
  have hpiece : Piece.expand table (.literal c) = .ok [c] := rfl
  have hafter : text.drop (position + 1) = cs := drop_add_length [c] hcs
  rw [hafter] at hexpand
  rw [hcs, hliteral, Piece.expandAll_cons_of_ok hpiece, hexpand, filled_succ hcs hchosen]
  rfl

/-- References can be chosen from every position on, and what the pieces after it expand to is the
text with their values. -/
theorem exists_chosen (table : Table) (text : List Char) (position : Nat) :
    ∃ chosen, Chosen text position chosen ∧
      Piece.expandAll table (Piece.ofChars (text.drop position)) =
        table.filled text position chosen := by
  -- by induction on what is left, of which a reference takes its whole spelling
  induction hlength : text.length - position using Nat.strongRecOn generalizing position with
  | ind length ih =>
    subst hlength
    cases hcs : text.drop position with
    | nil =>
      have hend : text.length ≤ position := List.drop_eq_nil_iff.mp hcs
      refine ⟨[], .none fun start hstart other hother => ?_, ?_⟩
      · have hlt := hother.lt_length
        omega
      · rw [filled, splice, hcs, Piece.ofChars]
        rfl
    | cons c cs =>
      have hlt : position < text.length := by
        apply Nat.lt_of_not_le
        intro hend
        rw [List.drop_eq_nil_of_le hend] at hcs
        cases hcs
      rw [← hcs]
      by_cases hstarts : ∃ reference : Reference, reference.StartsAt text position
      · obtain ⟨reference, hreference⟩ := hstarts
        have hpos := reference.length_spelling_pos
        obtain ⟨chosen, hchosen, hexpand⟩ :=
          ih _ (by omega) (position + reference.spelling.length) rfl
        exact ⟨(position, reference) :: chosen,
          .next (Nat.le_refl position) hreference (fun _ _ _ => by omega) hchosen,
          expandAll_of_startsAt hreference hexpand⟩
      · have hnone : ∀ other : Reference, ¬ other.StartsAt text position := fun other hother =>
          hstarts ⟨other, hother⟩
        obtain ⟨chosen, hchosen, hexpand⟩ := ih _ (by omega) (position + 1) rfl
        exact ⟨chosen, hchosen.of_succ hnone,
          expandAll_of_not_startsAt hcs hnone hchosen hexpand⟩

end Table

/-- Between the chosen references nothing is lost and nothing stands twice. -/
theorem Reference.Chosen.splice_spelling {text : List Char} {position : Nat}
    {chosen : List (Nat × Reference)} (h : Chosen text position chosen) :
    splice (fun reference => String.ofList reference.spelling) text position chosen =
      text.drop position := by
  induction h with
  | none => rfl
  | @next position start reference chosen hle startsAt others rest ih =>
    obtain ⟨after, hafter⟩ := startsAt
    have hstart : position + (start - position) = start := by omega
    have hrest := drop_add_length _ hafter.symm
    have hdrop : (text.drop position).drop (start - position) = text.drop start := by
      rw [List.drop_drop, hstart]
    rw [splice, ih, String.toList_ofList, hrest, List.append_assoc, hafter, ← hdrop,
      List.take_append_drop]

/-- Where no reference stands in a text there is nothing to choose. -/
theorem Reference.Chosen.eq_nil_of_not_isInfix {text : List Char} {position : Nat}
    {chosen : List (Nat × Reference)} (h : Chosen text position chosen)
    (hnone : ∀ reference : Reference, ¬ reference.spelling <:+: text) : chosen = [] := by
  cases h with
  | none => rfl
  | @next _ start reference _ _ startsAt =>
    have hfound : reference.spelling <:+: text :=
      startsAt.isInfix.trans (List.drop_suffix start text).isInfix
    exact absurd hfound (hnone reference)

theorem Reference.Chosen.eq_nil {text : List Char} {position : Nat}
    {chosen : List (Nat × Reference)} (h : Chosen text position chosen) (hpercent : '%' ∉ text) :
    chosen = [] := by
  refine h.eq_nil_of_not_isInfix fun reference hfound => ?_
  have hmem : '%' ∈ reference.spelling := by simp [spelling]
  exact hpercent (hfound.subset hmem)

namespace Table

open Reference

/-- A substitution gives the text with the values of its chosen references, which are one list and
leave out nothing of the text, or reports the first of them that is missing. A text without percent
signs need not be searched. -/
theorem substitute_eq_filled (table : Table) (text : String) :
    ∃ chosen, (∀ other, Chosen text.toList 0 other ↔ other = chosen) ∧
      splice (fun reference => String.ofList reference.spelling) text.toList 0 chosen =
        text.toList ∧
      table.substitute text = (table.filled text.toList 0 chosen).map String.ofList ∧
      (if '%' ∈ text.toList then table.substitute text else .ok text) =
        table.substitute text := by
  obtain ⟨chosen, hchosen, hexpand⟩ := exists_chosen table text.toList 0
  rw [List.drop_zero] at hexpand
  have hsubstitute : table.substitute text =
      (table.filled text.toList 0 chosen).map String.ofList := by
    rw [substitute_eq_expandAll, hexpand]
  refine ⟨chosen, fun other => ?_, ?_, hsubstitute, ?_⟩
  · constructor
    · intro hother
      exact hother.eq hchosen
    · rintro rfl
      exact hchosen
  · exact hchosen.splice_spelling
  · split
    · rfl
    · next hpercent =>
      rw [hsubstitute, hchosen.eq_nil hpercent]
      simp [filled, splice, Except.map]

/-- The first percent sign opens no reference, and the value is not searched for others. -/
example : (Table.insert ∅ "B" "C" "%X:Y%").substitute "%a%B:C%" = .ok "%a%X:Y%" := by cbv

/-- A reference may start at any percent sign and have blanks for its key. -/
example : (Table.insert ∅ "B" "C" "x").substitute "50% a: %B:C%" = .error (.unknownMacro " a") := by
  cbv

theorem substitute_of_not_isInfix (table : Table) {text : String}
    (h : ∀ reference : Reference, ¬ reference.spelling <:+: text.toList) :
    table.substitute text = .ok text := by
  obtain ⟨chosen, hchosen, hexpand⟩ := exists_chosen table text.toList 0
  rw [List.drop_zero, hchosen.eq_nil_of_not_isInfix h] at hexpand
  rw [substitute_eq_expandAll, hexpand]
  simp [filled, splice, Except.map]

end Table

end ReplyTemplate
