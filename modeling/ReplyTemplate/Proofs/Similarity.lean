import Mathlib.Data.Finset.Card
import ReplyTemplate.Similarity

/-! How scores order names. They keep four groups apart, and within the first three the score falls
with the distance between the sizes. -/

namespace ReplyTemplate.Similarity

/-! ### Parts of the score -/

theorem occursIn_iff {part s : List Char} : occursIn part s ↔ part <:+: s := by
  induction s with
  | nil => rw [occursIn, List.isEmpty_iff, List.infix_nil]
  | cons c rest ih =>
    rw [occursIn, Bool.or_eq_true, List.isPrefixOf_iff_prefix, ih, List.infix_cons_iff]

theorem containment_eq (query candidate : List Char) :
    containment query candidate =
      if query <+: candidate then 100
      else if query <:+: candidate then 50
      else if candidate <:+: query then 30
      else 0 := by
  simp only [containment, occursIn_iff, List.isPrefixOf_iff_prefix]

theorem containment_eq_zero_iff {query candidate : List Char} :
    containment query candidate = 0 ↔ ¬ (query <:+: candidate ∨ candidate <:+: query) := by
  rw [containment_eq]
  split
  · next h => simp [h.isInfix]
  split
  · next h => simp [h]
  split
  · next h => simp [h]
  · next h h' => simp [h, h']

theorem nodup_eraseDups (s : List Char) : s.eraseDups.Nodup := by
  cases s with
  | nil => exact List.nodup_nil
  | cons c rest =>
    rw [List.eraseDups_cons, List.nodup_cons]
    exact ⟨by simp, nodup_eraseDups _⟩
termination_by s.length
decreasing_by
  have hle := List.length_filter_le (fun d => !d == c) rest
  rw [List.length_cons]
  omega

theorem length_eraseDups (s : List Char) : s.eraseDups.length = s.toFinset.card := by
  rw [← List.toFinset_card_of_nodup (nodup_eraseDups s)]
  congr 1
  ext c
  simp

theorem sharedCharacters_eq (query candidate : List Char) :
    sharedCharacters query candidate = (query.toFinset ∩ candidate.toFinset).card := by
  rw [sharedCharacters, ← List.toFinset_card_of_nodup ((nodup_eraseDups query).filter _)]
  congr 1
  ext c
  simp

/-- The distance between the sizes in bytes. From five bytes on it makes no difference. -/
def distance (query candidate : String) : Nat :=
  min (candidate.utf8ByteSize - query.utf8ByteSize : Int).natAbs 5

theorem closeness_eq (query candidate : String) :
    closeness query candidate = 5 - distance query candidate := by
  unfold closeness closenessLimit distance
  omega

/-! ### Which names are suggested -/

/-- One of two names holds the other, or the candidate has more than half of the different
characters of the query. -/
def Resembles (query candidate : List Char) : Prop :=
  query <:+: candidate ∨ candidate <:+: query ∨
    query.toFinset.card < 2 * (query.toFinset ∩ candidate.toFinset).card

theorem resembles_iff {query candidate : List Char} :
    Resembles query candidate ↔ ¬ (containment query candidate = 0 ∧
      sharedCharacters query candidate * 2 < max query.eraseDups.length 1 + 1) := by
  rw [sharedCharacters_eq, length_eraseDups, containment_eq_zero_iff, Resembles, ← or_assoc]
  by_cases hcontained : query <:+: candidate ∨ candidate <:+: query
  · simp [hcontained]
  · have hpos : 0 < query.toFinset.card := by
      rw [Finset.card_pos, List.toFinset_nonempty_iff]
      rintro rfl
      exact hcontained (.inl (List.nil_infix))
    rw [or_iff_right hcontained, and_iff_right hcontained]
    omega

theorem score_eq (query candidate : String) (h : Resembles query.toList candidate.toList) :
    score query candidate = containment query.toList candidate.toList +
      2 * (query.toList.toFinset ∩ candidate.toList.toFinset).card +
      (5 - distance query candidate) := by
  rw [resembles_iff] at h
  rw [score, if_neg h, sharedCharacters_eq, closeness_eq, Nat.mul_comm]

theorem score_pos_iff {query candidate : String} :
    0 < score query candidate ↔ Resembles query.toList candidate.toList := by
  constructor
  · intro hpos
    rw [resembles_iff]
    intro hzero
    rw [score, if_pos hzero] at hpos
    exact Nat.lt_irrefl 0 hpos
  · intro h
    rw [score_eq query candidate h]
    by_cases hzero : containment query.toList candidate.toList = 0
    · rw [containment_eq_zero_iff] at hzero
      have hshared := h.resolve_left (fun h => hzero (.inl h)) |>.resolve_left
        (fun h => hzero (.inr h))
      omega
    · omega

/-! ### Groups -/

/-- The query itself comes first, then the longer names that start with it, then the names that hold
it elsewhere, and then all others. -/
def place (query candidate : List Char) : Nat :=
  if candidate = query then 0
  else if query <+: candidate then 1
  else if query <:+: candidate then 2
  else 3

theorem place_cases (query candidate : List Char) :
    (candidate = query ∧ place query candidate = 0) ∨
    (candidate ≠ query ∧ query <+: candidate ∧ place query candidate = 1) ∨
    (¬ query <+: candidate ∧ query <:+: candidate ∧ place query candidate = 2) ∨
    (¬ query <:+: candidate ∧ place query candidate = 3) := by
  unfold place
  by_cases heq : candidate = query
  · exact .inl ⟨heq, if_pos heq⟩
  rw [if_neg heq]
  by_cases hstarts : query <+: candidate
  · exact .inr (.inl ⟨heq, hstarts, if_pos hstarts⟩)
  rw [if_neg hstarts]
  by_cases hholds : query <:+: candidate
  · exact .inr (.inr (.inl ⟨hstarts, hholds, if_pos hholds⟩))
  · exact .inr (.inr (.inr ⟨hholds, if_neg hholds⟩))

theorem infix_of_place {query candidate : List Char} (h : place query candidate < 3) :
    query <:+: candidate := by
  obtain ⟨rfl, -⟩ | ⟨-, hstarts, -⟩ | ⟨-, hholds, -⟩ | ⟨-, hplace⟩ := place_cases query candidate
  · exact List.infix_rfl
  · exact hstarts.isInfix
  · exact hholds
  · omega

theorem resembles_of_place {query candidate : List Char} (h : place query candidate < 3) :
    Resembles query candidate :=
  .inl (infix_of_place h)

theorem containment_of_place {query candidate : List Char} (h : place query candidate < 3) :
    containment query candidate = if place query candidate = 2 then 50 else 100 := by
  rw [containment_eq]
  obtain ⟨rfl, hplace⟩ | ⟨-, hstarts, hplace⟩ | ⟨hstarts, hholds, hplace⟩ | ⟨-, hplace⟩ :=
    place_cases query candidate
  · simp [hplace]
  · simp [hplace, hstarts]
  · simp [hplace, hstarts, hholds]
  · omega

theorem containment_le_of_place {query candidate : List Char} (h : place query candidate = 3) :
    containment query candidate ≤ 30 := by
  obtain ⟨-, hplace⟩ | ⟨-, -, hplace⟩ | ⟨-, -, hplace⟩ | ⟨hholds, -⟩ := place_cases query candidate
  case inr.inr.inr =>
    have hstarts : ¬ query <+: candidate := fun hstarts => hholds hstarts.isInfix
    rw [containment_eq, if_neg hstarts, if_neg hholds]
    split <;> omega
  all_goals omega

/-- A candidate that holds the query has all of its characters. -/
theorem score_of_place {query candidate : String} (h : place query.toList candidate.toList < 3) :
    score query candidate = (if place query.toList candidate.toList = 2 then 50 else 100) +
      2 * query.toList.toFinset.card + (5 - distance query candidate) := by
  have hsubset : query.toList.toFinset ⊆ candidate.toList.toFinset := by
    intro c hc
    rw [List.mem_toFinset] at hc ⊢
    exact (infix_of_place h).subset hc
  rw [score_eq query candidate (resembles_of_place h), containment_of_place h,
    Finset.inter_eq_left.mpr hsubset]

theorem score_le_of_place {query candidate : String}
    (h : place query.toList candidate.toList = 3) :
    score query candidate ≤ 35 + 2 * query.toList.toFinset.card := by
  by_cases hresembles : Resembles query.toList candidate.toList
  · have hcontainment := containment_le_of_place h
    have hshared : (query.toList.toFinset ∩ candidate.toList.toFinset).card ≤
        query.toList.toFinset.card := Finset.card_le_card Finset.inter_subset_left
    rw [score_eq query candidate hresembles]
    omega
  · rw [← score_pos_iff] at hresembles
    omega

theorem distance_eq_zero_of_place {query candidate : String}
    (h : place query.toList candidate.toList = 0) : distance query candidate = 0 := by
  obtain ⟨heq, -⟩ | ⟨-, -, hplace⟩ | ⟨-, -, hplace⟩ | ⟨-, hplace⟩ :=
    place_cases query.toList candidate.toList
  case inl =>
    rw [String.toList_inj.mp heq, distance]
    simp
  all_goals omega

theorem distance_pos_of_place {query candidate : String}
    (h : place query.toList candidate.toList = 1) : 0 < distance query candidate := by
  obtain ⟨-, hplace⟩ | ⟨hne, ⟨more, hmore⟩, -⟩ | ⟨-, -, hplace⟩ | ⟨-, hplace⟩ :=
    place_cases query.toList candidate.toList
  case inr.inl =>
    have hcandidate : candidate = query ++ String.ofList more := by
      rw [← String.toList_inj, String.toList_append, String.toList_ofList, hmore]
    have hpos : (String.ofList more).utf8ByteSize ≠ 0 := by
      rw [Ne, String.utf8ByteSize_eq_zero_iff]
      intro hempty
      rw [hempty, String.append_empty] at hcandidate
      exact hne (congrArg String.toList hcandidate)
    have hsize := congrArg String.utf8ByteSize hcandidate
    rw [String.utf8ByteSize_append] at hsize
    unfold distance
    omega
  all_goals omega

/-- No number of shared characters lifts a name out of its group. -/
theorem score_lt_of_place_lt {query first second : String}
    (h : place query.toList first.toList < place query.toList second.toList) :
    score query second < score query first := by
  have hsecond : place query.toList second.toList = 1 ∨ place query.toList second.toList = 2 ∨
      place query.toList second.toList = 3 := by
    obtain ⟨-, hplace⟩ | ⟨-, -, hplace⟩ | ⟨-, -, hplace⟩ | ⟨-, hplace⟩ :=
      place_cases query.toList second.toList <;> omega
  have hfirst : place query.toList first.toList < 3 := by omega
  have hscore := score_of_place hfirst
  obtain hlonger | hholding | hother := hsecond
  · have hthree : place query.toList second.toList < 3 := by omega
    have hscore' := score_of_place hthree
    have hzero := distance_eq_zero_of_place (Nat.lt_one_iff.mp (hlonger ▸ h))
    have hpos := distance_pos_of_place hlonger
    rw [if_neg (by omega)] at hscore hscore'
    omega
  · have hthree : place query.toList second.toList < 3 := by omega
    have hscore' := score_of_place hthree
    rw [if_neg (by omega)] at hscore
    rw [if_pos hholding] at hscore'
    omega
  · have hle := score_le_of_place hother
    split at hscore <;> omega

/-! ### The order of suggestions -/

def Outranks (fold : String → String) (query first second : String) : Prop :=
  score (fold query) (fold second) < score (fold query) (fold first) ∨
    score (fold query) (fold first) = score (fold query) (fold second) ∧ first < second

instance (fold : String → String) (query first second : String) :
    Decidable (Outranks fold query first second) :=
  inferInstanceAs (Decidable (_ ∨ _))

/-- A name of an earlier group comes first. In one of the first three groups it is the name whose
size is closer to that of the query, and of two names that are equally close the smaller one. -/
structure ComesFirst (fold : String → String) (query first second : String) : Prop where
  place_le : place (fold query).toList (fold first).toList ≤
    place (fold query).toList (fold second).toList
  closer : place (fold query).toList (fold first).toList =
      place (fold query).toList (fold second).toList →
    place (fold query).toList (fold second).toList < 3 →
    distance (fold query) (fold first) < distance (fold query) (fold second) ∨
      distance (fold query) (fold first) = distance (fold query) (fold second) ∧ first < second

variable {fold : String → String} {query first second : String}

theorem Outranks.comesFirst (h : Outranks fold query first second) :
    ComesFirst fold query first second := by
  have hle : score (fold query) (fold second) ≤ score (fold query) (fold first) := by
    obtain hlt | ⟨heq, -⟩ := h <;> omega
  constructor
  case place_le =>
    by_contra hplace
    have hlt := score_lt_of_place_lt (Nat.lt_of_not_le hplace)
    omega
  case closer =>
    intro hplace hthree
    have hfirst := score_of_place (hplace ▸ hthree)
    have hsecond := score_of_place hthree
    have hdistance : ∀ name, distance (fold query) (fold name) ≤ 5 := fun _ => Nat.min_le_right _ _
    have hcloseFirst := hdistance first
    have hcloseSecond := hdistance second
    rw [hplace] at hfirst
    obtain hlt | ⟨heq, hname⟩ := h
    · exact .inl (by omega)
    · exact .inr ⟨by omega, hname⟩

theorem Outranks.asymm (h : Outranks fold query first second) :
    ¬ Outranks fold query second first := by
  rintro (hlt' | ⟨heq', hname'⟩) <;> obtain hlt | ⟨heq, hname⟩ := h
  · omega
  · omega
  · omega
  · exact String.lt_asymm hname hname'

theorem precedes_trans (a b c : String × Nat) (hab : precedes a b) (hbc : precedes b c) :
    precedes a c := by
  simp only [precedes, Bool.or_eq_true, Bool.and_eq_true, decide_eq_true_eq, beq_iff_eq] at hab hbc ⊢
  obtain hlt | ⟨heq, hle⟩ := hab <;> obtain hlt' | ⟨heq', hle'⟩ := hbc
  · exact .inl (by omega)
  · exact .inl (by omega)
  · exact .inl (by omega)
  · exact .inr ⟨heq.trans heq', String.le_trans hle hle'⟩

theorem precedes_total (a b : String × Nat) : precedes a b || precedes b a := by
  simp only [precedes, Bool.or_eq_true, Bool.and_eq_true, decide_eq_true_eq, beq_iff_eq]
  obtain hlt | heq | hgt := Nat.lt_trichotomy a.2 b.2
  · exact .inr (.inl hlt)
  · exact (String.le_total a.1 b.1).imp (fun h => .inr ⟨heq, h⟩) (fun h => .inr ⟨heq.symm, h⟩)
  · exact .inl (.inl hgt)

theorem rank_perm (fold : String → String) (names : List String) (query : String) :
    (rank fold names query).Perm
      (names.filter fun name => 0 < score (fold query) (fold name)) := by
  refine ((List.mergeSort_perm _ precedes).map Prod.fst).trans ?_
  rw [List.filter_map, List.map_map]
  exact .of_eq (List.map_id _)

theorem mem_rank_iff {names : List String} {name : String} :
    name ∈ rank fold names query ↔
      name ∈ names ∧ Resembles (fold query).toList (fold name).toList := by
  rw [(rank_perm fold names query).mem_iff, List.mem_filter, decide_eq_true_iff, score_pos_iff]

theorem nodup_rank {names : List String} (h : names.Nodup) : (rank fold names query).Nodup :=
  (rank_perm fold names query).nodup_iff.mpr (h.filter _)

theorem pairwise_rank {names : List String} (h : names.Nodup) :
    (rank fold names query).Pairwise (Outranks fold query) := by
  let scored := names.map fun name => (name, score (fold query) (fold name))
  have hscore : ∀ entry ∈ (scored.filter fun entry => 0 < entry.2).mergeSort precedes,
      entry.2 = score (fold query) (fold entry.1) := by
    intro entry hentry
    rw [List.mem_mergeSort, List.mem_filter] at hentry
    obtain ⟨name, -, rfl⟩ := List.mem_map.mp hentry.1
    rfl
  have hsorted := List.pairwise_mergeSort precedes_trans precedes_total
    (scored.filter fun entry => 0 < entry.2)
  have hdistinct : (rank fold names query).Pairwise (· ≠ ·) := nodup_rank h
  unfold rank at hdistinct ⊢
  rw [List.pairwise_map] at hdistinct ⊢
  refine (hsorted.and hdistinct).imp_of_mem fun {a b} ha hb hab => ?_
  obtain ⟨hprecedes, hne⟩ := hab
  rw [precedes, hscore a ha, hscore b hb] at hprecedes
  simp only [Bool.or_eq_true, Bool.and_eq_true, decide_eq_true_eq, beq_iff_eq] at hprecedes
  exact hprecedes.imp_right fun hequal => ⟨hequal.1, Std.lt_of_le_of_ne hequal.2 hne⟩

/-- There is one way to sort the names that have a score. -/
theorem eq_rank_of_perm {names suggested : List String} (hnames : names.Nodup)
    (hperm : suggested.Perm (names.filter fun name => 0 < score (fold query) (fold name)))
    (hpairwise : suggested.Pairwise (Outranks fold query)) :
    suggested = rank fold names query :=
  (hperm.trans (rank_perm fold names query).symm).eq_of_pairwise
    (fun _ _ _ _ hab hba => absurd hba hab.asymm) hpairwise (pairwise_rank hnames)

/-- The names of a list that resemble the query, each once, from the highest score to the lowest and
equal scores in the order of the names. -/
structure Suggests (fold : String → String) (names : List String) (query : String)
    (suggested : List String) : Prop where
  mem_iff : ∀ name, name ∈ suggested ↔
    name ∈ names ∧ Resembles (fold query).toList (fold name).toList
  nodup : suggested.Nodup
  pairwise : suggested.Pairwise (Outranks fold query)

theorem suggests_rank {names : List String} (h : names.Nodup) :
    Suggests fold names query (rank fold names query) where
  mem_iff _ := mem_rank_iff
  nodup := nodup_rank h
  pairwise := pairwise_rank h

/-- Suggestions hang on the names alone and not on their order. -/
theorem Suggests.eq {names others suggested suggested' : List String}
    (h : Suggests fold names query suggested) (h' : Suggests fold others query suggested')
    (hnames : ∀ name, name ∈ names ↔ name ∈ others) : suggested = suggested' := by
  have hperm : suggested.Perm suggested' := by
    rw [List.perm_ext_iff_of_nodup h.nodup h'.nodup]
    intro name
    rw [h.mem_iff, h'.mem_iff, hnames]
  exact hperm.eq_of_pairwise (fun _ _ _ _ hab hba => absurd hba hab.asymm) h.pairwise h'.pairwise

end ReplyTemplate.Similarity
