import Mathlib.Data.List.Chain
import ReplyTemplate.Template.Normal

/-! Normal templates. Flat parts give one, and normalizing leaves it as it is. -/

namespace ReplyTemplate.Template

def isText : Template → Bool
  | text _ => true
  | _ => false

def isGroup : Template → Bool
  | group _ => true
  | _ => false

theorem exists_eq_text_of_isText {template : Template} (h : template.isText) :
    ∃ contents, template = text contents := by
  cases template with
  | text contents => exact ⟨contents, rfl⟩
  | group | call => simp [isText] at h

def Apart (part next : Template) : Prop := ¬ (part.isText ∧ next.isText)

mutual

/-- A group has at least two parts. None of them is a group or empty, no two texts are neighbours,
and blank text is not the last of them. All calls name a plugin, and their scopes are normal. -/
def IsNormal : Template → Prop
  | text _ => True
  | group parts => 2 ≤ parts.length ∧ parts.IsChain Apart ∧ ¬ parts.getLast?.any isBlankText ∧
      AreNormalParts parts
  | call plugin _ none => plugin ≠ ""
  | call plugin _ (some scope) => plugin ≠ "" ∧ IsNormal scope

def AreNormalParts : List Template → Prop
  | [] => True
  | part :: parts => (¬ part.isGroup ∧ part ≠ text "" ∧ IsNormal part) ∧ AreNormalParts parts

end

theorem areNormalParts_iff {parts : List Template} :
    AreNormalParts parts ↔ ∀ part ∈ parts, ¬ part.isGroup ∧ part ≠ text "" ∧ IsNormal part := by
  induction parts with
  | nil => simp [AreNormalParts]
  | cons part parts ih => rw [AreNormalParts, ih, List.forall_mem_cons]

theorem isNamed_of_isNormal {template : Template} (h : template.IsNormal) :
    template.isNamed = true := by
  induction template with
  | text => rfl
  | group parts ih =>
    rw [isNamed, isNamedAll_iff]
    exact fun part hmem => ih part hmem (areNormalParts_iff.mp h.2.2.2 part hmem).2.2
  | bareCall plugin argument => simpa [isNamed, IsNormal] using h
  | scopedCall plugin argument scope ih => simpa [isNamed, h.1] using ih h.2

/-! What joining texts gives. -/

theorem joinTexts_text_cons_of_eq {contents more : String} {parts rest : List Template}
    (h : joinTexts parts = text more :: rest) :
    joinTexts (text contents :: parts) = text (contents ++ more) :: rest := by
  rw [joinTexts, h]

/-- Text is not joined with what stands in front of other parts than text. -/
theorem joinTexts_text_cons_of_head (contents : String) {parts : List Template}
    (h : ∀ part ∈ (joinTexts parts).head?, ¬ part.isText) :
    joinTexts (text contents :: parts) =
      if contents = "" then joinTexts parts else text contents :: joinTexts parts := by
  rw [joinTexts]
  split
  · next more rest heq => simp [heq, isText] at h
  · rfl

theorem joinTexts_cons {part : Template} (h : ¬ part.isText) (parts : List Template) :
    joinTexts (part :: parts) = part :: joinTexts parts := by
  cases part with
  | text => simp [isText] at h
  | group | call => simp [joinTexts]

/-- Texts that follow each other are as good as one. -/
theorem joinTexts_text_text (contents more : String) (parts : List Template) :
    joinTexts (text contents :: text more :: parts) =
      joinTexts (text (contents ++ more) :: parts) := by
  by_cases hhead : ∀ part ∈ (joinTexts parts).head?, ¬ part.isText
  · rw [joinTexts_text_cons_of_head (contents ++ more) hhead]
    have hmore := joinTexts_text_cons_of_head more hhead
    by_cases hempty : more = ""
    · rw [if_pos hempty] at hmore
      rw [joinTexts_text_cons_of_head contents (by rwa [hmore]), hmore, hempty, String.append_empty]
    · rw [if_neg hempty] at hmore
      rw [joinTexts_text_cons_of_eq hmore, if_neg (by simp [hempty])]
  · push Not at hhead
    obtain ⟨part, hmem, htext⟩ := hhead
    obtain ⟨last, rfl⟩ := exists_eq_text_of_isText htext
    obtain ⟨rest, heq⟩ := List.head?_eq_some_iff.mp hmem
    rw [joinTexts_text_cons_of_eq (joinTexts_text_cons_of_eq heq), joinTexts_text_cons_of_eq heq,
      String.append_assoc]

theorem joinTexts_text_empty (parts : List Template) :
    joinTexts (text "" :: parts) = joinTexts parts := by
  rw [joinTexts]
  split
  · next more rest heq => rw [String.empty_append, heq]
  · rfl

/-- Other parts than text keep what is on their two sides apart. -/
theorem joinTexts_text_cons {part : Template} (h : ¬ part.isText) (contents : String)
    (parts : List Template) : joinTexts (text contents :: part :: parts) =
      joinTexts [text contents] ++ part :: joinTexts parts := by
  rw [joinTexts_text_cons_of_head contents (by simpa [joinTexts_cons h] using h), joinTexts_cons h]
  by_cases hempty : contents = "" <;> simp [joinTexts, hempty]

theorem forall_mem_joinTexts (parts : List Template) :
    ∀ part ∈ joinTexts parts, part ≠ text "" ∧ (part.isText ∨ part ∈ parts) := by
  fun_induction joinTexts parts with
  | case1 => simp
  | case2 contents parts more rest heq ih =>
    rw [heq] at ih
    rw [List.forall_mem_cons] at ih ⊢
    have hmore : more ≠ "" := by simpa using ih.1.1
    refine ⟨by simp [isText, hmore], fun part h => ?_⟩
    exact (ih.2 part h).imp_right (Or.imp_right (List.mem_cons_of_mem _))
  | case3 parts hhead ih =>
    exact fun part h => (ih part h).imp_right (Or.imp_right (List.mem_cons_of_mem _))
  | case4 contents parts hne hhead ih =>
    refine List.forall_mem_cons.mpr ⟨by simp [isText, hne], fun part h => ?_⟩
    exact (ih part h).imp_right (Or.imp_right (List.mem_cons_of_mem _))
  | case5 part parts hpart ih =>
    refine List.forall_mem_cons.mpr ⟨⟨hpart "", Or.inr (by simp)⟩, fun part h => ?_⟩
    exact (ih part h).imp_right (Or.imp_right (List.mem_cons_of_mem _))

theorem isChain_joinTexts (parts : List Template) : (joinTexts parts).IsChain Apart := by
  fun_induction joinTexts parts with
  | case1 => exact .nil
  | case2 contents parts more rest heq ih =>
    rw [heq] at ih
    exact ih.imp_head fun h => by simpa [Apart, isText] using h
  | case3 parts hhead ih => exact ih
  | case4 contents parts hne hhead ih =>
    refine ih.cons fun next hnext => ?_
    cases next with
    | text more =>
      obtain ⟨rest, heq⟩ := List.head?_eq_some_iff.mp hnext
      exact absurd heq (hhead more rest)
    | group | call => simp [Apart, isText]
  | case5 part parts hpart ih =>
    refine ih.cons fun next _ => ?_
    cases part with
    | text contents => exact absurd rfl (hpart contents)
    | group | call => simp [Apart, isText]

/-- Joining leaves parts as they are of which no two texts are neighbours and none is empty. -/
theorem joinTexts_of_isChain {parts : List Template} (hc : parts.IsChain Apart)
    (hne : ∀ part ∈ parts, part ≠ text "") : joinTexts parts = parts := by
  induction parts with
  | nil => rfl
  | cons part parts ih =>
    obtain ⟨hhead, hc⟩ := List.isChain_cons.mp hc
    have heq : joinTexts parts = parts := ih hc fun part h => hne part (List.mem_cons_of_mem _ h)
    cases part with
    | text contents =>
      have hcontents : contents ≠ "" := by simpa using hne (text contents) (by simp)
      rw [joinTexts_text_cons_of_head, heq, if_neg hcontents]
      intro next hnext
      rw [heq] at hnext
      simpa [Apart, isText] using hhead next hnext
    | group | call => rw [joinTexts_cons (by simp [isText]), heq]

/-! What flat parts give. -/

theorem isText_of_isBlankText {part : Template} (h : part.isBlankText) : part.isText := by
  cases part with
  | text => rfl
  | group | call => simp [isBlankText] at h

theorem dropBlankEnd_subset (parts : List Template) : dropBlankEnd parts ⊆ parts := by
  unfold dropBlankEnd
  split
  · exact List.dropLast_subset parts
  · exact List.Subset.refl parts

theorem isChain_dropBlankEnd {parts : List Template} (h : parts.IsChain Apart) :
    (dropBlankEnd parts).IsChain Apart := by
  unfold dropBlankEnd
  split
  · exact h.dropLast
  · exact h

/-- What stands before a dropped text is not text itself. -/
theorem not_isBlankText_getLast?_dropBlankEnd {parts : List Template} (hc : parts.IsChain Apart)
    (hlen : 2 ≤ (dropBlankEnd parts).length) :
    ¬ (dropBlankEnd parts).getLast?.any isBlankText := by
  unfold dropBlankEnd at hlen ⊢
  split
  · next h =>
    rw [if_pos h] at hlen
    have hne : parts.dropLast ≠ [] := by rintro he; simp [he] at hlen
    have hparts : parts ≠ [] := by rintro rfl; simp at hne
    have hlast : (parts.getLast hparts).isText := by
      apply isText_of_isBlankText
      simpa [List.getLast?_eq_some_getLast hparts] using h.2
    have hapart := hc.rel_getLast_dropLast hne
    rw [List.getLast?_eq_some_getLast hne, Option.any_some]
    exact fun hblank => hapart ⟨isText_of_isBlankText hblank, hlast⟩
  · next h =>
    rw [if_neg h] at hlen
    exact fun hblank => h ⟨hlen, hblank⟩

theorem isNormal_ofParts {parts : List Template} (hparts : AreNormalParts parts)
    (hc : parts.IsChain Apart) (hlast : 2 ≤ parts.length → ¬ parts.getLast?.any isBlankText) :
    IsNormal (ofParts parts) := by
  match parts with
  | [] => trivial
  | [part] => exact hparts.1.2.2
  | part :: next :: rest =>
    have hlen : 2 ≤ (part :: next :: rest).length := by simp
    exact ⟨hlen, hc, hlast hlen, hparts⟩

theorem areNormalParts_dropBlankEnd_joinTexts {parts : List Template}
    (h : ∀ part ∈ parts, ¬ part.isGroup ∧ IsNormal part) :
    AreNormalParts (dropBlankEnd (joinTexts parts)) := by
  rw [areNormalParts_iff]
  intro part hmem
  obtain ⟨hne, htext | hpart⟩ := forall_mem_joinTexts parts part (dropBlankEnd_subset _ hmem)
  · obtain ⟨contents, rfl⟩ := exists_eq_text_of_isText htext
    exact ⟨by simp [isGroup], hne, trivial⟩
  · exact ⟨(h part hpart).1, hne, (h part hpart).2⟩

theorem isNormal_ofFlatParts {parts : List Template}
    (h : ∀ part ∈ parts, ¬ part.isGroup ∧ IsNormal part) : IsNormal (ofFlatParts parts) := by
  have hc := isChain_joinTexts parts
  exact isNormal_ofParts (areNormalParts_dropBlankEnd_joinTexts h) (isChain_dropBlankEnd hc)
    (not_isBlankText_getLast?_dropBlankEnd hc)

theorem depth_ofParts_le {parts : List Template} {n : Nat} (h : ∀ part ∈ parts, depth part ≤ n) :
    depth (ofParts parts) ≤ n := by
  match parts with
  | [] => simp [ofParts, depth]
  | [part] => exact h part (by simp)
  | part :: next :: rest => exact depthAll_le_iff.mpr h

theorem depth_ofFlatParts_le {parts : List Template} {n : Nat}
    (h : ∀ part ∈ parts, depth part ≤ n) : depth (ofFlatParts parts) ≤ n := by
  apply depth_ofParts_le
  intro part hmem
  obtain ⟨-, htext | hpart⟩ := forall_mem_joinTexts parts part (dropBlankEnd_subset _ hmem)
  · obtain ⟨contents, rfl⟩ := exists_eq_text_of_isText htext
    simp [depth]
  · exact h part hpart

/-! What normalizing does to a normal template. -/

theorem ofFlatParts_singleton (part : Template) : ofFlatParts [part] = part := by
  cases part with
  | text contents =>
    by_cases h : contents = "" <;> simp [ofFlatParts, joinTexts, dropBlankEnd, ofParts, h]
  | group | call => simp [ofFlatParts, joinTexts, dropBlankEnd, ofParts]

/-- A template that is no group is one part, whose scope is made normal. -/
theorem flatParts_eq_singleton {template : Template} (h : ¬ template.isGroup) :
    flatParts template = [normalize template] := by
  rw [normalize]
  match template, h with
  | text _, _ | call _ _ none, _ | call _ _ (some _), _ => rw [flatParts, ofFlatParts_singleton]

theorem normalize_of_isNormal {template : Template} (h : template.IsNormal) :
    template.normalize = template := by
  induction template with
  | text | bareCall => exact ofFlatParts_singleton _
  | group parts ih =>
    obtain ⟨hlen, hc, hlast, hparts⟩ := h
    rw [areNormalParts_iff] at hparts
    have hflat : flatPartsAll parts = parts := by
      rw [flatPartsAll_eq_flatMap]
      calc parts.flatMap flatParts = parts.flatMap fun part => [part] := by
            apply List.flatMap_congr
            intro part hmem
            rw [flatParts_eq_singleton (hparts part hmem).1, ih part hmem (hparts part hmem).2.2]
        _ = parts := List.flatMap_singleton' parts
    have hkept : dropBlankEnd parts = parts := if_neg fun hd => hlast hd.2
    have hjoined := joinTexts_of_isChain hc fun part hmem => (hparts part hmem).2.1
    rw [normalize, flatParts, hflat, ofFlatParts, hjoined, hkept]
    match parts, hlen with
    | _ :: _ :: _, _ => rfl
  | scopedCall plugin argument scope ih =>
    rw [normalize, flatParts, ofFlatParts_singleton]
    exact congrArg (fun scope => call plugin argument (some scope)) (ih h.2)

end ReplyTemplate.Template
