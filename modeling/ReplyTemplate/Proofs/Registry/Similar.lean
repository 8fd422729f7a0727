import ReplyTemplate.Proofs.Registry
import ReplyTemplate.Proofs.Similarity

/-! The names that a registry suggests in place of one that it does not hold. -/

namespace ReplyTemplate.Registry

open Similarity

variable {σ : Type}

theorem nodup_names (registry : Registry σ) : registry.names.Nodup :=
  registry.pairwise_lt_names.imp Std.ne_of_lt

theorem mem_names_iff_contains {registry : Registry σ} {name : String} :
    name ∈ registry.names ↔ registry.contains name := by
  rw [mem_names_iff, contains_eq_isSome_find?]

theorem suggests_similar (registry : Registry σ) (query : String) :
    Suggests Text.lower registry.names query (registry.similar query) :=
  suggests_rank registry.nodup_names

theorem similar_eq_of_mem_names {τ : Type} {registry : Registry σ} {other : Registry τ}
    (h : ∀ name, name ∈ registry.names ↔ name ∈ other.names) (query : String) :
    registry.similar query = other.similar query :=
  (registry.suggests_similar query).eq (other.suggests_similar query) h

theorem rank_eq_similar {visited : List String} {registry : Registry σ}
    (h : visited.Perm registry.names) (query : String) :
    rank Text.lower visited query = registry.similar query :=
  eq_rank_of_perm registry.nodup_names ((rank_perm Text.lower visited query).trans (h.filter _))
    (pairwise_rank (h.nodup_iff.mpr registry.nodup_names))

/-- However names are compared, those that are the query come before the longer ones that start with
it, these before the others that hold it, and these before all that only resemble it. None of the
first three groups is left out. -/
theorem pairwise_comesFirst (registry : Registry σ) (query : String) :
    (∀ fold : String → String,
      (rank fold registry.names query).Pairwise (ComesFirst fold query) ∧
      ∀ name, registry.contains name → place (fold query).toList (fold name).toList < 3 →
        name ∈ rank fold registry.names query) ∧
    registry.similar query = rank Text.lower registry.names query := by
  refine ⟨fun fold => ⟨?_, fun name hname hplace => ?_⟩, rfl⟩
  · exact (pairwise_rank registry.nodup_names).imp Outranks.comesFirst
  · exact mem_rank_iff.mpr ⟨mem_names_iff_contains.mpr hname, resembles_of_place hplace⟩

/-- One name of each group. -/
theorem pairwise_comesFirst_groups :
    let named (name : String) : Plugin Unit := .ofFunction { name } fun _ => .ok (.text "")
    let registry := ofList [named "bA", named "xAb", named "abcd", named "AB"]
    registry.similar "aB" = ["AB", "abcd", "xAb", "bA"] ∧
      ["AB", "abcd", "xAb", "bA"].Pairwise (ComesFirst Text.lower "aB") ∧
      registry.contains "abcd" ∧
      place (Text.lower "aB").toList (Text.lower "abcd").toList < 3 ∧
      "abcd" ∈ registry.similar "aB" := by
  intro named registry
  have hsimilar : ["AB", "abcd", "xAb", "bA"] = registry.similar "aB" :=
    eq_rank_of_perm registry.nodup_names (by decide +kernel) (by decide +kernel)
  have hcontains : registry.contains "abcd" := by decide +kernel
  have hplace : place (Text.lower "aB").toList (Text.lower "abcd").toList < 3 := by
    decide +kernel
  obtain ⟨hall, hlower⟩ := pairwise_comesFirst registry "aB"
  obtain ⟨hpairwise, hmem⟩ := hall Text.lower
  rw [← hlower] at hpairwise hmem
  exact ⟨hsimilar.symm, hsimilar ▸ hpairwise, hcontains, hplace, hmem _ hcontains hplace⟩

/-- The suggestions are the registered names that resemble the query, each once and strictly sorted.
They do not hang on the order in which names were registered or are met. -/
theorem similar_determined (registry : Registry σ) (query : String) :
    Suggests Text.lower registry.names query (registry.similar query) ∧
    (∀ visited : List String, visited.Perm registry.names →
      rank Text.lower visited query = registry.similar query) ∧
    (∀ {τ : Type} (other : Registry τ), (∀ name, other.contains name = registry.contains name) →
      other.similar query = registry.similar query) ∧
    ∀ history other : List (Registration σ),
      (∀ name, (∃ plugin ∈ history.flatMap Registration.plugins, plugin.name = name) ↔
        ∃ plugin ∈ other.flatMap Registration.plugins, plugin.name = name) →
      (ofHistory history).similar query = (ofHistory other).similar query := by
  refine ⟨registry.suggests_similar query, fun visited h => rank_eq_similar h query,
    fun other h => ?_, fun history other h => ?_⟩
  · apply similar_eq_of_mem_names
    intro name
    rw [mem_names_iff_contains, mem_names_iff_contains, h]
  · apply similar_eq_of_mem_names
    intro name
    rw [mem_names_ofHistory_iff, mem_names_ofHistory_iff, h]

theorem similar_determined_reordered :
    let named (name : String) : Plugin Unit := .ofFunction { name } fun _ => .ok (.text "")
    let history := [.single (named "AbC"), .library [named "xab", named "q"], .single (named "AB")]
    let other := [.library [named "AB", named "q"], .single (named "AbC"), .single (named "xab"),
      .single (named "q")]
    (ofHistory history).similar "aB" = ["AB", "AbC", "xab"] ∧
      (ofHistory history).similar "aB" = (ofHistory other).similar "aB" := by
  intro named history other
  have hnames : ∀ name, (∃ plugin ∈ history.flatMap Registration.plugins, plugin.name = name) ↔
      ∃ plugin ∈ other.flatMap Registration.plugins, plugin.name = name := by
    intro name
    rw [← List.mem_map, ← List.mem_map]
    change name ∈ ["AbC", "xab", "q", "AB"] ↔ name ∈ ["AB", "q", "AbC", "xab", "q"]
    simp only [List.mem_cons, List.not_mem_nil, or_false]
    tauto
  have hsimilar : ["AB", "AbC", "xab"] = (ofHistory history).similar "aB" :=
    eq_rank_of_perm (ofHistory history).nodup_names (by decide +kernel) (by decide +kernel)
  exact ⟨hsimilar.symm, (similar_determined (ofHistory history) "aB").2.2.2 history other hnames⟩

end ReplyTemplate.Registry
