import Mathlib.Data.List.Nodup
import Peg.Proofs.Digraph.Search

/-!
# Strongly connected components

The components part the vertices of a graph, two vertices lie in the same one if and only if there
are ways between them in both directions, and no edge leads to a later component. So a component
with two vertices or an edge from its vertex to itself contains a cycle, and there is no other
cycle.
-/

namespace Peg.Digraph

variable {g : Digraph} {u v : Nat}

lemma mem_components {c : List Nat} :
    c ∈ g.components ↔ c ∈ (g.search (g.size + 1)).components := List.mem_reverse

lemma connected_of_mem_components {c : List Nat} (hc : c ∈ g.components) (hu : u ∈ c)
    (hv : v ∈ c) : g.Connected u v :=
  ((search_sound g).exact c (mem_components.mp hc) u hu v).mp hv

lemma separate_of_mem_components {c : List Nat} (hc : c ∈ g.components) : g.Separate c :=
  fun u hu v => ((search_sound g).exact c (mem_components.mp hc) u hu v).mpr

lemma nodup_of_mem_components {c : List Nat} (hc : c ∈ g.components) : c.Nodup := by
  have hnodup := (search_sound g).nodup.of_append_right
  exact (List.nodup_flatten.mp hnodup).1 c (mem_components.mp hc)

/-- Every vertex has its component. -/
lemma exists_component (hclosed : g.Closed) (hv : v < g.size) : ∃ c ∈ g.components, v ∈ c := by
  have hplaced := ((search_sound g).placed v).mp ((discovered_search hclosed).mpr hv)
  rw [stack_search] at hplaced
  obtain ⟨c, hc, hv⟩ := List.mem_flatten.mp (hplaced.resolve_left List.not_mem_nil)
  exact ⟨c, mem_components.mpr hc, hv⟩

/-- Every vertex lies in one component, once. -/
lemma perm_components (hclosed : g.Closed) : g.components.flatten.Perm (List.range g.size) := by
  refine (List.reverse_perm _).flatten.trans ?_
  refine (List.perm_ext_iff_of_nodup (search_sound g).nodup.of_append_right
    List.nodup_range).mpr fun v => ?_
  rw [List.mem_range, ← discovered_search hclosed, (search_sound g).placed, stack_search]
  simp

lemma Ordered.edge {later earlier : List (List Nat)} {c : List Nat}
    (h : g.Ordered (later ++ c :: earlier)) (hu : u ∈ c) (hedge : g.Edge u v) :
    v ∈ c ∨ v ∈ earlier.flatten := by
  induction later with
  | nil => exact h.1 u hu v hedge
  | cons _ later ih => exact ih h.2

/-- The search for components ends by itself. The components are not empty, every vertex lies in one
of them, once, and two vertices lie in the same one if and only if there are ways between them in
both directions. An edge that leads out of a component leads to an earlier one. -/
theorem components_exact (hclosed : g.Closed) :
    (∀ s, Search.Visits g (List.range g.size) {} s ↔ s = g.search (g.size + 1)) ∧
      (∀ c ∈ g.components, c ≠ []) ∧
      g.components.flatten.Perm (List.range g.size) ∧
      (∀ c ∈ g.components, ∀ u ∈ c, ∀ v, v ∈ c ↔ g.Reaches u v ∧ g.Reaches v u) ∧
      ∀ earlier c later, g.components = earlier ++ c :: later →
        ∀ u ∈ c, ∀ v, g.Edge u v → v ∉ c → ∃ c' ∈ earlier, v ∈ c' := by
  refine ⟨fun s => visits_iff, fun c hc => ?_, perm_components hclosed, fun c hc => ?_, ?_⟩
  · exact (search_sound g).nonempty c (mem_components.mp hc)
  · exact (search_sound g).exact c (mem_components.mp hc)
  · intro earlier c later heq u hu v hedge hv
    have hordered := (search_sound g).ordered
    rw [components, List.reverse_eq_iff] at heq
    rw [heq, List.reverse_append, List.reverse_cons, List.append_assoc,
      List.singleton_append] at hordered
    have hearlier := (hordered.edge hu hedge).resolve_left hv
    rw [List.mem_flatten] at hearlier
    simpa only [List.mem_reverse] using hearlier

lemma closed_iff : g.Closed ↔ ∀ u < g.size, ∀ v ∈ g.successors u, v < g.size :=
  ⟨fun h u _ v hedge => h u v hedge, fun h u v hedge => h u hedge.lt_size v hedge⟩

/-- A graph with loops, with an edge given twice, and with a component that the search comes to from
a later one. -/
theorem components_exact_loops :
    let g := ofList [[1, 2], [0, 1, 3], [3, 1], [4, 3], [5, 4, 5], [], [2, 0]]
    g.Closed ∧ g.components = [[5], [4], [3], [2, 1, 0], [6]] ∧ g.Reaches 2 0 ∧ g.Reaches 0 2 := by
  intro g
  have hclosed : g.Closed := closed_iff.mpr (by decide)
  have hcomponents : g.components = [[5], [4], [3], [2, 1, 0], [6]] := by decide
  obtain ⟨-, -, -, hexact, -⟩ := components_exact hclosed
  have hmem : [2, 1, 0] ∈ g.components := by simp [hcomponents]
  exact ⟨hclosed, hcomponents, (hexact [2, 1, 0] hmem 2 (by simp) 0).mp (by simp)⟩

/-! ### Cycles -/

/-- From every vertex of a cyclic component a way of some edges leads to every vertex of it. -/
theorem cycle_of_cyclicComponent? {c : List Nat} (h : g.cyclicComponent? = some c) :
    c ≠ [] ∧ ∀ u ∈ c, ∀ v ∈ c, Relation.TransGen g.Edge u v := by
  have hcyclic : g.isCyclic c = true := List.find?_some h
  have hc : c ∈ g.components := List.mem_of_find?_eq_some h
  have hway : ∀ u ∈ c, ∀ v ∈ c, u ≠ v → Relation.TransGen g.Edge u v := by
    intro u hu v hv hne
    have hreaches := (connected_of_mem_components hc hu hv).1
    exact (Relation.reflTransGen_iff_eq_or_transGen.mp hreaches).resolve_left hne.symm
  match c with
  | [] => simp [isCyclic] at hcyclic
  | [v] =>
    refine ⟨List.cons_ne_nil v [], fun u hu u' hu' => ?_⟩
    obtain rfl := List.mem_singleton.mp hu
    obtain rfl := List.mem_singleton.mp hu'
    exact .single (List.contains_iff_mem.mp hcyclic)
  | first :: second :: rest =>
    have hne : first ≠ second := by
      have hnodup := nodup_of_mem_components hc
      simp only [List.nodup_cons, List.mem_cons, not_or] at hnodup
      exact hnodup.1.1
    refine ⟨List.cons_ne_nil first _, fun u hu v hv => ?_⟩
    by_cases huv : u = v
    · -- the way back to a vertex leads through any other one
      subst huv
      have hother : ∃ x ∈ first :: second :: rest, u ≠ x := by
        by_cases hfirst : u = first
        · exact ⟨second, by simp, hfirst ▸ hne⟩
        · exact ⟨first, by simp, hfirst⟩
      obtain ⟨x, hx, hux⟩ := hother
      exact (hway u hu x hx hux).trans (hway x hx u hu hux.symm)
    · exact hway u hu v hv huv

/-- A graph without a cyclic component has no cycle. -/
theorem not_cycle_of_cyclicComponent? (hclosed : g.Closed) (h : g.cyclicComponent? = none)
    (v : Nat) : ¬ Relation.TransGen g.Edge v v := by
  intro hcycle
  obtain ⟨u, hedge, hback⟩ := Relation.TransGen.head'_iff.mp hcycle
  obtain ⟨c, hc, hvc⟩ := exists_component hclosed hedge.lt_size
  have huc : u ∈ c := separate_of_mem_components hc v hvc u ⟨.single hedge, hback⟩
  rw [cyclicComponent?, List.find?_eq_none] at h
  apply h c hc
  match c with
  | [] => simp at hvc
  | [x] =>
    obtain rfl := List.mem_singleton.mp hvc
    obtain rfl := List.mem_singleton.mp huc
    exact List.contains_iff_mem.mpr hedge
  | _ :: _ :: _ => rfl

/-- There is no cyclic component if and only if there is no cycle. -/
theorem cyclicComponent?_eq_none (hclosed : g.Closed) :
    g.cyclicComponent? = none ↔ ∀ v, ¬ Relation.TransGen g.Edge v v := by
  refine ⟨not_cycle_of_cyclicComponent? hclosed, fun hacyclic => ?_⟩
  rw [Option.eq_none_iff_forall_ne_some]
  intro c hc
  obtain ⟨hne, hcycle⟩ := cycle_of_cyclicComponent? hc
  obtain ⟨v, hv⟩ := List.exists_mem_of_ne_nil c hne
  exact hacyclic v (hcycle v hv v hv)

end Peg.Digraph
