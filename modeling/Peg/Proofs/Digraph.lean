import Mathlib.Data.List.Basic
import Mathlib.Logic.Relation
import Mathlib.Tactic.Tauto
import Peg.Digraph

/-!
# Walks through directed graphs

A walk from a vertex visits what can be reached from there, and everything that can be reached. It
ends by itself: no more fuel is needed than there are vertices that have not been visited.
-/

namespace Peg.Digraph

/-- There is an edge between the vertices. -/
def Edge (g : Digraph) (u v : Nat) : Prop := v ∈ g.successors u

/-- There is a way from the vertex to the other one. -/
abbrev Reaches (g : Digraph) : Nat → Nat → Prop := Relation.ReflTransGen g.Edge

variable {g : Digraph} {u v : Nat} {w w' w'' : Walk}

lemma successors_eq_nil (h : g.size ≤ v) : g.successors v = [] := by
  rw [successors, Array.getElem?_eq_none h]
  rfl

lemma Edge.lt_size (h : g.Edge u v) : u < g.size := by
  by_contra hge
  simp [Edge, successors_eq_nil (Nat.le_of_not_lt hge)] at h

/-! ### Walks -/

/-- A walk that goes on: nothing visited is forgotten, what is behind a vertex visited since then
has been visited as well, and every vertex visited since then has been left. -/
structure Walk.Extends (g : Digraph) (w w' : Walk) : Prop where
  visited : w.visited ⊆ w'.visited
  closed : ∀ u ∈ w'.visited, u ∉ w.visited → ∀ v, g.Edge u v → v ∈ w'.visited
  left : ∀ u, u ∈ w'.left ↔ u ∈ w.left ∨ u ∈ w'.visited ∧ u ∉ w.visited

lemma Walk.Extends.refl (w : Walk) : Extends g w w where
  visited := List.Subset.refl _
  closed := fun u hu hnew => absurd hu hnew
  left := by simp

lemma Walk.Extends.trans (h : Extends g w w') (h' : Extends g w' w'') : Extends g w w'' where
  visited := List.Subset.trans h.visited h'.visited
  closed u hu hnew v hedge := by
    by_cases hmid : u ∈ w'.visited
    · exact h'.visited (h.closed u hmid hnew v hedge)
    · exact h'.closed u hu hmid v hedge
  left u := by
    rw [h'.left, h.left]
    have := @h.visited u
    have := @h'.visited u
    tauto

/-- The number of vertices that have not been visited. -/
def Walk.remaining (g : Digraph) (w : Walk) : Nat :=
  ((List.range g.size).filter fun v => v ∉ w.visited).length

lemma Walk.remaining_le (h : w.visited ⊆ w'.visited) : w'.remaining g ≤ w.remaining g := by
  refine (List.monotone_filter_right _ fun v hv => ?_).length_le
  simp only [decide_eq_true_eq] at hv ⊢
  exact fun hmem => hv (h hmem)

lemma Walk.remaining_lt (hv : v < g.size) (hnew : v ∉ w.visited) :
    Walk.remaining g { w with visited := v :: w.visited } < w.remaining g := by
  have hfilter : (List.range g.size).filter (fun u => u ∉ v :: w.visited) =
      ((List.range g.size).filter fun u => u ∉ w.visited).filter fun u => u ≠ v := by
    rw [List.filter_filter]
    exact List.filter_congr fun u _ => by simp
  rw [remaining, hfilter, remaining, List.length_filter_lt_length_iff_exists]
  exact ⟨v, by simp [hv, hnew], by simp⟩

/-- Steps one after the other go on with the walk, and come past all of their vertices. -/
lemma foldl_extends {bound : Nat} {step : Walk → Nat → Walk}
    (hstep : ∀ v w, w.remaining g < bound → w.Extends g (step w v) ∧ v ∈ (step w v).visited)
    (vs : List Nat) (w : Walk) (hw : w.remaining g < bound) :
    w.Extends g (vs.foldl step w) ∧ ∀ v ∈ vs, v ∈ (vs.foldl step w).visited := by
  induction vs generalizing w with
  | nil => exact ⟨.refl w, by simp⟩
  | cons v vs ih =>
    obtain ⟨hextends, hv⟩ := hstep v w hw
    obtain ⟨hrest, hvs⟩ := ih (step w v)
      (Nat.lt_of_le_of_lt (Walk.remaining_le hextends.visited) hw)
    refine ⟨hextends.trans hrest, ?_⟩
    rw [List.forall_mem_cons]
    exact ⟨hrest.visited hv, hvs⟩

/-- A vertex is left when all of its successors have been visited. -/
lemma Walk.Extends.leave (h : Walk.Extends g { w with visited := v :: w.visited } w')
    (hnew : v ∉ w.visited) (hsuccessors : ∀ u ∈ g.successors v, u ∈ w'.visited) :
    w.Extends g { w' with left := v :: w'.left } where
  visited := fun u hu => h.visited (List.mem_cons_of_mem v hu)
  closed u hu hnew x hedge := by
    by_cases huv : u = v
    · subst huv
      exact hsuccessors x hedge
    · exact h.closed u hu (by simp [huv, hnew]) x hedge
  left u := by
    have hleft := h.left u
    have hv : v ∈ w'.visited := h.visited List.mem_cons_self
    by_cases huv : u = v
    · subst huv
      simp [hv, hnew]
    · simpa [huv] using hleft

/-- A visit goes on with the walk and comes past its vertex, if there is fuel for every vertex that
has not been visited. -/
lemma visit_extends (fuel : Nat) (v : Nat) (w : Walk) (hfuel : w.remaining g < fuel) :
    w.Extends g (g.visit fuel v w) ∧ v ∈ (g.visit fuel v w).visited := by
  induction fuel generalizing v w with
  | zero => omega
  | succ fuel ih =>
    rw [visit]
    by_cases hv : v ∈ w.visited
    · rw [if_pos (by simpa using hv)]
      exact ⟨.refl w, hv⟩
    · rw [if_neg (by simpa using hv)]
      have hsuccessors : Walk.Extends g { w with visited := v :: w.visited }
            ((g.successors v).foldl (fun w u => visit g fuel u w)
              { w with visited := v :: w.visited }) ∧
          ∀ u ∈ g.successors v, u ∈ ((g.successors v).foldl (fun w u => visit g fuel u w)
            { w with visited := v :: w.visited }).visited := by
        rcases Nat.lt_or_ge v g.size with hlt | hge
        · have hless := Walk.remaining_lt hlt hv
          exact foldl_extends (fun u w hw => ih u w hw) _ _ (by omega)
        · rw [successors_eq_nil hge]
          exact ⟨.refl _, by simp⟩
      exact ⟨hsuccessors.1.leave hv hsuccessors.2, hsuccessors.1.visited List.mem_cons_self⟩

lemma Walk.remaining_le_size (w : Walk) : w.remaining g ≤ g.size := by
  have hle : w.remaining g ≤ (List.range g.size).length := List.length_filter_le _ _
  rwa [List.length_range] at hle

/-- A walk from a vertex goes on with the walk and comes past the vertex. -/
lemma walk_extends (v : Nat) (w : Walk) :
    w.Extends g (g.walk v w) ∧ v ∈ (g.walk v w).visited :=
  visit_extends (g.size + 1) v w (Nat.lt_succ_of_le w.remaining_le_size)

/-- Steps that do the same one by one do so one after the other. -/
lemma foldl_congr {bound : Nat} {step step' : Walk → Nat → Walk}
    (hstep : ∀ v w, w.remaining g < bound →
      step' w v = step w v ∧ w.visited ⊆ (step w v).visited)
    (vs : List Nat) (w : Walk) (hw : w.remaining g < bound) :
    vs.foldl step' w = vs.foldl step w := by
  induction vs generalizing w with
  | nil => rfl
  | cons v vs ih =>
    obtain ⟨heq, hsubset⟩ := hstep v w hw
    rw [List.foldl_cons, List.foldl_cons, heq]
    exact ih (step w v) (Nat.lt_of_le_of_lt (Walk.remaining_le hsubset) hw)

/-- A visit ends by itself: more fuel than there are vertices that have not been visited makes no
difference. -/
lemma visit_congr (fuel fuel' : Nat) (v : Nat) (w : Walk) (hfuel : w.remaining g < fuel)
    (hfuel' : w.remaining g < fuel') : g.visit fuel' v w = g.visit fuel v w := by
  induction fuel generalizing fuel' v w with
  | zero => omega
  | succ fuel ih =>
    obtain ⟨fuel', rfl⟩ := Nat.exists_eq_add_one_of_ne_zero (Nat.ne_zero_of_lt hfuel')
    rw [visit, visit]
    by_cases hv : v ∈ w.visited
    · rw [if_pos (by simpa using hv), if_pos (by simpa using hv)]
    · rw [if_neg (by simpa using hv), if_neg (by simpa using hv)]
      have hsuccessors : (g.successors v).foldl (fun w u => visit g fuel' u w)
            { w with visited := v :: w.visited } =
          (g.successors v).foldl (fun w u => visit g fuel u w)
            { w with visited := v :: w.visited } := by
        rcases Nat.lt_or_ge v g.size with hlt | hge
        · have hless := Walk.remaining_lt hlt hv
          have hbound : ∀ {n}, w.remaining g < n + 1 →
              Walk.remaining g { w with visited := v :: w.visited } < n := by omega
          refine @foldl_congr g (min fuel fuel') _ _ (fun u w hw => ?_) _ _
            (Nat.lt_min.mpr ⟨hbound hfuel, hbound hfuel'⟩)
          obtain ⟨hw, hw'⟩ := Nat.lt_min.mp hw
          exact ⟨ih fuel' u w hw hw', (visit_extends fuel u w hw).1.visited⟩
        · rw [successors_eq_nil hge]
          rfl
      simp only [hsuccessors]

/-! ### What a walk leaves -/

/-- Every vertex that is left in the meantime can be reached from one of the vertices. -/
def Walk.Leaves (g : Digraph) (vs : List Nat) (w w' : Walk) : Prop :=
  ∀ x ∈ w'.left, x ∈ w.left ∨ ∃ v ∈ vs, g.Reaches v x

lemma foldl_leaves {step : Walk → Nat → Walk} (hstep : ∀ v w, Walk.Leaves g [v] w (step w v))
    (vs : List Nat) (w : Walk) : w.Leaves g vs (vs.foldl step w) := by
  induction vs generalizing w with
  | nil => exact fun x hx => Or.inl hx
  | cons v vs ih =>
    intro x hx
    rcases ih (step w v) x hx with hx | ⟨u, hu, hway⟩
    · rcases hstep v w x hx with hx | ⟨u, hu, hway⟩
      · exact Or.inl hx
      · exact Or.inr ⟨u, List.mem_cons.mpr (Or.inl (List.mem_singleton.mp hu)), hway⟩
    · exact Or.inr ⟨u, List.mem_cons_of_mem v hu, hway⟩

/-- A visit leaves what can be reached from its vertex. -/
lemma visit_leaves (fuel : Nat) (v : Nat) (w : Walk) : w.Leaves g [v] (g.visit fuel v w) := by
  induction fuel generalizing v w with
  | zero => exact fun x hx => Or.inl hx
  | succ fuel ih =>
    rw [visit]
    split
    · exact fun x hx => Or.inl hx
    · intro x hx
      rcases List.mem_cons.mp hx with rfl | hx
      · exact Or.inr ⟨x, List.mem_singleton_self x, .refl⟩
      · rcases foldl_leaves ih (g.successors v) _ x hx with hx | ⟨u, hu, hway⟩
        · exact Or.inl hx
        · exact Or.inr ⟨v, List.mem_singleton_self v, .head hu hway⟩

end Peg.Digraph
