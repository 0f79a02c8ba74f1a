import Mathlib.Data.List.Nodup
import Mathlib.Data.List.Perm.Lattice
import Peg.Proofs.Digraph

/-!
# The search for components

The search ends by itself: no more vertices can be discovered than there are.

What it keeps up, while the vertices of a path are being explored: every vertex on the stack can be
reached from all that lie below it, and leads back to a vertex of the path that does not lie above
it. So a vertex that leads back to nothing below it, neither itself nor by what was explored from
it, is connected to all that lies above it on the stack, and to nothing else: whatever else it leads
to has its component already.

`Search.Sound` is the invariant. `Search.Exploring` says what is known of a vertex while the edges
from it are followed, and `Search.Explores` what is known when it is closed.
-/

namespace Peg.Digraph

variable {g : Digraph} {u v : Nat} {path done : List Nat} {s t t' : Search}

/-- There are ways between the vertices in both directions. -/
def Connected (g : Digraph) (u v : Nat) : Prop :=
  Relation.ReflTransGen g.Edge u v ∧ Relation.ReflTransGen g.Edge v u

lemma Connected.symm (h : g.Connected u v) : g.Connected v u := ⟨h.2, h.1⟩

lemma Connected.trans {x : Nat} (h : g.Connected u v) (h' : g.Connected v x) : g.Connected u x :=
  ⟨h.1.trans h'.1, h'.2.trans h.2⟩

/-- A set of vertices is not connected to any other one. -/
def Separate (g : Digraph) (vs : List Nat) : Prop :=
  ∀ u ∈ vs, ∀ v, g.Connected u v → v ∈ vs

/-- Every edge leads to a vertex of the graph. -/
def Closed (g : Digraph) : Prop := ∀ u v, g.Edge u v → v < g.size

lemma Closed.lt_of_reaches (h : g.Closed) (hv : v < g.size) (hway : g.Reaches v u) :
    u < g.size := by
  induction hway with
  | refl => exact hv
  | tail _ hedge _ => exact h _ _ hedge

/-- Edges lead from every set of vertices into the set itself and those behind it. -/
def Ordered (g : Digraph) : List (List Nat) → Prop
  | [] => True
  | c :: earlier =>
    (∀ u ∈ c, ∀ v, g.Edge u v → v ∈ c ∨ v ∈ earlier.flatten) ∧ g.Ordered earlier

lemma Ordered.mem_of_edge {components : List (List Nat)} (h : g.Ordered components)
    (hu : u ∈ components.flatten) (hedge : g.Edge u v) : v ∈ components.flatten := by
  induction components with
  | nil => exact absurd hu List.not_mem_nil
  | cons c earlier ih =>
    rw [List.flatten_cons, List.mem_append] at hu ⊢
    rcases hu with hu | hu
    · exact h.1 u hu v hedge
    · exact Or.inr (ih h.2 hu)

lemma Ordered.mem_of_reaches {components : List (List Nat)} (h : g.Ordered components)
    (hu : u ∈ components.flatten) (hway : g.Reaches u v) : v ∈ components.flatten := by
  induction hway with
  | refl => exact hu
  | tail _ hedge ih => exact h.mem_of_edge ih hedge

section

variable {α : Type} {f : Nat → α} {a : α}

@[simp] lemma assign_self : assign f v a v = a := if_pos rfl

lemma assign_of_ne (h : u ≠ v) : assign f v a u = f u := if_neg h

end

namespace Search

/-! ### Numbers -/

def Discovered (s : Search) (v : Nat) : Prop := (s.number? v).isSome = true

def number (s : Search) (v : Nat) : Nat := (s.number? v).getD 0

/-- Vertices that have a number keep it. -/
def Keeps (s t : Search) : Prop := ∀ v, s.Discovered v → t.number? v = s.number? v

lemma not_discovered : ¬ s.Discovered v ↔ s.number? v = none := by simp [Discovered]

lemma number_eq {n : Nat} (h : s.number? v = some n) : s.number v = n := by simp [number, h]

lemma Keeps.refl (s : Search) : s.Keeps s := fun _ _ => rfl

lemma Keeps.discovered (h : s.Keeps t) (hv : s.Discovered v) : t.Discovered v := by
  rw [Discovered, h v hv]
  exact hv

lemma Keeps.number_eq (h : s.Keeps t) (hv : s.Discovered v) : t.number v = s.number v := by
  rw [number, h v hv, number]

lemma Keeps.trans (h : s.Keeps t) (h' : t.Keeps t') : s.Keeps t' := fun v hv => by
  rw [h' v (h.discovered hv), h v hv]

lemma number?_discover_self : (s.discover v).number? v = some s.next := assign_self

lemma number?_discover_of_ne (h : u ≠ v) : (s.discover v).number? u = s.number? u := assign_of_ne h

lemma number_discover_self : (s.discover v).number v = s.next := number_eq number?_discover_self

lemma discovered_discover_self : (s.discover v).Discovered v := by
  rw [Discovered, number?_discover_self]
  rfl

lemma discovered_discover : (s.discover v).Discovered u ↔ u = v ∨ s.Discovered u := by
  by_cases huv : u = v
  · subst huv
    simp [discovered_discover_self]
  · rw [Discovered, number?_discover_of_ne huv, Discovered]
    simp [huv]

lemma keeps_discover (hv : ¬ s.Discovered v) : s.Keeps (s.discover v) := fun _ hu =>
  number?_discover_of_ne fun heq => hv (heq ▸ hu)

lemma keeps_lower (s : Search) (v n : Nat) : s.Keeps (s.lower v n) := Keeps.refl s

lemma keeps_close (s : Search) (v : Nat) : s.Keeps (s.close v) := by
  rw [close]
  split <;> exact Keeps.refl s

lemma keeps_follow {f : Nat → Search → Search}
    (hf : ∀ u (s : Search), ¬ s.Discovered u → s.Keeps (f u s)) (v : Nat) (s : Search) (u : Nat) :
    s.Keeps (follow f v s u) := by
  rw [follow]
  split
  · exact (hf u s (not_discovered.mpr ‹_›)).trans (keeps_lower _ _ _)
  · split
    · exact keeps_lower s v _
    · exact Keeps.refl s

lemma keeps_foldl {step : Search → Nat → Search} (hstep : ∀ (s : Search) v, s.Keeps (step s v))
    (vs : List Nat) (s : Search) : s.Keeps (vs.foldl step s) := by
  induction vs generalizing s with
  | nil => exact Keeps.refl s
  | cons v vs ih => exact (hstep s v).trans (ih (step s v))

/-! ### The end of the search -/

/-- The number of vertices that have not been discovered. -/
def remaining (g : Digraph) (s : Search) : Nat :=
  ((List.range g.size).filter fun v => (s.number? v).isNone).length

lemma remaining_le_size (s : Search) : s.remaining g ≤ g.size := by
  have hle : s.remaining g ≤ (List.range g.size).length := List.length_filter_le _ _
  rwa [List.length_range] at hle

lemma Keeps.isNone (h : s.Keeps t) (hv : (t.number? v).isNone = true) :
    (s.number? v).isNone = true := by
  rw [Option.isNone_iff_eq_none] at hv ⊢
  exact not_discovered.mp fun hmem => not_discovered.mpr hv (h.discovered hmem)

lemma Keeps.remaining_le (h : s.Keeps t) : t.remaining g ≤ s.remaining g :=
  (List.monotone_filter_right _ fun _ => h.isNone).length_le

lemma Keeps.remaining_lt (h : s.Keeps t) (hv : v < g.size) (hnew : ¬ s.Discovered v)
    (hdiscovered : t.Discovered v) : t.remaining g < s.remaining g := by
  have hfilter : (List.range g.size).filter (fun u => (t.number? u).isNone) =
      ((List.range g.size).filter fun u => (s.number? u).isNone).filter
        fun u => (t.number? u).isNone := by
    rw [List.filter_filter]
    refine List.filter_congr fun u _ => ?_
    cases hu : (t.number? u).isNone with
    | false => rfl
    | true => rw [h.isNone hu, Bool.and_self]
  rw [remaining, hfilter, remaining, List.length_filter_lt_length_iff_exists]
  refine ⟨v, ?_, ?_⟩
  · simpa [hv] using not_discovered.mp hnew
  · simpa using Option.isSome_iff_ne_none.mp hdiscovered

lemma remaining_discover_lt (hv : v < g.size) (hnew : ¬ s.Discovered v) :
    (s.discover v).remaining g < s.remaining g :=
  (keeps_discover hnew).remaining_lt hv hnew discovered_discover_self

end Search

lemma connect_keeps (fuel v : Nat) (s : Search) (hv : ¬ s.Discovered v) :
    s.Keeps (g.connect fuel v s) := by
  induction fuel generalizing v s with
  | zero => exact .refl s
  | succ fuel ih =>
    refine ((Search.keeps_discover hv).trans ?_).trans (Search.keeps_close _ v)
    exact Search.keeps_foldl (Search.keeps_follow ih v) _ _

namespace Search

/-- The edges from the vertex to the others have been followed, without any bound: `t` is the
search after that. -/
inductive Follows (g : Digraph) : Nat → List Nat → Search → Search → Prop where
  | nil {v : Nat} {s : Search} : Follows g v [] s s
  | connect {v u : Nat} {us : List Nat} {s t t' : Search} (hnew : s.number? u = none)
      (h : Follows g u (g.successors u) (s.discover u) t)
      (hrest : Follows g v us ((t.close u).lower v ((t.close u).low u)) t') :
      Follows g v (u :: us) s t'
  | lower {v u n : Nat} {us : List Nat} {s t : Search} (hnumber : s.number? u = some n)
      (hstack : s.onStack u = true) (hrest : Follows g v us (s.lower v n) t) :
      Follows g v (u :: us) s t
  | skip {v u n : Nat} {us : List Nat} {s t : Search} (hnumber : s.number? u = some n)
      (hstack : s.onStack u = false) (hrest : Follows g v us s t) :
      Follows g v (u :: us) s t

/-- The vertices have been visited, without any bound: `t` is the search after that. -/
inductive Visits (g : Digraph) : List Nat → Search → Search → Prop where
  | nil {s : Search} : Visits g [] s s
  | connect {v : Nat} {vs : List Nat} {s t t' : Search} (hnew : s.number? v = none)
      (h : Follows g v (g.successors v) (s.discover v) t) (hrest : Visits g vs (t.close v) t') :
      Visits g (v :: vs) s t'
  | skip {v n : Nat} {vs : List Nat} {s t : Search} (hnumber : s.number? v = some n)
      (hrest : Visits g vs s t) : Visits g (v :: vs) s t

/-- The search from a vertex ends, if there is fuel for every vertex that has not been
discovered. -/
lemma follows_connect (fuel v : Nat) (us : List Nat) (s : Search) (hfuel : s.remaining g < fuel) :
    Follows g v us s (us.foldl (follow (g.connect fuel) v) s) := by
  induction fuel generalizing v us s with
  | zero => omega
  | succ fuel ih =>
    induction us generalizing s with
    | nil => exact .nil
    | cons u us ihus =>
      have hkeeps := keeps_follow (connect_keeps (g := g) (fuel + 1)) v s u
      have hrest := ihus _ (Nat.lt_of_le_of_lt hkeeps.remaining_le hfuel)
      rw [List.foldl_cons]
      cases hnumber : s.number? u with
      | none =>
        simp only [follow, hnumber] at hrest ⊢
        refine .connect hnumber ?_ hrest
        rcases Nat.lt_or_ge u g.size with hlt | hge
        · have hless := remaining_discover_lt hlt (not_discovered.mpr hnumber)
          exact ih u (g.successors u) _ (by omega)
        · rw [successors_eq_nil hge]
          exact .nil
      | some n =>
        cases hstack : s.onStack u with
        | false =>
          refine .skip hnumber hstack ?_
          simpa [follow, hnumber, hstack] using hrest
        | true =>
          refine .lower hnumber hstack ?_
          simpa [follow, hnumber, hstack] using hrest

/-- How edges are followed is determined. -/
lemma Follows.unique {us : List Nat} (h : Follows g v us s t) (h' : Follows g v us s t') :
    t = t' := by
  induction h generalizing t' with
  | nil =>
    cases h'
    rfl
  | connect hnew _ _ ih ihrest =>
    cases h' with
    | connect _ h' hrest' => exact ihrest (ih h' ▸ hrest')
    | lower hnumber => simp [hnew] at hnumber
    | skip hnumber => simp [hnew] at hnumber
  | lower hnumber hstack _ ihrest =>
    cases h' with
    | connect hnew => simp [hnumber] at hnew
    | lower hnumber' _ hrest' =>
      obtain rfl := Option.some.inj (hnumber.symm.trans hnumber')
      exact ihrest hrest'
    | skip _ hstack' => simp [hstack] at hstack'
  | skip hnumber hstack _ ihrest =>
    cases h' with
    | connect hnew => simp [hnumber] at hnew
    | lower _ hstack' => simp [hstack] at hstack'
    | skip _ _ hrest' => exact ihrest hrest'

lemma Visits.unique {vs : List Nat} (h : Visits g vs s t) (h' : Visits g vs s t') : t = t' := by
  induction h generalizing t' with
  | nil =>
    cases h'
    rfl
  | connect hnew h _ ihrest =>
    cases h' with
    | connect _ h' hrest' => exact ihrest (h.unique h' ▸ hrest')
    | skip hnumber => simp [hnew] at hnumber
  | skip hnumber _ ihrest =>
    cases h' with
    | connect hnew => simp [hnumber] at hnew
    | skip _ hrest' => exact ihrest hrest'

lemma visits_foldl (vs : List Nat) (s : Search) :
    Visits g vs s (vs.foldl
      (fun s v => if (s.number? v).isSome then s else g.connect (g.size + 1) v s) s) := by
  induction vs generalizing s with
  | nil => exact .nil
  | cons v vs ih =>
    rw [List.foldl_cons]
    cases hnumber : s.number? v with
    | none =>
      rw [Option.isSome_none, if_neg Bool.false_ne_true]
      refine .connect hnumber ?_ (ih _)
      rcases Nat.lt_or_ge v g.size with hlt | hge
      · have hless := remaining_discover_lt hlt (not_discovered.mpr hnumber)
        have hle := s.remaining_le_size (g := g)
        exact follows_connect g.size v (g.successors v) _ (by omega)
      · rw [successors_eq_nil hge]
        exact .nil
    | some n =>
      rw [Option.isSome_some, if_pos rfl]
      exact .skip hnumber (ih s)

end Search

/-- The search ends by itself, and in one way only. -/
lemma visits_iff : Search.Visits g (List.range g.size) {} s ↔ s = g.search (g.size + 1) := by
  have hsearch := Search.visits_foldl (g := g) (List.range g.size) {}
  refine ⟨fun h => h.unique hsearch, ?_⟩
  rintro rfl
  exact hsearch

namespace Search

/-! ### The invariant -/

/-- What is known while the vertices of a path are explored. -/
structure Sound (g : Digraph) (path : List Nat) (s : Search) : Prop where
  number_lt : ∀ v ∈ s.stack, s.number v < s.next
  sorted : s.stack.Pairwise fun u v => s.number v < s.number u
  placed : ∀ v, s.Discovered v ↔ v ∈ s.stack ∨ v ∈ s.components.flatten
  nodup : (s.stack ++ s.components.flatten).Nodup
  onStack : ∀ v, s.onStack v = true ↔ v ∈ s.stack
  path_subset : path ⊆ s.stack
  closed : ∀ u, s.Discovered u → u ∉ path → ∀ v, g.Edge u v → s.Discovered v
  /-- A vertex can be reached from those below it. -/
  below : s.stack.Pairwise fun u v => g.Reaches v u
  /-- A vertex leads back to the path. -/
  leads : ∀ u ∈ s.stack, ∃ v ∈ path, s.number v ≤ s.number u ∧ g.Reaches u v
  nonempty : ∀ c ∈ s.components, c ≠ []
  exact : ∀ c ∈ s.components, ∀ u ∈ c, ∀ v, v ∈ c ↔ g.Connected u v
  ordered : g.Ordered s.components

/-- What is known of a vertex when it has been closed: `s` is the search when it was discovered. -/
structure Explores (g : Digraph) (path : List Nat) (s : Search) (v : Nat) (t : Search) : Prop where
  sound : t.Sound g path
  stack : s.stack <:+ t.stack
  keeps : s.Keeps t
  low_eq : ∀ u, s.Discovered u → t.low u = s.low u
  discovered : t.Discovered v
  reached : ∀ u, t.Discovered u → s.Discovered u ∨ g.Reaches v u
  /-- No edge leads from the vertices added to the stack to a smaller number than `low`. -/
  cross : ∀ x ∈ t.stack, x ∉ s.stack → ∀ y ∈ s.stack, g.Edge x y → t.low v ≤ t.number y
  /-- The vertex leads back to this number, or it has its component. -/
  result : (∃ y ∈ s.stack, t.number y = t.low v ∧ g.Reaches v y) ∨
    t.stack = s.stack ∧ s.next ≤ t.low v

/-- What is known of a vertex when the edges to the vertices `done` have been followed: `s` is the
search when it was discovered. -/
structure Exploring (g : Digraph) (path : List Nat) (s : Search) (v : Nat) (done : List Nat)
    (t : Search) : Prop where
  fresh : ¬ s.Discovered v
  sound : t.Sound g (v :: path)
  stack : v :: s.stack <:+ t.stack
  keeps : s.Keeps t
  low_eq : ∀ u, s.Discovered u → t.low u = s.low u
  number : t.number? v = some s.next
  reached : ∀ u, t.Discovered u → s.Discovered u ∨ g.Reaches v u
  followed : ∀ u ∈ done, t.Discovered u
  low_le : t.low v ≤ s.next
  witness : ∃ y ∈ t.stack, t.number y = t.low v ∧ g.Reaches v y
  cross : ∀ x ∈ t.stack, x ∉ s.stack → ∀ y ∈ s.stack, g.Edge x y → (x = v → y ∈ done) →
    t.low v ≤ t.number y

lemma Sound.discovered (h : s.Sound g path) (hv : v ∈ s.stack) : s.Discovered v :=
  (h.placed v).mpr (Or.inl hv)

lemma Sound.lower (h : s.Sound g path) (v n : Nat) : (s.lower v n).Sound g path := by
  constructor
  exacts [h.number_lt, h.sorted, h.placed, h.nodup, h.onStack, h.path_subset, h.closed, h.below,
    h.leads, h.nonempty, h.exact, h.ordered]

/-! ### Discovering a vertex -/

/-- The vertex is put on the path, if it can be reached from there. -/
lemma Sound.discover (h : s.Sound g path) (hv : ¬ s.Discovered v)
    (hpath : ∀ x ∈ path, g.Reaches x v) : (s.discover v).Sound g (v :: path) := by
  have hnumber : ∀ u ∈ s.stack, (s.discover v).number u = s.number u := fun u hu =>
    (keeps_discover hv).number_eq (h.discovered hu)
  have hnot : v ∉ s.stack ++ s.components.flatten := by
    rw [List.mem_append, ← h.placed]
    exact hv
  constructor
  case number_lt =>
    refine List.forall_mem_cons.mpr ⟨?_, fun u hu => ?_⟩
    · rw [number_discover_self]
      exact Nat.lt_succ_self _
    · rw [hnumber u hu]
      exact Nat.lt_succ_of_lt (h.number_lt u hu)
  case sorted =>
    refine List.pairwise_cons.mpr ⟨fun u hu => ?_, h.sorted.imp_of_mem fun hu hx hlt => ?_⟩
    · rw [hnumber u hu, number_discover_self]
      exact h.number_lt u hu
    · rwa [hnumber _ hu, hnumber _ hx]
  case placed =>
    intro u
    rw [discovered_discover, h.placed, ← or_assoc]
    exact or_congr_left List.mem_cons.symm
  case nodup => exact List.nodup_cons.mpr ⟨hnot, h.nodup⟩
  case onStack =>
    intro u
    by_cases huv : u = v
    · subst huv
      simp [Search.discover]
    · simp [Search.discover, assign_of_ne huv, huv, h.onStack]
  case path_subset => exact List.cons_subset_cons v h.path_subset
  case closed =>
    intro u hu hne x hedge
    rw [List.mem_cons, not_or] at hne
    rw [discovered_discover] at hu ⊢
    exact Or.inr (h.closed u (hu.resolve_left hne.1) hne.2 x hedge)
  case below =>
    refine List.pairwise_cons.mpr ⟨fun u hu => ?_, h.below⟩
    obtain ⟨x, hx, -, hway⟩ := h.leads u hu
    exact hway.trans (hpath x hx)
  case leads =>
    refine List.forall_mem_cons.mpr ⟨⟨v, List.mem_cons_self, Nat.le_refl _, .refl⟩, fun u hu => ?_⟩
    obtain ⟨x, hx, hle, hway⟩ := h.leads u hu
    refine ⟨x, List.mem_cons_of_mem v hx, ?_, hway⟩
    rwa [hnumber u hu, hnumber x (h.path_subset hx)]
  case nonempty => exact h.nonempty
  case exact => exact h.exact
  case ordered => exact h.ordered

lemma Sound.exploring (h : s.Sound g path) (hv : ¬ s.Discovered v)
    (hpath : ∀ x ∈ path, g.Reaches x v) : Exploring g path s v [] (s.discover v) := by
  have hlow : (s.discover v).low v = s.next := assign_self
  constructor
  case fresh => exact hv
  case sound => exact h.discover hv hpath
  case stack => exact List.suffix_rfl
  case keeps => exact keeps_discover hv
  case low_eq =>
    intro u hu
    have hne : u ≠ v := fun heq => hv (heq ▸ hu)
    exact assign_of_ne hne
  case number => exact number?_discover_self
  case reached =>
    intro u hu
    rcases discovered_discover.mp hu with rfl | hu
    · exact Or.inr .refl
    · exact Or.inl hu
  case followed => exact List.forall_mem_nil _
  case low_le => exact Nat.le_of_eq hlow
  case witness => exact ⟨v, List.mem_cons_self, number_discover_self.trans hlow.symm, .refl⟩
  case cross =>
    -- the vertex itself is the only one added, and no edge from it has been followed
    intro x hx hnew y _ _ hdone
    obtain rfl := (List.mem_cons.mp hx).resolve_right hnew
    exact absurd (hdone rfl) List.not_mem_nil

/-! ### Following an edge -/

lemma Exploring.discovered (h : Exploring g path s v done t) : t.Discovered v := by
  rw [Discovered, h.number]
  rfl

lemma Exploring.number_eq (h : Exploring g path s v done t) : t.number v = s.next :=
  Search.number_eq h.number

lemma Exploring.next_lt (h : Exploring g path s v done t) : s.next < t.next := by
  have hlt := h.sound.number_lt v (h.sound.path_subset List.mem_cons_self)
  rwa [h.number_eq] at hlt

lemma low_lower_self {n : Nat} : (s.lower v n).low v = min (s.low v) n := assign_self

lemma Exploring.low_lower (h : Exploring g path s v done t) (hu : s.Discovered u) (t : Search)
    (n : Nat) : (t.lower v n).low u = t.low u :=
  assign_of_ne fun heq => h.fresh (heq ▸ hu)

/-- An edge that leads back to a vertex on the stack. -/
lemma Exploring.lower (h : Exploring g path s v done t) (hedge : g.Edge v u) (hu : u ∈ t.stack) :
    Exploring g path s v (u :: done) (t.lower v (t.number u)) := by
  have hlow : (t.lower v (t.number u)).low v = min (t.low v) (t.number u) := low_lower_self
  constructor
  case fresh => exact h.fresh
  case sound => exact h.sound.lower v _
  case stack => exact h.stack
  case keeps => exact h.keeps
  case low_eq => exact fun x hx => (h.low_lower hx t _).trans (h.low_eq x hx)
  case number => exact h.number
  case reached => exact h.reached
  case followed => exact List.forall_mem_cons.mpr ⟨h.sound.discovered hu, h.followed⟩
  case low_le => exact hlow ▸ Nat.le_trans (Nat.min_le_left _ _) h.low_le
  case witness =>
    rcases Nat.le_total (t.low v) (t.number u) with hle | hle
    · rw [hlow, Nat.min_eq_left hle]
      exact h.witness
    · rw [hlow, Nat.min_eq_right hle]
      exact ⟨u, hu, rfl, .single hedge⟩
  case cross =>
    intro x hx hnew y hy hxy hdone
    rw [hlow]
    by_cases hyu : y = u
    · exact hyu ▸ Nat.min_le_right _ _
    · refine Nat.le_trans (Nat.min_le_left _ _) (h.cross x hx hnew y hy hxy fun hxv => ?_)
      exact (List.mem_cons.mp (hdone hxv)).resolve_left hyu

/-- An edge to a vertex that has its component. -/
lemma Exploring.skip (h : Exploring g path s v done t) (hdiscovered : t.Discovered u)
    (hu : u ∉ t.stack) : Exploring g path s v (u :: done) t where
  __ := h
  followed := List.forall_mem_cons.mpr ⟨hdiscovered, h.followed⟩
  cross x hx hnew y hy hxy hdone := by
    refine h.cross x hx hnew y hy hxy fun hxv => (List.mem_cons.mp (hdone hxv)).resolve_left ?_
    rintro rfl
    exact hu (h.stack.subset (List.mem_cons_of_mem v hy))

/-- An edge to a vertex that is discovered and closed. -/
lemma Exploring.connect (h : Exploring g path s v done t) (hedge : g.Edge v u)
    (hu : ¬ t.Discovered u) (h' : Explores g (v :: path) t u t') :
    Exploring g path s v (u :: done) (t'.lower v (t'.low u)) := by
  have hlow : (t'.lower v (t'.low u)).low v = min (t.low v) (t'.low u) := by
    rw [low_lower_self, h'.low_eq v h.discovered]
  have hnumber : ∀ y ∈ t.stack, t'.number y = t.number y := fun y hy =>
    h'.keeps.number_eq (h.sound.discovered hy)
  constructor
  case fresh => exact h.fresh
  case sound => exact h'.sound.lower v _
  case stack => exact h.stack.trans h'.stack
  case keeps => exact h.keeps.trans h'.keeps
  case low_eq =>
    intro x hx
    rw [h.low_lower hx, h'.low_eq x (h.keeps.discovered hx), h.low_eq x hx]
  case number => exact (h'.keeps v h.discovered).trans h.number
  case reached =>
    intro x hx
    rcases h'.reached x hx with hx | hway
    · exact h.reached x hx
    · exact Or.inr (.head hedge hway)
  case followed =>
    exact List.forall_mem_cons.mpr
      ⟨h'.discovered, fun x hx => h'.keeps.discovered (h.followed x hx)⟩
  case low_le => exact hlow ▸ Nat.le_trans (Nat.min_le_left _ _) h.low_le
  case witness =>
    rw [hlow]
    rcases Nat.le_total (t.low v) (t'.low u) with hle | hle
    · obtain ⟨y, hy, heq, hway⟩ := h.witness
      exact ⟨y, h'.stack.subset hy, by rw [Nat.min_eq_left hle, ← heq]; exact hnumber y hy, hway⟩
    · rcases h'.result with ⟨y, hy, heq, hway⟩ | ⟨-, hnext⟩
      · exact ⟨y, h'.stack.subset hy, by rw [Nat.min_eq_right hle, ← heq]; rfl, .head hedge hway⟩
      · have := h.low_le
        have := h.next_lt
        omega
  case cross =>
    intro x hx hnew y hy hxy hdone
    have hy' : y ∈ t.stack := h.stack.subset (List.mem_cons_of_mem v hy)
    rw [hlow]
    by_cases hx' : x ∈ t.stack
    · have hle : t.low v ≤ t.number y := by
        refine h.cross x hx' hnew y hy hxy fun hxv => (List.mem_cons.mp (hdone hxv)).resolve_left ?_
        exact fun hyu => hu (hyu ▸ h.sound.discovered hy')
      exact Nat.le_trans (Nat.min_le_left _ _) (hnumber y hy' ▸ hle)
    · exact Nat.le_trans (Nat.min_le_right _ _) (h'.cross x hx hx' y hy' hxy)

/-- One more edge is followed. -/
lemma Exploring.follow {f : Nat → Search → Search} (h : Exploring g path s v done t)
    (hedge : g.Edge v u)
    (hf : ¬ t.Discovered u → Explores g (v :: path) t u (f u t)) :
    Exploring g path s v (u :: done) (Search.follow f v t u) := by
  rw [Search.follow]
  split
  case h_1 hnone =>
    have hnew := not_discovered.mpr hnone
    exact h.connect hedge hnew (hf hnew)
  case h_2 n hsome =>
    split
    case isTrue hstack =>
      rw [← Search.number_eq hsome]
      exact h.lower hedge ((h.sound.onStack u).mp hstack)
    case isFalse hstack =>
      exact h.skip (by simp [Discovered, hsome]) fun hu => hstack ((h.sound.onStack u).mpr hu)

/-! ### Closing a vertex -/

lemma popThrough_append {above rest : List Nat} (h : v ∉ above) :
    popThrough v (above ++ v :: rest) = (above ++ [v], rest) := by
  induction above with
  | nil => simp [popThrough]
  | cons u above ih =>
    rw [List.mem_cons, not_or] at h
    simp [popThrough, Ne.symm h.1, ih h.2]

section

variable {above : List Nat}

lemma Exploring.closed (h : Exploring g path s v (g.successors v) t) (u : Nat)
    (hu : t.Discovered u) (hpath : u ∉ path) (x : Nat) (hedge : g.Edge u x) : t.Discovered x := by
  by_cases huv : u = v
  · exact h.followed x (huv ▸ hedge)
  · exact h.sound.closed u hu (by simp [huv, hpath]) x hedge

lemma Exploring.number_of_mem (h : Exploring g path s v done t) (hs : s.Sound g path)
    (hu : u ∈ s.stack) : t.number u = s.number u ∧ s.number u < s.next :=
  ⟨h.keeps.number_eq (hs.discovered hu), hs.number_lt u hu⟩

/-- What lies above the vertex has a larger number. -/
lemma Exploring.number_of_mem_above (h : Exploring g path s v done t)
    (habove : above ++ v :: s.stack = t.stack) (hu : u ∈ above) : s.next < t.number u := by
  have hsorted := h.sound.sorted
  rw [← habove, List.pairwise_append] at hsorted
  have hlt := hsorted.2.2 u hu v List.mem_cons_self
  rwa [h.number_eq] at hlt

/-- A vertex that leads back to a smaller number keeps its place on the stack. -/
lemma Exploring.keep (h : Exploring g path s v (g.successors v) t) (hs : s.Sound g path)
    (hlow : t.low v < s.next) : Explores g path s v t := by
  obtain ⟨above, habove⟩ := h.stack
  obtain ⟨y, hy, heq, hway⟩ := h.witness
  have hback : y ∈ s.stack := by
    rw [← habove, List.mem_append, List.mem_cons] at hy
    rcases hy with hy | rfl | hy
    · have := h.number_of_mem_above habove hy
      omega
    · have := h.number_eq
      omega
    · exact hy
  obtain ⟨z, hz, hzy, hyz⟩ := hs.leads y hback
  constructor
  case sound =>
    refine { h.sound with
      path_subset := fun x hx => h.sound.path_subset (List.mem_cons_of_mem v hx)
      closed := h.closed
      leads := fun u hu => ?_ }
    obtain ⟨x, hx, hle, hux⟩ := h.sound.leads u hu
    rcases List.mem_cons.mp hx with rfl | hx
    · -- instead of the vertex itself, what it leads back to
      refine ⟨z, hz, ?_, hux.trans (hway.trans hyz)⟩
      have := h.number_eq
      have := h.number_of_mem hs hback
      have := h.number_of_mem hs (hs.path_subset hz)
      omega
    · exact ⟨x, hx, hle, hux⟩
  case stack => exact (List.suffix_cons v s.stack).trans h.stack
  case keeps => exact h.keeps
  case low_eq => exact h.low_eq
  case discovered => exact h.discovered
  case reached => exact h.reached
  case cross => exact fun x hx hnew y hy hxy => h.cross x hx hnew y hy hxy fun hxv => hxv ▸ hxy
  case result => exact Or.inl ⟨y, hback, heq, hway⟩

/-- What lies above the vertex is connected to it. -/
lemma Exploring.connected (h : Exploring g path s v done t) (hpath : ∀ x ∈ path, g.Reaches x v)
    (habove : above ++ v :: s.stack = t.stack) (hu : u ∈ above ++ [v]) : g.Connected v u := by
  rw [List.mem_append, List.mem_singleton] at hu
  have hmem : u ∈ t.stack := by
    rw [← habove]
    simp only [List.mem_append, List.mem_cons]
    tauto
  refine ⟨?_, ?_⟩
  · rcases hu with hu | rfl
    · have hbelow := h.sound.below
      rw [← habove, List.pairwise_append] at hbelow
      exact hbelow.2.2 u hu v List.mem_cons_self
    · exact .refl
  · obtain ⟨x, hx, -, hway⟩ := h.sound.leads u hmem
    rcases List.mem_cons.mp hx with rfl | hx
    · exact hway
    · exact hway.trans (hpath x hx)

/-- If the vertex leads back to nothing below it, no edge leads from what lies above it to what lies
below it. -/
lemma Exploring.edge (h : Exploring g path s v (g.successors v) t) (hs : s.Sound g path)
    (hlow : s.next ≤ t.low v) (habove : above ++ v :: s.stack = t.stack) (hu : u ∈ above ++ [v])
    {x : Nat} (hedge : g.Edge u x) : x ∈ above ++ [v] ∨ x ∈ t.components.flatten := by
  have hnodup : (above ++ [v] ++ s.stack).Nodup := by
    have hnodup := h.sound.nodup.of_append_left
    rwa [← habove, List.append_cons] at hnodup
  have hstack : ∀ y, y ∈ t.stack ↔ y ∈ above ++ [v] ∨ y ∈ s.stack := by
    intro y
    rw [← habove, List.append_cons, List.mem_append]
  have hnew : u ∉ s.stack := (List.disjoint_of_nodup_append hnodup) hu
  have hdiscovered : t.Discovered u := h.sound.discovered ((hstack u).mpr (Or.inl hu))
  have hx := h.closed u hdiscovered (fun hpath => hnew (hs.path_subset hpath)) x hedge
  rw [h.sound.placed, hstack] at hx
  rcases hx with (hx | hx) | hx
  · exact Or.inl hx
  · have hle := h.cross u ((hstack u).mpr (Or.inl hu)) hnew x hx hedge fun huv => huv ▸ hedge
    have := h.number_of_mem hs hx
    omega
  · exact Or.inr hx

/-- The search goes on when a component has been taken from the stack. -/
lemma Exploring.sound_pop {c : List Nat} (h : Exploring g path s v (g.successors v) t)
    (hs : s.Sound g path) (hc : c ++ s.stack = t.stack) (hne : c ≠ [])
    (hconnected : ∀ u ∈ c, g.Connected v u)
    (hedge : ∀ u ∈ c, ∀ x, g.Edge u x → x ∈ c ∨ x ∈ t.components.flatten) :
    Sound g path { t with
      stack := s.stack
      onStack := fun u => t.onStack u && !c.contains u
      components := c :: t.components } := by
  have hsuffix : s.stack <:+ t.stack := ⟨c, hc⟩
  have hnodup : (c ++ (s.stack ++ t.components.flatten)).Nodup := by
    rw [← List.append_assoc, hc]
    exact h.sound.nodup
  have hordered : g.Ordered (c :: t.components) := ⟨hedge, h.sound.ordered⟩
  constructor
  case number_lt => exact fun u hu => h.sound.number_lt u (hsuffix.subset hu)
  case sorted => exact h.sound.sorted.sublist hsuffix.sublist
  case placed =>
    intro u
    refine (h.sound.placed u).trans ?_
    rw [← hc, List.flatten_cons, List.mem_append, List.mem_append]
    tauto
  case nodup =>
    refine hnodup.perm ?_
    rw [List.flatten_cons, ← List.append_assoc, ← List.append_assoc]
    exact List.perm_append_comm.append_right _
  case onStack =>
    intro u
    have hdisjoint : u ∈ s.stack → u ∉ c := fun hu hu' =>
      List.disjoint_of_nodup_append hnodup hu' (List.mem_append_left _ hu)
    have hu := h.sound.onStack u
    rw [← hc, List.mem_append] at hu
    simp only [Bool.and_eq_true, Bool.not_eq_true', hu, ← Bool.not_eq_true, List.contains_iff_mem]
    tauto
  case path_subset => exact hs.path_subset
  case closed => exact h.closed
  case below => exact hs.below
  case leads =>
    intro u hu
    obtain ⟨x, hx, hle, hway⟩ := hs.leads u hu
    refine ⟨x, hx, ?_, hway⟩
    rwa [← (h.number_of_mem hs hu).1, ← (h.number_of_mem hs (hs.path_subset hx)).1] at hle
  case nonempty => exact List.forall_mem_cons.mpr ⟨hne, h.sound.nonempty⟩
  case exact =>
    refine List.forall_mem_cons.mpr ⟨fun u hu x => ⟨fun hx => ?_, fun hux => ?_⟩, h.sound.exact⟩
    · exact (hconnected u hu).symm.trans (hconnected x hx)
    · -- there is no way back from an earlier component
      have hx : x ∈ (c :: t.components).flatten :=
        hordered.mem_of_reaches (List.mem_append_left _ hu) hux.1
      refine (List.mem_append.mp hx).resolve_right fun hx => ?_
      have hback := h.sound.ordered.mem_of_reaches hx hux.2
      exact List.disjoint_of_nodup_append hnodup hu (List.mem_append_right _ hback)
  case ordered => exact hordered

/-- A vertex that leads back to nothing below it takes its component from the stack. -/
lemma Exploring.pop (h : Exploring g path s v (g.successors v) t) (hs : s.Sound g path)
    (hpath : ∀ x ∈ path, g.Reaches x v) (hlow : t.low v = s.next) :
    Explores g path s v (t.close v) := by
  obtain ⟨above, habove⟩ := h.stack
  have hpop : popThrough v t.stack = (above ++ [v], s.stack) := by
    rw [← habove]
    refine popThrough_append fun hmem => ?_
    have := h.number_of_mem_above habove hmem
    have := h.number_eq
    omega
  rw [close, if_pos (h.number.trans (congrArg some hlow.symm)), hpop]
  constructor
  case sound =>
    refine h.sound_pop hs ?_ (by simp) (fun u hu => h.connected hpath habove hu)
      fun u hu x hedge => h.edge hs (Nat.le_of_eq hlow.symm) habove hu hedge
    rw [← habove]
    exact (List.append_cons above v s.stack).symm
  case stack => exact List.suffix_rfl
  case keeps => exact h.keeps
  case low_eq => exact h.low_eq
  case discovered => exact h.discovered
  case reached => exact h.reached
  case cross => exact fun x hx hnew => absurd hx hnew
  case result => exact Or.inr ⟨rfl, Nat.le_of_eq hlow.symm⟩

/-- A vertex from which all edges have been followed is closed. -/
lemma Exploring.close (h : Exploring g path s v (g.successors v) t) (hs : s.Sound g path)
    (hpath : ∀ x ∈ path, g.Reaches x v) : Explores g path s v (t.close v) := by
  rcases Nat.lt_or_eq_of_le h.low_le with hlow | hlow
  · have hne : t.number? v ≠ some (t.low v) := by
      rw [h.number]
      exact fun heq => Nat.ne_of_gt hlow (Option.some.inj heq)
    rw [Search.close, if_neg hne]
    exact h.keep hs hlow
  · exact h.pop hs hpath hlow

end

/-! ### The run of the search -/

lemma Exploring.subset {done' : List Nat} (h : Exploring g path s v done t) (hsub : done' ⊆ done) :
    Exploring g path s v done' t where
  __ := h
  followed := fun u hu => h.followed u (hsub hu)
  cross := fun x hx hnew y hy hxy hdone => h.cross x hx hnew y hy hxy fun hxv => hsub (hdone hxv)

/-- Edges are followed one after the other. -/
lemma Exploring.foldl {bound : Nat} {f : Nat → Search → Search}
    (hkeeps : ∀ u (s : Search), ¬ s.Discovered u → s.Keeps (f u s))
    (hf : ∀ u (t : Search), ¬ t.Discovered u → t.remaining g < bound → t.Sound g (v :: path) →
      (∀ x ∈ v :: path, g.Reaches x u) → Explores g (v :: path) t u (f u t))
    (hpath : ∀ x ∈ path, g.Reaches x v) (us : List Nat) (hus : us ⊆ g.successors v)
    (h : Exploring g path s v done t) (ht : t.remaining g < bound) :
    Exploring g path s v (us.reverse ++ done) (us.foldl (Search.follow f v) t) := by
  induction us generalizing done t with
  | nil => exact h
  | cons u us ih =>
    obtain ⟨hedge, hus⟩ := List.cons_subset.mp hus
    have hway : ∀ x ∈ v :: path, g.Reaches x u :=
      List.forall_mem_cons.mpr ⟨.single hedge, fun x hx => (hpath x hx).tail hedge⟩
    have hfollow := h.follow hedge fun hu => hf u t hu ht h.sound hway
    have hless := (keeps_follow hkeeps v t u).remaining_le (g := g)
    rw [List.foldl_cons, List.reverse_cons, List.append_assoc]
    exact ih hus hfollow (Nat.lt_of_le_of_lt hless ht)

end Search

/-- A vertex is explored, if there is fuel for every vertex that has not been discovered. -/
lemma connect_explores (fuel v : Nat) (s : Search) (hv : ¬ s.Discovered v)
    (hfuel : s.remaining g < fuel) (hs : s.Sound g path) (hpath : ∀ x ∈ path, g.Reaches x v) :
    s.Explores g path v (g.connect fuel v s) := by
  induction fuel generalizing v s path with
  | zero => omega
  | succ fuel ih =>
    rw [connect]
    refine Search.Exploring.close ?_ hs hpath
    have hexploring := hs.exploring hv hpath
    rcases Nat.lt_or_ge v g.size with hlt | hge
    · have hless := Search.remaining_discover_lt hlt hv
      have hfollowed := hexploring.foldl (connect_keeps fuel) (fun u t hu ht => ih u t hu ht) hpath
        (g.successors v) (List.Subset.refl _) (by omega)
      exact hfollowed.subset fun u hu => List.mem_append_left _ (List.mem_reverse.mpr hu)
    · rw [successors_eq_nil hge]
      exact hexploring

lemma Search.sound_empty : Search.Sound g [] {} := by
  constructor <;> simp [Search.Discovered, Ordered]

/-- The search from one vertex after the other comes past all of them, and past nothing that cannot
be reached from them. -/
lemma foldl_connect (vs : List Nat) (s : Search) (hs : s.Sound g []) :
    let t := vs.foldl
      (fun s v => if (s.number? v).isSome then s else g.connect (g.size + 1) v s) s
    t.Sound g [] ∧ s.Keeps t ∧ (∀ v ∈ vs, t.Discovered v) ∧
      ∀ u, t.Discovered u → s.Discovered u ∨ ∃ v ∈ vs, g.Reaches v u := by
  induction vs generalizing s with
  | nil => exact ⟨hs, .refl s, List.forall_mem_nil _, fun u hu => Or.inl hu⟩
  | cons v vs ih =>
    rw [List.foldl_cons]
    split
    case isTrue hv =>
      obtain ⟨hsound, hkeeps, hvs, hreached⟩ := ih s hs
      refine ⟨hsound, hkeeps, List.forall_mem_cons.mpr ⟨hkeeps.discovered hv, hvs⟩, fun u hu => ?_⟩
      refine (hreached u hu).imp_right ?_
      exact fun ⟨x, hx, hway⟩ => ⟨x, List.mem_cons_of_mem v hx, hway⟩
    case isFalse hv =>
      have hfirst := connect_explores (g.size + 1) v s hv (Nat.lt_succ_of_le s.remaining_le_size) hs
        (List.forall_mem_nil _)
      obtain ⟨hsound, hkeeps, hvs, hreached⟩ := ih _ hfirst.sound
      refine ⟨hsound, hfirst.keeps.trans hkeeps,
        List.forall_mem_cons.mpr ⟨hkeeps.discovered hfirst.discovered, hvs⟩, fun u hu => ?_⟩
      rcases hreached u hu with hu | ⟨x, hx, hway⟩
      · exact (hfirst.reached u hu).imp_right fun hway => ⟨v, List.mem_cons_self, hway⟩
      · exact Or.inr ⟨x, List.mem_cons_of_mem v hx, hway⟩

lemma search_sound (g : Digraph) : (g.search (g.size + 1)).Sound g [] :=
  (foldl_connect (List.range g.size) {} Search.sound_empty).1

lemma discovered_search (hclosed : g.Closed) :
    (g.search (g.size + 1)).Discovered v ↔ v < g.size := by
  obtain ⟨-, -, hvs, hreached⟩ := foldl_connect (List.range g.size) {} Search.sound_empty
  refine ⟨fun hv => ?_, fun hv => hvs v (List.mem_range.mpr hv)⟩
  rcases hreached v hv with hv | ⟨u, hu, hway⟩
  · simp [Search.Discovered] at hv
  · exact hclosed.lt_of_reaches (List.mem_range.mp hu) hway

/-- At the end, no vertex is left on the stack. -/
lemma stack_search (g : Digraph) : (g.search (g.size + 1)).stack = [] := by
  refine List.eq_nil_iff_forall_not_mem.mpr fun u hu => ?_
  obtain ⟨x, hx, -⟩ := (search_sound g).leads u hu
  exact List.not_mem_nil hx

end Peg.Digraph
