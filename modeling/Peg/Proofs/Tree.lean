import Mathlib.Data.List.Basic
import Peg.Tree

/-!
# Leaves of trees

`ParseTree.leaves` goes through a tree with a stack of pending trees. Whatever is pending, the
traversal looks at what a recursive preorder lists, one tree after the other, and then it stops. So
the leaves are those of the preorder, which names every place of the tree once, from left to right.
The leaves of a node are those of its children, and so are its bytes.
-/

namespace Peg.ParseTree

/-- Induction on a tree, with the hypothesis for every child of a node. -/
@[elab_as_elim]
theorem inductionOn {P : ParseTree → Prop} (t : ParseTree)
    (leaf : ∀ label bytes, P (.leaf label bytes))
    (node : ∀ label ts, (∀ t ∈ ts, P t) → P (.node label ts)) : P t := by
  refine @ParseTree.rec P (fun ts => ∀ t ∈ ts, P t) leaf node ?_ ?_ t
  · simp
  · intro head tail hhead htail t ht
    rcases List.mem_cons.mp ht with rfl | ht
    · exact hhead
    · exact htail t ht

/-! ### Preorder -/

mutual

/-- The tree and all trees in it, a node before its children and these from left to right. -/
def preorder : ParseTree → List ParseTree
  | .leaf label bytes => [.leaf label bytes]
  | .node label ts => .node label ts :: preorderOfAll ts

def preorderOfAll : List ParseTree → List ParseTree
  | [] => []
  | t :: ts => t.preorder ++ preorderOfAll ts

end

lemma preorderOfAll_eq_flatMap (ts : List ParseTree) : preorderOfAll ts = ts.flatMap preorder := by
  induction ts with
  | nil => rfl
  | cons t ts ih => rw [preorderOfAll, ih, List.flatMap_cons]

lemma preorder_eq (t : ParseTree) : t.preorder = t :: t.children.flatMap preorder := by
  cases t with
  | leaf label bytes => rfl
  | node label ts => rw [preorder, preorderOfAll_eq_flatMap, children]

mutual

/-- The preorder lists as many trees as there are leaves and nodes. -/
lemma length_preorder (t : ParseTree) : t.preorder.length = t.count := by
  match t with
  | .leaf _ _ => rfl
  | .node _ ts => rw [preorder, List.length_cons, length_preorderOfAll ts, count, Nat.add_comm]

lemma length_preorderOfAll (ts : List ParseTree) : (preorderOfAll ts).length = countAll ts := by
  match ts with
  | [] => rfl
  | t :: ts =>
    rw [preorderOfAll, List.length_append, length_preorder t, length_preorderOfAll ts, countAll]

end

/-! ### Traversals -/

namespace Traversal

variable {w rest last : Traversal} {t : ParseTree} {ts : List ParseTree}

/-- What lies ahead of a traversal: the preorders of all pending trees, from the top of the stack
down. -/
def ahead (w : Traversal) : List ParseTree := w.stack.flatMap preorder

lemma ahead_start (t : ParseTree) : (start t).ahead = t.preorder :=
  List.flatMap_singleton preorder t

/-- Pushed in reverse, the children lie on the stack in order. -/
lemma next?_eq_some (h : w.next? = some (t, rest)) :
    ∃ below, w.stack = t :: below ∧ rest.stack = t.children ++ below ∧
      rest.found = if t.isLeaf then w.found.push t else w.found := by
  rw [next?] at h
  split at h
  · cases h
  · rename_i top below hstack
    obtain ⟨rfl, rfl⟩ := Prod.mk.inj (Option.some.inj h)
    exact ⟨below, hstack, by simp, rfl⟩

lemma ahead_of_next?_eq_none (h : w.next? = none) : w.ahead = [] := by
  rw [next?] at h
  split at h
  · rename_i hstack
    rw [ahead, hstack, List.flatMap_nil]
  · cases h

/-- The next tree is the first of those ahead, and the others stay ahead. -/
lemma ahead_of_next? (h : w.next? = some (t, rest)) : w.ahead = t :: rest.ahead := by
  obtain ⟨below, hstack, hrest, -⟩ := next?_eq_some h
  rw [ahead, hstack, List.flatMap_cons, preorder_eq, List.cons_append, ← List.flatMap_append,
    ← hrest, ahead]

/-- The next tree is found if it is a leaf. -/
lemma found_of_next? (h : w.next? = some (t, rest)) :
    rest.found.toList = w.found.toList ++ [t].filter isLeaf := by
  obtain ⟨below, -, -, hfound⟩ := next?_eq_some h
  rw [hfound]
  cases hleaf : t.isLeaf <;> simp [hleaf]

/-- The traversal looks at these trees, one after the other, and then nothing is pending. -/
inductive Visits : Traversal → List ParseTree → Traversal → Prop where
  | done {w : Traversal} (h : w.next? = none) : Visits w [] w
  | look {w rest last : Traversal} {t : ParseTree} {ts : List ParseTree}
      (h : w.next? = some (t, rest)) (hrest : Visits rest ts last) : Visits w (t :: ts) last

/-- Every traversal looks at what lies ahead of it and stops. -/
lemma exists_visits (w : Traversal) : ∃ last, w.Visits w.ahead last := by
  -- On what lies ahead, not on the stack: a node leaves more trees pending than before.
  induction hahead : w.ahead generalizing w with
  | nil =>
    cases hnext : w.next? with
    | none => exact ⟨w, .done hnext⟩
    | some next => cases hahead.symm.trans (ahead_of_next? hnext)
  | cons t ts ih =>
    cases hnext : w.next? with
    | none => cases hahead.symm.trans (ahead_of_next?_eq_none hnext)
    | some next =>
      obtain ⟨rfl, rfl⟩ := List.cons.inj (hahead.symm.trans (ahead_of_next? hnext))
      obtain ⟨last, hvisits⟩ := ih next.2 rfl
      exact ⟨last, .look hnext hvisits⟩

/-- Of the trees looked at, the leaves are found. -/
lemma Visits.found_eq (h : w.Visits ts last) :
    last.found.toList = w.found.toList ++ ts.filter isLeaf := by
  induction h with
  | done _ => simp
  | look h _ ih =>
    rw [ih, found_of_next? h, List.append_assoc, ← List.filter_append, List.singleton_append]

/-- Fuel for every tree is enough, and more of it changes nothing. -/
lemma Visits.run_eq (h : w.Visits ts last) (extra : Nat) : run (ts.length + extra) w = last := by
  induction h with
  | done h => cases extra <;> simp [run, h]
  | look h _ ih => rw [List.length_cons, Nat.add_right_comm, run, h, ← ih]

end Traversal

/-! ### Leaves and bytes -/

/-- The traversal of a tree looks at its preorder. -/
lemma exists_visits_start (t : ParseTree) :
    ∃ last, (Traversal.start t).Visits t.preorder last := by
  rw [← Traversal.ahead_start]
  exact (Traversal.start t).exists_visits

lemma leaves_eq (t : ParseTree) : t.leaves = t.preorder.filter isLeaf := by
  obtain ⟨last, hvisits⟩ := t.exists_visits_start
  have hrun := hvisits.run_eq 0
  rw [length_preorder, Nat.add_zero] at hrun
  rw [leaves, hrun, hvisits.found_eq, Traversal.start, List.nil_append]

lemma leaves_leaf (label : String) (bytes : List UInt8) :
    (leaf label bytes).leaves = [leaf label bytes] := rfl

@[simp] lemma leaves_node (l : String) (ts : List ParseTree) :
    (node l ts).leaves = ts.flatMap leaves := by
  rw [leaves_eq, preorder_eq, children, List.filter_cons_of_neg (by simp [isLeaf, bytes?]),
    List.filter_flatMap]
  exact List.flatMap_congr fun t _ => t.leaves_eq.symm

lemma toBytes_leaf (label : String) (bytes : List UInt8) : (leaf label bytes).toBytes = bytes := by
  simp [toBytes, leaves_leaf, bytes?]

lemma toBytes_node (label : String) (ts : List ParseTree) :
    (node label ts).toBytes = ts.flatMap toBytes := by
  rw [toBytes, leaves_node, List.flatMap_assoc]
  rfl

/-! ### Places -/

/-- The tree at a place, which numbers the child to go on with at every node on the way. -/
def at? (t : ParseTree) : List Nat → Option ParseTree
  | [] => some t
  | i :: place => t.children[i]?.bind fun child => child.at? place

mutual

/-- The preorder with the place of every tree. -/
def placed : ParseTree → List (List Nat × ParseTree)
  | .leaf label bytes => [([], .leaf label bytes)]
  | .node label ts => ([], .node label ts) :: placedOfAll 0 ts

/-- The preorders of children that are numbered from `i` on. -/
def placedOfAll (i : Nat) : List ParseTree → List (List Nat × ParseTree)
  | [] => []
  | t :: ts => t.placed.map (fun x => (i :: x.1, x.2)) ++ placedOfAll (i + 1) ts

end

lemma placedOfAll_eq_flatMap (i : Nat) (ts : List ParseTree) :
    placedOfAll i ts =
      (ts.zipIdx i).flatMap fun c => c.1.placed.map fun x => (c.2 :: x.1, x.2) := by
  induction ts generalizing i with
  | nil => rfl
  | cons t ts ih => rw [placedOfAll, ih, List.zipIdx_cons, List.flatMap_cons]

lemma placed_eq (t : ParseTree) :
    t.placed = ([], t) ::
      t.children.zipIdx.flatMap fun c => c.1.placed.map fun x => (c.2 :: x.1, x.2) := by
  cases t with
  | leaf label bytes => rfl
  | node label ts => rw [placed, placedOfAll_eq_flatMap, children]

/-- Without the places it is the preorder. -/
lemma map_snd_placed (t : ParseTree) : t.placed.map Prod.snd = t.preorder := by
  induction t using inductionOn with
  | leaf label bytes => rfl
  | node label ts ih =>
    have hchild : ∀ c ∈ ts.zipIdx,
        (c.1.placed.map fun x => (c.2 :: x.1, x.2)).map Prod.snd = c.1.preorder := by
      intro c hc
      rw [List.map_map, ← ih c.1 (List.mem_of_getElem? (List.mem_zipIdx_iff_getElem?.mp hc))]
      rfl
    rw [placed_eq, preorder_eq, children, List.map_cons, List.map_flatMap,
      List.flatMap_congr hchild, ← List.flatMap_map Prod.fst, List.zipIdx_map_fst]

@[simp] lemma mem_placed_nil {t u : ParseTree} : ([], u) ∈ t.placed ↔ t = u := by
  rw [placed_eq]
  simp [eq_comm]

@[simp] lemma mem_placed_cons {t u : ParseTree} {i : Nat} {place : List Nat} :
    (i :: place, u) ∈ t.placed ↔
      ∃ child, t.children[i]? = some child ∧ (place, u) ∈ child.placed := by
  rw [placed_eq]
  simp only [List.mem_cons, List.mem_flatMap, List.mem_map, List.mem_zipIdx_iff_getElem?]
  constructor
  · rintro (h | ⟨⟨child, i⟩, hchild, x, hx, heq⟩)
    · cases h
    · cases heq
      exact ⟨child, hchild, hx⟩
  · rintro ⟨child, hchild, hu⟩
    exact Or.inr ⟨(child, i), hchild, (place, u), hu, rfl⟩

/-- Just the places of the tree are listed. -/
lemma mem_placed {t u : ParseTree} {place : List Nat} :
    (place, u) ∈ t.placed ↔ t.at? place = some u := by
  induction place generalizing t with
  | nil => simp [at?]
  | cons i place ih => simp [at?, ih, Option.bind_eq_some_iff]

/-- Places are listed from left to right, and none of them twice. -/
lemma pairwise_placed (t : ParseTree) : t.placed.Pairwise fun x y => x.1 < y.1 := by
  induction t using inductionOn with
  | leaf label bytes => exact List.pairwise_singleton _ _
  | node label ts ih =>
    rw [placed_eq, children, List.pairwise_cons, List.pairwise_flatMap]
    refine ⟨?first, ?within, ?between⟩
    case first =>
      intro x hx
      obtain ⟨c, -, hx⟩ := List.mem_flatMap.mp hx
      obtain ⟨y, -, rfl⟩ := List.mem_map.mp hx
      exact List.nil_lt_cons _ _
    case within =>
      intro c hc
      have hchild := ih c.1 (List.mem_of_getElem? (List.mem_zipIdx_iff_getElem?.mp hc))
      rw [List.pairwise_map]
      exact hchild.imp fun hlt => List.cons_lt_cons_iff.mpr (Or.inr ⟨rfl, hlt⟩)
    case between =>
      have hnumbers : ts.zipIdx.Pairwise fun c d => c.2 < d.2 := by
        rw [← List.pairwise_map (f := Prod.snd) (R := (· < ·)), List.zipIdx_map_snd]
        exact List.pairwise_lt_range'
      refine hnumbers.imp fun hlt x hx y hy => ?_
      obtain ⟨x, -, rfl⟩ := List.mem_map.mp hx
      obtain ⟨y, -, rfl⟩ := List.mem_map.mp hy
      exact List.cons_lt_cons_iff.mpr (Or.inl hlt)

/-- The traversal looks at the preorder and stops, whatever the tree and however much fuel is left.
So the leaves are those of the preorder, which are the leaves at all places of the tree, once each
and from left to right. The bytes of a node are those of its children, one after the other. -/
theorem traversal_exact (t : ParseTree) :
    (∃ last, (Traversal.start t).Visits t.preorder last ∧ last.found.toList = t.leaves ∧
      ∀ extra, Traversal.run (t.count + extra) (.start t) = last) ∧
    t.leaves = t.preorder.filter isLeaf ∧
    (∃ placed : List (List Nat × ParseTree),
      t.leaves = placed.map Prod.snd ∧
      placed.Pairwise (fun x y => x.1 < y.1) ∧
      ∀ place leaf, (place, leaf) ∈ placed ↔ t.at? place = some leaf ∧ leaf.isLeaf) ∧
    t.toBytes = match t with
      | .leaf _ bytes => bytes
      | .node _ ts => ts.flatMap toBytes := by
  refine ⟨?visits, t.leaves_eq, ?places, ?bytes⟩
  case visits =>
    obtain ⟨last, hvisits⟩ := t.exists_visits_start
    have hrun := hvisits.run_eq
    rw [length_preorder] at hrun
    exact ⟨last, hvisits, by rw [leaves, ← hrun 0, Nat.add_zero], hrun⟩
  case places =>
    refine ⟨t.placed.filter fun x => x.2.isLeaf, ?_, t.pairwise_placed.filter _, ?_⟩
    · rw [leaves_eq, ← map_snd_placed, List.filter_map]
      rfl
    · intro place leaf
      rw [List.mem_filter, mem_placed]
  case bytes =>
    cases t with
    | leaf label bytes => exact toBytes_leaf label bytes
    | node label ts => exact toBytes_node label ts

end Peg.ParseTree
