/-!
# Directed graphs

A graph on the vertices `0, ..., n - 1` is given by the successors of each. A depth-first walk
visits what can be reached, and records each vertex when it is left.

The strongly connected components come from a search that numbers the vertices in the order of their
discovery and keeps those that have no component yet on a stack. It tells for every vertex the
smallest number on the stack that it is known to lead back to. A vertex that leads back to none
below its own is the first of its component: the others are what lies above it on the stack.
-/

namespace Peg

/-- A directed graph, by the successors of every vertex. -/
structure Digraph where
  adjacency : Array (List Nat)
deriving DecidableEq, Repr

namespace Digraph

def ofList (adjacency : List (List Nat)) : Digraph := ⟨adjacency.toArray⟩

/-- The number of vertices. -/
def size (g : Digraph) : Nat := g.adjacency.size

def successors (g : Digraph) (v : Nat) : List Nat := (g.adjacency[v]?).getD []

/-- A walk under way: the vertices visited and the vertices left, both last one first. -/
structure Walk where
  visited : List Nat := []
  left : List Nat := []
deriving DecidableEq, Repr

/-- Visits a vertex and, before leaving it, every successor that was not visited before; `fuel`
bounds how far the walk strays from the vertex. -/
def visit (g : Digraph) : Nat → Nat → Walk → Walk
  | 0, _, w => w
  | fuel + 1, v, w =>
    if w.visited.contains v then w
    else
      let w := { w with visited := v :: w.visited }
      let w := (g.successors v).foldl (fun w u => visit g fuel u w) w
      { w with left := v :: w.left }

/-- Visits a vertex and everything behind it. -/
def walk (g : Digraph) (v : Nat) (w : Walk) : Walk := g.visit (g.size + 1) v w

/-- The vertices that can be reached from a vertex, itself among them. -/
def reachable (g : Digraph) (v : Nat) : List Nat := (g.walk v {}).visited

/-- The map with another value at the vertex. -/
def assign {α : Type} (f : Nat → α) (v : Nat) (a : α) : Nat → α := fun u => if u = v then a else f u

/-- A search for components under way. -/
structure Search where
  /-- The number of the vertex that is discovered next. -/
  next : Nat := 0
  /-- The numbers of the vertices that have been discovered. -/
  number? : Nat → Option Nat := fun _ => none
  /-- The smallest number that a vertex is known to lead back to. -/
  low : Nat → Nat := fun _ => 0
  /-- The vertices without a component, the one discovered last first. -/
  stack : List Nat := []
  onStack : Nat → Bool := fun _ => false
  /-- The components, last one first. -/
  components : List (List Nat) := []

namespace Search

/-- Gives a vertex its number and puts it on the stack. -/
def discover (s : Search) (v : Nat) : Search where
  next := s.next + 1
  number? := assign s.number? v (some s.next)
  low := assign s.low v s.next
  stack := v :: s.stack
  onStack := assign s.onStack v true
  components := s.components

/-- Notes that a vertex leads back to a number. -/
def lower (s : Search) (v n : Nat) : Search := { s with low := assign s.low v (min (s.low v) n) }

/-- Goes along an edge from the vertex `v` to the vertex `u`, by way of `connect` if `u` has not
been discovered. -/
def follow (connect : Nat → Search → Search) (v : Nat) (s : Search) (u : Nat) : Search :=
  match s.number? u with
  | none =>
    let s := connect u s
    s.lower v (s.low u)
  | some n => if s.onStack u then s.lower v n else s

/-- The vertices of a stack down to the vertex, with it, and those below. -/
def popThrough (v : Nat) : List Nat → List Nat × List Nat
  | [] => ([], [])
  | u :: rest =>
    if u = v then ([u], rest)
    else
      let (popped, rest) := popThrough v rest
      (u :: popped, rest)

/-- Takes the component of a vertex from the stack, if the vertex is the first of its component. -/
def close (s : Search) (v : Nat) : Search :=
  if s.number? v = some (s.low v) then
    let (popped, stack) := popThrough v s.stack
    { s with
      stack
      onStack := fun u => s.onStack u && !popped.contains u
      components := popped :: s.components }
  else s

end Search

/-- Discovers a vertex and everything new behind it; `fuel` bounds how far this strays from the
vertex. -/
def connect (g : Digraph) : Nat → Nat → Search → Search
  | 0, _, s => s
  | fuel + 1, v, s =>
    ((g.successors v).foldl (Search.follow (connect g fuel) v) (s.discover v)).close v

/-- Discovers all vertices. -/
def search (g : Digraph) (fuel : Nat) : Search :=
  (List.range g.size).foldl (fun s v => if (s.number? v).isSome then s else g.connect fuel v s) {}

/-- The strongly connected components. An edge between two of them leads from a later one to an
earlier one. -/
def components (g : Digraph) : List (List Nat) := (g.search (g.size + 1)).components.reverse

/-- Whether the component contains a cycle. -/
def isCyclic (g : Digraph) (component : List Nat) : Bool :=
  match component with
  | [] => false
  | [v] => (g.successors v).contains v
  | _ => true

/-- The first component that contains a cycle. -/
def cyclicComponent? (g : Digraph) : Option (List Nat) := g.components.find? g.isCyclic

end Digraph

end Peg
