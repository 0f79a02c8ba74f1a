import Peg.Text.Quoted
import Peg.Text.Utf8

/-!
# Parse trees

A leaf holds bytes of the input, a node holds the trees of what it was built from, in the order of
the input; both are labelled with the name of a rule. What was discarded has no tree.
-/

namespace Peg

/-- A labelled tree with bytes at its leaves. -/
inductive ParseTree where
  | leaf (label : String) (bytes : List UInt8)
  | node (label : String) (children : List ParseTree)

namespace ParseTree

def label : ParseTree → String
  | .leaf l _ | .node l _ => l

/-- The bytes of a leaf. -/
def bytes? : ParseTree → Option (List UInt8)
  | .leaf _ b => some b
  | .node _ _ => none

/-- The bytes of a leaf as text. -/
def text? (t : ParseTree) : Option String := t.bytes?.map Utf8.decodeLossy

def children : ParseTree → List ParseTree
  | .leaf _ _ => []
  | .node _ ts => ts

def isLeaf (t : ParseTree) : Bool := t.bytes?.isSome

/-! ### Size -/

mutual

/-- The number of leaves and nodes of a tree. -/
def count : ParseTree → Nat
  | .leaf _ _ => 1
  | .node _ ts => 1 + countAll ts

def countAll : List ParseTree → Nat
  | [] => 0
  | t :: ts => t.count + countAll ts

end

/-! ### Leaves -/

/-- A way through a tree: the leaves found so far, and the trees that are still pending, as a stack
with the next one on top. -/
structure Traversal where
  found : Array ParseTree := #[]
  stack : List ParseTree

namespace Traversal

def start (t : ParseTree) : Traversal := { stack := [t] }

/-- Takes the next tree off the stack. A leaf is found, and the children of a node are put on the
stack from the last to the first. -/
def next? (w : Traversal) : Option (ParseTree × Traversal) :=
  match w.stack with
  | [] => none
  | t :: below =>
    some (t, { found := if t.isLeaf then w.found.push t else w.found
               stack := t.children.reverse.foldl (fun stack child => child :: stack) below })

/-- Goes on until nothing is pending, for at most `fuel` trees. -/
def run : Nat → Traversal → Traversal
  | 0, w => w
  | fuel + 1, w =>
    match w.next? with
    | none => w
    | some (_, rest) => run fuel rest

end Traversal

/-- The leaves of a tree, from left to right. -/
def leaves (t : ParseTree) : List ParseTree := (Traversal.run t.count (.start t)).found.toList

/-- The bytes of all leaves, from left to right. -/
def toBytes (t : ParseTree) : List UInt8 := t.leaves.flatMap fun leaf => leaf.bytes?.getD []

/-! ### Written form -/

mutual

/-- Writes the tree behind a text. -/
def renderAfter (text : String) : ParseTree → String
  | .leaf l b => text ++ l ++ ":" ++ Text.quote (Utf8.decodeLossy b)
  | .node l ts => renderAllAfter (text ++ "(" ++ l) ts ++ ")"

/-- Writes the trees behind a text, each after a blank. -/
def renderAllAfter (text : String) : List ParseTree → String
  | [] => text
  | t :: ts => renderAllAfter (t.renderAfter (text ++ " ")) ts

end

/-- The tree as text: a node as `(label child ...)` and a leaf as `label:"text"`. -/
def render (t : ParseTree) : String := t.renderAfter ""

end ParseTree

end Peg
