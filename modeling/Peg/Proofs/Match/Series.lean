import Mathlib.Tactic.Lemma
import Peg.Match.Attempt

/-!
# Series of matches

Matches in a row are put together to the match of a sequence or of a repetition.
-/

namespace Peg

/-- Matches in a row: the trees they left, and the number of bytes they consumed. -/
structure Series where
  trees : List ParseTree := []
  length : Nat := 0

/-- What matching the bytes as they are leaves: a leaf unless there are none. -/
def Match.terminal (name : String) (bytes : List UInt8) : Match where
  tree := if bytes.isEmpty then none else some (.leaf name bytes)
  length := bytes.length

/-- A series with one more match in front. -/
def Match.before (m : Match) (rest : Series) : Series where
  trees := m.tree.toList ++ rest.trees
  length := m.length + rest.length

/-- The match of a sequence whose parts matched as the series says. It has no tree if the parts left
none, their tree if they left one, and a node over all of them if they left more. -/
def Match.joined (name : String) (parts : Series) : Match where
  tree :=
    match parts.trees with
    | [] => none
    | [t] => some t
    | t :: u :: ts => some (.node name (t :: u :: ts))
  length := parts.length

/-- The match of a repetition that matched as the series says. -/
def Match.repeated (name : String) (rounds : Series) : Match where
  tree := some (.node name rounds.trees)
  length := rounds.length

@[simp] lemma Match.length_before (m : Match) (rest : Series) :
    (m.before rest).length = m.length + rest.length := rfl

@[simp] lemma Match.length_terminal (name : String) (bytes : List UInt8) :
    (Match.terminal name bytes).length = bytes.length := rfl

@[simp] lemma Match.length_joined (name : String) (parts : Series) :
    (Match.joined name parts).length = parts.length := rfl

@[simp] lemma Match.length_repeated (name : String) (rounds : Series) :
    (Match.repeated name rounds).length = rounds.length := rfl

end Peg
