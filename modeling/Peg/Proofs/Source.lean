import Mathlib.Tactic.Lemma
import Peg.Source

/-!
# Input from a position on

What is looked up at a position of the input depends on the bytes from there on: literals are
compared with the suffix, patterns are matched against it.
-/

namespace Peg

/-- The bytes from the position on. -/
def Source.suffix (s : Source) (pos : Nat) : List UInt8 := s.bytes.toList.drop pos

/-- A list of bytes as a window. -/
def Regex.Window.ofList (bytes : List UInt8) : Regex.Window where
  size := bytes.length
  get? i := bytes[i]?

lemma Regex.Window.ofArray_eq (bytes : Array UInt8) (pos : Nat) :
    Regex.Window.ofArray bytes pos = .ofList (bytes.toList.drop pos) := by
  simp [Regex.Window.ofArray, Regex.Window.ofList]

namespace Source

variable (s : Source)

@[simp] lemma length_suffix (pos : Nat) : (s.suffix pos).length = s.size - pos := by
  simp [suffix, size]

lemma suffix_add (pos n : Nat) : s.suffix (pos + n) = (s.suffix pos).drop n := by
  simp [suffix]

lemma suffix_eq_nil {pos : Nat} (h : s.size ≤ pos) : s.suffix pos = [] := by
  rw [← List.length_eq_zero_iff, length_suffix]
  omega

lemma suffix_eq_cons {pos : Nat} (h : pos < s.bytes.size) :
    s.suffix pos = s.bytes[pos] :: s.suffix (pos + 1) := by
  rw [suffix_add, suffix, List.drop_eq_getElem_cons (by simpa using h)]
  simp

lemma slice_eq_take (start stop : Nat) :
    s.slice start stop = (s.suffix start).take (stop - start) := by
  simp [slice, suffix, List.extract_eq_take_drop]

/-- What an error quotes are the first bytes from the position on. -/
lemma neighborhood_eq_take (pos width : Nat) :
    s.neighborhood pos width = (s.suffix pos).take width := by
  rw [neighborhood, slice_eq_take, Nat.add_sub_cancel_left]

lemma slice_append {start mid stop : Nat} (h : start ≤ mid) (h' : mid ≤ stop) :
    s.slice start mid ++ s.slice mid stop = s.slice start stop := by
  have hmid : s.suffix mid = (s.suffix start).drop (mid - start) := by
    rw [← suffix_add, Nat.add_sub_cancel' h]
  rw [slice_eq_take, slice_eq_take, slice_eq_take, hmid, ← List.take_add]
  congr 1
  omega

lemma startsWith_iff (literal : List UInt8) (pos : Nat) :
    s.startsWith literal pos = true ↔ literal <+: s.suffix pos := by
  induction literal generalizing pos with
  | nil => simp [startsWith]
  | cons b rest ih =>
    rcases Nat.lt_or_ge pos s.bytes.size with hlt | hge
    · rw [startsWith, suffix_eq_cons s hlt, List.cons_prefix_cons, Bool.and_eq_true,
        ih (pos + 1), Array.getElem?_eq_getElem hlt, Option.some_beq_some, beq_iff_eq, eq_comm]
    · rw [startsWith, suffix_eq_nil s hge, Array.getElem?_eq_none hge, List.prefix_nil]
      simp

variable {s} {pos : Nat}

lemma matchLiteral?_eq_some (hpos : pos ≤ s.size) {literal : List UInt8}
    (h : literal <+: s.suffix pos) : s.matchLiteral? literal pos = some literal := by
  rw [matchLiteral?, if_pos ⟨hpos, (startsWith_iff s literal pos).mpr h⟩]

lemma matchLiteral?_eq_none {literal : List UInt8} (h : ¬ literal <+: s.suffix pos) :
    s.matchLiteral? literal pos = none := by
  rw [matchLiteral?, if_neg]
  rintro ⟨-, hstarts⟩
  exact h ((startsWith_iff s literal pos).mp hstarts)

lemma isPrefix_of_matchLiteral? {literal bytes : List UInt8}
    (h : s.matchLiteral? literal pos = some bytes) : bytes <+: s.suffix pos := by
  rw [matchLiteral?, Option.ite_none_right_eq_some] at h
  obtain ⟨⟨-, hstarts⟩, ⟨⟩⟩ := h
  exact (startsWith_iff s literal pos).mp hstarts

lemma matchPattern?_eq (hpos : pos ≤ s.size) (p : Pattern) :
    s.matchPattern? p pos =
      (p.matchLength? (.ofList (s.suffix pos))).map fun n => (s.suffix pos).take n := by
  rw [matchPattern?, if_pos hpos, Regex.Window.ofArray_eq]
  simp [slice_eq_take, suffix]

lemma isPrefix_of_matchPattern? {p : Pattern} {bytes : List UInt8}
    (h : s.matchPattern? p pos = some bytes) : bytes <+: s.suffix pos := by
  by_cases hpos : pos ≤ s.size
  · rw [matchPattern?_eq hpos, Option.map_eq_some_iff] at h
    obtain ⟨n, -, rfl⟩ := h
    exact List.take_prefix _ _
  · simp [matchPattern?, hpos] at h

end Source

end Peg
