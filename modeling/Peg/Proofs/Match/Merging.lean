import Mathlib.Data.List.Basic
import Mathlib.Tactic.Lemma
import Peg.Match.Error

/-!
# Merging errors

It does not matter how errors are merged two by two, as long as their order is kept, nor does it
matter if one is merged again that has been merged before. What comes of it is the first error at
the last position of any, and behind its own expectations those of the later errors there that are
new.
-/

namespace Peg.MatchError

/-! ### Expectations -/

lemma addExpected_append (known before after : List String) :
    addExpected known (before ++ after) = addExpected (addExpected known before) after := by
  induction before generalizing known with
  | nil => rfl
  | cons x before ih => exact ih _

lemma addExpected_of_mem {known : List String} {x : String} (hx : x ∈ known) (more : List String) :
    addExpected known (x :: more) = addExpected known more := by
  rw [addExpected, if_pos (List.contains_iff_mem.mpr hx)]

lemma addExpected_of_not_mem {known : List String} {x : String} (hx : x ∉ known)
    (more : List String) : addExpected known (x :: more) = addExpected (known ++ [x]) more := by
  rw [addExpected, if_neg (by simpa using hx)]

/-- What is new comes behind what is known, each expectation where it first occurs. -/
lemma addExpected_eq (known more : List String) :
    addExpected known more = known ++ (more.filter (· ∉ known)).eraseDups := by
  induction more generalizing known with
  | nil => simp [addExpected]
  | cons x more ih =>
    by_cases hx : x ∈ known
    · simp [addExpected_of_mem hx, ih, hx]
    · have hmore : more.filter (· ∉ known ++ [x]) =
          (more.filter (· ∉ known)).filter (fun y => !y == x) := by
        rw [List.filter_filter]
        refine List.filter_congr fun y _ => ?_
        by_cases hy : y = x <;> simp [hy]
      rw [addExpected_of_not_mem hx, ih, hmore, List.filter_cons_of_pos (by simpa using hx),
        List.eraseDups_cons, List.append_assoc, List.singleton_append]

lemma mem_addExpected_iff {known more : List String} {x : String} :
    x ∈ addExpected known more ↔ x ∈ known ∨ x ∈ more := by
  rw [addExpected_eq, List.mem_append, List.mem_eraseDups, List.mem_filter, decide_eq_true_eq]
  by_cases hx : x ∈ known <;> simp [hx]

lemma addExpected_of_subset {known more : List String} (h : more ⊆ known) :
    addExpected known more = known := by
  have hnone : more.filter (· ∉ known) = [] := by
    rw [List.filter_eq_nil_iff]
    exact fun x hx => by simpa using h hx
  rw [addExpected_eq, hnone, List.eraseDups_nil, List.append_nil]

lemma addExpected_assoc (known middle more : List String) :
    addExpected known (addExpected middle more) = addExpected (addExpected known middle) more := by
  induction more generalizing middle with
  | nil => rfl
  | cons x more ih =>
    by_cases hx : x ∈ middle
    · have hx' : x ∈ addExpected known middle := mem_addExpected_iff.mpr (Or.inr hx)
      rw [addExpected_of_mem hx, addExpected_of_mem hx', ih]
    · rw [addExpected_of_not_mem hx, ih, addExpected_append, ← addExpected_append _ [x] more]
      rfl

/-! ### Laws of merging -/

lemma furthest_of_lt {a b : MatchError} (h : a.position < b.position) : a.furthest b = b :=
  if_pos h

lemma furthest_of_gt {a b : MatchError} (h : b.position < a.position) : a.furthest b = a := by
  rw [furthest, if_neg (Nat.lt_asymm h), if_pos h]

lemma furthest_of_eq {a b : MatchError} (h : a.position = b.position) :
    a.furthest b = { a with expected := addExpected a.expected b.expected } := by
  rw [furthest, if_neg (by omega), if_neg (by omega)]

lemma position_furthest (a b : MatchError) :
    (a.furthest b).position = max a.position b.position := by
  rcases Nat.lt_trichotomy a.position b.position with h | h | h
  · rw [furthest_of_lt h, Nat.max_eq_right (Nat.le_of_lt h)]
  · rw [furthest_of_eq h, ← h, Nat.max_self]
  · rw [furthest_of_gt h, Nat.max_eq_left (Nat.le_of_lt h)]

lemma furthest_assoc (a b c : MatchError) :
    (a.furthest b).furthest c = a.furthest (b.furthest c) := by
  have hleft := position_furthest a b
  have hright := position_furthest b c
  rcases Nat.lt_trichotomy a.position b.position with hab | hab | hab
  · rw [furthest_of_lt hab, furthest_of_lt (b := b.furthest c) (by omega)]
  · rcases Nat.lt_trichotomy b.position c.position with hbc | hbc | hbc
    · rw [furthest_of_eq hab, furthest_of_lt hbc, furthest_of_lt (hab ▸ hbc),
        furthest_of_lt (hab ▸ hbc)]
    · rw [furthest_of_eq (a := a.furthest b) (by omega),
        furthest_of_eq (b := b.furthest c) (by omega), furthest_of_eq hab, furthest_of_eq hbc]
      simp only [addExpected_assoc]
    · rw [furthest_of_gt hbc, furthest_of_eq hab, furthest_of_gt (hab ▸ hbc)]
  · rw [furthest_of_gt hab]
    rcases Nat.lt_trichotomy b.position c.position with hbc | hbc | hbc
    · rw [furthest_of_lt hbc]
    · rw [furthest_of_gt (b := c) (by omega), furthest_of_gt (b := b.furthest c) (by omega)]
    · rw [furthest_of_gt hbc, furthest_of_gt hab, furthest_of_gt (Nat.lt_trans hbc hab)]

lemma furthest_self (a : MatchError) : a.furthest a = a := by
  rw [furthest_of_eq rfl, addExpected_of_subset (List.Subset.refl _)]

/-- An error that was merged before, in front of another one, adds nothing. -/
lemma furthest_furthest_left (a b : MatchError) : (a.furthest b).furthest a = a.furthest b := by
  rcases Nat.lt_trichotomy a.position b.position with h | h | h
  · rw [furthest_of_lt h, furthest_of_gt h]
  · have hsubset : a.expected ⊆ addExpected a.expected b.expected :=
      fun x hx => mem_addExpected_iff.mpr (Or.inl hx)
    rw [furthest_of_eq (a := a.furthest b) (by rw [furthest_of_eq h]), furthest_of_eq h]
    simp only [addExpected_of_subset hsubset]
  · rw [furthest_of_gt h, furthest_self]

/-- What an error adds nothing to, it adds nothing to after more has been merged. -/
lemma furthest_of_absorbed {a e : MatchError} (h : a.furthest e = a) (b : MatchError) :
    (a.furthest b).furthest e = a.furthest b := by
  calc (a.furthest b).furthest e
      = ((a.furthest e).furthest b).furthest e := by rw [h]
    _ = a.furthest ((e.furthest b).furthest e) := by simp only [furthest_assoc]
    _ = (a.furthest e).furthest b := by rw [furthest_furthest_left, furthest_assoc]
    _ = a.furthest b := by rw [h]

/-! ### Any number of errors -/

/-- A way to merge errors two by two. -/
inductive Merging where
  | single (e : MatchError)
  | merge (left right : Merging)

namespace Merging

/-- The errors that are merged, in order. -/
def errors : Merging → List MatchError
  | single e => [e]
  | merge left right => left.errors ++ right.errors

/-- What comes of merging them. -/
def result : Merging → MatchError
  | single e => e
  | merge left right => left.result.furthest right.result

end Merging

/-- What the errors at the position expect, from the first one on. -/
def expectedAt (position : Nat) (errors : List MatchError) : List String :=
  (errors.filter (·.position = position)).flatMap (·.expected)

/-- The first error at the last position of any; behind its own expectations are those of the later
errors there that it does not have, each once, in order of first occurrence. -/
inductive IsMerged : List MatchError → MatchError → Prop where
  | intro {before later : List MatchError} {first : MatchError}
      (hbefore : ∀ e ∈ before, e.position < first.position)
      (hlater : ∀ e ∈ later, e.position ≤ first.position) :
      IsMerged (before ++ first :: later) { first with
        expected := first.expected ++
          ((expectedAt first.position later).filter (· ∉ first.expected)).eraseDups }

lemma expectedAt_append (position : Nat) (errors more : List MatchError) :
    expectedAt position (errors ++ more) =
      expectedAt position errors ++ expectedAt position more := by
  rw [expectedAt, List.filter_append, List.flatMap_append]
  rfl

lemma expectedAt_cons_self (e : MatchError) (more : List MatchError) :
    expectedAt e.position (e :: more) = e.expected ++ expectedAt e.position more := by
  simp [expectedAt]

lemma expectedAt_of_lt {position : Nat} {errors : List MatchError}
    (h : ∀ e ∈ errors, e.position < position) : expectedAt position errors = [] := by
  have hnone : errors.filter (·.position = position) = [] := by
    rw [List.filter_eq_nil_iff]
    exact fun e he => by simpa using Nat.ne_of_lt (h e he)
  rw [expectedAt, hnone, List.flatMap_nil]

lemma isMerged_iff {errors : List MatchError} {e : MatchError} :
    IsMerged errors e ↔ ∃ before first later, errors = before ++ first :: later ∧
      (∀ e ∈ before, e.position < first.position) ∧ (∀ e ∈ later, e.position ≤ first.position) ∧
      e = { first with
        expected := addExpected first.expected (expectedAt first.position later) } := by
  constructor
  · rintro ⟨hbefore, hlater⟩
    exact ⟨_, _, _, rfl, hbefore, hlater, by rw [addExpected_eq]⟩
  · rintro ⟨before, first, later, rfl, hbefore, hlater, rfl⟩
    rw [addExpected_eq]
    exact .intro hbefore hlater

/-- What two lists of errors are merged to is merged to what all of them are. -/
lemma IsMerged.append {errors more : List MatchError} {a b : MatchError} (ha : IsMerged errors a)
    (hb : IsMerged more b) : IsMerged (errors ++ more) (a.furthest b) := by
  obtain ⟨before, first, later, rfl, hbefore, hlater, ha⟩ := isMerged_iff.mp ha
  obtain ⟨before', first', later', rfl, hbefore', hlater', hb⟩ := isMerged_iff.mp hb
  have hposa : a.position = first.position := by rw [ha]
  have hposb : b.position = first'.position := by rw [hb]
  rw [isMerged_iff]
  rcases Nat.lt_or_ge first.position first'.position with hlt | hle
  · refine ⟨before ++ first :: later ++ before', first', later', by simp, ?_, hlater', ?_⟩
    · simp only [List.forall_mem_append, List.forall_mem_cons]
      refine ⟨⟨fun e he => ?_, hlt, fun e he => ?_⟩, hbefore'⟩
      · exact Nat.lt_trans (hbefore e he) hlt
      · exact Nat.lt_of_le_of_lt (hlater e he) hlt
    · rw [furthest_of_lt (by omega), hb]
  · refine ⟨before, first, later ++ (before' ++ first' :: later'), by simp, hbefore, ?_, ?_⟩
    · simp only [List.forall_mem_append, List.forall_mem_cons]
      refine ⟨hlater, fun e he => ?_, hle, fun e he => ?_⟩
      · exact Nat.le_of_lt (Nat.lt_of_lt_of_le (hbefore' e he) hle)
      · exact Nat.le_trans (hlater' e he) hle
    rcases Nat.eq_or_lt_of_le hle with heq | hgt
    · have hmore : expectedAt first.position (before' ++ first' :: later') =
          first'.expected ++ expectedAt first'.position later' := by
        rw [← heq, expectedAt_append, expectedAt_of_lt hbefore', expectedAt_cons_self,
          List.nil_append]
      rw [furthest_of_eq (by omega), expectedAt_append, hmore, ha, hb]
      simp only [addExpected_append, addExpected_assoc]
    · have hnone : expectedAt first.position (before' ++ first' :: later') = [] := by
        apply expectedAt_of_lt
        simp only [List.forall_mem_append, List.forall_mem_cons]
        refine ⟨fun e he => ?_, hgt, fun e he => ?_⟩
        · exact Nat.lt_trans (hbefore' e he) hgt
        · exact Nat.lt_of_le_of_lt (hlater' e he) hgt
      rw [furthest_of_gt (by omega), expectedAt_append, hnone, List.append_nil, ha]

namespace Merging

lemma isMerged_result (t : Merging) : IsMerged t.errors t.result := by
  induction t with
  | single e =>
    have hsingle := @IsMerged.intro [] [] e (by simp) (by simp)
    simpa [expectedAt, errors, result] using hsingle
  | merge left right ihl ihr => exact ihl.append ihr

/-- However errors are merged, it is as if they were merged one after the other. -/
lemma exists_foldl (t : Merging) : ∃ first rest, t.errors = first :: rest ∧
    t.result = rest.foldl furthest first := by
  have hassoc : Std.Associative furthest := ⟨furthest_assoc⟩
  induction t with
  | single e => exact ⟨e, [], rfl, rfl⟩
  | merge left right ihl ihr =>
    obtain ⟨first, rest, herrors, hresult⟩ := ihl
    obtain ⟨first', rest', herrors', hresult'⟩ := ihr
    refine ⟨first, rest ++ first' :: rest', by rw [errors, herrors, herrors', List.cons_append], ?_⟩
    rw [result, hresult, hresult', List.foldl_append, List.foldl_cons, List.foldl_assoc]

lemma result_eq_of_errors_eq {t u : Merging} (h : u.errors = t.errors) : u.result = t.result := by
  obtain ⟨first, rest, herrors, hresult⟩ := t.exists_foldl
  obtain ⟨first', rest', herrors', hresult'⟩ := u.exists_foldl
  obtain ⟨rfl, rfl⟩ := List.cons.inj (herrors'.symm.trans (h.trans herrors))
  exact hresult'.trans hresult.symm

/-- An error that was merged before adds nothing. -/
lemma furthest_of_mem {t : Merging} {e : MatchError} (h : e ∈ t.errors) :
    t.result.furthest e = t.result := by
  induction t with
  | single a =>
    obtain rfl := List.mem_singleton.mp h
    exact furthest_self e
  | merge left right ihl ihr =>
    rcases List.mem_append.mp h with hleft | hright
    · exact furthest_of_absorbed (ihl hleft) right.result
    · rw [result, furthest_assoc, ihr hright]

/-- Nor does what such errors are merged to. -/
lemma furthest_of_subset {t u : Merging} (h : u.errors ⊆ t.errors) :
    t.result.furthest u.result = t.result := by
  induction u with
  | single e => exact furthest_of_mem (h (List.mem_singleton_self e))
  | merge left right ihl ihr =>
    have hleft := ihl fun e he => h (List.mem_append_left _ he)
    have hright := ihr fun e he => h (List.mem_append_right _ he)
    rw [result, ← furthest_assoc, hleft, hright]

end Merging

/-- However errors are merged two by two in their order, they come to the first one at the last
position, with the new expectations of the later ones there. So merging is associative, an error
merged with itself stays as it is, and nothing changes when errors are merged once more behind
those that they are among. -/
theorem furthest_closed_form :
    (∀ t : Merging, IsMerged t.errors t.result) ∧
    (∀ t u : Merging, u.errors = t.errors → u.result = t.result) ∧
    (∀ a b c : MatchError, (a.furthest b).furthest c = a.furthest (b.furthest c)) ∧
    (∀ a : MatchError, a.furthest a = a) ∧
    ∀ t u : Merging, u.errors ⊆ t.errors → t.result.furthest u.result = t.result := by
  refine ⟨Merging.isMerged_result, fun t u h => Merging.result_eq_of_errors_eq h, furthest_assoc,
    furthest_self, fun t u h => Merging.furthest_of_subset h⟩

/-- The first of the errors at one position keeps its excerpt, and even what it expects twice. -/
example :
    let merging := Merging.merge (.single ⟨3, ["a", "a"], "x"⟩)
      (.merge (.single ⟨2, ["b"], ""⟩) (.single ⟨3, ["c", "a", "c"], "y"⟩))
    merging.result = ⟨3, ["a", "a", "c"], "x"⟩ := by
  rfl

end Peg.MatchError
