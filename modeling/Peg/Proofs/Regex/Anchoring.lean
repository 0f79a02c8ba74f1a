import Peg.Grammar.Definitions
import Peg.Proofs.Regex.Program
import Peg.Proofs.Regex.Reader
import Peg.Source

/-!
# Anchored patterns

The pattern of a token is read inside of `^(?:` and `)`. The reader then has one group more open,
which nothing in the pattern sees until that group is closed, or the pattern takes the closing
parenthesis for a part of a comment. A pattern that itself closes a group that it did not open is
malformed. Any other one is accepted exactly if it is well-formed, ends before the parenthesis and
leaves room within the limits, and what it matches is what it matches by itself.
-/

namespace Peg.Regex

/-! ### Groups around a reading -/

namespace Reading

variable {r : Reading} {cs : List Char}

/-- The reading with further groups open around it. -/
def inside (r : Reading) (gs : List OpenGroup) : Reading := { r with groups := r.groups ++ gs }

@[simp] lemma inside_flags (gs : List OpenGroup) : (r.inside gs).flags = r.flags := rfl

@[simp] lemma inside_groups (gs : List OpenGroup) : (r.inside gs).groups = r.groups ++ gs := rfl

@[simp] lemma inside_nil : r.inside [] = r := by
  cases r
  simp [inside]

/-- The results of a step, with further groups open around. -/
def stepInside (gs : List OpenGroup) (o : Option (Reading × List Char)) :
    Option (Reading × List Char) :=
  o.map fun p => (p.1.inside gs, p.2)

lemma stepInside_bind {α : Type} (gs : List OpenGroup) (o : Option α)
    (k : α → Option (Reading × List Char)) :
    stepInside gs (o.bind k) = o.bind fun x => stepInside gs (k x) := by
  cases o <;> rfl

lemma readNamed_inside (gs : List OpenGroup) :
    (r.inside gs).readNamed cs = stepInside gs (r.readNamed cs) := by
  rw [readNamed, readNamed, stepInside_bind]
  refine congrArg (readGroupName cs).bind (funext fun p => ?_)
  show (if r.names.contains p.1 then _ else _) = _
  split <;> rfl

lemma readDirective_inside (gs : List OpenGroup) :
    (r.inside gs).readDirective cs = stepInside gs (r.readDirective cs) := by
  rw [readDirective, readDirective, stepInside_bind]
  refine congrArg (r.flags.readFlags true [] cs).bind (funext fun p => ?_)
  split
  · split <;> rfl
  · rfl
  · rfl

lemma readExtension_inside (gs : List OpenGroup) :
    (r.inside gs).readExtension cs = stepInside gs (r.readExtension cs) := by
  unfold readExtension
  split
  case h_5 | h_6 => exact readNamed_inside gs
  case h_7 => exact readDirective_inside gs
  all_goals rfl

lemma readOpening_inside (gs : List OpenGroup) :
    (r.inside gs).readOpening cs = stepInside gs (r.readOpening cs) := by
  rw [readOpening_eq, readOpening_eq, inside_flags]
  split
  · exact readExtension_inside gs
  · rfl

lemma readRepetition_inside (gs : List OpenGroup) (min : Nat) (max : Option Nat) :
    (r.inside gs).readRepetition min max cs = stepInside gs (r.readRepetition min max cs) := by
  have hrepeat : (r.inside gs).repeatLast min max (lazyMark cs).1 =
      (r.repeatLast min max (lazyMark cs).1).map (inside · gs) := by
    simp only [repeatLast, inside]
    cases r.body.items with
    | nil => rfl
    | cons n items =>
      dsimp only
      split <;> rfl
  rw [readRepetition, readRepetition, hrepeat]
  cases r.repeatLast min max (lazyMark cs).1 <;> rfl

/-- A step does not see the groups around, unless it closes the innermost of them. -/
lemma step_inside (gs : List OpenGroup) {c : Char} (hc : c = ')' → r.groups ≠ []) :
    (r.inside gs).step c cs = stepInside gs (r.step c cs) := by
  unfold step
  dsimp only
  split
  case h_1 => exact readOpening_inside gs
  case h_2 =>
    obtain ⟨g, groups, hgroups⟩ := List.exists_cons_of_ne_nil (hc rfl)
    rw [closeGroup, closeGroup, inside_groups, hgroups]
    rfl
  case h_4 =>
    refine .trans ?_ (stepInside_bind gs (r.flags.readClass cs) _).symm
    rfl
  case h_5 | h_6 | h_7 => exact readRepetition_inside gs _ _
  case h_8 =>
    refine .trans ?_ (stepInside_bind gs (r.flags.readBounds cs) _).symm
    exact congrArg _ (funext fun p => readRepetition_inside gs _ _)
  case h_9 =>
    refine .trans ?_ (stepInside_bind gs (r.flags.readEscape cs) _).symm
    rfl
  all_goals rfl

/-! ### Runs -/

/-- Whether the reader comes to a closing parenthesis where no group is open. -/
def strays : Nat → Reading → List Char → Bool
  | 0, _, _ => false
  | fuel + 1, r, cs => match r.flags.skip cs with
    | [] => false
    | c :: rest =>
      (c == ')' && r.groups.isEmpty) || (r.step c rest).any fun p => strays fuel p.1 p.2

lemma run_nil {fuel : Nat} (hfuel : 0 < fuel) (r : Reading) : run fuel r [] = some r := by
  obtain ⟨fuel, rfl⟩ := Nat.exists_eq_succ_of_ne_zero (Nat.ne_of_gt hfuel)
  rw [run, Flags.skip_nil]

lemma step_suffix {c : Char} {r' : Reading} {rest : List Char}
    (h : r.step c cs = some (r', rest)) : rest <:+ cs := by
  have hfollowed := step_followed r c cs
  rw [h] at hfollowed
  generalize r.step c (cs ++ [')']) = o' at hfollowed
  cases hfollowed with
  | followed hfollowed => exact hfollowed.suffix r' rest rfl

/-- Every step but the last uses a character up, so the length of the text is fuel enough. -/
lemma run_stable {fuel fuel' : Nat} (hfuel : cs.length < fuel) (hfuel' : cs.length < fuel') :
    r.run fuel cs = r.run fuel' cs := by
  induction fuel generalizing r cs fuel' with
  | zero => omega
  | succ fuel ih =>
    obtain ⟨fuel', rfl⟩ : ∃ k, fuel' = k + 1 := ⟨fuel' - 1, by omega⟩
    rw [run, run]
    have hskip := (@Flags.skip_suffix r.flags cs).length_le
    rcases hcs : r.flags.skip cs with _ | ⟨c, rest⟩
    · rfl
    rw [hcs, List.length_cons] at hskip
    dsimp only
    cases hstep : r.step c rest with
    | none => rfl
    | some p =>
      have hrest : p.2.length ≤ rest.length := (step_suffix hstep).length_le
      exact ih (by omega) (by omega)

lemma strays_nil (fuel : Nat) (r : Reading) : strays fuel r [] = false := by
  cases fuel with
  | zero => rfl
  | succ fuel => rw [strays, Flags.skip_nil]

lemma run_brace {rest : List Char} (h : r.flags.readBounds rest = none) (fuel : Nat) :
    r.run fuel ('\x7b' :: rest) = none := by
  cases fuel with
  | zero => rfl
  | succ fuel =>
    have hstep : r.step '\x7b' rest = none := by
      simp [step, h]
    rw [run, Flags.skip_brace]
    simp [hstep]

/-- What a run over the text gives, whether it strays, and what a run gives over the text and a
parenthesis behind it, with further groups open around. -/
inductive RunFollowed : Option Reading → Bool → (List OpenGroup → Option Reading) → Prop where
  /-- The parenthesis closes the innermost group. -/
  | closes (r : Reading) {run : List OpenGroup → Option Reading}
      (h : ∀ gs, run gs = (r.inside gs).closeGroup) : RunFollowed (some r) false run
  /-- The parenthesis is a part of a comment. -/
  | hidden (r : Reading) {run : List OpenGroup → Option Reading}
      (h : ∀ gs, run gs = some (r.inside gs)) : RunFollowed (some r) false run
  /-- The text alone is malformed, and the parenthesis closes no group. -/
  | fail {run : List OpenGroup → Option Reading}
      (h : ∀ gs, run gs = none ∨ ∃ r : Reading, run gs = some (r.inside gs)) :
      RunFollowed none false run
  | stray {run : List OpenGroup → Option Reading} : RunFollowed none true run

/-- By induction on the steps of the run over the text: the other run makes the same steps until it
comes to the parenthesis, or one of them takes it. -/
lemma run_followed {fuel fuel' : Nat} (hfuel : cs.length < fuel)
    (hfuel' : cs.length + 1 < fuel') :
    RunFollowed (r.run fuel cs) (r.strays fuel cs)
      fun gs => (r.inside gs).run fuel' (cs ++ [')']) := by
  induction fuel generalizing r cs fuel' with
  | zero => omega
  | succ fuel ih =>
    obtain ⟨fuel', rfl⟩ : ∃ k, fuel' = k + 1 := ⟨fuel' - 1, by omega⟩
    simp only [run, strays, inside_flags]
    rcases r.flags.skip_cases cs with ⟨rest, hrest, h, h'⟩ | ⟨h, h'⟩
    · have hlength := hrest.length_le
      simp only [h, h']
      rcases rest with _ | ⟨c, rest⟩
      -- the text ends here, and the parenthesis comes next
      · refine .closes r fun gs => ?_
        show ((r.inside gs).closeGroup.map fun r => (r, [])).bind _ = _
        cases (r.inside gs).closeGroup with
        | none => rfl
        | some r' => exact run_nil (by omega) r'
      rw [List.length_cons] at hlength
      simp only [List.cons_append]
      by_cases hstray : c = ')' ∧ r.groups = []
      · obtain ⟨rfl, hgroups⟩ := hstray
        have hclose : r.step ')' rest = none := by simp [step, closeGroup, hgroups]
        simpa [hclose, hgroups] using RunFollowed.stray
      have hsees : (c == ')' && r.groups.isEmpty) = false := by simpa using hstray
      have hstep : ∀ gs, (r.inside gs).step c (rest ++ [')']) =
          stepInside gs (r.step c (rest ++ [')'])) := fun gs =>
        step_inside gs fun hc hgroups => hstray ⟨hc, hgroups⟩
      have hfollowed := step_followed r c rest
      simp only [hsees, Bool.false_or, hstep]
      generalize r.step c rest = o at hfollowed ⊢
      generalize r.step c (rest ++ [')']) = o' at hfollowed ⊢
      cases hfollowed with
      | @brace r' rest' hbrace =>
        exact .fail fun gs => Or.inl (run_brace (r := r'.inside gs) hbrace fuel')
      | followed hfollowed =>
        obtain ⟨hsuffix, hcloses⟩ := hfollowed
        cases hcloses with
        | left =>
          cases o with
          | none => exact .fail fun gs => Or.inl rfl
          | some p =>
            have hp := (hsuffix p.1 p.2 rfl).length_le
            exact ih (by omega) (by omega)
        | @taken r' hr' =>
          -- the step took the parenthesis, and both runs end
          have hrun : ∀ gs, (stepInside gs (some (r', []))).bind (fun p => run fuel' p.1 p.2) =
              some (r'.inside gs) := fun gs => run_nil (by omega) _
          cases o with
          | none => exact .fail fun gs => Or.inr ⟨r', hrun gs⟩
          | some p =>
            obtain rfl := hr' p rfl
            show RunFollowed (run fuel r' []) (strays fuel r' []) _
            rw [run_nil (by omega), strays_nil]
            exact .hidden r' hrun
    · simp only [h, h']
      exact .hidden r fun gs => rfl

end Reading

/-! ### Whole patterns -/

/-- The expression that was read, if no group is open. -/
def Reading.whole? (r : Reading) : Option Nested :=
  if r.groups.isEmpty then some r.body.finish else none

/-- What a text is read as, however deeply it nests. -/
def whole? (p : String) : Option Nested :=
  (Reading.run (p.toList.length + 1) {} p.toList).bind Reading.whole?

/-- Whether the text closes a group that it did not open. -/
def strays (p : String) : Bool := Reading.strays (p.toList.length + 1) {} p.toList

example : strays "a)|(?:b" = true := by decide

variable {p : String} {n : Nested}

lemma parse?_eq (p : String) :
    parse? p = (whole? p).bind fun n => if n.depth ≤ nestingLimit then some n.regex else none := by
  rw [whole?, Option.bind_assoc]
  show Option.bind _ _ = _
  refine congrArg _ (funext fun r => ?_)
  rw [Reading.whole?]
  cases r.groups.isEmpty <;> rfl

/-- The group that an anchored pattern is read in. -/
def anchorGroup : OpenGroup where
  flags := {}
  numbered := false
  before := { items := [{ regex := .assertion .textStart }] }

lemma run_anchor (fuel : Nat) (cs : List Char) :
    Reading.run (fuel + 2) {} ('^' :: '(' :: '?' :: ':' :: cs) =
      (Reading.inside {} [anchorGroup]).run fuel cs := rfl

/-- What an anchored pattern is read as: the start of the text, and then the pattern. -/
def Nested.anchored (n : Nested) : Nested where
  regex := .cat (.assertion .textStart) n.regex
  depth := n.depth + 2

lemma whole?_inside_anchorGroup (r : Reading) : (r.inside [anchorGroup]).whole? = none := by
  simp [Reading.whole?]

/-- What is read of a text, of the text with a parenthesis behind it, and of the anchored one. -/
inductive WholeFollowed : Option Nested → Bool → Option Nested → Option Nested → Prop where
  | anchored (n : Nested) : WholeFollowed (some n) false none (some n.anchored)
  | hidden (n : Nested) : WholeFollowed (some n) false (some n) none
  | fail (o : Option Nested) : WholeFollowed none false o none
  | stray (o o' : Option Nested) : WholeFollowed none true o o'

namespace WholeFollowed

variable {o o' o'' : Option Nested}

lemma eq_none (h : WholeFollowed o true o' o'') : o = none := by
  cases h
  rfl

lemma exists_of_some {n' : Nested} (h : WholeFollowed o false o' (some n')) :
    ∃ n, o = some n ∧ n' = n.anchored := by
  cases h with
  | anchored n => exact ⟨n, rfl, rfl⟩

/-- The anchored text is within the limits if the text is well within them, and the parenthesis
behind it is no part of it. -/
lemma fits_iff (h : WholeFollowed o false o' o'') :
    (∃ n, o'' = some n ∧ n.depth ≤ nestingLimit ∧ n.regex.automatonSize ≤ sizeLimit) ↔
      (∃ n, o = some n ∧ n.depth + 2 ≤ nestingLimit ∧ n.regex.automatonSize + 32 ≤ sizeLimit) ∧
        ∀ n, o' = some n → nestingLimit < n.depth := by
  cases h with
  | anchored n => simp [Nested.anchored, automatonSize, Nat.add_comm]
  | hidden n =>
    constructor
    · rintro ⟨_, ⟨⟩, -⟩
    · rintro ⟨⟨_, ⟨⟩, hdepth, -⟩, hlimit⟩
      have hlt := hlimit n rfl
      omega
  | fail o => simp

end WholeFollowed

lemma Reading.RunFollowed.whole {o : Option Reading} {s : Bool}
    {run : List OpenGroup → Option Reading} (h : RunFollowed o s run) :
    WholeFollowed (o.bind Reading.whole?) s ((run []).bind Reading.whole?)
      ((run [anchorGroup]).bind Reading.whole?) := by
  cases h with
  | closes r h =>
    rw [h, h, Reading.inside_nil]
    obtain ⟨flags, body, groups, names⟩ := r
    cases groups with
    | nil => exact .anchored body.finish
    | cons g groups =>
      have hopen : (Reading.inside { flags, body, groups := g :: groups, names }
          [anchorGroup]).closeGroup.bind Reading.whole? = none := by
        simp [Reading.closeGroup, Reading.whole?]
      rw [hopen]
      exact .fail _
  | hidden r h =>
    rw [h, h, Reading.inside_nil, Option.bind_some, Option.bind_some, whole?_inside_anchorGroup]
    cases r.whole? with
    | none => exact .fail none
    | some n => exact .hidden n
  | fail h =>
    rcases h [anchorGroup] with h | ⟨r, h⟩
    · rw [h]
      exact .fail _
    · rw [h, Option.bind_some, whole?_inside_anchorGroup]
      exact .fail _
  | stray => exact .stray _ _

lemma whole?_followed (p : String) :
    WholeFollowed (whole? p) (strays p) (whole? (p ++ ")")) (whole? (Definitions.anchored p)) := by
  have hclosed : (p ++ ")").toList = p.toList ++ [')'] := String.toList_append
  have hanchored : (Definitions.anchored p).toList =
      '^' :: '(' :: '?' :: ':' :: (p.toList ++ [')']) := by
    rw [Definitions.anchored, String.toList_append, String.toList_append]
    rfl
  have hrun := Reading.run_followed (r := {}) (by omega : p.toList.length < p.toList.length + 1)
    (by omega : p.toList.length + 1 < p.toList.length + 4)
  have hstable : Reading.run ((p.toList ++ [')']).length + 1) {} (p.toList ++ [')']) =
      Reading.run (p.toList.length + 4) {} (p.toList ++ [')']) :=
    Reading.run_stable (by simp) (by simp)
  rw [whole?, strays, whole?, whole?, hclosed, hanchored, hstable]
  simp only [List.length_cons, List.length_append, List.length_nil]
  rw [run_anchor]
  exact hrun.whole

/-! ### Acceptance -/

/-- Whether the text is well-formed, and the limits leave room for so much more around it. -/
def fits (depth size : Nat) (p : String) : Bool :=
  (whole? p).any fun n =>
    decide (n.depth + depth ≤ nestingLimit ∧ n.regex.automatonSize + size ≤ sizeLimit)

lemma fits_iff {depth size : Nat} :
    fits depth size p ↔ ∃ n, whole? p = some n ∧
      n.depth + depth ≤ nestingLimit ∧ n.regex.automatonSize + size ≤ sizeLimit := by
  rw [fits, Option.any_eq_true]
  simp only [decide_eq_true_eq]

lemma parse?_eq_some_iff {r : Regex} :
    parse? p = some r ↔ ∃ n, whole? p = some n ∧ n.depth ≤ nestingLimit ∧ n.regex = r := by
  rw [parse?_eq, Option.bind_eq_some_iff]
  simp

lemma parse?_eq_none_iff :
    parse? p = none ↔ ∀ n, whole? p = some n → nestingLimit < n.depth := by
  rw [parse?_eq, Option.bind_eq_none_iff]
  simp

lemma ofText?_eq_some_iff {q : Pattern} :
    Pattern.ofText? p = some q ↔ q.text = p ∧ q.regex.automatonSize ≤ sizeLimit := by
  unfold Pattern.ofText?
  split
  case h_1 regex h =>
    constructor
    · intro hq
      split at hq
      case isTrue hsize =>
        cases hq
        exact ⟨rfl, hsize⟩
      case isFalse => cases hq
    · rintro ⟨rfl, hsize⟩
      obtain rfl := Option.some.inj (h.symm.trans q.parsed)
      rw [if_pos hsize]
      exact congrArg some (Pattern.ext rfl)
  case h_2 h =>
    constructor
    · intro hq
      cases hq
    · rintro ⟨rfl, -⟩
      rw [q.parsed] at h
      cases h

/-- A text has a pattern if it is well-formed and within the limits. -/
lemma exists_ofText?_iff : (∃ q, Pattern.ofText? p = some q) ↔ fits 0 0 p := by
  rw [fits_iff]
  constructor
  · rintro ⟨q, hq⟩
    obtain ⟨rfl, hsize⟩ := ofText?_eq_some_iff.mp hq
    obtain ⟨n, hn, hdepth, hregex⟩ := parse?_eq_some_iff.mp q.parsed
    exact ⟨n, hn, hdepth, hregex ▸ hsize⟩
  · rintro ⟨n, hn, hdepth, hsize⟩
    let q : Pattern := {
      text := p
      regex := n.regex
      program := n.regex.compile
      parsed := parse?_eq_some_iff.mpr ⟨n, hn, hdepth, rfl⟩
      compiled := rfl }
    exact ⟨q, ofText?_eq_some_iff.mpr ⟨rfl, hsize⟩⟩

/-- A text that closes a group that it did not open is malformed. -/
lemma parse?_of_strays (hstray : strays p = true) : parse? p = none := by
  have hfollowed := whole?_followed p
  rw [hstray] at hfollowed
  rw [parse?_eq, hfollowed.eq_none, Option.bind_none]

lemma exists_of_whole?_anchored (hstray : strays p = false) {n' : Nested}
    (hn' : whole? (Definitions.anchored p) = some n') :
    ∃ n, whole? p = some n ∧ n' = n.anchored := by
  have hfollowed := whole?_followed p
  rw [hstray, hn'] at hfollowed
  exact hfollowed.exists_of_some

/-- The anchored text is accepted if its own parenthesis is not hidden and the limits are wide
enough for it. -/
lemma fits_anchored_iff (hstray : strays p = false) :
    fits 0 0 (Definitions.anchored p) ↔ fits 2 32 p ∧ parse? (p ++ ")") = none := by
  have hfollowed := whole?_followed p
  rw [hstray] at hfollowed
  rw [fits_iff, fits_iff, parse?_eq_none_iff]
  exact hfollowed.fits_iff

end Peg.Regex

namespace Peg

open Definitions

/-- The pattern of an anchored text has the matches of the pattern of the text. -/
lemma matchLength?_anchored {p : String} (hstray : Regex.strays p = false) {q' : Pattern}
    (hq' : Pattern.ofText? (anchored p) = some q') :
    ∃ q, Pattern.ofText? p = some q ∧ ∀ w, q'.matchLength? w = q.matchLength? w := by
  obtain ⟨htext, hsize⟩ := Regex.ofText?_eq_some_iff.mp hq'
  obtain ⟨n', hn', hdepth, hregex⟩ := Regex.parse?_eq_some_iff.mp (htext ▸ q'.parsed)
  obtain ⟨n, hn, rfl⟩ := Regex.exists_of_whole?_anchored hstray hn'
  have hfits : Regex.fits 0 0 p := by
    refine Regex.fits_iff.mpr ⟨n, hn, Nat.le_of_add_right_le hdepth, ?_⟩
    rw [← hregex] at hsize
    exact Nat.le_trans (Nat.le_add_left _ _) hsize
  obtain ⟨q, hq⟩ := Regex.exists_ofText?_iff.mpr hfits
  refine ⟨q, hq, fun w => ?_⟩
  obtain ⟨n₁, hn₁, -, hregex₁⟩ :=
    Regex.parse?_eq_some_iff.mp ((Regex.ofText?_eq_some_iff.mp hq).1 ▸ q.parsed)
  obtain rfl := Option.some.inj (hn.symm.trans hn₁)
  calc q'.matchLength? w
      = (Regex.compile (.cat (.assertion .textStart) n.regex)).matchLength? w := by
        rw [Pattern.matchLength?, q'.compiled, ← hregex]
        rfl
    _ = n.regex.compile.matchLength? w := Regex.matchLength?_assertion rfl n.regex
    _ = q.matchLength? w := by
        rw [Pattern.matchLength?, q.compiled, ← hregex₁]

/-- A body that closes a group that it did not open is malformed by itself. Any other body is
accepted if it is well-formed, leaves room for the anchor within the limits, and does not end in a
comment, which would hide the parenthesis behind it; then it matches what it matches by itself. The
room of the anchor is two levels of nesting, and the 32 bytes that `Regex.automatonSize` estimates
for one state more. -/
theorem regexp_standsForItself {t : Token} (ht : t.kind = .regexp) {p : String}
    (hp : String.ofList (unescapeQuotes t.text.toList) = p) :
    (Regex.strays p = true → Regex.parse? p = none) ∧
    (Regex.strays p = false →
      (primary? t = some (.error (.invalidPattern p t.offset)) ↔
        ¬ (Regex.fits 2 32 p ∧ Regex.parse? (p ++ ")") = none)) ∧
      ∀ name q', primary? t = some (.ok (.pattern name q')) →
        ∃ q, Pattern.ofText? p = some q ∧
          ∀ (s : Source) pos, s.matchPattern? q' pos = s.matchPattern? q pos) := by
  refine ⟨Regex.parse?_of_strays, fun hstray => ?_⟩
  rw [← Regex.fits_anchored_iff hstray, ← Regex.exists_ofText?_iff]
  simp only [primary?, ht, hp]
  cases hq : Pattern.ofText? (anchored p) with
  | none => simp
  | some q' =>
    refine ⟨by simp, ?_⟩
    rintro name q'' ⟨⟩
    obtain ⟨q, hq, hmatch⟩ := matchLength?_anchored hstray hq
    exact ⟨q, hq, fun s pos => by rw [Source.matchPattern?, Source.matchPattern?, hmatch]⟩

/-- A choice of two letters is accepted and matches what it matches by itself. With the parentheses
of a group the wrong way round in it, it is malformed. -/
theorem regexp_standsForItself_choice :
    (∃ name q', primary? { kind := .regexp, text := "a|b", offset := 5 } =
        some (.ok (.pattern name q')) ∧
      ∃ q, Pattern.ofText? "a|b" = some q ∧
        ∀ (s : Source) pos, s.matchPattern? q' pos = s.matchPattern? q pos) ∧
    Regex.strays "a)|(?:b" = true ∧ Regex.parse? "a)|(?:b" = none := by
  constructor
  · have hbody : String.ofList (unescapeQuotes "a|b".toList) = "a|b" := rfl
    have hstray : Regex.strays "a|b" = false := rfl
    obtain ⟨q', hq'⟩ : ∃ q', primary? { kind := .regexp, text := "a|b", offset := 5 } =
        some (.ok (.pattern "~'a|b'" q')) := ⟨(Pattern.ofText? "^(?:a|b)").get rfl, rfl⟩
    obtain ⟨-, hmatch⟩ := (@regexp_standsForItself { kind := .regexp, text := "a|b", offset := 5 }
      rfl "a|b" hbody).2 hstray
    exact ⟨_, q', hq', hmatch _ q' hq'⟩
  · have hbody : String.ofList (unescapeQuotes "a)|(?:b".toList) = "a)|(?:b" := rfl
    have hstray : Regex.strays "a)|(?:b" = true := rfl
    exact ⟨hstray, (@regexp_standsForItself { kind := .regexp, text := "a)|(?:b", offset := 5 }
      rfl "a)|(?:b" hbody).1 hstray⟩

/-- A body that closes the anchoring group is accepted although it is malformed, and one that ends
in a comment is refused although it is well-formed. -/
theorem regexp_stray_and_hidden :
    (Pattern.ofText? "a)|(?:b" = none ∧
      ∃ name q', primary? { kind := .regexp, text := "a)|(?:b", offset := 5 } =
        some (.ok (.pattern name q'))) ∧
    ((∃ q, Pattern.ofText? "(?x)a # c" = some q) ∧
      primary? { kind := .regexp, text := "(?x)a # c", offset := 5 } =
        some (.error (.invalidPattern "(?x)a # c" 5))) := by
  refine ⟨⟨rfl, "~'a)|(?:b'", (Pattern.ofText? "^(?:a)|(?:b)").get rfl, rfl⟩, ?_, rfl⟩
  exact ⟨(Pattern.ofText? "(?x)a # c").get rfl, rfl⟩

end Peg
