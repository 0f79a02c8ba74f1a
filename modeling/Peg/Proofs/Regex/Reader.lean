import Peg.Proofs.Regex.CharacterClass

/-!
# Steps before a parenthesis

A step over a text, and over the text with a closing parenthesis behind it. The step that comes to
the parenthesis itself is not among them: it depends on the groups that are open.
-/

namespace Peg.Regex

/-! ### Repetitions -/

namespace Flags

variable {f : Flags} {cs : List Char}

/-- The end of the bounds of a repetition. -/
lemma closingBrace_followed (min : Nat) (max : Option Nat) :
    Followed cs
      (match cs with
        | '\x7d' :: rest => if max.all (min ≤ ·) then some ((min, max), f.skip rest) else none
        | _ => none)
      (match cs ++ [')'] with
        | '\x7d' :: rest => if max.all (min ≤ ·) then some ((min, max), f.skip rest) else none
        | _ => none) := by
  rcases cs with _ | ⟨c, rest⟩
  · exact .fail
  · by_cases hc : c = '\x7d'
    · subst hc
      refine Followed.mono ?_ (List.suffix_cons _ rest)
      show Followed rest (ite _ _ _) (ite _ _ _)
      split
      · exact followed_skip _
      · exact .fail
    · simp only [List.cons_append, List.cons.injEq, hc, false_and, imp_self, implies_true]
      exact .fail

lemma readBounds_followed : Followed cs (f.readBounds cs) (f.readBounds (cs ++ [')'])) := by
  rw [readBounds, readBounds]
  rcases f.skip_cases cs with ⟨rest, hrest, h, h'⟩ | ⟨h, h'⟩
  · rw [h, h']
    refine Followed.mono (readDecimal_followed.bind fun min rest _ => ?_) hrest
    dsimp only
    rcases rest with _ | ⟨c, rest⟩
    · exact closingBrace_followed (f := f) min (some min)
    · by_cases hc : c = ','
      · subst hc
        refine Followed.mono ?_ (List.suffix_cons _ rest)
        simp only [List.cons_append]
        rcases f.skip_cases rest with ⟨rest', hrest', h, h'⟩ | ⟨h, h'⟩
        · rw [h, h']
          refine Followed.mono ?_ hrest'
          rcases rest' with _ | ⟨d, rest'⟩
          · exact .fail
          · by_cases hd : d = '\x7d'
            · subst hd
              exact closingBrace_followed min none
            · simp only [List.cons_append, List.cons.injEq, hd, false_and, imp_self, implies_true]
              refine (@readDecimal_followed f (d :: rest')).bind fun max rest _ => ?_
              exact closingBrace_followed min (some max)
        · rw [h, h']
          exact .fail
      · simp only [List.cons_append, List.cons.injEq, hc, false_and, imp_self, implies_true]
        exact @closingBrace_followed f (c :: rest) min (some min)
  · rw [h, h']
    exact .fail

end Flags

lemma lazyMark_followed (cs : List Char) :
    Followed cs (some (lazyMark cs)) (some (lazyMark (cs ++ [')']))) := by
  rcases cs with _ | ⟨c, cs⟩
  · exact .result false List.suffix_rfl
  by_cases hc : c = '?'
  · subst hc
    exact .result true (List.suffix_cons _ cs)
  · simp only [lazyMark, List.cons_append, List.cons.injEq, hc, false_and, imp_self, implies_true]
    exact .result false List.suffix_rfl

/-! ### Groups -/

lemma readGroupName_kept (cs : List Char) :
    Kept cs (readGroupName cs) (readGroupName (cs ++ [')'])) := by
  have hsuffix : cs.dropWhile (· != '>') <:+ cs := List.dropWhile_suffix _
  have hopen : ∀ cs : List Char, cs.dropWhile (· != '>') = [] → readGroupName cs = none := by
    intro cs h
    rw [readGroupName, h]
    split
    · contradiction
    · rfl
  rcases span_cases (p := (· != '>')) rfl cs with ⟨h, h'⟩ | ⟨h, h'⟩
  · rw [hopen _ h, hopen _ h']
    exact kept_fail
  · rw [readGroupName, readGroupName, h, h']
    generalize cs.dropWhile (· != '>') = tail at hsuffix ⊢
    rcases cs.takeWhile (· != '>') with _ | ⟨c, name⟩
    · exact kept_fail
    rcases tail with _ | ⟨d, rest⟩
    · exact kept_fail
    · by_cases hd : d = '>'
      · subst hd
        show Kept cs (ite _ _ _) (ite _ _ _)
        split
        · refine ⟨?_, rfl⟩
          rintro _ _ ⟨⟩
          exact (List.suffix_cons _ rest).trans hsuffix
        · exact kept_fail
      · simpa [hd] using kept_fail

/-- The results of reading flags, which leave the character that ends them. -/
inductive FlagsFollowed (cs : List Char) :
    Option (Flags × List Char × List Char) → Option (Flags × List Char × List Char) → Prop where
  | fail : FlagsFollowed cs none none
  | result {f : Flags} {seen : List Char} {c : Char} {rest : List Char} (h : rest <:+ cs) :
      FlagsFollowed cs (some (f, seen, c :: rest)) (some (f, seen, c :: (rest ++ [')'])))
  | only {f : Flags} {seen : List Char} : FlagsFollowed cs none (some (f, seen, [')']))

lemma FlagsFollowed.mono {cs cs' : List Char} {o o' : Option (Flags × List Char × List Char)}
    (h : FlagsFollowed cs o o') (hcs : cs <:+ cs') : FlagsFollowed cs' o o' := by
  cases h with
  | fail => exact .fail
  | result h => exact .result (h.trans hcs)
  | only => exact .only

lemma Flags.readFlags_followed (f : Flags) (on : Bool) (seen cs : List Char) :
    FlagsFollowed cs (f.readFlags on seen cs) (f.readFlags on seen (cs ++ [')'])) := by
  induction cs generalizing f on seen with
  | nil =>
    rw [List.nil_append, readFlags, readFlags, if_pos (Or.inr rfl)]
    split
    · exact .fail
    · exact .only
  | cons c cs ih =>
    rw [List.cons_append, readFlags, readFlags]
    split
    · split
      · exact .fail
      · exact .result (List.suffix_cons c cs)
    split
    · exact .fail
    split
    · exact (ih f false _).mono (List.suffix_cons c cs)
    · cases f.set? on c with
      | none => exact .fail
      | some f' => exact (ih f' on _).mono (List.suffix_cons c cs)

namespace Reading

variable {cs : List Char}

/-- The reader of a named group. -/
def readNamed (r : Reading) (cs : List Char) : Option (Reading × List Char) :=
  (readGroupName cs).bind fun p =>
    if r.names.contains p.1 then none
    else some ({ r.openGroup r.flags true with names := p.1 :: r.names }, p.2)

/-- The reader of flags, for a group or for the rest of the one around. -/
def readDirective (r : Reading) (cs : List Char) : Option (Reading × List Char) :=
  (r.flags.readFlags true [] cs).bind fun p => match p.2.2 with
    | ')' :: rest =>
      if p.2.1.isEmpty then none
      else some ({ r with flags := p.1, body := r.body.push { regex := .empty, isFlags := true } },
        rest)
    | _ :: rest => some (r.openGroup p.1 false, rest)
    | [] => none

lemma readNamed_followed (r : Reading) (cs : List Char) :
    Followed cs (r.readNamed cs) (r.readNamed (cs ++ [')'])) := by
  refine (readGroupName_kept cs).followed.bind fun name rest _ => ?_
  dsimp only
  split
  · exact .fail
  · exact .result _ List.suffix_rfl

lemma readDirective_followed (r : Reading) (cs : List Char) :
    Followed cs (r.readDirective cs) (r.readDirective (cs ++ [')'])) := by
  have hflags := r.flags.readFlags_followed true [] cs
  rw [readDirective, readDirective]
  generalize r.flags.readFlags true [] cs = o at hflags ⊢
  generalize r.flags.readFlags true [] (cs ++ [')']) = o' at hflags ⊢
  cases hflags with
  | fail => exact .fail
  | @only f seen =>
    show Followed cs none (ite _ _ _)
    split
    · exact .fail
    · exact .only _
  | @result f seen c rest h =>
    refine Followed.mono ?_ h
    by_cases hc : c = ')'
    · subst hc
      show Followed rest (ite _ _ _) (ite _ _ _)
      split
      · exact .fail
      · exact .result _ List.suffix_rfl
    · simp only [Option.bind_some]
      exact .result _ List.suffix_rfl

/-- The reader of what follows a parenthesis and a question mark. -/
def readExtension (r : Reading) (cs : List Char) : Option (Reading × List Char) :=
  match cs with
  | '=' :: _ | '!' :: _ | '<' :: '=' :: _ | '<' :: '!' :: _ => none
  | 'P' :: '<' :: rest => r.readNamed rest
  | '<' :: rest => r.readNamed rest
  | rest => r.readDirective rest

lemma readOpening_eq (r : Reading) (cs : List Char) :
    r.readOpening cs = match r.flags.skip cs with
      | '?' :: rest => r.readExtension rest
      | rest => some (r.openGroup r.flags true, rest) := by
  rw [readOpening]
  generalize r.flags.skip cs = cs
  dsimp only
  rcases cs with _ | ⟨c, cs⟩
  · rfl
  by_cases hc : c = '?'
  · subst hc
    show _ = r.readExtension cs
    unfold readExtension
    split
    case h_7 heq =>
      obtain rfl := (List.cons.inj heq).2
      split
      case h_7 => rfl
      all_goals simp_all
    all_goals simp_all [readNamed]
  · simp [hc]

lemma readExtension_followed (r : Reading) (cs : List Char) :
    Followed cs (r.readExtension cs) (r.readExtension (cs ++ [')'])) := by
  rcases cs with _ | ⟨c, cs⟩
  · exact readDirective_followed r []
  by_cases hlook : c = '=' ∨ c = '!'
  · rcases hlook with rfl | rfl
    · exact .fail
    · exact .fail
  obtain ⟨heq, hbang⟩ := not_or.mp hlook
  by_cases hangle : c = '<'
  · subst hangle
    refine Followed.mono ?_ (List.suffix_cons _ cs)
    rcases cs with _ | ⟨d, cs⟩
    · exact readNamed_followed r []
    by_cases hlook : d = '=' ∨ d = '!'
    · rcases hlook with rfl | rfl
      · exact .fail
      · exact .fail
    obtain ⟨heq, hbang⟩ := not_or.mp hlook
    have hnamed := readNamed_followed r (d :: cs)
    simpa [readExtension, heq, hbang] using hnamed
  by_cases hname : c = 'P' ∧ cs.head? = some '<'
  · obtain ⟨rfl, hhead⟩ := hname
    obtain ⟨cs, rfl⟩ := List.head?_eq_some_iff.mp hhead
    exact (readNamed_followed r cs).mono ((List.suffix_cons _ cs).trans (List.suffix_cons _ _))
  have hdirective : ∀ rest : List Char, ¬ (c = 'P' ∧ rest.head? = some '<') →
      r.readExtension (c :: rest) = r.readDirective (c :: rest) := by
    intro rest hrest
    unfold readExtension
    split <;> simp_all
  rw [List.cons_append, hdirective cs hname, hdirective (cs ++ [')'])]
  · exact readDirective_followed r (c :: cs)
  · cases cs with
    | nil => simp
    | cons d cs => simpa using hname

lemma readOpening_followed (r : Reading) (cs : List Char) :
    Followed cs (r.readOpening cs) (r.readOpening (cs ++ [')'])) := by
  rw [readOpening_eq, readOpening_eq]
  rcases r.flags.skip_cases cs with ⟨rest, hrest, h, h'⟩ | ⟨h, h'⟩
  · rw [h, h']
    refine Followed.mono ?_ hrest
    rcases rest with _ | ⟨c, rest⟩
    · exact .result _ List.suffix_rfl
    by_cases hc : c = '?'
    · subst hc
      exact (readExtension_followed r rest).mono (List.suffix_cons _ rest)
    · simp only [List.cons_append, List.cons.injEq, hc, false_and, imp_self, implies_true]
      exact .result _ List.suffix_rfl
  · rw [h, h']
    exact .nothing _

/-! ### Steps -/

/-- The reader of a repetition, after its bounds. -/
def readRepetition (r : Reading) (min : Nat) (max : Option Nat) (cs : List Char) :
    Option (Reading × List Char) :=
  (r.repeatLast min max (lazyMark cs).1).bind fun r => some (r, (lazyMark cs).2)

lemma readRepetition_followed (r : Reading) (min : Nat) (max : Option Nat) (cs : List Char) :
    Followed cs (r.readRepetition min max cs) (r.readRepetition min max (cs ++ [')'])) := by
  rcases (lazyMark_followed cs).of_some with ⟨lazy, rest, hrest, h, h'⟩ | ⟨lazy, h, h'⟩
  · rw [readRepetition, readRepetition, h, h']
    exact .value (r.repeatLast min max lazy) fun r => .result r hrest
  · rw [readRepetition, readRepetition, h, h']
    exact .value (r.repeatLast min max lazy) fun r => .nothing r

/-- The results of a step; with the parenthesis it may stop at a brace that no step reads. -/
inductive StepFollowed (cs : List Char) :
    Option (Reading × List Char) → Option (Reading × List Char) → Prop where
  | followed {o o' : Option (Reading × List Char)} (h : Followed cs o o') : StepFollowed cs o o'
  | brace {r : Reading} {rest : List Char} (h : r.flags.readBounds rest = none) :
      StepFollowed cs none (some (r, '\x7b' :: rest))

lemma step_followed (r : Reading) (c : Char) (cs : List Char) :
    StepFollowed cs (r.step c cs) (r.step c (cs ++ [')'])) := by
  unfold step
  dsimp only
  split
  case h_1 => exact .followed (readOpening_followed r cs)
  case h_2 =>
    cases r.closeGroup with
    | none => exact .followed .fail
    | some r => exact .followed (.result r List.suffix_rfl)
  case h_3 => exact .followed (.result _ List.suffix_rfl)
  case h_4 =>
    refine .followed (Flags.readClass_followed.bind fun p rest _ => ?_)
    exact .result _ List.suffix_rfl
  case h_5 | h_6 | h_7 => exact .followed (readRepetition_followed r _ _ cs)
  case h_8 =>
    exact .followed (Flags.readBounds_followed.bind fun p rest _ =>
      readRepetition_followed r p.1 p.2 rest)
  case h_9 =>
    have hescape := Flags.readEscape_followed (f := r.flags) cs
    generalize r.flags.readEscape cs = o at hescape ⊢
    generalize r.flags.readEscape (cs ++ [')']) = o' at hescape ⊢
    cases hescape with
    | followed h => exact .followed (h.bind fun p rest _ => .result _ List.suffix_rfl)
    | brace h => exact .brace h
  all_goals exact .followed (.result _ List.suffix_rfl)

end Reading

end Peg.Regex
