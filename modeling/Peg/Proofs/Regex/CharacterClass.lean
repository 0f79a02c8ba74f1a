import Peg.Proofs.Regex.Escape

/-!
# Classes before a parenthesis

A class in brackets is closed before the parenthesis, or it is closed nowhere. Inside of one the
parenthesis stands for itself, so a range that the text leaves open may end at it.
-/

namespace Peg.Regex

open Unicode

/-- A run that is ended by a character that comes before the parenthesis, or by none. -/
lemma span_cases {p : Char → Bool} (hp : p ')' = true) (cs : List Char) :
    cs.dropWhile p = [] ∧ (cs ++ [')']).dropWhile p = [] ∨
      (cs ++ [')']).dropWhile p = cs.dropWhile p ++ [')'] ∧
        (cs ++ [')']).takeWhile p = cs.takeWhile p := by
  induction cs with
  | nil => exact Or.inl ⟨rfl, by simp [hp]⟩
  | cons c cs ih =>
    rw [List.cons_append]
    by_cases hc : p c
    · rw [List.dropWhile_cons_of_pos hc, List.dropWhile_cons_of_pos hc,
        List.takeWhile_cons_of_pos hc, List.takeWhile_cons_of_pos hc]
      exact ih.imp_right fun h => ⟨h.1, congrArg (c :: ·) h.2⟩
    · rw [List.dropWhile_cons_of_neg hc, List.dropWhile_cons_of_neg hc,
        List.takeWhile_cons_of_neg hc, List.takeWhile_cons_of_neg hc]
      exact Or.inr ⟨rfl, rfl⟩

namespace Flags

variable {f : Flags} {cs : List Char}

/-- The rest of a class of ASCII characters, from its name on. -/
def asciiName (f : Flags) (negated : Bool) (cs : List Char) : Option (CharSet × List Char) :=
  match cs.dropWhile (· != ':') with
  | ':' :: ']' :: after =>
    (asciiClass? (cs.takeWhile (· != ':'))).bind fun members =>
      some (f.negate negated (f.foldCase members), after)
  | _ => none

lemma asciiName_kept (negated : Bool) (cs : List Char) :
    Kept cs (f.asciiName negated cs) (f.asciiName negated (cs ++ [')'])) := by
  rw [asciiName, asciiName]
  have hsuffix : cs.dropWhile (· != ':') <:+ cs := List.dropWhile_suffix _
  rcases span_cases (p := (· != ':')) rfl cs with ⟨h, h'⟩ | ⟨h, h'⟩
  · rw [h, h']
    exact kept_fail
  · rw [h, h']
    generalize cs.dropWhile (· != ':') = tail at hsuffix ⊢
    rcases tail with _ | ⟨a, _ | ⟨b, after⟩⟩
    · exact kept_fail
    · simpa using kept_fail
    · by_cases ha : a = ':'
      · by_cases hb : b = ']'
        · subst ha hb
          simp only [List.cons_append]
          cases asciiClass? (cs.takeWhile (· != ':')) with
          | none => exact kept_fail
          | some s =>
            refine ⟨?_, rfl⟩
            rintro _ _ ⟨⟩
            exact ((List.suffix_cons _ after).trans (List.suffix_cons _ _)).trans hsuffix
        · simpa [hb] using kept_fail
      · simpa [ha] using kept_fail

lemma readAsciiClass_colon (cs : List Char) :
    f.readAsciiClass (':' :: cs) = match cs with
      | '^' :: cs => f.asciiName true cs
      | cs => f.asciiName false cs := by
  rcases cs with _ | ⟨c, cs⟩
  · rfl
  by_cases hc : c = '^'
  · subst hc
    simp only [readAsciiClass, asciiName]
    rfl
  · simp only [readAsciiClass, asciiName, List.cons.injEq, hc, false_and, imp_self, implies_true]
    rfl

lemma readAsciiClass_kept (cs : List Char) :
    Kept cs (f.readAsciiClass cs) (f.readAsciiClass (cs ++ [')'])) := by
  rcases cs with _ | ⟨c, cs⟩
  · exact kept_fail
  by_cases hc : c = ':'
  · subst hc
    rw [List.cons_append, readAsciiClass_colon, readAsciiClass_colon]
    refine Kept.mono ?_ (List.suffix_cons _ cs)
    rcases cs with _ | ⟨d, cs⟩
    · exact asciiName_kept false []
    by_cases hd : d = '^'
    · subst hd
      exact (asciiName_kept true cs).mono (List.suffix_cons _ cs)
    · simp only [List.cons_append, List.cons.injEq, hd, false_and, imp_self, implies_true]
      exact asciiName_kept false (d :: cs)
  · simpa [readAsciiClass, hc] using kept_fail

lemma readClassItem_followed (c : Char) (cs : List Char) :
    EscapeFollowed f cs (f.readClassItem (c :: cs)) (f.readClassItem (c :: (cs ++ [')']))) := by
  by_cases hc : c = '\\'
  · subst hc
    exact readEscape_followed cs
  · simp only [readClassItem]
    exact .followed (.result _ List.suffix_rfl)

/-- The parenthesis is neither of the characters that end a range early. -/
lemma peek_paren {d : Char} (hd : d = ']' ∨ d = '-') (cs : List Char) :
    (f.peek (cs ++ [')']) == some d) = (f.peek cs == some d) := by
  have hparen : (some ')' == some d) = false := by rcases hd with rfl | rfl <;> rfl
  have hd' : isBlank d = false ∧ d ≠ '#' := by
    rcases hd with rfl | rfl
    · exact ⟨by decide, by decide⟩
    · exact ⟨by decide, by decide⟩
  have hhead : (∀ c ∈ (cs.dropWhile isBlank).head?, c = '#') → (cs.head? == some d) = false := by
    intro hhash
    rcases cs with _ | ⟨c, cs⟩
    · rfl
    have hc : c ≠ d := by
      rintro rfl
      rw [List.dropWhile_cons_of_neg (by simp [hd'.1])] at hhash
      exact hd'.2 (hhash c rfl)
    simpa using hc
  rw [peek, peek]
  cases hx : f.extended with
  | false =>
    cases cs with
    | nil => exact hparen
    | cons c cs => rfl
  | true =>
    simp only [Bool.not_true, Bool.false_eq_true, if_false, dropWhile_blank_paren]
    rcases hw : cs.dropWhile isBlank with _ | ⟨c, tail⟩
    · exact hparen.trans (hhead (by simp [hw])).symm
    by_cases hc : c = '#'
    · subst hc
      simp only [List.cons_append, dropWhile_blank_paren]
      rcases tail.dropWhile isBlank with _ | ⟨e, tail'⟩
      · exact hparen.trans (hhead (by simp [hw])).symm
      · rfl
    · simp [hc]

/-- The result of a class range; it may go on up to the parenthesis if the text leaves it open. -/
inductive RangeFollowed (cs : List Char) :
    Option (CharSet × List Char) → Option (CharSet × List Char) → Prop where
  | followed {o o' : Option (CharSet × List Char)} (h : Followed cs o o') : RangeFollowed cs o o'
  | unclosed {s : CharSet} : RangeFollowed cs none (some (s, [')']))

/-- The members of a range. -/
def rangeMembers? (f : Flags) : Primitive → Primitive → Option CharSet
  | .literal a, .literal b =>
    if b.char < a.char then none
    else (f.classLiteral? a).bind fun lo => (f.classLiteral? b).map fun hi =>
      if f.unicode then (CharSet.range lo hi).inter .scalars else CharSet.range lo hi
  | _, _ => none

/-- The members of a single item of a class. -/
def itemMembers? (f : Flags) : Primitive → Option CharSet
  | .literal l => (f.classLiteral? l).map .singleton
  | .class s => some s
  | .assertion _ | .dot => none

lemma rangeMembers?_assertion (first : Primitive) (a : Assertion) :
    f.rangeMembers? first (.assertion a) = none := by
  cases first <;> rfl

lemma readClassRange_eq (cs : List Char) :
    f.readClassRange cs = (f.readClassItem cs).bind fun p => match f.skip p.2 with
      | [] => none
      | c :: rest =>
        if c != '-' || f.peek rest == some ']' || f.peek rest == some '-' then
          (f.itemMembers? p.1).map fun s => (s, c :: rest)
        else (f.readClassItem (f.skip rest)).bind fun q =>
          (f.rangeMembers? p.1 q.1).map fun s => (s, q.2) := by
  rw [readClassRange]
  refine congrArg (f.readClassItem cs).bind (funext fun p => ?_)
  obtain ⟨first, rest⟩ := p
  dsimp only
  rcases f.skip rest with _ | ⟨c, rest⟩
  · rfl
  dsimp only
  split
  · cases first with
    | literal l =>
      simp only [itemMembers?]
      cases f.classLiteral? l <;> rfl
    | «class» | assertion | dot => rfl
  · refine congrArg (f.readClassItem (f.skip rest)).bind (funext fun q => ?_)
    obtain ⟨last, rest⟩ := q
    cases first <;> cases last <;> try rfl
    next a b =>
      simp only [rangeMembers?]
      split
      · rfl
      · cases f.classLiteral? a <;> cases f.classLiteral? b <;> rfl

lemma RangeFollowed.mono {cs' : List Char} {o o' : Option (CharSet × List Char)}
    (h : RangeFollowed cs o o') (hcs : cs <:+ cs') : RangeFollowed cs' o o' := by
  cases h with
  | followed h => exact .followed (h.mono hcs)
  | unclosed => exact .unclosed

/-- A range and what follows it, where nothing can follow a parenthesis alone. -/
lemma RangeFollowed.bindWith {α : Type} {o o' : Option (CharSet × List Char)}
    {k k' : CharSet × List Char → Option (α × List Char)} (h : RangeFollowed cs o o')
    (hk : ∀ s rest, rest <:+ cs → Followed rest (k (s, rest)) (k' (s, rest ++ [')'])))
    (hnil : ∀ s, k' (s, []) = k (s, [])) (hparen : ∀ s, k' (s, [')']) = none) :
    Followed cs (o.bind k) (o'.bind k') := by
  cases h with
  | followed h => exact h.bindWith hk hnil
  | @unclosed s =>
    rw [Option.bind_none, Option.bind_some, hparen]
    exact .fail

lemma members_followed (members : Option CharSet) (cs : List Char) :
    Followed cs (members.map fun s => (s, cs)) (members.map fun s => (s, cs ++ [')'])) := by
  cases members with
  | none => exact .fail
  | some s => exact .result s List.suffix_rfl

/-- The last character of a range and what it makes of the first one. -/
lemma rangeEnd_followed (first : Primitive) (cs : List Char) :
    Followed cs
      ((f.readClassItem cs).bind fun q => (f.rangeMembers? first q.1).map fun s => (s, q.2))
      ((f.readClassItem (cs ++ [')'])).bind fun q =>
        (f.rangeMembers? first q.1).map fun s => (s, q.2)) := by
  rcases cs with _ | ⟨c, cs⟩
  · have hparen : f.readClassItem ([] ++ [')']) = some (.literal { char := ')' }, []) := rfl
    rw [hparen, Option.bind_some]
    cases f.rangeMembers? first (.literal { char := ')' }) with
    | none => exact .fail
    | some s => exact .only s
  · refine Followed.mono ?_ (List.suffix_cons c cs)
    have hitem := readClassItem_followed (f := f) c cs
    rw [← List.cons_append] at hitem
    generalize f.readClassItem (c :: cs) = o at hitem ⊢
    generalize f.readClassItem (c :: cs ++ [')']) = o' at hitem ⊢
    cases hitem with
    | followed h => exact h.bind fun last rest _ => members_followed _ rest
    | brace _ =>
      rw [Option.bind_some, rangeMembers?_assertion]
      exact .fail

/-- What follows the first character of a range. -/
lemma rangeRest_followed (first : Primitive) (cs : List Char) :
    RangeFollowed cs
      (match f.skip cs with
        | [] => none
        | c :: rest =>
          if c != '-' || f.peek rest == some ']' || f.peek rest == some '-' then
            (f.itemMembers? first).map fun s => (s, c :: rest)
          else (f.readClassItem (f.skip rest)).bind fun q =>
            (f.rangeMembers? first q.1).map fun s => (s, q.2))
      (match f.skip (cs ++ [')']) with
        | [] => none
        | c :: rest =>
          if c != '-' || f.peek rest == some ']' || f.peek rest == some '-' then
            (f.itemMembers? first).map fun s => (s, c :: rest)
          else (f.readClassItem (f.skip rest)).bind fun q =>
            (f.rangeMembers? first q.1).map fun s => (s, q.2)) := by
  rcases f.skip_cases cs with ⟨rest, hrest, h, h'⟩ | ⟨h, h'⟩
  · rw [h, h']
    refine RangeFollowed.mono ?_ hrest
    rcases rest with _ | ⟨c, rest⟩
    · show RangeFollowed [] none ((f.itemMembers? first).map fun s => (s, [')']))
      cases f.itemMembers? first with
      | none => exact .followed .fail
      | some s => exact .unclosed
    · simp only [List.cons_append, peek_paren (Or.inl rfl), peek_paren (Or.inr rfl)]
      split
      · exact .followed (members_followed _ (c :: rest))
      · refine .followed (Followed.mono ?_ (List.suffix_cons c rest))
        rcases f.skip_cases rest with ⟨rest', hrest', h, h'⟩ | ⟨h, h'⟩
        · rw [h, h']
          exact (rangeEnd_followed first rest').mono hrest'
        · rw [h, h']
          exact .fail
  · rw [h, h']
    exact .followed .fail

lemma readClassRange_followed (c : Char) (cs : List Char) :
    RangeFollowed cs (f.readClassRange (c :: cs)) (f.readClassRange (c :: (cs ++ [')']))) := by
  rw [readClassRange_eq, readClassRange_eq]
  have hitem := readClassItem_followed (f := f) c cs
  generalize f.readClassItem (c :: cs) = o at hitem ⊢
  generalize f.readClassItem (c :: (cs ++ [')'])) = o' at hitem ⊢
  cases hitem with
  | followed h =>
    obtain ⟨hsuffix, hcloses⟩ := h
    cases hcloses with
    | left =>
      cases o with
      | none => exact .followed .fail
      | some p => exact (rangeRest_followed p.1 p.2).mono (hsuffix p.1 p.2 rfl)
    | taken h =>
      simp only [Option.bind_some, skip_nil]
      cases o with
      | none => exact .followed .fail
      | some p =>
        obtain rfl := h p rfl
        simp only [Option.bind_some, skip_nil]
        exact .followed .fail
  | brace _ =>
    simp only [Option.bind_some, skip_brace]
    exact .followed .fail

lemma readHyphens_nil (fuel : Nat) (u : ClassUnion) : f.readHyphens fuel u [] = (u, []) := by
  cases fuel <;> rfl

lemma readHyphens_of_ne {c : Char} (hc : c ≠ '-') (fuel : Nat) (u : ClassUnion) (cs : List Char) :
    f.readHyphens fuel u (c :: cs) = (u, c :: cs) := by
  cases fuel <;> simp [readHyphens, hc]

lemma readHyphens_followed {fuel fuel' : Nat} (hfuel : cs.length ≤ fuel)
    (hfuel' : cs.length + 1 ≤ fuel') (u : ClassUnion) :
    Followed cs (some (f.readHyphens fuel u cs)) (some (f.readHyphens fuel' u (cs ++ [')']))) := by
  obtain ⟨fuel', rfl⟩ : ∃ k, fuel' = k + 1 := ⟨fuel' - 1, by omega⟩
  induction fuel generalizing fuel' cs u with
  | zero =>
    obtain rfl := List.length_eq_zero_iff.mp (Nat.le_zero.mp hfuel)
    exact .result u List.suffix_rfl
  | succ fuel ih =>
    rcases cs with _ | ⟨c, cs⟩
    · exact .result u List.suffix_rfl
    by_cases hc : c = '-'
    · subst hc
      rw [List.length_cons] at hfuel hfuel'
      obtain ⟨fuel', rfl⟩ : ∃ k, fuel' = k + 1 := ⟨fuel' - 1, by omega⟩
      rw [List.cons_append, readHyphens, readHyphens]
      refine Followed.mono ?_ (List.suffix_cons _ cs)
      rcases f.skip_cases cs with ⟨rest, hrest, h, h'⟩ | ⟨h, h'⟩
      · rw [h, h']
        have hlength := hrest.length_le
        exact (ih (by omega) _ fuel' (by omega)).mono hrest
      · rw [h, h', readHyphens_nil, readHyphens_nil]
        exact .nothing _
    · rw [List.cons_append, readHyphens_of_ne hc, readHyphens_of_ne hc]
      exact .result u List.suffix_rfl

/-- The mark of negation of a class. -/
def classMark (f : Flags) (cs : List Char) : Bool × List Char :=
  match f.skip cs with
  | '^' :: rest => (true, f.skip rest)
  | rest => (false, rest)

lemma classMark_followed :
    Followed cs (some (f.classMark cs)) (some (f.classMark (cs ++ [')']))) := by
  rw [classMark, classMark]
  rcases f.skip_cases cs with ⟨rest, hrest, h, h'⟩ | ⟨h, h'⟩
  · rw [h, h']
    refine Followed.mono ?_ hrest
    rcases rest with _ | ⟨c, rest⟩
    · exact .result false List.suffix_rfl
    by_cases hc : c = '^'
    · subst hc
      exact (followed_skip true).mono (List.suffix_cons _ rest)
    · simp only [List.cons_append, List.cons.injEq, hc, false_and, imp_self, implies_true]
      exact .result false (@List.suffix_rfl _ (c :: rest))
  · rw [h, h']
    exact .nothing false

/-- A closing bracket at the start of a class stands for itself. -/
def classBracket (f : Flags) (u : ClassUnion) (cs : List Char) : ClassUnion × List Char :=
  match u.count, cs with
  | 0, ']' :: rest => (u.add (.singleton 0x5D), f.skip rest)
  | _, rest => (u, rest)

lemma classBracket_nil (f : Flags) (u : ClassUnion) : f.classBracket u [] = (u, []) := by
  unfold classBracket
  cases u.count <;> rfl

lemma classBracket_followed (u : ClassUnion) :
    Followed cs (some (f.classBracket u cs)) (some (f.classBracket u (cs ++ [')']))) := by
  unfold classBracket
  cases u.count with
  | succ n => exact .result u List.suffix_rfl
  | zero =>
    rcases cs with _ | ⟨c, cs⟩
    · exact .result u List.suffix_rfl
    by_cases hc : c = ']'
    · subst hc
      exact (followed_skip _).mono (List.suffix_cons _ cs)
    · simp only [List.cons_append, List.cons.injEq, hc, false_and, imp_self, implies_true]
      exact .result u List.suffix_rfl

lemma readClassStart_eq (fuel : Nat) (cs : List Char) :
    f.readClassStart fuel cs =
      ((f.classMark cs).1, f.classBracket (f.readHyphens fuel {} (f.classMark cs).2).1
        (f.readHyphens fuel {} (f.classMark cs).2).2) := by
  unfold readClassStart classBracket
  show (match (f.readHyphens fuel {} (f.classMark cs).2).1.count,
    (f.readHyphens fuel {} (f.classMark cs).2).2 with | 0, ']' :: rest => _ | _, rest => _) = _
  split <;> rfl

/-- The start of a class: either the parenthesis is left, or nothing is, with it and without. -/
lemma readClassStart_cases {fuel fuel' : Nat} (hfuel : cs.length ≤ fuel)
    (hfuel' : cs.length + 1 ≤ fuel') :
    (∃ negated u rest, rest <:+ cs ∧ f.readClassStart fuel cs = (negated, u, rest) ∧
        f.readClassStart fuel' (cs ++ [')']) = (negated, u, rest ++ [')'])) ∨
      ∃ negated u, f.readClassStart fuel cs = (negated, u, []) ∧
        f.readClassStart fuel' (cs ++ [')']) = (negated, u, []) := by
  rw [readClassStart_eq, readClassStart_eq]
  rcases classMark_followed.of_some with ⟨negated, rest, hrest, h, h'⟩ | ⟨negated, h, h'⟩
  · rw [h, h']
    have hlength := hrest.length_le
    have hhyphens : Followed rest (some (f.readHyphens fuel {} rest))
        (some (f.readHyphens fuel' {} (rest ++ [')']))) :=
      readHyphens_followed (by omega) (by omega) {}
    rcases hhyphens.of_some with ⟨u, rest', hrest', h, h'⟩ | ⟨u, h, h'⟩
    · rw [h, h']
      rcases (classBracket_followed u).of_some with ⟨u', rest'', hrest'', h, h'⟩ | ⟨u', h, h'⟩
      · rw [h, h']
        exact Or.inl ⟨negated, u', rest'', (hrest''.trans hrest').trans hrest, rfl, rfl⟩
      · rw [h, h']
        exact Or.inr ⟨negated, u', rfl, rfl⟩
    · rw [h, h', classBracket_nil]
      exact Or.inr ⟨negated, u, rfl, rfl⟩
  · rw [h, h', readHyphens_nil, readHyphens_nil, classBracket_nil]
    exact Or.inr ⟨negated, {}, rfl, rfl⟩

/-- The operator that the character is a half of. -/
def operator? : Char → Option ClassOperator
  | '&' => some .intersection
  | '-' => some .difference
  | '~' => some .symmetricDifference
  | _ => none

/-- The operator between two unions. -/
def classOperator? : List Char → Option (ClassOperator × List Char)
  | c :: d :: rest => if c = d then (operator? c).map fun op => (op, rest) else none
  | _ => none

lemma classOperator?_kept (c : Char) (cs : List Char) :
    Kept cs (classOperator? (c :: cs)) (classOperator? (c :: (cs ++ [')']))) := by
  rcases cs with _ | ⟨d, rest⟩
  · have hnone : classOperator? [c, ')'] = none := by
      rw [classOperator?]
      split
      · subst c
        rfl
      · rfl
    exact hnone ▸ kept_fail
  · simp only [List.cons_append, classOperator?]
    split
    · cases operator? c with
      | none => exact kept_fail
      | some op => exact ⟨fun _ _ h => by cases h; exact List.suffix_cons d rest, rfl⟩
    · exact kept_fail

lemma readClassBody_succ (fuel : Nat) (c : OpenClass) (outer : List OpenClass) (u : ClassUnion) :
    f.readClassBody (fuel + 1) c outer u cs = match f.skip cs with
      | [] => none
      | '[' :: rest => match f.readAsciiClass rest with
        | some (s, rest) => f.readClassBody fuel c outer (u.add s) rest
        | none => f.readClassBody fuel { negated := (f.readClassStart fuel rest).1, outer := u }
            (c :: outer) (f.readClassStart fuel rest).2.1 (f.readClassStart fuel rest).2.2
      | ']' :: rest => match outer with
        | [] => some (f.closeClass c u, rest)
        | c' :: outer => f.readClassBody fuel c' outer
            (c.outer.add (f.closeClass c u).1 (f.closeClass c u).2) rest
      | rest => match classOperator? rest with
        | some (op, rest) => f.readClassBody fuel
            { c with waiting := some ((f.finishUnion c u).1, (f.finishUnion c u).2, op) }
            outer {} rest
        | none => (f.readClassRange rest).bind fun p =>
            f.readClassBody fuel c outer (u.add p.1) p.2 := by
  rw [readClassBody]
  generalize f.skip cs = cs
  dsimp only
  split
  case h_1 | h_2 | h_3 => rfl
  case h_4 | h_5 | h_6 => rfl
  case h_7 =>
    have hnone : classOperator? cs = none := by
      unfold classOperator?
      split
      · split
        · subst_vars
          unfold operator?
          split <;> simp_all
        · rfl
      · rfl
    cases hrange : f.readClassRange cs <;> dsimp only <;> split <;> simp_all

lemma readClassBody_nil (fuel : Nat) (c : OpenClass) (outer : List OpenClass) (u : ClassUnion) :
    f.readClassBody fuel c outer u [] = none := by
  cases fuel with
  | zero => rfl
  | succ fuel => rw [readClassBody_succ, skip_nil]

lemma skip_paren (f : Flags) : f.skip [')'] = [')'] := by
  cases hx : f.extended <;> simp [skip, hx, dropLayout, isBlank]

lemma readClassRange_paren (f : Flags) : f.readClassRange [')'] = none := by
  rw [readClassRange_eq, readClassItem, Option.bind_some, skip_nil]
  decide

lemma readClassBody_paren (fuel : Nat) (c : OpenClass) (outer : List OpenClass) (u : ClassUnion) :
    f.readClassBody fuel c outer u [')'] = none := by
  cases fuel with
  | zero => rfl
  | succ fuel =>
    rw [readClassBody_succ, skip_paren]
    simp [classOperator?, readClassRange_paren]

/-- A class is closed before the parenthesis, or not at all. -/
lemma readClassBody_followed {fuel fuel' : Nat} (hfuel : cs.length < fuel)
    (hfuel' : cs.length + 1 < fuel') (c : OpenClass) (outer : List OpenClass) (u : ClassUnion) :
    Followed cs (f.readClassBody fuel c outer u cs)
      (f.readClassBody fuel' c outer u (cs ++ [')'])) := by
  induction fuel generalizing fuel' cs c outer u with
  | zero => omega
  | succ fuel ih =>
    obtain ⟨fuel', rfl⟩ : ∃ k, fuel' = k + 1 := ⟨fuel' - 1, by omega⟩
    rw [readClassBody_succ, readClassBody_succ]
    rcases f.skip_cases cs with ⟨rest, hrest, h, h'⟩ | ⟨h, h'⟩
    · have hlength := hrest.length_le
      rw [h, h']
      refine Followed.mono ?_ hrest
      -- a shorter text is read on in the same way
      have hread : ∀ {rest' : List Char}, rest'.length < rest.length → ∀ c outer u,
          Followed rest' (f.readClassBody fuel c outer u rest')
            (f.readClassBody fuel' c outer u (rest' ++ [')'])) := fun hrest' c outer u =>
        ih (by omega) (by omega) c outer u
      rcases rest with _ | ⟨d, rest⟩
      · simpa [classOperator?, readClassRange_paren] using Followed.fail
      rw [List.length_cons] at hlength hread
      by_cases hopen : d = '['
      · subst hopen
        refine Followed.mono ?_ (List.suffix_cons _ rest)
        simp only [List.cons_append]
        obtain ⟨hsuffix, hkept⟩ := readAsciiClass_kept (f := f) rest
        rw [hkept]
        cases hclass : f.readAsciiClass rest with
        | some p =>
          have hp := hsuffix p.1 p.2 hclass
          exact (hread (Nat.lt_succ_of_le hp.length_le) c outer _).mono hp
        | none =>
          have hstart : _ ∨ _ := readClassStart_cases (f := f) (by omega : rest.length ≤ fuel)
            (by omega : rest.length + 1 ≤ fuel')
          rcases hstart with ⟨negated, u', rest', hrest', h, h'⟩ | ⟨negated, u', h, h'⟩
          · simp only [Option.map_none, h, h']
            exact (hread (Nat.lt_succ_of_le hrest'.length_le) _ _ u').mono hrest'
          · simp only [Option.map_none, h, h', readClassBody_nil]
            exact .fail
      by_cases hclose : d = ']'
      · subst hclose
        refine Followed.mono ?_ (List.suffix_cons _ rest)
        simp only [List.cons_append]
        cases outer with
        | nil => exact .result _ List.suffix_rfl
        | cons c' outer => exact hread (Nat.lt_succ_self _) c' outer _
      simp only [List.cons_append, List.cons.injEq, hopen, hclose, false_and, imp_self,
        implies_true]
      refine Followed.mono ?_ (List.suffix_cons d rest)
      obtain ⟨hsuffix, hkept⟩ := classOperator?_kept d rest
      rw [hkept]
      cases hop : classOperator? (d :: rest) with
      | some p =>
        have hp := hsuffix p.1 p.2 hop
        exact (hread (Nat.lt_succ_of_le hp.length_le) _ outer {}).mono hp
      | none =>
        refine (readClassRange_followed d rest).bindWith ?_ ?_ ?_
        · exact fun s rest' hrest' => hread (Nat.lt_succ_of_le hrest'.length_le) c outer _
        · exact fun s => (readClassBody_nil fuel' c outer _).trans
            (readClassBody_nil fuel c outer _).symm
        · exact fun s => readClassBody_paren fuel' c outer _
    · rw [h, h']
      exact .fail

lemma readClass_followed : Followed cs (f.readClass cs) (f.readClass (cs ++ [')'])) := by
  have hstart : _ ∨ _ := readClassStart_cases (f := f) (by omega : cs.length ≤ cs.length + 1)
    (by simp : cs.length + 1 ≤ (cs ++ [')']).length + 1)
  rw [readClass, readClass]
  rcases hstart with ⟨negated, u, rest, hrest, h, h'⟩ | ⟨negated, u, h, h'⟩
  · have hlength := hrest.length_le
    simp only [h, h']
    exact (readClassBody_followed (by omega) (by simp; omega) _ [] u).mono hrest
  · simp only [h, h', readClassBody_nil]
    exact .fail

end Flags

end Peg.Regex
