import Mathlib.Tactic.Lemma
import Peg.Regex.Reader

/-!
# Escapes before a parenthesis

What a reader gives for a text and for the same text with a closing parenthesis behind it. Most
readers stop before the parenthesis and do what they do without it. The others take it as well, and
then nothing is left: it is a part of a comment, or of something that the text alone leaves open.
Here are the readers of layout, numbers and escapes.
-/

namespace Peg.Regex

open Unicode

/-! ### Results of readers -/

/-- The result for a text, beside the one for the text with the parenthesis behind it. -/
inductive Closes {α : Type} (o : Option (α × List Char)) : Option (α × List Char) → Prop where
  | left : Closes o (o.map fun p => (p.1, p.2 ++ [')']))
  | taken {x : α} (h : ∀ p, o = some p → p = (x, [])) : Closes o (some (x, []))

/-- The results of a reader for the text, without and with a parenthesis behind it. -/
structure Followed {α : Type} (cs : List Char) (o o' : Option (α × List Char)) : Prop where
  suffix : ∀ x rest, o = some (x, rest) → rest <:+ cs
  closes : Closes o o'

/-- The results of a reader that stops before the parenthesis. -/
structure Kept {α : Type} (cs : List Char) (o o' : Option (α × List Char)) : Prop where
  suffix : ∀ x rest, o = some (x, rest) → rest <:+ cs
  eq : o' = o.map fun p => (p.1, p.2 ++ [')'])

lemma Kept.followed {α : Type} {cs : List Char} {o o' : Option (α × List Char)}
    (h : Kept cs o o') : Followed cs o o' where
  suffix := h.suffix
  closes := h.eq ▸ .left

lemma Kept.mono {α : Type} {cs cs' : List Char} {o o' : Option (α × List Char)}
    (h : Kept cs o o') (hcs : cs <:+ cs') : Kept cs' o o' :=
  ⟨fun x rest ho => (h.suffix x rest ho).trans hcs, h.eq⟩

lemma kept_fail {α : Type} {cs : List Char} : Kept cs (none : Option (α × List Char)) none :=
  ⟨by simp, rfl⟩

namespace Followed

variable {α β : Type} {cs cs' rest : List Char} {o o' : Option (α × List Char)}

lemma fail : Followed cs (none : Option (α × List Char)) none where
  suffix := by simp
  closes := .left

lemma result (x : α) (h : rest <:+ cs) :
    Followed cs (some (x, rest)) (some (x, rest ++ [')'])) where
  suffix := by
    rintro _ _ ⟨⟩
    exact h
  closes := .left

/-- Only with the parenthesis there is something to read. -/
lemma only (x : α) : Followed cs none (some (x, [])) where
  suffix := by simp
  closes := .taken (by simp)

lemma nothing (x : α) : Followed cs (some (x, [])) (some (x, [])) where
  suffix := by
    rintro _ _ ⟨⟩
    exact List.nil_suffix
  closes := .taken fun _ h => (Option.some.inj h).symm

lemma mono (h : Followed cs o o') (hcs : cs <:+ cs') : Followed cs' o o' :=
  ⟨fun x rest ho => (h.suffix x rest ho).trans hcs, h.closes⟩

/-- The two results of a reader that always gives one. -/
lemma of_some {p p' : α × List Char} (h : Followed cs (some p) (some p')) :
    (∃ x rest, rest <:+ cs ∧ p = (x, rest) ∧ p' = (x, rest ++ [')'])) ∨
      ∃ x, p = (x, []) ∧ p' = (x, []) := by
  obtain ⟨hsuffix, hcloses⟩ := h
  cases hcloses with
  | left => exact Or.inl ⟨p.1, p.2, hsuffix _ _ rfl, rfl, rfl⟩
  | @taken x hx => exact Or.inr ⟨x, hx p rfl, rfl⟩

/-- A reader of nothing leaves nothing. -/
lemma taken (h : Followed [] o o') : Followed cs o o := by
  refine ⟨fun x rest ho => (h.suffix x rest ho).trans List.nil_suffix, ?_⟩
  cases o with
  | none => exact .left
  | some p =>
    obtain ⟨x, rest⟩ := p
    obtain rfl := List.suffix_nil.mp (h.suffix x rest rfl)
    exact .taken fun _ hp => (Option.some.inj hp).symm

/-- A reader that goes on from the rest; after the parenthesis was taken it goes on from nothing. -/
lemma bindWith {k k' : α × List Char → Option (β × List Char)} (h : Followed cs o o')
    (hk : ∀ x rest, rest <:+ cs → Followed rest (k (x, rest)) (k' (x, rest ++ [')'])))
    (hnil : ∀ x, k' (x, []) = k (x, [])) : Followed cs (o.bind k) (o'.bind k') := by
  have hsuffix : ∀ y rest, o.bind k = some (y, rest) → rest <:+ cs := by
    intro y rest hy
    obtain ⟨⟨x, rest'⟩, ho, hx⟩ := Option.bind_eq_some_iff.mp hy
    have hrest := h.suffix x rest' ho
    exact ((hk x rest' hrest).suffix y rest hx).trans hrest
  obtain ⟨hsuff, hcloses⟩ := h
  cases hcloses with
  | left =>
    cases o with
    | none => exact fail
    | some p =>
      obtain ⟨x, rest⟩ := p
      have hrest := hsuff x rest rfl
      exact (hk x rest hrest).mono hrest
  | @taken x hx =>
    have hown : Followed cs (k (x, [])) (k (x, [])) := taken (hk x [] List.nil_suffix)
    refine ⟨hsuffix, ?_⟩
    rw [Option.bind_some, hnil]
    cases o with
    | some p =>
      obtain rfl := hx p rfl
      exact hown.closes
    | none =>
      cases hy : k (x, []) with
      | none => exact .left
      | some q =>
        obtain ⟨y, rest⟩ := q
        obtain rfl := List.suffix_nil.mp ((hk x [] List.nil_suffix).suffix y rest hy)
        exact .taken fun _ h => by cases h

lemma bind {k : α × List Char → Option (β × List Char)} (h : Followed cs o o')
    (hk : ∀ x rest, rest <:+ cs → Followed rest (k (x, rest)) (k (x, rest ++ [')']))) :
    Followed cs (o.bind k) (o'.bind k) :=
  h.bindWith hk fun _ => rfl

/-- A step that reads nothing. -/
lemma value {γ : Type} (v : Option γ) {k k' : γ → Option (α × List Char)}
    (hk : ∀ x, Followed cs (k x) (k' x)) : Followed cs (v.bind k) (v.bind k') := by
  cases v with
  | none => exact fail
  | some x => exact hk x

lemma map (h : Followed cs o o') (g : α → β) :
    Followed cs (o.map fun p => (g p.1, p.2)) (o'.map fun p => (g p.1, p.2)) := by
  rw [Option.map_eq_bind, Option.map_eq_bind]
  exact h.bind fun x rest _ => result (g x) List.suffix_rfl

end Followed

/-! ### Layout -/

lemma dropLayout_suffix (inComment : Bool) (cs : List Char) : dropLayout inComment cs <:+ cs := by
  induction cs generalizing inComment with
  | nil => exact List.suffix_rfl
  | cons c cs ih =>
    rw [dropLayout]
    split
    · exact (ih _).trans (List.suffix_cons c cs)
    split
    · exact (ih _).trans (List.suffix_cons c cs)
    split
    · exact (ih _).trans (List.suffix_cons c cs)
    · exact List.suffix_rfl

/-- Layout ends before the parenthesis, unless it is a comment that goes on. -/
lemma dropLayout_paren (inComment : Bool) (cs : List Char) :
    dropLayout inComment (cs ++ [')']) = dropLayout inComment cs ++ [')'] ∨
      dropLayout inComment cs = [] ∧ dropLayout inComment (cs ++ [')']) = [] := by
  induction cs generalizing inComment with
  | nil =>
    cases inComment with
    | false => exact Or.inl (by decide)
    | true => exact Or.inr ⟨rfl, by decide⟩
  | cons c cs ih =>
    rw [List.cons_append, dropLayout, dropLayout]
    split
    · exact ih _
    split
    · exact ih _
    split
    · exact ih _
    · exact Or.inl rfl

namespace Flags

variable {f : Flags} {α : Type} {cs : List Char}

@[simp] lemma skip_nil : f.skip [] = [] := by
  cases hx : f.extended <;> simp [skip, hx, dropLayout]

lemma skip_suffix : f.skip cs <:+ cs := by
  rw [skip]
  split
  · exact dropLayout_suffix false cs
  · exact List.suffix_rfl

/-- The layout before a rest of the text, or all of it and the parenthesis. -/
lemma skip_cases (f : Flags) (cs : List Char) :
    (∃ rest, rest <:+ cs ∧ f.skip cs = rest ∧ f.skip (cs ++ [')']) = rest ++ [')']) ∨
      f.skip cs = [] ∧ f.skip (cs ++ [')']) = [] := by
  cases hx : f.extended with
  | false => exact Or.inl ⟨cs, List.suffix_rfl, by simp [skip, hx], by simp [skip, hx]⟩
  | true =>
    simp only [skip, hx, if_true]
    exact (dropLayout_paren false cs).imp_left fun h => ⟨_, dropLayout_suffix false cs, rfl, h⟩

lemma skip_brace (rest : List Char) : f.skip ('\x7b' :: rest) = '\x7b' :: rest := by
  rw [skip]
  split
  · rfl
  · rfl

/-- Readers that skip layout last. -/
lemma followed_skip (x : α) :
    Followed cs (some (x, f.skip cs)) (some (x, f.skip (cs ++ [')']))) := by
  rcases f.skip_cases cs with ⟨rest, hrest, h, h'⟩ | ⟨h, h'⟩
  · rw [h, h']
    exact .result x hrest
  · rw [h, h']
    exact .nothing x

/-! ### Braces and digits -/

lemma braced_followed {fuel fuel' : Nat} (hfuel : cs.length < fuel)
    (hfuel' : cs.length + 1 < fuel') :
    Followed cs (f.braced fuel cs) (f.braced fuel' (cs ++ [')'])) := by
  induction fuel generalizing fuel' cs with
  | zero => omega
  | succ fuel ih =>
    obtain ⟨fuel', rfl⟩ : ∃ k, fuel' = k + 1 := ⟨fuel' - 1, by omega⟩
    rw [braced, braced]
    rcases f.skip_cases cs with ⟨rest, hrest, h, h'⟩ | ⟨h, h'⟩
    · rw [h, h']
      have hlength := hrest.length_le
      rcases rest with _ | ⟨c, rest⟩
      · have hnil : f.braced fuel' [] = none := by cases fuel' <;> simp [braced]
        simpa [hnil] using Followed.fail
      · rw [List.length_cons] at hlength
        have hsuffix := (List.suffix_cons c rest).trans hrest
        by_cases hc : c = '\x7d'
        · subst hc
          exact .result [] hsuffix
        · have hread : Followed rest (f.braced fuel rest) (f.braced fuel' (rest ++ [')'])) :=
            ih (by omega) (by omega)
          simp only [List.cons_append]
          exact (hread.map _).mono hsuffix
    · rw [h, h']
      exact .fail

lemma hexDigits_followed (n : Nat) :
    Followed cs (f.hexDigits n cs) (f.hexDigits n (cs ++ [')'])) := by
  induction n generalizing cs with
  | zero => exact .result [] List.suffix_rfl
  | succ n ih =>
    rw [hexDigits, hexDigits]
    rcases f.skip_cases cs with ⟨rest, hrest, h, h'⟩ | ⟨h, h'⟩
    · rw [h, h']
      rcases rest with _ | ⟨c, rest⟩
      · exact .fail
      · have hsuffix := (List.suffix_cons c rest).trans hrest
        refine Followed.value (Text.hexDigit? c) fun _ => ?_
        refine (ih.bind ?_).mono hsuffix
        exact fun digits rest _ => .result (c :: digits) List.suffix_rfl
    · rw [h, h']
      exact .fail

/-- The character of hexadecimal digits, and the layout behind them. -/
lemma hexValue_followed {rest : List Char} (digits : List Char) (g : Char → Literal) :
    Followed rest
      ((Text.hexValue? digits).bind fun v => (scalar? v).bind fun c => some (g c, f.skip rest))
      ((Text.hexValue? digits).bind fun v => (scalar? v).bind fun c =>
        some (g c, f.skip (rest ++ [')']))) :=
  .value (Text.hexValue? digits) fun v => .value (scalar? v) fun _ => followed_skip _

lemma readHex_followed (n : Nat) : Followed cs (f.readHex n cs) (f.readHex n (cs ++ [')'])) := by
  rw [readHex, readHex]
  have hdigits : ∀ cs, Followed cs
      ((f.hexDigits n cs).bind fun p => (Text.hexValue? p.1).bind fun v => (scalar? v).bind fun c =>
        some (({ char := c, hexByte := n == 2 } : Literal), f.skip p.2))
      ((f.hexDigits n (cs ++ [')'])).bind fun p => (Text.hexValue? p.1).bind fun v =>
        (scalar? v).bind fun c =>
          some (({ char := c, hexByte := n == 2 } : Literal), f.skip p.2)) :=
    fun cs => (hexDigits_followed n).bind fun digits rest _ => hexValue_followed digits _
  rcases f.skip_cases cs with ⟨rest, hrest, h, h'⟩ | ⟨h, h'⟩
  · rw [h, h']
    rcases rest with _ | ⟨c, rest⟩
    · exact (hdigits []).mono hrest
    · by_cases hc : c = '\x7b'
      · subst hc
        refine Followed.mono ?_ ((List.suffix_cons _ rest).trans hrest)
        refine (braced_followed (Nat.lt_succ_self _) (by simp)).bind fun digits rest _ => ?_
        dsimp only
        split
        · exact .fail
        · exact hexValue_followed digits _
      · simp only [List.cons_append, List.cons.injEq, hc, false_and, imp_self, implies_true]
        exact (hdigits (c :: rest)).mono hrest
  · rw [h, h']
    exact (hdigits []).taken

/-- Characters of a kind in a row, and the layout after each. -/
def takeRun (f : Flags) (p : Char → Bool) : Nat → List Char → List Char × List Char
  | 0, cs => ([], cs)
  | _ + 1, [] => ([], [])
  | fuel + 1, c :: rest =>
    if p c then
      let (run, rest) := f.takeRun p fuel (f.skip rest)
      (c :: run, rest)
    else ([], c :: rest)

lemma takeRun_nil (f : Flags) (p : Char → Bool) (fuel : Nat) : f.takeRun p fuel [] = ([], []) := by
  cases fuel <;> rfl

lemma takeRun_followed {p : Char → Bool} (hp : p ')' = false) {fuel fuel' : Nat}
    (hfuel : cs.length ≤ fuel) (hfuel' : cs.length + 1 ≤ fuel') :
    Followed cs (some (f.takeRun p fuel cs)) (some (f.takeRun p fuel' (cs ++ [')']))) := by
  obtain ⟨fuel', rfl⟩ : ∃ k, fuel' = k + 1 := ⟨fuel' - 1, by omega⟩
  induction fuel generalizing fuel' cs with
  | zero =>
    obtain rfl := List.length_eq_zero_iff.mp (Nat.le_zero.mp hfuel)
    rw [List.nil_append, takeRun, takeRun, hp]
    exact .result [] List.suffix_rfl
  | succ fuel ih =>
    rcases cs with _ | ⟨c, cs⟩
    · rw [List.nil_append, takeRun, takeRun, hp]
      exact .result [] List.suffix_rfl
    · rw [List.cons_append, takeRun, takeRun]
      rw [List.length_cons] at hfuel hfuel'
      obtain ⟨fuel', rfl⟩ : ∃ k, fuel' = k + 1 := ⟨fuel' - 1, by omega⟩
      by_cases hc : p c
      · rw [if_pos hc, if_pos hc]
        rcases f.skip_cases cs with ⟨rest, hrest, h, h'⟩ | ⟨h, h'⟩
        · rw [h, h']
          have hlength := hrest.length_le
          have hread : Followed rest (some (f.takeRun p fuel rest))
              (some (f.takeRun p (fuel' + 1) (rest ++ [')']))) := ih (by omega) _ (by omega)
          exact (hread.map (c :: ·)).mono (hrest.trans (List.suffix_cons c cs))
        · rw [h, h', takeRun_nil, takeRun_nil]
          exact .nothing [c]
      · rw [if_neg hc, if_neg hc]
        exact .result [] List.suffix_rfl

lemma decimalDigits_eq (fuel : Nat) (cs : List Char) :
    f.decimalDigits fuel cs = f.takeRun Char.isDigit fuel cs := by
  fun_induction f.decimalDigits fuel cs <;> simp_all [takeRun]

lemma dropBlanks_eq (fuel : Nat) (cs : List Char) :
    f.dropBlanks fuel cs = (f.takeRun isBlank fuel cs).2 := by
  fun_induction f.dropBlanks fuel cs <;> simp_all [takeRun]

lemma edgeName_eq (fuel : Nat) (cs : List Char) :
    f.edgeName fuel cs = f.takeRun isEdgeNameChar fuel cs := by
  fun_induction f.edgeName fuel cs <;> simp_all [takeRun]

lemma dropWhile_blank_paren (cs : List Char) :
    (cs ++ [')']).dropWhile isBlank = cs.dropWhile isBlank ++ [')'] := by
  induction cs with
  | nil => rfl
  | cons c cs ih =>
    rw [List.cons_append, List.dropWhile_cons, List.dropWhile_cons]
    split
    · exact ih
    · rfl

lemma readDecimal_followed : Followed cs (f.readDecimal cs) (f.readDecimal (cs ++ [')'])) := by
  have hsuffix : cs.dropWhile isBlank <:+ cs := List.dropWhile_suffix _
  have hlength := hsuffix.length_le
  simp only [readDecimal, dropWhile_blank_paren, decimalDigits_eq, dropBlanks_eq]
  have hdigits : Followed (cs.dropWhile isBlank)
      (some (f.takeRun Char.isDigit cs.length (cs.dropWhile isBlank)))
      (some (f.takeRun Char.isDigit (cs ++ [')']).length (cs.dropWhile isBlank ++ [')']))) :=
    takeRun_followed rfl hlength (by simpa using hlength)
  refine (hdigits.bind (k := fun p =>
    let n := p.1.foldl (fun n c => 10 * n + (c.toNat - '0'.toNat)) 0
    if p.1.isEmpty ∨ UInt32.size ≤ n then none
    else some (n, (f.takeRun isBlank p.2.length p.2).2)) ?_).mono hsuffix
  intro digits rest _
  dsimp only
  split
  · exact .fail
  · have hblanks : Followed rest (some (f.takeRun isBlank rest.length rest))
        (some (f.takeRun isBlank (rest ++ [')']).length (rest ++ [')']))) :=
      takeRun_followed rfl (Nat.le_refl _) (by simp)
    exact hblanks.map fun _ => _

/-! ### Escapes -/

lemma readClassName_followed :
    Followed cs (f.readClassName cs) (f.readClassName (cs ++ [')'])) := by
  rw [readClassName, readClassName]
  rcases f.skip_cases cs with ⟨rest, hrest, h, h'⟩ | ⟨h, h'⟩
  · rw [h, h']
    rcases rest with _ | ⟨c, rest⟩
    · have hname : ∀ members : Option CharSet, Followed cs none
          (members.map fun members => (members, f.skip [])) := by
        intro members
        cases members with
        | none => exact .fail
        | some s =>
          rw [skip_nil]
          exact .only s
      exact hname (named? [')'])
    · refine Followed.mono ?_ ((List.suffix_cons c rest).trans hrest)
      by_cases hc : c = '\x7b'
      · subst hc
        refine (braced_followed (Nat.lt_succ_self _) (by simp)).bind fun name rest _ => ?_
        exact .value (namedClass? name) fun s => .result s List.suffix_rfl
      by_cases hb : c = '\\'
      · subst hb
        exact .fail
      · simp only [List.cons_append]
        cases named? [c] with
        | none => exact .fail
        | some s => exact followed_skip s
  · rw [h, h']
    exact .fail

lemma readNamedClass_followed (negated : Bool) :
    Followed cs (f.readNamedClass negated cs) (f.readNamedClass negated (cs ++ [')'])) := by
  rw [readNamedClass, readNamedClass]
  refine readClassName_followed.bind fun members rest _ => ?_
  dsimp only
  split
  · exact .result _ List.suffix_rfl
  · exact .fail

/-- An escape that the text leaves open may be one with the parenthesis: the edge of a word, before
a brace that begins nothing else. -/
inductive EscapeFollowed (f : Flags) (cs : List Char) :
    Option (Primitive × List Char) → Option (Primitive × List Char) → Prop where
  | followed {o o' : Option (Primitive × List Char)} (h : Followed cs o o') :
      EscapeFollowed f cs o o'
  | brace {a : Assertion} {rest : List Char} (h : f.readBounds rest = none) :
      EscapeFollowed f cs none (some (.assertion a, '\x7b' :: rest))

lemma readWordEdge_followed (g : WordEdge → Assertion) :
    EscapeFollowed f cs ((f.readWordEdge cs).map fun (e, rest) => (.assertion (g e), rest))
      ((f.readWordEdge (cs ++ [')'])).map fun (e, rest) => (.assertion (g e), rest)) := by
  rcases cs with _ | ⟨c, rest⟩
  · exact .followed (.result _ List.suffix_rfl)
  by_cases hc : c = '\x7b'
  · subst hc
    rw [List.cons_append, readWordEdge, readWordEdge]
    rcases f.skip_cases rest with ⟨rest', hrest, h, h'⟩ | ⟨h, h'⟩
    · rw [h, h']
      rcases rest' with _ | ⟨d, rest'⟩
      -- the text ends in the brace; with the parenthesis behind it the brace is no part of a name
      · have hbounds : f.readBounds (rest ++ [')']) = none := by
          rw [readBounds, h']
          rfl
        exact .brace hbounds
      · simp only [List.cons_append]
        by_cases hd : isEdgeNameChar d
        · simp only [hd, Bool.not_true, Bool.false_eq_true, if_false, edgeName_eq]
          have hrun : Followed (d :: rest')
              (some (f.takeRun isEdgeNameChar (rest'.length + 1) (d :: rest')))
              (some (f.takeRun isEdgeNameChar ((rest' ++ [')']).length + 1)
                (d :: (rest' ++ [')'])))) := takeRun_followed rfl (by simp) (by simp)
          rcases hrun.of_some with ⟨name, after, hafter, hread, hread'⟩ | ⟨name, hread, hread'⟩
          · rw [hread, hread']
            rcases after with _ | ⟨b, after⟩
            · exact .followed .fail
            by_cases hb : b = '\x7d'
            · subst hb
              have hsuffix := ((List.suffix_cons _ after).trans hafter).trans
                (hrest.trans (List.suffix_cons '\x7b' rest))
              simp only [List.cons_append]
              split
              all_goals first | exact .followed (.result _ hsuffix) | exact .followed .fail
            · simp only [Prod.mk.injEq, List.cons_append, List.cons.injEq, hb, false_and, and_false,
                imp_self, implies_true]
              exact .followed .fail
          · rw [hread, hread']
            exact .followed .fail
        · simp only [hd, Bool.not_false, if_true]
          exact .followed (.result _ (@List.suffix_rfl _ ('\x7b' :: rest)))
    · rw [h, h']
      exact .followed .fail
  · simp only [List.cons_append, readWordEdge, List.cons.injEq, hc, false_and, imp_self,
      implies_true]
    exact .followed (.result _ (@List.suffix_rfl _ (c :: rest)))

lemma readEscape_nil (f : Flags) : EscapeFollowed f cs (f.readEscape []) (f.readEscape [')']) :=
  .followed (.only (Primitive.literal { char := ')' }))

lemma readEscape_cons (c : Char) :
    EscapeFollowed f cs (f.readEscape (c :: cs)) (f.readEscape (c :: (cs ++ [')']))) := by
  unfold readEscape
  dsimp only
  split
  case h_1 | h_2 | h_3 => exact .followed ((readHex_followed _).map Primitive.literal)
  case h_4 | h_5 => exact .followed ((readNamedClass_followed _).map Primitive.class)
  case h_20 => exact readWordEdge_followed fun e => .word e f.unicode
  case h_24 =>
    split
    · exact .followed (.result _ List.suffix_rfl)
    · exact .followed .fail
  all_goals exact .followed (.result _ List.suffix_rfl)

lemma EscapeFollowed.mono {cs' : List Char} {o o' : Option (Primitive × List Char)}
    (h : EscapeFollowed f cs o o') (hcs : cs <:+ cs') : EscapeFollowed f cs' o o' := by
  cases h with
  | followed h => exact .followed (h.mono hcs)
  | brace h => exact .brace h

lemma readEscape_followed (cs : List Char) :
    EscapeFollowed f cs (f.readEscape cs) (f.readEscape (cs ++ [')'])) := by
  cases cs with
  | nil => exact readEscape_nil f
  | cons c cs => exact (readEscape_cons c).mono (List.suffix_cons c cs)

end Flags

end Peg.Regex
