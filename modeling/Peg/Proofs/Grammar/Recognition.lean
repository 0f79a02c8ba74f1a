import Mathlib.Data.List.Nodup
import Peg.Proofs.Grammar.Syntax
import Peg.Proofs.Rule
import Peg.Proofs.Token.Lexer

/-!
# Reading follows the syntax

The definitions read from a grammar text are those of its tokens in the syntax, and reading fails if
the syntax has none. In one direction, the tokens of an expression take the reader from where it
stands to behind that expression. In the other one, it is an invariant of the reader that the tokens
taken so far are what the draft says, up to expressions and groups that are still open.
-/

namespace Peg

namespace Definitions

open Syntax

/-- The tokens take the one draft to the other. -/
inductive Draft.Takes : Draft → List Token → Draft → Prop where
  | nil {d : Draft} : Takes d [] d
  | cons {d d' d'' : Draft} {t : Token} {ts : List Token} (h : d.step t = .ok (.more d'))
      (hrest : Takes d' ts d'') : Takes d (t :: ts) d''

namespace Draft.Takes

variable {d d' d'' : Draft} {ts us : List Token}

lemma append (h : d.Takes ts d') (h' : d'.Takes us d'') : d.Takes (ts ++ us) d'' := by
  induction h with
  | nil => exact h'
  | cons hstep _ ih => exact .cons hstep (ih h')

lemma snoc {t : Token} (h : d.Takes ts d') (ht : d'.step t = .ok (.more d'')) :
    d.Takes (ts ++ [t]) d'' :=
  h.append (.cons ht .nil)

lemma read (h : d.Takes ts d') (taken last : Nat) (rest : List Token.Item) :
    ∃ taken' last', d.read taken last (ts.map .ok ++ rest) = d'.read taken' last' rest := by
  induction h generalizing taken last with
  | nil => exact ⟨taken, last, rfl⟩
  | @cons d _ _ t ts hstep _ ih =>
    obtain ⟨taken', last', hread⟩ := ih (taken + 1) t.offset
    refine ⟨taken', last', ?_⟩
    rw [← hread]
    simp only [List.map_cons, List.cons_append, Draft.read, hstep]

end Draft.Takes

lemma suffix?_eq_some {kind : Token.Kind} {r r' : Rule} :
    suffix? kind r = some r' ↔ IsSuffix kind r r' := by
  constructor
  · intro h
    cases kind <;> cases h <;> constructor
  · rintro ⟨⟩ <;> rfl

/-! ### Tokens of expressions -/

section

variable {name : String} {definitions : List Rule} {offset : Nat} {e : Expression}
  {outer : List Expression} {afterPrimary : Bool} {newlines : Bool}

lemma takes_blanks {blanks : List Token} (h : Blanks newlines blanks)
    (hgroup : newlines = true → outer ≠ []) :
    ∃ afterPrimary', Draft.Takes ⟨definitions, .body name offset e outer afterPrimary⟩ blanks
      ⟨definitions, .body name offset e outer afterPrimary'⟩ := by
  induction blanks generalizing afterPrimary with
  | nil => exact ⟨_, .nil⟩
  | cons t blanks ih =>
    rw [Blanks, List.forall_mem_cons] at h
    obtain ⟨ht, hblanks⟩ := h
    obtain ⟨afterPrimary', htakes⟩ := @ih false hblanks
    refine ⟨afterPrimary', .cons ?_ htakes⟩
    rcases ht with ht | ⟨hnewlines, ht⟩
    · simp [Draft.step, Draft.stepBody, ht]
    · obtain ⟨e', outer, rfl⟩ := List.exists_cons_of_ne_nil (hgroup hnewlines)
      simp [Draft.step, Draft.stepBody, ht]

lemma step_primary {t : Token} {r : Rule} (h : primary? t = some (.ok r)) :
    Draft.step ⟨definitions, .body name offset e outer afterPrimary⟩ t =
      .ok (.more ⟨definitions, .body name offset (e.push r) outer true⟩) := by
  cases hkind : t.kind <;> simp [Draft.step, Draft.stepBody, hkind, h] <;>
    simp [primary?, hkind] at h

lemma step_suffix {t : Token} {r r' : Rule} (h : IsSuffix t.kind r r') :
    Draft.step ⟨definitions, .body name offset (e.push r) outer true⟩ t =
      .ok (.more ⟨definitions, .body name offset (e.push r') outer true⟩) := by
  have hsuffix := suffix?_eq_some.mpr h
  cases hkind : t.kind <;> rw [hkind] at h <;> cases h <;>
    simp [Draft.step, Draft.stepBody, hkind, Expression.push, suffix?]

end

/-! ### Expressions -/

section

variable {name : String} (definitions : List Rule) (offset : Nat)

mutual

lemma takes_of_isPrimary {ts : List Token} {r : Rule} (h : IsPrimary name ts r) (e : Expression)
    (outer : List Expression) (afterPrimary : Bool) :
    Draft.Takes ⟨definitions, .body name offset e outer afterPrimary⟩ ts
      ⟨definitions, .body name offset (e.push r) outer true⟩ := by
  match h with
  | .literal ht => exact .cons (step_primary (by simp [primary?, ht])) .nil
  | .regexp ht hp => exact .cons (step_primary (by simp [primary?, ht, hp])) .nil
  | .reference ht =>
    refine .cons (step_primary ?_) .nil
    rcases ht with ht | ht <;> simp [primary?, ht]
  | .group hleft h hblanks hright =>
    have hgroup : true = true → e :: outer ≠ [] := fun _ => List.cons_ne_nil e outer
    obtain ⟨e', after, hfinish, htakes⟩ := takes_of_isExpression h [] (e :: outer) false hgroup
    obtain ⟨after', htakes'⟩ := takes_blanks hblanks hgroup
    refine .cons ?_ ((htakes.append htakes').snoc ?_)
    · simp [Draft.step, Draft.stepBody, hleft]
    · rw [List.foldl_nil] at hfinish
      simp [Draft.step, Draft.stepBody, hright, hfinish]

lemma takes_of_isPostfix {ts : List Token} {r : Rule} (h : IsPostfix name ts r) (e : Expression)
    (outer : List Expression) (afterPrimary : Bool) :
    Draft.Takes ⟨definitions, .body name offset e outer afterPrimary⟩ ts
      ⟨definitions, .body name offset (e.push r) outer true⟩ := by
  match h with
  | .primary h => exact takes_of_isPrimary h e outer afterPrimary
  | .suffix h ht => exact (takes_of_isPostfix h e outer afterPrimary).snoc (step_suffix ht)

lemma takes_of_areParts {newlines : Bool} {ts : List Token} {rs : List Rule}
    (h : AreParts name newlines ts rs) (e : Expression) (outer : List Expression)
    (afterPrimary : Bool) (hgroup : newlines = true → outer ≠ []) :
    ∃ afterPrimary', Draft.Takes ⟨definitions, .body name offset e outer afterPrimary⟩ ts
      ⟨definitions, .body name offset { e with parts := rs.reverse ++ e.parts } outer
        afterPrimary'⟩ := by
  match h with
  | .nil => exact ⟨_, .nil⟩
  | .cons (r := r) hblanks h hrest =>
    obtain ⟨before, htakes⟩ := takes_blanks hblanks hgroup
    obtain ⟨after, htakes'⟩ := takes_of_areParts hrest (e.push r) outer true hgroup
    refine ⟨after, (htakes.append (takes_of_isPostfix h e outer before)).append ?_⟩
    simpa [Expression.push] using htakes'

lemma takes_of_isSequence {newlines : Bool} {ts : List Token} {r : Rule}
    (h : IsSequence name newlines ts r) (alternatives : List Rule) (outer : List Expression)
    (afterPrimary : Bool) (hgroup : newlines = true → outer ≠ []) :
    ∃ e afterPrimary', e.alternatives = alternatives ∧ e.lastAlternative? name = some r ∧
      Draft.Takes ⟨definitions, .body name offset { alternatives } outer afterPrimary⟩ ts
        ⟨definitions, .body name offset e outer afterPrimary'⟩ := by
  match h with
  | .single h =>
    obtain ⟨after, htakes⟩ := takes_of_areParts h { alternatives } outer afterPrimary hgroup
    exact ⟨_, after, rfl, by simp [Expression.lastAlternative?], htakes⟩
  | .concat h =>
    obtain ⟨after, htakes⟩ := takes_of_areParts h { alternatives } outer afterPrimary hgroup
    exact ⟨_, after, rfl, by simp [Expression.lastAlternative?], htakes⟩

/-- With so many alternatives before it, an expression is the last of the choices. -/
lemma takes_of_isExpression {newlines : Bool} {ts : List Token} {r : Rule}
    (h : IsExpression name newlines ts r) (alternatives : List Rule) (outer : List Expression)
    (afterPrimary : Bool) (hgroup : newlines = true → outer ≠ []) :
    ∃ e afterPrimary', e.finish? name =
        some (alternatives.foldl (fun choice left => .alternate name left choice) r) ∧
      Draft.Takes ⟨definitions, .body name offset { alternatives } outer afterPrimary⟩ ts
        ⟨definitions, .body name offset e outer afterPrimary'⟩ := by
  match h with
  | .single h =>
    obtain ⟨e, after, rfl, hlast, htakes⟩ :=
      takes_of_isSequence h alternatives outer afterPrimary hgroup
    exact ⟨e, after, by simp [Expression.finish?, hlast], htakes⟩
  | .choice (r := r) h hblanks hslash hrest =>
    obtain ⟨e, after, rfl, hlast, htakes⟩ :=
      takes_of_isSequence h alternatives outer afterPrimary hgroup
    obtain ⟨after', htakes'⟩ := takes_blanks hblanks hgroup
    obtain ⟨e', after'', hfinish, htakes''⟩ :=
      takes_of_isExpression hrest (r :: e.alternatives) outer false hgroup
    refine ⟨e', after'', hfinish, (htakes.append htakes').append (.cons ?_ htakes'')⟩
    simp [Draft.step, Draft.stepBody, hslash, Expression.nextAlternative?, hlast]

end

end

/-! ### Definitions and programs -/

section

variable {definitions : List Rule}

lemma takes_of_forall_step {d : Draft} {ts : List Token}
    (h : ∀ t ∈ ts, d.step t = .ok (.more d)) : d.Takes ts d := by
  induction ts with
  | nil => exact .nil
  | cons t ts ih =>
    rw [List.forall_mem_cons] at h
    exact .cons h.1 (ih h.2)

lemma takes_layout {layout : List Token} (h : Blanks true layout) :
    Draft.Takes ⟨definitions, .between⟩ layout ⟨definitions, .between⟩ := by
  refine takes_of_forall_step fun t ht => ?_
  rcases h t ht with hkind | ⟨-, hkind⟩ <;> simp [Draft.step, hkind]

lemma takes_of_isDefinition (definitions : List Rule) {ts : List Token} {r : Rule}
    (h : IsDefinition ts r) :
    ∃ name offset body e afterPrimary, r = body.rename name ∧ e.finish? name = some body ∧
      Draft.Takes ⟨definitions, .between⟩ ts
        ⟨definitions, .body name offset e [] afterPrimary⟩ := by
  obtain @⟨t, arrow, before, ts, after, body, ht, hbefore, harrow, h, hafter⟩ := h
  have hbefore : Draft.Takes ⟨definitions, .named t.text t.offset⟩ before
      ⟨definitions, .named t.text t.offset⟩ := by
    refine takes_of_forall_step fun u hu => ?_
    have hkind : u.kind = .whitespace := by simpa using hbefore u hu
    simp [Draft.step, hkind]
  obtain ⟨e, afterPrimary, hfinish, htakes⟩ :=
    takes_of_isExpression definitions t.offset h [] [] false (by simp)
  obtain ⟨afterPrimary', htakes'⟩ := takes_blanks hafter (by simp)
  refine ⟨t.text, t.offset, body, e, afterPrimary', rfl, hfinish, .cons ?_ (hbefore.append
    (.cons ?_ (htakes.append htakes')))⟩
  · simp [Draft.step, ht]
  · simp [Draft.step, harrow]

lemma define_eq_ok {d d' : Draft} {name : String} {offset : Nat} {body : Rule} :
    d.define name offset body = .ok d' ↔
      (∀ r ∈ d.definitions, r.name ≠ name) ∧
        ⟨body.rename name :: d.definitions, .between⟩ = d' := by
  by_cases h : d.definitions.any (·.name == name)
  · have hnot : ¬ ∀ r ∈ d.definitions, r.name ≠ name := by simpa using h
    simp [Draft.define, h, hnot]
  · have hall : ∀ r ∈ d.definitions, r.name ≠ name := by simpa using h
    simpa [Draft.define, h] using fun _ => hall

lemma define_of_nodup (stage : Stage) {name : String} (offset : Nat) {body : Rule} {rs : List Rule}
    (h : ((definitions.reverse ++ body.rename name :: rs).map Rule.name).Nodup) :
    Draft.define ⟨definitions, stage⟩ name offset body =
      .ok ⟨body.rename name :: definitions, .between⟩ := by
  refine define_eq_ok.mpr ⟨fun q hq => ?_, rfl⟩
  rw [List.map_append, List.map_cons, List.nodup_append, Rule.name_rename] at h
  exact h.2.2 q.name (by simpa using ⟨q, hq, rfl⟩) name List.mem_cons_self

/-- A program is read to its definitions. -/
lemma read_of_isProgram {ts : List Token} {rs : List Rule} (h : IsProgram ts rs)
    (hdistinct : ((definitions.reverse ++ rs).map Rule.name).Nodup)
    (hne : definitions.reverse ++ rs ≠ []) (taken last : Nat) :
    ((⟨definitions, .between⟩ : Draft).read taken last (ts.map .ok)).result =
      .ok (definitions.reverse ++ rs) := by
  induction h generalizing definitions taken last with
  | @finish t layout hlayout ht =>
    obtain ⟨taken', last', hread⟩ := (takes_layout hlayout).read taken last [.ok t]
    rw [List.append_nil] at hne ⊢
    have hempty : definitions.isEmpty = false := by simpa using hne
    rw [List.map_append, List.map_singleton, hread]
    simp [Draft.read, Draft.step, ht, hempty]
  | @line t layout ts rest r rs hlayout h ht hrest ih =>
    obtain ⟨name, offset, body, e, afterPrimary, rfl, hfinish, htakes⟩ :=
      takes_of_isDefinition definitions h
    have hdefine := define_of_nodup (.body name offset e [] afterPrimary) offset hdistinct
    have hstep : Draft.step ⟨definitions, .body name offset e [] afterPrimary⟩ t =
        .ok (.more ⟨body.rename name :: definitions, .between⟩) := by
      simp [Draft.step, Draft.stepBody, ht, hfinish, hdefine, Except.map]
    obtain ⟨taken', last', hread⟩ := (((takes_layout hlayout).append htakes).snoc hstep).read
      taken last (rest.map .ok)
    have hrs := @ih (body.rename name :: definitions) (by simpa using hdistinct) (by simp)
      taken' last'
    rw [List.append_cons, List.map_append, hread, hrs]
    simp
  | @last t layout ts r hlayout h ht =>
    obtain ⟨name, offset, body, e, afterPrimary, rfl, hfinish, htakes⟩ :=
      takes_of_isDefinition definitions h
    have hdefine := define_of_nodup (.body name offset e [] afterPrimary) offset hdistinct
    obtain ⟨taken', last', hread⟩ := ((takes_layout hlayout).append htakes).read
      taken last [.ok t]
    rw [List.map_append, List.map_singleton, hread]
    simp [Draft.read, Draft.step, Draft.stepBody, ht, hfinish, hdefine, Except.map]

end

/-! ### Parts -/

section

variable {name : String} {newlines : Bool}

lemma areParts_append {ts us : List Token} {rs ss : List Rule} (h : AreParts name newlines ts rs)
    (h' : AreParts name newlines us ss) : AreParts name newlines (ts ++ us) (rs ++ ss) := by
  induction rs generalizing ts with
  | nil =>
    cases h
    exact h'
  | cons r rs ih =>
    obtain ⟨⟩ | ⟨hblanks, h, hrest⟩ := h
    simpa using AreParts.cons hblanks h (ih hrest)

lemma areParts_snoc {ts : List Token} {rs : List Rule} {r : Rule} :
    AreParts name newlines ts (rs ++ [r]) ↔ ∃ before blanks us, ts = before ++ blanks ++ us ∧
      AreParts name newlines before rs ∧ Blanks newlines blanks ∧ IsPostfix name us r := by
  constructor
  · intro h
    induction rs generalizing ts with
    | nil =>
      obtain ⟨⟩ | ⟨hblanks, h, ⟨⟩⟩ := h
      exact ⟨[], _, _, by simp, .nil, hblanks, h⟩
    | cons s rs ih =>
      obtain ⟨⟩ | ⟨hblanks, h, hrest⟩ := h
      obtain ⟨before, blanks', us, rfl, hbefore, hblanks', h'⟩ := ih hrest
      exact ⟨_, blanks', us, by simp, .cons hblanks h hbefore, hblanks', h'⟩
  · rintro ⟨before, blanks, us, rfl, hbefore, hblanks, h⟩
    simpa using areParts_append hbefore (.cons hblanks h .nil)

lemma isSequence_of_lastAlternative? {e : Expression} {ts : List Token} {r : Rule}
    (h : AreParts name newlines ts e.parts.reverse) (hr : e.lastAlternative? name = some r) :
    IsSequence name newlines ts r := by
  rw [Expression.lastAlternative?] at hr
  split at hr
  case h_1 => cases hr
  case h_2 s heq =>
    obtain rfl := Option.some.inj hr
    exact .single (heq ▸ h)
  case h_3 hnil hsingle =>
    obtain rfl := Option.some.inj hr
    cases hparts : e.parts.reverse with
    | nil => exact absurd hparts hnil
    | cons s rest =>
      cases rest with
      | nil => exact absurd hparts (hsingle s)
      | cons s' rest => exact .concat (hparts ▸ h)

end

/-! ### Expressions under way -/

/-- What has been read of an expression: complete alternatives, which make any expression behind
them the last of their choices, parts of the next one, and blanks. No blanks are before a place
where a suffix may stand. -/
inductive ExpressionRead (name : String) (newlines : Bool) (e : Expression) :
    Bool → List Token → Prop where
  | intro {afterPrimary : Bool} (alternatives parts blanks : List Token)
      (halternatives : ∀ ts r, IsExpression name newlines ts r →
        IsExpression name newlines (alternatives ++ ts)
          (e.alternatives.foldl (fun choice left => .alternate name left choice) r))
      (hparts : AreParts name newlines parts e.parts.reverse) (hblanks : Blanks newlines blanks)
      (hprimary : afterPrimary = true → blanks = []) :
      ExpressionRead name newlines e afterPrimary (alternatives ++ parts ++ blanks)

namespace ExpressionRead

variable {name : String} {newlines : Bool} {e : Expression} {afterPrimary : Bool}
  {ts : List Token}

lemma empty : ExpressionRead name newlines {} false [] :=
  .intro [] [] [] (fun _ _ h => h) .nil (by simp [Blanks]) (fun _ => rfl)

lemma blank (h : ExpressionRead name newlines e afterPrimary ts) {t : Token}
    (ht : t.kind = .whitespace ∨ newlines = true ∧ t.kind = .newline) :
    ExpressionRead name newlines e false (ts ++ [t]) := by
  obtain ⟨alternatives, parts, blanks, halternatives, hparts, hblanks, -⟩ := h
  rw [List.append_assoc]
  refine .intro alternatives parts _ halternatives hparts ?_ (by simp)
  rw [Blanks, List.forall_mem_append]
  exact ⟨hblanks, by simpa using ht⟩

lemma push (h : ExpressionRead name newlines e afterPrimary ts) {us : List Token} {r : Rule}
    (hr : IsPostfix name us r) : ExpressionRead name newlines (e.push r) true (ts ++ us) := by
  obtain ⟨alternatives, parts, blanks, halternatives, hparts, hblanks, -⟩ := h
  have hpushed : AreParts name newlines (parts ++ blanks ++ us) (e.push r).parts.reverse := by
    rw [Expression.push, List.reverse_cons, areParts_snoc]
    exact ⟨parts, blanks, us, rfl, hparts, hblanks, hr⟩
  have hread : ExpressionRead name newlines (e.push r) true
      (alternatives ++ (parts ++ blanks ++ us) ++ []) :=
    .intro alternatives _ [] halternatives hpushed (by simp [Blanks]) (fun _ => rfl)
  simpa using hread

/-- The suffix is applied to the last part. -/
lemma suffix {r r' : Rule} {rs : List Rule} (h : ExpressionRead name newlines e true ts)
    (he : e.parts = r :: rs) {t : Token} (ht : IsSuffix t.kind r r') :
    ExpressionRead name newlines { e with parts := r' :: rs } true (ts ++ [t]) := by
  obtain ⟨alternatives, parts, blanks, halternatives, hparts, -, hprimary⟩ := h
  obtain rfl := hprimary rfl
  rw [he, List.reverse_cons, areParts_snoc] at hparts
  obtain ⟨before, blanks, us, rfl, hbefore, hblanks, hr⟩ := hparts
  have hsuffixed : AreParts name newlines (before ++ blanks ++ (us ++ [t])) (r' :: rs).reverse := by
    rw [List.reverse_cons, areParts_snoc]
    exact ⟨before, blanks, _, rfl, hbefore, hblanks, .suffix hr ht⟩
  have hread : ExpressionRead name newlines { e with parts := r' :: rs } true
      (alternatives ++ (before ++ blanks ++ (us ++ [t])) ++ []) :=
    .intro alternatives _ [] halternatives hsuffixed (by simp [Blanks]) (fun _ => rfl)
  simpa using hread

lemma next (h : ExpressionRead name newlines e afterPrimary ts) {t : Token}
    (ht : t.kind = .alternate) {e' : Expression} (he : e.nextAlternative? name = some e') :
    ExpressionRead name newlines e' false (ts ++ [t]) := by
  obtain ⟨alternatives, parts, blanks, halternatives, hparts, hblanks, -⟩ := h
  obtain ⟨r, hlast, rfl⟩ := Option.map_eq_some_iff.mp he
  have hsequence := isSequence_of_lastAlternative? hparts hlast
  have hread : ExpressionRead name newlines { alternatives := r :: e.alternatives } false
      ((alternatives ++ parts ++ blanks ++ [t]) ++ [] ++ []) := by
    refine .intro _ [] [] (fun us s hs => ?_) .nil (by simp [Blanks]) (fun _ => rfl)
    have hchoice := halternatives _ _ (.choice hsequence hblanks ht hs)
    simpa using hchoice
  simpa using hread

lemma finish (h : ExpressionRead name newlines e afterPrimary ts) {r : Rule}
    (hr : e.finish? name = some r) :
    ∃ us blanks, ts = us ++ blanks ∧ IsExpression name newlines us r ∧
      Blanks newlines blanks := by
  obtain ⟨alternatives, parts, blanks, halternatives, hparts, hblanks, -⟩ := h
  obtain ⟨last, hlast, rfl⟩ := Option.map_eq_some_iff.mp hr
  exact ⟨_, _, rfl, halternatives _ _ (.single (isSequence_of_lastAlternative? hparts hlast)),
    hblanks⟩

end ExpressionRead

/-! ### Drafts -/

/-- What has been read of the expressions around open groups, up to the innermost parenthesis. -/
inductive GroupsOpened (name : String) : List Expression → List Token → Prop where
  | nil : GroupsOpened name [] []
  | cons {e : Expression} {outer : List Expression} {afterPrimary : Bool} {before ts : List Token}
      {t : Token} (hbefore : GroupsOpened name outer before)
      (h : ExpressionRead name (!outer.isEmpty) e afterPrimary ts) (ht : t.kind = .openGroup) :
      GroupsOpened name (e :: outer) (before ++ ts ++ [t])

/-- What has been read of the expression of a definition. -/
inductive BodyRead (name : String) (e : Expression) (outer : List Expression)
    (afterPrimary : Bool) : List Token → Prop where
  | intro {before ts : List Token} (hbefore : GroupsOpened name outer before)
      (h : ExpressionRead name (!outer.isEmpty) e afterPrimary ts) :
      BodyRead name e outer afterPrimary (before ++ ts)

/-- What has been read of definitions that are complete: whatever program follows has them as its
first definitions. -/
structure LinesRead (definitions : List Rule) (ts : List Token) : Prop where
  program : ∀ us rs, IsProgram us rs → IsProgram (ts ++ us) (definitions.reverse ++ rs)
  distinct : (definitions.map Rule.name).Nodup

/-- The tokens are what the draft has read. -/
inductive Draft.HasRead : Draft → List Token → Prop where
  | between {definitions : List Rule} {lines layout : List Token}
      (hlines : LinesRead definitions lines) (hlayout : Blanks true layout) :
      HasRead ⟨definitions, .between⟩ (lines ++ layout)
  | named {definitions : List Rule} {lines layout blanks : List Token} {t : Token}
      (hlines : LinesRead definitions lines) (hlayout : Blanks true layout)
      (ht : t.kind = .identifier) (hblanks : Blanks false blanks) :
      HasRead ⟨definitions, .named t.text t.offset⟩ (lines ++ layout ++ t :: blanks)
  | body {definitions : List Rule} {lines layout blanks ts : List Token} {t arrow : Token}
      {e : Expression} {outer : List Expression} {afterPrimary : Bool}
      (hlines : LinesRead definitions lines) (hlayout : Blanks true layout)
      (ht : t.kind = .identifier) (hblanks : Blanks false blanks)
      (harrow : arrow.kind = .assignment)
      (h : BodyRead t.text e outer afterPrimary ts) :
      HasRead ⟨definitions, .body t.text t.offset e outer afterPrimary⟩
        (lines ++ layout ++ t :: (blanks ++ arrow :: ts))

/-- What has been read when one more token was taken: the tokens are what the draft after it has
read, or the token was the end of a program. -/
inductive Step.HasRead (ts : List Token) (t : Token) : Step → Prop where
  | more {d : Draft} (h : d.HasRead (ts ++ [t])) : HasRead ts t (.more d)
  | finished {definitions : List Rule} (ht : t.kind = .finish)
      (h : IsProgram (ts ++ [t]) definitions) (hne : definitions ≠ [])
      (hdistinct : (definitions.map Rule.name).Nodup) : HasRead ts t (.finished definitions)

lemma blanks_nil {newlines : Bool} : Blanks newlines [] := by simp [Blanks]

lemma blanks_snoc {newlines : Bool} {blanks : List Token} (h : Blanks newlines blanks) {t : Token}
    (ht : t.kind = .whitespace ∨ newlines = true ∧ t.kind = .newline) :
    Blanks newlines (blanks ++ [t]) := by
  rw [Blanks, List.forall_mem_append]
  exact ⟨h, by simpa using ht⟩

lemma linesRead_nil : LinesRead [] [] := ⟨fun _ _ h => h, by simp⟩

lemma hasRead_nil : Draft.HasRead {} [] := by
  have h := Draft.HasRead.between linesRead_nil (@blanks_nil true)
  exact h

lemma nodup_names_cons {definitions : List Rule} {r : Rule}
    (hdistinct : (definitions.map Rule.name).Nodup) (hr : ∀ q ∈ definitions, q.name ≠ r.name) :
    ((r :: definitions).map Rule.name).Nodup := by
  rw [List.map_cons, List.nodup_cons]
  refine ⟨?_, hdistinct⟩
  rw [List.mem_map]
  rintro ⟨q, hq, hname⟩
  exact hr q hq hname

lemma LinesRead.snoc {definitions : List Rule} {lines layout ts : List Token} {t : Token}
    {r : Rule} (hlines : LinesRead definitions lines) (hlayout : Blanks true layout)
    (h : IsDefinition ts r) (ht : t.kind = .newline) (hr : ∀ q ∈ definitions, q.name ≠ r.name) :
    LinesRead (r :: definitions) (lines ++ layout ++ ts ++ [t]) where
  program us rs hrest := by
    simpa using hlines.program _ _ (.line hlayout h ht hrest)
  distinct := nodup_names_cons hlines.distinct hr

/-- A body without open groups is the expression of a definition, and blanks. -/
lemma BodyRead.isDefinition {name : Token} {blanks ts : List Token} {arrow : Token} {e : Expression}
    {afterPrimary : Bool} {r : Rule} (h : BodyRead name.text e [] afterPrimary ts)
    (hname : name.kind = .identifier) (hblanks : Blanks false blanks)
    (harrow : arrow.kind = .assignment) (hr : e.finish? name.text = some r) :
    IsDefinition (name :: (blanks ++ arrow :: ts)) (r.rename name.text) := by
  obtain ⟨⟨⟩, h⟩ := h
  obtain ⟨us, after, rfl, hexpression, hafter⟩ := h.finish hr
  show IsDefinition (name :: (blanks ++ arrow :: (us ++ after))) _
  exact .intro hname hblanks harrow hexpression hafter

namespace BodyRead

variable {name : String} {e : Expression} {outer : List Expression} {afterPrimary : Bool}
  {ts : List Token}

lemma blank (h : BodyRead name e outer afterPrimary ts) {t : Token}
    (ht : t.kind = .whitespace ∨ outer ≠ [] ∧ t.kind = .newline) :
    BodyRead name e outer false (ts ++ [t]) := by
  obtain ⟨hbefore, h⟩ := h
  rw [List.append_assoc]
  exact .intro hbefore (h.blank (by simpa using ht))

lemma push (h : BodyRead name e outer afterPrimary ts) {us : List Token} {r : Rule}
    (hr : IsPrimary name us r) : BodyRead name (e.push r) outer true (ts ++ us) := by
  obtain ⟨hbefore, h⟩ := h
  rw [List.append_assoc]
  exact .intro hbefore (h.push (.primary hr))

lemma suffix {r r' : Rule} {rs : List Rule} (h : BodyRead name e outer true ts)
    (he : e.parts = r :: rs) {t : Token} (ht : IsSuffix t.kind r r') :
    BodyRead name { e with parts := r' :: rs } outer true (ts ++ [t]) := by
  obtain ⟨hbefore, h⟩ := h
  rw [List.append_assoc]
  exact .intro hbefore (h.suffix he ht)

lemma next (h : BodyRead name e outer afterPrimary ts) {t : Token} (ht : t.kind = .alternate)
    {e' : Expression} (he : e.nextAlternative? name = some e') :
    BodyRead name e' outer false (ts ++ [t]) := by
  obtain ⟨hbefore, h⟩ := h
  rw [List.append_assoc]
  exact .intro hbefore (h.next ht he)

lemma openGroup (h : BodyRead name e outer afterPrimary ts) {t : Token}
    (ht : t.kind = .openGroup) : BodyRead name {} (e :: outer) false (ts ++ [t]) := by
  obtain ⟨hbefore, h⟩ := h
  have hopened := GroupsOpened.cons hbefore h ht
  rw [← List.append_nil (_ ++ [t])]
  exact .intro hopened .empty

lemma closeGroup {inner : Expression} (h : BodyRead name inner (e :: outer) afterPrimary ts)
    {t : Token} (ht : t.kind = .closeGroup) {r : Rule} (hr : inner.finish? name = some r) :
    BodyRead name (e.push r) outer true (ts ++ [t]) := by
  obtain ⟨hbefore, h⟩ := h
  obtain ⟨us, blanks, rfl, hexpression, hblanks⟩ := h.finish hr
  obtain ⟨⟩ | ⟨hbefore, houter, hopen⟩ := hbefore
  have hgroup := (BodyRead.intro hbefore houter).push (.group hopen hexpression hblanks ht)
  simpa using hgroup

end BodyRead

lemma exists_of_map_eq_ok {ε α β : Type} {x : Except ε α} {f : α → β} {b : β}
    (h : x.map f = .ok b) : ∃ a, x = .ok a ∧ f a = b := by
  cases x with
  | error e => cases h
  | ok a => exact ⟨a, rfl, Except.ok.inj h⟩

lemma isPrimary_of_primary? {name : String} {t : Token} {r : Rule}
    (h : primary? t = some (.ok r)) : IsPrimary name [t] r := by
  cases hkind : t.kind <;> simp only [primary?, hkind] at h
  case literal =>
    obtain rfl := Except.ok.inj (Option.some.inj h)
    exact .literal hkind
  case regexp =>
    split at h
    · rename_i hp
      obtain rfl := Except.ok.inj (Option.some.inj h)
      exact .regexp hkind hp
    · cases h
  case identifier =>
    obtain rfl := Except.ok.inj (Option.some.inj h)
    exact .reference (Or.inl hkind)
  case reference =>
    obtain rfl := Except.ok.inj (Option.some.inj h)
    exact .reference (Or.inr hkind)
  all_goals cases h

/-! ### Steps -/

lemma hasRead_stepBody {definitions : List Rule} {lines layout blanks ts : List Token}
    {name arrow t : Token} {e : Expression} {outer : List Expression} {afterPrimary : Bool}
    {s : Step} (hlines : LinesRead definitions lines) (hlayout : Blanks true layout)
    (hname : name.kind = .identifier) (hblanks : Blanks false blanks)
    (harrow : arrow.kind = .assignment) (h : BodyRead name.text e outer afterPrimary ts)
    (hs : Draft.stepBody ⟨definitions, .body name.text name.offset e outer afterPrimary⟩ name.text
      name.offset e outer afterPrimary t = .ok s) :
    s.HasRead (lines ++ layout ++ name :: (blanks ++ arrow :: ts)) t := by
  -- All tokens but the end, and a newline outside of groups, leave the definition open.
  have hmore : ∀ {e outer afterPrimary}, BodyRead name.text e outer afterPrimary (ts ++ [t]) →
      Step.HasRead (lines ++ layout ++ name :: (blanks ++ arrow :: ts)) t
        (.more ⟨definitions, .body name.text name.offset e outer afterPrimary⟩) := by
    intro e outer afterPrimary h
    have hread := Draft.HasRead.body hlines hlayout hname hblanks harrow h
    exact .more (by simpa using hread)
  cases hkind : t.kind <;> simp only [Draft.stepBody, hkind] at hs
  case whitespace =>
    obtain rfl := Except.ok.inj hs
    exact hmore (h.blank (Or.inl hkind))
  case literal | regexp | identifier | reference =>
    split at hs
    · rename_i r hprimary
      obtain rfl := Except.ok.inj hs
      exact hmore (h.push (isPrimary_of_primary? hprimary))
    · cases hs
    · cases hs
  case closure | plus | optional | discard =>
    split at hs
    · rename_i r parts hparts
      split at hs
      · rename_i r' hsuffix
        obtain rfl := Except.ok.inj hs
        exact hmore (h.suffix hparts (hkind ▸ suffix?_eq_some.mp hsuffix))
      · cases hs
    · cases hs
  case openGroup =>
    obtain rfl := Except.ok.inj hs
    exact hmore (h.openGroup hkind)
  case alternate =>
    split at hs
    · rename_i e' he
      obtain rfl := Except.ok.inj hs
      exact hmore (h.next hkind he)
    · cases hs
  case closeGroup =>
    split at hs
    · rename_i e' outer r hr
      obtain rfl := Except.ok.inj hs
      exact hmore (h.closeGroup hkind hr)
    · cases hs
  case newline =>
    split at hs
    · obtain rfl := Except.ok.inj hs
      exact hmore (h.blank (Or.inr ⟨List.cons_ne_nil _ _, hkind⟩))
    · rename_i r hr
      obtain ⟨d, hdefine, rfl⟩ := exists_of_map_eq_ok hs
      obtain ⟨hnames, rfl⟩ := define_eq_ok.mp hdefine
      have hdefinition := h.isDefinition hname hblanks harrow hr
      have hlines' := hlines.snoc hlayout hdefinition hkind (by simpa using hnames)
      have hread := Draft.HasRead.between hlines' blanks_nil
      exact .more (by simpa using hread)
    · cases hs
  case finish =>
    split at hs
    · rename_i r hr
      obtain ⟨d, hdefine, rfl⟩ := exists_of_map_eq_ok hs
      obtain ⟨hnames, rfl⟩ := define_eq_ok.mp hdefine
      have hdefinition := h.isDefinition hname hblanks harrow hr
      have hprogram := hlines.program _ _ (.last hlayout hdefinition hkind)
      have hdistinct : ((r.rename name.text :: definitions).map Rule.name).Nodup :=
        nodup_names_cons hlines.distinct (by simpa using hnames)
      refine .finished hkind (by simpa using hprogram) (by simp) ?_
      rw [List.map_reverse, List.nodup_reverse]
      exact hdistinct
    · cases hs
  case assignment => cases hs

/-- Taking a token keeps what the draft has read in step with the tokens. -/
theorem hasRead_step {d : Draft} {ts : List Token} (h : d.HasRead ts) {t : Token} {s : Step}
    (hs : d.step t = .ok s) : s.HasRead ts t := by
  cases h with
  | @between definitions lines layout hlines hlayout =>
    cases hkind : t.kind <;> simp only [Draft.step, hkind] at hs
    case whitespace | newline =>
      obtain rfl := Except.ok.inj hs
      have hlayout' : Blanks true (layout ++ [t]) := blanks_snoc hlayout (by simp [hkind])
      have hread := Draft.HasRead.between hlines hlayout'
      exact .more (by simpa using hread)
    case identifier =>
      obtain rfl := Except.ok.inj hs
      exact .more (.named hlines hlayout hkind blanks_nil)
    case finish =>
      split at hs
      · cases hs
      · rename_i hdefinitions
        obtain rfl := Except.ok.inj hs
        have hprogram := hlines.program _ _ (.finish hlayout hkind)
        refine .finished hkind (by simpa using hprogram) (by simpa using hdefinitions) ?_
        rw [List.map_reverse, List.nodup_reverse]
        exact hlines.distinct
    all_goals cases hs
  | named hlines hlayout hname hblanks =>
    cases hkind : t.kind <;> simp only [Draft.step, hkind] at hs
    case whitespace =>
      obtain rfl := Except.ok.inj hs
      have hread := Draft.HasRead.named hlines hlayout hname (blanks_snoc hblanks (Or.inl hkind))
      exact .more (by simpa using hread)
    case assignment =>
      obtain rfl := Except.ok.inj hs
      have hread := Draft.HasRead.body hlines hlayout hname hblanks hkind (.intro .nil .empty)
      exact .more (by simpa using hread)
    all_goals cases hs
  | body hlines hlayout hname hblanks harrow h =>
    exact hasRead_stepBody hlines hlayout hname hblanks harrow h hs

/-! ### Whole texts -/

/-- The reader does not go on behind an end. -/
lemma kind_ne_finish {d d' : Draft} {t : Token} (h : d.step t = .ok (.more d')) :
    t.kind ≠ .finish := by
  intro hkind
  obtain ⟨definitions, _ | _ | _⟩ := d <;> simp only [Draft.step, Draft.stepBody, hkind] at h
  case between => split at h <;> cases h
  case named => cases h
  case body =>
    split at h
    · obtain ⟨_, -, ⟨⟩⟩ := exists_of_map_eq_ok h
    · cases h

/-- Items are read to definitions only if they are the tokens of a program: the reader takes all of
them when no end stands before the last one. -/
lemma isProgram_of_read {d : Draft} {before tokens : List Token} {last : Token.Item}
    {rules : List Rule} (h : d.HasRead before) (hfinish : ∀ t ∈ tokens, t.kind ≠ .finish)
    (hlast : ∀ t, last = .ok t → t.kind = .finish) (taken offset : Nat)
    (hresult : (d.read taken offset (tokens.map .ok ++ [last])).result = .ok rules) :
    ∃ t, last = .ok t ∧ IsProgram (before ++ tokens ++ [t]) rules ∧ rules ≠ [] ∧
      (rules.map Rule.name).Nodup := by
  induction tokens generalizing d before taken offset with
  | nil =>
    cases last with
    | error e => cases hresult
    | ok t =>
      rw [List.map_nil, List.nil_append, Draft.read] at hresult
      split at hresult
      case h_1 d' hstep => exact absurd (hlast t rfl) (kind_ne_finish hstep)
      case h_2 rules' hstep =>
        obtain rfl := Except.ok.inj hresult
        obtain ⟨⟩ | ⟨-, hprogram, hne, hdistinct⟩ := hasRead_step h hstep
        exact ⟨t, rfl, by simpa using hprogram, hne, hdistinct⟩
      case h_3 => cases hresult
  | cons t tokens ih =>
    rw [List.forall_mem_cons] at hfinish
    rw [List.map_cons, List.cons_append, Draft.read] at hresult
    split at hresult
    case h_1 d' hstep =>
      obtain ⟨hread⟩ | _ := hasRead_step h hstep
      simpa using ih hread hfinish.2 _ _ hresult
    case h_2 rules' hstep =>
      obtain ⟨⟩ | ⟨hend, -⟩ := hasRead_step h hstep
      exact absurd hend hfinish.1
    case h_3 => cases hresult

/-- A grammar text is read to definitions just if it is one of the syntax, it has definitions, and
no two of them have the same name; and it is read to those it stands for. -/
theorem ofItems_eq_ok_iff (text : String) (rules : List Rule) :
    (ofItems (Token.readAll text)).result = .ok rules ↔
      ∃ tokens, Token.tokenize text = .ok tokens ∧ IsProgram tokens rules ∧ rules ≠ [] ∧
        (rules.map Rule.name).Nodup := by
  constructor
  · intro h
    obtain ⟨tokens, rest, last, hitems, hrow, hends⟩ :=
      Token.exists_row (text.toList.length + 1) 0 text.toList (Nat.lt_succ_self _)
    have hfinish : ∀ t ∈ tokens, t.kind ≠ .finish := by
      intro t ht hkind
      have hwell := hrow.wellFormed t ht
      rw [Token.WellFormed, hkind] at hwell
      exact hwell
    have hlast : ∀ t, last = .ok t → t.kind = .finish := by
      rintro t rfl
      cases hends
      rfl
    rw [ofItems, Token.readAll, hitems] at h
    obtain ⟨t, rfl, hprogram⟩ := isProgram_of_read hasRead_nil hfinish hlast 0 0 h
    refine ⟨tokens ++ [t], Token.tokenize_eq_ok.mpr ?_, hprogram⟩
    rw [Token.readAll, hitems, List.map_append, List.map_singleton]
  · rintro ⟨tokens, htokens, hprogram, hne, hdistinct⟩
    rw [ofItems, Token.tokenize_eq_ok.mp htokens]
    exact @read_of_isProgram [] tokens rules hprogram hdistinct hne 0 0

/-- The newline is inside of parentheses, and the last definition may do without one. -/
example : (ofItems (Token.readAll "s <- ('('\n s)?")).result =
    .ok [.optional "s" (.concat "s" [.literal "'('" [40], .reference "s" "s" none])] := by
  rfl

end Definitions

end Peg
