import Mathlib.Data.List.Forall2
import Peg.Grammar
import Peg.Proofs.Grammar.EarliestError

/-!
# Layout

Blanks and line ends say little. Which of them can be left out is told by the tokens alone: `layout`
gives each of those that stay its one spelling, and takes out the others. The definitions read from
the tokens that are left are the same: blanks and line ends do nothing where they are taken out, and
where only one of a row of them is left, the others do nothing behind it.
-/

namespace Peg

namespace Token

def Kind.isLayout : Kind → Bool
  | .whitespace | .newline => true
  | _ => false

/-- Whether the token is one that blanks on both sides say nothing to. -/
def Kind.isMark : Kind → Bool
  | .assignment | .alternate => true
  | _ => false

/-- Whether blanks before the token say nothing. -/
def Kind.trims : Kind → Bool
  | .assignment | .alternate | .newline | .finish => true
  | _ => false

/-- The number of groups that are open behind a token. -/
def Kind.groupsAfter (groups : Nat) : Kind → Nat
  | .openGroup => groups + 1
  | .closeGroup => groups - 1
  | _ => groups

def blank : Token := { kind := .whitespace, text := " ", offset := 0 }

/-- The token in its one spelling, without its place. -/
def spelled (t : Token) : Token :=
  match t.kind with
  | .whitespace => blank
  | .newline => { kind := .newline, text := "\n", offset := 0 }
  | _ => { t with offset := 0 }

@[simp] lemma kind_spelled (t : Token) : t.spelled.kind = t.kind := by
  obtain ⟨kind, text, offset⟩ := t
  cases kind <;> rfl

end Token

namespace Definitions

open Token (blank)

/-! ### The tokens that stay -/

/-- Leaves one line end behind a definition and none before the first one, and one blank of each row
of blanks and line ends inside of groups. `groups` is the number of open groups, and `absorbs` tells
whether blanks and line ends are dropped. -/
def settle : Nat → Bool → List Token → List Token
  | _, _, [] => []
  | groups, absorbs, t :: ts =>
    if t.kind.isLayout then
      if absorbs then settle groups true ts
      else if groups = 0 then t :: settle groups (t.kind == .newline) ts
      else blank :: settle groups true ts
    else t :: settle (t.kind.groupsAfter groups) false ts

/-- Drops the blanks around arrows and slashes, before line ends and before the end. `after` tells
whether they stand behind an arrow or a slash. -/
def trim : Bool → List Token → List Token
  | _, [] => []
  | after, t :: ts =>
    if t.kind = .whitespace ∧ (after ∨ ∃ u ∈ ts.head?, u.kind.trims) then trim after ts
    else t :: trim t.kind.isMark ts

/-- The tokens without the layout that says nothing. -/
def layout (ts : List Token) : List Token := trim false (settle 0 true (ts.map Token.spelled))

/-! ### Readings without places -/

/-- The definitions that are read from the tokens. -/
def Draft.outcome (d : Draft) : List Token → Option (List Rule)
  | [] => none
  | t :: ts => (d.step t).toOption.bind fun
    | .more d => d.outcome ts
    | .finished rules => some rules

lemma outcome_eq {ts : List Token} (h : Ends (ts.map .ok)) (d : Draft) (taken last : Nat) :
    (d.read taken last (ts.map .ok)).result.toOption = d.outcome ts := by
  induction ts generalizing d taken last with
  | nil => simp [Ends] at h
  | cons t ts ih =>
    rw [List.map_cons, Draft.read, Draft.outcome]
    cases hstep : d.step t with
    | error e => rfl
    | ok s =>
      cases s with
      | more d' =>
        apply ih
        exact (ends_cons_ok.mp h).resolve_left (kind_ne_finish hstep)
      | finished rules => rfl

def Stage.unplaced : Stage → Stage
  | .between => .between
  | .named name _ => .named name 0
  | .body name _ current outer afterPrimary => .body name 0 current outer afterPrimary

def Draft.unplaced (d : Draft) : Draft := { d with stage := d.stage.unplaced }

def Step.unplaced : Step → Step
  | .more d => .more d.unplaced
  | .finished rules => .finished rules

lemma map_define_unplaced (d d' : Draft) (h : d'.definitions = d.definitions) (name : String)
    (offset : Nat) (body : Rule) (f : Draft → Step)
    (hf : ∀ definitions, (f ⟨definitions, .between⟩).unplaced = f ⟨definitions, .between⟩) :
    ((d'.define name 0 body).map f).toOption =
      ((d.define name offset body).map f).toOption.map Step.unplaced := by
  rw [Draft.define, Draft.define, h]
  split
  · rfl
  · exact congrArg some (hf _).symm

lemma stepBody_unplaced (d : Draft) (name : String) (offset : Nat) (e : Expression)
    (outer : List Expression) (afterPrimary : Bool) (t : Token) :
    (d.unplaced.stepBody name 0 e outer afterPrimary t.spelled).toOption =
      (d.stepBody name offset e outer afterPrimary t).toOption.map Step.unplaced := by
  obtain ⟨kind, text, place⟩ := t
  cases kind <;> simp only [Draft.stepBody, Token.spelled, blank]
  case whitespace | literal | identifier | reference | openGroup | assignment => rfl
  case regexp =>
    simp only [primary?]
    cases Pattern.ofText? (anchored (String.ofList (unescapeQuotes text.toList))) <;> rfl
  case closure | plus | optional | discard =>
    cases e.parts with
    | nil => rfl
    | cons r parts => cases afterPrimary <;> rfl
  case alternate => cases e.nextAlternative? name <;> rfl
  case closeGroup => cases outer <;> cases e.finish? name <;> rfl
  case newline =>
    cases outer with
    | cons e' outer => rfl
    | nil =>
      cases e.finish? name with
      | none => rfl
      | some r => exact map_define_unplaced d d.unplaced rfl name offset r .more fun _ => rfl
  case finish =>
    cases outer with
    | cons e' outer => rfl
    | nil =>
      cases e.finish? name with
      | none => rfl
      | some r => exact map_define_unplaced d d.unplaced rfl name offset r _ fun _ => rfl

/-- What a token does neither depends on how it is spelled nor on where it stands. -/
lemma step_unplaced (d : Draft) (t : Token) :
    (d.unplaced.step t.spelled).toOption = (d.step t).toOption.map Step.unplaced := by
  obtain ⟨definitions, _ | _ | ⟨name, offset, e, outer, afterPrimary⟩⟩ := d
  case body => exact stepBody_unplaced _ name offset e outer afterPrimary t
  all_goals
    obtain ⟨kind, text, place⟩ := t
    cases kind
  case between.finish => cases definitions <;> rfl
  all_goals rfl

lemma outcome_spelled (d : Draft) (ts : List Token) :
    d.unplaced.outcome (ts.map Token.spelled) = d.outcome ts := by
  induction ts generalizing d with
  | nil => rfl
  | cons t ts ih =>
    rw [List.map_cons, Draft.outcome, Draft.outcome, step_unplaced, Option.bind_map]
    apply congrArg
    funext s
    cases s with
    | more d' => exact ih d'
    | finished rules => rfl

/-- The tokens behind one that is taken can be replaced. -/
lemma outcome_cons_congr {d : Draft} {t : Token} {ts us : List Token}
    (h : ∀ d', d.step t = .ok (.more d') → d'.outcome us = d'.outcome ts) :
    d.outcome (t :: us) = d.outcome (t :: ts) := by
  rw [Draft.outcome, Draft.outcome]
  cases hstep : d.step t with
  | error e => rfl
  | ok s =>
    cases s with
    | more d' => exact h d' hstep
    | finished rules => rfl

/-! ### Layout that does nothing -/

def Shape.groups : Shape → Nat
  | .body groups _ _ => groups
  | _ => 0

lemma Shape.groups_of_next {s s' : Shape} {kind : Token.Kind} (h : s.next kind = some s') :
    s'.groups = kind.groupsAfter s.groups := by
  cases s with
  | between | named => cases kind <;> cases h <;> rfl
  | finished => cases h
  | body groups begun afterPrimary =>
    cases kind <;> simp only [next, nextInBody] at h
    case whitespace | literal | regexp | identifier | reference | openGroup =>
      cases h
      rfl
    case closure | plus | optional | discard | alternate | closeGroup =>
      split at h <;> cases h
      rfl
    case newline =>
      split at h
      · cases h
        rfl
      · rename_i hclosed
        split at h <;> cases h
        have hzero : groups = 0 := by simpa using hclosed
        exact hzero.symm
    case finish =>
      split at h <;> cases h
      rename_i hend
      have hzero : groups = 0 := beq_iff_eq.mp (Bool.and_eq_true_iff.mp hend).2
      exact hzero.symm
    case assignment => cases h

lemma Shape.between_of_next {s s' : Shape} (h : s.next .newline = some s')
    (hgroups : s.groups = 0) :
    s' = .between := by
  cases s with
  | between =>
    cases h
    rfl
  | named | finished => cases h
  | body groups begun afterPrimary =>
    obtain rfl : groups = 0 := hgroups
    cases begun <;> cases h
    rfl

def Stage.rested : Stage → Stage
  | .body name offset current outer _ => .body name offset current outer false
  | stage => stage

/-- The draft after a blank: no suffix may follow. -/
def Draft.rested (d : Draft) : Draft := { d with stage := d.stage.rested }

@[simp] lemma rested_rested (d : Draft) : d.rested.rested = d.rested := by
  obtain ⟨definitions, _ | _ | _⟩ := d <;> rfl

@[simp] lemma groups_rested (d : Draft) : d.rested.shape.groups = d.shape.groups := by
  obtain ⟨definitions, _ | _ | _⟩ := d <;> rfl

lemma step_whitespace {t : Token} (h : t.kind = .whitespace) (d : Draft) :
    d.step t = .ok (.more d.rested) := by
  obtain ⟨definitions, _ | _ | _⟩ := d <;> simp [Draft.step, Draft.stepBody, h] <;> rfl

/-- Blanks and line ends do the same inside of groups. -/
lemma step_layout {t : Token} (h : t.kind.isLayout) {d : Draft} (hgroups : d.shape.groups ≠ 0) :
    d.step t = .ok (.more d.rested) := by
  cases hkind : t.kind <;> rw [hkind] at h
  case whitespace => exact step_whitespace hkind d
  case newline =>
    obtain ⟨definitions, _ | _ | ⟨name, offset, e, _ | ⟨e', outer⟩, afterPrimary⟩⟩ := d
    case body.cons => simp [Draft.step, Draft.stepBody, hkind, Draft.rested, Stage.rested]
    all_goals exact absurd rfl hgroups
  all_goals cases h

lemma groups_of_step {d d' : Draft} {t : Token} (h : d.step t = .ok (.more d')) :
    d'.shape.groups = t.kind.groupsAfter d.shape.groups :=
  Shape.groups_of_next (next_of_ok h)

/-- Blanks and line ends do nothing. -/
def Draft.Idle (d : Draft) : Prop := ∀ t : Token, t.kind.isLayout → d.step t = .ok (.more d)

lemma idle_rested {d : Draft} (hgroups : d.shape.groups ≠ 0) : d.rested.Idle := by
  intro t ht
  rw [step_layout ht (by simpa using hgroups), rested_rested]

lemma idle_of_between {d : Draft} (h : d.shape = .between) : d.Idle := by
  intro t ht
  obtain ⟨definitions, _ | _ | _⟩ := d
  case between =>
    cases hkind : t.kind <;> rw [hkind] at ht
    case whitespace | newline => simp [Draft.step, hkind]
    all_goals cases ht
  all_goals cases h

lemma outcome_settle (ts : List Token) (d : Draft) (groups : Nat) (absorbs : Bool)
    (hgroups : d.shape.groups = groups) (hidle : absorbs = true → d.Idle) :
    d.outcome (settle groups absorbs ts) = d.outcome ts := by
  induction ts generalizing d groups absorbs with
  | nil => rfl
  | cons t ts ih =>
    rw [settle]
    split
    case isTrue hlayout =>
      split
      case isTrue habsorbs =>
        rw [Draft.outcome, hidle habsorbs t hlayout]
        exact ih d groups true hgroups fun _ => hidle habsorbs
      case isFalse habsorbs =>
        split
        case isTrue hzero =>
          apply outcome_cons_congr
          intro d' hstep
          apply ih
          · rw [groups_of_step hstep, hgroups]
            cases hkind : t.kind <;> rw [hkind] at hlayout <;> first | rfl | cases hlayout
          · intro hnewline
            have hnext := next_of_ok hstep
            rw [beq_iff_eq.mp hnewline] at hnext
            exact idle_of_between (Shape.between_of_next hnext (hgroups.trans hzero))
        case isFalse hopen =>
          have hopen' : d.shape.groups ≠ 0 := hgroups ▸ hopen
          have hblank := step_whitespace (t := blank) rfl d
          rw [Draft.outcome, Draft.outcome, hblank, step_layout hlayout hopen']
          apply ih
          · rwa [groups_rested]
          · exact fun _ => idle_rested hopen'
    case isFalse hlayout =>
      apply outcome_cons_congr
      intro d' hstep
      apply ih
      · rw [groups_of_step hstep, hgroups]
      · exact fun h => absurd h Bool.false_ne_true

/-! ### Trimmed tokens -/

lemma step_rested {t : Token} (h : t.kind.trims) (d : Draft) : d.rested.step t = d.step t := by
  obtain ⟨definitions, _ | _ | _⟩ := d
  case body =>
    cases hkind : t.kind <;> rw [hkind] at h
    case assignment | alternate | newline | finish =>
      simp [Draft.rested, Stage.rested, Draft.step, Draft.stepBody, hkind, Draft.define]
    all_goals cases h
  all_goals rfl

/-- No suffix may follow an arrow or a slash. -/
lemma rested_of_isMark {d d' : Draft} {t : Token} (h : t.kind.isMark)
    (hstep : d.step t = .ok (.more d')) : d'.rested = d' := by
  obtain ⟨definitions, _ | _ | _⟩ := d
  all_goals
    cases hkind : t.kind <;> rw [hkind] at h
    case assignment | alternate =>
      simp only [Draft.step, Draft.stepBody, hkind] at hstep
      first
        | cases hstep
        | split at hstep <;> cases hstep
      all_goals rfl
    all_goals cases h

lemma outcome_blank {t : Token} (h : t.kind = .whitespace) (d : Draft) (ts : List Token) :
    d.outcome (t :: ts) = d.rested.outcome ts := by
  rw [Draft.outcome, step_whitespace h]
  rfl

lemma outcome_trim (ts : List Token) (d : Draft) (after : Bool)
    (hafter : after = true → d.rested = d) : d.outcome (trim after ts) = d.outcome ts := by
  induction ts generalizing d after with
  | nil => rfl
  | cons t ts ih =>
    rw [trim]
    split
    case isTrue hdrop =>
      obtain ⟨hblank, hdrop⟩ := hdrop
      rw [ih d after hafter, outcome_blank hblank]
      rcases hdrop with hbehind | ⟨u, hu, htrims⟩
      · rw [hafter hbehind]
      · obtain ⟨us, rfl⟩ := List.head?_eq_some_iff.mp hu
        rw [Draft.outcome, Draft.outcome, step_rested htrims]
    case isFalse hkeep =>
      apply outcome_cons_congr
      intro d' hstep
      apply ih
      exact fun hmark => rested_of_isMark hmark hstep

/-- The layout that is taken out says nothing. -/
lemma outcome_layout (ts : List Token) :
    ({} : Draft).outcome (layout ts) = ({} : Draft).outcome ts := by
  have hidle : ({} : Draft).Idle := idle_of_between rfl
  rw [layout, outcome_trim _ _ false (by simp), outcome_settle _ _ 0 true rfl fun _ => hidle]
  exact outcome_spelled {} ts

end Definitions

/-! ### Line ends -/

namespace Token

/-- The same token, but that a line end may be spelled in another way. -/
def Respells (t u : Token) : Prop :=
  u.kind = t.kind ∧ if t.kind = .newline then u.text ∈ ["\n", "\r\n", "\r"] else u.text = t.text

lemma Respells.spelled_eq {t u : Token} (h : Respells t u) : u.spelled = t.spelled := by
  obtain ⟨hkind, htext⟩ := h
  obtain ⟨kind, text, offset⟩ := t
  obtain ⟨kind', text', offset'⟩ := u
  obtain rfl : kind' = kind := hkind
  cases kind'
  case whitespace | newline => rfl
  all_goals
    obtain rfl : text' = text := htext
    rfl

lemma Respells.wellFormed {t u : Token} (h : Respells t u) (ht : t.WellFormed) : u.WellFormed := by
  obtain ⟨hkind, htext⟩ := h
  rw [WellFormed, hkind]
  split at htext
  case isTrue hnewline =>
    simp only [List.mem_cons, List.not_mem_nil, or_false] at htext
    rw [hnewline]
    rcases htext with htext | htext | htext <;> simp [htext, Kind.Admits]
  case isFalse => rwa [htext]

/-- Whether the two tokens are read apart, if they are no line ends. -/
structure Apart (t u : Token) : Prop where
  identifier : t.kind = .identifier ∨ t.kind = .reference → u.kind ≠ .identifier
  whitespace : t.kind = .whitespace → u.kind ≠ .whitespace

lemma Apart.of_kind {t t' u u' : Token} (h : Apart t u) (ht : t'.kind = t.kind)
    (hu : u'.kind = u.kind) : Apart t' u' :=
  ⟨by rw [ht, hu]; exact h.identifier, by rw [ht, hu]; exact h.whitespace⟩

lemma forall_wellFormed_of_respells {ts us : List Token} (h : List.Forall₂ Respells ts us)
    (hwell : ∀ t ∈ ts, t.WellFormed) : ∀ u ∈ us, u.WellFormed := by
  induction h with
  | nil => exact hwell
  | cons hrespells _ ih =>
    rw [List.forall_mem_cons] at hwell ⊢
    exact ⟨hrespells.wellFormed hwell.1, ih hwell.2⟩

lemma map_spelled_of_respells {ts us : List Token} (h : List.Forall₂ Respells ts us) :
    us.map spelled = ts.map spelled := by
  induction h with
  | nil => rfl
  | cons hrespells _ ih => rw [List.map_cons, List.map_cons, hrespells.spelled_eq, ih]

lemma isChain_apart_of_respells {ts us : List Token} (h : List.Forall₂ Respells ts us)
    (hseparate : ts.IsChain Separate) : us.IsChain Apart := by
  induction h with
  | nil => exact .nil
  | @cons t u ts us hrespells hrest ih =>
    rw [List.isChain_cons]
    refine ⟨fun u' hu' => ?_, ih hseparate.tail⟩
    cases hrest with
    | nil => cases hu'
    | cons hrespells' _ =>
      cases hu'
      obtain ⟨hidentifier, hwhitespace, -⟩ := (List.isChain_cons_cons.mp hseparate).1
      exact Apart.of_kind ⟨hidentifier, hwhitespace⟩ hrespells.1 hrespells'.1

/-- Joins the line ends that are read as one when they are written one behind the other. -/
def joinLineEnds : List Token → List Token
  | t :: u :: ts =>
    if t.kind = .newline ∧ t.text = "\r" ∧ u.kind = .newline ∧ u.text = "\n" then
      { t with text := "\r\n" } :: joinLineEnds ts
    else t :: joinLineEnds (u :: ts)
  | ts => ts

lemma written_joinLineEnds (ts : List Token) :
    (joinLineEnds ts).flatMap written = ts.flatMap written := by
  fun_induction joinLineEnds ts with
  | case1 t u ts h ih =>
    obtain ⟨ht, htext, hu, hutext⟩ := h
    simp [written, ht, htext, hu, hutext, ih]
  | case2 t u ts h ih => simp [ih]
  | case3 => rfl

lemma wellFormed_joinLineEnds {ts : List Token} (h : ∀ t ∈ ts, t.WellFormed) :
    ∀ t ∈ joinLineEnds ts, t.WellFormed := by
  fun_induction joinLineEnds ts with
  | case1 t u ts hjoin ih =>
    simp only [List.forall_mem_cons] at h ⊢
    refine ⟨?_, ih h.2.2⟩
    simp [WellFormed, hjoin.1, Kind.Admits]
  | case2 t u ts hjoin ih =>
    rw [List.forall_mem_cons] at h ⊢
    exact ⟨h.1, ih h.2⟩
  | case3 => exact h

lemma exists_head_joinLineEnds (t : Token) (ts : List Token) : ∃ u us,
    joinLineEnds (t :: ts) = u :: us ∧ u.kind = t.kind ∧ (u.text = t.text ∨ u.text = "\r\n") := by
  cases ts with
  | nil => exact ⟨t, [], rfl, rfl, Or.inl rfl⟩
  | cons u ts =>
    rw [joinLineEnds]
    split
    · exact ⟨_, _, rfl, rfl, Or.inr rfl⟩
    · exact ⟨_, _, rfl, rfl, Or.inl rfl⟩

lemma separate_joinLineEnds {ts : List Token} (hwell : ∀ t ∈ ts, t.WellFormed)
    (h : ts.IsChain Apart) : (joinLineEnds ts).IsChain Separate := by
  fun_induction joinLineEnds ts with
  | case1 t u ts hjoin ih =>
    simp only [List.forall_mem_cons] at hwell
    rw [List.isChain_cons]
    refine ⟨fun y hy => ?_, ih hwell.2.2 h.tail.tail⟩
    constructor <;> simp [hjoin.1]
  | case2 t u ts hjoin ih =>
    simp only [List.forall_mem_cons] at hwell ih
    obtain ⟨hapart, hrest⟩ := List.isChain_cons_cons.mp h
    obtain ⟨y, ys, heq, hkind, htext⟩ := exists_head_joinLineEnds u ts
    rw [List.isChain_cons]
    refine ⟨?_, ih hwell.2 hrest⟩
    rw [heq]
    rintro _ ⟨⟩
    have hsame : Apart t y := hapart.of_kind rfl hkind
    refine ⟨hsame.identifier, hsame.whitespace, fun ht hreturn hy hfeed => hjoin ?_⟩
    -- only a line feed begins with one
    have hu : u.kind = .newline := hkind.symm.trans hy
    have hadmits := hwell.2.1
    rw [WellFormed, hu] at hadmits
    rcases htext with htext | htext <;> rw [htext] at hfeed
    · rcases hadmits with hu' | hu' | hu' <;> rw [hu'] at hfeed
      · exact ⟨ht, String.toList_inj.mp hreturn, hu, String.toList_inj.mp hu'⟩
      · cases hfeed
      · cases hfeed
    · cases hfeed
  | case3 ts hshort =>
    obtain _ | ⟨t, _ | ⟨u, ts⟩⟩ := ts
    · exact .nil
    · exact .singleton t
    · exact absurd rfl (hshort t u ts)

end Token

namespace Definitions

/-- A line end behind another one does nothing. -/
lemma settle_newline {t u : Token} (ht : t.kind = .newline) (hu : u.kind = .newline) (groups : Nat)
    (absorbs : Bool) (ts : List Token) :
    settle groups absorbs (t :: u :: ts) = settle groups absorbs (t :: ts) := by
  simp [settle, ht, hu, Token.Kind.isLayout]

lemma settle_joinLineEnds (ts rest : List Token) (groups : Nat) (absorbs : Bool) :
    settle groups absorbs ((Token.joinLineEnds ts ++ rest).map Token.spelled) =
      settle groups absorbs ((ts ++ rest).map Token.spelled) := by
  fun_induction Token.joinLineEnds ts generalizing groups absorbs with
  | case1 t u ts h ih =>
    obtain ⟨ht, -, hu, -⟩ := h
    simp only [List.cons_append, List.map_cons] at ih ⊢
    rw [settle_newline (t.kind_spelled.trans ht) (u.kind_spelled.trans hu)]
    have hspelled : Token.spelled { t with text := "\r\n" } = t.spelled := by
      simp only [Token.spelled, ht]
    rw [hspelled, settle, settle, ih, ih, ih]
  | case2 t u ts h ih =>
    simp only [List.cons_append, List.map_cons] at ih ⊢
    rw [settle, settle, ih, ih, ih]
  | case3 => rfl

/-! ### Grammar texts -/

/-- The tokens of a grammar text stand in a row, and the end is behind them. -/
lemma exists_row_of_tokenize {text : String} {tokens : List Token}
    (h : Token.tokenize text = .ok tokens) : ∃ row place,
      tokens = row ++ [{ kind := .finish, text := "", offset := place }] ∧
        Token.Row 0 text.toList row [] := by
  obtain ⟨row, rest, last, hitems, hrow, hends⟩ :=
    Token.exists_row (text.toList.length + 1) 0 text.toList (Nat.lt_succ_self _)
  have hmap : tokens.map Except.ok = row.map .ok ++ [last] :=
    (Token.tokenize_eq_ok.mp h).symm.trans hitems
  obtain ⟨front, back, rfl, hfront, hback⟩ := List.map_eq_append_iff.mp hmap
  have hinjective : Function.Injective (@Except.ok LexError Token) := fun _ _ => Except.ok.inj
  obtain rfl := hinjective.list_map hfront
  obtain ⟨t, rest', rfl, ht, hrest'⟩ := List.map_eq_cons_iff.mp hback
  obtain rfl := List.map_eq_nil_iff.mp hrest'
  subst ht
  cases hends
  exact ⟨front, _, rfl, hrow⟩

/-- Whether a grammar text is read to the definitions is told by its tokens. -/
lemma result_eq_ok_iff {text : String} {tokens : List Token}
    (h : Token.tokenize text = .ok tokens) (rules : List Rule) :
    (ofItems (Token.readAll text)).result = .ok rules ↔
      ({} : Draft).outcome tokens = some rules := by
  have hends : Ends (tokens.map .ok) := by
    obtain ⟨row, place, rfl, -⟩ := exists_row_of_tokenize h
    exact ⟨.ok { kind := .finish, text := "", offset := place }, by simp, by rintro _ ⟨⟩; rfl⟩
  rw [← outcome_eq hends {} 0 0, Token.tokenize_eq_ok.mp h, ofItems]
  cases (Draft.read {} 0 0 (tokens.map .ok)).result <;> simp [Except.toOption]

/-- All tokens of a grammar text that is read to definitions can be read. -/
lemma exists_tokens {text : String} {rules : List Rule}
    (h : (ofItems (Token.readAll text)).result = .ok rules) :
    ∃ tokens, Token.tokenize text = .ok tokens := by
  obtain ⟨row, rest, last, hitems, hrow, hends⟩ :=
    Token.exists_row (text.toList.length + 1) 0 text.toList (Nat.lt_succ_self _)
  have hfinish : ∀ t ∈ row, t.kind ≠ .finish := by
    intro t ht hkind
    have hwell := hrow.wellFormed t ht
    rw [Token.WellFormed, hkind] at hwell
    exact hwell
  have hlast : ∀ t, last = .ok t → t.kind = .finish := by
    rintro t rfl
    cases hends
    rfl
  rw [ofItems, Token.readAll, hitems] at h
  obtain ⟨t, rfl, -⟩ := isProgram_of_read hasRead_nil hfinish hlast 0 0 h
  refine ⟨row ++ [t], Token.tokenize_eq_ok.mpr ?_⟩
  rw [Token.readAll, hitems, List.map_append, List.map_singleton]

lemma map_spelled_place (offset : Nat) (ts : List Token) :
    (Token.place offset ts).map Token.spelled = ts.map Token.spelled := by
  induction ts generalizing offset with
  | nil => rfl
  | cons t ts ih =>
    obtain ⟨kind, text, _⟩ := t
    rw [Token.place, List.map_cons, List.map_cons, ih]
    cases kind <;> rfl

/-- With other line ends, a grammar text is split into tokens of the same layout. -/
lemma exists_tokenize_respelled {text : String} {tokens tokens' : List Token}
    (h : Token.tokenize text = .ok tokens)
    (hrespelled : List.Forall₂ Token.Respells tokens tokens') :
    ∃ tokens'', Token.tokenize (String.ofList (tokens'.flatMap Token.written)) = .ok tokens'' ∧
      layout tokens'' = layout tokens := by
  obtain ⟨row, place, rfl, hrow⟩ := exists_row_of_tokenize h
  obtain ⟨row', finish, rfl, hrow', hfinish⟩ : ∃ row' finish, tokens' = row' ++ [finish] ∧
      List.Forall₂ Token.Respells row row' ∧
      Token.Respells { kind := .finish, text := "", offset := place } finish := by
    have hfront := List.forall₂_take_append _ _ _ hrespelled.flip
    have hback := List.forall₂_drop_append _ _ _ hrespelled.flip
    obtain ⟨finish, rest, hfinish, hrest, hdrop⟩ := List.forall₂_cons_right_iff.mp hback
    obtain rfl := List.forall₂_nil_right_iff.mp hrest
    refine ⟨_, finish, ?_, hfront.flip, hfinish⟩
    rw [← hdrop, List.take_append_drop]
  have hwritten : finish.written = [] := by
    obtain ⟨hkind, htext⟩ := hfinish
    simp_all [Token.written]
  have hwell := Token.forall_wellFormed_of_respells hrow' hrow.wellFormed
  have hseparate := Token.separate_joinLineEnds hwell
    (Token.isChain_apart_of_respells hrow' hrow.separate)
  have hread := Token.readFrom_written (Token.wellFormed_joinLineEnds hwell) hseparate _ 0
    (Nat.lt_succ_self _)
  rw [Token.written_joinLineEnds] at hread
  refine ⟨Token.place 0 (Token.joinLineEnds row') ++
    [{ kind := .finish, text := "", offset := 0 + Utf8.size (row'.flatMap Token.written) }],
    Token.tokenize_eq_ok.mpr ?_, ?_⟩
  · rw [List.flatMap_append, List.flatMap_singleton, hwritten, List.append_nil, Token.readAll,
      String.toList_ofList, hread, List.map_append, List.map_singleton]
  · have hsettle := settle_joinLineEnds row' [finish] 0 true
    rw [layout, layout, ← Token.map_spelled_of_respells hrespelled, ← hsettle, List.map_append,
      map_spelled_place, List.map_append, List.map_singleton, List.map_singleton,
      hfinish.spelled_eq]
    rfl

/-- Grammar texts whose tokens have the same layout stand for the same definitions, if one of them
stands for any, and then for the same grammar. To spell line ends in other ways, each for itself,
does not change the layout. -/
theorem layout_insignificant {source : String} {rules : List Rule}
    (h : (ofItems (Token.readAll source)).result = .ok rules) :
    ∃ tokens, Token.tokenize source = .ok tokens ∧
      (∀ other tokens', Token.tokenize other = .ok tokens' → layout tokens' = layout tokens →
        (ofItems (Token.readAll other)).result = .ok rules ∧
          ∀ options, (Grammar.ofText other options).1 = (Grammar.ofText source options).1) ∧
      ∀ tokens', List.Forall₂ Token.Respells tokens tokens' →
        (∃ tokens'', Token.tokenize (String.ofList (tokens'.flatMap Token.written)) = .ok tokens'' ∧
          layout tokens'' = layout tokens) ∧
        (ofItems (Token.readAll (String.ofList (tokens'.flatMap Token.written)))).result =
          .ok rules := by
  obtain ⟨tokens, htokens⟩ := exists_tokens h
  have hsame : ∀ other tokens', Token.tokenize other = .ok tokens' →
      layout tokens' = layout tokens → (ofItems (Token.readAll other)).result = .ok rules := by
    intro other tokens' htokens' hlayout
    rw [result_eq_ok_iff htokens', ← outcome_layout, hlayout, outcome_layout,
      ← result_eq_ok_iff htokens]
    exact h
  refine ⟨tokens, htokens, fun other tokens' htokens' hlayout => ?_, fun tokens' hrespelled => ?_⟩
  · have hother := hsame other tokens' htokens' hlayout
    refine ⟨hother, fun options => ?_⟩
    simp only [Grammar.ofText, Grammar.readText, h, hother]
  · obtain ⟨tokens'', htokens'', hlayout⟩ := exists_tokenize_respelled htokens hrespelled
    exact ⟨⟨tokens'', htokens'', hlayout⟩, hsame _ tokens'' htokens'' hlayout⟩

/-- A group over several lines, all kinds of line ends, and rows of them before and behind the
definition. -/
theorem layout_insignificant_group :
    let rule : Rule := .plus "r" (.alternate "r" (.literal "'a'" [97]) (.literal "'b'" [98]))
    (ofItems (Token.readAll "r <- ('a' / 'b')+\n")).result = .ok [rule] ∧
      (ofItems (Token.readAll "\r\n r\t<-('a'\r /\n\t'b')+ \r\r\n\n ")).result = .ok [rule] := by
  intro rule
  have hrule : (ofItems (Token.readAll "r <- ('a' / 'b')+\n")).result = .ok [rule] := rfl
  have hlayout : (Token.tokenize "\r\n r\t<-('a'\r /\n\t'b')+ \r\r\n\n ").map layout =
      (Token.tokenize "r <- ('a' / 'b')+\n").map layout := by decide +kernel
  obtain ⟨tokens, htokens, hsame, -⟩ := layout_insignificant hrule
  rw [htokens] at hlayout
  obtain ⟨tokens', htokens', hlayout⟩ := exists_of_map_eq_ok hlayout
  exact ⟨hrule, (hsame _ tokens' htokens' hlayout).1⟩

end Definitions

end Peg
