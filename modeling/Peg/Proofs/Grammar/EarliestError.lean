import Peg.Proofs.Grammar.Recognition

/-!
# The earliest error

A token is unexpected just where no grammar text goes on with one of its kind. The tokens before it
can always be completed to a grammar text. Which kinds may follow depends on the shape of what has
been read: how many groups are open, and little else. Kinds of tokens alone lead from one shape to
the next, and a whole program to the last one; so no program begins with tokens that lead nowhere.
-/

namespace Peg

namespace Definitions

open Syntax
open Token (Item)

/-! ### Shapes -/

/-- What decides which kinds of tokens may follow. -/
inductive Shape where
  | between
  | named
  /-- An expression: how many groups are open, whether the last alternative of the innermost one has
  parts, and whether a suffix may follow. -/
  | body (groups : Nat) (begun afterPrimary : Bool)
  | finished
deriving DecidableEq, Repr

/-- Takes a token of the kind in an expression, if one may follow. -/
def Shape.nextInBody (groups : Nat) (begun afterPrimary : Bool) : Token.Kind → Option Shape
  | .whitespace => some (.body groups begun false)
  | .literal | .regexp | .identifier | .reference => some (.body groups true true)
  | .closure | .plus | .optional | .discard =>
    if begun && afterPrimary then some (.body groups true true) else none
  | .openGroup => some (.body (groups + 1) false false)
  | .alternate => if begun then some (.body groups false false) else none
  | .closeGroup => if begun && groups != 0 then some (.body (groups - 1) true true) else none
  | .newline =>
    if groups != 0 then some (.body groups begun false)
    else if begun then some .between
    else none
  | .finish => if begun && groups == 0 then some .finished else none
  | .assignment => none

/-- Takes a token of the kind, if one may follow. -/
def Shape.next : Shape → Token.Kind → Option Shape
  | .between, .whitespace | .between, .newline => some .between
  | .between, .identifier => some .named
  | .between, .finish => some .finished
  | .between, _ => none
  | .named, .whitespace => some .named
  | .named, .assignment => some (.body 0 false false)
  | .named, _ => none
  | .body groups begun afterPrimary, kind => nextInBody groups begun afterPrimary kind
  | .finished, _ => none

/-- Takes tokens of the kinds, if they may follow. -/
def Shape.after (s : Shape) (kinds : List Token.Kind) : Option Shape := kinds.foldlM next s

def Draft.shape (d : Draft) : Shape :=
  match d.stage with
  | .between => .between
  | .named .. => .named
  | .body _ _ e outer afterPrimary => .body outer.length (!e.parts.isEmpty) afterPrimary

def Step.shape : Step → Shape
  | .more d => d.shape
  | .finished _ => .finished

lemma Expression.lastAlternative?_eq_none {e : Expression} {name : String} :
    e.lastAlternative? name = none ↔ e.parts.isEmpty = true := by
  rw [lastAlternative?]
  split <;> simp_all

lemma Expression.finish?_eq_none {e : Expression} {name : String} :
    e.finish? name = none ↔ e.parts.isEmpty = true := by
  rw [finish?, Option.map_eq_none_iff, lastAlternative?_eq_none]

lemma Expression.nextAlternative?_eq_none {e : Expression} {name : String} :
    e.nextAlternative? name = none ↔ e.parts.isEmpty = true := by
  rw [nextAlternative?, Option.map_eq_none_iff, lastAlternative?_eq_none]

lemma Expression.begun_of_lastAlternative? {e : Expression} {name : String} {r : Rule}
    (h : e.lastAlternative? name = some r) : e.parts.isEmpty = false := by
  rw [← Bool.not_eq_true, ← @lastAlternative?_eq_none e name, h]
  simp

lemma Expression.begun_of_finish? {e : Expression} {name : String} {r : Rule}
    (h : e.finish? name = some r) : e.parts.isEmpty = false := by
  obtain ⟨_, hlast, -⟩ := Option.map_eq_some_iff.mp h
  exact begun_of_lastAlternative? hlast

lemma Expression.begun_of_nextAlternative? {e e' : Expression} {name : String}
    (h : e.nextAlternative? name = some e') : e.parts.isEmpty = false ∧ e'.parts = [] := by
  obtain ⟨_, hlast, rfl⟩ := Option.map_eq_some_iff.mp h
  exact ⟨begun_of_lastAlternative? hlast, rfl⟩

lemma exists_of_define {d : Draft} {name : String} {offset : Nat} {body : Rule} {f : Draft → Step}
    {s : Step} (h : (d.define name offset body).map f = .ok s) :
    ∃ definitions, f ⟨definitions, .between⟩ = s := by
  obtain ⟨_, hdefine, rfl⟩ := exists_of_map_eq_ok h
  obtain ⟨-, rfl⟩ := define_eq_ok.mp hdefine
  exact ⟨_, rfl⟩

/-- A token that is taken in an expression leads to the shape of what has been read with it. -/
lemma nextInBody_of_ok {d : Draft} {name : String} {offset : Nat} {e : Expression}
    {outer : List Expression} {afterPrimary : Bool} {t : Token} {s : Step}
    (h : d.stepBody name offset e outer afterPrimary t = .ok s) :
    Shape.nextInBody outer.length (!e.parts.isEmpty) afterPrimary t.kind = some s.shape := by
  cases hkind : t.kind <;> simp only [Draft.stepBody, hkind] at h
  case whitespace | openGroup =>
    obtain rfl := Except.ok.inj h
    rfl
  case literal | regexp | identifier | reference =>
    split at h <;> cases h
    rfl
  case closure | plus | optional | discard =>
    split at h
    · rename_i hparts
      split at h <;> cases h
      simp [Shape.nextInBody, Step.shape, Draft.shape, hparts]
    · cases h
  case alternate =>
    split at h <;> cases h
    rename_i he
    obtain ⟨hbegun, hparts⟩ := Expression.begun_of_nextAlternative? he
    simp [Shape.nextInBody, Step.shape, Draft.shape, hbegun, hparts]
  case closeGroup =>
    split at h <;> cases h
    rename_i hfinish
    simp [Shape.nextInBody, Step.shape, Draft.shape, Expression.begun_of_finish? hfinish,
      Expression.push]
  case newline =>
    split at h
    · cases h
      simp [Shape.nextInBody, Step.shape, Draft.shape]
    · rename_i hfinish
      obtain ⟨_, rfl⟩ := exists_of_define h
      simp [Shape.nextInBody, Step.shape, Draft.shape, Expression.begun_of_finish? hfinish]
    · cases h
  case finish =>
    split at h
    · rename_i hfinish
      obtain ⟨_, rfl⟩ := exists_of_define h
      simp [Shape.nextInBody, Step.shape, Expression.begun_of_finish? hfinish]
    · cases h
  case assignment => cases h

lemma next_of_ok {d : Draft} {t : Token} {s : Step} (h : d.step t = .ok s) :
    d.shape.next t.kind = some s.shape := by
  obtain ⟨definitions, _ | _ | _⟩ := d
  case between =>
    cases hkind : t.kind <;> simp only [Draft.step, hkind] at h
    case finish =>
      split at h <;> cases h
      rfl
    case whitespace | newline | identifier =>
      cases h
      rfl
    all_goals cases h
  case named =>
    cases hkind : t.kind <;> simp only [Draft.step, hkind] at h <;> cases h <;> rfl
  case body => exact nextInBody_of_ok h

lemma map_define_ne_unexpected {d : Draft} {name : String} {offset : Nat} {body : Rule}
    {f : Draft → Step} {expected : Expected} {found : Token} :
    (d.define name offset body).map f ≠ .error (.unexpected expected found) := by
  rw [Draft.define]
  split <;> rintro ⟨⟩

lemma exists_primary? {t : Token}
    (h : t.kind = .literal ∨ t.kind = .regexp ∨ t.kind = .identifier ∨ t.kind = .reference) :
    (∃ r, primary? t = some (.ok r)) ∨
      ∃ pattern, primary? t = some (.error (.invalidPattern pattern t.offset)) := by
  rcases h with hkind | hkind | hkind | hkind <;> simp only [primary?, hkind]
  case inr.inl => split <;> simp
  all_goals simp

/-- A token that is unexpected in an expression is of a kind that leads nowhere. -/
lemma nextInBody_of_unexpected {d : Draft} {name : String} {offset : Nat} {e : Expression}
    {outer : List Expression} {afterPrimary : Bool} {t found : Token} {expected : Expected}
    (h : d.stepBody name offset e outer afterPrimary t = .error (.unexpected expected found)) :
    found = t ∧ Shape.nextInBody outer.length (!e.parts.isEmpty) afterPrimary t.kind = none := by
  cases hkind : t.kind <;> simp only [Draft.stepBody, hkind] at h
  case whitespace | openGroup => cases h
  case literal | regexp | identifier | reference =>
    rcases @exists_primary? t (by simp [hkind]) with ⟨r, hr⟩ | ⟨pattern, hpattern⟩
    · simp [hr] at h
    · simp [hpattern] at h
  case closure | plus | optional | discard =>
    split at h
    · simp [suffix?] at h
    · rename_i hnot
      cases h
      refine ⟨rfl, ?_⟩
      cases hparts : e.parts with
      | nil => simp [Shape.nextInBody]
      | cons r parts => simpa [Shape.nextInBody] using hnot r parts hparts
  case alternate =>
    split at h <;> cases h
    rename_i hnext
    simp [Shape.nextInBody, Expression.nextAlternative?_eq_none.mp hnext]
  case closeGroup =>
    cases outer with
    | nil =>
      cases h
      simp [Shape.nextInBody]
    | cons e' outer =>
      cases hfinish : e.finish? name with
      | none =>
        simp only [hfinish] at h
        cases h
        simp [Shape.nextInBody, Expression.finish?_eq_none.mp hfinish]
      | some r => simp [hfinish] at h
  case newline =>
    split at h
    · cases h
    · exact absurd h map_define_ne_unexpected
    · rename_i hfinish
      cases h
      simp [Shape.nextInBody, Expression.finish?_eq_none.mp hfinish]
  case finish =>
    cases outer with
    | nil =>
      cases hfinish : e.finish? name with
      | none =>
        simp only [hfinish] at h
        cases h
        simp [Shape.nextInBody, Expression.finish?_eq_none.mp hfinish]
      | some r =>
        simp only [hfinish] at h
        exact absurd h map_define_ne_unexpected
    | cons e' outer =>
      cases h
      simp [Shape.nextInBody]
  case assignment =>
    cases h
    exact ⟨rfl, rfl⟩

lemma next_of_unexpected {d : Draft} {t found : Token} {expected : Expected}
    (h : d.step t = .error (.unexpected expected found)) :
    found = t ∧ d.shape.next t.kind = none := by
  obtain ⟨definitions, _ | _ | _⟩ := d
  case between =>
    cases hkind : t.kind <;> simp only [Draft.step, hkind] at h
    case finish => split at h <;> cases h
    case whitespace | newline | identifier => cases h
    all_goals
      cases h
      exact ⟨rfl, rfl⟩
  case named =>
    cases hkind : t.kind <;> simp only [Draft.step, hkind] at h <;> cases h <;> exact ⟨rfl, rfl⟩
  case body => exact nextInBody_of_unexpected h

lemma after_append {s : Shape} {kinds kinds' : List Token.Kind} :
    s.after (kinds ++ kinds') = (s.after kinds).bind fun s' => s'.after kinds' :=
  List.foldlM_append

/-! ### Programs -/

lemma Draft.Takes.after_eq {d d' : Draft} {ts : List Token} (h : d.Takes ts d') :
    d.shape.after (ts.map Token.kind) = some d'.shape := by
  induction h with
  | nil => rfl
  | cons hstep _ ih =>
    rw [List.map_cons, Shape.after, List.foldlM_cons, next_of_ok hstep]
    exact ih

lemma after_of_isDefinition {layout ts : List Token} {r : Rule} (hlayout : Blanks true layout)
    (h : IsDefinition ts r) : ∃ afterPrimary,
      Shape.between.after ((layout ++ ts).map Token.kind) = some (.body 0 true afterPrimary) := by
  -- Read as the first definition it is not a repeated one, and the shape is the same.
  obtain ⟨name, offset, body, e, afterPrimary, rfl, hfinish, htakes⟩ := takes_of_isDefinition [] h
  have hafter := ((takes_layout hlayout).append htakes).after_eq
  have hbody : Draft.shape ⟨[], .body name offset e [] afterPrimary⟩ =
      .body 0 true afterPrimary := by
    simp [Draft.shape, Expression.begun_of_finish? hfinish]
  exact ⟨afterPrimary, hbody ▸ hafter⟩

/-- A program leads to the end, whatever the names of its definitions are. -/
lemma after_of_isProgram {ts : List Token} {rules : List Rule} (h : IsProgram ts rules) :
    Shape.between.after (ts.map Token.kind) = some .finished := by
  induction h with
  | finish hlayout ht =>
    have hbetween := (@takes_layout [] _ hlayout).after_eq
    rw [List.map_append, List.map_singleton, ht, after_append]
    exact Option.bind_eq_some_iff.mpr ⟨_, hbetween, rfl⟩
  | @line t layout ts rest _ _ hlayout h ht _ ih =>
    obtain ⟨afterPrimary, hbody⟩ := after_of_isDefinition hlayout h
    rw [List.map_append, List.map_cons, ht, after_append, hbody]
    exact ih
  | last hlayout h ht =>
    obtain ⟨afterPrimary, hbody⟩ := after_of_isDefinition hlayout h
    rw [List.map_append, List.map_singleton, ht, after_append, hbody]
    rfl

/-- Some program begins with tokens of the same kinds. Their texts may be other ones, so neither
names nor regular expressions matter. -/
def BeginsProgram (ts : List Token) : Prop :=
  ∃ us rest rules, us.map Token.kind = ts.map Token.kind ∧ IsProgram (us ++ rest) rules

/-- Behind tokens that were taken, no program goes on with one that leads nowhere. -/
lemma not_beginsProgram {d : Draft} {ts : List Token} {t : Token} (h : Draft.Takes {} ts d)
    (ht : d.shape.next t.kind = none) : ¬ BeginsProgram (ts ++ [t]) := by
  rintro ⟨us, rest, rules, hkinds, hprogram⟩
  have hafter := after_of_isProgram hprogram
  have hts : Shape.between.after (ts.map Token.kind) = some d.shape := h.after_eq
  rw [List.map_append, hkinds, List.map_append, List.append_assoc, after_append, hts] at hafter
  rw [Option.bind_some, List.map_singleton, List.singleton_append, Shape.after, List.foldlM_cons,
    ht] at hafter
  cases hafter

/-! ### Completion -/

lemma Draft.Takes.hasRead {d d' : Draft} {before ts : List Token} (h : d.Takes ts d')
    (hread : d.HasRead before) : d'.HasRead (before ++ ts) := by
  induction h generalizing before with
  | nil => simpa using hread
  | cons hstep _ ih =>
    obtain ⟨hmore⟩ := hasRead_step hread hstep
    simpa using ih hmore

lemma Expression.exists_finish?_push (e : Expression) (r : Rule) (name : String) :
    ∃ r', (e.push r).finish? name = some r' := by
  rw [← Option.ne_none_iff_exists', Ne, finish?_eq_none]
  simp [push]

/-- Closes the groups that are open. -/
lemma BodyRead.exists_closed {name : String} {e : Expression} {outer : List Expression}
    {afterPrimary : Bool} {ts : List Token} {r : Rule} (h : BodyRead name e outer afterPrimary ts)
    (hr : e.finish? name = some r) : ∃ rest e' afterPrimary' r',
      BodyRead name e' [] afterPrimary' (ts ++ rest) ∧ e'.finish? name = some r' := by
  induction outer generalizing e afterPrimary ts r with
  | nil => exact ⟨[], e, afterPrimary, r, by simpa using h, hr⟩
  | cons e' outer ih =>
    let right : Token := { kind := .closeGroup, text := ")", offset := 0 }
    have hclosed := h.closeGroup (t := right) rfl hr
    obtain ⟨r', hr'⟩ := e'.exists_finish?_push r name
    obtain ⟨rest, hrest⟩ := ih hclosed hr'
    exact ⟨right :: rest, by simpa using hrest⟩

section

variable {definitions : List Rule} {lines layout blanks : List Token} {t : Token}

lemma LinesRead.exists_isProgram_of_body {ts : List Token} {arrow : Token} {e : Expression}
    {outer : List Expression} {afterPrimary : Bool} (hlines : LinesRead definitions lines)
    (hlayout : Blanks true layout) (ht : t.kind = .identifier) (hblanks : Blanks false blanks)
    (harrow : arrow.kind = .assignment) (h : BodyRead t.text e outer afterPrimary ts) :
    ∃ rest rules, IsProgram (lines ++ layout ++ t :: (blanks ++ arrow :: ts) ++ rest) rules ∧
      rules ≠ [] := by
  let part : Token := { kind := .identifier, text := "a", offset := 0 }
  let finish : Token := { kind := .finish, text := "", offset := 0 }
  have hpushed := h.push (.reference (t := part) (Or.inl rfl))
  obtain ⟨r, hr⟩ := e.exists_finish?_push (.reference part.text part.text none) t.text
  obtain ⟨rest, e', afterPrimary', r', hclosed, hr'⟩ := hpushed.exists_closed hr
  have hdefinition := hclosed.isDefinition ht hblanks harrow hr'
  have hprogram := hlines.program _ _ (.last (t := finish) hlayout hdefinition rfl)
  exact ⟨part :: rest ++ [finish], _, by simpa using hprogram, by simp⟩

lemma LinesRead.exists_isProgram_of_named (hlines : LinesRead definitions lines)
    (hlayout : Blanks true layout) (ht : t.kind = .identifier) (hblanks : Blanks false blanks) :
    ∃ rest rules, IsProgram (lines ++ layout ++ t :: blanks ++ rest) rules ∧ rules ≠ [] := by
  let arrow : Token := { kind := .assignment, text := "<-", offset := 0 }
  have harrow : arrow.kind = .assignment := rfl
  obtain ⟨rest, rules, hprogram⟩ := hlines.exists_isProgram_of_body hlayout ht hblanks harrow
    (.intro .nil .empty)
  exact ⟨arrow :: rest, rules, by simpa using hprogram⟩

end

/-- Whatever has been read can be completed: by the name, the arrow and the part that are missing,
and by parentheses and the end. -/
lemma Draft.HasRead.exists_isProgram {d : Draft} {ts : List Token} (h : d.HasRead ts) :
    ∃ rest rules, IsProgram (ts ++ rest) rules ∧ rules ≠ [] := by
  cases h with
  | between hlines hlayout =>
    let name : Token := { kind := .identifier, text := "a", offset := 0 }
    obtain ⟨rest, rules, hprogram⟩ :=
      hlines.exists_isProgram_of_named (t := name) hlayout rfl blanks_nil
    exact ⟨name :: rest, rules, by simpa using hprogram⟩
  | named hlines hlayout ht hblanks => exact hlines.exists_isProgram_of_named hlayout ht hblanks
  | body hlines hlayout ht hblanks harrow h =>
    exact hlines.exists_isProgram_of_body hlayout ht hblanks harrow h

/-! ### Items -/

/-- There is an item that nothing is taken behind. -/
def Ends (items : List Item) : Prop := ∃ item ∈ items, ∀ t, item = .ok t → t.kind = .finish

lemma ends_cons_ok {t : Token} {items : List Item} :
    Ends (.ok t :: items) ↔ t.kind = .finish ∨ Ends items := by
  simp [Ends]

/-- The items with the end that the reader takes if they have none, which is where the last token
began. -/
def ended (last : Nat) : List Item → List Item
  | [] => [.ok { kind := .finish, text := "", offset := last }]
  | .error e :: items => .error e :: items
  | .ok t :: items => if t.kind = .finish then .ok t :: items else .ok t :: ended t.offset items

lemma ends_ended (last : Nat) (items : List Item) : Ends (ended last items) := by
  fun_induction ended last items with
  | case1 => exact ends_cons_ok.mpr (Or.inl rfl)
  | case2 => exact ⟨_, List.mem_cons_self, fun t ht => by cases ht⟩
  | case3 last t items hfinish => exact ends_cons_ok.mpr (Or.inl hfinish)
  | case4 last t items hfinish ih => exact ends_cons_ok.mpr (Or.inr ih)

lemma ended_eq_self {items : List Item} (h : Ends items) (last : Nat) :
    ended last items = items := by
  fun_induction ended last items with
  | case1 => simp [Ends] at h
  | case2 | case3 => rfl
  | case4 last t items hfinish ih => rw [ih ((ends_cons_ok.mp h).resolve_left hfinish)]

namespace Draft

variable {items : List Item}

lemma result_read_ended (d : Draft) (taken last : Nat) (items : List Item) :
    (d.read taken last (ended last items)).result = (d.read taken last items).result := by
  induction items generalizing d taken last with
  | nil =>
    simp only [ended, read]
    split
    · rename_i hstep
      exact absurd rfl (kind_ne_finish hstep)
    all_goals
      rename_i hstep
      simp [hstep]
  | cons item items ih =>
    cases item with
    | error e => rfl
    | ok t =>
      rw [ended]
      split
      · rfl
      · rw [read, read]
        split
        · exact ih _ _ _
        all_goals rfl

/-- The items behind those that were taken do not matter. -/
lemma exists_taken (h : Ends items) (d : Draft) (taken last : Nat) : ∃ n,
    (d.read taken last items).taken = taken + n ∧
      ∀ rest, d.read taken last (items.take n ++ rest) = d.read taken last items := by
  induction items generalizing d taken last with
  | nil => simp [Ends] at h
  | cons item items ih =>
    cases item with
    | error e => exact ⟨1, rfl, fun rest => rfl⟩
    | ok t =>
      cases hstep : d.step t with
      | error e => exact ⟨1, by simp [read, hstep], fun rest => by simp [read, hstep]⟩
      | ok s =>
        cases s with
        | finished rules => exact ⟨1, by simp [read, hstep], fun rest => by simp [read, hstep]⟩
        | more d' =>
          have hitems := (ends_cons_ok.mp h).resolve_left (kind_ne_finish hstep)
          obtain ⟨n, htaken, hread⟩ := ih hitems d' (taken + 1) t.offset
          refine ⟨n + 1, ?_, fun rest => ?_⟩
          · simp only [read, hstep, htaken]
            omega
          · simp [read, hstep, hread]

/-- An unexpected token is the one behind those that were taken without an error. -/
lemma exists_takes_of_unexpected (h : Ends items) {d : Draft} {taken last : Nat}
    {expected : Expected} {found : Token}
    (hread : (d.read taken last items).result = .error (.unexpected expected found)) :
    ∃ before after d', items = before.map .ok ++ .ok found :: after ∧ d.Takes before d' ∧
      d'.step found = .error (.unexpected expected found) := by
  induction items generalizing d taken last with
  | nil => simp [Ends] at h
  | cons item items ih =>
    cases item with
    | error e => cases hread
    | ok t =>
      rw [read] at hread
      split at hread
      · rename_i d' hstep
        have hitems := (ends_cons_ok.mp h).resolve_left (kind_ne_finish hstep)
        obtain ⟨before, after, d'', rfl, htakes, hfound⟩ := ih hitems hread
        exact ⟨t :: before, after, d'', rfl, .cons hstep htakes, hfound⟩
      · cases hread
      · rename_i e hstep
        cases hread
        obtain ⟨rfl, -⟩ := next_of_unexpected hstep
        exact ⟨[], items, d, rfl, .nil, hstep⟩

end Draft

/-- A token is unexpected only if it is the earliest one that no grammar text goes on with: what is
before it can be completed to one that has definitions, but no grammar text begins with these tokens
and one of its kind. Whatever the result is, nothing behind the items that were taken matters to it,
be it tokens or an error. Items without an end are read as if they had one. -/
theorem unexpected_earliest (items : List Item) :
    let stream := ended 0 items
    let reading := ofItems stream
    (Ends items → stream = items) ∧ reading.result = (ofItems items).result ∧
    (∀ expected found, reading.result = .error (.unexpected expected found) →
      ∃ before after, stream = before.map .ok ++ .ok found :: after ∧
        (∃ rest rules, IsProgram (before ++ rest) rules ∧ rules ≠ []) ∧
        ¬ BeginsProgram (before ++ [found])) ∧
    ∀ rest, ofItems (stream.take reading.taken ++ rest) = reading := by
  intro stream reading
  have hends : Ends stream := ends_ended 0 items
  refine ⟨fun h => ended_eq_self h 0, Draft.result_read_ended {} 0 0 items,
    fun expected found h => ?_, fun rest => ?_⟩
  · obtain ⟨before, after, d, hstream, htakes, hstep⟩ := Draft.exists_takes_of_unexpected hends h
    obtain ⟨-, hnext⟩ := next_of_unexpected hstep
    have hread : d.HasRead before := htakes.hasRead hasRead_nil
    exact ⟨before, after, hstream, hread.exists_isProgram, not_beginsProgram htakes hnext⟩
  · obtain ⟨n, htaken, hread⟩ := Draft.exists_taken hends {} 0 0
    have hreading : reading.taken = n := by
      rw [← Nat.zero_add n]
      exact htaken
    rw [hreading]
    exact hread rest

/-- The last alternative is missing where a group is closed on the next line. The literal behind it
has no end, but the reader does not come to it. -/
theorem unexpected_earliest_group :
    let items := Token.readAll "a <- ('b' /\n) 'c"
    let found : Token := { kind := .closeGroup, text := ")", offset := 12 }
    (ofItems items).result = .error (.unexpected .expression found) ∧
      ∃ before after, items = before.map .ok ++ .ok found :: after ∧
        (∃ rest rules, IsProgram (before ++ rest) rules ∧ rules ≠ []) ∧
        ¬ BeginsProgram (before ++ [found]) := by
  intro items found
  have hunexpected : (ofItems items).result = .error (.unexpected .expression found) := rfl
  have hends : Ends items := ⟨.error (.unterminatedLiteral 14), by decide, by rintro _ ⟨⟩⟩
  obtain ⟨hstream, -, hearliest, -⟩ := unexpected_earliest items
  rw [hstream hends] at hearliest
  exact ⟨hunexpected, hearliest _ _ hunexpected⟩

end Definitions

end Peg
