import Peg.Proofs.Grammar.Acceptance

/-!
# Rules of grammar texts

Whatever holds of the smallest expressions, and is passed on by everything that puts expressions
together, holds of all definitions of a grammar text. So no reference of a grammar text is linked
when its grammar is made, and in the grammar every reference stands for the definition that it
names.
-/

namespace Peg

namespace Definitions

/-- A property of rules that the reading of definitions passes on. -/
structure Inherited (P : Rule → Prop) : Prop where
  primary : ∀ t r, primary? t = some (.ok r) → P r
  suffixed : ∀ kind r r', suffix? kind r = some r' → P r → P r'
  concat : ∀ name rs, (∀ r ∈ rs, P r) → P (.concat name rs)
  alternate : ∀ name left right, P left → P right → P (.alternate name left right)
  rename : ∀ name r, P r → P (r.rename name)

/-- All rules of an expression have the property. -/
structure Expression.All (P : Rule → Prop) (e : Expression) : Prop where
  alternatives : ∀ r ∈ e.alternatives, P r
  parts : ∀ r ∈ e.parts, P r

/-- All rules that have been read have the property. -/
structure Draft.All (P : Rule → Prop) (d : Draft) : Prop where
  definitions : ∀ r ∈ d.definitions, P r
  body : ∀ name offset current outer afterPrimary,
    d.stage = .body name offset current outer afterPrimary →
      current.All P ∧ ∀ e ∈ outer, e.All P

def Step.All (P : Rule → Prop) : Step → Prop
  | .more d => d.All P
  | .finished rules => ∀ r ∈ rules, P r

variable {P : Rule → Prop}

/-! ### Expressions -/

namespace Expression

variable {e : Expression}

lemma all_empty : All P {} := ⟨by simp, by simp⟩

lemma All.push (h : e.All P) {r : Rule} (hr : P r) : (e.push r).All P where
  alternatives := h.alternatives
  parts := List.forall_mem_cons.mpr ⟨hr, h.parts⟩

lemma All.lastAlternative? (hP : Inherited P) (h : e.All P) {rule : String} {r : Rule}
    (hr : e.lastAlternative? rule = some r) : P r := by
  have hparts : ∀ r ∈ e.parts.reverse, P r := by simpa using h.parts
  rw [Expression.lastAlternative?] at hr
  split at hr
  · cases hr
  · rename_i single heq
    obtain rfl := Option.some.inj hr
    exact hparts _ (by simp [heq])
  · obtain rfl := Option.some.inj hr
    exact hP.concat _ _ hparts

lemma All.nextAlternative? (hP : Inherited P) (h : e.All P) {rule : String} {e' : Expression}
    (he : e.nextAlternative? rule = some e') : e'.All P := by
  obtain ⟨r, hr, rfl⟩ := Option.map_eq_some_iff.mp he
  exact ⟨List.forall_mem_cons.mpr ⟨h.lastAlternative? hP hr, h.alternatives⟩, by simp⟩

lemma All.finish? (hP : Inherited P) (h : e.All P) {rule : String} {r : Rule}
    (hr : e.finish? rule = some r) : P r := by
  obtain ⟨last, hlast, rfl⟩ := Option.map_eq_some_iff.mp hr
  have hchoice : ∀ (lefts : List Rule) (last : Rule), (∀ r ∈ lefts, P r) → P last →
      P (lefts.foldl (fun choice left => .alternate rule left choice) last) := by
    intro lefts
    induction lefts with
    | nil => exact fun last _ hlast => hlast
    | cons left lefts ih =>
      intro last hlefts hlast
      rw [List.forall_mem_cons] at hlefts
      exact ih _ hlefts.2 (hP.alternate _ _ _ hlefts.1 hlast)
  exact hchoice _ _ h.alternatives (h.lastAlternative? hP hlast)

end Expression

/-! ### Tokens -/

namespace Draft

variable {d : Draft}

lemma all_of_body {name : String} {offset : Nat} {current : Expression} {outer : List Expression}
    {afterPrimary : Bool} (hdefinitions : ∀ r ∈ d.definitions, P r) (hcurrent : current.All P)
    (houter : ∀ e ∈ outer, e.All P) :
    Step.All P (.more { d with stage := .body name offset current outer afterPrimary }) := by
  refine ⟨hdefinitions, ?_⟩
  rintro _ _ _ _ _ ⟨⟩
  exact ⟨hcurrent, houter⟩

lemma all_define (hP : Inherited P) (hdefinitions : ∀ r ∈ d.definitions, P r) {name : String}
    {offset : Nat} {body : Rule} (hbody : P body) {d' : Draft}
    (h : d.define name offset body = .ok d') : d'.All P := by
  rw [define] at h
  split at h
  · cases h
  · obtain rfl := Except.ok.inj h
    refine ⟨List.forall_mem_cons.mpr ⟨hP.rename _ _ hbody, hdefinitions⟩, ?_⟩
    rintro _ _ _ _ _ ⟨⟩

lemma all_stepBody (hP : Inherited P) (hdefinitions : ∀ r ∈ d.definitions, P r) {name : String}
    {offset : Nat} {current : Expression} {outer : List Expression} {afterPrimary : Bool}
    (hcurrent : current.All P) (houter : ∀ e ∈ outer, e.All P) {t : Token} {s : Step}
    (h : d.stepBody name offset current outer afterPrimary t = .ok s) : s.All P := by
  cases hkind : t.kind <;> simp only [stepBody, hkind] at h
  case whitespace =>
    obtain rfl := Except.ok.inj h
    exact all_of_body hdefinitions hcurrent houter
  case literal | regexp | identifier | reference =>
    split at h
    · rename_i r hprimary
      obtain rfl := Except.ok.inj h
      exact all_of_body hdefinitions (hcurrent.push (hP.primary t r hprimary)) houter
    · cases h
    · cases h
  case closure | plus | optional | discard =>
    split at h
    · rename_i r parts hparts
      split at h
      · rename_i r' hsuffix
        obtain rfl := Except.ok.inj h
        have hall := hcurrent.parts
        rw [hparts, List.forall_mem_cons] at hall
        refine all_of_body hdefinitions ⟨hcurrent.alternatives, ?_⟩ houter
        exact List.forall_mem_cons.mpr ⟨hP.suffixed _ r r' hsuffix hall.1, hall.2⟩
      · cases h
    · cases h
  case openGroup =>
    obtain rfl := Except.ok.inj h
    exact all_of_body hdefinitions Expression.all_empty
      (List.forall_mem_cons.mpr ⟨hcurrent, houter⟩)
  case alternate =>
    split at h
    · rename_i e he
      obtain rfl := Except.ok.inj h
      exact all_of_body hdefinitions (hcurrent.nextAlternative? hP he) houter
    · cases h
  case closeGroup =>
    split at h
    · rename_i e outer r hr
      obtain rfl := Except.ok.inj h
      rw [List.forall_mem_cons] at houter
      exact all_of_body hdefinitions (houter.1.push (hcurrent.finish? hP hr)) houter.2
    · cases h
  case newline =>
    split at h
    · obtain rfl := Except.ok.inj h
      exact all_of_body hdefinitions hcurrent houter
    · rename_i r hr
      cases hdefine : d.define name offset r with
      | error e => rw [hdefine] at h; cases h
      | ok d' =>
        rw [hdefine] at h
        obtain rfl := Except.ok.inj h
        exact all_define hP hdefinitions (hcurrent.finish? hP hr) hdefine
    · cases h
  case finish =>
    split at h
    · rename_i r hr
      cases hdefine : d.define name offset r with
      | error e => rw [hdefine] at h; cases h
      | ok d' =>
        rw [hdefine] at h
        obtain rfl := Except.ok.inj h
        have hall := all_define hP hdefinitions (hcurrent.finish? hP hr) hdefine
        simpa [Step.All] using hall.definitions
    · cases h
  case assignment => cases h

/-- What a token does to a draft keeps the property for all rules that have been read. -/
theorem all_step (hP : Inherited P) (hd : d.All P) {t : Token} {s : Step} (h : d.step t = .ok s) :
    s.All P := by
  rw [step] at h
  split at h
  case h_1 hstage =>
    split at h
    · obtain rfl := Except.ok.inj h
      exact hd
    · obtain rfl := Except.ok.inj h
      exact hd
    · obtain rfl := Except.ok.inj h
      refine ⟨hd.definitions, ?_⟩
      rintro _ _ _ _ _ ⟨⟩
    · split at h
      · cases h
      · obtain rfl := Except.ok.inj h
        simpa [Step.All] using hd.definitions
    · cases h
  case h_2 name offset hstage =>
    split at h
    · obtain rfl := Except.ok.inj h
      exact hd
    · obtain rfl := Except.ok.inj h
      exact all_of_body hd.definitions Expression.all_empty (by simp)
    · cases h
  case h_3 name offset current outer afterPrimary hstage =>
    obtain ⟨hcurrent, houter⟩ := hd.body _ _ _ _ _ hstage
    exact all_stepBody hP hd.definitions hcurrent houter h

/-- Whatever is read after a draft, its rules have the property if those of the draft have it. -/
theorem all_read (hP : Inherited P) (items : List Token.Item) (taken last : Nat) (hd : d.All P)
    {rules : List Rule} (h : (d.read taken last items).result = .ok rules) :
    ∀ r ∈ rules, P r := by
  induction items generalizing d taken last with
  | nil =>
    simp only [read] at h
    split at h
    · rename_i hstep
      obtain rfl := Except.ok.inj h
      exact all_step hP hd hstep
    · rename_i d' hstep
      obtain rfl := Except.ok.inj h
      have hall : d'.All P := all_step hP hd hstep
      simpa using hall.definitions
    · cases h
  | cons item items ih =>
    cases item with
    | error e => simp [read] at h
    | ok t =>
      rw [read] at h
      split at h
      · rename_i d' hstep
        exact ih (taken + 1) t.offset (all_step hP hd hstep) h
      · rename_i hstep
        obtain rfl := Except.ok.inj h
        exact all_step hP hd hstep
      · cases h

end Draft

/-- All definitions of a grammar text have a property that is passed on by the reading. -/
theorem all_ofItems (hP : Inherited P) {items : List Token.Item} {rules : List Rule}
    (h : (ofItems items).result = .ok rules) : ∀ r ∈ rules, P r :=
  Draft.all_read hP items 0 0 ⟨by simp, by rintro _ _ _ _ _ ⟨⟩⟩ h

end Definitions

/-! ### Links -/

namespace Rule

lemma unlinked_of_parts {r : Rule} (hself : ∀ name target link, r = .reference name target link →
    link = none) (hparts : ∀ part ∈ r.dependencies, part.Unlinked) : r.Unlinked := by
  intro name target link hcontains
  rcases hcontains.eq_or_part with heq | ⟨part, hpart, hcontains⟩
  · exact hself name target link heq.symm
  · exact hparts part hpart name target link hcontains

lemma Unlinked.part {r part : Rule} (h : r.Unlinked) (hpart : part ∈ r.dependencies) :
    part.Unlinked :=
  fun name target link hcontains => h name target link (hcontains.of_part hpart)

lemma Unlinked.rename {r : Rule} (h : r.Unlinked) (name : String) : (r.rename name).Unlinked := by
  refine unlinked_of_parts ?_ fun part hpart => h.part (by simpa using hpart)
  intro name' target link heq
  cases r with
  | reference name'' target' link' =>
    obtain ⟨-, -, rfl⟩ := Rule.reference.inj heq
    exact h name'' target' link' .refl
  | _ => simp [Rule.rename] at heq

end Rule

namespace Definitions

lemma unlinked_primary {t : Token} {r : Rule} (h : primary? t = some (.ok r)) : r.Unlinked := by
  refine Rule.unlinked_of_references ?_
  cases hkind : t.kind <;> simp only [primary?, hkind] at h
  case literal | identifier | reference =>
    obtain rfl := Except.ok.inj (Option.some.inj h)
    simp [Rule.references]
  case regexp =>
    split at h
    · obtain rfl := Except.ok.inj (Option.some.inj h)
      simp [Rule.references]
    · cases h
  all_goals cases h

lemma unlinked_suffix {kind : Token.Kind} {r r' : Rule} (hr : r.Unlinked)
    (h : suffix? kind r = some r') : r'.Unlinked := by
  have hdependencies : r'.dependencies = [r] := by
    cases kind <;> cases h <;> rfl
  refine Rule.unlinked_of_parts ?_ (by simpa [hdependencies] using hr)
  rintro name target link rfl
  cases hdependencies

/-- Nothing in the reading of definitions links a reference. -/
lemma inherited_unlinked : Inherited Rule.Unlinked where
  primary _ _ h := unlinked_primary h
  suffixed _ _ _ h hr := unlinked_suffix hr h
  concat _ _ h := Rule.unlinked_of_parts (by rintro _ _ _ ⟨⟩) h
  alternate _ _ _ hleft hright :=
    Rule.unlinked_of_parts (by rintro _ _ _ ⟨⟩) (by simpa [Rule.dependencies] using ⟨hleft, hright⟩)
  rename name _ h := h.rename name

end Definitions

namespace Grammar

variable {text : String} {options : Options} {g : Grammar}

/-- The grammar of a text is that of its definitions, in which nothing has been linked. -/
theorem exists_unlinked_of_ofText (h : (ofText text options).1 = .ok g) :
    ∃ rules, (readText text).definitions.result = .ok rules ∧ (∀ r ∈ rules, r.Unlinked) ∧
      (ofDefinitions rules options).1 = .ok g := by
  rw [ofText] at h
  split at h
  · cases h
  · rename_i rules hrules
    exact ⟨rules, hrules, Definitions.all_ofItems Definitions.inherited_unlinked hrules, h⟩

/-- The references in the grammar of a text stand for the definitions of the text that they name,
and no match of a rule, whatever the input, fails for the lack of one. -/
theorem links_of_ofText (h : (ofText text options).1 = .ok g) :
    ∃ rules, (readText text).definitions.result = .ok rules ∧ g.Links rules ∧
      g.root ∈ g.rules ∧ ∀ rule ∈ g.rules, g.NeverUnresolved rule := by
  obtain ⟨rules, hrules, hunlinked, hgrammar⟩ := exists_unlinked_of_ofText h
  have haccepted := accepted_of_ofDefinitions hgrammar
  have hlinks := haccepted.links hunlinked
  exact ⟨rules, hrules, hlinks, haccepted.root_mem, fun _ hrule => hlinks.neverUnresolved hrule⟩

end Grammar

end Peg
