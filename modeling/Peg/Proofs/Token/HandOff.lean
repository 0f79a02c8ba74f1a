import Peg.Grammar
import Peg.Proofs.Token.Lexer

/-!
# Handing tokens over

The items of a grammar text can be read by one party while another one takes them. There is no room
between the two: the reader waits with each item until it is taken, and a taker that has had enough
leaves the reader with one item that nobody takes. In whatever order the two make their steps, both
stop, the taker comes to what it comes to on the list of all items, and the reader has read one item
more than were taken, if there was one more.
-/

namespace Peg

namespace Token

/-! ### Reading one item after the other -/

/-- What is left of a grammar text, and whether its last item has been read. -/
structure Lexer where
  offset : Nat
  rest : List Char
  isFinished : Bool := false

namespace Lexer

def ofText (text : String) : Lexer := { offset := 0, rest := text.toList }

/-- The next item, and what is left behind it. -/
def next? (l : Lexer) : Option (Item × Lexer) :=
  if l.isFinished then none
  else
    match l.rest with
    | [] => some (.ok { kind := .finish, text := "", offset := l.offset },
        { l with isFinished := true })
    | c :: rest =>
      match readOne l.offset c rest with
      | .ok (t, rest) => some (.ok t, { offset := l.offset + Utf8.size t.written, rest })
      | .error e => some (.error e, { l with isFinished := true })

/-- The items that are left. -/
inductive Yields : Lexer → List Item → Prop where
  | done {l : Lexer} (h : l.next? = none) : Yields l []
  | more {l l' : Lexer} {item : Item} {items : List Item} (h : l.next? = some (item, l'))
      (hrest : Yields l' items) : Yields l (item :: items)

lemma yields_finished {offset : Nat} {rest : List Char} :
    Yields { offset, rest, isFinished := true } [] :=
  .done rfl

lemma yields_readFrom (fuel offset : Nat) (chars : List Char) (hfuel : chars.length < fuel) :
    Yields { offset, rest := chars } (readFrom fuel offset chars) := by
  induction fuel generalizing offset chars with
  | zero => omega
  | succ fuel ih =>
    cases chars with
    | nil => exact .more rfl yields_finished
    | cons c cs =>
      cases hread : readOne offset c cs with
      | error e =>
        have hnext : next? { offset, rest := c :: cs } =
            some (.error e, { offset, rest := c :: cs, isFinished := true }) := by
          simp [next?, hread]
        simp only [readFrom, hread]
        exact .more hnext yields_finished
      | ok step =>
        obtain ⟨t, cs'⟩ := step
        have hnext : next? { offset, rest := c :: cs } =
            some (.ok t, { offset := offset + Utf8.size t.written, rest := cs' }) := by
          simp [next?, hread]
        have hbegins := readOne_sound hread
        have hlength := congrArg List.length hbegins.written_append
        have hpos := List.length_pos_iff.mpr hbegins.wellFormed.written_ne_nil
        rw [List.length_append, List.length_cons] at hlength
        rw [List.length_cons] at hfuel
        simp only [readFrom, hread]
        exact .more hnext (ih _ cs' (by omega))

/-- Item by item, a text has the items that splitting it gives. -/
lemma yields_readAll (text : String) : Yields (ofText text) (readAll text) :=
  yields_readFrom _ 0 text.toList (Nat.lt_succ_self _)

/-- An error is the last item. -/
lemma Yields.eq_nil_of_error {l : Lexer} {e : LexError} {items : List Item}
    (h : Yields l (.error e :: items)) : items = [] := by
  obtain ⟨offset, rest, isFinished⟩ := l
  cases h with
  | more hnext hrest =>
    cases hrest with
    | done => rfl
    | more hagain _ =>
      cases isFinished with
      | true => simp [next?] at hnext
      | false =>
        cases rest with
        | nil => simp [next?] at hnext
        | cons c cs =>
          cases hread : readOne offset c cs with
          | ok step => simp [next?, hread] at hnext
          | error e' =>
            simp only [next?, hread] at hnext
            cases hnext
            simp [next?] at hagain

end Lexer

/-! ### The two parties -/

/-- A party that takes items: what it makes of an item, which is that it goes on or has had enough,
and what it makes of the end of the items. -/
structure Taker (σ ρ : Type) where
  take : σ → Item → σ ⊕ ρ
  close : σ → ρ

variable {σ ρ : Type}

/-- What the taker makes of a list of items, and how many of them it has taken then. -/
def Taker.run (τ : Taker σ ρ) (s : σ) (taken : Nat) : List Item → ρ × Nat
  | [] => (τ.close s, taken)
  | item :: rest =>
    match τ.take s item with
    | .inl s => τ.run s (taken + 1) rest
    | .inr r => (r, taken + 1)

/-- Where the reader is: it reads the next item, or waits for its item to be taken. -/
inductive Reader where
  | reading (l : Lexer)
  | offering (item : Item) (l : Lexer)
  | stopped

/-- Where the taker is: it waits for an item, or is at work on one. -/
inductive Taking (σ ρ : Type) where
  | waiting (s : σ)
  | holding (s : σ) (item : Item)
  | stopped (result : ρ)

/-- What the reader writes to the log. -/
inductive Entry where
  | token (t : Token)
  | hungUp

/-- The entries for items that were read. -/
def trace (items : List Item) : List Entry := (items.filterMap Except.toOption).map .token

@[simp] lemma trace_append (items more : List Item) :
    trace (items ++ more) = trace items ++ trace more := by
  simp [trace]

/-- The two parties, the items that were handed over so far, and the log of the reader. -/
structure HandOff (σ ρ : Type) where
  reader : Reader
  taking : Taking σ ρ
  received : List Item := []
  log : List Entry := []

namespace HandOff

def start (l : Lexer) (s : σ) : HandOff σ ρ := { reader := .reading l, taking := .waiting s }

/-- Both parties have stopped, and this is the result. -/
def StoppedWith (h : HandOff σ ρ) (r : ρ) : Prop := h.reader = .stopped ∧ h.taking = .stopped r

/-- A step of one of the parties, or of both when an item is handed over. -/
inductive Step (τ : Taker σ ρ) : HandOff σ ρ → HandOff σ ρ → Prop where
  | read {l l' : Lexer} {item : Item} {taking : Taking σ ρ} {received : List Item}
      {log : List Entry} (h : l.next? = some (item, l')) :
      Step τ ⟨.reading l, taking, received, log⟩
        ⟨.offering item l', taking, received, log ++ trace [item]⟩
  | finish {l : Lexer} {taking : Taking σ ρ} {received : List Item} {log : List Entry}
      (h : l.next? = none) :
      Step τ ⟨.reading l, taking, received, log⟩ ⟨.stopped, taking, received, log⟩
  | handOver {l : Lexer} {item : Item} {s : σ} {received : List Item} {log : List Entry} :
      Step τ ⟨.offering item l, .waiting s, received, log⟩
        ⟨.reading l, .holding s item, received ++ [item], log⟩
  | hangUp {l : Lexer} {item : Item} {r : ρ} {received : List Item} {log : List Entry} :
      Step τ ⟨.offering item l, .stopped r, received, log⟩
        ⟨.stopped, .stopped r, received, log ++ [.hungUp]⟩
  | goOn {reader : Reader} {item : Item} {s s' : σ} {received : List Item} {log : List Entry}
      (h : τ.take s item = .inl s') :
      Step τ ⟨reader, .holding s item, received, log⟩ ⟨reader, .waiting s', received, log⟩
  | haveEnough {reader : Reader} {item : Item} {s : σ} {r : ρ} {received : List Item}
      {log : List Entry} (h : τ.take s item = .inr r) :
      Step τ ⟨reader, .holding s item, received, log⟩ ⟨reader, .stopped r, received, log⟩
  | close {s : σ} {received : List Item} {log : List Entry} :
      Step τ ⟨.stopped, .waiting s, received, log⟩ ⟨.stopped, .stopped (τ.close s), received, log⟩

/-- What can be reached from the first state in so many steps. -/
inductive Reached (τ : Taker σ ρ) (first : HandOff σ ρ) : Nat → HandOff σ ρ → Prop where
  | start : Reached τ first 0 first
  | step {n : Nat} {h h' : HandOff σ ρ} (hreached : Reached τ first n h) (hstep : Step τ h h') :
      Reached τ first (n + 1) h'

variable {τ : Taker σ ρ}

/-- There is a step until both parties have stopped. -/
theorem exists_step (τ : Taker σ ρ) (h : HandOff σ ρ) :
    (∃ r, h.StoppedWith r) ∨ ∃ h', Step τ h h' := by
  obtain ⟨reader, taking, received, log⟩ := h
  cases taking with
  | holding s item =>
    right
    cases htake : τ.take s item with
    | inl s' => exact ⟨_, .goOn htake⟩
    | inr r => exact ⟨_, .haveEnough htake⟩
  | waiting s =>
    right
    cases reader with
    | reading l =>
      cases hnext : l.next? with
      | none => exact ⟨_, .finish hnext⟩
      | some step => exact ⟨_, .read hnext⟩
    | offering item l => exact ⟨_, .handOver⟩
    | stopped => exact ⟨_, .close⟩
  | stopped r =>
    cases reader with
    | reading l =>
      right
      cases hnext : l.next? with
      | none => exact ⟨_, .finish hnext⟩
      | some step => exact ⟨_, .read hnext⟩
    | offering item l => exact Or.inr ⟨_, .hangUp⟩
    | stopped => exact Or.inl ⟨r, rfl, rfl⟩

/-- No party moves once both have stopped. -/
lemma StoppedWith.not_step {h h' : HandOff σ ρ} {r : ρ} (hstopped : h.StoppedWith r) :
    ¬ Step τ h h' := by
  obtain ⟨reader, taking, received, log⟩ := h
  obtain ⟨rfl, rfl⟩ := hstopped
  rintro ⟨⟩

end HandOff

/-! ### What every step preserves -/

/-- What is known of the reader while items are pending: it will read these, and it has logged the
ones that were received, together with one that it waits with or waited with in vain. -/
inductive Reader.Keeps (received : List Item) : List Item → Reader → List Entry → Prop where
  | reading {pending : List Item} {l : Lexer} (h : l.Yields pending) :
      Keeps received pending (.reading l) (trace received)
  | offering {item : Item} {rest : List Item} {l : Lexer} (h : l.Yields rest) :
      Keeps received (item :: rest) (.offering item l) (trace (received ++ [item]))
  | finished : Keeps received [] .stopped (trace received)
  | hungUp {item : Item} {rest : List Item} :
      Keeps received (item :: rest) .stopped (trace (received ++ [item]) ++ [.hungUp])

/-- The taker that has taken so many items comes to the outcome on the pending ones. -/
inductive Taking.ComesTo (τ : Taker σ ρ) (taken : Nat) (pending : List Item) (outcome : ρ × Nat) :
    Taking σ ρ → Prop where
  | waiting {s : σ} (h : τ.run s taken pending = outcome) :
      ComesTo τ taken pending outcome (.waiting s)
  | holding {s : σ} {item : Item} {before : Nat} (hbefore : taken = before + 1)
      (h : τ.run s before (item :: pending) = outcome) :
      ComesTo τ taken pending outcome (.holding s item)
  | stopped {r : ρ} (h : (r, taken) = outcome) : ComesTo τ taken pending outcome (.stopped r)

/-- How many steps the reader can still make or bring about. -/
def Reader.weight (pending : Nat) : Reader → Nat
  | .reading _ => 3 * pending + 1
  | .offering _ _ => 3 * pending
  | .stopped => 0

def Taking.weight : Taking σ ρ → Nat
  | .waiting _ => 1
  | .holding _ _ => 2
  | .stopped _ => 0

namespace HandOff

variable {τ : Taker σ ρ} {s₀ : σ} {items pending : List Item} {n : Nat} {h h' : HandOff σ ρ}

/-- What is known after so many steps, while these items are pending. -/
structure Invariant (τ : Taker σ ρ) (s₀ : σ) (items : List Item) (n : Nat) (h : HandOff σ ρ)
    (pending : List Item) : Prop where
  items_eq : h.received ++ pending = items
  reader : h.reader.Keeps h.received pending h.log
  taking : h.taking.ComesTo τ h.received.length pending (τ.run s₀ 0 items)
  hungUp : h.reader = .stopped → pending ≠ [] → ∃ r, h.taking = .stopped r
  bound : n + h.reader.weight pending.length + h.taking.weight ≤ 3 * items.length + 2

lemma Invariant.step (hinv : Invariant τ s₀ items n h pending) (hstep : Step τ h h') :
    ∃ pending', Invariant τ s₀ items (n + 1) h' pending' := by
  obtain ⟨hitems, hreader, htaking, hhungUp, hbound⟩ := hinv
  obtain ⟨reader, taking, received, log⟩ := h
  dsimp only at hitems hreader htaking hhungUp hbound
  cases hstep with
  | read hnext =>
    cases hreader with
    | reading hyields =>
      cases hyields with
      | done hdone => cases hdone.symm.trans hnext
      | more hmore hrest =>
        cases hmore.symm.trans hnext
        refine ⟨_, hitems, ?_, htaking, nofun, ?_⟩
        · rw [← trace_append]
          exact .offering hrest
        · simp only [Reader.weight] at hbound ⊢
          omega
  | finish hnext =>
    cases hreader with
    | reading hyields =>
      cases hyields with
      | done =>
        refine ⟨[], hitems, .finished, htaking, fun _ hne => absurd rfl hne, ?_⟩
        simp only [Reader.weight] at hbound ⊢
        omega
      | more hmore _ => cases hmore.symm.trans hnext
  | handOver =>
    cases hreader with
    | @offering item rest l hyields =>
      cases htaking with
      | waiting hrun =>
        refine ⟨rest, ?_, .reading hyields, ?_, nofun, ?_⟩
        · rwa [List.append_assoc]
        · apply Taking.ComesTo.holding _ hrun
          simp
        · simp only [Reader.weight, Taking.weight, List.length_cons] at hbound ⊢
          omega
  | hangUp =>
    cases hreader with
    | offering hyields =>
      refine ⟨_, hitems, .hungUp, htaking, fun _ _ => ⟨_, rfl⟩, ?_⟩
      simp only [Reader.weight, Taking.weight, List.length_cons] at hbound ⊢
      omega
  | goOn htake =>
    cases htaking with
    | holding hbefore hrun =>
      simp only [Taker.run, htake] at hrun
      refine ⟨pending, hitems, hreader, ?_, ?_, ?_⟩
      · apply Taking.ComesTo.waiting
        rwa [hbefore]
      · intro hstopped hne
        obtain ⟨_, ⟨⟩⟩ := hhungUp hstopped hne
      · simp only [Taking.weight] at hbound ⊢
        omega
  | haveEnough htake =>
    cases htaking with
    | holding hbefore hrun =>
      simp only [Taker.run, htake] at hrun
      refine ⟨pending, hitems, hreader, ?_, fun _ _ => ⟨_, rfl⟩, ?_⟩
      · apply Taking.ComesTo.stopped
        rwa [hbefore]
      · simp only [Taking.weight] at hbound ⊢
        omega
  | close =>
    cases htaking with
    | waiting hrun =>
      by_cases hpending : pending = []
      · subst hpending
        refine ⟨[], hitems, hreader, .stopped hrun, fun _ _ => ⟨_, rfl⟩, ?_⟩
        simp only [Taking.weight] at hbound ⊢
        omega
      · obtain ⟨_, ⟨⟩⟩ := hhungUp rfl hpending

/-- What is known of every state that can be reached. -/
theorem exists_invariant {l : Lexer} (hyields : l.Yields items)
    (hreached : Reached τ (start l s₀) n h) : ∃ pending, Invariant τ s₀ items n h pending := by
  induction hreached with
  | start =>
    refine ⟨items, rfl, .reading hyields, .waiting rfl, nofun, ?_⟩
    simp only [start, Reader.weight, Taking.weight]
    omega
  | step _ hstep ih =>
    obtain ⟨pending, hinv⟩ := ih
    exact hinv.step hstep

/-- When both have stopped, the taker has come to what it comes to on the list of all items, and
the reader has logged the items that were taken and one more, if there is one, with which it was
left. -/
lemma Invariant.of_stoppedWith (hinv : Invariant τ s₀ items n h pending) {r : ρ}
    (hstopped : h.StoppedWith r) :
    τ.run s₀ 0 items = (r, h.received.length) ∧
      h.log = trace (items.take (h.received.length + 1)) ++
        if h.received.length < items.length then [.hungUp] else [] := by
  obtain ⟨rfl, hreader, htaking, -, -⟩ := hinv
  obtain ⟨reader, taking, received, log⟩ := h
  obtain ⟨rfl, rfl⟩ := hstopped
  dsimp only at hreader htaking
  constructor
  · cases htaking with
    | stopped hrun => exact hrun.symm
  · cases hreader with
    | finished => simp [List.take_of_length_le]
    | @hungUp item rest => simp [List.take_append, List.take_of_length_le]

end HandOff

/-! ### Taking tokens -/

/-- Collects tokens up to the first error. -/
def collector : Taker (List Token) (Except LexError (List Token)) where
  take tokens
    | .ok t => .inl (tokens ++ [t])
    | .error e => .inr (.error e)
  close tokens := .ok tokens

lemma run_collector {l : Lexer} {items : List Item} (h : l.Yields items) (tokens : List Token)
    (taken : Nat) : collector.run tokens taken items =
      ((items.mapM id).map (tokens ++ ·), taken + items.length) := by
  induction h generalizing tokens taken with
  | done => simp [Taker.run, collector, pure, Except.pure, Except.map]
  | @more l l' item items hnext hrest ih =>
    cases item with
    | error e =>
      obtain rfl := (Lexer.Yields.more hnext hrest).eq_nil_of_error
      rfl
    | ok t =>
      have hrun : collector.run tokens taken (.ok t :: items) =
          collector.run (tokens ++ [t]) (taken + 1) items := rfl
      rw [hrun, ih, List.mapM_cons]
      cases items.mapM id <;>
        simp [bind, Except.bind, pure, Except.pure, Except.map, Nat.add_comm, Nat.add_left_comm]

/-- Collecting the items of a text one by one splits the text into tokens. -/
lemma run_collector_readAll (text : String) :
    collector.run [] 0 (readAll text) = (tokenize text, (readAll text).length) := by
  rw [run_collector (Lexer.yields_readAll text), tokenize, Nat.zero_add]
  cases (readAll text).mapM id <;> rfl

end Token

namespace Definitions

open Token (Taker)

/-- Builds definitions; the state is the draft and the offset of the last token, and the result
comes with the definitions that were completed. -/
def builder : Taker (Draft × Nat) (Except GrammarError (List Rule) × List Rule) where
  take s
    | .error e => .inr (.error (.lex e), s.1.definitions.reverse)
    | .ok t =>
      match s.1.step t with
      | .ok (.more d) => .inl (d, t.offset)
      | .ok (.finished rules) => .inr (.ok rules, rules)
      | .error e => .inr (.error e, s.1.definitions.reverse)
  close s :=
    let result := match s.1.step { kind := .finish, text := "", offset := s.2 } with
      | .ok (.finished rules) => .ok rules
      | .ok (.more d) => .ok d.definitions.reverse
      | .error e => .error e
    (result, result.toOption.getD s.1.definitions.reverse)

/-- Building definitions item by item is reading them. -/
lemma run_builder (items : List Token.Item) (d : Draft) (last taken : Nat) :
    builder.run (d, last) taken items =
      (((d.read taken last items).result, (d.read taken last items).registered),
        (d.read taken last items).taken) := by
  induction items generalizing d last taken with
  | nil => rfl
  | cons item rest ih =>
    cases item with
    | error e => rfl
    | ok t =>
      rw [Taker.run, Draft.read]
      simp only [builder]
      cases hstep : d.step t with
      | error e => rfl
      | ok step =>
        cases step with
        | more d' => exact ih d' t.offset (taken + 1)
        | finished rules => rfl

end Definitions

namespace Token.HandOff

/-- However the steps of the two parties follow each other, the items that were received are the
first ones of the text, a step can be made until both have stopped, and only so many steps can. The
taker then has come to what it comes to on the list of all items, and the reader has logged these
items and one more, if there is one, with which it was left. So definitions are built as they are
read from the list of items, and texts are split into the same tokens. -/
theorem handOff_exact (text : String) :
    (∀ (σ ρ : Type) (τ : Taker σ ρ) (s₀ : σ) (n : Nat) (h : HandOff σ ρ),
      Reached τ (start (.ofText text) s₀) n h →
        h.received <+: readAll text ∧ n ≤ 3 * (readAll text).length + 2 ∧
        ((∃ h', Step τ h h') ↔ ¬ ∃ r, h.StoppedWith r) ∧
        ∀ r, h.StoppedWith r →
          τ.run s₀ 0 (readAll text) = (r, h.received.length) ∧
          h.log = trace ((readAll text).take (h.received.length + 1)) ++
            if h.received.length < (readAll text).length then [.hungUp] else []) ∧
    (∀ n h r, Reached Definitions.builder (start (.ofText text) ({}, 0)) n h → h.StoppedWith r →
      r.1 = (Grammar.readText text).definitions.result ∧
      r.2 = (Grammar.readText text).definitions.registered ∧
      (∀ options, (Grammar.ofText text options).1 =
        r.1.bind fun rules => (Grammar.ofDefinitions rules options).1) ∧
      h.received.length = (Grammar.readText text).definitions.taken ∧
      h.log = (Grammar.readText text).tokens.map .token ++
        if (Grammar.readText text).isHungUp then [.hungUp] else []) ∧
    ∀ n h r, Reached collector (start (.ofText text) []) n h → h.StoppedWith r →
      r = tokenize text ∧ h.received = readAll text ∧ h.log = trace (readAll text) := by
  have hinvariant : ∀ (σ ρ : Type) (τ : Taker σ ρ) (s₀ : σ) (n : Nat) (h : HandOff σ ρ),
      Reached τ (start (.ofText text) s₀) n h →
        ∃ pending, Invariant τ s₀ (readAll text) n h pending :=
    fun σ ρ τ s₀ n h hreached => exists_invariant (Lexer.yields_readAll text) hreached
  refine ⟨?_, ?_, ?_⟩
  · intro σ ρ τ s₀ n h hreached
    obtain ⟨pending, hinv⟩ := hinvariant σ ρ τ s₀ n h hreached
    refine ⟨⟨pending, hinv.items_eq⟩, ?_, ?_, fun r hstopped => hinv.of_stoppedWith hstopped⟩
    · have hbound := hinv.bound
      omega
    · constructor
      · rintro ⟨h', hstep⟩ ⟨r, hstopped⟩
        exact hstopped.not_step hstep
      · exact fun hgoing => (exists_step τ h).resolve_left hgoing
  · intro n h r hreached hstopped
    obtain ⟨pending, hinv⟩ := hinvariant _ _ _ _ n h hreached
    obtain ⟨hrun, hlog⟩ := hinv.of_stoppedWith hstopped
    rw [Definitions.run_builder, Prod.mk.injEq] at hrun
    obtain ⟨rfl, htaken⟩ := hrun
    have hreading : Definitions.Draft.read {} 0 0 (readAll text) =
        (Grammar.readText text).definitions := rfl
    rw [hreading] at htaken
    refine ⟨rfl, rfl, fun options => ?_, htaken.symm, ?_⟩
    · rw [Grammar.ofText, hreading]
      cases (Grammar.readText text).definitions.result <;> rfl
    · rw [hlog, ← htaken]
      simp only [trace, Grammar.TextReading.tokens, Grammar.TextReading.isHungUp,
        decide_eq_true_eq]
      rfl
  · intro n h r hreached hstopped
    obtain ⟨pending, hinv⟩ := hinvariant _ _ _ _ n h hreached
    obtain ⟨hrun, hlog⟩ := hinv.of_stoppedWith hstopped
    rw [run_collector_readAll, Prod.mk.injEq] at hrun
    obtain ⟨rfl, htaken⟩ := hrun
    have hreceived : h.received = readAll text :=
      List.IsPrefix.eq_of_length ⟨pending, hinv.items_eq⟩ htaken.symm
    refine ⟨rfl, hreceived, ?_⟩
    rw [hlog, hreceived, if_neg (Nat.lt_irrefl _), List.append_nil,
      List.take_of_length_le (Nat.le_succ _)]

/-- At a parenthesis that closes nothing, building has had enough, and the reader is left with the
end of the text. -/
theorem handOff_exact_parenthesis :
    ∃ h r, Reached Definitions.builder (start (.ofText ")") ({}, 0)) 5 h ∧ h.StoppedWith r ∧
      r.1 = (Grammar.readText ")").definitions.result ∧ h.received.length = 1 ∧
      h.log = [.token ⟨.closeGroup, ")", 0⟩, .token ⟨.finish, "", 1⟩, .hungUp] := by
  have hsteps : ∃ h r, Reached Definitions.builder (start (.ofText ")") ({}, 0)) 5 h ∧
      h.StoppedWith r :=
    ⟨_, _, ((((Reached.start.step (.read rfl)).step .handOver).step (.read rfl)).step
      (.haveEnough rfl)).step .hangUp, rfl, rfl⟩
  obtain ⟨h, r, hreached, hstopped⟩ := hsteps
  obtain ⟨hresult, -, -, htaken, hlog⟩ := (handOff_exact ")").2.1 5 h r hreached hstopped
  exact ⟨h, r, hreached, hstopped, hresult, htaken, hlog⟩

end Token.HandOff

end Peg
