import Mathlib.Tactic.Lemma
import Peg.Regex.Search

/-!
# Programs that test their start first

To match `^` and then an expression, at the start of a window, is to match the expression. The
program of both is the program of the expression with one more instruction behind it. No other
instruction leads there, so a run does what it did without it, and has steps enough for what it
follows between two bytes.
-/

namespace Peg.Regex

/-! ### Instructions lead to places in the code -/

/-- The places where an instruction may go on. -/
def Instruction.successors : Instruction → List Nat
  | .char _ next | .byte _ next | .test _ next => [next]
  | .fork first second => [first, second]
  | .accept => []

/-- No instruction leads out of the code. -/
def Closed (code : Array Instruction) : Prop := ∀ i ∈ code, ∀ next ∈ i.successors, next < code.size

/-- What an emitter is to give for code: longer code that is closed, and a place in it. -/
structure Extends (code : Array Instruction) (result : Nat × Array Instruction) : Prop where
  closed : Closed result.2
  start_lt : result.1 < result.2.size
  size_le : code.size ≤ result.2.size

def Emitter.Sound (e : Emitter) : Prop :=
  ∀ next code, Closed code → next < code.size → Extends code (e next code)

variable {code : Array Instruction} {e : Emitter} {next : Nat}

lemma Extends.trans {result result' : Nat × Array Instruction} (h : Extends code result)
    (h' : Extends result.2 result') : Extends code result' :=
  ⟨h'.closed, h'.start_lt, Nat.le_trans h.size_le h'.size_le⟩

lemma extends_refl (h : Closed code) (hnext : next < code.size) : Extends code (next, code) :=
  ⟨h, hnext, Nat.le_refl _⟩

lemma write_extends {i : Instruction} (h : Closed code)
    (hi : ∀ next ∈ i.successors, next < code.size) : Extends code (write i code) := by
  have hsize : (code.push i).size = code.size + 1 := Array.size_push i
  refine ⟨?_, ?_, ?_⟩
  · intro j hj next hnext
    show next < (code.push i).size
    rcases Array.mem_push.mp hj with hj | rfl
    · have hlt := h j hj next hnext
      omega
    · have hlt := hi next hnext
      omega
  · show code.size < (code.push i).size
    omega
  · show code.size ≤ (code.push i).size
    omega

lemma successors_forkTo (greedy : Bool) (into past : Nat) :
    ∀ next ∈ (forkTo greedy into past).successors, next = into ∨ next = past := by
  intro next hnext
  cases greedy
  · exact (by simpa [forkTo, Instruction.successors] using hnext : next = past ∨ next = into).symm
  · simpa [forkTo, Instruction.successors] using hnext

lemma write_forkTo_extends {into past : Nat} (h : Closed code) (hinto : into < code.size)
    (hpast : past < code.size) (greedy : Bool) :
    Extends code (write (forkTo greedy into past) code) := by
  apply write_extends h
  intro next hnext
  rcases successors_forkTo greedy into past next hnext with rfl | rfl
  · exact hinto
  · exact hpast

lemma sound_emitCopies (he : e.Sound) (n : Nat) : Emitter.Sound (emitCopies e n) := by
  induction n with
  | zero => exact fun next code h hnext => extends_refl h hnext
  | succ n ih =>
    intro next code h hnext
    have hrest := ih next code h hnext
    exact hrest.trans (he _ _ hrest.closed hrest.start_lt)

lemma sound_emitUpTo (he : e.Sound) (greedy : Bool) (n : Nat) :
    Emitter.Sound (emitUpTo e greedy n) := by
  induction n with
  | zero => exact fun next code h hnext => extends_refl h hnext
  | succ n ih =>
    intro next code h hnext
    have hrest := ih next code h hnext
    have hfirst := he _ _ hrest.closed hrest.start_lt
    have hsize := (hrest.trans hfirst).size_le
    exact (hrest.trans hfirst).trans
      (write_forkTo_extends hfirst.closed hfirst.start_lt (Nat.lt_of_lt_of_le hnext hsize) greedy)

/-- The fork that closes a loop leads into the code as well. -/
lemma emitLoop_extends (he : e.Sound) (greedy : Bool) (h : Closed code) (hnext : next < code.size) :
    Extends code ((emitLoop e greedy next code).1.1, (emitLoop e greedy next code).2) ∧
      (emitLoop e greedy next code).1.2 < (emitLoop e greedy next code).2.size := by
  have hloop : Extends code (write .accept code) :=
    write_extends h (by simp [Instruction.successors])
  have hinto := he _ _ hloop.closed hloop.start_lt
  have hlt := Nat.lt_of_lt_of_le hloop.start_lt hinto.size_le
  have hle := (hloop.trans hinto).size_le
  refine ⟨⟨?_, ?_, ?_⟩, ?_⟩
  · intro i hi next' hnext'
    simp only [emitLoop, Array.size_setIfInBounds] at hi ⊢
    rcases Array.mem_or_eq_of_mem_setIfInBounds hi with hi | rfl
    · exact hinto.closed i hi next' hnext'
    · rcases successors_forkTo _ _ _ next' hnext' with rfl | rfl
      · exact hinto.start_lt
      · exact Nat.lt_of_lt_of_le hnext hle
  · simpa [emitLoop] using hinto.start_lt
  · simpa [emitLoop] using hle
  · simpa [emitLoop] using hlt

theorem sound_emit (r : Regex) : Emitter.Sound r.emit := by
  induction r with
  | empty => exact fun next code h hnext => extends_refl h hnext
  | chars s | bytes s | assertion a =>
    intro next code h hnext
    exact write_extends h (by simpa [Instruction.successors] using hnext)
  | group r ih => exact ih
  | cat r s ihr ihs =>
    intro next code h hnext
    have hs := ihs next code h hnext
    exact hs.trans (ihr _ _ hs.closed hs.start_lt)
  | either r s ihr ihs =>
    intro next code h hnext
    have hs := ihs next code h hnext
    have hr := ihr _ _ hs.closed (Nat.lt_of_lt_of_le hnext hs.size_le)
    refine (hs.trans hr).trans (write_extends hr.closed ?_)
    simpa [Instruction.successors] using
      ⟨hr.start_lt, Nat.lt_of_lt_of_le hs.start_lt hr.size_le⟩
  | repetition r min max greedy ih =>
    intro next code h hnext
    obtain ⟨hloop, hlt⟩ := emitLoop_extends ih greedy h hnext
    cases max with
    | none =>
      cases min with
      | zero =>
        rw [emit]
        dsimp only
        split
        · exact hloop.trans (write_forkTo_extends hloop.closed hloop.start_lt
            (Nat.lt_of_lt_of_le hnext hloop.size_le) greedy)
        · exact ⟨hloop.closed, hlt, hloop.size_le⟩
      | succ n => exact hloop.trans (sound_emitCopies ih n _ _ hloop.closed hloop.start_lt)
    | some max =>
      have hmore := sound_emitUpTo ih greedy (max - min) next code h hnext
      rw [emit]
      exact hmore.trans (sound_emitCopies ih min _ _ hmore.closed hmore.start_lt)

lemma compile_extends (r : Regex) :
    Closed r.compile.code ∧ r.compile.start < r.compile.code.size := by
  have hclosed : Closed #[Instruction.accept] := by simp [Closed, Instruction.successors]
  have h := sound_emit r 0 _ hclosed (by simp)
  exact ⟨h.closed, h.start_lt⟩

/-! ### What an instruction does -/

/-- What comes of an instruction that is followed: more instructions to follow at the position, a
thread that goes on at a later one, or the end of the program. -/
inductive Effect where
  | push (places : List Nat)
  | wait (t : Thread)
  | accept

def Instruction.effect (w : Window) (pos : Nat) : Instruction → Effect
  | .accept => .accept
  | .fork first second => .push [first, second]
  | .test a next => .push (if w.satisfies pos a then [next] else [])
  | .char s next =>
    match w.charAt? pos with
    | some c =>
      if s.contains c.toNat then .wait { target := next, wait := c.utf8Size - 1 } else .push []
    | none => .push []
  | .byte s next =>
    match w.get? pos with
    | some b => if s.contains b.toNat then .wait { target := next, wait := 0 } else .push []
    | none => .push []

def Effect.stack (e : Effect) (stack : List Nat) : List Nat :=
  match e with
  | .push places => places ++ stack
  | .wait _ | .accept => stack

def Frontier.after (f : Frontier) (e : Effect) : Frontier :=
  match e with
  | .push _ => f
  | .wait t => { f with threads := t :: f.threads }
  | .accept => { f with accepted := true }

/-- All places that the effect speaks of satisfy the condition, and no more than two of them are to
be followed at once. -/
def Effect.All (P : Nat → Prop) : Effect → Prop
  | .push places => (∀ pc ∈ places, P pc) ∧ places.length ≤ 2
  | .wait t => P t.target
  | .accept => True

lemma all_effect {P : Nat → Prop} {i : Instruction} (h : ∀ next ∈ i.successors, P next) (w : Window)
    (pos : Nat) : (i.effect w pos).All P := by
  cases i with
  | accept => trivial
  | fork first second => exact ⟨h, Nat.le_refl 2⟩
  | test a next =>
    have hnext : P next := h next (List.mem_singleton_self next)
    simp only [Instruction.effect, Effect.All]
    split
    · exact ⟨by simpa using hnext, by simp⟩
    · exact ⟨by simp, by simp⟩
  | char s next | byte s next =>
    have hnext : P next := h next (List.mem_singleton_self next)
    simp only [Instruction.effect]
    split
    · split
      · exact hnext
      · exact ⟨by simp, by simp⟩
    · exact ⟨by simp, by simp⟩

lemma Effect.All.stack {P : Nat → Prop} {e : Effect} (he : e.All P) {stack : List Nat}
    (h : ∀ pc ∈ stack, P pc) : ∀ pc ∈ e.stack stack, P pc := by
  cases e with
  | push places => exact List.forall_mem_append.mpr ⟨he.1, h⟩
  | wait t | accept => exact h

lemma Effect.All.length_stack_le {P : Nat → Prop} {e : Effect} (he : e.All P) (stack : List Nat) :
    (e.stack stack).length ≤ stack.length + 2 := by
  cases e with
  | push places =>
    have hle : places.length ≤ 2 := he.2
    rw [Effect.stack, List.length_append]
    omega
  | wait t | accept => exact Nat.le_add_right _ _

/-- The frontier with one more instruction reached at the position. -/
def Frontier.reach (f : Frontier) (pos pc : Nat) : Frontier :=
  { f with reached := f.reached.setIfInBounds pc (pos + 1) }

namespace Program

variable {p : Program} {w : Window} {f : Frontier} {pos fuel pc : Nat} {stack : List Nat}

lemma follow_of_accepted (hf : f.accepted = true) : p.follow w pos fuel stack f = f := by
  cases fuel with
  | zero => rfl
  | succ fuel =>
    cases stack with
    | nil => rfl
    | cons pc stack => simp [follow, hf]

lemma follow_of_reached (hf : f.accepted = false) (h : f.reached[pc]? = some (pos + 1)) :
    p.follow w pos (fuel + 1) (pc :: stack) f = p.follow w pos fuel stack f := by
  simp [follow, hf, h]

lemma follow_of_instruction {i : Instruction} (hf : f.accepted = false)
    (hnew : f.reached[pc]? ≠ some (pos + 1)) (hi : p.code[pc]? = some i) :
    p.follow w pos (fuel + 1) (pc :: stack) f =
      p.follow w pos fuel ((i.effect w pos).stack stack)
        ((f.reach pos pc).after (i.effect w pos)) := by
  obtain ⟨threads, reached, accepted⟩ := f
  obtain rfl : accepted = false := hf
  rw [follow]
  simp only [hnew, hi, Bool.false_eq_true, if_false]
  cases i with
  | accept => exact (follow_of_accepted rfl).symm
  | fork first second => rfl
  | test a next =>
    simp only [Instruction.effect]
    split <;> rfl
  | char s next =>
    simp only [Instruction.effect]
    cases w.charAt? pos with
    | none => rfl
    | some c => dsimp only; split <;> rfl
  | byte s next =>
    simp only [Instruction.effect]
    cases w.get? pos with
    | none => rfl
    | some b => dsimp only; split <;> rfl

end Program

/-! ### Frontiers in code of some size -/

/-- All places that the frontier speaks of are in code of the size. -/
structure Frontier.Inside (f : Frontier) (size : Nat) : Prop where
  reached : f.reached.size = size
  threads : ∀ t ∈ f.threads, t.target < size

/-- How many instructions have not been reached at the position. -/
def Frontier.pending (f : Frontier) (pos : Nat) : Nat := f.reached.countP (· != pos + 1)

namespace Frontier

variable {f : Frontier} {size pos pc : Nat} {e : Effect}

lemma Inside.reach (h : f.Inside size) : (f.reach pos pc).Inside size :=
  ⟨by rw [Frontier.reach, Array.size_setIfInBounds, h.reached], h.threads⟩

lemma Inside.after (h : f.Inside size) (he : e.All (· < size)) : (f.after e).Inside size := by
  cases e with
  | push places | accept => exact ⟨h.reached, h.threads⟩
  | wait t => exact ⟨h.reached, List.forall_mem_cons.mpr ⟨he, h.threads⟩⟩

lemma Inside.pending_le (h : f.Inside size) (pos : Nat) : f.pending pos ≤ size := by
  have hle : f.pending pos ≤ f.reached.size := Array.countP_le_size
  rwa [h.reached] at hle

@[simp] lemma pending_after : (f.after e).pending pos = f.pending pos := by
  cases e <;> rfl

/-- An instruction that is reached for the first time is no longer pending. -/
lemma pending_reach (hpc : pc < f.reached.size) (hnew : f.reached[pc]? ≠ some (pos + 1)) :
    (f.reach pos pc).pending pos + 1 = f.pending pos := by
  have hne : f.reached[pc] ≠ pos + 1 := by
    intro heq
    exact hnew (by rw [Array.getElem?_eq_getElem hpc, heq])
  have hpos : 0 < f.reached.countP (· != pos + 1) :=
    Array.countP_pos_iff.mpr ⟨f.reached[pc], Array.getElem_mem hpc, by simpa using hne⟩
  rw [reach, pending, pending, Array.setIfInBounds, dif_pos hpc, Array.countP_set hpc]
  simp [hne]
  omega

/-- The frontier when there is one more instruction, last reached at the step of the number. -/
def extended (f : Frontier) (step : Nat) : Frontier :=
  { f with reached := f.reached.push step }

lemma after_extended (step : Nat) : (f.extended step).after e = (f.after e).extended step := by
  cases e <;> rfl

lemma reach_extended (hpc : pc < f.reached.size) (step : Nat) :
    (f.extended step).reach pos pc = (f.reach pos pc).extended step := by
  have hlt : pc < (f.reached.push step).size := by
    rw [Array.size_push]
    omega
  have hset : (f.reached.push step).setIfInBounds pc (pos + 1) =
      (f.reached.setIfInBounds pc (pos + 1)).push step := by
    rw [Array.setIfInBounds, dif_pos hlt, Array.set_push, dif_pos hpc, Array.setIfInBounds,
      dif_pos hpc]
  simp only [reach, extended, hset]

end Frontier

/-! ### One more instruction -/

/-- The program with one more instruction, which it starts with. -/
def Program.before (p : Program) (i : Instruction) : Program :=
  { code := p.code.push i, start := p.code.size }

namespace Program

variable {p : Program} {w : Window} {f : Frontier} {pos : Nat}

lemma follow_inside (hp : Closed p.code) (fuel : Nat) {stack : List Nat}
    (hstack : ∀ pc ∈ stack, pc < p.code.size) (hf : f.Inside p.code.size) :
    (p.follow w pos fuel stack f).Inside p.code.size := by
  induction fuel generalizing stack f with
  | zero => exact hf
  | succ fuel ih =>
    cases stack with
    | nil => exact hf
    | cons pc stack =>
      rw [List.forall_mem_cons] at hstack
      obtain ⟨hpc, hstack⟩ := hstack
      cases hacc : f.accepted with
      | true => rwa [follow_of_accepted hacc]
      | false =>
        by_cases hnew : f.reached[pc]? = some (pos + 1)
        · rw [follow_of_reached hacc hnew]
          exact ih hstack hf
        · rw [follow_of_instruction hacc hnew (Array.getElem?_eq_getElem hpc)]
          have hall := all_effect (hp _ (Array.getElem_mem hpc)) w pos
          exact ih (hall.stack hstack) (hf.reach.after hall)

/-- Every step takes an instruction off the stack, and puts up to two there only if it is reached
for the first time. So there are steps enough, with the new instruction and without. -/
lemma follow_before (hp : Closed p.code) (i : Instruction) (step : Nat) {fuel fuel' : Nat}
    {stack : List Nat} (hstack : ∀ pc ∈ stack, pc < p.code.size) (hf : f.Inside p.code.size)
    (hfuel : stack.length + 2 * f.pending pos ≤ fuel)
    (hfuel' : stack.length + 2 * f.pending pos ≤ fuel') :
    (p.before i).follow w pos fuel' stack (f.extended step) =
      (p.follow w pos fuel stack f).extended step := by
  induction fuel generalizing fuel' stack f with
  | zero =>
    obtain rfl : stack = [] := List.length_eq_zero_iff.mp (by omega)
    cases fuel' <;> rfl
  | succ fuel ih =>
    cases stack with
    | nil => cases fuel' <;> rfl
    | cons pc stack =>
      rw [List.length_cons] at hfuel hfuel'
      rw [List.forall_mem_cons] at hstack
      obtain ⟨hpc, hstack⟩ := hstack
      obtain ⟨fuel', rfl⟩ : ∃ k, fuel' = k + 1 := ⟨fuel' - 1, by omega⟩
      have hreached : pc < f.reached.size := by rwa [hf.reached]
      have hsame : (f.extended step).reached[pc]? = f.reached[pc]? := by
        rw [Frontier.extended, Array.getElem?_push_lt hreached, Array.getElem?_eq_getElem hreached]
      cases hacc : f.accepted with
      | true => rw [follow_of_accepted hacc, follow_of_accepted (f := f.extended step) hacc]
      | false =>
        by_cases hnew : f.reached[pc]? = some (pos + 1)
        · rw [follow_of_reached hacc hnew,
            follow_of_reached (f := f.extended step) hacc (hsame.trans hnew)]
          exact ih hstack hf (by omega) (by omega)
        · have hcode : p.code[pc]? = some p.code[pc] := Array.getElem?_eq_getElem hpc
          have hcode' : (p.before i).code[pc]? = some p.code[pc] := Array.getElem?_push_lt hpc
          rw [follow_of_instruction hacc hnew hcode,
            follow_of_instruction (f := f.extended step) hacc (hsame ▸ hnew) hcode',
            Frontier.reach_extended hreached, Frontier.after_extended]
          have hall := all_effect (hp _ (Array.getElem_mem hpc)) w pos
          have hlength := hall.length_stack_le stack
          have hpending := Frontier.pending_reach hreached hnew
          apply ih (hall.stack hstack) (hf.reach.after hall)
          · rw [Frontier.pending_after]
            omega
          · rw [Frontier.pending_after]
            omega

lemma step_before (hp : Closed p.code) (i : Instruction) (step : Nat) {threads : List Thread}
    (hthreads : ∀ t ∈ threads, t.target < p.code.size) (hf : f.Inside p.code.size) :
    (p.before i).step w pos threads (f.extended step) =
      (p.step w pos threads f).extended step ∧
    (p.step w pos threads f).Inside p.code.size := by
  induction threads generalizing f with
  | nil => exact ⟨rfl, hf⟩
  | cons t rest ih =>
    rw [List.forall_mem_cons] at hthreads
    obtain ⟨ht, hrest⟩ := hthreads
    rw [Program.step, Program.step]
    cases hacc : f.accepted with
    | true => exact ⟨if_pos hacc, hf⟩
    | false =>
      have hacc' : (f.extended step).accepted = false := hacc
      simp only [hacc', Bool.false_eq_true, if_false]
      cases hwait : t.wait with
      | succ wait =>
        have hwaiting : ({ threads := { t with wait } :: f.threads, reached := f.reached } :
            Frontier).Inside p.code.size :=
          ⟨hf.reached, List.forall_mem_cons.mpr ⟨ht, hf.threads⟩⟩
        exact ih hrest hwaiting
      | zero =>
        have hstack : ∀ pc ∈ [t.target], pc < p.code.size := by simpa using ht
        have hle := hf.pending_le pos
        have hsize : (p.before i).code.size = p.code.size + 1 := Array.size_push i
        have hfollow : (p.before i).follow w pos (2 * (p.before i).code.size + 2) [t.target]
            (f.extended step) =
            (p.follow w pos (2 * p.code.size + 2) [t.target] f).extended step := by
          apply follow_before hp i step hstack hf
          · rw [List.length_singleton]
            omega
          · rw [List.length_singleton, hsize]
            omega
        dsimp only
        rw [hfollow]
        exact ih hrest (follow_inside hp _ hstack hf)

lemma run_before (hp : Closed p.code) (i : Instruction) (step : Nat) (fuel : Nat)
    {threads : List Thread} (hthreads : ∀ t ∈ threads, t.target < p.code.size)
    {reached : Array Nat} (hreached : reached.size = p.code.size) (best : Option Nat) :
    (p.before i).run w fuel pos threads (reached.push step) best =
      p.run w fuel pos threads reached best := by
  induction fuel generalizing pos threads reached best with
  | zero => rfl
  | succ fuel ih =>
    cases threads with
    | nil => rfl
    | cons t rest =>
      have hinside : ({ reached } : Frontier).Inside p.code.size := ⟨hreached, by simp⟩
      obtain ⟨hstep, hf⟩ := @step_before p w _ pos hp i step _ hthreads hinside
      have hextended : ({ reached := reached.push step } : Frontier) =
          ({ reached } : Frontier).extended step := rfl
      have hnext : ∀ u ∈ (p.step w pos (t :: rest) { reached }).threads.reverse,
          u.target < p.code.size := by simpa using hf.threads
      simp only [Program.run, hextended, hstep]
      exact ih hnext hf.reached _

/-- The test is followed to the start of the program before anything else is reached. -/
lemma follow_test (hp : Closed p.code) (hstart : p.start < p.code.size) {a : Assertion}
    (ha : w.satisfies 0 a = true) :
    (p.before (.test a p.start)).follow w 0 (2 * (p.code.size + 1) + 2) [p.code.size]
      { reached := Array.replicate (p.code.size + 1) 0 } =
      (p.follow w 0 (2 * p.code.size + 2) [p.start]
        { reached := Array.replicate p.code.size 0 }).extended 1 := by
  have hinside : ({ reached := Array.replicate p.code.size 0 } : Frontier).Inside p.code.size :=
    ⟨Array.size_replicate, by simp⟩
  have hle := hinside.pending_le 0
  have heffect : (Instruction.test a p.start).effect w 0 = .push [p.start] := by
    simp [Instruction.effect, ha]
  have hreach :
      ({ reached := Array.replicate (p.code.size + 1) 0 } : Frontier).reach 0 p.code.size =
      ({ reached := Array.replicate p.code.size 0 } : Frontier).extended 1 := by
    have hset : (Array.replicate (p.code.size + 1) 0).setIfInBounds p.code.size 1 =
        (Array.replicate p.code.size 0).push 1 := by
      rw [Array.replicate_succ, Array.setIfInBounds, dif_pos (by simp), Array.set_push,
        dif_neg (by simp)]
    simp only [Frontier.reach, Frontier.extended, hset]
  rw [follow_of_instruction (i := .test a p.start) rfl (by simp) (by simp [before]), heffect,
    hreach]
  have hstack : ∀ pc ∈ [p.start], pc < p.code.size := by simpa using hstart
  apply follow_before hp _ 1 hstack hinside
  · show 1 + _ ≤ _
    omega
  · show 1 + _ ≤ _
    omega

/-- A test that holds at the start, in front of a program, changes none of its matches. -/
theorem matchLength?_before (hp : Closed p.code) (hstart : p.start < p.code.size) {a : Assertion}
    (ha : w.satisfies 0 a = true) :
    (p.before (.test a p.start)).matchLength? w = p.matchLength? w := by
  have hinside : ({ reached := Array.replicate p.code.size 0 } : Frontier).Inside p.code.size :=
    ⟨Array.size_replicate, by simp⟩
  have hf := @follow_inside p w _ 0 hp (2 * p.code.size + 2) [p.start] (by simpa using hstart)
    hinside
  have hsize : (p.before (.test a p.start)).code.size = p.code.size + 1 := Array.size_push _
  have hfirst : (p.before (.test a p.start)).step w 0 [{ target := p.code.size, wait := 0 }]
      { reached := Array.replicate (p.code.size + 1) 0 } =
      (p.step w 0 [{ target := p.start, wait := 0 }]
        { reached := Array.replicate p.code.size 0 }).extended 1 := by
    simp only [Program.step, hsize]
    exact follow_test hp hstart ha
  have hthreads : ∀ t ∈ (p.step w 0 [{ target := p.start, wait := 0 }]
      { reached := Array.replicate p.code.size 0 }).threads.reverse, t.target < p.code.size := by
    simpa [Program.step] using hf.threads
  rw [matchLength?, matchLength?, hsize]
  simp only [Program.run, show (p.before (.test a p.start)).start = p.code.size from rfl, hfirst]
  exact run_before hp _ 1 _ hthreads hf.reached _

end Program

/-! ### Expressions at the start -/

/-- An expression behind an assertion that holds at the start has the matches of the expression. -/
theorem matchLength?_assertion {w : Window} {a : Assertion} (ha : w.satisfies 0 a = true)
    (r : Regex) :
    (compile (.cat (.assertion a) r)).matchLength? w = r.compile.matchLength? w := by
  obtain ⟨hclosed, hstart⟩ := compile_extends r
  exact Program.matchLength?_before hclosed hstart ha

end Peg.Regex
