import Mathlib.Data.List.Chain
import Mathlib.Data.List.TakeWhile
import Mathlib.Tactic.Lemma
import Peg.Token.Lexer

/-!
# Grammar texts as rows of tokens

Splitting a grammar text into tokens loses nothing: written one behind the other, the tokens are
the text again, up to the place of an error if there is one. And there is no other way to split it:
a row of tokens is read back from its text, unless one of them goes on in the next.
-/

namespace Peg

/-! ### Sizes -/

namespace Utf8

@[simp] lemma size_nil : size [] = 0 := rfl

@[simp] lemma size_cons (c : Char) (text : List Char) :
    size (c :: text) = c.utf8Size + size text := rfl

@[simp] lemma size_append (text rest : List Char) :
    size (text ++ rest) = size text + size rest := by
  induction text with
  | nil => simp
  | cons c text ih => simp [ih, Nat.add_assoc]

lemma length_le_size (text : List Char) : text.length ≤ size text := by
  induction text with
  | nil => simp
  | cons c text ih =>
    have := c.utf8Size_pos
    simp only [List.length_cons, size_cons]
    omega

lemma utf8ByteSize_ofList (text : List Char) : (String.ofList text).utf8ByteSize = size text := by
  induction text with
  | nil => rfl
  | cons c text ih => rw [String.ofList_cons, String.utf8ByteSize_append, ih]; simp

lemma size_toList (text : String) : size text.toList = text.utf8ByteSize := by
  rw [← utf8ByteSize_ofList, String.ofList_toList]

/-- The size of the beginning of a text is a boundary between its characters. -/
lemma isValid_size {text : String} {before rest : List Char} (h : text.toList = before ++ rest) :
    (⟨size before⟩ : String.Pos.Raw).IsValid text := by
  rw [String.Pos.Raw.isValid_iff_exists_append]
  refine ⟨String.ofList before, String.ofList rest, ?_, ?_⟩
  · rw [← String.ofList_append, ← h, String.ofList_toList]
  · rw [← utf8ByteSize_ofList]
    rfl

end Utf8

namespace Token

/-! ### Texts of tokens -/

/-- A text that may stand between quotes: there is a character after every backslash, and a
backslash before every quote. -/
inductive QuotedBody : List Char → Prop where
  | nil : QuotedBody []
  | plain {c : Char} {text : List Char} (hquote : c ≠ '\'') (hbackslash : c ≠ '\\')
      (h : QuotedBody text) : QuotedBody (c :: text)
  | escaped {c : Char} {text : List Char} (h : QuotedBody text) : QuotedBody ('\\' :: c :: text)

/-- The texts that a token of the kind may have. There is none for the end of a grammar text. -/
def Kind.Admits : Kind → List Char → Prop
  | .identifier, text | .reference, text => text ≠ [] ∧ ∀ c ∈ text, isIdentifierChar c = true
  | .whitespace, text => text ≠ [] ∧ ∀ c ∈ text, isSpaceChar c = true
  | .newline, text => text = ['\n'] ∨ text = ['\r', '\n'] ∨ text = ['\r']
  | .assignment, text => text = ['<', '-']
  | .literal, text | .regexp, text => QuotedBody text
  | .closure, text => text = ['*']
  | .plus, text => text = ['+']
  | .alternate, text => text = ['/']
  | .optional, text => text = ['?']
  | .discard, text => text = ['^']
  | .openGroup, text => text = ['(']
  | .closeGroup, text => text = [')']
  | .finish, _ => False

/-- The token is not the end of a grammar text, and its text is one of its kind. -/
def WellFormed (t : Token) : Prop := t.kind.Admits t.text.toList

/-- Whether the token does not go on in the characters behind it. -/
def Stops (t : Token) (rest : List Char) : Prop :=
  match t.kind with
  | .identifier | .reference => ∀ c ∈ rest.head?, isIdentifierChar c = false
  | .whitespace => ∀ c ∈ rest.head?, isSpaceChar c = false
  | .newline => t.text.toList = ['\r'] → rest.head? ≠ some '\n'
  | _ => True

/-- Whether the two tokens, one behind the other, are not read as one. -/
structure Separate (t u : Token) : Prop where
  identifier : t.kind = .identifier ∨ t.kind = .reference → u.kind ≠ .identifier
  whitespace : t.kind = .whitespace → u.kind ≠ .whitespace
  newline : t.kind = .newline → t.text.toList = ['\r'] → u.kind = .newline →
    u.text.toList.head? ≠ some '\n'

/-- The tokens at the offsets where they stand, if the first one stands at the offset and each of
the others right behind the one before it. -/
def place : Nat → List Token → List Token
  | _, [] => []
  | offset, t :: ts => { t with offset } :: place (offset + Utf8.size t.written) ts

@[simp] lemma written_at (t : Token) (offset : Nat) :
    written { t with offset } = t.written := rfl

/-- The offset of a token or an error. -/
def Item.offset : Item → Nat
  | .ok t => t.offset
  | .error e => e.offset

/-! ### Characters of identifiers -/

/-- No table is needed for the first 128 characters. -/
lemma isIdentifierChar_of_lt {c : Char} (h : c.toNat < 0x80) :
    isIdentifierChar c = (c.isAlphanum || c == '_') := by
  rw [isIdentifierChar, Char.isAlphabeticOrNumeric, if_pos h]

lemma isIdentifierChar_of_mark :
    ∀ c ∈ [' ', '\t', '\n', '\r', '<', '*', '+', '/', '?', '^', '(', ')', '\'', '~'],
      isIdentifierChar c = false := by
  intro c hc
  simp only [List.mem_cons, List.not_mem_nil, or_false] at hc
  rcases hc with rfl | rfl | rfl | rfl | rfl | rfl | rfl | rfl | rfl | rfl | rfl | rfl | rfl | rfl
  all_goals exact isIdentifierChar_of_lt (by decide)

/-! ### Quoted texts -/

lemma quotedText_append {text : List Char} (h : QuotedBody text) (rest : List Char) :
    quotedText (text ++ '\'' :: rest) = some (text, rest) := by
  induction h with
  | nil => simp [quotedText]
  | plain hquote hbackslash _ ih => simp [quotedText, ih, hbackslash]
  | escaped _ ih => simp [quotedText, ih]

lemma quotedText_sound {chars text rest : List Char} (h : quotedText chars = some (text, rest)) :
    QuotedBody text ∧ chars = text ++ '\'' :: rest := by
  fun_induction quotedText chars generalizing text with
  | case1 => cases h
  | case2 rest' =>
    cases h
    exact ⟨.nil, rfl⟩
  | case3 c rest' ih =>
    obtain ⟨⟨text', rest''⟩, hrest, heq⟩ := Option.map_eq_some_iff.mp h
    obtain ⟨rfl, rfl⟩ := Prod.mk.inj heq
    obtain ⟨hbody, rfl⟩ := ih hrest
    exact ⟨.escaped hbody, rfl⟩
  | case4 => cases h
  | case5 c rest' hquote hbackslash hlast ih =>
    obtain ⟨⟨text', rest''⟩, hrest, heq⟩ := Option.map_eq_some_iff.mp h
    obtain ⟨rfl, rfl⟩ := Prod.mk.inj heq
    obtain ⟨hbody, rfl⟩ := ih hrest
    refine ⟨.plain hquote ?_ hbody, rfl⟩
    rintro rfl
    cases text' with
    | nil => exact hbackslash _ _ rfl rfl
    | cons c text' => exact hbackslash _ _ rfl rfl

/-! ### Runs of characters -/

section

variable {p : Char → Bool}

lemma takeWhile_append {text rest : List Char} (htext : ∀ c ∈ text, p c = true)
    (hrest : ∀ c ∈ rest.head?, p c = false) : (text ++ rest).takeWhile p = text := by
  rw [List.takeWhile_append_of_pos htext]
  cases rest with
  | nil => simp
  | cons c rest => simp [hrest c rfl]

lemma dropWhile_append {text rest : List Char} (htext : ∀ c ∈ text, p c = true)
    (hrest : ∀ c ∈ rest.head?, p c = false) : (text ++ rest).dropWhile p = rest := by
  rw [List.dropWhile_append_of_pos htext]
  cases rest with
  | nil => simp
  | cons c rest => simp [hrest c rfl]

lemma head?_dropWhile (text : List Char) : ∀ c ∈ (text.dropWhile p).head?, p c = false := by
  intro c hc
  have h := List.head?_dropWhile_not p text
  rw [Option.mem_def.mp hc] at h
  exact h

lemma all_run {c : Char} (hc : p c = true) (text : List Char) :
    ∀ d ∈ c :: text.takeWhile p, p d = true := by
  simpa [hc] using fun d hd => List.mem_takeWhile_imp hd

end

/-! ### One token -/

/-- The characters begin with the token, which stands at the offset, and go on with the rest. -/
structure Begins (t : Token) (offset : Nat) (chars rest : List Char) : Prop where
  offset_eq : t.offset = offset
  wellFormed : t.WellFormed
  stops : t.Stops rest
  written_append : t.written ++ rest = chars

lemma begins_run {kind : Kind} {p : Char → Bool} {offset : Nat} {c : Char} {cs : List Char}
    (hkind : kind = .identifier ∧ p = isIdentifierChar ∨ kind = .whitespace ∧ p = isSpaceChar)
    (hc : p c = true) :
    Begins { kind, text := String.ofList (c :: cs.takeWhile p), offset } offset (c :: cs)
      (cs.dropWhile p) := by
  have hall := all_run hc cs
  have hstops := head?_dropWhile (p := p) cs
  rcases hkind with ⟨rfl, rfl⟩ | ⟨rfl, rfl⟩
  all_goals
    exact ⟨rfl, by simpa [WellFormed, Kind.Admits] using hall, hstops,
      by simp [written, List.takeWhile_append_dropWhile]⟩

lemma readOne_sound {offset : Nat} {c : Char} {cs rest : List Char} {t : Token}
    (h : readOne offset c cs = .ok (t, rest)) : t.Begins offset (c :: cs) rest := by
  unfold readOne at h
  dsimp only at h
  split at h
  case h_1 | h_2 =>
    cases h
    exact begins_run (Or.inr ⟨rfl, rfl⟩) rfl
  case h_4 =>
    split at h
    · cases h
      exact ⟨rfl, by simp [WellFormed, Kind.Admits], by simp [Stops], by simp [written]⟩
    · rename_i hnewline
      cases h
      refine ⟨rfl, by simp [WellFormed, Kind.Admits], ?_, by simp [written]⟩
      rintro - hhead
      obtain ⟨cs, rfl⟩ := List.head?_eq_some_iff.mp hhead
      exact hnewline _ rfl
  case h_5 =>
    split at h
    · cases h
      exact ⟨rfl, by simp [WellFormed, Kind.Admits], trivial, by simp [written]⟩
    · cases h
  case h_13 =>
    split at h
    · rename_i text _ hquoted
      cases h
      obtain ⟨hbody, rfl⟩ := quotedText_sound hquoted
      exact ⟨rfl, by simpa [WellFormed, Kind.Admits] using hbody, trivial, by simp [written]⟩
    · cases h
  case h_14 =>
    split at h
    · cases h
    split at h
    · rename_i hquote
      subst hquote
      split at h
      · rename_i text _ hquoted
        cases h
        obtain ⟨hbody, rfl⟩ := quotedText_sound hquoted
        exact ⟨rfl, by simpa [WellFormed, Kind.Admits] using hbody, trivial, by simp [written]⟩
      · cases h
    split at h
    · rename_i d ds _ hd
      cases h
      refine ⟨rfl, ?_, head?_dropWhile ds, by simp [written, List.takeWhile_append_dropWhile]⟩
      simpa [WellFormed, Kind.Admits] using all_run hd ds
    · cases h
  case h_15 =>
    split at h
    · rename_i hc
      cases h
      exact begins_run (Or.inl ⟨rfl, rfl⟩) hc
    · cases h
  all_goals
    cases h
    exact ⟨rfl, by simp [WellFormed, Kind.Admits], by simp [Stops], by simp [written]⟩

lemma readOne_identifier {c : Char} (hc : isIdentifierChar c = true) (offset : Nat)
    (cs : List Char) : readOne offset c cs =
      .ok (⟨.identifier, String.ofList (c :: cs.takeWhile isIdentifierChar), offset⟩,
        cs.dropWhile isIdentifierChar) := by
  have hmark : ∀ d ∈ [' ', '\t', '\n', '\r', '<', '*', '+', '/', '?', '^', '(', ')', '\'', '~'],
      c ≠ d := by
    rintro d hd rfl
    rw [isIdentifierChar_of_mark c hd] at hc
    cases hc
  simp only [List.forall_mem_cons] at hmark
  simp [readOne, hmark, hc]

lemma readOne_space {c : Char} (hc : isSpaceChar c = true) (offset : Nat) (cs : List Char) :
    readOne offset c cs =
      .ok (⟨.whitespace, String.ofList (c :: cs.takeWhile isSpaceChar), offset⟩,
        cs.dropWhile isSpaceChar) := by
  have hor : c = ' ' ∨ c = '\t' := by simpa [isSpaceChar] using hc
  rcases hor with rfl | rfl <;> rfl

lemma readOne_reference {d : Char} (hd : isIdentifierChar d = true) (offset : Nat)
    (cs : List Char) : readOne offset '~' (d :: cs) =
      .ok (⟨.reference, String.ofList (d :: cs.takeWhile isIdentifierChar), offset⟩,
        cs.dropWhile isIdentifierChar) := by
  have hquote : d ≠ '\'' := by
    rintro rfl
    rw [isIdentifierChar_of_mark _ (by simp)] at hd
    cases hd
  simp [readOne, hquote, hd]

lemma readOne_complete {offset : Nat} {chars rest : List Char} {t : Token}
    (h : t.Begins offset chars rest) :
    ∃ c cs, chars = c :: cs ∧ readOne offset c cs = .ok (t, rest) := by
  obtain ⟨rfl, hwell, hstops, rfl⟩ := h
  obtain ⟨kind, text, offset⟩ := t
  obtain ⟨body, rfl⟩ : ∃ body, text = String.ofList body := ⟨text.toList, String.ofList_toList.symm⟩
  simp only [WellFormed, String.toList_ofList] at hwell
  simp only [Stops, String.toList_ofList] at hstops
  cases kind with
  | identifier =>
    obtain ⟨hne, hall⟩ := hwell
    obtain ⟨c, body, rfl⟩ := List.exists_cons_of_ne_nil hne
    rw [List.forall_mem_cons] at hall
    refine ⟨c, body ++ rest, by simp [written], ?_⟩
    rw [readOne_identifier hall.1, takeWhile_append hall.2 hstops, dropWhile_append hall.2 hstops]
  | whitespace =>
    obtain ⟨hne, hall⟩ := hwell
    obtain ⟨c, body, rfl⟩ := List.exists_cons_of_ne_nil hne
    rw [List.forall_mem_cons] at hall
    refine ⟨c, body ++ rest, by simp [written], ?_⟩
    rw [readOne_space hall.1, takeWhile_append hall.2 hstops, dropWhile_append hall.2 hstops]
  | newline =>
    rcases hwell with rfl | rfl | rfl
    · exact ⟨_, _, congrArg (· ++ rest) String.toList_ofList, rfl⟩
    · exact ⟨'\r', '\n' :: rest, by simp [written], rfl⟩
    · refine ⟨'\r', rest, by simp [written], ?_⟩
      cases rest with
      | nil => rfl
      | cons d rest =>
        have hd : d ≠ '\n' := by simpa using hstops
        simp [readOne, hd]
  | literal =>
    refine ⟨'\'', body ++ '\'' :: rest, by simp [written], ?_⟩
    simp [readOne, quotedText_append hwell]
  | regexp =>
    refine ⟨'~', '\'' :: (body ++ '\'' :: rest), by simp [written], ?_⟩
    simp [readOne, quotedText_append hwell]
  | reference =>
    obtain ⟨hne, hall⟩ := hwell
    obtain ⟨c, body, rfl⟩ := List.exists_cons_of_ne_nil hne
    rw [List.forall_mem_cons] at hall
    refine ⟨'~', c :: (body ++ rest), by simp [written], ?_⟩
    rw [readOne_reference hall.1, takeWhile_append hall.2 hstops, dropWhile_append hall.2 hstops]
  | finish => exact hwell.elim
  | _ =>
    obtain rfl := hwell
    exact ⟨_, _, congrArg (· ++ rest) String.toList_ofList, rfl⟩

lemma offset_of_readOne_error {offset : Nat} {c : Char} {cs : List Char} {e : LexError}
    (h : readOne offset c cs = .error e) : e.offset = offset := by
  unfold readOne at h
  dsimp only at h
  repeat' split at h
  all_goals cases h
  all_goals rfl

/-! ### Two tokens -/

/-- What the first character of a token tells of it. -/
structure StartsWith (t : Token) (c : Char) : Prop where
  identifier : isIdentifierChar c = true ↔ t.kind = .identifier
  space : isSpaceChar c = true ↔ t.kind = .whitespace
  newline : c = '\n' ↔ t.kind = .newline ∧ t.text.toList.head? = some '\n'

lemma WellFormed.exists_startsWith {t : Token} (h : t.WellFormed) (rest : List Char) :
    ∃ c, (t.written ++ rest).head? = some c ∧ t.StartsWith c := by
  obtain ⟨kind, text, offset⟩ := t
  obtain ⟨body, rfl⟩ : ∃ body, text = String.ofList body := ⟨text.toList, String.ofList_toList.symm⟩
  simp only [WellFormed, String.toList_ofList] at h
  have hmark := isIdentifierChar_of_mark
  simp only [List.forall_mem_cons] at hmark
  cases kind with
  | identifier =>
    obtain ⟨hne, hall⟩ := h
    obtain ⟨c, body, rfl⟩ := List.exists_cons_of_ne_nil hne
    rw [List.forall_mem_cons] at hall
    have hne : ∀ d, isIdentifierChar d = false → c ≠ d := by
      rintro d hd rfl
      rw [hall.1] at hd
      cases hd
    refine ⟨c, by simp [written], by simp [hall.1], ?_, by simp [hne, hmark]⟩
    simp [isSpaceChar, hne, hmark]
  | whitespace =>
    obtain ⟨hne, hall⟩ := h
    obtain ⟨c, body, rfl⟩ := List.exists_cons_of_ne_nil hne
    rw [List.forall_mem_cons] at hall
    have hor : c = ' ' ∨ c = '\t' := by simpa [isSpaceChar] using hall.1
    refine ⟨c, by simp [written], ?_, by simp [hall.1], ?_⟩
    · rcases hor with rfl | rfl <;> simp [hmark]
    · rcases hor with rfl | rfl <;> simp
  | newline =>
    rcases h with rfl | rfl | rfl
    · exact ⟨'\n', by simp [written], by simp [hmark], by simp [isSpaceChar], by simp⟩
    · exact ⟨'\r', by simp [written], by simp [hmark], by simp [isSpaceChar], by simp⟩
    · exact ⟨'\r', by simp [written], by simp [hmark], by simp [isSpaceChar], by simp⟩
  | literal =>
    exact ⟨'\'', by simp [written], by simp [hmark], by simp [isSpaceChar], by simp⟩
  | regexp | reference =>
    exact ⟨'~', by simp [written], by simp [hmark], by simp [isSpaceChar], by simp⟩
  | finish => exact h.elim
  | _ =>
    obtain rfl := h
    refine ⟨_, congrArg (fun chars => (chars ++ rest).head?) String.toList_ofList, ?_⟩
    exact ⟨by simp [hmark], by simp [isSpaceChar], by simp⟩

/-- Tokens are read apart if and only if the first one does not go on in the second one. -/
lemma stops_iff_separate {t u : Token} (h : u.WellFormed) (rest : List Char) :
    t.Stops (u.written ++ rest) ↔ t.Separate u := by
  obtain ⟨c, hhead, hstart⟩ := h.exists_startsWith rest
  constructor
  · intro hstops
    refine ⟨?_, ?_, ?_⟩
    · rintro hkind hidentifier
      have hc : isIdentifierChar c = false := by
        rcases hkind with hkind | hkind <;> rw [Stops, hkind] at hstops <;> exact hstops c hhead
      rw [hstart.identifier.mpr hidentifier] at hc
      cases hc
    · rintro hkind hspace
      rw [Stops, hkind] at hstops
      have hc : isSpaceChar c = false := hstops c hhead
      rw [hstart.space.mpr hspace] at hc
      cases hc
    · rintro hkind htext hnewline hfirst
      rw [Stops, hkind] at hstops
      obtain rfl := hstart.newline.mpr ⟨hnewline, hfirst⟩
      exact hstops htext hhead
  · intro hseparate
    have heq : ∀ d ∈ (u.written ++ rest).head?, d = c := by simp [hhead]
    unfold Stops
    split
    case h_1 hkind =>
      intro d hd
      rw [heq d hd, Bool.eq_false_iff, ne_eq, hstart.identifier]
      exact hseparate.identifier (Or.inl hkind)
    case h_2 hkind =>
      intro d hd
      rw [heq d hd, Bool.eq_false_iff, ne_eq, hstart.identifier]
      exact hseparate.identifier (Or.inr hkind)
    case h_3 hkind =>
      intro d hd
      rw [heq d hd, Bool.eq_false_iff, ne_eq, hstart.space]
      exact hseparate.whitespace hkind
    case h_4 hkind =>
      intro htext hnewline
      obtain ⟨hkind', hfirst⟩ := hstart.newline.mp (heq _ hnewline).symm
      exact hseparate.newline hkind htext hkind' hfirst
    case h_5 => trivial

lemma stops_nil (t : Token) : t.Stops [] := by
  unfold Stops
  split <;> simp

/-! ### Whole texts -/

lemma WellFormed.written_ne_nil {t : Token} (h : t.WellFormed) : t.written ≠ [] := by
  intro hnil
  obtain ⟨c, hhead, -⟩ := h.exists_startsWith []
  simp [hnil] at hhead

/-- A row of tokens is read back from its text. -/
lemma readFrom_written {tokens : List Token} (hwell : ∀ t ∈ tokens, t.WellFormed)
    (hseparate : tokens.IsChain Separate) (fuel offset : Nat)
    (hfuel : (tokens.flatMap written).length < fuel) :
    readFrom fuel offset (tokens.flatMap written) = (place offset tokens).map .ok ++
      [.ok ⟨.finish, "", offset + Utf8.size (tokens.flatMap written)⟩] := by
  induction tokens generalizing fuel offset with
  | nil =>
    obtain ⟨fuel, rfl⟩ := Nat.exists_eq_add_of_lt hfuel
    simp [readFrom, place]
  | cons t tokens ih =>
    rw [List.forall_mem_cons] at hwell
    obtain ⟨ht, hwell⟩ := hwell
    have hstops : t.Stops (tokens.flatMap written) := by
      cases tokens with
      | nil => exact stops_nil t
      | cons u tokens =>
        rw [List.flatMap_cons, stops_iff_separate (hwell u List.mem_cons_self)]
        exact (List.isChain_cons_cons.mp hseparate).1
    have hbegins : Begins { t with offset } offset ((t :: tokens).flatMap written)
        (tokens.flatMap written) := ⟨rfl, ht, hstops, rfl⟩
    obtain ⟨c, cs, hchars, hread⟩ := readOne_complete hbegins
    obtain ⟨fuel, rfl⟩ : ∃ k, fuel = k + 1 := ⟨fuel - 1, by omega⟩
    have hpos := List.length_pos_iff.mpr ht.written_ne_nil
    rw [List.flatMap_cons, List.length_append] at hfuel
    rw [hchars, readFrom, hread]
    simp only
    rw [ih hwell hseparate.tail _ _ (by omega), ← hchars]
    simp [place, Nat.add_assoc]

/-- The tokens stand in the characters, the first one at the offset and each of the others right
behind the one before it, and the characters go on with the rest. -/
structure Row (offset : Nat) (chars : List Char) (tokens : List Token) (rest : List Char) :
    Prop where
  written_append : tokens.flatMap written ++ rest = chars
  place_eq : place offset tokens = tokens
  wellFormed : ∀ t ∈ tokens, t.WellFormed
  separate : tokens.IsChain Separate

lemma row_nil (offset : Nat) (chars : List Char) : Row offset chars [] chars :=
  ⟨rfl, rfl, by simp, .nil⟩

lemma Row.cons {offset : Nat} {chars chars' rest : List Char} {t : Token} {tokens : List Token}
    (ht : t.Begins offset chars chars')
    (h : Row (offset + Utf8.size t.written) chars' tokens rest) :
    Row offset chars (t :: tokens) rest := by
  obtain ⟨rfl, hwell, hstops, rfl⟩ := ht
  obtain ⟨rfl, hplace, hall, hseparate⟩ := h
  refine ⟨by simp, by rw [place, hplace], List.forall_mem_cons.mpr ⟨hwell, hall⟩, ?_⟩
  rw [List.isChain_cons]
  refine ⟨?_, hseparate⟩
  intro u hu
  obtain ⟨tokens, rfl⟩ := List.head?_eq_some_iff.mp hu
  rw [List.flatMap_cons, List.append_assoc] at hstops
  exact (stops_iff_separate (hall u List.mem_cons_self) _).mp hstops

/-- What the items of a text end with, if nothing but the rest is behind the tokens. -/
inductive Ends (offset : Nat) : List Char → Item → Prop where
  | finish : Ends offset [] (.ok ⟨.finish, "", offset⟩)
  | error {rest : List Char} {e : LexError} (hrest : rest ≠ []) (he : e.offset = offset) :
      Ends offset rest (.error e)

/-- Splitting characters gives a row of tokens, and then the end of the text or an error. -/
lemma exists_row (fuel offset : Nat) (chars : List Char) (hfuel : chars.length < fuel) :
    ∃ tokens rest last, readFrom fuel offset chars = tokens.map .ok ++ [last] ∧
      Row offset chars tokens rest ∧
      Ends (offset + Utf8.size (tokens.flatMap written)) rest last := by
  induction fuel generalizing offset chars with
  | zero => omega
  | succ fuel ih =>
    cases chars with
    | nil => exact ⟨[], [], _, rfl, row_nil _ _, .finish⟩
    | cons c cs =>
      cases hread : readOne offset c cs with
      | error e =>
        refine ⟨[], c :: cs, .error e, by simp [readFrom, hread], row_nil _ _, ?_⟩
        exact .error (by simp) (offset_of_readOne_error hread)
      | ok step =>
        obtain ⟨t, cs'⟩ := step
        have hbegins := readOne_sound hread
        have hlength := congrArg List.length hbegins.written_append
        have hpos := List.length_pos_iff.mpr hbegins.wellFormed.written_ne_nil
        rw [List.length_append, List.length_cons] at hlength
        rw [List.length_cons] at hfuel
        obtain ⟨tokens, rest, last, hitems, hrow, hends⟩ :=
          ih (offset + Utf8.size t.written) cs' (by omega)
        refine ⟨t :: tokens, rest, last, by simp [readFrom, hread, hitems], .cons hbegins hrow, ?_⟩
        simpa [Nat.add_assoc] using hends

lemma tokenize_eq_ok {text : String} {tokens : List Token} :
    tokenize text = .ok tokens ↔ readAll text = tokens.map .ok := by
  rw [tokenize]
  induction readAll text generalizing tokens with
  | nil => cases tokens <;> simp [pure, Except.pure]
  | cons item items ih =>
    rw [List.mapM_cons]
    cases item with
    | error e => cases tokens <;> simp [bind, Except.bind]
    | ok t =>
      cases hitems : items.mapM id with
      | error e => cases tokens <;> simp_all [bind, Except.bind]
      | ok ts => cases tokens <;> simp_all [bind, Except.bind, pure, Except.pure]

lemma offset_of_place {offset : Nat} {before after : List Token} {t : Token}
    (h : place offset (before ++ t :: after) = before ++ t :: after) :
    t.offset = offset + Utf8.size (before.flatMap written) := by
  induction before generalizing offset with
  | nil => exact (congrArg Token.offset (List.cons.inj h).1).symm
  | cons u before ih =>
    rw [ih (List.cons.inj h).2]
    simp [Nat.add_assoc]

lemma Row.length_le {offset : Nat} {chars rest : List Char} {tokens : List Token}
    (h : Row offset chars tokens rest) : tokens.length ≤ chars.length := by
  obtain ⟨rfl, -, hwell, -⟩ := h
  induction tokens with
  | nil => simp
  | cons t tokens ih =>
    rw [List.forall_mem_cons] at hwell
    have hpos := List.length_pos_iff.mpr hwell.1.written_ne_nil
    have hle := ih hwell.2
    simp only [List.flatMap_cons, List.append_assoc, List.length_append, List.length_cons] at hle ⊢
    omega

/-- Every grammar text is a row of tokens up to its end or up to an error, at whose offset the row
stops. All offsets are boundaries between characters, and there are no more items than bytes, but
for one. A row of tokens that are read apart is what its text is split into. -/
theorem lossless_and_canonical :
    (∀ text : String, ∃ tokens rest last,
      readAll text = tokens.map .ok ++ [last] ∧
      (readAll text).length ≤ text.utf8ByteSize + 1 ∧
      (∀ item ∈ readAll text, (⟨Item.offset item⟩ : String.Pos.Raw).IsValid text) ∧
      Row 0 text.toList tokens rest ∧
      (last = .ok ⟨.finish, "", text.utf8ByteSize⟩ ∧ tokens.flatMap written = text.toList ∨
        ∃ e, last = .error e ∧ rest ≠ [] ∧ e.offset = Utf8.size (tokens.flatMap written))) ∧
    ∀ tokens : List Token, (∀ t ∈ tokens, t.WellFormed) → tokens.IsChain Separate →
      readAll (String.ofList (tokens.flatMap written)) = (place 0 tokens).map .ok ++
        [.ok ⟨.finish, "", Utf8.size (tokens.flatMap written)⟩] := by
  constructor
  · intro text
    obtain ⟨tokens, rest, last, hitems, hrow, hends⟩ :=
      exists_row (text.toList.length + 1) 0 text.toList (Nat.lt_succ_self _)
    rw [Nat.zero_add] at hends
    have hchars := hrow.written_append
    refine ⟨tokens, rest, last, hitems, ?_, ?_, hrow, ?_⟩
    · have hlength := hrow.length_le
      have hsize := Utf8.length_le_size text.toList
      rw [Utf8.size_toList] at hsize
      rw [readAll, hitems, List.length_append, List.length_map, List.length_singleton]
      omega
    · intro item hitem
      rw [readAll, hitems, List.mem_append, List.mem_map] at hitem
      rcases hitem with ⟨t, ht, rfl⟩ | hlast
      · obtain ⟨before, after, rfl⟩ := List.append_of_mem ht
        have hoffset := offset_of_place hrow.place_eq
        rw [Nat.zero_add] at hoffset
        rw [Item.offset, hoffset]
        have hsplit : text.toList = before.flatMap written ++
            ((t :: after).flatMap written ++ rest) := by simpa using hchars.symm
        exact Utf8.isValid_size hsplit
      · obtain rfl := List.mem_singleton.mp hlast
        have hoffset : Item.offset item = Utf8.size (tokens.flatMap written) := by
          cases hends with
          | finish => rfl
          | error _ he => exact he
        rw [hoffset]
        exact Utf8.isValid_size hchars.symm
    · cases hends with
      | finish =>
        rw [List.append_nil] at hchars
        rw [hchars, Utf8.size_toList]
        exact Or.inl ⟨rfl, rfl⟩
      | error hrest he => exact Or.inr ⟨_, rfl, hrest, he⟩
  · intro tokens hwell hseparate
    have h := readFrom_written hwell hseparate ((tokens.flatMap written).length + 1) 0
      (Nat.lt_succ_self _)
    rw [Nat.zero_add] at h
    rw [readAll, String.toList_ofList, h]

/-- A pattern with a quote in it, a character of two bytes, and two line ends. -/
theorem lossless_and_canonical_line :
    let tokens : List Token := [⟨.identifier, "x", 0⟩, ⟨.assignment, "<-", 0⟩,
      ⟨.regexp, "\\'é", 0⟩, ⟨.reference, "y", 0⟩, ⟨.newline, "\r", 0⟩, ⟨.newline, "\r\n", 0⟩]
    ((∀ t ∈ tokens, t.WellFormed) ∧ tokens.IsChain Separate) ∧
      readAll "x<-~'\\'é'~y\r\r\n" = [.ok ⟨.identifier, "x", 0⟩, .ok ⟨.assignment, "<-", 1⟩,
        .ok ⟨.regexp, "\\'é", 3⟩, .ok ⟨.reference, "y", 10⟩, .ok ⟨.newline, "\r", 12⟩,
        .ok ⟨.newline, "\r\n", 13⟩, .ok ⟨.finish, "", 15⟩] := by
  intro tokens
  have hwell : ∀ t ∈ tokens, t.WellFormed := by
    have hbody : QuotedBody ['\\', '\'', 'é'] := .escaped (.plain (by decide) (by decide) .nil)
    have hx : isIdentifierChar 'x' = true ∧ isIdentifierChar 'y' = true :=
      ⟨isIdentifierChar_of_lt (by decide), isIdentifierChar_of_lt (by decide)⟩
    simpa [tokens, WellFormed, Kind.Admits, hx] using hbody
  have hseparate : tokens.IsChain Separate := by
    simp only [tokens, List.isChain_cons_cons, List.isChain_singleton]
    refine ⟨?_, ?_, ?_, ?_, ?_, trivial⟩
    all_goals exact ⟨by decide, by decide, by decide +kernel⟩
  exact ⟨⟨hwell, hseparate⟩, lossless_and_canonical.2 tokens hwell hseparate⟩

end Token

end Peg
