import Peg.Grammar
import Peg.Proofs.Token.Lexer

/-!
# Quoted texts

Three readers go over a text between quotes: one looks for the closing quote, one decodes the text
of a literal, and one puts quotes into the text of a regular expression. The first one goes by
pairs of a backslash and the character behind it, the last one only looks for a backslash before a
quote. On every text that the first one lets through they agree where the pairs are.
-/

namespace Peg

open Definitions (unescape unescapeQuotes)

/-! ### Pairs -/

/-- A piece of a quoted text: a single character, or a backslash and the character behind it. -/
inductive Piece where
  | single (c : Char)
  | pair (c : Char)
deriving DecidableEq, Repr

namespace Piece

def written : Piece → List Char
  | .single c => [c]
  | .pair c => ['\\', c]

/-- The pieces of a text from left to right. There are none if no character is behind the last
backslash. -/
def split? : List Char → Option (List Piece)
  | [] => some []
  | '\\' :: c :: rest => (split? rest).map (.pair c :: ·)
  | ['\\'] => none
  | c :: rest => (split? rest).map (.single c :: ·)

/-- The character that the piece stands for in a literal. -/
def character : Piece → Char
  | .pair 'n' => '\n'
  | .pair 't' => '\t'
  | .pair 'r' => '\r'
  | .pair '0' => '\x00'
  | .pair c | .single c => c

/-- What the piece stands for in a regular expression: a quote loses its backslash, and all other
pairs are left to the expression. -/
def inRegexp : Piece → List Char
  | .pair '\'' => ['\'']
  | p => p.written

lemma split?_single {c : Char} (hc : c ≠ '\\') (text : List Char) :
    split? (c :: text) = (split? text).map (.single c :: ·) := by
  cases text <;> simp [split?, hc]

end Piece

/-! ### Literals -/

lemma unescape_pair (c : Char) (text : List Char) :
    unescape ('\\' :: c :: text) = (Piece.pair c).character :: unescape text := by
  unfold Piece.character
  split
  case h_1 h | h_2 h | h_3 h | h_4 h =>
    obtain ⟨⟩ := h
    rw [unescape]
  case h_5 d hn ht hr h0 h =>
    obtain ⟨⟩ := h
    simp_all [unescape]
  case h_6 h => cases h

lemma unescape_single {c : Char} (hc : c ≠ '\\') (text : List Char) :
    unescape (c :: text) = c :: unescape text := by
  simp [unescape, hc]

/-- A literal is decoded piece by piece. -/
lemma unescape_of_split? {text : List Char} {pieces : List Piece}
    (h : Piece.split? text = some pieces) : unescape text = pieces.map Piece.character := by
  fun_induction Piece.split? text generalizing pieces with
  | case1 =>
    obtain rfl := Option.some.inj h
    rfl
  | case2 c rest ih =>
    obtain ⟨pieces, hrest, rfl⟩ := Option.map_eq_some_iff.mp h
    rw [List.map_cons, unescape_pair, ih hrest]
  | case3 => cases h
  | case4 c rest hpair hlast ih =>
    obtain ⟨pieces, hrest, rfl⟩ := Option.map_eq_some_iff.mp h
    have hc : c ≠ '\\' := by
      rintro rfl
      cases rest with
      | nil => exact hlast rfl rfl
      | cons d rest => exact hpair _ _ rfl rfl
    rw [List.map_cons, unescape_single hc, ih hrest]
    rfl

/-! ### Regular expressions -/

lemma unescapeQuotes_quote (text : List Char) :
    unescapeQuotes ('\\' :: '\'' :: text) = '\'' :: unescapeQuotes text := by
  rw [unescapeQuotes]

/-- Any other character stays, a backslash as well if there is no quote behind it. -/
lemma unescapeQuotes_cons {c : Char} {text : List Char}
    (h : c = '\\' → text.head? ≠ some '\'') :
    unescapeQuotes (c :: text) = c :: unescapeQuotes text := by
  cases text with
  | nil => simp [unescapeQuotes]
  | cons d text =>
    rw [unescapeQuotes]
    rintro _ rfl ⟨⟩
    exact h rfl rfl

namespace Token

/-! ### Texts of tokens -/

lemma QuotedBody.head?_ne_quote {text : List Char} (h : QuotedBody text) :
    text.head? ≠ some '\'' := by
  cases h with
  | nil => simp
  | plain hquote _ _ => simpa using hquote
  | escaped _ => simp

/-- No backslash of a quoted text is left without a character. -/
lemma QuotedBody.exists_pieces {text : List Char} (h : QuotedBody text) :
    ∃ pieces, Piece.split? text = some pieces := by
  induction h with
  | nil => exact ⟨[], rfl⟩
  | @plain c text _ hbackslash _ ih =>
    obtain ⟨pieces, hpieces⟩ := ih
    exact ⟨.single c :: pieces, by rw [Piece.split?_single hbackslash, hpieces]; rfl⟩
  | @escaped c text _ ih =>
    obtain ⟨pieces, hpieces⟩ := ih
    exact ⟨.pair c :: pieces, by rw [Piece.split?, hpieces]; rfl⟩

/-- To look for a backslash before a quote is to look for their pair: the character behind a pair is
never a quote by itself, so the backslash before a quote never belongs to another pair. -/
lemma QuotedBody.unescapeQuotes_eq {text : List Char} (h : QuotedBody text) {pieces : List Piece}
    (hpieces : Piece.split? text = some pieces) :
    unescapeQuotes text = pieces.flatMap Piece.inRegexp := by
  induction h generalizing pieces with
  | nil =>
    obtain rfl := Option.some.inj hpieces
    rfl
  | @plain c text _ hbackslash _ ih =>
    rw [Piece.split?_single hbackslash, Option.map_eq_some_iff] at hpieces
    obtain ⟨pieces, hrest, rfl⟩ := hpieces
    rw [unescapeQuotes_cons fun hc => absurd hc hbackslash, ih hrest]
    rfl
  | @escaped c text hbody ih =>
    rw [Piece.split?, Option.map_eq_some_iff] at hpieces
    obtain ⟨pieces, hrest, rfl⟩ := hpieces
    rw [List.flatMap_cons, ← ih hrest]
    by_cases hc : c = '\''
    · subst hc
      exact unescapeQuotes_quote text
    · rw [unescapeQuotes_cons (by simpa using hc),
        unescapeQuotes_cons fun _ => hbody.head?_ne_quote]
      simp [Piece.inRegexp, Piece.written, hc]

/-- The text of a token between quotes is one that the closing quote was looked for in. -/
lemma quotedBody_of_mem_readAll {source : String} {t : Token} (h : .ok t ∈ readAll source)
    (hkind : t.kind = .literal ∨ t.kind = .regexp) : QuotedBody t.text.toList := by
  obtain ⟨tokens, rest, last, hitems, hrow, hends⟩ :=
    exists_row (source.toList.length + 1) 0 source.toList (Nat.lt_succ_self _)
  rw [readAll, hitems, List.mem_append, List.mem_singleton] at h
  rcases h with h | h
  · obtain ⟨u, hu, ⟨⟩⟩ := List.mem_map.mp h
    have hwell := hrow.wellFormed t hu
    rcases hkind with hkind | hkind
    · rwa [WellFormed, hkind] at hwell
    · rwa [WellFormed, hkind] at hwell
  · rw [← h] at hends
    cases hends
    simp at hkind

/-! ### Texts with backslashes put in -/

/-- The text with a backslash before every backslash and every quote. -/
def escaped (text : List Char) : List Char :=
  text.flatMap fun c => if c = '\\' ∨ c = '\'' then ['\\', c] else [c]

lemma quotedBody_escaped (text : List Char) : QuotedBody (escaped text) := by
  induction text with
  | nil => exact .nil
  | cons c text ih =>
    rw [escaped, List.flatMap_cons]
    split
    · exact .escaped ih
    · next hc =>
      rw [not_or] at hc
      exact .plain hc.2 hc.1 ih

lemma unescape_escaped (text : List Char) : unescape (escaped text) = text := by
  induction text with
  | nil => rfl
  | cons c text ih =>
    rw [escaped, List.flatMap_cons]
    split
    · next hc =>
      have htext : unescape ('\\' :: c :: escaped text) = c :: text := by
        rw [unescape_pair, ih]
        rcases hc with rfl | rfl
        all_goals rfl
      exact htext
    · next hc =>
      have htext : unescape (c :: escaped text) = c :: text := by
        rw [unescape_single fun h => hc (Or.inl h), ih]
      exact htext

/-- A grammar text that defines one rule, as a literal for the string. -/
def literalDefinition (s : String) : String :=
  "r <- '" ++ String.ofList (escaped s.toList) ++ "'"

/-- The tokens of such a text, but for its end. -/
def literalTokens (s : String) : List Token :=
  [⟨.identifier, "r", 0⟩, ⟨.whitespace, " ", 1⟩, ⟨.assignment, "<-", 2⟩, ⟨.whitespace, " ", 4⟩,
    ⟨.literal, String.ofList (escaped s.toList), 5⟩]

lemma readAll_literalDefinition (s : String) :
    readAll (literalDefinition s) = (literalTokens s).map .ok ++
      [.ok ⟨.finish, "", Utf8.size (literalDefinition s).toList⟩] := by
  have hchars : (literalDefinition s).toList = (literalTokens s).flatMap written := by
    simp [literalDefinition, literalTokens, written]
  have hwell : ∀ t ∈ literalTokens s, t.WellFormed := by
    have hr : isIdentifierChar 'r' = true := isIdentifierChar_of_lt (by decide)
    have hbody := quotedBody_escaped s.toList
    simpa [literalTokens, WellFormed, Kind.Admits, hr, isSpaceChar] using hbody
  have hseparate : (literalTokens s).IsChain Separate := by
    simp only [literalTokens, List.isChain_cons_cons, List.isChain_singleton]
    refine ⟨?_, ?_, ?_, ?_, trivial⟩
    all_goals exact ⟨by simp, by simp, by simp⟩
  rw [readAll, hchars, readFrom_written hwell hseparate _ _ (Nat.lt_succ_self _), Nat.zero_add]
  rfl

lemma ofItems_literalDefinition (s : String) :
    (Definitions.ofItems (readAll (literalDefinition s))).result =
      .ok [.literal "r" (Utf8.encode s.toList)] := by
  rw [readAll_literalDefinition]
  have h : (Definitions.ofItems ((literalTokens s).map .ok ++
      [.ok ⟨.finish, "", Utf8.size (literalDefinition s).toList⟩])).result =
      .ok [.literal "r" (Utf8.encode (unescape (String.ofList (escaped s.toList)).toList))] := rfl
  rw [h, String.toList_ofList, unescape_escaped]

end Token

/-! ### What quoted texts stand for -/

lemma Utf8.encode_toList (s : String) : encode s.toList = s.toUTF8.data.toList := by
  rw [String.toUTF8, ← String.utf8Encode_toList]
  simp [encode, List.utf8Encode]

lemma Grammar.ofText_literalDefinition (s : String) :
    (ofText (Token.literalDefinition s) {}).1 =
      .ok { rules := [.literal "r" (Utf8.encode s.toList)]
            root := .literal "r" (Utf8.encode s.toList), options := {} } := by
  have hrules : (readText (Token.literalDefinition s)).definitions.result =
    .ok [.literal "r" (Utf8.encode s.toList)] := Token.ofItems_literalDefinition s
  rw [ofText]
  simp only [hrules]
  rfl

/-- Putting in backslashes and reading a literal are inverse to each other: a text in which there is
a backslash before every backslash and every quote of a string, between quotes, is a literal for
the bytes of the string. All literals are decoded pair by pair, with a character behind every
backslash, and in all regular expressions to put a quote in the place of a backslash and a quote,
wherever they stand, is to change the pairs of a backslash and a quote and no others. -/
theorem quoting_agrees :
    (∀ s : String,
      (Grammar.ofText ("r <- '" ++ String.ofList (Token.escaped s.toList) ++ "'") {}).1 =
        .ok { rules := [.literal "r" s.toUTF8.data.toList]
              root := .literal "r" s.toUTF8.data.toList, options := {} }) ∧
    (∀ (source : String) (t : Token), .ok t ∈ Token.readAll source → t.kind = .literal →
      ∃ pieces, Piece.split? t.text.toList = some pieces ∧
        unescape t.text.toList = pieces.map Piece.character) ∧
    ∀ (source : String) (t : Token), .ok t ∈ Token.readAll source → t.kind = .regexp →
      ∃ pieces, Piece.split? t.text.toList = some pieces ∧
        unescapeQuotes t.text.toList = pieces.flatMap Piece.inRegexp := by
  refine ⟨?_, ?_, ?_⟩
  · intro s
    rw [← Utf8.encode_toList]
    exact Grammar.ofText_literalDefinition s
  · intro source t ht hkind
    have hbody := Token.quotedBody_of_mem_readAll ht (Or.inl hkind)
    obtain ⟨pieces, hpieces⟩ := hbody.exists_pieces
    exact ⟨pieces, hpieces, unescape_of_split? hpieces⟩
  · intro source t ht hkind
    have hbody := Token.quotedBody_of_mem_readAll ht (Or.inr hkind)
    obtain ⟨pieces, hpieces⟩ := hbody.exists_pieces
    exact ⟨pieces, hpieces, hbody.unescapeQuotes_eq hpieces⟩

/-- A literal with a line end in it, and a pattern with a backslash before a quote. -/
theorem quoting_agrees_backslash :
    let source := "r <- 'a\\n' ~'\\\\\\''"
    (.ok ⟨.literal, "a\\n", 5⟩ ∈ Token.readAll source ∧
      .ok ⟨.regexp, "\\\\\\'", 11⟩ ∈ Token.readAll source) ∧
    (∃ pieces, Piece.split? "a\\n".toList = some pieces ∧
      unescape "a\\n".toList = pieces.map Piece.character) ∧
    ∃ pieces, Piece.split? "\\\\\\'".toList = some pieces ∧
      unescapeQuotes "\\\\\\'".toList = pieces.flatMap Piece.inRegexp := by
  intro source
  have hliteral : .ok ⟨.literal, "a\\n", 5⟩ ∈ Token.readAll source := by decide +kernel
  have hregexp : .ok ⟨.regexp, "\\\\\\'", 11⟩ ∈ Token.readAll source := by decide +kernel
  refine ⟨⟨hliteral, hregexp⟩, ?_, ?_⟩
  · exact quoting_agrees.2.1 source _ hliteral rfl
  · exact quoting_agrees.2.2 source _ hregexp rfl

end Peg
