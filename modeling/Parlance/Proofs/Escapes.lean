/-
This file proves that every text can be written as a string of a source, and that reading the string
gives the text back. A text is written character by character, and six characters have a pair that
can be written in their place; only the quote and the backslash need theirs. What stands between the
quotes of a string is found and decoded separately, by two walks that must agree on which backslash
takes which character with it. They do: what is found are characters and pairs, and the decoder
meets the same ones, so that it never comes to a backslash with nothing behind it.
-/

import Parlance.Proofs.Spelling

namespace Parlance

namespace Text

/-! ### Pairs of a backslash and a letter -/

/-- The letters that have a meaning behind a backslash, each with the character it stands for. -/
def escapes : List (Char × Char) :=
  [('n', '\n'), ('t', '\t'), ('r', '\r'), ('0', '\x00'), ('\\', '\\'), ('"', '"')]

theorem mem_escapes_iff {letter c : Char} :
    (letter, c) ∈ escapes ↔ ofEscapeLetter? letter = some c := by
  constructor
  · intro member
    have all : ∀ pair ∈ escapes, ofEscapeLetter? pair.1 = some pair.2 := by decide
    exact all _ member
  · intro found
    unfold ofEscapeLetter? at found
    split at found <;> cases found <;> decide

/-- A text is written between quotes: each character stands for itself, unless it is a quote or a
backslash, or is replaced by its pair. -/
inductive Writes : (text inner : List Char) → Prop
  | nil : Writes [] []
  | plain {c text inner} : c ≠ '"' → c ≠ '\\' → Writes text inner → Writes (c :: text) (c :: inner)
  | escape {letter c text inner} : (letter, c) ∈ escapes → Writes text inner →
      Writes (c :: text) ('\\' :: letter :: inner)

/-- What stands between quotes denotes a text: a pair that has a meaning stands for its character,
and every other pair and every character that is in no pair is kept. -/
inductive Decodes : (inner text : List Char) → Prop
  | nil : Decodes [] []
  | plain {c inner text} : c ≠ '"' → c ≠ '\\' → Decodes inner text →
      Decodes (c :: inner) (c :: text)
  | escape {letter c inner text} : (letter, c) ∈ escapes → Decodes inner text →
      Decodes ('\\' :: letter :: inner) (c :: text)
  | kept {letter inner text} : (∀ c, (letter, c) ∉ escapes) → letter ≠ '\n' → Decodes inner text →
      Decodes ('\\' :: letter :: inner) ('\\' :: letter :: text)

variable {text inner : List Char}

/-- Every text can be written between quotes. -/
theorem exists_writes (text : List Char) : ∃ inner, Writes text inner := by
  induction text with
  | nil => exact ⟨[], .nil⟩
  | cons c text inductionHypothesis =>
    obtain ⟨inner, writes⟩ := inductionHypothesis
    by_cases quote : c = '"'
    · subst quote
      exact ⟨_, .escape (mem_escapes_iff.mpr rfl : ('"', _) ∈ escapes) writes⟩
    by_cases backslash : c = '\\'
    · subst backslash
      exact ⟨_, .escape (mem_escapes_iff.mpr rfl : ('\\', _) ∈ escapes) writes⟩
    · exact ⟨_, .plain quote backslash writes⟩

/-- What was written denotes the text. -/
theorem Writes.decodes (writes : Writes text inner) : Decodes inner text := by
  induction writes with
  | nil => exact .nil
  | plain notQuote notBackslash _ inductionHypothesis =>
    exact .plain notQuote notBackslash inductionHypothesis
  | escape isEscape _ inductionHypothesis => exact .escape isEscape inductionHypothesis

/-! ### The decoder -/

/-- The text that a string denotes, given what stands between its quotes, where a backslash at the
end with no character behind it is refused. -/
def decodedPairs? : List Char → Option (List Char)
  | [] => some []
  | ['\\'] => none
  | '\\' :: letter :: rest =>
    match ofEscapeLetter? letter with
    | some c => (decodedPairs? rest).map (c :: ·)
    | none => (decodedPairs? rest).map ('\\' :: letter :: ·)
  | c :: rest => (decodedPairs? rest).map (c :: ·)

/-- Where no backslash is refused, the decoder gives the same text. -/
theorem decoded_of_decodedPairs? (found : decodedPairs? inner = some text) :
    decoded inner = text := by
  fun_induction decodedPairs? inner generalizing text with
  | case1 =>
    cases found
    rfl
  | case2 => cases found
  | case3 letter rest c isEscape inductionHypothesis =>
    obtain ⟨text', found', rfl⟩ := Option.map_eq_some_iff.mp found
    rw [decoded, isEscape, inductionHypothesis found']
  | case4 letter rest noEscape inductionHypothesis =>
    obtain ⟨text', found', rfl⟩ := Option.map_eq_some_iff.mp found
    rw [decoded, noEscape, inductionHypothesis found']
  | case5 c rest notLast notPair inductionHypothesis =>
    obtain ⟨text', found', rfl⟩ := Option.map_eq_some_iff.mp found
    rw [decoded, inductionHypothesis found']
    · exact notLast
    · exact notPair

namespace Decodes

/-- The decoder reads what stands between quotes pair by pair, and refuses no backslash. -/
theorem decodedPairs?_eq (decodes : Decodes inner text) : decodedPairs? inner = some text := by
  induction decodes with
  | nil => rfl
  | plain _ notBackslash _ inductionHypothesis =>
    rw [decodedPairs?, inductionHypothesis]
    · rfl
    · exact fun isBackslash => absurd isBackslash notBackslash
    · exact fun _ _ isBackslash => absurd isBackslash notBackslash
  | escape isEscape _ inductionHypothesis =>
    rw [decodedPairs?, mem_escapes_iff.mp isEscape, inductionHypothesis]
    rfl
  | @kept letter _ _ noEscape _ _ inductionHypothesis =>
    have unknown : ofEscapeLetter? letter = none :=
      Option.eq_none_iff_forall_ne_some.mpr fun c found => noEscape c (mem_escapes_iff.mpr found)
    rw [decodedPairs?, unknown, inductionHypothesis]
    rfl

theorem decoded_eq (decodes : Decodes inner text) : decoded inner = text :=
  decoded_of_decodedPairs? decodes.decodedPairs?_eq

/-- What denotes a text can stand between quotes. -/
theorem isInner (decodes : Decodes inner text) : Inner inner := by
  induction decodes with
  | nil => exact .nil
  | plain notQuote notBackslash _ inductionHypothesis =>
    exact .plain notQuote notBackslash inductionHypothesis
  | escape isEscape _ inductionHypothesis =>
    -- No letter that has a meaning is a newline.
    refine .pair ?_ inductionHypothesis
    rintro rfl
    cases mem_escapes_iff.mp isEscape
  | kept _ notNewline _ inductionHypothesis => exact .pair notNewline inductionHypothesis

end Decodes

end Text

open Text

/-- Whatever can stand between quotes denotes a text. -/
theorem Inner.exists_decodes {inner : List Char} (isInner : Inner inner) :
    ∃ text, Decodes inner text := by
  induction isInner with
  | nil => exact ⟨[], .nil⟩
  | plain notQuote notBackslash _ inductionHypothesis =>
    obtain ⟨text, decodes⟩ := inductionHypothesis
    exact ⟨_, .plain notQuote notBackslash decodes⟩
  | @pair letter _ notNewline _ inductionHypothesis =>
    obtain ⟨text, decodes⟩ := inductionHypothesis
    by_cases known : ∃ c, (letter, c) ∈ escapes
    · obtain ⟨c, isEscape⟩ := known
      exact ⟨_, .escape isEscape decodes⟩
    · exact ⟨_, .kept (not_exists.mp known) notNewline decodes⟩

/-! ### Strings of a source -/

theorem Text.width_quotes (inner : List Char) :
    width ('"' :: (inner ++ ['"'])) = width inner + 2 := by
  have quote : '"'.utf8Size = 1 := by decide
  simp only [width_cons, width_append, width_nil, quote]
  omega

/-- A text between quotes is one string, which denotes what it decodes to. -/
theorem Text.Decodes.tokenize_eq {inner : List Char} {text : String}
    (decodes : Decodes inner text.toList) (file : String) :
    tokenize (String.ofList ('"' :: (inner ++ ['"']))) file = .ok
      [⟨.string, String.ofList ('"' :: (inner ++ ['"'])), some (.string text), 1,
          ⟨⟨0, file⟩, ⟨(width inner + 2).toUInt32, file⟩⟩⟩,
        Token.eof (1 + lineEnds inner)
          ⟨⟨(width inner + 2).toUInt32, file⟩, ⟨(width inner + 2).toUInt32, file⟩⟩] := by
  have spells : Piece.Spells (.string inner) ('"' :: (inner ++ ['"'])) [] :=
    .string decodes.isInner
  have divides : Divides { file } ('"' :: (inner ++ ['"']) ++ []) _ := .token spells rfl .ended
  have quotes := width_quotes inner
  have lines : lineEnds ('"' :: (inner ++ ['"'])) = lineEnds inner := by
    simp [lineEnds]
  rw [List.append_nil, ← String.toList_ofList (l := '"' :: (inner ++ ['"']))] at divides
  rw [tokenize_eq_ok_iff.mpr divides]
  simp [Place.tokenOf, Place.spanOf, Place.advance, Place.position, Place.past,
    decodes.decoded_eq, quotes, lines]

/-- A string token is spelled as a string. -/
theorem Piece.eq_string_of_token? {piece : Piece} {lexeme : List Char} {literal : Option Literal}
    (isToken : piece.token? lexeme = .ok (some (.string, literal))) :
    ∃ inner, piece = .string inner ∧ literal = some (.string (String.ofList (decoded inner))) := by
  cases piece with
  | string inner =>
    cases isToken
    exact ⟨inner, rfl, rfl⟩
  | word =>
    have notString : Kind.ofWord (String.ofList lexeme) ≠ .string := by
      unfold Kind.ofWord
      split <;> simp
    simp only [Piece.token?, Except.ok.injEq, Option.some.injEq, Prod.mk.injEq] at isToken
    exact absurd isToken.1 notString
  | number =>
    rw [Piece.token?] at isToken
    split at isToken <;> cases isToken
  | _ => cases isToken

/-- A string token has quotes around it, and denotes what stands between them. -/
theorem Divides.exists_inner {place : Place} {text : List Char} {tokens : List Token}
    (divides : Divides place text tokens) :
    ∀ token ∈ tokens, token.kind = .string → ∃ inner, Inner inner ∧
      token.value.toList = '"' :: (inner ++ ['"']) ∧
      token.literal = some (.string (String.ofList (decoded inner))) := by
  induction divides with
  | ended =>
    intro token member isString
    rw [List.mem_singleton.mp member] at isString
    cases isString
  | skipped _ _ _ inductionHypothesis => exact inductionHypothesis
  | @token place _ kind literal piece lexeme _ spells isToken _ inductionHypothesis =>
    refine List.forall_mem_cons.mpr ⟨fun isString => ?_, inductionHypothesis⟩
    have isString : kind = .string := isString
    subst isString
    obtain ⟨inner, rfl, isLiteral⟩ := Piece.eq_string_of_token? isToken
    rw [place.toList_value_tokenOf]
    cases spells with
    | string isInner => exact ⟨inner, isInner, rfl, isLiteral⟩

/-- Every text can be written as a string, and reading the string undoes the writing: whichever of
its characters are written as pairs, the quoted text is one token, which denotes the text. And every
string of a source is such a token: characters and pairs stand between its quotes, and it denotes
what they decode to. No backslash is left over for the decoder. -/
theorem tokenize_strings :
    (∀ text : String, ∃ inner, Writes text.toList inner) ∧
    (∀ (text : String) (inner : List Char) (file : String), Writes text.toList inner →
      tokenize (String.ofList ('"' :: (inner ++ ['"']))) file = .ok
        [⟨.string, String.ofList ('"' :: (inner ++ ['"'])), some (.string text), 1,
            ⟨⟨0, file⟩, ⟨(width inner + 2).toUInt32, file⟩⟩⟩,
          Token.eof (1 + lineEnds inner)
            ⟨⟨(width inner + 2).toUInt32, file⟩, ⟨(width inner + 2).toUInt32, file⟩⟩]) ∧
    (∀ (source file : String) (tokens : List Token), tokenize source file = .ok tokens →
      ∀ token ∈ tokens, token.kind = .string → ∃ (inner : List Char) (text : String),
        token.value.toList = '"' :: (inner ++ ['"']) ∧ token.literal = some (.string text) ∧
        Decodes inner text.toList ∧ decoded inner = text.toList ∧
        decodedPairs? inner = some text.toList) := by
  refine ⟨fun text => exists_writes text.toList, fun text inner file writes => ?_, ?_⟩
  · exact writes.decodes.tokenize_eq file
  · intro source file tokens done token member isString
    obtain ⟨inner, isInner, value, literal⟩ :=
      (tokenize_eq_ok_iff.mp done).exists_inner token member isString
    obtain ⟨text, decodes⟩ := isInner.exists_decodes
    rw [decodes.decoded_eq] at literal
    refine ⟨inner, String.ofList text, value, literal, ?_, ?_, ?_⟩
    · rwa [String.toList_ofList]
    · rw [decodes.decoded_eq, String.toList_ofList]
    · rw [decodes.decodedPairs?_eq, String.toList_ofList]

/-- A quote, a backslash, a newline that is written as it is, an em-dash of three bytes and a zero
that is written as a pair; and a string of a pair without a meaning and an escaped backslash, behind
which the quote is no longer escaped. -/
theorem tokenize_strings_pairs :
    tokenize "\"\\\"\\\\\n—\\0\"" "f" = .ok
      [⟨.string, "\"\\\"\\\\\n—\\0\"", some (.string "\"\\\n—\x00"), 1, ⟨⟨0, "f"⟩, ⟨12, "f"⟩⟩⟩,
        Token.eof 2 ⟨⟨12, "f"⟩, ⟨12, "f"⟩⟩] ∧
    tokenize "\"\\q\\\\\"" "f" = .ok
      [⟨.string, "\"\\q\\\\\"", some (.string "\\q\\"), 1, ⟨⟨0, "f"⟩, ⟨6, "f"⟩⟩⟩,
        Token.eof 1 ⟨⟨6, "f"⟩, ⟨6, "f"⟩⟩] ∧
    Decodes ['\\', 'q', '\\', '\\'] "\\q\\".toList := by
  have writes : Writes "\"\\\n—\x00".toList ['\\', '"', '\\', '\\', '\n', '—', '\\', '0'] :=
    .escape (by decide) (.escape (by decide) (.plain (by decide) (by decide)
      (.plain (by decide) (by decide) (.escape (by decide) .nil))))
  have done : tokenize "\"\\q\\\\\"" "f" = .ok
      [⟨.string, "\"\\q\\\\\"", some (.string "\\q\\"), 1, ⟨⟨0, "f"⟩, ⟨6, "f"⟩⟩⟩,
        Token.eof 1 ⟨⟨6, "f"⟩, ⟨6, "f"⟩⟩] := tokenize_of_toOption (by decide +kernel)
  have written := tokenize_strings.2.1 _ _ "f" writes
  have source : String.ofList ('"' :: (['\\', '"', '\\', '\\', '\n', '—', '\\', '0'] ++ ['"'])) =
      "\"\\\"\\\\\n—\\0\"" := by decide
  rw [source] at written
  obtain ⟨inner, text, value, literal, decodes, -, -⟩ :=
    tokenize_strings.2.2 _ _ _ done _ List.mem_cons_self rfl
  have quoted : ['\\', 'q', '\\', '\\'] ++ ['"'] = inner ++ ['"'] := (List.cons.inj value).2
  obtain rfl := List.append_cancel_right quoted
  obtain rfl := Literal.string.inj (Option.some.inj literal)
  exact ⟨written, done, decodes⟩

end Parlance
