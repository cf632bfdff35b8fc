/-
This file proves that a source can be tokenized line by line. If a text divides into tokens, then
the text with a newline and any further text behind it has the same tokens, without the end token,
and behind them the tokens of the further text, which stand further on by the bytes and lines that
were put in front. Where the further text is refused, so is the whole, at the place that is shifted
in the same way.

Two facts carry the proof. The pieces of a text do not depend on where it begins, so a place that is
shifted shifts whatever comes of the text. And no piece but a run of blanks reaches over a newline
that is put behind it, while a run of blanks can be cut anywhere.
-/

import Parlance.Proofs.Layout
import Parlance.Proofs.Spacing

namespace Parlance

open Text

/-! ### Shifted places -/

/-- The position a number of bytes further on, modulo `2 ^ 32`. -/
def Position.shift (position : Position) (bytes : Nat) : Position :=
  { position with offset := position.offset + bytes.toUInt32 }

/-- The span a number of bytes further on. -/
def Span.shift (span : Span) (bytes : Nat) : Span :=
  ⟨span.start.shift bytes, span.stop.shift bytes⟩

/-- The token a number of bytes and lines further on. -/
def Token.shift (token : Token) (bytes lines : Nat) : Token :=
  { token with line := token.line + lines, span := token.span.shift bytes }

/-- The cause a number of lines further on, which only a string that is never closed can tell. -/
def Cause.shift (cause : Cause) (lines : Nat) : Cause :=
  match cause with
  | unterminated line => unterminated (line + lines)
  | other => other

/-- The fault a number of bytes and lines further on. -/
def Fault.shift (fault : Fault) (bytes lines : Nat) : Fault :=
  ⟨fault.cause.shift lines, fault.position.shift bytes⟩

namespace Place

/-- The place a number of bytes and lines further on. -/
def shift (place : Place) (bytes lines : Nat) : Place :=
  { place with offset := place.offset + bytes, line := place.line + lines }

variable (place : Place) (bytes lines : Nat)

theorem past_eq_shift (text : List Char) :
    place.past text = place.shift (width text) (lineEnds text) := rfl

theorem past_shift (text : List Char) :
    (place.shift bytes lines).past text = (place.past text).shift bytes lines := by
  simp only [past, shift, Nat.add_right_comm]

theorem past_past (text text' : List Char) :
    (place.past text).past text' = place.past (text ++ text') := by
  simp only [past, width_append, lineEnds, List.count_append, Nat.add_assoc]

theorem position_shift : (place.shift bytes lines).position = place.position.shift bytes := by
  rw [position, position, Position.shift, shift]
  exact congrArg (Position.mk · place.file) (UInt32.ofNat_add place.offset bytes)

theorem spanOf_shift (length : Nat) :
    (place.shift bytes lines).spanOf length = (place.spanOf length).shift bytes := by
  have further : (place.shift bytes lines).advance length =
      (place.advance length).shift bytes lines := by
    simp only [advance, shift, Nat.add_right_comm]
  rw [spanOf, spanOf, further, position_shift, position_shift]
  rfl

theorem tokenOf_shift (lexeme : List Char) (kind : Kind) (literal : Option Literal) :
    (place.shift bytes lines).tokenOf lexeme kind literal =
      (place.tokenOf lexeme kind literal).shift bytes lines := by
  rw [tokenOf, tokenOf, spanOf_shift]
  rfl

end Place

/-! ### Pieces do not depend on their place -/

section Shift

variable (place : Place) (bytes lines : Nat)

theorem Obstacle.fault_shift (obstacle : Obstacle) :
    obstacle.fault (place.shift bytes lines) = (obstacle.fault place).shift bytes lines := by
  cases obstacle with
  | unclosed => rw [fault, fault, Place.position_shift]; rfl
  | unknown c => rw [fault, fault, Place.position_shift]; rfl

theorem Cut.token?_eq_error_iff {cut : Cut} {place : Place} {fault : Fault} :
    cut.token? place = .error fault ↔
      ∃ cause, cut.piece.token? cut.lexeme = .error cause ∧ fault = ⟨cause, place.position⟩ := by
  unfold Cut.token?
  cases outcome : cut.piece.token? cut.lexeme with
  | error cause => simp [eq_comm]
  | ok found =>
    match found with
    | none => simp
    | some (kind, literal) => simp

/-- Only a number can be refused as a piece, and its cause tells of no line. -/
theorem Piece.shift_of_token?_eq_error {piece : Piece} {lexeme : List Char} {cause : Cause}
    (refused : piece.token? lexeme = .error cause) : cause.shift lines = cause := by
  cases piece with
  | number =>
    rw [Piece.token?] at refused
    split at refused <;> cases refused
    rfl
  | _ => cases refused

/-- What comes of a text that begins further on. -/
def shiftOutcome (outcome : Except Fault (List Token)) : Except Fault (List Token) :=
  match outcome with
  | .ok tokens => .ok (tokens.map fun token => token.shift bytes lines)
  | .error fault => .error (fault.shift bytes lines)

theorem shiftOutcome_map_cons (token : Token) (outcome : Except Fault (List Token)) :
    shiftOutcome bytes lines (outcome.map (token :: ·)) =
      (shiftOutcome bytes lines outcome).map (token.shift bytes lines :: ·) := by
  cases outcome <;> rfl

/-- A text that begins further on has the same tokens or the same fault, further on. -/
theorem tokensFrom_shift (text : List Char) :
    tokensFrom (place.shift bytes lines) text =
      shiftOutcome bytes lines (tokensFrom place text) := by
  fun_induction tokensFrom place text with
  | case1 place =>
    rw [tokensFrom, Place.spanOf_shift]
    rfl
  | case2 place first rest obstacle failed =>
    rw [tokensFrom]
    split
    · rename_i obstacle' failed'
      rw [failed] at failed'
      cases failed'
      exact congrArg Except.error (obstacle.fault_shift place bytes lines)
    · rename_i found
      rw [failed] at found
      cases found
  | case3 place first rest cut found fault refused =>
    obtain ⟨cause, isPiece, rfl⟩ := Cut.token?_eq_error_iff.mp refused
    rw [tokensFrom_of_front _ found, Cut.token?_eq_error_iff.mpr ⟨cause, isPiece, rfl⟩,
      Place.position_shift, shiftOutcome, Fault.shift,
      Piece.shift_of_token?_eq_error lines isPiece]
  | case4 place first rest cut found skipped inductionHypothesis =>
    rw [tokensFrom_of_front _ found,
      Cut.token?_eq_none_iff.mpr (Cut.token?_eq_none_iff.mp skipped), Place.past_shift]
    exact inductionHypothesis
  | case5 place first rest cut found token isToken inductionHypothesis =>
    obtain ⟨kind, literal, isPiece, rfl⟩ := Cut.token?_eq_some_iff.mp isToken
    rw [tokensFrom_of_front _ found, Cut.token?_eq_some_iff.mpr ⟨kind, literal, isPiece, rfl⟩,
      shiftOutcome_map_cons, ← inductionHypothesis, Place.past_shift, Place.tokenOf_shift]

end Shift

/-! ### A newline behind a text -/

section Newline

variable {place : Place} {piece : Piece} {lexeme after : List Char} (rest : List Char)

theorem tokensFrom_of_skipped (place : Place) (spells : piece.Spells lexeme after)
    (noToken : piece.token? lexeme = .ok none) :
    tokensFrom place (lexeme ++ after) = tokensFrom (place.past lexeme) after := by
  obtain ⟨first, rest, begins, found⟩ := Cut.front_of_spells spells
  rw [begins, tokensFrom_of_front place found, Cut.token?_eq_none_iff.mpr noToken]

theorem tokensFrom_of_token {kind : Kind} {literal : Option Literal} (place : Place)
    (spells : piece.Spells lexeme after)
    (isToken : piece.token? lexeme = .ok (some (kind, literal))) :
    tokensFrom place (lexeme ++ after) =
      (tokensFrom (place.past lexeme) after).map (place.tokenOf lexeme kind literal :: ·) := by
  obtain ⟨first, rest, begins, found⟩ := Cut.front_of_spells spells
  rw [begins, tokensFrom_of_front place found,
    Cut.token?_eq_some_iff.mpr ⟨kind, literal, isToken, rfl⟩]

theorem tokensFrom_takeWhile_blanks {c : Char} (place : Place) (blank : isBlank c = true) :
    tokensFrom place (c :: rest) =
      tokensFrom (place.past (c :: rest.takeWhile isBlank)) (rest.dropWhile isBlank) := by
  have spells : Piece.Spells .blanks (c :: rest.takeWhile isBlank) (rest.dropWhile isBlank) :=
    .blanks blank Cut.mem_takeWhile (stops_dropWhile isBlank rest)
  rw [← tokensFrom_of_skipped place spells rfl, List.cons_append, List.takeWhile_append_dropWhile]

/-- One blank can be cut off from a run of them. -/
theorem tokensFrom_blank {c : Char} (place : Place) (blank : isBlank c = true) :
    tokensFrom place (c :: rest) = tokensFrom (place.past [c]) rest := by
  rw [tokensFrom_takeWhile_blanks rest place blank]
  cases rest with
  | nil => rfl
  | cons next rest =>
    cases blank' : isBlank next with
    | false =>
      rw [List.takeWhile_cons_of_neg (by rw [blank']; decide),
        List.dropWhile_cons_of_neg (by rw [blank']; decide)]
    | true =>
      rw [tokensFrom_takeWhile_blanks rest (place.past [c]) blank', Place.past_past,
        List.takeWhile_cons_of_pos blank', List.dropWhile_cons_of_pos blank']
      rfl

theorem tokensFrom_blanks {blanks : List Char} (place : Place)
    (allBlank : ∀ c ∈ blanks, isBlank c = true) :
    tokensFrom place (blanks ++ rest) = tokensFrom (place.past blanks) rest := by
  induction blanks generalizing place with
  | nil => rfl
  | cons c blanks inductionHypothesis =>
    obtain ⟨blank, allBlank⟩ := List.forall_mem_cons.mp allBlank
    rw [List.cons_append, tokensFrom_blank _ place blank, inductionHypothesis _ allBlank,
      Place.past_past]
    rfl

theorem stops_append_newline {goesOn : Char → Bool} (stops : Stops goesOn after)
    (newline : goesOn '\n' = false) : Stops goesOn (after ++ '\n' :: rest) := by
  cases after with
  | nil => exact stops_cons newline
  | cons c after => exact stops_cons (stops c rfl)

/-- A newline behind the text that follows a piece does not make the piece longer, unless it is a
run of blanks. -/
theorem Piece.Spells.append_newline (spells : piece.Spells lexeme after)
    (notBlanks : piece ≠ .blanks) : piece.Spells lexeme (after ++ '\n' :: rest) := by
  cases spells with
  | blanks => exact absurd rfl notBlanks
  | remark noNewline stops => exact .remark noNewline (stops_append_newline rest stops (by decide))
  | word starts continues stops =>
    exact .word starts continues (stops_append_newline rest stops (by decide))
  | whole digit digits stops noFraction =>
    refine .whole digit digits (stops_append_newline rest stops (by decide)) ?_
    intro c others begins
    -- The point of a fraction may be the last character, and then the newline follows it.
    rcases after with _ | ⟨point, _ | ⟨c', after⟩⟩
    · cases begins
    · cases begins
      decide
    · cases begins
      exact noFraction c after rfl
  | decimal digit digits digit' digits' stops =>
    exact .decimal digit digits digit' digits' (stops_append_newline rest stops (by decide))
  | string isInner => exact .string isInner
  | mark => exact .mark

/-- The tokens of a text stay in front of a newline, and what follows is tokenized from there. -/
theorem Divides.tokensFrom_append_newline {text : List Char} {all tokens : List Token}
    {eof : Token} (divides : Divides place text all) (split : all = tokens ++ [eof]) :
    tokensFrom place (text ++ '\n' :: rest) =
      (tokensFrom (place.past (text ++ ['\n'])) rest).map (tokens ++ ·) := by
  induction divides generalizing tokens with
  | ended =>
    obtain ⟨rfl, -⟩ := List.append_eq_singleton_iff.mp split.symm |>.resolve_right (by simp)
    rw [List.nil_append, List.nil_append, tokensFrom_blank rest _ (by decide)]
    cases tokensFrom _ rest <;> rfl
  | @skipped place all piece lexeme after spells noToken _ inductionHypothesis =>
    rw [List.append_assoc, List.append_assoc, ← Place.past_past, ← inductionHypothesis split]
    by_cases isBlanks : piece = .blanks
    · subst isBlanks
      cases spells with
      | blanks blank allBlank _ =>
        exact tokensFrom_blanks _ _ (List.forall_mem_cons.mpr ⟨blank, allBlank⟩)
    · exact tokensFrom_of_skipped place (spells.append_newline rest isBlanks) noToken
  | @token place all kind literal piece lexeme after spells isToken divides inductionHypothesis =>
    have notBlanks : piece ≠ .blanks := by
      rintro rfl
      cases isToken
    have first := tokensFrom_of_token place (spells.append_newline rest notBlanks) isToken
    cases tokens with
    | nil => exact absurd (List.cons.inj split).2 divides.ne_nil
    | cons token tokens =>
      obtain ⟨rfl, remaining⟩ := List.cons.inj split
      rw [List.append_assoc, List.append_assoc, ← Place.past_past, first,
        inductionHypothesis remaining]
      cases tokensFrom _ rest <;> rfl

/-- The end token is the last one, and the only one of its kind. -/
theorem Divides.exists_eof {text : List Char} {all : List Token}
    (divides : Divides place text all) :
    ∃ tokens eof, all = tokens ++ [eof] ∧ eof.kind = .eof ∧
      ∀ token ∈ tokens, token.kind ≠ .eof := by
  induction divides with
  | ended => exact ⟨[], _, rfl, rfl, fun _ member => absurd member List.not_mem_nil⟩
  | skipped _ _ _ inductionHypothesis => exact inductionHypothesis
  | token _ isToken _ inductionHypothesis =>
    obtain ⟨tokens, eof, rfl, isEof, others⟩ := inductionHypothesis
    have first := (Piece.kind_of_token? isToken).1
    exact ⟨_ :: tokens, eof, rfl, isEof, List.forall_mem_cons.mpr ⟨first, others⟩⟩

end Newline

/-! ### Sources -/

/-- A source with a newline and another source behind it is tokenized as the other one is. Its
tokens are those of the first source without the end token and behind them those of the other one,
and if it has a fault it is that of the other one, both shifted by the bytes and lines in front. -/
theorem tokenize_append_newline {source file : String} {tokens : List Token}
    (done : tokenize source file = .ok tokens) (more : String) :
    ∃ before eof, tokens = before ++ [eof] ∧ eof.kind = .eof ∧
      (∀ token ∈ before, token.kind ≠ .eof) ∧
      tokenize (source ++ "\n" ++ more) file =
        match tokenize more file with
        | .ok behind => .ok (before ++ behind.map fun token =>
            token.shift (width source.toList + 1) (1 + lineEnds source.toList))
        | .error fault =>
          .error (fault.shift (width source.toList + 1) (1 + lineEnds source.toList)) := by
  have divides := tokenize_eq_ok_iff.mp done
  obtain ⟨before, eof, split, isEof, others⟩ := divides.exists_eof
  refine ⟨before, eof, split, isEof, others, ?_⟩
  have whole : (source ++ "\n" ++ more).toList = source.toList ++ '\n' :: more.toList := by
    simp
  have front : ({ file } : Place).past (source.toList ++ ['\n']) =
      ({ file } : Place).shift (width source.toList + 1) (1 + lineEnds source.toList) := by
    rw [Place.past_eq_shift, width_append, lineEnds, List.count_append, Nat.add_comm 1]
    rfl
  rw [tokenize, whole, divides.tokensFrom_append_newline more.toList split, front,
    tokensFrom_shift]
  show Except.map _ (shiftOutcome _ _ (tokenize more file)) = _
  cases tokenize more file <;> rfl

/-- Whether a source has a certain fault can be decided. -/
theorem tokenize_of_fault {source file : String} {fault : Fault}
    (found : (match tokenize source file with
      | .error fault => some fault
      | .ok _ => none) = some fault) :
    tokenize source file = .error fault := by
  cases outcome : tokenize source file with
  | error fault' =>
    rw [outcome] at found
    cases found
    rfl
  | ok tokens =>
    rw [outcome] at found
    cases found

/-- A remark in front of the newline, and behind it a string over two lines and one that is never
closed. -/
theorem tokenize_append_newline_unclosed :
    tokenize "x // —\n" "f" = .ok ([⟨.identifier, "x", none, 1, ⟨⟨0, "f"⟩, ⟨1, "f"⟩⟩⟩] ++
        [Token.eof 2 ⟨⟨9, "f"⟩, ⟨9, "f"⟩⟩]) ∧
      tokenize "\"a\n\" \"" "f" = .error ⟨.unterminated 2, ⟨5, "f"⟩⟩ ∧
      tokenize ("x // —\n" ++ "\n" ++ "\"a\n\" \"") "f" =
        .error ⟨.unterminated 4, ⟨15, "f"⟩⟩ := by
  have done : tokenize "x // —\n" "f" = .ok ([⟨.identifier, "x", none, 1, ⟨⟨0, "f"⟩, ⟨1, "f"⟩⟩⟩] ++
      [Token.eof 2 ⟨⟨9, "f"⟩, ⟨9, "f"⟩⟩]) := tokenize_of_toOption (by decide +kernel)
  have refused : tokenize "\"a\n\" \"" "f" = .error ⟨.unterminated 2, ⟨5, "f"⟩⟩ :=
    tokenize_of_fault (by decide +kernel)
  obtain ⟨before, eof, -, -, -, same⟩ := tokenize_append_newline done "\"a\n\" \""
  rw [refused] at same
  exact ⟨done, refused, same⟩

end Parlance
