/-
This file says which sources are refused, and where. A source is divided up to the first text that
no piece can be cut from, and this text is located: the source in front of it has tokens of its own,
because no piece becomes another one when what stands behind it is taken away. What stands there is
a character with which no piece begins, or the quote of a string that is not closed. A number is
never refused, as every text that is cut off as a number denotes one.
-/

import Parlance.Proofs.Concatenation

namespace Parlance

open Text

/-! ### Numbers are never refused -/

theorem toLower_of_isDigit {c : Char} (digit : c.isDigit = true) : c.toLower = c := by
  have inside := toNat_of_isDigit digit
  have notUpper : ¬ (c.val ≥ 'A'.val ∧ c.val ≤ 'Z'.val) := by
    rintro ⟨low, -⟩
    have low : 65 ≤ c.toNat := low
    omega
  exact dif_neg notUpper

theorem splitSign_of_isDigit {first : Char} (digit : first.isDigit = true) (rest : List Char) :
    splitSign (first :: rest) = (false, first :: rest) := by
  unfold splitSign
  split
  · rename_i same
    cases same
    cases digit
  · rename_i same
    cases same
    cases digit
  · rfl

theorem ofList_toLower_ne {first c : Char} {more : List Char} (digit : first.isDigit = true)
    (rest : List Char) (word : String) (begins : word.toList = c :: more)
    (noDigit : c.isDigit = false) :
    String.ofList ((first :: rest).map Char.toLower) ≠ word := by
  rintro rfl
  rw [String.toList_ofList, List.map_cons, toLower_of_isDigit digit] at begins
  obtain ⟨rfl, -⟩ := List.cons.inj begins
  rw [noDigit] at digit
  cases digit

/-- What begins with a digit is read as a numeral, without a sign. -/
theorem Number.ofText?_of_isDigit {first : Char} (digit : first.isDigit = true)
    (rest : List Char) :
    ofText? (first :: rest) =
      (Numeral.ofText? (first :: rest)).map fun numeral => .signed false numeral.magnitude := by
  have notNan := ofList_toLower_ne digit rest "nan" rfl rfl
  have notInf := ofList_toLower_ne digit rest "inf" rfl rfl
  have notInfinity := ofList_toLower_ne digit rest "infinity" rfl rfl
  rw [ofText?, splitSign_of_isDigit digit]
  simp only [notNan, notInf, notInfinity, decide_false, Bool.or_self, Bool.false_eq_true, if_false]

theorem Numeral.ofText?_of_digits {digits : List Char} (notEmpty : digits ≠ [])
    (inside : ∀ c ∈ digits, c.isDigit = true) : ofText? digits = some ⟨natOfDigits digits, 0⟩ := by
  have whole := takeWhile_append inside stops_nil
  have behind := dropWhile_append inside stops_nil
  rw [List.append_nil] at whole behind
  simp [ofText?, whole, behind, notEmpty, exponentOf?]

theorem Numeral.ofText?_of_point {whole decimals : List Char} (notEmpty : whole ≠ [])
    (inside : ∀ c ∈ whole, c.isDigit = true) (inside' : ∀ c ∈ decimals, c.isDigit = true) :
    ofText? (whole ++ '.' :: decimals) =
      some ⟨natOfDigits (whole ++ decimals), -decimals.length⟩ := by
  have point : Stops Char.isDigit ('.' :: decimals) := stops_cons rfl
  have fraction := takeWhile_append inside' stops_nil
  have behind := dropWhile_append inside' stops_nil
  rw [List.append_nil] at fraction behind
  simp [ofText?, takeWhile_append inside point, dropWhile_append inside point, fraction, behind,
    notEmpty, exponentOf?]

/-- What is spelled like a number denotes one. -/
theorem Piece.Spells.exists_number {lexeme after : List Char}
    (spells : Piece.number.Spells lexeme after) :
    ∃ number, Number.ofText? lexeme = some number := by
  cases spells with
  | whole digit digits _ _ =>
    have numeral := Numeral.ofText?_of_digits (List.cons_ne_nil _ _)
      (List.forall_mem_cons.mpr ⟨digit, digits⟩)
    rw [Number.ofText?_of_isDigit digit, numeral]
    exact ⟨_, rfl⟩
  | decimal digit digits digit' digits' _ =>
    have numeral := Numeral.ofText?_of_point (List.cons_ne_nil _ _)
      (List.forall_mem_cons.mpr ⟨digit, digits⟩) (List.forall_mem_cons.mpr ⟨digit', digits'⟩)
    rw [Number.ofText?_of_isDigit digit, ← List.cons_append, numeral]
    exact ⟨_, rfl⟩

/-- A piece in its spelling is never refused. -/
theorem Piece.Spells.token?_ne_error {piece : Piece} {lexeme after : List Char}
    (spells : piece.Spells lexeme after) (cause : Cause) : piece.token? lexeme ≠ .error cause := by
  intro refused
  cases piece with
  | number =>
    obtain ⟨number, denotes⟩ := spells.exists_number
    rw [Piece.token?, denotes] at refused
    cases refused
  | _ => cases refused

/-! ### Less text behind a piece -/

theorem Text.Stops.of_append {goesOn : Char → Bool} {text more : List Char}
    (stops : Stops goesOn (text ++ more)) : Stops goesOn text := by
  cases text with
  | nil => exact stops_nil
  | cons c text => exact stops_cons (stops c rfl)

/-- A piece stays as it is when the end of the text behind it is taken away. -/
theorem Piece.Spells.of_append {piece : Piece} {lexeme after more : List Char}
    (spells : piece.Spells lexeme (after ++ more)) : piece.Spells lexeme after := by
  cases spells with
  | blanks blank allBlank stops => exact .blanks blank allBlank stops.of_append
  | remark noNewline stops => exact .remark noNewline stops.of_append
  | word starts continues stops => exact .word starts continues stops.of_append
  | whole digit digits stops noFraction =>
    refine .whole digit digits stops.of_append fun c rest begins => ?_
    -- A fraction that begins in the part that is left begins in the whole text, too.
    subst begins
    exact noFraction c (rest ++ more) rfl
  | decimal digit digits digit' digits' stops =>
    exact .decimal digit digits digit' digits' stops.of_append
  | string isInner => exact .string isInner
  | mark => exact .mark

/-! ### Obstacles -/

/-- A text behind an opening quote in which no closing quote is reached: before one could be, the
text ends, or ends in a backslash, or a backslash stands in front of a newline. -/
inductive Unclosed : List Char → Prop
  | ended {inner} : Inner inner → Unclosed inner
  | cut {inner} : Inner inner → Unclosed (inner ++ ['\\'])
  | broken {inner} (rest : List Char) : Inner inner → Unclosed (inner ++ '\\' :: '\n' :: rest)

namespace Unclosed

variable {c : Char} {rest : List Char}

theorem plain (notQuote : c ≠ '"') (notBackslash : c ≠ '\\') (unclosed : Unclosed rest) :
    Unclosed (c :: rest) := by
  cases unclosed with
  | ended isInner => exact .ended (.plain notQuote notBackslash isInner)
  | cut isInner => exact .cut (.plain notQuote notBackslash isInner)
  | broken rest isInner => exact .broken rest (.plain notQuote notBackslash isInner)

theorem pair (notNewline : c ≠ '\n') (unclosed : Unclosed rest) :
    Unclosed ('\\' :: c :: rest) := by
  cases unclosed with
  | ended isInner => exact .ended (.pair notNewline isInner)
  | cut isInner => exact .cut (.pair notNewline isInner)
  | broken rest isInner => exact .broken rest (.pair notNewline isInner)

end Unclosed

namespace Cut

theorem unclosed_of_closing? {text : List Char} (notClosed : closing? text = none) :
    Unclosed text := by
  fun_induction closing? text with
  | case1 => exact .ended .nil
  | case2 => exact .cut .nil
  | case3 rest => exact .broken rest .nil
  | case4 c rest notNewline inductionHypothesis =>
    exact .pair notNewline (inductionHypothesis (Option.map_eq_none_iff.mp notClosed))
  | case5 => cases notClosed
  | case6 c rest notLast notPair notQuote inductionHypothesis =>
    refine .plain notQuote (fun isBackslash => ?_)
      (inductionHypothesis (Option.map_eq_none_iff.mp notClosed))
    cases rest with
    | nil => exact notLast isBackslash rfl
    | cons c' rest => exact notPair c' rest isBackslash rfl

theorem closing?_inner_append {inner stop : List Char} (isInner : Inner inner)
    (notClosed : closing? stop = none) : closing? (inner ++ stop) = none := by
  induction isInner with
  | nil => exact notClosed
  | plain notQuote notBackslash _ inductionHypothesis =>
    rw [List.cons_append, closing?, if_neg notQuote, inductionHypothesis]
    · rfl
    · exact fun isBackslash => absurd isBackslash notBackslash
    · exact fun _ _ isBackslash => absurd isBackslash notBackslash
  | pair notNewline _ inductionHypothesis =>
    rw [List.cons_append, List.cons_append, closing?, if_neg notNewline, inductionHypothesis]
    rfl

/-- No closing quote is found exactly where none is reached. -/
theorem closing?_eq_none_iff {text : List Char} : closing? text = none ↔ Unclosed text := by
  refine ⟨unclosed_of_closing?, fun unclosed => ?_⟩
  cases unclosed with
  | ended isInner =>
    rw [← List.append_nil text]
    exact closing?_inner_append isInner rfl
  | cut isInner => exact closing?_inner_append isInner rfl
  | broken rest isInner => exact closing?_inner_append isInner rfl

end Cut

/-- No piece begins with a character, given the text behind it. -/
structure BeginsNoPiece (c : Char) (back : List Char) : Prop where
  notBlank : isBlank c = false
  notWord : c.isAlphanum = false ∧ c ≠ '_'
  notQuote : c ≠ '"'
  notMark : c ∉ ['—', ',', ':', '.', ';', '&']
  notRemark : c = '/' → back.head? ≠ some '/'

theorem Mark.ne_of_ofChar? {c : Char} (noMark : ofChar? c = none) :
    c ∉ ['—', ',', ':', '.', ';', '&'] := by
  intro member
  simp only [List.mem_cons, List.not_mem_nil, or_false] at member
  rcases member with rfl | rfl | rfl | rfl | rfl | rfl <;> cases noMark

/-- What stands where no piece can be cut off. -/
inductive Obstacle.Stands : Obstacle → (c : Char) → (back : List Char) → Prop
  | unknown {c back} : BeginsNoPiece c back → Stands (.unknown c) c back
  | unclosed {back} : Unclosed back → Stands .unclosed '"' back

theorem Cut.stands_of_front {c : Char} {back : List Char} {obstacle : Obstacle}
    (failed : front c back = .error obstacle) : obstacle.Stands c back := by
  unfold front at failed
  split at failed
  · cases failed
  rename_i notStart
  split at failed
  · cases failed
  rename_i notDigit
  split at failed
  · cases failed
  rename_i notBlank
  split at failed
  · rename_i quote
    subst quote
    split at failed
    · cases failed
    · rename_i notClosed
      cases failed
      exact .unclosed (closing?_eq_none_iff.mp notClosed)
  rename_i notQuote
  split at failed
  · cases failed
  rename_i notRemark
  split at failed
  · cases failed
  rename_i noMark
  cases failed
  have notWord : continuesWord c = false := by
    rw [continuesWord_eq, Bool.eq_false_iff.mpr notStart, Bool.eq_false_iff.mpr notDigit]
    rfl
  rw [continuesWord, Bool.or_eq_false_iff, decide_eq_false_iff_not] at notWord
  rw [Bool.and_eq_true, decide_eq_true_eq, decide_eq_true_eq] at notRemark
  exact .unknown ⟨Bool.eq_false_iff.mpr notBlank, notWord, notQuote, Mark.ne_of_ofChar? noMark,
    fun slash second => notRemark ⟨slash, second⟩⟩

/-! ### Sources -/

/-- A piece in front of a text that has tokens gives a text that has tokens. -/
theorem exists_tokensFrom_append {place : Place} {piece : Piece} {lexeme after : List Char}
    (spells : piece.Spells lexeme after)
    (done : ∃ tokens, tokensFrom (place.past lexeme) after = .ok tokens) :
    ∃ tokens, tokensFrom place (lexeme ++ after) = .ok tokens := by
  obtain ⟨tokens, done⟩ := done
  match outcome : piece.token? lexeme with
  | .error cause => exact absurd outcome (spells.token?_ne_error cause)
  | .ok none => exact ⟨tokens, (tokensFrom_of_skipped place spells outcome).trans done⟩
  | .ok (some (kind, literal)) =>
    have first := tokensFrom_of_token place spells outcome
    rw [done] at first
    exact ⟨_, first⟩

/-- A text that begins at a place has an obstacle, which is its fault, and what stands in front of
the obstacle has tokens. -/
inductive RefusedWith (place : Place) (fault : Fault) : List Char → Prop
  | intro {front c back obstacle} : (∃ tokens, tokensFrom place front = .ok tokens) →
      Obstacle.Stands obstacle c back → fault = obstacle.fault (place.past front) →
      RefusedWith place fault (front ++ c :: back)

/-- A piece in front of a refused text does not change what is wrong with it. The piece is the same
one in front of the part that has tokens. -/
theorem RefusedWith.piece_append {place : Place} {piece : Piece} {lexeme after : List Char}
    {fault : Fault} (spells : piece.Spells lexeme after)
    (refused : RefusedWith (place.past lexeme) fault after) :
    RefusedWith place fault (lexeme ++ after) := by
  cases refused with
  | intro done stands isFault =>
    rw [← List.append_assoc]
    refine .intro (exists_tokensFrom_append spells.of_append done) stands ?_
    rw [isFault, Place.past_past]

theorem refusedWith_of_tokensFrom {place : Place} {text : List Char} {fault : Fault}
    (refused : tokensFrom place text = .error fault) : RefusedWith place fault text := by
  fun_induction tokensFrom place text with
  | case1 => cases refused
  | case2 place first rest obstacle failed =>
    cases refused
    have nothing : ∃ tokens, tokensFrom place [] = .ok tokens := ⟨_, by rw [tokensFrom]⟩
    exact .intro nothing (Cut.stands_of_front failed) rfl
  | case3 place first rest cut found fault' failed =>
    -- Here a number would be refused, but every lexeme that is cut off as one denotes a number.
    obtain ⟨cause, isPiece, -⟩ := Cut.token?_eq_error_iff.mp failed
    exact absurd isPiece ((Cut.spells_of_front found).token?_ne_error cause)
  | case4 place first rest cut found _ inductionHypothesis =>
    rw [← Cut.lexeme_append_rest found]
    exact (inductionHypothesis refused).piece_append (Cut.spells_of_front found)
  | case5 place first rest cut found token _ inductionHypothesis =>
    rw [← Cut.lexeme_append_rest found]
    cases outcome : tokensFrom (place.past cut.lexeme) cut.rest with
    | ok tokens =>
      rw [outcome] at refused
      cases refused
    | error fault' =>
      rw [outcome] at refused
      cases refused
      exact (inductionHypothesis outcome).piece_append (Cut.spells_of_front found)

/-- A source is refused at the first text that is no piece. The source in front of it has tokens,
and it is a character with which no piece begins, or the quote of a string that is not closed, whose
line is told. No source is refused for a number. -/
theorem tokenize_refused {source file : String} {fault : Fault}
    (refused : tokenize source file = .error fault) :
    (∀ text, fault.cause ≠ .badNumber text) ∧
    ∃ front c back, source.toList = front ++ c :: back ∧
      width front < width source.toList ∧
      fault.position = ⟨(width front).toUInt32, file⟩ ∧
      (width source.toList < UInt32.size → fault.position.offset.toNat = width front) ∧
      (∃ tokens, tokenize (String.ofList front) file = .ok tokens) ∧
      (fault.cause = .unrecognised (String.singleton c) ∧ BeginsNoPiece c back ∨
        fault.cause = .unterminated (1 + lineEnds front) ∧ c = '"' ∧ Unclosed back) := by
  have refusedWith := refusedWith_of_tokensFrom refused
  generalize source.toList = whole at refusedWith ⊢
  obtain @⟨front, c, back, obstacle, done, stands, rfl⟩ := refusedWith
  have start : ({ file } : Place).past front = .behind file front := rfl
  have position : (obstacle.fault (.behind file front)).position =
      ⟨(width front).toUInt32, file⟩ := by
    cases obstacle <;> simp [Obstacle.fault, Place.position, Place.behind, Place.past]
  have less : width front < width (front ++ c :: back) := by
    rw [width_append, width_cons]
    have := c.utf8Size_pos
    omega
  rw [start]
  refine ⟨fun text => ?_, front, c, back, rfl, less, position, fun short => ?_, ?_, ?_⟩
  · cases obstacle <;> exact Cause.noConfusion
  · rw [position]
    exact UInt32.toNat_ofNat_of_lt' (Nat.lt_trans less short)
  · rw [tokenize, String.toList_ofList]
    exact done
  · cases stands with
    | unknown noPiece => exact .inl ⟨rfl, noPiece⟩
    | unclosed unclosed => exact .inr ⟨rfl, rfl, unclosed⟩

/-- A number in front of a dot and a remark, and on the next line a string in which a quote is
escaped and a backslash stands in front of a newline. The quote behind this newline does not close
the string. -/
theorem tokenize_refused_brokenString :
    tokenize "1. // —\n\"a\\\"\\\n\"" "f" = .error ⟨.unterminated 2, ⟨10, "f"⟩⟩ ∧
      ∃ front back, "1. // —\n\"a\\\"\\\n\"".toList = front ++ '"' :: back ∧ width front = 10 ∧
        (∃ tokens, tokenize (String.ofList front) "f" = .ok tokens) ∧ lineEnds front = 1 ∧
        Unclosed back := by
  have refused : tokenize "1. // —\n\"a\\\"\\\n\"" "f" =
      .error ⟨.unterminated 2, ⟨10, "f"⟩⟩ := tokenize_of_fault (by decide +kernel)
  obtain ⟨-, front, c, back, split, -, -, offset, done, ⟨cause, -⟩ | ⟨cause, rfl, unclosed⟩⟩ :=
    tokenize_refused refused
  · cases cause
  · have short : width "1. // —\n\"a\\\"\\\n\"".toList < UInt32.size := by decide
    injection cause with line
    exact ⟨refused, front, back, split, (offset short).symm, done, by omega, unclosed⟩

end Parlance
