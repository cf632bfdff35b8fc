/-
This file says how pieces are spelled, and that sources divide accordingly. Which texts a piece can
have is one half of its spelling; the other half is what may not stand behind it, because a word, a
number, a run of blanks and a remark reach as far as they can. A cut at the front of a text is
exactly a piece in its spelling with the rest behind it. From there on a source is described by one
relation, `Divides`, with one case for the end, one for a piece that is passed over and one for a
piece that becomes a token.
-/

import Parlance.Token.Lexer

namespace Parlance

/-! ### Runs of characters -/

namespace Text

/-- A text does not begin with a character of a class. -/
def Stops (goesOn : Char → Bool) (text : List Char) : Prop :=
  ∀ c ∈ text.head?, goesOn c = false

section Stops

variable {goesOn : Char → Bool} {run text : List Char}

theorem stops_nil : Stops goesOn [] := fun _ member => absurd member (Option.not_mem_none _)

theorem stops_cons {c : Char} {rest : List Char} (stops : goesOn c = false) :
    Stops goesOn (c :: rest) := by
  intro head member
  rw [← Option.some.inj member]
  exact stops

theorem stops_dropWhile (goesOn : Char → Bool) (text : List Char) :
    Stops goesOn (text.dropWhile goesOn) := by
  intro c member
  have stop := List.head?_dropWhile_not goesOn text
  rw [Option.mem_def.mp member] at stop
  exact stop

/-- A run of a class is taken as a whole from in front of a text at which the class stops. -/
theorem takeWhile_append (inside : ∀ c ∈ run, goesOn c = true) (stops : Stops goesOn text) :
    (run ++ text).takeWhile goesOn = run := by
  rw [List.takeWhile_append_of_pos inside]
  cases text with
  | nil => rw [List.takeWhile_nil, List.append_nil]
  | cons c rest => rw [List.takeWhile_cons, stops c rfl]; simp

theorem dropWhile_append (inside : ∀ c ∈ run, goesOn c = true) (stops : Stops goesOn text) :
    (run ++ text).dropWhile goesOn = text := by
  rw [List.dropWhile_append_of_pos inside]
  cases text with
  | nil => rfl
  | cons c rest => rw [List.dropWhile_cons, stops c rfl]; simp

/-- A run of a class can be told from a text at which the class stops. -/
theorem append_inj_of_stops {run' text' : List Char} (inside : ∀ c ∈ run, goesOn c = true)
    (inside' : ∀ c ∈ run', goesOn c = true) (stops : Stops goesOn text)
    (stops' : Stops goesOn text') (same : run ++ text = run' ++ text') :
    run = run' ∧ text = text' := by
  have front := congrArg (List.takeWhile goesOn) same
  have behind := congrArg (List.dropWhile goesOn) same
  rw [takeWhile_append inside stops, takeWhile_append inside' stops'] at front
  rw [dropWhile_append inside stops, dropWhile_append inside' stops'] at behind
  exact ⟨front, behind⟩

end Stops

end Text

open Text

/-! ### Classes that exclude each other -/

theorem toNat_of_startsWord {c : Char} (starts : startsWord c = true) :
    65 ≤ c.toNat ∧ c.toNat ≤ 122 := by
  rw [startsWord, Bool.or_eq_true, decide_eq_true_eq] at starts
  rcases starts with alpha | rfl
  · rcases Bool.or_eq_true_iff.mp alpha with upper | lower
    · obtain ⟨low, high⟩ : 'A'.val ≤ c.val ∧ c.val ≤ 'Z'.val := of_decide_eq_true upper
      exact ⟨low, Nat.le_trans high (by decide)⟩
    · obtain ⟨low, high⟩ := Bool.and_eq_true_iff.mp lower
      exact ⟨Nat.le_trans (by decide) (of_decide_eq_true low), of_decide_eq_true high⟩
  · decide

theorem toNat_of_isDigit {c : Char} (digit : c.isDigit = true) : 48 ≤ c.toNat ∧ c.toNat ≤ 57 := by
  simp only [Char.isDigit, Bool.and_eq_true, decide_eq_true_eq, UInt32.le_iff_toNat_le,
    ge_iff_le] at digit
  exact digit

/-- A word goes on with what it can begin with and with digits. -/
theorem continuesWord_eq (c : Char) : continuesWord c = (startsWord c || c.isDigit) := by
  rw [continuesWord, startsWord, Char.isAlphanum, Bool.or_right_comm]

theorem toNat_of_isBlank {c : Char} (blank : isBlank c = true) : c.toNat < 46 ∨ 122 < c.toNat := by
  simp only [isBlank, Bool.or_eq_true, Bool.and_eq_true, decide_eq_true_eq, beq_iff_eq] at blank
  omega

theorem startsWord_of_isDigit {c : Char} (digit : c.isDigit = true) : startsWord c = false := by
  rw [Bool.eq_false_iff]
  intro starts
  have low := toNat_of_startsWord starts
  have high := toNat_of_isDigit digit
  omega

theorem startsWord_of_isBlank {c : Char} (blank : isBlank c = true) : startsWord c = false := by
  rw [Bool.eq_false_iff]
  intro starts
  have inside := toNat_of_startsWord starts
  have outside := toNat_of_isBlank blank
  omega

theorem isDigit_of_isBlank {c : Char} (blank : isBlank c = true) : c.isDigit = false := by
  rw [Bool.eq_false_iff]
  intro digit
  have inside := toNat_of_isDigit digit
  have outside := toNat_of_isBlank blank
  omega

theorem continuesWord_of_isBlank {c : Char} (blank : isBlank c = true) :
    continuesWord c = false := by
  rw [continuesWord_eq, startsWord_of_isBlank blank, isDigit_of_isBlank blank]
  rfl

/-! ### The spelling of a piece -/

/-- What stands between the quotes of a string: characters that are neither quotes nor backslashes,
and pairs of a backslash and any character that is no newline. -/
inductive Inner : List Char → Prop
  | nil : Inner []
  | plain {c rest} : c ≠ '"' → c ≠ '\\' → Inner rest → Inner (c :: rest)
  | pair {c rest} : c ≠ '\n' → Inner rest → Inner ('\\' :: c :: rest)

/-- A lexeme is a piece, and reaches as far as the piece can with `after` behind it. -/
inductive Piece.Spells : Piece → (lexeme after : List Char) → Prop
  | blanks {first more after} : isBlank first = true → (∀ c ∈ more, isBlank c = true) →
      Stops isBlank after → Spells .blanks (first :: more) after
  | remark {more after} : (∀ c ∈ more, c ≠ '\n') → Stops (· ≠ '\n') after →
      Spells .remark ('/' :: '/' :: more) after
  | word {first more after} : startsWord first = true → (∀ c ∈ more, continuesWord c = true) →
      Stops continuesWord after → Spells .word (first :: more) after
  /-- A number without a fraction, behind which no fraction begins. -/
  | whole {first more after} : first.isDigit = true → (∀ c ∈ more, c.isDigit = true) →
      Stops Char.isDigit after → (∀ c rest, after = '.' :: c :: rest → c.isDigit = false) →
      Spells .number (first :: more) after
  | decimal {first more digit decimals after} : first.isDigit = true →
      (∀ c ∈ more, c.isDigit = true) → digit.isDigit = true →
      (∀ c ∈ decimals, c.isDigit = true) → Stops Char.isDigit after →
      Spells .number (first :: (more ++ '.' :: digit :: decimals)) after
  | string {inner after} : Inner inner → Spells (.string inner) ('"' :: (inner ++ ['"'])) after
  | mark {symbol after} : Spells (.mark symbol) [symbol.char] after

namespace Cut

theorem inner_of_closing? {text inner after : List Char}
    (closed : closing? text = some (inner, after)) : Inner inner := by
  fun_induction closing? text generalizing inner with
  | case1 => cases closed
  | case2 => cases closed
  | case3 => cases closed
  | case4 c rest notNewline inductionHypothesis =>
    obtain ⟨⟨inner', after'⟩, found, equal⟩ := Option.map_eq_some_iff.mp closed
    simp only [Prod.mk.injEq] at equal
    obtain ⟨rfl, rfl⟩ := equal
    exact .pair notNewline (inductionHypothesis found)
  | case5 rest =>
    cases closed
    exact .nil
  | case6 c rest notLast notPair notQuote inductionHypothesis =>
    obtain ⟨⟨inner', after'⟩, found, equal⟩ := Option.map_eq_some_iff.mp closed
    simp only [Prod.mk.injEq] at equal
    obtain ⟨rfl, rfl⟩ := equal
    refine .plain notQuote (fun isBackslash => ?_) (inductionHypothesis found)
    cases rest with
    | nil => exact notLast isBackslash rfl
    | cons c' rest => exact notPair c' rest isBackslash rfl

theorem closing?_of_inner {inner : List Char} (isInner : Inner inner) (after : List Char) :
    closing? (inner ++ '"' :: after) = some (inner, after) := by
  induction isInner with
  | nil =>
    rw [List.nil_append, closing?, if_pos rfl]
    · exact fun isBackslash => absurd isBackslash (by decide)
    · exact fun _ _ isBackslash => absurd isBackslash (by decide)
  | @plain c rest notQuote notBackslash _ inductionHypothesis =>
    rw [List.cons_append, closing?, if_neg notQuote, inductionHypothesis]
    · rfl
    · exact fun isBackslash => absurd isBackslash notBackslash
    · exact fun _ _ isBackslash => absurd isBackslash notBackslash
  | pair notNewline _ inductionHypothesis =>
    rw [List.cons_append, List.cons_append, closing?, if_neg notNewline, inductionHypothesis]
    rfl

/-- A number goes on with a point and digits, or ends where no fraction begins. -/
theorem fraction_cases (text : List Char) :
    (∃ digit rest, text = '.' :: digit :: rest ∧ digit.isDigit = true ∧
      fraction text = ('.' :: digit :: rest.takeWhile Char.isDigit, rest.dropWhile Char.isDigit)) ∨
    (∀ c rest, text = '.' :: c :: rest → c.isDigit = false) ∧ fraction text = ([], text) := by
  unfold fraction
  split
  · rename_i digit rest
    split
    · rename_i isDigit
      exact .inl ⟨digit, rest, rfl, isDigit, rfl⟩
    · rename_i notDigit
      refine .inr ⟨fun c rest' same => ?_, rfl⟩
      cases same
      exact Bool.eq_false_iff.mpr notDigit
  · rename_i noFraction
    exact .inr ⟨fun c rest same => (noFraction c rest same).elim, rfl⟩

theorem mem_takeWhile {goesOn : Char → Bool} {text : List Char} :
    ∀ c ∈ text.takeWhile goesOn, goesOn c = true :=
  List.all_eq_true.mp List.all_takeWhile

/-- What is cut off is a piece in its spelling. -/
theorem spells_of_front {first : Char} {rest : List Char} {cut : Cut}
    (found : front first rest = .ok cut) : cut.piece.Spells cut.lexeme cut.rest := by
  unfold front at found
  split at found
  · rename_i starts
    cases found
    exact .word starts mem_takeWhile (stops_dropWhile _ _)
  split at found
  · rename_i digit
    cases found
    rcases fraction_cases (rest.dropWhile Char.isDigit) with
      ⟨digit', rest', behind, isDigit, cut⟩ | ⟨noFraction, cut⟩
    · rw [cut]
      exact .decimal digit mem_takeWhile isDigit mem_takeWhile (stops_dropWhile _ _)
    · rw [cut, List.append_nil]
      exact .whole digit mem_takeWhile (stops_dropWhile _ _) noFraction
  split at found
  · rename_i blank
    cases found
    exact .blanks blank mem_takeWhile (stops_dropWhile _ _)
  split at found
  · split at found
    · rename_i closed
      cases found
      exact .string (inner_of_closing? closed)
    · cases found
  split at found
  · rename_i slashes
    cases found
    simp only [Bool.and_eq_true, decide_eq_true_eq] at slashes
    obtain ⟨rfl, second⟩ := slashes
    cases rest with
    | nil => cases second
    | cons c rest =>
      cases second
      rw [run, List.takeWhile_cons_of_pos rfl, List.dropWhile_cons_of_pos rfl]
      exact .remark (fun c member => of_decide_eq_true (mem_takeWhile c member))
        (stops_dropWhile _ _)
  · split at found
    · rename_i isMark
      cases found
      rw [← Mark.char_of_ofChar? isMark]
      exact .mark
    · cases found

theorem run_append (piece : Piece) (first : Char) {goesOn : Char → Bool} {more after : List Char}
    (inside : ∀ c ∈ more, goesOn c = true) (stops : Stops goesOn after) :
    run piece first (more ++ after) goesOn = ⟨piece, first :: more, after⟩ := by
  rw [run, takeWhile_append inside stops, dropWhile_append inside stops]

/-- A piece in its spelling is cut off as a whole. -/
theorem front_of_spells {piece : Piece} {lexeme after : List Char}
    (spells : piece.Spells lexeme after) :
    ∃ first rest, lexeme ++ after = first :: rest ∧
      front first rest = .ok ⟨piece, lexeme, after⟩ := by
  cases spells with
  | @blanks first more _ blank allBlank stops =>
    refine ⟨first, more ++ after, rfl, ?_⟩
    rw [front, startsWord_of_isBlank blank, isDigit_of_isBlank blank, blank,
      run_append _ first allBlank stops]
    rfl
  | @remark more _ noNewline stops =>
    refine ⟨'/', '/' :: more ++ after, rfl, ?_⟩
    have inside : ∀ c ∈ '/' :: more, decide (c ≠ '\n') = true :=
      List.forall_mem_cons.mpr ⟨rfl, fun c member => decide_eq_true (noNewline c member)⟩
    have cut : front '/' ('/' :: more ++ after) =
        .ok (run .remark '/' ('/' :: more ++ after) (· ≠ '\n')) := rfl
    rw [cut, run_append _ '/' inside stops]
  | @word first more _ starts continues stops =>
    refine ⟨first, more ++ after, rfl, ?_⟩
    rw [front, if_pos starts, run_append _ first continues stops]
  | @whole first more _ isDigit digits stops noFraction =>
    refine ⟨first, more ++ after, rfl, ?_⟩
    have cut : fraction after = ([], after) := by
      rcases fraction_cases after with ⟨digit, rest, begins, isDigit', -⟩ | ⟨-, cut⟩
      · rw [noFraction digit rest begins] at isDigit'
        cases isDigit'
      · exact cut
    rw [front, startsWord_of_isDigit isDigit, isDigit, takeWhile_append digits stops,
      dropWhile_append digits stops, cut]
    simp
  | @decimal first more digit decimals _ isDigit digits isDigit' digits' stops =>
    refine ⟨first, more ++ '.' :: digit :: decimals ++ after, rfl, ?_⟩
    have point : Stops Char.isDigit ('.' :: digit :: (decimals ++ after)) := stops_cons rfl
    have cut : fraction ('.' :: digit :: (decimals ++ after)) =
        ('.' :: digit :: decimals, after) := by
      rw [fraction, if_pos isDigit', takeWhile_append digits' stops, dropWhile_append digits' stops]
    rw [List.append_assoc, List.cons_append, List.cons_append, front,
      startsWord_of_isDigit isDigit, isDigit, takeWhile_append digits point,
      dropWhile_append digits point, cut]
    rfl
  | @string inner _ isInner =>
    refine ⟨'"', inner ++ ['"'] ++ after, rfl, ?_⟩
    rw [List.append_assoc, List.singleton_append]
    rw [front, if_neg (by decide), if_neg (by decide), if_neg (by decide), if_pos rfl,
      closing?_of_inner isInner]
    rfl
  | @mark symbol _ =>
    refine ⟨symbol.char, after, rfl, ?_⟩
    cases symbol <;> rfl

end Cut

theorem Piece.Spells.ne_nil {piece : Piece} {lexeme after : List Char}
    (spells : piece.Spells lexeme after) : lexeme ≠ [] := by
  cases spells <;> exact List.cons_ne_nil _ _

/-! ### Sources -/

/-- The token of a lexeme that begins at a place. -/
def Place.tokenOf (place : Place) (lexeme : List Char) (kind : Kind) (literal : Option Literal) :
    Token :=
  ⟨kind, String.ofList lexeme, literal, place.line, place.spanOf (width lexeme)⟩

theorem Place.toList_value_tokenOf (place : Place) (lexeme : List Char) (kind : Kind)
    (literal : Option Literal) : (place.tokenOf lexeme kind literal).value.toList = lexeme :=
  String.toList_ofList

theorem Cut.token?_eq_none_iff {cut : Cut} {place : Place} :
    cut.token? place = .ok none ↔ cut.piece.token? cut.lexeme = .ok none := by
  unfold Cut.token?
  split <;> simp_all

theorem Cut.token?_eq_some_iff {cut : Cut} {place : Place} {token : Token} :
    cut.token? place = .ok (some token) ↔ ∃ kind literal,
      cut.piece.token? cut.lexeme = .ok (some (kind, literal)) ∧
        token = place.tokenOf cut.lexeme kind literal := by
  unfold Cut.token?
  cases outcome : cut.piece.token? cut.lexeme with
  | error cause => simp
  | ok found =>
    match found with
    | none => simp
    | some (kind, literal) =>
      constructor
      · rintro ⟨⟩
        exact ⟨kind, literal, rfl, rfl⟩
      · rintro ⟨_, _, ⟨⟩, rfl⟩
        rfl

/-- What follows from the first cut. -/
theorem tokensFrom_of_front {first : Char} {rest : List Char} {cut : Cut} (place : Place)
    (found : Cut.front first rest = .ok cut) :
    tokensFrom place (first :: rest) =
      match cut.token? place with
      | .error fault => .error fault
      | .ok none => tokensFrom (place.past cut.lexeme) cut.rest
      | .ok (some token) => (tokensFrom (place.past cut.lexeme) cut.rest).map (token :: ·) := by
  rw [tokensFrom]
  split
  · rename_i failed
    rw [found] at failed
    cases failed
  · rename_i found'
    rw [found] at found'
    cases found'
    rfl

/-- A text that begins at a place divides into tokens. -/
inductive Divides : Place → List Char → List Token → Prop
  | ended {place} : Divides place [] [Token.eof place.line (place.spanOf 0)]
  | skipped {place tokens} {piece : Piece} {lexeme after : List Char} :
      piece.Spells lexeme after → piece.token? lexeme = .ok none →
      Divides (place.past lexeme) after tokens → Divides place (lexeme ++ after) tokens
  | token {place tokens kind literal} {piece : Piece} {lexeme after : List Char} :
      piece.Spells lexeme after → piece.token? lexeme = .ok (some (kind, literal)) →
      Divides (place.past lexeme) after tokens →
      Divides place (lexeme ++ after) (place.tokenOf lexeme kind literal :: tokens)

variable {place : Place} {text : List Char} {tokens : List Token}

theorem divides_of_tokensFrom (done : tokensFrom place text = .ok tokens) :
    Divides place text tokens := by
  fun_induction tokensFrom place text generalizing tokens with
  | case1 place =>
    cases done
    exact .ended
  | case2 => cases done
  | case3 => cases done
  | case4 place first rest cut found skipped inductionHypothesis =>
    rw [← Cut.lexeme_append_rest found]
    exact .skipped (Cut.spells_of_front found) (Cut.token?_eq_none_iff.mp skipped)
      (inductionHypothesis done)
  | case5 place first rest cut found token isToken inductionHypothesis =>
    obtain ⟨kind, literal, isPiece, rfl⟩ := Cut.token?_eq_some_iff.mp isToken
    cases outcome : tokensFrom (place.past cut.lexeme) cut.rest with
    | error fault =>
      rw [outcome] at done
      cases done
    | ok others =>
      rw [outcome] at done
      cases done
      rw [← Cut.lexeme_append_rest found]
      exact .token (Cut.spells_of_front found) isPiece (inductionHypothesis outcome)

theorem tokensFrom_of_divides (divides : Divides place text tokens) :
    tokensFrom place text = .ok tokens := by
  induction divides with
  | ended => rw [tokensFrom]
  | @skipped place tokens piece lexeme after spells skipped _ inductionHypothesis =>
    obtain ⟨first, rest, begins, found⟩ := Cut.front_of_spells spells
    rw [begins, tokensFrom_of_front place found,
      Cut.token?_eq_none_iff.mpr skipped]
    exact inductionHypothesis
  | @token place tokens kind literal piece lexeme after spells isToken _ inductionHypothesis =>
    obtain ⟨first, rest, begins, found⟩ := Cut.front_of_spells spells
    have cut : Cut.token? ⟨piece, lexeme, after⟩ place =
        .ok (some (place.tokenOf lexeme kind literal)) :=
      Cut.token?_eq_some_iff.mpr ⟨kind, literal, isToken, rfl⟩
    rw [begins, tokensFrom_of_front place found, cut]
    show (tokensFrom (place.past lexeme) after).map _ = _
    rw [inductionHypothesis]
    rfl

/-- A text is tokenized exactly as it divides. -/
theorem tokensFrom_eq_ok_iff : tokensFrom place text = .ok tokens ↔ Divides place text tokens :=
  ⟨divides_of_tokensFrom, tokensFrom_of_divides⟩

theorem tokenize_eq_ok_iff {source file : String} :
    tokenize source file = .ok tokens ↔ Divides { file } source.toList tokens :=
  tokensFrom_eq_ok_iff

/-- Whether a source has certain tokens can be decided. -/
theorem tokenize_of_toOption {source file : String}
    (found : (tokenize source file).toOption = some tokens) :
    tokenize source file = .ok tokens := by
  cases outcome : tokenize source file with
  | error fault =>
    rw [outcome] at found
    cases found
  | ok _ =>
    rw [outcome] at found
    cases found
    rfl

end Parlance
