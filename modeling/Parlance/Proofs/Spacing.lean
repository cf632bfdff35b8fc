/-
This file proves that tokens do not depend on the layout of their source. The texts of the tokens of
a source, written one behind the other with blanks between them, have the same tokens again, up to
where these stand. This rests on two facts about the spelling of a piece that is a token: it does
not begin with a blank, and a blank ends it, whatever stood behind it before.
-/

import Parlance.Proofs.Spelling

namespace Parlance

open Text

/-! ### Blanks around a token -/

theorem isBlank_of_continuesWord {c : Char} (continues : continuesWord c = true) :
    isBlank c = false := by
  refine Bool.eq_false_iff.mpr fun blank => ?_
  rw [continuesWord_of_isBlank blank] at continues
  cases continues

namespace Piece.Spells

variable {piece : Piece} {lexeme after : List Char} {kind : Kind} {literal : Option Literal}

/-- A token does not begin with a blank. -/
theorem stops_isBlank (spells : piece.Spells lexeme after)
    (isToken : piece.token? lexeme = .ok (some (kind, literal))) (text : List Char) :
    Stops isBlank (lexeme ++ text) := by
  cases spells with
  | blanks => cases isToken
  | remark => cases isToken
  | word starts =>
    refine stops_cons (isBlank_of_continuesWord ?_)
    rw [continuesWord_eq, starts, Bool.true_or]
  | whole digit =>
    refine stops_cons (isBlank_of_continuesWord ?_)
    rw [continuesWord_eq, digit, Bool.or_true]
  | decimal digit =>
    refine stops_cons (isBlank_of_continuesWord ?_)
    rw [continuesWord_eq, digit, Bool.or_true]
  | string => exact stops_cons rfl
  | @mark symbol =>
    refine stops_cons ?_
    cases symbol <;> rfl

/-- A token is complete in front of a blank and at the end of a source. -/
theorem of_isBlank (spells : piece.Spells lexeme after)
    (isToken : piece.token? lexeme = .ok (some (kind, literal))) {after' : List Char}
    (ends : ∀ c ∈ after'.head?, isBlank c = true) : piece.Spells lexeme after' := by
  have noDigit : Stops Char.isDigit after' := fun c member => isDigit_of_isBlank (ends c member)
  cases spells with
  | blanks => cases isToken
  | remark => cases isToken
  | word starts continues _ =>
    exact .word starts continues fun c member => continuesWord_of_isBlank (ends c member)
  | whole digit digits _ _ =>
    refine .whole digit digits noDigit fun c rest begins => ?_
    subst begins
    exact absurd (ends '.' rfl) (by decide)
  | decimal digit digits digit' digits' _ => exact .decimal digit digits digit' digits' noDigit
  | string isInner => exact .string isInner
  | mark => exact .mark

end Piece.Spells

/-! ### Sources written anew -/

/-- What a token is, wherever it stands. -/
def Token.content (token : Token) : Kind × String × Option Literal :=
  (token.kind, token.value, token.literal)

/-- The texts of tokens one behind the other, each with a text of its own behind it. -/
def spaced (tokens : List Token) (gaps : List (List Char)) : List Char :=
  (List.zipWith (fun token gap => token.value.toList ++ gap) tokens gaps).flatten

theorem spaced_cons (token : Token) (tokens : List Token) (gap : List Char)
    (gaps : List (List Char)) :
    spaced (token :: tokens) (gap :: gaps) = token.value.toList ++ (gap ++ spaced tokens gaps) := by
  rw [spaced, List.zipWith_cons_cons, List.flatten_cons, List.append_assoc]
  rfl

/-- Texts to be put behind tokens: blanks, and at least one wherever another token follows. -/
structure Separates (tokens : List Token) (gaps : List (List Char)) : Prop where
  length : gaps.length = tokens.length
  blank : ∀ gap ∈ gaps, ∀ c ∈ gap, isBlank c = true
  apart : [] ∉ gaps.dropLast

namespace Separates

variable {token : Token} {tokens : List Token} {gap : List Char} {gaps : List (List Char)}

theorem eq_nil (separates : Separates [] gaps) : gaps = [] :=
  List.eq_nil_of_length_eq_zero separates.length

theorem exists_cons (separates : Separates (token :: tokens) gaps) :
    ∃ gap rest, gaps = gap :: rest ∧ Separates tokens rest := by
  obtain ⟨length, blank, apart⟩ := separates
  cases gaps with
  | nil => cases length
  | cons gap gaps =>
    refine ⟨gap, gaps, rfl, Nat.succ.inj length, (List.forall_mem_cons.mp blank).2, ?_⟩
    cases gaps with
    | nil => exact List.not_mem_nil
    | cons next gaps => exact fun member => apart (List.mem_cons_of_mem _ member)

/-- Behind a token there is a blank, or it is the last one and the source ends. -/
theorem isBlank_of_mem_head? (separates : Separates (token :: tokens) (gap :: gaps)) :
    ∀ c ∈ (gap ++ spaced tokens gaps).head?, isBlank c = true := by
  intro c member
  cases gap with
  | cons first more =>
    obtain rfl := Option.some.inj member
    exact separates.blank _ List.mem_cons_self _ List.mem_cons_self
  | nil =>
    cases gaps with
    | nil =>
      rw [List.nil_append, spaced, List.zipWith_nil_right] at member
      cases member
    | cons next gaps => exact absurd List.mem_cons_self separates.apart

end Separates

namespace Divides

variable {place : Place} {text : List Char} {tokens : List Token}

theorem ne_nil (divides : Divides place text tokens) : tokens ≠ [] := by
  induction divides with
  | ended => exact List.cons_ne_nil _ _
  | skipped _ _ _ inductionHypothesis => exact inductionHypothesis
  | token => exact List.cons_ne_nil _ _

/-- Blanks in front of a text that begins with none add no token. -/
theorem blanks_append {blanks : List Char} (allBlank : ∀ c ∈ blanks, isBlank c = true)
    (stops : Stops isBlank text) (divides : Divides (place.past blanks) text tokens) :
    Divides place (blanks ++ text) tokens := by
  cases blanks with
  | nil => exact divides
  | cons first more =>
    obtain ⟨blank, allBlank⟩ := List.forall_mem_cons.mp allBlank
    exact .skipped (.blanks blank allBlank stops) rfl divides

/-- The texts of the tokens of a source, with blanks between them, divide into tokens of the same
content. -/
theorem exists_spaced {all : List Token} {eof : Token} (divides : Divides place text all)
    (split : all = tokens ++ [eof]) {before : List Char} {gaps : List (List Char)}
    (blank : ∀ c ∈ before, isBlank c = true) (separates : Separates tokens gaps)
    (place' : Place) :
    ∃ all', Divides place' (before ++ spaced tokens gaps) all' ∧
      all'.map Token.content = all.map Token.content := by
  -- The blanks in front of a token are those behind the one before it, so both are general.
  induction divides generalizing tokens before gaps place' with
  | ended =>
    cases tokens with
    | nil =>
      obtain rfl := separates.eq_nil
      exact ⟨_, blanks_append blank stops_nil .ended, rfl⟩
    | cons token tokens => exact absurd (List.cons.inj split).2.symm (List.concat_ne_nil _ _)
  | skipped _ _ _ inductionHypothesis => exact inductionHypothesis split blank separates place'
  | @token _ rest kind literal piece lexeme after spells isToken divides inductionHypothesis =>
    cases tokens with
    | nil => exact absurd (List.cons.inj split).2 divides.ne_nil
    | cons token tokens =>
      obtain ⟨rfl, remaining⟩ := List.cons.inj split
      obtain ⟨gap, gaps, rfl, others⟩ := separates.exists_cons
      obtain ⟨rest', divides', same⟩ := inductionHypothesis remaining
        (separates.blank gap List.mem_cons_self) others ((place'.past before).past lexeme)
      have spells' := spells.of_isBlank isToken separates.isBlank_of_mem_head?
      have first := Divides.token spells' isToken divides'
      rw [spaced_cons, Place.toList_value_tokenOf]
      refine ⟨_, first.blanks_append blank (spells.stops_isBlank isToken _), ?_⟩
      rw [List.map_cons, List.map_cons, same]
      rfl

end Divides

/-- Tokenizing does not depend on layout: from the texts of the tokens of a source, with at least
one blank between them and any blanks around them, come the same tokens, save for where they
stand. -/
theorem tokenize_spaced {source file : String} {tokens : List Token} {eof : Token}
    (done : tokenize source file = .ok (tokens ++ [eof])) (before : List Char)
    (gaps : List (List Char)) (blank : ∀ c ∈ before, isBlank c = true)
    (separates : Separates tokens gaps) (file' : String) :
    ∃ tokens', tokenize (String.ofList (before ++ spaced tokens gaps)) file' = .ok tokens' ∧
      tokens'.map Token.content = (tokens ++ [eof]).map Token.content := by
  obtain ⟨tokens', divides, same⟩ :=
    (tokenize_eq_ok_iff.mp done).exists_spaced rfl blank separates { file := file' }
  refine ⟨tokens', tokenize_eq_ok_iff.mpr ?_, same⟩
  rw [String.toList_ofList]
  exact divides

/-- A number, a dot, a word and a string with slashes in it, first without a blank between them and
in front of a remark, then with blanks of several kinds. -/
theorem tokenize_spaced_glued :
    ∃ tokens eof tokens', tokenize "1.x\"//\"//" "f" = .ok (tokens ++ [eof]) ∧
      tokens.map Token.value = ["1", ".", "x", "\"//\""] ∧
      tokenize "\u00a01\n.\t\u3000x \"//\"" "g" = .ok tokens' ∧
      tokens'.map Token.content = (tokens ++ [eof]).map Token.content := by
  have done : tokenize "1.x\"//\"//" "f" = .ok
      ([⟨.number, "1", some (.number (.signed false (.nearest 1 1))), 1, ⟨⟨0, "f"⟩, ⟨1, "f"⟩⟩⟩,
        ⟨.mark .dot, ".", none, 1, ⟨⟨1, "f"⟩, ⟨2, "f"⟩⟩⟩,
        ⟨.identifier, "x", none, 1, ⟨⟨2, "f"⟩, ⟨3, "f"⟩⟩⟩,
        ⟨.string, "\"//\"", some (.string "//"), 1, ⟨⟨3, "f"⟩, ⟨7, "f"⟩⟩⟩] ++
        [Token.eof 1 ⟨⟨9, "f"⟩, ⟨9, "f"⟩⟩]) := tokenize_of_toOption (by decide +kernel)
  obtain ⟨tokens', done', same⟩ := tokenize_spaced done ['\u00a0']
    [['\n'], ['\t', '\u3000'], [' '], []] (by simp [isBlank])
    ⟨rfl, by simp [isBlank], by decide⟩ "g"
  exact ⟨_, _, tokens', done, rfl, done', same⟩

end Parlance
