/-
This file proves that the value of a token is the same for whoever asks for it. A token of a source
carries its value with it exactly if it is a number, a string or one of three reserved words; and
where such a token is read as an expression, the expression is this value. Reading has a way to get
a value from the text of a number or a string too, but it takes this way only for tokens that did
not come from a source. A source is therefore never found to have a number that cannot be read,
neither when it is divided nor when its tokens are read.
-/

import Parlance.Proofs.Blame
import Parlance.Proofs.Kinds
import Parlance.Proofs.Phrasing
import Parlance.Proofs.Refusal

namespace Parlance

/-! ### The value of a token -/

/-- The kind of the tokens that carry a value. -/
def Literal.kind : Literal → Kind
  | bool false => .word .false_
  | bool true => .word .true_
  | string _ => .string
  | number _ => .number
  | nothing => .word .nothing

/-- The kinds of the tokens that carry a value. -/
def Kind.valued : List Kind :=
  [.number, .string, .word .true_, .word .false_, .word .nothing]

theorem Literal.kind_mem_valued (literal : Literal) : literal.kind ∈ Kind.valued := by
  rcases literal with ⟨_ | _⟩ | _ | _ | _ <;> simp [Literal.kind, Kind.valued]

theorem Word.kind_of_literal? {reserved : Word} {literal : Literal}
    (carried : reserved.literal? = some literal) : literal.kind = .word reserved := by
  cases reserved <;> cases carried <;> rfl

namespace Token

variable {token : Token} {literal : Literal}

/-- A token of a source has the kind of the value that it carries. -/
theorem Genuine.kind_eq (genuine : token.Genuine) (carried : token.literal = some literal) :
    token.kind = literal.kind := by
  unfold Genuine at genuine
  rw [carried] at genuine
  cases kind : token.kind with
  | number =>
    rw [kind] at genuine
    obtain ⟨number, isNumber⟩ := genuine
    cases isNumber
    rfl
  | string =>
    rw [kind] at genuine
    obtain ⟨text, isString⟩ := genuine
    cases isString
    rfl
  | word reserved =>
    rw [kind] at genuine
    exact (Word.kind_of_literal? genuine.2.symm).symm
  | eof =>
    rw [kind] at genuine
    cases genuine.2
  | identifier =>
    rw [kind] at genuine
    cases genuine.2.2
  | mark =>
    rw [kind] at genuine
    cases genuine.2

theorem Genuine.isSome_literal_iff (genuine : token.Genuine) :
    token.literal.isSome = true ↔ token.kind ∈ Kind.valued := by
  rw [Option.isSome_iff_exists]
  refine ⟨fun ⟨literal, carried⟩ => ?_, fun valued => ?_⟩
  · rw [genuine.kind_eq carried]
    exact literal.kind_mem_valued
  · unfold Genuine at genuine
    simp only [Kind.valued, List.mem_cons, List.not_mem_nil, or_false] at valued
    rcases valued with kind | kind | kind | kind | kind <;> rw [kind] at genuine
    · obtain ⟨number, carried⟩ := genuine
      exact ⟨_, carried⟩
    · obtain ⟨text, carried⟩ := genuine
      exact ⟨_, carried⟩
    all_goals exact ⟨_, genuine.2⟩

/-- A token with a value of its kind is read as this value. -/
theorem primary_of_literal (carried : token.literal = some literal)
    (kind : token.kind = literal.kind) : token.primary = .ok (.literal literal) := by
  unfold primary
  rcases literal with ⟨_ | _⟩ | _ | _ | _ <;> simp [kind, Literal.kind, carried]

end Token

theorem Reading.primary_of_literal {pass : Pass} {literal : Literal}
    (carried : pass.current.literal = some literal) (kind : pass.current.kind = literal.kind) :
    primary pass = .ok (.literal literal) pass.advance := by
  rw [primary, Token.primary_of_literal carried kind]

/-! ### Words -/

/-- Of all pieces only a word has a text that is one. -/
theorem Piece.Spells.isWord_iff {piece : Piece} {lexeme after : List Char} {kind : Kind}
    {literal : Option Literal} (spells : piece.Spells lexeme after)
    (isToken : piece.token? lexeme = .ok (some (kind, literal))) :
    IsWord lexeme ↔ kind.isWord = true := by
  have noWord {first : Char} {rest : List Char} (other : startsWord first = false) :
      ¬ IsWord (first :: rest) := by
    rintro ⟨first', rest', same, starts, -⟩
    rw [← (List.cons.inj same).1, other] at starts
    cases starts
  cases spells with
  | blanks => cases isToken
  | remark => cases isToken
  | word starts continues =>
    cases isToken
    refine iff_of_true ⟨_, _, rfl, starts, continues⟩ ?_
    unfold Kind.ofWord
    split <;> rfl
  | whole isDigit | decimal isDigit =>
    rw [Piece.token?] at isToken
    split at isToken <;> cases isToken
    exact iff_of_false (noWord (startsWord_of_isDigit isDigit)) Bool.false_ne_true
  | string =>
    cases isToken
    exact iff_of_false (noWord (by decide)) Bool.false_ne_true
  | @mark symbol =>
    cases isToken
    exact iff_of_false (noWord (by cases symbol <;> decide)) Bool.false_ne_true

/-- A token of a source is a word exactly if its text is one, unless it is the end token. -/
theorem Divides.isWord_iff {place : Place} {text : List Char} {tokens : List Token}
    (divides : Divides place text tokens) : ∀ token ∈ tokens,
      IsWord token.value.toList ∧ token.kind ≠ .eof ↔ token.kind.isWord = true := by
  induction divides with
  | ended =>
    refine List.forall_mem_singleton.mpr (iff_of_false ?_ Bool.false_ne_true)
    exact fun both => both.2 rfl
  | skipped _ _ _ inductionHypothesis => exact inductionHypothesis
  | @token place piece lexeme _ kind literal _ spells isToken _ inductionHypothesis =>
    refine List.forall_mem_cons.mpr ⟨?_, inductionHypothesis⟩
    rw [Place.toList_value_tokenOf, spells.isWord_iff isToken]
    exact and_iff_left (Piece.kind_of_token? isToken).1

/-! ### Sources -/

/-- What stands in the way of dividing a text is never a number. -/
theorem RefusedWith.cause_ne {place : Place} {fault : Fault} {text : List Char}
    (refused : RefusedWith place fault text) (number : String) :
    fault.cause ≠ .badNumber number := by
  cases refused with
  | @intro _ _ _ obstacle _ _ isFault =>
    rw [isFault]
    cases obstacle <;> exact Cause.noConfusion

/-- A number that cannot be read is reported only at a number that carries no value. -/
theorem Program.valueless_of_report {tokens : List Token}
    (ends : ∃ token ∈ tokens, token.kind = .eof) {file : String} {report : Diagnostic}
    (member : report ∈ (ofTokens tokens file).log.reported) {text : String}
    (badNumber : report.fault.cause = .badNumber text) :
    report.token ∈ tokens ∧ report.token.kind = .number ∧ report.token.literal = none := by
  have fresh : (Pass.start tokens file).log.reported = [] := rfl
  have inOrder := (Pass.InOrder.refl fresh).declarations
  have justifies := inOrder.justified report member
  have isToken : report.token ∈ Token.upToEof tokens file :=
    Pass.upToEof_eq tokens file ▸ justifies.member
  exact ⟨(Token.upToEof_sublist ends file).mem isToken, justifies.valueless text badNumber⟩

/-- A source that can be divided has tokens that carry a value exactly if they are of certain kinds,
and then a value of this kind; its words are reserved if the table says so, and names otherwise;
wherever one of its tokens with a value is read as an expression, this succeeds, and the expression
is the value, whatever the text of the token may be; and no number of it is reported as one that
cannot be read. A source that cannot be divided is not refused for a number either. -/
theorem Program.values_agree (source file : String) :
    match tokenize source file with
    | .ok tokens =>
      (∀ token ∈ tokens,
        (token.literal.isSome ↔ token.kind ∈ Kind.valued) ∧
        (∀ literal, token.literal = some literal → token.kind = literal.kind ∧
          ∀ text, { token with value := text }.primary = .ok (.literal literal)) ∧
        (IsWord token.value.toList ∧ token.kind ≠ .eof ↔
          token.kind = .identifier ∨ ∃ reserved, token.kind = .word reserved) ∧
        (IsWord token.value.toList → token.kind ≠ .eof →
          token.kind = (Word.ofText? token.value).elim .identifier .word)) ∧
      (∀ (pass : Pass) (literal : Literal), pass.current ∈ tokens →
        pass.current.literal = some literal →
        Reading.primary pass = .ok (.literal literal) pass.advance) ∧
      ∃ program, ofSource source file = .ok program ∧
        ∀ report ∈ program.log.reported, ∀ text, report.fault.cause ≠ .badNumber text
    | .error fault =>
      ofSource source file = .error fault ∧ ∀ text, fault.cause ≠ .badNumber text := by
  cases outcome : tokenize source file with
  | error fault =>
    exact ⟨by rw [ofSource, outcome]; rfl, (refusedWith_of_tokensFrom outcome).cause_ne⟩
  | ok tokens =>
    have divides := tokenize_eq_ok_iff.mp outcome
    have genuine := divides.genuine
    refine ⟨fun token member => ⟨(genuine token member).isSome_literal_iff, ?_, ?_, ?_⟩, ?_, ?_⟩
    · intro literal carried
      have kind := (genuine token member).kind_eq carried
      exact ⟨kind, fun text => Token.primary_of_literal carried kind⟩
    · rw [divides.isWord_iff token member]
      cases token.kind <;> simp [Kind.isWord]
    · intro isWord notEof
      have word := (divides.isWord_iff token member).mp ⟨isWord, notEof⟩
      have kind := congrArg Prod.fst ((genuine token member).content_eq word)
      rw [show token.kind = Kind.ofWord token.value from kind, Kind.ofWord]
      cases Word.ofText? token.value <;> rfl
    · intro pass literal member carried
      exact Reading.primary_of_literal carried ((genuine _ member).kind_eq carried)
    · refine ⟨ofTokens tokens file, by rw [ofSource, outcome]; rfl, ?_⟩
      intro report member text badNumber
      obtain ⟨before, eof, rfl, isEof, -⟩ := divides.exists_eof
      obtain ⟨isToken, kind, valueless⟩ :=
        valueless_of_report ⟨eof, by simp, isEof⟩ member badNumber
      have carries := (genuine _ isToken).isSome_literal_iff.mpr (by rw [kind]; decide)
      rw [valueless] at carries
      cases carries

/-- A name with the text of the end token, and a string that denotes a newline. -/
theorem Program.values_agree_newline :
    let name : Token := ⟨.identifier, "EOF", none, 1, ⟨⟨0, "f"⟩, ⟨3, "f"⟩⟩⟩
    let string : Token := ⟨.string, "\"\\n\"", some (.string "\n"), 1, ⟨⟨4, "f"⟩, ⟨8, "f"⟩⟩⟩
    let eof := Token.eof 1 ⟨⟨8, "f"⟩, ⟨8, "f"⟩⟩
    let pass := Pass.start [string, eof] "f"
    tokenize "EOF \"\\n\"" "f" = .ok [name, string, eof] ∧
    name.kind = (Word.ofText? "EOF").elim .identifier .word ∧
    { string with value := "" }.primary = .ok (.literal (.string "\n")) ∧
    Reading.primary pass = .ok (.literal (.string "\n")) pass.advance ∧
    ∃ program, ofSource "EOF \"\\n\"" "f" = .ok program ∧
      ∀ report ∈ program.log.reported, ∀ text, report.fault.cause ≠ .badNumber text := by
  intro name string eof pass
  have done : tokenize "EOF \"\\n\"" "f" = .ok [name, string, eof] :=
    tokenize_of_toOption (by decide +kernel)
  have agree := values_agree "EOF \"\\n\"" "f"
  rw [done] at agree
  obtain ⟨each, primary, reported⟩ := agree
  have isWord : IsWord name.value.toList :=
    ⟨'E', ['O', 'F'], by decide, rfl, List.all_eq_true.mp rfl⟩
  exact ⟨done, (each name (by decide)).2.2.2 isWord (by decide),
    ((each string (by decide)).2.1 _ rfl).2 "", primary pass _ (by decide) rfl, reported⟩

end Parlance
