/-
This file proves that the parts of a program are read in isolation. A part is a list of tokens that
is read without a fatal report, or else the tokens of one declaration that may be malformed in any
way, as long as it ends with its only semicolon and could neither be taken for several declarations
nor for a part of a block. Parts one after another are read as what each of them is read as on its
own, with the same reports in the same order, and so they are inside a block: nothing that is wrong
with one part changes how another one is read.
-/

import Mathlib.Data.List.Permutation
import Parlance.Proofs.Completeness
import Parlance.Proofs.Lookahead

namespace Parlance

open Grammar Reading

/-- The tokens of one declaration, well-formed or not. The last of them is their only semicolon,
there is no colon or dot among them, and at most the first one begins a statement. -/
structure IsSimple (tokens : List Token) : Prop where
  closed : ∃ front semicolon, tokens = front ++ [semicolon] ∧
    semicolon.kind = .mark .semicolon ∧ ∀ token ∈ front, token.kind ≠ .mark .semicolon
  noColon : ∀ token ∈ tokens, token.kind ≠ .mark .colon
  noDot : ∀ token ∈ tokens, token.kind ≠ .mark .dot
  noOpeners : ∀ token ∈ tokens.tail, token.kind ∉ Kind.openers

/-- A part of a program: tokens without an end token and without an `else` in front that are read
without a fatal report, or that are those of one declaration. -/
structure IsPart (file : String) (tokens : List Token) : Prop where
  noEof : ∀ token ∈ tokens, token.kind ≠ .eof
  noElse : ∀ token ∈ tokens.head?, token.kind ≠ .word .else_
  isolated : (∀ report ∈ (Program.ofTokens tokens file).log.reported,
    report.fault.cause.fatal = false) ∨ IsSimple tokens

/-! ### One part -/

theorem Segment.of_append {front : List Token} {semicolon : Token}
    (isSemicolon : semicolon.kind = .mark .semicolon)
    (noSemicolon : ∀ token ∈ front, token.kind ≠ .mark .semicolon)
    (noColon : ∀ token ∈ front, token.kind ≠ .mark .colon) : Segment (front ++ [semicolon]) := by
  induction front with
  | nil => exact .last isSemicolon
  | cons token front inductionHypothesis =>
    obtain ⟨notSemicolon, noSemicolon'⟩ := List.forall_mem_cons.mp noSemicolon
    obtain ⟨notColon, noColon'⟩ := List.forall_mem_cons.mp noColon
    exact .more notSemicolon notColon (inductionHypothesis noSemicolon' noColon')

/-- One declaration is read as one statement wherever it stands. -/
theorem IsSimple.exists_reads {tokens : List Token} (isSimple : IsSimple tokens)
    (noEof : ∀ token ∈ tokens, token.kind ≠ .eof) :
    ∃ stmts reports, ReadsDeclarations tokens stmts reports := by
  obtain ⟨front, semicolon, rfl, isSemicolon, noSemicolon⟩ := isSimple.closed
  have segment := Segment.of_append isSemicolon noSemicolon fun token member =>
    isSimple.noColon token (List.mem_append_left _ member)
  obtain ⟨token, rest, same⟩ := segment.exists_head
  obtain ⟨stmt, reports, read⟩ :=
    Pass.exists_declaration_of_segment segment noEof isSimple.noOpeners
  have notDot := isSimple.noDot token (same ▸ List.mem_cons_self)
  exact ⟨[stmt], reports, readsDeclarations_singleton ⟨token, rest, same, notDot⟩ read⟩

/-- Tokens without a fatal report are read alike wherever they stand. -/
theorem exists_reads_of_noFatal {tokens : List Token} {file : String}
    (noEof : ∀ token ∈ tokens, token.kind ≠ .eof)
    (noFatal : ∀ report ∈ (Program.ofTokens tokens file).log.reported,
      report.fault.cause.fatal = false) :
    ∃ stmts reports, ReadsDeclarations tokens stmts reports := by
  obtain ⟨notes, derived, reported⟩ :=
    Pass.exists_derivation (Pass.standard_start tokens file) rfl noFatal
  rw [Pass.ahead_start_of_noEof noEof] at derived
  have lenient :
      Declarations .targetsOnly tokens (Pass.start tokens file).declarations.1 notes := by
    refine derived.of_reports (fun _ _ _ => trivial) fun report member fatal => ?_
    rw [reported] at member
    rw [noFatal report member] at fatal
    cases fatal
  exact ⟨_, _, readsDeclarations_of_derives id lenient⟩

/-- A part is read as what it is on its own wherever it stands. -/
theorem IsPart.reads {file : String} {tokens : List Token} (isPart : IsPart file tokens) :
    ReadsDeclarations tokens (Program.ofTokens tokens file).statements
      (Program.ofTokens tokens file).log.reported := by
  have exists_reads : ∃ stmts reports, ReadsDeclarations tokens stmts reports := by
    rcases isPart.isolated with noFatal | isSimple
    · exact exists_reads_of_noFatal isPart.noEof noFatal
    · exact isSimple.exists_reads isPart.noEof
  obtain ⟨stmts, reports, reads⟩ := exists_reads
  rw [Program.ofTokens_of_reads (Pass.ahead_start_of_noEof isPart.noEof file) reads]
  exact reads

/-! ### Parts one after another -/

theorem noElse_flatten {parts : List (List Token)}
    (noElse : ∀ part ∈ parts, ∀ token ∈ part.head?, token.kind ≠ .word .else_) :
    ∀ token ∈ parts.flatten.head?, token.kind ≠ .word .else_ := by
  induction parts with
  | nil => exact fun _ member => by cases member
  | cons part parts inductionHypothesis =>
    obtain ⟨first, others⟩ := List.forall_mem_cons.mp noElse
    cases part with
    | nil => exact inductionHypothesis others
    | cons token part => exact first

theorem IsPart.reads_flatten {file : String} {parts : List (List Token)}
    (areParts : ∀ part ∈ parts, IsPart file part) :
    ReadsDeclarations parts.flatten
      (parts.flatMap fun part => (Program.ofTokens part file).statements)
      (parts.flatMap fun part => (Program.ofTokens part file).log.reported) := by
  induction parts with
  | nil => exact readsDeclarations_nil
  | cons part parts inductionHypothesis =>
    obtain ⟨first, others⟩ := List.forall_mem_cons.mp areParts
    exact readsDeclarations_append (noElse_flatten fun part member => (others part member).noElse)
      first.reads (inductionHypothesis others)

/-- Parts one after another are read as what each of them is on its own, and so they are in a
block. -/
theorem Program.ofTokens_flatten {file : String} {parts : List (List Token)}
    (areParts : ∀ part ∈ parts, IsPart file part) :
    ofTokens parts.flatten file =
        ⟨parts.flatMap fun part => (ofTokens part file).statements,
          ⟨parts.flatMap fun part => (ofTokens part file).log.reported⟩⟩ ∧
      ∀ colon dot : Token, colon.kind = .mark .colon → dot.kind = .mark .dot →
        ofTokens (colon :: (parts.flatten ++ [dot])) file =
          ⟨[.block (parts.flatMap fun part => (ofTokens part file).statements)],
            ⟨parts.flatMap fun part => (ofTokens part file).log.reported⟩⟩ := by
  have noEof : ∀ token ∈ parts.flatten, token.kind ≠ .eof := by
    intro token member
    obtain ⟨part, isPart, inPart⟩ := List.mem_flatten.mp member
    exact (areParts part isPart).noEof token inPart
  have reads := IsPart.reads_flatten areParts
  refine ⟨ofTokens_of_reads (Pass.ahead_start_of_noEof noEof file) reads,
    fun colon dot isColon isDot => ?_⟩
  have isHead : colon.kind ∈ statementHeads := by rw [isColon]; decide
  have block := readsDeclaration_statement ⟨colon, _, rfl, isHead⟩
    (readsStatement_block isColon reads isDot)
  have noEof' : ∀ token ∈ colon :: (parts.flatten ++ [dot]), token.kind ≠ .eof := by
    refine List.forall_mem_cons.mpr ⟨by rw [isColon]; decide, ?_⟩
    refine List.forall_mem_append.mpr ⟨noEof, List.forall_mem_singleton.mpr ?_⟩
    rw [isDot]
    decide
  exact ofTokens_of_reads (Pass.ahead_start_of_noEof noEof' file) (readsDeclarations_declaration
    ⟨colon, _, rfl, List.mem_append_right _ isHead⟩ block)

/-- A variable without a name does not disturb the declarations around it. -/
theorem Program.ofTokens_flatten_nameless :
    ofTokens
        [[.ofWord .let_, .ofName "x", .ofMark .semicolon], [.ofWord .let_, .ofMark .semicolon],
          [.ofWord .say, .ofName "x", .ofMark .semicolon]].flatten "" =
      ⟨[.var (.ofName "x") none, .error (.ofMark .semicolon), .print (.name (.ofName "x"))],
        ⟨[⟨.ofMark .semicolon,
          (Token.ofMark .semicolon).fault (.missing ";" "Expect variable name.")⟩]⟩⟩ := by
  have first : IsPart "" [.ofWord .let_, .ofName "x", .ofMark .semicolon] :=
    ⟨by decide, by decide, .inl (by decide +kernel)⟩
  have second : IsPart "" [.ofWord .let_, .ofMark .semicolon] :=
    ⟨by decide, by decide,
      .inr ⟨⟨[.ofWord .let_], .ofMark .semicolon, rfl, rfl, by decide⟩, by decide, by decide,
        by decide⟩⟩
  have third : IsPart "" [.ofWord .say, .ofName "x", .ofMark .semicolon] :=
    ⟨by decide, by decide, .inl (by decide +kernel)⟩
  have areParts := List.forall_mem_cons.mpr ⟨first, List.forall_mem_cons.mpr
    ⟨second, List.forall_mem_singleton.mpr third⟩⟩
  exact (ofTokens_flatten areParts).1.trans (by cbv)

end Parlance
