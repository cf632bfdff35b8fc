/-
This file proves that a program is read by the kinds of its tokens. Two lists of tokens of the same
kinds, in which strings and numbers have the same values, give programs that are alike and keep
tokens from the same places of their lists, and the same is reported of them at tokens that stand at
the same places. It makes no difference where the tokens stand in their sources or how they are
written, nor which of the words is used that print a value, nor which of those that compare two.
-/

import Parlance.Proofs.InStep

namespace Parlance

namespace Token

/-- Two tokens that stand at the same place in two lists. -/
def Together (tokens tokens' : List Token) (token token' : Token) : Prop :=
  ∃ index : Nat, tokens[index]? = some token ∧ tokens'[index]? = some token'

/-- The tokens of a list, each with its place in the list for its line. -/
def numbered (tokens : List Token) : List Token :=
  tokens.mapIdx fun index token => { token with line := index }

variable {tokens tokens' : List Token}

theorem forall₂_together {same : Token → Token → Prop}
    (similar : List.Forall₂ same tokens tokens') :
    List.Forall₂ (Together tokens tokens') tokens tokens' := by
  refine List.forall₂_iff_get.mpr ⟨similar.length_eq, fun index inside inside' => ⟨index, ?_, ?_⟩⟩
  · exact List.getElem?_eq_getElem inside
  · exact List.getElem?_eq_getElem inside'

/-- Similar tokens of two lists correspond if they stand at the same place. -/
def pairingOf (similar : List.Forall₂ Similar tokens tokens') : Pairing :=
  .ofSimilar (Together tokens tokens') <| by
    rintro token token' ⟨index, found, found'⟩
    obtain ⟨inside, rfl⟩ := List.getElem?_eq_some_iff.mp found
    obtain ⟨inside', rfl⟩ := List.getElem?_eq_some_iff.mp found'
    exact similar.get inside inside'

theorem similar_self (similar : List.Forall₂ Similar tokens tokens') :
    List.Forall₂ Similar tokens tokens := by
  induction similar with
  | nil => exact .nil
  | cons first _ inductionHypothesis =>
    exact .cons ⟨.inl rfl, fun hasValue => ⟨(first.literal hasValue).1, rfl⟩⟩ inductionHypothesis

theorem numbered_similar (similar : List.Forall₂ Similar tokens tokens') :
    List.Forall₂ Similar (numbered tokens) tokens' := by
  have length : (numbered tokens).length = tokens.length := List.length_mapIdx
  refine List.forall₂_iff_get.mpr ⟨length.trans similar.length_eq, fun index inside inside' => ?_⟩
  have each : (tokens.get ⟨index, length ▸ inside⟩).Similar (tokens'.get ⟨index, inside'⟩) :=
    similar.get (length ▸ inside) inside'
  rw [List.get_eq_getElem, List.get_eq_getElem] at each ⊢
  simp only [numbered, List.getElem_mapIdx]
  exact ⟨each.kind, each.literal⟩

theorem map_line_numbered (tokens : List Token) :
    (numbered tokens).map Token.line = List.range tokens.length := by
  refine List.ext_getElem (by simp [numbered]) fun index inside inside' => ?_
  simp [numbered]

/-- A numbered token tells its place. -/
theorem getElem?_line_of_together {token token' : Token}
    (together : Together (numbered tokens) tokens' token token') :
    tokens'[token.line]? = some token' := by
  obtain ⟨index, found, found'⟩ := together
  have line : token.line = index := by
    rw [numbered, List.getElem?_mapIdx] at found
    obtain ⟨_, -, rfl⟩ := Option.map_eq_some_iff.mp found
    rfl
  rw [line, found']

theorem map_some_of_together {kept kept' : List Token}
    (together : List.Forall₂ (Together (numbered tokens) tokens') kept kept') :
    kept'.map some = (kept.map Token.line).map fun index => tokens'[index]? := by
  induction together with
  | nil => rfl
  | cons first _ inductionHypothesis =>
    rw [List.map_cons, List.map_cons, List.map_cons, inductionHypothesis,
      getElem?_line_of_together first]

theorem upToEof_sublist (ends : ∃ token ∈ tokens, token.kind = .eof) (file : String) :
    (upToEof tokens file).Sublist tokens := by
  obtain ⟨token, member, isEof⟩ := ends
  cases found : tokens.find? (·.kind = .eof) with
  | none => exact absurd isEof (by simpa using List.find?_eq_none.mp found token member)
  | some eof =>
    obtain ⟨kind, before, after, split, others⟩ := List.find?_eq_some_iff_append.mp found
    have ahead : tokens.takeWhile (·.kind ≠ .eof) = before := by
      rw [split, List.takeWhile_append_of_pos (by simpa using others),
        List.takeWhile_cons_of_neg (by simpa using kind), List.append_nil]
    rw [upToEof, firstEof, found, ahead, Option.getD_some, split]
    exact (List.Sublist.refl before).append ((List.nil_sublist after).cons_cons eof)

end Token

namespace Program

variable {tokens tokens' : List Token}

theorem alike_of_similar (similar : List.Forall₂ Token.Similar tokens tokens')
    (ends : ∃ token ∈ tokens, token.kind = .eof) (file file' : String) :
    List.Forall₂ (Stmt.Alike (Token.Together tokens tokens') (Token.Together tokens tokens'))
        (ofTokens tokens file).statements (ofTokens tokens' file').statements ∧
      List.Forall₂ (Diagnostic.Alike (Token.Together tokens tokens'))
        (ofTokens tokens file).log.reported (ofTokens tokens' file').log.reported := by
  have tables : (Token.pairingOf similar).tables .declarations .declarations ∧
      (Token.pairingOf similar).tables .statements .statements :=
    ⟨⟨rfl, .inl rfl⟩, ⟨rfl, .inr rfl⟩⟩
  have started : (Pass.start tokens file).Alike (Token.pairingOf similar)
      (Pass.start tokens' file') :=
    Pass.start_alike_of_forall₂ tables (Token.forall₂_together similar) ends file file'
  obtain ⟨statements, passes⟩ := Pairing.inPrograms.parallel_declarations started
  exact ⟨statements, passes.log.imp fun _ _ both => ⟨both.1, both.2⟩⟩

/-- The tokens in a program stand where those stand in the program of the numbered tokens, whose
lines tell their places. -/
theorem map_allTokens_eq (similar : List.Forall₂ Token.Similar tokens tokens')
    (ends : ∃ token ∈ Token.numbered tokens, token.kind = .eof) (file file' : String) :
    (Stmt.allTokens (ofTokens tokens' file').statements).map some =
      ((Stmt.allTokens (ofTokens (Token.numbered tokens) file).statements).map Token.line).map
        fun index => tokens'[index]? := by
  have alike := (alike_of_similar (Token.numbered_similar similar) ends file file').1
  exact Token.map_some_of_together (Stmt.Alike.allTokens alike)

/-- The places of the tokens in a program increase. -/
theorem pairwise_line_numbered (ends : ∃ token ∈ Token.numbered tokens, token.kind = .eof)
    (file : String) :
    ((Stmt.allTokens (ofTokens (Token.numbered tokens) file).statements).map Token.line).Pairwise
      (· < ·) := by
  have inOrder := Pass.sublist_declarations (Pass.standard_start (Token.numbered tokens) file)
  rw [Pass.upToEof_eq] at inOrder
  have lines := (inOrder.trans (Token.upToEof_sublist ends file)).map Token.line
  rw [Token.map_line_numbered] at lines
  exact List.pairwise_lt_range.sublist lines

/-- Two lists of similar tokens that end in an end token are read alike. The programs have the same
form and the same literals, each keeps tokens from the same places of its list as the other, in
increasing order, and equally many reports are made, of the same names and messages and at tokens
from the same places. -/
theorem ofTokens_alike (similar : List.Forall₂ Token.Similar tokens tokens')
    (ends : ∃ before eof, tokens = before ++ [eof] ∧ eof.kind = .eof) (file file' : String) :
    let program := ofTokens tokens file
    let program' := ofTokens tokens' file'
    List.Forall₂ (Stmt.Alike (Token.Together tokens tokens') (Token.Together tokens tokens'))
        program.statements program'.statements ∧
      (∃ indices : List Nat, indices.Pairwise (· < ·) ∧
        (Stmt.allTokens program.statements).map some = indices.map (fun index => tokens[index]?) ∧
        (Stmt.allTokens program'.statements).map some =
          indices.map (fun index => tokens'[index]?)) ∧
      List.Forall₂ (fun report report' =>
          Token.Together tokens tokens' report.token report'.token ∧
          report.fault.cause.name = report'.fault.cause.name ∧
          report.fault.cause.message = report'.fault.cause.message)
        program.log.reported program'.log.reported := by
  intro program program'
  obtain ⟨before, eof, split, isEof⟩ := ends
  have ends : ∃ token ∈ tokens, token.kind = .eof :=
    ⟨eof, split ▸ List.mem_append_right before List.mem_cons_self, isEof⟩
  have ends' : ∃ token ∈ Token.numbered tokens, token.kind = .eof :=
    ⟨{ eof with line := before.length }, by simp [Token.numbered, split], isEof⟩
  obtain ⟨statements, reports⟩ := alike_of_similar similar ends file file'
  have places := map_allTokens_eq (Token.similar_self similar) ends' file file
  have places' := map_allTokens_eq similar ends' file file'
  refine ⟨statements, ⟨_, pairwise_line_numbered ends' file, places, places'⟩, ?_⟩
  exact reports.imp fun report report' alike => ⟨alike.token, alike.cause⟩

/-- A comparison that is printed, and behind it a variable without a name. -/
theorem ofTokens_alike_nameless :
    let tokens := [.ofWord .know, .ofName "x", .ofWord .is,
      ⟨.string, "\"a\"", some (.string "a"), 1, ⟨⟨0, ""⟩, ⟨0, ""⟩⟩⟩, .ofMark .semicolon,
      .ofWord .let_, Token.bare .eof "EOF"]
    let tokens' := [.ofWord .say, .ofName "y", .ofWord .are,
      ⟨.string, "\"a\"", some (.string "a"), 2, ⟨⟨9, ""⟩, ⟨9, ""⟩⟩⟩, .ofMark .semicolon,
      .ofWord .let_, Token.bare .eof "EOF"]
    List.Forall₂ Token.Similar tokens tokens' ∧
      (ofTokens tokens "f").statements.length = 2 ∧
      List.Forall₂ (Stmt.Alike (Token.Together tokens tokens') (Token.Together tokens tokens'))
        (ofTokens tokens "f").statements (ofTokens tokens' "g").statements ∧
      (ofTokens tokens "f").log.reported.map (·.fault.cause.message) = ["Expect variable name."] ∧
      List.Forall₂ (fun report report' =>
          Token.Together tokens tokens' report.token report'.token ∧
          report.fault.cause.name = report'.fault.cause.name ∧
          report.fault.cause.message = report'.fault.cause.message)
        (ofTokens tokens "f").log.reported (ofTokens tokens' "g").log.reported := by
  intro tokens tokens'
  have similar : List.Forall₂ Token.Similar tokens tokens' := by decide
  obtain ⟨statements, -, reports⟩ :=
    ofTokens_alike similar ⟨tokens.dropLast, Token.bare .eof "EOF", rfl, rfl⟩ "f" "g"
  exact ⟨similar, by decide +kernel, statements, by decide +kernel, reports⟩

end Program

end Parlance
