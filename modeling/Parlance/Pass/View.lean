/-
This file looks at a pass from where it stands. What matters of all its tokens are those that have
been read, those that are still ahead of it, up to the next end token, and this end token itself;
what stands behind that is never seen. Reading a token moves it from those ahead to those behind,
and each way to look at a pass and to move it is told here in these terms.
-/

import Parlance.Pass.Basic

namespace Parlance

namespace Token

variable (tokens : List Token) (file : String)

theorem takeWhile_append {tokens : List Token} (noEof : ∀ token ∈ tokens, token.kind ≠ .eof)
    (rest : List Token) :
    (tokens ++ rest).takeWhile (·.kind ≠ .eof) = tokens ++ rest.takeWhile (·.kind ≠ .eof) :=
  List.takeWhile_append_of_pos fun token member => decide_eq_true (noEof token member)

/-- The first end token of a list of tokens, which is made for it if it has none. -/
def firstEof : Token :=
  (tokens.find? (·.kind = .eof)).getD (eofAfter tokens file)

/-- The first end token stands behind those tokens that are none. -/
theorem exists_closed_eq : ∃ unseen,
    closed tokens file = tokens.takeWhile (·.kind ≠ .eof) ++ firstEof tokens file :: unseen := by
  unfold firstEof closed
  cases found : tokens.find? (·.kind = .eof) with
  | none =>
    have others : ∀ token ∈ tokens, token.kind ≠ .eof := by simpa using found
    have last : tokens.getLast?.any (·.kind = .eof) = false := by
      rw [Option.any_eq_false_iff_get]
      exact fun isSome => decide_eq_false
        (others _ (List.mem_of_getLast? (Option.some_get isSome).symm))
    have whole := takeWhile_append others []
    rw [List.append_nil, List.takeWhile_nil, List.append_nil] at whole
    rw [last, whole]
    exact ⟨[], rfl⟩
  | some eof =>
    obtain ⟨isEof, before, after, rfl, others⟩ := List.find?_eq_some_iff_append.mp found
    have isEof : eof.kind = .eof := of_decide_eq_true isEof
    have front : (before ++ eof :: after).takeWhile (·.kind ≠ .eof) = before := by
      rw [takeWhile_append (by simpa using others)]
      simp [isEof]
    rw [front]
    split
    · exact ⟨after, rfl⟩
    · exact ⟨_, List.append_assoc _ _ _⟩

theorem exists_closed_append (before after : List Token) (eof : Token) (file : String) :
    ∃ unseen, closed (before ++ eof :: after) file = before ++ eof :: unseen := by
  unfold closed
  split
  · exact ⟨after, rfl⟩
  · exact ⟨_, List.append_assoc _ _ _⟩

theorem kind_firstEof : (firstEof tokens file).kind = .eof := by
  unfold firstEof
  cases found : tokens.find? (·.kind = .eof) with
  | none => exact kind_eofAfter tokens file
  | some token => simpa using List.find?_some found

end Token

namespace Pass

variable {pass : Pass}

/-! ### The tokens around the cursor -/

/-- The tokens that have been read, the latest one first. -/
def behind (pass : Pass) : List Token :=
  (pass.stream.toList.take pass.cursor).reverse

/-- The tokens from the current one on. -/
def rest (pass : Pass) : List Token :=
  pass.stream.toList.drop pass.cursor

/-- The tokens still to be read, among which is no end token. -/
def ahead (pass : Pass) : List Token :=
  pass.rest.takeWhile (·.kind ≠ .eof)

/-- The end token at which the pass stops. -/
def final (pass : Pass) : Token :=
  (pass.rest.find? (·.kind = .eof)).getD pass.current

/-- The tokens that the pass is over, the end token left out. -/
def tokens (pass : Pass) : List Token :=
  pass.behind.reverse ++ pass.ahead

theorem stream_eq (pass : Pass) : pass.stream.toList = pass.behind.reverse ++ pass.rest := by
  rw [behind, List.reverse_reverse]
  exact (List.take_append_drop _ _).symm

theorem length_behind (pass : Pass) : pass.behind.length = pass.cursor := by
  rw [behind, List.length_reverse, List.length_take]
  exact Nat.min_eq_left (Nat.le_of_lt pass.inside)

theorem length_rest (pass : Pass) : pass.rest.length = pass.left := by
  rw [rest, List.length_drop]
  rfl

theorem rest_eq_cons (pass : Pass) :
    pass.rest = pass.current :: pass.stream.toList.drop (pass.cursor + 1) :=
  List.drop_eq_getElem_cons pass.inside

theorem noEof_ahead (pass : Pass) : ∀ token ∈ pass.ahead, token.kind ≠ .eof :=
  fun token member => of_decide_eq_true (List.all_eq_true.mp List.all_takeWhile token member)

/-- The tokens up to the first end token are those ahead. -/
theorem ahead_of_rest {tokens unseen : List Token} {eof : Token}
    (split : pass.rest = tokens ++ eof :: unseen) (noEof : ∀ token ∈ tokens, token.kind ≠ .eof)
    (isEof : eof.kind = .eof) : pass.ahead = tokens ∧ pass.final = eof := by
  have passed : ∀ token ∈ tokens, decide (token.kind ≠ .eof) = true :=
    fun token member => decide_eq_true (noEof token member)
  constructor
  · rw [ahead, split, List.takeWhile_append_of_pos passed]
    simp [isEof]
  · have skipped : tokens.find? (·.kind = .eof) = none :=
      List.find?_eq_none.mpr fun token member => by simpa using noEof token member
    rw [final, split, List.find?_append, skipped]
    simp [isEof]

theorem final_spec (pass : Pass) :
    pass.final.kind = .eof ∧ ∃ unseen, pass.rest = pass.ahead ++ pass.final :: unseen := by
  obtain ⟨isSome, isEof⟩ := (Option.any_eq_true_iff_get _ _).mp pass.closed
  have last : pass.rest.getLast? = some (pass.stream.back?.get isSome) := by
    have inside : ¬ pass.stream.toList.length ≤ pass.cursor := Nat.not_le.mpr pass.inside
    rw [rest, List.getLast?_drop, if_neg inside, Array.getLast?_toList, Option.some_get]
  cases found : pass.rest.find? (·.kind = .eof) with
  | none => exact absurd isEof (List.find?_eq_none.mp found _ (List.mem_of_getLast? last))
  | some eof =>
    obtain ⟨isEof, tokens, unseen, split, others⟩ := List.find?_eq_some_iff_append.mp found
    have isEof : eof.kind = .eof := of_decide_eq_true isEof
    obtain ⟨rfl, rfl⟩ := ahead_of_rest split (by simpa using others) isEof
    exact ⟨isEof, unseen, split⟩

theorem kind_final (pass : Pass) : pass.final.kind = .eof :=
  pass.final_spec.1

/-- The end token of a pass stands behind the tokens ahead. -/
theorem exists_rest_eq (pass : Pass) : ∃ unseen, pass.rest = pass.ahead ++ pass.final :: unseen :=
  pass.final_spec.2

/-- A pass that starts is over the tokens up to the first end token, and has them all ahead. -/
theorem ahead_start (tokens : List Token) (file : String) :
    (start tokens file).ahead = tokens.takeWhile (·.kind ≠ .eof) ∧
      (start tokens file).final = Token.firstEof tokens file := by
  obtain ⟨unseen, split⟩ := Token.exists_closed_eq tokens file
  refine ahead_of_rest split (fun token member => ?_) (Token.kind_firstEof tokens file)
  exact of_decide_eq_true (List.all_eq_true.mp List.all_takeWhile token member)

theorem length_ahead_lt (pass : Pass) : pass.ahead.length < pass.left := by
  obtain ⟨unseen, split⟩ := pass.exists_rest_eq
  rw [← length_rest, split, List.length_append, List.length_cons]
  omega

/-! ### Looking -/

theorem current_of_ahead {token : Token} {rest : List Token} (ahead : pass.ahead = token :: rest) :
    pass.current = token := by
  obtain ⟨unseen, split⟩ := pass.exists_rest_eq
  rw [rest_eq_cons, ahead] at split
  exact (List.cons.inj split).1

theorem current_of_nil (ahead : pass.ahead = []) : pass.current = pass.final := by
  obtain ⟨unseen, split⟩ := pass.exists_rest_eq
  rw [rest_eq_cons, ahead] at split
  exact (List.cons.inj split).1

/-- At the end the current token is the end token. -/
theorem kind_current_of_nil (ahead : pass.ahead = []) : pass.current.kind = .eof := by
  rw [current_of_nil ahead]
  exact pass.kind_final

theorem ahead_eq_nil_iff : pass.ahead = [] ↔ pass.current.kind = .eof := by
  refine ⟨kind_current_of_nil, fun isEof => ?_⟩
  cases ahead : pass.ahead with
  | nil => rfl
  | cons token rest =>
    rw [current_of_ahead ahead] at isEof
    exact absurd isEof (pass.noEof_ahead token (by rw [ahead]; exact List.mem_cons_self))

theorem atEnd_eq_true_iff : pass.atEnd = true ↔ pass.ahead = [] := by
  rw [ahead_eq_nil_iff, atEnd, decide_eq_true_iff]

theorem atEnd_eq_false_iff : pass.atEnd = false ↔ pass.ahead ≠ [] := by
  rw [← Bool.not_eq_true, atEnd_eq_true_iff]

theorem check_eq_true_iff {kind : Kind} :
    pass.check kind = true ↔ ∃ token rest, pass.ahead = token :: rest ∧ token.kind = kind := by
  cases ahead : pass.ahead with
  | nil => simp [check, atEnd_eq_true_iff.mpr ahead]
  | cons token rest =>
    have notAtEnd : pass.atEnd = false :=
      atEnd_eq_false_iff.mpr (ahead ▸ List.cons_ne_nil token rest)
    simp [check, notAtEnd, current_of_ahead ahead]

theorem check_eq_false {kind : Kind} {token : Token} {rest : List Token}
    (ahead : pass.ahead = token :: rest) (other : token.kind ≠ kind) : pass.check kind = false := by
  rw [← Bool.not_eq_true, check_eq_true_iff]
  rintro ⟨head, tail, ahead', isKind⟩
  obtain ⟨rfl, -⟩ := List.cons.inj (ahead.symm.trans ahead')
  exact other isKind

/-- The token in front of the current one is the one read last. -/
theorem previous_eq (pass : Pass) : pass.previous = pass.behind.headD pass.current := by
  have inside := pass.inside
  cases cursor : pass.cursor with
  | zero =>
    have first : pass.behind = [] := by rw [behind, cursor]; rfl
    rw [first]
    simp [previous, current, cursor]
  | succ count =>
    have count_lt : count < pass.stream.toList.length := by
      rw [Array.length_toList]
      omega
    have last : pass.behind = pass.stream.toList[count] ::
        (pass.stream.toList.take count).reverse := by
      rw [behind, cursor, List.take_succ_eq_append_getElem count_lt, List.reverse_append]
      rfl
    rw [last]
    simp [previous, cursor]

/-! ### Moving -/

/-- A pass that stands further in the same tokens has read those between. -/
theorem view_of_cursor {next : Pass} {tokens rest : List Token} (stream : next.stream = pass.stream)
    (cursor : next.cursor = pass.cursor + tokens.length) (ahead : pass.ahead = tokens ++ rest) :
    next.behind = tokens.reverse ++ pass.behind ∧ next.ahead = rest ∧ next.final = pass.final := by
  obtain ⟨unseen, split⟩ := pass.exists_rest_eq
  rw [ahead, List.append_assoc] at split
  constructor
  · have taken : pass.rest.take tokens.length = tokens := by rw [split, List.take_left]
    rw [behind, behind, stream, cursor, List.take_add, List.reverse_append]
    exact congrArg (fun read : List Token => read.reverse ++ _) taken
  · have dropped : next.rest = pass.rest.drop tokens.length := by
      rw [Pass.rest, Pass.rest, stream, cursor, List.drop_drop]
    rw [split, List.drop_left] at dropped
    refine ahead_of_rest dropped (fun token member => pass.noEof_ahead token ?_) pass.kind_final
    rw [ahead]
    exact List.mem_append_right tokens member

theorem advance_of_nil (ahead : pass.ahead = []) : pass.advance = pass :=
  dif_pos (atEnd_eq_true_iff.mpr ahead)

theorem advance_eq {token : Token} {rest : List Token} (ahead : pass.ahead = token :: rest) :
    ∃ inside, pass.advance = { pass with cursor := pass.cursor + 1, inside } :=
  ⟨_, dif_neg (Bool.eq_false_iff.mp (atEnd_eq_false_iff.mpr (ahead ▸ List.cons_ne_nil token rest)))⟩

end Pass

end Parlance
