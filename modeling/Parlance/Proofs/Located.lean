/-
This file says where in a source its tokens and faults stand. A token other than the end token, and
the fault for which a source cannot be divided, stand at a character of the source that is no blank;
the end token stands at its end. What is reported of a program is located at the token it blames.
The line of a token was counted while the source was divided; that it agrees with the number of the
line that an excerpt shows for it is the main result here. Only at the end of a source that ends in
a newline do the two differ: no line follows that newline.
-/

import Parlance.Proofs.Blame
import Parlance.Proofs.Kinds
import Parlance.Proofs.Layout
import Parlance.Proofs.Lines
import Parlance.Proofs.Refusal
import Parlance.Proofs.Spacing

namespace Parlance

open Text

/-! ### Positions in a source -/

/-- A position is that of the character `c` of a source, which is no blank, between `front` and
`back`. -/
structure Position.PointsAt (source : List Char) (position : Position) (front : List Char)
    (c : Char) (back : List Char) : Prop where
  text : source = front ++ c :: back
  offset : position.offset = (width front).toUInt32
  notBlank : isBlank c = false

/-- A token stands at a character of a source, or is the end token at its end, and its line is
counted by the newlines in front of it. -/
inductive Token.Located (source : List Char) (token : Token) : Prop
  | inside {front c back} : token.kind ≠ .eof → token.position.PointsAt source front c back →
      token.line = 1 + lineEnds front → Located source token
  | ended : token.kind = .eof → token.position.offset = (width source).toUInt32 →
      token.line = 1 + lineEnds source → Located source token

theorem toNat_toUInt32 {offset : Nat} (short : offset < UInt32.size) :
    offset.toUInt32.toNat = offset :=
  UInt32.toNat_ofNat_of_lt' short

/-! ### Tokens -/

theorem Divides.stops_isBlank {place : Place} {text : List Char} {tokens : List Token}
    (divides : Divides place text tokens) :
    ∀ token ∈ tokens, token.kind ≠ .eof → Stops isBlank token.value.toList := by
  induction divides with
  | ended =>
    intro token member notEof
    rw [List.mem_singleton.mp member] at notEof
    exact absurd rfl notEof
  | skipped _ _ _ inductionHypothesis => exact inductionHypothesis
  | @token place _ kind literal _ lexeme _ spells isToken _ inductionHypothesis =>
    refine List.forall_mem_cons.mpr ⟨fun _ => ?_, inductionHypothesis⟩
    rw [place.toList_value_tokenOf, ← List.append_nil lexeme]
    exact spells.stops_isBlank isToken []

theorem Site.Stands.located {source : List Char} {file : String} {site : Site}
    (stands : site.Stands source file) (stops : Stops isBlank site.lexeme) :
    site.token.Located source := by
  obtain ⟨c, more, lexeme⟩ := List.exists_cons_of_ne_nil stands.notEmpty
  have points : site.token.position.PointsAt source site.front c (more ++ site.back) := by
    refine ⟨?_, ?_, stops c (by rw [lexeme]; rfl)⟩
    · rw [← stands.text, lexeme, List.append_assoc, List.cons_append]
    · rw [Token.position, stands.span]
      rfl
  exact .inside stands.notEof points stands.line

theorem Token.located_of_tokenize {source file : String} {tokens : List Token}
    (done : tokenize source file = .ok tokens) : ∀ token ∈ tokens, token.Located source.toList := by
  have divides := tokenize_eq_ok_iff.mp done
  have start : ({ file } : Place) = .behind file [] := rfl
  obtain ⟨sites, same, stand, -⟩ := divides.exists_sites start
  have stops := divides.stops_isBlank
  intro token member
  rw [same, List.nil_append] at member
  rcases List.mem_append.mp member with member | member
  · obtain ⟨site, isSite, rfl⟩ := List.mem_map.mp member
    have stands := stand site isSite
    refine stands.located (stops _ ?_ stands.notEof)
    rw [same]
    exact List.mem_append_left _ (List.mem_map_of_mem isSite)
  · rw [List.mem_singleton.mp member]
    refine .ended rfl ?_ rfl
    rw [← width_nil, Place.spanOf_behind]
    rfl

/-! ### Faults -/

theorem Place.pointsAt_behind (file : String) (front : List Char) {c : Char} (back : List Char)
    (notBlank : isBlank c = false) :
    (behind file front).position.PointsAt (front ++ c :: back) front c back where
  text := rfl
  offset := by simp [position, behind, past]
  notBlank := notBlank

/-- The fault of a source stands at a character that is no blank, and the line of a string that is
not closed is the line of its quote. -/
theorem exists_pointsAt_of_tokenize {source file : String} {fault : Fault}
    (refused : tokenize source file = .error fault) :
    ∃ front c back, fault.position.PointsAt source.toList front c back ∧
      ∀ line, fault.cause = .unterminated line → line = 1 + lineEnds front := by
  have refusedWith := refusedWith_of_tokensFrom refused
  generalize source.toList = whole at refusedWith ⊢
  obtain @⟨front, c, back, obstacle, -, stands, rfl⟩ := refusedWith
  refine ⟨front, c, back, ?_, fun line isLine => ?_⟩
  · cases stands with
    | unknown noPiece => exact Place.pointsAt_behind file front back noPiece.notBlank
    | unclosed => exact Place.pointsAt_behind file front back rfl
  · cases stands with
    | unknown => cases isLine
    | unclosed =>
      cases isLine
      rfl

/-! ### Reports -/

theorem Program.exists_tokens {source file : String} {program : Program}
    (read : ofSource source file = .ok program) :
    ∃ tokens, tokenize source file = .ok tokens ∧ program = ofTokens tokens file := by
  rw [ofSource] at read
  cases done : tokenize source file with
  | error fault =>
    rw [done] at read
    cases read
  | ok tokens =>
    rw [done] at read
    cases read
    exact ⟨tokens, rfl, rfl⟩

/-- A report is located at a token of the source, which is then not empty. -/
theorem Program.located_of_report {source file : String} {program : Program}
    (read : ofSource source file = .ok program) {report : Diagnostic}
    (member : report ∈ program.log.reported) :
    report.fault.position = report.token.position ∧ report.token.Located source.toList ∧
      source.toList ≠ [] := by
  obtain ⟨tokens, done, rfl⟩ := exists_tokens read
  have located := Token.located_of_tokenize done
  obtain ⟨before, eof, rfl, isEof, others⟩ := (tokenize_eq_ok_iff.mp done).exists_eof
  have fresh : (Pass.start (before ++ [eof]) file).log.reported = [] := rfl
  have inOrder := (Pass.InOrder.refl fresh).declarations
  obtain ⟨blamed, position, -⟩ := inOrder.justified report member
  have blamed : report.token ∈ Token.upToEof (before ++ [eof]) file :=
    Pass.upToEof_eq (before ++ [eof]) file ▸ blamed
  have ends : ∃ token ∈ before ++ [eof], token.kind = .eof := ⟨eof, by simp, isEof⟩
  refine ⟨position, located _ ((Token.upToEof_sublist ends file).mem blamed), fun empty => ?_⟩
  -- An empty source has no token but the end token, and then nothing is read and reported.
  cases before with
  | nil =>
    have ahead := Pass.ahead_start_append others isEof file
    have log : (Pass.start ([] ++ [eof]) file).declarations.2.log.reported = [] := by
      rw [Pass.declarations_of_nil ahead]
      rfl
    have member' : report ∈ (Pass.start ([] ++ [eof]) file).declarations.2.log.reported := member
    rw [log] at member'
    cases member'
  | cons token before =>
    cases located token (by simp) with
    | inside _ points _ =>
      have text := points.text
      simp [empty] at text
    | ended isEnd _ _ => exact others token List.mem_cons_self isEnd

/-! ### Lines -/

section Spots

variable {source front back : List Char} {c : Char} {position : Position}

/-- The place of a position at a character is on the line of the character. -/
theorem Position.PointsAt.exists_spotAt (points : position.PointsAt source front c back)
    (short : width source < UInt32.size) :
    ∃ above start stop below, OnLine front c back above start stop below ∧
      spotAt source position.offset =
        .ok (some ⟨1 + lineEnds front, start ++ c :: stop, start.length⟩) := by
  obtain ⟨above, start, stop, below, onLine⟩ := exists_onLine front c back
  have before : width front < UInt32.size := by
    rw [points.text, width_append] at short
    omega
  refine ⟨above, start, stop, below, onLine, ?_⟩
  rw [spotAt, points.offset, toNat_toUInt32 before, points.text]
  exact spotIn_of_onLine onLine 1

/-- The place of the end of a source is on the line of the last character. -/
theorem exists_spotAt_of_ended (notEmpty : source ≠ []) (short : width source < UInt32.size) :
    ∃ front c line, source = front ++ [c] ∧ spotAt source (width source).toUInt32 =
      .ok (some ⟨1 + lineEnds front, line, line.length⟩) := by
  obtain ⟨front, c, rfl⟩ : ∃ front c, source = front ++ [c] :=
    ⟨_, _, (List.dropLast_append_getLast notEmpty).symm⟩
  obtain ⟨above, start, stop, below, onLine⟩ := exists_onLine front c []
  refine ⟨front, c, start ++ [c], rfl, ?_⟩
  rw [spotAt, toNat_toUInt32 short]
  exact spotIn_of_ended onLine 1 (Nat.le_refl _)

/-- The line of a token is the number of the line that is shown for it, except for the end token
behind a newline, whose line is one more. -/
theorem Token.Located.exists_spotAt {token : Token} (located : token.Located source)
    (notEmpty : source ≠ []) (short : width source < UInt32.size) :
    ∃ spot, spotAt source token.position.offset = .ok (some spot) ∧
      (token.kind ≠ .eof → spot.number = token.line) ∧
      (token.kind = .eof → source.getLast? ≠ some '\n' → spot.number = token.line) ∧
      (token.kind = .eof → source.getLast? = some '\n' → spot.number + 1 = token.line) := by
  cases located with
  | inside notEof points line =>
    obtain ⟨above, start, stop, below, -, found⟩ := points.exists_spotAt short
    exact ⟨_, found, fun _ => line.symm, fun isEof => absurd isEof notEof,
      fun isEof => absurd isEof notEof⟩
  | ended isEof offset line =>
    obtain ⟨front, c, shown, rfl, found⟩ := exists_spotAt_of_ended notEmpty short
    refine ⟨_, offset ▸ found, fun notEof => absurd isEof notEof, fun _ other => ?_,
      fun _ newline => ?_⟩
    · have notNewline : c ≠ '\n' := by simpa using other
      rw [line, lineEnds, lineEnds, List.count_append, List.count_singleton]
      simp [notNewline]
    · have isNewline : c = '\n' := by simpa using newline
      rw [line, lineEnds, lineEnds, List.count_append, List.count_singleton]
      simp [isNewline, Nat.add_assoc]

end Spots

/-- The lines that are counted while a source is divided agree with those that its excerpts show:
for every token but an end token behind a newline, for a string that is never closed, and so for all
that is reported of the program, unless it is reported at the end of a source that ends in a
newline. -/
theorem spot_number_eq_line {source : String} (notEmpty : source.toList ≠ [])
    (short : width source.toList < UInt32.size) (file : String) :
    (∀ tokens, tokenize source file = .ok tokens → ∀ token ∈ tokens,
      ∃ spot, spotAt source.toList token.span.start.offset = .ok (some spot) ∧
        (token.kind ≠ .eof → spot.number = token.line) ∧
        (token.kind = .eof → source.toList.getLast? ≠ some '\n' → spot.number = token.line) ∧
        (token.kind = .eof → source.toList.getLast? = some '\n' → spot.number + 1 = token.line)) ∧
    (∀ fault line, tokenize source file = .error fault → fault.cause = .unterminated line →
      ∃ spot, spotAt source.toList fault.position.offset = .ok (some spot) ∧
        spot.number = line) ∧
    (∀ program, Program.ofSource source file = .ok program →
      ∀ report ∈ program.log.reported,
        ∃ spot, spotAt source.toList report.fault.position.offset = .ok (some spot) ∧
          (spot.number ≠ report.token.line →
            report.token.kind = .eof ∧ source.toList.getLast? = some '\n')) := by
  refine ⟨fun tokens done token member => ?_, fun fault line refused isUnterminated => ?_,
    fun program read report member => ?_⟩
  · exact (Token.located_of_tokenize done token member).exists_spotAt notEmpty short
  · obtain ⟨front, c, back, points, lines⟩ := exists_pointsAt_of_tokenize refused
    obtain ⟨above, start, stop, below, -, found⟩ := points.exists_spotAt short
    exact ⟨_, found, (lines line isUnterminated).symm⟩
  · obtain ⟨position, located, -⟩ := Program.located_of_report read member
    obtain ⟨spot, found, inside, atEnd, -⟩ := located.exists_spotAt notEmpty short
    rw [← position] at found
    refine ⟨spot, found, fun differ => ?_⟩
    by_cases isEof : report.token.kind = .eof
    · exact ⟨isEof, Decidable.byContradiction fun other => differ (atEnd isEof other)⟩
    · exact absurd (inside isEof) differ

/-- A string over two lines and a newline behind it: the string begins on the first line, the end
token is on the third one, and the line that is shown for it is the second. -/
theorem spot_number_eq_line_finalNewline :
    ∃ say string eof : Token,
      tokenize "say \"a\n\"\n" "f" = .ok [say, string, eof] ∧
      (string.line, eof.line, eof.span.start.offset) = (1, 3, 9) ∧
      ∃ spot, spotAt "say \"a\n\"\n".toList 9 = .ok (some spot) ∧ spot.number + 1 = 3 := by
  have done : tokenize "say \"a\n\"\n" "f" = .ok
      [⟨.word .say, "say", none, 1, ⟨⟨0, "f"⟩, ⟨3, "f"⟩⟩⟩,
        ⟨.string, "\"a\n\"", some (.string "a\n"), 1, ⟨⟨4, "f"⟩, ⟨8, "f"⟩⟩⟩,
        Token.eof 3 ⟨⟨9, "f"⟩, ⟨9, "f"⟩⟩] := tokenize_of_toOption (by decide +kernel)
  have notEmpty : "say \"a\n\"\n".toList ≠ [] := by decide
  have short : width "say \"a\n\"\n".toList < UInt32.size := by decide
  obtain ⟨spot, found, -, -, behind⟩ := (spot_number_eq_line notEmpty short "f").1 _ done
    (Token.eof 3 ⟨⟨9, "f"⟩, ⟨9, "f"⟩⟩) (by simp)
  exact ⟨_, _, _, done, rfl, spot, found, behind rfl (by decide)⟩

end Parlance
