/-
This file says what a rendered fault shows. Of the line of a fault, the spaces it begins with and
the blanks it ends in are left out; but a fault that is not at the end of its source stands at a
character that is no blank, so the character is shown, and as many characters are shown in front of
it as there are dashes in front of the caret. The caret therefore stands below the character. Not
every fault can be rendered, though: the dashes and the caret have to fit into one field, and a line
can be too long for that.
-/

import Parlance.Proofs.Located

namespace Parlance

open Text

/-! ### The line as it is shown -/

namespace Text

variable {goesOn : Char → Bool} {c : Char}

/-- A run at the front of a text does not reach over a character at which its class stops. -/
theorem takeWhile_append_cons (stops : goesOn c = false) (start stop : List Char) :
    (start ++ c :: stop).takeWhile goesOn = start.takeWhile goesOn := by
  induction start with
  | nil => simp [stops]
  | cons d start inductionHypothesis =>
    by_cases more : goesOn d = true <;> simp [more, inductionHypothesis]

theorem decide_space_of_isBlank (notBlank : isBlank c = false) : decide (c = ' ') = false := by
  refine decide_eq_false fun space => ?_
  rw [space] at notBlank
  cases notBlank

end Text

namespace Spot

variable {c : Char} (number : Nat) (start stop : List Char)

theorem length_dashes_of_isBlank (notBlank : isBlank c = false) :
    (⟨number, start ++ c :: stop, start.length⟩ : Spot).dashes.length =
      (start.dropWhile (· = ' ')).length := by
  have whole : (start.takeWhile (· = ' ')).length + (start.dropWhile (· = ' ')).length =
      start.length := by
    rw [← List.length_append, List.takeWhile_append_dropWhile]
  rw [dashes, indent, takeWhile_append_cons (decide_space_of_isBlank notBlank),
    List.length_replicate]
  show start.length - _ = _
  omega

end Spot

/-! ### Carets -/

/-- A fault is rendered with the excerpt of its place, if the dashes and the caret fit into a
field. -/
theorem Fault.render_of_spotAt {fault : Fault} {source : String} {spot : Spot}
    (found : spotAt source.toList fault.position.offset = .ok (some spot)) (name : String) :
    fault.render source name =
      if spot.dashes.length < maxField then
        .ok (String.join ((fault.headline :: ("-> " ++ name) ::
          spot.excerpt.map String.ofList).map (· ++ "\n")))
      else .error .beyondMargin := by
  rw [render, excerptAt, found]
  show (Spot.checkedExcerpt spot).map _ = _
  rw [Spot.checkedExcerpt]
  split <;> rfl

theorem Fault.renders_of_spotAt {fault : Fault} {source : String} {spot : Spot}
    (found : spotAt source.toList fault.position.offset = .ok (some spot)) (name : String) :
    ((∃ text, fault.render source name = .ok text) ↔ spot.dashes.length < maxField) ∧
      (fault.render source name = .error .beyondMargin ↔ maxField ≤ spot.dashes.length) := by
  rw [render_of_spotAt found]
  by_cases fits : spot.dashes.length < maxField
  · simp [fits]
  · simp [fits, Nat.le_of_not_lt fits]

/-! ### A line that is too long -/

theorem width_replicate_tab (depth : Nat) : width (List.replicate depth '\t') = depth := by
  induction depth with
  | zero => rfl
  | succ depth inductionHypothesis =>
    rw [List.replicate_succ, width_cons, inductionHypothesis, Nat.add_comm]
    rfl

theorem tokensFrom_of_obstacle {first : Char} {rest : List Char} {obstacle : Obstacle}
    (place : Place) (refused : Cut.front first rest = .error obstacle) :
    tokensFrom place (first :: rest) = .error (obstacle.fault place) := by
  rw [tokensFrom]
  split
  · rename_i refused'
    rw [refused] at refused'
    cases refused'
    rfl
  · rename_i found
    rw [refused] at found
    cases found

/-- Tabs are blanks, but they are shown, so the caret for a character behind many tabs does not fit
into a field. -/
theorem exists_beyondMargin {source : String} {depth : Nat}
    (text : source.toList = List.replicate depth '\t' ++ ['@']) (deep : maxField ≤ depth)
    (short : depth + 1 < UInt32.size) (file : String) :
    width source.toList < UInt32.size ∧ ∃ fault, tokenize source file = .error fault ∧
      ∀ name, fault.render source name = .error .beyondMargin := by
  have allBlank : ∀ c ∈ List.replicate depth '\t', isBlank c = true := by
    intro c member
    rw [List.eq_of_mem_replicate member]
    rfl
  have noNewline : '\n' ∉ List.replicate depth '\t' := by simp
  have short' : width source.toList < UInt32.size := by
    rw [text, width_append, width_replicate_tab]
    exact short
  let fault := (Obstacle.unknown '@').fault (.behind file (List.replicate depth '\t'))
  have refused : tokenize source file = .error fault := by
    rw [tokenize, text, tokensFrom_blanks _ _ allBlank]
    exact tokensFrom_of_obstacle _ rfl
  have points : fault.position.PointsAt source.toList (List.replicate depth '\t') '@' [] := by
    rw [text]
    exact Place.pointsAt_behind file _ [] rfl
  obtain ⟨above, start, stop, below, onLine, found⟩ := points.exists_spotAt short'
  -- No line ends in front of the character, so all the tabs are on its line.
  have first : above = [] := by
    rcases onLine.endsLine with empty | ⟨front, rfl⟩
    · exact empty
    · have split := onLine.front_eq
      simp [split] at noNewline
  have wide : ¬ (start.dropWhile (· = ' ')).length < maxField := by
    have tabs := onLine.front_eq
    rw [first, List.nil_append] at tabs
    rw [← tabs, List.dropWhile_replicate]
    simpa using deep
  refine ⟨short', fault, refused, fun name => ?_⟩
  rw [Fault.render_of_spotAt found, Spot.length_dashes_of_isBlank _ _ _ points.notBlank,
    if_neg wide]

/-! ### Faults of a source -/

/-- The faults that a source gives: the one for which it cannot be divided into tokens, and those
that are reported of its program, each with the token it is reported at. -/
inductive Fault.Raised (source file : String) : Fault → Option Token → Prop
  | refused {fault} : tokenize source file = .error fault → Raised source file fault none
  | reported {program report} : Program.ofSource source file = .ok program →
      report ∈ program.log.reported → Raised source file report.fault (some report.token)

section Raised

variable {source file : String} {fault : Fault} {blamed : Option Token}

/-- A fault stands at a character of its source, unless it is reported at the end token. Then it
stands at the end. -/
theorem Fault.Raised.cases_position (raised : fault.Raised source file blamed) :
    (∃ front c back, fault.position.PointsAt source.toList front c back) ∨
      (∃ token ∈ blamed, token.kind = .eof) ∧ source.toList ≠ [] ∧
        fault.position.offset = (width source.toList).toUInt32 := by
  cases raised with
  | refused refused =>
    obtain ⟨front, c, back, points, -⟩ := exists_pointsAt_of_tokenize refused
    exact .inl ⟨front, c, back, points⟩
  | reported read member =>
    obtain ⟨position, located, notEmpty⟩ := Program.located_of_report read member
    cases located with
    | inside _ points _ => exact .inl ⟨_, _, _, position ▸ points⟩
    | ended isEof offset _ => exact .inr ⟨⟨_, rfl, isEof⟩, notEmpty, position ▸ offset⟩

theorem Position.PointsAt.toNat_offset {position : Position} {source front back : List Char}
    {c : Char} (points : position.PointsAt source front c back)
    (short : width source < UInt32.size) : width front = position.offset.toNat := by
  rw [points.text, width_append] at short
  rw [points.offset, toNat_toUInt32 (by omega)]

/-- A fault stands in front of a character of its source or at its end and has a place there. It is
rendered, under every name of the file, exactly if the dashes and the caret of that place fit into a
field. -/
theorem Fault.renders_iff_fits (raised : fault.Raised source file blamed)
    (short : width source.toList < UInt32.size) :
    (∃ front back, source.toList = front ++ back ∧ width front = fault.position.offset.toNat) ∧
      ∃ spot, spotAt source.toList fault.position.offset = .ok (some spot) ∧ ∀ name,
        ((∃ text, fault.render source name = .ok text) ↔ spot.dashes.length < maxField) ∧
        (fault.render source name = .error .beyondMargin ↔ maxField ≤ spot.dashes.length) := by
  rcases raised.cases_position with ⟨front, c, back, points⟩ | ⟨-, notEmpty, offset⟩
  · obtain ⟨above, start, stop, below, -, found⟩ := points.exists_spotAt short
    exact ⟨⟨front, c :: back, points.text, points.toNat_offset short⟩, _, found,
      renders_of_spotAt found⟩
  · obtain ⟨front, c, line, -, found⟩ := exists_spotAt_of_ended notEmpty short
    rw [← offset] at found
    refine ⟨⟨source.toList, [], by simp, ?_⟩, _, found, renders_of_spotAt found⟩
    rw [offset, toNat_toUInt32 short]

/-- A semicolon is missing at the end of a source: the caret stands behind the last character. -/
theorem Fault.renders_iff_fits_atEnd :
    let eof := Token.eof 1 ⟨⟨5, "f"⟩, ⟨5, "f"⟩⟩
    let fault := eof.fault (.missing "EOF" "Expect ';' after value.")
    fault.Raised "say x" "f" (some eof) ∧ width "say x".toList < UInt32.size ∧
      ∀ name, ∃ text, fault.render "say x" name = .ok text := by
  intro eof fault
  have short : width "say x".toList < UInt32.size := by decide
  have done : tokenize "say x" "f" = .ok [⟨.word .say, "say", none, 1, ⟨⟨0, "f"⟩, ⟨3, "f"⟩⟩⟩,
      ⟨.identifier, "x", none, 1, ⟨⟨4, "f"⟩, ⟨5, "f"⟩⟩⟩, eof] :=
    tokenize_of_toOption (by decide +kernel)
  have raised : fault.Raised "say x" "f" (some eof) :=
    @Raised.reported _ _ _ ⟨eof, fault⟩ (by rw [Program.ofSource, done]; rfl) (by decide +kernel)
  obtain ⟨-, spot, found, renders⟩ := renders_iff_fits raised short
  cases found
  exact ⟨raised, short, fun name => (renders name).1.mpr (by decide)⟩

/-- The fault behind as many tabs as a field is wide is not rendered. -/
theorem Fault.render_beyondMargin :
    let source := String.ofList (List.replicate 65535 '\t' ++ ['@'])
    width source.toList < UInt32.size ∧ ∃ fault, tokenize source "main.coem" = .error fault ∧
      fault.render source "main.coem" = .error .beyondMargin := by
  intro source
  have text : source.toList = List.replicate 65535 '\t' ++ ['@'] := String.toList_ofList
  obtain ⟨short, fault, refused, fails⟩ :=
    exists_beyondMargin text (Nat.le_refl _) (by decide) "main.coem"
  exact ⟨short, fault, refused, fails "main.coem"⟩

end Raised

end Parlance
