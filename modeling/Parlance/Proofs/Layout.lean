/-
This file proves that tokenizing loses no text and tells every place right. The tokens of a source
stand in it one behind the other: each has as its value the text of the source from where it begins
to where it ends, its span holds these two offsets, and its line is counted by the newlines in front
of it. Between the tokens, in front of the first and behind the last, stand only blanks and remarks.
And no word or number could have been longer than it is.
-/

import Parlance.Proofs.Spelling

namespace Parlance

open Text

/-! ### Text between tokens -/

/-- Text without a token, in front of the text `after`: blanks, and remarks that reach to a newline
or to the end of the source. -/
inductive Skipped : (gap after : List Char) → Prop
  | nil {after} : Skipped [] after
  | blank {c gap after} : isBlank c = true → Skipped gap after → Skipped (c :: gap) after
  | remark {body gap after} : (∀ c ∈ body, c ≠ '\n') → (∀ c ∈ (gap ++ after).head?, c = '\n') →
      Skipped gap after → Skipped ('/' :: '/' :: (body ++ gap)) after

theorem Skipped.blanks_append {blanks gap after : List Char}
    (allBlank : ∀ c ∈ blanks, isBlank c = true) (skipped : Skipped gap after) :
    Skipped (blanks ++ gap) after := by
  induction blanks with
  | nil => exact skipped
  | cons c rest inductionHypothesis =>
    obtain ⟨blank, allBlank⟩ := List.forall_mem_cons.mp allBlank
    exact .blank blank (inductionHypothesis allBlank)

/-- Only blanks and remarks give no token. -/
theorem Piece.eq_of_token?_eq_none {piece : Piece} {lexeme : List Char}
    (noToken : piece.token? lexeme = .ok none) : piece = .blanks ∨ piece = .remark := by
  cases piece with
  | blanks => exact .inl rfl
  | remark => exact .inr rfl
  | number =>
    rw [Piece.token?] at noToken
    split at noToken <;> cases noToken
  | _ => cases noToken

/-- A piece that gives no token can be passed over together with what is passed over behind it. -/
theorem Skipped.piece_append {piece : Piece} {lexeme gap after : List Char}
    (spells : piece.Spells lexeme (gap ++ after)) (noToken : piece.token? lexeme = .ok none)
    (skipped : Skipped gap after) : Skipped (lexeme ++ gap) after := by
  rcases Piece.eq_of_token?_eq_none noToken with rfl | rfl
  · cases spells with
    | blanks blank allBlank _ =>
      exact skipped.blanks_append (List.forall_mem_cons.mpr ⟨blank, allBlank⟩)
  · cases spells with
    | remark noNewline stops =>
      refine .remark noNewline (fun c member => ?_) skipped
      simpa using stops c member

/-! ### Sites -/

/-- A token in a source, with the text in front of it and the text behind it. -/
structure Site where
  front : List Char
  token : Token
  back : List Char

namespace Site

/-- The text of the token. -/
def lexeme (site : Site) : List Char :=
  site.token.value.toList

/-- The offset at which the token begins. -/
def start (site : Site) : Nat :=
  width site.front

/-- The offset at which the token ends. -/
def stop (site : Site) : Nat :=
  width site.front + width site.lexeme

/-- A token stands at a site of a source: it is some of its text and is located there, and it is as
long as a token of its kind can be. -/
structure Stands (source : List Char) (file : String) (site : Site) : Prop where
  text : site.front ++ site.lexeme ++ site.back = source
  notEmpty : site.lexeme ≠ []
  notEof : site.token.kind ≠ .eof
  span : site.token.span = ⟨⟨site.start.toUInt32, file⟩, ⟨site.stop.toUInt32, file⟩⟩
  line : site.token.line = 1 + lineEnds site.front
  word : (site.token.kind = .identifier ∨ ∃ reserved, site.token.kind = .word reserved) →
    ∀ c ∈ site.back.head?, continuesWord c = false
  number : site.token.kind = .number → (∀ c ∈ site.back.head?, c.isDigit = false) ∧
    ('.' ∉ site.lexeme → ∀ c rest, site.back = '.' :: c :: rest → c.isDigit = false)

/-- From behind the text `passed` to the end of a source, there is no other text than that of the
sites and what is passed over between them. -/
def Tile (source : List Char) : (passed : List Char) → List Site → Prop
  | passed, [] => ∃ gap, passed ++ gap = source ∧ Skipped gap []
  | passed, site :: rest =>
    ∃ gap, passed ++ gap = site.front ∧ Skipped gap (site.lexeme ++ site.back) ∧
      Tile source (site.front ++ site.lexeme) rest

theorem Tile.start_ge {source passed : List Char} {sites : List Site}
    (tile : Tile source passed sites) : ∀ site ∈ sites, width passed ≤ site.start := by
  induction sites generalizing passed with
  | nil => exact fun _ member => absurd member List.not_mem_nil
  | cons site rest inductionHypothesis =>
    obtain ⟨gap, front, -, tile⟩ := tile
    have first : width passed ≤ site.start := by
      rw [start, ← front, width_append]
      exact Nat.le_add_right _ _
    refine List.forall_mem_cons.mpr ⟨first, fun later member => ?_⟩
    have second := inductionHypothesis tile later member
    rw [width_append] at second
    exact Nat.le_trans first (Nat.le_trans (Nat.le_add_right _ _) second)

/-- Each site ends before the next one begins. -/
theorem Tile.pairwise {source passed : List Char} {sites : List Site}
    (tile : Tile source passed sites) :
    sites.Pairwise fun site later => site.stop ≤ later.start := by
  induction sites generalizing passed with
  | nil => exact .nil
  | cons site rest inductionHypothesis =>
    obtain ⟨gap, -, -, tile⟩ := tile
    refine .cons (fun later member => ?_) (inductionHypothesis tile)
    rw [stop, ← width_append]
    exact tile.start_ge later member

/-- What is passed over can be added in front of the first site. -/
theorem Tile.of_skipped {source front after : List Char} {piece : Piece} {lexeme : List Char}
    {sites : List Site} (spells : piece.Spells lexeme after)
    (noToken : piece.token? lexeme = .ok none) (text : front ++ lexeme ++ after = source)
    (each : ∀ site ∈ sites, site.front ++ site.lexeme ++ site.back = source)
    (tile : Tile source (front ++ lexeme) sites) : Tile source front sites := by
  cases sites with
  | nil =>
    obtain ⟨gap, passed, skipped⟩ := tile
    have rest : after = gap ++ [] := by
      rw [List.append_nil]
      exact List.append_cancel_left (text.trans passed.symm)
    refine ⟨lexeme ++ gap, by rw [← List.append_assoc, passed], ?_⟩
    exact skipped.piece_append (rest ▸ spells) noToken
  | cons site sites =>
    obtain ⟨gap, passed, skipped, tile⟩ := tile
    have rest : after = gap ++ (site.lexeme ++ site.back) := by
      have whole := text.trans (each site List.mem_cons_self).symm
      rw [← passed, List.append_assoc (front ++ lexeme ++ gap),
        List.append_assoc (front ++ lexeme)] at whole
      exact List.append_cancel_left whole
    refine ⟨lexeme ++ gap, by rw [← List.append_assoc, passed], ?_, tile⟩
    exact skipped.piece_append (rest ▸ spells) noToken

end Site

/-! ### Places -/

namespace Place

/-- The place behind the text at the beginning of a source. -/
def behind (file : String) (front : List Char) : Place :=
  ({ file } : Place).past front

theorem past_behind (file : String) (front text : List Char) :
    (behind file front).past text = behind file (front ++ text) := by
  simp [behind, past, lineEnds, Nat.add_assoc]

theorem spanOf_behind (file : String) (front text : List Char) :
    (behind file front).spanOf (width text) =
      ⟨⟨(width front).toUInt32, file⟩, ⟨(width front + width text).toUInt32, file⟩⟩ := by
  simp [behind, past, position, spanOf, advance]

end Place

/-! ### Tokens -/

/-- The kind of a token tells the piece that it is. -/
theorem Piece.kind_of_token? {piece : Piece} {lexeme : List Char} {kind : Kind}
    {literal : Option Literal} (isToken : piece.token? lexeme = .ok (some (kind, literal))) :
    kind ≠ .eof ∧ (kind = .number → piece = .number) ∧
      (kind = .identifier ∨ (∃ reserved, kind = .word reserved) → piece = .word) := by
  cases piece with
  | blanks => cases isToken
  | remark => cases isToken
  | word =>
    cases isToken
    unfold Kind.ofWord
    split <;> simp
  | number =>
    rw [Piece.token?] at isToken
    split at isToken <;> cases isToken
    simp
  | string inner =>
    cases isToken
    simp
  | mark symbol =>
    cases isToken
    simp

/-- Behind a number there is no digit, and behind one without a point no fraction. -/
theorem Piece.Spells.number_maximal {lexeme after : List Char}
    (spells : Spells .number lexeme after) :
    Stops Char.isDigit after ∧
      ('.' ∉ lexeme → ∀ c rest, after = '.' :: c :: rest → c.isDigit = false) := by
  cases spells with
  | whole _ _ stops noFraction => exact ⟨stops, fun _ => noFraction⟩
  | decimal _ _ _ _ stops =>
    refine ⟨stops, fun noPoint => absurd ?_ noPoint⟩
    exact List.mem_cons_of_mem _ (List.mem_append_right _ List.mem_cons_self)

theorem Site.lexeme_tokenOf (place : Place) (front lexeme back : List Char) (kind : Kind)
    (literal : Option Literal) :
    Site.lexeme ⟨front, place.tokenOf lexeme kind literal, back⟩ = lexeme :=
  place.toList_value_tokenOf lexeme kind literal

theorem Site.stands_of_spells {piece : Piece} {lexeme after : List Char} {kind : Kind}
    {literal : Option Literal} (front : List Char) (file : String)
    (spells : piece.Spells lexeme after)
    (isToken : piece.token? lexeme = .ok (some (kind, literal))) :
    Stands (front ++ (lexeme ++ after)) file
      ⟨front, (Place.behind file front).tokenOf lexeme kind literal, after⟩ := by
  obtain ⟨notEof, isNumber, isWord⟩ := Piece.kind_of_token? isToken
  refine ⟨?_, ?_, notEof, ?_, rfl, fun hasWord => ?_, fun hasNumber => ?_⟩
  · rw [lexeme_tokenOf, List.append_assoc]
  · rw [lexeme_tokenOf]
    exact spells.ne_nil
  · rw [stop, lexeme_tokenOf]
    exact Place.spanOf_behind file front lexeme
  · obtain rfl := isWord hasWord
    cases spells with
    | word _ _ stops => exact stops
  · obtain rfl := isNumber hasNumber
    rw [lexeme_tokenOf]
    exact spells.number_maximal

/-- The tokens of the rest of a source stand in it, one behind the other. -/
theorem Divides.exists_sites {place : Place} {text front : List Char} {tokens : List Token}
    {file : String} (divides : Divides place text tokens) (start : place = .behind file front) :
    ∃ sites : List Site,
      tokens = sites.map Site.token ++ [Token.eof (1 + lineEnds (front ++ text))
        ((Place.behind file (front ++ text)).spanOf 0)] ∧
      (∀ site ∈ sites, site.Stands (front ++ text) file) ∧
      Site.Tile (front ++ text) front sites := by
  induction divides generalizing front with
  | ended =>
    subst start
    refine ⟨[], ?_, fun _ member => absurd member List.not_mem_nil, [], rfl, .nil⟩
    rw [List.append_nil]
    rfl
  | @skipped _ _ _ lexeme _ spells noToken _ inductionHypothesis =>
    subst start
    obtain ⟨sites, tokens, stand, tile⟩ := inductionHypothesis (Place.past_behind file front lexeme)
    rw [List.append_assoc] at tokens stand tile
    refine ⟨sites, tokens, stand, tile.of_skipped spells noToken (List.append_assoc _ _ _) ?_⟩
    exact fun site member => (stand site member).text
  | @token _ _ kind literal _ lexeme after spells isToken _ inductionHypothesis =>
    subst start
    obtain ⟨sites, tokens, stand, tile⟩ := inductionHypothesis (Place.past_behind file front lexeme)
    rw [List.append_assoc] at tokens stand tile
    have first := Site.stands_of_spells front file spells isToken
    have each := List.forall_mem_cons.mpr ⟨first, stand⟩
    refine ⟨_ :: sites, ?_, each, [], List.append_nil _, .nil, ?_⟩
    · rw [tokens]
      rfl
    · rw [Site.lexeme_tokenOf]
      exact tile

/-- Tokenizing loses no text and tells every place right: the end token closes the list and stands
at the end of the source, the other tokens stand at sites that do not overlap, and between these is
only text to be passed over. -/
theorem tokenize_layout {source file : String} {tokens : List Token}
    (done : tokenize source file = .ok tokens) :
    ∃ sites : List Site,
      tokens = sites.map Site.token ++ [Token.eof (1 + lineEnds source.toList)
        ⟨⟨(width source.toList).toUInt32, file⟩, ⟨(width source.toList).toUInt32, file⟩⟩] ∧
      (∀ site ∈ sites, site.Stands source.toList file) ∧
      (sites.Pairwise fun site later => site.stop ≤ later.start) ∧
      Site.Tile source.toList [] sites := by
  have start : ({ file } : Place) = .behind file [] := rfl
  obtain ⟨sites, same, stand, tile⟩ := (tokenize_eq_ok_iff.mp done).exists_sites start
  refine ⟨sites, ?_, stand, tile.pairwise, tile⟩
  rw [same, List.nil_append, ← width_nil, Place.spanOf_behind]
  rfl

/-- A string over two lines, a number in front of a dot, a remark, and an em-dash of three bytes. -/
theorem tokenize_layout_twoLines :
    ∃ sites : List Site,
      tokenize "\"a\n\" 1. // x\n—" "f" =
        .ok (sites.map Site.token ++ [Token.eof 3 ⟨⟨16, "f"⟩, ⟨16, "f"⟩⟩]) ∧
      ((sites.map Site.token).map fun token =>
          (token.value, token.line, token.span.start.offset)) =
        [("\"a\n\"", 1, 0), ("1", 2, 5), (".", 2, 6), ("—", 3, 13)] ∧
      (∀ site ∈ sites, site.Stands "\"a\n\" 1. // x\n—".toList "f") ∧
      (sites.Pairwise fun site later => site.stop ≤ later.start) ∧
      Site.Tile "\"a\n\" 1. // x\n—".toList [] sites := by
  have done : tokenize "\"a\n\" 1. // x\n—" "f" = .ok
      ([⟨.string, "\"a\n\"", some (.string "a\n"), 1, ⟨⟨0, "f"⟩, ⟨4, "f"⟩⟩⟩,
        ⟨.number, "1", some (.number (.signed false (.nearest 1 1))), 2, ⟨⟨5, "f"⟩, ⟨6, "f"⟩⟩⟩,
        ⟨.mark .dot, ".", none, 2, ⟨⟨6, "f"⟩, ⟨7, "f"⟩⟩⟩,
        ⟨.mark .emDash, "—", none, 3, ⟨⟨13, "f"⟩, ⟨16, "f"⟩⟩⟩] ++
        [Token.eof 3 ⟨⟨16, "f"⟩, ⟨16, "f"⟩⟩]) := tokenize_of_toOption (by decide +kernel)
  obtain ⟨sites, same, stand, apart, tile⟩ := tokenize_layout done
  obtain ⟨front, -⟩ := List.append_inj' same rfl
  exact ⟨sites, front ▸ done, front ▸ rfl, stand, apart, tile⟩

end Parlance
