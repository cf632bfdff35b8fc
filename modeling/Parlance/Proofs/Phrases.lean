/-
This file is about the texts that trees are written as, apart from what they say about trees. Such a
text is a phrase: a word, a quoted text, or a group of phrases between parentheses with a blank
between each two of them. A text tells which phrase it is, and where the phrase ends, as a word has
neither blanks nor parentheses nor quotes in it, a quoted text ends at its own quote, and a group at
its own parenthesis. So does a text of several phrases with a separator between each two of them.
-/

import Parlance.Proofs.Quoting

namespace Parlance

open Text

/-! ### Phrases -/

/-- A word, a quoted text, or several phrases in parentheses. -/
inductive Phrase where
  | word (text : List Char)
  | quoted (text : List Char)
  | group (parts : List Phrase)

namespace Phrase

/-- The characters that cannot stand in a word. -/
def special : List Char :=
  [' ', '\n', '(', ')', '"']

/-- Whether a character can stand in a word. -/
def isPlain (c : Char) : Bool :=
  !special.contains c

/-- The characters that no phrase can begin with. -/
def closers : List Char :=
  [' ', '\n', ')']

/-- Whether a phrase can begin with a character. -/
def opens (c : Char) : Bool :=
  !closers.contains c

mutual

/-- The text of a phrase. -/
def text : Phrase → List Char
  | word text => text
  | quoted text => Text.quoted text
  | group parts => '(' :: (partsText parts ++ [')'])

/-- The texts of several phrases with a blank between each two of them. -/
def partsText : List Phrase → List Char
  | [] => []
  | first :: rest => text first ++ spacedText rest

/-- The texts of several phrases, each behind a blank. -/
def spacedText : List Phrase → List Char
  | [] => []
  | part :: rest => ' ' :: (text part ++ spacedText rest)

end

mutual

/-- A phrase whose words are not empty and have plain characters only. -/
def Spelled : Phrase → Prop
  | word text => text ≠ [] ∧ ∀ c ∈ text, isPlain c = true
  | quoted _ => True
  | group parts => AllSpelled parts

/-- Several phrases whose words are not empty and have plain characters only. -/
def AllSpelled : List Phrase → Prop
  | [] => True
  | part :: rest => Spelled part ∧ AllSpelled rest

end

theorem allSpelled_iff (parts : List Phrase) :
    AllSpelled parts ↔ ∀ part ∈ parts, part.Spelled := by
  induction parts with
  | nil => exact iff_of_true trivial fun _ member => absurd member List.not_mem_nil
  | cons part parts inductionHypothesis =>
    rw [AllSpelled, inductionHypothesis, List.forall_mem_cons]

/-! ### Phrases with a separator between them -/

/-- The texts of several phrases, each behind a separator. -/
def separatedText (separator : Char) (parts : List Phrase) : List Char :=
  parts.flatMap fun part => separator :: part.text

/-- The texts of several phrases with a separator between each two of them. -/
def joinedText (separator : Char) : List Phrase → List Char
  | [] => []
  | first :: rest => first.text ++ separatedText separator rest

theorem spacedText_eq (parts : List Phrase) : spacedText parts = separatedText ' ' parts := by
  induction parts with
  | nil => rfl
  | cons part parts inductionHypothesis =>
    rw [spacedText, inductionHypothesis]
    rfl

theorem partsText_eq (parts : List Phrase) : partsText parts = joinedText ' ' parts := by
  cases parts with
  | nil => rfl
  | cons first rest => rw [partsText, spacedText_eq, joinedText]

theorem text_group (parts : List Phrase) :
    (group parts).text = '(' :: (joinedText ' ' parts ++ [')']) := by
  rw [text, partsText_eq]

section Characters

variable {c : Char} {phrase : Phrase}

/-- A class of characters is plain if no special character belongs to it. -/
theorem isPlain_of_class {belongs : Char → Bool} (none : special.any belongs = false)
    (member : belongs c = true) : isPlain c = true := by
  rw [isPlain, Bool.not_eq_true', Bool.eq_false_iff]
  intro isSpecial
  exact List.any_eq_false.mp none c (List.contains_iff_mem.mp isSpecial) member

theorem opens_of_isPlain (plain : isPlain c = true) : opens c = true := by
  simp_all [isPlain, special, opens, closers]

theorem isPlain_of_opens (closed : opens c = false) : isPlain c = false := by
  cases plain : isPlain c with
  | false => rfl
  | true => rw [← closed, opens_of_isPlain plain]

theorem exists_text_eq_cons (spelled : phrase.Spelled) :
    ∃ first rest, phrase.text = first :: rest ∧ opens first = true := by
  cases phrase with
  | word text =>
    obtain ⟨some, plain⟩ := spelled
    obtain ⟨first, rest, rfl⟩ := List.exists_cons_of_ne_nil some
    exact ⟨first, rest, rfl, opens_of_isPlain (plain first List.mem_cons_self)⟩
  | quoted text => exact ⟨'"', _, rfl, rfl⟩
  | group parts => exact ⟨'(', _, text_group parts, rfl⟩

end Characters

/-! ### Where a phrase ends -/

/-- A phrase that can be told from what stands behind it. -/
def Readable (phrase : Phrase) : Prop :=
  ∀ {phrase' : Phrase} {rest rest' : List Char}, phrase'.Spelled → Stops isPlain rest →
    Stops isPlain rest' → phrase.text ++ rest = phrase'.text ++ rest' →
    phrase = phrase' ∧ rest = rest'

/-- Whether a row of phrases with a separator between them can go on with a character. -/
def goesOn (separator c : Char) : Bool :=
  opens c || c = separator

section Rows

variable {separator : Char} {parts parts' : List Phrase} {rest rest' : List Char}

theorem goesOn_eq_false {c : Char} (stops : goesOn separator c = false) :
    opens c = false ∧ c ≠ separator := by
  rw [goesOn, Bool.or_eq_false_iff, decide_eq_false_iff_not] at stops
  exact stops

theorem stops_separatedText (closed : opens separator = false)
    (stops : Stops (goesOn separator) rest) :
    Stops isPlain (separatedText separator parts ++ rest) := by
  cases parts with
  | nil => exact fun c member => isPlain_of_opens (goesOn_eq_false (stops c member)).1
  | cons part parts => exact stops_cons (isPlain_of_opens closed)

theorem cons_ne_of_stops (stops : Stops (goesOn separator) rest) (more : List Char) :
    separator :: more ≠ rest := by
  rintro rfl
  exact (goesOn_eq_false (stops separator rfl)).2 rfl

theorem text_append_ne {phrase : Phrase} (spelled : phrase.Spelled)
    (stops : Stops (goesOn separator) rest) (more : List Char) : phrase.text ++ more ≠ rest := by
  obtain ⟨first, others, begins, opening⟩ := exists_text_eq_cons spelled
  rintro rfl
  rw [begins] at stops
  rw [(goesOn_eq_false (stops first rfl)).1] at opening
  cases opening

theorem separatedText_append_inj (each : ∀ part ∈ parts, part.Readable)
    (spelled' : ∀ part ∈ parts', part.Spelled) (closed : opens separator = false)
    (stops : Stops (goesOn separator) rest) (stops' : Stops (goesOn separator) rest')
    (same : separatedText separator parts ++ rest = separatedText separator parts' ++ rest') :
    parts = parts' ∧ rest = rest' := by
  -- Both rows end together, as a separator tells that a row goes on.
  induction parts generalizing parts' with
  | nil =>
    cases parts' with
    | nil => exact ⟨rfl, same⟩
    | cons part' parts' => exact absurd same.symm (cons_ne_of_stops stops _)
  | cons part parts inductionHypothesis =>
    cases parts' with
    | nil => exact absurd same (cons_ne_of_stops stops' _)
    | cons part' parts' =>
      obtain ⟨readable, others⟩ := List.forall_mem_cons.mp each
      obtain ⟨spelled, others'⟩ := List.forall_mem_cons.mp spelled'
      simp only [separatedText, List.flatMap_cons, List.cons_append, List.append_assoc] at same
      obtain ⟨rfl, behind⟩ := readable spelled (stops_separatedText closed stops)
        (stops_separatedText closed stops') (List.cons.inj same).2
      obtain ⟨rfl, rfl⟩ := inductionHypothesis others others' behind
      exact ⟨rfl, rfl⟩

/-- A row of phrases can be told from what stands behind it, if the row cannot go on there. -/
theorem joinedText_append_inj (each : ∀ part ∈ parts, part.Readable)
    (spelled : ∀ part ∈ parts, part.Spelled) (spelled' : ∀ part ∈ parts', part.Spelled)
    (closed : opens separator = false) (stops : Stops (goesOn separator) rest)
    (stops' : Stops (goesOn separator) rest')
    (same : joinedText separator parts ++ rest = joinedText separator parts' ++ rest') :
    parts = parts' ∧ rest = rest' := by
  match parts, parts' with
  | [], [] => exact ⟨rfl, same⟩
  | [], part' :: parts' =>
    rw [joinedText, joinedText, List.append_assoc] at same
    exact absurd same.symm (text_append_ne (spelled' _ List.mem_cons_self) stops _)
  | part :: parts, [] =>
    rw [joinedText, joinedText, List.append_assoc] at same
    exact absurd same (text_append_ne (spelled _ List.mem_cons_self) stops' _)
  | part :: parts, part' :: parts' =>
    obtain ⟨readable, others⟩ := List.forall_mem_cons.mp each
    obtain ⟨first, others'⟩ := List.forall_mem_cons.mp spelled'
    rw [joinedText, joinedText, List.append_assoc, List.append_assoc] at same
    obtain ⟨rfl, behind⟩ := readable first (stops_separatedText closed stops)
      (stops_separatedText closed stops') same
    obtain ⟨rfl, rfl⟩ := separatedText_append_inj others others' closed stops stops' behind
    exact ⟨rfl, rfl⟩

end Rows

section Cases

variable {text more rest : List Char} {c : Char}

/-- A word does not begin with what is not plain. -/
theorem word_append_ne (spelled : (word text).Spelled) (notPlain : isPlain c = false) :
    text ++ rest ≠ c :: more := by
  obtain ⟨some, plain⟩ := spelled
  obtain ⟨first, others, rfl⟩ := List.exists_cons_of_ne_nil some
  intro same
  rw [← (List.cons.inj same).1, plain first List.mem_cons_self] at notPlain
  cases notPlain

theorem readable_word (spelled : (word text).Spelled) : (word text).Readable := by
  intro phrase' rest rest' spelled' stops stops' same
  cases phrase' with
  | word text' =>
    obtain ⟨rfl, rfl⟩ := append_inj_of_stops spelled.2 spelled'.2 stops stops' same
    exact ⟨rfl, rfl⟩
  | quoted text' => exact absurd same (word_append_ne spelled rfl)
  | group parts' =>
    rw [text_group] at same
    exact absurd same (word_append_ne spelled rfl)

theorem readable_quoted (text : List Char) : (quoted text).Readable := by
  intro phrase' rest rest' spelled' _ _ same
  cases phrase' with
  | word text' => exact absurd same.symm (word_append_ne spelled' rfl)
  | quoted text' =>
    obtain ⟨rfl, rfl⟩ := quoted_append_inj same
    exact ⟨rfl, rfl⟩
  | group parts' => exact absurd (List.cons.inj same).1 (by decide)

theorem readable_group {parts : List Phrase} (spelled : ∀ part ∈ parts, part.Spelled)
    (each : ∀ part ∈ parts, part.Readable) : (group parts).Readable := by
  intro phrase' rest rest' spelled' _ _ same
  cases phrase' with
  | word text' =>
    rw [text_group] at same
    exact absurd same.symm (word_append_ne spelled' rfl)
  | quoted text' => exact absurd (List.cons.inj same).1 (by decide)
  | group parts' =>
    rw [text_group, text_group, List.cons_append, List.cons_append, List.append_assoc,
      List.append_assoc] at same
    obtain ⟨rfl, behind⟩ := joinedText_append_inj each spelled ((allSpelled_iff parts').mp spelled')
      rfl (stops_cons rfl) (stops_cons rfl) (List.cons.inj same).2
    exact ⟨rfl, (List.cons.inj behind).2⟩

end Cases

mutual

/-- Every phrase can be told from what stands behind it. -/
theorem Spelled.readable : ∀ {phrase : Phrase}, phrase.Spelled → phrase.Readable
  | word _, spelled => readable_word spelled
  | quoted text, _ => readable_quoted text
  | group parts, spelled => readable_group ((allSpelled_iff parts).mp spelled) (allReadable spelled)

theorem allReadable : ∀ {parts : List Phrase}, AllSpelled parts → ∀ part ∈ parts, part.Readable
  | [], _ => fun _ member => absurd member List.not_mem_nil
  | _ :: _, ⟨first, others⟩ => List.forall_mem_cons.mpr ⟨first.readable, allReadable others⟩

end

/-- The text of a row of phrases tells which phrases they are. -/
theorem joinedText_inj {separator : Char} {parts parts' : List Phrase}
    (closed : opens separator = false) (spelled : ∀ part ∈ parts, part.Spelled)
    (spelled' : ∀ part ∈ parts', part.Spelled)
    (same : joinedText separator parts = joinedText separator parts') : parts = parts' :=
  (joinedText_append_inj (fun part member => (spelled part member).readable) spelled spelled' closed
    stops_nil stops_nil (congrArg (· ++ []) same)).1

end Phrase

end Parlance
