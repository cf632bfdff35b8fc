/-
This file writes trees as phrases, and shows that the text of a tree is that of its phrase. The
words in the phrase of a tree are words indeed if the tree was read from a source, as its names and
operators are then spelled like words and its numbers like numerals.
-/

import Parlance.Proofs.Genuine
import Parlance.Proofs.Phrases
import Parlance.Proofs.Spacing

namespace Parlance

/-! ### Trees as phrases -/

namespace Phrase

/-- The phrase of one word. -/
def spell (text : String) : Phrase :=
  .word text.toList

theorem spell_inj {text text' : String} : spell text = spell text' ↔ text = text' := by
  rw [spell, spell, word.injEq, String.toList_inj]

@[simp]
theorem text_spell (text : String) : (spell text).text = text.toList := rfl

@[simp]
theorem text_group_cons (first : Phrase) (rest : List Phrase) :
    (group (first :: rest)).text = '(' :: (first.text ++ (spacedText rest ++ [')'])) := by
  rw [text, partsText, List.append_assoc]

@[simp]
theorem spacedText_nil : spacedText [] = [] := rfl

@[simp]
theorem spacedText_cons (first : Phrase) (rest : List Phrase) :
    spacedText (first :: rest) = ' ' :: (first.text ++ spacedText rest) := rfl

end Phrase

/-- The phrase of a value. -/
def Literal.phrase : Literal → Phrase
  | string value => .quoted value.toList
  | literal => .spell literal.text

namespace Expr

mutual

/-- The phrase of an expression. -/
def phrase : Expr → Phrase
  | literal value => value.phrase
  | name token => .spell token.value
  | assign token value => .group [.spell "be", .spell token.value, phrase value]
  | logical left operator right => .group [.spell operator.value, phrase left, phrase right]
  | binary left operator right => .group [.spell operator.value, phrase left, phrase right]
  | unary operator right => .group [.spell operator.value, phrase right]
  | call callee arguments _ => .group (.spell "call" :: phrase callee :: allPhrases arguments)

/-- The phrases of several expressions. -/
def allPhrases : List Expr → List Phrase
  | [] => []
  | expr :: rest => phrase expr :: allPhrases rest

end

end Expr

namespace Stmt

mutual

/-- The phrase of a statement. -/
def phrase : Stmt → Phrase
  | expression value => .group [.spell "expr", value.phrase]
  | print value => .group [.spell "print", value.phrase]
  | var name initial =>
    .group (.spell "var" :: .spell name.value :: initial.toList.map Expr.phrase)
  | block body => .group (.spell "block" :: allPhrases body)
  | ifThen condition body => .group [.spell "if", condition.phrase, phrase body]
  | ifElse condition body otherwise =>
    .group [.spell "if", condition.phrase, phrase body, phrase otherwise]
  | whileDo condition body => .group [.spell "while", condition.phrase, phrase body]
  | function name parameters body =>
    .group (.spell "to" :: .spell name.value ::
      .group (parameters.map fun parameter => .spell parameter.value) :: allPhrases body)
  | returns _ value => .group (.spell "return" :: value.toList.map Expr.phrase)
  | error token => .group [.spell "error", .quoted token.value.toList]

/-- The phrases of several statements. -/
def allPhrases : List Stmt → List Phrase
  | [] => []
  | stmt :: rest => phrase stmt :: allPhrases rest

end

end Stmt

/-! ### The text of a tree is that of its phrase -/

theorem Literal.toList_text (literal : Literal) : literal.text.toList = literal.phrase.text := by
  cases literal with
  | string value => exact String.toList_ofList
  | _ => rfl

/-- Texts with a separator between them are a row of the phrases that they are texts of. -/
theorem toList_joined {α : Type} {separator : String} {c : Char} (isChar : separator.toList = [c])
    {text : α → String} {phrase : α → Phrase}
    (each : ∀ item, (text item).toList = (phrase item).text) (items : List α) :
    (joined separator (items.map text)).toList = Phrase.joinedText c (items.map phrase) := by
  induction items with
  | nil => rfl
  | cons first rest inductionHypothesis =>
    cases rest with
    | nil => simp [joined, Phrase.joinedText, Phrase.separatedText, each]
    | cons second rest =>
      rw [List.map_cons, List.map_cons, Phrase.joinedText] at inductionHypothesis
      simp only [List.map_cons, joined, String.toList_append, inductionHypothesis, each, isChar,
        Phrase.joinedText, Phrase.separatedText, List.flatMap_cons, List.append_assoc,
        List.cons_append, List.nil_append]

mutual

theorem Expr.toList_text : ∀ expr : Expr, expr.text.toList = expr.phrase.text
  | .literal value => value.toList_text
  | .name _ => rfl
  | .assign _ value => by simp [Expr.text, Expr.phrase, Expr.toList_text value]
  | .logical left _ right => by
    simp [Expr.text, Expr.phrase, Expr.toList_text left, Expr.toList_text right]
  | .binary left _ right => by
    simp [Expr.text, Expr.phrase, Expr.toList_text left, Expr.toList_text right]
  | .unary _ right => by simp [Expr.text, Expr.phrase, Expr.toList_text right]
  | .call callee arguments _ => by
    simp [Expr.text, Expr.phrase, Expr.toList_text callee, Expr.toList_spacedText arguments]

theorem Expr.toList_spacedText : ∀ exprs : List Expr,
    (Expr.spacedText exprs).toList = Phrase.spacedText (Expr.allPhrases exprs)
  | [] => rfl
  | expr :: exprs => by
    simp [Expr.spacedText, Expr.allPhrases, Expr.toList_text expr, Expr.toList_spacedText exprs]

end

theorem Token.toList_parameters (parameters : List Token) :
    (joined " " (parameters.map Token.value)).toList =
      Phrase.partsText (parameters.map fun parameter => .spell parameter.value) := by
  rw [Phrase.partsText_eq]
  exact toList_joined rfl (fun _ => rfl) parameters

mutual

theorem Stmt.toList_text : ∀ stmt : Stmt, stmt.text.toList = stmt.phrase.text
  | .expression value => by simp [Stmt.text, Stmt.phrase, value.toList_text]
  | .print value => by simp [Stmt.text, Stmt.phrase, value.toList_text]
  | .var _ none => by simp [Stmt.text, Stmt.phrase]
  | .var _ (some initial) => by simp [Stmt.text, Stmt.phrase, initial.toList_text]
  | .block body => by simp [Stmt.text, Stmt.phrase, Stmt.toList_spacedText body]
  | .ifThen condition body => by
    simp [Stmt.text, Stmt.phrase, condition.toList_text, Stmt.toList_text body]
  | .ifElse condition body otherwise => by
    simp [Stmt.text, Stmt.phrase, condition.toList_text, Stmt.toList_text body,
      Stmt.toList_text otherwise]
  | .whileDo condition body => by
    simp [Stmt.text, Stmt.phrase, condition.toList_text, Stmt.toList_text body]
  | .function _ parameters body => by
    simp [Stmt.text, Stmt.phrase, Token.toList_parameters parameters, Phrase.text,
      Stmt.toList_spacedText body]
  | .returns _ none => by simp [Stmt.text, Stmt.phrase]
  | .returns _ (some value) => by simp [Stmt.text, Stmt.phrase, value.toList_text]
  | .error token => by simp [Stmt.text, Stmt.phrase, Text.quote, Phrase.text]

theorem Stmt.toList_spacedText : ∀ stmts : List Stmt,
    (Stmt.spacedText stmts).toList = Phrase.spacedText (Stmt.allPhrases stmts)
  | [] => rfl
  | stmt :: stmts => by
    simp [Stmt.spacedText, Stmt.allPhrases, Stmt.toList_text stmt, Stmt.toList_spacedText stmts]

end

/-- The text of a program is a row of phrases, one on each line. -/
theorem toList_programText (program : List Stmt) :
    (programText program).toList = Phrase.joinedText '\n' (program.map Stmt.phrase) :=
  toList_joined rfl Stmt.toList_text program

/-! ### Words -/

/-- Whether a kind is that of a name or of a reserved word. -/
def Kind.isWord : Kind → Bool
  | identifier => true
  | word _ => true
  | _ => false

theorem isWord_text (reserved : Word) : IsWord reserved.text.toList := by
  cases reserved <;> exact ⟨_, _, rfl, rfl, List.all_eq_true.mp rfl⟩

/-- A token that is a word is what its text says, wherever it stands. -/
theorem Token.Genuine.content_eq {token : Token} (genuine : token.Genuine)
    (isWord : token.kind.isWord = true) : token.content =
      (Kind.ofWord token.value, token.value, (Word.ofText? token.value).bind Word.literal?) := by
  unfold Token.Genuine at genuine
  rw [Token.content, Kind.ofWord]
  cases kind : token.kind with
  | identifier =>
    rw [kind] at genuine
    obtain ⟨-, notReserved, carried⟩ := genuine
    rw [notReserved, carried]
    rfl
  | word reserved =>
    rw [kind] at genuine
    obtain ⟨written, carried⟩ := genuine
    rw [written, carried, Word.ofText?_text]
    rfl
  | _ =>
    rw [kind] at isWord
    cases isWord

namespace Token.Fits

variable {kinds kinds' : List Kind} {token token' : Token}

theorem isWord (fits : token.Fits kinds) (words : kinds.all Kind.isWord = true) :
    token.kind.isWord = true :=
  List.all_eq_true.mp words _ fits.kind

theorem kind_eq (fits : token.Fits kinds) (words : kinds.all Kind.isWord = true) :
    token.kind = Kind.ofWord token.value :=
  congrArg Prod.fst (fits.genuine.content_eq (fits.isWord words))

/-- Two words with the same text are the same, wherever they stand. -/
theorem content_eq (fits : token.Fits kinds) (fits' : token'.Fits kinds')
    (words : kinds.all Kind.isWord = true) (words' : kinds'.all Kind.isWord = true)
    (same : token.value = token'.value) : token.content = token'.content := by
  rw [fits.genuine.content_eq (fits.isWord words), fits'.genuine.content_eq (fits'.isWord words'),
    same]

theorem isWord_value (fits : token.Fits kinds) (words : kinds.all Kind.isWord = true) :
    IsWord token.value.toList := by
  have isWord := fits.isWord words
  obtain ⟨-, genuine⟩ := fits
  unfold Token.Genuine at genuine
  cases kind : token.kind with
  | identifier =>
    rw [kind] at genuine
    exact genuine.1
  | word reserved =>
    rw [kind] at genuine
    rw [genuine.1]
    exact isWord_text reserved
  | _ =>
    rw [kind] at isWord
    cases isWord

/-- Two tokens of one mark are the same, wherever they stand. -/
theorem content_eq_of_mark {mark : Mark} (fits : token.Fits [.mark mark])
    (fits' : token'.Fits [.mark mark]) : token.content = token'.content := by
  obtain ⟨isMark, genuine⟩ := fits
  obtain ⟨isMark', genuine'⟩ := fits'
  rw [Token.Genuine, List.mem_singleton.mp isMark] at genuine
  rw [Token.Genuine, List.mem_singleton.mp isMark'] at genuine'
  rw [Token.content, Token.content, List.mem_singleton.mp isMark, List.mem_singleton.mp isMark',
    genuine.1, genuine.2, genuine'.1, genuine'.2]

end Token.Fits

/-! ### The words in a tree -/

namespace Phrase

theorem spelled_spell {text : String} (some : text.toList.isEmpty = false)
    (plain : text.toList.all isPlain = true) : (spell text).Spelled :=
  ⟨List.isEmpty_eq_false_iff.mp some, List.all_eq_true.mp plain⟩

theorem spelled_of_isWord {text : String} (isWord : IsWord text.toList) :
    (spell text).Spelled := by
  obtain ⟨first, rest, written, starts, continues⟩ := isWord
  have all : ∀ c ∈ text.toList, continuesWord c = true := by
    rw [written]
    refine List.forall_mem_cons.mpr ⟨?_, continues⟩
    rw [continuesWord_eq, starts]
    rfl
  refine ⟨?_, fun c member => isPlain_of_class rfl (all c member)⟩
  rw [written]
  exact List.cons_ne_nil _ _

end Phrase

theorem Token.Fits.spelled {kinds : List Kind} {token : Token} (fits : token.Fits kinds)
    (words : kinds.all Kind.isWord = true) : (Phrase.spell token.value).Spelled :=
  Phrase.spelled_of_isWord (fits.isWord_value words)

theorem Literal.spelled_phrase {literal : Literal} (finite : literal.IsFinite) :
    literal.phrase.Spelled := by
  match literal with
  | string _ => trivial
  | bool true => exact Phrase.spelled_of_isWord (isWord_text .true_)
  | bool false => exact Phrase.spelled_of_isWord (isWord_text .false_)
  | nothing => exact Phrase.spelled_of_isWord (isWord_text .nothing)
  | number value =>
    exact ⟨Number.ne_nil_of_isFinite finite, fun c member =>
      Phrase.isPlain_of_class rfl (Number.isNumeral_of_isFinite finite c member)⟩

mutual

theorem Expr.Genuine.spelled : ∀ {expr : Expr}, expr.Genuine → expr.phrase.Spelled
  | .literal _, genuine => Literal.spelled_phrase genuine
  | .name _, genuine => Token.Fits.spelled genuine rfl
  | .assign _ _, ⟨target, value⟩ =>
    ⟨Phrase.spelled_of_isWord (isWord_text .be), target.spelled rfl, value.spelled, trivial⟩
  | .logical _ _ _, ⟨operator, left, right⟩ =>
    ⟨operator.spelled rfl, left.spelled, right.spelled, trivial⟩
  | .binary _ _ _, ⟨operator, left, right⟩ =>
    ⟨operator.spelled rfl, left.spelled, right.spelled, trivial⟩
  | .unary _ _, ⟨operator, right⟩ => ⟨operator.spelled rfl, right.spelled, trivial⟩
  | .call _ _ _, ⟨_, callee, arguments⟩ =>
    ⟨Phrase.spelled_spell rfl rfl, callee.spelled, arguments.allSpelled⟩

theorem Expr.AllGenuine.allSpelled : ∀ {exprs : List Expr}, Expr.AllGenuine exprs →
    Phrase.AllSpelled (Expr.allPhrases exprs)
  | [], _ => trivial
  | _ :: _, ⟨first, rest⟩ => ⟨first.spelled, rest.allSpelled⟩

end

theorem Expr.allSpelled_option {value : Option Expr} (genuine : ∀ expr ∈ value, expr.Genuine) :
    Phrase.AllSpelled (value.toList.map Expr.phrase) := by
  cases value with
  | none => trivial
  | some expr => exact ⟨(genuine expr rfl).spelled, trivial⟩

theorem Token.allSpelled_parameters {parameters : List Token}
    (each : ∀ parameter ∈ parameters, parameter.Fits [.identifier]) :
    Phrase.AllSpelled (parameters.map fun parameter => .spell parameter.value) := by
  refine (Phrase.allSpelled_iff _).mpr fun part isPart => ?_
  obtain ⟨parameter, member, rfl⟩ := List.mem_map.mp isPart
  exact (each parameter member).spelled rfl

mutual

theorem Stmt.Genuine.spelled : ∀ {stmt : Stmt}, stmt.Genuine → stmt.phrase.Spelled
  | .expression _, value =>
    ⟨Phrase.spelled_spell rfl rfl, Expr.Genuine.spelled value, trivial⟩
  | .print _, value =>
    ⟨Phrase.spelled_spell rfl rfl, Expr.Genuine.spelled value, trivial⟩
  | .var _ _, ⟨name, initial⟩ =>
    ⟨Phrase.spelled_spell rfl rfl, name.spelled rfl,
      Expr.allSpelled_option initial⟩
  | .block _, body =>
    ⟨Phrase.spelled_spell rfl rfl, Stmt.AllGenuine.allSpelled body⟩
  | .ifThen _ _, ⟨condition, body⟩ =>
    ⟨Phrase.spelled_spell rfl rfl, condition.spelled, body.spelled, trivial⟩
  | .ifElse _ _ _, ⟨condition, body, otherwise⟩ =>
    ⟨Phrase.spelled_spell rfl rfl, condition.spelled, body.spelled,
      otherwise.spelled, trivial⟩
  | .whileDo _ _, ⟨condition, body⟩ =>
    ⟨Phrase.spelled_spell rfl rfl, condition.spelled, body.spelled, trivial⟩
  | .function _ _ _, ⟨name, parameters, body⟩ =>
    ⟨Phrase.spelled_spell rfl rfl, name.spelled rfl,
      Token.allSpelled_parameters parameters, body.allSpelled⟩
  | .returns _ _, ⟨_, value⟩ =>
    ⟨Phrase.spelled_spell rfl rfl, Expr.allSpelled_option value⟩
  | .error _, _ => ⟨Phrase.spelled_spell rfl rfl, trivial, trivial⟩

theorem Stmt.AllGenuine.allSpelled : ∀ {stmts : List Stmt}, Stmt.AllGenuine stmts →
    Phrase.AllSpelled (Stmt.allPhrases stmts)
  | [], _ => trivial
  | _ :: _, ⟨first, rest⟩ => ⟨first.spelled, rest.allSpelled⟩

end

end Parlance
