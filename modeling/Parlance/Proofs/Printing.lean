/-
This file proves that the text of a program tells which program it is. Every tree is written as a
phrase, and a text tells which phrase it is; what remains is that a phrase tells which tree it is. A
literal is told from a name, as a name is neither reserved nor begins like a number or a quote. A
group is told by its first word, which is a word of its own for each form or the operator, and by
how many parts it has where a part may be absent. Tokens are told by their texts, as their places in
the tree leave no choice of their kind; only the token of an error may be of any kind.
-/

import Parlance.Proofs.Likeness
import Parlance.Proofs.Phrasing

namespace Parlance

/-! ### A phrase tells which expression it is -/

/-- Two tokens that are the same, wherever they stand. -/
def Token.SameContent (token token' : Token) : Prop :=
  token.content = token'.content

/-- Two tokens with the same text. -/
def Token.SameText (token token' : Token) : Prop :=
  token.value = token'.value

theorem startsWord_of_isNumeral {c : Char} (numeral : Number.isNumeral c = true) :
    startsWord c = false := by
  rw [Number.isNumeral, Bool.or_eq_true, Bool.or_eq_true, decide_eq_true_eq,
    decide_eq_true_eq] at numeral
  rcases numeral with (digit | rfl) | rfl
  · exact startsWord_of_isDigit digit
  · rfl
  · rfl

/-- The text of a finite number is no word. -/
theorem Number.text_ne_of_isWord {number : Number} (finite : number.IsFinite) {text : String}
    (isWord : IsWord text.toList) : number.text ≠ text := by
  rintro rfl
  obtain ⟨first, rest, written, starts, -⟩ := isWord
  have numeral := Number.isNumeral_of_isFinite finite first (written ▸ List.mem_cons_self)
  rw [startsWord_of_isNumeral numeral] at starts
  cases starts

/-- A value is a string, a number, or what a reserved word carries. -/
theorem Literal.cases (literal : Literal) :
    (∃ value, literal = string value) ∨ (∃ value, literal = number value) ∨
      ∃ reserved, Word.literal? reserved = some literal ∧
        literal.phrase = .spell reserved.text := by
  match literal with
  | string value => exact .inl ⟨value, rfl⟩
  | number value => exact .inr (.inl ⟨value, rfl⟩)
  | bool true => exact .inr (.inr ⟨.true_, rfl, rfl⟩)
  | bool false => exact .inr (.inr ⟨.false_, rfl, rfl⟩)
  | nothing => exact .inr (.inr ⟨.nothing, rfl, rfl⟩)

theorem Literal.eq_of_phrase_eq {literal literal' : Literal} (finite : literal.IsFinite)
    (finite' : literal'.IsFinite) (same : literal.phrase = literal'.phrase) :
    literal = literal' := by
  have apart {number : Number} (finite : number.IsFinite) (reserved : Word) :
      Phrase.spell number.text ≠ .spell reserved.text := fun same =>
    Number.text_ne_of_isWord finite (isWord_text reserved) (Phrase.spell_inj.mp same)
  -- Strings stand in quotes, numbers begin like no word, and words are told by their spelling.
  rcases literal.cases with ⟨value, rfl⟩ | ⟨value, rfl⟩ | ⟨reserved, carried, written⟩ <;>
  rcases literal'.cases with ⟨value', rfl⟩ | ⟨value', rfl⟩ | ⟨reserved', carried', written'⟩
  · rw [String.toList_inj.mp (Phrase.quoted.inj same)]
  · cases same
  · cases same.trans written'
  · cases same
  · rw [Number.eq_of_text_eq finite finite' (Phrase.spell_inj.mp same)]
  · exact absurd (same.trans written') (apart finite reserved')
  · cases same.symm.trans written
  · exact absurd (same.symm.trans written) (apart finite' reserved)
  · have texts := Phrase.spell_inj.mp (written.symm.trans (same.trans written'))
    have words := congrArg Word.ofText? texts
    rw [Word.ofText?_text, Word.ofText?_text] at words
    rw [Option.some.inj words, carried'] at carried
    exact (Option.some.inj carried).symm

/-- The form of an expression whose phrase is a group that begins with a word of a kind. -/
def Kind.groupForm : Kind → String
  | word .be => "Assignment"
  | word .and => "Logical"
  | word .or => "Logical"
  | word .not => "Unary"
  | word _ => "Binary"
  | _ => "Call"

/-- The form of an expression with a phrase. A word is a name if it is not reserved. -/
def Phrase.exprForm : Phrase → String
  | group (word text :: _) => (Kind.ofWord (String.ofList text)).groupForm
  | word text =>
    if text.head?.any startsWord && Kind.ofWord (String.ofList text) = .identifier then "Variable"
    else "Literal"
  | _ => "Literal"

theorem Phrase.exprForm_group (text : String) (rest : List Phrase) :
    (group (spell text :: rest)).exprForm = (Kind.ofWord text).groupForm := by
  rw [spell, exprForm, String.ofList_toList]

theorem Literal.exprForm_phrase {literal : Literal} (finite : literal.IsFinite) :
    literal.phrase.exprForm = "Literal" := by
  rcases literal.cases with ⟨value, rfl⟩ | ⟨value, rfl⟩ | ⟨reserved, -, written⟩
  · rfl
  · refine if_neg fun isName => ?_
    obtain ⟨starts, -⟩ := Bool.and_eq_true_iff.mp isName
    obtain ⟨first, begins, starts⟩ := (Option.any_eq_true _ _).mp starts
    have numeral := Number.isNumeral_of_isFinite finite first (List.mem_of_head? begins)
    rw [startsWord_of_isNumeral numeral] at starts
    cases starts
  · rw [written, Phrase.spell, Phrase.exprForm, String.ofList_toList, Kind.ofWord,
      Word.ofText?_text]
    simp

theorem Token.Fits.groupForm {kinds : List Kind} {token : Token} (fits : token.Fits kinds)
    (form : String) (words : kinds.all Kind.isWord = true)
    (each : ∀ kind ∈ kinds, kind.groupForm = form) :
    (Kind.ofWord token.value).groupForm = form := by
  rw [← fits.kind_eq words]
  exact each token.kind fits.kind

/-- The phrase of an expression tells its form. -/
theorem Expr.exprForm_phrase {expr : Expr} (genuine : expr.Genuine) :
    expr.phrase.exprForm = expr.form := by
  cases expr with
  | literal value => exact Literal.exprForm_phrase genuine
  | name token =>
    obtain ⟨first, rest, written, starts, -⟩ := Token.Fits.isWord_value genuine rfl
    have isName := (Token.Fits.kind_eq genuine rfl).symm.trans (List.mem_singleton.mp genuine.kind)
    refine if_pos ?_
    rw [String.ofList_toList, isName, written]
    simpa using starts
  | assign token value =>
    rw [phrase, Phrase.exprForm_group]
    rfl
  | logical left operator right =>
    rw [phrase, Phrase.exprForm_group]
    exact genuine.1.groupForm "Logical" rfl (by decide)
  | binary left operator right =>
    rw [phrase, Phrase.exprForm_group]
    exact genuine.1.groupForm "Binary" rfl (by decide)
  | unary operator right =>
    rw [phrase, Phrase.exprForm_group]
    exact genuine.1.groupForm "Unary" rfl (by decide)
  | call callee arguments paren =>
    rw [phrase, Phrase.exprForm_group]
    rfl

theorem Expr.form_eq_of_phrase_eq {expr expr' : Expr} (genuine : expr.Genuine)
    (genuine' : expr'.Genuine) (same : expr.phrase = expr'.phrase) : expr.form = expr'.form := by
  rw [← exprForm_phrase genuine, same, exprForm_phrase genuine']

mutual

theorem Expr.alike_of_phrase_eq : ∀ {expr expr' : Expr}, expr.Genuine → expr'.Genuine →
    expr.phrase = expr'.phrase → Expr.Alike Token.SameContent expr expr'
  | .literal value, expr', genuine, genuine', same => by
    cases expr' with
    | literal value' =>
      rw [Literal.eq_of_phrase_eq genuine genuine' same]
      exact .literal value'
    | _ => exact absurd (Expr.form_eq_of_phrase_eq genuine genuine' same) (by simp [Expr.form])
  | .name token, expr', genuine, genuine', same => by
    cases expr' with
    | name token' => exact .name (genuine.content_eq genuine' rfl rfl (Phrase.spell_inj.mp same))
    | _ => exact absurd (Expr.form_eq_of_phrase_eq genuine genuine' same) (by simp [Expr.form])
  | .assign token value, expr', genuine, genuine', same => by
    cases expr' with
    | assign token' value' =>
      simp only [Expr.phrase, Phrase.group.injEq, List.cons.injEq, Phrase.spell_inj] at same
      obtain ⟨-, names, values, -⟩ := same
      exact .assign (genuine.1.content_eq genuine'.1 rfl rfl names)
        (Expr.alike_of_phrase_eq genuine.2 genuine'.2 values)
    | _ => exact absurd (Expr.form_eq_of_phrase_eq genuine genuine' same) (by simp [Expr.form])
  | .logical left operator right, expr', genuine, genuine', same => by
    cases expr' with
    | logical left' operator' right' =>
      simp only [Expr.phrase, Phrase.group.injEq, List.cons.injEq, Phrase.spell_inj] at same
      obtain ⟨operators, lefts, rights, -⟩ := same
      exact .logical (Expr.alike_of_phrase_eq genuine.2.1 genuine'.2.1 lefts)
        (genuine.1.content_eq genuine'.1 rfl rfl operators)
        (Expr.alike_of_phrase_eq genuine.2.2 genuine'.2.2 rights)
    | _ => exact absurd (Expr.form_eq_of_phrase_eq genuine genuine' same) (by simp [Expr.form])
  | .binary left operator right, expr', genuine, genuine', same => by
    cases expr' with
    | binary left' operator' right' =>
      simp only [Expr.phrase, Phrase.group.injEq, List.cons.injEq, Phrase.spell_inj] at same
      obtain ⟨operators, lefts, rights, -⟩ := same
      exact .binary (Expr.alike_of_phrase_eq genuine.2.1 genuine'.2.1 lefts)
        (genuine.1.content_eq genuine'.1 rfl rfl operators)
        (Expr.alike_of_phrase_eq genuine.2.2 genuine'.2.2 rights)
    | _ => exact absurd (Expr.form_eq_of_phrase_eq genuine genuine' same) (by simp [Expr.form])
  | .unary operator right, expr', genuine, genuine', same => by
    cases expr' with
    | unary operator' right' =>
      simp only [Expr.phrase, Phrase.group.injEq, List.cons.injEq, Phrase.spell_inj] at same
      obtain ⟨operators, rights, -⟩ := same
      exact .unary (genuine.1.content_eq genuine'.1 rfl rfl operators)
        (Expr.alike_of_phrase_eq genuine.2 genuine'.2 rights)
    | _ => exact absurd (Expr.form_eq_of_phrase_eq genuine genuine' same) (by simp [Expr.form])
  | .call callee arguments paren, expr', genuine, genuine', same => by
    cases expr' with
    | call callee' arguments' paren' =>
      simp only [Expr.phrase, Phrase.group.injEq, List.cons.injEq] at same
      obtain ⟨-, callees, lists⟩ := same
      exact .call (Expr.alike_of_phrase_eq genuine.2.1 genuine'.2.1 callees)
        (Expr.allAlike_of_allPhrases_eq genuine.2.2 genuine'.2.2 lists)
        (genuine.1.content_eq_of_mark genuine'.1)
    | _ => exact absurd (Expr.form_eq_of_phrase_eq genuine genuine' same) (by simp [Expr.form])

theorem Expr.allAlike_of_allPhrases_eq : ∀ {exprs exprs' : List Expr}, Expr.AllGenuine exprs →
    Expr.AllGenuine exprs' → Expr.allPhrases exprs = Expr.allPhrases exprs' →
    List.Forall₂ (Expr.Alike Token.SameContent) exprs exprs'
  | [], [], _, _, _ => .nil
  | _ :: _, _ :: _, ⟨first, rest⟩, ⟨first', rest'⟩, same =>
    have parts := List.cons.inj same
    .cons (Expr.alike_of_phrase_eq first first' parts.1)
      (Expr.allAlike_of_allPhrases_eq rest rest' parts.2)

end

/-! ### A phrase tells which statement it is -/

theorem Expr.optionAlike_of_phrases_eq {value value' : Option Expr}
    (genuine : ∀ expr ∈ value, expr.Genuine) (genuine' : ∀ expr ∈ value', expr.Genuine)
    (same : value.toList.map Expr.phrase = value'.toList.map Expr.phrase) :
    Option.Rel (Expr.Alike Token.SameContent) value value' := by
  match value, value' with
  | none, none => exact .none
  | some expr, some expr' =>
    exact .some (Expr.alike_of_phrase_eq (genuine expr rfl) (genuine' expr' rfl)
      (List.cons.inj same).1)

theorem Token.forall₂_of_phrases_eq {parameters parameters' : List Token}
    (fits : ∀ parameter ∈ parameters, parameter.Fits [.identifier])
    (fits' : ∀ parameter ∈ parameters', parameter.Fits [.identifier])
    (same : (parameters.map fun parameter => Phrase.spell parameter.value) =
      parameters'.map fun parameter => Phrase.spell parameter.value) :
    List.Forall₂ Token.SameContent parameters parameters' := by
  induction parameters generalizing parameters' with
  | nil =>
    rw [List.map_eq_nil_iff.mp same.symm]
    exact .nil
  | cons parameter parameters inductionHypothesis =>
    cases parameters' with
    | nil => cases same
    | cons parameter' parameters' =>
      obtain ⟨first, rest⟩ := List.forall_mem_cons.mp fits
      obtain ⟨first', rest'⟩ := List.forall_mem_cons.mp fits'
      obtain ⟨texts, others⟩ := List.cons.inj same
      exact .cons (first.content_eq first' rfl rfl (Phrase.spell_inj.mp texts))
        (inductionHypothesis rest rest' others)

mutual

theorem Stmt.alike_of_phrase_eq : ∀ {stmt stmt' : Stmt}, stmt.Genuine → stmt'.Genuine →
    stmt.phrase = stmt'.phrase → Stmt.Alike Token.SameContent Token.SameText stmt stmt'
  | .expression value, stmt', genuine, genuine', same => by
    cases stmt' with
    | expression value' =>
      simp only [Stmt.phrase, Phrase.group.injEq, List.cons.injEq] at same
      exact .expression (Expr.alike_of_phrase_eq genuine genuine' same.2.1)
    | _ => simp [Stmt.phrase, Phrase.spell_inj] at same
  | .print value, stmt', genuine, genuine', same => by
    cases stmt' with
    | print value' =>
      simp only [Stmt.phrase, Phrase.group.injEq, List.cons.injEq] at same
      exact .print (Expr.alike_of_phrase_eq genuine genuine' same.2.1)
    | _ => simp [Stmt.phrase, Phrase.spell_inj] at same
  | .var name initial, stmt', genuine, genuine', same => by
    cases stmt' with
    | var name' initial' =>
      simp only [Stmt.phrase, Phrase.group.injEq, List.cons.injEq, Phrase.spell_inj] at same
      obtain ⟨-, names, initials⟩ := same
      exact .var (genuine.1.content_eq genuine'.1 rfl rfl names)
        (Expr.optionAlike_of_phrases_eq genuine.2 genuine'.2 initials)
    | _ => simp [Stmt.phrase, Phrase.spell_inj] at same
  | .block body, stmt', genuine, genuine', same => by
    cases stmt' with
    | block body' =>
      simp only [Stmt.phrase, Phrase.group.injEq, List.cons.injEq] at same
      exact .block (Stmt.allAlike_of_allPhrases_eq genuine genuine' same.2)
    | _ => simp [Stmt.phrase, Phrase.spell_inj] at same
  | .ifThen condition body, stmt', genuine, genuine', same => by
    cases stmt' with
    | ifThen condition' body' =>
      simp only [Stmt.phrase, Phrase.group.injEq, List.cons.injEq] at same
      obtain ⟨-, conditions, bodies, -⟩ := same
      exact .ifThen (Expr.alike_of_phrase_eq genuine.1 genuine'.1 conditions)
        (Stmt.alike_of_phrase_eq genuine.2 genuine'.2 bodies)
    | _ => simp [Stmt.phrase, Phrase.spell_inj] at same
  | .ifElse condition body otherwise, stmt', genuine, genuine', same => by
    cases stmt' with
    | ifElse condition' body' otherwise' =>
      simp only [Stmt.phrase, Phrase.group.injEq, List.cons.injEq] at same
      obtain ⟨-, conditions, bodies, others, -⟩ := same
      exact .ifElse (Expr.alike_of_phrase_eq genuine.1 genuine'.1 conditions)
        (Stmt.alike_of_phrase_eq genuine.2.1 genuine'.2.1 bodies)
        (Stmt.alike_of_phrase_eq genuine.2.2 genuine'.2.2 others)
    | _ => simp [Stmt.phrase, Phrase.spell_inj] at same
  | .whileDo condition body, stmt', genuine, genuine', same => by
    cases stmt' with
    | whileDo condition' body' =>
      simp only [Stmt.phrase, Phrase.group.injEq, List.cons.injEq] at same
      obtain ⟨-, conditions, bodies, -⟩ := same
      exact .whileDo (Expr.alike_of_phrase_eq genuine.1 genuine'.1 conditions)
        (Stmt.alike_of_phrase_eq genuine.2 genuine'.2 bodies)
    | _ => simp [Stmt.phrase, Phrase.spell_inj] at same
  | .function name parameters body, stmt', genuine, genuine', same => by
    cases stmt' with
    | function name' parameters' body' =>
      simp only [Stmt.phrase, Phrase.group.injEq, List.cons.injEq, Phrase.spell_inj] at same
      obtain ⟨-, names, lists, bodies⟩ := same
      exact .function (genuine.1.content_eq genuine'.1 rfl rfl names)
        (Token.forall₂_of_phrases_eq genuine.2.1 genuine'.2.1 lists)
        (Stmt.allAlike_of_allPhrases_eq genuine.2.2 genuine'.2.2 bodies)
    | _ => simp [Stmt.phrase, Phrase.spell_inj] at same
  | .returns keyword value, stmt', genuine, genuine', same => by
    cases stmt' with
    | returns keyword' value' =>
      simp only [Stmt.phrase, Phrase.group.injEq, List.cons.injEq] at same
      exact .returns (genuine.1.content_eq_of_mark genuine'.1)
        (Expr.optionAlike_of_phrases_eq genuine.2 genuine'.2 same.2)
    | _ => simp [Stmt.phrase, Phrase.spell_inj] at same
  | .error token, stmt', genuine, genuine', same => by
    cases stmt' with
    | error token' =>
      simp only [Stmt.phrase, Phrase.group.injEq, List.cons.injEq, Phrase.quoted.injEq] at same
      exact .error (String.toList_inj.mp same.2.1)
    | _ => simp [Stmt.phrase, Phrase.spell_inj] at same

theorem Stmt.allAlike_of_allPhrases_eq : ∀ {stmts stmts' : List Stmt}, Stmt.AllGenuine stmts →
    Stmt.AllGenuine stmts' → Stmt.allPhrases stmts = Stmt.allPhrases stmts' →
    List.Forall₂ (Stmt.Alike Token.SameContent Token.SameText) stmts stmts'
  | [], [], _, _, _ => .nil
  | _ :: _, _ :: _, ⟨first, rest⟩, ⟨first', rest'⟩, same =>
    have parts := List.cons.inj same
    .cons (Stmt.alike_of_phrase_eq first first' parts.1)
      (Stmt.allAlike_of_allPhrases_eq rest rest' parts.2)

end

/-! ### A text tells which program it is -/

theorem Stmt.allPhrases_eq (stmts : List Stmt) : allPhrases stmts = stmts.map phrase := by
  induction stmts with
  | nil => rfl
  | cons stmt stmts inductionHypothesis =>
    rw [allPhrases, inductionHypothesis, List.map_cons]

theorem Stmt.allAlike_of_programText_eq {program program' : List Stmt}
    (genuine : AllGenuine program) (genuine' : AllGenuine program')
    (same : programText program = programText program') :
    List.Forall₂ (Stmt.Alike Token.SameContent Token.SameText) program program' := by
  have texts := congrArg String.toList same
  rw [toList_programText, toList_programText, ← allPhrases_eq, ← allPhrases_eq] at texts
  exact allAlike_of_allPhrases_eq genuine genuine' (Phrase.joinedText_inj rfl
    ((Phrase.allSpelled_iff _).mp genuine.allSpelled)
    ((Phrase.allSpelled_iff _).mp genuine'.allSpelled) texts)

/-- All numbers in a source are finite. -/
def FiniteNumbers (source file : String) : Prop :=
  ∀ tokens ∈ (tokenize source file).toOption, ∀ token ∈ tokens, token.IsFinite

instance (source file : String) : Decidable (FiniteNumbers source file) :=
  inferInstanceAs (Decidable (∀ tokens ∈ (tokenize source file).toOption, ∀ token ∈ tokens,
    token.IsFinite))

namespace Program

variable {source file source' file' : String} {program program' : Program}

theorem allGenuine_of_ofSource (done : ofSource source file = .ok program)
    (finite : FiniteNumbers source file) : Stmt.AllGenuine program.statements := by
  unfold ofSource at done
  cases outcome : tokenize source file with
  | error fault =>
    rw [outcome] at done
    cases done
  | ok tokens =>
    rw [outcome] at done
    cases done
    have found : (tokenize source file).toOption = some tokens := by
      rw [outcome]
      rfl
    have genuine := (tokenize_eq_ok_iff.mp outcome).genuine
    exact allGenuine (fun token member => ⟨genuine token member, finite _ found _ member⟩) file

/-- The text of a program tells which program it is: two sources with finite numbers whose programs
have the same text have the same program, save for where its tokens stand and for the kinds of the
tokens at which reading stopped. -/
theorem alike_of_programText_eq (done : ofSource source file = .ok program)
    (done' : ofSource source' file' = .ok program') (finite : FiniteNumbers source file)
    (finite' : FiniteNumbers source' file')
    (same : programText program.statements = programText program'.statements) :
    List.Forall₂ (Stmt.Alike Token.SameContent Token.SameText) program.statements
      program'.statements :=
  Stmt.allAlike_of_programText_eq (allGenuine_of_ofSource done finite)
    (allGenuine_of_ofSource done' finite') same

/-- Whether a source has a program with a certain text can be decided. -/
theorem exists_of_programText {source file text : String}
    (written : ((ofSource source file).map fun program =>
      programText program.statements).toOption = some text) :
    ∃ program, ofSource source file = .ok program ∧ programText program.statements = text := by
  cases outcome : ofSource source file with
  | error fault =>
    rw [outcome] at written
    cases written
  | ok program =>
    rw [outcome] at written
    exact ⟨program, rfl, Option.some.inj written⟩

/-- Two sources with the same text. The second statement of each fails, once at the end and once at
a name that is spelled like the text of the end token. -/
theorem alike_of_programText_eq_failures :
    ∃ program program', ofSource "say 1.0; 2" "f" = .ok program ∧
      ofSource "know  1 ;\n2 EOF;" "g" = .ok program' ∧
      programText program.statements = "(print 1)\n(error \"EOF\")" ∧
      List.Forall₂ (Stmt.Alike Token.SameContent Token.SameText) program.statements
        program'.statements := by
  have written : ((ofSource "say 1.0; 2" "f").map fun program =>
      programText program.statements).toOption = some "(print 1)\n(error \"EOF\")" := by
    decide +kernel
  have written' : ((ofSource "know  1 ;\n2 EOF;" "g").map fun program =>
      programText program.statements).toOption = some "(print 1)\n(error \"EOF\")" := by
    decide +kernel
  obtain ⟨program, done, text⟩ := exists_of_programText written
  obtain ⟨program', done', text'⟩ := exists_of_programText written'
  exact ⟨program, program', done, done', text,
    alike_of_programText_eq done done' (by decide +kernel) (by decide +kernel)
      (text.trans text'.symm)⟩

end Program

end Parlance
