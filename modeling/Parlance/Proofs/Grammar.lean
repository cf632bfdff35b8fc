/-
This file is the grammar of the language, as relations between lists of tokens and the trees that
they are written for. From the loosest binding to the tightest an expression is an assignment, a
disjunction, a conjunction, a comparison, a negation, a call or a single token; a condition and an
argument are always a single token. A program is a list of declarations, and a declaration is a
function, a variable or a statement. An `else` belongs to the nearest `if` that can take it, so
what stands between an `if` and its `else` can take none.

A derivation also takes notes, in the order of the source, of what a reader has to hear about: every
list of parameters or arguments, of which those with too many items are reported at the first item
too many. The grammar comes in more and less lenient forms. The strict grammar is the language
itself. A lenient one also derives an assignment whose target is no variable, which stands for its
value, and an error for a declaration that could not be read, which stands for the tokens that were
given up.
-/

import Parlance.Pass.Statement

namespace Parlance

/-- Whether an `else` behind a statement would be read as part of it. -/
def Stmt.takesElse : Stmt → Bool
  | ifThen _ _ => true
  | ifElse _ _ otherwise => otherwise.takesElse
  | whileDo _ body => body.takesElse
  | _ => false

namespace Grammar

/-! ### Notes -/

/-- What a derivation takes note of. -/
inductive Note where
  /-- A list of parameters or arguments, each of them a token. -/
  | items (what : String) (list : List Token)
  /-- The token `be` behind a target that is no variable. -/
  | target (be : Token)
  /-- All that was reported about a declaration that could not be read. -/
  | failed (reports : List Diagnostic)

/-- The report that a list is too long, if it is, at the first item that it has too many. -/
def overlong? (what : String) (items : List Token) : Option Diagnostic :=
  items[maxArity]?.map fun token => ⟨token, token.fault (.tooMany what maxArity)⟩

/-- What is reported because of a note. -/
def Note.reports : Note → List Diagnostic
  | items what list => (overlong? what list).toList
  | target be => [⟨be, be.fault .badTarget⟩]
  | failed reports => reports

/-- What is reported because of several notes. -/
def reports (notes : List Note) : List Diagnostic :=
  notes.flatMap Note.reports

theorem reports_nil : reports [] = [] := rfl

theorem reports_append (notes notes' : List Note) :
    reports (notes ++ notes') = reports notes ++ reports notes' :=
  List.flatMap_append

theorem reports_cons (note : Note) (notes : List Note) :
    reports (note :: notes) = note.reports ++ reports notes :=
  List.flatMap_cons

theorem reports_singleton (note : Note) : reports [note] = note.reports :=
  List.append_nil _

/-- What a grammar derives beyond the language. -/
structure Leniency where
  /-- Whether an assignment may have a target that is no variable. -/
  targets : Prop
  /-- Whether an error may stand for a declaration. -/
  errors : Prop

/-- The grammar of the language itself. -/
def Leniency.strict : Leniency := ⟨False, False⟩

/-- The grammar of what is read without a fatal cause. -/
def Leniency.targetsOnly : Leniency := ⟨True, False⟩

/-- The grammar of all that is ever read. -/
def Leniency.full : Leniency := ⟨True, True⟩

/-! ### Expressions -/

/-- The expression that a single token stands for. -/
inductive Denotes (token : Token) : Expr → Prop
  | no : token.kind = .word .false_ → Denotes token (.literal (.bool false))
  | yes : token.kind = .word .true_ → Denotes token (.literal (.bool true))
  | nothing : token.kind = .word .nothing → Denotes token (.literal .nothing)
  /-- A string or number with a value of its own. -/
  | own {literal} : token.kind = .string ∨ token.kind = .number → token.literal = some literal →
      Denotes token (.literal literal)
  | text : token.kind = .string → token.literal = none →
      Denotes token (.literal (.string token.value))
  | numeral {number} : token.kind = .number → token.literal = none →
      Number.ofText? token.value.toList = some number → Denotes token (.literal (.number number))
  | name : token.kind = .identifier → Denotes token (.name token)

/-- The parameter that a single token is. -/
inductive Parameter (token : Token) : Token → Prop
  | name : token.kind = .identifier → Parameter token token

/-- One or more items with commas between them, with the tokens of the items and what these are. -/
inductive Separated {α : Type} (denotes : Token → α → Prop) :
    List Token → List Token → List α → Prop
  | one {item value} : denotes item value → Separated denotes [item] [item] [value]
  | more {item value comma tokens items values} : denotes item value →
      comma.kind = .mark .comma → Separated denotes tokens items values →
      Separated denotes (item :: comma :: tokens) (item :: items) (value :: values)

/-- Any number of items with commas between them. -/
inductive Listed {α : Type} (denotes : Token → α → Prop) : List Token → List Token → List α → Prop
  | none : Listed denotes [] [] []
  | some {tokens items values} : Separated denotes tokens items values →
      Listed denotes tokens items values

/-- Parameters are their own tokens. -/
theorem Listed.eq_of_parameter {tokens list values : List Token}
    (derived : Listed Parameter tokens list values) : list = values := by
  cases derived with
  | none => rfl
  | some separated =>
    induction separated with
    | one isName => cases isName; rfl
    | more isName _ _ inductionHypothesis => cases isName; rw [inductionHypothesis]

/-- A single token with any number of argument lists behind it. -/
inductive Call : List Token → Expr → List Note → Prop
  | primary {token expr} : Denotes token expr → Call [token] expr []
  | call {tokens callee notes before inner items arguments paren} : Call tokens callee notes →
      before.kind = .mark .emDash → Listed Denotes inner items arguments →
      paren.kind = .mark .emDash →
      Call (tokens ++ before :: (inner ++ [paren])) (.call callee arguments paren)
        (notes ++ [.items "arguments" items])

/-- A call behind any number of `not`. -/
inductive Unary : List Token → Expr → List Note → Prop
  | call {tokens expr notes} : Call tokens expr notes → Unary tokens expr notes
  | not {operator tokens right notes} : operator.kind = .word .not → Unary tokens right notes →
      Unary (operator :: tokens) (.unary operator right) notes

/-- Operands with operators between them, grouped to the left. -/
inductive Chain (operators : List Kind) (join : Expr → Token → Expr → Expr)
    (operand : List Token → Expr → List Note → Prop) : List Token → Expr → List Note → Prop
  | operand {tokens expr notes} : operand tokens expr notes →
      Chain operators join operand tokens expr notes
  | join {tokens left notes operator tokens' right notes'} :
      Chain operators join operand tokens left notes → operator.kind ∈ operators →
      operand tokens' right notes' →
      Chain operators join operand (tokens ++ operator :: tokens') (join left operator right)
        (notes ++ notes')

/-- Operands compared by `is`, `am` or `are`. -/
def Equality : List Token → Expr → List Note → Prop :=
  Chain Kind.equalities .binary Unary

/-- Operands of `and`. -/
def Conjunction : List Token → Expr → List Note → Prop :=
  Chain [.word .and] .logical Equality

/-- Operands of `or`. -/
def Disjunction : List Token → Expr → List Note → Prop :=
  Chain [.word .or] .logical Conjunction

/-- A value behind any number of targets, each with `be` behind it. -/
inductive Assignment (leniency : Leniency) : List Token → Expr → List Note → Prop
  | value {tokens expr notes} : Disjunction tokens expr notes →
      Assignment leniency tokens expr notes
  | assign {name be tokens value notes} : name.kind = .identifier → be.kind = .word .be →
      Assignment leniency tokens value notes →
      Assignment leniency (name :: be :: tokens) (.assign name value) notes
  /-- The target is dropped if it is no variable. -/
  | dropped {tokens target notes be tokens' value notes'} : leniency.targets →
      Disjunction tokens target notes → (∀ name, target ≠ .name name) → be.kind = .word .be →
      Assignment leniency tokens' value notes' →
      Assignment leniency (tokens ++ be :: tokens') value (notes ++ (notes' ++ [.target be]))

/-! ### Statements -/

/-- The words `if` or `while` with a condition between em-dashes. -/
inductive Guard (word : Word) : List Token → Expr → Prop
  | guard {keyword before token condition after} : keyword.kind = .word word →
      before.kind = .mark .emDash → Denotes token condition → after.kind = .mark .emDash →
      Guard word [keyword, before, token, after] condition

mutual

/-- A statement. -/
inductive Statement (leniency : Leniency) : List Token → Stmt → List Note → Prop
  | expression {tokens value notes semicolon} : Assignment leniency tokens value notes →
      semicolon.kind = .mark .semicolon →
      Statement leniency (tokens ++ [semicolon]) (.expression value) notes
  | print {keyword tokens value notes semicolon} : keyword.kind ∈ Kind.prints →
      Assignment leniency tokens value notes → semicolon.kind = .mark .semicolon →
      Statement leniency (keyword :: (tokens ++ [semicolon])) (.print value) notes
  | returns {keyword semicolon} : keyword.kind = .mark .ampersand →
      semicolon.kind = .mark .semicolon →
      Statement leniency [keyword, semicolon] (.returns keyword none) []
  | returnsValue {keyword tokens value notes semicolon} : keyword.kind = .mark .ampersand →
      Assignment leniency tokens value notes → semicolon.kind = .mark .semicolon →
      Statement leniency (keyword :: (tokens ++ [semicolon])) (.returns keyword (some value)) notes
  | whileDo {guard condition tokens body notes} : Guard .while_ guard condition →
      Statement leniency tokens body notes →
      Statement leniency (guard ++ tokens) (.whileDo condition body) notes
  | ifThen {guard condition tokens body notes} : Guard .if_ guard condition →
      Statement leniency tokens body notes →
      Statement leniency (guard ++ tokens) (.ifThen condition body) notes
  | ifElse {guard condition tokens body notes other tokens' otherwise notes'} :
      Guard .if_ guard condition → Statement leniency tokens body notes →
      body.takesElse = false → other.kind = .word .else_ →
      Statement leniency tokens' otherwise notes' →
      Statement leniency (guard ++ (tokens ++ other :: tokens'))
        (.ifElse condition body otherwise) (notes ++ notes')
  | block {colon tokens body notes dot} : colon.kind = .mark .colon →
      Declarations leniency tokens body notes → dot.kind = .mark .dot →
      Statement leniency (colon :: (tokens ++ [dot])) (.block body) notes

/-- A function, a variable or a statement. -/
inductive Declaration (leniency : Leniency) : List Token → Stmt → List Note → Prop
  | function {keyword name before inner parameters after colon tokens body notes dot} :
      keyword.kind = .word .to_ → name.kind = .identifier → before.kind = .mark .emDash →
      Listed Parameter inner parameters parameters → after.kind = .mark .emDash →
      colon.kind = .mark .colon → Declarations leniency tokens body notes →
      dot.kind = .mark .dot →
      Declaration leniency
        (keyword :: name :: before :: (inner ++ after :: colon :: (tokens ++ [dot])))
        (.function name parameters body) (.items "parameters" parameters :: notes)
  | var {keyword name semicolon} : keyword.kind = .word .let_ → name.kind = .identifier →
      semicolon.kind = .mark .semicolon →
      Declaration leniency [keyword, name, semicolon] (.var name none) []
  | varValue {keyword name be tokens value notes semicolon} : keyword.kind = .word .let_ →
      name.kind = .identifier → be.kind = .word .be → Assignment leniency tokens value notes →
      semicolon.kind = .mark .semicolon →
      Declaration leniency (keyword :: name :: be :: (tokens ++ [semicolon]))
        (.var name (some value)) notes
  | statement {tokens stmt notes} : Statement leniency tokens stmt notes →
      Declaration leniency tokens stmt notes
  /-- The tokens were given up because of one of them. -/
  | failed {tokens token reports fault} : leniency.errors → token ∈ tokens →
      fault.cause.fatal = true →
      Declaration leniency tokens (.error token) [.failed (reports ++ [⟨token, fault⟩])]

/-- Declarations one after another, as in a program or a block. -/
inductive Declarations (leniency : Leniency) : List Token → List Stmt → List Note → Prop
  | nil : Declarations leniency [] [] []
  | cons {tokens stmt notes tokens' rest notes'} : Declaration leniency tokens stmt notes →
      Declarations leniency tokens' rest notes' →
      Declarations leniency (tokens ++ tokens') (stmt :: rest) (notes ++ notes')

end

end Grammar

/-! ### Tokens as they are written -/

namespace Token

/-- A token with nothing but a kind and a text. -/
def bare (kind : Kind) (text : String) : Token :=
  ⟨kind, text, none, 1, ⟨⟨0, ""⟩, ⟨0, ""⟩⟩⟩

/-- The token of a mark. -/
def ofMark (mark : Mark) : Token :=
  bare (.mark mark) mark.char.toString

/-- The token of a reserved word. -/
def ofWord (word : Word) : Token :=
  bare (.word word) word.text

/-- The token of a name. -/
def ofName (text : String) : Token :=
  bare .identifier text

end Token

end Parlance
