/-!
# Kinds of lexemes

A lexeme is an identifier, a numeric literal, a reserved word, an operator or separator, or the mark
that opens a comment. `Kind.bogus` is the kind of nothing: asking for it finds out whether a lexeme
is known. Every kind has a name, and `Kind.ofName?` reads the name back (`Kind.ofName?_name`).
-/

namespace Lexis

/-- The forms of a numeric literal: `12`, `12.5` and `1.5e-3`. -/
inductive Literal where
  | integer
  | decimal
  | scientific
deriving DecidableEq, Repr

inductive Keyword where
  | programWord
  | intType
  | booleanType
  | numberType
  | scientificType
  | ifWord
  | thenWord
  | elseWord
  | whileWord
  | functionWord
  | returnWord
deriving DecidableEq, Repr

inductive Operator where
  | leftBrace
  | rightBrace
  | leftParen
  | rightParen
  | comma
  | assign
  | equal
  | notEqual
  | less
  | lessEqual
  | greater
  | greaterEqual
  | plus
  | minus
  | or
  | and
  | multiply
  | divide
deriving DecidableEq, Repr

/-- What a lexeme stands for. -/
inductive Kind where
  | identifier
  | literal (form : Literal)
  | keyword (word : Keyword)
  | operator (op : Operator)
  | comment
  | bogus
deriving DecidableEq, Repr

/-! ### Enumerations -/

def Literal.all : List Literal := [.integer, .decimal, .scientific]

def Keyword.all : List Keyword :=
  [.programWord, .intType, .booleanType, .numberType, .scientificType, .ifWord, .thenWord,
   .elseWord, .whileWord, .functionWord, .returnWord]

def Operator.all : List Operator :=
  [.leftBrace, .rightBrace, .leftParen, .rightParen, .comma, .assign, .equal, .notEqual, .less,
   .lessEqual, .greater, .greaterEqual, .plus, .minus, .or, .and, .multiply, .divide]

def Kind.all : List Kind :=
  .identifier :: Literal.all.map .literal ++ Keyword.all.map .keyword ++
    Operator.all.map .operator ++ [.comment, .bogus]

theorem Literal.mem_all (form : Literal) : form ∈ Literal.all := by cases form <;> decide

theorem Keyword.mem_all (word : Keyword) : word ∈ Keyword.all := by cases word <;> decide

theorem Operator.mem_all (op : Operator) : op ∈ Operator.all := by cases op <;> decide

theorem Kind.mem_all (kind : Kind) : kind ∈ Kind.all := by
  cases kind <;> simp [Kind.all, Literal.mem_all, Keyword.mem_all, Operator.mem_all]

/-! ### Names -/

def Literal.name : Literal → String
  | .integer    => "Integer"
  | .decimal    => "NumberLit"
  | .scientific => "ScientificLit"

def Keyword.name : Keyword → String
  | .programWord    => "Program"
  | .intType        => "Int"
  | .booleanType    => "Boolean"
  | .numberType     => "Number"
  | .scientificType => "Scientific"
  | .ifWord         => "If"
  | .thenWord       => "Then"
  | .elseWord       => "Else"
  | .whileWord      => "While"
  | .functionWord   => "Function"
  | .returnWord     => "Return"

def Operator.name : Operator → String
  | .leftBrace    => "LeftBrace"
  | .rightBrace   => "RightBrace"
  | .leftParen    => "LeftParen"
  | .rightParen   => "RightParen"
  | .comma        => "Comma"
  | .assign       => "Assign"
  | .equal        => "Equal"
  | .notEqual     => "NotEqual"
  | .less         => "Less"
  | .lessEqual    => "LessEqual"
  | .greater      => "Greater"
  | .greaterEqual => "GreaterEqual"
  | .plus         => "Plus"
  | .minus        => "Minus"
  | .or           => "Or"
  | .and          => "And"
  | .multiply     => "Multiply"
  | .divide       => "Divide"

namespace Kind

/-- The name of a kind, as rows and reports show it. -/
def name : Kind → String
  | identifier   => "Identifier"
  | literal form => form.name
  | keyword word => word.name
  | operator op  => op.name
  | comment      => "Comment"
  | bogus        => "BogusToken"

def ofName? (text : String) : Option Kind := all.find? fun kind => kind.name == text

/-- A kind is found under its own name and no other. -/
theorem ofName?_name (kind : Kind) : ofName? kind.name = some kind := by
  cases kind with
  | literal form  => cases form <;> decide
  | keyword word  => cases word <;> decide
  | operator op   => cases op <;> decide
  | _             => decide

/-! ### Classes of kinds -/

def isReserved : Kind → Bool
  | keyword _ => true
  | _         => false

def isLiteral : Kind → Bool
  | literal _ => true
  | _         => false

/-- Whether a kind is that of words and numerals outside the fixed vocabulary. -/
def isOpen (kind : Kind) : Bool := kind == .identifier || kind.isLiteral

end Kind

end Lexis
