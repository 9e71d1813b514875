import Lexis.Kind

/-!
# The fixed vocabulary

How the reserved words, operators and separators are spelled. The comment opener is listed with the
marks although it never becomes a token. No spelling occurs twice (`Vocabulary.nodup_spellings`), so
looking one up gives the only kind it has.
-/

namespace Lexis

def Keyword.spelling : Keyword → String
  | .programWord    => "program"
  | .intType        => "int"
  | .booleanType    => "boolean"
  | .numberType     => "number"
  | .scientificType => "scientific"
  | .ifWord         => "if"
  | .thenWord       => "then"
  | .elseWord       => "else"
  | .whileWord      => "while"
  | .functionWord   => "function"
  | .returnWord     => "return"

def Operator.spelling : Operator → String
  | .leftBrace    => "\x7b"
  | .rightBrace   => "\x7d"
  | .leftParen    => "("
  | .rightParen   => ")"
  | .comma        => ","
  | .assign       => "="
  | .equal        => "=="
  | .notEqual     => "!="
  | .less         => "<"
  | .lessEqual    => "<="
  | .greater      => ">"
  | .greaterEqual => ">="
  | .plus         => "+"
  | .minus        => "-"
  | .or           => "|"
  | .and          => "&"
  | .multiply     => "*"
  | .divide       => "/"

/-- Spellings and the kinds they stand for. -/
abbrev Vocabulary := List (String × Kind)

namespace Vocabulary

def kind? (words : Vocabulary) (spelling : String) : Option Kind := words.lookup spelling

def reserved : Vocabulary := Keyword.all.map fun word => (word.spelling, .keyword word)

/-- The operators, the separators and the comment opener. -/
def marks : Vocabulary :=
  Operator.all.map (fun op => (op.spelling, .operator op)) ++ [("//", .comment)]

/-- Everything a seeded symbol table knows. -/
def fixed : Vocabulary := reserved ++ marks

theorem nodup_spellings : (fixed.map (·.1)).Nodup := by decide

theorem kind?_reserved (word : Keyword) : kind? reserved word.spelling = some (.keyword word) := by
  cases word <;> decide

theorem kind?_marks (op : Operator) : kind? marks op.spelling = some (.operator op) := by
  cases op <;> decide

end Vocabulary

end Lexis
