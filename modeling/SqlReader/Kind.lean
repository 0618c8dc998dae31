set_option autoImplicit false

namespace SqlReader

inductive Kind
  | endOfInput
  | identifier
  | number
  | text
  | boolean
  | openParen
  | closeParen
  | comma
  | star
  | semicolon
  | createKeyword
  | tableKeyword
  | insertKeyword
  | intoKeyword
  | valuesKeyword
  | selectKeyword
  | fromKeyword
  | numberType
  | textType
  | booleanType
deriving DecidableEq

inductive Category
  | keyword
  | identifier
  | numberLiteral
  | textLiteral
  | booleanLiteral
  | punctuation
  | endOfInput
deriving DecidableEq

namespace Kind

def all : List Kind :=
  [.endOfInput, .identifier, .number, .text, .boolean, .openParen, .closeParen, .comma, .star,
    .semicolon, .createKeyword, .tableKeyword, .insertKeyword, .intoKeyword, .valuesKeyword,
    .selectKeyword, .fromKeyword, .numberType, .textType, .booleanType]

theorem mem_all (k : Kind) : k ∈ all := by cases k <;> decide

def name : Kind → String
  | endOfInput => "EOF"
  | identifier => "Identifier"
  | number => "Number"
  | text => "Text"
  | boolean => "Boolean"
  | openParen => "OpenParen"
  | closeParen => "CloseParen"
  | comma => "Comma"
  | star => "Star"
  | semicolon => "Semicolon"
  | createKeyword => "Create"
  | tableKeyword => "Table"
  | insertKeyword => "Insert"
  | intoKeyword => "Into"
  | valuesKeyword => "Values"
  | selectKeyword => "Select"
  | fromKeyword => "From"
  | numberType => "NumberType"
  | textType => "TextType"
  | booleanType => "BooleanType"

def ofName? (word : String) : Option Kind := all.find? fun k => k.name == word

def choice : List Kind → String
  | [] => "nothing"
  | [k] => k.name
  | [k, l] => k.name ++ " or " ++ l.name
  | k :: rest => k.name ++ ", " ++ choice rest

def category : Kind → Category
  | endOfInput => .endOfInput
  | identifier => .identifier
  | number => .numberLiteral
  | text => .textLiteral
  | boolean => .booleanLiteral
  | openParen | closeParen | comma | star | semicolon => .punctuation
  | createKeyword | tableKeyword | insertKeyword | intoKeyword | valuesKeyword | selectKeyword
  | fromKeyword | numberType | textType | booleanType => .keyword

def isKeyword (k : Kind) : Bool := k.category = .keyword

def literals : List Kind := [.number, .text, .boolean]

def columnTypes : List Kind := [.numberType, .textType, .booleanType]

def isLiteral (k : Kind) : Bool := k ∈ literals

def isColumnType (k : Kind) : Bool := k ∈ columnTypes

end Kind
end SqlReader
