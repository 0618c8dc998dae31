import SqlReader.SyntaxError
import SqlReader.Text.Blank
import SqlReader.Text.Line

set_option autoImplicit false

namespace SqlReader

namespace Line

def indent (l : Line) : Nat := (l.text.takeWhile (· = ' ')).length

def shown (l : Line) : List Char := trimRight (l.text.drop l.indent)

def dashes (l : Line) : Nat := l.column - l.indent

def numberText (l : Line) : String := toString l.number

def margin (l : Line) : String :=
  String.ofList (List.replicate (l.numberText.length + 1) ' ' ++ ['|'])

def excerpt (l : Line) : String :=
  l.margin ++ "\n"
    ++ l.numberText ++ " | " ++ String.ofList l.shown ++ "\n"
    ++ l.margin ++ " " ++ String.ofList (List.replicate l.dashes '-') ++ "^\n"

end Line

namespace SyntaxError

def heading (e : SyntaxError) : String :=
  match e.cause.tip? with
  | none => "Error: " ++ e.cause.name
  | some tip => "Error: " ++ e.cause.name ++ " (" ++ tip ++ ")"

def render (e : SyntaxError) (text : String) : String :=
  e.heading ++ "\n-> " ++ e.position.source ++ "\n"
    ++ ((lineAt? text.toList e.position.offset.toNat).map Line.excerpt).getD ""

end SyntaxError
end SqlReader
