import SqlReader.Number.Decimal
import SqlReader.Text.Apostrophe
import SqlReader.Text.UpperCase
import SqlReader.Token

set_option autoImplicit false

namespace SqlReader

inductive LiteralForm
  | number
  | text
  | boolean
deriving DecidableEq

structure Literal where
  form : LiteralForm
  start : Position
  token : Token
deriving DecidableEq

def LiteralForm.ofKind? : Kind → Option LiteralForm
  | .number => some .number
  | .text => some .text
  | .boolean => some .boolean
  | _ => none

namespace Literal

def ofToken? (t : Token) : Option Literal :=
  (LiteralForm.ofKind? t.kind).map fun form => ⟨form, t.start, t⟩

def render (l : Literal) : String := l.token.display

def number? (l : Literal) : Option Binary64 :=
  (Decimal.read? l.token.value.toList).map Decimal.Reading.toBinary64

def text (l : Literal) : String := String.ofList (Apostrophe.content l.token.value.toList)

def truth? (l : Literal) : Option Bool :=
  let word := upperCase l.token.value.toList
  if word = ['T', 'R', 'U', 'E'] then some true
  else if word = ['F', 'A', 'L', 'S', 'E'] then some false
  else none

end Literal
end SqlReader
