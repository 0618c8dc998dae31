import SqlReader.Kind
import SqlReader.Position

set_option autoImplicit false

namespace SqlReader

structure Token where
  kind : Kind
  value : String
  span : Span
deriving DecidableEq

namespace Token

def start (t : Token) : Position := t.span.start

def isEnd (t : Token) : Bool := t.kind = .endOfInput

def ending (position : Position) : Token := ⟨.endOfInput, "EOF", ⟨position, position⟩⟩

@[simp] theorem ending_kind (position : Position) : (ending position).kind = .endOfInput := rfl
@[simp] theorem ending_isEnd (position : Position) : (ending position).isEnd = true := rfl
@[simp] theorem ending_start (position : Position) : (ending position).start = position := rfl

def display (t : Token) : String := if t.isEnd then "<end of input>" else t.value

def summary (t : Token) : String :=
  let shown := if t.kind = .identifier || t.kind.isLiteral then t.value else ""
  t.kind.name ++ " (" ++ shown ++ ")"

end Token
end SqlReader
