import SqlReader.Draft

set_option autoImplicit false

namespace SqlReader

-- Where the end of the text is when no token marks it: behind the last token, or at the start of
-- an empty list.
def endPosition (name : String) (tokens : List Token) : Position :=
  match tokens.getLast? with
  | some last => last.span.stop
  | none => ⟨0, name⟩

-- Of the tokens behind, the last one is first.
structure Cursor where
  behind : List Token
  ahead : List Token
  stop : Position
  name : String

namespace Cursor

def ofTokens (name : String) (tokens : List Token) : Cursor :=
  ⟨[], tokens, endPosition name tokens, name⟩

def tokens (c : Cursor) : List Token := c.behind.reverse ++ c.ahead

def index (c : Cursor) : Nat := c.behind.length

def current (c : Cursor) : Token := c.ahead.head?.getD (Token.ending c.stop)

def hasTokens (c : Cursor) : Bool := !c.current.isEnd

def position (c : Cursor) : Position := c.current.start

def advance (c : Cursor) : Cursor :=
  match c.ahead with
  | [] => c
  | t :: ahead => if t.isEnd then c else { c with behind := t :: c.behind, ahead }

def expectOneOf (kinds : List Kind) (c : Cursor) : Except SyntaxError Token × Cursor :=
  if c.current.kind ∈ kinds then (.ok c.current, c.advance)
  else (.error (.unexpected kinds c.current), c)

def expect (kind : Kind) (c : Cursor) : Except SyntaxError Token × Cursor := c.expectOneOf [kind]

def columnType (c : Cursor) : Except SyntaxError Token × Cursor :=
  if c.current.kind.isColumnType then (.ok c.current, c.advance)
  else (.error (.notAType c.current), c)

-- After a mistake the cursor stands at the token that was refused, or behind the statement if that
-- was complete.
def read (forms : List Form) (c : Cursor) : Except SyntaxError Statement × Cursor :=
  let reading := (Draft.opening forms).read c.stop c.behind c.ahead
  (reading.result, { c with behind := reading.behind, ahead := reading.ahead })

end Cursor
end SqlReader
