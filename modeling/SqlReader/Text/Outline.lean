set_option autoImplicit false

namespace SqlReader

namespace Outline

def isOpener (c : Char) : Bool := c = '{' || c = '(' || c = '['

def isCloser (c : Char) : Bool := c = '}' || c = ')' || c = ']'

def newLine (depth : Nat) : List Char := '\n' :: List.replicate (2 * depth) ' '

-- `skip` says that a space is dropped if it comes next. Brackets count without regard to their
-- shape, and the depth stays at zero where closers outnumber openers.
def spread (depth : Nat) (skip : Bool) : List Char → List Char
  | [] => []
  | c :: s =>
    if isOpener c then c :: (newLine (depth + 1) ++ spread (depth + 1) true s)
    else if isCloser c then newLine (depth - 1) ++ c :: spread (depth - 1) skip s
    else if c = ',' then c :: (newLine depth ++ spread depth true s)
    else if c = ' ' && skip then spread depth false s
    else c :: spread depth false s

end Outline

def outline (s : String) : String := String.ofList (Outline.spread 0 false s.toList)

end SqlReader
