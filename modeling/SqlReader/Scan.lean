import SqlReader.Lexeme
import SqlReader.Source
import SqlReader.SyntaxError

set_option autoImplicit false

namespace SqlReader

structure Scan where
  lexemes : List Lexeme
  rest : List Char

namespace Scan

def ofText (text : List Char) : Scan :=
  let cut := Lexeme.split 0 text
  ⟨cut.1, cut.2⟩

def stop (scan : Scan) : Nat := byteLength (scan.lexemes.flatMap Lexeme.text)

def tokens (scan : Scan) (name : String) : List Token :=
  scan.lexemes.filterMap (Lexeme.token? name)

def ending (scan : Scan) (name : String) : Token := Token.ending (.ofNat name scan.stop)

def result (scan : Scan) (name : String) : Except SyntaxError (List Token) :=
  match scan.rest with
  | [] => .ok (scan.tokens name ++ [scan.ending name])
  | c :: _ => .error ⟨.unrecognised (String.singleton c), .ofNat name scan.stop⟩

end Scan

def Source.scan (s : Source) : Scan := Scan.ofText s.text.toList

def Source.tokenize (s : Source) : Except SyntaxError (List Token) := s.scan.result s.name

theorem Source.scan_flatten (s : Source) :
    s.scan.lexemes.flatMap Lexeme.text ++ s.scan.rest = s.text.toList :=
  Lexeme.split_flatten 0 s.text.toList

end SqlReader
