import SqlReader.Diagnostic
import SqlReader.Dump
import SqlReader.Input
import SqlReader.Script
import SqlReader.Text.Outline

set_option autoImplicit false

namespace SqlReader.CommandLine

structure Report where
  status : UInt32
  output : String
  errors : String
deriving DecidableEq

def input? : List String → Option Input
  | [] => some .standard
  | [path] => some (.file path)
  | _ => none

def failed (errors : String) : Report := ⟨1, "", errors⟩

def usage (program : String) : Report := failed ("Usage: " ++ program ++ " [FILE]\n")

def unreadable (failure : ReadFailure) : Report :=
  failed ("Error: failed to read input: " ++ failure.message ++ "\n")

def decode (contents : ByteArray) : Except ReadFailure String :=
  match String.fromUTF8? contents with
  | some text => .ok text
  | none => .error .notText

def present (s : Statement) : String := s.render ++ ";\n" ++ outline s.dump ++ "\n"

def answer (source : Source) : Report :=
  match source.script with
  | .ok statements => ⟨0, String.join (statements.map present), ""⟩
  | .error e => failed (e.render source.text)

def respond (input : Input) (contents : Except ReadFailure ByteArray) : Report :=
  match contents.bind decode with
  | .ok text => answer ⟨input.name, text⟩
  | .error failure => unreadable failure

end SqlReader.CommandLine
