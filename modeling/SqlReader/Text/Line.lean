import SqlReader.Text.Bytes

set_option autoImplicit false

namespace SqlReader

def lines : List Char → List (List Char)
  | [] => []
  | c :: s =>
    if c = '\n' then ['\n'] :: lines s
    else
      match lines s with
      | [] => [[c]]
      | line :: rest => (c :: line) :: rest

theorem lines_flatten (s : List Char) : (lines s).flatten = s := by
  induction s with
  | nil => rfl
  | cons c s ih =>
    by_cases newline : c = '\n'
    · simp [lines, newline, ih]
    · simp only [lines, if_neg newline]
      cases h : lines s with
      | nil => simp [h] at ih; simp [← ih]
      | cons line rest => simp [h] at ih; simp [← ih]

-- Lines are counted from one, and the bytes of a line from zero.
structure Line where
  number : Nat
  text : List Char
  column : Nat
deriving DecidableEq

namespace Line

-- The end of the text belongs to its last line, or to an empty one after a final newline.
def locate (number : Nat) : List (List Char) → Nat → Option Line
  | [], offset => if offset = 0 then some ⟨number, [], 0⟩ else none
  | line :: rest, offset =>
    let size := byteLength line
    if offset < size || (offset = size && line.getLast? ≠ some '\n') then
      some ⟨number, line, offset⟩
    else locate (number + 1) rest (offset - size)

end Line

def lineAt? (text : List Char) (offset : Nat) : Option Line := Line.locate 1 (lines text) offset

end SqlReader
