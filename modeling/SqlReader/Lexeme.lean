import SqlReader.Lexeme.Class
import SqlReader.Text.Bytes
import SqlReader.Token

set_option autoImplicit false

namespace SqlReader

structure Lexeme where
  sort : LexicalClass
  text : List Char
  offset : Nat
deriving DecidableEq

namespace Lexeme

def size (l : Lexeme) : Nat := byteLength l.text

def next? (offset : Nat) (s : List Char) : Option Lexeme :=
  LexicalClass.all.findSome? fun c =>
    match c.munch s with
    | [] => none
    | text => some ⟨c, text, offset⟩

theorem next?_eq_some {offset : Nat} {s : List Char} {l : Lexeme} (h : next? offset s = some l) :
    l.text = l.sort.munch s ∧ l.text ≠ [] ∧ l.offset = offset := by
  obtain ⟨c, _, found⟩ := List.exists_of_findSome?_eq_some h
  split at found
  · cases found
  · rename_i text nonempty
    cases found
    exact ⟨rfl, fun empty => nonempty empty, rfl⟩

theorem next?_append_drop {offset : Nat} {s : List Char} {l : Lexeme}
    (h : next? offset s = some l) : l.text ++ s.drop l.text.length = s := by
  rw [(next?_eq_some h).1]
  exact l.sort.munch_append_drop s

theorem next?_length {offset : Nat} {s : List Char} {l : Lexeme} (h : next? offset s = some l) :
    0 < l.text.length ∧ l.text.length ≤ s.length := by
  have whole := congrArg List.length (next?_append_drop h)
  have nonempty := List.length_pos_iff.2 (next?_eq_some h).2.1
  simp only [List.length_append] at whole
  omega

def split (offset : Nat) (s : List Char) : List Lexeme × List Char :=
  match h : next? offset s with
  | none => ([], s)
  | some l =>
    have := next?_length h
    let later := split (offset + l.size) (s.drop l.text.length)
    (l :: later.1, later.2)
termination_by s.length

theorem split_flatten (offset : Nat) (s : List Char) :
    (split offset s).1.flatMap Lexeme.text ++ (split offset s).2 = s := by
  fun_induction split offset s with
  | case1 => rfl
  | case2 offset s l h _ later ih =>
    rw [List.flatMap_cons, List.append_assoc, ih]
    exact next?_append_drop h

def token? (source : String) (l : Lexeme) : Option Token :=
  (l.sort.kind? l.text).map fun kind =>
    { kind
      value := String.ofList l.text
      span := ⟨.ofNat source l.offset, .ofNat source (l.offset + l.size)⟩ }

end Lexeme
end SqlReader
