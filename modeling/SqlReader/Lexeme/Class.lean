import SqlReader.Kind.Reserved
import SqlReader.Text.Blank

set_option autoImplicit false

namespace SqlReader

inductive Mark
  | openParen
  | closeParen
  | comma
  | star
  | semicolon
deriving DecidableEq

namespace Mark

def char : Mark → Char
  | openParen => '('
  | closeParen => ')'
  | comma => ','
  | star => '*'
  | semicolon => ';'

def kind : Mark → Kind
  | openParen => .openParen
  | closeParen => .closeParen
  | comma => .comma
  | star => .star
  | semicolon => .semicolon

end Mark

inductive LexicalClass
  | blank
  | comment
  | word
  | number
  | text
  | mark (m : Mark)
deriving DecidableEq

-- What is cut off a text, possibly nothing.
abbrev Munch := List Char → List Char

namespace Munch

def isWordStart (c : Char) : Bool := c.isAlpha || c = '_'

def isWordPart (c : Char) : Bool := c.isAlphanum || c = '_'

def comment : Munch
  | '-' :: '-' :: s => '-' :: '-' :: s.takeWhile (· ≠ '\n')
  | _ => []

def word : Munch
  | c :: s => if isWordStart c then c :: s.takeWhile isWordPart else []
  | [] => []

def fraction : Munch
  | '.' :: s =>
    match s.takeWhile Char.isDigit with
    | [] => []
    | digits => '.' :: digits
  | _ => []

def unsigned : Munch := fun s =>
  match s.takeWhile Char.isDigit with
  | [] => []
  | digits => digits ++ fraction (s.drop digits.length)

def number : Munch
  | '-' :: s =>
    match unsigned s with
    | [] => []
    | digits => '-' :: digits
  | s => unsigned s

-- Up to the last apostrophe that can close the literal. Two in a row stand for one in the text,
-- unless nothing behind them closes the literal: then the first of the two does.
def toClose? : List Char → Option (List Char)
  | [] => none
  | '\'' :: '\'' :: s =>
    match toClose? s with
    | some rest => some ('\'' :: '\'' :: rest)
    | none => some ['\'']
  | c :: s => if c = '\'' then some ['\''] else (toClose? s).map (c :: ·)

def text : Munch
  | '\'' :: s =>
    match toClose? s with
    | some rest => '\'' :: rest
    | none => []
  | _ => []

def mark (m : Mark) : Munch
  | c :: _ => if c = m.char then [c] else []
  | [] => []

end Munch

namespace LexicalClass

-- In the order in which they are tried.
def all : List LexicalClass :=
  [.blank, .comment, .word, .number, .text, .mark .openParen, .mark .closeParen, .mark .comma,
    .mark .star, .mark .semicolon]

theorem mem_all (c : LexicalClass) : c ∈ all := by
  cases c with
  | mark m => cases m <;> decide
  | _ => decide

def munch : LexicalClass → Munch
  | blank => List.takeWhile isBlank
  | comment => Munch.comment
  | word => Munch.word
  | number => Munch.number
  | text => Munch.text
  | mark m => Munch.mark m

def kind? : LexicalClass → List Char → Option Kind
  | blank, _ => none
  | comment, _ => none
  | word, s => some (Kind.ofWord s)
  | number, _ => some .number
  | text, _ => some .text
  | mark m, _ => some m.kind

end LexicalClass

namespace Munch

theorem comment_isPrefix (s : List Char) : comment s <+: s := by
  unfold comment
  split
  · exact List.cons_prefix_cons.2 ⟨rfl, List.cons_prefix_cons.2 ⟨rfl, List.takeWhile_prefix _⟩⟩
  · exact List.nil_prefix

theorem word_isPrefix (s : List Char) : word s <+: s := by
  unfold word
  split
  · split
    · exact List.cons_prefix_cons.2 ⟨rfl, List.takeWhile_prefix _⟩
    · exact List.nil_prefix
  · exact List.nil_prefix

theorem fraction_isPrefix (s : List Char) : fraction s <+: s := by
  unfold fraction
  split
  · split
    · exact List.nil_prefix
    · exact List.cons_prefix_cons.2 ⟨rfl, List.takeWhile_prefix _⟩
  · exact List.nil_prefix

theorem unsigned_isPrefix (s : List Char) : unsigned s <+: s := by
  have whole := List.prefix_iff_eq_append.1 (List.takeWhile_prefix Char.isDigit : _ <+: s)
  unfold unsigned
  split
  · exact List.nil_prefix
  · conv => rhs; rw [← whole]
    exact (List.prefix_append_right_inj _).2 (fraction_isPrefix _)

theorem number_isPrefix (s : List Char) : number s <+: s := by
  unfold number
  split
  · split
    · exact List.nil_prefix
    · exact List.cons_prefix_cons.2 ⟨rfl, unsigned_isPrefix _⟩
  · exact unsigned_isPrefix _

theorem toClose?_isPrefix {s taken : List Char} (h : toClose? s = some taken) : taken <+: s := by
  fun_induction toClose? s generalizing taken with
  | case1 => cases h
  | case2 s rest closed ih =>
    cases h
    exact List.cons_prefix_cons.2 ⟨rfl, List.cons_prefix_cons.2 ⟨rfl, ih closed⟩⟩
  | case3 s still ih => cases h; exact ⟨_, rfl⟩
  | case4 s => cases h; exact ⟨_, rfl⟩
  | case5 c s _ other ih =>
    obtain ⟨rest, closed, rfl⟩ := Option.map_eq_some_iff.1 h
    exact List.cons_prefix_cons.2 ⟨rfl, ih closed⟩

theorem text_isPrefix (s : List Char) : text s <+: s := by
  unfold text
  split
  · split
    · rename_i closed
      exact List.cons_prefix_cons.2 ⟨rfl, toClose?_isPrefix closed⟩
    · exact List.nil_prefix
  · exact List.nil_prefix

theorem mark_isPrefix (m : Mark) (s : List Char) : mark m s <+: s := by
  unfold mark
  split
  · split
    · exact ⟨_, rfl⟩
    · exact List.nil_prefix
  · exact List.nil_prefix

end Munch

theorem LexicalClass.munch_isPrefix (c : LexicalClass) (s : List Char) : c.munch s <+: s := by
  cases c with
  | blank => exact List.takeWhile_prefix _
  | comment => exact Munch.comment_isPrefix s
  | word => exact Munch.word_isPrefix s
  | number => exact Munch.number_isPrefix s
  | text => exact Munch.text_isPrefix s
  | mark m => exact Munch.mark_isPrefix m s

theorem LexicalClass.munch_append_drop (c : LexicalClass) (s : List Char) :
    c.munch s ++ s.drop (c.munch s).length = s :=
  List.prefix_iff_eq_append.1 (c.munch_isPrefix s)

end SqlReader
