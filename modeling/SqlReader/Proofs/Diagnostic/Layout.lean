import Mathlib.Data.List.DropRight
import SqlReader.Diagnostic
import SqlReader.Proofs.Diagnostic.Place
import SqlReader.Proofs.Text.Lines

set_option autoImplicit false

namespace SqlReader

structure Line.Trims (line : Line) (spaces shown blanks : List Char) : Prop where
  whole : line.text = spaces ++ (shown ++ blanks)
  spaces : ∀ c ∈ spaces, c = ' '
  front : ∀ c ∈ (shown ++ blanks).head?, c ≠ ' '
  rear : ∀ c ∈ shown.getLast?, isBlank c = false
  blanks : ∀ c ∈ blanks, isBlank c = true

def BarAt (n : Nat) (s : String) : Prop :=
  ∃ before after, s.toList = before ++ '|' :: after ∧ before.length = n ∧ '|' ∉ before

-- Bars in one column: an empty line, one that shows a line behind its number, one with a caret.
structure Line.Excerpt (line : Line) (spaces shown : List Char) (top middle bottom : String) :
    Prop where
  column : ∃ n, BarAt n top ∧ BarAt n middle ∧ BarAt n bottom
  rows : ∀ row ∈ [top, middle, bottom], '\n' ∉ row.toList
  margin : ∃ gap : List Char, (∀ c ∈ gap, c = ' ') ∧ top = String.ofList gap ++ "|"
  numbered : middle = toString line.number ++ " | " ++ String.ofList shown
  caret : bottom =
    top ++ " " ++ String.ofList (List.replicate (line.column - spaces.length) '-') ++ "^"

def SyntaxError.announcement (e : SyntaxError) : String :=
  "Error: " ++ e.cause.name ++ (e.cause.tip?.elim "" fun tip => " (" ++ tip ++ ")") ++
    "\n-> " ++ e.position.source ++ "\n"

/-- The mistake is in the text, and below the announcement the line is shown that holds it. -/
structure SyntaxError.Drawn (e : SyntaxError) (text : String) (line : Line)
    (spaces shown blanks : List Char) : Prop where
  within : e.position.offset.toNat ≤ text.utf8ByteSize
  held : ∃ above below left right,
    line.Holds 1 text.toList e.position.offset.toNat above below left right
  trims : line.Trims spaces shown blanks
  drawn : ∃ top middle bottom, line.Excerpt spaces shown top middle bottom ∧
    e.render text = e.announcement ++ top ++ "\n" ++ middle ++ "\n" ++ bottom ++ "\n"

variable {line : Line} {spaces shown blanks : List Char} {source : Source} {e : SyntaxError}
  {text : String}

theorem BarAt.append {n : Nat} {s : String} (h : BarAt n s) (t : String) : BarAt n (s ++ t) := by
  obtain ⟨before, after, whole, size, first⟩ := h
  exact ⟨before, after ++ t.toList, by simp [whole], size, first⟩

namespace Line

theorem trims (l : Line) : ∃ spaces blanks,
    l.Trims spaces l.shown blanks ∧ spaces.length = l.indent := by
  let rest := l.text.dropWhile (· = ' ')
  have cut : l.text.takeWhile (· = ' ') ++ rest = l.text := List.takeWhile_append_dropWhile
  have drop : l.text.drop l.indent = rest := by
    conv => lhs; rw [← cut]
    exact List.drop_left
  have shown : l.shown = rest.rdropWhile isBlank := congrArg trimRight drop
  have split : l.shown ++ rest.rtakeWhile isBlank = rest := by
    rw [shown, List.rdropWhile_append_rtakeWhile]
  refine ⟨l.text.takeWhile (· = ' '), rest.rtakeWhile isBlank, ⟨?_, ?_, ?_, ?_, ?_⟩, rfl⟩
  · rw [split, cut]
  · intro c member
    simpa using List.mem_takeWhile_imp member
  · intro c first
    have stops := List.head?_dropWhile_not (fun c => decide (c = ' ')) l.text
    rw [split] at first
    rw [show (l.text.dropWhile (· = ' ')).head? = some c from first] at stops
    simpa using stops
  · intro c last
    rw [shown, List.rdropWhile, List.getLast?_reverse] at last
    have stops := List.head?_dropWhile_not isBlank rest.reverse
    rw [show (rest.reverse.dropWhile isBlank).head? = some c from last] at stops
    exact stops
  · exact fun c member => List.mem_rtakeWhile_imp member

theorem Trims.single_row (h : line.Trims spaces shown blanks) {body : List Char}
    (clear : '\n' ∉ body) (row : line.text = body ∨ line.text = body ++ ['\n']) : '\n' ∉ shown := by
  have within (start : spaces ++ shown <+: body) : '\n' ∉ shown := fun member =>
    clear (start.subset (List.mem_append_right spaces member))
  have start : spaces ++ shown <+: line.text := ⟨blanks, by rw [h.whole, List.append_assoc]⟩
  rcases row with rfl | ends
  · exact within start
  · rw [ends, List.prefix_concat_iff] at start
    rcases start with whole | start
    · -- What is shown would end in the newline, which is a blank.
      intro member
      have nonempty : shown ≠ [] := List.ne_nil_of_mem member
      have last : shown.getLast? = some '\n' := by
        have ends := congrArg List.getLast? whole
        rwa [List.getLast?_concat, List.getLast?_append_of_ne_nil _ nonempty] at ends
      exact absurd (h.rear '\n' last) (by decide)
    · exact within start

theorem Trims.isPrefix (h : line.Trims spaces shown blanks) {front rear : List Char}
    (whole : line.text = front ++ rear) (solid : ∀ c ∈ rear.head?, c ≠ ' ') :
    spaces <+: front := by
  have shared : spaces ++ (shown ++ blanks) = front ++ rear := h.whole.symm.trans whole
  rcases List.append_eq_append_iff.1 shared with ⟨more, rfl, -⟩ | ⟨more, rfl, rest⟩
  · exact List.prefix_append spaces more
  · cases more with
    | nil => exact ⟨[], by simp⟩
    | cons c more =>
      rw [rest] at solid
      exact absurd (h.spaces c (by simp)) (solid c rfl)

theorem isDigit_of_mem_numberText {c : Char} (member : c ∈ line.numberText.toList) :
    c.isDigit = true := by
  rw [numberText, Nat.toString_eq_repr, Nat.toList_repr] at member
  exact Nat.isDigit_of_mem_toDigits (by decide) (by decide) member

theorem excerpt_of_size (size : spaces.length = line.indent) (single : '\n' ∉ line.shown) :
    line.Excerpt spaces line.shown line.margin
      (line.numberText ++ " | " ++ String.ofList line.shown)
      (line.margin ++ " " ++ String.ofList (List.replicate line.dashes '-') ++ "^") := by
  have other {c : Char} (sign : c.isDigit = false) : c ∉ line.numberText.toList := by
    intro member
    rw [isDigit_of_mem_numberText member] at sign
    cases sign
  have bar : BarAt (line.numberText.length + 1) line.margin :=
    ⟨List.replicate (line.numberText.length + 1) ' ', [], by simp [margin], by simp, by simp⟩
  have numbered : BarAt (line.numberText.length + 1)
      (line.numberText ++ " | " ++ String.ofList line.shown) :=
    ⟨line.numberText.toList ++ [' '], ' ' :: line.shown, by simp,
      by simp [String.length_toList], by simp [other (c := '|') rfl]⟩
  constructor
  · exact ⟨_, bar, numbered, ((bar.append " ").append _).append "^"⟩
  · simp [margin, single, other (c := '\n') rfl]
  · exact ⟨List.replicate (line.numberText.length + 1) ' ', by simp, by simp [margin]⟩
  · rfl
  · rw [size, dashes]

end Line

namespace SyntaxError

theorem render_eq (e : SyntaxError) (text : String) : e.render text = e.announcement ++
    ((lineAt? text.toList e.position.offset.toNat).map Line.excerpt).getD "" := by
  have head : e.heading ++ "\n-> " ++ e.position.source ++ "\n" = e.announcement := by
    rw [heading, announcement]
    cases e.cause.tip? with
    | none => simp
    | some tip => simp [String.append_assoc]
  rw [render, head]

theorem exists_drawn (within : e.position.offset.toNat ≤ text.utf8ByteSize) :
    ∃ line spaces blanks, e.Drawn text line spaces line.shown blanks ∧
      lineAt? text.toList e.position.offset.toNat = some line ∧ spaces.length = line.indent := by
  obtain ⟨line, above, below, left, right, found, held⟩ :=
    exists_lineAt? (byteLength_toList text ▸ within)
  obtain ⟨spaces, blanks, trims, size⟩ := line.trims
  obtain ⟨body, clear, row⟩ := held.text_eq
  have excerpt := Line.excerpt_of_size size (trims.single_row clear row)
  refine ⟨line, spaces, blanks, ⟨within, ⟨_, _, _, _, held⟩, trims, _, _, _, excerpt, ?_⟩, found,
    size⟩
  rw [render_eq, found]
  simp [Line.excerpt, String.append_assoc]

theorem Drawn.caret (h : e.Drawn source.text line spaces shown blanks) {before after : List Char}
    (placed : source.Placed e before after) : ∃ above below between rest,
      source.text.toList = above ++ line.text ++ below ∧ before = above ++ (spaces ++ between) ∧
      line.text = spaces ++ (between ++ rest) ∧
      line.column = spaces.length + byteLength between := by
  obtain ⟨above, below, left, right, held⟩ := h.held
  have place : byteLength before = e.position.offset.toNat := by
    rw [placed.ends.offset, utf8ByteSize_ofList]
  obtain ⟨front, rear, rfl, text, rfl, column⟩ := held.split placed.whole place
  have solid : ∀ c ∈ rear.head?, c ≠ ' ' := by
    rintro c first rfl
    have blank := placed.solid ' ' (by simp [Option.mem_def.1 first])
    exact absurd blank (by decide)
  obtain ⟨between, rfl⟩ := h.trims.isPrefix text solid
  have ascii : byteLength spaces = spaces.length := byteLength_eq_length_iff.2 fun c member => by
    rw [h.trims.spaces c member]
    decide
  refine ⟨above, below, between, rear, held.whole, rfl, ?_, ?_⟩
  · rw [text, List.append_assoc]
  · rw [column, byteLength_append, ascii]

end SyntaxError

/-- A mistake outside the text is announced only; any other is shown in its line. What reading finds
is never outside the text, nor in the spaces that are cut off. -/
theorem render_layout :
    (∀ (e : SyntaxError) (text : String),
      (text.utf8ByteSize < e.position.offset.toNat ∧ e.render text = e.announcement) ∨
        ∃ line spaces shown blanks, e.Drawn text line spaces shown blanks) ∧
    ∀ (name? : Option String) (text : String), text.utf8ByteSize < UInt32.size →
      ∀ e, (Source.ofText name? text).Fails e → ∃ line spaces shown blanks,
        e.Drawn text line spaces shown blanks ∧ spaces.length ≤ line.column := by
  constructor
  · intro e text
    by_cases within : e.position.offset.toNat ≤ text.utf8ByteSize
    · obtain ⟨line, spaces, blanks, drawn, -⟩ := e.exists_drawn within
      exact .inr ⟨line, spaces, line.shown, blanks, drawn⟩
    · have past := Nat.lt_of_not_le within
      have none := lineAt?_eq_none_iff.2 (byteLength_toList text ▸ past)
      refine .inl ⟨past, ?_⟩
      rw [e.render_eq, none]
      exact String.append_empty
  · intro name? text short e fails
    obtain ⟨before, after, placed⟩ := Source.exists_place short fails
    obtain ⟨line, spaces, blanks, drawn, -⟩ := e.exists_drawn placed.within
    obtain ⟨_, _, between, _, -, -, -, column⟩ := drawn.caret placed
    exact ⟨line, spaces, line.shown, blanks, drawn, column ▸ Nat.le_add_right _ _⟩

theorem render_layout_behind_open_line :
    let text := "\n\n\n\n\n\n\n\n\n  select 'é\n    ' ?"
    let e : SyntaxError := ⟨.unrecognised "?", ⟨28, "shell"⟩⟩
    let outside : SyntaxError := ⟨.unrecognised "?", ⟨99, "shell"⟩⟩
    text.utf8ByteSize < UInt32.size ∧ (Source.ofText none text).Fails e ∧
      (∃ line spaces shown blanks,
        e.Drawn text line spaces shown blanks ∧ spaces.length ≤ line.column) ∧
      e.render text = "Error: UnrecognisedToken\n-> shell\n   |\n11 | ' ?\n   | --^\n" ∧
      ((text.utf8ByteSize < 99 ∧ outside.render text = outside.announcement) ∨
        ∃ line spaces shown blanks, outside.Drawn text line spaces shown blanks) := by
  intro text e outside
  have short : text.utf8ByteSize < UInt32.size := by decide +kernel
  have fails : (Source.ofText none text).Fails e := .inl (by decide +kernel)
  exact ⟨short, fails, render_layout.2 none text short e fails, by decide +kernel,
    render_layout.1 outside text⟩

end SqlReader
