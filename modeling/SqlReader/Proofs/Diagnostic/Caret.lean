import SqlReader.Proofs.Diagnostic.Layout

set_option autoImplicit false

namespace SqlReader

/-- The text ends in a caret with exactly `n` dashes in front of it. -/
def CaretBehind (n : Nat) (s : String) : Prop :=
  ∃ front, s.toList = front ++ (List.replicate n '-' ++ ['^', '\n']) ∧ front.getLast? ≠ some '-'

theorem length_takeWhile_dashes {front : List Char} (stops : front.getLast? ≠ some '-') (n : Nat) :
    ((front ++ List.replicate n '-').reverse.takeWhile (· = '-')).length = n := by
  have none : front.reverse.takeWhile (· = '-') = [] := by
    rw [← List.head?_reverse] at stops
    cases reversed : front.reverse with
    | nil => rfl
    | cons c rest =>
      rw [reversed] at stops
      have other : c ≠ '-' := by simpa using stops
      simp [other]
  have all : ∀ c ∈ List.replicate n '-', decide (c = '-') = true := by simp
  rw [List.reverse_append, List.reverse_replicate, List.takeWhile_append_of_pos all, none]
  simp

theorem CaretBehind.unique {n m : Nat} {s : String} (first : CaretBehind n s)
    (second : CaretBehind m s) : n = m := by
  obtain ⟨front, whole, stops⟩ := first
  obtain ⟨other, same, ends⟩ := second
  rw [whole, ← List.append_assoc, ← List.append_assoc] at same
  rw [← length_takeWhile_dashes stops n, List.append_cancel_right same]
  exact length_takeWhile_dashes ends m

theorem SyntaxError.caretBehind_dashes {e : SyntaxError} {text : String} {line : Line}
    (found : lineAt? text.toList e.position.offset.toNat = some line) :
    CaretBehind line.dashes (e.render text) := by
  let front := e.announcement ++ line.margin ++ "\n" ++ line.numberText ++ " | " ++
    String.ofList line.shown ++ "\n" ++ line.margin
  refine ⟨front.toList ++ [' '], ?_, ?_⟩
  · rw [render_eq, found]
    simp [front, Line.excerpt]
  · rw [List.getLast?_concat]
    decide

/-- The caret is as many bytes behind the indentation as the mistake, so that it is under the mistake
if and only if everything between the two is in ASCII. -/
theorem caret_column (name? : Option String) (text : String)
    (short : text.utf8ByteSize < UInt32.size) (e : SyntaxError)
    (fails : (Source.ofText name? text).Fails e) :
    ∃ line spaces shown blanks between rest above below,
      e.Drawn text line spaces shown blanks ∧ line.text = spaces ++ (between ++ rest) ∧
      text.toList = above ++ line.text ++ below ∧
      (Source.ofText name? text).EndsAt (String.ofList (above ++ (spaces ++ between))) e.position ∧
      CaretBehind (byteLength between) (e.render text) ∧
      (CaretBehind between.length (e.render text) ↔ ∀ c ∈ between, c.toNat < 128) := by
  obtain ⟨before, after, placed⟩ := Source.exists_place short fails
  obtain ⟨line, spaces, blanks, drawn, found, size⟩ := e.exists_drawn placed.within
  obtain ⟨above, below, between, rest, whole, rfl, row, column⟩ := drawn.caret placed
  have caret := SyntaxError.caretBehind_dashes found
  rw [Line.dashes, ← size, column, Nat.add_sub_cancel_left] at caret
  refine ⟨line, spaces, line.shown, blanks, between, rest, above, below, drawn, row, whole,
    placed.ends, caret, ?_⟩
  rw [← byteLength_eq_length_iff]
  constructor
  · exact fun under => caret.unique under
  · intro same
    rwa [← same]

theorem caret_column_indented :
    let text := "select a\n  'é' ?"
    let source := Source.ofText none text
    let e : SyntaxError := ⟨.unrecognised "?", ⟨16, "shell"⟩⟩
    text.utf8ByteSize < UInt32.size ∧ source.Fails e ∧
      ∃ line spaces shown blanks between rest above below,
        e.Drawn text line spaces shown blanks ∧ line.text = spaces ++ (between ++ rest) ∧
        text.toList = above ++ line.text ++ below ∧
        source.EndsAt (String.ofList (above ++ (spaces ++ between))) e.position ∧
        CaretBehind (byteLength between) (e.render text) ∧
        (CaretBehind between.length (e.render text) ↔ ∀ c ∈ between, c.toNat < 128) := by
  intro text source e
  have short : text.utf8ByteSize < UInt32.size := by decide +kernel
  have fails : source.Fails e := .inl (by decide +kernel)
  exact ⟨short, fails, caret_column none text short e fails⟩

theorem caret_past_accent :
    let text := "INSERT INTO t VALUES ('é', x)"
    let before := "INSERT INTO t VALUES ('é', ".toList
    let name : Token := ⟨.identifier, "x", ⟨⟨28, "shell"⟩, ⟨29, "shell"⟩⟩⟩
    let e : SyntaxError := ⟨.unexpected Kind.literals name, ⟨28, "shell"⟩⟩
    text.utf8ByteSize < UInt32.size ∧ (Source.ofText none text).Fails e ∧
      text.toList = before ++ ['x', ')'] ∧ byteLength before = e.position.offset.toNat ∧
      '\n' ∉ before ∧ before.head? ≠ some ' ' ∧ before.length = 27 ∧
      CaretBehind 28 (e.render text) ∧ ¬ CaretBehind 27 (e.render text) := by
  intro text before name e
  have found : lineAt? text.toList e.position.offset.toNat = some ⟨1, text.toList, 28⟩ := by
    decide +kernel
  have dashes : Line.dashes ⟨1, text.toList, 28⟩ = 28 := by decide +kernel
  have caret : CaretBehind 28 (e.render text) := dashes ▸ SyntaxError.caretBehind_dashes found
  have missed : ¬ CaretBehind 27 (e.render text) := fun under =>
    absurd (caret.unique under) (by decide)
  exact ⟨by decide +kernel, .inl (by decide +kernel), by decide +kernel, by decide +kernel,
    by decide +kernel, by decide +kernel, by decide +kernel, caret, missed⟩

end SqlReader
