import SqlReader.Proofs.Scan.Selection
import SqlReader.Proofs.Scan.Stopping

set_option autoImplicit false

namespace SqlReader

structure Scanner where
  cursor : ByteCursor
  name : String
  tokens : List Token

-- A scanner is lost where the text cannot be cut at the cursor.
inductive Turn
  | lost
  | refused (e : SyntaxError)
  | next (later : Scanner)

namespace Scanner

def ofSource (source : Source) : Scanner := ⟨.ofText source.text, source.name, []⟩

def skip (bytes : Nat) (r : Scanner) : Scanner := { r with cursor := r.cursor.advance bytes }

def emit (kind : Kind) (value : List Char) (r : Scanner) : Scanner :=
  let start := r.cursor.offset
  let stop := start + byteLength value
  let token : Token := ⟨kind, String.ofList value, ⟨.ofNat r.name start, .ofNat r.name stop⟩⟩
  { r with tokens := r.tokens ++ [token] }.skip (byteLength value)

-- A mark is its own character, whatever was matched.
def handle (r : Scanner) (matched : List Char) : LexicalClass → Scanner
  | .blank | .comment => r.skip (byteLength matched)
  | .word => r.emit (Kind.ofWord matched) matched
  | .number => r.emit .number matched
  | .text => r.emit .text matched
  | .mark m => r.emit m.kind [m.char]

def turn (r : Scanner) : Turn :=
  match r.cursor.remainder? with
  | none => .lost
  | some rest =>
    match LexicalClass.all.find? fun c => (c.pattern.matched? rest).isSome with
    | some c => .next (r.handle ((c.pattern.matched? rest).getD []) c)
    | none =>
      let first := (rest.head?.map String.singleton).getD ""
      .refused ⟨.unrecognised first, .ofNat r.name r.cursor.offset⟩

def run : Nat → Scanner → Option (Except SyntaxError (List Token))
  | turns, r =>
    if r.cursor.atEnd then some (.ok (r.tokens ++ [.ending (.ofNat r.name r.cursor.offset)]))
    else
      match turns with
      | 0 => none
      | turns + 1 =>
        match r.turn with
        | .lost => none
        | .refused e => some (.error e)
        | .next later => run turns later

inductive Turns : Nat → Scanner → Scanner → Prop
  | none {r : Scanner} : Turns 0 r r
  | more {turns : Nat} {r later s : Scanner} (goes : r.cursor.atEnd = false)
      (turn : r.turn = .next later) (rest : Turns turns later s) : Turns (turns + 1) r s

/-- How a scanner in a text of so many bytes goes on where the class matches `p`. -/
structure Progresses (size : Nat) (r : Scanner) (c : LexicalClass) (p : List Char) : Prop where
  nonempty : p ≠ []
  offset : (r.handle p c).cursor.offset = r.cursor.offset + byteLength p
  within : (r.handle p c).cursor.offset ≤ size
  fewer : size - (r.handle p c).cursor.offset < size - r.cursor.offset
  pushed : ∃ more, (r.handle p c).tokens = r.tokens ++ more ∧ more.length ≤ 1

def behind (source : Source) (lexemes : List Lexeme) : Scanner :=
  ⟨⟨source.text.toList, byteLength (lexemes.flatMap Lexeme.text)⟩, source.name,
    lexemes.filterMap (Lexeme.token? source.name)⟩

variable {source : Source} {lexemes : List Lexeme} {rest p : List Char} {c : LexicalClass}

theorem handle_behind (cut : Cut rest c p) :
    (behind source lexemes).handle p c =
      behind source (lexemes ++ [⟨c, p, byteLength (lexemes.flatMap Lexeme.text)⟩]) := by
  cases c with
  | blank | comment | word | number | text =>
    simp [handle, skip, emit, behind, ByteCursor.advance, Lexeme.token?, LexicalClass.kind?,
      Lexeme.size]
  | mark m =>
    have single : p = [m.char] := by
      obtain ⟨rfl, nonempty⟩ := cut
      exact LexicalClass.munch_holds nonempty
    simp [handle, skip, emit, behind, ByteCursor.advance, Lexeme.token?, LexicalClass.kind?,
      Lexeme.size, single]

section Reached

variable (reached : source.Reaches lexemes rest)
include reached

theorem size_behind :
    source.text.utf8ByteSize = byteLength (lexemes.flatMap Lexeme.text) + byteLength rest := by
  rw [← byteLength_toList, reached.text_eq, byteLength_append]

theorem remainder_behind : (behind source lexemes).cursor.remainder? = some rest := by
  have whole : source.text.toList = lexemes.flatMap Lexeme.text ++ rest := reached.text_eq
  rw [behind, ByteCursor.remainder?, whole]
  exact dropBytes?_append _ _

theorem atEnd_behind : (behind source lexemes).cursor.atEnd = decide (rest = []) := by
  have size := size_behind reached
  rw [← byteLength_toList] at size
  simp only [behind, ByteCursor.atEnd, size]
  cases rest with
  | nil => simp
  | cons d rest =>
    have longer := byteLength_pos (List.cons_ne_nil d rest)
    simp only [reduceCtorEq, decide_false, decide_eq_false_iff_not]
    omega

theorem turn_of_some {l : Lexeme}
    (found : Lexeme.next? (byteLength (lexemes.flatMap Lexeme.text)) rest = some l) :
    (behind source lexemes).turn = .next (behind source (lexemes ++ [l])) := by
  obtain ⟨here, cut⟩ := Lexeme.next?_eq_some_iff.1 found
  obtain ⟨sort, p, place⟩ := l
  obtain ⟨first, matched⟩ := (firstMatch_iff_cut LexicalClass.mem_all).2 cut
  simp only at here matched
  rw [turn, remainder_behind reached]
  simp only [first, matched, Option.getD_some]
  rw [handle_behind cut, here]

theorem turn_of_none {offset : Nat} (stuck : Lexeme.next? offset rest = none) :
    (behind source lexemes).turn = .refused
      ⟨.unrecognised ((rest.head?.map String.singleton).getD ""),
        .ofNat source.name (byteLength (lexemes.flatMap Lexeme.text))⟩ := by
  have nothing : (LexicalClass.all.find? fun c => (c.pattern.matched? rest).isSome) = none := by
    refine List.find?_eq_none.2 fun c _ matching => ?_
    obtain ⟨p, matched⟩ := Option.isSome_iff_exists.1 matching
    obtain ⟨rfl, nonempty⟩ := matched?_eq_some_iff.1 matched
    exact nonempty (Lexeme.next?_eq_none_iff.1 stuck c)
  rw [turn, remainder_behind reached]
  simp only [nothing]
  rfl

theorem progresses_behind (matched : c.pattern.matched? rest = some p) :
    (behind source lexemes).Progresses source.text.utf8ByteSize c p := by
  have cut := matched?_eq_some_iff.1 matched
  have size := size_behind reached
  have positive := byteLength_pos cut.2
  have bound : byteLength p ≤ byteLength rest := by
    obtain ⟨later, split⟩ := c.munch_isPrefix rest
    rw [← split, ← cut.1, byteLength_append]
    exact Nat.le_add_right _ _
  have offset : ((behind source lexemes).handle p c).cursor.offset =
      (behind source lexemes).cursor.offset + byteLength p := by
    rw [handle_behind cut]
    simp [behind]
  have here : (behind source lexemes).cursor.offset = byteLength (lexemes.flatMap Lexeme.text) :=
    rfl
  refine ⟨cut.2, offset, by omega, by omega, ?_⟩
  rw [handle_behind cut]
  refine ⟨_, List.filterMap_append, ?_⟩
  exact List.length_filterMap_le _ _

end Reached

theorem run_at_end (reached : source.Reaches lexemes []) (turns : Nat) :
    (behind source lexemes).run turns = some source.tokenize := by
  have ended : (behind source lexemes).cursor.atEnd = true := atEnd_behind reached
  unfold run
  rw [if_pos ended, Source.tokenize, reached.scan_eq Lexeme.next?_nil]
  rfl

theorem run_behind {turns : Nat} (reached : source.Reaches lexemes rest)
    (enough : byteLength rest ≤ turns) :
    (behind source lexemes).run turns = some source.tokenize := by
  -- Each lexeme takes at least one byte off what is ahead, so that the turns last.
  induction turns generalizing lexemes rest with
  | zero =>
    cases rest with
    | nil => exact run_at_end reached 0
    | cons d rest =>
      have positive := byteLength_pos (List.cons_ne_nil d rest)
      exact absurd enough (Nat.not_le_of_gt positive)
  | succ turns ih =>
    cases rest with
    | nil => exact run_at_end reached (turns + 1)
    | cons d rest =>
      have goes : (behind source lexemes).cursor.atEnd = false := atEnd_behind reached
      rw [run, goes]
      cases found : Lexeme.next? (byteLength (lexemes.flatMap Lexeme.text)) (d :: rest) with
      | none =>
        have stuck (offset : Nat) : Lexeme.next? offset (d :: rest) = none :=
          Lexeme.next?_eq_none_iff.2 (Lexeme.next?_eq_none_iff.1 found)
        rw [turn_of_none reached found, Source.tokenize, reached.scan_eq stuck]
        rfl
      | some l =>
        have shorter : byteLength ((d :: rest).drop l.text.length) ≤ turns := by
          have parts := congrArg byteLength (Lexeme.next?_append_drop found)
          have positive := byteLength_pos (Lexeme.next?_eq_some found).2.1
          rw [byteLength_append] at parts
          omega
        rw [turn_of_some reached found]
        exact ih (reached.next found) shorter

theorem Turns.exists_lexemes {turns : Nat} {r s : Scanner} (h : Turns turns r s)
    (reached : source.Reaches lexemes rest) (here : r = behind source lexemes) :
    ∃ more later, source.Reaches (lexemes ++ more) later ∧ more.length = turns ∧
      s = behind source (lexemes ++ more) := by
  induction h generalizing lexemes rest with
  | none => exact ⟨[], rest, by rwa [List.append_nil], rfl, by rw [here, List.append_nil]⟩
  | @more turns r next s goes turn _ ih =>
    subst here
    cases found : Lexeme.next? (byteLength (lexemes.flatMap Lexeme.text)) rest with
    | none =>
      rw [turn_of_none reached found] at turn
      cases turn
    | some l =>
      rw [turn_of_some reached found] at turn
      have moved := (Turn.next.inj turn).symm
      obtain ⟨more, later, reached, count, there⟩ := ih (reached.next found) moved
      rw [List.append_assoc] at reached there
      exact ⟨l :: more, later, reached, congrArg (· + 1) count, there⟩

theorem turns_of_passes {offset : Nat} {s : List Char} {more : List Lexeme}
    (h : Lexeme.Passes offset s more rest) (reached : source.Reaches lexemes s)
    (here : offset = byteLength (lexemes.flatMap Lexeme.text)) :
    Turns more.length (behind source lexemes) (behind source (lexemes ++ more)) := by
  induction h generalizing lexemes with
  | refl =>
    rw [List.append_nil]
    exact .none
  | @step offset s rest l more found later ih =>
    subst here
    have nonempty : s ≠ [] := List.length_pos_iff.1 (Nat.lt_of_lt_of_le
      (Lexeme.next?_length found).1 (Lexeme.next?_length found).2)
    have goes : (behind source lexemes).cursor.atEnd = false := by
      rw [atEnd_behind reached, decide_eq_false nonempty]
    have rest := ih (reached.next found) (by simp [Lexeme.size])
    rw [List.append_assoc] at rest
    exact .more goes (turn_of_some reached found) rest

theorem turns_iff {turns : Nat} {r : Scanner} : Turns turns (ofSource source) r ↔
    ∃ lexemes rest, source.Reaches lexemes rest ∧ lexemes.length = turns ∧
      r = behind source lexemes := by
  constructor
  · intro h
    exact h.exists_lexemes .refl rfl
  · intro h
    obtain ⟨lexemes, rest, reached, rfl, rfl⟩ := h
    have start : source.Reaches [] source.text.toList := .refl
    exact turns_of_passes reached start rfl

end Scanner

/-- Wherever a scanner has come to, it stands between two characters, and each class that matches there
takes it on by what is matched. It needs no more turns than the text has bytes. -/
theorem scanner_progresses (source : Source) :
    let size := source.text.utf8ByteSize
    (∀ turns r, Scanner.Turns turns (.ofSource source) r →
      turns ≤ r.cursor.offset ∧ r.cursor.offset ≤ size ∧
        String.Pos.Raw.IsValid source.text ⟨r.cursor.offset⟩ ∧
        ∃ rest, r.cursor.remainder? = some rest ∧
          ∀ (c : LexicalClass) p, c.pattern.matched? rest = some p → r.Progresses size c p) ∧
      (Scanner.ofSource source).run size = some source.tokenize := by
  intro size
  constructor
  · intro turns r h
    obtain ⟨lexemes, rest, reached, rfl, rfl⟩ := Scanner.turns_iff.1 h
    have boundary : String.Pos.Raw.IsValid source.text
        ⟨(Scanner.behind source lexemes).cursor.offset⟩ := by
      refine String.Pos.Raw.isValid_iff_exists_append.2
        ⟨String.ofList (lexemes.flatMap Lexeme.text), String.ofList rest, ?_, ?_⟩
      · apply String.toList_injective
        simpa using reached.text_eq
      · exact congrArg String.Pos.Raw.mk (utf8ByteSize_ofList _).symm
    refine ⟨reached.length_le, ?_, boundary, rest, Scanner.remainder_behind reached, ?_⟩
    · exact boundary.le_rawEndPos
    · intro c p matched
      exact Scanner.progresses_behind reached matched
  · have start : source.Reaches [] source.text.toList := .refl
    exact Scanner.run_behind start (Nat.le_of_eq (byteLength_toList _))

theorem scanner_progresses_behind_accents :
    let source : Source := ⟨"shell", "\u00a0'é'--ü\n,"⟩
    let text : Token := ⟨.text, "'é'", ⟨⟨2, "shell"⟩, ⟨6, "shell"⟩⟩⟩
    let r : Scanner := ⟨⟨source.text.toList, 11⟩, "shell", [text]⟩
    Scanner.Turns 4 (.ofSource source) r ∧ r.cursor.remainder? = some [','] ∧
      (LexicalClass.mark .comma).pattern.matched? [','] = some [','] ∧
      r.Progresses 12 (.mark .comma) [','] := by
  intro source text r
  let lexemes : List Lexeme :=
    [⟨.blank, ['\u00a0'], 0⟩, ⟨.text, ['\'', 'é', '\''], 2⟩, ⟨.comment, ['-', '-', 'ü'], 6⟩,
      ⟨.blank, ['\n'], 10⟩]
  have reached : source.Reaches lexemes _ :=
    .step (by decide +kernel) (.step (by decide +kernel) (.step (by decide +kernel)
      (.step (by decide +kernel) .refl)))
  have turns : Scanner.Turns 4 (.ofSource source) r :=
    Scanner.turns_iff.2 ⟨lexemes, _, reached, rfl, rfl⟩
  have ahead : r.cursor.remainder? = some [','] := by decide +kernel
  have matched : (LexicalClass.mark .comma).pattern.matched? [','] = some [','] :=
    matched?_eq_some_iff.2 ⟨rfl, List.cons_ne_nil _ _⟩
  obtain ⟨-, -, -, rest, cut, goes⟩ := (scanner_progresses source).1 4 r turns
  obtain rfl : [','] = rest := Option.some.inj (ahead.symm.trans cut)
  have size : source.text.utf8ByteSize = 12 := by decide +kernel
  exact ⟨turns, ahead, matched, size ▸ goes _ _ matched⟩

end SqlReader
