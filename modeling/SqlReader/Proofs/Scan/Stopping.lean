import SqlReader.Proofs.Lexeme.Passing
import SqlReader.Proofs.Scan.Standing

set_option autoImplicit false

namespace SqlReader

/-- No lexeme begins with `c` where `rest` is behind it. -/
structure Unlexable (c : Char) (rest : List Char) : Prop where
  blank : isBlank c = false
  alphanumeric : c.isAlphanum = false
  underscore : c ≠ '_'
  mark : c ∉ ['(', ')', ',', '*', ';']
  dash : c = '-' → ∀ d ∈ rest.head?, d ≠ '-' ∧ d.isDigit = false
  apostrophe : c = '\'' → '\'' ∉ rest

def Source.Reaches (source : Source) (lexemes : List Lexeme) (rest : List Char) : Prop :=
  Lexeme.Passes 0 source.text.toList lexemes rest

theorem Source.reaches_scan (source : Source) :
    source.Reaches source.scan.lexemes source.scan.rest :=
  Lexeme.passes_split 0 source.text.toList

namespace Lexeme

variable {offset : Nat} {c : Char} {s rest : List Char}

theorem next?_eq_none_iff_holds : next? offset s = none ↔
    ∀ (d : LexicalClass) (p : List Char), d.Holds p → ¬ p <+: s := by
  rw [next?_eq_none_iff]
  constructor
  · intro nothing d p holds within
    have taken := LexicalClass.isPrefix_munch within holds
    rw [nothing d, List.prefix_nil] at taken
    exact holds.ne_nil taken
  · intro refused d
    refine Decidable.byContradiction fun some => ?_
    exact refused d _ (LexicalClass.munch_holds some) (d.munch_isPrefix s)

theorem unlexable_of_next?_eq_none (stuck : next? offset (c :: rest) = none) :
    Unlexable c rest := by
  have refused := next?_eq_none_iff_holds.1 stuck
  have alone (d : LexicalClass) : ¬ d.Holds [c] := fun holds => refused d [c] holds ⟨rest, rfl⟩
  have noWord : Munch.isWordStart c = false := by
    refine Bool.eq_false_iff.2 fun start => alone .word ⟨c, [], rfl, start, ?_⟩
    simp
  have noDigit : c.isDigit = false := by
    refine Bool.eq_false_iff.2 fun digit => ?_
    exact alone .number ⟨[], [c], [], rfl, .inl rfl, ⟨by simp, by simpa using digit⟩, .inl rfl⟩
  obtain ⟨noLetter, noUnderscore⟩ : c.isAlpha = false ∧ c ≠ '_' := by
    simpa [Munch.isWordStart] using noWord
  constructor
  · exact Bool.eq_false_iff.2 fun blank => alone .blank (LexicalClass.blank_holds blank)
  · rw [Char.isAlphanum, noLetter, noDigit]
    rfl
  · exact noUnderscore
  · intro member
    have mark : ∃ m : Mark, c = m.char := by
      simp only [List.mem_cons, List.not_mem_nil, or_false] at member
      rcases member with rfl | rfl | rfl | rfl | rfl
      · exact ⟨.openParen, rfl⟩
      · exact ⟨.closeParen, rfl⟩
      · exact ⟨.comma, rfl⟩
      · exact ⟨.star, rfl⟩
      · exact ⟨.semicolon, rfl⟩
    obtain ⟨m, rfl⟩ := mark
    exact alone (.mark m) rfl
  · rintro rfl d first
    obtain ⟨behind, rfl⟩ := List.head?_eq_some_iff.1 first
    constructor
    · rintro rfl
      exact refused .comment ['-', '-'] ⟨[], rfl, by simp⟩ ⟨behind, rfl⟩
    · refine Bool.eq_false_iff.2 fun digit => ?_
      have number : LexicalClass.number.Holds ['-', d] :=
        ⟨['-'], [d], [], rfl, .inr rfl, ⟨by simp, by simpa using digit⟩, .inl rfl⟩
      exact refused .number ['-', d] number ⟨behind, rfl⟩
  · rintro rfl closed
    obtain ⟨inner, behind, rfl, none⟩ := List.eq_append_cons_of_mem closed
    have text : LexicalClass.text.Holds ('\'' :: (inner ++ ['\''])) :=
      ⟨inner, rfl, Doubled.of_not_mem none⟩
    exact refused .text _ text ⟨behind, by simp⟩

theorem next?_eq_none_of_unlexable (h : Unlexable c rest) : next? offset (c :: rest) = none := by
  refine next?_eq_none_iff_holds.2 fun d p holds within => ?_
  obtain ⟨behind, whole⟩ := within
  obtain ⟨noLetter, noDigit⟩ : c.isAlpha = false ∧ c.isDigit = false := by
    simpa [Char.isAlphanum] using h.alphanumeric
  cases d with
  | blank =>
    obtain ⟨nonempty, blanks⟩ := holds
    cases p with
    | nil => contradiction
    | cons a p =>
      obtain ⟨rfl, -⟩ := List.cons.inj whole
      have blank := blanks a List.mem_cons_self
      rw [h.blank] at blank
      cases blank
  | comment =>
    obtain ⟨body, rfl, -⟩ := holds
    obtain ⟨rfl, rfl⟩ := List.cons.inj whole
    exact (h.dash rfl '-' rfl).1 rfl
  | word =>
    obtain ⟨a, body, rfl, start, -⟩ := holds
    obtain ⟨rfl, -⟩ := List.cons.inj whole
    simp [Munch.isWordStart, noLetter, h.underscore] at start
  | number =>
    obtain ⟨sign, digits, point, rfl, signs, ⟨nonempty, run⟩, -⟩ := holds
    cases digits with
    | nil => contradiction
    | cons a digits =>
      have digit := run a List.mem_cons_self
      rcases signs with rfl | rfl
      · obtain ⟨rfl, -⟩ := List.cons.inj whole
        rw [noDigit] at digit
        cases digit
      · obtain ⟨rfl, rfl⟩ := List.cons.inj whole
        rw [(h.dash rfl a rfl).2] at digit
        cases digit
  | text =>
    obtain ⟨inner, rfl, -⟩ := holds
    obtain ⟨rfl, rfl⟩ := List.cons.inj whole
    exact h.apostrophe rfl (by simp)
  | mark m =>
    rw [LexicalClass.Holds] at holds
    subst holds
    obtain ⟨rfl, -⟩ := List.cons.inj whole
    exact h.mark (by cases m <;> simp [Mark.char])

end Lexeme

namespace Source.Reaches

variable {source : Source} {lexemes : List Lexeme} {c : Char} {rest : List Char}

theorem next {l : Lexeme} (h : source.Reaches lexemes rest)
    (found : Lexeme.next? (byteLength (lexemes.flatMap Lexeme.text)) rest = some l) :
    source.Reaches (lexemes ++ [l]) (rest.drop l.text.length) :=
  Lexeme.Passes.snoc h (by rwa [Nat.zero_add])

theorem scan_eq (h : source.Reaches lexemes rest)
    (stuck : ∀ offset, Lexeme.next? offset rest = none) : source.scan = ⟨lexemes, rest⟩ := by
  have parts := h.split
  rw [Lexeme.split_of_none (stuck _), List.append_nil] at parts
  rw [scan, Scan.ofText, parts]

theorem tokenize_before (h : source.Reaches lexemes rest) :
    let before := lexemes.flatMap Lexeme.text
    (⟨source.name, String.ofList before⟩ : Source).tokenize =
      .ok (lexemes.filterMap (Lexeme.token? source.name) ++
        [Token.ending (.ofNat source.name (byteLength before))]) := by
  intro before
  have shorter : (⟨source.name, String.ofList before⟩ : Source).Reaches lexemes [] := by
    rw [Reaches, String.toList_ofList]
    exact Lexeme.Passes.cut_short h
  rw [tokenize, shorter.scan_eq Lexeme.next?_nil]
  rfl

theorem tokenize_of_unlexable (h : source.Reaches lexemes (c :: rest))
    (unlexable : Unlexable c rest) :
    source.tokenize = .error ⟨.unrecognised (String.singleton c),
      .ofNat source.name (byteLength (lexemes.flatMap Lexeme.text))⟩ := by
  have stuck (offset : Nat) : Lexeme.next? offset (c :: rest) = none :=
    Lexeme.next?_eq_none_of_unlexable unlexable
  rw [tokenize, h.scan_eq stuck]
  rfl

theorem endsAt (h : source.Reaches lexemes rest)
    (short : source.text.utf8ByteSize < UInt32.size) :
    source.EndsAt (String.ofList (lexemes.flatMap Lexeme.text))
      (.ofNat source.name (byteLength (lexemes.flatMap Lexeme.text))) :=
  Source.endsAt_ofNat short h.text_eq

end Source.Reaches

/-- Reading fails at the first character that no lexeme begins with, and nowhere else. What is
before it has the same tokens as a text of its own. -/
theorem tokenize_stops (source : Source) (short : source.text.utf8ByteSize < UInt32.size) :
    (∀ e, source.tokenize = .error e → ∃ before c after,
      source.text = before ++ String.singleton c ++ after ∧ source.EndsAt before e.position ∧
      e.cause = .unrecognised (String.singleton c) ∧ Unlexable c after.toList ∧
      source.Reaches source.scan.lexemes (c :: after.toList) ∧
      (⟨source.name, before⟩ : Source).tokenize =
        .ok (source.scan.tokens source.name ++ [Token.ending e.position])) ∧
    ∀ lexemes c rest, source.Reaches lexemes (c :: rest) → Unlexable c rest →
      ∃ p, source.tokenize = .error ⟨.unrecognised (String.singleton c), p⟩ ∧
        source.EndsAt (String.ofList (lexemes.flatMap Lexeme.text)) p := by
  constructor
  · intro e fails
    have reached := source.reaches_scan
    have stuck : Lexeme.next? 0 source.scan.rest = none := Lexeme.next?_split 0 _
    rw [Source.tokenize, Scan.result] at fails
    split at fails
    next => cases fails
    next c rest left =>
      cases fails
      rw [left] at reached stuck
      have text : source.text = String.ofList (source.scan.lexemes.flatMap Lexeme.text) ++
          String.singleton c ++ String.ofList rest := by
        apply String.toList_injective
        simpa using reached.text_eq
      have unlexable : Unlexable c (String.ofList rest).toList := by
        rw [String.toList_ofList]
        exact Lexeme.unlexable_of_next?_eq_none stuck
      refine ⟨_, c, _, text, reached.endsAt short, rfl, unlexable, ?_, reached.tokenize_before⟩
      rwa [String.toList_ofList]
  · intro lexemes c rest reached unlexable
    exact ⟨_, reached.tokenize_of_unlexable unlexable, reached.endsAt short⟩

theorem tokenize_stops_behind_doubled_apostrophe :
    let source : Source := ⟨"shell", "x'it''s"⟩
    let e : SyntaxError := ⟨.unrecognised "'", ⟨5, "shell"⟩⟩
    let lexemes : List Lexeme := [⟨.word, ['x'], 0⟩, ⟨.text, ['\'', 'i', 't', '\''], 1⟩]
    source.text.utf8ByteSize < UInt32.size ∧ source.tokenize = .error e ∧
      (∃ before c after,
        source.text = before ++ String.singleton c ++ after ∧ source.EndsAt before e.position ∧
        e.cause = .unrecognised (String.singleton c) ∧ Unlexable c after.toList ∧
        source.Reaches source.scan.lexemes (c :: after.toList) ∧
        (⟨source.name, before⟩ : Source).tokenize =
          .ok (source.scan.tokens source.name ++ [Token.ending e.position])) ∧
      source.Reaches lexemes ['\'', 's'] ∧ Unlexable '\'' ['s'] ∧
      ∃ p, source.tokenize = .error ⟨.unrecognised (String.singleton '\''), p⟩ ∧
        source.EndsAt (String.ofList (lexemes.flatMap Lexeme.text)) p := by
  intro source e lexemes
  have short : source.text.utf8ByteSize < UInt32.size := by decide +kernel
  have fails : source.tokenize = .error e := by decide +kernel
  have scanned : source.scan.lexemes = lexemes ∧ source.scan.rest = ['\'', 's'] := by
    decide +kernel
  have reached : source.Reaches lexemes ['\'', 's'] := by
    rw [← scanned.1, ← scanned.2]
    exact source.reaches_scan
  have unlexable : Unlexable '\'' ['s'] := by
    constructor <;> decide
  have stops := tokenize_stops source short
  exact ⟨short, fails, stops.1 e fails, reached, unlexable, stops.2 _ _ _ reached unlexable⟩

end SqlReader
