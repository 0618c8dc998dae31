import Mathlib.Data.List.Forall2
import Mathlib.Data.List.TakeWhile
import SqlReader.Proofs.Render.RoundTrip

set_option autoImplicit false

namespace SqlReader

theorem Binary64.ofQuotient_ne_nan (negative : Bool) (numerator denominator : Nat) :
    ofQuotient negative numerator denominator ≠ .nan := by
  unfold ofQuotient zero
  split
  · exact nofun
  · extract_lets exponent scaled rounded carried
    split <;> exact nofun

namespace Decimal

theorem toBinary64_ne_nan (d : Decimal) : d.toBinary64 ≠ .nan := by
  unfold toBinary64 Binary64.zero
  extract_lets magnitude
  split
  · exact nofun
  · split
    · exact nofun
    · exact Binary64.ofQuotient_ne_nan _ _ _

def ofParts (negative : Bool) (digits point : List Char) : Decimal :=
  ⟨negative, digitsValue (digits ++ point.drop 1), -(point.drop 1).length⟩

variable {digits point : List Char}

theorem fraction_eq (h : Fraction point) : fraction point = (point.drop 1, []) := by
  rcases h with rfl | ⟨behind, rfl, run⟩
  · rfl
  · have taken : behind.takeWhile Char.isDigit = behind := List.takeWhile_eq_self_iff.2 run.2
    have dropped : behind.dropWhile Char.isDigit = [] := List.dropWhile_eq_nil_iff.2 run.2
    rw [fraction, taken, dropped]
    rfl

theorem decimal?_eq (negative : Bool) (run : Digits digits) (h : Fraction point) :
    decimal? negative (digits ++ point) = some (ofParts negative digits point) := by
  have stop : point.takeWhile Char.isDigit = [] ∧ point.dropWhile Char.isDigit = point := by
    rcases h with rfl | ⟨behind, rfl, -⟩ <;> exact ⟨rfl, rfl⟩
  have whole : (digits ++ point).takeWhile Char.isDigit = digits := by
    rw [List.takeWhile_append_of_pos run.2, stop.1, List.append_nil]
  have rest : (digits ++ point).dropWhile Char.isDigit = point := by
    rw [List.dropWhile_append_of_pos run.2, stop.2]
  simp [decimal?, whole, rest, fraction_eq h, exponent?, ofParts, run.1]

variable {c d : Char}

theorem ne_of_isDigit (digit : c.isDigit = true) (other : d.isDigit = false) : c ≠ d := by
  rintro rfl
  rw [digit] at other
  cases other

theorem toLower_of_isDigit (digit : c.isDigit = true) : c.toLower = c := by
  have bounds := toNat_of_isDigit digit
  have other : ¬ (c.val ≥ 'A'.val ∧ c.val ≤ 'Z'.val) := by
    rintro ⟨above, -⟩
    have low : 65 ≤ c.toNat := above
    omega
  exact dif_neg other

-- Names begin with a letter.
theorem unsigned?_of_isDigit (negative : Bool) (digit : c.isDigit = true) (s : List Char) :
    unsigned? negative (c :: s) = (decimal? negative (c :: s)).map .decimal := by
  have first : c.toLower ≠ 'i' ∧ c.toLower ≠ 'n' := by
    rw [toLower_of_isDigit digit]
    exact ⟨ne_of_isDigit digit rfl, ne_of_isDigit digit rfl⟩
  simp [unsigned?, first]

theorem read?_of_isDigit (digit : c.isDigit = true) (s : List Char) :
    read? (c :: s) = unsigned? false (c :: s) := by
  have plus : c ≠ '+' := ne_of_isDigit digit rfl
  have minus : c ≠ '-' := ne_of_isDigit digit rfl
  rw [read?]
  · exact fun _ same => plus (List.cons.inj same).1
  · exact fun _ same => minus (List.cons.inj same).1

theorem read?_of_number {s : List Char} (h : LexicalClass.number.Holds s) :
    ∃ negative digits point, s = (if negative then ['-'] else []) ++ (digits ++ point) ∧
      Digits digits ∧ Fraction point ∧
      read? s = some (.decimal (ofParts negative digits point)) := by
  obtain ⟨sign, digits, point, rfl, signs, run, fraction⟩ := h
  obtain ⟨d, rest, rfl⟩ := List.exists_cons_of_ne_nil run.1
  have digit := run.2 d List.mem_cons_self
  have unsigned (negative : Bool) : unsigned? negative (d :: rest ++ point) =
      some (.decimal (ofParts negative (d :: rest) point)) := by
    rw [List.cons_append, unsigned?_of_isDigit negative digit, ← List.cons_append,
      decimal?_eq negative run fraction]
    rfl
  rcases signs with rfl | rfl
  · have value := (read?_of_isDigit digit _).trans (unsigned false)
    exact ⟨false, d :: rest, point, rfl, run, fraction, value⟩
  · exact ⟨true, d :: rest, point, rfl, run, fraction, unsigned true⟩

end Decimal

def LiteralForm.kind : LiteralForm → Kind
  | number => .number
  | text => .text
  | boolean => .boolean

theorem LiteralForm.ofKind?_of_isLiteral {kind : Kind} (literal : kind.isLiteral) :
    ∃ form, ofKind? kind = some form ∧ kind = form.kind := by
  simp only [Kind.isLiteral, Kind.literals, decide_eq_true_eq, List.mem_cons, List.not_mem_nil,
    or_false] at literal
  rcases literal with rfl | rfl | rfl
  · exact ⟨.number, rfl, rfl⟩
  · exact ⟨.text, rfl, rfl⟩
  · exact ⟨.boolean, rfl, rfl⟩

namespace Token.Lexical

variable {t : Token}

theorem number (h : t.Lexical) (kind : t.kind = .number) :
    LexicalClass.number.Holds t.value.toList :=
  (h.of_kind (by rw [kind]; rfl)).1

theorem boolean (h : t.Lexical) (kind : t.kind = .boolean) :
    upperCase t.value.toList = t.value.toUpper.toList ∧
      (t.value.toUpper = "TRUE" ∨ t.value.toUpper = "FALSE") := by
  have word : LexicalClass.word.Holds t.value.toList := (h.of_kind (by rw [kind]; rfl)).1
  have reserved := h.reserved (by rw [kind]; decide)
  rw [kind] at reserved
  constructor
  · rw [upperCase_of_ascii (LexicalClass.ascii_of_word word), toUpper_eq, String.toList_ofList]
  · simpa [Kind.reserved] using reserved

end Token.Lexical

/-- The literal is the one that the token spells, and there is a value to it. -/
structure Token.Valued (t : Token) (l : Literal) : Prop where
  token : l.token = t
  kind : t.kind = l.form.kind
  start : l.start = t.span.start
  text : l.render = t.value
  number : l.form = .number → ∃ x, l.number? = some x ∧ x ≠ .nan
  -- Only the case of ASCII letters is left out of account.
  truth : l.form = .boolean → ∃ b, l.truth? = some b ∧ (b = true ↔ t.value.toUpper = "TRUE")

theorem Token.Lexical.valued {t : Token} (h : t.Lexical) (literal : t.kind.isLiteral) :
    ∃ l, Literal.ofToken? t = some l ∧ t.Valued l := by
  obtain ⟨form, found, kind⟩ := LiteralForm.ofKind?_of_isLiteral literal
  refine ⟨⟨form, t.start, t⟩, by rw [Literal.ofToken?, found]; rfl, rfl, kind, rfl, ?_, ?_, ?_⟩
  · rw [Literal.render, display, if_neg (by simp [h.not_isEnd])]
  · rintro rfl
    obtain ⟨negative, digits, point, -, -, -, value⟩ := Decimal.read?_of_number (h.number kind)
    refine ⟨(Decimal.ofParts negative digits point).toBinary64, ?_, Decimal.toBinary64_ne_nan _⟩
    simp [Literal.number?, value, Decimal.Reading.toBinary64]
  · rintro rfl
    obtain ⟨upper, word | word⟩ := h.boolean kind
    · exact ⟨true, by simp [Literal.truth?, upper, word], by simp [word]⟩
    · exact ⟨false, by simp [Literal.truth?, upper, word], by simp [word]⟩

theorem forall₂_ofToken? {R : Token → Literal → Prop} {tokens : List Token}
    (each : ∀ t ∈ tokens, ∃ l, Literal.ofToken? t = some l ∧ R t l) :
    List.Forall₂ R tokens (tokens.filterMap Literal.ofToken?) := by
  induction tokens with
  | nil => exact .nil
  | cons t tokens ih =>
    obtain ⟨l, found, related⟩ := each t List.mem_cons_self
    rw [List.filterMap_cons_some found]
    exact .cons related (ih fun u member => each u (List.mem_cons_of_mem t member))

def Source.Returns (source : Source) (s : Statement) : Prop :=
  source.statement = .ok s ∨ ∃ body, source.script = .ok body ∧ s ∈ body

theorem wellFormed_of_returns {source : Source} {s : Statement} (h : source.Returns s) :
    s.WellFormed ∧ ∀ t ∈ s.tokens, t.Lexical := by
  rcases h with statement | ⟨body, script, member⟩
  · exact wellFormed_of_statement statement
  · exact wellFormed_of_script script s member

theorem insert_literals (source : Source) (i : Insert) (returned : source.Returns (.insert i)) :
    i.literals.length = i.values.length ∧ List.Forall₂ Token.Valued i.values i.literals := by
  obtain ⟨wellFormed, lexical⟩ := wellFormed_of_returns returned
  have each : ∀ t ∈ i.values, ∃ l, Literal.ofToken? t = some l ∧ t.Valued l := by
    intro t member
    have inside : t ∈ (Statement.insert i).tokens := by simp [Statement.tokens, member]
    exact (lexical t inside).valued (wellFormed.values t member)
  have paired := forall₂_ofToken? each
  exact ⟨paired.length_eq.symm, paired⟩

theorem insert_literals_mixed :
    let source : Source := ⟨"shell", "insert into t values(-01.50, 'nan', tRue, False);"⟩
    let span (start stop : UInt32) : Span := ⟨⟨start, "shell"⟩, ⟨stop, "shell"⟩⟩
    let i : Insert := ⟨⟨0, "shell"⟩, ⟨.identifier, "t", span 12 13⟩, [],
      [⟨.number, "-01.50", span 21 27⟩, ⟨.text, "'nan'", span 29 34⟩,
        ⟨.boolean, "tRue", span 36 40⟩, ⟨.boolean, "False", span 42 47⟩]⟩
    source.Returns (.insert i) ∧ i.literals.length = i.values.length ∧
      List.Forall₂ Token.Valued i.values i.literals := by
  intro source span i
  have returned : source.Returns (.insert i) := .inl (by decide +kernel)
  exact ⟨returned, insert_literals source i returned⟩

end SqlReader
