import SqlReader.Lexeme.Class

set_option autoImplicit false

namespace SqlReader

def Digits (s : List Char) : Prop := s ≠ [] ∧ ∀ c ∈ s, c.isDigit = true

def Fraction (s : List Char) : Prop := s = [] ∨ ∃ digits, s = '.' :: digits ∧ Digits digits

-- Any characters, but apostrophes in pairs only.
inductive Doubled : List Char → Prop
  | nil : Doubled []
  | plain {c : Char} {s : List Char} (other : c ≠ '\'') (rest : Doubled s) : Doubled (c :: s)
  | pair {s : List Char} (rest : Doubled s) : Doubled ('\'' :: '\'' :: s)

theorem Doubled.of_not_mem {s : List Char} (none : '\'' ∉ s) : Doubled s := by
  induction s with
  | nil => exact .nil
  | cons c s ih =>
    obtain ⟨other, later⟩ : '\'' ≠ c ∧ '\'' ∉ s := by simpa using none
    exact .plain other.symm (ih later)

namespace LexicalClass

def Holds : LexicalClass → List Char → Prop
  | blank, s => s ≠ [] ∧ ∀ c ∈ s, isBlank c = true
  | comment, s => ∃ rest, s = '-' :: '-' :: rest ∧ ∀ c ∈ rest, c ≠ '\n'
  | word, s => ∃ c rest, s = c :: rest ∧ Munch.isWordStart c = true ∧
      ∀ d ∈ rest, Munch.isWordPart d = true
  | number, s => ∃ sign digits point, s = sign ++ (digits ++ point) ∧
      (sign = [] ∨ sign = ['-']) ∧ Digits digits ∧ Fraction point
  | text, s => ∃ inner, s = '\'' :: (inner ++ ['\'']) ∧ Doubled inner
  | mark m, s => s = [m.char]

theorem Holds.ne_nil {c : LexicalClass} {p : List Char} (h : c.Holds p) : p ≠ [] := by
  cases c with
  | blank => exact h.1
  | comment => obtain ⟨rest, rfl, _⟩ := h; simp
  | word => obtain ⟨c, rest, rfl, _⟩ := h; simp
  | number => obtain ⟨sign, digits, point, rfl, _, run, _⟩ := h; simp [run.1]
  | text => obtain ⟨inner, rfl, _⟩ := h; simp
  | mark m => rw [Holds] at h; simp [h]

theorem blank_holds {c : Char} (h : isBlank c = true) : blank.Holds [c] :=
  ⟨by simp, by simpa using h⟩

end LexicalClass

theorem isBlank_eq_false {c : Char} (low : 33 ≤ c.toNat) (high : c.toNat < 128) :
    isBlank c = false := by
  simp only [isBlank, blankRanges, Ranges.holds, Bool.and_eq_false_iff, Bool.or_eq_false_iff,
    decide_eq_false_iff_not]
  omega

theorem toNat_of_isDigit {c : Char} (h : c.isDigit = true) : 48 ≤ c.toNat ∧ c.toNat ≤ 57 := by
  simp only [Char.isDigit, Bool.and_eq_true, decide_eq_true_eq, ge_iff_le,
    UInt32.le_iff_toNat_le] at h
  exact h

theorem isLower_iff {c : Char} : c.isLower = true ↔ 97 ≤ c.toNat ∧ c.toNat ≤ 122 := by
  change (decide ('a'.val ≤ c.val) && decide (c.val ≤ 'z'.val)) = true ↔ _
  simp [UInt32.le_iff_toNat_le]

theorem isUpper_iff {c : Char} : c.isUpper = true ↔ 65 ≤ c.toNat ∧ c.toNat ≤ 90 := by
  change decide ('A'.val ≤ c.val ∧ c.val ≤ 'Z'.val) = true ↔ _
  simp [UInt32.le_iff_toNat_le]

theorem toNat_of_isWordStart {c : Char} (h : Munch.isWordStart c = true) :
    65 ≤ c.toNat ∧ c.toNat ≤ 122 := by
  have letter : (c.isUpper || c.isLower || decide (c = '_')) = true := h
  simp only [Bool.or_eq_true, decide_eq_true_eq] at letter
  rcases letter with (upper | lower) | rfl
  · have bounds := isUpper_iff.1 upper
    omega
  · have bounds := isLower_iff.1 lower
    omega
  · decide

theorem toNat_of_isWordPart {c : Char} (h : Munch.isWordPart c = true) :
    48 ≤ c.toNat ∧ c.toNat ≤ 122 := by
  have part : Munch.isWordStart c = true ∨ c.isDigit = true := by
    have part : (c.isAlpha || c.isDigit || decide (c = '_')) = true := h
    simp only [Munch.isWordStart, Bool.or_eq_true] at part ⊢
    rcases part with (alpha | digit) | underscore
    · exact .inl (.inl alpha)
    · exact .inr digit
    · exact .inl (.inr underscore)
  rcases part with start | digit
  · have := toNat_of_isWordStart start
    omega
  · have := toNat_of_isDigit digit
    omega

theorem LexicalClass.ascii_of_word {s : List Char} (h : word.Holds s) : ∀ c ∈ s, c.toNat < 128 := by
  obtain ⟨c, rest, rfl, start, parts⟩ := h
  intro d member
  rcases List.mem_cons.1 member with rfl | inside
  · have := toNat_of_isWordStart start
    omega
  · have := toNat_of_isWordPart (parts d inside)
    omega

def Mark.ofChar? : Char → Option Mark
  | '(' => some .openParen
  | ')' => some .closeParen
  | ',' => some .comma
  | '*' => some .star
  | ';' => some .semicolon
  | _ => none

-- The only class that can take anything here, judged by the first two characters.
def LexicalClass.opener : List Char → Option LexicalClass
  | [] => none
  | c :: rest =>
    if isBlank c then some .blank
    else if Munch.isWordStart c then some .word
    else if c.isDigit then some .number
    else if c = '\'' then some .text
    else if c = '-' then some (if rest.head? = some '-' then .comment else .number)
    else (Mark.ofChar? c).map .mark

namespace LexicalClass

theorem opener_digit {c : Char} (digit : c.isDigit = true) (rest : List Char) :
    opener (c :: rest) = some .number := by
  have bounds := toNat_of_isDigit digit
  have blank : isBlank c = false := isBlank_eq_false (by omega) (by omega)
  have word : Munch.isWordStart c = false := by
    refine Bool.eq_false_iff.2 fun start => ?_
    have := toNat_of_isWordStart start
    omega
  simp [opener, blank, word, digit]

theorem opener_append {c : LexicalClass} {p : List Char} (h : c.Holds p) (rest : List Char) :
    opener (p ++ rest) = some c := by
  cases c with
  | blank =>
    obtain ⟨nonempty, all⟩ := h
    cases p with
    | nil => contradiction
    | cons c p => simp [opener, all c List.mem_cons_self]
  | comment =>
    obtain ⟨body, rfl, -⟩ := h
    rfl
  | word =>
    obtain ⟨c, body, rfl, start, -⟩ := h
    have bounds := toNat_of_isWordStart start
    have blank : isBlank c = false := isBlank_eq_false (by omega) (by omega)
    simp [opener, blank, start]
  | number =>
    obtain ⟨sign, digits, point, rfl, signs, ⟨nonempty, all⟩, -⟩ := h
    cases digits with
    | nil => contradiction
    | cons d digits =>
      have digit := all d List.mem_cons_self
      rcases signs with rfl | rfl
      · exact opener_digit digit _
      · have other : d ≠ '-' := by
          rintro rfl
          exact absurd digit (by decide)
        simp [opener, other]
        decide
  | text =>
    obtain ⟨inner, rfl, -⟩ := h
    rfl
  | mark m =>
    rw [Holds] at h
    subst h
    cases m <;> rfl

theorem Holds.unique {c d : LexicalClass} {p q s : List Char} (left : c.Holds p)
    (right : d.Holds q) (here : p <+: s) (there : q <+: s) : c = d := by
  obtain ⟨rest, rfl⟩ := here
  obtain ⟨other, same⟩ := there
  have first := opener_append left rest
  have second := opener_append right other
  rw [same, first] at second
  exact Option.some.inj second

end LexicalClass
end SqlReader
