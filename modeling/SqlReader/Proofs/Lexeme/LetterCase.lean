import SqlReader.Proofs.Lexeme.Cutting
import SqlReader.Proofs.Lexeme.Pattern

set_option autoImplicit false

namespace SqlReader

section Letters

variable {c d : Char}

theorem isAlpha_of_isLower (lower : c.isLower = true) : c.isAlpha = true := by
  change (c.isUpper || c.isLower) = true
  rw [lower, Bool.or_true]

theorem isAlpha_of_isUpper (upper : c.isUpper = true) : c.isAlpha = true := by
  change (c.isUpper || c.isLower) = true
  rw [upper, Bool.true_or]

theorem toUpper_of_not_isLower (other : c.isLower = false) : c.toUpper = c := by
  have bounds : ¬ ('a'.val ≤ c.val ∧ c.val ≤ 'z'.val) := fun within =>
    Bool.eq_false_iff.1 other (isLower_iff.2 within)
  exact dif_neg bounds

theorem toNat_toUpper (lower : c.isLower = true) : c.toUpper.toNat = c.toNat - 32 := by
  obtain ⟨low, high⟩ := isLower_iff.1 lower
  have bounds : 'a'.val ≤ c.val ∧ c.val ≤ 'z'.val := ⟨low, high⟩
  change (dite ('a'.val ≤ c.val ∧ c.val ≤ 'z'.val) _ _ : Char).toNat = _
  rw [dif_pos bounds]
  change (c.val + ('A'.val - 'a'.val)).toNat = _
  rw [UInt32.toNat_add]
  change (c.toNat + 4294967264) % 4294967296 = _
  omega

theorem isLower_toUpper (c : Char) : c.toUpper.isLower = false := by
  cases lower : c.isLower with
  | false => rw [toUpper_of_not_isLower lower, lower]
  | true =>
    refine Bool.eq_false_iff.2 fun still => ?_
    have bounds := isLower_iff.1 lower
    have above := isLower_iff.1 still
    rw [toNat_toUpper lower] at above
    omega

theorem toUpper_toUpper (c : Char) : c.toUpper.toUpper = c.toUpper :=
  toUpper_of_not_isLower (isLower_toUpper c)

theorem eq_of_toUpper {α : Type} {g : Char → α} {a : α}
    (letters : ∀ d : Char, d.isAlpha = true → g d = a) (c : Char) : g c.toUpper = g c := by
  cases lower : c.isLower with
  | false => rw [toUpper_of_not_isLower lower]
  | true =>
    have bounds := isLower_iff.1 lower
    have upper : c.toUpper.isUpper = true := by
      rw [isUpper_iff, toNat_toUpper lower]
      omega
    rw [letters c (isAlpha_of_isLower lower), letters c.toUpper (isAlpha_of_isUpper upper)]

theorem toNat_of_isAlpha (letter : c.isAlpha = true) : 65 ≤ c.toNat ∧ c.toNat ≤ 122 :=
  toNat_of_isWordStart (by rw [Munch.isWordStart, letter, Bool.true_or])

theorem ne_of_isAlpha (letter : c.isAlpha = true) (other : d.isAlpha = false) : c ≠ d := by
  rintro rfl
  rw [letter] at other
  cases other

theorem byteLength_toUpper (s : List Char) : byteLength (s.map Char.toUpper) = byteLength s := by
  have size : ∀ c : Char, c.isAlpha = true → c.utf8Size = 1 := by
    intro c letter
    have bounds := toNat_of_isAlpha letter
    rw [Char.utf8Size_eq_one_iff, UInt32.le_iff_toNat_le]
    exact Nat.le_trans bounds.2 (by decide)
  induction s with
  | nil => rfl
  | cons c s ih => rw [List.map_cons, byteLength_cons, byteLength_cons, eq_of_toUpper size, ih]

end Letters

namespace Pattern

def Ignores (f : Char → Char) : Pattern → Prop
  | empty => True
  | char allowed => ∀ c, allowed (f c) = allowed c
  | seq first second => first.Ignores f ∧ second.Ignores f
  | alt preferred other => preferred.Ignores f ∧ other.Ignores f
  | star body => body.Ignores f

variable {f : Char → Char} {p : Pattern}

theorem repeated_map {step : List Char → List (List Char)}
    (same : ∀ s, step (s.map f) = (step s).map (List.map f)) (s : List Char) :
    repeated step (s.map f) = (repeated step s).map (List.map f) := by
  fun_induction repeated step s with
  | case1 s ih =>
    rw [repeated, same, List.flatMap_map, List.map_append, List.map_flatMap]
    refine congrArg (List.flatMap · (step s) ++ [s.map f]) (funext fun t => ?_)
    simp only [List.length_map]
    split
    next shorter => exact ih t shorter
    next => rfl

theorem rests_map (ignores : p.Ignores f) (s : List Char) :
    p.rests (s.map f) = (p.rests s).map (List.map f) := by
  induction p generalizing s with
  | empty => rfl
  | char allowed =>
    cases s with
    | nil => rfl
    | cons c s =>
      simp only [List.map_cons, rests, ignores c]
      split <;> rfl
  | seq first second ihFirst ihSecond =>
    simp only [rests, ihFirst ignores.1, List.flatMap_map, ihSecond ignores.2, List.map_flatMap]
  | alt preferred other ihPreferred ihOther =>
    simp only [rests, ihPreferred ignores.1, ihOther ignores.2, List.map_append]
  | star body ih => exact repeated_map (ih ignores) s

theorem matched?_map (ignores : p.Ignores f) (s : List Char) :
    p.matched? (s.map f) = (p.matched? s).map (List.map f) := by
  rw [matched?, matched?, rests_map ignores, List.head?_map, Option.map_map, Option.map_map]
  refine congrArg (Option.map · _) (funext fun rest => ?_)
  simp [List.map_take]

end Pattern

namespace LexicalClass

theorem pattern_ignores (c : LexicalClass) : c.pattern.Ignores Char.toUpper := by
  have other {d : Char} (sign : d.isAlpha = false) (c : Char) :
      decide (c.toUpper = d) = decide (c = d) :=
    eq_of_toUpper (fun e letter => decide_eq_false (ne_of_isAlpha letter sign)) c
  have others {d : Char} (sign : d.isAlpha = false) (c : Char) :
      decide (c.toUpper ≠ d) = decide (c ≠ d) :=
    eq_of_toUpper (fun e letter => decide_eq_true (ne_of_isAlpha letter sign)) c
  have digits : ∀ c : Char, c.toUpper.isDigit = c.isDigit := by
    refine eq_of_toUpper (a := false) fun e letter => Bool.eq_false_iff.2 fun digit => ?_
    have bounds := toNat_of_isAlpha letter
    have narrow := toNat_of_isDigit digit
    omega
  cases c with
  | blank =>
    have blanks : ∀ c : Char, isBlank c.toUpper = isBlank c := by
      refine eq_of_toUpper (a := false) fun e letter => ?_
      have bounds := toNat_of_isAlpha letter
      exact isBlank_eq_false (by omega) (by omega)
    exact ⟨blanks, blanks⟩
  | comment => exact ⟨other rfl, other rfl, others rfl⟩
  | word =>
    have starts : ∀ c : Char, Munch.isWordStart c.toUpper = Munch.isWordStart c :=
      eq_of_toUpper (a := true) fun e letter => by rw [Munch.isWordStart, letter, Bool.true_or]
    have parts : ∀ c : Char, Munch.isWordPart c.toUpper = Munch.isWordPart c :=
      eq_of_toUpper (a := true) fun e letter => by
        rw [Munch.isWordPart, Char.isAlphanum, letter, Bool.true_or, Bool.true_or]
    exact ⟨starts, parts⟩
  | number =>
    exact ⟨⟨other rfl, trivial⟩, ⟨digits, digits⟩, ⟨other rfl, digits, digits⟩, trivial⟩
  | text => exact ⟨other rfl, ⟨others rfl, other rfl, other rfl⟩, other rfl⟩
  | mark m => exact other (by cases m <;> rfl)

theorem munch_toUpper (c : LexicalClass) (s : List Char) :
    c.munch (s.map Char.toUpper) = (c.munch s).map Char.toUpper := by
  have matched (s : List Char) : c.munch s = (c.pattern.matched? s).getD [] := by
    rw [matched?_pattern]
    split
    next nothing => exact nothing
    next => rfl
  rw [matched, Pattern.matched?_map c.pattern_ignores, matched s]
  cases c.pattern.matched? s <;> rfl

theorem kind?_toUpper (c : LexicalClass) (p : List Char) :
    c.kind? (p.map Char.toUpper) = c.kind? p := by
  cases c with
  | word =>
    have twice : Char.toUpper ∘ Char.toUpper = Char.toUpper := funext toUpper_toUpper
    rw [kind?, kind?, Kind.ofWord, Kind.ofWord, List.map_map, twice]
  | blank | comment | number | text | mark => rfl

end LexicalClass

namespace Lexeme

def toUpper (l : Lexeme) : Lexeme := { l with text := l.text.map Char.toUpper }

theorem toUpper_size (l : Lexeme) : l.toUpper.size = l.size := byteLength_toUpper l.text

variable {offset : Nat} {s : List Char}

theorem next?_toUpper : next? offset (s.map Char.toUpper) = (next? offset s).map toUpper := by
  cases found : next? offset s with
  | none =>
    refine next?_eq_none_iff.2 fun c => ?_
    rw [c.munch_toUpper, next?_eq_none_iff.1 found c]
    rfl
  | some l =>
    obtain ⟨here, text, nonempty⟩ := next?_eq_some_iff.1 found
    refine next?_eq_some_iff.2 ⟨here, ?_, mt List.map_eq_nil_iff.1 nonempty⟩
    rw [toUpper, l.sort.munch_toUpper, text]

theorem toUpper_of_next?_eq_none {c : Char} (h : next? offset (c :: s) = none) : c.toUpper = c := by
  refine toUpper_of_not_isLower (Bool.eq_false_iff.2 fun lower => ?_)
  have start : Munch.isWordStart c = true := by
    rw [Munch.isWordStart, isAlpha_of_isLower lower, Bool.true_or]
  have taken := next?_eq_none_iff.1 h .word
  rw [LexicalClass.munch, Munch.word, if_pos start] at taken
  cases taken

end Lexeme
end SqlReader
