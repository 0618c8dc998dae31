import SqlReader.Proofs.Grammar.Layout
import SqlReader.Proofs.Scan.Written

set_option autoImplicit false

namespace SqlReader

-- No word and no literal goes on with such a character.
def Parts (d : Char) : Prop := isBlank d = true ∨ d ∈ ['-', '(', ')', ',', '*', ';']

theorem Parts.not_continues {c : LexicalClass} {d : Char} {p : List Char} {kind : Kind}
    (parts : Parts d) (kept : c.kind? p = some kind) : ¬ c.Continues d := by
  intro goes
  rcases parts with blank | mark
  · have solid (low : 33 ≤ d.toNat) (high : d.toNat < 128) : False := by
      have other := isBlank_eq_false low high
      rw [blank] at other
      cases other
    cases c with
    | blank => cases kept
    | comment => cases kept
    | word =>
      have bounds := toNat_of_isWordPart goes
      exact solid (by omega) (by omega)
    | number =>
      rcases goes with digit | rfl
      · have bounds := toNat_of_isDigit digit
        exact solid (by omega) (by omega)
      · exact absurd blank (by decide)
    | text =>
      rw [LexicalClass.Continues] at goes
      subst goes
      exact absurd blank (by decide)
    | mark m => exact goes
  · have others : Munch.isWordPart d = false ∧ d.isDigit = false ∧ d ≠ '.' ∧ d ≠ '\'' := by
      simp only [List.mem_cons, List.not_mem_nil, or_false] at mark
      rcases mark with rfl | rfl | rfl | rfl | rfl | rfl <;> decide
    obtain ⟨word, digit, point, quote⟩ := others
    cases c with
    | blank => cases kept
    | comment => cases kept
    | word => exact absurd goes (by simp [LexicalClass.Continues, word])
    | number => exact absurd goes (by simp [LexicalClass.Continues, digit, point])
    | text => exact quote goes
    | mark m => exact goes

theorem Token.Lexical.solid {t : Token} (h : t.Lexical) :
    ∃ d rest, t.value.toList = d :: rest ∧ isBlank d = false := by
  obtain ⟨c, holds, kept⟩ := h
  cases chars : t.value.toList with
  | nil => exact absurd chars holds.ne_nil
  | cons d rest =>
    refine ⟨d, rest, rfl, Bool.eq_false_iff.2 fun blank => ?_⟩
    have same : c = .blank :=
      holds.unique (LexicalClass.blank_holds blank) (List.prefix_refl _) (chars ▸ ⟨rest, rfl⟩)
    subst same
    cases kept

-- A piece of text keeps its tokens apart from whatever blank or mark comes next, so that pieces can
-- be put together.
structure Writes (tokens : List Token) (p : List Char) : Prop where
  solid : ∃ d rest, p = d :: rest ∧ isBlank d = false
  before : ∀ {later : List Token} {s : List Char}, (∀ d ∈ s.head?, Parts d) → Written later s →
    Written (tokens ++ later) (p ++ s)

namespace Writes

variable {u v : List Token} {p q : List Char}

theorem token {t : Token} (h : t.Lexical) : Writes [t] t.value.toList := by
  refine ⟨h.solid, ?_⟩
  intro later s parts written
  obtain ⟨c, holds, kept⟩ := h
  exact .token holds kept (fun d next => (parts d next).not_continues kept) written

theorem spaced (first : Writes u p) (second : Writes v q) : Writes (u ++ v) (p ++ ' ' :: q) := by
  constructor
  · obtain ⟨d, rest, rfl, solid⟩ := first.solid
    exact ⟨d, rest ++ ' ' :: q, rfl, solid⟩
  · intro later s parts written
    have behind := second.before parts written
    have ends : LexicalClass.blank.Ends (q ++ s) := by
      obtain ⟨d, rest, rfl, solid⟩ := second.solid
      simp [LexicalClass.Ends, LexicalClass.Continues, solid]
    have space : LexicalClass.blank.Holds [' '] := LexicalClass.blank_holds (by decide)
    have gap : Written (v ++ later) (' ' :: (q ++ s)) := .silent space rfl ends behind
    have parting : ∀ d ∈ (' ' :: (q ++ s)).head?, Parts d := by
      intro d next
      cases next
      exact .inl (by decide)
    rw [List.append_assoc, List.append_assoc]
    exact first.before parting gap

theorem written_mark {t : Token} {m : Mark} (value : t.value.toList = [m.char])
    (kind : t.kind = m.kind) {later : List Token} {s : List Char} (written : Written later s) :
    Written (t :: later) (m.char :: s) := by
  have whole : m.char :: s = t.value.toList ++ s := by rw [value]; rfl
  rw [whole]
  exact .token (c := .mark m) value (congrArg some kind.symm) (fun _ _ goes => goes) written

theorem opened {t : Token} {m : Mark} (value : t.value.toList = [m.char]) (kind : t.kind = m.kind)
    (second : Writes v q) : Writes (t :: v) (m.char :: q) := by
  constructor
  · exact ⟨m.char, q, rfl, by cases m <;> decide⟩
  · intro later s parts written
    exact written_mark value kind (second.before parts written)

theorem closed {t : Token} {m : Mark} (value : t.value.toList = [m.char]) (kind : t.kind = m.kind)
    (first : Writes u p) : Writes (u ++ [t]) (p ++ [m.char]) := by
  constructor
  · obtain ⟨d, rest, rfl, solid⟩ := first.solid
    exact ⟨d, rest ++ [m.char], rfl, solid⟩
  · intro later s parts written
    have parting : ∀ d ∈ (m.char :: s).head?, Parts d := by
      intro d next
      cases next
      exact .inr (by cases m <;> decide)
    rw [List.append_assoc, List.append_assoc]
    exact first.before parting (written_mark value kind written)

theorem enclosed (place : Position) (inner : Writes v q) :
    Writes (enclosed place v) ('(' :: (q ++ [')'])) := by
  have close : Writes (v ++ [.fixed place .closeParen ")"]) (q ++ [')']) :=
    inner.closed (m := .closeParen) (by simp [Token.fixed, Mark.char]) rfl
  exact close.opened (m := .openParen) (by simp [Token.fixed, Mark.char]) rfl

theorem commaParted {α : Type} {items : List α} {tokens : α → List Token}
    {text : α → List Char} (nonempty : items ≠ [])
    (each : ∀ a ∈ items, Writes (tokens a) (text a)) (place : Position) :
    Writes (commaParted place (items.map tokens)) ([',', ' '].intercalate (items.map text)) := by
  induction items with
  | nil => contradiction
  | cons a rest ih =>
    have first := each a List.mem_cons_self
    cases rest with
    | nil => simpa [SqlReader.commaParted] using first
    | cons b rest =>
      have later := ih (by simp) fun c member => each c (List.mem_cons_of_mem a member)
      have comma : Writes (tokens a ++ [.fixed place .comma ","]) (text a ++ [',']) :=
        first.closed (m := .comma) (by simp [Token.fixed, Mark.char]) rfl
      simpa [SqlReader.commaParted, List.intercalate_cons_cons] using comma.spaced later

end Writes
end SqlReader
