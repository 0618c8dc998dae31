import SqlReader.Text.Quoted

set_option autoImplicit false

namespace SqlReader

def IsInner (c : Char) : Prop := c ≠ '"' ∧ c ≠ '\\' ∧ c ≠ '\n'

instance (c : Char) : Decidable (IsInner c) := inferInstanceAs (Decidable (_ ∧ _))

theorem isInner_digitChar (n : Nat) : IsInner n.digitChar :=
  ⟨Nat.digitChar_ne '"' rfl, Nat.digitChar_ne '\\' rfl, Nat.digitChar_ne '\n' rfl⟩

theorem isInner_of_mem_toDigits {n : Nat} {c : Char} (mem : c ∈ Nat.toDigits 16 n) : IsInner c := by
  induction n using Nat.strongRecOn with
  | _ n ih =>
    rw [Nat.toDigits_eq_if (by decide)] at mem
    split at mem
    · rw [List.mem_singleton.1 mem]
      exact isInner_digitChar n
    · rcases List.mem_append.1 mem with mem | mem
      · exact ih (n / 16) (by omega) mem
      · rw [List.mem_singleton.1 mem]
        exact isInner_digitChar (n % 16)

theorem escape_cases (c : Char) :
    (escape c = [c] ∧ IsInner c) ∨
      ∃ d rest, escape c = '\\' :: d :: rest ∧ d ≠ '\n' ∧ ∀ x ∈ rest, IsInner x := by
  unfold escape
  split
  case h_1 | h_2 | h_3 | h_4 | h_5 | h_6 => exact .inr ⟨_, [], rfl, by decide, by simp⟩
  case h_7 =>
    split
    · refine .inr ⟨'u', _, rfl, by decide, fun x mem => ?_⟩
      rcases List.mem_cons.1 mem with rfl | mem
      · decide
      · rcases List.mem_append.1 mem with mem | mem
        · exact isInner_of_mem_toDigits mem
        · rw [List.mem_singleton.1 mem]
          decide
    · refine .inl ⟨rfl, ?_, ?_, ?_⟩ <;> assumption

theorem newline_not_mem_escape (c : Char) : '\n' ∉ escape c := by
  rcases escape_cases c with ⟨eq, inner⟩ | ⟨d, rest, eq, plain, inner⟩
  · rw [eq, List.mem_singleton]
    exact inner.2.2.symm
  · rw [eq, List.mem_cons, List.mem_cons]
    rintro (other | rfl | mem)
    · exact absurd other (by decide)
    · exact plain rfl
    · exact (inner _ mem).2.2 rfl

theorem toList_quoted (v : String) :
    (quoted v).toList = '"' :: (v.toList.flatMap escape ++ ['"']) :=
  String.toList_ofList

theorem newline_not_mem_quoted (v : String) : '\n' ∉ (quoted v).toList := by
  simp [toList_quoted, newline_not_mem_escape]

end SqlReader
