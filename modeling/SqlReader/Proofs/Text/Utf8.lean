import SqlReader.Text.Bytes

set_option autoImplicit false

namespace SqlReader

def newline : UInt8 := 10

def utf8 (s : List Char) : List UInt8 := s.flatMap String.utf8EncodeChar

@[simp] theorem utf8_nil : utf8 [] = [] := rfl

@[simp] theorem utf8_cons (c : Char) (s : List Char) :
    utf8 (c :: s) = String.utf8EncodeChar c ++ utf8 s := List.flatMap_cons

@[simp] theorem utf8_append (s t : List Char) : utf8 (s ++ t) = utf8 s ++ utf8 t :=
  List.flatMap_append

theorem length_utf8 (s : List Char) : (utf8 s).length = byteLength s := by
  induction s with
  | nil => rfl
  | cons c s ih => simp [ih]

theorem isPrefix_of_byteLength_le {a b s : List Char} (first : a <+: s) (second : b <+: s)
    (shorter : byteLength a ≤ byteLength b) : a <+: b := by
  rcases List.prefix_or_prefix_of_prefix first second with within | ⟨more, rfl⟩
  · exact within
  · cases more with
    | nil => exact ⟨[], by simp⟩
    | cons c more =>
      have nonempty := byteLength_pos (List.cons_ne_nil c more)
      rw [byteLength_append] at shorter
      omega

-- The bytes of a character beyond ASCII are all above those of ASCII.
theorem newline_notMem_utf8EncodeChar {c : Char} (other : c ≠ '\n') :
    newline ∉ String.utf8EncodeChar c := by
  intro member
  have code : newline.toNat = 10 := rfl
  simp only [String.utf8EncodeChar] at member
  split at member
  next ascii =>
    have same := congrArg UInt8.toNat (List.mem_singleton.1 member)
    rw [code, UInt8.toNat_ofNat'] at same
    have value : c.val.toNat = 10 := by omega
    exact other (Char.ext (UInt32.toNat_inj.1 value))
  next beyond =>
    repeat' split at member
    all_goals
      simp only [List.mem_cons, List.not_mem_nil, or_false, ← UInt8.toNat_inj, code,
        UInt8.toNat_ofNat'] at member
      omega

theorem count_utf8 (s : List Char) : (utf8 s).count newline = s.count '\n' := by
  induction s with
  | nil => rfl
  | cons c s ih =>
    rw [utf8_cons, List.count_append, ih]
    by_cases same : c = '\n'
    · subst same
      rw [List.count_cons_self, Nat.add_comm]
      rfl
    · rw [List.count_cons_of_ne same, List.count_eq_zero.2 (newline_notMem_utf8EncodeChar same),
        Nat.zero_add]

theorem newline_mem_utf8_iff {s : List Char} : newline ∈ utf8 s ↔ '\n' ∈ s := by
  rw [← List.count_pos_iff, ← List.count_pos_iff, count_utf8]

theorem utf8Size_eq_one_iff {c : Char} : c.utf8Size = 1 ↔ c.toNat < 128 := by
  rw [Char.utf8Size_eq_one_iff, UInt32.le_iff_toNat_le]
  exact Nat.lt_succ_iff.symm

theorem length_le_byteLength (s : List Char) : s.length ≤ byteLength s := by
  induction s with
  | nil => exact Nat.le_refl 0
  | cons c s ih =>
    have size := c.utf8Size_pos
    rw [List.length_cons, byteLength_cons]
    omega

theorem byteLength_eq_length_iff {s : List Char} :
    byteLength s = s.length ↔ ∀ c ∈ s, c.toNat < 128 := by
  induction s with
  | nil => simp
  | cons c s ih =>
    have size := c.utf8Size_pos
    have rest := length_le_byteLength s
    rw [List.forall_mem_cons, ← ih, ← utf8Size_eq_one_iff, List.length_cons, byteLength_cons]
    omega

end SqlReader
