set_option autoImplicit false

namespace SqlReader

def byteLength (s : List Char) : Nat := s.foldl (fun bytes c => bytes + c.utf8Size) 0

theorem foldl_byteLength (bytes : Nat) (s : List Char) :
    s.foldl (fun bytes c => bytes + c.utf8Size) bytes = bytes + byteLength s := by
  induction s generalizing bytes with
  | nil => rfl
  | cons c s ih =>
    have first := ih (0 + c.utf8Size)
    have rest := ih (bytes + c.utf8Size)
    simp only [byteLength, List.foldl_cons] at first rest ⊢
    omega

@[simp] theorem byteLength_nil : byteLength [] = 0 := rfl

@[simp] theorem byteLength_cons (c : Char) (s : List Char) :
    byteLength (c :: s) = c.utf8Size + byteLength s := by
  rw [byteLength, List.foldl_cons, foldl_byteLength, Nat.zero_add]

@[simp] theorem byteLength_append (s t : List Char) :
    byteLength (s ++ t) = byteLength s + byteLength t := by
  induction s with
  | nil => simp
  | cons c s ih => simp [ih, Nat.add_assoc]

theorem byteLength_pos {s : List Char} (h : s ≠ []) : 0 < byteLength s := by
  cases s with
  | nil => contradiction
  | cons c s => have := c.utf8Size_pos; simp only [byteLength_cons]; omega

theorem utf8ByteSize_ofList (s : List Char) : (String.ofList s).utf8ByteSize = byteLength s := by
  induction s with
  | nil => rfl
  | cons c s ih =>
    have first : String.ofList (c :: s) = String.singleton c ++ String.ofList s := by
      rw [← List.singleton_append, String.ofList_append, String.singleton_eq_ofList]
    rw [first, String.utf8ByteSize_append, String.utf8ByteSize_singleton, ih, byteLength_cons]

theorem byteLength_toList (s : String) : byteLength s.toList = s.utf8ByteSize := by
  rw [← utf8ByteSize_ofList, String.ofList_toList]

def dropBytes? : Nat → List Char → Option (List Char)
  | 0, s => some s
  | _ + 1, [] => none
  | n + 1, c :: s => if c.utf8Size ≤ n + 1 then dropBytes? (n + 1 - c.utf8Size) s else none

theorem dropBytes?_append (s t : List Char) : dropBytes? (byteLength s) (s ++ t) = some t := by
  induction s with
  | nil => simp [dropBytes?]
  | cons c s ih =>
    obtain ⟨n, hn⟩ := Nat.exists_eq_add_of_lt c.utf8Size_pos
    have size : byteLength (c :: s) = n + byteLength s + 1 := by simp only [byteLength_cons]; omega
    rw [size, List.cons_append, dropBytes?, if_pos (by omega)]
    rw [show n + byteLength s + 1 - c.utf8Size = byteLength s by omega]
    exact ih

structure ByteCursor where
  text : List Char
  offset : Nat

namespace ByteCursor

def ofText (text : String) : ByteCursor := ⟨text.toList, 0⟩

def advance (c : ByteCursor) (bytes : Nat) : ByteCursor := { c with offset := c.offset + bytes }

def atEnd (c : ByteCursor) : Bool := byteLength c.text ≤ c.offset

def remainder? (c : ByteCursor) : Option (List Char) := dropBytes? c.offset c.text

end ByteCursor
end SqlReader
