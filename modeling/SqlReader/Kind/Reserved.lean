import SqlReader.Kind

set_option autoImplicit false

namespace SqlReader.Kind

def reserved : List (String × Kind) :=
  [("CREATE", .createKeyword),
    ("TABLE", .tableKeyword),
    ("INSERT", .insertKeyword),
    ("INTO", .intoKeyword),
    ("VALUES", .valuesKeyword),
    ("SELECT", .selectKeyword),
    ("FROM", .fromKeyword),
    ("NUMBER", .numberType),
    ("TEXT", .textType),
    ("BOOLEAN", .booleanType),
    ("TRUE", .boolean),
    ("FALSE", .boolean)]

-- Of the reserved words, TRUE and FALSE are literals.
theorem isKeyword_iff {k : Kind} :
    k.isKeyword = true ↔ k ∈ reserved.map Prod.snd ∧ k ≠ .boolean := by
  cases k <;> decide

def ofReserved? (word : String) : Option Kind := reserved.lookup word

-- Words hold ASCII letters only, so the ASCII upper case is enough.
def ofWord (word : List Char) : Kind :=
  (ofReserved? (String.ofList (word.map Char.toUpper))).getD .identifier

theorem ofWord_reserved {word : List Char} (h : ofWord word ≠ .identifier) :
    (String.ofList (word.map Char.toUpper), ofWord word) ∈ reserved := by
  cases found : ofReserved? (String.ofList (word.map Char.toUpper)) with
  | none => exact absurd (by rw [ofWord, found]; rfl) h
  | some kind =>
    obtain ⟨before, behind, split, -⟩ := List.lookup_eq_some_iff.1 found
    simp [ofWord, found, split]

theorem ofWord_mem (word : List Char) :
    ofWord word ∈ Kind.identifier :: reserved.map Prod.snd := by
  by_cases name : ofWord word = .identifier
  · rw [name]
    exact List.mem_cons_self
  · exact List.mem_cons_of_mem _ (List.mem_map_of_mem (ofWord_reserved name))

end SqlReader.Kind
