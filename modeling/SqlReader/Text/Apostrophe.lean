set_option autoImplicit false

namespace SqlReader.Apostrophe

def double : List Char → List Char
  | [] => []
  | c :: s => if c = '\'' then '\'' :: '\'' :: double s else c :: double s

-- Takes apostrophes in pairs from the left; one without a partner stays.
def halve : List Char → List Char
  | '\'' :: '\'' :: s => '\'' :: halve s
  | c :: s => c :: halve s
  | [] => []

def enclose (s : List Char) : List Char := '\'' :: (double s ++ ['\''])

-- Takes one apostrophe off each end, if these are two different characters.
def strip (s : List Char) : List Char :=
  match s with
  | '\'' :: inner => if inner.getLast? = some '\'' then inner.dropLast else s
  | _ => s

def content (s : List Char) : List Char := halve (strip s)

theorem halve_double (s : List Char) : halve (double s) = s := by
  induction s with
  | nil => rfl
  | cons c s ih =>
    by_cases h : c = '\''
    · simp [double, h, halve, ih]
    · simp only [double, if_neg h]
      rw [halve, ih]
      simp [h]

theorem strip_enclose (s : List Char) : strip (enclose s) = double s := by
  simp [strip, enclose]

theorem content_enclose (s : List Char) : content (enclose s) = s := by
  rw [content, strip_enclose, halve_double]

end SqlReader.Apostrophe
