import SqlReader.Proofs.Cursor.Stopping

set_option autoImplicit false

namespace SqlReader

-- The tokens of a statement were there to the last, even if its lists differ in length.
def isComplete : Except SyntaxError Statement → Bool
  | .ok _ => true
  | .error ⟨.countMismatch _ _, _⟩ => true
  | .error _ => false

theorem SyntaxError.Blames.not_isComplete {e : SyntaxError} {t : Token} (h : e.Blames t) :
    isComplete (.error e) = false := by
  cases h <;> rfl

namespace Draft

variable {w : List Token} {forms : List Form}

theorem Completes.isComplete {r : Except SyntaxError Statement}
    (h : (Draft.opening forms).Completes w r) : isComplete r = true := by
  cases r with
  | ok s => rfl
  | error e =>
    obtain ⟨_, _, _, _, _, _, _, _, _, rfl⟩ := miscounted_of_completes h.of_opening
    rfl

theorem read_ending (stop place : Position) (behind : List Token) (d : Draft)
    (ahead : List Token) :
    d.read place behind (ahead ++ [Token.ending stop]) =
      let reading := d.read stop behind ahead
      ⟨reading.result, reading.behind, reading.ahead ++ [Token.ending stop]⟩ := by
  induction ahead generalizing d behind with
  | nil =>
    have refuses : d.take? (Token.ending stop) = none := take?_eq_none_of_isEnd rfl
    simp [read, refuses]
  | cons t ahead ih =>
    rw [List.cons_append, read, read]
    cases d.take? t with
    | none => rfl
    | some a =>
      cases a with
      | done result => rfl
      | next e => exact ih (t :: behind) e

end Draft

namespace Cursor

/-- The tokens from the cursor on, and that which marks the end among them. -/
def remaining (c : Cursor) : List Token :=
  if c.ahead.getLast?.any Token.isEnd then c.ahead else c.ahead ++ [Token.ending c.stop]

variable {c : Cursor} {forms : List Form} {w rest : List Token} {t : Token}

theorem remaining_eq_drop_stored (inside : ∀ t ∈ c.behind, t.isEnd = false) :
    c.remaining = c.stored.drop c.index := by
  have behind (rest : List Token) : (c.behind.reverse ++ rest).drop c.index = rest := by
    rw [index, ← List.length_reverse, List.drop_left]
  have passed : c.behind.reverse.getLast?.any Token.isEnd = false :=
    any_isEnd_getLast? fun t member => inside t (List.mem_reverse.1 member)
  have marked : c.tokens.getLast?.any Token.isEnd = c.ahead.getLast?.any Token.isEnd := by
    rw [tokens, List.getLast?_append]
    cases c.ahead.getLast? with
    | none => exact passed
    | some t => rfl
  rw [remaining, stored, marked]
  split
  · exact (behind c.ahead).symm
  · rw [tokens, List.append_assoc]
    exact (behind _).symm

theorem exists_isEnd_remaining (c : Cursor) : ∃ last ∈ c.remaining, last.isEnd = true := by
  rw [remaining]
  split
  next marked =>
    obtain ⟨last, found, ends⟩ := (Option.any_eq_true _ _).1 marked
    exact ⟨last, List.mem_of_getLast? found, ends⟩
  next => exact ⟨Token.ending c.stop, List.mem_append_right _ List.mem_cons_self, rfl⟩

theorem read_remaining (forms : List Form) (c : Cursor) :
    (c.read forms).1 = ((Draft.opening forms).read c.stop c.behind c.remaining).result ∧
      (c.read forms).2.behind =
        ((Draft.opening forms).read c.stop c.behind c.remaining).behind := by
  rw [remaining]
  split
  · exact ⟨rfl, rfl⟩
  · rw [Draft.read_ending c.stop]
    exact ⟨rfl, rfl⟩

theorem passes_read (behind : (c.read forms).2.behind = w.reverse ++ c.behind) :
    c.Passes w (c.read forms).2 := by
  obtain ⟨v, passed⟩ := c.read_moves forms
  obtain rfl : v = w := by
    have same := passed.behind.symm.trans behind
    exact List.reverse_inj.1 (List.append_cancel_right same)
  exact passed

theorem read_of_completes {r : Except SyntaxError Statement}
    (whole : (Draft.opening forms).Completes w r) (split : c.remaining = w ++ rest) :
    (c.read forms).1 = r ∧ c.Passes w (c.read forms).2 := by
  obtain ⟨result, behind⟩ := c.read_remaining forms
  rw [split, Draft.read_of_completes whole] at result behind
  exact ⟨result, passes_read behind⟩

theorem read_of_refused {e : Draft} (reached : (Draft.opening forms).Reaches w e)
    (refuses : e.take? t = none) (split : c.remaining = w ++ t :: rest) :
    (c.read forms).1 = .error (e.refusal t) ∧ c.Passes w (c.read forms).2 := by
  obtain ⟨result, behind⟩ := c.read_remaining forms
  rw [split, reached.read, Draft.read, refuses] at result behind
  exact ⟨result, passes_read behind⟩

end Cursor

/-- Two cursors in front of the same tokens answer alike and pass the same tokens. These need to be
the same as far as the first cursor passes them, and one more where that one is refused. -/
theorem read_without_lookahead (forms : List Form) (c d : Cursor) :
    let result := (c.read forms).1
    let n := (c.read forms).2.index - c.index
    let passed := c.remaining.take n
    c.Passes passed (c.read forms).2 ∧
      (isComplete result = true → d.remaining.take n = passed →
        (d.read forms).1 = result ∧ d.Passes passed (d.read forms).2) ∧
      (isComplete result = false → d.remaining.take (n + 1) = c.remaining.take (n + 1) →
        (d.read forms).1 = result ∧ d.Passes passed (d.read forms).2) := by
  intro result n passed
  have split := (Draft.opening forms).splits c.remaining
  generalize whole : c.remaining = tokens at split
  cases split with
  | @complete w rest r complete =>
    obtain ⟨answer, passes⟩ := Cursor.read_of_completes complete whole
    have size : n = w.length := Nat.sub_eq_of_eq_add' passes.index_eq
    have same : passed = w := by simp [passed, whole, size]
    have found : result = r := answer
    rw [same, size, found]
    refine ⟨passes, fun _ shared => ?_, fun broken => ?_⟩
    · have other : d.remaining = w ++ d.remaining.drop w.length := by
        conv => lhs; rw [← List.take_append_drop w.length d.remaining, shared]
      exact Cursor.read_of_completes complete other
    · rw [complete.isComplete] at broken
      cases broken
  | @refused w rest t e reached refuses =>
    obtain ⟨answer, passes⟩ := Cursor.read_of_refused reached refuses whole
    have size : n = w.length := Nat.sub_eq_of_eq_add' passes.index_eq
    have same : passed = w := by simp [passed, whole, size]
    have found : result = .error (e.refusal t) := answer
    rw [same, size, found]
    refine ⟨passes, fun complete => ?_, fun _ shared => ?_⟩
    · rw [(e.blames_refusal t).not_isComplete] at complete
      cases complete
    · have other : d.remaining = w ++ t :: d.remaining.drop (w.length + 1) := by
        have front : (w ++ t :: rest).take (w.length + 1) = w ++ [t] :=
          List.take_length_add_append 1
        conv => lhs; rw [← List.take_append_drop (w.length + 1) d.remaining, shared, front]
        rw [List.append_assoc]
        rfl
      exact Cursor.read_of_refused reached refuses other
  | @short w e reached =>
    -- The last of the tokens marks the end, and nothing takes that.
    obtain ⟨last, member, ends⟩ := c.exists_isEnd_remaining
    have inside := reached.not_isEnd last (whole ▸ member)
    rw [ends] at inside
    cases inside

theorem read_without_lookahead_at_ends :
    let token (kind : Kind) : Token := ⟨kind, kind.name, ⟨⟨1, "a"⟩, ⟨2, "a"⟩⟩⟩
    let selection := [token .selectKeyword, token .star, token .fromKeyword, token .identifier]
    let c := Cursor.ofTokens "a" (selection ++ [token .semicolon])
    let d : Cursor := ⟨[token .semicolon], selection ++ [token .openParen], ⟨9, "b"⟩, "b"⟩
    let broken := [token .insertKeyword, token .intoKeyword, token .selectKeyword]
    let x := Cursor.ofTokens "a" broken
    let y : Cursor := ⟨selection, broken ++ selection, ⟨9, "b"⟩, "b"⟩
    (isComplete (c.read Form.all).1 = true ∧ d.remaining.take 4 = c.remaining.take 4 ∧
      (d.read Form.all).1 = (c.read Form.all).1 ∧
      d.Passes (c.remaining.take 4) (d.read Form.all).2) ∧
    isComplete (x.read [.insert]).1 = false ∧ y.remaining.take 3 = x.remaining.take 3 ∧
      (y.read [.insert]).1 = (x.read [.insert]).1 ∧
      y.Passes (x.remaining.take 2) (y.read [.insert]).2 := by
  intro token selection c d broken x y
  have complete : isComplete (c.read Form.all).1 = true := by decide
  have shared : d.remaining.take 4 = c.remaining.take 4 := by decide
  have refused : isComplete (x.read [.insert]).1 = false := by decide
  have longer : y.remaining.take 3 = x.remaining.take 3 := by decide
  exact ⟨⟨complete, shared, (read_without_lookahead Form.all c d).2.1 complete shared⟩,
    refused, longer, (read_without_lookahead [.insert] x y).2.2 refused longer⟩

end SqlReader
