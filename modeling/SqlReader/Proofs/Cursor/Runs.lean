import SqlReader.Cursor.Call
import SqlReader.Proofs.Script.Visible

set_option autoImplicit false

namespace SqlReader

def upToEnd (tokens : List Token) : List Token := tokens.take (tokens.findIdx Token.isEnd + 1)

theorem upToEnd_of_split {w rest : List Token} {t : Token} (inside : ∀ u ∈ w, u.isEnd = false)
    (ends : t.isEnd = true) : upToEnd (w ++ t :: rest) = w ++ [t] := by
  induction w with
  | nil => simp [upToEnd, List.findIdx_cons, ends]
  | cons u w ih =>
    obtain ⟨first, later⟩ := List.forall_mem_cons.1 inside
    have rest := ih later
    simp only [upToEnd] at rest ⊢
    simp [List.findIdx_cons, first, rest]

theorem upToEnd_append {tokens : List Token} {t : Token} (member : t ∈ tokens)
    (ends : t.isEnd = true) (more : List Token) : upToEnd (tokens ++ more) = upToEnd tokens := by
  have short := List.findIdx_lt_length_of_exists ⟨t, member, ends⟩
  rw [upToEnd, List.findIdx_append, if_pos short, List.take_append_of_le_length short]
  rfl

theorem any_isEnd_getLast? {tokens : List Token} (inside : ∀ t ∈ tokens, t.isEnd = false) :
    tokens.getLast?.any Token.isEnd = false := by
  cases last : tokens.getLast? with
  | none => rfl
  | some t => exact inside t (List.mem_of_getLast? last)

namespace Cursor

def stored (c : Cursor) : List Token :=
  if c.tokens.getLast?.any Token.isEnd then c.tokens else c.tokens ++ [Token.ending c.stop]

def view (c : Cursor) : List Token := visible c.stop c.ahead

/-- `d` is `c` moved forward over the tokens `w`, and none of them marks the end. -/
structure Passes (c : Cursor) (w : List Token) (d : Cursor) : Prop where
  inside : ∀ t ∈ w, t.isEnd = false
  ahead : c.ahead = w ++ d.ahead
  behind : d.behind = w.reverse ++ c.behind
  stop : d.stop = c.stop
  name : d.name = c.name

def MovesTo (c d : Cursor) : Prop := ∃ w, c.Passes w d

variable {c d e : Cursor} {w v : List Token}

namespace Passes

theorem refl (c : Cursor) : c.Passes [] c := ⟨by simp, rfl, rfl, rfl, rfl⟩

theorem append (first : c.Passes w d) (second : d.Passes v e) : c.Passes (w ++ v) e where
  inside := List.forall_mem_append.2 ⟨first.inside, second.inside⟩
  ahead := by rw [first.ahead, second.ahead, List.append_assoc]
  behind := by rw [second.behind, first.behind, List.reverse_append, List.append_assoc]
  stop := second.stop.trans first.stop
  name := second.name.trans first.name

theorem tokens (h : c.Passes w d) : d.tokens = c.tokens := by
  simp [Cursor.tokens, h.ahead, h.behind]

theorem stored (h : c.Passes w d) : d.stored = c.stored := by
  rw [Cursor.stored, Cursor.stored, h.tokens, h.stop]

theorem index_eq (h : c.Passes w d) : d.index = c.index + w.length := by
  simp [index, h.behind, Nat.add_comm]

theorem behind_inside (h : c.Passes w d) (inside : ∀ t ∈ c.behind, t.isEnd = false) :
    ∀ t ∈ d.behind, t.isEnd = false := by
  rw [h.behind]
  refine List.forall_mem_append.2 ⟨?_, inside⟩
  intro t member
  exact h.inside t (List.mem_reverse.1 member)

end Passes

namespace MovesTo

theorem refl (c : Cursor) : c.MovesTo c := ⟨[], .refl c⟩

theorem trans (first : c.MovesTo d) (second : d.MovesTo e) : c.MovesTo e := by
  obtain ⟨w, first⟩ := first
  obtain ⟨v, second⟩ := second
  exact ⟨w ++ v, first.append second⟩

theorem index_le (h : c.MovesTo d) : c.index ≤ d.index := by
  obtain ⟨w, passed⟩ := h
  rw [passed.index_eq]
  exact Nat.le_add_right _ _

end MovesTo

theorem advance_of_isEnd (ends : c.current.isEnd = true) : c.advance = c := by
  obtain ⟨behind, ahead, stop, name⟩ := c
  cases ahead with
  | nil => rfl
  | cons t ahead => exact if_pos ends

theorem passes_advance (inside : c.current.isEnd = false) : c.Passes [c.current] c.advance := by
  obtain ⟨behind, ahead, stop, name⟩ := c
  cases ahead with
  | nil => cases inside
  | cons t ahead =>
    have notEnd : t.isEnd = false := inside
    have moved : advance ⟨behind, t :: ahead, stop, name⟩ = ⟨t :: behind, ahead, stop, name⟩ := by
      simp [advance, notEnd]
    rw [moved]
    exact ⟨List.forall_mem_singleton.2 inside, rfl, rfl, rfl, rfl⟩

theorem advance_moves (c : Cursor) : c.MovesTo c.advance := by
  cases ends : c.current.isEnd with
  | true =>
    rw [advance_of_isEnd ends]
    exact .refl c
  | false => exact ⟨_, passes_advance ends⟩

theorem expectOneOf_moves (kinds : List Kind) (c : Cursor) : c.MovesTo (c.expectOneOf kinds).2 := by
  unfold expectOneOf
  split
  · exact c.advance_moves
  · exact .refl c

theorem columnType_moves (c : Cursor) : c.MovesTo c.columnType.2 := by
  unfold columnType
  split
  · exact c.advance_moves
  · exact .refl c

theorem read_moves (forms : List Form) (c : Cursor) : c.MovesTo (c.read forms).2 := by
  obtain ⟨w, inside, ahead, behind⟩ := Draft.read_passes c.stop c.behind (.opening forms) c.ahead
  exact ⟨w, inside, ahead, behind, rfl, rfl⟩

theorem perform_moves (c : Cursor) (call : Call) : c.MovesTo (c.perform call).2 := by
  cases call with
  | current | name => exact .refl c
  | advance => exact c.advance_moves
  | expect kind => exact c.expectOneOf_moves [kind]
  | expectOneOf kinds => exact c.expectOneOf_moves kinds
  | columnType => exact c.columnType_moves
  | read forms => exact c.read_moves forms
  | dispatch =>
    simp only [perform]
    split
    · exact .refl c
    · exact c.read_moves _

def places (c : Cursor) (calls : List Call) : List Cursor := c :: (c.run calls).map Prod.snd

theorem run_moves (c : Cursor) (calls : List Call) :
    (∀ d ∈ c.places calls, c.MovesTo d) ∧ (c.places calls).Pairwise MovesTo := by
  induction calls generalizing c with
  | nil => simpa [places, run] using MovesTo.refl c
  | cons call calls ih =>
    obtain ⟨reached, ordered⟩ := ih (c.perform call).2
    have first := c.perform_moves call
    have later : ∀ d ∈ (c.perform call).2.places calls, c.MovesTo d := fun d member =>
      first.trans (reached d member)
    exact ⟨List.forall_mem_cons.2 ⟨.refl c, later⟩, List.pairwise_cons.2 ⟨later, ordered⟩⟩

section Bounds

variable (inside : ∀ t ∈ c.behind, t.isEnd = false)
include inside

theorem index_le_findIdx : c.index ≤ c.stored.findIdx Token.isEnd := by
  have split : ∃ rest, c.stored = c.behind.reverse ++ rest := by
    unfold stored tokens
    split
    · exact ⟨_, rfl⟩
    · exact ⟨_, List.append_assoc _ _ _⟩
  obtain ⟨rest, whole⟩ := split
  have outside : c.behind.reverse.findIdx Token.isEnd = c.behind.reverse.length :=
    List.findIdx_eq_length.2 fun t member => inside t (List.mem_reverse.1 member)
  rw [whole, List.findIdx_append, outside, if_neg (Nat.lt_irrefl _), List.length_reverse]
  exact Nat.le_add_left _ _

theorem getElem?_stored : c.stored[c.index]? = some c.current := by
  cases ahead : c.ahead with
  | nil =>
    -- No token marks the end, so that the one that does is behind all others.
    have unmarked : c.tokens.getLast?.any Token.isEnd = false := by
      rw [tokens, ahead, List.append_nil]
      exact any_isEnd_getLast? fun t member => inside t (List.mem_reverse.1 member)
    rw [stored, unmarked]
    simp [tokens, index, current, ahead]
  | cons t rest =>
    have within : c.tokens[c.index]? = some t := by simp [tokens, index, ahead]
    have short := (List.getElem?_eq_some_iff.1 within).1
    unfold stored
    split
    · simpa [current, ahead] using within
    · rw [List.getElem?_append_left short]
      simpa [current, ahead] using within

end Bounds

theorem head?_view (c : Cursor) : c.view.head? = some c.current := head?_visible c.stop c.ahead

theorem current_congr (same : c.view = d.view) : c.current = d.current := by
  apply Option.some.inj
  rw [← head?_view, same, head?_view]

theorem advance_view (c : Cursor) :
    c.advance.view = if c.current.isEnd then c.view else c.view.tail := by
  obtain ⟨behind, ahead, stop, name⟩ := c
  cases ahead with
  | nil => rfl
  | cons t rest => cases ends : t.isEnd <;> simp [advance, view, current, visible, ends]

theorem read_view (forms : List Form) (c : Cursor) (place : Position) :
    (c.read forms).1 = ((Draft.opening forms).read place [] c.view).result ∧
      (c.read forms).2.view = ((Draft.opening forms).read place [] c.view).ahead :=
  Draft.read_visible c.stop place c.behind [] (.opening forms) c.ahead

section Congruence

variable (same : c.view = d.view)
include same

theorem advance_congr : c.advance.view = d.advance.view := by
  rw [advance_view, advance_view, current_congr same, same]

theorem expectOneOf_congr (kinds : List Kind) :
    (c.expectOneOf kinds).1 = (d.expectOneOf kinds).1 ∧
      (c.expectOneOf kinds).2.view = (d.expectOneOf kinds).2.view := by
  unfold expectOneOf
  rw [current_congr same]
  split
  · exact ⟨rfl, advance_congr same⟩
  · exact ⟨rfl, same⟩

theorem columnType_congr :
    c.columnType.1 = d.columnType.1 ∧ c.columnType.2.view = d.columnType.2.view := by
  unfold columnType
  rw [current_congr same]
  split
  · exact ⟨rfl, advance_congr same⟩
  · exact ⟨rfl, same⟩

theorem read_congr (forms : List Form) :
    (c.read forms).1 = (d.read forms).1 ∧ (c.read forms).2.view = (d.read forms).2.view := by
  obtain ⟨result, later⟩ := c.read_view forms ⟨0, ""⟩
  obtain ⟨other, after⟩ := d.read_view forms ⟨0, ""⟩
  rw [result, later, other, after, same]
  exact ⟨rfl, rfl⟩

theorem perform_congr (names : c.name = d.name) (call : Call) :
    (c.perform call).1 = (d.perform call).1 ∧
      (c.perform call).2.view = (d.perform call).2.view := by
  have current := current_congr same
  cases call with
  | current => exact ⟨congrArg Answer.token current, same⟩
  | name => exact ⟨congrArg Answer.name names, same⟩
  | advance => exact ⟨congrArg Answer.token current, advance_congr same⟩
  | expect kind =>
    obtain ⟨result, later⟩ := expectOneOf_congr same [kind]
    exact ⟨congrArg Answer.expected result, later⟩
  | expectOneOf kinds =>
    obtain ⟨result, later⟩ := expectOneOf_congr same kinds
    exact ⟨congrArg Answer.expected result, later⟩
  | columnType =>
    obtain ⟨result, later⟩ := columnType_congr same
    exact ⟨congrArg Answer.expected result, later⟩
  | read forms =>
    obtain ⟨result, later⟩ := read_congr same forms
    exact ⟨congrArg Answer.statement result, later⟩
  | dispatch =>
    simp only [perform, current]
    split
    next => exact ⟨rfl, same⟩
    next form _ =>
      obtain ⟨result, later⟩ := read_congr same [form]
      exact ⟨congrArg Answer.statement result, later⟩

theorem run_view (names : c.name = d.name) (calls : List Call) :
    (c.run calls).map Prod.fst = (d.run calls).map Prod.fst := by
  induction calls generalizing c d with
  | nil => rfl
  | cons call calls ih =>
    obtain ⟨answer, later⟩ := perform_congr same names call
    obtain ⟨_, moved⟩ := c.perform_moves call
    obtain ⟨_, shifted⟩ := d.perform_moves call
    have titles : (c.perform call).2.name = (d.perform call).2.name := by
      rw [moved.name, shifted.name, names]
    have rest := ih later titles
    simp only [run, List.map_cons, answer, rest]

end Congruence

theorem upToEnd_stored_of_mem {tokens : List Token} {t : Token} (member : t ∈ tokens)
    (ends : t.isEnd = true) (name : String) :
    upToEnd (ofTokens name tokens).stored = upToEnd tokens := by
  have whole : (ofTokens name tokens).tokens = tokens := rfl
  rw [stored, whole]
  split
  · rfl
  · exact upToEnd_append member ends _

theorem upToEnd_stored (name : String) (tokens : List Token) :
    upToEnd (ofTokens name tokens).stored = visible (endPosition name tokens) tokens := by
  obtain ⟨rest, split, ends, seen⟩ := exists_visible (endPosition name tokens) tokens
  cases rest with
  | nil =>
    rw [List.append_nil] at split
    have whole : (ofTokens name tokens).tokens = tokens := rfl
    have unmarked : ¬ tokens.getLast?.any Token.isEnd = true := by
      rw [split, any_isEnd_getLast? not_isEnd_of_mem_beforeEnd]
      exact Bool.false_ne_true
    rw [seen, stored, whole, if_neg unmarked]
    conv => lhs; arg 1; arg 1; rw [split]
    exact upToEnd_of_split not_isEnd_of_mem_beforeEnd rfl
  | cons t rest =>
    have marked : t.isEnd = true := ends
    have member : t ∈ tokens := split ▸ List.mem_append_right _ List.mem_cons_self
    rw [seen, upToEnd_stored_of_mem member marked]
    conv => lhs; rw [split]
    exact upToEnd_of_split not_isEnd_of_mem_beforeEnd marked

end Cursor

/-- A cursor stands on a token, at the farthest on the first that marks the end, and goes forward
only. Tokens that are the same up to the first that marks the end are the same to it. -/
theorem cursor_run (name : String) (tokens : List Token) (calls : List Call) :
    let start := Cursor.ofTokens name tokens
    (start.places calls).Pairwise (fun c d => c.index ≤ d.index) ∧
      (∀ c ∈ start.places calls,
        c.index ≤ start.stored.findIdx Token.isEnd ∧ start.stored[c.index]? = some c.current ∧
          c.stored = start.stored ∧ c.name = name) ∧
      ∀ others, upToEnd (Cursor.ofTokens name others).stored = upToEnd start.stored →
        ((Cursor.ofTokens name others).run calls).map Prod.fst =
            (start.run calls).map Prod.fst ∧
          parse name others = parse name tokens ∧
          parseScript name others = parseScript name tokens := by
  intro start
  obtain ⟨reached, ordered⟩ := start.run_moves calls
  refine ⟨ordered.imp Cursor.MovesTo.index_le, ?_, ?_⟩
  · intro c member
    obtain ⟨_, moved⟩ := reached c member
    have inside := moved.behind_inside (fun t none => by cases none)
    rw [← moved.stored]
    exact ⟨Cursor.index_le_findIdx inside, Cursor.getElem?_stored inside, rfl, moved.name⟩
  · intro others same
    rw [Cursor.upToEnd_stored, Cursor.upToEnd_stored] at same
    have one (tokens : List Token) : parse name tokens =
        (readOne ⟨0, ""⟩ (visible (endPosition name tokens) tokens)).result :=
      readOne_visible _ _ tokens
    have many (tokens : List Token) : parseScript name tokens =
        (readMany ⟨0, ""⟩ (visible (endPosition name tokens) tokens)).result :=
      (parseScript_eq name tokens).trans (readMany_visible _ _ tokens)
    rw [one others, many others, same, ← one tokens, ← many tokens]
    exact ⟨Cursor.run_view (c := .ofTokens name others) (d := start) same rfl calls, rfl, rfl⟩

theorem cursor_run_past_end :
    let token (kind : Kind) (value : String) : Token := ⟨kind, value, ⟨⟨7, "a"⟩, ⟨8, "a"⟩⟩⟩
    let tokens := [token .selectKeyword "SELECT", token .endOfInput "", token .star "*"]
    let others := [token .selectKeyword "SELECT", token .endOfInput ""]
    let calls := [.read Form.all, .advance, .expect .endOfInput, .columnType, .read [.insert]]
    let start := Cursor.ofTokens "a" tokens
    upToEnd (Cursor.ofTokens "a" others).stored = upToEnd start.stored ∧
      ((Cursor.ofTokens "a" others).run calls).map Prod.fst = (start.run calls).map Prod.fst ∧
      parse "a" others = parse "a" tokens ∧ parseScript "a" others = parseScript "a" tokens := by
  intro token tokens others calls start
  have same : upToEnd (Cursor.ofTokens "a" others).stored = upToEnd start.stored := by decide
  exact ⟨same, (cursor_run "a" tokens calls).2.2 others same⟩

end SqlReader
