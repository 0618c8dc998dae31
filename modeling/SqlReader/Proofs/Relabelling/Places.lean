import SqlReader.Proofs.Grammar.Layout
import SqlReader.Proofs.Relabelling

set_option autoImplicit false

namespace SqlReader

def Token.positions (t : Token) : List Position := [t.span.start, t.span.stop]

def Statement.positions (s : Statement) : List Position :=
  s.start :: s.tokens.flatMap Token.positions

def Cause.tokens : Cause → List Token
  | unexpected _ found | unknownType found | trailing found => [found]
  | unrecognised _ | unexpectedEnd _ | countMismatch _ _ => []

def SyntaxError.positions (e : SyntaxError) : List Position :=
  e.position :: e.cause.tokens.flatMap Token.positions

-- A result that this leaves as it is has no places but those for which `keeps` holds.
def Relabelling.moving (keeps : Position → Bool) : Relabelling :=
  ⟨fun p => if keeps p then p else ⟨p.offset + 1, p.source⟩, fun value => value⟩

theorem Relabelling.moving_eq_iff {keeps : Position → Bool} {p : Position} :
    (moving keeps).position p = p ↔ keeps p = true := by
  obtain ⟨offset, source⟩ := p
  cases kept : keeps ⟨offset, source⟩ with
  | true => simp [moving, kept]
  | false =>
    have moved : offset + 1 ≠ offset := by
      intro same
      have sizes := congrArg UInt32.toNat same
      have bound := offset.toNat_lt
      simp only [UInt32.toNat_add] at sizes
      simp at sizes
      omega
    simp [moving, kept, moved]

variable {m : Relabelling}

theorem Statement.start_relabel (s : Statement) : (s.relabel m).start = m.position s.start := by
  cases s <;> rfl

theorem Statement.tokens_relabel (s : Statement) :
    (s.relabel m).tokens = s.tokens.map (Token.relabel m) := by
  cases s <;> simp [relabel, tokens, CreateTable.relabel, Insert.relabel, Select.relabel]

theorem Cause.tokens_relabel (c : Cause) :
    (c.relabel m).tokens = c.tokens.map (Token.relabel m) := by
  cases c <;> rfl

theorem position_eq_of_relabel {tokens : List Token}
    (same : tokens.map (Token.relabel m) = tokens) :
    ∀ p ∈ tokens.flatMap Token.positions, m.position p = p := by
  intro p member
  obtain ⟨t, inside, here⟩ := List.mem_flatMap.1 member
  have whole : tokens.map (Token.relabel m) = tokens.map id := by rw [same, List.map_id]
  have span := congrArg Token.span (List.map_inj_left.1 whole t inside)
  simp only [Token.positions, List.mem_cons, List.not_mem_nil, or_false] at here
  rcases here with rfl | rfl
  · exact congrArg Span.start span
  · exact congrArg Span.stop span

theorem Statement.position_eq_of_relabel {s : Statement} (same : s.relabel m = s) :
    ∀ p ∈ s.positions, m.position p = p := by
  have tokens := congrArg Statement.tokens same
  rw [tokens_relabel] at tokens
  refine List.forall_mem_cons.2 ⟨?_, SqlReader.position_eq_of_relabel tokens⟩
  rw [← start_relabel, same]

theorem SyntaxError.position_eq_of_relabel {e : SyntaxError} (same : e.relabel m = e) :
    ∀ p ∈ e.positions, m.position p = p := by
  have tokens := congrArg (Cause.tokens ∘ SyntaxError.cause) same
  simp only [Function.comp_def, relabel, Cause.tokens_relabel] at tokens
  exact List.forall_mem_cons.2
    ⟨congrArg SyntaxError.position same, SqlReader.position_eq_of_relabel tokens⟩

end SqlReader
