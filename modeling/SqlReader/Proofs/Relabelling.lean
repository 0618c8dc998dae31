import SqlReader.Statement
import SqlReader.SyntaxError

set_option autoImplicit false

namespace SqlReader

structure Relabelling where
  position : Position → Position
  value : String → String

def Token.relabel (m : Relabelling) (t : Token) : Token :=
  ⟨t.kind, m.value t.value, ⟨m.position t.span.start, m.position t.span.stop⟩⟩

def CreateTable.relabel (m : Relabelling) (s : CreateTable) : CreateTable :=
  ⟨m.position s.start, s.table.relabel m, s.names.map (Token.relabel m),
    s.types.map (Token.relabel m)⟩

def Insert.relabel (m : Relabelling) (s : Insert) : Insert :=
  ⟨m.position s.start, s.table.relabel m, s.names.map (Token.relabel m),
    s.values.map (Token.relabel m)⟩

def Select.relabel (m : Relabelling) (s : Select) : Select :=
  ⟨m.position s.start, s.columns.map (Token.relabel m), s.table.relabel m⟩

def Statement.relabel (m : Relabelling) : Statement → Statement
  | .createTable s => .createTable (s.relabel m)
  | .insert s => .insert (s.relabel m)
  | .select s => .select (s.relabel m)

def Cause.relabel (m : Relabelling) : Cause → Cause
  | .unexpected expected found => .unexpected expected (found.relabel m)
  | .unknownType found => .unknownType (found.relabel m)
  | .trailing found => .trailing (found.relabel m)
  | cause => cause

def SyntaxError.relabel (m : Relabelling) (e : SyntaxError) : SyntaxError :=
  ⟨e.cause.relabel m, m.position e.position⟩

def relabelResult {α : Type} (m : Relabelling) (change : α → α) :
    Except SyntaxError α → Except SyntaxError α
  | .ok a => .ok (change a)
  | .error e => .error (e.relabel m)

theorem relabelResult_eq_ok {α : Type} {m : Relabelling} {change : α → α}
    {r : Except SyntaxError α} {a : α} (h : relabelResult m change r = .ok a) :
    ∃ b, r = .ok b ∧ change b = a := by
  cases r with
  | error e => cases h
  | ok b => exact ⟨b, rfl, Except.ok.inj h⟩

variable (m : Relabelling)

@[simp] theorem Token.relabel_kind (t : Token) : (t.relabel m).kind = t.kind := rfl
@[simp] theorem Token.relabel_isEnd (t : Token) : (t.relabel m).isEnd = t.isEnd := rfl
@[simp] theorem Token.relabel_start (t : Token) : (t.relabel m).start = m.position t.start := rfl

theorem Insert.isPositional_relabel (i : Insert) :
    (i.relabel m).isPositional = i.isPositional := List.isEmpty_map

def Relabelling.unplaced : Relabelling := ⟨fun _ => ⟨0, ""⟩, fun value => value⟩

@[simp] theorem Token.unplaced_value (t : Token) : (t.relabel .unplaced).value = t.value := rfl

def Relabelling.raise (k : Nat) : Relabelling :=
  ⟨fun p => .ofNat p.source (p.offset.toNat + k), fun value => value⟩

theorem Relabelling.raise_ofNat (k : Nat) (name : String) (n : Nat) :
    (raise k).position (.ofNat name n) = .ofNat name (n + k) := by
  simp [raise, Position.ofNat, UInt32.ofNat_add]

end SqlReader
