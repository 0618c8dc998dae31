set_option autoImplicit false

namespace SqlReader

-- The offset is in bytes, modulo 2^32.
structure Position where
  offset : UInt32
  source : String
deriving DecidableEq

def Position.ofNat (source : String) (bytes : Nat) : Position := ⟨UInt32.ofNat bytes, source⟩

structure Span where
  start : Position
  stop : Position
deriving DecidableEq

end SqlReader
