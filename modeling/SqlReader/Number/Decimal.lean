import SqlReader.Number.Binary64

set_option autoImplicit false

namespace SqlReader

structure Decimal where
  negative : Bool
  digits : Nat
  exponent : Int
deriving DecidableEq

namespace Decimal

inductive Reading
  | nan
  | infinity (negative : Bool)
  | decimal (d : Decimal)
deriving DecidableEq

def digitValue (c : Char) : Nat := c.toNat - '0'.toNat

def digitsValue (digits : List Char) : Nat :=
  digits.foldl (fun n c => 10 * n + digitValue c) 0

def wholeNumber? (s : List Char) : Option Nat :=
  if s.isEmpty || !s.all Char.isDigit then none else some (digitsValue s)

def integer? : List Char → Option Int
  | '+' :: s => (wholeNumber? s).map Int.ofNat
  | '-' :: s => (wholeNumber? s).map fun n => -Int.ofNat n
  | s => (wholeNumber? s).map Int.ofNat

def exponent? : List Char → Option Int
  | [] => some 0
  | c :: s => if c = 'e' || c = 'E' then integer? s else none

def fraction : List Char → List Char × List Char
  | '.' :: s => (s.takeWhile Char.isDigit, s.dropWhile Char.isDigit)
  | s => ([], s)

def decimal? (negative : Bool) (s : List Char) : Option Decimal :=
  let whole := s.takeWhile Char.isDigit
  let behind := fraction (s.dropWhile Char.isDigit)
  let digits := whole ++ behind.1
  if digits.isEmpty then none
  else (exponent? behind.2).map fun exponent =>
    ⟨negative, digitsValue digits, exponent - behind.1.length⟩

def unsigned? (negative : Bool) (s : List Char) : Option Reading :=
  let word := s.map Char.toLower
  if word = ['i', 'n', 'f'] || word = ['i', 'n', 'f', 'i', 'n', 'i', 't', 'y'] then
    some (.infinity negative)
  else if word = ['n', 'a', 'n'] then some .nan
  else (decimal? negative s).map .decimal

def read? : List Char → Option Reading
  | '+' :: s => unsigned? false s
  | '-' :: s => unsigned? true s
  | s => unsigned? false s

-- From 10^310 on every number is infinite, and below 10^-330 every number is zero; what lies
-- between has an exponent small enough to be written out.
def toBinary64 (d : Decimal) : Binary64 :=
  let magnitude := d.exponent + (Nat.toDigits 10 d.digits).length
  if d.digits = 0 || magnitude < -330 then .zero d.negative
  else if 310 < magnitude then .infinity d.negative
  else .ofQuotient d.negative (d.digits * Nat.pow 10 d.exponent.toNat)
    (Nat.pow 10 (-d.exponent).toNat)

def Reading.toBinary64 : Reading → Binary64
  | nan => .nan
  | infinity negative => .infinity negative
  | decimal d => d.toBinary64

end Decimal
end SqlReader
