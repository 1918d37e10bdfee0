/-!
Integers of 64 bits, signed or unsigned: the range that data formats keep exactly.
-/

namespace CrdCompiler

def int64OfInt? (value : Int) : Option Int64 :=
  if -9223372036854775808 ≤ value ∧ value < 9223372036854775808 then some (.ofInt value) else none

/-- An integer that a signed or an unsigned 64-bit word holds. -/
structure Integer64 where
  value : Int
  fits : -9223372036854775808 ≤ value ∧ value < 18446744073709551616
deriving DecidableEq, Repr

namespace Integer64

def ofInt? (value : Int) : Option Integer64 :=
  if fits : -9223372036854775808 ≤ value ∧ value < 18446744073709551616 then some ⟨value, fits⟩
  else none

def ofInt64 (word : Int64) : Integer64 :=
  ⟨word.toInt, ⟨word.le_toInt, Int.lt_trans word.toInt_lt (by decide)⟩⟩

def ofUInt64 (word : UInt64) : Integer64 :=
  ⟨word.toNat, ⟨by omega, by have := word.toNat_lt; omega⟩⟩

def toInt64? (number : Integer64) : Option Int64 :=
  int64OfInt? number.value

def toUInt64? (number : Integer64) : Option UInt64 :=
  if 0 ≤ number.value then some (.ofNat number.value.toNat) else none

end Integer64

end CrdCompiler
