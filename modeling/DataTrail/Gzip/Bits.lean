import DataTrail.Gzip.Fault
import DataTrail.Text.Utf8

/-! Reading bits from bytes, the lowest bit of each byte first. -/

namespace DataTrail.Gzip

/-- Bytes from which some bits have been taken. -/
structure Bits where
  bytes : Bytes
  /-- How many bits of the first byte have been taken, fewer than eight. -/
  taken : Nat := 0

namespace Bits

/-- How many bits there are. -/
def count (b : Bits) : Nat := 8 * b.bytes.length - b.taken

/-- Takes one bit. -/
def bit (b : Bits) : Except Fault (Bool × Bits) :=
  match b.bytes with
  | [] => .error .incomplete
  | byte :: rest =>
    let value := byte.toNat.testBit b.taken
    if b.taken < 7 then .ok (value, { b with taken := b.taken + 1 })
    else .ok (value, { bytes := rest, taken := 0 })

/-- Takes a number of `n` bits, the lowest first. -/
def number : Nat → Bits → Except Fault (Nat × Bits)
  | 0, b => .ok (0, b)
  | n + 1, b => do
    let (low, b) ← b.bit
    let (high, b) ← number n b
    return (low.toNat + 2 * high, b)

/-- Drops what is left of a byte that was begun. -/
def align (b : Bits) : Bits :=
  if b.taken = 0 then b else { bytes := b.bytes.drop 1 }

end Bits

end DataTrail.Gzip
