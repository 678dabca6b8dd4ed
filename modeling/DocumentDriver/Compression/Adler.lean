/-
This file computes the checksum at the end of a zlib stream: two sums modulo 65521, one of the
bytes and one of the first sum after each byte.
-/

namespace DocumentDriver.Adler

/-- The largest prime below `2 ^ 16`. -/
def modulus : Nat := 65521

/-- The checksum of a byte string. -/
def checksum (bytes : ByteArray) : Nat :=
  let sums := bytes.foldl
    (fun (sums : Nat × Nat) byte =>
      let low := (sums.1 + byte.toNat) % modulus
      (low, (sums.2 + low) % modulus))
    (1, 0)
  sums.2 * 65536 + sums.1

end DocumentDriver.Adler
