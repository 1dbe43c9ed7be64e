/-!
# Byte strings

Byte strings and the two fixed-width number formats that occur on the wire: four bytes most
significant first (frame lengths) and four bytes least significant first (floating-point scores).
-/

namespace StoreClient

/-- A byte string. -/
abbrev Bytes := List UInt8

namespace Bytes

/-- The number that the bytes spell, most significant byte first. -/
def toNatBigEndian (b : Bytes) : Nat := b.foldl (fun n x => 256 * n + x.toNat) 0

/-- The last four base-256 digits of `n`, most significant first. -/
def ofNatBigEndian (n : Nat) : Bytes :=
  [UInt8.ofNat (n / 0x1000000), UInt8.ofNat (n / 0x10000), UInt8.ofNat (n / 0x100), UInt8.ofNat n]

/-- The number that the bytes spell, least significant byte first. -/
def toNatLittleEndian (b : Bytes) : Nat := b.foldr (fun x n => x.toNat + 256 * n) 0

/-- The last four base-256 digits of `n`, least significant first. -/
def ofNatLittleEndian (n : Nat) : Bytes :=
  [UInt8.ofNat n, UInt8.ofNat (n / 0x100), UInt8.ofNat (n / 0x10000), UInt8.ofNat (n / 0x1000000)]

/-- A length on the wire takes four bytes. -/
@[simp] theorem length_ofNatBigEndian (n : Nat) : (ofNatBigEndian n).length = 4 := rfl

/-- A score on the wire takes four bytes. -/
@[simp] theorem length_ofNatLittleEndian (n : Nat) : (ofNatLittleEndian n).length = 4 := rfl

/-- Four big-endian digits are read back, whatever number below 2^32 they were written for. -/
theorem toNatBigEndian_ofNatBigEndian {n : Nat} (h : n < 0x100000000) :
    toNatBigEndian (ofNatBigEndian n) = n := by
  simp [toNatBigEndian, ofNatBigEndian]
  omega

/-- Four little-endian digits are read back, whatever number below 2^32 they were written for. -/
theorem toNatLittleEndian_ofNatLittleEndian {n : Nat} (h : n < 0x100000000) :
    toNatLittleEndian (ofNatLittleEndian n) = n := by
  simp [toNatLittleEndian, ofNatLittleEndian]
  omega

end Bytes

end StoreClient
