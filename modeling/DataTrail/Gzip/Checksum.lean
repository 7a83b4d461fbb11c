import DataTrail.Text.Utf8

/-! The checksum of compressed files: the cyclic redundancy check with the reflected polynomial
`0xEDB88320`. -/

namespace DataTrail.Gzip

/-- Divides by the polynomial, one bit at a time. -/
def shiftBits : Nat → UInt32 → UInt32
  | 0, crc => crc
  | n + 1, crc => shiftBits n (if crc &&& 1 = 1 then (crc >>> 1) ^^^ 0xEDB88320 else crc >>> 1)

/-- Takes in one byte. -/
def crcByte (crc : UInt32) (byte : UInt8) : UInt32 := shiftBits 8 (crc ^^^ byte.toUInt32)

/-- The checksum of bytes. -/
def crc32 (bytes : Bytes) : UInt32 := bytes.foldl crcByte 0xFFFFFFFF ^^^ 0xFFFFFFFF

end DataTrail.Gzip
