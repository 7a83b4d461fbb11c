import DataTrail.Gzip.Checksum
import DataTrail.Gzip.Inflate

/-! Compressed files: a header, compressed data, and a trailer with a checksum and the length. Only
the first part of a file that has several is decoded. -/

namespace DataTrail.Gzip

/-- The first `n` bytes and what follows them. -/
def takeBytes (n : Nat) (bytes : Bytes) : Except Fault (Bytes × Bytes) :=
  if bytes.length < n then .error .endedEarly else .ok (bytes.take n, bytes.drop n)

/-- The number that bytes spell, the lowest byte first. -/
def littleEndian (bytes : Bytes) : Nat := bytes.foldr (fun byte n => byte.toNat + 256 * n) 0

/-- The greatest size of a name or comment in a header. -/
def fieldLimit : Nat := 65535

/-- What follows a field that ends in a zero byte; `size` bytes of it came before. -/
def skipField (size : Nat) : Bytes → Except Fault Bytes
  | [] => .error .endedEarly
  | byte :: rest =>
    if byte = 0 then .ok rest
    else if size = fieldLimit then .error .fieldTooLong
    else skipField (size + 1) rest

/-- What follows the header. -/
def skipHeader (bytes : Bytes) : Except Fault Bytes := do
  let (start, rest) ← takeBytes 10 bytes
  let flags := start.getD 3 0
  if start.take 3 ≠ [0x1f, 0x8b, 8] ∨ flags &&& 0xE0 ≠ 0 then .error .badHeader
  let rest ← (do
    if flags &&& 4 = 0 then return rest
    let (size, rest) ← takeBytes 2 rest
    let (_, rest) ← takeBytes (littleEndian size) rest
    return rest : Except Fault Bytes)
  let rest ← if flags &&& 8 = 0 then .ok rest else skipField 0 rest
  let rest ← if flags &&& 16 = 0 then .ok rest else skipField 0 rest
  if flags &&& 2 = 0 then return rest
  let header := bytes.take (bytes.length - rest.length)
  let (check, rest) ← takeBytes 2 rest
  if littleEndian check = (crc32 header).toNat % 0x10000 then return rest else .error .mismatch

/-- What a file holds, as far as it could be decoded. -/
structure Decoded where
  content : Bytes
  fault : Option Fault := none

/-- The trailer must hold the checksum and the length of the content. -/
def checkTrailer (content : Bytes) (bytes : Bytes) : Except Fault Unit := do
  let (trailer, _) ← takeBytes 8 bytes
  if littleEndian (trailer.take 4) = (crc32 content).toNat ∧
      littleEndian (trailer.drop 4) = content.length % 0x100000000 then return ()
  else .error .mismatch

/-- Decoded bytes are handed over in pieces of this size, and bytes of the file are taken in such
pieces too. -/
def pieceSize : Nat := 32768

/-- How many of the decoded bytes are handed over before corrupt data is found: the full pieces, and
what the pieces of the file before the corrupt one gave. `start` bytes of the file came before
`body`. -/
def handedOver (start : Nat) (body : Bytes) (s : Inflation) : Nat :=
  let taken := body.length - s.bits.bytes.length + (if s.bits.taken = 0 then 0 else 1)
  let earlier := (start + taken - 1) / pieceSize * pieceSize - start
  let full := (s.output.size - 1) / pieceSize * pieceSize
  if earlier = 0 then full else max full (inflate (body.take earlier)).state.output.size

/-- Decodes a file. -/
def decode (bytes : Bytes) : Decoded :=
  match skipHeader bytes with
  | .error fault => { content := [], fault := some fault }
  | .ok body =>
    let done := inflate body
    let content := done.state.output.toList
    match done.fault with
    | some .corrupt =>
      { content := content.take (handedOver (bytes.length - body.length) body done.state)
        fault := some .corrupt }
    | some fault => { content, fault := some fault }
    | none =>
      match checkTrailer content done.state.bits.align.bytes with
      | .error fault => { content, fault := some fault }
      | .ok () => { content }

end DataTrail.Gzip
