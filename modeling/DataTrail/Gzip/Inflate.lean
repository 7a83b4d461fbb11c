import DataTrail.Gzip.Code

/-! Decoding compressed data, block by block. What was decoded before a fault is kept. -/

namespace DataTrail.Gzip

/-- What has been decoded, and the data that follows. -/
structure Inflation where
  output : Array UInt8 := #[]
  bits : Bits

/-- A step of decoding: it goes on, or ends with a fault. Either way it keeps what was decoded. -/
structure Progress where
  state : Inflation
  fault : Option Fault := none

/-- The step that ends with a fault. -/
def Inflation.fail (s : Inflation) (fault : Fault) : Progress := { state := s, fault := some fault }

/-- Repeats `length` bytes from `distance` bytes back. Before the start there are zeros. -/
def repeatBytes (output : Array UInt8) (distance : Nat) : Nat → Array UInt8
  | 0 => output
  | length + 1 =>
    let byte := if distance ≤ output.size then output.getD (output.size - distance) 0 else 0
    repeatBytes (output.push byte) distance length

/-- The least length of a repetition with each symbol from 257 on, and its number of extra bits. -/
def lengthBases : List (Nat × Nat) :=
  [(3, 0), (4, 0), (5, 0), (6, 0), (7, 0), (8, 0), (9, 0), (10, 0), (11, 1), (13, 1), (15, 1),
   (17, 1), (19, 2), (23, 2), (27, 2), (31, 2), (35, 3), (43, 3), (51, 3), (59, 3), (67, 4),
   (83, 4), (99, 4), (115, 4), (131, 5), (163, 5), (195, 5), (227, 5), (258, 0)]

/-- The least distance with each symbol, and its number of extra bits. -/
def distanceBases : List (Nat × Nat) :=
  [(1, 0), (2, 0), (3, 0), (4, 0), (5, 1), (7, 1), (9, 2), (13, 2), (17, 3), (25, 3), (33, 4),
   (49, 4), (65, 5), (97, 5), (129, 6), (193, 6), (257, 7), (385, 7), (513, 8), (769, 8),
   (1025, 9), (1537, 9), (2049, 10), (3073, 10), (4097, 11), (6145, 11), (8193, 12), (12289, 12),
   (16385, 13), (24577, 13)]

/-- A number that a symbol gives together with extra bits. -/
def baseNumber (bases : List (Nat × Nat)) (symbol : Nat) (bits : Bits) :
    Except Fault (Nat × Bits) :=
  match bases[symbol]? with
  | none => .error .corrupt
  | some (base, extra) => do
    let (more, bits) ← bits.number extra
    return (base + more, bits)

/-- The symbol that ends a block. -/
def endOfBlock : Nat := 256

/-- One word of a block: a byte, a repetition, or the end. -/
inductive Word where
  | byte (value : UInt8)
  | repetition (length distance : Nat)
  | ending

/-- Takes one word. -/
def word (literals distances : Code) (bits : Bits) : Except Fault (Word × Bits) := do
  let (symbol, bits) ← literals.decode bits
  if symbol < endOfBlock then return (.byte symbol.toUInt8, bits)
  else if symbol = endOfBlock then return (.ending, bits)
  else
    let (length, bits) ← baseNumber lengthBases (symbol - endOfBlock - 1) bits
    let (symbol, bits) ← distances.decode bits
    let (distance, bits) ← baseNumber distanceBases symbol bits
    return (.repetition length distance, bits)

/-- Decodes words up to the end of the block. Each word takes at least one bit, so `limit` may be
the number of bits. -/
def words (literals distances : Code) : Nat → Inflation → Progress
  | 0, s => s.fail .incomplete
  | limit + 1, s =>
    match word literals distances s.bits with
    | .error fault => s.fail fault
    | .ok (.ending, bits) => { state := { s with bits } }
    | .ok (.byte value, bits) =>
      words literals distances limit { output := s.output.push value, bits }
    | .ok (.repetition length distance, bits) =>
      words literals distances limit { output := repeatBytes s.output distance length, bits }

/-- Takes `n` bytes as they are. -/
def plainBytes (s : Inflation) (n : Nat) : Progress :=
  let taken := s.bits.bytes.take n
  let state : Inflation :=
    { output := taken.foldl Array.push s.output, bits := { bytes := s.bits.bytes.drop n } }
  if taken.length < n then state.fail .incomplete else { state }

/-- A block of bytes as they are. -/
def plainBlock (s : Inflation) : Progress :=
  let header : Except Fault (Nat × Bits) := do
    let (size, bits) ← s.bits.align.number 16
    let (check, bits) ← bits.number 16
    if size + check = 0xFFFF then return (size, bits) else .error .corrupt
  match header with
  | .error fault => s.fail fault
  | .ok (size, bits) => plainBytes { s with bits } size

/-- The code for literals and lengths that needs no description. -/
def fixedLiterals : Code :=
  .ofLengths (List.replicate 144 8 ++ List.replicate 112 9 ++ List.replicate 24 7 ++
    List.replicate 8 8)

/-- The code for distances that needs no description. -/
def fixedDistances : Code := .ofLengths (List.replicate 32 5)

/-- The symbols of the code for code lengths, in the order in which their lengths are given. -/
def lengthOrder : List Nat := [16, 17, 18, 0, 8, 7, 9, 6, 10, 5, 11, 4, 12, 3, 13, 2, 14, 1, 15]

/-- Takes `n` numbers of three bits. -/
def smallNumbers : Nat → Bits → Except Fault (List Nat × Bits)
  | 0, bits => .ok ([], bits)
  | n + 1, bits => do
    let (first, bits) ← bits.number 3
    let (rest, bits) ← smallNumbers n bits
    return (first :: rest, bits)

/-- Takes code lengths until there are `total`. The numbers from 16 on repeat the length before, or
zero. Each step takes at least one bit, so `limit` may be the number of bits. `read` holds the
lengths before, last first. -/
def codeLengths (code : Code) (total : Nat) :
    Nat → List Nat → Bits → Except Fault (List Nat × Bits)
  | 0, _, _ => .error .incomplete
  | limit + 1, read, bits =>
    if read.length = total then .ok (read.reverse, bits)
    else if total < read.length then .error .corrupt
    else do
      let (symbol, bits) ← code.decode bits
      if symbol < 16 then codeLengths code total limit (symbol :: read) bits
      else if symbol = 16 then
        match read with
        | [] => .error .corrupt
        | last :: _ =>
          let (more, bits) ← bits.number 2
          codeLengths code total limit (List.replicate (3 + more) last ++ read) bits
      else if symbol = 17 then
        let (more, bits) ← bits.number 3
        codeLengths code total limit (List.replicate (3 + more) 0 ++ read) bits
      else
        let (more, bits) ← bits.number 7
        codeLengths code total limit (List.replicate (11 + more) 0 ++ read) bits

/-- The codes that a block describes: for literals and lengths, and for distances. -/
def describedCodes (bits : Bits) : Except Fault ((Code × Code) × Bits) := do
  let (literals, bits) ← bits.number 5
  let (distances, bits) ← bits.number 5
  let (sizes, bits) ← bits.number 4
  let literals := literals + 257
  let distances := distances + 1
  if literals > 286 ∨ distances > 30 then .error .corrupt
  let (given, bits) ← smallNumbers (sizes + 4) bits
  let lengths := (List.range 19).map fun symbol => ((lengthOrder.zip given).lookup symbol).getD 0
  let code ← Code.complete lengths
  let (lengths, bits) ← codeLengths code (literals + distances) (bits.count + 1) [] bits
  return ((← Code.sparse (lengths.take literals), ← Code.sparse (lengths.drop literals)), bits)

/-- A block with codes of its own. -/
def describedBlock (s : Inflation) : Progress :=
  match describedCodes s.bits with
  | .error fault => s.fail fault
  | .ok ((literals, distances), bits) => words literals distances bits.count { s with bits }

/-- Decodes blocks up to the last one. Each block takes at least three bits, so `limit` may be the
number of bits. -/
def blocks : Nat → Inflation → Progress
  | 0, s => s.fail .incomplete
  | limit + 1, s =>
    match (do
      let (last, bits) ← s.bits.bit
      let (kind, bits) ← bits.number 2
      return (last, kind, bits) : Except Fault (Bool × Nat × Bits)) with
    | .error fault => s.fail fault
    | .ok (last, kind, bits) =>
      let s := { s with bits }
      let done :=
        if kind = 0 then plainBlock s
        else if kind = 1 then words fixedLiterals fixedDistances bits.count s
        else if kind = 2 then describedBlock s
        else s.fail .corrupt
      match done.fault with
      | some _ => done
      | none => if last then done else blocks limit done.state

/-- Decodes compressed data from its start. -/
def inflate (bytes : Bytes) : Progress :=
  let bits : Bits := { bytes }
  blocks (bits.count + 1) { bits }

end DataTrail.Gzip
