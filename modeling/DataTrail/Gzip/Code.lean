import DataTrail.Gzip.Bits

/-! Prefix codes. A code is given by the length of each symbol's word; shorter words come first,
words of one length follow the order of their symbols. -/

namespace DataTrail.Gzip

/-- A code as a tree: each bit goes down one level. -/
inductive Code where
  | unused
  | symbol (value : Nat)
  | branch (zero one : Code)
deriving Inhabited

namespace Code

/-- The greatest length of a word. -/
def maxLength : Nat := 15

/-- The code of symbols with words that start with the `depth` bits that lead to it. The symbols
come with their lengths, in order; what does not fit is given back. -/
def fill : Nat → Nat → List (Nat × Nat) → Code × List (Nat × Nat)
  | _, _, [] => (.unused, [])
  | 0, depth, (length, value) :: rest =>
    if length = depth then (.symbol value, rest) else (.unused, (length, value) :: rest)
  | levels + 1, depth, (length, value) :: rest =>
    if length = depth then (.symbol value, rest)
    else
      let (zero, rest) := fill levels (depth + 1) ((length, value) :: rest)
      let (one, rest) := fill levels (depth + 1) rest
      (.branch zero one, rest)

/-- The symbols that have a word, with its length, shorter words first. -/
def used (lengths : List Nat) : List (Nat × Nat) :=
  (lengths.zipIdx.filter fun (length, _) => length ≠ 0).mergeSort fun a b => decide (a.1 ≤ b.1)

/-- How much of all words of the greatest length the words of the code take up. -/
def weight (lengths : List Nat) : Nat :=
  (lengths.filter (· ≠ 0)).foldl (fun total length => total + Nat.pow 2 (maxLength - length)) 0

/-- Whether each sequence of bits starts with just one word. -/
def isComplete (lengths : List Nat) : Bool := weight lengths = Nat.pow 2 maxLength

/-- The code with the given lengths. -/
def ofLengths (lengths : List Nat) : Code :=
  match (fill maxLength 0 (used lengths)).1 with
  | .unused => .branch .unused .unused
  | code => code

/-- Whether no symbol has a word, or just one, of a single bit. -/
def isSmall (lengths : List Nat) : Bool :=
  match used lengths with
  | [] => true
  | [(length, _)] => length = 1
  | _ => false

/-- The code with the given lengths, which must be complete or small. -/
def sparse (lengths : List Nat) : Except Fault Code :=
  if isComplete lengths || isSmall lengths then .ok (ofLengths lengths) else .error .corrupt

/-- The code with the given lengths, which must be complete. -/
def complete (lengths : List Nat) : Except Fault Code :=
  if isComplete lengths then .ok (ofLengths lengths) else .error .corrupt

/-- Takes one word. -/
def decode : Code → Bits → Except Fault (Nat × Bits)
  | .unused, _ => .error .corrupt
  | .symbol value, bits => .ok (value, bits)
  | .branch zero one, bits => do
    let (bit, bits) ← bits.bit
    if bit then one.decode bits else zero.decode bits

end Code

end DataTrail.Gzip
