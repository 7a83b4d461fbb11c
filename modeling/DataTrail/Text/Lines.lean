import DataTrail.Text.Utf8

/-! Cutting bytes into lines. -/

namespace DataTrail.Text

/-- The byte that ends a line. -/
def lineEnd : UInt8 := 10

/-- Cuts bytes at line ends: the lines, and what follows the last line end. `before` holds the lines
before, last first, and `line` the bytes of this line, last first. -/
def cutLines (before : List Bytes) (line : Bytes) : Bytes → List Bytes × Bytes
  | [] => (before.reverse, line.reverse)
  | byte :: rest =>
    if byte = lineEnd then cutLines (line.reverse :: before) [] rest
    else cutLines before (byte :: line) rest

/-- The lines that end, without their ends, and what follows the last of them. -/
def endedLines (bytes : Bytes) : List Bytes × Bytes := cutLines [] [] bytes

/-- All lines, without their ends. The last one need not end. -/
def lines (bytes : Bytes) : List Bytes :=
  let (ended, rest) := endedLines bytes
  if rest.isEmpty then ended else ended ++ [rest]

/-- All lines with their ends. -/
def linesWithEnds (bytes : Bytes) : List Bytes :=
  let (ended, rest) := endedLines bytes
  let ended := ended.map (· ++ [lineEnd])
  if rest.isEmpty then ended else ended ++ [rest]

end DataTrail.Text
