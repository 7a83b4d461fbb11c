/-! What can be wrong with compressed data. -/

namespace DataTrail.Gzip

/-- Why compressed data could not be decoded. -/
inductive Fault where
  /-- The data ends within the header or the trailer. -/
  | endedEarly
  /-- The header is none of this format. -/
  | badHeader
  /-- A name or comment in the header is too long. -/
  | fieldTooLong
  /-- A checksum or the length differs. -/
  | mismatch
  /-- The data ends within the compressed part. -/
  | incomplete
  /-- The compressed part breaks its rules. -/
  | corrupt
deriving DecidableEq, Repr

/-- What is wrong, in words. -/
def Fault.message : Fault → String
  | .endedEarly => "unexpected end of file"
  | .badHeader => "invalid gzip header"
  | .fieldTooLong => "gzip header field too long"
  | .mismatch => "corrupt gzip stream does not have a matching checksum"
  | .incomplete => "incomplete deflate stream"
  | .corrupt => "corrupt deflate stream"

end DataTrail.Gzip
