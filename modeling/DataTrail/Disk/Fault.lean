/-! What can go wrong with a file, and how it is told. -/

namespace DataTrail

/-- Why a file could not be read or written. -/
inductive Fault where
  /-- Nothing is there. -/
  | notFound
  /-- A directory stands where a file is needed. -/
  | isDirectory
  /-- A file stands where a directory is needed. -/
  | notDirectory
  /-- Something is there already. -/
  | alreadyExists
  /-- A name is longer than 255 bytes, or a path longer than the system takes. -/
  | nameTooLong
  /-- A path holds a character with code 0. -/
  | nulInPath
  /-- The content is no UTF-8 text. -/
  | notText
  /-- Anything else the system says. -/
  | other (reason : String)
deriving DecidableEq, Repr

/-- The fault as the system words it. -/
def Fault.message : Fault → String
  | .notFound => "No such file or directory (os error 2)"
  | .isDirectory => "Is a directory (os error 21)"
  | .notDirectory => "Not a directory (os error 20)"
  | .alreadyExists => "File exists (os error 17)"
  | .nameTooLong => "File name too long (os error 36)"
  | .nulInPath => "file name contained an unexpected NUL byte"
  | .notText => "stream did not contain valid UTF-8"
  | .other reason => reason

end DataTrail
