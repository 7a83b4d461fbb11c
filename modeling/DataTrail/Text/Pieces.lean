/-! Cutting a text at a separator. `pieces` keeps the empty pieces that leading, trailing and
repeated separators leave, so joining the pieces with the separator gives the text back. -/

namespace DataTrail.Text

/-- The pieces of a list of characters between occurrences of `sep`; there is always at least
one. -/
def piecesOf (sep : Char) : List Char → List (List Char)
  | [] => [[]]
  | c :: cs =>
    if c = sep then [] :: piecesOf sep cs
    else
      match piecesOf sep cs with
      | [] => [[c]]
      | p :: ps => (c :: p) :: ps

/-- There is always a piece. -/
theorem piecesOf_ne_nil (sep : Char) (cs : List Char) : piecesOf sep cs ≠ [] := by
  cases cs with
  | nil => simp [piecesOf]
  | cons c cs =>
    simp only [piecesOf]
    split
    · simp
    · split <;> simp

/-- The pieces of a text between occurrences of `sep`. -/
def pieces (sep : Char) (text : String) : List String :=
  (piecesOf sep text.toList).map String.ofList

/-- Joins texts with `sep` between neighbours. -/
def joinWith (sep : String) : List String → String
  | [] => ""
  | [t] => t
  | t :: u :: ts => t ++ sep ++ joinWith sep (u :: ts)

/-- The text after the last occurrence of `sep`, or all of it if there is none. -/
def afterLast (sep : Char) (text : String) : String :=
  (pieces sep text).getLastD text

/-- The text before the last occurrence of `sep`, or nothing if there is none. -/
def beforeLast (sep : Char) (text : String) : String :=
  joinWith (String.singleton sep) (pieces sep text).dropLast

/-- The text before the first occurrence of `sep`, or all of it if there is none. -/
def beforeFirst (sep : Char) (text : String) : String :=
  (pieces sep text).headD text

end DataTrail.Text
