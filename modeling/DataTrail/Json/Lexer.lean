import DataTrail.Json.Literal

/-! Cutting JSON text into tokens. -/

namespace DataTrail.Json

/-- The characters that may stand between tokens. -/
def isBlank (c : Char) : Bool := c = ' ' || c = '\n' || c = '\r' || c = '\t'

/-- One digit or more, and what follows them. -/
def digits? (cs : List Char) : Option (List Char × List Char) :=
  match cs.takeWhile Char.isDigit with
  | [] => none
  | d :: ds => some (d :: ds, cs.dropWhile Char.isDigit)

/-- The whole part of a number, which has no leading zero, and what follows it. -/
def wholePart? : List Char → Option (List Char × List Char)
  | '0' :: rest => some (['0'], rest)
  | cs => digits? cs

/-- A point and digits, if there is a point, and what follows them. -/
def fractionPart? : List Char → Option (List Char × List Char)
  | '.' :: rest => (digits? rest).map fun (ds, rest) => ('.' :: ds, rest)
  | cs => some ([], cs)

/-- An exponent, if there is one, and what follows it. -/
def exponentPart? : List Char → Option (List Char × List Char)
  | e :: rest =>
    if e = 'e' ∨ e = 'E' then
      match rest with
      | s :: rest' =>
        if s = '+' ∨ s = '-' then (digits? rest').map fun (ds, r) => (e :: s :: ds, r)
        else (digits? rest).map fun (ds, r) => (e :: ds, r)
      | [] => none
    else some ([], e :: rest)
  | [] => some ([], [])

/-- A number without sign, and what follows it. -/
def unsigned? (cs : List Char) : Option (List Char × List Char) := do
  let (whole, cs) ← wholePart? cs
  let (fraction, cs) ← fractionPart? cs
  let (exponent, cs) ← exponentPart? cs
  return (whole ++ fraction ++ exponent, cs)

/-- What follows `word`, if the text starts with it. -/
def word? (word : List Char) (cs : List Char) : Option (List Char) :=
  if word.isPrefixOf cs then some (cs.drop word.length) else none

/-- The token at the start of a text that does not start with a blank, and what follows it. -/
def Token.next? : List Char → Option (Token × List Char)
  | [] => none
  | c :: rest =>
    match c with
    | '[' => some (.openArray, rest)
    | ']' => some (.closeArray, rest)
    | '{' => some (.openObject, rest)
    | '}' => some (.closeObject, rest)
    | ',' => some (.comma, rest)
    | ':' => some (.colon, rest)
    | '"' => (literal? rest).map fun (l, rest) => (.string l, rest)
    | 'n' => (word? ['u', 'l', 'l'] rest).map fun rest => (.null, rest)
    | 't' => (word? ['r', 'u', 'e'] rest).map fun rest => (.bool true, rest)
    | 'f' => (word? ['a', 'l', 's', 'e'] rest).map fun rest => (.bool false, rest)
    | '-' => (unsigned? rest).map fun (ds, rest) => (.number (String.ofList ('-' :: ds)), rest)
    | c => (unsigned? (c :: rest)).map fun (ds, rest) => (.number (String.ofList ds), rest)

/-- A digit is taken at least. -/
theorem digits?_length {cs ds rest : List Char} (h : digits? cs = some (ds, rest)) :
    rest.length < cs.length := by
  have total := congrArg List.length (List.takeWhile_append_dropWhile (p := Char.isDigit) (l := cs))
  unfold digits? at h
  split at h
  · cases h
  · cases h
    simp_all
    omega

/-- A digit is taken at least. -/
theorem wholePart?_length {cs ds rest : List Char} (h : wholePart? cs = some (ds, rest)) :
    rest.length < cs.length := by
  unfold wholePart? at h
  split at h
  · cases h; simp
  · exact digits?_length h

/-- Nothing is added. -/
theorem fractionPart?_length {cs ds rest : List Char} (h : fractionPart? cs = some (ds, rest)) :
    rest.length ≤ cs.length := by
  unfold fractionPart? at h
  split at h
  · obtain ⟨⟨ds', r⟩, hd, he⟩ := Option.map_eq_some_iff.1 h
    cases he
    have := digits?_length hd
    simp; omega
  · cases h; exact Nat.le_refl _

/-- Nothing is added. -/
theorem exponentPart?_length {cs ds rest : List Char} (h : exponentPart? cs = some (ds, rest)) :
    rest.length ≤ cs.length := by
  unfold exponentPart? at h
  split at h
  · split at h
    · split at h
      · split at h
        all_goals
          obtain ⟨⟨ds', r⟩, hd, he⟩ := Option.map_eq_some_iff.1 h
          cases he
          have := digits?_length hd
          simp_all; omega
      · cases h
    · cases h; simp
  · cases h; simp

/-- A digit is taken at least. -/
theorem unsigned?_length {cs ds rest : List Char} (h : unsigned? cs = some (ds, rest)) :
    rest.length < cs.length := by
  simp only [unsigned?, Option.bind_eq_bind, Option.bind_eq_some_iff] at h
  obtain ⟨⟨w, r1⟩, h1, ⟨f, r2⟩, h2, ⟨e, r3⟩, h3, he⟩ := h
  cases he
  have := wholePart?_length h1
  have := fractionPart?_length h2
  have := exponentPart?_length h3
  simp only at *
  omega

/-- Nothing is added. -/
theorem word?_length {word cs rest : List Char} (h : word? word cs = some rest) :
    rest.length ≤ cs.length := by
  unfold word? at h
  split at h
  · cases h; simp
  · cases h

/-- A token has at least one character. -/
theorem Token.next?_length {cs rest : List Char} {t : Token} (h : Token.next? cs = some (t, rest)) :
    rest.length < cs.length := by
  have ofWord {word r : List Char} {t' : Token}
      (h : (word? word r).map (fun rest => (t', rest)) = some (t, rest)) :
      rest.length < r.length + 1 := by
    obtain ⟨r', hr, he⟩ := Option.map_eq_some_iff.1 h
    cases he
    exact Nat.lt_succ_of_le (word?_length hr)
  unfold Token.next? at h
  split at h
  · cases h
  · rename_i c r
    rw [List.length_cons]
    split at h
    case h_7 =>
      obtain ⟨⟨l, r'⟩, hl, he⟩ := Option.map_eq_some_iff.1 h
      cases he
      exact Nat.lt_succ_of_lt (literal?_length hl)
    case h_8 => exact ofWord h
    case h_9 => exact ofWord h
    case h_10 => exact ofWord h
    case h_11 =>
      obtain ⟨⟨ds, r'⟩, hd, he⟩ := Option.map_eq_some_iff.1 h
      cases he
      exact Nat.lt_succ_of_lt (unsigned?_length hd)
    case h_12 =>
      obtain ⟨⟨ds, r'⟩, hd, he⟩ := Option.map_eq_some_iff.1 h
      cases he
      exact unsigned?_length hd
    all_goals
      cases h
      exact Nat.lt_succ_self _

/-- The tokens of a text; `found` holds those before, last first. -/
def Token.scanFrom? (found : List Token) (cs : List Char) : Option (List Token) :=
  match cs with
  | [] => some found.reverse
  | c :: rest =>
    if isBlank c then scanFrom? found rest
    else
      match _h : Token.next? (c :: rest) with
      | none => none
      | some (t, rest') => scanFrom? (t :: found) rest'
termination_by cs.length
decreasing_by
  · simp
  · exact Token.next?_length ‹_›

/-- The tokens of a text, if it consists of tokens and blanks. -/
def Token.scan? (cs : List Char) : Option (List Token) := Token.scanFrom? [] cs

end DataTrail.Json
