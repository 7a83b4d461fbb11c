import DataTrail.Text.Printable

/-! Quoted text for messages: in double quotes, with everything escaped that a reader could not tell
apart or see. -/

namespace DataTrail.Text

/-- A character inside double quotes. Those that cannot be shown become a backslash, `u` and their
code point in hexadecimal between braces. -/
def quoteChar (c : Char) : String :=
  if c = '"' then "\\\""
  else if c = '\\' then "\\\\"
  else if c = '\n' then "\\n"
  else if c = '\r' then "\\r"
  else if c = '\t' then "\\t"
  else if c = '\x00' then "\\0"
  else if isPrintable c then String.singleton c
  else "\\u\x7b" ++ String.ofList (Nat.toDigits 16 c.toNat) ++ "\x7d"

/-- A text in double quotes. -/
def quote (text : String) : String :=
  "\"" ++ String.join (text.toList.map quoteChar) ++ "\""

end DataTrail.Text
