/-
  StreamCompute.Text.Quoted

  Texts between double quotes and characters between single ones, with what is
  awkward escaped. The quote in use and the backslash get a backslash; tab,
  newline, carriage return and NUL have a letter or digit of their own; any
  other character that does not show is written as its code point in
  hexadecimal between braces.
-/
import StreamCompute.Text.Hidden

namespace StreamCompute.Text

/-- The written form of a character between quotes of the given kind. -/
def escapedIn (quote c : Char) : String :=
  if c = quote || c = '\\' then "\\" ++ String.singleton c
  else if c = '\t' then "\\t"
  else if c = '\n' then "\\n"
  else if c = '\r' then "\\r"
  else if c.toNat = 0 then "\\0"
  else if isHidden c then "\\u\x7b" ++ String.ofList (Nat.toDigits 16 c.toNat) ++ "\x7d"
  else String.singleton c

def quoted (s : String) : String :=
  "\"" ++ String.join (s.toList.map (escapedIn '"')) ++ "\""

def quotedChar (c : Char) : String :=
  "'" ++ escapedIn '\'' c ++ "'"

end StreamCompute.Text
