/-!
Quoted text: how a text is shown inside double quotes.

Quotes and backslashes are escaped, the common control characters have short escapes, and every
other control character is written by its code in hexadecimal.
-/

namespace RadioInterrupt.Text

def isControl (c : Char) : Bool :=
  c.toNat < 32 || c.toNat = 127

def escape (c : Char) : String :=
  if c = '"' then "\\\""
  else if c = '\\' then "\\\\"
  else if c = '\n' then "\\n"
  else if c = '\t' then "\\t"
  else if c = '\r' then "\\r"
  else if c = Char.ofNat 0 then "\\0"
  else if isControl c then "\\u\x7b" ++ String.ofList (Nat.toDigits 16 c.toNat) ++ "\x7d"
  else String.singleton c

def quoted (text : String) : String :=
  "\"" ++ String.join (text.toList.map escape) ++ "\""

end RadioInterrupt.Text
