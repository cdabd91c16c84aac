/-!
# String literals

`quote` writes a text as a double quoted TypeScript string literal.

* the quote, the backslash, line feed, carriage return and tab have short escapes;
* every other control character and the line terminators U+2028 and U+2029 are written `\uXXXX`,
  four lower case hexadecimal digits;
* every other character stands for itself.
-/

namespace ProtoTypeScript.Text

/-- The characters of the Unicode category Cc. -/
def isControl (c : Char) : Bool :=
  c.toNat < 0x20 || (0x7F ≤ c.toNat && c.toNat ≤ 0x9F)

/-- The escape `\uXXXX` of a code below 65536. -/
def unicodeEscape (n : Nat) : List Char :=
  ['\\', 'u', Nat.digitChar (n / 4096 % 16), Nat.digitChar (n / 256 % 16),
    Nat.digitChar (n / 16 % 16), Nat.digitChar (n % 16)]

/-- One character as it stands between the quotes of a literal. -/
def quoteChar (c : Char) : List Char :=
  if c = '"' then ['\\', '"']
  else if c = '\\' then ['\\', '\\']
  else if c = '\n' then ['\\', 'n']
  else if c = '\r' then ['\\', 'r']
  else if c = '\t' then ['\\', 't']
  else if isControl c || c.toNat == 0x2028 || c.toNat == 0x2029 then unicodeEscape c.toNat
  else [c]

/-- The literal that denotes the given characters. -/
def quoteChars (cs : List Char) : List Char :=
  '"' :: cs.flatMap quoteChar ++ ['"']

/-- The literal that denotes the text. -/
def quote (s : String) : String :=
  String.ofList (quoteChars s.toList)

@[simp] theorem toList_quote (s : String) : (quote s).toList = quoteChars s.toList :=
  String.toList_ofList

end ProtoTypeScript.Text
