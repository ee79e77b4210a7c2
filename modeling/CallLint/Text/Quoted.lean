import CallLint.Unicode.Composition

/-!
# Quoted text

A text in double quotes, as it is shown in a message. Quotes, backslashes and what cannot be seen
are escaped: the common control characters by a letter, all others by their code point in
hexadecimal. Marks that extend the character before them count as unseen, and so does every space
but the plain one.
-/

namespace CallLint.Text

/-- The characters that cannot be seen, or only as part of others. -/
def unseenSet : CharSet :=
  (Unicode.Formula.union (.categories ["Cc", "Cf", "Co", "Cn", "Zl", "Zp", "Zs"])
    .graphemeExtend).set

/-- A character that is shown by its code point. -/
def isUnseen (c : Char) : Bool :=
  if c.toNat < 0x80 then c.toNat < 0x20 || c.toNat = 0x7F else unseenSet.contains c

/-- The text of a character between quotes. -/
def quoteChar (c : Char) : Text :=
  if c = '\x00' then ['\\', '0']
  else if c = '\t' then ['\\', 't']
  else if c = '\r' then ['\\', 'r']
  else if c = '\n' then ['\\', 'n']
  else if c = '"' || c = '\\' then ['\\', c]
  else if isUnseen c then ['\\', 'u', '\x7b'] ++ Nat.toDigits 16 c.toNat ++ ['\x7d']
  else [c]

/-- The text in quotes. -/
def quote (t : Text) : Text := '"' :: t.flatMap quoteChar ++ ['"']

end CallLint.Text
