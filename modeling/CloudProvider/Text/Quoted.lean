import CloudProvider.Text.Hexadecimal
import CloudProvider.Text.Printable

/-!
# Texts quoted in messages

* `quoted`: a text between double quotes, with all that would not show written as an escape.
-/

namespace CloudProvider.Text

/-- A character within quotes. The usual control characters have escapes of one letter; others that
do not show by themselves are written by their code point. -/
def quotedChar (c : Char) : List Char :=
  if c = '\u0000' then ['\\', '0']
  else if c = '\t' then ['\\', 't']
  else if c = '\r' then ['\\', 'r']
  else if c = '\n' then ['\\', 'n']
  else if c = '"' then ['\\', '"']
  else if c = '\\' then ['\\', '\\']
  else if extendsGrapheme c || !isPrintable c then
    ['\\', 'u', '\x7b'] ++ hexadecimal c.toNat ++ ['\x7d']
  else [c]

/-- **A text as messages quote it.** -/
def quoted (s : String) : String :=
  String.ofList ('"' :: s.toList.flatMap quotedChar ++ ['"'])

end CloudProvider.Text
