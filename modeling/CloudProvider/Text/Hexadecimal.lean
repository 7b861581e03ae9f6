/-!
# Numbers in base 16

* `hexDigit`: one digit.
* `hexadecimal`: a number.
-/

namespace CloudProvider.Text

/-- The digit of a value below 16, in lower case. -/
def hexDigit (n : Nat) : Char :=
  if n < 10 then Char.ofNat (48 + n) else Char.ofNat (87 + n)

/-- A number in base 16, without leading zeros. -/
def hexadecimal (n : Nat) : List Char :=
  if n < 16 then [hexDigit n] else hexadecimal (n / 16) ++ [hexDigit (n % 16)]

end CloudProvider.Text
