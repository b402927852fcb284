import Warrant.Unicode.Category
import Warrant.Unicode.Property

/-! Strings between double quotes.
A character that would not show as itself is written as an escape: the quote and the backslash,
four control characters by their letters, and by its number whatever is not printable or would
attach itself to the character before it. -/

namespace Warrant.Text

/-- The value of a digit in base sixteen, in small letters. -/
def hexDigit (n : Nat) : Char := "0123456789abcdef".toList[n]?.getD '0'

/-- Two digits to a byte. -/
def hex (bytes : List UInt8) : String :=
  .ofList (bytes.flatMap fun b => [hexDigit (b.toNat / 16), hexDigit (b.toNat % 16)])

/-- Stands alone and has a shape or is the plain space. -/
def isPrintable (c : Char) : Bool :=
  let category := Unicode.Category.of c
  c == ' ' || !(category.isOther || category.isSeparator)

/-- What a character is written as between quotes. -/
def escape (c : Char) : List Char :=
  match c with
  | '\x00' => ['\\', '0']
  | '\t' => ['\\', 't']
  | '\r' => ['\\', 'r']
  | '\n' => ['\\', 'n']
  | '\\' | '"' => ['\\', c]
  | c =>
    if Unicode.Property.graphemeExtend.has c || !isPrintable c then
      ['\\', 'u', '\x7b'] ++ Nat.toDigits 16 c.toNat ++ ['\x7d']
    else [c]

def quote (s : String) : String := .ofList ('"' :: s.toList.flatMap escape ++ ['"'])

end Warrant.Text
