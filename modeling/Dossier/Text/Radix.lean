/-!
# Digits of any base up to sixteen
-/

namespace Dossier.Text

/-- The value of a decimal digit. -/
def digitValue (c : Char) : Nat := c.toNat - '0'.toNat

/-- The number that decimal digits write. -/
def ofDigits (cs : List Char) : Nat := cs.foldl (fun n c => 10 * n + digitValue c) 0

/-- The value of a hexadecimal digit. -/
def hexValue? (c : Char) : Option Nat :=
  if c.isDigit then some (digitValue c)
  else if 'a' ≤ c && c ≤ 'f' then some (c.toNat - 'a'.toNat + 10)
  else if 'A' ≤ c && c ≤ 'F' then some (c.toNat - 'A'.toNat + 10)
  else none

/-- The number that digits write in a base, of which there must be some. -/
def readDigits? (base : Nat) (cs : List Char) : Option Nat := do
  let values ← cs.mapM hexValue?
  if values.isEmpty || values.any (base ≤ ·) then none
  return values.foldl (fun n d => base * n + d) 0

/-- The character whose number hexadecimal digits write. -/
def hexChar? (digits : List Char) : Option Char := do
  let n ← readDigits? 16 digits
  if n < 0xd800 || (0xe000 ≤ n && n < 0x110000) then some (Char.ofNat n) else none

end Dossier.Text
