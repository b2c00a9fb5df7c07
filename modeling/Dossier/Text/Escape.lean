import Dossier.Text.Radix

/-!
# Backslash escapes

After a backslash a letter stands for a character, or announces a number of hexadecimal digits that
write the number of one. The letters of the first kind are for each format to choose.
-/

namespace Dossier.Text

/-- The number of hexadecimal digits after the letter of an escape. -/
def escapeWidth? : Char → Option Nat
  | 'x' => some 2
  | 'u' => some 4
  | 'U' => some 8
  | _ => none

/-- The character that an escape stands for, given what follows the backslash, and the length of
the escape without the backslash. -/
def escape? (letters : List (Char × Char)) : List Char → Option (Char × Nat)
  | [] => none
  | x :: xs =>
    match escapeWidth? x with
    | some width => do
      let digits := xs.take width
      if digits.length < width then none
      else return (← hexChar? digits, width + 1)
    | none => (letters.lookup x).map (·, 1)

end Dossier.Text
