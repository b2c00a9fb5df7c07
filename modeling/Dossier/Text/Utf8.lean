/-!
# UTF-8

`decodeUtf8` reads bytes as characters and names the first place where they are none. A byte that
could begin a character is faulted together with the bytes after it that could still belong to that
character, and an end in the middle of a character is a fault of its own.
-/

namespace Dossier.Text

/-- The place where bytes cease to be UTF-8. `length` counts the bytes that form no character; it
is `none` where the bytes end inside one. -/
structure Utf8Error where
  index : Nat
  length : Option Nat

/-- The wording of a fault in UTF-8 bytes. -/
def Utf8Error.message : Utf8Error → String
  | ⟨index, some length⟩ => s!"invalid utf-8 sequence of {length} bytes from index {index}"
  | ⟨index, none⟩ => s!"incomplete utf-8 byte sequence from index {index}"

/-- The last six bits of a byte that continues a character, of the bytes from `low` to `high`. -/
def continuation (low high : Nat) (b : UInt8) : Option Nat :=
  if low ≤ b.toNat && b.toNat ≤ high then some (b.toNat % 64) else none

/-- The character that begins with the byte `b`, and how many of the bytes after it it takes. An
error counts the bytes that form no character. -/
def decodeChar (b : UInt8) (rest : List UInt8) : Except (Option Nat) (Char × Nat) :=
  let n := b.toNat
  if n < 0x80 then .ok (Char.ofNat n, 0)
  else if 0xc2 ≤ n && n ≤ 0xdf then
    match rest with
    | [] => .error none
    | b₁ :: _ =>
      match continuation 0x80 0xbf b₁ with
      | none => .error (some 1)
      | some x₁ => .ok (Char.ofNat (n % 32 * 64 + x₁), 1)
  else if 0xe0 ≤ n && n ≤ 0xef then
    let low := if n == 0xe0 then 0xa0 else 0x80
    let high := if n == 0xed then 0x9f else 0xbf
    match rest with
    | [] => .error none
    | b₁ :: rest =>
      match continuation low high b₁, rest with
      | none, _ => .error (some 1)
      | some _, [] => .error none
      | some x₁, b₂ :: _ =>
        match continuation 0x80 0xbf b₂ with
        | none => .error (some 2)
        | some x₂ => .ok (Char.ofNat ((n % 16 * 64 + x₁) * 64 + x₂), 2)
  else if 0xf0 ≤ n && n ≤ 0xf4 then
    let low := if n == 0xf0 then 0x90 else 0x80
    let high := if n == 0xf4 then 0x8f else 0xbf
    match rest with
    | [] => .error none
    | b₁ :: rest =>
      match continuation low high b₁, rest with
      | none, _ => .error (some 1)
      | some _, [] => .error none
      | some x₁, b₂ :: rest =>
        match continuation 0x80 0xbf b₂, rest with
        | none, _ => .error (some 2)
        | some _, [] => .error none
        | some x₂, b₃ :: _ =>
          match continuation 0x80 0xbf b₃ with
          | none => .error (some 3)
          | some x₃ => .ok (Char.ofNat (((n % 8 * 64 + x₁) * 64 + x₂) * 64 + x₃), 3)
  else .error (some 1)

/-- The characters of the bytes from `index` on, after those of `done`, which are kept reversed. -/
def decodeAfter (done : List Char) (index : Nat) : List UInt8 → Except Utf8Error (List Char)
  | [] => .ok done.reverse
  | b :: rest =>
    match decodeChar b rest with
    | .error length => .error ⟨index, length⟩
    | .ok (c, taken) => decodeAfter (c :: done) (index + 1 + taken) (rest.drop taken)
termination_by bytes => bytes.length
decreasing_by simp only [List.length_drop, List.length_cons]; omega

/-- The text that the bytes encode. -/
def decodeUtf8 (bytes : List UInt8) : Except Utf8Error String :=
  (decodeAfter [] 0 bytes).map String.ofList

end Dossier.Text
