import LinearProgramming.Text.Visible

/-!
# Quoted bytes

File names are bytes, which mostly are text in UTF-8. A quoted name shows its characters
between double quotes. Quotes and backslashes in it are escaped by a backslash, so are
characters that do not show by themselves, and bytes that belong to no character are
written in hexadecimal.
-/

namespace LinearProgramming.Text

/-- The digits of a number in hexadecimal. -/
def hexDigits (n : Nat) : List Char := Nat.toDigits 16 n

/-- The character at the start of some bytes, and how many of them it takes. -/
def firstChar? (bytes : List UInt8) : Option (Char × Nat) :=
  [1, 2, 3, 4].findSome? fun size =>
    match String.fromUTF8? ⟨(bytes.take size).toArray⟩ with
    | some text => match text.toList with
      | [c] => if size ≤ bytes.length then some (c, size) else none
      | _ => none
    | none => none

/-- The characters of a text in UTF-8, and the bytes in it that belong to none. The given
count of bytes is passed over first. -/
def scan : Nat → List UInt8 → List (Char ⊕ UInt8)
  | _, [] => []
  | skip + 1, _ :: rest => scan skip rest
  | 0, byte :: rest =>
    match firstChar? (byte :: rest) with
    | some (c, size) => .inl c :: scan (size - 1) rest
    | none => .inr byte :: scan 0 rest

/-- How a character is written between quotes. -/
def quoteChar (c : Char) : List Char :=
  if c = '"' ∨ c = '\\' then ['\\', c]
  else if c = '\n' then ['\\', 'n']
  else if c = '\t' then ['\\', 't']
  else if c = '\r' then ['\\', 'r']
  else if c.toNat = 0 then ['\\', '0']
  else if isVisible c then [c]
  else ['\\', 'u', '\x7b'] ++ hexDigits c.toNat ++ ['\x7d']

/-- How a byte that belongs to no character is written between quotes. -/
def quoteByte (b : UInt8) : List Char :=
  ['\\', 'x'] ++ (hexDigits (b.toNat / 16) ++ hexDigits (b.toNat % 16)).map Char.toUpper

/-- Bytes as a text between double quotes. -/
def quoted (bytes : List UInt8) : String :=
  let inner := (scan 0 bytes).flatMap fun
    | .inl c => quoteChar c
    | .inr b => quoteByte b
  String.ofList (['"'] ++ inner ++ ['"'])

end LinearProgramming.Text
