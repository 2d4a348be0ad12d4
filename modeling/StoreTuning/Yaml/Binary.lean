import StoreTuning.Text.Quoted
import StoreTuning.Value.Basic

/-!
# YAML: bytes

Bytes are spelt in base 64: four digits for three bytes, and signs of equality for digits that are
missing at the end. Characters that are no digits are passed over.
-/

namespace StoreTuning.Yaml

/-- The digits of base 64 in their order. -/
def base64Digits : List Char :=
  "ABCDEFGHIJKLMNOPQRSTUVWXYZabcdefghijklmnopqrstuvwxyz0123456789+/".toList

/-- The value of a digit of base 64. -/
def base64Digit? (c : Char) : Option Nat :=
  base64Digits.findIdx? (· == c)

/-- The digits up to the end or to the padding that completes a group of four. `count` digits of the
group and `padding` signs of equality in a row have gone before. Nothing may be left of a group that
is not completed. -/
def groupedDigits? : Nat → Nat → List Char → Option (List Nat)
  | count, _, [] => if count = 0 then some [] else none
  | count, padding, '=' :: cs =>
    if 2 ≤ count && 4 ≤ count + padding + 1 then some [] else groupedDigits? count (padding + 1) cs
  | count, padding, c :: cs =>
    match base64Digit? c with
    | some d => (groupedDigits? ((count + 1) % 4) 0 cs).map (d :: ·)
    | none => groupedDigits? count padding cs

/-- The bytes of digits of base 64. The last two or three digits are one or two bytes. -/
def bytesOfDigits : List Nat → List Nat
  | a :: b :: c :: d :: ds =>
    (4 * a + b / 16) :: (16 * (b % 16) + c / 4) :: (64 * (c % 4) + d) :: bytesOfDigits ds
  | [a, b, c] => [4 * a + b / 16, 16 * (b % 16) + c / 4]
  | [a, b] => [4 * a + b / 16]
  | _ => []

/-- The bytes that an ASCII text spells. -/
def bytes? (text : String) : Option (List Nat) :=
  let cs := text.toList
  if cs.all (·.toNat < 128) then (groupedDigits? 0 0 cs).map bytesOfDigits else none

/-- A byte as it stands inside quotes of a given mark: as its ASCII character where that is
shown as it is. -/
def escapeByte (mark : Char) (n : Nat) : List Char :=
  if n < 128 then Text.escapeChar mark (Char.ofNat n) else Text.escapeCode n

/-- Bytes as a value that no setting is read as. -/
def foreignBytes (bytes : List Nat) : Foreign :=
  let mark := Text.quoteMark (bytes.map Char.ofNat)
  let shown := String.ofList ('b' :: mark :: bytes.flatMap (escapeByte mark) ++ [mark])
  { quoted := shown, text := shown, isEmpty := bytes.isEmpty }

example : bytes? "aGV5\nIQ==" = some [0x68, 0x65, 0x79, 0x21] := by decide +kernel
example : bytes? "aGV5I" = none := by decide +kernel
example : (foreignBytes [0x27, 0x0A, 0xFF]).text = "b\"'\\n\\xff\"" := by decide +kernel

end StoreTuning.Yaml
