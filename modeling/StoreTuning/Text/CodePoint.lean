import StoreTuning.Text.Quoted
import StoreTuning.Text.Radix

/-!
# Code points

A text as a list of code points. Halves of surrogate pairs are code points and no characters, so a
text that was spelt by codes may be none that `String` holds; it still can be shown.
-/

namespace StoreTuning.Text

/-- The greatest code point. -/
def lastCode : Nat := 0x10FFFF

/-- The code point that is spelt in hexadecimal. -/
def hexCode? (cs : List Char) : Option Nat :=
  (ofRadix? 16 cs).filter (· ≤ lastCode)

/-- Whether a code point is the first half of a surrogate pair. -/
def isHighHalf (n : Nat) : Bool :=
  0xD800 ≤ n && n < 0xDC00

/-- Whether a code point is the second half of a surrogate pair. -/
def isLowHalf (n : Nat) : Bool :=
  0xDC00 ≤ n && n < 0xE000

/-- The character that two halves stand for. -/
def joinHalves (high low : Nat) : Char :=
  Char.ofNat (0x10000 + 0x400 * (high - 0xD800) + (low - 0xDC00))

/-- The characters of code points: pairs as the character that they stand for, and the replacement
character for a half that is alone. -/
def charsOfCodes : List Nat → List Char
  | high :: low :: ns =>
    if isHighHalf high && isLowHalf low then joinHalves high low :: charsOfCodes ns
    else (ofCode? high).getD '\uFFFD' :: charsOfCodes (low :: ns)
  | [n] => [(ofCode? n).getD '\uFFFD']
  | [] => []

/-- A code point as it stands inside quotes of a given mark. -/
def escapePoint (mark : Char) (n : Nat) : List Char :=
  match ofCode? n with
  | some c => escapeChar mark c
  | none => escapeCode n

/-- Code points in quotes. -/
def quotedCodes (ns : List Nat) : String :=
  let mark := quoteMark (ns.filterMap ofCode?)
  String.ofList (mark :: ns.flatMap (escapePoint mark) ++ [mark])

example : quotedCodes [0x61, 0xD800] = "'a\\ud800'" := by decide +kernel
example : charsOfCodes [0xD83D, 0xDE00, 0xDE00] = ['😀', '\uFFFD'] := by decide +kernel

end StoreTuning.Text
