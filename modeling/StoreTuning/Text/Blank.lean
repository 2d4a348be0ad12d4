import StoreTuning.Text.CharClass

/-!
# White space

The white space that may surround a value, and the text left when it is taken off both ends.
A text is blank when it holds nothing else (`strip_eq_empty_iff`).
-/

namespace StoreTuning.Text

/-- White space: the ASCII controls from tab to carriage return and from file to unit separator, the
space, and the spaces and separators of the rest of Unicode. -/
def whiteSpace : CharClass where
  ranges := [
    (0x9, 0xD), (0x1C, 0x20), (0x85, 0x85), (0xA0, 0xA0), (0x1680, 0x1680), (0x2000, 0x200A),
    (0x2028, 0x2029), (0x202F, 0x202F), (0x205F, 0x205F), (0x3000, 0x3000)]

/-- Whether a character is white space. -/
def isBlank (c : Char) : Bool :=
  whiteSpace.contains c

/-- The characters without those of a kind at either end. -/
def trim (p : Char → Bool) (cs : List Char) : List Char :=
  ((cs.dropWhile p).reverse.dropWhile p).reverse

/-- The characters without the white space at either end. -/
def stripChars (cs : List Char) : List Char :=
  trim isBlank cs

/-- White space that may surround a number: all but the control characters that separate data. -/
def isMargin (c : Char) : Bool :=
  isBlank c && !('\x1c' ≤ c && c ≤ '\x1f')

/-- The characters of a number without the white space around it. -/
def trimMargin (cs : List Char) : List Char :=
  trim isMargin cs

/-- The text without the white space at either end. -/
def strip (s : String) : String :=
  String.ofList (stripChars s.toList)

/-- Whether a text is empty or all white space. -/
def blank (s : String) : Bool :=
  s.toList.all isBlank

theorem dropWhile_eq_nil_iff {p : Char → Bool} {cs : List Char} :
    cs.dropWhile p = [] ↔ ∀ c ∈ cs, p c = true := by
  induction cs with
  | nil => simp
  | cons c cs ih => by_cases h : p c <;> simp [List.dropWhile, h, ih]

/-- A text is blank exactly when stripping it leaves nothing. -/
theorem strip_eq_empty_iff {s : String} : strip s = "" ↔ blank s = true := by
  have key : stripChars s.toList = [] ↔ ∀ c ∈ s.toList, isBlank c = true := by
    simp only [stripChars, trim, List.reverse_eq_nil_iff, dropWhile_eq_nil_iff, List.mem_reverse]
    refine ⟨fun h => ?_, fun h c hc => h c ((List.dropWhile_sublist _).subset hc)⟩
    cases hd : s.toList.dropWhile isBlank with
    | nil => exact dropWhile_eq_nil_iff.1 hd
    | cons c cs =>
      have hne : s.toList.dropWhile isBlank ≠ [] := by simp [hd]
      have hc := List.head_dropWhile_not isBlank hne
      have := h c (by simp [hd])
      simp [hd, this] at hc
  simp only [strip, blank, List.all_eq_true, ← key]
  constructor
  · intro h
    simpa using congrArg String.toList h
  · intro h
    simp [h]

end StoreTuning.Text
