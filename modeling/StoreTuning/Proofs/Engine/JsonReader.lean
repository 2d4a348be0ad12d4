import StoreTuning.Engine.Json
import StoreTuning.Proofs.Engine.Prune
import StoreTuning.Proofs.Text.CodeUnit

/-!
# Reading JSON

A reader for the JSON texts of reports: objects, strings, integers, truth values and null, with
white space anywhere between. Arrays, numbers with a fraction or an exponent, and strings with half
a surrogate pair are no reports and are refused. A text is first split into tokens (`Json.scan`),
and these are read with a stack of the records that are open (`Json.readValue`), so that each step
takes a token off. A name that is repeated in a record keeps its first place and takes its last
value.
-/

namespace StoreTuning

namespace Json

/-- A token of a JSON text. -/
inductive Token where
  | leftBrace
  | rightBrace
  | colon
  | comma
  | null
  | flag (b : Bool)
  | number (n : Int)
  | text (s : String)
  deriving DecidableEq, Repr

/-! ## Tokens -/

/-- White space between tokens. -/
def isSpace (c : Char) : Bool :=
  c = ' ' || c = '\t' || c = '\n' || c = '\r'

/-- The character that is written as a backslash and a letter. -/
def shortEscape? : Char → Option Char
  | '\"' => some '\"'
  | '\\' => some '\\'
  | '/' => some '/'
  | 'b' => some '\x08'
  | 'f' => some '\x0c'
  | 'n' => some '\n'
  | 'r' => some '\r'
  | 't' => some '\t'
  | _ => none

/-- The code points of a string up to its closing quote, each half of a surrogate pair by itself,
and what follows the quote. -/
def readCodes : List Char → Option (List Nat × List Char)
  | '\"' :: cs => some ([], cs)
  | '\\' :: 'u' :: a :: b :: c :: d :: cs => do
    let n ← Text.ofRadix? 16 [a, b, c, d]
    let (ns, rest) ← readCodes cs
    return (n :: ns, rest)
  | '\\' :: e :: cs => do
    let c ← shortEscape? e
    let (ns, rest) ← readCodes cs
    return (c.toNat :: ns, rest)
  | ['\\'] => none
  | c :: cs =>
    if c < ' ' then none
    else do
      let (ns, rest) ← readCodes cs
      return (c.toNat :: ns, rest)
  | [] => none

/-- The characters of code points, the two halves of a pair as one; a half by itself is none. -/
def charsOf? : List Nat → Option (List Char)
  | high :: low :: ns =>
    if Text.isHighHalf high && Text.isLowHalf low then
      (charsOf? ns).map (Text.joinHalves high low :: ·)
    else do
      let c ← Text.ofCode? high
      return c :: (← charsOf? (low :: ns))
  | [n] => (Text.ofCode? n).map ([·])
  | [] => some []

/-- A natural number, spelt by the digits that it has, so that none of them is a zero too many. -/
def natural? (cs : List Char) : Option (Nat × List Char) :=
  let ds := cs.takeWhile Char.isDigit
  let n := Nat.ofDigitChars 10 ds 0
  if ds = Nat.toDigits 10 n then some (n, cs.dropWhile Char.isDigit) else none

/-- An integer. -/
def integer? : List Char → Option (Int × List Char)
  | '-' :: cs => (natural? cs).map fun (n, rest) => (-(n : Int), rest)
  | cs => (natural? cs).map fun (n, rest) => ((n : Int), rest)

/-- The token at the start of a text, and what follows it. -/
def token? : List Char → Option (Token × List Char)
  | '\x7b' :: cs => some (.leftBrace, cs)
  | '\x7d' :: cs => some (.rightBrace, cs)
  | ':' :: cs => some (.colon, cs)
  | ',' :: cs => some (.comma, cs)
  | 'n' :: 'u' :: 'l' :: 'l' :: cs => some (.null, cs)
  | 't' :: 'r' :: 'u' :: 'e' :: cs => some (.flag true, cs)
  | 'f' :: 'a' :: 'l' :: 's' :: 'e' :: cs => some (.flag false, cs)
  | '\"' :: cs => do
    let (ns, rest) ← readCodes cs
    let chars ← charsOf? ns
    return (.text (String.ofList chars), rest)
  | cs => (integer? cs).map fun (n, rest) => (.number n, rest)

theorem length_lt_of_readCodes {cs rest : List Char} {ns : List Nat}
    (h : readCodes cs = some (ns, rest)) : rest.length < cs.length := by
  fun_induction readCodes cs generalizing ns with
  | case1 cs =>
    cases h
    simp
  | case2 a b c d cs ih =>
    obtain ⟨n, -, h⟩ := Option.bind_eq_some_iff.1 h
    obtain ⟨⟨ns', rest'⟩, hrest, h⟩ := Option.bind_eq_some_iff.1 h
    cases h
    have := ih hrest
    simp only [List.length_cons]
    omega
  | case3 e cs _ ih =>
    obtain ⟨n, -, h⟩ := Option.bind_eq_some_iff.1 h
    obtain ⟨⟨ns', rest'⟩, hrest, h⟩ := Option.bind_eq_some_iff.1 h
    cases h
    have := ih hrest
    simp only [List.length_cons]
    omega
  | case4 => cases h
  | case5 => cases h
  | case6 c cs _ _ _ _ _ ih =>
    obtain ⟨⟨ns', rest'⟩, hrest, h⟩ := Option.bind_eq_some_iff.1 h
    cases h
    have := ih hrest
    simp only [List.length_cons]
    omega
  | case7 => cases h

theorem length_lt_of_natural? {cs rest : List Char} {n : Nat} (h : natural? cs = some (n, rest)) :
    rest.length < cs.length := by
  simp only [natural?] at h
  split at h
  · rename_i hds
    cases h
    have hsplit : (cs.takeWhile Char.isDigit ++ cs.dropWhile Char.isDigit).length = cs.length := by
      rw [List.takeWhile_append_dropWhile]
    have hpos : 0 < (cs.takeWhile Char.isDigit).length := by
      rw [hds]
      exact Nat.length_toDigits_pos
    rw [List.length_append] at hsplit
    omega
  · cases h

theorem length_lt_of_integer? {cs rest : List Char} {n : Int} (h : integer? cs = some (n, rest)) :
    rest.length < cs.length := by
  unfold integer? at h
  split at h
  · obtain ⟨⟨m, rest'⟩, hm, h⟩ := Option.map_eq_some_iff.1 h
    cases h
    have := length_lt_of_natural? hm
    simp only [List.length_cons]
    omega
  · obtain ⟨⟨m, rest'⟩, hm, h⟩ := Option.map_eq_some_iff.1 h
    cases h
    exact length_lt_of_natural? hm

/-- A token takes a character at least. -/
theorem length_lt_of_token? {cs rest : List Char} {t : Token} (h : token? cs = some (t, rest)) :
    rest.length < cs.length := by
  unfold token? at h
  split at h
  case h_8 cs =>
    obtain ⟨⟨ns, rest'⟩, hns, h⟩ := Option.bind_eq_some_iff.1 h
    obtain ⟨chars, -, h⟩ := Option.bind_eq_some_iff.1 h
    cases h
    have := length_lt_of_readCodes hns
    simp only [List.length_cons]
    omega
  case h_9 =>
    obtain ⟨⟨m, rest'⟩, hm, h⟩ := Option.map_eq_some_iff.1 h
    cases h
    exact length_lt_of_integer? hm
  all_goals
    cases h
    simp only [List.length_cons]
    omega

/-- The tokens of a text. -/
def scan : List Char → Option (List Token)
  | [] => some []
  | c :: cs =>
    if isSpace c then scan cs
    else
      match _h : token? (c :: cs) with
      | some (t, rest) => (scan rest).map (t :: ·)
      | none => none
termination_by cs => cs.length
decreasing_by
  · simp
  · exact length_lt_of_token? _h

/-! ## Reading tokens -/

/-- A record that is open: its fields so far, and the name whose report is being read. -/
structure Frame where
  fields : List (String × Report)
  name : String

/-- The fields of an open record with the report that was read for its name. -/
def Frame.filled (f : Frame) (r : Report) : List (String × Report) :=
  Entries.insert f.name r f.fields

mutual

/-- Reads tokens from the start of a report on, within records that are open. -/
def readValue : List Token → List Frame → Option Report
  | .null :: ts, stack => readNext ts .null stack
  | .flag b :: ts, stack => readNext ts (.flag b) stack
  | .number n :: ts, stack => readNext ts (.number n) stack
  | .text s :: ts, stack => readNext ts (.text s) stack
  | .leftBrace :: .rightBrace :: ts, stack => readNext ts (.record []) stack
  | .leftBrace :: .text name :: .colon :: ts, stack => readValue ts (⟨[], name⟩ :: stack)
  | _, _ => none

/-- Reads tokens on after a report that belongs to the innermost open record, or that is the
whole. -/
def readNext : List Token → Report → List Frame → Option Report
  | [], r, [] => some r
  | .rightBrace :: ts, r, f :: stack => readNext ts (.record (f.filled r)) stack
  | .comma :: .text name :: .colon :: ts, r, f :: stack =>
    readValue ts (⟨f.filled r, name⟩ :: stack)
  | _, _, _ => none

end

end Json

/-- The report that a JSON text denotes. -/
def Report.ofJson? (s : String) : Option Report :=
  (Json.scan s.toList).bind fun ts => Json.readValue ts []

end StoreTuning
