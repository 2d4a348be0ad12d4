import StoreTuning.Entries
import StoreTuning.Number.Binary64
import StoreTuning.Text.Numeral

/-!
# Values of settings

What a setting may hold before it is read as the type that is asked for: nothing, a truth value, an
integer, a floating-point number, text, a list, or a map. The keys of maps are scalars, and two keys
are one key when they are equal as numbers or as texts. What no setting is read as, such as a member
of an enumeration, is known only by its texts (`Foreign`).
-/

namespace StoreTuning

/-- A value of a kind that no setting is read as. -/
structure Foreign where
  /-- How messages show it. -/
  quoted : String
  /-- How it reads as text. -/
  text : String
  /-- Whether it counts as empty. -/
  isEmpty : Bool := false
  /-- The point in time that it is, if it is one. -/
  instant? : Option Int := none
  deriving DecidableEq, Repr, Inhabited

/-- Whether two such values are equal: as points in time, or by all that is known of them. -/
def Foreign.same (f g : Foreign) : Bool :=
  match f.instant?, g.instant? with
  | some m, some n => m == n
  | _, _ => f == g

/-- A value without parts; the keys of maps are of this kind. -/
inductive Scalar where
  | null
  | bool (b : Bool)
  | int (n : Int)
  | float (x : Binary64)
  | text (s : String)
  | other (f : Foreign)
  deriving DecidableEq, Repr, Inhabited

/-- The value of a setting. -/
inductive Value where
  | scalar (s : Scalar)
  | list (items : List Value)
  | map (entries : List (Scalar × Value))
  deriving Repr, Inhabited

namespace Scalar

/-- The integer that a truth value or an integer equals. -/
def integral? : Scalar → Option Int
  | bool b => some (if b then 1 else 0)
  | int n => some n
  | _ => none

/-- Whether two scalars are equal. Truth values count as the numbers zero and one, and numbers of
different kinds are equal when they have the same value. -/
def same : Scalar → Scalar → Bool
  | null, null => true
  | text s, text t => s == t
  | other f, other g => f.same g
  | float x, float y => x.same y
  | float x, s | s, float x => s.integral?.any x.sameInt
  | s, t =>
    match s.integral?, t.integral? with
    | some m, some n => m == n
    | _, _ => false

/-- Scalars are compared as keys by `same`. -/
instance : BEq Scalar where
  beq := same

/-- Whether every integer in the scalar can be printed. -/
def withinDigitLimit : Scalar → Bool
  | int n => Text.Numeral.withinLimit n
  | _ => true

end Scalar

namespace Value

/-- The value that stands for no value. -/
@[match_pattern] abbrev null : Value := scalar .null

/-- A truth value. -/
@[match_pattern] abbrev bool (b : Bool) : Value := scalar (.bool b)

/-- An integer. -/
@[match_pattern] abbrev int (n : Int) : Value := scalar (.int n)

/-- A floating-point number. -/
@[match_pattern] abbrev float (x : Binary64) : Value := scalar (.float x)

/-- A text. -/
@[match_pattern] abbrev text (s : String) : Value := scalar (.text s)

/-- A value known by its texts. -/
@[match_pattern] abbrev other (f : Foreign) : Value := scalar (.other f)

/-- The text that a value is. -/
def text? : Value → Option String
  | text s => some s
  | _ => none

/-- A map of pairs inserted one after the other. -/
def ofPairs (pairs : List (Scalar × Value)) : Value :=
  map (Entries.ofList pairs)

mutual

/-- Whether two values are equal: lists item by item, and maps as sets of entries. -/
def same : Value → Value → Bool
  | scalar s, scalar t => s.same t
  | list xs, list ys => sameItems xs ys
  | map es, map fs => es.length == fs.length && sameEntries es fs
  | _, _ => false

/-- Whether two lists have equal items in the same places. -/
def sameItems : List Value → List Value → Bool
  | [], [] => true
  | x :: xs, y :: ys => x.same y && sameItems xs ys
  | _, _ => false

/-- Whether each entry has an equal one in another map. -/
def sameEntries : List (Scalar × Value) → List (Scalar × Value) → Bool
  | [], _ => true
  | (k, v) :: es, fs =>
    (match fs.lookup k with
      | some w => v.same w
      | none => false) && sameEntries es fs

end

mutual

/-- Whether every integer in the value can be printed. -/
def withinDigitLimit : Value → Bool
  | scalar s => s.withinDigitLimit
  | list xs => itemsWithinDigitLimit xs
  | map es => entriesWithinDigitLimit es

/-- Whether every integer in the items can be printed. -/
def itemsWithinDigitLimit : List Value → Bool
  | [] => true
  | x :: xs => x.withinDigitLimit && itemsWithinDigitLimit xs

/-- Whether every integer in the entries, keys included, can be printed. -/
def entriesWithinDigitLimit : List (Scalar × Value) → Bool
  | [] => true
  | (k, v) :: es => k.withinDigitLimit && v.withinDigitLimit && entriesWithinDigitLimit es

end

/-- Whether a value counts as empty: nothing, false, zero, or text, list, map or other value without
content. -/
def isEmpty : Value → Bool
  | null => true
  | bool b => !b
  | int n => n == 0
  | float x => x.isZero
  | text s => s.isEmpty
  | other f => f.isEmpty
  | list xs => xs.isEmpty
  | map es => es.isEmpty

end Value

end StoreTuning
