import Mathlib.Data.List.Basic
import Mathlib.Data.List.TakeWhile
import StoreTuning.Text.Blank

/-!
# White space around a text

To strip a text is to take white space off its ends (`Text.exists_padding`), and all of it: whatever
white space stands around characters that neither start nor end with any, those characters are what
is left (`Text.stripChars_padded`).
-/

namespace StoreTuning.Text

/-- Characters that are white space one and all. -/
def AllBlank (cs : List Char) : Prop :=
  ∀ c ∈ cs, isBlank c = true

/-- Characters without white space at either end. -/
structure Bare (cs : List Char) : Prop where
  /-- They do not start with white space. -/
  first : ∀ c ∈ cs.head?, isBlank c = false
  /-- They do not end with white space. -/
  last : ∀ c ∈ cs.getLast?, isBlank c = false

/-- A text is blank when its characters are. -/
theorem blank_iff_allBlank {s : String} : blank s = true ↔ AllBlank s.toList :=
  List.all_eq_true

/-- White space in front is dropped up to the first other character. -/
theorem dropWhile_blank_append {before rest : List Char} (hbefore : AllBlank before)
    (hrest : ∀ c ∈ rest.head?, isBlank c = false) :
    (before ++ rest).dropWhile isBlank = rest := by
  rw [List.dropWhile_append_of_pos hbefore]
  cases rest with
  | nil => rfl
  | cons c cs =>
    have hc : isBlank c = false := hrest c rfl
    rw [List.dropWhile_cons, hc, if_neg Bool.false_ne_true]

/-- White space on both sides is taken off. -/
theorem stripChars_padded {before core after : List Char} (hbefore : AllBlank before)
    (hcore : Bare core) (hafter : AllBlank after) :
    stripChars (before ++ core ++ after) = core := by
  have hreverse : AllBlank after.reverse := fun c hc => hafter c (List.mem_reverse.1 hc)
  by_cases hempty : core = []
  · -- There is nothing but white space, which goes at once.
    have hall : ∀ c ∈ before ++ core ++ after, isBlank c = true := by
      intro c hc
      rw [hempty, List.append_nil, List.mem_append] at hc
      exact hc.elim (hbefore c) (hafter c)
    rw [stripChars, trim, dropWhile_eq_nil_iff.2 hall, hempty]
    rfl
  · have hfront : (before ++ (core ++ after)).dropWhile isBlank = core ++ after := by
      refine dropWhile_blank_append hbefore fun c hc => hcore.first c ?_
      rwa [List.head?_append_of_ne_nil core hempty] at hc
    have hback : (after.reverse ++ core.reverse).dropWhile isBlank = core.reverse := by
      refine dropWhile_blank_append hreverse fun c hc => hcore.last c ?_
      rwa [List.head?_reverse] at hc
    rw [stripChars, trim, List.append_assoc, hfront, List.reverse_append, hback,
      List.reverse_reverse]

/-- What stripping takes off is white space. -/
theorem exists_padding (cs : List Char) :
    ∃ before after, AllBlank before ∧ AllBlank after ∧ cs = before ++ stripChars cs ++ after := by
  have hafter : AllBlank (((cs.dropWhile isBlank).reverse.takeWhile isBlank).reverse) :=
    fun c hc => List.mem_takeWhile_imp (List.mem_reverse.1 hc)
  refine ⟨cs.takeWhile isBlank, _, fun c hc => List.mem_takeWhile_imp hc, hafter, ?_⟩
  rw [stripChars, trim, List.append_assoc, ← List.reverse_append, List.takeWhile_append_dropWhile,
    List.reverse_reverse, List.takeWhile_append_dropWhile]

end StoreTuning.Text
