import StoreTuning.Engine.Json

/-!
# The layout of JSON texts

The JSON text of a report is a list of lines (`Report.lines`): an unset field, a value, or a record
without fields takes one, and a record with fields takes one for each brace, with the lines of its
fields between them, two columns further in. The text ends each line but the last
(`Report.toJson_eq_lines`).
-/

namespace StoreTuning

mutual

/-- The lines of a report's JSON text, with a text put before it and another after it. -/
def Report.lines : Report → (before after : String) → List String
  | .null, before, after => [before ++ "null" ++ after]
  | .flag b, before, after => [before ++ (if b then "true" else "false") ++ after]
  | .number n, before, after => [before ++ Text.Numeral.spell n ++ after]
  | .text s, before, after => [before ++ String.ofList (Json.string s) ++ after]
  | .record [], before, after => [before ++ "\x7b\x7d" ++ after]
  | .record (f :: fs), before, after =>
    (before ++ "\x7b") :: (Report.fieldLines (f :: fs)).map ("  " ++ ·) ++ ["\x7d" ++ after]

/-- The lines of the fields of a record, each with its name before it, and all but the last with a
comma after them. -/
def Report.fieldLines : List (String × Report) → List String
  | [] => []
  | [(name, r)] => r.lines (String.ofList (Json.string name) ++ ": ") ""
  | (name, r) :: f :: fs =>
    r.lines (String.ofList (Json.string name) ++ ": ") "," ++ Report.fieldLines (f :: fs)

end

namespace Json

/-- Lines as text, where each starts within some records. -/
def startEach (depth : Nat) (lines : List String) : List Char :=
  lines.flatMap fun l => newline depth ++ l.toList

theorem startEach_append (depth : Nat) (ls ms : List String) :
    startEach depth (ls ++ ms) = startEach depth ls ++ startEach depth ms :=
  List.flatMap_append

theorem startEach_cons (depth : Nat) (l : String) (ls : List String) :
    startEach depth (l :: ls) = newline depth ++ l.toList ++ startEach depth ls :=
  List.flatMap_cons

theorem startEach_singleton (depth : Nat) (l : String) :
    startEach depth [l] = newline depth ++ l.toList :=
  List.flatMap_singleton ..

/-- Two more columns are those of one more record. -/
theorem newline_succ (depth : Nat) : newline (depth + 1) = newline depth ++ [' ', ' '] := by
  rw [newline, newline, Nat.mul_succ, ← List.replicate_append_replicate]
  rfl

theorem startEach_indented (depth : Nat) (ls : List String) :
    startEach depth (ls.map ("  " ++ ·)) = startEach (depth + 1) ls := by
  rw [startEach, List.flatMap_map, startEach, newline_succ]
  simp

end Json

open Json

mutual

/-- The text of a report is that of its lines, whatever comes before it and after it. -/
theorem Report.newline_json : ∀ (r : Report) (depth : Nat) (before after : String),
    newline depth ++ (before.toList ++ r.json depth ++ after.toList) =
      startEach depth (r.lines before after)
  | .null, _, _, _ => by simp [Report.json, Report.lines, startEach_singleton]
  | .flag b, _, _, _ => by cases b <;> simp [Report.json, Report.lines, startEach_singleton]
  | .number _, _, _, _ => by simp [Report.json, Report.lines, startEach_singleton]
  | .text _, _, _, _ => by simp [Report.json, Report.lines, startEach_singleton]
  | .record [], _, _, _ => by simp [Report.json, Report.lines, startEach_singleton]
  | .record (f :: fs), depth, before, after => by
    -- The fields are one record further in, so that their lines are the indented ones here.
    have hfields := newline_jsonFields (f :: fs) (by simp) (depth + 1)
    rw [Report.lines, List.cons_append, startEach_cons, startEach_append, startEach_indented,
      startEach_singleton, ← hfields, Report.json]
    simp

/-- The text of the fields of a record is that of their lines. -/
theorem Report.newline_jsonFields : ∀ (fs : List (String × Report)), fs ≠ [] → ∀ depth : Nat,
    newline depth ++ Report.jsonFields depth fs = startEach depth (Report.fieldLines fs)
  | [], h, _ => absurd rfl h
  | [(name, r)], _, depth => by
    rw [Report.fieldLines, ← newline_json r depth, Report.jsonFields]
    simp
  | (name, r) :: f :: fs, _, depth => by
    have hrest := newline_jsonFields (f :: fs) (by simp) depth
    rw [Report.fieldLines, startEach_append, ← newline_json r depth, ← hrest]
    simp [Report.jsonFields]

end

/-- The JSON text of a report with a line end is its lines with theirs. -/
theorem Report.toJson_eq_lines (r : Report) :
    r.toJson ++ "\n" = String.join ((r.lines "" "").map (· ++ "\n")) := by
  -- A line end before each line and one at the end, or one at the start and one after each line.
  have hends : ∀ ls : List String,
      '\n' :: ls.flatMap (fun l => l.toList ++ ['\n']) = startEach 0 ls ++ ['\n'] := by
    intro ls
    induction ls with
    | nil => rfl
    | cons l ls ih =>
      rw [startEach_cons, List.flatMap_cons, List.append_assoc (newline 0 ++ l.toList), ← ih]
      simp [newline]
  have hjson := Report.newline_json r 0 "" ""
  have htext : '\n' :: (r.json 0 ++ ['\n']) =
      '\n' :: (r.lines "" "").flatMap fun l => l.toList ++ ['\n'] := by
    rw [hends, ← hjson]
    simp [newline]
  rw [← String.toList_inj, String.toList_append, toJson, String.toList_ofList, String.toList_join,
    List.flatMap_map]
  simpa using htext

end StoreTuning
