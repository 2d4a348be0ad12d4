import Mathlib
import StoreTuning.Proofs.Command.Agreement

/-!
# What more is said

To ask for debug records is to see them, and nothing else comes of it: `-v` put before a command
line adds the debug records to what the run says, each in its place, and leaves the rest of what it
says, its output and its end as they are (`Command.run_verbose_first`). The options that are read
after it do not notice it (`Draft.read_verbosely`), so that the command line asks for the same with
debug records on top (`Command.parse_verbose_first`). Only what is shown depends on them
(`Command.conclude_verbosely`).
-/

namespace StoreTuning.Command

/-! ## The arguments -/

/-- The same options, with debug records asked for. -/
def Options.verbosely (o : Options) : Options :=
  { o with verbose := true }

/-- The same reading so far, with debug records asked for. -/
def Draft.verbosely (d : Draft) : Draft :=
  { d with options := d.options.verbosely }

/-- The same arguments, with debug records asked for. -/
def Arguments.verbosely (a : Arguments) : Arguments :=
  { a with options := a.options.verbosely }

namespace Draft

theorem config_verbosely (d : Draft) : d.verbosely.config = d.config := rfl

theorem raise_verbosely (d : Draft) (f : Flag) :
    d.verbosely.raise f = (d.raise f).map verbosely := by
  cases f <;> rfl

theorem foldlM_raise_verbosely (flags : List Flag) (d : Draft) :
    flags.foldlM raise d.verbosely = (flags.foldlM raise d).map verbosely := by
  induction flags generalizing d with
  | nil => rfl
  | cons f flags ih =>
    rw [List.foldlM_cons, List.foldlM_cons, raise_verbosely]
    cases d.raise f with
    | error e => rfl
    | ok d' => exact ih d'

theorem operand_verbosely (d : Draft) (text : String) :
    d.verbosely.operand text = (d.operand text).verbosely := by
  unfold operand
  rw [config_verbosely]
  split <;> rfl

theorem assign_verbosely (d : Draft) (p : Parameter) (text : String) :
    d.verbosely.assign p text = (d.assign p text).map verbosely := by
  cases p with
  | tasks =>
    unfold assign
    cases integerOf .tasks text <;> rfl
  | store => rfl
  | storeDirectory => rfl
  | manifestSize =>
    unfold assign
    cases integerOf .manifestSize text <;> rfl

/-- A step that is taken alike goes on alike if what comes after it does. -/
theorem bind_verbosely {next : Draft → Except Stop Draft}
    (hnext : ∀ d, next d.verbosely = (next d).map verbosely) (x : Except Stop Draft) :
    x.map verbosely >>= next = (x >>= next).map verbosely := by
  cases x with
  | error e => rfl
  | ok d => exact hnext d

/-- Words are read in the same way whether debug records are asked for or not. -/
theorem read_verbosely (ws : List Word) (d : Draft) :
    read ws d.verbosely = (read ws d).map verbosely := by
  -- One case for each arm of `read`, with the hypothesis for the words after it.
  fun_induction read ws d with
  | case1 d => rfl
  | case2 text ws d hfirst ih => rw [read, config_verbosely, if_pos hfirst, operand_verbosely, ih]
  | case3 text ws d hlater ih => rw [read, config_verbosely, if_neg hlater, operand_verbosely, ih]
  | case4 text ws d hnext ih =>
    rw [read, operand_verbosely, ih]
    exact hnext
  | case5 text ws d hfirst ih => rw [read, config_verbosely, if_pos hfirst, operand_verbosely, ih]
  | case6 text ws d hlater ih =>
    have hleft : read (.separator :: .operand text :: ws) d.verbosely =
        read (.operand text :: ws) (d.leave "--").verbosely := if_neg hlater
    rw [hleft, ih]
  | case7 ws d hnext ih =>
    rw [read]
    · exact ih
    · exact hnext
  | case8 text ws d ih => exact ih
  | case9 f short joined ws d ih =>
    rw [read]
    cases flagsOf f short joined with
    | error e => rfl
    | ok flags =>
      show flags.foldlM raise d.verbosely >>= read ws = (flags.foldlM raise d >>= read ws).map _
      rw [foldlM_raise_verbosely, bind_verbosely ih]
  | case10 p short text ws d ih => rw [read, assign_verbosely, bind_verbosely ih]
  | case11 p short text ws d ih => rw [read, assign_verbosely, bind_verbosely ih]
  | case12 p short ws d hnext =>
    rw [read]
    · rfl
    · exact hnext

theorem finish_verbosely (d : Draft) :
    d.verbosely.finish = d.finish.map Arguments.verbosely := by
  unfold finish
  rw [config_verbosely]
  cases d.config with
  | none => rfl
  | some config =>
    show (if d.leftOver.isEmpty then _ else _) =
      (if d.leftOver.isEmpty then _ else _ : Except _ _).map _
    split <;> rfl

end Draft

/-- The first word is the option for debug records, and the others are what they were. -/
theorem words_verbose_first (arguments : List String) :
    words ("-v" :: arguments) =
      (words arguments).map (.option (.flag .verbose) true none :: ·) := by
  have hclassify : classify "-v" = .ok (.option (.flag .verbose) true none) := by cbv
  rw [words, if_neg (by decide), hclassify]
  cases words arguments <;> rfl

/-- With `-v` put first a command line asks for the same with debug records on top, and it is wrong
in the same way if it is. -/
theorem parse_verbose_first (arguments : List String) :
    parse ("-v" :: arguments) = (parse arguments).map Arguments.verbosely := by
  unfold parse
  rw [words_verbose_first]
  cases words arguments with
  | error e => rfl
  | ok ws =>
    show (do let d ← Draft.read ws (Draft.verbosely {}); d.finish.mapError .misuse) =
      (do let d ← Draft.read ws {}; d.finish.mapError .misuse : Except Stop Arguments).map _
    rw [Draft.read_verbosely]
    cases Draft.read ws {} with
    | error e => rfl
    | ok d =>
      show d.verbosely.finish.mapError Stop.misuse = (d.finish.mapError Stop.misuse).map _
      rw [Draft.finish_verbosely]
      cases d.finish <;> rfl

/-! ## The run -/

variable {ε : Type}

/-- Whether a notice is a debug record. -/
def Notice.isDebug : Notice → Bool
  | .record r => r.event.level = .debug
  | .loadFailure _ => false
  | .compileFailure _ => false

/-- All records are shown where debug records are asked for. -/
theorem logged_verbosely (o : Options) (rs : List Record) :
    o.verbosely.logged rs = rs.map .record := by
  have hall : ∀ r ∈ rs, o.verbosely.shows r.event = true := by
    intro r _
    cases r.event <;> rfl
  rw [Options.logged, List.filter_eq_self.2 hall]

/-- Otherwise those are shown that are no debug records. -/
theorem logged_of_not_verbose {o : Options} (h : o.verbose = false) (rs : List Record) :
    o.logged rs = (o.verbosely.logged rs).filter (!·.isDebug) := by
  have hshown : ∀ r : Record, o.shows r.event = !(Notice.record r).isDebug := by
    intro ⟨channel, event⟩
    unfold Options.shows
    rw [h]
    cases event <;> rfl
  rw [logged_verbosely, List.filter_map, Options.logged]
  exact congrArg (List.map Notice.record) (List.filter_congr fun r _ => hshown r)

/-- What is said of a failure is no debug record. -/
theorem isDebug_of_mem_failure (o : Options) (e : CompileError (Ending ε)) :
    ∀ n ∈ (o.failure e).2, n.isDebug = false := by
  unfold Options.failure
  split
  · simp [Notice.isDebug]
  · split
    · nofun
    · simp [Notice.isDebug]
  · nofun

/-- An attempt to compile ends in the same way with debug records and without them, and what is said
of it is the same but for them. -/
theorem conclude_verbosely (o : Options) (x : Attempt (CompileError (Ending ε)) EngineOptions) :
    (conclude o.verbosely x).ending = (conclude o x).ending ∧
    (conclude o.verbosely x).output = (conclude o x).output ∧
    (o.verbose = false →
      (conclude o x).notices = (conclude o.verbosely x).notices.filter (!·.isDebug)) := by
  obtain ⟨rs, qs, e | compiled⟩ := x
  · rw [conclude_error, conclude_error]
    refine ⟨rfl, rfl, fun h => ?_⟩
    have hsaid : (o.failure e).2.filter (!·.isDebug) = (o.failure e).2 := by
      refine List.filter_eq_self.2 fun n hn => ?_
      rw [isDebug_of_mem_failure o e n hn]
      rfl
    show o.logged rs ++ (o.failure e).2 = (o.verbosely.logged rs ++ (o.failure e).2).filter _
    rw [List.filter_append, hsaid, logged_of_not_verbose h]
  · rw [conclude_ok, conclude_ok]
    exact ⟨rfl, rfl, fun h => logged_of_not_verbose h rs⟩

/-- A run comes to the same with debug records and without them. What it says is the same but for
them. -/
theorem run_verbosely (world : Surroundings ε) (a : Arguments) :
    (run world a.verbosely).ending = (run world a).ending ∧
    (run world a.verbosely).output = (run world a).output ∧
    (a.options.verbose = false →
      (run world a).notices = (run world a.verbosely).notices.filter (!·.isDebug)) := by
  obtain ⟨config, o⟩ := a
  cases hload : Settings.load world.decode world.read config with
  | error e =>
    have hrun : ∀ o, run world ⟨config, o⟩ = ⟨.status 2, "", [.loadFailure e]⟩ :=
      fun _ => run_of_load_error hload
    rw [Arguments.verbosely, hrun, hrun]
    exact ⟨rfl, rfl, fun _ => rfl⟩
  | ok s =>
    have hrun : ∀ o, run world ⟨config, o⟩ = conclude o (o.compile world.holdsStore s) :=
      fun _ => run_of_load hload
    rw [Arguments.verbosely, hrun, hrun]
    exact conclude_verbosely o (o.compile world.holdsStore s)

/-- Debug records are only something more to see. A command line that is in order is so with `-v`
put first, and it then ends in the same way, or breaks off with the same error, and prints the same.
What it says without `-v` is what it says with it less the debug records: every other record, and
what is said of a failure, is there in the same place. Where the command line asks for debug records
anyway, to ask once more changes nothing. -/
theorem run_verbose_first (world : Surroundings ε) {arguments : List String} {a : Arguments}
    (h : parse arguments = .ok a) :
    ∃ v, parse ("-v" :: arguments) = .ok v ∧
      (run world v).ending = (run world a).ending ∧
      (run world v).output = (run world a).output ∧
      (run world a).notices =
        if a.options.verbose then (run world v).notices
        else (run world v).notices.filter (!·.isDebug) := by
  obtain ⟨hending, houtput, hnotices⟩ := run_verbosely world a
  have hparse : parse ("-v" :: arguments) = .ok a.verbosely := by
    rw [parse_verbose_first, h]
    rfl
  refine ⟨a.verbosely, hparse, hending, houtput, ?_⟩
  cases hverbose : a.options.verbose with
  | false => exact hnotices hverbose
  | true =>
    have hsame : a.verbosely = a := by
      rw [Arguments.verbosely, Options.verbosely, ← hverbose]
    rw [hsame, if_pos rfl]

/-- A settings file with an unknown codec, in a place where a store is present. -/
def misspeltCodec : Surroundings Empty where
  decode _ _ := some (.map [(.text "compression", .text "zippy")])
  read _ := .ok (some .empty)
  holdsStore _ := .ok true

/-- A bulk load that is not prepared for gives one warning. With debug records it gives the warning
first, and then the six numbers that a table assigns and that a store is present. -/
theorem run_verbose_first_misspeltCodec :
    ∃ a v, parse ["c.toml", "--bulk-load"] = .ok a ∧ parse ["-v", "c.toml", "--bulk-load"] = .ok v ∧
      (run misspeltCodec v).ending = .status 0 ∧ (run misspeltCodec a).ending = .status 0 ∧
      (run misspeltCodec v).notices.length = 8 ∧
      (run misspeltCodec v).notices.getLast? = some (.record ⟨.compiler, .storePresent "."⟩) ∧
      (run misspeltCodec a).notices =
        [.record ⟨.compiler, .substituted "compression" "zippy" "SNAPPY_COMPRESSION"⟩] := by
  have hparse : parse ["c.toml", "--bulk-load"] =
      .ok ⟨.ofText "c.toml", { bulkLoad := true }⟩ := by cbv
  obtain ⟨v, hv, hending, -, hnotices⟩ := run_verbose_first misspeltCodec hparse
  have hverbose : parse ["-v", "c.toml", "--bulk-load"] =
      .ok ⟨.ofText "c.toml", { bulkLoad := true, verbose := true }⟩ := by cbv
  obtain rfl := Except.ok.inj (hv.symm.trans hverbose)
  have hended : (run misspeltCodec
      ⟨.ofText "c.toml", { bulkLoad := true, verbose := true }⟩).ending = .status 0 := by
    decide +kernel
  refine ⟨_, _, hparse, hv, hended, hending.symm.trans hended, ?_, ?_, hnotices.trans ?_⟩
  all_goals decide +kernel

end StoreTuning.Command
