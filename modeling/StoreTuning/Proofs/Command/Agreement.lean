import StoreTuning.Command.Run
import StoreTuning.Proofs.Compile.Question
import StoreTuning.Proofs.Engine.JsonLayout

/-!
# The command and the library

A run of the command does what a call of the library comes to (`Command.run_agrees`). Each of its
stages may fail in its own way, and the exit status, the output and what is said beside it tell
which: the settings file gave no settings, the settings did not compile, or the question whether a
store is present had an error. Only options that compile are printed.

What the run is held against is written out here: the values that the call is given for its options
(`Options.call`), which records the log shows and how (`Options.log`), the words for what went wrong
(`LookupError.words`, `BudgetError.words`), and the lines that are printed (`Report.lines`).

An option that is left without a value gives the library something of no use in its place. The run
breaks off where the library comes to it (`Options.lacking?`), and is not concerned otherwise.
-/

namespace StoreTuning

/-- The level of an event as the log shows it. -/
def Event.levelWord : Event → String
  | assigned .. => "DEBUG"
  | substituted .. => "WARNING"
  | storePresent _ => "DEBUG"
  | preparing _ => "INFO"

/-- What the log says of an event. -/
def Event.words : Event → String
  | assigned key recordName field value =>
    key ++ " -> " ++ recordName ++ "." ++ field ++ " = " ++ value.quoted
  | substituted key raw memberName =>
    "Unknown " ++ key ++ " " ++ raw ++ ", overwriting to " ++ memberName
  | storePresent directory =>
    "Store already present at " ++ directory ++ ", skipping bulk-load preparation"
  | preparing directory => "Using prepare_for_bulk_load for restore to " ++ directory

/-- What is said of an integer that is too long to print. -/
def unprintableWords : String :=
  "Exceeds the limit (4300 digits) for integer string conversion; " ++
    "use sys.set_int_max_str_digits() to increase the limit"

/-- What is said of a lookup that gave no value. -/
def LookupError.words : LookupError → String
  | missing key => "Missing configuration key: " ++ key
  | invalid key value expected =>
    let expectation :=
      match expected with
      | .flag => "true or false"
      | .integer .int => "int"
      | .integer .long => "long"
      | .oneOf names => "one of " ++ String.intercalate ", " names
    "Invalid value " ++ value.quoted ++ " for " ++ key ++ ": expected " ++ expectation
  | unprintable => unprintableWords

/-- What is said of a budget that cannot be shared. -/
def BudgetError.words : BudgetError → String
  | taskCount n =>
    if Text.Numeral.withinLimit n then "Invalid task count: " ++ Text.Numeral.spell n
    else unprintableWords
  | negative n =>
    if Text.Numeral.withinLimit n then "Invalid budget: " ++ Text.Numeral.spell n ++ " bytes"
    else unprintableWords

theorem LookupError.message_eq (e : LookupError) : e.message = e.words := by
  cases e with
  | missing key => rfl
  | invalid key value expected =>
    cases expected with
    | flag => rfl
    | integer w => cases w <;> rfl
    | oneOf names => rfl
  | unprintable => rfl

theorem BudgetError.message_eq (e : BudgetError) : e.message = e.words := by
  have hlong : LookupError.unprintableMessage = unprintableWords := rfl
  cases hlimit : Text.Numeral.withinLimit e.number <;> cases e <;>
    simp_all [message, number, words]

namespace Command

variable {ε : Type}

/-- The text of notices, a line for each, given the times at which they are made. -/
def noticeText (time : Nat → String) (notices : List Notice) : String :=
  String.join (notices.mapIdx fun i n => n.text (time i) ++ "\n")

/-- What a run says beside its output. -/
def Transcript.errorText (time : Nat → String) (t : Transcript ε) : String :=
  noticeText time t.notices

/-- Whether the log shows an event. It shows every one if debug records are asked for, and otherwise
choices that were replaced and preparations for a bulk load. -/
def Options.shows (o : Options) : Event → Bool
  | .assigned .. | .storePresent _ => o.verbose
  | .substituted .. | .preparing _ => true

/-- The log of records, given the times at which lines are made: a line for each that is shown, with
the time, the level and the words for it. -/
def Options.log (o : Options) (time : Nat → String) (records : List Record) : String :=
  String.join ((records.filter fun r => o.shows r.event).mapIdx fun i r =>
    time i ++ " | " ++ r.event.levelWord ++ " | " ++ r.event.words ++ "\n")

/-- The notices of the records that the log shows. -/
def Options.logged (o : Options) (records : List Record) : List Notice :=
  (records.filter fun r => o.shows r.event).map .record

/-- The option without a value that a call of the library comes to: the directory where it is asked
about, and the number of tasks where it is compared with the fewest. -/
def Options.lacking? (o : Options) (r : Attempt (CompileError ε) EngineOptions) :
    Option Parameter :=
  if o.storeDirectory.isNone && !r.queries.isEmpty then some .storeDirectory
  else
    match o.tasks, r.outcome with
    | none, .error (.budget (.taskCount _)) => some .tasks
    | _, _ => none

/-- The library called with what the options ask for. A manifest limit without a value is the empty
list, and a number of tasks without one is none. -/
def Options.call (o : Options) (holdsStore : String → Except ε Bool) (s : Settings) :
    Attempt (CompileError ε) EngineOptions :=
  let settings :=
    match o.store with
    | none => s
    | some name => if name = "" then s else s.storeView name
  let manifestDefault : Value :=
    match o.manifestSize with
    | some n => .int n
    | none => .list []
  let directory := (o.storeDirectory.map Path.text).getD ""
  let mode := if o.bulkLoad then OpenMode.bulkLoad else .normal
  StoreTuning.compile .compiler settings (o.tasks.getD 0) manifestDefault directory mode holdsStore

/-- The log shows the records from the level on that the options ask for. -/
theorem Options.isShown_threshold (o : Options) (r : Record) :
    isShown o.threshold r = o.shows r.event := by
  obtain ⟨channel, event⟩ := r
  unfold isShown threshold shows
  cases o.verbose <;> cases event <;> rfl

/-- The records that a run shows are those in its log. -/
theorem Options.filter_isShown (o : Options) (records : List Record) :
    (records.filter (isShown o.threshold)).map .record = o.logged records := by
  rw [logged, funext o.isShown_threshold]

/-- The notices of records make up their log. -/
theorem Options.noticeText_logged (o : Options) (time : Nat → String) (records : List Record) :
    noticeText time (o.logged records) = o.log time records := by
  have hline : ∀ i (r : Record), (Notice.record r).text (time i) ++ "\n" =
      time i ++ " | " ++ r.event.levelWord ++ " | " ++ r.event.words ++ "\n" := by
    intro i r
    obtain ⟨channel, event⟩ := r
    cases event <;> rfl
  rw [noticeText, logged, log]
  refine congrArg String.join (List.mapIdx_eq_iff.2 fun i => ?_)
  rw [List.getElem?_mapIdx, List.getElem?_map, Option.map_map]
  exact congrArg (Option.map · _) (funext fun r => (hline i r).symm)

/-- An attempt that gives options is concluded by printing them. -/
theorem conclude_ok (o : Options) (rs : List Record) (qs : List String) (compiled : EngineOptions) :
    conclude (ε := ε) o ⟨rs, qs, .ok compiled⟩ =
      ⟨.status 0, (o.report compiled).toJson ++ "\n", o.logged rs⟩ := by
  rw [← o.filter_isShown]
  rfl

/-- An attempt that fails is concluded by saying so. -/
theorem conclude_error (o : Options) (rs : List Record) (qs : List String)
    (e : CompileError (Ending ε)) :
    conclude o ⟨rs, qs, .error e⟩ = ⟨(o.failure e).1, "", o.logged rs ++ (o.failure e).2⟩ := by
  rw [← o.filter_isShown]
  rfl

/-- The last notice comes last in the text. -/
theorem noticeText_concat (time : Nat → String) (notices : List Notice) (n : Notice) :
    noticeText time (notices ++ [n]) =
      noticeText time notices ++ (n.text (time notices.length) ++ "\n") := by
  rw [noticeText, List.mapIdx_concat, String.join_append]
  simp [noticeText]

/-- What is said of a failure comes after the log. -/
theorem Options.noticeText_failed (o : Options) (time : Nat → String) (records : List Record)
    {reason words : String} (h : reason = words) :
    noticeText time (o.logged records ++ [.compileFailure reason]) =
      o.log time records ++ ("Error compiling options: " ++ words ++ "\n") := by
  rw [noticeText_concat, noticeText_logged, h]
  rfl

theorem noticeText_singleton (time : Nat → String) (n : Notice) :
    noticeText time [n] = n.text (time 0) ++ "\n" :=
  (noticeText_concat time [] n).trans String.empty_append

/-- A run whose settings file does not load ends with the status 2, prints nothing, and says why. -/
theorem run_of_load_error {world : Surroundings ε} {a : Arguments} {e : LoadError}
    (h : Settings.load world.decode world.read a.config = .error e) :
    run world a = ⟨.status 2, "", [.loadFailure e]⟩ := by
  rw [run, h]

/-- A run whose settings file loads concludes what the settings compile to. -/
theorem run_of_load {world : Surroundings ε} {a : Arguments} {s : Settings}
    (h : Settings.load world.decode world.read a.config = .ok s) :
    run world a = conclude a.options (a.options.compile world.holdsStore s) := by
  rw [run, h]

/-- The settings that a call compiles are those of a store that is named. -/
theorem Options.view_eq (o : Options) (s : Settings) :
    o.view s =
      match o.store with
      | none => s
      | some name => if name = "" then s else s.storeView name := by
  unfold view
  cases o.store with
  | none => rfl
  | some name => simp

theorem Options.call_eq (o : Options) (holdsStore : String → Except ε Bool) (s : Settings) :
    o.call holdsStore s =
      StoreTuning.compile .compiler (o.view s) (o.tasks.getD 0) o.manifestDefault
        ((o.storeDirectory.map Path.text).getD "") o.mode holdsStore := by
  rw [call, view_eq]
  rfl

/-- Where a directory without a value is asked about, this is what goes wrong. -/
theorem Options.compile_of_asked {o : Options} {holdsStore : String → Except ε Bool} {s : Settings}
    (hnone : o.storeDirectory = none) (hasked : (o.call holdsStore s).queries ≠ []) :
    (o.compile holdsStore s).outcome = .error (.presence (.lacking .storeDirectory)) := by
  rw [call_eq] at hasked
  refine outcome_of_asked hasked ?_
  rw [presence, hnone]
  rfl

/-- Otherwise the settings are compiled by a call of the library, whose question has the errors of
the surroundings. -/
theorem Options.compile_of_given {o : Options} {holdsStore : String → Except ε Bool} {s : Settings}
    (hgiven : o.storeDirectory = none → (o.call holdsStore s).queries = []) :
    o.compile holdsStore s = (o.call holdsStore s).mapError (CompileError.map .broken) := by
  rw [call_eq] at hgiven ⊢
  refine compile_mapError_of ?_
  cases hdirectory : o.storeDirectory with
  | none => exact .inl (hdirectory ▸ hgiven hdirectory)
  | some d =>
    refine .inr ?_
    rw [presence, hdirectory]
    rfl

/-- What a run comes to, given what the call of the library came to. -/
def Agrees (o : Options) (time : Nat → String) (r : Attempt (CompileError ε) EngineOptions)
    (t : Transcript ε) : Prop :=
  let log := o.log time r.records
  match o.lacking? r, r.outcome with
  | some p, _ => t.ending = .lacking p ∧ t.output = ""
  | none, .ok compiled =>
    let report := if o.overridesOnly then compiled.overridesReport else compiled.report
    t.ending = .status 0 ∧ t.errorText time = log ∧ t.output = report.toJson ++ "\n" ∧
    t.output = String.join ((report.lines "" "").map (· ++ "\n"))
  | none, .error (.lookup e) =>
    t.ending = .status 1 ∧ t.output = "" ∧
    t.errorText time = log ++ ("Error compiling options: " ++ e.words ++ "\n")
  | none, .error (.budget e) =>
    t.ending = .status 1 ∧ t.output = "" ∧
    t.errorText time = log ++ ("Error compiling options: " ++ e.words ++ "\n")
  | none, .error (.presence e) =>
    t.ending = .broken e ∧ t.output = "" ∧ t.errorText time = log

theorem conclude_agrees (o : Options) (holdsStore : String → Except ε Bool) (s : Settings)
    (time : Nat → String) :
    Agrees o time (o.call holdsStore s) (conclude o (o.compile holdsStore s)) := by
  -- Without a directory the run and the call part at the question, and only there.
  by_cases hlacking : o.storeDirectory = none ∧ (o.call holdsStore s).queries ≠ []
  · have hbreaks : o.lacking? (o.call holdsStore s) = some .storeDirectory := by
      simp [Options.lacking?, hlacking]
    have hfailure := Options.compile_of_asked hlacking.1 hlacking.2
    rw [Agrees, hbreaks, conclude, hfailure]
    exact ⟨rfl, rfl⟩
  · have hgiven : o.storeDirectory = none → (o.call holdsStore s).queries = [] := by
      simpa using hlacking
    have hdirectory :
        (o.storeDirectory.isNone && !(o.call holdsStore s).queries.isEmpty) = false := by
      simpa [List.isEmpty_iff] using hlacking
    rw [Options.compile_of_given hgiven, Agrees, Options.lacking?, hdirectory,
      if_neg Bool.false_ne_true]
    generalize o.call holdsStore s = r
    obtain ⟨rs, qs, (e | e | e) | compiled⟩ := r
    · rw [Attempt.mapError, Except.mapError, conclude_error, CompileError.map, Options.failure]
      cases o.tasks <;> exact ⟨rfl, rfl, o.noticeText_failed time rs e.message_eq⟩
    · rw [Attempt.mapError, Except.mapError, conclude_error, CompileError.map]
      unfold Options.failure
      cases o.tasks with
      | some n => exact ⟨rfl, rfl, o.noticeText_failed time rs e.message_eq⟩
      | none =>
        -- Without a number of tasks there are none, so that the count is what goes wrong.
        cases e with
        | taskCount n => exact ⟨rfl, rfl⟩
        | negative n => exact ⟨rfl, rfl, o.noticeText_failed time rs (BudgetError.message_eq _)⟩
    · rw [Attempt.mapError, Except.mapError, conclude_error, CompileError.map, Options.failure,
        List.append_nil]
      cases o.tasks <;> exact ⟨rfl, rfl, o.noticeText_logged time rs⟩
    · rw [Attempt.mapError, Except.mapError, conclude_ok]
      cases o.tasks <;>
        exact ⟨rfl, o.noticeText_logged time rs, rfl, Report.toJson_eq_lines _⟩

/-- The library never comes to an option without a value if both of those it needs have one. -/
theorem Options.lacking?_eq_none {o : Options} (htasks : o.tasks.isSome = true)
    (hdirectory : o.storeDirectory.isSome = true) (r : Attempt (CompileError ε) EngineOptions) :
    o.lacking? r = none := by
  obtain ⟨n, hn⟩ := Option.isSome_iff_exists.1 htasks
  obtain ⟨d, hd⟩ := Option.isSome_iff_exists.1 hdirectory
  rw [lacking?, hn, hd]
  rfl

/-- The exit status, the output and what is said beside it agree with the library. Where the
settings file cannot be loaded, the status is 2, that is all there is to say, and neither the
options nor the question about the store play a part. Otherwise the run comes to what a call of the
library comes to: on the settings of a store if one is named, for a bulk load if that is asked for,
and with the other options as they are. A call that does not compile gives the status 1, and its
error is said after what was logged so far. An error of the question ends the run as it is. Only
options that compile are printed, as JSON with a line for each field and a line end: those that are
set if only they are asked for, or all. Options that have their values are all that a call needs.
-/
theorem run_agrees (world : Surroundings ε) (a : Arguments) (time : Nat → String) :
    let t := run world a
    match Settings.load world.decode world.read a.config with
    | .error e =>
      t.ending = .status 2 ∧ t.output = "" ∧
      t.errorText time = "Error loading config: " ++ e.message ++ "\n" ∧
      ∀ (holdsStore : String → Except ε Bool) (options : Options),
        run { world with holdsStore } { a with options } = t
    | .ok s =>
      let r := a.options.call world.holdsStore s
      Agrees a.options time r t ∧
      (a.options.tasks.isSome = true → a.options.storeDirectory.isSome = true →
        a.options.lacking? r = none) := by
  intro t
  have hrun : ∀ (holdsStore : String → Except ε Bool) (options : Options),
      run { world with holdsStore } { a with options } =
      match Settings.load world.decode world.read a.config with
      | .error e => ⟨.status 2, "", [.loadFailure e]⟩
      | .ok s => conclude options (options.compile holdsStore s) := fun _ _ => rfl
  have ht : t = _ := hrun world.holdsStore a.options
  cases hload : Settings.load world.decode world.read a.config with
  | error e =>
    simp only [hload] at ht hrun
    rw [ht]
    exact ⟨rfl, rfl, noticeText_singleton time _, hrun⟩
  | ok s =>
    simp only [hload] at ht
    rw [ht]
    exact ⟨conclude_agrees a.options world.holdsStore s time,
      fun htasks hdirectory => Options.lacking?_eq_none htasks hdirectory _⟩

/-- A settings file with an unknown codec for one store, which is absent. -/
def ordersFile : Surroundings Empty where
  decode _ _ := some (.map [(.text "stores", .map [(.text "orders", .map [
    (.text "compression", .text "zippy")])])])
  read _ := .ok (some .empty)
  holdsStore _ := .ok false

/-- A bulk load of the store, with a limit for its manifest. -/
def ordersOptions : Options :=
  { store := some "orders", manifestSize := some 4096, bulkLoad := true, overridesOnly := true }

/-- The run for the store says which codec stands in and that the options are prepared, and prints
the options that are set, with the limit for the manifest among them. -/
theorem run_agrees_ordersFile :
    ∃ s compiled,
      Settings.load ordersFile.decode ordersFile.read (.ofText "c.toml") = .ok s ∧
      (ordersOptions.call ordersFile.holdsStore s).outcome = .ok compiled ∧
      compiled.maxManifestFileSize = some 4096 ∧
      let t := run ordersFile ⟨.ofText "c.toml", ordersOptions⟩
      t.ending = .status 0 ∧
      t.errorText (fun _ => "noon") =
        "noon | WARNING | Unknown compression zippy, overwriting to SNAPPY_COMPRESSION\n" ++
        "noon | INFO | Using prepare_for_bulk_load for restore to .\n" ∧
      t.output = compiled.overridesReport.toJson ++ "\n" ∧
      (compiled.overridesReport.lines "" "").take 6 = [
        "\x7b",
        "  \"write_buffer_size\": 33554432,",
        "  \"max_write_buffer_number\": 6,",
        "  \"min_write_buffer_number_to_merge\": 1,",
        "  \"compression_type\": \"snappy\",",
        "  \"table_format_config\": \x7b"] := by
  have hload : Settings.load ordersFile.decode ordersFile.read (.ofText "c.toml") =
      .ok (.ofPairs [("stores.orders.compression", .text "zippy")]) := rfl
  have hrun := run_agrees ordersFile ⟨.ofText "c.toml", ordersOptions⟩ fun _ => "noon"
  simp only [hload] at hrun
  obtain ⟨⟨hending, hsaid, houtput, -⟩, -⟩ := hrun
  exact ⟨_, _, hload, rfl, rfl, hending, hsaid.trans (by decide +kernel), houtput,
    by decide +kernel⟩

end Command

end StoreTuning
