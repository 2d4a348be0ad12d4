import Mathlib
import StoreTuning.Proofs.Command.Agreement
import StoreTuning.Proofs.Settings.Flatten
import StoreTuning.Settings.Decode

/-!
# What is at the top of a settings file

A settings file is to have a table at its top, and nothing at all stands for an empty one. What
becomes of a file whose text its format accepts is decided by the value at the top and the format
alone (`Command.load_by_top`): a table gives its flattening, and what is no table is refused, so
that nothing is compiled. In YAML the refusal misses what counts as empty (`Value.PassedOver`): no,
zero, and text or a list without content are taken for an empty table, as nothing is
(`Command.emptyList_loads`).
-/

namespace StoreTuning

/-- A value that counts as empty, and is neither nothing nor a table. -/
inductive Value.PassedOver : Value → Prop where
  | no : PassedOver (.bool false)
  | zero : PassedOver (.int 0)
  | zeroFloat {x : Binary64} (h : x.isZero = true) : PassedOver (.float x)
  | emptyText : PassedOver (.text "")
  | emptyList : PassedOver (.list [])
  | emptyOther {f : Foreign} (h : f.isEmpty = true) : PassedOver (.other f)

/-- A value counts as empty that is nothing, an empty table, or passed over. -/
theorem Value.isEmpty_iff {v : Value} :
    v.isEmpty = true ↔ v = .null ∨ v = .map [] ∨ v.PassedOver := by
  constructor
  · intro h
    unfold isEmpty at h
    split at h
    · exact .inl rfl
    · rw [Bool.not_eq_true'] at h
      subst h
      exact .inr (.inr .no)
    · rw [eq_of_beq h]
      exact .inr (.inr .zero)
    · exact .inr (.inr (.zeroFloat h))
    · rw [String.isEmpty_iff.1 h]
      exact .inr (.inr .emptyText)
    · exact .inr (.inr (.emptyOther h))
    · rw [List.isEmpty_iff.1 h]
      exact .inr (.inr .emptyList)
    · rw [List.isEmpty_iff.1 h]
      exact .inr (.inl rfl)
  · rintro (rfl | rfl | h)
    · rfl
    · rfl
    · cases h with
      | no => rfl
      | zero => rfl
      | zeroFloat h => exact h
      | emptyText => rfl
      | emptyList => rfl
      | emptyOther h => exact h

/-- The value at the top is kept, but for what counts as empty in YAML. -/
theorem FileFormat.top_of_not {format : FileFormat} {v : Value}
    (h : ¬ (format = .yaml ∧ v.isEmpty = true)) : format.top v = v := by
  cases format with
  | toml => rfl
  | yaml => exact if_neg fun hempty => h ⟨rfl, hempty⟩

namespace Settings

variable {decode : Decoder} {read : FileReader} {p : Path} {bytes : ByteArray} {text : String}
  {v : Value}

/-- A file whose text its format accepts gives what the value at its top gives. -/
theorem load_of_decode (hread : read p = .ok (some bytes)) (htext : textOf? bytes = some text)
    (hv : decode (FileFormat.ofPath p) text = some v) :
    load decode read p = ofTop p ((FileFormat.ofPath p).top v) := by
  simp only [load, hread, htext, ofText, hv]

/-- A table is taken as it is in either format. -/
theorem ofTop_top_map (format : FileFormat) (table : List (Scalar × Value)) (p : Path) :
    ofTop p (format.top (.map table)) = ofTop p (.map table) := by
  cases format with
  | toml => rfl
  | yaml => cases table <;> rfl

/-- A table gives settings when they are its flattening and its keys all have a text. -/
theorem ofTop_map_eq_ok_iff {table : List (Scalar × Value)} {s : Settings} :
    ofTop p (.map table) = .ok s ↔ keysWithinDigitLimit table = true ∧ Flattening table s := by
  cases hlimit : keysWithinDigitLimit table with
  | false => simp [ofTop_of_not_within hlimit]
  | true =>
    rw [ofTop_of_within hlimit, Except.ok.injEq]
    constructor
    · rintro rfl
      exact ⟨rfl, ofNested_flattening table⟩
    · rintro ⟨-, hs⟩
      exact (ofNested_flattening table).eq hs

/-- What counts as empty in YAML gives no settings. -/
theorem ofTop_of_isEmpty (h : v.isEmpty = true) : ofTop p (FileFormat.yaml.top v) = .ok .empty := by
  rw [FileFormat.top, if_pos h]
  rfl

/-- What is no table is refused. -/
theorem ofTop_of_not_isTable (h : v.isTable = false) : ofTop p v = .error (.notTable p) := by
  cases v with
  | map table => cases h
  | scalar s => rfl
  | list xs => rfl

end Settings

namespace Command

open Settings

variable {ε : Type}

/-- What becomes of a settings file whose text its format accepts, by the value at its top. From a
table come the settings that are its flattening, and nothing else; if a key of it has no text, there
are none. From nothing, in YAML, come settings without keys. What is neither is refused, and a run
on the file ends there, with the status 2 and without output; but in YAML what counts as empty is
not refused, and comes to the same as nothing. -/
theorem load_by_top (world : Surroundings ε) (a : Arguments) {bytes : ByteArray} {text : String}
    {v : Value} (hread : world.read a.config = .ok (some bytes))
    (htext : StoreTuning.textOf? bytes = some text)
    (hv : world.decode (FileFormat.ofPath a.config) text = some v) :
    let loaded := Settings.load world.decode world.read a.config
    let yaml := FileFormat.ofPath a.config = .yaml
    (∀ table, v = .map table →
      (∀ s, loaded = .ok s ↔ keysWithinDigitLimit table = true ∧ Flattening table s) ∧
      (keysWithinDigitLimit table = false → loaded = .error .unprintable)) ∧
    (yaml → v = .null → loaded = .ok .empty) ∧
    (v.isTable = false → ¬ (yaml ∧ (v = .null ∨ v.PassedOver)) →
      loaded = .error (.notTable a.config) ∧
      (run world a).ending = .status 2 ∧ (run world a).output = "" ∧
      ∀ time, (run world a).errorText time =
        "Error loading config: Expected a table at the top of " ++ a.config.text ++ "\n") ∧
    (yaml → v.PassedOver → loaded = .ok .empty) := by
  intro loaded yaml
  have hloaded : loaded = ofTop a.config ((FileFormat.ofPath a.config).top v) :=
    load_of_decode hread htext hv
  have hempty : yaml → v.isEmpty = true → loaded = .ok .empty := by
    intro hyaml hv
    rw [hloaded, hyaml, ofTop_of_isEmpty hv]
  refine ⟨fun table htable => ?_, fun hyaml hnull => ?_, fun htable hnot => ?_,
    fun hyaml hpassed => ?_⟩
  · subst htable
    rw [hloaded, ofTop_top_map]
    exact ⟨fun s => ofTop_map_eq_ok_iff, fun hlimit => ofTop_of_not_within hlimit _⟩
  · exact hempty hyaml (Value.isEmpty_iff.2 (.inl hnull))
  · have hkept : ¬ (FileFormat.ofPath a.config = .yaml ∧ v.isEmpty = true) := by
      rintro ⟨hyaml, hv⟩
      obtain hnull | hmap | hpassed := Value.isEmpty_iff.1 hv
      · exact hnot ⟨hyaml, .inl hnull⟩
      · rw [hmap] at htable
        cases htable
      · exact hnot ⟨hyaml, .inr hpassed⟩
    have hrefused : loaded = .error (.notTable a.config) := by
      rw [hloaded, FileFormat.top_of_not hkept, ofTop_of_not_isTable htable]
    rw [run_of_load_error hrefused]
    refine ⟨hrefused, rfl, rfl, fun time => ?_⟩
    have hwords : "Error loading config: Expected a table at the top of " =
        "Error loading config: " ++ "Expected a table at the top of " := by decide
    rw [Transcript.errorText, noticeText_singleton, hwords]
    exact congrArg (· ++ "\n") String.append_assoc.symm
  · exact hempty hyaml (Value.isEmpty_iff.2 (.inr (.inr hpassed)))

/-- Surroundings with one settings file, of a given text, and no store. -/
def oneFile (text : String) : Surroundings Empty where
  decode := FileFormat.decode
  read _ := .ok (some text.toUTF8)
  holdsStore _ := .ok false

/-- Arguments with a settings file, and nothing else asked for. -/
def onFile (name : String) : Arguments where
  config := .ofText name
  options := {}

/-- What is loaded from the file. -/
def loadedOne (name text : String) : Except LoadError Settings :=
  Settings.load (oneFile text).decode (oneFile text).read (onFile name).config

/-- What the file holds is what its format makes of its text. -/
theorem decode_oneFile {format : FileFormat} {name text : String} {v : Value}
    (hformat : FileFormat.ofPath (.ofText name) = format) (h : format.decode text = some v) :
    (oneFile text).decode (FileFormat.ofPath (onFile name).config) text = some v := by
  have hdecode : (oneFile text).decode = FileFormat.decode := rfl
  have hconfig : (onFile name).config = .ofText name := rfl
  rw [hdecode, hconfig, hformat, h]

/-- A truth value at the top of a YAML file ends the run if it is yes, and is taken for settings
without keys if it is no, like a file without anything in it. A table in TOML gives its settings. -/
theorem load_by_top_oneFile :
    (run (oneFile "yes") (onFile "c.yml")).ending = .status 2 ∧
    (run (oneFile "yes") (onFile "c.yml")).output = "" ∧
    loadedOne "c.yml" "no" = .ok .empty ∧ loadedOne "c.yml" "" = .ok .empty ∧
    ∃ s, loadedOne "c.toml" "a.b=1" = .ok s ∧ s.keys = ["a.b"] := by
  have hyaml : FileFormat.ofPath (.ofText "c.yml") = .yaml := by decide +kernel
  have htoml : FileFormat.ofPath (.ofText "c.toml") = .toml := by decide +kernel
  have hyes : FileFormat.yaml.decode "yes" = some (.bool true) := by cbv
  have hno : FileFormat.yaml.decode "no" = some (.bool false) := by cbv
  have hnothing : FileFormat.yaml.decode "" = some .null := by cbv
  have htable : FileFormat.toml.decode "a.b=1" =
      some (.map [(.text "a", .map [(.text "b", .int 1)])]) := by cbv
  obtain ⟨-, -, hrefused, -⟩ :=
    load_by_top (oneFile "yes") (onFile "c.yml") rfl (by cbv) (decode_oneFile hyaml hyes)
  obtain ⟨-, -, -, hpassed⟩ :=
    load_by_top (oneFile "no") (onFile "c.yml") rfl (by cbv) (decode_oneFile hyaml hno)
  obtain ⟨-, hempty, -, -⟩ :=
    load_by_top (oneFile "") (onFile "c.yml") rfl (by cbv) (decode_oneFile hyaml hnothing)
  obtain ⟨hflat, -, -, -⟩ :=
    load_by_top (oneFile "a.b=1") (onFile "c.toml") rfl (by cbv) (decode_oneFile htoml htable)
  obtain ⟨-, hending, houtput, -⟩ := hrefused rfl (by rintro ⟨-, h | h⟩ <;> cases h)
  obtain ⟨hsettings, -⟩ := hflat _ rfl
  have hloaded := (hsettings _).2 ⟨by decide +kernel, ofNested_flattening _⟩
  exact ⟨hending, houtput, hpassed hyaml .no, hempty hyaml rfl, _, hloaded, by decide +kernel⟩

/-- A list without items is no table, and it is neither refused nor does it end the run. -/
theorem emptyList_loads :
    FileFormat.yaml.decode "[]\n" = some (.list []) ∧ (Value.list []).isTable = false ∧
    loadedOne "c.yaml" "[]\n" = .ok .empty ∧
    (run (oneFile "[]\n") (onFile "c.yaml")).ending = .status 0 := by
  have hlist : FileFormat.yaml.decode "[]\n" = some (.list []) := by cbv
  have hyaml : FileFormat.ofPath (onFile "c.yaml").config = .yaml := by decide +kernel
  have hload : loadedOne "c.yaml" "[]\n" = .ok .empty := by
    refine (load_of_decode rfl (by cbv) (decode_oneFile hyaml hlist)).trans ?_
    rw [hyaml]
    exact ofTop_of_isEmpty rfl
  refine ⟨hlist, rfl, hload, ?_⟩
  rw [run_of_load hload]
  decide +kernel

end Command

end StoreTuning
