import StoreTuning.Settings.Lookup

/-!
# What a lookup gives

The value that is read for a key is the one that is specified, or else the fallback
(`Settings.lookup_default`), and only the entry of the key decides which (`Settings.lookup_congr`).
To put a value under a key, or to remove it, changes no other (`Settings.get?_put_of_ne`).
The only values that cannot be read as text hold an integer that is too long to print
(`Value.errorOf?_readText`). A key is missing only where it is unspecified and has no fallback
(`Settings.getInteger_eq_missing`).
-/

namespace StoreTuning

variable {ε ε' α β : Type}

/-- What went wrong in an outcome, if anything did. -/
def errorOf? : Except ε α → Option ε
  | .error e => some e
  | .ok _ => none

@[simp]
theorem errorOf?_ok (a : α) : errorOf? (.ok a : Except ε α) = none := rfl

@[simp]
theorem errorOf?_error (e : ε) : errorOf? (.error e : Except ε α) = some e := rfl

@[simp]
theorem errorOf?_mapError (f : ε → ε') (e : Except ε α) :
    errorOf? (e.mapError f) = (errorOf? e).map f := by
  cases e <;> rfl

/-- An outcome is an error exactly when that is what went wrong. -/
theorem errorOf?_eq_some_iff {x : Except ε α} {e : ε} : errorOf? x = some e ↔ x = .error e := by
  cases x <;> simp

/-- An outcome is a result exactly when nothing went wrong. -/
theorem errorOf?_eq_none_iff {x : Except ε α} : errorOf? x = none ↔ ∃ a, x = .ok a := by
  cases x <;> simp

/-- An outcome with a result that passes a test is that result. -/
theorem exists_ok_of_any {x : Except ε α} {p : α → Bool} (h : x.toOption.any p = true) :
    ∃ a, x = .ok a ∧ p a = true := by
  cases x with
  | error e => cases h
  | ok a => exact ⟨a, rfl, h⟩

/-- Renaming what went wrong leaves the results. -/
theorem eq_ok_of_mapError {f : ε → ε'} {x : Except ε α} {a : α} (h : x.mapError f = .ok a) :
    x = .ok a := by
  cases x with
  | error e => cases h
  | ok b =>
    cases h
    rfl

/-- A value that is refused is there. -/
theorem LookupError.reject_ne_missing (key key' : String) (v : Value) (x : Expectation) :
    reject key v x ≠ .missing key' := by
  unfold reject
  split <;> exact LookupError.noConfusion

/-- An integer fits a width between its bounds. -/
theorem Width.fits_iff {w : Width} {n : Int} : w.fits n = true ↔ w.low ≤ n ∧ n ≤ w.high := by
  simp [fits]

namespace Value

/-- A value that counts as unspecified holds no integer. -/
theorem withinDigitLimit_of_unspecified {v : Value} (h : v.unspecified = true) :
    v.withinDigitLimit = true := by
  unfold unspecified at h
  split at h
  · rfl
  · rfl
  · cases h

/-- Reading as text fails exactly for a value with an integer that is too long to print. -/
theorem errorOf?_readText (v : Value) :
    errorOf? v.readText = if v.withinDigitLimit then none else some .unprintable := by
  unfold readText
  split
  · rfl
  · cases v.withinDigitLimit <;> rfl

/-- What is read as text is how the value prints. -/
theorem eq_toText_of_readText {v : Value} {raw : String} (h : v.readText = .ok raw) :
    raw = v.toText := by
  unfold readText at h
  split at h
  · cases h
    rfl
  · split at h
    · cases h
      rfl
    · cases h

theorem readText_ne_missing (v : Value) (key : String) : v.readText ≠ .error (.missing key) := by
  unfold readText
  split
  · simp
  · split <;> simp

theorem readFlag_ne_missing (key key' : String) (v : Value) :
    v.readFlag key ≠ .error (.missing key') := by
  unfold readFlag
  split
  · simp
  · split <;> simp [LookupError.reject_ne_missing]
  · simp [LookupError.reject_ne_missing]

theorem checkWidth_ne_missing (key key' : String) (w : Width) (n : Int) :
    checkWidth key w n ≠ .error (.missing key') := by
  unfold checkWidth
  split <;> simp [LookupError.reject_ne_missing]

/-- An integer that is read fits its width. -/
theorem fits_of_readInteger {key : String} {w : Width} {v : Value} {n : Int}
    (h : v.readInteger key w = .ok n) : w.fits n = true := by
  have hcheck : ∀ m, checkWidth key w m = .ok n → w.fits n = true := by
    intro m hm
    unfold checkWidth at hm
    split at hm
    next hfits =>
      cases hm
      exact hfits
    next => cases hm
  unfold readInteger at h
  split at h
  · exact hcheck _ h
  · split at h
    · exact hcheck _ h
    · cases h
  · cases h

/-- The key is for the error only: an integer that is read under one key is read under any. -/
theorem readInteger_of_ok {key : String} {w : Width} {v : Value} {n : Int}
    (h : v.readInteger key w = .ok n) (key' : String) : v.readInteger key' w = .ok n := by
  have hcheck : ∀ m, checkWidth key w m = .ok n → checkWidth key' w m = .ok n := by
    intro m hm
    unfold checkWidth at hm ⊢
    split at hm
    next hfits => rwa [if_pos hfits]
    next => cases hm
  unfold readInteger at h ⊢
  split at h
  next m => exact hcheck m h
  next s =>
    split at h
    next m hm => exact hcheck m h
    next => cases h
  next => cases h

theorem readInteger_ne_missing (key key' : String) (w : Width) (v : Value) :
    v.readInteger key w ≠ .error (.missing key') := by
  unfold readInteger
  split
  · exact checkWidth_ne_missing _ _ _ _
  · split
    · exact checkWidth_ne_missing _ _ _ _
    · simp [LookupError.reject_ne_missing]
  · simp [LookupError.reject_ne_missing]

end Value

namespace Settings

/-- Settings with the same entries are the same. -/
theorem ext_entries {s t : Settings} (h : s.entries = t.entries) : s = t := by
  cases s
  cases t
  cases h
  rfl

/-- The entries are the keys with their values. -/
theorem map_keys_get? (s : Settings) :
    s.keys.map (fun key => (key, s.get? key)) = s.entries.map fun e => (e.1, some e.2) := by
  have hsome : ∀ e ∈ s.entries, (e.1, s.get? e.1) = (e.1, some e.2) := by
    intro e he
    rw [get?_eq_some_iff.2 he]
  rw [Settings.keys, Entries.keys, List.map_map]
  exact List.map_congr_left hsome

/-- Settings with the same keys in the same order, and the same values under them, are the same. -/
theorem ext_keys {s t : Settings} (hkeys : s.keys = t.keys)
    (hget : ∀ key, s.get? key = t.get? key) : s = t := by
  have hmap : s.entries.map (fun e => (e.1, some e.2)) =
      t.entries.map fun e => (e.1, some e.2) := by
    rw [← map_keys_get?, ← map_keys_get?, hkeys, funext hget]
  refine ext_entries ((List.map_inj_right ?_).1 hmap)
  rintro ⟨k, v⟩ ⟨k', v'⟩ heq
  cases heq
  rfl

/-- A value that does not count as unspecified is the one to read. -/
theorem specified?_of_get? {s : Settings} {key : String} {v : Value} (h : s.get? key = some v)
    (hv : v.unspecified = false) : s.specified? key = some v := by
  simp [specified?, h, Option.filter_some, hv]

/-- A value that counts as unspecified is not read. -/
theorem specified?_eq_none_of_get? {s : Settings} {key : String} {v : Value}
    (h : s.get? key = some v) (hv : v.unspecified = true) : s.specified? key = none := by
  simp [specified?, h, Option.filter_some, hv]

/-- There is nothing under a key that was removed. -/
theorem get?_erase_self (s : Settings) (key : String) : (s.erase key).get? key = none := by
  refine Option.eq_none_iff_forall_ne_some.2 fun v hv => ?_
  have hmem := (List.mem_filter.1 (get?_eq_some_iff.1 hv)).2
  simp at hmem

/-- Removing a key leaves the others. -/
theorem get?_erase_of_ne (s : Settings) {key key' : String} (h : key' ≠ key) :
    (s.erase key).get? key' = s.get? key' := by
  have hiff : ∀ v, (s.erase key).get? key' = some v ↔ s.get? key' = some v := by
    intro v
    rw [get?_eq_some_iff, get?_eq_some_iff, erase, List.mem_filter]
    exact and_iff_left (bne_iff_ne.2 h)
  exact Option.ext hiff

/-- The settings with a value put under a key, or with the key removed. -/
def put (s : Settings) (key : String) : Option Value → Settings
  | some v => s.insert key v
  | none => s.erase key

/-- Under a key there is what was put there. -/
theorem get?_put_self (s : Settings) (key : String) (v? : Option Value) :
    (s.put key v?).get? key = v? := by
  cases v? with
  | none => exact get?_erase_self s key
  | some v => exact get?_insert_self s key v

/-- What is put under a key leaves the others. -/
theorem get?_put_of_ne (s : Settings) {key key' : String} (v? : Option Value) (h : key' ≠ key) :
    (s.put key v?).get? key' = s.get? key' := by
  cases v? with
  | none => exact get?_erase_of_ne s h
  | some v => exact get?_insert_of_ne s v h

/-- A lookup depends on the entry of its key only. -/
theorem lookup_congr {s t : Settings} {key : String} (h : s.get? key = t.get? key)
    (fallback? : Option Value) : s.lookup key fallback? = t.lookup key fallback? := by
  unfold lookup specified?
  rw [h]

/-- Whether a key is present depends on its entry only. -/
theorem contains_congr {s t : Settings} {key : String} (h : s.get? key = t.get? key) :
    s.contains key = t.contains key := by
  rw [contains, contains, h]

/-- A value that is specified is what a lookup gives. -/
theorem lookup_of_get? {s : Settings} {key : String} {v : Value} (h : s.get? key = some v)
    (hv : v.unspecified = false) (fallback? : Option Value) : s.lookup key fallback? = .ok v := by
  unfold lookup
  rw [specified?_of_get? h hv]

/-- A truth value is read as it is. -/
theorem getFlag_of_get? {s : Settings} {key : String} {b : Bool} (h : s.get? key = some (.bool b))
    (fallback? : Option Value) : s.getFlag key fallback? = .ok b := by
  rw [getFlag, lookup_of_get? h rfl]
  rfl

/-- An integer that fits the width is read as it is. -/
theorem getInteger_of_get? {s : Settings} {key : String} {w : Width} {n : Int}
    (h : s.get? key = some (.int n)) (hn : w.fits n = true) (fallback? : Option Value) :
    s.getInteger key w fallback? = .ok n := by
  rw [getInteger, lookup_of_get? h rfl]
  show Value.checkWidth key w n = .ok n
  rw [Value.checkWidth, if_pos hn]

/-- An integer that settings give fits its width, and a fallback does too. -/
theorem fits_of_getInteger {s : Settings} {key : String} {w : Width} {fallback? : Option Value}
    {n : Int} (h : s.getInteger key w fallback? = .ok n) : w.fits n = true := by
  unfold getInteger at h
  cases hv : s.lookup key fallback? with
  | error e =>
    rw [hv] at h
    cases h
  | ok v =>
    rw [hv] at h
    exact Value.fits_of_readInteger h

/-- A text that is not blank is read as it is. -/
theorem getText_of_get? {s : Settings} {key raw : String} (h : s.get? key = some (.text raw))
    (hraw : Text.blank raw = false) (fallback? : Option Value) :
    s.getText key fallback? = .ok raw := by
  rw [getText, lookup_of_get? h hraw]
  rfl

/-- With a fallback a lookup never fails. -/
theorem lookup_default (s : Settings) (key : String) (d : Value) :
    s.lookup key (some d) = .ok ((s.specified? key).getD d) := by
  unfold lookup
  cases s.specified? key <;> rfl

/-- An integer that is read is also read where another key holds the same. -/
theorem getInteger_of_get?_eq {s t : Settings} {key key' : String} (h : s.get? key = t.get? key')
    {w : Width} {d : Value} {n : Int} (hn : s.getInteger key w (some d) = .ok n) :
    t.getInteger key' w (some d) = .ok n := by
  have hsame : s.specified? key = t.specified? key' := by rw [specified?, specified?, h]
  rw [getInteger, lookup_default] at hn ⊢
  rw [← hsame]
  exact Value.readInteger_of_ok hn key'

/-- A key is missing as an integer only when there is no fallback and the key, which is the one that
was looked up, is unspecified. -/
theorem getInteger_eq_missing {s : Settings} {key key' : String} {w : Width}
    {fallback? : Option Value} (h : s.getInteger key w fallback? = .error (.missing key')) :
    fallback? = none ∧ key' = key ∧ s.specified? key = none := by
  unfold getInteger lookup at h
  cases hv : s.specified? key with
  | some v =>
    rw [hv] at h
    exact absurd h (Value.readInteger_ne_missing _ _ _ _)
  | none =>
    cases fallback? with
    | some d =>
      rw [hv] at h
      exact absurd h (Value.readInteger_ne_missing _ _ _ _)
    | none =>
      rw [hv] at h
      cases h
      exact ⟨rfl, rfl, rfl⟩

/-- A truth value with a fallback is never missing. -/
theorem getFlag_default_ne_missing (s : Settings) (key key' : String) (d : Value) :
    s.getFlag key (some d) ≠ .error (.missing key') := by
  rw [getFlag, lookup_default]
  exact Value.readFlag_ne_missing key key' ((s.specified? key).getD d)

/-- A key that is present without a value holds nothing or blank text. -/
theorem unspecified_of_contains {s : Settings} {key : String} (h : s.contains key = true)
    (hs : s.specified? key = none) : ∃ v, s.get? key = some v ∧ v.unspecified = true := by
  obtain ⟨v, hv⟩ := Option.isSome_iff_exists.1 h
  cases hu : v.unspecified with
  | true => exact ⟨v, hv, hu⟩
  | false =>
    rw [specified?_of_get? hv hu] at hs
    cases hs

end Settings

end StoreTuning
