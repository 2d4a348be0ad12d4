import StoreTuning.Value.Printer

/-!
# Settings

Settings are a map from dotted keys to values that remembers the order of its keys. They are never
changed in place: a view or a flattened table is a new map. No key occurs twice
(`Settings.nodup`), so an entry is found wherever it stands (`Settings.get?_eq_some_iff`).
-/

namespace StoreTuning

/-- A map from dotted keys to values, in the order in which the keys were first given. -/
structure Settings where
  /-- The keys with their values, in order. -/
  entries : List (String × Value)
  /-- No key occurs twice. -/
  nodup : (Entries.keys entries).Nodup

namespace Settings

/-- Settings without keys. -/
def empty : Settings :=
  ⟨[], by simp⟩

/-- The settings that pairs leave: a repeated key keeps its first place and takes the last value. -/
def ofPairs (pairs : List (String × Value)) : Settings :=
  ⟨Entries.ofList pairs, Entries.nodup_keys_ofList pairs⟩

/-- The keys in order. -/
def keys (s : Settings) : List String :=
  Entries.keys s.entries

/-- The number of keys. -/
def size (s : Settings) : Nat :=
  s.entries.length

/-- The value under a key. -/
def get? (s : Settings) (key : String) : Option Value :=
  s.entries.lookup key

/-- Whether a key is present, whatever its value. -/
def contains (s : Settings) (key : String) : Bool :=
  (s.get? key).isSome

/-- The settings with a value put under a key. -/
def insert (s : Settings) (key : String) (v : Value) : Settings :=
  ⟨Entries.insert key v s.entries, Entries.nodup_keys_insert s.nodup⟩

/-- The settings without a key. -/
def erase (s : Settings) (key : String) : Settings :=
  ⟨s.entries.filter fun e => e.1 != key, s.nodup.sublist (List.filter_sublist.map _)⟩

/-- The settings with those of another map put over them. -/
def overlay (s t : Settings) : Settings :=
  t.entries.foldl (fun u e => u.insert e.1 e.2) s

/-- Whether two settings have the same keys with equal values, in any order. -/
def same (s t : Settings) : Bool :=
  s.size == t.size && s.entries.all fun e => (t.get? e.1).any e.2.same

/-- The settings as messages show them. -/
def describe (s : Settings) : String :=
  "MapConfig(" ++ (Value.map (s.entries.map fun e => (.text e.1, e.2))).quoted ++ ")"

/-- An entry is found under its key, and what is found under a key is an entry. -/
theorem get?_eq_some_iff {s : Settings} {key : String} {v : Value} :
    s.get? key = some v ↔ (key, v) ∈ s.entries := by
  obtain ⟨es, h⟩ := s
  simp only [get?]
  induction es with
  | nil => simp
  | cons e es ih =>
    obtain ⟨k, w⟩ := e
    rw [Entries.keys_cons, List.nodup_cons] at h
    by_cases hk : key = k
    · subst hk
      have : (key, v) ∉ es := fun hm => h.1 (List.mem_map_of_mem (f := Prod.fst) hm)
      simp [this, eq_comm]
    · have hk' : (key == k) = false := by simpa using hk
      simp [List.lookup_cons, hk', hk, ih h.2]

@[simp]
theorem get?_insert_self (s : Settings) (key : String) (v : Value) :
    (s.insert key v).get? key = some v :=
  Entries.lookup_insert_self key v s.entries

theorem get?_insert_of_ne (s : Settings) {key key' : String} (v : Value) (h : key' ≠ key) :
    (s.insert key v).get? key' = s.get? key' :=
  Entries.lookup_insert_of_ne v s.entries h

end Settings

end StoreTuning
