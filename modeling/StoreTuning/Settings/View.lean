import StoreTuning.Settings.Basic

/-!
# Views of settings

A view holds the settings whose keys start with a stem, under what follows the stem or under the
whole key. Dropping a stem never makes one key of two (`Settings.dropStem?_eq_some_iff`). The view
of a store lays the store's own settings over those of its container.
-/

namespace StoreTuning.Settings

/-- What follows some characters at the start of others. -/
def after? : List Char → List Char → Option (List Char)
  | [], cs => some cs
  | _ :: _, [] => none
  | p :: ps, c :: cs => if p = c then after? ps cs else none

theorem after?_eq_some_iff {ps cs rest : List Char} :
    after? ps cs = some rest ↔ cs = ps ++ rest := by
  induction ps generalizing cs with
  | nil => simp [after?]
  | cons p ps ih =>
    cases cs with
    | nil => simp [after?]
    | cons c cs => by_cases h : p = c <;> simp [after?, h, ih, eq_comm]

/-- What follows a stem in a key that starts with it. -/
def dropStem? (stem key : String) : Option String :=
  (after? stem.toList key.toList).map String.ofList

/-- A key that starts with a stem is the stem and what follows it. -/
theorem dropStem?_eq_some_iff {stem key rest : String} :
    dropStem? stem key = some rest ↔ key = stem ++ rest := by
  simp only [dropStem?, Option.map_eq_some_iff, after?_eq_some_iff]
  constructor
  · rintro ⟨cs, h, rfl⟩
    exact String.toList_inj.1 (by simp [h])
  · rintro rfl
    exact ⟨rest.toList, by simp, by simp⟩

/-- Whether a key starts with a stem. -/
def startsWith (stem key : String) : Bool :=
  (dropStem? stem key).isSome

/-- The entries whose keys start with a stem, under what follows it. -/
def stripEntries (stem : String) (es : List (String × Value)) : List (String × Value) :=
  es.filterMap fun e => (dropStem? stem e.1).map fun key => (key, e.2)

theorem keys_stripEntries (stem : String) (es : List (String × Value)) :
    Entries.keys (stripEntries stem es) = (Entries.keys es).filterMap (dropStem? stem) := by
  induction es with
  | nil => rfl
  | cons e es ih =>
    cases h : dropStem? stem e.1 <;> simpa [stripEntries, Entries.keys, List.filterMap_cons, h]
      using ih

/-- Dropping one stem from distinct keys leaves distinct keys. -/
theorem nodup_keys_stripEntries {stem : String} {es : List (String × Value)}
    (h : (Entries.keys es).Nodup) : (Entries.keys (stripEntries stem es)).Nodup := by
  rw [keys_stripEntries]
  refine List.Pairwise.filterMap _ (fun a a' hne b hb b' hb' hbb' => hne ?_) h
  rw [dropStem?_eq_some_iff] at hb hb'
  rw [hb, hb', hbb']

/-- The settings under a stem, by what follows the stem. -/
def view (s : Settings) (stem : String) : Settings where
  entries := stripEntries stem s.entries
  nodup := nodup_keys_stripEntries s.nodup

/-- The settings under a stem, by their whole keys. -/
def keep (s : Settings) (stem : String) : Settings where
  entries := s.entries.filter fun e => startsWith stem e.1
  nodup := s.nodup.sublist (List.filter_sublist.map _)

/-- The stem of the settings that all stores of a container share. -/
def containerStem : String := "container."

/-- The stem of the settings of one store. -/
def storeStem (name : String) : String :=
  "stores." ++ name ++ "."

/-- The settings of one store: those of the container, with the store's own over them. -/
def storeView (s : Settings) (name : String) : Settings :=
  (s.keep containerStem).overlay (s.view (storeStem name))

end StoreTuning.Settings
