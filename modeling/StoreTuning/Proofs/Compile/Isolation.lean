import StoreTuning.Proofs.Compile.ReadSet
import StoreTuning.Proofs.Settings.View

/-!
# The stores of one container

Each store is compiled from its view of the container's settings, and the view shows the container's
keys and the store's own. What is done to the keys of the other stores, or to any keys outside of
the view, neither shows in it nor changes what comes of compiling it (`Job.compile_isolated`).
-/

namespace StoreTuning

open Settings (startsWith storeStem Outside)

variable {ε : Type}

/-- Settings with the same entries, in whatever order, compile alike. -/
theorem Job.compile_eq_of_get? (j : Job ε) {s t : Settings} (h : ∀ key, s.get? key = t.get? key) :
    ({ j with settings := s } : Job ε).compile = ({ j with settings := t } : Job ε).compile := by
  have hconfigure : (configure j.channel s j.tasks j.manifestDefault :
      Attempt (CompileError ε) EngineOptions) = configure j.channel t j.tasks j.manifestDefault :=
    configure_congr j.channel j.tasks j.manifestDefault (fun key _ => h key) fun _ key _ => h key
  unfold compile StoreTuning.compile
  rw [hconfigure]

/-- A store is not affected when settings are replaced: it sees the same keys with the same values,
and the job of compiling its view has the same options or the same error, and the same traces. -/
structure Job.Unaffected (j : Job ε) (name : String) (s t : Settings) : Prop where
  /-- The store sees the same. -/
  get? : ∀ key, (s.storeView name).get? key = (t.storeView name).get? key
  /-- Its view compiles alike. -/
  compile : ({ j with settings := s.storeView name } : Job ε).compile =
    ({ j with settings := t.storeView name } : Job ε).compile

/-- A store that sees the same is not affected. -/
theorem Job.unaffected_of_get? (j : Job ε) {name : String} {s t : Settings}
    (h : ∀ key, (s.storeView name).get? key = (t.storeView name).get? key) :
    j.Unaffected name s t :=
  ⟨h, j.compile_eq_of_get? h⟩

/-- A store is not affected by changes of keys outside of its view, however many, and its view keeps
even the order of its keys. It is not affected either when the settings are replaced by others that
agree with them on the keys of the container and of the store. In particular it is not affected by
what is done to the keys of another store, when the names of the two have no dot. -/
theorem Job.compile_isolated (j : Job ε) (s : Settings) (name : String) :
    (∀ other : String, name ≠ other → '.' ∉ name.toList → '.' ∉ other.toList →
      ∀ changes : List (String × Option Value),
        (∀ c ∈ changes, startsWith (storeStem other) c.1 = true) →
          (s.edited changes).storeView name = s.storeView name ∧
            j.Unaffected name s (s.edited changes)) ∧
    (∀ changes : List (String × Option Value), (∀ c ∈ changes, Outside name c.1) →
      (s.edited changes).storeView name = s.storeView name ∧
        j.Unaffected name s (s.edited changes)) ∧
    ∀ t : Settings, (∀ key, ¬ Outside name key → s.get? key = t.get? key) →
      j.Unaffected name s t := by
  have hchanges : ∀ changes : List (String × Option Value), (∀ c ∈ changes, Outside name c.1) →
      (s.edited changes).storeView name = s.storeView name ∧
        j.Unaffected name s (s.edited changes) := by
    intro changes h
    have hview : (s.edited changes).storeView name = s.storeView name :=
      Settings.storeView_edited h s
    exact ⟨hview, j.unaffected_of_get? fun key => by rw [hview]⟩
  refine ⟨fun other hne hname hother changes h => ?_, hchanges, fun t h => ?_⟩
  · have houtside : ∀ c ∈ changes, Outside name c.1 :=
      fun c hc => Settings.outside_of_startsWith hne hname hother (h c hc)
    exact hchanges changes houtside
  · exact j.unaffected_of_get? (Settings.get?_storeView_congr h)

/-- Settings of a container with two stores, where the name of one begins with that of the other. -/
def pairedStores : Settings :=
  .ofPairs [("stores.a.compression", .text "zlib"), ("stores.ab.compression", .text "lz4"),
    ("container.cache.size.bytes", .int 4096), ("stores.ab.block.size.bytes", .int 7)]

/-- Whatever is put for the store with the longer name, and whatever is taken from it, the other one
has the same view, and nothing comes of a key that belongs to neither. -/
theorem compile_isolated_pairedStores :
    let changes := [("stores.ab.block.size.bytes", none), ("stores.ab.a", some (.int 1)),
      ("stores.ab.compression", some .null)]
    ((pairedStores.edited changes).storeView "a").entries =
      [("container.cache.size.bytes", .int 4096), ("compression", .text "zlib")] ∧
    (plainJob .empty).Unaffected "a" pairedStores (pairedStores.edited changes) ∧
    (plainJob .empty).Unaffected "a" pairedStores (pairedStores.insert "compression" .null) := by
  intro changes
  obtain ⟨hother, -, hagree⟩ := Job.compile_isolated (plainJob .empty) pairedStores "a"
  obtain ⟨hview, hsame⟩ := hother "ab" (by decide) (by decide) (by decide) changes (by decide)
  refine ⟨?_, hsame, hagree _ fun key hkey => ?_⟩
  · rw [hview]
    rfl
  · have hne : key ≠ "compression" := by
      rintro rfl
      exact hkey ⟨by decide, by decide⟩
    exact (Settings.get?_insert_of_ne pairedStores .null hne).symm

end StoreTuning
