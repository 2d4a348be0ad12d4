/-!
# Ordered entries

Maps that remember the order of their keys, as lists of pairs. A key inserted again keeps its place
and takes the new value (`lookup_insert_self`, `lookup_insert_of_ne`), so no key occurs twice in
what `insert` builds (`nodup_keys_insert`).
-/

namespace StoreTuning.Entries

variable {α β : Type}

/-- Puts a value under a key: in the place of the key's entry, or at the end for a new key. -/
def insert [BEq α] (k : α) (v : β) : List (α × β) → List (α × β)
  | [] => [(k, v)]
  | (k', v') :: es => if k' == k then (k', v) :: es else (k', v') :: insert k v es

/-- The map that pairs leave when they are inserted one after the other. -/
def ofList [BEq α] (pairs : List (α × β)) : List (α × β) :=
  pairs.foldl (fun es p => insert p.1 p.2 es) []

/-- The keys in their order. -/
def keys (es : List (α × β)) : List α :=
  es.map Prod.fst

@[simp]
theorem keys_nil : keys ([] : List (α × β)) = [] := rfl

@[simp]
theorem keys_cons (k : α) (v : β) (es : List (α × β)) : keys ((k, v) :: es) = k :: keys es := rfl

variable [BEq α] [LawfulBEq α]

/-- A key that is present keeps the order of the keys. -/
theorem keys_insert_of_mem {k : α} {v : β} {es : List (α × β)} (h : k ∈ keys es) :
    keys (insert k v es) = keys es := by
  induction es with
  | nil => simp at h
  | cons e es ih =>
    obtain ⟨k', v'⟩ := e
    by_cases hk : k' = k
    · simp [insert, hk]
    · have : k ∈ keys es := by simpa [Ne.symm hk] using h
      simp [insert, hk, ih this]

/-- A new key comes last. -/
theorem keys_insert_of_not_mem {k : α} {v : β} {es : List (α × β)} (h : k ∉ keys es) :
    keys (insert k v es) = keys es ++ [k] := by
  induction es with
  | nil => rfl
  | cons e es ih =>
    obtain ⟨k', v'⟩ := e
    have hk : k' ≠ k := fun hk => h (by simp [hk])
    have : k ∉ keys es := fun hm => h (by simp [hm])
    simp [insert, hk, ih this]

/-- Inserting keeps the keys distinct. -/
theorem nodup_keys_insert {k : α} {v : β} {es : List (α × β)} (h : (keys es).Nodup) :
    (keys (insert k v es)).Nodup := by
  by_cases hk : k ∈ keys es
  · rwa [keys_insert_of_mem hk]
  · rw [keys_insert_of_not_mem hk, List.nodup_append]
    refine ⟨h, by simp, fun a ha b hb hab => hk ?_⟩
    rw [List.mem_singleton] at hb
    exact hb ▸ hab ▸ ha

/-- The keys of a map built from pairs are distinct. -/
theorem nodup_keys_ofList (pairs : List (α × β)) : (keys (ofList pairs)).Nodup := by
  suffices ∀ es : List (α × β), (keys es).Nodup →
      (keys (pairs.foldl (fun es p => insert p.1 p.2 es) es)).Nodup from this [] (by simp)
  induction pairs with
  | nil => exact fun _ h => h
  | cons p pairs ih => exact fun es h => ih _ (nodup_keys_insert h)

/-- A key just inserted has its new value. -/
theorem lookup_insert_self (k : α) (v : β) (es : List (α × β)) :
    (insert k v es).lookup k = some v := by
  induction es with
  | nil => simp [insert]
  | cons e es ih =>
    obtain ⟨k', v'⟩ := e
    by_cases hk : k' = k
    · simp [insert, hk]
    · have hk' : (k == k') = false := by simpa using Ne.symm hk
      simp [insert, hk, List.lookup_cons, hk', ih]

/-- Inserting leaves the values of the other keys. -/
theorem lookup_insert_of_ne {k k' : α} (v : β) (es : List (α × β)) (h : k' ≠ k) :
    (insert k v es).lookup k' = es.lookup k' := by
  induction es with
  | nil =>
    have : (k' == k) = false := by simpa using h
    simp [insert, List.lookup_cons, this]
  | cons e es ih =>
    obtain ⟨k₀, v₀⟩ := e
    by_cases hk : k₀ = k
    · have : (k' == k₀) = false := by simpa [hk] using h
      simp [insert, hk, List.lookup_cons, hk ▸ this]
    · simp only [insert, beq_iff_eq, hk, if_false, List.lookup_cons]
      split <;> simp [ih]

end StoreTuning.Entries
