import Mathlib.Data.List.Induction
import StoreTuning.Entries

/-!
# What inserting leaves

Pairs with distinct keys stay as they are when they are inserted one after the other
(`ofList_eq_self`). In general a key has the place where it comes first and the value that it comes
with last (`keys_ofList`, `lookup_ofList`).
-/

namespace StoreTuning.Entries

variable {α β γ : Type} [BEq α]

/-- A pair that comes last is inserted last. -/
theorem ofList_concat (pairs : List (α × β)) (p : α × β) :
    ofList (pairs ++ [p]) = insert p.1 p.2 (ofList pairs) := by
  rw [ofList, List.foldl_append]
  rfl

variable [LawfulBEq α]

/-- A new key goes to the end. -/
theorem insert_of_not_mem {k : α} {v : β} {es : List (α × β)} (h : k ∉ keys es) :
    insert k v es = es ++ [(k, v)] := by
  induction es with
  | nil => rfl
  | cons e es ih =>
    obtain ⟨k', v'⟩ := e
    rw [keys_cons, List.mem_cons, not_or] at h
    have hk : (k' == k) = false := beq_eq_false_iff_ne.2 (Ne.symm h.1)
    rw [insert, hk, if_neg Bool.false_ne_true, ih h.2, List.cons_append]

/-- Pairs with distinct keys stay as they are. -/
theorem ofList_eq_self {pairs : List (α × β)} (h : (keys pairs).Nodup) : ofList pairs = pairs := by
  suffices ∀ es : List (α × β), (keys (es ++ pairs)).Nodup →
      pairs.foldl (fun es p => insert p.1 p.2 es) es = es ++ pairs from this [] h
  clear h
  induction pairs with
  | nil => exact fun es _ => (List.append_nil es).symm
  | cons p pairs ih =>
    obtain ⟨k, v⟩ := p
    intro es h
    have hk : k ∉ keys es := by
      intro hk
      rw [keys, List.map_append] at h
      exact (List.nodup_append.1 h).2.2 k hk k (by simp) rfl
    rw [List.foldl_cons, insert_of_not_mem hk, ih, List.append_assoc, List.singleton_append]
    rwa [List.append_assoc, List.singleton_append]

/-- The keys of a map built from pairs come in the order in which they come first. -/
theorem keys_ofList (pairs : List (α × β)) : keys (ofList pairs) = (keys pairs).eraseDups := by
  induction pairs using List.reverseRecOn with
  | nil => rfl
  | append_singleton pairs p ih =>
    have hkeys : keys (pairs ++ [p]) = keys pairs ++ [p.1] := List.map_append
    have hmem : p.1 ∈ keys (ofList pairs) ↔ p.1 ∈ keys pairs := by
      rw [ih, List.mem_eraseDups]
    rw [ofList_concat, hkeys, List.eraseDups_append, ← ih]
    by_cases hp : p.1 ∈ keys pairs
    · -- The key is there already, so that nothing is added to the keys.
      rw [keys_insert_of_mem (hmem.2 hp)]
      simp [List.removeAll, hp]
    · rw [keys_insert_of_not_mem (mt hmem.1 hp)]
      simp [List.removeAll, hp, List.eraseDups_cons]

/-- The value under a key of a map built from pairs is the last one that the pairs give it. -/
theorem lookup_ofList (pairs : List (α × β)) (k : α) :
    (ofList pairs).lookup k = pairs.reverse.lookup k := by
  induction pairs using List.reverseRecOn with
  | nil => rfl
  | append_singleton pairs p ih =>
    obtain ⟨k', v⟩ := p
    rw [ofList_concat, List.reverse_concat, List.lookup_cons]
    by_cases hk : k = k'
    · subst hk
      rw [lookup_insert_self, beq_self_eq_true]
    · rw [lookup_insert_of_ne v _ hk, ih, beq_false_of_ne hk]

/-- To insert what is filtered out is not noticed. -/
theorem filterMap_insert {f : α × β → Option γ} {k : α} (h : ∀ v, f (k, v) = none) (v : β)
    (es : List (α × β)) : (insert k v es).filterMap f = es.filterMap f := by
  induction es with
  | nil => rw [insert, List.filterMap_cons_none (h v)]
  | cons e es ih =>
    obtain ⟨k', v'⟩ := e
    by_cases hk : k' = k
    · rw [hk, insert, if_pos (beq_self_eq_true k), List.filterMap_cons_none (h v),
        List.filterMap_cons_none (h v')]
    · rw [insert, if_neg (by simpa using hk), List.filterMap_cons, List.filterMap_cons, ih]

end StoreTuning.Entries
