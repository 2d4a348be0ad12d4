import StoreTuning.Proofs.Compile.StoreBudget
import StoreTuning.Proofs.Settings.IntegerText

/-!
# Shares of budgets

A budget is given as an integer, or as text that spells one, or it is the built-in one
(`Budget.Given`). Options that compile hold shares of their budgets that together come as close to
them as equal shares of whole bytes can, and a share is not smaller when its budget is larger or its
tasks are fewer (`Job.compile_shares`).
-/

namespace StoreTuning

open Text.Numeral (Spells)

variable {ε : Type}

/-! ## Sharing -/

/-- A budget that is not negative is shared among at least one task. -/
theorem share_eq_ok {total tasks : Int} (htotal : 0 ≤ total) (htasks : 1 ≤ tasks) :
    share total tasks = .ok (total / tasks) := by
  rw [share, if_neg (by omega), if_neg (by omega)]

/-- A larger budget shared among fewer tasks gives no smaller share. -/
theorem share_mono {total total' tasks tasks' : Int} (hnonneg : 0 ≤ total) (htasks : 1 ≤ tasks')
    (htotal : total ≤ total') (hfewer : tasks' ≤ tasks) : total / tasks ≤ total' / tasks' := by
  have hshare : 0 ≤ total / tasks := Int.ediv_nonneg hnonneg (by omega)
  rw [Int.le_ediv_iff_mul_le (by omega)]
  calc total / tasks * tasks' ≤ total / tasks * tasks := Int.mul_le_mul_of_nonneg_left hfewer hshare
    _ ≤ total := Int.ediv_mul_le _ (by omega)
    _ ≤ total' := htotal

/-- To share a budget among tasks, and each share among tasks again, is to share it among all of
them. -/
theorem share_share (total : Int) {a b : Int} (ha : 1 ≤ a) (hb : 1 ≤ b) :
    (share total a >>= fun n => share n b) = share total (a * b) := by
  have hab : 1 ≤ a * b := by
    calc (1 : Int) ≤ a := ha
      _ = a * 1 := (Int.mul_one a).symm
      _ ≤ a * b := Int.mul_le_mul_of_nonneg_left hb (by omega)
  by_cases htotal : 0 ≤ total
  · rw [share_eq_ok htotal ha, share_eq_ok htotal hab]
    show share (total / a) b = _
    rw [share_eq_ok (Int.ediv_nonneg htotal (by omega)) hb, Int.ediv_ediv_of_nonneg (by omega)]
  · -- A negative budget is refused both ways, for the same reason.
    rw [share, share, if_neg (by omega), if_pos (by omega), if_neg (by omega), if_pos (by omega)]
    rfl

/-! ## Budgets -/

namespace Budget

/-- The bytes of a budget that settings give. -/
inductive Given (b : Budget) (s : Settings) : Int → Prop
  /-- There is an integer under the key. -/
  | native {total : Int} (h : s.get? b.key = some (.int total)) : Given b s total
  /-- There is a text under the key that spells an integer. -/
  | spelled {t : String} {total : Int} (h : s.get? b.key = some (.text t)) (ht : Spells t total) :
    Given b s total
  /-- The key is unspecified, so that the budget is the built-in one. -/
  | builtIn (h : s.Unspecified b.key) : Given b s b.fallback

variable {b : Budget} {s : Settings} {total total' : Int}

/-- A budget is read as it is given, if it is of 64 bits. -/
theorem Given.getInteger (h : b.Given s total) :
    s.getInteger b.key .long (some (.int b.fallback)) = Value.checkWidth b.key .long total := by
  cases h with
  | native h =>
    rw [Settings.getInteger, Settings.lookup_of_get? h rfl]
    rfl
  | spelled h ht => exact Settings.getInteger_of_spells h ht .long _
  | builtIn h =>
    rw [Settings.getInteger, Settings.lookup_default, Settings.specified?_eq_none_iff.2 h]
    rfl

/-- A budget that is read is the one that is given. -/
theorem Given.eq_of_getInteger (h : b.Given s total)
    (hread : s.getInteger b.key .long (some (.int b.fallback)) = .ok total') : total = total' := by
  rw [h.getInteger, Value.checkWidth] at hread
  split at hread
  · exact Except.ok.inj hread
  · cases hread

/-- A budget that is read is given. -/
theorem given_of_getInteger
    (h : s.getInteger b.key .long (some (.int b.fallback)) = .ok total) : b.Given s total := by
  have hgiven : ∃ n, b.Given s n := by
    rw [Settings.getInteger, Settings.lookup_default] at h
    cases hv : s.specified? b.key with
    | none => exact ⟨_, .builtIn (Settings.specified?_eq_none_iff.1 hv)⟩
    | some v =>
      have hget : s.get? b.key = some v := (Option.filter_eq_some_iff.1 hv).1
      have hread : v.readInteger b.key .long = .ok total := by
        rw [hv] at h
        exact h
      unfold Value.readInteger at hread
      split at hread
      next n => exact ⟨n, .native hget⟩
      next t =>
        split at hread
        next n hn => exact ⟨n, .spelled hget (Text.Numeral.parse?_eq_some_iff.1 hn)⟩
        next => cases hread
      next => cases hread
  obtain ⟨n, hn⟩ := hgiven
  rwa [hn.eq_of_getInteger h] at hn

end Budget

/-- Options that compile hold one task's share of each budget that is given. -/
theorem Job.share?_of_given {j : Job ε} {o : EngineOptions} (h : j.compile.outcome = .ok o)
    {b : Budget} {total : Int} (hgiven : b.Given j.settings total) :
    0 ≤ total ∧ 1 ≤ j.tasks ∧ b.share? o = some (total / j.tasks) := by
  obtain ⟨total', hread, hshare⟩ := j.share?_of_compile h b
  rw [hgiven.eq_of_getInteger hread]
  exact hshare

/-- Options that compile, in whichever mode, have a budget that is given, and hold the share of it
that leaves less than a byte for each task. Of two jobs that compile, whatever else they differ in,
one with a larger budget and no more tasks has no smaller share of it, and so has one with the same
budget and fewer tasks. To share a budget among tasks, and each share among tasks again, is to share
it among all of them, and a job that has a share of another for its budget shares it so. -/
theorem Job.compile_shares (j : Job ε) (b : Budget) :
    (∀ o, j.compile.outcome = .ok o → (∃ total, b.Given j.settings total) ∧
      ∀ total, b.Given j.settings total → ∃ n, b.share? o = some n ∧ 0 ≤ n ∧
        j.tasks * n ≤ total ∧ total < j.tasks * (n + 1)) ∧
    (∀ (k : Job ε) (o p : EngineOptions), j.compile.outcome = .ok o → k.compile.outcome = .ok p →
      ∀ total total', b.Given j.settings total → b.Given k.settings total' →
        total ≤ total' → k.tasks ≤ j.tasks →
          ∃ m n, b.share? o = some m ∧ b.share? p = some n ∧ m ≤ n) ∧
    (∀ total x y : Int, 1 ≤ x → 1 ≤ y →
      (share total x >>= fun n => share n y) = share total (x * y)) ∧
    ∀ (x y m : Int) (o p q : EngineOptions),
      ({ j with tasks := x } : Job ε).compile.outcome = .ok o → b.share? o = some m →
      ({ j with tasks := y, settings := j.settings.insert b.key (.int m) } : Job ε).compile.outcome =
        .ok p →
      ({ j with tasks := x * y } : Job ε).compile.outcome = .ok q → b.share? p = b.share? q := by
  refine ⟨fun o ho => ⟨?_, fun total htotal => ?_⟩,
    fun k o p ho hp total total' htotal htotal' hle hfewer => ?_,
    fun total x y hx hy => share_share total hx hy, fun x y m o p q ho hm hp hq => ?_⟩
  · obtain ⟨total, hread, -⟩ := j.share?_of_compile ho b
    exact ⟨total, Budget.given_of_getInteger hread⟩
  · obtain ⟨hnonneg, htasks, hshare⟩ := Job.share?_of_given ho htotal
    obtain ⟨hle, hlt⟩ := share_mul_le (share_eq_ok hnonneg htasks)
    exact ⟨_, hshare, Int.ediv_nonneg hnonneg (by omega), hle, hlt⟩
  · obtain ⟨hnonneg, -, hshare⟩ := Job.share?_of_given ho htotal
    obtain ⟨-, htasks, hshare'⟩ := Job.share?_of_given hp htotal'
    exact ⟨_, _, hshare, hshare', share_mono hnonneg htasks hle hfewer⟩
  · obtain ⟨total, hread, -, htasks, hshare⟩ := Job.share?_of_compile _ ho b
    -- The second job has the share for its budget, and the third has the budget of the first.
    have hgiven : b.Given (j.settings.insert b.key (.int m)) m :=
      .native (Settings.get?_insert_self _ _ _)
    obtain ⟨-, -, hp'⟩ := Job.share?_of_given hp hgiven
    obtain ⟨-, -, hq'⟩ := Job.share?_of_given hq (Budget.given_of_getInteger hread)
    obtain rfl : m = total / x := Option.some.inj (hm.symm.trans hshare)
    have hx : 0 ≤ x := by
      have htasks : 1 ≤ x := htasks
      omega
    rw [hp', hq', Int.ediv_ediv_of_nonneg hx]

/-- Seven tasks with a budget of their own for write buffers, which is spelled out. -/
def sevenTasks : Job Empty :=
  { plainJob (.ofPairs [("container.write.buffer.size.bytes", .text " +1_000")]) with tasks := 7 }

/-- Each of the seven tasks has 142 bytes of the thousand, and a seventh of the built-in block
cache. A thousand tasks and one have nothing, which is no more than that. -/
theorem compile_shares_sevenTasks :
    Budget.writeBuffers.Given sevenTasks.settings 1000 ∧
    (∃ o, sevenTasks.compile.outcome = .ok o ∧ o.writeBufferSize = some 142 ∧
      (7 * 142 : Int) ≤ 1000 ∧ (1000 : Int) < 7 * (142 + 1) ∧
      ∃ p n, ({ sevenTasks with tasks := 1001 } : Job Empty).compile.outcome = .ok p ∧
        p.writeBufferSize = some n ∧ n ≤ 142) ∧
    ∃ o n, sevenTasks.compile.outcome = .ok o ∧ Budget.blockCache.share? o = some n ∧
      7 * n ≤ 100 * 2 ^ 20 ∧ 100 * 2 ^ 20 < 7 * (n + 1) := by
  have hspells : Spells " +1_000" 1000 := by decide +kernel
  have hgiven : Budget.writeBuffers.Given sevenTasks.settings 1000 := .spelled rfl hspells
  have hbuiltIn : Budget.blockCache.Given sevenTasks.settings (100 * 2 ^ 20) :=
    .builtIn (by decide +kernel)
  obtain ⟨o, ho, hcheck⟩ := exists_ok_of_any (x := sevenTasks.compile.outcome)
    (p := fun o => o.writeBufferSize == some 142) (by decide +kernel)
  obtain ⟨p, hp, -⟩ := exists_ok_of_any
    (x := ({ sevenTasks with tasks := 1001 } : Job Empty).compile.outcome) (p := fun _ => true)
    (by decide +kernel)
  have hsize : o.writeBufferSize = some 142 := beq_iff_eq.1 hcheck
  refine ⟨hgiven, ⟨o, ho, hsize, ?_⟩, ?_⟩
  · obtain ⟨hbounds, -⟩ := Job.compile_shares sevenTasks .writeBuffers
    obtain ⟨n, hn, -, hle, hlt⟩ := (hbounds o ho).2 1000 hgiven
    cases hsize.symm.trans hn
    obtain ⟨-, hmono, -⟩ := Job.compile_shares { sevenTasks with tasks := 1001 } .writeBuffers
    obtain ⟨m, k, hm, hk, hmk⟩ :=
      hmono sevenTasks p o hp ho 1000 1000 hgiven hgiven (Int.le_refl _) (by decide)
    cases hsize.symm.trans hk
    exact ⟨hle, hlt, p, m, hp, hm, hmk⟩
  · obtain ⟨hbounds, -⟩ := Job.compile_shares sevenTasks .blockCache
    obtain ⟨n, hn, -, hle, hlt⟩ := (hbounds o ho).2 _ hbuiltIn
    exact ⟨o, n, ho, hn, hle, hlt⟩

end StoreTuning
