import StoreTuning.Engine.Edit
import StoreTuning.Proofs.Compile.NumberFields

/-!
# Changes in sequence

Options are changed by writing a value into a field, or by laying the profile for bulk loads over
them, which is the same as writing fourteen values (`EngineOptions.prepareForBulkLoad_eq_writeAll`).
After any sequence of changes a field holds what the last of them that writes it gave it, or what it
held at first (`EngineOptions.changed_lastWrite`). The format of table files is never touched.
-/

namespace StoreTuning

/-- The fields of compaction. The parameters of universal compaction are one field, which is written
as a whole. -/
inductive CompactionField where
  | style
  | number (f : CompactionNumber)
  | disableAutoCompactions
  | universal
  deriving DecidableEq, Repr

/-- The fields of the options that are no records, and those of the compaction inside. -/
inductive EngineField where
  | manualWalFlush
  | walRecoveryMode
  | compressionType
  | createIfMissing
  | errorIfExists
  | preparedForBulkLoad
  | number (f : EngineNumber)
  | compaction (f : CompactionField)
  deriving DecidableEq, Repr

/-- What the field holds. -/
@[reducible]
def CompactionField.Holds : CompactionField → Type
  | style => Option CompactionStyle
  | number _ => Option Int
  | disableAutoCompactions => Option Bool
  | universal => Option UniversalCompaction

/-- What the field holds. -/
@[reducible]
def EngineField.Holds : EngineField → Type
  | manualWalFlush => Option Bool
  | walRecoveryMode => Option RecoveryMode
  | compressionType => Option Compression
  | createIfMissing => Option Bool
  | errorIfExists => Option Bool
  | preparedForBulkLoad => Bool
  | number _ => Option Int
  | compaction f => f.Holds

/-- What compaction holds in the field. -/
def Compaction.field (c : Compaction) : (f : CompactionField) → f.Holds
  | .style => c.style
  | .number f => c.number f
  | .disableAutoCompactions => c.disableAutoCompactions
  | .universal => c.universal

/-- What the options hold in the field, if the record that it belongs to is there. -/
def EngineOptions.field? (o : EngineOptions) : (f : EngineField) → Option f.Holds
  | .manualWalFlush => some o.manualWalFlush
  | .walRecoveryMode => some o.walRecoveryMode
  | .compressionType => some o.compressionType
  | .createIfMissing => some o.createIfMissing
  | .errorIfExists => some o.errorIfExists
  | .preparedForBulkLoad => some o.preparedForBulkLoad
  | .number f => some (o.number f)
  | .compaction f => o.compaction.map (·.field f)

/-- The change of the field to a value. -/
def CompactionField.edit : (f : CompactionField) → f.Holds → CompactionEdit
  | style, v => .style v
  | number f, v => .number f v
  | disableAutoCompactions, v => .disableAutoCompactions v
  | universal, v => .universal v

/-- The change of the field to a value. -/
def EngineField.edit : (f : EngineField) → f.Holds → EngineEdit
  | manualWalFlush, v => .manualWalFlush v
  | walRecoveryMode, v => .walRecoveryMode v
  | compressionType, v => .compressionType v
  | createIfMissing, v => .createIfMissing v
  | errorIfExists, v => .errorIfExists v
  | preparedForBulkLoad, v => .preparedForBulkLoad v
  | number f, v => .number f v
  | compaction f, v => .inCompaction (f.edit v)

/-- A value for a field. -/
structure Write where
  field : EngineField
  value : field.Holds

/-- The options with a value written into its field. -/
def EngineOptions.write (o : EngineOptions) (w : Write) : EngineOptions :=
  o.edit (w.field.edit w.value)

/-- The options with values written one after the other. -/
def EngineOptions.writeAll (o : EngineOptions) (ws : List Write) : EngineOptions :=
  ws.foldl write o

/-- The profile for bulk loads: ten values for compaction, and four outside of it. -/
def bulkLoadProfile : List Write := [
  ⟨.compaction (.number .level0FileNumCompactionTrigger), some 0x40000000⟩,
  ⟨.compaction (.number .level0SlowdownWritesTrigger), some 0x40000000⟩,
  ⟨.compaction (.number .level0StopWritesTrigger), some 0x40000000⟩,
  ⟨.compaction (.number .softPendingCompactionBytesLimit), some 0⟩,
  ⟨.compaction (.number .hardPendingCompactionBytesLimit), some 0⟩,
  ⟨.compaction .disableAutoCompactions, some true⟩,
  ⟨.compaction (.number .maxCompactionBytes), some 0x1000000000000000⟩,
  ⟨.compaction (.number .numLevels), some 2⟩,
  ⟨.compaction (.number .maxBackgroundCompactions), some 2⟩,
  ⟨.compaction (.number .targetFileSizeBase), some 0x10000000⟩,
  ⟨.number .maxWriteBufferNumber, some 6⟩,
  ⟨.number .minWriteBufferNumberToMerge, some 1⟩,
  ⟨.number .maxBackgroundFlushes, some 4⟩,
  ⟨.preparedForBulkLoad, true⟩]

example : bulkLoadProfile.length = 14 := rfl

/-- A change to options: a value is written, or the profile for bulk loads is laid over them. -/
inductive EngineChange where
  | write (w : Write)
  | prepare

namespace EngineChange

/-- What the change writes. -/
def writes : EngineChange → List Write
  | write w => [w]
  | prepare => bulkLoadProfile

/-- Whether the change writes the field. -/
def Writes (c : EngineChange) (f : EngineField) : Prop :=
  ∃ w ∈ c.writes, w.field = f

instance (c : EngineChange) (f : EngineField) : Decidable (c.Writes f) :=
  inferInstanceAs (Decidable (∃ w ∈ c.writes, w.field = f))

/-- A change writes a field once at most. -/
theorem nodup_writes (c : EngineChange) : (c.writes.map Write.field).Nodup := by
  cases c with
  | write w => exact List.nodup_singleton _
  | prepare => decide

/-- A field that a change does not write is none of those that it writes. -/
theorem field_ne {c : EngineChange} {f : EngineField} (h : ¬ c.Writes f) :
    ∀ w ∈ c.writes, w.field ≠ f :=
  fun w hw hf => h ⟨w, hw, hf⟩

end EngineChange

namespace EngineOptions

/-- The options after a change. -/
def change (o : EngineOptions) : EngineChange → EngineOptions
  | .write w => o.write w
  | .prepare => o.prepareForBulkLoad

/-- The options after changes one after the other. -/
def changed (o : EngineOptions) (cs : List EngineChange) : EngineOptions :=
  cs.foldl change o

end EngineOptions

/-! ## One write -/

theorem Compaction.field_edit_self (c : Compaction) (f : CompactionField) (v : f.Holds) :
    (c.edit (f.edit v)).field f = v := by
  cases f with
  | number f => exact (c.number_setNumber v f f).trans (if_pos rfl)
  | _ => rfl

theorem Compaction.field_edit_of_ne (c : Compaction) {f g : CompactionField} (v : g.Holds)
    (h : g ≠ f) : (c.edit (g.edit v)).field f = c.field f := by
  cases g with
  | number g =>
    cases f with
    | number f =>
      have hne : f ≠ g := fun heq => h (heq ▸ rfl)
      exact (c.number_setNumber v g f).trans (if_neg hne)
    | _ => cases g <;> rfl
  | _ =>
    cases f with
    | number f => cases f <;> rfl
    -- The same field twice is against the hypothesis, and two fields do not meet.
    | _ => first | exact absurd rfl h | rfl

namespace EngineOptions

variable {o p : EngineOptions} {f : EngineField} {ws : List Write} {cs : List EngineChange}

/-- A write leaves the format of table files. -/
theorem tableFormat_write (o : EngineOptions) (w : Write) :
    (o.write w).tableFormat = o.tableFormat := by
  obtain ⟨f, v⟩ := w
  cases f with
  | number f => cases f <;> rfl
  | _ => rfl

/-- A write leaves compaction where it is. -/
theorem isSome_compaction_write (o : EngineOptions) (w : Write) :
    (o.write w).compaction.isSome = o.compaction.isSome := by
  obtain ⟨f, v⟩ := w
  cases f with
  | number f => cases f <;> rfl
  | compaction f => exact Option.isSome_map
  | _ => rfl

/-- A field holds what was written into it. -/
theorem field?_write_self (h : o.compaction.isSome) (w : Write) :
    (o.write w).field? w.field = some w.value := by
  obtain ⟨f, v⟩ := w
  cases f with
  | number f => exact congrArg some ((o.number_setNumber v f f).trans (if_pos rfl))
  | compaction f =>
    obtain ⟨c, hc⟩ := Option.isSome_iff_exists.1 h
    show (o.compaction.map (·.edit (f.edit v))).map (·.field f) = some v
    rw [hc, Option.map_some, Option.map_some, c.field_edit_self]
  | _ => rfl

/-- A write leaves the other fields. -/
theorem field?_write_of_ne (o : EngineOptions) {w : Write} (h : w.field ≠ f) :
    (o.write w).field? f = o.field? f := by
  obtain ⟨g, v⟩ := w
  cases g with
  | number g =>
    cases f with
    | number f =>
      have hne : f ≠ g := fun heq => h (heq ▸ rfl)
      exact congrArg some ((o.number_setNumber v g f).trans (if_neg hne))
    | _ => cases g <;> rfl
  | compaction g =>
    cases f with
    | compaction f =>
      have hne : g ≠ f := fun heq => h (heq ▸ rfl)
      show (o.compaction.map (·.edit (g.edit v))).map (·.field f) = o.compaction.map (·.field f)
      rw [Option.map_map]
      exact congrArg (o.compaction.map ·) (funext fun c => c.field_edit_of_ne v hne)
    | number f => cases f <;> rfl
    | _ => rfl
  | _ =>
    cases f with
    | number f => cases f <;> rfl
    | _ => first | exact absurd rfl h | rfl

/-- The fields and the format of table files make up options with a compaction. -/
theorem ext_field? (ho : o.compaction.isSome) (hp : p.compaction.isSome)
    (hformat : o.tableFormat = p.tableFormat) (h : ∀ f, o.field? f = p.field? f) : o = p := by
  obtain ⟨c, hc⟩ := Option.isSome_iff_exists.1 ho
  obtain ⟨d, hd⟩ := Option.isSome_iff_exists.1 hp
  have hfield : ∀ f, c.field f = d.field f := by
    intro f
    have hf : o.compaction.map (·.field f) = p.compaction.map (·.field f) := h (.compaction f)
    rw [hc, hd] at hf
    exact Option.some.inj hf
  have hstyle : c.style = d.style := hfield .style
  have hswitch : c.disableAutoCompactions = d.disableAutoCompactions :=
    hfield .disableAutoCompactions
  have huniversal : c.universal = d.universal := hfield .universal
  have hcd : c = d := by
    refine Compaction.numberFields.ext (fun f => hfield (.number f)) ?_
    show (c.style, c.disableAutoCompactions, c.universal) =
      (d.style, d.disableAutoCompactions, d.universal)
    rw [hstyle, hswitch, huniversal]
  have hvalue : ∀ f v w, o.field? f = some v → p.field? f = some w → v = w :=
    fun f v w hv hw => Option.some.inj (hv.symm.trans ((h f).trans hw))
  refine numberFields.ext (fun f => hvalue (.number f) _ _ rfl rfl) ?_
  show o.choices = p.choices
  rw [choices, choices, hformat, hc, hd, hcd, hvalue .manualWalFlush _ _ rfl rfl,
    hvalue .walRecoveryMode _ _ rfl rfl, hvalue .compressionType _ _ rfl rfl,
    hvalue .createIfMissing _ _ rfl rfl, hvalue .errorIfExists _ _ rfl rfl,
    hvalue .preparedForBulkLoad _ _ rfl rfl]

/-! ## Writes in sequence -/

theorem writeAll_append (o : EngineOptions) (ws ws' : List Write) :
    o.writeAll (ws ++ ws') = (o.writeAll ws).writeAll ws' :=
  List.foldl_append

theorem tableFormat_writeAll (o : EngineOptions) (ws : List Write) :
    (o.writeAll ws).tableFormat = o.tableFormat := by
  induction ws generalizing o with
  | nil => rfl
  | cons w ws ih => exact (ih (o.write w)).trans (o.tableFormat_write w)

theorem isSome_compaction_writeAll (o : EngineOptions) (ws : List Write) :
    (o.writeAll ws).compaction.isSome = o.compaction.isSome := by
  induction ws generalizing o with
  | nil => rfl
  | cons w ws ih => exact (ih (o.write w)).trans (o.isSome_compaction_write w)

/-- A field that is not written is left. -/
theorem field?_writeAll_of_ne (o : EngineOptions) (h : ∀ w ∈ ws, w.field ≠ f) :
    (o.writeAll ws).field? f = o.field? f := by
  induction ws generalizing o with
  | nil => rfl
  | cons w ws ih =>
    obtain ⟨hw, hws⟩ := List.forall_mem_cons.1 h
    exact (ih (o.write w) hws).trans (o.field?_write_of_ne hw)

/-- A field that is written once holds what was written. -/
theorem field?_writeAll_of_mem (h : o.compaction.isSome) (hnodup : (ws.map Write.field).Nodup)
    {w : Write} (hw : w ∈ ws) : (o.writeAll ws).field? w.field = some w.value := by
  obtain ⟨before, after, rfl⟩ := List.append_of_mem hw
  rw [List.map_append, List.map_cons] at hnodup
  have hnot : w.field ∉ after.map Write.field :=
    (List.nodup_cons.1 (List.nodup_append.1 hnodup).2.1).1
  have hafter : ∀ w' ∈ after, w'.field ≠ w.field :=
    fun w' hw' heq => hnot (heq ▸ List.mem_map_of_mem hw')
  have hbefore : (o.writeAll before).compaction.isSome := by
    rw [isSome_compaction_writeAll]
    exact h
  rw [writeAll_append]
  exact (field?_writeAll_of_ne _ hafter).trans (field?_write_self hbefore w)

/-! ## Changes in sequence -/

/-- To lay the profile over options is to write its values. -/
theorem prepareForBulkLoad_eq_writeAll (o : EngineOptions) :
    o.prepareForBulkLoad = o.writeAll bulkLoadProfile := by
  obtain ⟨_, _, _, _, c, _⟩ := o
  cases c <;> rfl

/-- A change is what it writes. -/
theorem change_eq_writeAll (o : EngineOptions) (c : EngineChange) :
    o.change c = o.writeAll c.writes := by
  cases c with
  | write w => rfl
  | prepare => exact o.prepareForBulkLoad_eq_writeAll

/-- A field that a change writes holds what the change gives it. -/
theorem field?_change_of_mem (h : o.compaction.isSome) {c : EngineChange} {w : Write}
    (hw : w ∈ c.writes) : (o.change c).field? w.field = some w.value := by
  rw [change_eq_writeAll]
  exact field?_writeAll_of_mem h c.nodup_writes hw

/-- A field that a change does not write is left. -/
theorem field?_change_of_not_writes (o : EngineOptions) {c : EngineChange} (h : ¬ c.Writes f) :
    (o.change c).field? f = o.field? f := by
  rw [change_eq_writeAll]
  exact field?_writeAll_of_ne o (EngineChange.field_ne h)

theorem tableFormat_change (o : EngineOptions) (c : EngineChange) :
    (o.change c).tableFormat = o.tableFormat := by
  rw [change_eq_writeAll, tableFormat_writeAll]

theorem isSome_compaction_change (h : o.compaction.isSome) (c : EngineChange) :
    (o.change c).compaction.isSome := by
  rw [change_eq_writeAll, isSome_compaction_writeAll]
  exact h

theorem changed_append (o : EngineOptions) (cs cs' : List EngineChange) :
    o.changed (cs ++ cs') = (o.changed cs).changed cs' :=
  List.foldl_append

theorem tableFormat_changed (o : EngineOptions) (cs : List EngineChange) :
    (o.changed cs).tableFormat = o.tableFormat := by
  induction cs generalizing o with
  | nil => rfl
  | cons c cs ih => exact (ih (o.change c)).trans (o.tableFormat_change c)

theorem isSome_compaction_changed (h : o.compaction.isSome) (cs : List EngineChange) :
    (o.changed cs).compaction.isSome := by
  induction cs generalizing o with
  | nil => exact h
  | cons c cs ih => exact ih (isSome_compaction_change h c)

/-- A field that no change writes is left. -/
theorem field?_changed_of_not_writes (o : EngineOptions) (h : ∀ c ∈ cs, ¬ c.Writes f) :
    (o.changed cs).field? f = o.field? f := by
  induction cs generalizing o with
  | nil => rfl
  | cons c cs ih =>
    obtain ⟨hc, hcs⟩ := List.forall_mem_cons.1 h
    exact (ih (o.change c) hcs).trans (o.field?_change_of_not_writes hc)

/-- Changes depend on a field through what it holds only. -/
theorem field?_changed_congr (ho : o.compaction.isSome) (hp : p.compaction.isSome)
    (h : o.field? f = p.field? f) : (o.changed cs).field? f = (p.changed cs).field? f := by
  induction cs generalizing o p with
  | nil => exact h
  | cons c cs ih =>
    refine ih (isSome_compaction_change ho c) (isSome_compaction_change hp c) ?_
    -- A change that writes the field makes both alike, and any other leaves them so.
    by_cases hf : c.Writes f
    · obtain ⟨w, hw, rfl⟩ := hf
      rw [field?_change_of_mem ho hw, field?_change_of_mem hp hw]
    · rw [o.field?_change_of_not_writes hf, p.field?_change_of_not_writes hf, h]

/-- A value for a field of the profile makes no difference to options that are prepared later. -/
theorem changed_write_prepare (h : o.compaction.isSome) {w : Write}
    (hw : EngineChange.prepare.Writes w.field) (cs : List EngineChange) :
    ((o.write w).changed cs).prepareForBulkLoad = (o.changed cs).prepareForBulkLoad := by
  have hwrite : (o.write w).compaction.isSome := isSome_compaction_change h (.write w)
  have hsome := isSome_compaction_changed h cs
  have hsome' := isSome_compaction_changed hwrite cs
  refine ext_field? (isSome_compaction_change hsome' .prepare)
    (isSome_compaction_change hsome .prepare) ?_ fun f => ?_
  · calc ((o.write w).changed cs).prepareForBulkLoad.tableFormat
        = ((o.write w).changed cs).tableFormat := tableFormat_change _ .prepare
      _ = o.tableFormat := (tableFormat_changed _ cs).trans (o.tableFormat_write w)
      _ = (o.changed cs).tableFormat := (o.tableFormat_changed cs).symm
      _ = (o.changed cs).prepareForBulkLoad.tableFormat := (tableFormat_change _ .prepare).symm
  · show (((o.write w).changed cs).change .prepare).field? f =
      ((o.changed cs).change .prepare).field? f
    by_cases hf : EngineChange.prepare.Writes f
    · obtain ⟨w', hw', rfl⟩ := hf
      rw [field?_change_of_mem hsome' hw', field?_change_of_mem hsome hw']
    · -- The field is not the one that was written, which is a field of the profile.
      have hne : w.field ≠ f := fun heq => hf (heq ▸ hw)
      rw [field?_change_of_not_writes _ hf, field?_change_of_not_writes _ hf]
      exact field?_changed_congr hwrite h (o.field?_write_of_ne hne)

/-- A value for a field outside of the profile may be written before or after it. -/
theorem prepare_write_comm (h : o.compaction.isSome) {w : Write}
    (hw : ¬ EngineChange.prepare.Writes w.field) :
    (o.write w).prepareForBulkLoad = o.prepareForBulkLoad.write w := by
  have hwrite : (o.write w).compaction.isSome := isSome_compaction_change h (.write w)
  have hprepare : o.prepareForBulkLoad.compaction.isSome := isSome_compaction_change h .prepare
  refine ext_field? (isSome_compaction_change hwrite .prepare)
    (isSome_compaction_change hprepare (.write w)) ?_ fun f => ?_
  · calc (o.write w).prepareForBulkLoad.tableFormat
        = (o.write w).tableFormat := tableFormat_change _ .prepare
      _ = o.tableFormat := o.tableFormat_write w
      _ = o.prepareForBulkLoad.tableFormat := (o.tableFormat_change .prepare).symm
      _ = (o.prepareForBulkLoad.write w).tableFormat := (tableFormat_write _ w).symm
  · show ((o.write w).change .prepare).field? f = ((o.change .prepare).write w).field? f
    by_cases heq : w.field = f
    · subst heq
      rw [field?_change_of_not_writes _ hw, field?_write_self h]
      exact (field?_write_self hprepare w).symm
    · rw [field?_write_of_ne _ heq]
      by_cases hf : EngineChange.prepare.Writes f
      · obtain ⟨w', hw', rfl⟩ := hf
        rw [field?_change_of_mem hwrite hw', field?_change_of_mem h hw']
      · rw [field?_change_of_not_writes _ hf, field?_change_of_not_writes _ hf,
          field?_write_of_ne _ heq]

/-- After changes, however many, a field holds the value that the last of them to write it gave it,
or else what it held at first, and the format of table files is as it was. To lay the profile over
options is to write its fourteen values. So laying it twice is laying it once, it hides what was
written to its fields before, it may be laid before or after a value is written elsewhere, and under
it the file counts of level 0 that start a compaction, slow writes and stop them are in order. -/
theorem changed_lastWrite (h : o.compaction.isSome) :
    (∀ before c after, ∀ w ∈ c.writes, (∀ c' ∈ after, ¬ c'.Writes w.field) →
      (o.changed (before ++ c :: after)).field? w.field = some w.value) ∧
    (∀ cs f, (∀ c ∈ cs, ¬ c.Writes f) → (o.changed cs).field? f = o.field? f) ∧
    (∀ cs, (o.changed cs).tableFormat = o.tableFormat ∧ (o.changed cs).compaction.isSome) ∧
    o.prepareForBulkLoad = o.writeAll bulkLoadProfile ∧
    o.prepareForBulkLoad.prepareForBulkLoad = o.prepareForBulkLoad ∧
    (∀ w, EngineChange.prepare.Writes w.field → ∀ cs,
      ((o.write w).changed cs).prepareForBulkLoad = (o.changed cs).prepareForBulkLoad) ∧
    (∀ w, ¬ EngineChange.prepare.Writes w.field →
      (o.write w).prepareForBulkLoad = o.prepareForBulkLoad.write w) ∧
    ∃ c start slow stop, o.prepareForBulkLoad.compaction = some c ∧
      c.level0FileNumCompactionTrigger = some start ∧ c.level0SlowdownWritesTrigger = some slow ∧
      c.level0StopWritesTrigger = some stop ∧ start ≤ slow ∧ slow ≤ stop := by
  refine ⟨fun before c after w hw hafter => ?_, fun cs f => o.field?_changed_of_not_writes,
    fun cs => ⟨o.tableFormat_changed cs, isSome_compaction_changed h cs⟩,
    o.prepareForBulkLoad_eq_writeAll, o.prepareForBulkLoad_idem,
    fun w hw => changed_write_prepare h hw, fun w hw => prepare_write_comm h hw, ?_⟩
  · have hbefore := isSome_compaction_changed h before
    rw [changed_append]
    exact (field?_changed_of_not_writes _ hafter).trans (field?_change_of_mem hbefore hw)
  · obtain ⟨c, hc⟩ := Option.isSome_iff_exists.1 h
    refine ⟨c.prepareForBulkLoad, _, _, _, ?_, rfl, rfl, rfl, Int.le_refl _, Int.le_refl _⟩
    exact congrArg (Option.map Compaction.prepareForBulkLoad) hc

/-- Options with universal compaction and some numbers, none of them the profile's. -/
def tunedOptions : EngineOptions where
  tableFormat := some { blockSize := some 512 }
  compaction := some {
    numLevels := some 7
    targetFileSizeMultiplier := some 3
    universal := some { sizeRatio := some 1 } }

/-- Changes that write some fields twice, around two preparations. -/
def overlappingChanges : List EngineChange := [
  .write ⟨.compaction (.number .numLevels), some 9⟩,
  .prepare,
  .write ⟨.compaction (.number .level0SlowdownWritesTrigger), none⟩,
  .prepare,
  .write ⟨.compaction .universal, none⟩,
  .write ⟨.compaction (.number .numLevels), some 4⟩]

/-- The second preparation sets a file count again, the number of levels is what was written after
it, and the growth of file sizes is as it was. The number of levels could as well be left out before
a preparation, and the codec may be chosen after one. -/
theorem changed_lastWrite_tunedOptions :
    (tunedOptions.changed overlappingChanges).field?
      (.compaction (.number .level0SlowdownWritesTrigger)) = some (some 0x40000000) ∧
    (tunedOptions.changed overlappingChanges).field? (.compaction (.number .numLevels)) =
      some (some 4) ∧
    (tunedOptions.changed overlappingChanges).field?
      (.compaction (.number .targetFileSizeMultiplier)) = some (some 3) ∧
    ((tunedOptions.write ⟨.compaction (.number .numLevels), none⟩).changed
        [.write ⟨.errorIfExists, none⟩]).prepareForBulkLoad =
      (tunedOptions.changed [.write ⟨.errorIfExists, none⟩]).prepareForBulkLoad ∧
    (tunedOptions.write ⟨.compressionType, some .zlib⟩).prepareForBulkLoad =
      tunedOptions.prepareForBulkLoad.write ⟨.compressionType, some .zlib⟩ := by
  obtain ⟨hlast, hkept, -, -, -, hhidden, hfree, -⟩ :=
    changed_lastWrite (o := tunedOptions) rfl
  refine ⟨?_, ?_, ?_, ?_, ?_⟩
  · exact hlast (overlappingChanges.take 3) .prepare (overlappingChanges.drop 4)
      ⟨.compaction (.number .level0SlowdownWritesTrigger), some 0x40000000⟩
      (.tail _ (.head _)) (by decide)
  · exact hlast (overlappingChanges.take 5)
      (.write ⟨.compaction (.number .numLevels), some 4⟩) [] _ (.head _) (by decide)
  · exact hkept overlappingChanges (.compaction (.number .targetFileSizeMultiplier)) (by decide)
  · exact hhidden ⟨.compaction (.number .numLevels), none⟩ (by decide) _
  · exact hfree ⟨.compressionType, some .zlib⟩ (by decide)

end EngineOptions

end StoreTuning
