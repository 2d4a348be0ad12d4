import StoreTuning.Proofs.Engine.Prune

/-!
# The form of options

A form is a content with nothing set. Another content has that form when it has the same names in
the same order, holds any value or nothing where the form has a field, and the record of the form or
nothing where the form has a record (`Content.Fits`). Every record of options has the form of the
blank one (`EngineOptions.fieldsFit`), and so have records whose fields hold values of other types
than the declared ones. Whatever has that form has the full report pruned as its overrides
(`EngineOptions.overrides_prune_report`).
-/

namespace StoreTuning

open Content

mutual

/-- Whether a content has a form: a record stands for itself or is absent, and anything else stands
for any value. -/
def Content.Fits : Content → Content → Prop
  | record fs, record forms => FieldsFit fs forms
  | unset, record _ => True
  | _, record _ => False
  | record _, _ => False
  | _, _ => True

/-- Whether named contents have the forms of the same names, in their order. -/
def FieldsFit : List (String × Content) → List (String × Content) → Prop
  | [], [] => True
  | (name, c) :: fs, (name', form) :: forms => name = name' ∧ c.Fits form ∧ FieldsFit fs forms
  | _, _ => False

end

namespace Content

theorem keys_of_fieldsFit {fs forms : List (String × Content)} (h : FieldsFit fs forms) :
    Entries.keys fs = Entries.keys forms := by
  induction fs generalizing forms with
  | nil =>
    cases forms with
    | nil => rfl
    | cons form forms => exact h.elim
  | cons f fs ih =>
    cases forms with
    | nil => exact h.elim
    | cons form forms =>
      obtain ⟨hname, -, hrest⟩ := h
      rw [Entries.keys_cons, Entries.keys_cons, ih hrest, hname]

/-- The form of a record is a record. -/
theorem exists_record_of_fits {fs : List (String × Content)} {form : Content}
    (h : (record fs).Fits form) : ∃ forms, form = record forms ∧ FieldsFit fs forms := by
  cases form with
  | record forms => exact ⟨forms, rfl, h⟩
  | _ => exact h.elim

mutual

/-- What has a form without two fields of one name has no two fields of one name. -/
theorem distinct_of_fits : ∀ {c form : Content}, c.Fits form → form.full.Distinct →
    c.full.Distinct
  | record fs, record forms, h, hform =>
    ⟨by rw [keys_fullFields, keys_of_fieldsFit h, ← keys_fullFields]; exact hform.1,
      distinctFields_of_fieldsFit h hform.2⟩
  | unset, _, _, _ => trivial
  | flag _, _, _, _ => trivial
  | number _, _, _, _ => trivial
  | text _, _, _, _ => trivial

/-- The same for named contents. -/
theorem distinctFields_of_fieldsFit : ∀ {fs forms : List (String × Content)}, FieldsFit fs forms →
    DistinctFields (fullFields forms) → DistinctFields (fullFields fs)
  | [], [], _, _ => trivial
  | (_, _) :: _, (_, _) :: _, h, hforms =>
    ⟨distinct_of_fits h.2.1 hforms.1, distinctFields_of_fieldsFit h.2.2 hforms.2⟩

end

theorem exists_lookup_of_fieldsFit {fs forms : List (String × Content)} (h : FieldsFit fs forms)
    {name : String} {c : Content} (hc : fs.lookup name = some c) :
    ∃ form, forms.lookup name = some form ∧ c.Fits form := by
  induction fs generalizing forms with
  | nil => cases hc
  | cons f fs ih =>
    cases forms with
    | nil => exact h.elim
    | cons form forms =>
      obtain ⟨hname, hfit, hrest⟩ := h
      rw [List.lookup_cons] at hc ⊢
      rw [← hname]
      cases hn : name == f.1 with
      | true =>
        rw [hn] at hc
        obtain rfl : f.2 = c := Option.some.inj hc
        exact ⟨form.2, rfl, hfit⟩
      | false =>
        rw [hn] at hc
        exact ih hrest hc

/-- What is at a path has the form that is there. -/
theorem exists_at?_of_fits {c form part : Content} (h : c.Fits form) {path : List String}
    (hpart : c.at? path = some part) : ∃ form', form.at? path = some form' ∧ part.Fits form' := by
  induction path generalizing c form with
  | nil =>
    obtain rfl : c = part := Option.some.inj hpart
    exact ⟨form, rfl, h⟩
  | cons name path ih =>
    rw [at?_cons] at hpart
    obtain ⟨c', hc', hbelow⟩ := Option.bind_eq_some_iff.1 hpart
    cases c with
    | record fs =>
      cases form with
      | record forms =>
        obtain ⟨form', hform', hfit⟩ := exists_lookup_of_fieldsFit h hc'
        obtain ⟨form'', hform'', hfit''⟩ := ih hfit hbelow
        refine ⟨form'', ?_, hfit''⟩
        rw [at?_cons]
        show (forms.lookup name).bind _ = _
        rw [hform']
        exact hform''
      | _ => exact h.elim
    | _ => cases hc'

/-- A record that is at a path has the names of the form that is there. -/
theorem exists_keys_of_at? {c form : Content} (h : c.Fits form) {path : List String}
    {fs : List (String × Content)} (hfs : c.at? path = some (record fs)) :
    ∃ forms, form.at? path = some (record forms) ∧ Entries.keys fs = Entries.keys forms := by
  obtain ⟨form', hform, hfit⟩ := exists_at?_of_fits h hfs
  obtain ⟨forms, rfl, hfields⟩ := exists_record_of_fits hfit
  exact ⟨forms, hform, keys_of_fieldsFit hfields⟩

/-- The overrides leave names out and keep their order. -/
theorem keys_overrides_sublist (fs : List (String × Content)) :
    (Entries.keys (overrides fs)).Sublist (Entries.keys fs) := by
  induction fs with
  | nil => exact .slnil
  | cons f fs ih =>
    rw [overrides, Entries.keys_cons]
    cases f.2.override? with
    | none => exact .cons f.1 ih
    | some r => exact .cons_cons f.1 ih

/-! ## Options have their form -/

theorem fits_ofNumber (x : Option Int) : (ofNumber x).Fits unset := by
  cases x <;> exact trivial

theorem fits_ofFlag (x : Option Bool) : (ofFlag x).Fits unset := by
  cases x <;> exact trivial

theorem fits_ofChoice {α : Type} [Choice α] (x : Option α) : (ofChoice x).Fits unset := by
  cases x <;> exact trivial

/-- A record that may be absent has the form of any record of its kind. -/
theorem fits_ofRecord {α : Type} {fields : α → List (String × Content)} {form : α}
    (h : ∀ r, FieldsFit (fields r) (fields form)) (x : Option α) :
    (ofRecord fields x).Fits (record (fields form)) := by
  cases x with
  | none => exact trivial
  | some r => exact h r

theorem fieldsFit_append {fs gs forms forms' : List (String × Content)} (h : FieldsFit fs forms)
    (h' : FieldsFit gs forms') : FieldsFit (fs ++ gs) (forms ++ forms') := by
  induction fs generalizing forms with
  | nil =>
    cases forms with
    | nil => exact h'
    | cons form forms => exact h.elim
  | cons f fs ih =>
    cases forms with
    | nil => exact h.elim
    | cons form forms => exact ⟨h.1, h.2.1, ih h.2.2⟩

theorem fieldsFit_numbers {α : Type} (all : List α) (name : α → String)
    (number : α → Option Int) :
    FieldsFit (all.map fun f => (name f, ofNumber (number f)))
      (all.map fun f => (name f, unset)) := by
  induction all with
  | nil => exact trivial
  | cons f fs ih => exact ⟨rfl, fits_ofNumber (number f), ih⟩

end Content

/-- Options with every record that there can be and with nothing set. -/
def EngineOptions.blank : EngineOptions where
  tableFormat := some {}
  compaction := some { universal := some {} }

theorem TableFormat.fieldsFit (t : TableFormat) : FieldsFit t.fields (fields {}) :=
  fieldsFit_numbers TableNumber.all TableNumber.name t.number

theorem UniversalCompaction.fieldsFit (u : UniversalCompaction) : FieldsFit u.fields (fields {}) :=
  fieldsFit_append (fieldsFit_numbers UniversalNumber.all UniversalNumber.name u.number)
    ⟨rfl, fits_ofChoice u.stopStyle, trivial⟩

theorem Compaction.fieldsFit (c : Compaction) :
    FieldsFit c.fields (fields { universal := some {} }) :=
  fieldsFit_append
    ⟨rfl, fits_ofChoice c.style,
      fieldsFit_numbers CompactionNumber.all CompactionNumber.name c.number⟩
    ⟨rfl, fits_ofFlag c.disableAutoCompactions, rfl,
      fits_ofRecord UniversalCompaction.fieldsFit c.universal, trivial⟩

/-- All options have one form. -/
theorem EngineOptions.fieldsFit (o : EngineOptions) : FieldsFit o.fields blank.fields :=
  ⟨rfl, fits_ofFlag _, rfl, fits_ofChoice _, rfl, fits_ofNumber _, rfl, fits_ofNumber _,
    rfl, fits_ofNumber _, rfl, fits_ofChoice _,
    rfl, fits_ofRecord TableFormat.fieldsFit o.tableFormat,
    rfl, fits_ofRecord Compaction.fieldsFit o.compaction,
    rfl, fits_ofNumber _, rfl, fits_ofFlag _, rfl, fits_ofFlag _, rfl, fits_ofNumber _,
    rfl, fits_ofNumber _, rfl, fits_ofNumber _, rfl, fits_ofNumber _, rfl, fits_ofNumber _,
    rfl, fits_ofNumber _, rfl, trivial, trivial⟩

/-- No record of the form has two fields of one name. -/
theorem EngineOptions.distinct_blank : (record blank.fields).full.Distinct := by
  decide +kernel

/-- The overrides of options are their full report pruned. -/
theorem EngineOptions.overridesReport_eq_prune (o : EngineOptions) :
    o.overridesReport = o.report.prune :=
  congrArg Report.record (overrides_eq_prune o.fields)

/-- The overrides are the full report pruned, for all options and for whatever else has their form:
records with values of any type in their fields, with or without the records inside. The two reports
on options are those on their fields. The full report shows every field as it is. A value is at a
path of the overrides exactly when it is at that path of the full report, and what is null there is
not in the overrides. The names are those of the form in its order, all of them in the full report
and those that are left in the overrides. Below the top the overrides hold no null and no record
without entries, at any depth. -/
theorem EngineOptions.overrides_prune_report :
    (∀ o : EngineOptions, FieldsFit o.fields blank.fields ∧
      o.report = .record (fullFields o.fields) ∧
      o.overridesReport = .record (overrides o.fields) ∧ o.overridesReport = o.report.prune) ∧
    ∀ fs : List (String × Content), FieldsFit fs blank.fields →
      let all := Report.record (fullFields fs)
      let set := Report.record (overrides fs)
      set = all.prune ∧
      (∀ path, all.at? path = ((record fs).at? path).map full) ∧
      (∀ path v, v.isValue = true → (set.at? path = some v ↔ all.at? path = some v)) ∧
      (∀ path, all.at? path = some .null → set.at? path = none) ∧
      (∀ path gs, all.at? path = some (.record gs) →
        ∃ forms, (record blank.fields).at? path = some (record forms) ∧
          Entries.keys gs = Entries.keys forms) ∧
      (∀ path gs, set.at? path = some (.record gs) →
        ∃ forms, (record blank.fields).at? path = some (record forms) ∧
          (Entries.keys gs).Sublist (Entries.keys forms)) ∧
      ∀ path r, path ≠ [] → set.at? path = some r → r ≠ .null ∧ r ≠ .record [] := by
  refine ⟨fun o => ⟨o.fieldsFit, rfl, rfl, o.overridesReport_eq_prune⟩, ?_⟩
  intro fs h all set
  have hfit : (record fs).Fits (record blank.fields) := h
  have hdistinct : (record fs).full.Distinct := distinct_of_fits hfit distinct_blank
  have hall : ∀ path, all.at? path = ((record fs).at? path).map full := at?_full (record fs)
  have hset : ∀ path, path ≠ [] → set.at? path = ((record fs).at? path).bind override? :=
    fun path => at?_overrides hdistinct
  refine ⟨congrArg Report.record (overrides_eq_prune fs), hall, fun path v hv => ?_,
    fun path hnull => ?_, fun path gs hgs => ?_, fun path gs hgs => ?_, fun path r hpath hr => ?_⟩
  · by_cases hpath : path = []
    · -- The tops are records and no values.
      subst hpath
      constructor <;> intro htop <;> obtain rfl := Option.some.inj htop <;> cases hv
    · rw [hall, hset path hpath]
      cases (record fs).at? path with
      | none => simp
      | some c => simpa using override?_eq_some_value_iff hv
  · have hpath : path ≠ [] := by
      rintro rfl
      have htop : Report.record (fullFields fs) = .null := Option.some.inj hnull
      cases htop
    rw [hall, Option.map_eq_some_iff] at hnull
    obtain ⟨c, hc, hfull⟩ := hnull
    obtain rfl : c = unset := eq_unset_of_full hfull
    rw [hset path hpath, hc]
    rfl
  · rw [hall, Option.map_eq_some_iff] at hgs
    obtain ⟨c, hc, hfull⟩ := hgs
    obtain ⟨fs', rfl, rfl⟩ := exists_record_of_full hfull
    rw [keys_fullFields]
    exact exists_keys_of_at? hfit hc
  · obtain ⟨fs', hfs', rfl⟩ := exists_record_of_at?_overrides hdistinct hgs
    obtain ⟨forms, hforms, hkeys⟩ := exists_keys_of_at? hfit hfs'
    exact ⟨forms, hforms, hkeys ▸ keys_overrides_sublist fs'⟩
  · rw [hset path hpath] at hr
    obtain ⟨c, -, hc⟩ := Option.bind_eq_some_iff.1 hr
    exact override?_ne_null hc

/-- Fields of the form of options that hold other types than the declared ones: a text for a number,
nothing for a truth value, a number for a member of an enumeration. Two records in them have nothing
set. -/
def looseFields : List (String × Content) :=
  let o : EngineOptions := {
    manualWalFlush := some false
    writeBufferSize := some 0
    tableFormat := some {}
    compaction := some { numLevels := some (-1), universal := some {} } }
  o.fields.map fun (name, c) =>
    (name,
      match name with
      | "max_open_files" => text "many"
      | "compression_type" => number 7
      | "prepared_for_bulk_load" => unset
      | _ => c)

/-- What is left of them: falsy values stay, and the records without values go. -/
theorem overrides_prune_looseFields :
    FieldsFit looseFields EngineOptions.blank.fields ∧
    (Report.record (fullFields looseFields)).prune =
      .record [("manual_wal_flush", .flag false), ("write_buffer_size", .number 0),
        ("compression_type", .number 7), ("compaction", .record [("num_levels", .number (-1))]),
        ("max_open_files", .text "many")] := by
  have hfit : FieldsFit looseFields EngineOptions.blank.fields := by
    refine ⟨rfl, trivial, rfl, trivial, rfl, trivial, rfl, trivial, rfl, trivial, rfl, trivial,
      rfl, TableFormat.fieldsFit _, rfl, Compaction.fieldsFit _, rfl, trivial, rfl, trivial,
      rfl, trivial, rfl, trivial, rfl, trivial, rfl, trivial, rfl, trivial, rfl, trivial,
      rfl, trivial, rfl, trivial, trivial⟩
  obtain ⟨hprune, -⟩ := EngineOptions.overrides_prune_report.2 looseFields hfit
  exact ⟨hfit, hprune.symm.trans rfl⟩

end StoreTuning
