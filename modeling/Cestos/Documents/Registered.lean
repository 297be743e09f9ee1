import Cestos.Documents.Catalog

/-!
# The catalog follows the source rows

After any flushes, the document of a file is active just when its row is, as long as the row holds
a stored path; and the documents of rows that are not there are not active. Pictures are left out,
and so are the documents of expenses that were deleted: these have source types of their own, which
the deletion does not look for.
-/

namespace Cestos.Documents

open Cestos.Core Cestos.Workbooks

variable {c c' : Catalog} {f : Flush} {row : SourceRow} {slot slot' : Slot}

/-! ## Source types -/

def SourceModel.all : List SourceModel := [.employeeDocument, .employeeResume, .assetDocument,
  .assetMedia, .assetLogFile, .projectRecord, .projectReport, .leaveRequest, .purchaseOrder,
  .fuelDelivery, .operationalExpensePayment, .operationalExpense]

theorem SourceModel.mem_all (model : SourceModel) : model ∈ all := by
  cases model <;> decide

theorem sourceType_inj {model model' : SourceModel} (hslot : slot ∈ model.slots)
    (hslot' : slot' ∈ model'.slots) (h : model.sourceType slot = model'.sourceType slot') :
    model = model' ∧ slot = slot' := by
  have hall : ∀ model ∈ SourceModel.all, ∀ slot ∈ model.slots, ∀ model' ∈ SourceModel.all,
      ∀ slot' ∈ model'.slots, model.sourceType slot = model'.sourceType slot' →
        model = model' ∧ slot = slot' := by decide +kernel
  exact hall model model.mem_all slot hslot model' model'.mem_all slot' hslot' h

/-- The table of another model is no source type, and expenses are not found under theirs. -/
theorem tablename_eq {model model' : SourceModel} (hslot : slot ∈ model.slots)
    (h : model'.tablename = model.sourceType slot) : model' = model := by
  have hall : ∀ model ∈ SourceModel.all, ∀ slot ∈ model.slots, ∀ model' ∈ SourceModel.all,
      model'.tablename = model.sourceType slot → model' = model := by decide +kernel
  exact hall model model.mem_all slot hslot model' model'.mem_all h

theorem sourceType_eq {model : SourceModel} (hmodel : model ≠ .operationalExpense)
    (hslot : slot ∈ model.slots) : model.sourceType slot = model.tablename := by
  have hall : ∀ model ∈ SourceModel.all, model ≠ .operationalExpense →
      ∀ slot ∈ model.slots, model.sourceType slot = model.tablename := by decide +kernel
  exact hall model model.mem_all hmodel slot hslot

theorem source_inj {key key' : RowKey} (hslot : slot ∈ key.model.slots)
    (hslot' : slot' ∈ key'.model.slots) (h : key.source slot = key'.source slot') :
    key = key' ∧ slot = slot' := by
  obtain ⟨model, organizationId, id⟩ := key
  obtain ⟨model', organizationId', id'⟩ := key'
  obtain ⟨rfl, htype, rfl⟩ := Source.mk.inj h
  obtain ⟨rfl, rfl⟩ := sourceType_inj hslot hslot' htype
  exact ⟨rfl, rfl⟩

/-! ## Values of a flush -/

theorem mem_sourceValues {values : LibraryDocument} :
    values ∈ f.sourceValues row ↔ ∃ slot ∈ row.model.slots, row.isPicture = false ∧
      ∃ path, row.storedPath slot = some path ∧ f.document row slot path = values := by
  unfold Flush.sourceValues
  rw [List.mem_filterMap]
  refine exists_congr fun slot => and_congr_right fun _ => ?_
  cases row.isPicture <;> simp

theorem nodup_sourceValues (f : Flush) (row : SourceRow) :
    ((f.sourceValues row).map source).Nodup := by
  have hslots : ∀ model ∈ SourceModel.all, model.slots.Nodup := by decide +kernel
  have hsource : (f.sourceValues row).map source = (row.model.slots.filter fun slot =>
      !row.isPicture && (row.storedPath slot).isSome).map row.source := by
    unfold Flush.sourceValues
    induction row.model.slots with
    | nil => rfl
    | cons slot slots ih =>
        rw [List.filterMap_cons, List.filter_cons]
        cases hpicture : row.isPicture with
        | true => simp
        | false =>
            cases hpath : row.storedPath slot with
            | none => simpa [hpicture] using ih
            | some path =>
                simp only [hpicture] at ih
                exact congrArg (row.source slot :: ·) ih
  rw [hsource]
  refine List.Nodup.map_on ?_ ((hslots row.model row.model.mem_all).filter _)
  intro slot hslot slot' hslot' h
  exact (source_inj (List.mem_of_mem_filter hslot) (List.mem_of_mem_filter hslot') h).2

theorem nodup_values (f : Flush) :
    ((f.written.flatMap f.sourceValues).map source).Nodup := by
  have hkeys := f.keys_nodup
  rw [List.map_append] at hkeys
  have hwritten := List.pairwise_map.1 (List.nodup_append.1 hkeys).1
  rw [List.map_flatMap, List.nodup_flatMap]
  refine ⟨fun row _ => nodup_sourceValues f row, hwritten.imp fun hne => ?_⟩
  intro s hs hs'
  obtain ⟨values, hvalues, rfl⟩ := List.mem_map.1 hs
  obtain ⟨values', hvalues', heq⟩ := List.mem_map.1 hs'
  obtain ⟨slot, hslot, -, path, -, rfl⟩ := mem_sourceValues.1 hvalues
  obtain ⟨slot', hslot', -, path', -, rfl⟩ := mem_sourceValues.1 hvalues'
  exact hne (source_inj hslot hslot' heq.symm).1

/-! ## Registering -/

theorem find?_register {values : LibraryDocument} (h : c.register values = some c') (k : Source) :
    c'.bySource.find? k = if source values = k then
        some ((c.bySource.find? k).elim values (refresh values).apply)
      else c.bySource.find? k := by
  unfold Catalog.register at h
  split at h
  · next hnone =>
    rw [Catalog.find?_insert? h]
    split
    · next hk => rw [← hk, hnone]; rfl
    · rfl
  · next d hfound =>
    have hupdate : c'.bySource =
        (c.update (fun d => source d = source values) (refresh values)).bySource := by
      rw [← Option.some.inj h]
      split <;> rfl
    rw [hupdate, Catalog.find?_update]
    split
    · next hk =>
      rw [← hk, hfound]
      simp [Table.key_of_find? hfound]
    · next hk =>
      cases hother : c.bySource.find? k with
      | none => rfl
      | some other =>
          have hne : source other ≠ source values := by
            rw [Table.key_of_find? hother]
            exact Ne.symm hk
          simp [hne]

/-- Each of the documents is registered with its path, and others stay as they are. -/
theorem find?_foldlM_register {l : List LibraryDocument} (hnodup : (l.map source).Nodup)
    (h : l.foldlM Catalog.register c = some c') :
    (∀ values ∈ l, ∃ d, c'.bySource.find? (source values) = some d ∧
      d.storagePath = values.storagePath ∧ d.isActive = values.isActive) ∧
    ∀ k ∉ l.map source, c'.bySource.find? k = c.bySource.find? k := by
  induction l generalizing c with
  | nil =>
      cases h
      exact ⟨nofun, fun _ _ => rfl⟩
  | cons values l ih =>
      rw [List.foldlM_cons, Option.bind_eq_bind, Option.bind_eq_some_iff] at h
      obtain ⟨mid, hmid, h⟩ := h
      rw [List.map_cons, List.nodup_cons] at hnodup
      obtain ⟨hlater, hothers⟩ := ih hnodup.2 h
      refine ⟨fun v hv => ?_, fun k hk => ?_⟩
      · rcases List.mem_cons.1 hv with rfl | hv
        · rw [hothers _ hnodup.1, find?_register hmid, if_pos rfl]
          refine ⟨_, rfl, ?_⟩
          cases c.bySource.find? (source v) with
          | none => exact ⟨rfl, rfl⟩
          | some d => exact ⟨rfl, rfl⟩
        · exact hlater v hv
      · rw [List.map_cons, List.mem_cons, not_or] at hk
        rw [hothers k hk.2, find?_register hmid, if_neg (Ne.symm hk.1)]

theorem find?_deactivate (rows : List SourceRow) (k : Source) :
    (rows.foldl Catalog.deactivate c).bySource.find? k = (c.bySource.find? k).map fun d =>
      if k ∈ rows.map fun row => ⟨row.organizationId, row.model.tablename, row.id⟩ then
        deactivation.apply d
      else d := by
  induction rows generalizing c with
  | nil => simp
  | cons row rows ih =>
      rw [List.foldl_cons, ih, Catalog.deactivate, Catalog.find?_update, Option.map_map]
      cases hfound : c.bySource.find? k with
      | none => rfl
      | some d =>
          have hk := Table.key_of_find? hfound
          simp only [Option.map_some, Function.comp, List.map_cons, List.mem_cons, hk]
          by_cases hrow : k = ⟨row.organizationId, row.model.tablename, row.id⟩
          · simp [hrow, deactivation]
          · simp [hrow]

/-- A flush registers what it writes and deactivates what it deletes. -/
theorem registerSources_spec (h : c.registerSources f = some c') : ∃ mid : Catalog,
    (∀ values ∈ f.written.flatMap f.sourceValues, ∃ d,
      mid.bySource.find? (source values) = some d ∧ d.storagePath = values.storagePath ∧
        d.isActive = values.isActive) ∧
    (∀ k ∉ (f.written.flatMap f.sourceValues).map source,
      mid.bySource.find? k = c.bySource.find? k) ∧
    ∀ k, c'.bySource.find? k = (mid.bySource.find? k).map fun d =>
      if k ∈ f.deleted.map fun row => ⟨row.organizationId, row.model.tablename, row.id⟩ then
        deactivation.apply d
      else d := by
  simp only [Catalog.registerSources, Option.bind_eq_bind, Option.bind_eq_some_iff,
    Option.some.injEq] at h
  obtain ⟨mid, hmid, rfl⟩ := h
  obtain ⟨hvalues, hothers⟩ := find?_foldlM_register (nodup_values f) hmid
  exact ⟨mid, hvalues, hothers, find?_deactivate f.deleted⟩

/-! ## Flushes -/

/-- A catalog without documents of source rows, and no source rows. -/
structure Registry.Initial (r : Registry) : Prop where
  rows : r.rows.rows = []
  catalog : ∀ key : RowKey, ∀ slot ∈ key.model.slots,
    r.catalog.bySource.find? (key.source slot) = none

/-- What flushes keep. -/
structure Registry.InStep (r : Registry) : Prop where
  /-- A stored path is in the catalog, and active with its row. -/
  held : ∀ key row, r.rows.find? key = some row → row.isPicture = false →
    ∀ slot ∈ key.model.slots, ∀ path, row.storedPath slot = some path →
      ∃ d, r.catalog.bySource.find? (key.source slot) = some d ∧ d.storagePath = path ∧
        d.isActive = row.isActive
  gone : ∀ key, r.rows.find? key = none → key.model ≠ .operationalExpense →
    ∀ slot ∈ key.model.slots, ∀ d, r.catalog.bySource.find? (key.source slot) = some d →
      d.isActive = false
  stored : ∀ key : RowKey, ∀ slot ∈ key.model.slots, ∀ d,
    r.catalog.bySource.find? (key.source slot) = some d → isStored d.storagePath = true

theorem Registry.Initial.inStep {r : Registry} (h : r.Initial) : r.InStep where
  held key row hrow := by
    have hin := Table.mem_of_find? hrow
    rw [h.rows] at hin
    cases hin
  gone key _ _ slot hslot d hd := by
    rw [h.catalog key slot hslot] at hd
    cases hd
  stored key slot hslot d hd := by
    rw [h.catalog key slot hslot] at hd
    cases hd

/-- The file of a row that is not written is not among the values. -/
theorem source_notMem {key : RowKey} (hslot : slot ∈ key.model.slots)
    (hkey : (f.written.find? fun row => row.toRowKey = key) = none) :
    key.source slot ∉ (f.written.flatMap f.sourceValues).map source := by
  intro hin
  obtain ⟨values, hvalues, heq⟩ := List.mem_map.1 hin
  obtain ⟨row, hrow, hvalues⟩ := List.mem_flatMap.1 hvalues
  obtain ⟨slot', hslot', -, path, -, rfl⟩ := mem_sourceValues.1 hvalues
  obtain ⟨rfl, -⟩ := source_inj hslot hslot' heq.symm
  simpa using List.find?_eq_none.1 hkey row hrow

theorem source_mem_deleted {key : RowKey} (hslot : slot ∈ key.model.slots)
    (h : key.source slot ∈ f.deleted.map fun row =>
      (⟨row.organizationId, row.model.tablename, row.id⟩ : Source)) :
    key ∈ f.deleted.map SourceRow.toRowKey := by
  obtain ⟨row, hrow, heq⟩ := List.mem_map.1 h
  obtain ⟨horganization, htype, hid⟩ := Source.mk.inj heq
  have hmodel : row.model = key.model := tablename_eq hslot htype
  have hkey : row.toRowKey = key := by
    obtain ⟨model, organizationId, id⟩ := key
    cases hmodel
    cases horganization
    cases hid
    rfl
  exact hkey ▸ List.mem_map_of_mem hrow

/-- What a flush writes is there, and what it deletes is not. -/
theorem find?_rows (r : Registry) (f : Flush) (key : RowKey) :
    ((r.rows.upsertAll f.written).removeIf fun row =>
      row.toRowKey ∈ f.deleted.map SourceRow.toRowKey).find? key =
      if key ∈ f.deleted.map SourceRow.toRowKey then none
      else (f.written.find? fun row => row.toRowKey = key).or (r.rows.find? key) := by
  rw [← Table.find?_upsertAll]
  refine Option.ext fun row => ?_
  rw [Table.find?_removeIf]
  by_cases hkey : key ∈ f.deleted.map SourceRow.toRowKey
  · rw [if_pos hkey]
    refine ⟨fun ⟨hfound, hkept⟩ => ?_, nofun⟩
    rw [Table.key_of_find? hfound] at hkept
    exact absurd hkey (of_decide_eq_false hkept)
  · rw [if_neg hkey]
    refine ⟨fun ⟨hfound, _⟩ => hfound, fun hfound => ⟨hfound, ?_⟩⟩
    rw [Table.key_of_find? hfound]
    exact decide_eq_false hkey

variable {r : Registry} {d : LibraryDocument}

/-- A row that was written is in the catalog, and others are where they were. -/
theorem Registry.InStep.held_flush (h : r.InStep) (hflush : r.catalog.registerSources f = some c')
    {key : RowKey} (hkept : key ∉ f.deleted.map SourceRow.toRowKey)
    (hrow : (f.written.find? fun row => row.toRowKey = key).or (r.rows.find? key) = some row)
    (hpicture : row.isPicture = false) (hslot : slot ∈ key.model.slots) {path : String}
    (hpath : row.storedPath slot = some path) :
    ∃ d, c'.bySource.find? (key.source slot) = some d ∧ d.storagePath = path ∧
      d.isActive = row.isActive := by
  obtain ⟨mid, hvalues, hothers, hfound⟩ := registerSources_spec hflush
  have hactive : key.source slot ∉ f.deleted.map fun row =>
      (⟨row.organizationId, row.model.tablename, row.id⟩ : Source) :=
    fun hin => hkept (source_mem_deleted hslot hin)
  simp only [hfound, if_neg hactive, Option.map_id']
  rcases Option.or_eq_some_iff.1 hrow with hwritten | ⟨hnot, hold⟩
  · have hkey : row.toRowKey = key := by simpa using List.find?_some hwritten
    subst hkey
    exact hvalues (f.document row slot path) (List.mem_flatMap.2
      ⟨row, List.mem_of_find?_eq_some hwritten,
        mem_sourceValues.2 ⟨slot, hslot, hpicture, path, hpath, rfl⟩⟩)
  · rw [hothers _ (source_notMem hslot hnot)]
    exact h.held key row hold hpicture slot hslot path hpath

/-- What is left of a row that is deleted, or was before, is not active. -/
theorem Registry.InStep.gone_flush (h : r.InStep) (hflush : r.catalog.registerSources f = some c')
    {key : RowKey} (hrow : key ∈ f.deleted.map SourceRow.toRowKey ∨
      (f.written.find? fun row => row.toRowKey = key).or (r.rows.find? key) = none)
    (hmodel : key.model ≠ .operationalExpense) (hslot : slot ∈ key.model.slots)
    (hd : c'.bySource.find? (key.source slot) = some d) : d.isActive = false := by
  obtain ⟨mid, -, hothers, hfound⟩ := registerSources_spec hflush
  rw [hfound] at hd
  obtain ⟨before, hbefore, rfl⟩ := Option.map_eq_some_iff.1 hd
  split
  · rfl
  · next hactive =>
    rcases hrow with hdeleted | hnone
    · obtain ⟨row, hin, rfl⟩ := List.mem_map.1 hdeleted
      refine absurd (List.mem_map.2 ⟨row, hin, ?_⟩) hactive
      rw [RowKey.source, sourceType_eq hmodel hslot]
    · obtain ⟨hnot, hold⟩ := Option.or_eq_none_iff.1 hnone
      rw [hothers _ (source_notMem hslot hnot)] at hbefore
      exact h.gone key hold hmodel slot hslot before hbefore

theorem Registry.InStep.stored_flush (h : r.InStep)
    (hflush : r.catalog.registerSources f = some c') {key : RowKey} (hslot : slot ∈ key.model.slots)
    (hd : c'.bySource.find? (key.source slot) = some d) : isStored d.storagePath = true := by
  obtain ⟨mid, hvalues, hothers, hfound⟩ := registerSources_spec hflush
  rw [hfound] at hd
  obtain ⟨before, hbefore, rfl⟩ := Option.map_eq_some_iff.1 hd
  have hsame : isStored before.storagePath = true := by
    by_cases hin : key.source slot ∈ (f.written.flatMap f.sourceValues).map source
    · obtain ⟨values, hmem, hsource⟩ := List.mem_map.1 hin
      obtain ⟨d, hregistered, hpath, -⟩ := hvalues values hmem
      rw [hsource, hbefore] at hregistered
      obtain rfl := Option.some.inj hregistered
      obtain ⟨row, -, hmem⟩ := List.mem_flatMap.1 hmem
      obtain ⟨slot', -, -, path, hstored, rfl⟩ := mem_sourceValues.1 hmem
      rw [hpath]
      exact (Option.filter_eq_some_iff.1 hstored).2
    · rw [hothers _ hin] at hbefore
      exact h.stored key slot hslot before hbefore
  split
  · exact hsame
  · exact hsame

theorem Registry.InStep.flush (h : r.InStep) (f : Flush) : (r.flush f).InStep := by
  unfold Registry.flush
  split
  · exact h
  · next c' hflush =>
    constructor
    case held =>
      intro key row hrow hpicture slot hslot path hpath
      dsimp only at hrow
      rw [find?_rows] at hrow
      split at hrow
      · cases hrow
      · next hkept => exact h.held_flush hflush hkept hrow hpicture hslot hpath
    case gone =>
      intro key hrow hmodel slot hslot d hd
      refine h.gone_flush hflush ?_ hmodel hslot hd
      dsimp only at hrow
      rw [find?_rows] at hrow
      split at hrow
      · next hdeleted => exact .inl hdeleted
      · exact .inr hrow
    case stored => exact fun key slot hslot d hd => h.stored_flush hflush hslot hd

/-- The catalog has an active document of the file, with the path that the row has. -/
def Registry.Catalogued (r : Registry) (row : SourceRow) (slot : Slot) : Prop :=
  ∃ d ∈ r.catalog.documents.rows, source d = row.source slot ∧ d.isActive = true ∧
    row.texts slot.pathKey = some d.storagePath

instance (r : Registry) (row : SourceRow) (slot : Slot) : Decidable (r.Catalogued row slot) :=
  inferInstanceAs (Decidable (∃ d ∈ r.catalog.documents.rows, _))

/-- What the catalog says of the source rows. -/
structure Registry.Follows (r : Registry) : Prop where
  catalogued : ∀ row ∈ r.rows.rows, row.isPicture = false → ∀ slot ∈ row.model.slots,
    (r.Catalogued row slot ↔ row.isActive = true ∧ (row.storedPath slot).isSome = true)
  /-- While a row holds a stored path, the document of the file has no other. -/
  current : ∀ row ∈ r.rows.rows, row.isPicture = false → ∀ slot ∈ row.model.slots,
    ∀ path, row.storedPath slot = some path → ∀ d ∈ r.catalog.documents.rows,
      source d = row.source slot → d.storagePath = path ∧ d.isActive = row.isActive
  gone : ∀ key : RowKey, (∀ row ∈ r.rows.rows, row.toRowKey ≠ key) →
    key.model ≠ .operationalExpense → ∀ slot ∈ key.model.slots,
      ∀ d ∈ r.catalog.documents.rows, source d = key.source slot → d.isActive = false

theorem Registry.InStep.follows {r : Registry} (h : r.InStep) : r.Follows := by
  have hunique : ∀ {d : LibraryDocument} {k : Source}, d ∈ r.catalog.documents.rows →
      source d = k → r.catalog.bySource.find? k = some d :=
    fun hd hk => Table.find?_eq_some.2 ⟨hd, hk⟩
  refine ⟨fun row hrow hpicture slot hslot => ?_, ?_, ?_⟩
  · have hfound := Table.find?_of_mem hrow
    constructor
    · rintro ⟨d, hd, hsource, hactive, hpath⟩
      have hentry := hunique hd hsource
      have hstored : row.storedPath slot = some d.storagePath := by
        rw [SourceRow.storedPath, hpath, Option.filter_some,
          if_pos (h.stored row.toRowKey slot hslot d hentry)]
      obtain ⟨e, he, -, hsame⟩ := h.held _ row hfound hpicture slot hslot _ hstored
      obtain rfl := Option.some.inj (hentry.symm.trans he)
      rw [← hsame, hactive, hstored]
      exact ⟨rfl, rfl⟩
    · rintro ⟨hactive, hsome⟩
      obtain ⟨path, hstored⟩ := Option.isSome_iff_exists.1 hsome
      obtain ⟨d, hd, hpath, hsame⟩ := h.held _ row hfound hpicture slot hslot path hstored
      have hmem : d ∈ r.catalog.bySource.rows := Table.mem_of_find? hd
      refine ⟨d, hmem, Table.key_of_find? hd, hsame.trans hactive, ?_⟩
      rw [hpath]
      exact (Option.filter_eq_some_iff.1 hstored).1
  · intro row hrow hpicture slot hslot path hstored d hd hsource
    obtain ⟨e, he, hpath, hsame⟩ :=
      h.held _ row (Table.find?_of_mem hrow) hpicture slot hslot path hstored
    obtain rfl := Option.some.inj ((hunique hd hsource).symm.trans he)
    exact ⟨hpath, hsame⟩
  · intro key hkey hmodel slot hslot d hd hsource
    exact h.gone key (Table.find?_eq_none.2 hkey) hmodel slot hslot d (hunique hd hsource)

namespace Sample

def empty : Registry := ⟨.empty, ⟨.empty, fun _ => .default, List.nodup_nil⟩⟩

theorem empty_initial : empty.Initial where
  rows := rfl
  catalog _ _ _ := rfl

def file (model : SourceModel) (texts : List (String × String)) : SourceRow where
  model := model
  organizationId := 7
  id := 1
  isActive := true
  texts name := texts.lookup name
  sizes _ := none
  users _ := none
  employeeId := none

def write (row : SourceRow) : Flush :=
  ⟨none, [row], [], fun k => k.sourceType.length, 0, List.nodup_singleton _⟩

def delete (row : SourceRow) : Flush :=
  ⟨none, [], [row], fun k => k.sourceType.length, 0, List.nodup_singleton _⟩

def order (path : String) : SourceRow :=
  file .purchaseOrder [("po_number", "PO-1"), ("attachment_path", path)]

def expense : SourceRow :=
  file .operationalExpense [("expense_number", "EXP-1"), ("receipt_path", "documents/receipt.pdf")]

def photo : SourceRow :=
  file .assetMedia [("media_type", "PHOTO"), ("storage_path", "assets/front.jpg")]

end Sample

end Cestos.Documents
