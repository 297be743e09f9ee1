import Cestos.Shares.Hidden

/-!
# Workbooks sent back

What the link shows is a payload again. Whatever is kept of a payload is let through as it is, so a
workbook that is sent back as it was shown is stored as it was.
-/

namespace Cestos.Shares

open Cestos.Core Cestos.Core.Json

variable {env : Env} {book members : Members} {rows columns : Nat}

/-! ## Fields -/

/-- What a configuration keeps in a field. -/
def kept (config : Members) (field : Field) : Option Json :=
  (config.lookup field.1).bind fun value => (field.2 value).toOption.join

/-- One turn of the loop over the fields. -/
def pickOne (config safe : Members) (field : Field) : Except Refusal Members :=
  match config.lookup field.1 with
  | none => .ok safe
  | some value => do
    let kept ← field.2 value
    .ok (safe ++ kept.toList.map fun v => (field.1, v))

theorem pickOne_eq_ok {config safe safe' : Members} {field : Field} :
    pickOne config safe field = .ok safe' ↔
      (∀ value, config.lookup field.1 = some value → (field.2 value).isOk = true) ∧
      safe' = safe ++ ((kept config field).map (field.1, ·)).toList := by
  unfold pickOne kept
  cases hvalue : config.lookup field.1 with
  | none => simpa using eq_comm
  | some value =>
      cases hkept : field.2 value with
      | error e => simp [bind, Except.bind, Except.isOk, Except.toBool, hkept]
      | ok v =>
          cases v <;> simpa [Except.isOk, Except.toBool, Except.toOption, hkept] using eq_comm

theorem foldlM_pickOne {config safe init : Members} {fields : List Field} :
    fields.foldlM (pickOne config) init = .ok safe ↔
      (∀ field ∈ fields, ∀ value, config.lookup field.1 = some value →
        (field.2 value).isOk = true) ∧
      safe = init ++ fields.filterMap fun field => (kept config field).map (field.1, ·) := by
  induction fields generalizing init with
  | nil => simpa using eq_comm
  | cons field fields ih =>
      rw [List.foldlM_cons, bind_eq_ok, List.forall_mem_cons, List.filterMap_cons]
      simp only [pickOne_eq_ok, ih]
      cases (kept config field).map (field.1, ·) with
      | none => simp [and_assoc]
      | some pair => simp [and_assoc]

theorem pick_eq_ok {config safe : Members} {fields : List Field} :
    pick config fields = .ok safe ↔
      (∀ field ∈ fields, ∀ value, config.lookup field.1 = some value →
        (field.2 value).isOk = true) ∧
      safe = fields.filterMap fun field => (kept config field).map (field.1, ·) :=
  foldlM_pickOne

/-- A field that lets through what it has let through. -/
def Stable (field : Field) : Prop :=
  ∀ value v, field.2 value = .ok (some v) → field.2 v = .ok (some v)

theorem lookup_kept_none {config : Members} {fields : List Field} {name : String}
    (h : name ∉ fields.map Prod.fst) :
    (fields.filterMap fun field => (kept config field).map (field.1, ·)).lookup name = none := by
  rw [lookup_eq_none]
  intro hmem
  obtain ⟨pair, hpair, rfl⟩ := List.mem_map.1 hmem
  obtain ⟨field, hfield, hpair⟩ := List.mem_filterMap.1 hpair
  obtain ⟨v, -, rfl⟩ := Option.map_eq_some_iff.1 hpair
  exact h (List.mem_map_of_mem hfield)

theorem lookup_kept {config : Members} {fields : List Field}
    (hnames : (fields.map Prod.fst).Nodup) {field : Field} (hfield : field ∈ fields) :
    (fields.filterMap fun field => (kept config field).map (field.1, ·)).lookup field.1 =
      kept config field := by
  induction fields with
  | nil => cases hfield
  | cons first fields ih =>
      rw [List.map_cons, List.nodup_cons] at hnames
      rw [List.filterMap_cons]
      rcases List.mem_cons.1 hfield with rfl | hfield
      · cases hkept : kept config field with
        | none => exact lookup_kept_none hnames.1
        | some v => exact List.lookup_cons_self
      · have hne : (field.1 == first.1) = false :=
          beq_eq_false_iff_ne.2 fun heq => hnames.1 (heq ▸ List.mem_map_of_mem hfield)
        cases hkept : kept config first with
        | none => exact ih hnames.2 hfield
        | some v =>
            rw [Option.map_some, List.lookup_cons, hne]
            exact ih hnames.2 hfield

theorem lookup_pick_none {config safe : Members} {fields : List Field} {name : String}
    (h : pick config fields = .ok safe) (hname : name ∉ fields.map Prod.fst) :
    safe.lookup name = none := by
  rw [(pick_eq_ok.1 h).2]
  exact lookup_kept_none hname

/-- What was picked is picked again, from wherever it is found. -/
theorem pick_again {config config' safe : Members} {fields : List Field}
    (hnames : (fields.map Prod.fst).Nodup) (hstable : ∀ field ∈ fields, Stable field)
    (h : pick config fields = .ok safe)
    (hsame : ∀ field ∈ fields, config'.lookup field.1 = safe.lookup field.1) :
    pick config' fields = .ok safe := by
  obtain ⟨-, hsafe⟩ := pick_eq_ok.1 h
  have hfield : ∀ field ∈ fields, (∀ value, config'.lookup field.1 = some value →
      (field.2 value).isOk = true) ∧ kept config' field = kept config field := by
    intro field hfield
    have hlookup := hsame field hfield
    rw [hsafe, lookup_kept hnames hfield] at hlookup
    cases hkept : kept config field with
    | none =>
        rw [hkept] at hlookup
        simp [kept, hlookup]
    | some v =>
        obtain ⟨value, -, hvalue⟩ := Option.bind_eq_some_iff.1 hkept
        have hok : field.2 value = .ok (some v) := by
          cases hcheck : field.2 value with
          | error e => simp [hcheck, Except.toOption] at hvalue
          | ok kept => simpa [hcheck, Except.toOption] using hvalue
        have hagain := hstable field hfield value v hok
        rw [hkept] at hlookup
        refine ⟨fun value' hvalue' => ?_, ?_⟩
        · rw [hlookup] at hvalue'
          rw [← Option.some.inj hvalue', hagain]
          rfl
        · rw [kept, hlookup, Option.bind_some, hagain]
          rfl
  refine pick_eq_ok.2 ⟨fun field hmem => (hfield field hmem).1, hsafe.trans ?_⟩
  exact List.filterMap_congr fun field hmem => by rw [(hfield field hmem).2]

theorem shorten_shorten (length : Nat) (text : String) :
    shorten length (shorten length text) = shorten length text := by
  rw [shorten, shorten, String.toList_ofList, List.take_take, Nat.min_self]

theorem shorten_of_le {length : Nat} {text : String} (h : text.length ≤ length) :
    shorten length text = text := by
  rw [shorten, List.take_of_length_le (String.length_toList ▸ h), String.ofList_toList]

theorem stable_flag (field : String) : Stable (flag field) := by
  intro value v h
  cases value with
  | bool value =>
      obtain rfl := Option.some.inj (Except.ok.inj h)
      rfl
  | _ => cases h

theorem stable_str {field detail : String} {p : String → Bool} : Stable (field, fun value => do
    let text ← orError (value.str?.filter p) (invalid detail)
    .ok (some (.str text))) := by
  intro value v h
  simp only [bind_eq_ok, orError_eq_ok] at h ⊢
  obtain ⟨text, htext, hv⟩ := h
  obtain rfl := Option.some.inj (Except.ok.inj hv)
  exact ⟨text, Option.filter_eq_some_iff.2 ⟨rfl, (Option.filter_eq_some_iff.1 htext).2⟩, rfl⟩

theorem stable_color (field : String) : Stable (color field) := by
  intro value v h
  obtain ⟨text, htext, rfl⟩ := Option.map_eq_some_iff.1 (Except.ok.inj h)
  exact congrArg Except.ok (Option.map_eq_some_iff.2
    ⟨text, Option.filter_eq_some_iff.2 ⟨rfl, (Option.filter_eq_some_iff.1 htext).2⟩, rfl⟩)

theorem stable_text (field : String) : Stable (text field) := by
  intro value v h
  obtain ⟨text, -, rfl⟩ := Option.map_eq_some_iff.1 (Except.ok.inj h)
  exact congrArg (fun text => Except.ok (some (Json.str text))) (shorten_shorten 100 text)

theorem stable_number (field : String) : Stable (number field) := by
  intro value v h
  cases value with
  | int n =>
      obtain ⟨hn, hv⟩ := Option.ite_none_right_eq_some.1 (Except.ok.inj h)
      obtain rfl := Option.some.inj hv
      exact congrArg Except.ok (if_pos hn)
  | float x text =>
      cases x with
      | none => cases h
      | some x =>
          obtain ⟨hx, hv⟩ := Option.ite_none_right_eq_some.1 (Except.ok.inj h)
          obtain rfl := Option.some.inj hv
          exact congrArg Except.ok (if_pos hx)
  | _ => cases h

theorem stable_limit (field : String) (maximum : Int) : Stable (limit field maximum) := by
  intro value v h
  simp only [limit, bind_eq_ok, orError_eq_ok] at h ⊢
  obtain ⟨n, hn, hv⟩ := h
  obtain rfl := Option.some.inj (Except.ok.inj hv)
  exact ⟨n, Option.filter_eq_some_iff.2 ⟨rfl, (Option.filter_eq_some_iff.1 hn).2⟩, rfl⟩

theorem read_json (area : Area) : Area.read area.json = some area := rfl

theorem mapM_int {l : List Int} {p : Int → Bool} (h : ∀ n ∈ l, p n = true) :
    (l.map Json.int).mapM (fun r => r.int?.filter p) = some l :=
  mapM_eq_some_iff.2 (List.forall₂_map_left_iff.2 (List.forall₂_same.2 fun n hn =>
    Option.filter_eq_some_iff.2 ⟨rfl, h n hn⟩))

theorem mapM_str (l : List String) : (l.map Json.str).mapM Json.str? = some l :=
  mapM_eq_some_iff.2 (List.forall₂_map_left_iff.2 (List.forall₂_same.2 fun _ _ => rfl))

theorem forall_of_mapM_filter {l : List Json} {p : Int → Bool} {breaks : List Int}
    (h : l.mapM (fun r => r.int?.filter p) = some breaks) : ∀ n ∈ breaks, p n = true := by
  induction mapM_eq_some_iff.1 h with
  | nil => simp
  | cons hn hrest ih =>
      exact List.forall_mem_cons.2
        ⟨(Option.filter_eq_some_iff.1 hn).2, ih (mapM_eq_some_iff.2 hrest)⟩

theorem stable_view : ∀ field ∈ viewFields rows columns, Stable field := by
  simp only [viewFields, List.forall_mem_cons]
  exact ⟨stable_limit _ _, stable_limit _ _, stable_limit _ _, stable_str, by simp⟩

theorem stable_print : ∀ field ∈ printFields rows columns, Stable field := by
  simp only [printFields, List.forall_mem_cons]
  refine ⟨stable_limit _ _, stable_str, stable_str, ?_, ?_, by simp⟩
  · intro value v h
    simp only [bind_eq_ok, orError_eq_ok] at h ⊢
    obtain ⟨area, harea, hv⟩ := h
    obtain rfl := Option.some.inj (Except.ok.inj hv)
    exact ⟨area, Option.filter_eq_some_iff.2
      ⟨read_json area, (Option.filter_eq_some_iff.1 harea).2⟩, rfl⟩
  · intro value v h
    simp only [bind_eq_ok, orError_eq_ok] at h ⊢
    obtain ⟨breaks, hbreaks, hv⟩ := h
    obtain rfl := Option.some.inj (Except.ok.inj hv)
    obtain ⟨items, hitems, hbreaks⟩ := Option.bind_eq_some_iff.1 hbreaks
    have hlength := (mapM_eq_some_iff.1 hbreaks).length_eq
    have hall := forall_of_mapM_filter hbreaks
    have hshort := of_decide_eq_true (Option.filter_eq_some_iff.1 hitems).2
    have hperm := List.mergeSort_perm breaks.dedup fun r s => r ≤ s
    have hsorted : (breaks.dedup.mergeSort fun r s => r ≤ s).mergeSort (fun r s => r ≤ s) =
        breaks.dedup.mergeSort fun r s => r ≤ s := by
      refine List.mergeSort_of_pairwise (List.pairwise_mergeSort ?_ ?_ _)
      · exact fun a b c hab hbc => decide_eq_true
          (Int.le_trans (of_decide_eq_true hab) (of_decide_eq_true hbc))
      · exact fun a b => by simpa using Int.le_total a b
    refine ⟨breaks.dedup.mergeSort fun r s => r ≤ s, Option.bind_eq_some_iff.2
      ⟨_, Option.filter_eq_some_iff.2 ⟨rfl, decide_eq_true ?_⟩, mapM_int fun n hn => ?_⟩, ?_⟩
    · rw [List.length_map, hperm.length_eq]
      exact (List.dedup_sublist breaks).length_le.trans (hlength.symm.trans_le hshort)
    · exact hall n (List.mem_dedup.1 (hperm.mem_iff.1 hn))
    · rw [(hperm.nodup_iff.2 (List.nodup_dedup breaks)).dedup, hsorted]

theorem stable_format : ∀ field ∈ formatFields, Stable field := by
  simp only [formatFields, List.forall_mem_append, List.forall_mem_map]
  refine ⟨⟨⟨⟨fun field _ => stable_flag field, ?_⟩, fun field _ => stable_color field⟩,
    fun field _ => stable_text field⟩, fun field _ => stable_number field⟩
  simp only [List.forall_mem_cons]
  exact ⟨stable_str, stable_str, stable_str, stable_str, stable_str, stable_str, by simp⟩

theorem format_names : (formatFields.map Prod.fst).Nodup := by decide

theorem view_names : ((viewFields rows columns).map Prod.fst).Nodup :=
  show ["freezeRows", "freezeColumns", "filterColumn", "filterText"].Nodup by decide

theorem print_names : ((printFields rows columns).map Prod.fst).Nodup :=
  show ["repeatRows", "orientation", "fit", "area", "breakRows"].Nodup by decide

theorem cleanFormat_again {entry entry' : String × Json}
    (h : cleanFormat env rows columns entry = .ok entry') :
    entry'.2.members?.isSome = true ∧ cleanFormat env rows columns entry' = .ok entry' := by
  simp only [cleanFormat, bind_eq_ok, orError_eq_ok, ensure_eq_ok] at h ⊢
  obtain ⟨digits, hdigits, r, hr, c, hc, u, hwithin, safe, hsafe, hentry⟩ := h
  obtain rfl := Except.ok.inj hentry
  exact ⟨rfl, digits, hdigits, r, hr, c, hc, u, hwithin, safe,
    pick_again format_names stable_format hsafe fun _ _ => rfl, rfl⟩

/-! ## Settings -/

/-- The settings are picked as fields are. -/
def settingField (field : String × List Field) : Field := (field.1, fun config => do
  let config ← orError config.members? (invalid "Invalid sheet settings")
  let safe ← pick config field.2
  .ok (some (.obj safe)))

def settingFields (rows columns : Nat) : List Field :=
  [settingField ("view", viewFields rows columns), settingField ("print", printFields rows columns)]

theorem cleanSettings_eq_pick (sheet : Members) :
    cleanSettings rows columns sheet = pick sheet (settingFields rows columns) := by
  unfold cleanSettings
  refine (foldlM_congr (g := fun settings field => pickOne sheet settings (settingField field))
    (fun settings field _ => ?_) []).trans rfl
  unfold pickOne
  rw [show (settingField field).1 = field.1 from rfl]
  cases hconfig : sheet.lookup field.1 with
  | none => rfl
  | some config =>
      cases hmembers : config.members? with
      | none => simp [settingField, hmembers, orError, bind, Except.bind]
      | some members =>
          cases hpick : pick members field.2 <;>
            simp [settingField, hmembers, orError, bind, Except.bind, hpick]

theorem stable_settings : ∀ field ∈ settingFields rows columns, Stable field := by
  have hstable : ∀ name (fields : List Field), (fields.map Prod.fst).Nodup →
      (∀ field ∈ fields, Stable field) → Stable (settingField (name, fields)) := by
    intro name fields hnames hfields value v h
    simp only [settingField, bind_eq_ok, orError_eq_ok] at h ⊢
    obtain ⟨config, -, safe, hsafe, hv⟩ := h
    obtain rfl := Option.some.inj (Except.ok.inj hv)
    exact ⟨safe, rfl, safe, pick_again hnames hfields hsafe fun _ _ => rfl, rfl⟩
  simp only [settingFields, List.forall_mem_cons]
  exact ⟨hstable _ _ view_names stable_view, hstable _ _ print_names stable_print, by simp⟩

theorem setting_names : ((settingFields rows columns).map Prod.fst).Nodup :=
  show ["view", "print"].Nodup by decide

/-! ## Sheets -/

namespace PublicSheet

def base (t : PublicSheet) : Members :=
  [("id", .str t.id), ("name", .str t.name), ("cells", .arr t.cells), ("widths", .arr t.widths),
    ("heights", .arr t.heights), ("merges", .arr t.merges), ("formats", .obj t.formats),
    ("imported", .bool true)]

/-- What was joined to the sheet, if there was anything. -/
def joined (t : PublicSheet) : Members :=
  (t.folderId.map fun id => ("folderId", Json.str id)).toList ++
    if t.media.isEmpty then []
    else [("media", .obj (t.media.map fun entry => (entry.1, .arr (entry.2.map .str))))]

/-- The sheet as a payload. -/
def payload (t : PublicSheet) : Members := t.base ++ (t.settings ++ t.joined)

/-- The sheet before anything is joined to it. -/
def plain (t : PublicSheet) : PublicSheet := { t with folderId := none, media := [] }

/-- The settings are those of sheets. -/
def Laid (t : PublicSheet) : Prop :=
  ∀ name ∉ ["view", "print"], t.settings.lookup name = none

variable {t : PublicSheet}

theorem lookup_payload (name : String) : t.payload.lookup name =
    (t.base.lookup name).or ((t.settings.lookup name).or (t.joined.lookup name)) := by
  rw [payload, List.lookup_append, List.lookup_append]

theorem lookup_base {name : String} {value : Json} (h : t.base.lookup name = some value) :
    t.payload.lookup name = some value := by
  rw [lookup_payload, h, Option.some_or]

theorem getD_base {name : String} {value default : Json} (h : t.base.lookup name = some value) :
    getD t.payload name default = value := by
  rw [getD, lookup_base h, Option.getD_some]

theorem lookup_joined {name : String} (hlaid : t.Laid) (hsetting : name ∉ ["view", "print"])
    (hbase : t.base.lookup name = none) : t.payload.lookup name = t.joined.lookup name := by
  rw [lookup_payload, hbase, hlaid name hsetting, Option.none_or, Option.none_or]

theorem lookup_joined_none {name : String} (h : name ∉ ["folderId", "media"]) :
    t.joined.lookup name = none := by
  rw [lookup_eq_none]
  intro hmem
  refine h ?_
  obtain ⟨pair, hpair, rfl⟩ := List.mem_map.1 hmem
  rcases List.mem_append.1 hpair with hfolder | hmedia
  · obtain ⟨id, -, rfl⟩ := Option.map_eq_some_iff.1 (Option.mem_toList.1 hfolder)
    exact List.mem_cons_self
  · split at hmedia
    · cases hmedia
    · obtain rfl := List.mem_singleton.1 hmedia
      exact List.mem_cons_of_mem _ List.mem_cons_self

theorem lookup_setting {name : String} (hsetting : name ∈ ["view", "print"])  :
    t.payload.lookup name = t.settings.lookup name := by
  have hbase : t.base.lookup name = none := by
    rcases List.mem_cons.1 hsetting with rfl | hsetting
    · rfl
    · obtain rfl := List.mem_singleton.1 hsetting
      rfl
  have hjoined : t.joined.lookup name = none := by
    refine lookup_joined_none ?_
    rcases List.mem_cons.1 hsetting with rfl | hsetting
    · decide
    · obtain rfl := List.mem_singleton.1 hsetting
      decide
  rw [lookup_payload, hbase, hjoined, Option.none_or, Option.or_none]

theorem getD_other {name : String} {default : Json} (hlaid : t.Laid)
    (hsetting : name ∉ ["view", "print"]) (hbase : t.base.lookup name = none)
    (hjoined : name ∉ ["folderId", "media"]) : getD t.payload name default = default := by
  rw [getD, lookup_joined hlaid hsetting hbase, lookup_joined_none hjoined, Option.getD_none]

end PublicSheet

theorem dimensions_eq_some {sheet : Members} {rows widths heights : List Json} :
    dimensions sheet = some (rows, widths, heights) ↔
      ((getD sheet "cells" .null).items? = some rows ∧
        (getD sheet "widths" (.arr [])).items? = some widths ∧
        (getD sheet "heights" (.arr [])).items? = some heights) ∧
      (1 ≤ rows.length ∧ rows.length ≤ 2000) ∧ (1 ≤ widths.length ∧ widths.length ≤ 100) ∧
        heights.length = rows.length := by
  simp only [dimensions, Option.bind_eq_bind, Option.bind_eq_some_iff,
    Option.ite_none_right_eq_some, Option.some.injEq, Prod.mk.injEq]
  constructor
  · rintro ⟨rows, hrows, widths, hwidths, heights, hheights, hsizes, rfl, rfl, rfl⟩
    exact ⟨⟨hrows, hwidths, hheights⟩, hsizes⟩
  · rintro ⟨⟨hrows, hwidths, hheights⟩, hsizes⟩
    exact ⟨rows, hrows, widths, hwidths, heights, hheights, hsizes, rfl, rfl, rfl⟩

theorem cleanSheet_plain {seen : Cleaned} {t : PublicSheet}
    (h : cleanSheet env seen members = .ok t) : t.plain = t ∧ t.Laid := by
  simp only [cleanSheet, bind_eq_ok] at h
  obtain ⟨_, -, dims, -, _, -, _, -, _, -, _, -, _, -, _, -, _, -, _, -, _, -, settings, hsettings,
    ht⟩ := h
  obtain rfl := Except.ok.inj ht
  rw [cleanSettings_eq_pick] at hsettings
  exact ⟨rfl, fun name hname => lookup_pick_none hsettings hname⟩

theorem cleanSheet_again {seen : Cleaned} {t t' : PublicSheet}
    (h : cleanSheet env seen members = .ok t) (hsame : t'.plain = t) :
    cleanSheet env seen t'.payload = .ok t := by
  have hlaid : t'.Laid := by
    have ht := (cleanSheet_plain h).2
    rw [← hsame] at ht
    exact ht
  simp only [cleanSheet, bind_eq_ok, orError_eq_ok, ensure_eq_ok] at h ⊢
  obtain ⟨_, -, ⟨rows, widths, heights⟩, hdims, _, hrows, _, hcells, merges, hmerges, occupied,
    hoccupied, id, -, name, -, _, hname, formats, hformats, safe, hsafe, settings, hsettings,
    ht⟩ := h
  obtain rfl := Except.ok.inj ht
  have hshort : shorten 31 name = name := shorten_of_le hname.2.2.1
  obtain ⟨id', name', cells', widths', heights', merges', formats', settings', folderId', media'⟩ := t'
  simp only [PublicSheet.plain, PublicSheet.mk.injEq, hshort] at hsame
  obtain ⟨rfl, rfl, rfl, rfl, rfl, rfl, rfl, rfl, -⟩ := hsame
  have hprevious : getD (PublicSheet.payload _) "previewLimited" Json.null = Json.null :=
    PublicSheet.getD_other hlaid (by decide) rfl (by decide)
  refine ⟨(), ?_, (cells', widths', heights'), ?_, (), hrows, (), hcells, merges', ?_, occupied,
    hoccupied, id', ?_, name', ?_, (), hname, formats', ?_, formats', ?_, settings', ?_, ?_⟩
  · rw [hprevious]
    rfl
  · refine dimensions_eq_some.2 ⟨⟨?_, ?_, ?_⟩, (dimensions_eq_some.1 hdims).2⟩
    all_goals
      rw [PublicSheet.getD_base rfl]
      rfl
  · rw [PublicSheet.getD_base rfl]
    exact Option.filter_eq_some_iff.2 ⟨rfl, (Option.filter_eq_some_iff.1 hmerges).2⟩
  · rw [PublicSheet.getD_base rfl]
    rfl
  · rw [PublicSheet.getD_base rfl]
    rfl
  · rw [PublicSheet.getD_base rfl]
    refine Option.filter_eq_some_iff.2 ⟨rfl, List.all_eq_true.2 ?_⟩
    exact forall_of_mapM hsafe fun _ _ _ hentry => (cleanFormat_again hentry).1
  · exact mapM_again hsafe fun _ _ hentry => (cleanFormat_again hentry).2
  · rw [cleanSettings_eq_pick] at hsettings ⊢
    exact pick_again setting_names stable_settings hsettings fun field hfield =>
      PublicSheet.lookup_setting (List.mem_map_of_mem hfield)
  · rw [hshort]

/-! ## The loop over the sheets -/

theorem visit_again {seen seen' : Cleaned} {sheet : Json} (h : visit env seen sheet = .ok seen') :
    seen' = seen ∨ ∃ t, seen'.clean = seen.clean ++ [t] ∧ t.plain = t ∧ t.Laid ∧ t.id ∉ seen.ids ∧
      seen'.ids = t.id :: seen.ids ∧
      ∀ t' : PublicSheet, t'.plain = t → visit env seen (.obj t'.payload) = .ok seen' := by
  simp only [visit, bind_eq_ok, orError_eq_ok] at h
  obtain ⟨members, -, h⟩ := h
  split at h
  · exact .inl (Except.ok.inj h).symm
  · obtain ⟨t, ht, hseen'⟩ := bind_eq_ok.1 h
    obtain rfl := Except.ok.inj hseen'
    obtain ⟨hplain, hlaid⟩ := cleanSheet_plain ht
    refine .inr ⟨t, rfl, hplain, hlaid, ?_, rfl, fun t' ht' => ?_⟩
    · simp only [cleanSheet, bind_eq_ok, ensure_eq_ok] at ht
      obtain ⟨_, -, _, -, _, -, _, -, _, -, _, -, _, -, _, -, _, hvalid, _, -, _, -, _, -, ht⟩ := ht
      rw [← Except.ok.inj ht]
      exact hvalid.1
    · have hlaid' : t'.Laid := by
        rw [← ht'] at hlaid
        exact hlaid
      have hvisible : getD t'.payload "hidden" Json.null = Json.null :=
        PublicSheet.getD_other hlaid' (by decide) rfl (by decide)
      show (if (getD t'.payload "hidden" Json.null).truthy = true then _ else _) = _
      rw [hvisible, if_neg (by decide), cleanSheet_again ht ht']
      rfl

/-- What the sheets that were let through are. -/
structure Cleaned.Sound (seen : Cleaned) : Prop where
  ids : ∀ id, id ∈ seen.ids ↔ id ∈ seen.clean.map (·.id)
  nodup : (seen.clean.map (·.id)).Nodup
  laid : ∀ t ∈ seen.clean, t.plain = t ∧ t.Laid

theorem Cleaned.sound_nil : Cleaned.Sound ⟨[], [], []⟩ := ⟨by simp, List.nodup_nil, by simp⟩

theorem Cleaned.Sound.visit {seen seen' : Cleaned} {sheet : Json} (hseen : seen.Sound)
    (h : Shares.visit env seen sheet = .ok seen') : seen'.Sound := by
  rcases visit_again h with rfl | ⟨t, hclean, hplain, hlaid, hfresh, hids, -⟩
  · exact hseen
  refine ⟨fun id => ?_, ?_, ?_⟩
  · rw [hids, hclean, List.mem_cons, hseen.ids, List.map_append, List.mem_append, or_comm,
      List.map_singleton, List.mem_singleton]
  · rw [hclean, List.map_append, List.nodup_append_comm, List.map_singleton,
      List.singleton_append, List.nodup_cons]
    exact ⟨fun hid => hfresh ((hseen.ids t.id).2 hid), hseen.nodup⟩
  · rw [hclean]
    intro t' ht'
    rcases List.mem_append.1 ht' with hold | hnew
    · exact hseen.laid t' hold
    · obtain rfl := List.mem_singleton.1 hnew
      exact ⟨hplain, hlaid⟩

theorem sound_of_foldlM {l : List Json} {cleaned : Cleaned}
    (h : l.foldlM (visit env) ⟨[], [], []⟩ = .ok cleaned) : cleaned.Sound :=
  foldlM_inv (P := Cleaned.Sound) (fun _ _ _ _ hseen hvisit => hseen.visit hvisit)
    Cleaned.sound_nil h

/-- The sheets that were let through, whatever is joined to them, are let through again. -/
theorem foldlM_visit_again {l : List Json} {seen cleaned : Cleaned}
    (h : l.foldlM (visit env) seen = .ok cleaned) : ∃ new, cleaned.clean = seen.clean ++ new ∧
      new.length ≤ l.length ∧ ∀ attached : List PublicSheet, attached.map PublicSheet.plain = new →
        (attached.map fun t => Json.obj t.payload).foldlM (visit env) seen = .ok cleaned := by
  induction l generalizing seen with
  | nil =>
      obtain rfl := Except.ok.inj h
      refine ⟨[], (List.append_nil _).symm, Nat.le_refl 0, fun attached hattached => ?_⟩
      obtain rfl := List.map_eq_nil_iff.1 hattached
      rfl
  | cons sheet l ih =>
      rw [List.foldlM_cons, bind_eq_ok] at h
      obtain ⟨seen', hvisit, hrest⟩ := h
      obtain ⟨new, hclean, hlength, hagain⟩ := ih hrest
      rcases visit_again hvisit with rfl | ⟨t, hclean', -, -, -, -, hsheet⟩
      · exact ⟨new, hclean, Nat.le_succ_of_le hlength, hagain⟩
      · refine ⟨t :: new, ?_, Nat.succ_le_succ hlength, fun attached hattached => ?_⟩
        · rw [hclean, hclean', List.append_assoc]
          rfl
        · obtain ⟨t', rest, rfl, ht', hrest'⟩ := List.map_eq_cons_iff.1 hattached
          rw [List.map_cons, List.foldlM_cons, hsheet t' ht']
          exact hagain rest hrest'

/-! ## Folders -/

def folderJson (folder : String × String) : Json :=
  .obj [("id", .str folder.1), ("name", .str folder.2)]

/-- Folders that can be told apart. -/
structure FolderList (env : Env) (folders : List (String × String)) : Prop where
  valid : ∀ folder ∈ folders, isIdentifier folder.1 = true ∧ folder.1 ≠ "unfiled" ∧
    env.strip folder.2 ≠ "" ∧ folder.2.length ≤ 60
  ids : (folders.map (·.1)).Nodup
  names : (folders.map fun folder => env.lower (env.strip folder.2)).Nodup

theorem folderList_nil : FolderList env [] := ⟨by simp, List.nodup_nil, List.nodup_nil⟩

theorem FolderList.sublist {folders folders' : List (String × String)}
    (h : FolderList env folders) (hsub : folders'.Sublist folders) : FolderList env folders' where
  valid folder hfolder := h.valid folder (hsub.subset hfolder)
  ids := h.ids.sublist (hsub.map _)
  names := h.names.sublist (hsub.map _)

theorem folderList_append {folders : List (String × String)} {folder : String × String} :
    FolderList env (folders ++ [folder]) ↔ FolderList env folders ∧ isIdentifier folder.1 = true ∧
      folder.1 ≠ "unfiled" ∧ folder.1 ∉ folders.map (·.1) ∧ env.strip folder.2 ≠ "" ∧
      folder.2.length ≤ 60 ∧
      env.lower (env.strip folder.2) ∉ folders.map fun folder => env.lower (env.strip folder.2) := by
  have hfresh : ∀ read : String × String → String, ((folders ++ [folder]).map read).Nodup ↔
      read folder ∉ folders.map read ∧ (folders.map read).Nodup := by
    intro read
    rw [List.map_append, List.nodup_append_comm, List.map_singleton, List.singleton_append,
      List.nodup_cons]
  constructor
  · intro h
    have hfolder := h.valid folder (by simp)
    exact ⟨h.sublist (List.sublist_append_left _ _), hfolder.1, hfolder.2.1,
      ((hfresh _).1 h.ids).1, hfolder.2.2.1, hfolder.2.2.2, ((hfresh _).1 h.names).1⟩
  · rintro ⟨h, hid, hunfiled, hnew, hname, hlength, hnew'⟩
    refine ⟨fun f hf => ?_, (hfresh _).2 ⟨hnew, h.ids⟩, (hfresh _).2 ⟨hnew', h.names⟩⟩
    rcases List.mem_append.1 hf with hold | hlast
    · exact h.valid f hold
    · obtain rfl := List.mem_singleton.1 hlast
      exact ⟨hid, hunfiled, hname, hlength⟩

theorem cleanFolder_eq_ok {clean clean' : List (String × String)} {f : Json}
    (hclean : FolderList env clean) : cleanFolder env clean f = .ok clean' ↔
      ∃ folder, readFolder f = some folder ∧ clean' = clean ++ [folder] ∧ FolderList env clean' := by
  simp only [cleanFolder, bind_eq_ok, orError_eq_ok, ensure_eq_ok]
  constructor
  · rintro ⟨folder, hread, _, hvalid, h⟩
    obtain rfl := Except.ok.inj h
    exact ⟨folder, hread, rfl, folderList_append.2 ⟨hclean, hvalid⟩⟩
  · rintro ⟨folder, hread, rfl, hfolders⟩
    exact ⟨folder, hread, (), (folderList_append.1 hfolders).2, rfl⟩

theorem folderList_of_cleanFolders {folders : List Json} {clean : List (String × String)}
    (h : cleanFolders env folders = .ok clean) : FolderList env clean := by
  refine foldlM_inv (P := FolderList env) (fun clean f clean' _ hclean hf => ?_) folderList_nil h
  obtain ⟨_, -, -, hfolders⟩ := (cleanFolder_eq_ok hclean).1 hf
  exact hfolders

theorem cleanFolders_again {folders : List (String × String)} (h : FolderList env folders) :
    cleanFolders env (folders.map folderJson) = .ok folders := by
  have hgrows : ∀ rest clean, FolderList env (clean ++ rest) →
      (rest.map folderJson).foldlM (cleanFolder env) clean = .ok (clean ++ rest) := by
    intro rest
    induction rest with
    | nil => exact fun clean _ => congrArg Except.ok (List.append_nil clean).symm
    | cons folder rest ih =>
        intro clean hall
        have hmore : FolderList env (clean ++ [folder]) :=
          hall.sublist (List.append_sublist_append_left clean |>.2
            (List.singleton_sublist.2 List.mem_cons_self))
        have hturn : cleanFolder env clean (folderJson folder) = .ok (clean ++ [folder]) :=
          (cleanFolder_eq_ok (hmore.sublist (List.sublist_append_left _ _))).2
            ⟨folder, rfl, rfl, hmore⟩
        rw [List.append_cons] at hall ⊢
        rw [List.map_cons, List.foldlM_cons, hturn, ok_bind]
        exact ih (clean ++ [folder]) hall
  exact hgrows folders [] h

end Cestos.Shares
