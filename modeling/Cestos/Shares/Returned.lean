import Cestos.Shares.Stored

/-!
# What was joined is joined again

The folder and the attachments of a sheet are found in the sheet itself, and the folders and the
attachments of the workbook are those that are found so.
-/

namespace Cestos.Shares

open Cestos.Core Cestos.Core.Json

variable {env : Env} {book members : Members} {rows columns : Nat}

/-! ## References -/

def refsJson (entry : String × List String) : String × Json := (entry.1, .arr (entry.2.map .str))

theorem getD_folderId {t : PublicSheet} (h : t.Laid) :
    getD t.payload "folderId" .null = (t.folderId.map Json.str).getD .null := by
  rw [getD, PublicSheet.lookup_joined h (by decide) rfl, PublicSheet.joined, List.lookup_append]
  cases t.folderId with
  | some id => rfl
  | none =>
      cases t.media with
      | nil => rfl
      | cons entry media => rfl

theorem getD_media {t : PublicSheet} (h : t.Laid) :
    getD t.payload "media" (.obj []) = .obj (t.media.map refsJson) := by
  rw [getD, PublicSheet.lookup_joined h (by decide) rfl, PublicSheet.joined, List.lookup_append]
  cases t.folderId with
  | some id =>
      cases t.media with
      | nil => rfl
      | cons entry media => rfl
  | none =>
      cases t.media with
      | nil => rfl
      | cons entry media => rfl

theorem checkFolder_again {ids ids' : List String} {source source' : Members}
    {folderId : Option String} (h : checkFolder ids source = .ok folderId)
    (hsource : getD source' "folderId" .null = (folderId.map Json.str).getD .null)
    (hids : ∀ id, folderId = some id → id ∈ ids') : checkFolder ids' source' = .ok folderId := by
  unfold checkFolder at h ⊢
  dsimp only at h ⊢
  rw [hsource]
  cases folderId with
  | none => rfl
  | some id =>
      split at h
      · next htruthy =>
        simp only [bind_eq_ok, orError_eq_ok, ensure_eq_ok] at h
        obtain ⟨_, -, id', hid', hsome⟩ := h
        obtain rfl := Option.some.inj (Except.ok.inj hsome)
        have hfolder : getD source "folderId" .null = .str id' := by
          cases hvalue : getD source "folderId" .null <;>
            simp_all [str?]
        rw [hfolder] at htruthy
        have hmem : id' ∈ ids' := hids id' rfl
        rw [Option.map_some, Option.getD_some, if_pos htruthy]
        simp only [bind_eq_ok, orError_eq_ok, ensure_eq_ok]
        exact ⟨(), rfl, id', Option.filter_eq_some_iff.2 ⟨rfl, decide_eq_true hmem⟩, rfl⟩
      · cases h

theorem checkRefs_again {assets assets' : Members} {entry : String × Json}
    {safe : String × List String} (h : checkRefs env assets rows columns entry = .ok safe)
    (hassets : ∀ id ∈ safe.2, (assets'.lookup id).isSome = true) :
    checkRefs env assets' rows columns (refsJson safe) = .ok safe := by
  simp only [checkRefs, bind_eq_ok, orError_eq_ok, ensure_eq_ok] at h ⊢
  obtain ⟨digits, hdigits, refs, hrefs, r, hr, c, hc, _, hwithin, hsafe⟩ := h
  obtain rfl := Except.ok.inj hsafe
  refine ⟨digits, hdigits, refs, ?_, r, hr, c, hc, (), ⟨hwithin.1, hwithin.2.1, hassets⟩, rfl⟩
  obtain ⟨hread, hnodup⟩ := Option.filter_eq_some_iff.1 hrefs
  obtain ⟨items, hitems, hstrings⟩ := Option.bind_eq_some_iff.1 hread
  have hlength := (mapM_eq_some_iff.1 hstrings).length_eq
  have hshort := of_decide_eq_true (Option.filter_eq_some_iff.1 hitems).2
  refine Option.filter_eq_some_iff.2 ⟨Option.bind_eq_some_iff.2 ⟨refs.map .str,
    Option.filter_eq_some_iff.2 ⟨rfl, decide_eq_true ?_⟩, mapM_str refs⟩, hnodup⟩
  rw [List.length_map, ← hlength]
  exact hshort

theorem attach_again {ids ids' : List String} {assets assets' : Members}
    {sources sources' : List (Json × Members)} {target t : PublicSheet}
    (h : attach env ids assets sources target = .ok t) (hlaid : target.Laid)
    (hsource : original sources' target.id = some t.payload)
    (hids : ∀ id, t.folderId = some id → id ∈ ids')
    (hassets : ∀ entry ∈ t.media, ∀ id ∈ entry.2, (assets'.lookup id).isSome = true) :
    attach env ids' assets' sources' target = .ok t := by
  simp only [attach, bind_eq_ok, orError_eq_ok] at h ⊢
  obtain ⟨source, -, folderId, hfolder, media, -, safe, hsafe, ht⟩ := h
  obtain rfl := Except.ok.inj ht
  have hlaid' : PublicSheet.Laid { target with folderId, media := safe } := hlaid
  refine ⟨_, hsource, folderId, checkFolder_again hfolder (getD_folderId hlaid') hids,
    safe.map refsJson, ?_, safe, ?_, rfl⟩
  · rw [getD_media hlaid']
    rfl
  · have hagain : ∀ entry ∈ safe, checkRefs env assets' target.cells.length target.widths.length
        (refsJson entry) = .ok entry := by
      have hturn := forall_of_mapM (P := fun entry : String × List String =>
        (∀ id ∈ entry.2, (assets'.lookup id).isSome = true) → checkRefs env assets'
          target.cells.length target.widths.length (refsJson entry) = .ok entry) hsafe
        fun _ _ _ hentry hthere => checkRefs_again hentry hthere
      exact fun entry hentry => hturn entry hentry (hassets entry hentry)
    rw [List.mapM_map]
    exact (mapM_ok hagain).trans (congrArg Except.ok (List.map_id' safe))

/-- Sheets with different identifiers are all found by them. -/
theorem originals_again {attached : List PublicSheet} (hids : (attached.map (·.id)).Nodup) :
    ∃ sources, originals (attached.map fun t => Json.obj t.payload) = .ok sources ∧
      ∀ t ∈ attached, original sources t.id = some t.payload := by
  have hid : ∀ t : PublicSheet, sheetId (.obj t.payload) = some t.id := fun t => rfl
  obtain ⟨sources, hsources, hfind⟩ := originals_ok (l := attached.map fun t => Json.obj t.payload) <| by
    intro s hs
    obtain ⟨t, -, rfl⟩ := List.mem_map.1 hs
    exact ⟨t.payload, .str t.id, rfl, rfl, rfl⟩
  refine ⟨sources, hsources, fun t ht => ?_⟩
  rw [hfind, ← List.map_reverse, List.find?_map]
  have hfound : attached.reverse.find? (fun t' => sheetId (.obj t'.payload) = some t.id) = some t := by
    have hreverse : (attached.reverse.map (·.id)).Nodup := by
      rw [List.map_reverse]
      exact List.nodup_reverse.2 hids
    have hsome : (attached.reverse.find? fun t' =>
        sheetId (.obj t'.payload) = some t.id).isSome = true :=
      List.find?_isSome.2 ⟨t, List.mem_reverse.2 ht, decide_eq_true (hid t)⟩
    obtain ⟨found, hfound⟩ := Option.isSome_iff_exists.1 hsome
    have hsame : sheetId (.obj found.payload) = some t.id := by simpa using List.find?_some hfound
    rw [hfound]
    exact congrArg some (List.inj_on_of_nodup_map hreverse (List.mem_of_find?_eq_some hfound)
      (List.mem_reverse.2 ht) (Option.some.inj hsame))
  exact (congrArg (fun found => (found.map fun t => Json.obj t.payload).bind Json.members?) hfound)

/-! ## Attachments -/

def assetJson (id : String) (asset : Asset) (documentId : Option String) : Members :=
  [("id", .str id), ("name", .str asset.name), ("size", .int asset.size),
    ("mime", .str asset.mime), ("data", .str asset.data)] ++
    documentId.toList.map fun text => ("documentId", .str text)

/-- An attachment as it was read, with nothing that is wrong with it. -/
structure AssetRead (env : Env) (assets : Members) (id : String) (asset : Asset)
    (documentId : Option String) : Prop where
  read : ∃ members, assets.lookup id = some (.obj members) ∧ readAsset id members = some asset ∧
    getD members "documentId" .null = (documentId.map Json.str).getD .null
  decoded : env.b64decode asset.data = some asset.size
  document : ∀ text, documentId = some text → isDocumentId text = true

theorem cleanAsset_eq_ok {assets : Members} {clean clean' : Nat × List (String × Json)}
    {id : String} : cleanAsset env assets clean id = .ok clean' ↔
      ∃ asset documentId, AssetRead env assets id asset documentId ∧
        clean.1 + asset.size ≤ 20 * 1024 * 1024 ∧
        clean' = (clean.1 + asset.size, clean.2 ++ [(id, .obj (assetJson id asset documentId))]) := by
  unfold cleanAsset
  simp only [bind_eq_ok, orError_eq_ok, ensure_eq_ok]
  constructor
  · rintro ⟨value, hvalue, members, hmembers, asset, hasset, decoded, hdecoded, _, hsize, h⟩
    obtain rfl : value = .obj members := by
      cases value <;> simp_all [members?]
    have hread : ∀ documentId, getD members "documentId" .null =
        (documentId.map Json.str).getD .null → (∀ text, documentId = some text →
          isDocumentId text = true) → AssetRead env assets id asset documentId :=
      fun documentId hdocument htext =>
        ⟨⟨members, hvalue, hasset, hdocument⟩, hsize ▸ hdecoded, htext⟩
    split at h
    · next hnull =>
      simp only [ok_bind, bind_eq_ok, ensure_eq_ok] at h
      obtain ⟨_, htotal, hclean⟩ := h
      exact ⟨asset, none, hread none hnull (by simp), htotal, (Except.ok.inj hclean).symm⟩
    · next text htext =>
      simp only [bind_eq_ok, ensure_eq_ok] at h
      obtain ⟨_, hdocument, _, hsome, _, htotal, hclean⟩ := h
      obtain rfl := Except.ok.inj hsome
      refine ⟨asset, some text, hread (some text) htext ?_, htotal, (Except.ok.inj hclean).symm⟩
      rintro text' ⟨⟩
      exact hdocument
    · obtain ⟨_, herror, -⟩ := bind_eq_ok.1 h
      cases herror
  · rintro ⟨asset, documentId, ⟨⟨members, hvalue, hasset, hdocument⟩, hdecoded, htext⟩, htotal, rfl⟩
    refine ⟨.obj members, hvalue, members, rfl, asset, hasset, asset.size, hdecoded, (), rfl, ?_⟩
    rw [hdocument]
    cases documentId with
    | none => simp [ensure, htotal, bind, Except.bind, assetJson]
    | some text => simp [ensure, htotal, htext text rfl, bind, Except.bind, assetJson]

theorem readAsset_again {members : Members} {id : String} {asset : Asset}
    {documentId : Option String} (h : readAsset id members = some asset) :
    readAsset id (assetJson id asset documentId) = some asset := by
  simp only [readAsset, Option.bind_eq_bind, Option.bind_eq_some_iff] at h
  obtain ⟨name, -, size, -, mime, -, data, -, h⟩ := h
  obtain ⟨hvalid, hasset⟩ := Option.ite_none_right_eq_some.1 h
  obtain rfl := Option.some.inj hasset
  have hsize : (size.toNat : Int) = size := Int.toNat_of_nonneg (by omega)
  obtain ⟨hid, -, hname, hlength, hsizes, hmime, hdata⟩ := hvalid
  simp only [readAsset, Option.bind_eq_bind, Option.bind_eq_some_iff]
  refine ⟨name, rfl, size, congrArg some hsize, mime, rfl, data, rfl, ?_⟩
  exact if_pos ⟨hid, rfl, hname, hlength, hsizes, hmime, hdata⟩

theorem AssetRead.again {assets assets' : Members} {id : String} {asset : Asset}
    {documentId : Option String} (h : AssetRead env assets id asset documentId)
    (hstored : assets'.lookup id = some (.obj (assetJson id asset documentId))) :
    AssetRead env assets' id asset documentId := by
  obtain ⟨⟨members, -, hread, -⟩, hdecoded, hdocument⟩ := h
  refine ⟨⟨_, hstored, readAsset_again hread, ?_⟩, hdecoded, hdocument⟩
  cases documentId <;> rfl

theorem AssetRead.unique {assets : Members} {id : String} {asset asset' : Asset}
    {documentId documentId' : Option String} (h : AssetRead env assets id asset documentId)
    (h' : AssetRead env assets id asset' documentId') :
    asset = asset' ∧ documentId = documentId' := by
  obtain ⟨⟨members, hlookup, hread, hdocument⟩, -, -⟩ := h
  obtain ⟨⟨members', hlookup', hread', hdocument'⟩, -, -⟩ := h'
  obtain rfl : members = members' := Json.obj.inj (Option.some.inj (hlookup.symm.trans hlookup'))
  refine ⟨Option.some.inj (hread.symm.trans hread'), ?_⟩
  rw [hdocument] at hdocument'
  cases documentId <;> cases documentId' <;> simp_all

/-- The attachments that are kept are those that were read, in their order. -/
theorem foldlM_cleanAsset {assets : Members} {ids : List String}
    {clean clean' : Nat × List (String × Json)}
    (h : ids.foldlM (cleanAsset env assets) clean = .ok clean') :
    ∃ new, clean'.2 = clean.2 ++ new ∧ new.map Prod.fst = ids ∧ ∀ pair ∈ new,
      ∃ asset documentId, AssetRead env assets pair.1 asset documentId ∧
        pair.2 = .obj (assetJson pair.1 asset documentId) := by
  induction ids generalizing clean with
  | nil =>
      obtain rfl := Except.ok.inj h
      exact ⟨[], (List.append_nil _).symm, rfl, by simp⟩
  | cons id ids ih =>
      rw [List.foldlM_cons, bind_eq_ok] at h
      obtain ⟨next, hnext, hrest⟩ := h
      obtain ⟨asset, documentId, hread, -, rfl⟩ := cleanAsset_eq_ok.1 hnext
      obtain ⟨new, hclean, hids, hnew⟩ := ih hrest
      refine ⟨(id, .obj (assetJson id asset documentId)) :: new, ?_, ?_, ?_⟩
      · rw [hclean, List.append_assoc, List.singleton_append]
      · rw [List.map_cons, hids]
      · exact List.forall_mem_cons.2 ⟨⟨asset, documentId, hread, rfl⟩, hnew⟩

theorem cleanAssets_again {assets kept : Members} {ids : List String} {total : Nat}
    (hids : ids.Nodup) (h : ids.foldlM (cleanAsset env assets) (0, []) = .ok (total, kept)) :
    kept.map Prod.fst = ids ∧ ids.foldlM (cleanAsset env kept) (0, []) = .ok (total, kept) := by
  obtain ⟨new, hkept, hnames, hnew⟩ := foldlM_cleanAsset h
  obtain rfl : kept = new := hkept
  refine ⟨hnames, foldlM_eq_of_foldlM h fun clean id hid clean' hclean => ?_⟩
  obtain ⟨asset, documentId, hread, htotal, hclean'⟩ := cleanAsset_eq_ok.1 hclean
  obtain ⟨pair, hpair, rfl⟩ := List.mem_map.1 (hnames ▸ hid)
  obtain ⟨asset', documentId', hread', hvalue⟩ := hnew pair hpair
  obtain ⟨rfl, rfl⟩ := hread.unique hread'
  have hstored : kept.lookup pair.1 = some (.obj (assetJson pair.1 asset documentId)) :=
    hvalue ▸ (lookup_eq_some_iff (hnames ▸ hids)).2 hpair
  exact cleanAsset_eq_ok.2 ⟨asset, documentId, hread.again hstored, htotal, hclean'⟩

/-! ## Workbooks -/

/-- What the link shows, as a payload. -/
def PublicWorkbook.payload (w : PublicWorkbook) : Members :=
  [("version", .int 1), ("id", .str w.id), ("name", .str w.name), ("template", .bool false),
    ("sheets", .arr (w.sheets.map fun t => .obj t.payload)),
    ("folders", .arr (w.folders.map folderJson)), ("assets", .obj w.assets)]

theorem plain_of_attach {ids : List String} {assets : Members} {sources : List (Json × Members)}
    {target t : PublicSheet} (h : attach env ids assets sources target = .ok t) :
    t.plain = target.plain := by
  simp only [attach, bind_eq_ok] at h
  obtain ⟨_, -, _, -, _, -, _, -, ht⟩ := h
  rw [← Except.ok.inj ht]
  rfl

theorem folderId_of_attach {ids : List String} {assets : Members}
    {sources : List (Json × Members)} {target t : PublicSheet}
    (h : attach env ids assets sources target = .ok t) : ∀ id, t.folderId = some id → id ∈ ids := by
  simp only [attach, bind_eq_ok] at h
  obtain ⟨source, -, folderId, hfolder, _, -, _, -, ht⟩ := h
  intro id hid
  rw [← Except.ok.inj ht] at hid
  obtain rfl : folderId = some id := hid
  unfold checkFolder at hfolder
  dsimp only at hfolder
  split at hfolder
  · simp only [bind_eq_ok, orError_eq_ok] at hfolder
    obtain ⟨_, -, id', hid', hsome⟩ := hfolder
    obtain rfl := Option.some.inj (Except.ok.inj hsome)
    exact of_decide_eq_true (Option.filter_eq_some_iff.1 hid').2
  · cases hfolder

theorem joinMedia_again {folders : List (String × String)} {assets kept : Members}
    {sheets : List Json} {targets attached : List PublicSheet}
    {folders' : List (String × String)}
    (hlaid : ∀ t ∈ targets, t.plain = t ∧ t.Laid) (hids : (targets.map (·.id)).Nodup)
    (h : joinMedia env folders assets sheets targets = .ok (attached, folders', kept)) :
    attached.map PublicSheet.plain = targets ∧ folders'.Sublist folders ∧
      joinMedia env folders' kept (attached.map fun t => .obj t.payload) targets =
        .ok (attached, folders', kept) := by
  simp only [joinMedia, bind_eq_ok] at h
  obtain ⟨sources, hsources, attached', hattached, ⟨total, kept'⟩, hkept, hresult⟩ := h
  obtain ⟨rfl, hrest⟩ := Prod.mk.inj (Except.ok.inj hresult)
  obtain ⟨hfolders, rfl⟩ := Prod.mk.inj hrest
  have hmap : attached'.map PublicSheet.plain = targets.map PublicSheet.plain :=
    map_eq_of_mapM hattached fun _ _ ht => plain_of_attach ht
  have hplain : attached'.map PublicSheet.plain = targets :=
    hmap.trans ((List.map_congr_left fun t ht => (hlaid t ht).1).trans (List.map_id targets))
  have hsame : attached'.map (·.id) = targets.map (·.id) := by
    rw [← hplain, List.map_map]
    rfl
  obtain ⟨sources', hsources', hfound⟩ := originals_again (hsame.symm ▸ hids)
  obtain ⟨hnames, hkept'⟩ := cleanAssets_again (List.nodup_dedup _) hkept
  refine ⟨hplain, hfolders ▸ List.filter_sublist, ?_⟩
  simp only [joinMedia, bind_eq_ok]
  refine ⟨sources', hsources', attached', mapM_eq_of_mapM hattached fun target htarget t ht hok => ?_,
    (total, kept'), hkept', ?_⟩
  · have hsame := congrArg PublicSheet.id (plain_of_attach hok)
    have hid : t.id = target.id := hsame
    refine attach_again hok (hlaid target htarget).2 (hid ▸ hfound t ht) (fun id hfolder => ?_)
      fun entry hentry id hmem => ?_
    · have hmem := folderId_of_attach hok id hfolder
      obtain ⟨folder, hfolder', rfl⟩ := List.mem_map.1 hmem
      rw [← hfolders]
      refine List.mem_map_of_mem (List.mem_filter.2 ⟨hfolder', decide_eq_true ?_⟩)
      exact hfolder ▸ List.mem_map_of_mem ht
    · rw [isSome_lookup, hnames]
      exact List.mem_dedup.2 (List.mem_flatMap.2 ⟨t, ht, List.mem_flatMap.2 ⟨entry, hentry, hmem⟩⟩)
  · rw [← hfolders, List.filter_filter]
    simp only [Bool.and_self]

/-- What `clean_workbook` made of a workbook it makes of it again, if it is not too large. -/
theorem clean_workbook_again {env : Env} {book : Members} {w : PublicWorkbook}
    (h : cleanWorkbook env book = .ok w)
    (hsize : (Json.obj w.payload).dumpsLength ≤ 35000000) :
    cleanWorkbook env w.payload = .ok w := by
  simp only [cleanWorkbook, bind_eq_ok, ensure_eq_ok] at h ⊢
  obtain ⟨⟨id, sheets⟩, hbook, cleaned, hcleaned, _, hsome, ⟨attached, folders, assets⟩, hmedia,
    hw⟩ := h
  obtain rfl := Except.ok.inj hw
  simp only [checkBook, bind_eq_ok, orError_eq_ok, ensure_eq_ok] at hbook
  obtain ⟨_, -, _, -, id', hid, sheets', hsheets, hpair⟩ := hbook
  obtain ⟨rfl, rfl⟩ := Prod.mk.inj (Except.ok.inj hpair)
  have hsound := sound_of_foldlM hcleaned
  obtain ⟨new, hnew, hlength, hagain⟩ := foldlM_visit_again hcleaned
  obtain rfl : cleaned.clean = new := hnew
  simp only [cleanWorkbookMedia, bind_eq_ok, orError_eq_ok] at hmedia
  obtain ⟨listed, hlisted, assets', -, clean, hclean, hjoin⟩ := hmedia
  obtain ⟨hplain, hsub, hjoin'⟩ := joinMedia_again hsound.laid hsound.nodup hjoin
  have hcount : attached.length = cleaned.clean.length := by rw [← hplain, List.length_map]
  have hsheets' := of_decide_eq_true (Option.filter_eq_some_iff.1 hsheets).2
  refine ⟨(id', attached.map fun t => .obj t.payload), ?_, cleaned, hagain attached hplain, (),
    hsome, (attached, folders, assets), ?_, ?_⟩
  · simp only [checkBook, bind_eq_ok, orError_eq_ok, ensure_eq_ok]
    refine ⟨(), hsize, (), rfl, id', Option.filter_eq_some_iff.2
      ⟨rfl, (Option.filter_eq_some_iff.1 hid).2⟩, attached.map fun t => .obj t.payload,
      Option.filter_eq_some_iff.2 ⟨rfl, decide_eq_true ?_⟩, rfl⟩
    rw [List.length_map, hcount]
    exact ⟨List.length_pos_iff.2 hsome, hlength.trans hsheets'.2⟩
  · simp only [cleanWorkbookMedia, bind_eq_ok, orError_eq_ok]
    refine ⟨folders.map folderJson, Option.filter_eq_some_iff.2 ⟨rfl, decide_eq_true ?_⟩, assets,
      rfl, folders, cleanFolders_again ((folderList_of_cleanFolders hclean).sublist hsub), hjoin'⟩
    have hshort := of_decide_eq_true (Option.filter_eq_some_iff.1 hlisted).2
    rw [List.length_map]
    refine hsub.length_le.trans (Nat.le_trans ?_ hshort)
    rw [cleanFolders_eq hclean]
    exact List.length_filterMap_le readFolder listed
  · exact congrArg (fun name => Except.ok (PublicWorkbook.mk id' name attached folders assets))
      (shorten_shorten 250 _)

namespace Sample

/-- A sheet in a folder, with a format, settings and an attachment. -/
def sheet : Json :=
  .obj [("id", .str "s1"), ("name", .str "Log"),
    ("cells", .arr [.arr [.str "depth"], .arr [.str "12"]]), ("widths", .arr [.int 80]),
    ("heights", .arr [.int 20, .bool true]), ("folderId", .str "f1"),
    ("merges", .arr [.obj [("r", .int 0), ("c", .int 0), ("er", .int 1), ("ec", .int 0)]]),
    ("formats", .obj [("0:0", .obj [("color", .str "red"), ("bold", .bool true)])]),
    ("print", .obj [("orientation", .str "landscape"), ("zoom", .int 2)]),
    ("media", .obj [("1:0", .arr [.str "a1"])])]

def photo : Json :=
  .obj [("id", .str "a1"), ("name", .str "core.png"), ("size", .int 3), ("mime", .str "image/png"),
    ("data", .str "AAAA"), ("documentId", .null)]

/-- A workbook with a folder and an attachment that nothing refers to. -/
def filled : Members :=
  [("version", .float (some 1) "1.0"), ("id", .str "w"), ("name", .str "Shift"),
    ("sheets", .arr [.obj [("hidden", .int 1), ("id", .null)], sheet]),
    ("folders", .arr [folder "f1" "Logs", folder "f2" "Old"]),
    ("assets", .obj [("a1", photo), ("a2", .null)])]

/-- Bytes in base 64, as many as there are. -/
def plain : Env := { ascii with b64decode text := some (text.length / 4 * 3) }

end Sample

theorem clean_workbook_again_filled : ∃ w, cleanWorkbook Sample.plain Sample.filled = .ok w ∧
    w.folders = [("f1", "Logs")] ∧ cleanWorkbook Sample.plain w.payload = .ok w := by
  obtain ⟨w, hw, hseen⟩ := exists_of_any (x := cleanWorkbook Sample.plain Sample.filled)
    (p := fun w => (Json.obj w.payload).dumpsLength ≤ 35000000 ∧ w.folders = [("f1", "Logs")])
    (by decide +kernel)
  have hfacts := of_decide_eq_true hseen
  exact ⟨w, hw, hfacts.2, clean_workbook_again hw hfacts.1⟩

end Cestos.Shares
