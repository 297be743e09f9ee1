import Cestos.Shares.Hidden

/-!
# Hidden sheets stay hidden

The folder and the attachments of a visible sheet are joined back to it from the sheet itself, as
long as no hidden sheet has its identifier. So two payloads that differ only in what is hidden come
to the same, unless the limits on the payload as a whole tell them apart.
-/

namespace Cestos.Shares

open Cestos.Core Cestos.Core.Json

variable {env : Env} {a b book : Members}

/-! ## Attachments of a sheet -/

theorem checkFolder_congr {ids ids' : List String} {source : Members}
    (h : ∀ id, (getD source "folderId" .null).str? = some id → (id ∈ ids ↔ id ∈ ids')) :
    checkFolder ids source = checkFolder ids' source := by
  unfold checkFolder
  cases hfolder : (getD source "folderId" .null).str? with
  | none => simp only [hfolder, Option.filter_none]
  | some id =>
      have hsame : (id ∈ ids) = (id ∈ ids') := propext (h id hfolder)
      simp only [hfolder, Option.filter_some, hsame]

theorem checkFolder_eq_some {ids : List String} {source : Members} {id : String}
    (h : checkFolder ids source = .ok (some id)) : (getD source "folderId" .null).str? = some id := by
  unfold checkFolder at h
  dsimp only at h
  split at h
  · simp only [bind_eq_ok, orError_eq_ok] at h
    obtain ⟨-, -, id', hid', hsome⟩ := h
    rw [← Option.some.inj (Except.ok.inj hsome)]
    exact (Option.filter_eq_some_iff.1 hid').1
  · cases h

/-- The references of one cell are among those of the sheet. -/
theorem mem_mediaRefs {source : Members} {media : Members} {entry : String × Json}
    (hmedia : (getD source "media" (.obj [])).members? = some media) (hentry : entry ∈ media)
    {items : List Json} {refs : List String} (hitems : entry.2.items? = some items)
    (hrefs : items.mapM Json.str? = some refs) : ∀ id ∈ refs, id ∈ mediaRefs source := by
  intro id hid
  unfold mediaRefs
  rw [hmedia, Option.getD_some, List.mem_flatMap]
  refine ⟨entry, hentry, ?_⟩
  rw [hitems, Option.getD_some, List.mem_filterMap]
  clear hitems
  induction items generalizing refs with
  | nil =>
      simp only [List.mapM_nil, Option.pure_def, Option.some.injEq] at hrefs
      subst hrefs
      cases hid
  | cons item items ih =>
      simp only [List.mapM_cons, Option.bind_eq_bind, Option.pure_def, Option.bind_eq_some_iff,
        Option.some.injEq] at hrefs
      obtain ⟨first, hfirst, rest, hrest, rfl⟩ := hrefs
      rcases List.mem_cons.1 hid with rfl | hid
      · exact ⟨item, List.mem_cons_self, hfirst⟩
      · obtain ⟨x, hx, hxid⟩ := ih hrest hid
        exact ⟨x, List.mem_cons_of_mem item hx, hxid⟩

theorem checkRefs_congr {assets assets' : Members} {source media : Members} {rows columns : Nat}
    {entry : String × Json} (hmedia : (getD source "media" (.obj [])).members? = some media)
    (hentry : entry ∈ media) (h : ∀ id ∈ mediaRefs source, assets.lookup id = assets'.lookup id) :
    checkRefs env assets rows columns entry = checkRefs env assets' rows columns entry := by
  unfold checkRefs
  refine bind_congr_ok fun digits _ => bind_congr_ok fun refs hrefs => bind_congr_ok fun r _ =>
    bind_congr_ok fun c _ => ?_
  obtain ⟨items, hitems, hstrings⟩ :=
    Option.bind_eq_some_iff.1 (Option.filter_eq_some_iff.1 (orError_eq_ok.1 hrefs)).1
  have hmem := mem_mediaRefs hmedia hentry (Option.filter_eq_some_iff.1 hitems).1 hstrings
  have hsame : (∀ id ∈ refs, (assets.lookup id).isSome = true) ↔
      ∀ id ∈ refs, (assets'.lookup id).isSome = true :=
    forall₂_congr fun id hid => by rw [h id (hmem id hid)]
  exact congrArg (· >>= _) (ensure_congr (by rw [hsame]))

theorem checkRefs_eq_ok {assets : Members} {source media : Members} {rows columns : Nat}
    {entry safe : String × _} (hmedia : (getD source "media" (.obj [])).members? = some media)
    (hentry : entry ∈ media) (h : checkRefs env assets rows columns entry = .ok safe) :
    ∀ id ∈ safe.2, id ∈ mediaRefs source := by
  simp only [checkRefs, bind_eq_ok, orError_eq_ok] at h
  obtain ⟨_, -, refs, hrefs, _, -, _, -, _, -, hsafe⟩ := h
  obtain ⟨items, hitems, hstrings⟩ :=
    Option.bind_eq_some_iff.1 (Option.filter_eq_some_iff.1 hrefs).1
  rw [← Except.ok.inj hsafe]
  exact mem_mediaRefs hmedia hentry (Option.filter_eq_some_iff.1 hitems).1 hstrings

theorem attach_congr {ids ids' : List String} {assets assets' : Members}
    {sources sources' : List (Json × Members)} {t : PublicSheet}
    (hsource : original sources t.id = original sources' t.id)
    (h : ∀ source, original sources t.id = some source →
      (∀ id, (getD source "folderId" .null).str? = some id → (id ∈ ids ↔ id ∈ ids')) ∧
        ∀ id ∈ mediaRefs source, assets.lookup id = assets'.lookup id) :
    attach env ids assets sources t = attach env ids' assets' sources' t := by
  unfold attach
  rw [← hsource]
  refine bind_congr_ok fun source hfound => ?_
  obtain ⟨hfolders, hassets⟩ := h source (orError_eq_ok.1 hfound)
  rw [checkFolder_congr hfolders]
  refine bind_congr_ok fun folderId _ => bind_congr_ok fun media hmedia => ?_
  exact congrArg (· >>= _) (mapM_congr fun entry hentry =>
    checkRefs_congr (orError_eq_ok.1 hmedia) hentry hassets)

/-- What a sheet is given comes from the sheet that is found under its identifier. -/
theorem attach_eq_ok {ids : List String} {assets : Members} {sources : List (Json × Members)}
    {t t' : PublicSheet} (h : attach env ids assets sources t = .ok t') :
    ∃ source, original sources t.id = some source ∧
      (∀ id, t'.folderId = some id → (getD source "folderId" .null).str? = some id) ∧
      ∀ entry ∈ t'.media, ∀ id ∈ entry.2, id ∈ mediaRefs source := by
  simp only [attach, bind_eq_ok, orError_eq_ok] at h
  obtain ⟨source, hsource, folderId, hfolder, media, hmedia, safe, hsafe, ht'⟩ := h
  refine ⟨source, hsource, fun id hid => ?_, ?_⟩
  · rw [← Except.ok.inj ht'] at hid
    exact checkFolder_eq_some (hfolder.trans (congrArg Except.ok hid))
  · rw [← Except.ok.inj ht']
    exact forall_of_mapM hsafe fun entry hentry safe hok => checkRefs_eq_ok hmedia hentry hok

/-! ## Folders -/

theorem filter_filterMap {α β : Type} (read : α → Option β) (p : β → Bool) (l : List α) :
    (l.filterMap read).filter p = (l.filter fun x => (read x).all p).filterMap read := by
  induction l with
  | nil => rfl
  | cons x l ih =>
      rw [List.filterMap_cons, List.filter_cons]
      cases hx : read x with
      | none => simp [hx, ih]
      | some y =>
          by_cases hy : p y = true
          · simp [hx, hy, ih]
          · simp [hy, ih]

theorem filter_folders_eq {l m : List Json} (h : FoldersAgree a b l m) :
    (l.filterMap readFolder).filter (fun folder => ¬ HiddenOnly folderRefs a b folder.1) =
      (m.filterMap readFolder).filter fun folder => ¬ HiddenOnly folderRefs a b folder.1 := by
  rw [filter_filterMap, filter_filterMap]
  exact congrArg (List.filterMap readFolder) h

theorem not_hiddenOnly {refs : List Json → List String} {id : String}
    (h : id ∈ refs (visible (sheetsOf a))) : ¬ HiddenOnly refs a b id :=
  fun hidden => hidden.1 h

/-! ## Refusals -/

theorem not_tooLarge {w : PublicWorkbook} (h : cleanWorkbook env book = .ok w) :
    ¬ TooLarge book := by
  simp only [cleanWorkbook, checkBook, bind_eq_ok, ensure_eq_ok] at h
  obtain ⟨_, ⟨_, hsize, -⟩, -⟩ := h
  exact Nat.not_lt.2 hsize

theorem validFolders {w : PublicWorkbook} (h : cleanWorkbook env book = .ok w) :
    ValidFolders env book := by
  simp only [cleanWorkbook, bind_eq_ok] at h
  obtain ⟨_, -, _, -, _, -, _, hmedia, -⟩ := h
  simp only [cleanWorkbookMedia, bind_eq_ok, orError_eq_ok, Option.filter_eq_some_iff] at hmedia
  obtain ⟨folders, ⟨hfolders, hlength⟩, _, -, cleaned, hcleaned, -⟩ := hmedia
  exact ⟨folders, hfolders, of_decide_eq_true hlength, by rw [hcleaned]; rfl⟩

/-- Before the sheets are looked at, only their number matters. -/
theorem checkBook_sheets {l m : List Json} (hlarge : ¬ TooLarge a ∧ ¬ TooLarge b)
    (hversion : getD a "version" .null = getD b "version" .null)
    (hid : getD a "id" .null = getD b "id" .null) (hl : getD a "sheets" .null = .arr l)
    (hm : getD b "sheets" .null = .arr m) (hlength : l.length = m.length) :
    checkBook a = (checkBook b).map fun checked => (checked.1, l) := by
  unfold checkBook
  rw [hversion, hid, hl, hm]
  have hsmall : ∀ {book : Members}, ¬ TooLarge book →
      ensure ((Json.obj book).dumpsLength ≤ 35000000) (Refusal.http 413 "Shared workbook exceeds 35 MB") =
        .ok () := fun h => if_pos (Nat.not_lt.1 h)
  rw [hsmall hlarge.1, hsmall hlarge.2, ok_bind, ok_bind]
  cases ensure (isOne (getD b "version" .null) = true) (invalid "Invalid workbook") with
  | error e => rfl
  | ok u =>
      rw [ok_bind, ok_bind]
      cases orError ((getD b "id" .null).str?.filter fun id => id.length ≤ 100)
          (invalid "Invalid workbook") with
      | error e => rfl
      | ok id =>
          rw [ok_bind, ok_bind, Json.items?, Json.items?, Option.filter_some, Option.filter_some,
            hlength]
          by_cases hcount : 1 ≤ m.length ∧ m.length ≤ 30
          · rw [if_pos (decide_eq_true hcount), if_pos (decide_eq_true hcount)]
            rfl
          · have hfew : ¬ decide (1 ≤ m.length ∧ m.length ≤ 30) = true :=
              fun hdecide => hcount (of_decide_eq_true hdecide)
            rw [if_neg hfew, if_neg hfew]
            rfl

/-! ## Sheets and what belongs to them -/

section Media

variable {l m : List Json} {cleaned : Cleaned}

/-- Sheets that the loop gets past can all be found by their identifiers. -/
theorem sources_ok (hvisit : l.foldlM (visit env) ⟨[], [], []⟩ = .ok cleaned)
    (hsheets : sheetsOf book = l) (hapart : HiddenApart book) :
    ∃ sources, originals l = .ok sources ∧ ∀ text, original sources text =
      (l.reverse.find? fun s => sheetId s = some text).bind Json.members? := by
  refine originals_ok (forall_of_foldlM ?_ hvisit)
  intro seen s seen' hs hok
  rcases visit_cases hok with ⟨hhidden, -⟩ | ⟨-, t, -, hid⟩
  · obtain ⟨members, id, hmembers, hid, hhashable, -⟩ :=
      hapart s (List.mem_filter.2 ⟨hsheets ▸ hs, hhidden⟩)
    exact ⟨members, id, hmembers, hid, hhashable⟩
  · obtain ⟨members, hmembers, hid⟩ := Option.bind_eq_some_iff.1 hid
    obtain ⟨id, hlookup, hstr⟩ := Option.bind_eq_some_iff.1 hid
    refine ⟨members, id, hmembers, hlookup, ?_⟩
    cases id <;> first | rfl | cases hstr

/-- No hidden sheet has the identifier of one that was let through. -/
theorem hidden_id_ne (hvisit : l.foldlM (visit env) ⟨[], [], []⟩ = .ok cleaned)
    (hsheets : sheetsOf book = l) (hapart : HiddenApart book) {t : PublicSheet}
    (ht : t ∈ cleaned.clean) : ∀ s ∈ hidden l, sheetId s ≠ some t.id := by
  intro s hs hid
  subst hsheets
  obtain ⟨members, id, hmembers, hlookup, -, hother⟩ := hapart s hs
  refine hother t.id ?_ (id_mem_visible hvisit t ht)
  rw [sheetId, hmembers, Option.bind_some, hlookup, Option.bind_some] at hid
  exact hid

/-- A sheet that was let through is joined to a visible sheet. -/
theorem source_visible (hvisit : l.foldlM (visit env) ⟨[], [], []⟩ = .ok cleaned)
    (hsheets : sheetsOf book = l) (hapart : HiddenApart book) {t : PublicSheet}
    (ht : t ∈ cleaned.clean) {source : Members}
    (hsource : (l.reverse.find? fun s => sheetId s = some t.id).bind Json.members? = some source) :
    (∀ id, (getD source "folderId" .null).str? = some id → id ∈ folderRefs (visible l)) ∧
      ∀ id ∈ mediaRefs source, id ∈ assetRefs (visible l) := by
  obtain ⟨s, hfound, hmembers⟩ := Option.bind_eq_some_iff.1 hsource
  have hid : sheetId s = some t.id := by simpa using List.find?_some hfound
  have hs : s ∈ l := List.mem_reverse.1 (List.mem_of_find?_eq_some hfound)
  have hvisible : s ∈ visible l := by
    refine List.mem_filter.2 ⟨hs, ?_⟩
    cases hhidden : isHidden s with
    | false => rfl
    | true =>
        exact absurd hid (hidden_id_ne hvisit hsheets hapart ht s (List.mem_filter.2 ⟨hs, hhidden⟩))
  refine ⟨fun id hfolder => List.mem_filterMap.2 ⟨s, hvisible, ?_⟩,
    fun id hmedia => List.mem_flatMap.2 ⟨s, hvisible, ?_⟩⟩
  · rw [hmembers, Option.bind_some]
    exact hfolder
  · rw [hmembers, Option.getD_some]
    exact hmedia

theorem mem_folders_iff {ca cb : List (String × String)} {id : String}
    (h : (ca.filter fun folder => ¬ HiddenOnly folderRefs a b folder.1) =
      cb.filter fun folder => ¬ HiddenOnly folderRefs a b folder.1)
    (hshown : ¬ HiddenOnly folderRefs a b id) : id ∈ ca.map (·.1) ↔ id ∈ cb.map (·.1) := by
  have hfolder : ∀ folder : String × String, folder.1 = id → (folder ∈ ca ↔ folder ∈ cb) := by
    rintro folder rfl
    have hboth : (folder ∈ ca.filter fun folder => ¬ HiddenOnly folderRefs a b folder.1) ↔
        folder ∈ cb.filter fun folder => ¬ HiddenOnly folderRefs a b folder.1 := by rw [h]
    simpa [List.mem_filter, hshown] using hboth
  simp only [List.mem_map]
  exact exists_congr fun folder => ⟨fun ⟨hin, heq⟩ => ⟨(hfolder folder heq).1 hin, heq⟩,
    fun ⟨hin, heq⟩ => ⟨(hfolder folder heq).2 hin, heq⟩⟩

/-- A sheet with its folder and its attachments refers to what visible sheets refer to. -/
theorem attached_visible (hvisit : l.foldlM (visit env) ⟨[], [], []⟩ = .ok cleaned)
    (hsheets : sheetsOf book = l) (hapart : HiddenApart book) {ids : List String} {assets : Members}
    {sources : List (Json × Members)} (hsources : ∀ text, original sources text =
      (l.reverse.find? fun s => sheetId s = some text).bind Json.members?)
    {attached : List PublicSheet}
    (hattached : cleaned.clean.mapM (attach env ids assets sources) = .ok attached) :
    ∀ t ∈ attached, (∀ id, t.folderId = some id → id ∈ folderRefs (visible l)) ∧
      ∀ entry ∈ t.media, ∀ id ∈ entry.2, id ∈ assetRefs (visible l) := by
  refine forall_of_mapM hattached fun t ht t' ht' => ?_
  obtain ⟨source, hsource, hfolder, hmedia⟩ := attach_eq_ok ht'
  rw [hsources] at hsource
  obtain ⟨hfolderRefs, hassetRefs⟩ := source_visible hvisit hsheets hapart ht hsource
  exact ⟨fun id hid => hfolderRefs id (hfolder id hid),
    fun entry hentry id hid => hassetRefs id (hmedia entry hentry id hid)⟩

/-- Of the folders, those that only hidden sheets refer to are not kept anyway. -/
theorem filter_attached {attached : List PublicSheet} (hshown : ∀ t ∈ attached, ∀ id,
    t.folderId = some id → ¬ HiddenOnly folderRefs a b id) (folders : List (String × String)) :
    (folders.filter fun folder => some folder.1 ∈ attached.map (·.folderId)) =
      (folders.filter fun folder => ¬ HiddenOnly folderRefs a b folder.1).filter fun folder =>
        some folder.1 ∈ attached.map (·.folderId) := by
  rw [List.filter_filter]
  refine List.filter_congr fun folder _ => ?_
  by_cases hin : some folder.1 ∈ attached.map (·.folderId)
  · obtain ⟨t, ht, hfolder⟩ := List.mem_map.1 hin
    have hnot := hshown t ht folder.1 hfolder
    simp [hnot]
  · simp [hin]

theorem joinMedia_eq {ca cb : List (String × String)} {xa xb : Members} (ha : HiddenApart a)
    (hb : HiddenApart b) (hla : sheetsOf a = l) (hmb : sheetsOf b = m)
    (hlm : List.Forall₂ (fun s t => s = t ∨ isHidden s = true ∧ isHidden t = true) l m)
    (hvisit : l.foldlM (visit env) ⟨[], [], []⟩ = .ok cleaned)
    (hfolders : (ca.filter fun folder => ¬ HiddenOnly folderRefs a b folder.1) =
      cb.filter fun folder => ¬ HiddenOnly folderRefs a b folder.1)
    (hassets : ∀ id ∈ assetRefs (visible l), xa.lookup id = xb.lookup id) :
    joinMedia env ca xa l cleaned.clean = joinMedia env cb xb m cleaned.clean := by
  obtain ⟨sa, hsa, hfinda⟩ := sources_ok hvisit hla ha
  obtain ⟨sb, hsb, hfindb⟩ := sources_ok (foldlM_visit hlm _ ▸ hvisit) hmb hb
  have hshown : ∀ id ∈ folderRefs (visible l), ¬ HiddenOnly folderRefs a b id := by
    intro id hid
    subst hla
    exact not_hiddenOnly hid
  have hattach : ∀ t ∈ cleaned.clean, attach env (ca.map (·.1)) xa sa t =
      attach env (cb.map (·.1)) xb sb t := by
    intro t ht
    refine attach_congr ?_ fun source hsource => ?_
    · rw [hfinda, hfindb, find?_visible ((List.forall₂_reverse_iff).2 hlm)]
      · intro s hs
        refine hidden_id_ne hvisit hla ha ht s (List.mem_filter.2 ?_)
        exact ⟨List.mem_reverse.1 (List.mem_filter.1 hs).1, (List.mem_filter.1 hs).2⟩
      · intro s hs
        refine hidden_id_ne (foldlM_visit hlm _ ▸ hvisit) hmb hb ht s (List.mem_filter.2 ?_)
        exact ⟨List.mem_reverse.1 (List.mem_filter.1 hs).1, (List.mem_filter.1 hs).2⟩
    · rw [hfinda] at hsource
      obtain ⟨hfolder, hmedia⟩ := source_visible hvisit hla ha ht hsource
      exact ⟨fun id hid => mem_folders_iff hfolders (hshown id (hfolder id hid)),
        fun id hid => hassets id (hmedia id hid)⟩
  unfold joinMedia
  rw [hsa, hsb, ok_bind, ok_bind, mapM_congr hattach]
  refine bind_congr_ok fun attached hattached => ?_
  rw [← mapM_congr hattach] at hattached
  have hfrom := attached_visible hvisit hla ha hfinda hattached
  have hkept : ∀ clean, ∀ id ∈ used attached,
      cleanAsset env xa clean id = cleanAsset env xb clean id := by
    intro clean id hid
    obtain ⟨t', ht', hmedia⟩ := List.mem_flatMap.1 (List.mem_dedup.1 hid)
    obtain ⟨entry, hentry, hin⟩ := List.mem_flatMap.1 hmedia
    unfold cleanAsset
    rw [hassets id ((hfrom t' ht').2 entry hentry id hin)]
  rw [foldlM_congr hkept]
  have hkeep := filter_attached fun t ht id hid => hshown id ((hfrom t ht).1 id hid)
  rw [hkeep ca, hkeep cb, hfolders]

theorem media_eq (h : DifferOnlyHidden a b) (ha : HiddenApart a) (hb : HiddenApart b)
    (hfa : ValidFolders env a) (hfb : ValidFolders env b) (hla : sheetsOf a = l)
    (hmb : sheetsOf b = m)
    (hlm : List.Forall₂ (fun s t => s = t ∨ isHidden s = true ∧ isHidden t = true) l m)
    (hvisit : l.foldlM (visit env) ⟨[], [], []⟩ = .ok cleaned) :
    cleanWorkbookMedia env a l cleaned.clean = cleanWorkbookMedia env b m cleaned.clean := by
  obtain ⟨fa, hfa, hfalength, hfaok⟩ := hfa
  obtain ⟨fb, hfb, hfblength, hfbok⟩ := hfb
  obtain ⟨ca, hca⟩ := isOk_iff.1 hfaok
  obtain ⟨cb, hcb⟩ := isOk_iff.1 hfbok
  have hfolders : FoldersAgree a b fa fb := by
    rcases h.folders with hsame | ⟨_, _, hl, hm, hagree⟩
    · rw [hsame, hfb] at hfa
      rw [Option.some.inj hfa, FoldersAgree]
    · rw [hl] at hfa
      rw [hm] at hfb
      rw [← Option.some.inj hfa, ← Option.some.inj hfb]
      exact hagree
  have hclean := filter_folders_eq hfolders
  rw [← cleanFolders_eq hca, ← cleanFolders_eq hcb] at hclean
  have hread : ∀ {f : List Json}, f.length ≤ 50 →
      ((some f).filter fun l => l.length ≤ 50) = some f := fun hlength => by
    rw [Option.filter_some]
    exact if_pos (decide_eq_true hlength)
  have hjoin : ∀ {xa xb : Members}, (∀ id ∈ assetRefs (visible l), xa.lookup id = xb.lookup id) →
      (cleanFolders env fa >>= fun folders => joinMedia env folders xa l cleaned.clean) =
        cleanFolders env fb >>= fun folders => joinMedia env folders xb m cleaned.clean := by
    intro xa xb hassets
    rw [hca, hcb, ok_bind, ok_bind]
    exact joinMedia_eq ha hb hla hmb hlm hvisit hclean hassets
  unfold cleanWorkbookMedia
  rw [hfa, hfb, hread hfalength, hread hfblength]
  rcases h.assets with hsame | ⟨xa, xb, hxa, hxb, hagree⟩
  · rw [hsame]
    cases (getD b "assets" (.obj [])).members? with
    | none => rfl
    | some x => exact hjoin fun _ _ => rfl
  · rw [hxa, hxb]
    refine hjoin fun id hid => hagree id ?_
    exact not_hiddenOnly (hla ▸ hid)

end Media

theorem sheetsOf_eq {id : String} {sheets : List Json} (h : checkBook book = .ok (id, sheets)) :
    sheetsOf book = sheets := by
  simp only [checkBook, bind_eq_ok, orError_eq_ok, Option.filter_eq_some_iff] at h
  obtain ⟨_, -, _, -, _, -, l, ⟨hl, -⟩, hok⟩ := h
  rw [sheetsOf, hl, Option.getD_some]
  exact (Prod.mk.inj (Except.ok.inj hok)).2

theorem sameOutcome_of_eq (h : cleanWorkbook env a = cleanWorkbook env b) :
    SameOutcome env a b := by
  unfold SameOutcome
  rw [h]
  cases cleanWorkbook env b with
  | ok w => exact .inl ⟨w, rfl, rfl⟩
  | error e => exact .inr ⟨rfl, rfl⟩

theorem refused_of_sheets (h : (getD book "sheets" .null).items? = none) :
    (cleanWorkbook env book).isOk = false := by
  refine not_isOk_iff.2 fun w hw => ?_
  simp only [cleanWorkbook, bind_eq_ok] at hw
  obtain ⟨⟨id, sheets⟩, hchecked, -⟩ := hw
  simp only [checkBook, bind_eq_ok, orError_eq_ok, h, Option.filter_none] at hchecked
  obtain ⟨_, -, _, -, _, -, _, hsheets, -⟩ := hchecked
  cases hsheets

/-- Both payloads within the limit for the whole, with valid folders, and with hidden sheets that
have identifiers of their own: nothing that is hidden is seen. -/
theorem clean_workbook_eq (h : DifferOnlyHidden a b) (hlarge : ¬ TooLarge a ∧ ¬ TooLarge b)
    (hfa : ValidFolders env a) (hfb : ValidFolders env b) (ha : HiddenApart a)
    (hb : HiddenApart b) : SameOutcome env a b := by
  have hsame : ∀ key ∉ ["sheets", "folders", "assets"], ∀ default,
      getD a key default = getD b key default := by
    intro key hkey default
    rw [getD, getD, h.others key hkey]
  have hlists : (∃ l m, getD a "sheets" .null = .arr l ∧ getD b "sheets" .null = .arr m ∧
      List.Forall₂ (fun s t => s = t ∨ isHidden s = true ∧ isHidden t = true) l m) ∨
      (getD a "sheets" .null).items? = none ∧ (getD b "sheets" .null).items? = none := by
    rcases h.sheets with heq | hlists
    · cases hitems : (getD b "sheets" .null).items? with
      | none => exact .inr ⟨by rw [heq, hitems], rfl⟩
      | some m =>
          have hm := items?_eq_some.1 hitems
          exact .inl ⟨m, m, heq.trans hm, hm, List.forall₂_same.2 fun _ _ => .inl rfl⟩
    · exact .inl hlists
  rcases hlists with ⟨l, m, hl, hm, hlm⟩ | ⟨hl, hm⟩
  · have hla : sheetsOf a = l := by rw [sheetsOf, hl]; rfl
    have hmb : sheetsOf b = m := by rw [sheetsOf, hm]; rfl
    have hcheck := checkBook_sheets hlarge (hsame "version" (by decide) .null)
      (hsame "id" (by decide) .null) hl hm hlm.length_eq
    refine sameOutcome_of_eq ?_
    unfold cleanWorkbook
    cases hcb : checkBook b with
    | error e =>
        rw [hcheck, hcb]
        rfl
    | ok checked =>
        obtain ⟨id, sheets⟩ := checked
        obtain rfl : m = sheets := hmb.symm.trans (sheetsOf_eq hcb)
        rw [hcheck, hcb, hsame "name" (by decide)]
        show (l.foldlM (visit env) ⟨[], [], []⟩ >>= _) = m.foldlM (visit env) ⟨[], [], []⟩ >>= _
        rw [← foldlM_visit hlm]
        refine bind_congr_ok fun cleaned hcleaned => bind_congr_ok fun _ _ => ?_
        rw [media_eq h ha hb hfa hfb hla hmb hlm hcleaned]
  · exact .inr ⟨refused_of_sheets hl, refused_of_sheets hm⟩

/-- Two payloads that differ only in what is hidden are both refused, or come to the same workbook,
unless they are told apart by the limit for the whole or by folders that are not valid, or a hidden
sheet has the identifier of a visible one. -/
theorem clean_workbook_hidden (h : DifferOnlyHidden a b) (hlarge : TooLarge a ↔ TooLarge b)
    (hfolders : ValidFolders env a ↔ ValidFolders env b) (ha : HiddenApart a)
    (hb : HiddenApart b) : SameOutcome env a b := by
  by_cases htoo : TooLarge a
  · refine .inr ⟨not_isOk_iff.2 fun w hw => not_tooLarge hw htoo,
      not_isOk_iff.2 fun w hw => not_tooLarge hw (hlarge.1 htoo)⟩
  · by_cases hvalid : ValidFolders env a
    · exact clean_workbook_eq h ⟨htoo, fun hlate => htoo (hlarge.2 hlate)⟩ hvalid
        (hfolders.1 hvalid) ha hb
    · refine .inr ⟨not_isOk_iff.2 fun w hw => hvalid (validFolders hw),
        not_isOk_iff.2 fun w hw => hvalid (hfolders.2 (validFolders hw))⟩

theorem differ_sample {hidden hidden' : Members} {folders folders' : List Json}
    (h : FoldersAgree (Sample.workbook hidden folders) (Sample.workbook hidden' folders') folders
      folders') :
    DifferOnlyHidden (Sample.workbook hidden folders) (Sample.workbook hidden' folders') where
  others key hkey := by
    simp only [List.mem_cons, List.not_mem_nil, or_false, not_or] at hkey
    obtain ⟨hsheets, hfolders, -⟩ := hkey
    have hs : (key == "sheets") = false := beq_eq_false_iff_ne.2 hsheets
    have hf : (key == "folders") = false := beq_eq_false_iff_ne.2 hfolders
    simp only [Sample.workbook, List.lookup_cons, hs, hf]
  sheets := .inr ⟨_, _, rfl, rfl, .cons (.inl rfl) (.cons (.inr ⟨rfl, rfl⟩) .nil)⟩
  folders := .inr ⟨folders, folders', rfl, rfl, h⟩
  assets := .inl rfl

/-- The hidden sheets of two workbooks differ, and one has a folder of its own. -/
theorem clean_workbook_hidden_folders :
    (cleanWorkbook Sample.ascii (Sample.workbook [("id", .str "s2"), ("folderId", .str "f2")]
      [Sample.folder "f2" "Costs"])).isOk = true ∧
    SameOutcome Sample.ascii
      (Sample.workbook [("id", .str "s2"), ("folderId", .str "f2")] [Sample.folder "f2" "Costs"])
      (Sample.workbook [("id", .str "s3"), ("note", .str "draft")] []) := by
  refine ⟨by decide +kernel, clean_workbook_hidden (differ_sample ?_) ?_ ?_ ?_ ?_⟩
  · refine List.filter_eq_nil_iff.2 fun f hf => ?_
    rw [List.mem_singleton.1 hf]
    decide +kernel
  · unfold TooLarge
    decide +kernel
  · exact ⟨fun _ => ⟨[], rfl, by decide, rfl⟩, fun _ => ⟨[Sample.folder "f2" "Costs"], rfl,
      by decide, by decide +kernel⟩⟩
  · intro s hs
    obtain rfl := List.mem_singleton.1 hs
    refine ⟨_, .str "s2", rfl, rfl, rfl, fun text htext => ?_⟩
    obtain rfl := Option.some.inj htext
    decide +kernel
  · intro s hs
    obtain rfl := List.mem_singleton.1 hs
    refine ⟨_, .str "s3", rfl, rfl, rfl, fun text htext => ?_⟩
    obtain rfl := Option.some.inj htext
    decide +kernel

theorem tooLarge_sample {text : String} (h : 35000000 ≤ text.length) :
    TooLarge (Sample.workbook [("id", .str "s2"), ("note", .str text)] []) := by
  have hlong := length_le_textLength text
  simp only [TooLarge, Sample.workbook, dumpsLength, itemsLength, membersLength]
  omega

theorem not_sameOutcome {a b : Members} (ha : (cleanWorkbook env a).isOk = false)
    (hb : (cleanWorkbook env b).isOk = true) : ¬ SameOutcome env a b := by
  intro hsame
  rcases hsame with ⟨w, hw, -⟩ | ⟨-, hrefused⟩
  · rw [hw] at ha
    cases ha
  · rw [hrefused] at hb
    cases hb

/-- Two workbooks that differ only in what is hidden. One is refused for the size of its hidden
sheet; one for a folder that only its hidden sheet is in; and one shows the folder of its hidden
sheet, since that has the identifier of the visible one. -/
theorem hidden_shown :
    (∃ a b, DifferOnlyHidden a b ∧ ¬ (TooLarge a ↔ TooLarge b) ∧
      ¬ SameOutcome Sample.ascii a b) ∧
    (∃ a b, DifferOnlyHidden a b ∧ ¬ (ValidFolders Sample.ascii a ↔ ValidFolders Sample.ascii b) ∧
      ¬ SameOutcome Sample.ascii a b) ∧
    (∃ a b, DifferOnlyHidden a b ∧ ¬ HiddenApart a ∧ ¬ SameOutcome Sample.ascii a b) := by
  refine ⟨?_, ?_, ?_⟩
  · have hlong : 35000000 ≤ (String.ofList (List.replicate 35000000 'x')).length := by
      rw [String.length_ofList, List.length_replicate]
    generalize String.ofList (List.replicate 35000000 'x') = text at hlong
    have hlarge := tooLarge_sample hlong
    have hsmall : ¬ TooLarge (Sample.workbook [("id", .str "s2")] []) := by
      unfold TooLarge
      decide +kernel
    refine ⟨_, _, differ_sample rfl, fun hiff => hsmall (hiff.1 hlarge),
      not_sameOutcome (not_isOk_iff.2 fun w hw => not_tooLarge hw hlarge) (by decide +kernel)⟩
  · have hvalid : ValidFolders Sample.ascii (Sample.workbook [("id", .str "s3")] []) :=
      ⟨[], rfl, by decide, rfl⟩
    have hrefused : (cleanWorkbook Sample.ascii (Sample.workbook
        [("id", .str "s2"), ("folderId", .str "unfiled")] [Sample.folder "unfiled" "Costs"])).isOk =
          false := by decide +kernel
    have hok : (cleanWorkbook Sample.ascii (Sample.workbook [("id", .str "s3")] [])).isOk =
        true := by decide +kernel
    refine ⟨_, _, differ_sample ?_, fun hiff => ?_, not_sameOutcome hrefused hok⟩
    · refine List.filter_eq_nil_iff.2 fun f hf => ?_
      rw [List.mem_singleton.1 hf]
      decide +kernel
    · obtain ⟨folders, hfolders, -, hok⟩ := hiff.2 hvalid
      obtain rfl := Option.some.inj hfolders
      revert hok
      decide +kernel
  · refine ⟨Sample.workbook [("id", .str "s1"), ("folderId", .str "f1")] [Sample.folder "f1" "Costs"],
      Sample.workbook [("id", .str "s2")] [Sample.folder "f1" "Costs"], differ_sample rfl, ?_, ?_⟩
    · intro hapart
      obtain ⟨members, id, hmembers, hid, -, hother⟩ := hapart _ List.mem_cons_self
      obtain rfl := Option.some.inj hmembers
      obtain rfl := Option.some.inj hid
      exact hother "s1" rfl (by decide +kernel)
    · intro hsame
      have hfolders : ∀ {x y : Except Refusal PublicWorkbook},
          ((∃ w, x = .ok w ∧ y = .ok w) ∨ x.isOk = false ∧ y.isOk = false) →
            x.toOption.map (·.folders) = y.toOption.map (·.folders) := by
        rintro x y (⟨w, rfl, rfl⟩ | ⟨hx, hy⟩)
        · rfl
        · cases x with
          | ok => cases hx
          | error => cases y with
            | ok => cases hy
            | error => rfl
      exact absurd (hfolders hsame) (by decide +kernel)

end Cestos.Shares
