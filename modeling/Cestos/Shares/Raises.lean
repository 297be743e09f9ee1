import Cestos.Shares.Faults

/-!
# What workbooks raise

A workbook is cleaned or refused, unless the first test that fails is an operation that raises.
-/

namespace Cestos.Shares

open Cestos.Core Cestos.Core.Json

variable {env : Env} {book members : Members} {rows columns : Nat}

/-! ## Refusals -/

/-- A computation that refuses where it fails. -/
def Refuses {α : Type} (x : Except Refusal α) : Prop := ∀ e, x = .error e → e.fault = .refused

section Refuses

variable {α β : Type} {x : Except Refusal α} {f : α → Except Refusal β}

theorem Refuses.faultOf (h : Refuses x) : faultOf Refusal.fault x = refusal x.isOk := by
  cases x with
  | ok a => rfl
  | error e => exact congrArg some (h e rfl)

theorem Refuses.not_raised (h : Refuses x) :
    Core.faultOf Refusal.fault x = some .raised ↔ firstFault [] = some Fault.raised := by
  rw [h.faultOf, refusal]
  split <;> simp

theorem Refuses.bind (h : Refuses x) (hf : ∀ a, x = .ok a → Refuses (f a)) :
    Refuses (x >>= f) := by
  intro e he
  rcases bind_eq_error.1 he with hx | ⟨a, ha, hfa⟩
  · exact h e hx
  · exact hf a ha e hfa

theorem refuses_ok {a : α} : Refuses (.ok a) := fun _ h => nomatch h

theorem refuses_invalid {detail : String} : Refuses (.error (invalid detail) : Except Refusal α) := by
  rintro e h
  obtain rfl := Except.error.inj h
  rfl

theorem refuses_ensure {p : Prop} [Decidable p] {detail : String} :
    Refuses (ensure p (invalid detail)) := by
  intro e h
  obtain ⟨-, rfl⟩ := ensure_eq_error.1 h
  rfl

theorem refuses_orError {x : Option α} {detail : String} :
    Refuses (orError x (invalid detail)) := by
  intro e h
  obtain ⟨-, rfl⟩ := orError_eq_error.1 h
  rfl

end Refuses

/-! ## Fields -/

theorem refuses_choice {detail field : String} {allowed : List String} {value : Json} :
    Refuses ((choice detail field allowed).2 value) :=
  refuses_orError.bind fun _ _ => refuses_ok

theorem refuses_flag {field : String} {value : Json} : Refuses ((flag field).2 value) := by
  cases value with
  | bool value => exact refuses_ok
  | _ => exact refuses_invalid

theorem refuses_number {field : String} {value : Json} : Refuses ((number field).2 value) := by
  cases value with
  | float x text => cases x <;> exact refuses_ok
  | _ => exact refuses_ok

theorem refuses_limit {field : String} {maximum : Int} {value : Json} :
    Refuses ((limit field maximum).2 value) :=
  refuses_orError.bind fun _ _ => refuses_ok

theorem refuses_format : ∀ field ∈ formatFields, ∀ value, Refuses (field.2 value) := by
  simp only [formatFields, List.forall_mem_append, List.forall_mem_map]
  refine ⟨⟨⟨⟨fun _ _ _ => refuses_flag, ?_⟩, fun _ _ _ => refuses_ok⟩,
    fun _ _ _ => refuses_ok⟩, fun _ _ _ => refuses_number⟩
  simp only [List.forall_mem_cons]
  exact ⟨fun _ => refuses_choice, fun _ => refuses_choice, fun _ => refuses_choice,
    fun _ => refuses_choice, fun _ => refuses_choice, fun _ => refuses_choice, by simp⟩

theorem refuses_view : ∀ field ∈ viewFields rows columns, ∀ value, Refuses (field.2 value) := by
  simp only [viewFields, List.forall_mem_cons]
  exact ⟨fun _ => refuses_limit, fun _ => refuses_limit, fun _ => refuses_limit,
    fun _ => refuses_orError.bind fun _ _ => refuses_ok, by simp⟩

theorem refuses_print : ∀ field ∈ printFields rows columns, ∀ value, Refuses (field.2 value) := by
  simp only [printFields, List.forall_mem_cons]
  exact ⟨fun _ => refuses_limit, fun _ => refuses_choice, fun _ => refuses_choice,
    fun _ => refuses_orError.bind fun _ _ => refuses_ok,
    fun _ => refuses_orError.bind fun _ _ => refuses_ok, by simp⟩

theorem faultOf_pick {config : Members} {fields : List Field}
    (h : ∀ field ∈ fields, ∀ value, Refuses (field.2 value)) :
    faultOf Refusal.fault (pick config fields) = firstFault (fields.map (fieldFault config)) := by
  refine faultOf_foldlM_map (fun safe field hfield => ?_) []
  unfold fieldFault
  cases hvalue : config.lookup field.1 with
  | none => rfl
  | some value =>
      exact faultOf_bind_ok.trans (h field hfield value).faultOf

/-! ## Sheets -/

theorem faultOf_checkDimension (n : Json) :
    faultOf Refusal.fault (checkDimension n) = dimensionFault n := by
  cases n with
  | int n =>
      rw [checkDimension, dimensionFault]
      by_cases hlarge : Nat.pow 2 1024 - Nat.pow 2 970 ≤ n.natAbs
      · rw [if_pos hlarge, if_pos hlarge]
        rfl
      · rw [if_neg hlarge, if_neg hlarge]
        exact faultOf_ensure
  | float x text =>
      cases x with
      | none => rfl
      | some x => exact faultOf_ensure
  | _ => rfl

theorem faultOf_forM (l : List Json) :
    faultOf Refusal.fault (l.forM checkDimension) = firstFault (l.map dimensionFault) := by
  induction l with
  | nil => rfl
  | cons n l ih => exact faultOf_bind_cons (faultOf_checkDimension n) fun _ _ => ih

theorem faultOf_merges (merges : List Json) :
    faultOf Refusal.fault (merges.foldlM (occupy rows columns) []) =
      firstFault (testsAlong (mergeFaults rows columns) [] merges) := by
  refine faultOf_foldlM (R := fun before occupied => ∀ cell, cell ∈ occupied ↔
    cell ∈ occupiedBy before) ?_ ?_ (by simp [occupiedBy]) merges
  · intro before occupied m hoccupied
    refine faultOf_bind_cons (faultOf_orError.trans ?_) fun area harea => ?_
    · rw [Option.isSome_filter]
    obtain ⟨hread, -⟩ := Option.filter_eq_some_iff.1 (orError_eq_ok.1 harea)
    refine (faultOf_bind_ok.trans faultOf_ensure).trans ?_
    rw [firstFault_singleton, areaCells, hread, Option.map_some, Option.getD_some]
    exact congrArg refusal (decide_eq_decide.2 (forall₂_congr fun cell _ =>
      not_congr (hoccupied cell)))
  · intro before occupied m occupied' hoccupied hm cell
    simp only [occupy, bind_eq_ok, orError_eq_ok] at hm
    obtain ⟨area, harea, -, -, hcells⟩ := hm
    obtain ⟨hread, -⟩ := Option.filter_eq_some_iff.1 harea
    have harea' : areaCells m = area.cells := by rw [areaCells, hread, Option.map_some, Option.getD_some]
    rw [← Except.ok.inj hcells, List.mem_append, hoccupied, occupiedBy, occupiedBy,
      List.flatMap_append, List.mem_append, List.flatMap_singleton, harea', or_comm]

theorem isSome_readInt (digits : List Char) :
    (readInt env digits).isSome = decide (digits.length ≤ maxStrDigits) := by
  unfold readInt
  by_cases h : maxStrDigits < digits.length
  · simp [h]
  · simp [h, Nat.not_lt.1 h]

theorem faultOf_cleanFormat (entry : String × Json) :
    faultOf Refusal.fault (cleanFormat env rows columns entry) =
      firstFault (formatFaults env rows columns entry) := by
  unfold cleanFormat formatFaults coordinateFaults
  cases hsplit : splitCoordinates env entry.1 with
  | none => rfl
  | some digits =>
      obtain ⟨row, column⟩ := digits
      refine faultOf_bind_cons rfl fun _ hdigits => ?_
      obtain rfl := Option.some.inj (orError_eq_ok.1 hdigits)
      refine faultOf_bind_cons (faultOf_raise.trans (by rw [isSome_readInt]; rfl)) fun r hr => ?_
      refine faultOf_bind_cons (faultOf_raise.trans (by rw [isSome_readInt]; rfl)) fun c hc => ?_
      refine faultOf_bind_cons (faultOf_ensure.trans ?_) fun _ _ => ?_
      · simp only [number?, Option.getD_some, orError_eq_ok.1 hr, orError_eq_ok.1 hc]
      · exact faultOf_bind_ok.trans (faultOf_pick refuses_format)

theorem faultOf_cleanSettings (sheet : Members) :
    faultOf Refusal.fault (cleanSettings rows columns sheet) =
      firstFault ([("view", viewFields rows columns), ("print", printFields rows columns)].flatMap
        (settingFaults sheet)) := by
  refine faultOf_foldlM_flatMap (fun settings part hpart => ?_) []
  have hfields : ∀ field ∈ part.2, ∀ value, Refuses (field.2 value) := by
    rcases List.mem_cons.1 hpart with rfl | hpart
    · exact refuses_view
    · obtain rfl := List.mem_singleton.1 hpart
      exact refuses_print
  unfold settingFaults
  cases hconfig : sheet.lookup part.1 with
  | none => rfl
  | some config =>
      refine faultOf_bind_cons faultOf_orError fun config' hconfig' => ?_
      rw [orError_eq_ok.1 hconfig', Option.getD_some]
      exact faultOf_bind_ok.trans (faultOf_pick hfields)

/-- What of a sheet that was let through the joining of its attachments looks at. -/
def PublicSheet.shape (t : PublicSheet) : String × Nat × Nat := (t.id, t.cells.length, t.widths.length)

/-- What the loop over the sheets has seen after some of them. -/
structure Seen (env : Env) (before : List Json) (seen : Cleaned) : Prop where
  clean : seen.clean.map PublicSheet.shape =
    (visible before).map fun sheet => shapeOf (sheet.members?.getD [])
  ids : ∀ id, id ∈ seen.ids ↔ id ∈ textsBefore before "id"
  names : ∀ name, name ∈ seen.names ↔ name ∈ (textsBefore before "name").map env.lower

theorem listOf_eq {name : String} {p : List Json → Bool} {l : List Json}
    (h : (getD members name (.arr [])).items?.filter p = some l) : listOf members name = l := by
  rw [listOf, (Option.filter_eq_some_iff.1 h).1, Option.getD_some]

theorem objectOf_eq {name : String} {l : Members}
    (h : (getD members name (.obj [])).members? = some l) : objectOf members name = l := by
  rw [objectOf, h, Option.getD_some]

theorem textAt_eq {name text : String} (h : (getD members name .null).str? = some text) :
    textAt members name = text := by
  rw [textAt, h, Option.getD_some]

theorem dimensions_eq {rows widths heights : List Json}
    (h : dimensions members = some (rows, widths, heights)) :
    rowsOf members = rows ∧ widthsOf members = widths ∧ heightsOf members = heights := by
  rw [rowsOf, widthsOf, heightsOf, h]
  exact ⟨rfl, rfl, rfl⟩

theorem faultOf_cleanSheet {before : List Json} {seen : Cleaned} (hseen : Seen env before seen) :
    faultOf Refusal.fault (cleanSheet env seen members) = firstFault
      (cellFaults members ++ (nameFaults env before members ++ layoutFaults env members)) := by
  unfold cleanSheet cellFaults nameFaults layoutFaults
  simp only [List.cons_append, List.nil_append, List.append_assoc]
  refine faultOf_bind_cons faultOf_ensure fun _ _ => ?_
  cases hdimensions : dimensions members with
  | none => rfl
  | some dims =>
      obtain ⟨rows, widths, heights⟩ := dims
      obtain ⟨hrows, hwidths, hheights⟩ := dimensions_eq hdimensions
      rw [hrows, hwidths, hheights]
      refine faultOf_bind_cons rfl fun _ hdims => ?_
      obtain rfl := Option.some.inj (orError_eq_ok.1 hdims)
      refine faultOf_bind_cons faultOf_ensure fun _ _ => ?_
      refine faultOf_bind (faultOf_forM _) fun _ _ => ?_
      refine faultOf_bind_cons faultOf_orError fun merges hmerges => ?_
      rw [listOf_eq (orError_eq_ok.1 hmerges)]
      refine faultOf_bind (faultOf_merges merges) fun _ _ => ?_
      refine faultOf_bind_cons faultOf_orError fun id hid => ?_
      refine faultOf_bind_cons faultOf_orError fun name hname => ?_
      rw [textAt_eq (orError_eq_ok.1 hid), textAt_eq (orError_eq_ok.1 hname)]
      refine faultOf_bind_cons (faultOf_ensure.trans ?_) fun _ _ => ?_
      · simp only [hseen.ids, hseen.names]
      refine faultOf_bind_cons faultOf_orError fun formats hformats => ?_
      rw [objectOf_eq (Option.filter_eq_some_iff.1 (orError_eq_ok.1 hformats)).1]
      refine faultOf_bind (faultOf_mapM fun entry _ => faultOf_cleanFormat entry) fun _ _ => ?_
      exact faultOf_bind_ok.trans (faultOf_cleanSettings members)

theorem cleanSheet_shape {seen : Cleaned} {t : PublicSheet}
    (h : cleanSheet env seen members = .ok t) :
    t.shape = shapeOf members ∧ t.name = textAt members "name" := by
  simp only [cleanSheet, bind_eq_ok, orError_eq_ok, ensure_eq_ok] at h
  obtain ⟨_, -, dims, hdims, _, -, _, -, _, -, _, -, id, hid, name, hname, _, hvalid, _, -, _, -, _,
    -, ht⟩ := h
  obtain ⟨hrows, hwidths, -⟩ := dimensions_eq hdims
  rw [← Except.ok.inj ht]
  refine ⟨?_, ?_⟩
  · rw [shapeOf, textAt_eq hid, hrows, hwidths]
    rfl
  · have hshort : name.toList.take 31 = name.toList :=
      List.take_of_length_le (String.length_toList ▸ hvalid.2.2.1)
    rw [textAt_eq hname, shorten, hshort, String.ofList_toList]

theorem isHidden_iff {sheet : Json} (h : sheet.members? = some members) :
    isHidden sheet = (getD members "hidden" .null).truthy := by
  rw [isHidden, h, Option.any_some]

theorem visible_append_singleton (before : List Json) (sheet : Json) :
    visible (before ++ [sheet]) = visible before ++ if isHidden sheet then [] else [sheet] := by
  rw [visible, List.filter_append]
  cases hhidden : isHidden sheet <;> simp [visible, hhidden]

theorem faultOf_visit {before : List Json} {seen : Cleaned} (hseen : Seen env before seen)
    (sheet : Json) :
    faultOf Refusal.fault (visit env seen sheet) = firstFault (visitFaults env before sheet) := by
  unfold visit visitFaults
  refine faultOf_bind_cons faultOf_orError fun members hmembers => ?_
  rw [isHidden_iff (orError_eq_ok.1 hmembers), orError_eq_ok.1 hmembers, Option.getD_some]
  split
  · rfl
  · exact faultOf_bind_ok.trans (faultOf_cleanSheet hseen)

theorem Seen.next {before : List Json} {seen seen' : Cleaned} {sheet : Json}
    (hseen : Seen env before seen) (h : visit env seen sheet = .ok seen') :
    Seen env (before ++ [sheet]) seen' := by
  simp only [visit, bind_eq_ok, orError_eq_ok] at h
  obtain ⟨members, hmembers, h⟩ := h
  have hhidden := isHidden_iff hmembers
  split at h
  · next hyes =>
    obtain rfl := Except.ok.inj h
    have hsame : visible (before ++ [sheet]) = visible before := by
      rw [visible_append_singleton, hhidden, if_pos hyes, List.append_nil]
    exact ⟨hsame ▸ hseen.clean, fun id => by rw [textsBefore, hsame]; exact hseen.ids id,
      fun name => by rw [textsBefore, hsame]; exact hseen.names name⟩
  · next hno =>
    obtain ⟨t, ht, hseen'⟩ := bind_eq_ok.1 h
    obtain rfl := Except.ok.inj hseen'
    obtain ⟨hshape, hname⟩ := cleanSheet_shape ht
    have hid : t.id = textAt members "id" := congrArg Prod.fst hshape
    have hmore : visible (before ++ [sheet]) = visible before ++ [sheet] := by
      rw [visible_append_singleton, hhidden, if_neg hno]
    refine ⟨?_, fun id => ?_, fun name => ?_⟩
    · rw [hmore, List.map_append, List.map_append, hseen.clean, List.map_singleton,
        List.map_singleton, hshape, hmembers, Option.getD_some]
    · rw [textsBefore, hmore, List.map_append, List.mem_append, List.map_singleton,
        List.mem_singleton, List.mem_cons, hseen.ids, hmembers, Option.getD_some, hid, or_comm,
        textsBefore]
    · rw [textsBefore, hmore, List.map_append, List.map_append, List.mem_append,
        List.map_singleton, List.map_singleton, List.mem_singleton, List.mem_cons, hseen.names,
        hmembers, Option.getD_some, hname, or_comm, textsBefore]

theorem seen_nil : Seen env [] ⟨[], [], []⟩ :=
  ⟨rfl, fun _ => by simp [textsBefore, visible], fun _ => by simp [textsBefore, visible]⟩

/-! ## What is joined back -/

theorem faultOf_cleanFolder {before : List Json} {clean : List (String × String)} (f : Json)
    (hclean : Listed before clean) :
    faultOf Refusal.fault (cleanFolder env clean f) = firstFault (folderFaults env before f) := by
  obtain rfl : clean = before.filterMap readFolder := hclean
  unfold cleanFolder folderFaults
  refine faultOf_bind_cons faultOf_orError fun folder hfolder => ?_
  rw [orError_eq_ok.1 hfolder, Option.getD_some]
  exact (faultOf_bind_ok.trans faultOf_ensure).trans (firstFault_singleton _).symm

theorem faultOf_cleanFolders (folders : List Json) :
    faultOf Refusal.fault (cleanFolders env folders) =
      firstFault (testsAlong (folderFaults env) [] folders) :=
  faultOf_foldlM (R := Listed) (fun f hclean => faultOf_cleanFolder f hclean)
    (fun hclean h => hclean.next h) listed_nil folders

theorem faultOf_originals {sheets : List Json} (h : ∀ sheet ∈ sheets, sheet.members?.isSome = true) :
    faultOf Refusal.fault (originals sheets) = firstFault (sheets.map keyFault) := by
  refine faultOf_mapM_map fun sheet hsheet => ?_
  obtain ⟨members, hmembers⟩ := Option.isSome_iff_exists.1 (h sheet hsheet)
  unfold keyFault
  rw [hmembers, Option.getD_some]
  show faultOf Refusal.fault (orError (members.lookup "id") .raised >>= fun id =>
    ensure (id.hashable = true) Refusal.raised >>= fun _ => .ok (id, members)) = _
  cases members.lookup "id" with
  | none => rfl
  | some id => cases hhashable : id.hashable <;> simp [orError, ensure, hhashable, raising, bind,
      Except.bind, Refusal.fault]

theorem original_eq {sheets : List Json} {sources : List (Json × Members)}
    (h : originals sheets = .ok sources) (text : String) : original sources text =
      (sheets.reverse.find? fun s => sheetId s = some text).bind Json.members? := by
  have hsheets : ∀ s ∈ sheets, ∃ members id, s.members? = some members ∧
      members.lookup "id" = some id ∧ id.hashable = true := by
    intro s hs
    obtain ⟨source, hsource⟩ := ok_of_mapM h s hs
    simp only [bind_eq_ok, orError_eq_ok, ensure_eq_ok] at hsource
    obtain ⟨members, hmembers, id, hid, -, hhashable, -⟩ := hsource
    exact ⟨members, id, hmembers, hid, hhashable⟩
  obtain ⟨sources', hsources', hfind⟩ := originals_ok hsheets
  obtain rfl := Except.ok.inj (h.symm.trans hsources')
  exact hfind text

theorem refuses_checkRefs {assets : Members} {entry : String × Json} :
    Refuses (checkRefs env assets rows columns entry) :=
  refuses_orError.bind fun _ _ => refuses_orError.bind fun _ _ => refuses_orError.bind fun _ _ =>
    refuses_orError.bind fun _ _ => refuses_ensure.bind fun _ _ => refuses_ok

theorem faultOf_checkFolder (folders : List Json) (source : Members) :
    faultOf Refusal.fault (checkFolder (folderIds folders) source) =
      firstFault (placeFaults folders source) := by
  unfold checkFolder placeFaults
  dsimp only
  split
  · have hraise : faultOf Refusal.fault
        (ensure ((getD source "folderId" .null).hashable = true) Refusal.raised) =
        raising (getD source "folderId" .null).hashable := by
      cases (getD source "folderId" .null).hashable <;> simp [ensure, raising, Refusal.fault]
    refine faultOf_bind_cons hraise fun _ _ => (faultOf_bind_ok.trans faultOf_orError).trans ?_
    rw [firstFault_singleton, Option.isSome_filter]
  · rfl

theorem faultOf_attach {folders sheets : List Json} {assets : Members}
    {sources : List (Json × Members)} (hsources : originals sheets = .ok sources) {t : PublicSheet}
    (ht : ∃ sheet ∈ sheets, sheetId sheet = some t.id) :
    faultOf Refusal.fault (attach env (folderIds folders) assets sources t) =
      firstFault (attachFaults env folders assets sheets t.shape) := by
  obtain ⟨sheet, hsheet, hid⟩ := ht
  have hsome : (sheets.reverse.find? fun sheet => sheetId sheet = some t.id).isSome = true :=
    List.find?_isSome.2 ⟨sheet, List.mem_reverse.2 hsheet, decide_eq_true hid⟩
  obtain ⟨found, hfound⟩ := Option.isSome_iff_exists.1 hsome
  have hfoundId : sheetId found = some t.id := by simpa using List.find?_some hfound
  obtain ⟨source, hmembers, -⟩ := Option.bind_eq_some_iff.1 hfoundId
  have horiginal : original sources t.id = some source := by
    rw [original_eq hsources, hfound, Option.bind_some, hmembers]
  have hsource : sourceOf sheets t.id = source := by
    rw [sourceOf, hfound, Option.bind_some, hmembers, Option.getD_some]
  unfold attach attachFaults
  rw [horiginal]
  show faultOf Refusal.fault (Except.ok source >>= _) = _
  rw [ok_bind, show t.shape.1 = t.id from rfl, hsource]
  refine faultOf_bind (faultOf_checkFolder folders source) fun _ _ => ?_
  refine faultOf_bind_cons faultOf_orError fun media hmedia => ?_
  rw [objectOf_eq (orError_eq_ok.1 hmedia)]
  exact faultOf_bind_ok.trans (faultOf_mapM_map fun entry _ => refuses_checkRefs.faultOf)

theorem refuses_foldlM {α σ : Type} {f : σ → α → Except Refusal σ} {l : List α}
    (h : ∀ s, ∀ a ∈ l, Refuses (f s a)) (s : σ) : Refuses (l.foldlM f s) := by
  induction l generalizing s with
  | nil => exact refuses_ok
  | cons a l ih =>
      rw [List.foldlM_cons]
      exact (h s a List.mem_cons_self).bind fun s' _ =>
        ih (fun r b hb => h r b (List.mem_cons_of_mem a hb)) s'

theorem refuses_cleanAsset {assets : Members} {clean : Nat × List (String × Json)} {id : String}
    (h : (assets.lookup id).isSome = true) : Refuses (cleanAsset env assets clean id) := by
  obtain ⟨value, hvalue⟩ := Option.isSome_iff_exists.1 h
  unfold cleanAsset
  rw [hvalue]
  refine Refuses.bind refuses_ok fun value _ => ?_
  refine refuses_orError.bind fun members _ => refuses_orError.bind fun asset _ =>
    refuses_orError.bind fun decoded _ => refuses_ensure.bind fun _ _ => ?_
  split
  · exact Refuses.bind refuses_ok fun _ _ => refuses_ensure.bind fun _ _ => refuses_ok
  · exact refuses_ensure.bind fun _ _ => Refuses.bind refuses_ok fun _ _ =>
      refuses_ensure.bind fun _ _ => refuses_ok
  · exact refuses_invalid.bind fun _ _ => refuses_ensure.bind fun _ _ => refuses_ok

theorem isSome_of_used {ids : List String} {assets : Members} {sources : List (Json × Members)}
    {targets attached : List PublicSheet}
    (h : targets.mapM (attach env ids assets sources) = .ok attached) :
    ∀ id ∈ used attached, (assets.lookup id).isSome = true := by
  intro id hid
  obtain ⟨t, ht, hid⟩ := List.mem_flatMap.1 (List.mem_dedup.1 hid)
  obtain ⟨entry, hentry, hid⟩ := List.mem_flatMap.1 hid
  have hmedia := forall_of_mapM (P := fun t : PublicSheet => ∀ entry ∈ t.media, ∀ id ∈ entry.2,
    (assets.lookup id).isSome = true) h fun target _ t ht => ?_
  · exact hmedia t ht entry hentry id hid
  · simp only [attach, bind_eq_ok] at ht
    obtain ⟨_, -, _, -, media, -, safe, hsafe, ht⟩ := ht
    rw [← Except.ok.inj ht]
    refine forall_of_mapM hsafe fun entry _ safe hentry => ?_
    simp only [checkRefs, bind_eq_ok, ensure_eq_ok] at hentry
    obtain ⟨_, -, refs, -, _, -, _, -, _, hrefs, hsafe⟩ := hentry
    rw [← Except.ok.inj hsafe]
    exact hrefs.2.2

/-! ## Workbooks -/

theorem raised_media_iff {sheets : List Json} {cleaned : Cleaned}
    (hcleaned : sheets.foldlM (visit env) ⟨[], [], []⟩ = .ok cleaned) :
    faultOf Refusal.fault (cleanWorkbookMedia env book sheets cleaned.clean) = some .raised ↔
      firstFault (mediaFaults book ++ (testsAlong (folderFaults env) [] (listOf book "folders") ++
        (sheets.map keyFault ++
          ((visible sheets).map fun sheet => shapeOf (sheet.members?.getD [])).flatMap
            (attachFaults env (listOf book "folders") (objectOf book "assets") sheets)))) =
        some .raised := by
  have hseen := foldlM_along (R := Seen env) (fun hseen h => hseen.next h) seen_nil hcleaned
  have hshapes := hseen.clean
  rw [List.nil_append] at hshapes
  have hobjects : ∀ sheet ∈ sheets, sheet.members?.isSome = true :=
    forall_of_foldlM (fun seen sheet seen' _ h => by
      obtain ⟨members, hmembers, -⟩ := bind_eq_ok.1 h
      exact Option.isSome_iff_exists.2 ⟨members, orError_eq_ok.1 hmembers⟩) hcleaned
  have hids : ∀ t ∈ cleaned.clean, ∃ sheet ∈ sheets, sheetId sheet = some t.id := by
    intro t ht
    obtain ⟨sheet, hsheet, hid⟩ := List.mem_filterMap.1 (id_mem_visible hcleaned t ht)
    exact ⟨sheet, (List.mem_filter.1 hsheet).1, hid⟩
  unfold cleanWorkbookMedia mediaFaults
  simp only [List.cons_append, List.nil_append]
  refine faultOf_bind_cons_eq_some_iff faultOf_orError fun folders hfolders => ?_
  rw [listOf_eq (orError_eq_ok.1 hfolders)]
  refine faultOf_bind_cons_eq_some_iff faultOf_orError fun assets hassets => ?_
  rw [objectOf_eq (orError_eq_ok.1 hassets)]
  refine faultOf_bind_eq_some_iff (faultOf_cleanFolders folders) fun clean hclean => ?_
  unfold joinMedia
  refine faultOf_bind_eq_some_iff (faultOf_originals hobjects) fun sources hsources => ?_
  rw [cleanFolders_eq hclean, ← hshapes, List.flatMap_map,
    ← List.append_nil (List.flatMap _ cleaned.clean)]
  refine faultOf_bind_eq_some_iff (faultOf_mapM fun t ht => faultOf_attach hsources (hids t ht))
    fun attached hattached => Refuses.not_raised ?_
  have hthere := isSome_of_used hattached
  exact (refuses_foldlM (fun _ id hid => refuses_cleanAsset (hthere id hid)) _).bind
    fun _ _ => refuses_ok

/-- Nothing but the tests that are listed makes a workbook raise. -/
theorem raised_iff : faultOf Refusal.fault (cleanWorkbook env book) = some .raised ↔
    firstFault (workbookFaults env book) = some .raised := by
  unfold cleanWorkbook workbookFaults
  have hhead : faultOf Refusal.fault (checkBook book) = firstFault (headFaults book) := by
    refine faultOf_bind_cons ?_ fun _ _ => faultOf_bind_cons faultOf_ensure fun _ _ =>
      faultOf_bind_cons faultOf_orError fun id _ => ?_
    · by_cases hsize : (Json.obj book).dumpsLength ≤ 35000000
      · simp [ensure, refusal, hsize]
      · simp [ensure, refusal, hsize, Refusal.fault]
    · exact (faultOf_bind_ok.trans faultOf_orError).trans (firstFault_singleton _).symm
  refine faultOf_bind_eq_some_iff hhead fun checked hchecked => ?_
  obtain ⟨id, sheets⟩ := checked
  have hsheets : sheetsOf book = sheets := by
    simp only [checkBook, bind_eq_ok, orError_eq_ok] at hchecked
    obtain ⟨_, -, _, -, _, -, l, hl, hchecked⟩ := hchecked
    obtain ⟨-, rfl⟩ := Prod.mk.inj (Except.ok.inj hchecked)
    rw [sheetsOf, (Option.filter_eq_some_iff.1 hl).1, Option.getD_some]
  rw [hsheets]
  refine faultOf_bind_eq_some_iff (faultOf_foldlM (R := Seen env)
    (fun sheet hseen => faultOf_visit hseen sheet) (fun hseen h => hseen.next h) seen_nil sheets)
    fun cleaned hcleaned => ?_
  refine faultOf_bind_cons_eq_some_iff (faultOf_ensure.trans ?_) fun _ _ => ?_
  · have hseen := foldlM_along (R := Seen env) (fun hseen h => hseen.next h) seen_nil hcleaned
    have hlength := congrArg List.length hseen.clean
    rw [List.length_map, List.length_map, List.nil_append] at hlength
    refine congrArg refusal (decide_eq_decide.2 (not_congr ?_))
    rw [← List.length_eq_zero_iff, hlength, List.length_eq_zero_iff]
  · rw [faultOf_bind_of_ok fun media _ => ⟨_, rfl⟩]
    exact raised_media_iff hcleaned

/-- The workbook is cleaned, or the client is told that it is too large or what is invalid. -/
def Answered (env : Env) (book : Members) : Prop :=
  (∃ w, cleanWorkbook env book = .ok w) ∨ ∃ status detail,
    cleanWorkbook env book = .error (.http status detail) ∧ (status = 413 ∨ status = 422)

theorem answered_iff_fault :
    Answered env book ↔ faultOf Refusal.fault (cleanWorkbook env book) ≠ some .raised := by
  unfold Answered
  cases cleanWorkbook env book with
  | ok w => simp
  | error e =>
      cases e with
      | raised => simp [Refusal.fault]
      | http status detail =>
          by_cases hstatus : status = 413 ∨ status = 422
          · simp [Refusal.fault, hstatus]
          · simp [Refusal.fault, hstatus]

/-- A workbook is answered unless the first of the tests that fails is an integer that no float is
large enough for, a format at a place with too many digits, a sheet without an identifier that can
be a key, or a folder that cannot be one. -/
theorem clean_workbook_answered_iff (env : Env) (book : Members) :
    Answered env book ↔ firstFault (workbookFaults env book) ≠ some .raised :=
  answered_iff_fault.trans (not_congr raised_iff)

/-- A hidden sheet without an identifier. -/
theorem clean_workbook_raises : ¬ ∀ env book, Answered env book := by
  intro h
  have hraised : faultOf Refusal.fault (cleanWorkbook Sample.ascii (Sample.workbook [] [])) =
      some .raised := by decide +kernel
  exact answered_iff_fault.1 (h Sample.ascii (Sample.workbook [] [])) hraised

end Cestos.Shares
