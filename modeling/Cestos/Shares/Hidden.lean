import Cestos.Shares.Workbook

/-!
# What is hidden

Two payloads that differ only in their hidden sheets, and in what only hidden sheets refer to.
-/

namespace Cestos.Shares

open Cestos.Core Cestos.Core.Json

def sheetsOf (book : Members) : List Json := ((getD book "sheets" .null).items?).getD []

def isHidden (sheet : Json) : Bool :=
  sheet.members?.any fun members => (getD members "hidden" .null).truthy

/-- The identifier of a sheet, where it is a text. -/
def sheetId (sheet : Json) : Option String :=
  sheet.members?.bind fun members => (members.lookup "id").bind Json.str?

/-- The folders that sheets refer to. -/
def folderRefs (sheets : List Json) : List String :=
  sheets.filterMap fun sheet =>
    sheet.members?.bind fun members => (getD members "folderId" .null).str?

/-- The assets that the fields of a sheet refer to. -/
def mediaRefs (members : Members) : List String :=
  ((getD members "media" (.obj [])).members?.getD []).flatMap fun entry =>
    (entry.2.items?.getD []).filterMap Json.str?

def assetRefs (sheets : List Json) : List String :=
  sheets.flatMap fun sheet => mediaRefs (sheet.members?.getD [])

def visible (sheets : List Json) : List Json := sheets.filter fun sheet => !isHidden sheet

def hidden (sheets : List Json) : List Json := sheets.filter isHidden

/-- Whether only hidden sheets refer to `id`. -/
def HiddenOnly (refs : List Json → List String) (a b : Members) (id : String) : Prop :=
  id ∉ refs (visible (sheetsOf a)) ∧
    (id ∈ refs (hidden (sheetsOf a)) ∨ id ∈ refs (hidden (sheetsOf b)))

instance (refs : List Json → List String) (a b : Members) :
    DecidablePred (HiddenOnly refs a b) :=
  fun _ => inferInstanceAs (Decidable (_ ∧ (_ ∨ _)))

/-- Folders that only hidden sheets refer to may differ. -/
def FoldersAgree (a b : Members) (l m : List Json) : Prop :=
  l.filter (fun f => (readFolder f).all fun folder => ¬ HiddenOnly folderRefs a b folder.1) =
    m.filter fun f => (readFolder f).all fun folder => ¬ HiddenOnly folderRefs a b folder.1

/-- The payloads differ only in the content of sheets that are hidden in both, and in assets and
folders that only hidden sheets refer to. -/
structure DifferOnlyHidden (a b : Members) : Prop where
  others : ∀ key ∉ ["sheets", "folders", "assets"], a.lookup key = b.lookup key
  sheets : getD a "sheets" .null = getD b "sheets" .null ∨
    ∃ l m, getD a "sheets" .null = .arr l ∧ getD b "sheets" .null = .arr m ∧
      List.Forall₂ (fun s t => s = t ∨ isHidden s = true ∧ isHidden t = true) l m
  folders : getD a "folders" (.arr []) = getD b "folders" (.arr []) ∨
    ∃ l m, getD a "folders" (.arr []) = .arr l ∧ getD b "folders" (.arr []) = .arr m ∧
      FoldersAgree a b l m
  assets : getD a "assets" (.obj []) = getD b "assets" (.obj []) ∨
    ∃ l m, getD a "assets" (.obj []) = .obj l ∧ getD b "assets" (.obj []) = .obj m ∧
      ∀ id, ¬ HiddenOnly assetRefs a b id → l.lookup id = m.lookup id

def TooLarge (book : Members) : Prop := 35000000 < (Json.obj book).dumpsLength

/-- Whether the folders are a list of at most fifty that can all be told apart. -/
def ValidFolders (env : Env) (book : Members) : Prop :=
  ∃ l, (getD book "folders" (.arr [])).items? = some l ∧ l.length ≤ 50 ∧
    (cleanFolders env l).isOk = true

/-- Hidden sheets have identifiers that no visible sheet has. -/
def HiddenApart (book : Members) : Prop :=
  ∀ s ∈ hidden (sheetsOf book), ∃ members id, s.members? = some members ∧
    members.lookup "id" = some id ∧ id.hashable = true ∧
    ∀ text, id.str? = some text → text ∉ (visible (sheetsOf book)).filterMap sheetId

/-- Nothing of a hidden sheet is seen: both are refused, or what the link shows is the same. -/
def SameOutcome (env : Env) (a b : Members) : Prop :=
  (∃ w, cleanWorkbook env a = .ok w ∧ cleanWorkbook env b = .ok w) ∨
    (cleanWorkbook env a).isOk = false ∧ (cleanWorkbook env b).isOk = false

variable {env : Env} {a b book : Members}

/-! ## The loop over the sheets -/

theorem visit_hidden {s : Json} (h : isHidden s = true) (seen : Cleaned) :
    visit env seen s = .ok seen := by
  obtain ⟨members, hmembers, hhidden⟩ := (Option.any_eq_true _ _).1 h
  unfold visit
  rw [hmembers]
  exact if_pos hhidden

theorem foldlM_visit {l m : List Json}
    (h : List.Forall₂ (fun s t => s = t ∨ isHidden s = true ∧ isHidden t = true) l m)
    (seen : Cleaned) : l.foldlM (visit env) seen = m.foldlM (visit env) seen := by
  induction h generalizing seen with
  | nil => rfl
  | cons hst _ ih =>
      rw [List.foldlM_cons, List.foldlM_cons]
      rcases hst with rfl | ⟨hs, ht⟩
      · exact congrArg (visit env seen _ >>= ·) (funext ih)
      · rw [visit_hidden hs, visit_hidden ht]
        exact ih seen

theorem str?_getD (members : Members) (name : String) :
    (getD members name .null).str? = (members.lookup name).bind Json.str? := by
  unfold getD
  cases members.lookup name <;> rfl

theorem cleanSheet_id {seen : Cleaned} {members : Members} {s : PublicSheet}
    (h : cleanSheet env seen members = .ok s) : (getD members "id" .null).str? = some s.id := by
  simp only [cleanSheet, bind_eq_ok, orError_eq_ok] at h
  obtain ⟨_, -, _, -, _, -, _, -, _, -, _, -, id, hid, _, -, _, -, _, -, _, -, _, -, hs⟩ := h
  rw [← Except.ok.inj hs]
  exact hid

/-- A sheet that the loop gets past is hidden, or is let through under its identifier. -/
theorem visit_cases {seen seen' : Cleaned} {s : Json} (h : visit env seen s = .ok seen') :
    (isHidden s = true ∧ seen' = seen) ∨ isHidden s = false ∧
      ∃ t, seen'.clean = seen.clean ++ [t] ∧ sheetId s = some t.id := by
  simp only [visit, bind_eq_ok, orError_eq_ok] at h
  obtain ⟨members, hmembers, h⟩ := h
  split at h
  · next hhidden =>
    refine .inl ⟨?_, (Except.ok.inj h).symm⟩
    rw [isHidden, hmembers]
    exact hhidden
  · next hhidden =>
    obtain ⟨t, ht, hseen⟩ := bind_eq_ok.1 h
    refine .inr ⟨?_, t, ?_, ?_⟩
    · rw [isHidden, hmembers]
      exact Bool.eq_false_iff.2 hhidden
    · rw [← Except.ok.inj hseen]
    · rw [sheetId, hmembers, Option.bind_some, ← str?_getD]
      exact cleanSheet_id ht

theorem id_mem_visible {l : List Json} {cleaned : Cleaned}
    (h : l.foldlM (visit env) ⟨[], [], []⟩ = .ok cleaned) :
    ∀ t ∈ cleaned.clean, t.id ∈ (visible l).filterMap sheetId := by
  refine foldlM_inv (P := fun seen : Cleaned => ∀ t ∈ seen.clean,
    t.id ∈ (visible l).filterMap sheetId) ?_ (by simp) h
  intro seen s seen' hs hseen hvisit
  rcases visit_cases hvisit with ⟨-, rfl⟩ | ⟨hvisible, t, hclean, hid⟩
  · exact hseen
  · rw [hclean]
    intro t' ht'
    rcases List.mem_append.1 ht' with hold | hnew
    · exact hseen t' hold
    · rw [List.mem_singleton.1 hnew]
      refine List.mem_filterMap.2 ⟨s, List.mem_filter.2 ⟨hs, ?_⟩, hid⟩
      rw [hvisible]
      rfl

/-! ## Sheets by identifier -/

/-- Sheets with identifiers that can be keys are found by the last with an identifier. -/
theorem originals_ok {l : List Json} (h : ∀ s ∈ l, ∃ members id, s.members? = some members ∧
    members.lookup "id" = some id ∧ id.hashable = true) :
    ∃ sources, originals l = .ok sources ∧ ∀ text, original sources text =
      (l.reverse.find? fun s => sheetId s = some text).bind Json.members? := by
  induction l with
  | nil => exact ⟨[], rfl, fun text => rfl⟩
  | cons s l ih =>
      obtain ⟨members, id, hmembers, hid, hhashable⟩ := h s List.mem_cons_self
      obtain ⟨sources, hsources, hfind⟩ := ih fun t ht => h t (List.mem_cons_of_mem s ht)
      refine ⟨(id, members) :: sources, ?_, fun text => ?_⟩
      · unfold originals at hsources ⊢
        rw [List.mapM_cons, hsources, hmembers]
        simp only [orError, hid, ensure, hhashable, if_true, ok_bind]
        rfl
      · have hsame : sheetId s = id.str? := by simp [sheetId, hmembers, hid]
        have hrest := hfind text
        unfold original at hrest ⊢
        rw [List.reverse_cons, List.reverse_cons, List.find?_append, List.find?_append]
        cases hlast : l.reverse.find? fun s => sheetId s = some text with
        | some t =>
            rw [hlast] at hrest
            cases hsource : sources.reverse.find? fun sheet => sheet.1.str? = some text with
            | some source =>
                rw [hsource] at hrest
                exact hrest
            | none =>
                have hin := List.mem_reverse.1 (List.mem_of_find?_eq_some hlast)
                obtain ⟨fields, -, hfields, -⟩ := h t (List.mem_cons_of_mem s hin)
                rw [hsource, Option.bind_some, hfields] at hrest
                cases hrest
        | none =>
            rw [hlast] at hrest
            cases hsource : sources.reverse.find? fun sheet => sheet.1.str? = some text with
            | some source =>
                rw [hsource] at hrest
                cases hrest
            | none =>
                by_cases htext : id.str? = some text
                · simp [hsame, htext, hmembers]
                · simp [hsame, htext]

/-- A sheet that is looked up by the identifier of a visible one is the same in both lists. -/
theorem find?_visible {l m : List Json}
    (h : List.Forall₂ (fun s t => s = t ∨ isHidden s = true ∧ isHidden t = true) l m)
    {text : String} (hl : ∀ s ∈ hidden l, sheetId s ≠ some text)
    (hm : ∀ s ∈ hidden m, sheetId s ≠ some text) :
    (l.find? fun s => sheetId s = some text) = m.find? fun s => sheetId s = some text := by
  induction h with
  | nil => rfl
  | @cons s t l m hst _ ih =>
      have hrest := ih
        (fun u hu => hl u (List.mem_filter.2 ⟨List.mem_cons_of_mem s (List.mem_filter.1 hu).1,
          (List.mem_filter.1 hu).2⟩))
        fun u hu => hm u (List.mem_filter.2 ⟨List.mem_cons_of_mem t (List.mem_filter.1 hu).1,
          (List.mem_filter.1 hu).2⟩)
      rw [List.find?_cons, List.find?_cons, hrest]
      rcases hst with rfl | ⟨hs, ht⟩
      · rfl
      · have hsno := hl s (List.mem_filter.2 ⟨List.mem_cons_self, hs⟩)
        have htno := hm t (List.mem_filter.2 ⟨List.mem_cons_self, ht⟩)
        simp [hsno, htno]

/-! ## Folders -/

/-- The folders so far, all of which were let through. -/
def Listed (before : List Json) (clean : List (String × String)) : Prop :=
  clean = before.filterMap readFolder

theorem listed_nil : Listed [] [] := rfl

theorem Listed.next {before : List Json} {clean clean' : List (String × String)} {f : Json}
    (hclean : Listed before clean) (h : cleanFolder env clean f = .ok clean') :
    Listed (before ++ [f]) clean' := by
  simp only [cleanFolder, bind_eq_ok, orError_eq_ok] at h
  obtain ⟨folder, hfolder, -, -, hnext⟩ := h
  rw [Listed, ← Except.ok.inj hnext, hclean, List.filterMap_append,
    List.filterMap_cons_some hfolder, List.filterMap_nil]

theorem cleanFolders_eq {folders : List Json} {clean : List (String × String)}
    (h : cleanFolders env folders = .ok clean) : clean = folders.filterMap readFolder :=
  foldlM_along (R := Listed) (fun hclean h => hclean.next h) listed_nil h

end Cestos.Shares
