import Mathlib.Algebra.Order.Ring.Rat
import Mathlib.Data.Char
import Mathlib.Data.List.Lex
import Cestos.Core.Paging
import Cestos.Documents.Chunks

/-!
# The library

The list of the documents that a user may see, with filters, and the search that fuses the ranks of
the text search and of the nearest vectors. What a page shows, its counts included, depends on no
document that the user does not see; the pages of a list show every document of it once.
-/

namespace Cestos.Documents

open Cestos.Core Cestos.Workbooks

structure Entry where
  document : LibraryDocument
  columns : IndexColumns

def Entry.id (e : Entry) : Id := e.document.id

def Catalog.entries (c : Catalog) : List Entry := c.documents.rows.map fun d => ⟨d, c.index d.id⟩

inductive View
  | all | forYou | isPublic | superPrivate

def View.Admits (actor : Actor) (d : LibraryDocument) : View → Prop
  | .all => True
  | .forYou => actor.personal d
  | .isPublic => d.visibility = .isPublic
  | .superPrivate => d.visibility = .superPrivate

instance (actor : Actor) (d : LibraryDocument) : DecidablePred (View.Admits actor d)
  | .all => inferInstanceAs (Decidable True)
  | .forYou => inferInstanceAs (Decidable (actor.personal d))
  | .isPublic => inferInstanceAs (Decidable (_ = _))
  | .superPrivate => inferInstanceAs (Decidable (_ = _))

structure LibraryQuery where
  q : String
  category : String
  tag : String
  view : View
  page : Nat
  pageSize : Nat
  sourceType : Option String
  sourceId : Option Id

/-- The text search of the database, the vector indexes, and the arithmetic of the scores. -/
structure SearchEnv (F : Type) where
  text : TextEnv
  /-- The order in which the database sorts categories. -/
  collation : String → List Nat
  collation_injective : Function.Injective collation
  textMatch : Entry → String → Bool
  rank : Entry → String → F
  /-- Whether the model is there to embed a query. -/
  embeds : String → Bool
  /-- The nearest vector of an index: nothing if reading it raises. -/
  nearest : String → String → Option (Option (F × Int))
  threshold : F
  zero : F
  add : F → F → F
  /-- `1 / (60 + i)`. -/
  reciprocal : Nat → F
  /-- The name of a user of an organization. -/
  userName : Id → Id → Option String

/-- A document that the vector search has found. -/
structure Hit (F : Type) where
  id : Id
  score : F
  chunk : Chunk

/-- What `public` shows of a document. -/
structure PublicDocument where
  id : Id
  title : String
  category : String
  tags : List Tag
  fileName : String
  mimeType : String
  sizeBytes : Nat
  visibility : Visibility
  indexStatus : IndexStatus
  indexMessage : Option String
  indexedAt : Option Instant
  createdAt : Instant
  sourceType : String
  sourceId : Id
  ownerId : Option Id
  employeeId : Option Id
  canManage : Bool

structure LibraryItem where
  shown : PublicDocument
  matched : Option Chunk
  ownerName : Option String

structure LibraryPage where
  items : List LibraryItem
  total : Nat
  page : Nat
  pageSize : Nat
  categories : List (String × Nat)
  tags : List (List Char)
  isAdmin : Bool
  /-- Whether the semantic search was unavailable. -/
  warned : Bool

def showDocument (actor : Actor) (e : Entry) : PublicDocument where
  id := e.document.id
  title := e.document.title
  category := e.document.category
  tags := e.document.tags
  fileName := e.document.fileName
  mimeType := e.document.mimeType
  sizeBytes := e.document.sizeBytes
  visibility := e.document.visibility
  indexStatus := e.columns.indexStatus
  indexMessage := e.columns.indexMessage
  indexedAt := e.columns.indexedAt
  createdAt := e.document.createdAt
  sourceType := e.document.sourceType
  sourceId := e.document.sourceId
  ownerId := e.document.ownerId
  employeeId := e.document.employeeId
  canManage := e.document.ownerId = some actor.id ∨ actor.isDocumentAdmin

/-- The text of a tag. -/
def tagText : Tag → List Char
  | .workbook id => "wb-".toList ++ id.toList
  | .other text => text.toList

section Search

variable {F : Type} (env : SearchEnv F)

/-- The filters of a query; an empty one does not filter. -/
def LibraryQuery.Selects (actor : Actor) (r : LibraryQuery) (d : LibraryDocument) : Prop :=
  actor.sees d ∧ r.view.Admits actor d ∧ (r.category ≠ "" → d.category = r.category) ∧
    (r.tag ≠ "" → tagOf (env.text.lower r.tag) ∈ d.tags) ∧
    (∀ sourceType ∈ r.sourceType, sourceType ≠ "" → d.sourceType = sourceType) ∧
    ∀ sourceId ∈ r.sourceId, d.sourceId = sourceId

instance (actor : Actor) (r : LibraryQuery) : DecidablePred (r.Selects env actor) := fun _ =>
  inferInstanceAs (Decidable (_ ∧ _ ∧ _ ∧ _ ∧ (∀ _ ∈ _, _ → _) ∧ ∀ _ ∈ _, _))

/-- From the newest to the oldest. -/
def newest (e : Entry) : Natᵒᵈ ×ₗ Natᵒᵈ :=
  toLex (OrderDual.toDual e.document.createdAt, OrderDual.toDual e.document.id)

/-- What `search_vectors` finds in one document. -/
def hitOf (q : String) (e : Entry) : Option (Option (Hit F)) :=
  match e.columns.vectorPath with
  | none => some none
  | some path =>
    if path = "" ∨ e.columns.indexStatus ≠ .ready then some none
    else (env.nearest path q).map fun found => found.bind fun (score, position) =>
      if 0 ≤ position then
        (e.columns.chunks[position.toNat]?).map fun chunk => ⟨e.id, score, chunk⟩
      else none

/-- `search_vectors`, if nothing raises. -/
def searchVectors (q : String) (documents : List Entry) : Option (List (Hit F)) :=
  if env.embeds q then (documents.mapM (hitOf env q)).map (·.filterMap id) else none

variable [LinearOrder F]

/-- The text search, from the highest rank to the lowest. -/
def lexical (q : String) (found : List Entry) : List Entry :=
  sortOn (fun e => (toLex (OrderDual.toDual (env.rank e q), e.id) : Fᵒᵈ ×ₗ Nat))
    (found.filter (env.textMatch · q))

/-- The hits by their scores; those below the threshold come last and are left out. -/
def semantic (hits : List (Hit F)) : List (Hit F) :=
  (sortOn (fun hit => OrderDual.toDual hit.score) hits).filter fun hit => env.threshold ≤ hit.score

/-- The place in a ranking, counted from one. -/
def placeIn (ranking : List Id) (id : Id) : Option Nat := (ranking.idxOf? id).map (· + 1)

/-- The sum of the reciprocals for the places in both rankings. -/
def fused (lexical semantic : List Id) (id : Id) : Option F :=
  match placeIn lexical id, placeIn semantic id with
  | some i, some j => some (env.add (env.reciprocal i) (env.reciprocal j))
  | some i, none => some (env.reciprocal i)
  | none, some j => some (env.add env.zero (env.reciprocal j))
  | none, none => none

/-- What a search ranks, of the documents that were found from the newest to the oldest. -/
def ranked (documents lexicals : List Entry) (semantics : List (Hit F)) : List Entry :=
  let score := fused env (lexicals.map Entry.id) (semantics.map (·.id))
  sortOn (fun e => (toLex (OrderDual.toDual ((score e.id).getD env.zero), e.id) : Fᵒᵈ ×ₗ Nat))
    (documents.filter fun e => (score e.id).isSome)

/-- The chunk of the hit, or the first one with a word of the query. -/
def snippet (q : String) (semantics : List (Hit F)) (e : Entry) : Option Chunk :=
  match semantics.find? fun hit => hit.id = e.id with
  | some hit => some hit.chunk
  | none => e.columns.chunks.find? fun chunk =>
      (splitWords (env.text.lower q)).any fun w =>
        w.toList <:+: (env.text.lower chunk.text).toList

def isBlank (q : String) : Bool := q.toList.all isSpace

/-- The documents that are listed, and the hits they may be shown with. -/
def listed (q : String) (found : List Entry) : List Entry × Option (List (Hit F)) :=
  let documents := sortOn newest found
  if isBlank q then (documents, some [])
  else
    let hits := (searchVectors env q documents).map (semantic env)
    (ranked env documents (lexical env q found) (hits.getD []), hits)

def itemOf (actor : Actor) (q : String) (hits : List (Hit F)) (e : Entry) : LibraryItem where
  shown := showDocument actor e
  matched :=
    if isBlank q then none
    else (snippet env q hits e).map fun chunk =>
      ⟨chunk.location, String.ofList (chunk.text.toList.take 650)⟩
  ownerName := e.document.ownerId.bind (env.userName actor.organizationId)

/-- The categories with the numbers of their documents. -/
def categoryCounts (visible : List Entry) : List (String × Nat) :=
  (sortOn env.collation (visible.map fun e => e.document.category).dedup).map fun name =>
    (name, visible.countP fun e => e.document.category = name)

/-- The texts of the tags in the order of their characters. -/
def tagsOf (visible : List Entry) : List (List Char) :=
  sortOn id (visible.flatMap fun e => e.document.tags.map tagText).dedup

/-- The page of a list with what is shown beside it. -/
def pageOf (actor : Actor) (r : LibraryQuery) (found visible : List Entry) : LibraryPage :=
  let shown := listed env r.q found
  { items := (page r.pageSize (r.page - 1) shown.1).map (itemOf env actor r.q (shown.2.getD []))
    total := shown.1.length
    page := r.page
    pageSize := r.pageSize
    categories := categoryCounts env visible
    tags := tagsOf visible
    isAdmin := actor.isDocumentAdmin
    warned := shown.2 = none }

/-- `library`. -/
def library (c : Catalog) (actor : Actor) (r : LibraryQuery) : LibraryPage :=
  pageOf env actor r (c.entries.filter fun e => r.Selects env actor e.document)
    (c.entries.filter fun e => actor.sees e.document)

/-! ## What is not seen -/

variable {env} {c c' : Catalog} {actor : Actor} {r : LibraryQuery}

theorem mem_entries {e : Entry} :
    e ∈ c.entries ↔ e.document ∈ c.documents.rows ∧ e.columns = c.index e.id := by
  obtain ⟨d, columns⟩ := e
  rw [Catalog.entries, List.mem_map]
  constructor
  · intro h
    obtain ⟨d', hd, heq⟩ := h
    cases heq
    exact ⟨hd, rfl⟩
  · intro h
    exact ⟨d, h.1, by rw [show columns = c.index d.id from h.2]⟩

theorem map_id_entries : c.entries.map Entry.id = c.documents.rows.map LibraryDocument.id := by
  rw [Catalog.entries, List.map_map]
  rfl

/-- An entry of a list is known by its identifier. -/
def Keyed (l : List Entry) : Prop := (l.map Entry.id).Nodup

theorem keyed_filter (c : Catalog) (p : Entry → Bool) : Keyed (c.entries.filter p) := by
  have hnodup : Keyed c.entries := by
    rw [Keyed, map_id_entries]
    exact c.documents.nodup
  exact hnodup.sublist (List.filter_sublist.map _)

theorem Keyed.eq_of_id {l : List Entry} (h : Keyed l) {x y : Entry} (hx : x ∈ l) (hy : y ∈ l)
    (hid : x.id = y.id) : x = y :=
  List.inj_on_of_nodup_map h hx hy hid

theorem filter_entries_perm {p : Entry → Bool}
    (h : ∀ e, p e = true → (e ∈ c.entries ↔ e ∈ c'.entries)) :
    (c.entries.filter p).Perm (c'.entries.filter p) := by
  apply (List.perm_ext_iff_of_nodup (keyed_filter c p).of_map (keyed_filter c' p).of_map).2
  intro e
  rw [List.mem_filter, List.mem_filter]
  by_cases hp : p e = true
  · rw [h e hp]
  · simp [hp]

theorem sortOn_newest_eq {l l' : List Entry} (hl : Keyed l) (h : l.Perm l') :
    sortOn newest l = sortOn newest l' := by
  apply sortOn_eq_of_perm h
  intro x hx y hy hkey
  have hid : x.id = y.id := congrArg (fun k => OrderDual.ofDual (ofLex k).2) hkey
  exact hl.eq_of_id hx hy hid

omit [LinearOrder F] in
theorem sortOn_id_eq {K : Type} [LinearOrder K] {key : Entry → K} {l l' : List Entry}
    (hl : Keyed l) (h : l.Perm l') :
    sortOn (fun e => (toLex (key e, e.id) : K ×ₗ Nat)) l =
      sortOn (fun e => (toLex (key e, e.id) : K ×ₗ Nat)) l' := by
  apply sortOn_eq_of_perm h
  intro x hx y hy hkey
  have hid : x.id = y.id := congrArg (fun k => (ofLex k).2) hkey
  exact hl.eq_of_id hx hy hid

theorem listed_eq_of_perm {q : String} {found found' : List Entry} (hfound : Keyed found)
    (h : found.Perm found') : listed env q found = listed env q found' := by
  have hlexical : lexical env q found = lexical env q found' :=
    sortOn_id_eq (hfound.sublist (List.filter_sublist.map _)) (h.filter _)
  rw [listed, listed, sortOn_newest_eq hfound h, hlexical]

omit [LinearOrder F] in
theorem categoryCounts_eq_of_perm {visible visible' : List Entry} (h : visible.Perm visible') :
    categoryCounts env visible = categoryCounts env visible' := by
  have hnames : sortOn env.collation (visible.map fun e => e.document.category).dedup =
      sortOn env.collation (visible'.map fun e => e.document.category).dedup :=
    sortOn_eq_of_perm (h.map _).dedup fun _ _ _ _ hkey => env.collation_injective hkey
  rw [categoryCounts, categoryCounts, hnames]
  apply List.map_congr_left
  intro name _
  rw [h.countP_eq]

theorem tagsOf_eq_of_perm {visible visible' : List Entry} (h : visible.Perm visible') :
    tagsOf visible = tagsOf visible' :=
  sortOn_eq_of_perm (h.flatMap_right _).dedup fun _ _ _ _ hkey => hkey

/-- Documents that the user does not see, in whatever state, make no difference to any page: not to
its items and their order, the snippets, the totals, the categories or the tags. -/
theorem library_visible
    (h : ∀ e, actor.sees e.document → (e ∈ c.entries ↔ e ∈ c'.entries)) :
    library env c actor r = library env c' actor r := by
  have hvisible : (c.entries.filter fun e => actor.sees e.document).Perm
      (c'.entries.filter fun e => actor.sees e.document) :=
    filter_entries_perm fun e he => h e (of_decide_eq_true he)
  have hfound : (c.entries.filter fun e => r.Selects env actor e.document).Perm
      (c'.entries.filter fun e => r.Selects env actor e.document) :=
    filter_entries_perm fun e he => h e (of_decide_eq_true he).1
  rw [library, library, pageOf, pageOf, listed_eq_of_perm (keyed_filter c _) hfound,
    categoryCounts_eq_of_perm hvisible, tagsOf_eq_of_perm hvisible]

end Search

theorem Sample.name_injective :
    Function.Injective fun name : String => name.toList.map Char.toNat := by
  intro a b h
  have hchars := List.map_injective_iff.2 (fun _ _ => Char.ext ∘ UInt32.toNat_inj.1) h
  exact String.toList_inj.1 hchars

namespace Sample

/-- A search in titles, without vectors. -/
def searching : SearchEnv Rat where
  text := ⟨id, id⟩
  collation name := name.toList.map Char.toNat
  collation_injective := name_injective
  textMatch e q := q.toList <:+: e.document.title.toList
  rank _ _ := 2
  embeds _ := true
  nearest _ _ := some none
  threshold := 35 / 100
  zero := 0
  add x y := x + y
  reciprocal i := 1 / (60 + i)
  userName _ _ := none

def boreLog : LibraryDocument where
  id := 1
  organizationId := 1
  sourceType := "library"
  sourceId := 1
  ownerId := some 1
  employeeId := none
  title := "Borehole log"
  category := "General"
  tags := []
  storagePath := "documents/1/log.txt"
  fileName := "log.txt"
  mimeType := "text/plain"
  sizeBytes := 3
  visibility := .isPublic
  privateToId := none
  isActive := true
  contentHash := none
  createdAt := 1

/-- Only its owner sees it. -/
def payLog : LibraryDocument :=
  { boreLog with
    id := 2
    sourceId := 2
    title := "Pay log"
    visibility := .superPrivate
    privateToId := some 1 }

def openCatalog : Catalog := ⟨⟨[boreLog], by decide⟩, fun _ => .default, by decide⟩

def fullCatalog : Catalog := ⟨⟨[payLog, boreLog], by decide⟩, fun _ => .default, by decide⟩

/-- A user who owns neither. -/
def stranger : Actor := ⟨2, 1, false, [], []⟩

def logs : LibraryQuery := ⟨"log", "", "", .all, 1, 24, none, none⟩

theorem catalogs_agree (e : Entry) (h : stranger.sees e.document) :
    e ∈ fullCatalog.entries ↔ e ∈ openCatalog.entries := by
  have hother : e.document ≠ payLog := by
    intro heq
    rw [heq] at h
    exact absurd h (by decide +kernel)
  rw [mem_entries, mem_entries]
  simp [fullCatalog, openCatalog, hother]

end Sample

/-- The document of somebody else is not counted. -/
theorem logs_visible : library Sample.searching Sample.fullCatalog Sample.stranger Sample.logs =
    library Sample.searching Sample.openCatalog Sample.stranger Sample.logs :=
  library_visible Sample.catalogs_agree

/-! ## Page by page -/

section Pages

variable {F : Type} [LinearOrder F] {env : SearchEnv F} {c : Catalog} {actor : Actor}
  {r : LibraryQuery}

/-- What is listed of a catalog. -/
def LibraryQuery.found (env : SearchEnv F) (actor : Actor) (c : Catalog) (r : LibraryQuery) :
    List Entry :=
  c.entries.filter fun e => r.Selects env actor e.document

/-- The vector search has found the document and scores it high enough. -/
def Near (env : SearchEnv F) (q : String) (documents : List Entry) (e : Entry) : Prop :=
  ∃ hits, searchVectors env q documents = some hits ∧
    ∃ hit ∈ hits, hit.id = e.id ∧ env.threshold ≤ hit.score

/-- Whether a document that is selected is listed. -/
def LibraryQuery.Finds (env : SearchEnv F) (actor : Actor) (c : Catalog) (r : LibraryQuery)
    (e : Entry) : Prop :=
  isBlank r.q = true ∨ env.textMatch e r.q = true ∨
    Near env r.q (sortOn newest (r.found env actor c)) e

omit [LinearOrder F] in
theorem placeIn_isSome (ranking : List Id) {id : Id} :
    (placeIn ranking id).isSome = true ↔ id ∈ ranking := by
  rw [placeIn, Option.isSome_map, List.isSome_idxOf?]

omit [LinearOrder F] in
theorem fused_isSome {lexicals semantics : List Id} {id : Id} :
    (fused env lexicals semantics id).isSome = true ↔ id ∈ lexicals ∨ id ∈ semantics := by
  rw [← placeIn_isSome lexicals, ← placeIn_isSome semantics, fused]
  cases placeIn lexicals id with
  | none => cases placeIn semantics id <;> simp
  | some i => cases placeIn semantics id <;> simp

variable (env) in
theorem mem_semantic {hits : List (Hit F)} {id : Id} :
    id ∈ (semantic env hits).map (·.id) ↔ ∃ hit ∈ hits, hit.id = id ∧ env.threshold ≤ hit.score := by
  simp only [semantic, List.mem_map, List.mem_filter, mem_sortOn, decide_eq_true_eq]
  constructor
  · intro h
    obtain ⟨hit, ⟨hmem, hscore⟩, hid⟩ := h
    exact ⟨hit, hmem, hid, hscore⟩
  · intro h
    obtain ⟨hit, hmem, hid, hscore⟩ := h
    exact ⟨hit, ⟨hmem, hscore⟩, hid⟩

theorem mem_lexical {q : String} {found : List Entry} (hfound : Keyed found) {e : Entry}
    (he : e ∈ found) : e.id ∈ (lexical env q found).map Entry.id ↔ env.textMatch e q = true := by
  simp only [lexical, List.mem_map, mem_sortOn, List.mem_filter]
  constructor
  · intro h
    obtain ⟨x, ⟨hx, hmatch⟩, hid⟩ := h
    rwa [← hfound.eq_of_id hx he hid]
  · intro h
    exact ⟨e, ⟨he, h⟩, rfl⟩

theorem mem_listed {e : Entry} :
    e ∈ (listed env r.q (r.found env actor c)).1 ↔
      e ∈ c.entries ∧ r.Selects env actor e.document ∧ r.Finds env actor c e := by
  have hselected : e ∈ r.found env actor c ↔
      e ∈ c.entries ∧ r.Selects env actor e.document := by
    simp [LibraryQuery.found]
  unfold LibraryQuery.Finds
  by_cases hblank : isBlank r.q = true
  · simp [listed, hblank, mem_sortOn, hselected]
  · rw [listed, if_neg hblank]
    simp only [ranked]
    rw [mem_sortOn, List.mem_filter, mem_sortOn, hselected, fused_isSome, and_assoc]
    simp only [hblank, Bool.false_eq_true, false_or]
    refine and_congr_right fun hmem => and_congr_right fun hselects => or_congr ?_ ?_
    · exact mem_lexical (keyed_filter c _) (hselected.2 ⟨hmem, hselects⟩)
    · cases hsearch : searchVectors env r.q (sortOn newest (r.found env actor c)) with
      | none => simp [Near, hsearch]
      | some hits => simp [Near, hsearch, ← mem_semantic env]

theorem Keyed.perm {l l' : List Entry} (h : Keyed l) (hperm : l'.Perm l) : Keyed l' :=
  (hperm.map Entry.id).nodup_iff.2 h

theorem keyed_listed {q : String} {found : List Entry} (h : Keyed found) :
    Keyed (listed env q found).1 := by
  have hdocuments : Keyed (sortOn newest found) := h.perm sortOn_perm
  unfold listed
  split
  · exact hdocuments
  · exact Keyed.perm (hdocuments.sublist (List.filter_sublist.map _)) sortOn_perm

theorem map_id_items : (library env c actor r).items.map (fun item => item.shown.id) =
    page r.pageSize (r.page - 1) ((listed env r.q (r.found env actor c)).1.map Entry.id) := by
  rw [← map_page, library, pageOf, List.map_map]
  rfl

/-- The documents on the first pages of a query, asked for one after the other. -/
def LibraryQuery.pagesOf (env : SearchEnv F) (actor : Actor) (c : Catalog) (r : LibraryQuery)
    (count : Nat) : List Id :=
  (List.range count).flatMap fun p =>
    (library env c actor { r with page := p + 1 }).items.map fun item => item.shown.id

/-- As many pages as the total calls for show every document that is selected and found, and
each of them once. -/
theorem library_pages (count : Nat)
    (hcount : (library env c actor r).total ≤ count * r.pageSize) :
    (r.pagesOf env actor c count).Nodup ∧
      (r.pagesOf env actor c count).length = (library env c actor r).total ∧
      ∀ id, id ∈ r.pagesOf env actor c count ↔
        ∃ e ∈ c.entries, e.id = id ∧ r.Selects env actor e.document ∧ r.Finds env actor c e := by
  have htotal : (library env c actor r).total =
      ((listed env r.q (r.found env actor c)).1.map Entry.id).length := by
    rw [List.length_map]
    rfl
  have hpages : r.pagesOf env actor c count =
      (listed env r.q (r.found env actor c)).1.map Entry.id := by
    have hsame : r.pagesOf env actor c count = pages r.pageSize
        (fun _ => (listed env r.q (r.found env actor c)).1.map Entry.id) count := by
      simp only [LibraryQuery.pagesOf, map_id_items, Nat.add_sub_cancel]
      rfl
    rw [hsame, pages_const, List.take_of_length_le (htotal ▸ hcount)]
  rw [hpages]
  refine ⟨keyed_listed (keyed_filter c _), htotal.symm, fun id => ?_⟩
  rw [List.mem_map]
  constructor
  · intro h
    obtain ⟨e, he, hid⟩ := h
    have hmem := mem_listed.1 he
    exact ⟨e, hmem.1, hid, hmem.2⟩
  · intro h
    obtain ⟨e, he, hid, hfound⟩ := h
    exact ⟨e, mem_listed.2 ⟨he, hfound⟩, hid⟩

end Pages

theorem logs_pages :
    (Sample.logs.pagesOf Sample.searching Sample.stranger Sample.fullCatalog 1).length =
      (library Sample.searching Sample.fullCatalog Sample.stranger Sample.logs).total :=
  (library_pages 1 (by decide +kernel)).2.1

end Cestos.Documents
