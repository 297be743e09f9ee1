import Cestos.Core.Words
import Cestos.Documents.Indexing

/-!
# What the index holds of a file

The text of a file is read piece by piece, up to a number of characters, and every piece is cut
into windows of words that overlap. Where the index has no warning, nothing that was read is
missing from it.
-/

namespace Cestos.Documents

open Cestos.Core Cestos.Workbooks

/-! ## Reading -/

/-- `str.isspace` of a character, which `str.split` and `str.strip` go by. -/
def isSpace (c : Char) : Bool :=
  let n := c.toNat
  (9 ≤ n && n ≤ 13) || (28 ≤ n && n ≤ 32) || n == 0x85 || n == 0xA0 || n == 0x1680 ||
    (0x2000 ≤ n && n ≤ 0x200A) || n == 0x2028 || n == 0x2029 || n == 0x202F || n == 0x205F ||
    n == 0x3000

/-- The words of a text. -/
def wordsOf (text : String) : List (List Char) := words isSpace text.toList

/-- `str.split`. -/
def splitWords (text : String) : List String := (wordsOf text).map String.ofList

/-- `MAX_TEXT`. -/
def maxText : Nat := 2000000

/-- `MAX_PAGES`. -/
def maxPages : Nat := 300

/-- What the libraries find in a file of a suffix. -/
inductive Contents
  /-- The texts of the pages of a PDF, or of their images where there is hardly any. -/
  | pages (texts : List String)
  | lockedPdf
  /-- The titles of sheets with the texts of their rows. -/
  | sheets (sheets : List (String × List String))
  /-- The paragraphs and tables of a document, slides, the text of an image. -/
  | parts (parts : List Chunk)
  | raw (data : List UInt8) (markup : Bool)

structure File where
  /-- The sizes of the members, if the file is an archive. -/
  archive : List Nat
  contents : Contents

/-- `bytes.decode` and what remains of a text without its markup. -/
structure ReadEnv where
  decode : List UInt8 → Option String
  withoutMarkup : String → String

def textLength (sections : List Chunk) : Nat := (sections.map fun s => s.text.length).sum

/-- `text.strip()` is not empty. -/
def Chunk.readable (piece : Chunk) : Bool := !piece.text.toList.all isSpace

/-- `add`. -/
def addSection (sections : List Chunk) (piece : Chunk) : List Chunk :=
  if 0 < maxText - textLength sections ∧ piece.readable then
    sections ++
      [⟨piece.location, String.ofList (piece.text.toList.take (maxText - textLength sections))⟩]
  else sections

/-- The pieces that are added, one after the other. -/
def File.pieces (env : ReadEnv) (file : File) : List Chunk :=
  match file.contents with
  | .pages texts =>
      (texts.take maxPages).mapIdx fun i text => ⟨"Page " ++ toString (i + 1), text⟩
  | .lockedPdf => []
  | .sheets sheets =>
      sheets.map fun sheet => ⟨sheet.1, "\n".intercalate (sheet.2.take 20000)⟩
  | .parts parts => parts
  | .raw data markup =>
      match env.decode (data.take (maxText * 2)) with
      | none => []
      | some text => [⟨"Document", if markup then env.withoutMarkup text else text⟩]

/-- Whether pages are left out. -/
def File.limited (file : File) : Bool :=
  match file.contents with
  | .pages texts => maxPages < texts.length
  | _ => false

/-- Why a file is not read. -/
def File.refused (file : File) : Option String :=
  if 100000000 < file.archive.sum then some "Document expands beyond the extraction limit"
  else
    match file.contents with
    | .lockedPdf => some "Password-protected PDF: upload an unlocked copy to index its text"
    | _ => none

/-- What is returned at once of a file without text. -/
def File.unsupported (env : ReadEnv) (file : File) : Option String :=
  match file.contents with
  | .raw data _ =>
      if 0 ∈ (data.take (maxText * 2)).take 8192 then
        some "This binary format is stored safely; text extraction is not supported."
      else if env.decode (data.take (maxText * 2)) = none then
        some "Text encoding or file format is not supported."
      else none
  | _ => none

def partiallyIndexed : String :=
  "A large document was partially indexed (300 pages or 2 million characters)."

/-- `extract`. -/
def File.extract (env : ReadEnv) (file : File) : Except IndexError (List Chunk × Option String) :=
  match file.refused, file.unsupported env with
  | some message, _ => .error (.value message)
  | none, some message => .ok ([], some message)
  | none, none =>
    let sections := (file.pieces env).foldl addSection []
    if file.limited ∨ maxText ≤ textLength sections then .ok (sections, some partiallyIndexed)
    else if sections = [] then .ok (sections, some "No readable text was found in this file.")
    else .ok (sections, none)

/-! ## Sections -/

theorem textLength_append (xs ys : List Chunk) :
    textLength (xs ++ ys) = textLength xs + textLength ys := by
  simp [textLength]

/-- Below the limit every readable piece becomes a section as it is. -/
theorem foldl_addSection {pieces sections : List Chunk}
    (h : textLength sections + textLength (pieces.filter Chunk.readable) < maxText) :
    pieces.foldl addSection sections = sections ++ pieces.filter Chunk.readable := by
  induction pieces generalizing sections with
  | nil => simp
  | cons piece rest ih =>
      by_cases hread : piece.readable
      · rw [List.filter_cons_of_pos hread, ← List.singleton_append, textLength_append] at h
        have hlength : textLength [piece] = piece.text.length := by simp [textLength]
        have hwhole : addSection sections piece = sections ++ [piece] := by
          rw [addSection, if_pos ⟨by omega, hread⟩,
            List.take_of_length_le (by rw [String.length_toList]; omega), String.ofList_toList]
        rw [List.foldl_cons, hwhole, ih (by rw [textLength_append]; omega),
          List.filter_cons_of_pos hread, List.append_assoc, List.singleton_append]
      · rw [List.filter_cons_of_neg hread] at h ⊢
        have hskip : addSection sections piece = sections := by
          rw [addSection, if_neg fun hboth => hread hboth.2]
        rw [List.foldl_cons, hskip, ih h]

/-- The characters of the sections are those of the readable pieces, up to the limit. -/
theorem textLength_foldl_addSection {pieces sections : List Chunk}
    (h : textLength sections ≤ maxText) :
    textLength (pieces.foldl addSection sections) =
      min maxText (textLength sections + textLength (pieces.filter Chunk.readable)) := by
  induction pieces generalizing sections with
  | nil => simpa [textLength] using h
  | cons piece rest ih =>
      have hlength : textLength [piece] = piece.text.length := by simp [textLength]
      rw [List.foldl_cons]
      by_cases hread : piece.readable
      · rw [List.filter_cons_of_pos hread, ← List.singleton_append, textLength_append, hlength]
        by_cases hleft : 0 < maxText - textLength sections
        · have hcut : textLength (addSection sections piece) =
              textLength sections + min (maxText - textLength sections) piece.text.length := by
            rw [addSection, if_pos ⟨hleft, hread⟩, textLength_append]
            simp [textLength, String.length_toList]
          rw [ih (by omega), hcut]
          omega
        · rw [addSection, if_neg fun hboth => hleft hboth.1, ih h]
          omega
      · rw [addSection, if_neg fun hboth => hread hboth.2, ih h, List.filter_cons_of_neg hread]

/-- A section is the beginning of a piece with the same label. -/
theorem mem_foldl_addSection {pieces sections : List Chunk} {s : Chunk}
    (h : s ∈ pieces.foldl addSection sections) :
    s ∈ sections ∨ ∃ piece ∈ pieces, s.location = piece.location ∧
      ∃ n, s.text.toList = piece.text.toList.take n := by
  induction pieces generalizing sections with
  | nil => exact .inl h
  | cons piece rest ih =>
      rw [List.foldl_cons] at h
      cases ih h with
      | inr hrest =>
          obtain ⟨other, hmem, hsame⟩ := hrest
          exact .inr ⟨other, List.mem_cons_of_mem piece hmem, hsame⟩
      | inl hsections =>
          unfold addSection at hsections
          split at hsections
          · cases List.mem_append.1 hsections with
            | inl hbefore => exact .inl hbefore
            | inr hnew =>
                obtain rfl := List.mem_singleton.1 hnew
                exact .inr ⟨piece, List.mem_cons_self, rfl, _, String.toList_ofList⟩
          · exact .inl hsections

/-! ## Chunks -/

theorem isSpace_space : isSpace ' ' = true := by decide

/-- The words of a chunk. -/
def Chunk.words (chunk : Chunk) : List (List Char) := wordsOf chunk.text

/-- The chunk of a window of words. -/
def chunkOf (location : String) (ws : List (List Char)) : Chunk :=
  ⟨location, String.ofList (unwords ws)⟩

theorem words_chunkOf {location : String} {ws : List (List Char)}
    (h : ∀ w ∈ ws, IsWord isSpace w) : (chunkOf location ws).words = ws := by
  rw [Chunk.words, wordsOf, chunkOf, String.toList_ofList, words_unwords isSpace_space h]

section Indexing

variable {env : IndexEnv} {part : Chunk}

theorem isWord_of_mem_window {ws : List (List Char)} (h : ws ∈ windows 180 220 part.words) :
    ∀ w ∈ ws, IsWord isSpace w := fun _ hw =>
  isWord_of_mem_words ((infix_of_mem_windows h).subset hw)

/-- The windows of a section become its chunks, and none is dropped. -/
theorem chunksOf_eq (hwords : env.words = splitWords) :
    chunksOf env part = (windows 180 220 part.words).map (chunkOf part.location) := by
  have htext : ∀ ws : List (List Char),
      " ".intercalate (ws.map String.ofList) = String.ofList (unwords ws) := by
    intro ws
    rw [← String.toList_inj, String.toList_intercalate, String.toList_ofList, unwords]
    simp
  have hall : ∀ ws ∈ windows 180 220 part.words, (chunkOf part.location ws).text ≠ "" := by
    intro ws hws hempty
    rw [chunkOf, String.ofList_eq_empty_iff, unwords_eq_nil (isWord_of_mem_window hws)] at hempty
    exact ne_nil_of_mem_windows (by decide) hws hempty
  have hmap : chunksOf env part =
      ((windows 180 220 part.words).map (chunkOf part.location)).filter
        fun chunk => chunk.text ≠ "" := by
    simp only [chunksOf, hwords, splitWords, windows, List.map_map, List.length_map, Chunk.words]
    congr 1
    apply List.map_congr_left
    intro i _
    rw [Function.comp_apply, chunkOf, ← htext, List.map_take, List.map_drop]
  rw [hmap, List.filter_eq_self]
  intro chunk hchunk
  obtain ⟨ws, hws, rfl⟩ := List.mem_map.1 hchunk
  simpa using hall ws hws

/-- A chunk has at most 220 words, which follow one another in its section. -/
theorem mem_chunksOf {chunk : Chunk} (hwords : env.words = splitWords)
    (h : chunk ∈ chunksOf env part) :
    chunk.location = part.location ∧ chunk.words.length ≤ 220 ∧ chunk.words <:+: part.words := by
  rw [chunksOf_eq hwords] at h
  obtain ⟨ws, hws, rfl⟩ := List.mem_map.1 h
  rw [words_chunkOf (isWord_of_mem_window hws)]
  exact ⟨rfl, length_of_mem_windows hws, infix_of_mem_windows hws⟩

/-- Up to 41 words that follow one another in a section do so in one of its chunks. -/
theorem exists_chunk {phrase : List (List Char)} (hwords : env.words = splitWords)
    (h : phrase <:+: part.words) (hnil : phrase ≠ []) (hlength : phrase.length ≤ 41) :
    ∃ chunk ∈ chunksOf env part, chunk.location = part.location ∧ phrase <:+: chunk.words := by
  have hshort : phrase.length + (180 - 1) ≤ 220 := by omega
  obtain ⟨ws, hws, hinside⟩ := exists_window (by decide) h hnil hshort
  refine ⟨chunkOf part.location ws, ?_, rfl, ?_⟩
  · rw [chunksOf_eq hwords]
    exact List.mem_map_of_mem hws
  · rwa [words_chunkOf (isWord_of_mem_window hws)]

/-- The first 180 words of the chunks are the words of the section. -/
theorem flatMap_chunksOf (hwords : env.words = splitWords) :
    (chunksOf env part).flatMap (fun chunk => chunk.words.take 180) = part.words := by
  have hsame : (chunksOf env part).map (fun chunk => chunk.words.take 180) =
      (windows 180 220 part.words).map (List.take 180) := by
    rw [chunksOf_eq hwords, List.map_map]
    apply List.map_congr_left
    intro ws hws
    rw [Function.comp_apply, words_chunkOf (isWord_of_mem_window hws)]
  rw [List.flatMap_def, hsame, flatten_windows (by decide) (by decide)]

end Indexing

/-! ## The index -/

theorem words_of_not_readable {piece : Chunk} (h : piece.readable = false) : piece.words = [] := by
  rw [Chunk.words, wordsOf, words_eq_nil]
  simpa [Chunk.readable] using h

theorem flatMap_filter_readable (pieces : List Chunk) :
    (pieces.filter Chunk.readable).flatMap Chunk.words = pieces.flatMap Chunk.words := by
  induction pieces with
  | nil => rfl
  | cons piece rest ih =>
      by_cases hread : piece.readable
      · rw [List.filter_cons_of_pos hread, List.flatMap_cons, List.flatMap_cons, ih]
      · rw [List.filter_cons_of_neg hread, List.flatMap_cons, ih,
          words_of_not_readable (by simpa using hread), List.nil_append]

/-- Whether all the text that is read is indexed. -/
def File.Complete (env : ReadEnv) (file : File) : Prop :=
  file.limited = false ∧ textLength ((file.pieces env).filter Chunk.readable) < maxText

theorem File.extract_spec {env : ReadEnv} {file : File} {sections : List Chunk}
    {message : Option String} (h : file.extract env = .ok (sections, message))
    (hsections : sections ≠ []) :
    sections = (file.pieces env).foldl addSection [] ∧
      (message = none ↔ file.Complete env) := by
  have htotal : textLength ((file.pieces env).foldl addSection []) =
      min maxText (textLength ((file.pieces env).filter Chunk.readable)) := by
    rw [textLength_foldl_addSection (by simp [textLength])]
    simp [textLength]
  unfold File.extract at h
  split at h
  · cases h
  · cases h
    exact absurd rfl hsections
  · dsimp only at h
    split at h
    · next hlimit =>
      cases h
      refine ⟨rfl, by simp, fun hcomplete => ?_⟩
      have hbound := hcomplete.2
      cases hlimit with
      | inl hlimited => simp [hcomplete.1] at hlimited
      | inr hlong => omega
    · next hlimit =>
      rw [not_or] at hlimit
      split at h
      · cases h
        exact absurd ‹_› hsections
      · cases h
        refine ⟨rfl, fun _ => ⟨by simpa using hlimit.1, ?_⟩, fun _ => rfl⟩
        omega

namespace Sample

def note : File := ⟨[], .parts [⟨"Document", "rig two"⟩]⟩

def reading : ReadEnv := ⟨fun _ => none, id⟩

/-- Every file is the note. -/
def notes : IndexEnv where
  extract _ _ := note.extract reading
  words := splitWords
  sha256 := id
  timeoutSeconds := "120"

def indexer : Worker := ⟨1, none, "1.faiss", 0⟩

theorem notes_extract (path fileName : String) :
    notes.extract path fileName = note.extract reading := rfl

theorem indexer_result : indexer.result notes "documents/n.txt" "n.txt" =
    .ready none [⟨"Document", "rig two"⟩] "rig two" "1.faiss" "documents/n.txt" 0 := rfl

end Sample

end Cestos.Documents
