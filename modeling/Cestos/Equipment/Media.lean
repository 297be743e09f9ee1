import Cestos.Core.Runs
import Cestos.Equipment.Parents

/-!
# Media of assets

One photo of an asset may be its primary one, whose URL the asset keeps as its profile photo. Three
requests write both. An update writes neither flag nor profile photo, whatever it makes of the type
and the URL of the primary photo; and what is added as primary need not be a photo.
-/

namespace Cestos.Equipment

open Cestos.Core

inductive MediaType
  | photo | video | other
  deriving DecidableEq

structure MediaCreate where
  mediaType : MediaType := .photo
  fileUrl : String
  isPrimary : Bool := false

/-- The fields that are given; a value of `none` is an explicit null. -/
structure MediaUpdate where
  mediaType : Option (Option MediaType) := none
  fileUrl : Option (Option String) := none
  isPrimary : Option (Option Bool) := none

structure AssetMedia where
  id : Id
  mediaType : MediaType
  fileUrl : String
  isPrimary : Bool
  isActive : Bool

/-- An asset, as far as its media are concerned. -/
structure Gallery where
  profilePhotoUrl : Option String
  media : Table AssetMedia.id

def MediaCreate.row (body : MediaCreate) (id : Id) : AssetMedia where
  id := id
  mediaType := body.mediaType
  fileUrl := body.fileUrl
  isPrimary := body.isPrimary
  isActive := true

def Gallery.insertMedia (gallery : Gallery) (row : AssetMedia) : Except AppError Gallery := do
  let media ← orError (gallery.media.insert? row) .internal
  .ok { gallery with media := media }

/-- No row is primary any more. -/
def Gallery.clearPrimary (gallery : Gallery) : Table AssetMedia.id :=
  gallery.media.mapRows (fun row => { row with isPrimary := false }) fun _ => rfl

/-- Whether the URL has one of the schemes. -/
def isLink (url : String) : Bool :=
  ["https://", "http://", "/api/v1/"].any fun scheme => scheme.toList.isPrefixOf url.toList

/-- `add_record` of a medium. -/
def Gallery.addMedia (gallery : Gallery) (id : Id) (body : MediaCreate) :
    Except AppError Gallery := do
  ensure (isLink body.fileUrl = true) (.validation "Use an HTTP URL or upload a file")
  let cleared : Gallery :=
    if body.isPrimary = true then ⟨some body.fileUrl, gallery.clearPrimary⟩ else gallery
  cleared.insertMedia (body.row id)

/-- `upload_media`, once the file is stored. -/
def Gallery.uploadMedia (gallery : Gallery) (id : Id) : Except AppError Gallery :=
  gallery.insertMedia {
    id := id
    mediaType := .photo
    fileUrl := "/api/v1/asset-media/" ++ toString id ++ "/download"
    isPrimary := false
    isActive := true }

/-- `update_record` of a medium. -/
def Gallery.updateMedia (gallery : Gallery) (id : Id) (data : MediaUpdate) :
    Except AppError Gallery := do
  let row ← orError (gallery.media.find? id) missing
  ensure (data.isPrimary = none) (.validation "Use set-primary to change the primary photo")
  let mediaType ← orError (column data.mediaType row.mediaType)
    (.conflict "Record conflicts with existing data or required constraints")
  let fileUrl ← orError (column data.fileUrl row.fileUrl)
    (.conflict "Record conflicts with existing data or required constraints")
  .ok { gallery with media :=
    gallery.media.set { row with mediaType := mediaType, fileUrl := fileUrl } }

/-- `primary_media`, unless it archives. -/
def Gallery.setPrimary (gallery : Gallery) (id : Id) : Except AppError Gallery := do
  let row ← orError (gallery.media.find? id) missing
  ensure (row.isActive = true ∧ row.mediaType = .photo) (.validation "Choose an active photo")
  .ok ⟨some row.fileUrl, gallery.clearPrimary.set { row with isPrimary := true }⟩

/-- `primary_media`, if it archives. -/
def Gallery.archiveMedia (gallery : Gallery) (id : Id) : Except AppError Gallery := do
  let row ← orError (gallery.media.find? id) missing
  .ok {
    profilePhotoUrl := if row.isPrimary = true then none else gallery.profilePhotoUrl
    media := gallery.media.set { row with isActive := false, isPrimary := false } }

inductive MediaRequest
  | add (id : Id) (body : MediaCreate)
  | upload (id : Id)
  | update (id : Id) (data : MediaUpdate)
  | setPrimary (id : Id)
  | archive (id : Id)

def Gallery.serve (gallery : Gallery) : MediaRequest → Except AppError Gallery
  | .add id body => gallery.addMedia id body
  | .upload id => gallery.uploadMedia id
  | .update id data => gallery.updateMedia id data
  | .setPrimary id => gallery.setPrimary id
  | .archive id => gallery.archiveMedia id

/-! ## The primary photo -/

/-- One medium is primary at most: an active photo, which the asset shows. -/
structure Gallery.Sound (gallery : Gallery) : Prop where
  single : ∀ a ∈ gallery.media.rows, ∀ b ∈ gallery.media.rows, a.isPrimary = true →
    b.isPrimary = true → a = b
  photo : ∀ a ∈ gallery.media.rows, a.isPrimary = true → a.isActive = true ∧ a.mediaType = .photo
  shown : ∀ a ∈ gallery.media.rows, a.isPrimary = true → gallery.profilePhotoUrl = some a.fileUrl

/-- What is added as primary is a photo, and what is primary stays a photo with its URL. -/
def Gallery.Suits (gallery : Gallery) : MediaRequest → Prop
  | .add _ body => body.isPrimary = true → body.mediaType = .photo
  | .update id data => ∀ row ∈ gallery.media.find? id, row.isPrimary = true →
    (∀ mediaType ∈ data.mediaType, mediaType = some .photo) ∧
      ∀ fileUrl ∈ data.fileUrl, fileUrl = some row.fileUrl
  | _ => True

variable {gallery gallery' : Gallery}

theorem Gallery.mem_clearPrimary {row : AssetMedia} (h : row ∈ gallery.clearPrimary.rows) :
    row.isPrimary = false := by
  obtain ⟨old, -, rfl⟩ := List.mem_map.1 h
  rfl

/-- What is primary was so before, and the asset shows what it did. -/
theorem Gallery.Sound.mono (h : gallery.Sound)
    (hurl : gallery'.profilePhotoUrl = gallery.profilePhotoUrl)
    (hrows : ∀ row ∈ gallery'.media.rows, row.isPrimary = true → row ∈ gallery.media.rows) :
    gallery'.Sound where
  single a ha b hb hprimary hprimary' :=
    h.single a (hrows a ha hprimary) b (hrows b hb hprimary') hprimary hprimary'
  photo a ha hprimary := h.photo a (hrows a ha hprimary) hprimary
  shown a ha hprimary := hurl.trans (h.shown a (hrows a ha hprimary) hprimary)

theorem Gallery.sound_iff_of_only {row : AssetMedia} (hrow : row ∈ gallery.media.rows)
    (hprimary : row.isPrimary = true)
    (honly : ∀ other ∈ gallery.media.rows, other.isPrimary = true → other = row) :
    gallery.Sound ↔ (row.isActive = true ∧ row.mediaType = .photo) ∧
      gallery.profilePhotoUrl = some row.fileUrl := by
  refine ⟨fun h => ⟨h.photo row hrow hprimary, h.shown row hrow hprimary⟩, ?_⟩
  rintro ⟨hphoto, hshown⟩
  refine ⟨fun a ha b hb h h' => (honly a ha h).trans (honly b hb h').symm, fun a ha h => ?_,
    fun a ha h => ?_⟩
  · exact honly a ha h ▸ hphoto
  · exact honly a ha h ▸ hshown

theorem Gallery.insertMedia_spec {row : AssetMedia} (h : gallery.insertMedia row = .ok gallery') :
    gallery'.profilePhotoUrl = gallery.profilePhotoUrl ∧
      ∀ r, r ∈ gallery'.media.rows ↔ r ∈ gallery.media.rows ∨ r = row := by
  obtain ⟨media, hinsert, h⟩ := bind_eq_ok.1 h
  obtain rfl := Except.ok.inj h
  exact ⟨rfl, fun r => Table.mem_insert? (orError_eq_ok.1 hinsert)⟩

theorem Gallery.Sound.insertMedia {row : AssetMedia} (h : gallery.Sound)
    (hrow : row.isPrimary = false) (hinsert : gallery.insertMedia row = .ok gallery') :
    gallery'.Sound := by
  obtain ⟨hurl, hmem⟩ := Gallery.insertMedia_spec hinsert
  refine h.mono hurl fun r hr hprimary => ?_
  rcases (hmem r).1 hr with hold | rfl
  · exact hold
  · simp [hrow] at hprimary

theorem Gallery.addMedia_sound {id : Id} {body : MediaCreate} (h : gallery.Sound)
    (hrun : gallery.addMedia id body = .ok gallery') :
    gallery'.Sound ↔ (body.isPrimary = true → body.mediaType = .photo) := by
  obtain ⟨_, -, hinsert⟩ := bind_eq_ok.1 hrun
  by_cases hprimary : body.isPrimary = true
  · rw [if_pos hprimary] at hinsert
    obtain ⟨hurl, hmem⟩ := Gallery.insertMedia_spec hinsert
    have honly : ∀ other ∈ gallery'.media.rows, other.isPrimary = true → other = body.row id := by
      intro other hother hflag
      rcases (hmem other).1 hother with hold | hnew
      · simp [Gallery.mem_clearPrimary hold] at hflag
      · exact hnew
    rw [Gallery.sound_iff_of_only ((hmem _).2 (.inr rfl)) hprimary honly]
    simp [hprimary, hurl, MediaCreate.row]
  · rw [if_neg hprimary] at hinsert
    refine iff_of_true (h.insertMedia ?_ hinsert) fun hflag => absurd hflag hprimary
    exact Bool.eq_false_of_not_eq_true hprimary

theorem Gallery.updateMedia_sound {id : Id} {data : MediaUpdate} (h : gallery.Sound)
    (hrun : gallery.updateMedia id data = .ok gallery') :
    gallery'.Sound ↔ gallery.Suits (.update id data) := by
  simp only [Gallery.updateMedia, bind_eq_ok, orError_eq_ok] at hrun
  obtain ⟨row, hrow, _, -, mediaType, htype, fileUrl, hfile, hrun⟩ := hrun
  obtain rfl := Except.ok.inj hrun
  have hmem := Table.mem_of_find? hrow
  let written : AssetMedia := { row with mediaType := mediaType, fileUrl := fileUrl }
  have hkey : row.id ∈ gallery.media.rows.map (·.id) := List.mem_map_of_mem hmem
  have hwritten : written ∈ (gallery.media.set written).rows := Table.mem_set.2 (.inr ⟨rfl, hkey⟩)
  simp only [Gallery.Suits, hrow, Option.mem_some_iff, forall_eq']
  by_cases hprimary : row.isPrimary = true
  · obtain ⟨hactive, hphoto⟩ := h.photo row hmem hprimary
    have hshown := h.shown row hmem hprimary
    have honly : ∀ other ∈ (gallery.media.set written).rows, other.isPrimary = true →
        other = written := by
      intro other hother hflag
      rcases Table.mem_set.1 hother with ⟨hold, hne⟩ | ⟨hnew, -⟩
      · exact absurd (congrArg AssetMedia.id (h.single other hold row hmem hflag hprimary)) hne
      · exact hnew
    have htypes : mediaType = .photo ↔ ∀ t ∈ data.mediaType, t = some .photo := by
      rcases hgiven : data.mediaType with _ | t
      · simp_all [column]
      · simp_all [column]
    have hfiles : fileUrl = row.fileUrl ↔ ∀ url ∈ data.fileUrl, url = some row.fileUrl := by
      rcases hgiven : data.fileUrl with _ | url
      · simp_all [column]
      · simp_all [column]
    have hflag : written.isPrimary = true := hprimary
    rw [Gallery.sound_iff_of_only hwritten hflag honly, ← htypes, ← hfiles]
    constructor
    · rintro ⟨⟨-, hwrittenType⟩, hurl⟩
      exact fun _ => ⟨hwrittenType, (Option.some.inj (hshown.symm.trans hurl)).symm⟩
    · intro h
      obtain ⟨hwrittenType, hwrittenUrl⟩ := h hprimary
      exact ⟨⟨hactive, hwrittenType⟩, hshown.trans (congrArg some hwrittenUrl.symm)⟩
  · refine iff_of_true (h.mono rfl fun r hr hflag => ?_) fun hflag => absurd hflag hprimary
    rcases Table.mem_set.1 hr with ⟨hold, -⟩ | ⟨rfl, -⟩
    · exact hold
    · exact absurd hflag hprimary

theorem Gallery.setPrimary_sound {id : Id} (hrun : gallery.setPrimary id = .ok gallery') :
    gallery'.Sound := by
  simp only [Gallery.setPrimary, bind_eq_ok, ensure_eq_ok, orError_eq_ok] at hrun
  obtain ⟨row, hrow, _, hphoto, hrun⟩ := hrun
  obtain rfl := Except.ok.inj hrun
  let written : AssetMedia := { row with isPrimary := true }
  have hkey : row.id ∈ gallery.clearPrimary.rows.map (·.id) := by
    rw [Gallery.clearPrimary, Table.mapRows_keys]
    exact List.mem_map_of_mem (Table.mem_of_find? hrow)
  have honly : ∀ other ∈ (gallery.clearPrimary.set written).rows, other.isPrimary = true →
      other = written := by
    intro other hother hflag
    rcases Table.mem_set.1 hother with ⟨hold, -⟩ | ⟨hnew, -⟩
    · simp [Gallery.mem_clearPrimary hold] at hflag
    · exact hnew
  have hwritten : written ∈ (gallery.clearPrimary.set written).rows :=
    Table.mem_set.2 (.inr ⟨rfl, hkey⟩)
  have hflag : written.isPrimary = true := rfl
  exact (Gallery.sound_iff_of_only hwritten hflag honly).2 ⟨hphoto, rfl⟩

theorem Gallery.Sound.archiveMedia {id : Id} (h : gallery.Sound)
    (hrun : gallery.archiveMedia id = .ok gallery') : gallery'.Sound := by
  obtain ⟨row, hrow, hrun⟩ := bind_eq_ok.1 hrun
  obtain rfl := Except.ok.inj hrun
  have hmem := Table.mem_of_find? (orError_eq_ok.1 hrow)
  have hold : ∀ other ∈ (gallery.media.set { row with isActive := false, isPrimary := false }).rows,
      other.isPrimary = true → other ∈ gallery.media.rows ∧ other.id ≠ row.id := by
    intro other hother hflag
    rcases Table.mem_set.1 hother with hold | ⟨rfl, -⟩
    · exact hold
    · cases hflag
  by_cases hprimary : row.isPrimary = true
  · have hnone : ∀ other ∈ (gallery.media.set
        { row with isActive := false, isPrimary := false }).rows, ¬ other.isPrimary = true := by
      intro other hother hflag
      obtain ⟨hbefore, hne⟩ := hold other hother hflag
      exact hne (congrArg AssetMedia.id (h.single other hbefore row hmem hflag hprimary))
    exact ⟨fun a ha _ _ hflag => absurd hflag (hnone a ha),
      fun a ha hflag => absurd hflag (hnone a ha), fun a ha hflag => absurd hflag (hnone a ha)⟩
  · exact h.mono (if_neg hprimary) fun other hother hflag => (hold other hother hflag).1

/-- What a request leaves is as it should be exactly if it suits. -/
theorem Gallery.serve_sound {r : MediaRequest} (h : gallery.Sound)
    (hrun : gallery.serve r = .ok gallery') : gallery'.Sound ↔ gallery.Suits r := by
  cases r with
  | add id body => exact Gallery.addMedia_sound h hrun
  | upload id => exact iff_of_true (h.insertMedia rfl hrun) trivial
  | update id data => exact Gallery.updateMedia_sound h hrun
  | setPrimary id => exact iff_of_true (Gallery.setPrimary_sound hrun) trivial
  | archive id => exact iff_of_true (h.archiveMedia hrun) trivial

/-! ## Runs -/

/-- An asset after a run of requests; one that is refused leaves it as it is. -/
def Gallery.after (gallery : Gallery) (requests : List MediaRequest) : Gallery :=
  requests.foldl (settled Gallery.serve) gallery

/-- In every run of requests that suit, about an asset without media at first, one medium is primary
at most, an active photo whose URL the asset shows; and so it is after one more request exactly if it
suits too. -/
theorem primary_photo_shown (hnone : gallery.media.rows = []) (requests : List MediaRequest)
    (hsuits : Meets (settled Gallery.serve) Gallery.Suits gallery requests) :
    (gallery.after requests).Sound ∧ ∀ r gallery',
      (gallery.after requests).serve r = .ok gallery' →
        (gallery'.Sound ↔ (gallery.after requests).Suits r) := by
  have hstep : ∀ (gallery : Gallery) (r : MediaRequest), gallery.Sound → gallery.Suits r →
      (settled Gallery.serve gallery r).Sound := fun gallery r h hcond =>
    settled_keeps h fun gallery' hrun => (Gallery.serve_sound h hrun).2 hcond
  have hfirst : gallery.Sound := ⟨by simp [hnone], by simp [hnone], by simp [hnone]⟩
  have hrun := hsuits.keeps hstep hfirst
  exact ⟨hrun, fun r gallery' hnext => Gallery.serve_sound hrun hnext⟩

instance (gallery : Gallery) : DecidablePred gallery.Suits
  | .add _ _ => inferInstanceAs (Decidable (_ → _))
  | .update id _ => inferInstanceAs (Decidable (∀ row ∈ gallery.media.find? id, _ →
      (∀ mediaType ∈ MediaUpdate.mediaType _, _) ∧ ∀ fileUrl ∈ MediaUpdate.fileUrl _, _))
  | .upload _ | .setPrimary _ | .archive _ => .isTrue trivial

namespace Sample

def unpictured : Gallery := ⟨none, .empty⟩

/-- Two photos are primary in turn, and the second is archived. -/
def pictures : List MediaRequest := [
  .add 1 { fileUrl := "https://photos/1", isPrimary := true },
  .upload 2,
  .update 1 { fileUrl := some (some "https://photos/1") },
  .setPrimary 2,
  .archive 2,
  .setPrimary 1]

/-- The URL of the primary photo is changed. -/
def replaced : List MediaRequest := [
  .add 1 { fileUrl := "https://photos/1", isPrimary := true },
  .update 1 { fileUrl := some (some "https://photos/2") }]

end Sample

theorem primary_photo_shown_pictures : Sample.unpictured.media.rows = [] ∧
    (Sample.unpictured.after Sample.pictures).profilePhotoUrl = some "https://photos/1" ∧
    (Sample.unpictured.after Sample.pictures).media.rows.map (fun row => (row.isPrimary, row.isActive)) =
      [(true, true), (false, false)] ∧
    (Sample.unpictured.after Sample.pictures).Sound :=
  ⟨rfl, by decide +kernel, by decide +kernel,
    (primary_photo_shown (show Sample.unpictured.media.rows = [] from rfl) Sample.pictures
      (by decide +kernel)).1⟩

theorem primary_photo_not_shown : ¬ ∀ (gallery : Gallery) (requests : List MediaRequest),
    gallery.media.rows = [] → (gallery.after requests).Sound := by
  intro h
  have hshown := (h Sample.unpictured Sample.replaced rfl).shown
  exact absurd hshown (by decide +kernel)

end Cestos.Equipment
