import Cestos.Core.Runs
import Cestos.Core.Table
import Cestos.Vendors.Master

/-!
# The names of the vendors

The vendors of an organization that are not archived have different names, up to case and
surrounding blanks, as long as an archived vendor is taken back only where no other one has its
name.
-/

namespace Cestos.Vendors

open Cestos.Core

/-- The name up to case and surrounding blanks. -/
def Spelling.known (names : Spelling) (name : String) : String := names.lower (names.strip name)

/-- Whose name it is, unless the vendor is archived. -/
def Supplier.inUse (names : Spelling) (row : Supplier) : Option (Id × String) :=
  if row.archivedAt = none then some (row.organizationId, names.known row.name) else none

namespace Master

variable (names : Spelling) (vendors : Master)

/-- The vendors that are not archived have different names, and these have no blanks around them
that the database does not remove. -/
structure NamesApart : Prop where
  unique : vendors.UniqueOn (Supplier.inUse names)
  trimmed : ∀ row ∈ vendors.rows, row.archivedAt = none →
    names.lower (names.trim row.name) = names.known row.name

instance : Decidable (NamesApart names vendors) :=
  decidable_of_iff (vendors.UniqueOn (Supplier.inUse names) ∧
      ∀ row ∈ vendors.rows, row.archivedAt = none →
        names.lower (names.trim row.name) = names.known row.name)
    ⟨fun h => ⟨h.1, h.2⟩, fun h => ⟨h.unique, h.trimmed⟩⟩

/-- The vendor that is read first is archived only if all of its name are. -/
def Alone (organizationId : Id) (name : String) (first : Id) : Prop :=
  ∀ row ∈ scalar (named names vendors organizationId name) first, row.archivedAt ≠ none →
    ∀ other ∈ named names vendors organizationId name, other.archivedAt ≠ none

instance (organizationId : Id) (name : String) (first : Id) :
    Decidable (Alone names vendors organizationId name first) :=
  inferInstanceAs (Decidable (∀ row ∈ scalar _ _, _ → ∀ other ∈ named _ _ _ _, _))

/-- An archived vendor is taken back only where no other one has its name; where a creation reads
the vendors of a name twice, it is the same that it takes back. -/
def TakesBackAlone (call : Caller × VendorRequest) : Prop :=
  match call.2 with
  | .create body draw ensureDraw =>
      let name := (body.data names).name
      Alone names vendors call.1.organizationId name draw.first ∧
        ∀ row ∈ scalar (named names vendors call.1.organizationId name) draw.first,
          ∀ second ∈ scalar (named names vendors call.1.organizationId name) ensureDraw.first,
            second.archivedAt ≠ none → second.id = row.id
  | .update _ _ => True
  | .ensure name _ draw => names.strip name ≠ "" →
      Alone names vendors call.1.organizationId (names.strip name) draw.first

instance : DecidablePred (TakesBackAlone names vendors)
  | (_, .create _ _ _) => inferInstanceAs (Decidable (Alone _ _ _ _ _ ∧
      ∀ row ∈ scalar _ _, ∀ second ∈ scalar _ _, second.archivedAt ≠ none → second.id = row.id))
  | (_, .update _ _) => inferInstanceAs (Decidable True)
  | (_, .ensure _ _ _) => inferInstanceAs (Decidable (_ → Alone _ _ _ _ _))

end Master

/-! ## Names -/

namespace Spelling

variable {names : Spelling} {name clean : String}

theorem known_strip : names.known (names.strip name) = names.known name := by
  rw [known, known, names.strip_strip]

theorem lower_trim_strip : names.lower (names.trim (names.strip name)) = names.known name := by
  rw [names.trim_strip, known]

theorem known_of_query (hclean : names.strip clean = clean)
    (h : names.lower (names.trim name) = names.lower clean) : names.known name = names.lower clean :=
  calc
    names.known name = names.lower (names.strip (names.trim name)) := by
      rw [known, names.strip_trim]
    _ = names.strip (names.lower (names.trim name)) := (names.strip_lower _).symm
    _ = names.strip (names.lower clean) := by rw [h]
    _ = names.lower (names.strip clean) := names.strip_lower clean
    _ = names.lower clean := by rw [hclean]

end Spelling

namespace Master

variable {names : Spelling} {vendors vendors' : Master} {organizationId : Id} {clean : String}
  {first : Id} {row : Supplier}

theorem inUse_eq_some {id : Id} {name : String} : row.inUse names = some (id, name) ↔
    row.archivedAt = none ∧ row.organizationId = id ∧ names.known row.name = name := by
  simp [Supplier.inUse]

theorem mem_named : row ∈ named names vendors organizationId clean ↔
    row ∈ vendors.rows ∧ row.organizationId = organizationId ∧
      names.lower (names.trim row.name) = names.lower clean := by
  simp [named]

theorem scalar_mem {rows : List Supplier} (h : scalar rows first = some row) :
    row ∈ rows := by
  rcases Option.or_eq_some_iff.1 h with hfind | ⟨-, hhead⟩
  · exact List.mem_of_find?_eq_some hfind
  · exact List.mem_of_head? hhead

theorem scalar_eq_none {rows : List Supplier} : scalar rows first = none ↔ rows = [] := by
  cases rows <;> simp [scalar]

theorem scalar_map {rows : List Supplier} {f : Supplier → Supplier}
    (hf : ∀ row, (f row).id = row.id) : scalar (rows.map f) first = (scalar rows first).map f := by
  simp [scalar, Function.comp_def, hf, Option.map_or]

theorem NamesApart.mem_named_iff (h : NamesApart names vendors) (hclean : names.strip clean = clean) :
    row ∈ named names vendors organizationId clean ∧ row.archivedAt = none ↔
      row ∈ vendors.rows ∧ row.inUse names = some (organizationId, names.lower clean) := by
  rw [mem_named, inUse_eq_some]
  constructor
  · rintro ⟨⟨hmem, horganization, hname⟩, harchived⟩
    exact ⟨hmem, harchived, horganization, Spelling.known_of_query hclean hname⟩
  · rintro ⟨hmem, harchived, horganization, hname⟩
    exact ⟨⟨hmem, horganization, (h.trimmed row hmem harchived).trans hname⟩, harchived⟩

/-! ## What becomes of the rows -/

/-- A vendor is written under a name: the one that was found, or a new one. -/
structure Takes (names : Spelling) (vendors vendors' : Master) (organizationId : Id) (clean : String)
    (first : Id) (row : Supplier) : Prop where
  written : vendors.Written vendors' row
  organization : row.organizationId = organizationId
  inForce : row.archivedAt = none
  name : names.lower (names.trim row.name) = names.lower clean
  same : ∀ old ∈ scalar (named names vendors organizationId clean) first, old.id = row.id
  fresh : scalar (named names vendors organizationId clean) first = none →
    ∀ other ∈ vendors.rows, other.id ≠ row.id

namespace Takes

theorem inUse_row (h : Takes names vendors vendors' organizationId clean first row)
    (hclean : names.strip clean = clean) :
    row.inUse names = some (organizationId, names.lower clean) :=
  inUse_eq_some.2 ⟨h.inForce, h.organization, Spelling.known_of_query hclean h.name⟩

/-- Vendors that were in use still are, under the same names. -/
theorem apart_of_apart
    (h : Takes names vendors vendors' organizationId clean first row)
    (hclean : names.strip clean = clean) (hafter : NamesApart names vendors') :
    NamesApart names vendors := by
  have hrows : ∀ other ∈ vendors.rows, other ∈ vendors'.rows ∨
      other.id = row.id ∧ other ∈ named names vendors organizationId clean := by
    intro other hother
    by_cases hid : other.id = row.id
    · cases hscalar : scalar (named names vendors organizationId clean) first with
      | none => exact absurd hid (h.fresh hscalar other hother)
      | some old =>
          have hold := scalar_mem hscalar
          have hsame : other = old := vendors.key_injective hother (mem_named.1 hold).1
            (hid.trans (h.same old hscalar).symm)
          exact .inr ⟨hid, hsame ▸ hold⟩
    · exact .inl ((h.written other).2 (.inl ⟨hother, hid⟩))
  refine ⟨hafter.unique.of_kept fun other hother value hvalue => ?_, fun other hother harchived => ?_⟩
  · rcases hrows other hother with hkept | ⟨hid, hnamed⟩
    · exact ⟨other, hkept, rfl, hvalue⟩
    · refine ⟨row, (h.written row).2 (.inr rfl), hid.symm, ?_⟩
      obtain ⟨-, horganization, hname⟩ := mem_named.1 hnamed
      obtain ⟨harchived, hid', hknown⟩ := inUse_eq_some.1 hvalue
      rw [h.inUse_row hclean, ← hvalue, inUse_eq_some.2 ⟨harchived, horganization,
        Spelling.known_of_query hclean hname⟩]
  · rcases hrows other hother with hkept | ⟨-, hnamed⟩
    · exact hafter.trimmed other hkept harchived
    · obtain ⟨-, -, hname⟩ := mem_named.1 hnamed
      rw [hname, Spelling.known_of_query hclean hname]

theorem apart_row_iff
    (h : Takes names vendors vendors' organizationId clean first row)
    (hclean : names.strip clean = clean) (hbefore : NamesApart names vendors) :
    vendors.Apart (Supplier.inUse names) row ↔ Alone names vendors organizationId clean first := by
  constructor
  · intro hapart old hold harchived other hother hinForce
    obtain ⟨hmem, hinUse⟩ := (hbefore.mem_named_iff hclean).1 ⟨hother, hinForce⟩
    have hid : other.id = row.id := by
      by_contra hne
      exact hapart other hmem hne _ (h.inUse_row hclean) hinUse
    have hsame : other = old := vendors.key_injective hmem (mem_named.1 (scalar_mem hold)).1
      (hid.trans (h.same old hold).symm)
    exact harchived (hsame ▸ hinForce)
  · intro halone other hmem hne value hvalue hinUse
    obtain rfl := Option.some.inj (hvalue.symm.trans (h.inUse_row hclean))
    obtain ⟨hnamed, hinForce⟩ := (hbefore.mem_named_iff hclean).2 ⟨hmem, hinUse⟩
    cases hscalar : scalar (named names vendors organizationId clean) first with
    | none =>
        rw [scalar_eq_none.1 hscalar] at hnamed
        cases hnamed
    | some old =>
        by_cases harchived : old.archivedAt = none
        · obtain ⟨hold, hinUse'⟩ := (hbefore.mem_named_iff hclean).1 ⟨scalar_mem hscalar, harchived⟩
          have hid := hbefore.unique other hmem old hold _ hinUse hinUse'
          exact hne (hid.trans (h.same old hscalar))
        · exact halone old hscalar harchived other hnamed hinForce

/-- The names are apart after it exactly if they were so before and the vendor is taken back
alone. -/
theorem apart_iff
    (h : Takes names vendors vendors' organizationId clean first row)
    (hclean : names.strip clean = clean) : NamesApart names vendors' ↔
      NamesApart names vendors ∧ Alone names vendors organizationId clean first := by
  constructor
  · intro hafter
    have hbefore := h.apart_of_apart hclean hafter
    have hapart := (hbefore.unique.written_iff h.written).1 hafter.unique
    exact ⟨hbefore, (h.apart_row_iff hclean hbefore).1 hapart⟩
  · rintro ⟨hbefore, halone⟩
    have hapart := (h.apart_row_iff hclean hbefore).2 halone
    refine ⟨(hbefore.unique.written_iff h.written).2 hapart, fun other hother harchived => ?_⟩
    rcases (h.written other).1 hother with ⟨hold, -⟩ | rfl
    · exact hbefore.trimmed other hold harchived
    · exact h.name.trans (Spelling.known_of_query hclean h.name).symm

end Takes

/-! ## Requests -/

theorem written_of_write {old : Supplier} (h : write vendors row = .ok vendors')
    (hmem : old ∈ vendors.rows) (hid : old.id = row.id) : vendors.Written vendors' row := by
  obtain ⟨-, h⟩ := ensure_bind_eq_ok.1 h
  obtain rfl := Except.ok.inj h
  exact Table.written_set (hid ▸ Table.find?_of_mem hmem)

theorem written_of_add (h : add vendors row = .ok vendors') :
    vendors.Written vendors' row ∧ ∀ other ∈ vendors.rows, other.id ≠ row.id := by
  obtain ⟨-, h⟩ := ensure_bind_eq_ok.1 h
  have hinsert := orError_eq_ok.1 h
  exact ⟨Table.written_insert hinsert, fun other hother => Table.insert?_fresh hinsert hother⟩

theorem ensureVendor_ok {caller : Caller} {name : String} {details : VendorDetails} {draw : Draw}
    (h : ensureVendor names vendors caller name details draw = .ok vendors')
    (hname : names.strip name ≠ "") :
    ∃ row, Takes names vendors vendors' caller.organizationId (names.strip name) draw.first row := by
  rw [ensureVendor, if_neg hname] at h
  cases hscalar : scalar (named names vendors caller.organizationId (names.strip name)) draw.first with
  | none =>
      rw [hscalar] at h
      obtain ⟨number, -, h⟩ := bind_eq_ok.1 h
      obtain ⟨hwritten, hfresh⟩ := written_of_add h
      refine ⟨_, hwritten, rfl, rfl, ?_, by simp [hscalar], fun _ => hfresh⟩
      rw [Spelling.lower_trim_strip, Spelling.known]
  | some old =>
      rw [hscalar] at h
      obtain ⟨number, -, h⟩ := bind_eq_ok.1 h
      obtain ⟨hmem, horganization, hold⟩ := mem_named.1 (scalar_mem hscalar)
      have hwritten := written_of_write h hmem rfl
      exact ⟨_, hwritten, horganization, rfl, hold, by simp [hscalar, restored], by simp [hscalar]⟩

theorem takeVendor_ok {caller : Caller} {data : VendorInput} {draw : Draw}
    {taken : Supplier × Master} (hdata : names.strip data.name = data.name)
    (h : takeVendor vendors caller data
      (scalar (named names vendors caller.organizationId data.name) draw.first) draw = .ok taken) :
    Takes names vendors taken.2 caller.organizationId data.name draw.first taken.1 ∧
      ∀ old ∈ scalar (named names vendors caller.organizationId data.name) draw.first,
        taken.2.rows = vendors.rows.map fun s => if s.id = taken.1.id then taken.1 else s := by
  have hname : names.lower (names.trim data.name) = names.lower data.name := by
    rw [← hdata, Spelling.lower_trim_strip, Spelling.known]
  cases hscalar : scalar (named names vendors caller.organizationId data.name) draw.first with
  | none =>
      rw [hscalar] at h
      obtain ⟨number, -, h⟩ := bind_eq_ok.1 h
      obtain ⟨between, hadd, h⟩ := bind_eq_ok.1 h
      obtain rfl := Except.ok.inj h
      obtain ⟨hwritten, hfresh⟩ := written_of_add hadd
      exact ⟨⟨hwritten, rfl, rfl, hname, by simp [hscalar], fun _ => hfresh⟩, by simp⟩
  | some old =>
      rw [hscalar] at h
      obtain ⟨between, hwrite, h⟩ := bind_eq_ok.1 h
      obtain rfl := Except.ok.inj h
      obtain ⟨hmem, horganization, -⟩ := mem_named.1 (scalar_mem hscalar)
      refine ⟨⟨written_of_write hwrite hmem rfl, horganization, rfl, hname,
        by simp [hscalar, recreated], by simp [hscalar]⟩, fun _ _ => ?_⟩
      obtain ⟨-, hwrite⟩ := ensure_bind_eq_ok.1 hwrite
      obtain rfl := Except.ok.inj hwrite
      rfl

theorem Takes.mem_named (h : Takes names vendors vendors' organizationId clean first row) :
    row ∈ named names vendors' organizationId clean :=
  Master.mem_named.2 ⟨(h.written row).2 (.inr rfl), h.organization, h.name⟩

/-- After a vendor was written, one is taken back alone exactly if it is not archived. -/
theorem Takes.alone_iff {second : Id}
    (h : Takes names vendors vendors' organizationId clean first row) :
    Alone names vendors' organizationId clean second ↔
      ∀ other ∈ scalar (named names vendors' organizationId clean) second, other.archivedAt = none := by
  constructor
  · intro halone other hother
    by_contra harchived
    exact halone other hother harchived row h.mem_named h.inForce
  · exact fun hinForce other hother harchived => absurd (hinForce other hother) harchived

/-- What is read by the name after a vendor was written that was found. -/
theorem Takes.scalar_eq {second : Id} {old : Supplier}
    (h : Takes names vendors vendors' organizationId clean first row)
    (hold : scalar (named names vendors organizationId clean) first = some old)
    (hrows : vendors'.rows = vendors.rows.map fun s => if s.id = row.id then row else s) :
    scalar (named names vendors' organizationId clean) second =
      (scalar (named names vendors organizationId clean) second).map
        fun s => if s.id = row.id then row else s := by
  have hnamed : named names vendors' organizationId clean =
      (named names vendors organizationId clean).map fun s => if s.id = row.id then row else s := by
    rw [named, hrows, List.filter_map]
    refine congrArg (List.map _) (List.filter_congr fun s hs => ?_)
    show decide _ = decide _
    refine decide_eq_decide.2 ?_
    dsimp only
    split
    · next hid =>
      have hsame : s = old := vendors.key_injective hs (Master.mem_named.1 (scalar_mem hold)).1
        (hid.trans (h.same old hold).symm)
      obtain ⟨-, hmatches⟩ := Master.mem_named.1 (scalar_mem hold)
      exact iff_of_true ⟨h.organization, h.name⟩ (hsame ▸ hmatches)
    · exact Iff.rfl
  rw [hnamed, scalar_map]
  intro s
  split
  · next hid => exact hid.symm
  · rfl

/-- A creation writes a vendor under its name, and names it then. -/
theorem createVendor_ok {caller : Caller} {body : VendorInput} {draw ensureDraw : Draw}
    (h : createVendor names vendors caller body draw ensureDraw = .ok vendors') :
    ∃ taken second, takeVendor vendors caller (body.data names)
        (scalar (named names vendors caller.organizationId (body.data names).name) draw.first) draw =
          .ok taken ∧
      Takes names taken.2 vendors' caller.organizationId (body.data names).name ensureDraw.first
        second := by
  obtain ⟨-, h⟩ := ensure_bind_eq_ok.1 h
  obtain ⟨hname, h⟩ := ensure_bind_eq_ok.1 h
  obtain ⟨_, -, h⟩ := bind_eq_ok.1 h
  obtain ⟨taken, htake, h⟩ := bind_eq_ok.1 h
  have hstrip : names.strip (body.data names).name = (body.data names).name := names.strip_strip _
  obtain ⟨second, hsecond⟩ := ensureVendor_ok h (hstrip.symm ▸ hname)
  exact ⟨taken, second, htake, hstrip ▸ hsecond⟩

/-- Where a creation reads the vendors of its name again, it takes back no other archived one. -/
theorem alone_again_iff {caller : Caller} {data : VendorInput} {draw : Draw} {second : Id}
    {taken : Supplier × Master} (hdata : names.strip data.name = data.name)
    (h : takeVendor vendors caller data
      (scalar (named names vendors caller.organizationId data.name) draw.first) draw = .ok taken) :
    Alone names taken.2 caller.organizationId data.name second ↔
      ∀ row ∈ scalar (named names vendors caller.organizationId data.name) draw.first,
        ∀ other ∈ scalar (named names vendors caller.organizationId data.name) second,
          other.archivedAt ≠ none → other.id = row.id := by
  obtain ⟨htakes, hrows⟩ := takeVendor_ok hdata h
  rw [htakes.alone_iff]
  cases hscalar : scalar (named names vendors caller.organizationId data.name) draw.first with
  | none =>
      refine iff_of_true (fun other hother => ?_) (by simp)
      obtain ⟨hmem, hmatches⟩ := mem_named.1 (scalar_mem hother)
      rcases (htakes.written other).1 hmem with ⟨hold, -⟩ | rfl
      · have hnamed := mem_named.2 ⟨hold, hmatches⟩
        rw [scalar_eq_none.1 hscalar] at hnamed
        cases hnamed
      · exact htakes.inForce
  | some old =>
      have hid := htakes.same old hscalar
      rw [htakes.scalar_eq hscalar (hrows old hscalar)]
      cases hagain : scalar (named names vendors caller.organizationId data.name) second with
      | none => simp
      | some other =>
          have hinForce := htakes.inForce
          by_cases hsame : other.id = taken.1.id <;> simp [hsame, hid, hinForce]

/-- What an update writes has the name of no other vendor in use. -/
theorem updateVendor_apart {caller : Caller} {vendorId : Id} {body : VendorInput}
    (hapart : NamesApart names vendors)
    (h : updateVendor names vendors caller vendorId body = .ok vendors') :
    NamesApart names vendors' := by
  obtain ⟨-, h⟩ := ensure_bind_eq_ok.1 h
  obtain ⟨old, hfind, h⟩ := orError_bind_eq_ok.1 h
  obtain ⟨-, h⟩ := ensure_bind_eq_ok.1 h
  obtain ⟨hduplicate, h⟩ := ensure_bind_eq_ok.1 h
  obtain ⟨_, -, h⟩ := bind_eq_ok.1 h
  obtain ⟨hfind, hvisible⟩ := Option.filter_eq_some_iff.1 hfind
  obtain ⟨horganization, harchived⟩ := of_decide_eq_true hvisible
  have hdata : names.strip (body.data names).name = (body.data names).name := names.strip_strip _
  have hwritten := written_of_write h (Table.mem_of_find? hfind) rfl
  have hrow : names.lower (names.trim (body.data names).name) = names.known (body.data names).name := by
    rw [← hdata, Spelling.lower_trim_strip, Spelling.known_strip]
  refine ⟨(hapart.unique.written_iff hwritten).2 fun other hother hne value hvalue hinUse => ?_,
    fun other hother hinForce => ?_⟩
  · obtain ⟨hinForce, hid, hname⟩ := inUse_eq_some.1 hinUse
    obtain ⟨-, hid', hname'⟩ := inUse_eq_some.1 hvalue
    refine hduplicate other (mem_named.2 ⟨hother, ?_, ?_⟩) hne hinForce
    · exact hid.trans (hid'.symm.trans horganization)
    · rw [hapart.trimmed other hother hinForce, hname, ← hname', Spelling.known, hdata]
  · rcases (hwritten other).1 hother with ⟨hold, -⟩ | rfl
    · exact hapart.trimmed other hold hinForce
    · exact hrow

/-- A request that is accepted keeps the names apart exactly if it takes back an archived vendor
only where no other one has its name. -/
theorem serve_apart_iff (hapart : NamesApart names vendors) {call : Caller × VendorRequest}
    (h : serve names vendors call = .ok vendors') :
    NamesApart names vendors' ↔ TakesBackAlone names vendors call := by
  obtain ⟨caller, request⟩ := call
  cases request with
  | create body draw ensureDraw =>
      have hdata : names.strip (body.data names).name = (body.data names).name :=
        names.strip_strip _
      obtain ⟨taken, second, htake, hsecond⟩ := createVendor_ok h
      obtain ⟨hfirst, -⟩ := takeVendor_ok hdata htake
      rw [hsecond.apart_iff hdata, hfirst.apart_iff hdata, alone_again_iff hdata htake]
      exact and_congr_left' (and_iff_right hapart)
  | update vendorId body => exact iff_of_true (updateVendor_apart hapart h) trivial
  | ensure name details draw =>
      by_cases hname : names.strip name = ""
      · have hsame : ensureVendor names vendors caller name details draw = .ok vendors := if_pos hname
        obtain rfl := Except.ok.inj (hsame.symm.trans h)
        exact iff_of_true hapart fun hne => absurd hname hne
      · obtain ⟨row, htakes⟩ := ensureVendor_ok h hname
        rw [htakes.apart_iff (names.strip_strip name)]
        exact ⟨fun hafter _ => hafter.2, fun halone => ⟨hapart, halone hname⟩⟩

end Master

namespace Sample

/-- Names without blanks around them; one of them has a capital. -/
def spelling : Spelling where
  strip := id
  lower name := if name = "Acme" then "acme" else name
  trim := id
  strip_strip _ := rfl
  strip_trim _ := rfl
  trim_strip _ := rfl
  strip_lower _ := rfl

def supplier (id : Id) (name number : String) (archivedAt : Option Instant) : Supplier :=
  ⟨id, 1, name, some number, none, none, none, none, archivedAt.isNone, archivedAt, none, none⟩

def former : Master := .single (supplier 10 "Acme" "SUP-000001" (some 50))

def accountant : Caller := ⟨7, 1, true⟩

def draw (first newId : Id) (number : String) : Draw := ⟨first, newId, number⟩

/-- An expense names the archived vendor, and Finance creates it again. -/
def backInUse : List (Caller × VendorRequest) :=
  [(accountant, .ensure "acme" {} (draw 10 11 "SUP-000002")),
    (accountant, .create { name := "acme" } (draw 10 12 "SUP-000003") (draw 10 13 "SUP-000004"))]

end Sample

end Cestos.Vendors
