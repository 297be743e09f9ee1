import Cestos.Core.Runs
import Cestos.Core.Table
import Cestos.Employees.Contacts

/-!
# Primary contacts

Nobody has two primary contacts and every primary contact is active, as long as no request makes an
archived contact primary.
-/

namespace Cestos.Employees

open Cestos.Core

/-- Neither inactive nor archived. -/
def EmployeeEmergencyContact.Active (contact : EmployeeEmergencyContact) : Prop :=
  contact.isActive = true ∧ contact.archivedAt = none

instance : DecidablePred EmployeeEmergencyContact.Active :=
  fun _ => inferInstanceAs (Decidable (_ ∧ _))

/-- Whose primary contact it is. -/
def EmployeeEmergencyContact.primaryOf (contact : EmployeeEmergencyContact) : Option Id :=
  if contact.isPrimary then some contact.employeeId else none

theorem primaryOf_eq_some {contact : EmployeeEmergencyContact} {employeeId : Id} :
    contact.primaryOf = some employeeId ↔
      contact.isPrimary = true ∧ contact.employeeId = employeeId := by
  simp [EmployeeEmergencyContact.primaryOf]

namespace ContactBook

/-- Nobody has two primary contacts, and every primary contact is active. -/
structure PrimarySound (book : ContactBook) : Prop where
  unique : book.contacts.UniqueOn EmployeeEmergencyContact.primaryOf
  active : ∀ contact ∈ book.contacts.rows, contact.isPrimary = true → contact.Active

instance (book : ContactBook) : Decidable book.PrimarySound :=
  decidable_of_iff (book.contacts.UniqueOn EmployeeEmergencyContact.primaryOf ∧
      ∀ contact ∈ book.contacts.rows, contact.isPrimary = true → contact.Active)
    ⟨fun h => ⟨h.1, h.2⟩, fun h => ⟨h.unique, h.active⟩⟩

/-- A contact is made primary only while it is active. -/
def MarksActive (book : ContactBook) (call : Requester × ContactRequest) : Prop :=
  match call.2 with
  | .setPrimary contactId => ∀ contact ∈ (book.getOr404 call.1 contactId).toOption, contact.Active
  | .update contactId body => body.isPrimary = some (some true) →
      ∀ contact ∈ (book.getOr404 call.1 contactId).toOption, contact.Active
  | .create _ _ _ | .archive _ => True

instance (book : ContactBook) : DecidablePred book.MarksActive
  | (_, .setPrimary _) => inferInstanceAs (Decidable (∀ contact ∈ _, EmployeeEmergencyContact.Active contact))
  | (_, .update _ _) => inferInstanceAs
    (Decidable (_ → ∀ contact ∈ _, EmployeeEmergencyContact.Active contact))
  | (_, .create _ _ _) | (_, .archive _) => inferInstanceAs (Decidable True)

/-- The contacts are in the organizations of their employees. -/
def Homed (book : ContactBook) : Prop :=
  ∀ contact ∈ book.contacts.rows, ∃ employee ∈ book.people.employees.find? contact.employeeId,
    employee.organizationId = contact.organizationId

end ContactBook

variable {book book' : ContactBook} {caller : Requester} {contact : EmployeeEmergencyContact}

/-- The contact belongs to the organization of the request, which is that of its employee, and the
request is shown the contacts of the employee. -/
structure ContactBook.Owns (book : ContactBook) (caller : Requester)
    (contact : EmployeeEmergencyContact) : Prop where
  organization : contact.organizationId = caller.actor.organizationId
  sees : caller.Sees book.people contact.employeeId
  home : ∃ employee ∈ book.people.employees.find? contact.employeeId,
    employee.organizationId = contact.organizationId

theorem ContactBook.Homed.owns (h : book.Homed) {contactId : Id}
    (hget : book.getOr404 caller contactId = .ok contact) :
    book.contacts.find? contactId = some contact ∧ book.Owns caller contact := by
  obtain ⟨hfind, hvisible⟩ := Option.filter_eq_some_iff.1 (orError_eq_ok.1 hget)
  obtain ⟨horganization, hsees⟩ := of_decide_eq_true hvisible
  exact ⟨hfind, horganization, hsees, h contact (Table.mem_of_find? hfind)⟩

/-- All primary contacts of the employee but the one that is marked yield. -/
theorem ContactBook.Homed.rivals (h : book.Homed) (hown : book.Owns caller contact)
    {other : EmployeeEmergencyContact} (hmem : other ∈ book.contacts.rows)
    (hemployee : other.employeeId = contact.employeeId) (hne : other.id ≠ contact.id)
    (hprimary : other.isPrimary = true) : book.Rivals caller contact other := by
  obtain ⟨employee, hfind, horganization⟩ := hown.home
  obtain ⟨employee', hfind', horganization'⟩ := h other hmem
  rw [hemployee, hfind] at hfind'
  obtain rfl := Option.some.inj hfind'
  refine ⟨?_, hemployee ▸ hown.sees, hemployee, hne, hprimary⟩
  rw [← horganization', horganization, hown.organization]

/-- What becomes of the rows when one is written, and takes the flag from the others if it is
`primary`. -/
structure ContactBook.Written (book book' : ContactBook) (contact : EmployeeEmergencyContact) :
    Prop where
  people : book'.people = book.people
  rows : ∀ other, other ∈ book'.contacts.rows ↔
    other ∈ book.contacts.rows ∧ other.id ≠ contact.id ∨ other = contact

theorem ContactBook.written_set (contact : EmployeeEmergencyContact)
    {old : EmployeeEmergencyContact}
    (hfind : book.contacts.find? contact.id = some old) :
    book.Written (book.write contact) contact :=
  ⟨rfl, Table.written_set hfind⟩

theorem ContactBook.written_insert {contacts : Table EmployeeEmergencyContact.id}
    (hinsert : book.contacts.insert? contact = some contacts) :
    book.Written { book with contacts } contact :=
  ⟨rfl, Table.written_insert hinsert⟩

namespace ContactBook.Written

theorem homed (h : book.Written book' contact) (hhomed : book.Homed)
    (hown : book.Owns caller contact) : book'.Homed := by
  intro other hother
  rw [h.people]
  rcases (h.rows other).1 hother with ⟨hmem, -⟩ | rfl
  · exact hhomed other hmem
  · exact hown.home

theorem owns (h : book.Written book' contact) (hown : book.Owns caller contact) :
    book'.Owns caller contact := by
  obtain ⟨horganization, hsees, hhome⟩ := hown
  exact ⟨horganization, h.people ▸ hsees, h.people ▸ hhome⟩

/-- The row is as it should be, and primary only if it was so before. -/
theorem kept (h : book.Written book' contact) (hsound : book.PrimarySound)
    (hactive : contact.isPrimary = true → contact.Active)
    (hbefore : contact.isPrimary = true → ∃ old ∈ book.contacts.rows, old.id = contact.id ∧
      old.isPrimary = true ∧ old.employeeId = contact.employeeId) : book'.PrimarySound := by
  refine ⟨hsound.unique.of_kept fun other hother employeeId hprimary => ?_, fun other hother => ?_⟩
  · rcases (h.rows other).1 hother with ⟨hmem, -⟩ | rfl
    · exact ⟨other, hmem, rfl, hprimary⟩
    · obtain ⟨hflag, hemployee⟩ := primaryOf_eq_some.1 hprimary
      obtain ⟨old, hold, hid, hflag', hemployee'⟩ := hbefore hflag
      exact ⟨old, hold, hid, primaryOf_eq_some.2 ⟨hflag', hemployee'.trans hemployee⟩⟩
  · rcases (h.rows other).1 hother with ⟨hmem, -⟩ | rfl
    · exact hsound.active other hmem
    · exact hactive

theorem taken (h : book.Written book' contact) (hsound : book.PrimarySound) (hhomed : book.Homed)
    (hown : book.Owns caller contact) (hactive : contact.Active) :
    (book'.exclusivePrimary caller contact).PrimarySound := by
  have hrow : ∀ other ∈ (book'.exclusivePrimary caller contact).contacts.rows,
      other.isPrimary = true →
        (other ∈ book.contacts.rows ∧ other.employeeId ≠ contact.employeeId) ∨ other = contact := by
    intro other hother hflag
    obtain ⟨row, hrow, rfl⟩ := List.mem_map.1 hother
    by_cases hrival : book'.Rivals caller contact row
    · simp [yielding, hrival] at hflag
    · rw [yielding, if_neg hrival] at hflag ⊢
      refine ((h.rows row).1 hrow).imp_left fun ⟨hmem, hne⟩ => ⟨hmem, fun hemployee => ?_⟩
      exact hrival ((h.homed hhomed hown).rivals (h.owns hown) hrow hemployee hne hflag)
  refine ⟨hsound.unique.of_taken contact.id contact.employeeId
    fun other hother employeeId hprimary => ?_, fun other hother hflag => ?_⟩
  · obtain ⟨hflag, rfl⟩ := primaryOf_eq_some.1 hprimary
    rcases hrow other hother hflag with ⟨hmem, hne⟩ | rfl
    · exact .inr ⟨hne, other, hmem, rfl, hprimary⟩
    · exact .inl ⟨rfl, rfl⟩
  · rcases hrow other hother hflag with ⟨hmem, -⟩ | rfl
    · exact hsound.active other hmem hflag
    · exact hactive

/-- The row stays as it was written when it takes the flag from the others. -/
theorem mem_exclusive (h : book.Written book' contact) :
    contact ∈ (book'.exclusivePrimary caller contact).contacts.rows := by
  refine List.mem_map.2 ⟨contact, (h.rows contact).2 (.inr rfl), if_neg ?_⟩
  rintro ⟨-, -, -, hne, -⟩
  exact hne rfl

theorem settle_homed (h : book.Written book' contact) (hhomed : book.Homed)
    (hown : book.Owns caller contact) (primary : Bool) :
    (book'.settle caller contact primary).Homed := by
  cases primary with
  | false => exact h.homed hhomed hown
  | true =>
      intro other hother
      obtain ⟨row, hrow, rfl⟩ := List.mem_map.1 hother
      have hhome := h.homed hhomed hown row hrow
      unfold yielding
      split <;> exact hhome

theorem settle (h : book.Written book' contact) (hsound : book.PrimarySound)
    (hhomed : book.Homed) (hown : book.Owns caller contact) {primary : Bool}
    (htakes : primary = true → contact.Active)
    (hkeeps : primary = false → contact.isPrimary = true → contact.Active ∧
      ∃ old ∈ book.contacts.rows, old.id = contact.id ∧ old.isPrimary = true ∧
        old.employeeId = contact.employeeId) :
    (book'.settle caller contact primary).PrimarySound := by
  cases primary with
  | false => exact h.kept hsound (fun hflag => (hkeeps rfl hflag).1) fun hflag => (hkeeps rfl hflag).2
  | true => exact h.taken hsound hhomed hown (htakes rfl)

end ContactBook.Written

/-! ## Requests and what they keep -/

/-- What an update leaves as it is, and what it makes of the flag. -/
theorem EmergencyContactUpdate.apply_spec {body : EmergencyContactUpdate}
    {old : EmployeeEmergencyContact} (h : body.apply caller old = .ok contact) :
    contact.id = old.id ∧ contact.organizationId = old.organizationId ∧
      contact.employeeId = old.employeeId ∧ (contact.Active ↔ old.Active) ∧
      contact.isPrimary = body.isPrimary.join.getD old.isPrimary := by
  obtain ⟨_, -, h⟩ := bind_eq_ok.1 h
  obtain ⟨_, -, h⟩ := bind_eq_ok.1 h
  obtain ⟨_, -, h⟩ := bind_eq_ok.1 h
  obtain ⟨isPrimary, hprimary, h⟩ := bind_eq_ok.1 h
  obtain rfl := Except.ok.inj h
  exact ⟨rfl, rfl, rfl, Iff.rfl, (required_eq_ok hprimary).symm⟩

namespace ContactBook

theorem Owns.of_same {old : EmployeeEmergencyContact} (h : book.Owns caller old)
    (horganization : contact.organizationId = old.organizationId)
    (hemployee : contact.employeeId = old.employeeId) : book.Owns caller contact := by
  refine ⟨horganization.trans h.organization, hemployee ▸ h.sees, ?_⟩
  rw [hemployee, horganization]
  exact h.home

/-- A request that is accepted writes one row, which may take the flag from others. -/
theorem serve_spec (hhomed : book.Homed) {call : Requester × ContactRequest}
    (h : book.serve call = .ok book') : ∃ contact written primary,
      book.Written written contact ∧ book.Owns call.1 contact ∧
      book' = written.settle call.1 contact primary ∧
      (primary = true → contact.isPrimary = true ∧ (book.MarksActive call ↔ contact.Active)) ∧
      (primary = false → book.MarksActive call ∧ (contact.isPrimary = true →
        ∃ old, book.contacts.find? contact.id = some old ∧ old.isPrimary = true ∧
          old.employeeId = contact.employeeId ∧ (contact.Active ↔ old.Active))) := by
  obtain ⟨caller, request⟩ := call
  cases request with
  | create employeeId body contactId =>
      obtain ⟨employee, hemployee, h⟩ := bind_eq_ok.1 h
      obtain ⟨_, -, h⟩ := bind_eq_ok.1 h
      obtain ⟨contacts, hinsert, h⟩ := orError_bind_eq_ok.1 h
      obtain ⟨hfind, hvisible⟩ := Option.filter_eq_some_iff.1 (orError_eq_ok.1 hemployee)
      obtain ⟨horganization, hsees⟩ := of_decide_eq_true hvisible
      have hid : employee.id = employeeId := Table.key_of_find? hfind
      refine ⟨_, _, _, written_insert hinsert, ⟨rfl, hid ▸ hsees, employee, hfind, horganization⟩,
        (Except.ok.inj h).symm, fun hprimary => ⟨hprimary, iff_of_true trivial ⟨rfl, rfl⟩⟩,
        fun hprimary => ⟨trivial, fun hflag => ?_⟩⟩
      exact absurd (hprimary.symm.trans hflag) Bool.false_ne_true
  | update contactId body =>
      obtain ⟨old, hget, h⟩ := bind_eq_ok.1 h
      obtain ⟨_, -, h⟩ := bind_eq_ok.1 h
      obtain ⟨contact, happly, h⟩ := bind_eq_ok.1 h
      obtain ⟨hfind, hown⟩ := hhomed.owns hget
      obtain ⟨hid, horganization, hemployee, hactive, hprimary⟩ := body.apply_spec happly
      have hkey : contact.id = contactId := hid.trans (Table.key_of_find? hfind)
      refine ⟨contact, _, _, written_set _ (hkey ▸ hfind), hown.of_same horganization hemployee,
        (Except.ok.inj h).symm, fun hgiven => ?_, fun hgiven => ?_⟩
      · have hbody := of_decide_eq_true hgiven
        rw [hbody] at hprimary
        refine ⟨hprimary, ?_⟩
        simp [MarksActive, hbody, hget, Except.toOption, hactive]
      · have hbody := of_decide_eq_false hgiven
        refine ⟨fun h => absurd h hbody, fun hflag => ⟨old, hkey ▸ hfind, ?_, hemployee.symm, hactive⟩⟩
        rw [hflag] at hprimary
        cases hgiven' : body.isPrimary.join with
        | none => simpa [hgiven'] using hprimary.symm
        | some value =>
            rw [hgiven', Option.getD_some] at hprimary
            exact absurd (hprimary ▸ Option.join_eq_some_iff.1 hgiven') hbody
  | setPrimary contactId =>
      obtain ⟨old, hget, h⟩ := bind_eq_ok.1 h
      obtain ⟨hfind, hown⟩ := hhomed.owns hget
      have hkey : old.id = contactId := Table.key_of_find? hfind
      refine ⟨_, _, _, written_set { old with
        isPrimary := true, updatedById := caller.actor.id, updatedAt := caller.now } (hkey ▸ hfind), hown.of_same rfl rfl, (Except.ok.inj h).symm, fun _ => ⟨rfl, ?_⟩,
        fun hfalse => absurd hfalse.symm Bool.false_ne_true⟩
      simp [MarksActive, hget, Except.toOption, EmployeeEmergencyContact.Active]
  | archive contactId =>
      obtain ⟨old, hget, h⟩ := bind_eq_ok.1 h
      obtain ⟨-, h⟩ := ensure_bind_eq_ok.1 h
      obtain ⟨hfind, hown⟩ := hhomed.owns hget
      have hkey : old.id = contactId := Table.key_of_find? hfind
      refine ⟨_, _, false, written_set { old with
        isActive := false, archivedAt := some caller.now, isPrimary := false,
        updatedById := caller.actor.id, updatedAt := caller.now } (hkey ▸ hfind),
        hown.of_same rfl rfl, (Except.ok.inj h).symm, fun hfalse => absurd hfalse Bool.false_ne_true,
        fun _ => ⟨trivial, fun hflag => absurd hflag Bool.false_ne_true⟩⟩

theorem serve_homed (hhomed : book.Homed) {call : Requester × ContactRequest}
    (h : book.serve call = .ok book') : book'.Homed := by
  obtain ⟨contact, written, primary, hwritten, hown, rfl, -, -⟩ := serve_spec hhomed h
  exact hwritten.settle_homed hhomed hown primary

/-- A request that is accepted keeps the primary contacts as they should be exactly if it marks
none that is not active. -/
theorem serve_sound_iff (hsound : book.PrimarySound) (hhomed : book.Homed)
    {call : Requester × ContactRequest} (h : book.serve call = .ok book') :
    book'.PrimarySound ↔ book.MarksActive call := by
  obtain ⟨contact, written, primary, hwritten, hown, rfl, hmarks, hkeeps⟩ := serve_spec hhomed h
  cases primary with
  | false =>
      refine iff_of_true (hwritten.settle hsound hhomed hown (by simp) fun _ hflag => ?_)
        (hkeeps rfl).1
      obtain ⟨old, hfind, hprimary, hemployee, hactive⟩ := (hkeeps rfl).2 hflag
      have hold := Table.mem_of_find? hfind
      exact ⟨hactive.2 (hsound.active old hold hprimary), old, hold, Table.key_of_find? hfind,
        hprimary, hemployee⟩
  | true =>
      obtain ⟨hprimary, hactive⟩ := hmarks rfl
      rw [hactive]
      constructor
      · exact fun hafter => hafter.active contact hwritten.mem_exclusive hprimary
      · exact fun hactive => hwritten.settle hsound hhomed hown (fun _ => hactive) (by simp)

end ContactBook

/-- As long as no contact is made primary that is archived, nobody has two primary contacts and
all primary contacts are active; the next request that is accepted keeps it so exactly if it does
not make an archived contact primary. -/
theorem primary_contacts_active {book : ContactBook} {calls : List (Requester × ContactRequest)}
    (hempty : book.contacts.rows = [])
    (h : Meets (settled ContactBook.serve) ContactBook.MarksActive book calls) :
    (calls.foldl (settled ContactBook.serve) book).PrimarySound ∧
      ∀ call book', (calls.foldl (settled ContactBook.serve) book).serve call = .ok book' →
        (book'.PrimarySound ↔
          (calls.foldl (settled ContactBook.serve) book).MarksActive call) := by
  have hruns : ∀ book : ContactBook, ∀ call, book.PrimarySound ∧ book.Homed →
      book.MarksActive call →
      (settled ContactBook.serve book call).PrimarySound ∧
        (settled ContactBook.serve book call).Homed := by
    rintro book call ⟨hsound, hhomed⟩ hmarks
    exact settled_keeps (P := fun book : ContactBook => book.PrimarySound ∧ book.Homed)
      ⟨hsound, hhomed⟩ fun book' hserve =>
        ⟨(ContactBook.serve_sound_iff hsound hhomed hserve).2 hmarks,
          ContactBook.serve_homed hhomed hserve⟩
  have hfirst : book.PrimarySound ∧ book.Homed := by
    refine ⟨⟨?_, ?_⟩, ?_⟩ <;> simp [Table.UniqueOn, ContactBook.Homed, hempty]
  obtain ⟨hsound, hhomed⟩ := h.keeps hruns hfirst
  exact ⟨hsound, fun call book' hserve => ContactBook.serve_sound_iff hsound hhomed hserve⟩

/-! ## A contact that is replaced, and one that is archived -/

namespace Sample

/-- An employee without contacts. -/
def alone : ContactBook where
  people := {
    employees := .single ⟨3, 1, none, none, true, none⟩
    projects := .empty
    locations := .empty
    positions := .empty
    rotationPatterns := .empty
    assignments := .empty
    leaves := .empty }
  familyMembers := .empty
  contacts := .empty

def clerk : Requester := ⟨⟨7, 1, false⟩, 99, 99, false, id⟩

def named (name : String) (isPrimary : Bool) : EmergencyContactCreate :=
  { fullName := name, primaryPhone := "555", isPrimary }

/-- The second contact is made primary, and then archived. -/
def replaced : List (Requester × ContactRequest) :=
  [(clerk, .create 3 (named "Ann" true) 10), (clerk, .create 3 (named "Ben" false) 11),
    (clerk, .setPrimary 11), (clerk, .archive 11)]

end Sample

/-- The first contact loses the flag to the second, which loses it when it is archived. -/
theorem primary_contacts_active_replaced :
    ((Sample.replaced.foldl (settled ContactBook.serve) Sample.alone).contacts.rows.map fun c =>
        (c.isPrimary, c.isActive)) = [(false, true), (false, false)] ∧
      (Sample.replaced.foldl (settled ContactBook.serve) Sample.alone).PrimarySound :=
  ⟨by decide +kernel, (primary_contacts_active rfl (by decide +kernel)).1⟩

/-- A contact that is archived is made primary, and the first contact loses the flag to it. -/
theorem primary_contacts_active_broken : ¬ ∀ (book : ContactBook)
    (calls : List (Requester × ContactRequest)), book.contacts.rows = [] →
      (calls.foldl (settled ContactBook.serve) book).PrimarySound := by
  intro h
  exact absurd (h Sample.alone [(Sample.clerk, .create 3 (Sample.named "Ann" true) 10),
    (Sample.clerk, .create 3 (Sample.named "Ben" false) 11), (Sample.clerk, .archive 11),
    (Sample.clerk, .setPrimary 11)] rfl) (by decide +kernel)

end Cestos.Employees
