import Cestos.Employees.Profiles

/-!
# Links stay

A profile that is linked to an account stays linked to it. Profiles are linked where they have no
account yet, with one exception: the creation of a user gives the account to the profile with its
e-mail, whether the profile has another account or not.
-/

namespace Cestos.Employees

open Cestos.Core

variable {text : EmailText} {first : FirstRow Profile} {d d' : Directory text}
  {users users' : Table User.id} {profiles : Table fun profile : Profile => profile.id}
  {caller : Caller} {employee : Profile} {uuid : Id}

/-! ## What the database enforces -/

theorem Constraints.insertUser (h : Constraints text users profiles) {user : User}
    (hins : users.insert? user = some users')
    (hemail : ∀ other ∈ users.rows, other.organizationId = user.organizationId →
      other.email ≠ user.email)
    (hlower : user.email = text.databaseLower user.email) :
    Constraints text users' profiles where
  emails := h.emails.insert (by
    intro other hother _ v hv heq
    obtain rfl := Option.some.inj hv
    obtain ⟨horganization, hsame⟩ := Prod.mk.inj (Option.some.inj heq)
    exact hemail other hother horganization hsame) hins
  lowerEmails other hother := by
    rcases (Table.mem_insert? hins).1 hother with hold | rfl
    · exact h.lowerEmails other hold
    · exact hlower
  workEmails := h.workEmails
  lowerWorkEmails := h.lowerWorkEmails
  links := h.links
  accounts profile hprofile account haccount := by
    obtain ⟨user', huser'⟩ :=
      Option.ne_none_iff_exists'.1 (h.accounts profile hprofile account haccount)
    rw [Table.find?_insert?_of_find? hins huser']
    exact Option.some_ne_none user'

theorem Constraints.setProfile (h : Constraints text users profiles) {row : Profile}
    (hwork : ∀ other ∈ profiles.rows, other.id ≠ row.id →
      other.organizationId = row.organizationId → ∀ email ∈ row.workEmail,
        other.workEmail ≠ some email)
    (hlower : ∀ email ∈ row.workEmail, email = text.databaseLower email)
    (hlink : ∀ other ∈ profiles.rows, ∀ account ∈ row.userId, other.userId ≠ some account)
    (haccount : ∀ account ∈ row.userId, users.find? account ≠ none) :
    Constraints text users (profiles.set row) where
  emails := h.emails
  lowerEmails := h.lowerEmails
  workEmails := h.workEmails.set (by
    intro other hother hne v hv heq
    obtain ⟨email, hemail, rfl⟩ := Option.map_eq_some_iff.1 hv
    obtain ⟨email', hemail', hpair⟩ := Option.map_eq_some_iff.1 heq
    obtain ⟨horganization, rfl⟩ := Prod.mk.inj hpair
    exact hwork other hother hne horganization email' hemail hemail')
  lowerWorkEmails profile hprofile := by
    rcases Table.mem_set.1 hprofile with ⟨hold, -⟩ | ⟨rfl, -⟩
    · exact h.lowerWorkEmails profile hold
    · exact hlower
  links := h.links.set fun other hother _ account haccount' =>
    hlink other hother account haccount'
  accounts profile hprofile := by
    rcases Table.mem_set.1 hprofile with ⟨hold, -⟩ | ⟨rfl, -⟩
    · exact h.accounts profile hold
    · exact haccount

/-! ## Whose account changes -/

namespace Directory

theorem write_eq_ok : d.write users profiles = .ok d' ↔ ∃ h : Constraints text users profiles,
    d' = ⟨users, profiles, d.departments, d.positions, d.locations, d.assignments, h⟩ := by
  unfold write
  split
  · next h => simp [h, eq_comm]
  · next h => simp [h]

theorem write_profiles (h : d.write users profiles = .ok d') : d'.profiles = profiles := by
  obtain ⟨-, rfl⟩ := write_eq_ok.1 h
  rfl

theorem account?_of_mem (h : employee ∈ d.profiles.rows) :
    d.account? employee.id = employee.userId := by
  rw [account?, Table.find?_of_mem h, Option.bind_some]

theorem account?_injective {id other account : Id} (h : d.account? id = some account)
    (hother : d.account? other = some account) : other = id := by
  obtain ⟨profile, hfind, hprofile⟩ := Option.bind_eq_some_iff.1 h
  obtain ⟨profile', hfind', hprofile'⟩ := Option.bind_eq_some_iff.1 hother
  rw [← Table.key_of_find? hfind, ← Table.key_of_find? hfind']
  exact d.constraints.links profile' (Table.mem_of_find? hfind') profile (Table.mem_of_find? hfind)
    account hprofile' hprofile

theorem find?_account {id account : Id} (h : d.account? id = some account) :
    d.users.find? account ≠ none := by
  obtain ⟨profile, hfind, hprofile⟩ := Option.bind_eq_some_iff.1 h
  exact d.constraints.accounts profile (Table.mem_of_find? hfind) account hprofile

/-- The profiles that are linked stay linked. -/
def Keeps (d d' : Directory text) : Prop :=
  ∀ id account, d.account? id = some account → d'.account? id = some account

/-- No other profile than `id` is linked or loses its link. -/
def Only (id : Id) (d d' : Directory text) : Prop := ∀ k, k ≠ id → d'.account? k = d.account? k

theorem Keeps.refl (d : Directory text) : d.Keeps d := fun _ _ => id

theorem Keeps.trans {d'' : Directory text} (h : d.Keeps d') (h' : d'.Keeps d'') : d.Keeps d'' :=
  fun id account haccount => h' id account (h id account haccount)

theorem Only.trans {d'' : Directory text} {id : Id} (h : Only id d d') (h' : Only id d' d'') :
    Only id d d'' := fun k hk => (h' k hk).trans (h k hk)

theorem only_of_eq {id : Id} (h : d'.profiles = d.profiles) : Only id d d' := fun k _ => by
  rw [account?, h, account?]

theorem only_set {row : Profile} {id : Id} (h : d'.profiles = d.profiles.set row)
    (hid : row.id = id) : Only id d d' := fun k hk => by
  have hfind : (d.profiles.set row).find? k = d.profiles.find? k :=
    Table.find?_set_ne fun heq => hk (heq.symm.trans hid)
  rw [account?, h, hfind, account?]

theorem Only.keeps {id : Id} (h : Only id d d') (hnone : d.account? id = none) : d.Keeps d' := by
  intro k account haccount
  have hne : k ≠ id := by
    rintro rfl
    simp [hnone] at haccount
  exact (h k hne).trans haccount

/-! ## The requests -/

theorem accountFor_profiles {email : String} {account : Id}
    (h : d.accountFor caller employee email uuid = .ok (d', account)) :
    d'.profiles = d.profiles := by
  unfold accountFor at h
  split at h
  · simp only [bind_eq_ok] at h
    obtain ⟨-, -, written, hwrite, -, -, heq⟩ := h
    obtain ⟨rfl, -⟩ := Prod.mk.inj (Except.ok.inj heq)
    exact write_profiles hwrite
  · simp only [bind_eq_ok] at h
    obtain ⟨users, -, written, hwrite, heq⟩ := h
    obtain ⟨rfl, -⟩ := Prod.mk.inj (Except.ok.inj heq)
    exact write_profiles hwrite

theorem linkAccount_only (h : d.linkAccount caller employee uuid = .ok d') :
    Only employee.id d d' := by
  unfold linkAccount at h
  split at h
  · obtain rfl := Except.ok.inj h
    exact only_of_eq rfl
  · simp only [bind_eq_ok] at h
    obtain ⟨renamed, hwrite, ⟨matched, account⟩, haccount, hlink⟩ := h
    have hrenamed : Only employee.id d renamed := only_set (write_profiles hwrite) rfl
    have hmatched : Only employee.id renamed matched := only_of_eq (accountFor_profiles haccount)
    have hlinked : Only employee.id matched d' := only_set (write_profiles hlink) rfl
    exact (hrenamed.trans hmatched).trans hlinked

theorem linkExisting_keeps {employeeId : Id} (h : d.linkExisting caller employeeId uuid = .ok d') :
    d.Keeps d' := by
  simp only [linkExisting, orError_bind_eq_ok, ensure_bind_eq_ok] at h
  obtain ⟨employee, hfind, hunlinked, -, hlink⟩ := h
  have hmem : employee ∈ d.profiles.rows := List.mem_of_find?_eq_some hfind
  exact (linkAccount_only hlink).keeps ((account?_of_mem hmem).trans hunlinked)

theorem syncProfile_only (h : d.syncProfile employee = .ok d') : Only employee.id d d' := by
  unfold syncProfile at h
  split at h
  · obtain rfl := Except.ok.inj h
    exact only_of_eq rfl
  · split at h
    · obtain rfl := Except.ok.inj h
      exact only_of_eq rfl
    · exact only_set (write_profiles h) rfl

theorem syncAllUsersAndProfiles_keeps (h : d.syncAllUsersAndProfiles = .ok d') : d.Keeps d' := by
  unfold syncAllUsersAndProfiles at h
  -- The loop runs over the profiles that were not linked when it began.
  refine foldlM_inv (P := fun s => d.Keeps s) (fun s employee s' hmem hkeeps hturn => ?_)
    (Keeps.refl d) h
  simp only [List.mem_filter, decide_eq_true_eq] at hmem
  intro k account haccount
  have hne : k ≠ employee.id := by
    rintro rfl
    simp [account?_of_mem hmem.1, hmem.2] at haccount
  exact (syncProfile_only hturn k hne).trans (hkeeps k account haccount)

theorem createEmployee_keeps {body : EmployeeCreate} {account : Id}
    (h : d.createEmployee caller body uuid account = .ok d') : d.Keeps d' := by
  simp only [createEmployee, bind_eq_ok, orError_eq_ok] at h
  obtain ⟨-, -, -, -, -, -, -, -, profiles, hins, inserted, hwrite, hlink⟩ := h
  have hfresh : d.account? uuid = none := by
    have hnone : d.profiles.find? uuid = none :=
      Table.find?_eq_none.2 fun profile hprofile => Table.insert?_fresh hins hprofile
    rw [account?, hnone, Option.bind_none]
  have hinserted : Only uuid d inserted := fun k hk => by
    rw [account?, write_profiles hwrite, Table.find?_insert? hins, account?]
    split
    · next heq => exact absurd heq.symm hk
    · rfl
  exact (hinserted.trans (linkAccount_only hlink)).keeps hfresh

theorem apply_ok {data : EmployeeUpdate} {saved : Profile}
    (h : data.apply employee = .ok saved) :
    saved.id = employee.id ∧ saved.userId = employee.userId := by
  simp only [EmployeeUpdate.apply, bind_eq_ok] at h
  obtain ⟨-, -, firstName, -, lastName, -, heq⟩ := h
  obtain rfl := Except.ok.inj heq
  exact ⟨rfl, rfl⟩

theorem alignAccount_profiles {data : EmployeeUpdate} {account : Id}
    (h : d.alignAccount employee data account = .ok d') : d'.profiles = d.profiles := by
  unfold alignAccount at h
  split at h
  · split at h
    · obtain rfl := Except.ok.inj h
      rfl
    · exact write_profiles h
  · obtain rfl := Except.ok.inj h
    rfl

theorem updateEmployee_keeps {employeeId : Id} {body : EmployeeUpdate}
    (h : d.updateEmployee caller employeeId body uuid = .ok d') : d.Keeps d' := by
  simp only [updateEmployee, bind_eq_ok, orError_eq_ok] at h
  obtain ⟨employee, hfind, -, -, saved, happly, written, hwrite, hrest⟩ := h
  have hmem : employee ∈ d.profiles.rows := List.mem_of_find?_eq_some hfind
  obtain ⟨hid, haccount⟩ := apply_ok happly
  have hlink : d.account? employee.id = employee.userId := account?_of_mem hmem
  have hwritten : Only employee.id d written := only_set (write_profiles hwrite) hid
  split at hrest
  · next account hlinked =>
    -- The row keeps its account, and the account may take over the e-mail.
    have hsaved : saved ∈ written.profiles.rows := by
      rw [write_profiles hwrite]
      exact Table.mem_set.2 (.inr ⟨rfl, List.mem_map.2 ⟨employee, hmem, hid.symm⟩⟩)
    have hsame : written.account? employee.id = d.account? employee.id := by
      rw [hlink, ← haccount, ← hid, account?_of_mem hsaved]
    intro k account' hk
    rw [account?, alignAccount_profiles hrest, ← account?]
    by_cases heq : k = employee.id
    · rwa [heq, hsame, ← heq]
    · rwa [hwritten k heq]
  · next hunlinked =>
    exact (hwritten.trans (hid ▸ linkAccount_only hrest)).keeps
      ((hlink.trans haccount.symm).trans hunlinked)

/-! ## The creation of a user -/

/-- A creation that goes through with the profile that it has found. -/
structure Accepted (d : Directory text) (caller : Caller) (body : UserCreate) (uuid : Id)
    (synced : Bool) (employee : Profile) : Prop where
  unused : d.users.find? uuid = none
  email : ∀ user ∈ d.users.rows, user.organizationId = caller.organizationId →
    user.email ≠ text.clean body.email
  lower : text.clean body.email = text.databaseLower (text.clean body.email)
  synced : synced = true
  workEmail : ∀ other ∈ d.profiles.rows, other.id ≠ employee.id →
    other.organizationId = employee.organizationId → other.workEmail ≠ some (text.clean body.email)

/-- Either the profile that is found has no account, or the creation is refused. -/
def Spares (first : FirstRow Profile) (d : Directory text) : LinkRequest → Prop
  | .createUser caller body uuid synced =>
    ∀ employee ∈ first.of (d.profilesByEmail caller (text.clean body.email)),
      employee.userId = none ∨ ¬ d.Accepted caller body uuid synced employee
  | _ => True

section Create

variable {body : UserCreate} {synced : Bool}

/-- An account changes nothing about the profiles that a query returns. -/
theorem profilesByEmail_write {email : String} (h : d.write users d.profiles = .ok d') :
    d'.profilesByEmail caller email = d.profilesByEmail caller email := by
  obtain ⟨-, rfl⟩ := write_eq_ok.1 h
  rfl

theorem createUser_eq_ok
    (hfound : first.of (d.profilesByEmail caller (text.clean body.email)) = some employee) :
    d.createUser first caller body uuid synced = .ok d' ↔ ∃ users inserted,
      d.users.insert? (.new uuid caller.organizationId (text.clean body.email) body.firstName
        body.lastName) = some users ∧
      d.write users d.profiles = .ok inserted ∧ synced = true ∧
      inserted.write inserted.users (inserted.profiles.set
        (employee.link uuid (text.clean body.email))) = .ok d' := by
  simp only [createUser, bind_eq_ok, orError_eq_ok, ensure_eq_ok, exists_and_left, exists_const]
  refine exists_congr fun users => and_congr_right fun _ => exists_congr fun inserted =>
    and_congr_right fun hwrite => and_congr_right fun _ => ?_
  rw [profilesByEmail_write hwrite, hfound]

theorem createUser_keeps
    (hfound : first.of (d.profilesByEmail caller (text.clean body.email)) = none)
    (h : d.createUser first caller body uuid synced = .ok d') : d.Keeps d' := by
  simp only [createUser, bind_eq_ok] at h
  obtain ⟨users, -, inserted, hwrite, -, -, hrest⟩ := h
  rw [profilesByEmail_write hwrite, hfound] at hrest
  obtain rfl := Except.ok.inj hrest
  intro k account hk
  rwa [account?, write_profiles hwrite, ← account?]

theorem accepted_of_createUser
    (hfound : first.of (d.profilesByEmail caller (text.clean body.email)) = some employee)
    (h : d.createUser first caller body uuid synced = .ok d') :
    d.Accepted caller body uuid synced employee ∧ Only employee.id d d' ∧
      d'.account? employee.id = some uuid := by
  have hmem : employee ∈ d.profiles.rows := (List.mem_filter.1 (first.mem _ _ hfound)).1
  obtain ⟨users, inserted, hins, hwrite, hsynced, hlink⟩ := (createUser_eq_ok hfound).1 h
  obtain ⟨hinserted, rfl⟩ := write_eq_ok.1 hwrite
  obtain ⟨hconstraints, rfl⟩ := write_eq_ok.1 hlink
  have hnew := (Table.mem_insert? hins).2 (.inr rfl)
  have hrow : employee.link uuid (text.clean body.email) ∈
      (d.profiles.set (employee.link uuid (text.clean body.email))).rows :=
    Table.mem_set.2 (.inr ⟨rfl, List.mem_map.2 ⟨employee, hmem, rfl⟩⟩)
  refine ⟨⟨?_, fun user huser horganization hemail => ?_, hinserted.lowerEmails _ hnew, hsynced,
    fun other hother hne horganization hemail => ?_⟩, only_set rfl rfl, ?_⟩
  · exact Table.find?_eq_none.2 fun user huser => Table.insert?_fresh hins huser
  · refine Table.insert?_fresh hins huser (hinserted.emails user
      ((Table.mem_insert? hins).2 (.inl huser)) _ hnew _ rfl ?_)
    rw [← horganization, ← hemail]
    rfl
  · have hsame : other.id = (employee.link uuid (text.clean body.email)).id :=
      hconstraints.workEmails other (Table.mem_set.2 (.inl ⟨hother, hne⟩)) _ hrow
        (employee.organizationId, text.clean body.email) (by simp [hemail, horganization]) rfl
    exact hne hsame
  · show Directory.account? _ (employee.link uuid (text.clean body.email)).id = some uuid
    exact account?_of_mem hrow

/-- A creation that is not refused gives its account to the profile that it has found. -/
theorem createUser_of_accepted
    (hfound : first.of (d.profilesByEmail caller (text.clean body.email)) = some employee)
    (h : d.Accepted caller body uuid synced employee) :
    ∃ d', d.createUser first caller body uuid synced = .ok d' := by
  have hmem : employee ∈ d.profiles.rows := (List.mem_filter.1 (first.mem _ _ hfound)).1
  obtain ⟨users, hins, -⟩ := Table.insert?_of_fresh (t := d.users) (r := .new uuid
    caller.organizationId (text.clean body.email) body.firstName body.lastName)
    (by simpa [Table.find?_eq_none, User.new] using h.unused)
  have hinserted : Constraints text users d.profiles :=
    d.constraints.insertUser hins h.email h.lower
  have hlinked : Constraints text users
      (d.profiles.set (employee.link uuid (text.clean body.email))) := by
    refine hinserted.setProfile ?_ ?_ ?_ ?_
    · rintro other hother hne horganization _ ⟨⟩
      exact h.workEmail other hother hne horganization
    · rintro _ ⟨⟩
      exact h.lower
    · rintro other hother _ ⟨⟩ hlink
      exact find?_account ((account?_of_mem hother).trans hlink) h.unused
    · rintro _ ⟨⟩
      rw [Table.find?_insert? hins]
      simp [User.new]
  exact ⟨_, (createUser_eq_ok hfound).2 ⟨users, _, hins, write_eq_ok.2 ⟨hinserted, rfl⟩, h.synced,
    write_eq_ok.2 ⟨hlinked, rfl⟩⟩⟩

end Create

/-! ## Runs -/

theorem keeps_of_exec {r : LinkRequest} (h : ∀ d', r.exec first d = .ok d' → d.Keeps d') :
    d.Keeps (serveLink first d r) := by
  unfold serveLink
  split
  · next d' hexec => exact h d' hexec
  · exact Keeps.refl d

theorem spares_of_keeps {body : UserCreate} {synced : Bool}
    (h : d.Keeps (serveLink first d (.createUser caller body uuid synced))) :
    d.Spares first (.createUser caller body uuid synced) := by
  intro employee hfound
  have hmem : employee ∈ d.profiles.rows := (List.mem_filter.1 (first.mem _ _ hfound)).1
  cases hlinked : employee.userId with
  | none => exact .inl rfl
  | some account =>
      refine .inr fun haccepted => ?_
      obtain ⟨d', hcreate⟩ := createUser_of_accepted hfound haccepted
      obtain ⟨-, -, hnew⟩ := accepted_of_createUser hfound hcreate
      have hold : d.account? employee.id = some account := (account?_of_mem hmem).trans hlinked
      have hkept : d'.account? employee.id = some account := by
        have hserved := h employee.id account hold
        rwa [serveLink, LinkRequest.exec, hcreate] at hserved
      -- The profile has the new account, which did not exist before.
      obtain rfl : account = uuid := Option.some.inj (hkept.symm.trans hnew)
      exact find?_account hold haccepted.unused

theorem createUser_spares {body : UserCreate} {synced : Bool}
    (hspares : d.Spares first (.createUser caller body uuid synced))
    (h : d.createUser first caller body uuid synced = .ok d') : d.Keeps d' := by
  cases hfound : first.of (d.profilesByEmail caller (text.clean body.email)) with
  | none => exact createUser_keeps hfound h
  | some employee =>
      have hmem : employee ∈ d.profiles.rows := (List.mem_filter.1 (first.mem _ _ hfound)).1
      obtain ⟨haccepted, honly, -⟩ := accepted_of_createUser hfound h
      have hunlinked := (hspares employee hfound).resolve_right fun hno => hno haccepted
      exact honly.keeps ((account?_of_mem hmem).trans hunlinked)

theorem keeps_serveLink {r : LinkRequest} :
    d.Keeps (serveLink first d r) ↔ d.Spares first r := by
  cases r with
  | createUser caller body uuid synced =>
      exact ⟨spares_of_keeps, fun hspares => keeps_of_exec fun _ => createUser_spares hspares⟩
  | createEmployee caller body uuid account =>
      exact iff_of_true (keeps_of_exec fun _ => createEmployee_keeps) trivial
  | updateEmployee caller employeeId body uuid =>
      exact iff_of_true (keeps_of_exec fun _ => updateEmployee_keeps) trivial
  | linkExisting caller employeeId uuid =>
      exact iff_of_true (keeps_of_exec fun _ => linkExisting_keeps) trivial
  | syncAllUsersAndProfiles =>
      exact iff_of_true (keeps_of_exec fun _ => syncAllUsersAndProfiles_keeps) trivial

end Directory

/-- At every later state of the run a profile that was linked is linked to the same account, and no
other profile is. -/
def LinksStay (first : FirstRow Profile) (d : Directory text) (requests : List LinkRequest) : Prop :=
  ∀ before later rest, requests = before ++ later ++ rest → ∀ id account,
    (serveLinks first d before).account? id = some account →
      (serveLinks first d (before ++ later)).account? id = some account ∧
        ∀ other, (serveLinks first d (before ++ later)).account? other = some account → other = id

/-- Links stay in a run exactly if every creation of a user in it spares them. -/
theorem links_stay (first : FirstRow Profile) (d : Directory text) (requests : List LinkRequest) :
    LinksStay first d requests ↔ ∀ before r rest, requests = before ++ r :: rest →
      (serveLinks first d before).Spares first r := by
  have hkeeps : LinksStay first d requests ↔ ∀ before later rest,
      requests = before ++ later ++ rest →
        (serveLinks first d before).Keeps (serveLinks first d (before ++ later)) := by
    refine ⟨fun h before later rest heq id account hid =>
      (h before later rest heq id account hid).1, fun h before later rest heq id account hid => ?_⟩
    have hlater := h before later rest heq id account hid
    exact ⟨hlater, fun other => Directory.account?_injective hlater⟩
  rw [hkeeps]
  refine (foldl_rel_iff Directory.Keeps.refl Directory.Keeps.trans).trans ?_
  exact forall_congr' fun before => forall_congr' fun r => forall_congr' fun rest =>
    imp_congr_right fun _ => Directory.keeps_serveLink

namespace Links

/-- Texts that are lower case and have no blanks around them. -/
def clean : EmailText := ⟨id, id, id⟩

def firstRow : FirstRow Profile where
  of := List.head?
  mem _ _ h := List.mem_of_mem_head? h
  empty _ h := List.head?_eq_none_iff.1 h

def administrator : Caller where
  id := 1
  organizationId := 1
  scopedSupervisor := false
  isSuperuser := false
  today := 0

def ada : Profile where
  id := 10
  organizationId := 1
  userId := some 2
  supervisorId := none
  isActive := true
  archivedAt := none
  firstName := "Ada"
  lastName := "Wilson"
  workEmail := some "ada@site"
  personalEmail := some "ada@home"
  departmentId := none
  positionId := none
  homeLocationId := none
  hireDate := none
  terminationDate := none
  contractStartDate := none
  contractEndDate := none

/-- An employee who is linked to an account. -/
def directory : Directory clean where
  users := .single (.new 2 1 "ada@site" "Ada" "Wilson")
  profiles := .single ada
  departments := .empty
  positions := .empty
  locations := .empty
  assignments := .empty
  constraints := by decide

/-- The creation of a user with the personal e-mail of the employee. -/
def creation : LinkRequest := .createUser administrator ⟨"ada@home", "Ada", "Wilson"⟩ 3 true

end Links

/-- The new user takes the profile of the employee over. -/
theorem links_stay_fails : ¬ LinksStay Links.firstRow Links.directory [Links.creation] := by
  intro h
  have hkept := h [] [Links.creation] [] rfl 10 2 (by decide)
  exact absurd hkept.1 (by decide)

end Cestos.Employees
