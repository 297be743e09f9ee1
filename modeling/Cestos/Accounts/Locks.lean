import Cestos.Accounts.Requests
import Cestos.Mail.Queue

/-!
# What the locks keep

What a session has read of the rows that it holds is what they hold until it ends: whoever else
commits leaves these rows as they are, and a user that it holds gets neither a refresh token nor
a setup.
-/

namespace Cestos.Accounts

open Cestos.Core Cestos.Mail

variable {env : Env} {others : List Transaction} {db db' : Database} {t : Transaction}

@[simp] theorem Database.mem_liveTokens {userId : Id} {token : RefreshToken} :
    token ∈ db.liveTokens userId ↔
      token ∈ db.tokens.rows ∧ token.userId = userId ∧ token.revokedAt = none := by
  simp [liveTokens]

@[simp] theorem Database.mem_unusedSetups {userId : Id} {setup : PasswordSetup} :
    setup ∈ db.unusedSetups userId ↔
      setup ∈ db.setups.rows ∧ setup.userId = userId ∧ setup.usedAt = none := by
  simp [unusedSetups]

@[simp] theorem Database.mem_queuedSetups {userId : Id} {mail : EmailDelivery} :
    mail ∈ db.queuedSetups userId ↔
      mail ∈ db.mails.rows ∧ mail.recipientId = userId ∧ mail.kind = "SETUP" ∧
        mail.status = .pending := by
  simp [queuedSetups]

/-! ## What a commit writes -/

/-- What a transaction commits. -/
inductive Commits (env : Env) (db : Database) (t : Transaction) (db' : Database) : Prop
  | login {r : LoginRequest} {user : User} {verified : Nat} :
      t.task = .issuing r user verified → db.commitLogin env r user verified = some db' →
      Commits env db t db'
  | refresh {r : RefreshRequest} {token : RefreshToken} {deadline : Instant} :
      t.task = .rotating r token deadline → db.commitRefresh env r token deadline = some db' →
      Commits env db t db'
  | reset {r : ResetRequest} {user : User} :
      t.task = .invalidating r user .commit → db.commitReset env r user t.held = some db' →
      Commits env db t db'
  | password {r : PasswordReset} {setup : PasswordSetup} :
      t.task = .userLocked r setup → db.commitPassword env r setup = some db' →
      Commits env db t db'
  | delivery {r : Delivery} {mail : EmailDelivery} :
      t.task = .mailLocked r mail → db.commitDelivery env r mail = some db' →
      Commits env db t db'

theorem issueTokens_spec {userId : Id} {raw : String} {now accessNow : Instant}
    {sessionExpiresAt : Option Instant} {parent : Option String} {verified : Nat}
    (h : issueTokens env db userId raw now accessNow sessionExpiresAt parent verified = some db') :
    ∃ tokens, db.tokens.insert? ⟨env.tokenHash raw, userId, now,
        sessionExpiresAt.getD (env.sessionEnd now), none⟩ = some tokens ∧
      db' = { db with
        tokens := tokens
        issued := db.issued ++ [{
          tokenHash := env.tokenHash raw
          userId := userId
          parent := parent
          issuedAt := now
          expiresAt := sessionExpiresAt.getD (env.sessionEnd now)
          accessExpiresAt :=
            env.accessExpiry accessNow (sessionExpiresAt.getD (env.sessionEnd now))
          verified := verified
          resets := db.resetsOf userId }] } := by
  simp only [issueTokens, Option.bind_eq_bind, Option.bind_eq_some_iff, Option.some.injEq] at h
  obtain ⟨tokens, hinsert, rfl⟩ := h
  exact ⟨tokens, hinsert, rfl⟩

theorem commitLogin_spec {r : LoginRequest} {user : User} {verified : Nat}
    (h : db.commitLogin env r user verified = some db') :
    ∃ users, issueTokens env { db with users := users } user.id r.raw r.issuedAt
      r.accessIssuedAt none none verified = some db' := by
  obtain ⟨row, -, hissue⟩ := Option.bind_eq_some_iff.1 h
  exact ⟨_, hissue⟩

/-- What a reset of the user writes, next to the user and the employee. -/
structure ResetWritten (r : ResetRequest) (user : User) (held : List Row) (db db' : Database) :
    Prop where
  tokens : db'.tokens = db.tokens.mapRows (RefreshToken.revoke held r.now)
    (RefreshToken.revoke_tokenHash held r.now)
  setups : db'.setups = db.setups.mapRows (PasswordSetup.use held r.now)
    (PasswordSetup.use_tokenHash held r.now)
  mails : ∃ mail, (db.mails.mapRows (cancelHeld held) (cancelHeld_id held)).insert? mail =
    some db'.mails
  resets : db'.resets = db.resets ++ [user.id]
  issued : db'.issued = db.issued
  delivered : db'.delivered = db.delivered
  passwordsSet : db'.passwordsSet = db.passwordsSet

theorem commitReset_spec {r : ResetRequest} {user : User} {held : List Row}
    (h : db.commitReset env r user held = some db') : ResetWritten r user held db db' := by
  simp only [Database.commitReset, Option.bind_eq_bind, Option.bind_eq_some_iff] at h
  obtain ⟨row, -, h⟩ := h
  split at h
  · cases h
  · simp only [Option.bind_eq_some_iff, Option.some.injEq] at h
    obtain ⟨mails, hinsert, rfl⟩ := h
    exact ⟨rfl, rfl, ⟨_, hinsert⟩, rfl, rfl, rfl, rfl⟩

theorem commitPassword_spec {r : PasswordReset} {setup : PasswordSetup}
    (h : db.commitPassword env r setup = some db') :
    ∃ row users, db.setups.find? setup.tokenHash = some row ∧ row.usedAt = none ∧
      db' = { db with
        users := users
        setups := db.setups.set { row with usedAt := some r.now }
        passwordsSet :=
          db.passwordsSet ++ [⟨row.tokenHash, setup.userId, db.resetsOf setup.userId⟩] } := by
  simp only [Database.commitPassword, Option.bind_eq_bind, Option.bind_eq_some_iff] at h
  obtain ⟨row, hrow, user, -, h⟩ := h
  split at h
  · next hvalid => exact ⟨row, _, hrow, hvalid.1, (Option.some.inj h).symm⟩
  · cases h

theorem commitDelivery_spec {r : Delivery} {mail : EmailDelivery}
    (h : db.commitDelivery env r mail = some db') :
    ∃ mail', mail'.id = mail.id ∧
      (db' = { db with mails := db.mails.set mail' } ∨
        ∃ setups, db.addSetup env r mail.recipientId = some setups ∧
          db' = { db with
            mails := db.mails.set mail'
            setups := setups
            delivered := db.delivered ++
              [⟨env.tokenHash r.raw, mail.recipientId, db.resetsOf mail.recipientId⟩] }) := by
  simp only [Database.commitDelivery, Option.bind_eq_bind, Option.bind_eq_some_iff] at h
  obtain ⟨mail', hattempt, h⟩ := h
  refine ⟨mail', attempt_id hattempt, ?_⟩
  split at h
  · obtain ⟨setups, hsetups, h⟩ := Option.bind_eq_some_iff.1 h
    exact .inr ⟨setups, hsetups, (Option.some.inj h).symm⟩
  · exact .inl (Option.some.inj h).symm

/-! ## What sessions have read -/

/-- What a session has read of the rows that it holds is what they hold. -/
def Transaction.Current (db : Database) (t : Transaction) : Prop :=
  match t.task with
  | .tokenLocked _ token deadline | .rotating _ token deadline =>
    .token token.tokenHash ∈ t.held ∧ db.tokens.find? token.tokenHash = some token ∧
      token.revokedAt = none ∧ deadline ≤ token.expiresAt
  | .invalidating _ user stage =>
    .user user.id ∈ t.held ∧
      (stage ≠ .tokens → ∀ token ∈ db.liveTokens user.id, .token token.tokenHash ∈ t.held) ∧
      (stage ≠ .tokens → stage ≠ .setups →
        ∀ setup ∈ db.unusedSetups user.id, .setup setup.tokenHash ∈ t.held)
  | .setupRead _ setup =>
    ∃ row, db.setups.find? setup.tokenHash = some row ∧ row.userId = setup.userId
  | .userLocked _ setup =>
    .user setup.userId ∈ t.held ∧
      ∃ row, db.setups.find? setup.tokenHash = some row ∧ row.userId = setup.userId
  | .mailLocked _ mail => .mail mail.id ∈ t.held ∧ db.mails.find? mail.id = some mail
  | _ => True

/-! ## What a commit leaves to the others -/

/-- The rows that the others hold stay, and the users that they hold get no tokens and no
setups. -/
structure Spares (others : List Transaction) (db db' : Database) : Prop where
  tokens : ∀ tokenHash token, locked Transaction.held others (.token tokenHash) →
    db.tokens.find? tokenHash = some token → db'.tokens.find? tokenHash = some token
  mails : ∀ id mail, locked Transaction.held others (.mail id) →
    db.mails.find? id = some mail → db'.mails.find? id = some mail
  setups : ∀ tokenHash setup, db.setups.find? tokenHash = some setup →
    ∃ setup', db'.setups.find? tokenHash = some setup' ∧ setup'.userId = setup.userId
  liveTokens : ∀ userId, locked Transaction.held others (.user userId) →
    ∀ token ∈ db'.liveTokens userId, token ∈ db.liveTokens userId
  unusedSetups : ∀ userId, locked Transaction.held others (.user userId) →
    ∀ setup ∈ db'.unusedSetups userId, setup ∈ db.unusedSetups userId

theorem Spares.of_eq (htokens : db'.tokens = db.tokens) (hsetups : db'.setups = db.setups)
    (hmails : ∀ id mail, locked Transaction.held others (.mail id) →
      db.mails.find? id = some mail → db'.mails.find? id = some mail) : Spares others db db' where
  tokens := fun _ _ _ hfind => htokens ▸ hfind
  mails := hmails
  setups := fun _ setup hfind => ⟨setup, hsetups ▸ hfind, rfl⟩
  liveTokens := fun _ _ token htoken => by
    rwa [Database.mem_liveTokens, htokens, ← Database.mem_liveTokens] at htoken
  unusedSetups := fun _ _ setup hsetup => by
    rwa [Database.mem_unusedSetups, hsetups, ← Database.mem_unusedSetups] at hsetup

theorem Spares.refl : Spares others db db := .of_eq rfl rfl fun _ _ _ hfind => hfind

theorem Spares.trans {db'' : Database} (h : Spares others db db') (h' : Spares others db' db'') :
    Spares others db db'' where
  tokens := fun tokenHash token hlocked hfind =>
    h'.tokens tokenHash token hlocked (h.tokens tokenHash token hlocked hfind)
  mails := fun id mail hlocked hfind => h'.mails id mail hlocked (h.mails id mail hlocked hfind)
  setups := fun tokenHash setup hfind => by
    obtain ⟨mid, hmid, hsame⟩ := h.setups tokenHash setup hfind
    obtain ⟨setup', hfind', hsame'⟩ := h'.setups tokenHash mid hmid
    exact ⟨setup', hfind', hsame'.trans hsame⟩
  liveTokens := fun userId hlocked token htoken =>
    h.liveTokens userId hlocked token (h'.liveTokens userId hlocked token htoken)
  unusedSetups := fun userId hlocked setup hsetup =>
    h.unusedSetups userId hlocked setup (h'.unusedSetups userId hlocked setup hsetup)

theorem Spares.issue {userId : Id} {raw : String} {now accessNow : Instant}
    {sessionExpiresAt : Option Instant} {parent : Option String} {verified : Nat}
    (h : issueTokens env db userId raw now accessNow sessionExpiresAt parent verified = some db')
    (hfree : ¬ locked Transaction.held others (.user userId)) : Spares others db db' := by
  obtain ⟨tokens, hinsert, rfl⟩ := issueTokens_spec h
  refine ⟨fun tokenHash token _ hfind => Table.find?_insert?_of_find? hinsert hfind,
    fun _ _ _ hfind => hfind, fun _ setup hfind => ⟨setup, hfind, rfl⟩, ?_,
    fun _ _ setup hsetup => hsetup⟩
  intro held hlocked token htoken
  rw [Database.mem_liveTokens] at htoken ⊢
  rcases (Table.mem_insert? hinsert).1 htoken.1 with hold | rfl
  · exact ⟨hold, htoken.2⟩
  · obtain rfl : userId = held := htoken.2.1
    exact absurd hlocked hfree

theorem Spares.revoke {token : RefreshToken} {now : Instant}
    (hfree : ¬ locked Transaction.held others (.token token.tokenHash)) :
    Spares others db { db with
      tokens := db.tokens.set { token with revokedAt := some now } } := by
  refine ⟨?_, fun _ _ _ hfind => hfind, fun _ setup hfind => ⟨setup, hfind, rfl⟩, ?_,
    fun _ _ setup hsetup => hsetup⟩
  · intro tokenHash old hlocked hfind
    refine (Table.find?_set_ne ?_).trans hfind
    rintro rfl
    exact hfree hlocked
  · intro userId _ old hold
    rw [Database.mem_liveTokens] at hold ⊢
    rcases Table.mem_set.1 hold.1 with ⟨hrow, -⟩ | ⟨rfl, -⟩
    · exact ⟨hrow, hold.2⟩
    · cases hold.2.2

theorem RefreshToken.revoke_live {held : List Row} {now : Instant} {token : RefreshToken}
    (h : (token.revoke held now).revokedAt = none) :
    token.revoke held now = token ∧ Row.token token.tokenHash ∉ held := by
  unfold revoke at h ⊢
  split at h
  · cases h
  · next hfree =>
    rw [if_neg hfree]
    exact ⟨rfl, hfree⟩

theorem PasswordSetup.use_unused {held : List Row} {now : Instant} {setup : PasswordSetup}
    (h : (setup.use held now).usedAt = none) :
    setup.use held now = setup ∧ Row.setup setup.tokenHash ∉ held := by
  unfold use at h ⊢
  split at h
  · cases h
  · next hfree =>
    rw [if_neg hfree]
    exact ⟨rfl, hfree⟩

@[simp] theorem PasswordSetup.use_userId (held : List Row) (now : Instant)
    (setup : PasswordSetup) : (setup.use held now).userId = setup.userId := by
  unfold use
  split <;> rfl

theorem ResetWritten.resetsOf_ne {r : ResetRequest} {user : User} {held : List Row} {userId : Id}
    (h : ResetWritten r user held db db') (hother : user.id ≠ userId) :
    db'.resetsOf userId = db.resetsOf userId := by
  rw [Database.resetsOf, h.resets, List.count_append, Database.resetsOf]
  simp [hother]

theorem ResetWritten.liveTokens {r : ResetRequest} {user : User} {held : List Row} {userId : Id}
    (h : ResetWritten r user held db db') {token : RefreshToken}
    (htoken : token ∈ db'.liveTokens userId) :
    token ∈ db.liveTokens userId ∧ Row.token token.tokenHash ∉ held := by
  rw [Database.mem_liveTokens, h.tokens] at htoken
  obtain ⟨hrow, huser, hlive⟩ := htoken
  obtain ⟨old, hold, rfl⟩ := List.mem_map.1 hrow
  obtain ⟨hsame, hfree⟩ := RefreshToken.revoke_live hlive
  rw [hsame] at huser hlive ⊢
  exact ⟨Database.mem_liveTokens.2 ⟨hold, huser, hlive⟩, hfree⟩

theorem mem_mapRows_use {held : List Row} {now : Instant} {setup : PasswordSetup}
    (h : setup ∈ (db.setups.mapRows (PasswordSetup.use held now)
      (PasswordSetup.use_tokenHash held now)).rows) (hunused : setup.usedAt = none) :
    setup ∈ db.setups.rows ∧ Row.setup setup.tokenHash ∉ held := by
  obtain ⟨old, hold, rfl⟩ := List.mem_map.1 h
  obtain ⟨hsame, hfree⟩ := PasswordSetup.use_unused hunused
  rw [hsame]
  exact ⟨hold, hfree⟩

theorem ResetWritten.unusedSetups {r : ResetRequest} {user : User} {held : List Row}
    {userId : Id} (h : ResetWritten r user held db db') {setup : PasswordSetup}
    (hsetup : setup ∈ db'.unusedSetups userId) :
    setup ∈ db.unusedSetups userId ∧ Row.setup setup.tokenHash ∉ held := by
  rw [Database.mem_unusedSetups, h.setups] at hsetup
  obtain ⟨hrow, huser, hunused⟩ := hsetup
  obtain ⟨hold, hfree⟩ := mem_mapRows_use hrow hunused
  exact ⟨Database.mem_unusedSetups.2 ⟨hold, huser, hunused⟩, hfree⟩

/-- Once the setups of a user are used, the unused ones are those of the other users. -/
theorem Database.mem_usedSetups {userId : Id} {now : Instant} {setup : PasswordSetup}
    (h : setup ∈ (db.usedSetups userId now).rows) (hunused : setup.usedAt = none) :
    setup ∈ db.setups.rows ∧ setup.userId ≠ userId := by
  obtain ⟨hold, hfree⟩ := mem_mapRows_use h hunused
  refine ⟨hold, fun huser => hfree ?_⟩
  exact List.mem_map.2 ⟨setup, mem_unusedSetups.2 ⟨hold, huser, hunused⟩, rfl⟩

theorem Database.find?_usedSetups (userId : Id) (now : Instant) {tokenHash : String}
    {setup : PasswordSetup} (h : db.setups.find? tokenHash = some setup) :
    ∃ used, (db.usedSetups userId now).find? tokenHash = some used ∧
      used.userId = setup.userId := by
  rw [usedSetups, Table.find?_mapRows, h, Option.map_some]
  exact ⟨_, rfl, PasswordSetup.use_userId _ now setup⟩

theorem Spares.reset {r : ResetRequest} {user : User} {held : List Row}
    (h : ResetWritten r user held db db')
    (hfree : ∀ row ∈ held, ¬ locked Transaction.held others row) : Spares others db db' := by
  refine ⟨?_, ?_, ?_, fun userId _ token htoken => (h.liveTokens htoken).1,
    fun userId _ setup hsetup => (h.unusedSetups hsetup).1⟩
  · intro tokenHash token hlocked hfind
    have hkey : token.tokenHash = tokenHash := Table.key_of_find? hfind
    have hkept : token.revoke held r.now = token := by
      refine if_neg fun hheld => ?_
      exact hfree _ hheld (hkey ▸ hlocked)
    rw [h.tokens, Table.find?_mapRows, hfind, Option.map_some, hkept]
  · intro id mail hlocked hfind
    obtain ⟨mail', hinsert⟩ := h.mails
    have hkey : mail.id = id := Table.key_of_find? hfind
    have hkept : cancelHeld held mail = mail := by
      refine if_neg fun hheld => ?_
      exact hfree _ hheld (hkey ▸ hlocked)
    refine Table.find?_insert?_of_find? hinsert ?_
    rw [Table.find?_mapRows, hfind, Option.map_some, hkept]
  · intro tokenHash setup hfind
    refine ⟨setup.use held r.now, ?_, PasswordSetup.use_userId held r.now setup⟩
    rw [h.setups, Table.find?_mapRows, hfind, Option.map_some]

theorem Spares.use {setup : PasswordSetup} {users : Table User.id} {now : Instant}
    {passwordsSet : List SetupEvent} (hfind : db.setups.find? setup.tokenHash = some setup) :
    Spares others db { db with
      users := users
      setups := db.setups.set { setup with usedAt := some now }
      passwordsSet := passwordsSet } := by
  refine ⟨fun _ _ _ hfind => hfind, fun _ _ _ hfind => hfind, ?_,
    fun _ _ token htoken => htoken, ?_⟩
  · intro tokenHash row hrow
    by_cases hsame : setup.tokenHash = tokenHash
    · subst hsame
      obtain rfl := Option.some.inj (hfind.symm.trans hrow)
      exact ⟨_, Table.find?_set_self hfind, rfl⟩
    · have hne : PasswordSetup.tokenHash { setup with usedAt := some now } ≠ tokenHash := hsame
      exact ⟨row, (Table.find?_set_ne hne).trans hrow, rfl⟩
  · intro userId _ row hrow
    rw [Database.mem_unusedSetups] at hrow ⊢
    rcases Table.mem_set.1 hrow.1 with ⟨hold, -⟩ | ⟨rfl, -⟩
    · exact ⟨hold, hrow.2⟩
    · cases hrow.2.2

theorem Spares.setup {r : Delivery} {userId : Id} {setups : Table PasswordSetup.tokenHash}
    {mails : Table EmailDelivery.id} {delivered : List SetupEvent}
    (h : db.addSetup env r userId = some setups)
    (hfree : ¬ locked Transaction.held others (.user userId))
    (hmails : ∀ id mail, locked Transaction.held others (.mail id) →
      db.mails.find? id = some mail → mails.find? id = some mail) :
    Spares others db { db with mails := mails, setups := setups, delivered := delivered } := by
  refine ⟨fun _ _ _ hfind => hfind, hmails, ?_, fun _ _ token htoken => htoken, ?_⟩
  · intro tokenHash setup hfind
    obtain ⟨used, hused, hsame⟩ := Database.find?_usedSetups userId r.now hfind
    exact ⟨used, Table.find?_insert?_of_find? h hused, hsame⟩
  · intro held hlocked setup hsetup
    rw [Database.mem_unusedSetups] at hsetup
    obtain ⟨hrow, huser, hunused⟩ := hsetup
    rcases (Table.mem_insert? h).1 hrow with hold | rfl
    · exact Database.mem_unusedSetups.2 ⟨(Database.mem_usedSetups hold hunused).1, huser, hunused⟩
    · obtain rfl : userId = held := huser
      exact absurd hlocked hfree

theorem Commits.spares (h : Commits env db t db') (hcurrent : t.Current db)
    (hexclusive : ∀ u ∈ others, Exclusive Transaction.held t u)
    (hfree : ∀ row ∈ t.task.wants env db, ¬ locked Transaction.held others row) :
    Spares others db db' := by
  have hheld : ∀ row ∈ t.held, ¬ locked Transaction.held others row :=
    fun _ hrow => not_locked_of_exclusive hexclusive hrow
  cases h with
  | @login r user verified htask hcommit =>
      rw [htask] at hfree
      obtain ⟨users, hissue⟩ := commitLogin_spec hcommit
      have hread : Spares others db { db with users := users } :=
        .of_eq rfl rfl fun _ _ _ hfind => hfind
      exact hread.trans (.issue hissue (hfree _ (List.mem_singleton_self _)))
  | @refresh r token deadline htask hcommit =>
      unfold Transaction.Current at hcurrent
      rw [htask] at hfree hcurrent
      exact (Spares.revoke (hheld _ hcurrent.1)).trans
        (.issue hcommit (hfree _ (List.mem_singleton_self _)))
  | reset htask hcommit => exact .reset (commitReset_spec hcommit) hheld
  | password htask hcommit =>
      obtain ⟨row, users, hrow, -, rfl⟩ := commitPassword_spec hcommit
      have hkey : row.tokenHash = _ := Table.key_of_find? hrow
      exact .use (hkey ▸ hrow)
  | @delivery r mail htask hcommit =>
      unfold Transaction.Current at hcurrent
      rw [htask] at hfree hcurrent
      obtain ⟨mail', hid, hdelivered⟩ := commitDelivery_spec hcommit
      have hmails : ∀ id old, locked Transaction.held others (.mail id) →
          db.mails.find? id = some old → (db.mails.set mail').find? id = some old := by
        intro id old hlocked hfind
        refine (Table.find?_set_ne ?_).trans hfind
        rintro rfl
        exact hheld _ hcurrent.1 (hid ▸ hlocked)
      rcases hdelivered with rfl | ⟨setups, hsetups, rfl⟩
      · exact .of_eq rfl rfl hmails
      · exact .setup hsetups (hfree _ (List.mem_singleton_self _)) hmails

/-- What a session has read stays as it is when another one commits. -/
theorem Transaction.Current.spare {u : Transaction} (h : u.Current db) (hu : u ∈ others)
    (hspares : Spares others db db') : u.Current db' := by
  have hlocked : ∀ row ∈ u.held, locked Transaction.held others row :=
    fun row hrow => ⟨u, hu, hrow⟩
  have hsetup : ∀ tokenHash userId, (∃ row, db.setups.find? tokenHash = some row ∧
      row.userId = userId) → ∃ row, db'.setups.find? tokenHash = some row ∧
      row.userId = userId := by
    rintro tokenHash userId ⟨row, hrow, huser⟩
    obtain ⟨row', hrow', hsame⟩ := hspares.setups _ _ hrow
    exact ⟨row', hrow', hsame.trans huser⟩
  obtain ⟨held, task⟩ := u
  cases task with
  | tokenLocked r token deadline | rotating r token deadline =>
      obtain ⟨hheld, htoken, hvalid⟩ := h
      exact ⟨hheld, hspares.tokens _ _ (hlocked _ hheld) htoken, hvalid⟩
  | invalidating r user stage =>
      obtain ⟨hheld, htokens, hsetups⟩ := h
      refine ⟨hheld, fun hpast token htoken => htokens hpast token ?_,
        fun hpast hpast' setup hsetup => hsetups hpast hpast' setup ?_⟩
      · exact hspares.liveTokens _ (hlocked _ hheld) token htoken
      · exact hspares.unusedSetups _ (hlocked _ hheld) setup hsetup
  | setupRead r setup => exact hsetup _ _ h
  | userLocked r setup => exact ⟨h.1, hsetup _ _ h.2⟩
  | mailLocked r mail =>
      obtain ⟨hheld, hmail⟩ := h
      exact ⟨hheld, hspares.mails _ _ (hlocked _ hheld) hmail⟩
  | _ => trivial

/-! ## What a statement does -/

/-- A statement that does not commit: the rows that it locks, and how the session goes on. -/
inductive Goes (env : Env) (others : List Transaction) (db : Database) :
    Task → List Row → Task → Prop
  | login {r : LoginRequest} {user : User} :
      Goes env others db (.login r) [] (.issuing r user (db.resetsOf user.id))
  | refresh {r : RefreshRequest} {token : RefreshToken} {deadline : Instant} :
      token.tokenHash = env.tokenHash r.raw → db.tokens.find? token.tokenHash = some token →
      token.revokedAt = none → deadline ≤ token.expiresAt →
      Goes env others db (.refresh r) [.token token.tokenHash] (.tokenLocked r token deadline)
  | tokenLocked {r : RefreshRequest} {token : RefreshToken} {deadline : Instant} :
      Goes env others db (.tokenLocked r token deadline) [] (.rotating r token deadline)
  | reset {r : ResetRequest} {actor : User} :
      Goes env others db (.reset r) [] (.authorized r actor)
  | authorized {r : ResetRequest} {actor : User} {userId : Id} :
      Goes env others db (.authorized r actor) [.employee r.employeeId]
        (.employeeLocked r actor userId)
  | employeeLocked {r : ResetRequest} {actor user : User} :
      Goes env others db (.employeeLocked r actor user.id) [.user user.id]
        (.invalidating r user .tokens)
  | tokens {r : ResetRequest} {user : User} :
      Goes env others db (.invalidating r user .tokens)
        ((db.liveTokens user.id).map fun token => .token token.tokenHash)
        (.invalidating r user .setups)
  | setups {r : ResetRequest} {user : User} :
      Goes env others db (.invalidating r user .setups)
        ((db.unusedSetups user.id).map fun setup => .setup setup.tokenHash)
        (.invalidating r user .mails)
  | mails {r : ResetRequest} {user : User} :
      Goes env others db (.invalidating r user .mails)
        ((db.queuedSetups user.id).map fun mail => .mail mail.id)
        (.invalidating r user .commit)
  | completeReset {r : PasswordReset} {setup : PasswordSetup} :
      db.setups.find? setup.tokenHash = some setup →
      Goes env others db (.completeReset r) [] (.setupRead r setup)
  | setupRead {r : PasswordReset} {setup : PasswordSetup} :
      Goes env others db (.setupRead r setup) [.user setup.userId] (.userLocked r setup)
  | deliver {r : Delivery} {mail : EmailDelivery} :
      (if env.smtp then db.nextMail others r else none) = some mail →
      Goes env others db (.deliver r) [.mail mail.id] (.mailLocked r mail)

/-- A statement goes on, ends without effect, or commits and ends the session. -/
inductive Stepped (env : Env) (others : List Transaction) (db : Database) (t : Transaction) :
    Database × Option Transaction → Prop
  | goes {rows : List Row} {task : Task} : Goes env others db t.task rows task →
      Stepped env others db t (db, some ⟨rows ++ t.held, task⟩)
  | stops : Stepped env others db t (db, none)
  | commits {db' : Database} : Commits env db t db' → Stepped env others db t (db', none)

theorem Stepped.reads {task : Task} (h : Goes env others db t.task [] task) :
    Stepped env others db t (db, some ⟨t.held, task⟩) := .goes h

theorem Stepped.commit {result : Option Database}
    (h : ∀ db', result = some db' → Commits env db t db') :
    Stepped env others db t (commit db result) := by
  cases result with
  | none => exact .stops
  | some committed => exact .commits (h committed rfl)

theorem step_spec (t : Transaction) : Stepped env others db t (t.step env others db) := by
  obtain ⟨held, task⟩ := t
  cases task with
  | login r =>
      simp only [Transaction.step]
      split
      · split
        · exact .reads .login
        · exact .stops
      · exact .stops
  | issuing r user verified => exact .commit fun _ => .login rfl
  | refresh r =>
      simp only [Transaction.step]
      split
      · next token htoken =>
        have hkey : token.tokenHash = env.tokenHash r.raw := Table.key_of_find? htoken
        split
        · next hvalid => exact .goes (.refresh hkey (hkey ▸ htoken) hvalid.1 (min_le_left _ _))
        · exact .stops
      · exact .stops
  | tokenLocked r token deadline =>
      simp only [Transaction.step]
      split
      · split
        · exact .reads .tokenLocked
        · exact .stops
      · exact .stops
  | rotating r token deadline => exact .commit fun _ => .refresh rfl
  | reset r =>
      simp only [Transaction.step]
      split
      · split
        · exact .reads .reset
        · exact .stops
      · exact .stops
  | authorized r actor =>
      simp only [Transaction.step]
      split
      · next employee hemployee =>
        have hkey : employee.id = r.employeeId := Table.key_of_find? hemployee
        rw [hkey]
        split
        · exact .goes .authorized
        · exact .stops
      · exact .stops
  | employeeLocked r actor userId =>
      simp only [Transaction.step]
      split
      · next row hrow =>
        have hkey : row.id = userId := Table.key_of_find? hrow
        have huser : (if actor.id = userId then actor else row).id = userId := by
          split
          · next hsame => exact hsame
          · exact hkey
        split
        · exact .stops
        · generalize (if actor.id = userId then actor else row) = user at huser
          exact huser ▸ .goes .employeeLocked
      · exact .stops
  | invalidating r user stage =>
      cases stage with
      | tokens => exact .goes .tokens
      | setups => exact .goes .setups
      | mails => exact .goes .mails
      | commit => exact .commit fun _ => .reset rfl
  | completeReset r =>
      simp only [Transaction.step]
      split
      · next setup hsetup =>
        have hkey : setup.tokenHash = env.tokenHash r.token := Table.key_of_find? hsetup
        split
        · exact .reads (.completeReset (hkey ▸ hsetup))
        · exact .stops
      · exact .stops
  | setupRead r setup =>
      simp only [Transaction.step]
      split
      · next user huser =>
        have hkey : user.id = setup.userId := Table.key_of_find? huser
        rw [hkey]
        split
        · exact .goes .setupRead
        · exact .stops
      · exact .stops
  | userLocked r setup => exact .commit fun _ => .password rfl
  | deliver r =>
      simp only [Transaction.step]
      split
      · next mail hmail => exact .goes (.deliver hmail)
      · exact .stops
  | mailLocked r mail => exact .commit fun _ => .delivery rfl

theorem nextMail_spec {r : Delivery} {mail : EmailDelivery}
    (h : (if env.smtp then db.nextMail others r else none) = some mail) :
    mail ∈ db.mails.rows ∧ due r.now mail ∧ ¬ locked Transaction.held others (.mail mail.id) := by
  split at h
  · have hmem := List.argmin_mem h
    simpa using hmem
  · cases h

theorem Goes.free {task task' : Task} {rows : List Row} (h : Goes env others db task rows task')
    (hfree : ∀ row ∈ task.wants env db, ¬ locked Transaction.held others row) :
    ∀ row ∈ rows, ¬ locked Transaction.held others row := by
  cases h with
  | login | tokenLocked | reset | completeReset hfind => exact fun _ hrow => nomatch hrow
  | refresh hkey hfind hlive hdeadline => exact hkey ▸ hfree
  | authorized | employeeLocked | tokens | setups | mails | setupRead => exact hfree
  | deliver hmail =>
      intro row hrow
      obtain rfl := List.mem_singleton.1 hrow
      exact (nextMail_spec hmail).2.2

theorem Goes.current {held rows : List Row} {task task' : Task}
    (h : Goes env others db task rows task') (hcurrent : Transaction.Current db ⟨held, task⟩) :
    Transaction.Current db ⟨rows ++ held, task'⟩ := by
  cases h with
  | login | reset | authorized => exact trivial
  | refresh hkey hfind hlive hdeadline => exact ⟨List.mem_cons_self, hfind, hlive, hdeadline⟩
  | tokenLocked => exact hcurrent
  | employeeLocked => exact ⟨List.mem_cons_self, fun hne => (hne rfl).elim, fun hne => (hne rfl).elim⟩
  | tokens =>
      obtain ⟨huser, -, -⟩ := hcurrent
      refine ⟨List.mem_append_right _ huser, fun _ token htoken => ?_, fun _ hne => (hne rfl).elim⟩
      exact List.mem_append_left _ (List.mem_map_of_mem htoken)
  | setups =>
      obtain ⟨huser, htokens, -⟩ := hcurrent
      refine ⟨List.mem_append_right _ huser, fun _ token htoken => ?_, fun _ _ setup hsetup => ?_⟩
      · exact List.mem_append_right _ (htokens nofun token htoken)
      · exact List.mem_append_left _ (List.mem_map_of_mem hsetup)
  | mails =>
      obtain ⟨huser, htokens, hsetups⟩ := hcurrent
      refine ⟨List.mem_append_right _ huser, fun _ token htoken => ?_, fun _ _ setup hsetup => ?_⟩
      · exact List.mem_append_right _ (htokens nofun token htoken)
      · exact List.mem_append_right _ (hsetups nofun nofun setup hsetup)
  | completeReset hfind => exact ⟨_, hfind, rfl⟩
  | setupRead => exact ⟨List.mem_cons_self, hcurrent⟩
  | deliver hmail => exact ⟨List.mem_cons_self, Table.find?_of_mem (nextMail_spec hmail).1⟩

/-! ## Interleavings -/

theorem serving_spec {result : Database × Option Transaction}
    (h : serving env others db t = some result) :
    (∀ row ∈ t.task.wants env db, ¬ locked Transaction.held others row) ∧
      Stepped env others db t result := by
  obtain ⟨hfree, hstep⟩ := locking_eq_some h
  exact ⟨hfree, hstep ▸ step_spec t⟩

/-- A statement leaves to the others what they hold, and the sessions stay current and hold no
row in common. -/
theorem serving_keeps {next : Option Transaction}
    (h : serving env others db t = some (db', next)) (hcurrent : t.Current db)
    (hothers : ∀ u ∈ others, u.Current db ∧ Exclusive Transaction.held t u) :
    Spares others db db' ∧
      Sessions.Keeps (fun _ => True) Transaction.Current (Exclusive Transaction.held) others db'
        next := by
  obtain ⟨hfree, hspec⟩ := serving_spec h
  cases hspec with
  | goes hgoes =>
      exact ⟨.refl, .locks trivial (hgoes.current hcurrent) hothers (hgoes.free hfree)
        fun row => List.mem_append.1⟩
  | stops => exact ⟨.refl, .over trivial fun u hu => (hothers u hu).1⟩
  | commits hcommit =>
      have hspares := hcommit.spares hcurrent (fun u hu => (hothers u hu).2) hfree
      exact ⟨hspares, .over trivial fun u hu => (hothers u hu).1.spare hu hspares⟩

theorem Transaction.IsRequest.current (h : t.IsRequest) : t.Current db := by
  obtain ⟨held, task⟩ := t
  obtain ⟨-, hrequest⟩ := h
  cases task <;> trivial

/-- What holds at first and is kept by every commit holds in every interleaving. -/
theorem Requests.holds {admits : List Transaction → Database → Transaction → Prop}
    {G : Database → Prop} {s : Sessions Database Transaction} (h : Requests env admits s)
    (hinit : ∀ db, db.Initial → G db)
    (hcommits : ∀ others db t db', G db → t.Current db → admits others db t →
      Commits env db t db' → G db') : G s.db := by
  refine (Sessions.Interleaved.holds (L := Transaction.Current) (R := Exclusive Transaction.held)
    h (fun _ _ => Exclusive.symm) hinit ?_ ?_).database
  · intro db t hrequest _
    exact ⟨hrequest.current, fun u row hrow => absurd (hrequest.1 ▸ hrow) List.not_mem_nil⟩
  · intro others db t db' next hdb hcurrent hothers _ hadmits hserving
    refine { (serving_keeps hserving hcurrent hothers).2 with database := ?_ }
    cases (serving_spec hserving).2 with
    | goes hgoes => exact hdb
    | stops => exact hdb
    | commits hcommit => exact hcommits others db t db' hdb hcurrent hadmits hcommit

end Cestos.Accounts
