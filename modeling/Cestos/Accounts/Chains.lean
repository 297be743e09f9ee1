import Cestos.Accounts.Locks

/-!
# Sessions end

A login issues a refresh token and each refresh exchanges it for the next one. However the
requests interleave, no token of such a chain outlives the session of its login, and no token
is exchanged twice.
-/

namespace Cestos.Accounts

open Cestos.Core Cestos.Mail

section Chains

variable {env : Env} {db db' : Database} {t : Transaction}

/-- What a login issued, and what its tokens were exchanged for. -/
inductive Database.Descends (db : Database) (login : Issued) : Issued → Prop
  | login : login ∈ db.issued → login.parent = none → Descends db login login
  | refresh {i next : Issued} : Descends db login i → next ∈ db.issued →
      next.parent = some i.tokenHash → Descends db login next

/-- The tokens that were exchanged. -/
def Database.exchanged (db : Database) : List String := db.issued.filterMap Issued.parent

/-- The tokens that were issued, with their deadlines. -/
structure Database.Chained (env : Env) (db : Database) : Prop where
  keys : db.issued.map Issued.tokenHash = db.tokens.rows.map RefreshToken.tokenHash
  record : ∀ token ∈ db.tokens.rows, ∃ i ∈ db.issued,
    i.tokenHash = token.tokenHash ∧ i.expiresAt = token.expiresAt
  /-- A token that is not revoked was not exchanged. -/
  live : ∀ token ∈ db.tokens.rows, token.revokedAt = none → token.tokenHash ∉ db.exchanged
  access : ∀ i ∈ db.issued, i.accessExpiresAt ≤ i.expiresAt
  login : ∀ i ∈ db.issued, i.parent = none → i.expiresAt = env.sessionEnd i.issuedAt
  refresh : ∀ i ∈ db.issued, ∀ hash ∈ i.parent, ∃ earlier ∈ db.issued,
    earlier.tokenHash = hash ∧ i.expiresAt ≤ earlier.expiresAt
  once : db.exchanged.Nodup

/-! ## Revoking -/

/-- Tokens may have been revoked. -/
structure Revokes (db db' : Database) : Prop where
  keys : db'.tokens.rows.map RefreshToken.tokenHash = db.tokens.rows.map RefreshToken.tokenHash
  rows : ∀ token' ∈ db'.tokens.rows, ∃ token ∈ db.tokens.rows,
    token'.tokenHash = token.tokenHash ∧ token'.userId = token.userId ∧
      token'.expiresAt = token.expiresAt ∧ (token'.revokedAt = none → token.revokedAt = none)
  issued : db'.issued = db.issued

theorem Revokes.of_eq (htokens : db'.tokens = db.tokens) (hissued : db'.issued = db.issued) :
    Revokes db db' :=
  ⟨by rw [htokens], fun token htoken => ⟨token, htokens ▸ htoken, rfl, rfl, rfl, id⟩, hissued⟩

theorem Revokes.set {token : RefreshToken} {now : Instant}
    (hfind : db.tokens.find? token.tokenHash = some token) :
    Revokes db { db with tokens := db.tokens.set { token with revokedAt := some now } } := by
  refine ⟨Table.set_keys _ _, fun token' htoken' => ?_, rfl⟩
  rcases Table.mem_set.1 htoken' with ⟨hold, -⟩ | ⟨rfl, -⟩
  · exact ⟨token', hold, rfl, rfl, rfl, id⟩
  · exact ⟨token, Table.mem_of_find? hfind, rfl, rfl, rfl, nofun⟩

theorem ResetWritten.revokes {r : ResetRequest} {user : User} {held : List Row}
    (h : ResetWritten r user held db db') : Revokes db db' := by
  refine ⟨?_, fun token' htoken' => ?_, h.issued⟩
  · rw [h.tokens, Table.mapRows_keys]
  · rw [h.tokens] at htoken'
    obtain ⟨token, htoken, rfl⟩ := List.mem_map.1 htoken'
    refine ⟨token, htoken, ?_⟩
    unfold RefreshToken.revoke
    split
    · exact ⟨rfl, rfl, rfl, nofun⟩
    · exact ⟨rfl, rfl, rfl, id⟩

theorem Database.Chained.revokes (h : db.Chained env) (hrevokes : Revokes db db') :
    db'.Chained env := by
  obtain ⟨hkeys, hrows, hissued⟩ := hrevokes
  have hexchanged : db'.exchanged = db.exchanged := by rw [exchanged, hissued, exchanged]
  refine ⟨by rw [hissued, hkeys, h.keys], fun token' htoken' => ?_, fun token' htoken' hlive => ?_,
    by rw [hissued]; exact h.access, by rw [hissued]; exact h.login,
    by rw [hissued]; exact h.refresh, hexchanged ▸ h.once⟩
  · obtain ⟨token, htoken, hkey, -, hexpires, -⟩ := hrows token' htoken'
    rw [hkey, hexpires, hissued]
    exact h.record token htoken
  · obtain ⟨token, htoken, hkey, -, -, hlive'⟩ := hrows token' htoken'
    rw [hkey, hexchanged]
    exact h.live token htoken (hlive' hlive)

/-! ## Issuing -/

theorem Database.exchanged_append {issued : Issued} (h : db'.issued = db.issued ++ [issued]) :
    db'.exchanged = db.exchanged ++ issued.parent.toList := by
  rw [exchanged, h, List.filterMap_append, exchanged]
  cases hparent : issued.parent <;> simp [hparent]

theorem Database.Chained.of_exchanged (h : db.Chained env) {hash : String}
    (hhash : hash ∈ db.exchanged) : hash ∈ db.tokens.rows.map RefreshToken.tokenHash := by
  obtain ⟨i, hi, hparent⟩ := List.mem_filterMap.1 hhash
  obtain ⟨earlier, hearlier, rfl, -⟩ := h.refresh i hi hash hparent
  exact h.keys ▸ List.mem_map_of_mem hearlier

theorem keys_issue {userId : Id} {raw : String} {now accessNow : Instant}
    {sessionExpiresAt : Option Instant} {parent : Option String} {verified : Nat}
    (hissue : issueTokens env db userId raw now accessNow sessionExpiresAt parent verified =
      some db')
    (h : db.issued.map Issued.tokenHash = db.tokens.rows.map RefreshToken.tokenHash) :
    db'.issued.map Issued.tokenHash = db'.tokens.rows.map RefreshToken.tokenHash := by
  obtain ⟨tokens, hinsert, rfl⟩ := issueTokens_spec hissue
  show (db.issued ++ [_]).map Issued.tokenHash = tokens.rows.map RefreshToken.tokenHash
  rw [Table.insert?_rows hinsert, List.map_append, List.map_append, h]
  rfl

/-- A token is issued by a login, or for a token that was revoked and not exchanged yet. -/
theorem Database.Chained.issue (h : db.Chained env) {userId : Id} {raw : String}
    {now accessNow : Instant} {sessionExpiresAt : Option Instant} {parent : Option String}
    {verified : Nat}
    (hissue : issueTokens env db userId raw now accessNow sessionExpiresAt parent verified =
      some db')
    (hlogin : parent = none → sessionExpiresAt = none)
    (hparent : ∀ hash ∈ parent, hash ∉ db.exchanged ∧
      (∀ token ∈ db.tokens.rows, token.revokedAt = none → token.tokenHash ≠ hash) ∧
      ∃ earlier ∈ db.issued, earlier.tokenHash = hash ∧
        sessionExpiresAt.getD (env.sessionEnd now) ≤ earlier.expiresAt) : db'.Chained env := by
  have hkeys := keys_issue hissue h.keys
  obtain ⟨tokens, hinsert, rfl⟩ := issueTokens_spec hissue
  have hfresh : env.tokenHash raw ∉ db.tokens.rows.map RefreshToken.tokenHash :=
    (Table.insert?_eq_some.1 hinsert).1
  refine ⟨hkeys, ?_, ?_, ?_, ?_, ?_, ?_⟩
  · intro token htoken
    rcases (Table.mem_insert? hinsert).1 htoken with hold | rfl
    · obtain ⟨i, hi, hrecord⟩ := h.record token hold
      exact ⟨i, List.mem_append_left _ hi, hrecord⟩
    · exact ⟨_, List.mem_append_right _ (List.mem_singleton_self _), rfl, rfl⟩
  · intro token htoken hlive hmem
    rw [exchanged_append rfl, List.mem_append, Option.mem_toList] at hmem
    rcases (Table.mem_insert? hinsert).1 htoken with hold | rfl
    · rcases hmem with hmem | hmem
      · exact h.live token hold hlive hmem
      · exact (hparent _ hmem).2.1 token hold hlive rfl
    · rcases hmem with hmem | hmem
      · exact hfresh (h.of_exchanged hmem)
      · obtain ⟨-, -, earlier, hearlier, hsame, -⟩ := hparent _ hmem
        have hkey : earlier.tokenHash = env.tokenHash raw := hsame
        exact hfresh (hkey ▸ h.keys ▸ List.mem_map_of_mem hearlier)
  · intro i hi
    rcases List.mem_append.1 hi with hold | hnew
    · exact h.access i hold
    · obtain rfl := List.mem_singleton.1 hnew
      exact min_le_right _ _
  · intro i hi hnone
    rcases List.mem_append.1 hi with hold | hnew
    · exact h.login i hold hnone
    · obtain rfl := List.mem_singleton.1 hnew
      exact congrArg (fun deadline : Option Instant => deadline.getD _) (hlogin hnone)
  · intro i hi hash hhash
    rcases List.mem_append.1 hi with hold | hnew
    · obtain ⟨earlier, hearlier, hle⟩ := h.refresh i hold hash hhash
      exact ⟨earlier, List.mem_append_left _ hearlier, hle⟩
    · obtain rfl := List.mem_singleton.1 hnew
      obtain ⟨-, -, earlier, hearlier, hle⟩ := hparent hash hhash
      exact ⟨earlier, List.mem_append_left _ hearlier, hle⟩
  · rw [exchanged_append rfl]
    refine List.nodup_append.2 ⟨h.once, by cases parent <;> simp, ?_⟩
    rintro hash hold _ hnew rfl
    exact (hparent hash (Option.mem_toList.1 hnew)).1 hold

/-! ## Runs -/

theorem Database.Initial.chained (h : db.Initial) : db.Chained env := by
  constructor
  all_goals simp [Database.exchanged, h.tokens, h.issued]

theorem Commits.chained (h : Commits env db t db') (hdb : db.Chained env)
    (hcurrent : t.Current db) : db'.Chained env := by
  cases h with
  | login htask hcommit =>
      obtain ⟨users, hissue⟩ := commitLogin_spec hcommit
      have hread : Database.Chained env { db with users := users } := hdb.revokes (.of_eq rfl rfl)
      exact hread.issue hissue (fun _ => rfl) (fun _ hhash => by cases hhash)
  | @refresh r token deadline htask hcommit =>
      unfold Transaction.Current at hcurrent
      rw [htask] at hcurrent
      obtain ⟨-, hfind, hlive, hdeadline⟩ := hcurrent
      have hmem := Table.mem_of_find? hfind
      refine (hdb.revokes (.set hfind)).issue hcommit nofun fun hash hhash => ?_
      obtain rfl := Option.some.inj hhash
      refine ⟨hdb.live token hmem hlive, fun token' htoken' hlive' hsame => ?_, ?_⟩
      · -- the row of the token is revoked by now
        rcases Table.mem_set.1 htoken' with ⟨-, hne⟩ | ⟨rfl, -⟩
        · exact hne hsame
        · cases hlive'
      · obtain ⟨earlier, hearlier, hkey, hexpires⟩ := hdb.record token hmem
        exact ⟨earlier, hearlier, hkey, hexpires ▸ hdeadline⟩
  | reset htask hcommit => exact hdb.revokes (commitReset_spec hcommit).revokes
  | password htask hcommit =>
      obtain ⟨row, users, -, -, rfl⟩ := commitPassword_spec hcommit
      exact hdb.revokes (.of_eq rfl rfl)
  | delivery htask hcommit =>
      obtain ⟨mail', -, rfl | ⟨setups, -, rfl⟩⟩ := commitDelivery_spec hcommit
      · exact hdb.revokes (.of_eq rfl rfl)
      · exact hdb.revokes (.of_eq rfl rfl)

theorem Database.Chained.expires (h : db.Chained env) {login i : Issued}
    (hchain : db.Descends login i) :
    i ∈ db.issued ∧ i.expiresAt ≤ env.sessionEnd login.issuedAt := by
  induction hchain with
  | login hlogin hparent => exact ⟨hlogin, le_of_eq (h.login login hlogin hparent)⟩
  | @refresh i next _ hnext hparent ih =>
      obtain ⟨hi, hle⟩ := ih
      obtain ⟨earlier, hearlier, hsame, hdeadline⟩ := h.refresh next hnext _ hparent
      have hunique : (db.issued.map Issued.tokenHash).Nodup := h.keys ▸ db.tokens.nodup
      obtain rfl := List.inj_on_of_nodup_map hunique hearlier hi hsame
      exact ⟨hnext, hdeadline.trans hle⟩

/-- The tokens of a chain expire by the end of the session of its login, and no refresh token is
exchanged twice. -/
def Database.SessionsEnd (env : Env) (db : Database) : Prop :=
  (∀ login i, db.Descends login i →
    i.expiresAt ≤ login.issuedAt + env.loginSessionHours * 3600 ∧
      i.accessExpiresAt ≤ login.issuedAt + env.loginSessionHours * 3600) ∧
    db.exchanged.Nodup

/-- Every token expires by the end of the session of its login, and is exchanged at most once. -/
theorem session_ends {s : Sessions Database Transaction}
    (h : Requests env (fun _ _ _ => True) s) : s.db.SessionsEnd env := by
  have hchained : s.db.Chained env := h.holds (fun db hdb => hdb.chained)
    fun others db t db' hdb hcurrent _ hcommit => hcommit.chained hdb hcurrent
  refine ⟨fun login i hchain => ?_, hchained.once⟩
  obtain ⟨hi, hle⟩ := hchained.expires hchain
  exact ⟨hle, (hchained.access i hi).trans hle⟩

/-- Two refreshes bring the same token, and one of them exchanges it. -/
theorem session_ends_reused : ∃ s : Sessions Database Transaction,
    s.db.exchanged = ["#a"] ∧ s.db.SessionsEnd Sample.env := by
  obtain ⟨s, hs, hexchanged⟩ := Sessions.Interleaved.of_play Transaction.IsRequest
    (serving Sample.env) (fun _ _ _ => True) Database.Initial Sample.accounts
    [.begins Sample.login, .acts 0, .acts 0, .begins (Sample.refresh "a" "b"), .acts 0,
      .begins (Sample.refresh "a" "c"), .acts 0, .acts 0, .acts 0]
    (p := fun s => s.running.isEmpty ∧ s.db.exchanged = ["#a"]) Sample.accounts_initial
    (by decide +kernel)
  simp only [decide_eq_true_eq] at hexchanged
  exact ⟨s, hexchanged.2, session_ends hs⟩

end Chains

/-!
## Resets revoke sessions

A reset revokes the tokens of its user that have been issued. The token of a login that read
the user before the reset and commits after it is not among them. As long as no login commits
after a reset of the user it has read, no refresh accepts a token from before a reset.
-/

variable {env : Env} {db db' : Database} {t : Transaction}

/-- No refresh accepted a token from before a reset: the password of its login was verified
after every reset of the user. -/
def Database.RevokedByResets (db : Database) : Prop :=
  ∀ i ∈ db.issued, i.parent ≠ none → i.verified = i.resets

instance (db : Database) : Decidable db.RevokedByResets :=
  inferInstanceAs (Decidable (∀ _ ∈ _, _))

/-- A login commits before any reset of the user that it has read. -/
def Transaction.InTime (db : Database) (t : Transaction) : Prop :=
  match t.task with
  | .issuing _ user verified => verified = db.resetsOf user.id
  | _ => True

instance (db : Database) : DecidablePred (Transaction.InTime db)
  | ⟨_, .issuing _ user verified⟩ => inferInstanceAs (Decidable (verified = db.resetsOf user.id))
  | ⟨_, .login _⟩ | ⟨_, .refresh _⟩ | ⟨_, .tokenLocked _ _ _⟩ | ⟨_, .rotating _ _ _⟩
  | ⟨_, .reset _⟩ | ⟨_, .authorized _ _⟩ | ⟨_, .employeeLocked _ _ _⟩
  | ⟨_, .invalidating _ _ _⟩ | ⟨_, .completeReset _⟩ | ⟨_, .setupRead _ _⟩
  | ⟨_, .userLocked _ _⟩ | ⟨_, .deliver _⟩ | ⟨_, .mailLocked _ _⟩ => .isTrue trivial

/-- The tokens that are not revoked are from after every reset. -/
structure Database.Verified (db : Database) : Prop where
  keys : db.issued.map Issued.tokenHash = db.tokens.rows.map RefreshToken.tokenHash
  live : ∀ token ∈ db.tokens.rows, token.revokedAt = none →
    db.verifiedOf token.tokenHash = db.resetsOf token.userId
  accepted : db.RevokedByResets

theorem Database.Verified.revokes (h : db.Verified) (hrevokes : Revokes db db')
    (hresets : ∀ token ∈ db'.tokens.rows, token.revokedAt = none →
      db'.resetsOf token.userId = db.resetsOf token.userId) : db'.Verified := by
  obtain ⟨hkeys, hrows, hissued⟩ := hrevokes
  refine ⟨by rw [hissued, hkeys, h.keys], fun token htoken hlive => ?_, ?_⟩
  · obtain ⟨old, hold, hkey, huser, -, hlive'⟩ := hrows token htoken
    rw [hresets token htoken hlive, hkey, huser, ← h.live old hold (hlive' hlive), verifiedOf,
      hissued, verifiedOf]
  · unfold RevokedByResets
    rw [hissued]
    exact h.accepted

theorem Database.verifiedOf_append {issued : Issued} {tokenHash : String}
    (h : db'.issued = db.issued ++ [issued]) :
    db'.verifiedOf tokenHash =
      if tokenHash ∈ db.issued.map Issued.tokenHash then db.verifiedOf tokenHash
      else if issued.tokenHash = tokenHash then issued.verified else 0 := by
  rw [verifiedOf, h, List.find?_append]
  split
  · next hmem =>
    obtain ⟨i, hi, hkey⟩ := List.mem_map.1 hmem
    have hsome : (db.issued.find? fun i => i.tokenHash = tokenHash).isSome := by
      rw [List.find?_isSome]
      exact ⟨i, hi, by simpa using hkey⟩
    rw [Option.or_of_isSome hsome, verifiedOf]
  · next hmem =>
    have hnone : (db.issued.find? fun i => i.tokenHash = tokenHash) = none := by
      rw [List.find?_eq_none]
      intro i hi hkey
      exact hmem (List.mem_map.2 ⟨i, hi, by simpa using hkey⟩)
    rw [hnone, Option.none_or]
    split
    · next hsame => simp [hsame]
    · next hne => simp [hne]

theorem Database.Verified.issue (h : db.Verified) {userId : Id} {raw : String}
    {now accessNow : Instant} {sessionExpiresAt : Option Instant} {parent : Option String}
    {verified : Nat}
    (hissue : issueTokens env db userId raw now accessNow sessionExpiresAt parent verified =
      some db') (hverified : verified = db.resetsOf userId) : db'.Verified := by
  have hkeys := keys_issue hissue h.keys
  obtain ⟨tokens, hinsert, rfl⟩ := issueTokens_spec hissue
  have hfresh : env.tokenHash raw ∉ db.issued.map Issued.tokenHash :=
    h.keys ▸ (Table.insert?_eq_some.1 hinsert).1
  refine ⟨hkeys, ?_, ?_⟩
  · intro token htoken hlive
    rw [verifiedOf_append rfl]
    rcases (Table.mem_insert? hinsert).1 htoken with hold | rfl
    · rw [if_pos (h.keys ▸ List.mem_map_of_mem hold)]
      exact h.live token hold hlive
    · rw [if_neg hfresh, if_pos rfl]
      exact hverified
  · intro i hi hparent
    rcases List.mem_append.1 hi with hold | hnew
    · exact h.accepted i hold hparent
    · obtain rfl := List.mem_singleton.1 hnew
      exact hverified

theorem Database.Initial.verified (h : db.Initial) : db.Verified := by
  constructor
  all_goals simp [Database.RevokedByResets, h.tokens, h.issued]

theorem Commits.verified (h : Commits env db t db') (hdb : db.Verified)
    (hcurrent : t.Current db) (htime : t.InTime db) : db'.Verified := by
  unfold Transaction.Current at hcurrent
  unfold Transaction.InTime at htime
  cases h with
  | login htask hcommit =>
      rw [htask] at htime
      obtain ⟨users, hissue⟩ := commitLogin_spec hcommit
      have hread : Database.Verified { db with users := users } :=
        hdb.revokes (.of_eq rfl rfl) fun _ _ _ => rfl
      exact hread.issue hissue htime
  | refresh htask hcommit =>
      rw [htask] at hcurrent
      obtain ⟨-, hfind, hlive, -⟩ := hcurrent
      exact (hdb.revokes (.set hfind) fun _ _ _ => rfl).issue hcommit
        (hdb.live _ (Table.mem_of_find? hfind) hlive)
  | @reset r user htask hcommit =>
      rw [htask] at hcurrent
      obtain ⟨-, htokens, -⟩ := hcurrent
      have hwritten := commitReset_spec hcommit
      refine hdb.revokes hwritten.revokes fun token htoken hlive => ?_
      have hother : user.id ≠ token.userId := by
        -- the reset holds the tokens of its user that are not revoked
        intro hsame
        obtain ⟨hold, hfree⟩ := hwritten.liveTokens
          (Database.mem_liveTokens.2 ⟨htoken, hsame.symm, hlive⟩)
        exact hfree (htokens nofun token hold)
      exact hwritten.resetsOf_ne hother
  | password htask hcommit =>
      obtain ⟨row, users, -, -, rfl⟩ := commitPassword_spec hcommit
      exact hdb.revokes (.of_eq rfl rfl) fun _ _ _ => rfl
  | delivery htask hcommit =>
      obtain ⟨mail', -, rfl | ⟨setups, -, rfl⟩⟩ := commitDelivery_spec hcommit
      · exact hdb.revokes (.of_eq rfl rfl) fun _ _ _ => rfl
      · exact hdb.revokes (.of_eq rfl rfl) fun _ _ _ => rfl

/-- In every interleaving in which logins commit before the resets of the users they have read,
no refresh accepts a token from before a reset. -/
theorem revoked_by_resets {s : Sessions Database Transaction}
    (h : Requests env (fun _ => Transaction.InTime) s) : s.db.RevokedByResets :=
  (h.holds (fun _ hdb => hdb.verified) fun _ _ _ _ hdb hcurrent htime hcommit =>
    hcommit.verified hdb hcurrent htime).accepted

/-- A reset, the new password and a login with it: the token of the first login is refused, the
one of the second is exchanged. -/
theorem revoked_by_resets_exchanged : ∃ s : Sessions Database Transaction,
    s.db.exchanged = ["#b"] ∧ s.db.RevokedByResets := by
  obtain ⟨s, hs, hexchanged⟩ := Sessions.Interleaved.of_play Transaction.IsRequest
    (serving Sample.env) (fun _ => Transaction.InTime) Database.Initial Sample.accounts
    ([.begins Sample.login, .acts 0, .acts 0, .begins Sample.reset] ++ .replicate 7 (.acts 0) ++
      [.begins Sample.deliver, .acts 0, .acts 0, .begins (Sample.completeReset "s"), .acts 0,
        .acts 0, .acts 0, .begins ⟨[], .login ⟨"ada@cestos", "new", "b", 150, 151⟩⟩, .acts 0,
        .acts 0, .begins (Sample.refresh "a" "c"), .acts 0, .begins (Sample.refresh "b" "d"),
        .acts 0, .acts 0, .acts 0])
    (p := fun s => s.db.exchanged = ["#b"]) Sample.accounts_initial (by decide +kernel)
  exact ⟨s, by simpa using hexchanged, revoked_by_resets hs⟩

/-- A login reads the user, a reset commits, and the login issues its token, which is accepted
once the new password is set. -/
theorem revoked_by_resets_fails :
    ¬ ∀ s, Requests Sample.env (fun _ _ _ => True) s → s.db.RevokedByResets := by
  intro hall
  obtain ⟨s, hs, hbroken⟩ := Sessions.Interleaved.of_play Transaction.IsRequest
    (serving Sample.env) (fun _ _ _ => True) Database.Initial Sample.accounts
    ([.begins Sample.login, .acts 0, .begins Sample.reset] ++ .replicate 7 (.acts 1) ++
      [.acts 0, .begins Sample.deliver, .acts 0, .acts 0, .begins (Sample.completeReset "s"),
        .acts 0, .acts 0, .acts 0, .begins (Sample.refresh "a" "c"), .acts 0, .acts 0, .acts 0])
    (p := fun s => ¬ s.db.RevokedByResets) Sample.accounts_initial (by decide +kernel)
  simp only [decide_eq_true_eq] at hbroken
  exact hbroken (hall s hs)

end Cestos.Accounts
