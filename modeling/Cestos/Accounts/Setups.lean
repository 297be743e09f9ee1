import Cestos.Accounts.Locks

/-!
# Setups are used once

Each delivery of a setup uses the earlier ones of its user, and a reset uses them all. However
deliveries, resets and password completions interleave, a user has at most one unused setup; a
setup sets a password at most once, and only if no reset of the user was committed since it was
delivered.
-/

namespace Cestos.Accounts

open Cestos.Core Cestos.Mail

variable {env : Env} {db db' : Database} {t : Transaction}

/-- A user has one unused setup, a setup sets one password, and no reset lies between the
delivery of a setup and the password that it sets. -/
structure Database.SetupsOnce (db : Database) : Prop where
  unused : ∀ userId, (db.unusedSetups userId).length ≤ 1
  once : (db.passwordsSet.map SetupEvent.tokenHash).Nodup
  latest : ∀ set ∈ db.passwordsSet, ∀ d ∈ db.delivered, d.tokenHash = set.tokenHash →
    d.userId = set.userId ∧ d.resets = set.resets

/-- The setups, with what was delivered and what was set. -/
structure Database.SingleUse (db : Database) : Prop where
  keys : db.delivered.map SetupEvent.tokenHash = db.setups.rows.map PasswordSetup.tokenHash
  /-- An unused setup was delivered after the last reset of its user. -/
  live : ∀ setup ∈ db.setups.rows, setup.usedAt = none → ∃ d ∈ db.delivered,
    d.tokenHash = setup.tokenHash ∧ d.userId = setup.userId ∧
      d.resets = db.resetsOf setup.userId
  fresh : ∀ setup ∈ db.setups.rows, setup.usedAt = none →
    setup.tokenHash ∉ db.passwordsSet.map SetupEvent.tokenHash
  single : ∀ a ∈ db.setups.rows, ∀ b ∈ db.setups.rows, a.usedAt = none → b.usedAt = none →
    a.userId = b.userId → a = b
  once : (db.passwordsSet.map SetupEvent.tokenHash).Nodup
  latest : ∀ set ∈ db.passwordsSet, ∃ d ∈ db.delivered,
    d.tokenHash = set.tokenHash ∧ d.userId = set.userId ∧ d.resets = set.resets

/-! ## Using -/

/-- Setups may have been used. -/
structure Uses (db db' : Database) : Prop where
  keys : db'.setups.rows.map PasswordSetup.tokenHash = db.setups.rows.map PasswordSetup.tokenHash
  rows : ∀ setup ∈ db'.setups.rows, setup.usedAt = none → setup ∈ db.setups.rows
  delivered : db'.delivered = db.delivered
  passwordsSet : db'.passwordsSet = db.passwordsSet

theorem Uses.of_eq (hsetups : db'.setups = db.setups) (hdelivered : db'.delivered = db.delivered)
    (hset : db'.passwordsSet = db.passwordsSet) : Uses db db' :=
  ⟨by rw [hsetups], fun _ hsetup _ => hsetups ▸ hsetup, hdelivered, hset⟩

theorem ResetWritten.uses {r : ResetRequest} {user : User} {held : List Row}
    (h : ResetWritten r user held db db') : Uses db db' := by
  refine ⟨?_, fun setup hsetup hunused => ?_, h.delivered, h.passwordsSet⟩
  · rw [h.setups, Table.mapRows_keys]
  · rw [h.setups] at hsetup
    exact (mem_mapRows_use hsetup hunused).1

theorem Database.SingleUse.uses (h : db.SingleUse) (huses : Uses db db')
    (hresets : ∀ setup ∈ db'.setups.rows, setup.usedAt = none →
      db'.resetsOf setup.userId = db.resetsOf setup.userId) : db'.SingleUse := by
  obtain ⟨hkeys, hrows, hdelivered, hset⟩ := huses
  refine ⟨by rw [hdelivered, hkeys, h.keys], fun setup hsetup hunused => ?_,
    fun setup hsetup hunused => ?_, fun a ha b hb hunused hunused' => ?_, by rw [hset]; exact h.once,
    by rw [hset, hdelivered]; exact h.latest⟩
  · rw [hdelivered, hresets setup hsetup hunused]
    exact h.live setup (hrows setup hsetup hunused) hunused
  · rw [hset]
    exact h.fresh setup (hrows setup hsetup hunused) hunused
  · exact h.single a (hrows a ha hunused) b (hrows b hb hunused') hunused hunused'

/-! ## Setting a password -/

theorem Database.SingleUse.password (h : db.SingleUse) {r : PasswordReset}
    {setup : PasswordSetup} (hcommit : db.commitPassword env r setup = some db')
    (huser : ∃ row, db.setups.find? setup.tokenHash = some row ∧ row.userId = setup.userId) :
    db'.SingleUse := by
  obtain ⟨row, users, hrow, hunused, rfl⟩ := commitPassword_spec hcommit
  obtain ⟨row', hrow', huser⟩ := huser
  obtain rfl := Option.some.inj (hrow'.symm.trans hrow)
  have hmem := Table.mem_of_find? hrow
  have hused : ∀ other ∈ (db.setups.set { row' with usedAt := some r.now }).rows,
      other.usedAt = none → other ∈ db.setups.rows ∧ other.tokenHash ≠ row'.tokenHash := by
    intro other hother hnone
    rcases Table.mem_set.1 hother with hold | ⟨rfl, -⟩
    · exact hold
    · cases hnone
  obtain ⟨d, hd, hkey, howner, hresets⟩ := h.live row' hmem hunused
  refine ⟨h.keys.trans (Table.set_keys _ _).symm, fun other hother hnone =>
    h.live other (hused other hother hnone).1 hnone, fun other hother hnone => ?_,
    fun a ha b hb hnone hnone' => h.single a (hused a ha hnone).1 b (hused b hb hnone').1 hnone
      hnone', ?_, fun set hset => ?_⟩
  · obtain ⟨hold, hne⟩ := hused other hother hnone
    rw [List.map_append, List.mem_append]
    rintro (hset | hset)
    · exact h.fresh other hold hnone hset
    · exact hne (List.mem_singleton.1 hset)
  · rw [List.map_append, List.nodup_append]
    refine ⟨h.once, List.nodup_singleton _, ?_⟩
    rintro hash hold _ hnew rfl
    obtain rfl := List.mem_singleton.1 hnew
    exact h.fresh row' hmem hunused hold
  · rcases List.mem_append.1 hset with hold | hnew
    · exact h.latest set hold
    · obtain rfl := List.mem_singleton.1 hnew
      exact ⟨d, hd, hkey, howner.trans huser, huser ▸ hresets⟩

/-! ## Delivering -/

theorem Database.SingleUse.setup (h : db.SingleUse) {r : Delivery} {userId : Id}
    {setups : Table PasswordSetup.tokenHash} {mails : Table EmailDelivery.id}
    (hsetups : db.addSetup env r userId = some setups) :
    Database.SingleUse { db with
      mails := mails
      setups := setups
      delivered := db.delivered ++ [⟨env.tokenHash r.raw, userId, db.resetsOf userId⟩] } := by
  have hkeys : (db.usedSetups userId r.now).rows.map PasswordSetup.tokenHash =
      db.delivered.map SetupEvent.tokenHash := Table.mapRows_keys.trans h.keys.symm
  have hfresh : env.tokenHash r.raw ∉ db.delivered.map SetupEvent.tokenHash :=
    hkeys ▸ (Table.insert?_eq_some.1 hsetups).1
  -- an unused setup is the new one, or one of another user
  have hcases : ∀ setup ∈ setups.rows, setup.usedAt = none →
      (setup ∈ db.setups.rows ∧ setup.userId ≠ userId) ∨
        setup = ⟨env.tokenHash r.raw, userId, r.now + 24 * 3600, none⟩ := by
    intro setup hsetup hunused
    rcases (Table.mem_insert? hsetups).1 hsetup with hold | hnew
    · exact .inl (Database.mem_usedSetups hold hunused)
    · exact .inr hnew
  refine ⟨?_, fun setup hsetup hunused => ?_, fun setup hsetup hunused => ?_,
    fun a ha b hb hunused hunused' hsame => ?_, h.once, fun set hset => ?_⟩
  · show (db.delivered ++ [_]).map SetupEvent.tokenHash = setups.rows.map PasswordSetup.tokenHash
    rw [Table.insert?_rows hsetups, List.map_append, List.map_append, hkeys]
    rfl
  · rcases hcases setup hsetup hunused with ⟨hold, -⟩ | rfl
    · obtain ⟨d, hd, hlive⟩ := h.live setup hold hunused
      exact ⟨d, List.mem_append_left _ hd, hlive⟩
    · exact ⟨_, List.mem_append_right _ (List.mem_singleton_self _), rfl, rfl, rfl⟩
  · rcases hcases setup hsetup hunused with ⟨hold, -⟩ | rfl
    · exact h.fresh setup hold hunused
    · intro hset
      obtain ⟨set, hset, hkey⟩ := List.mem_map.1 hset
      obtain ⟨d, hd, hsame, -⟩ := h.latest set hset
      exact hfresh (List.mem_map.2 ⟨d, hd, hsame.trans hkey⟩)
  · rcases hcases a ha hunused with ⟨hold, hother⟩ | rfl
    · rcases hcases b hb hunused' with ⟨hold', -⟩ | rfl
      · exact h.single a hold b hold' hunused hunused' hsame
      · exact absurd hsame hother
    · rcases hcases b hb hunused' with ⟨-, hother⟩ | rfl
      · exact absurd hsame.symm hother
      · rfl
  · obtain ⟨d, hd, hlatest⟩ := h.latest set hset
    exact ⟨d, List.mem_append_left _ hd, hlatest⟩

/-! ## Runs -/

theorem Database.Initial.singleUse (h : db.Initial) : db.SingleUse := by
  constructor
  all_goals simp [h.setups, h.delivered, h.passwordsSet]

theorem Commits.singleUse (h : Commits env db t db') (hdb : db.SingleUse)
    (hcurrent : t.Current db) : db'.SingleUse := by
  unfold Transaction.Current at hcurrent
  cases h with
  | login htask hcommit =>
      obtain ⟨users, hissue⟩ := commitLogin_spec hcommit
      obtain ⟨tokens, -, rfl⟩ := issueTokens_spec hissue
      exact hdb.uses (.of_eq rfl rfl rfl) fun _ _ _ => rfl
  | refresh htask hcommit =>
      obtain ⟨tokens, -, rfl⟩ := issueTokens_spec hcommit
      exact hdb.uses (.of_eq rfl rfl rfl) fun _ _ _ => rfl
  | @reset r user htask hcommit =>
      rw [htask] at hcurrent
      obtain ⟨-, -, hsetups⟩ := hcurrent
      have hwritten := commitReset_spec hcommit
      refine hdb.uses hwritten.uses fun setup hsetup hunused => ?_
      have hother : user.id ≠ setup.userId := by
        -- the reset holds the setups of its user that are not used
        intro hsame
        obtain ⟨hold, hfree⟩ := hwritten.unusedSetups
          (Database.mem_unusedSetups.2 ⟨hsetup, hsame.symm, hunused⟩)
        exact hfree (hsetups nofun nofun setup hold)
      exact hwritten.resetsOf_ne hother
  | password htask hcommit =>
      rw [htask] at hcurrent
      exact hdb.password hcommit hcurrent.2
  | delivery htask hcommit =>
      obtain ⟨mail', -, rfl | ⟨setups, hsetups, rfl⟩⟩ := commitDelivery_spec hcommit
      · exact hdb.uses (.of_eq rfl rfl rfl) fun _ _ _ => rfl
      · exact hdb.setup hsetups

theorem Database.SingleUse.setupsOnce (h : db.SingleUse) : db.SetupsOnce := by
  refine ⟨fun userId => ?_, h.once, fun set hset d hd hsame => ?_⟩
  · have hnodup : (db.unusedSetups userId).Nodup :=
      (List.Nodup.of_map _ db.setups.nodup).filter _
    have hsingle : ∀ a ∈ db.unusedSetups userId, ∀ b ∈ db.unusedSetups userId, a = b := by
      simp only [Database.mem_unusedSetups]
      rintro a ⟨ha, howner, hunused⟩ b ⟨hb, howner', hunused'⟩
      exact h.single a ha b hb hunused hunused' (howner.trans howner'.symm)
    generalize db.unusedSetups userId = unused at hnodup hsingle
    cases unused with
    | nil => exact Nat.zero_le 1
    | cons a rest =>
        cases rest with
        | nil => exact Nat.le_refl 1
        | cons b rest =>
            have hne : a ≠ b := fun heq => (List.nodup_cons.1 hnodup).1 (heq ▸ List.mem_cons_self)
            exact absurd (hsingle a (by simp) b (by simp)) hne
  · obtain ⟨d', hd', hsame', hlatest⟩ := h.latest set hset
    have hunique : (db.delivered.map SetupEvent.tokenHash).Nodup := h.keys ▸ db.setups.nodup
    obtain rfl := List.inj_on_of_nodup_map hunique hd hd' (hsame.trans hsame'.symm)
    exact hlatest

/-- In every interleaving a user has at most one unused setup, a setup sets at most one
password, and none that was delivered before a reset of its user sets one after it. -/
theorem setups_once {s : Sessions Database Transaction}
    (h : Requests env (fun _ _ _ => True) s) : s.db.SetupsOnce :=
  (h.holds (fun _ hdb => hdb.singleUse) fun _ _ _ _ hdb hcurrent _ hcommit =>
    hcommit.singleUse hdb hcurrent).setupsOnce

/-- Two requests bring the same setup, and one of them sets the password. -/
theorem setups_once_submitted : ∃ s : Sessions Database Transaction,
    s.db.passwordsSet.map SetupEvent.tokenHash = ["#s"] ∧ s.db.SetupsOnce := by
  obtain ⟨s, hs, hset⟩ := Sessions.Interleaved.of_play Transaction.IsRequest
    (serving Sample.env) (fun _ _ _ => True) Database.Initial Sample.accounts
    (.begins Sample.reset :: .replicate 7 (.acts 0) ++
      [.begins Sample.deliver, .acts 0, .acts 0, .begins (Sample.completeReset "s"), .acts 0,
        .begins (Sample.completeReset "s"), .acts 1, .acts 0, .acts 0, .acts 0])
    (p := fun s => s.running.isEmpty ∧ s.db.passwordsSet.map SetupEvent.tokenHash = ["#s"])
    Sample.accounts_initial (by decide +kernel)
  simp only [decide_eq_true_eq] at hset
  exact ⟨s, hset.2, setups_once hs⟩

end Cestos.Accounts
