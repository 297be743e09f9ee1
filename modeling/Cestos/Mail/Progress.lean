import Cestos.Mail.Queue

/-!
# Progress of the queue

As long as every attempt is recorded, the attempts of a delivery are counted and those
behind it get their turn. An attempt that is not leaves the queue as it was, and the next
tick begins with the same delivery again.
-/

namespace Cestos.Mail

open Cestos.Core

variable {m m' : Mailer} {c : Call} {d d' k : EmailDelivery} {id : Id}

/-! ## At most ten attempts -/

/-- The attempts of a pending delivery are counted, and no delivery has more than ten. -/
structure Mailer.Counted (m : Mailer) : Prop where
  pending : ∀ d ∈ m.deliveries.rows, d.status = .pending →
    m.tries d.id = d.attempts ∧ d.attempts < 10
  tries : ∀ id, m.tries id ≤ 10
  fresh : ∀ id, m.deliveries.find? id = none → m.tries id = 0

theorem counted_empty : Mailer.empty.Counted :=
  ⟨fun d hd => by simp [Mailer.empty] at hd, fun _ => Nat.zero_le _, fun _ _ => rfl⟩

theorem Mailer.Counted.commit (h : m.Counted) (hnext : m.nextDue c = some d)
    (hattempt : c.attempt d = some d') : (m.commit d').Counted := by
  obtain ⟨hmem, hpending, -⟩ := mem_of_nextDue hnext
  have hid := attempt_id hattempt
  have hfind : m.deliveries.find? d'.id = some d := hid ▸ Table.find?_of_mem hmem
  obtain ⟨htries, hlt⟩ := h.pending d hmem hpending
  refine ⟨fun r hr hp => ?_, fun i => ?_, fun i hi => ?_⟩
  · rcases (Table.mem_set_of_find? hfind).1 hr with ⟨hr, hne⟩ | rfl
    · rw [commit_tries, if_neg hne]
      exact h.pending r hr hp
    · rcases attempt_cases hattempt with rfl | rfl | ⟨error, rfl⟩
      · cases hp
      · cases hp
      · simp only [fail] at hp ⊢
        split at hp
        · cases hp
        · simp only [commit_tries, if_true]
          omega
  · rw [commit_tries]
    split
    · next hi =>
      rw [hi, hid]
      omega
    · exact h.tries i
  · have hne : d'.id ≠ i := by
      rintro rfl
      rw [commit_deliveries, Table.find?_set_self hfind] at hi
      cases hi
    rw [commit_deliveries, Table.find?_set_ne hne] at hi
    rw [commit_tries, if_neg (Ne.symm hne)]
    exact h.fresh i hi

theorem Mailer.Counted.drain {calls : List Call} (h : m.Counted)
    (hrecorded : DrainRecorded m calls) : (drain m calls).Counted := by
  induction calls generalizing m with
  | nil => exact h
  | cons c rest ih =>
      obtain ⟨hc, hrest⟩ := hrecorded
      rcases deliverOne_of_recorded hc with ⟨-, hidle⟩ | ⟨d, d', hnext, hattempt, hcommitted⟩
      · simpa only [Mail.drain, hidle] using h
      · rw [hcommitted] at hrest
        simpa only [Mail.drain, hcommitted] using ih (h.commit hnext hattempt) hrest

theorem Mailer.Counted.retry (h : m.Counted) (id : Id) (now : Instant) :
    (retryDelivery m id now).Counted := by
  unfold retryDelivery
  split
  · exact h
  · next d hd =>
    split
    · have hid : (requeue now d).id = id := Table.key_of_find? (r := d) hd
      have hfind : m.deliveries.find? (requeue now d).id = some d := hid ▸ hd
      refine ⟨fun r hr hp => ?_, fun i => ?_, fun i hi => ?_⟩
      · rcases (Table.mem_set_of_find? hfind).1 hr with ⟨hr, hne⟩ | rfl
        · simpa [hid ▸ hne] using h.pending r hr hp
        · exact ⟨if_pos hid, Nat.zero_lt_succ 9⟩
      · dsimp only
        split
        · omega
        · exact h.tries i
      · dsimp only
        split
        · rfl
        · next hne =>
          refine h.fresh i ?_
          rwa [Table.find?_set_ne fun heq => hne (heq.symm.trans hid)] at hi
    · exact h

theorem Mailer.Counted.enqueue (h : m.Counted) (id recipientId : Id) (kind : String)
    (createdAt now : Instant) : (enqueue m id recipientId kind createdAt now).Counted := by
  unfold Mail.enqueue
  split
  · exact h
  · next deliveries hinsert =>
    have hnone : m.deliveries.find? id = none :=
      Table.find?_eq_none.2 fun r hr => Table.insert?_fresh hinsert hr
    refine ⟨fun r hr hp => ?_, h.tries, fun i hi => h.fresh i ?_⟩
    · rcases (Table.mem_insert? hinsert).1 hr with hr | rfl
      · exact h.pending r hr hp
      · exact ⟨h.fresh id hnone, by simp⟩
    · rw [Table.find?_insert? hinsert] at hi
      split at hi
      · cases hi
      · exact hi

theorem Mailer.Counted.supersede (h : m.Counted) (userId : Id) :
    (supersede m userId).Counted := by
  refine ⟨fun r hr hp => ?_, h.tries, fun i hi => h.fresh i ?_⟩
  · obtain ⟨s, hs, rfl⟩ := List.mem_map.1 hr
    unfold cancelSetup at hp ⊢
    split at hp
    · cases hp
    · next hkept =>
      rw [if_neg hkept]
      exact h.pending s hs hp
  · rw [Mail.supersede, Table.find?_mapRows] at hi
    exact Option.map_eq_none_iff.1 hi

theorem Mailer.Counted.step {e : Event} (h : m.Counted) (hrecorded : e.Recorded m) :
    (step m e).Counted := by
  cases e with
  | tick configured calls =>
      cases configured with
      | false => exact h
      | true => exact h.drain (hrecorded rfl)
  | retry id now => exact h.retry id now
  | enqueue id recipientId kind createdAt now => exact h.enqueue id recipientId kind createdAt now
  | supersede userId => exact h.supersede userId

theorem Mailer.Counted.run {events : List Event} (h : m.Counted)
    (hrecorded : Recorded m events) : (run m events).Counted := by
  induction events generalizing m with
  | nil => exact h
  | cons e rest ih => exact ih (h.step hrecorded.1) hrecorded.2

/-! ## Whose turn it is -/

/-- The attempts that a delivery takes ahead of another. -/
def ahead (k d : EmailDelivery) : Nat :=
  if d.id ≠ k.id ∧ d.status = .pending ∧ d.createdAt ≤ k.createdAt then 10 - d.attempts else 0

/-- The attempts that the queue takes ahead of a delivery. -/
def backlog (m : Mailer) (k : EmailDelivery) : Nat := m.deliveries.sum (ahead k)

/-- A tick at which a delivery is due. -/
def Event.ready (k : EmailDelivery) : Event → Bool
  | .tick configured calls => configured ∧ ∃ c ∈ calls.head?, k.nextAttemptAt ≤ c.now
  | .retry _ _ | .enqueue _ _ _ _ _ | .supersede _ => false

/-- An event that may put a delivery ahead of another. -/
def Event.overtakes (k : EmailDelivery) : Event → Bool
  | .retry _ _ => true
  | .enqueue _ _ _ createdAt _ => createdAt ≤ k.createdAt
  | .tick _ _ | .supersede _ => false

/-- A delivery was attempted since, or a password reset has cancelled it. -/
def Attended (k : EmailDelivery) (m m' : Mailer) : Prop :=
  m.tries k.id < m'.tries k.id ∨
    ∃ d ∈ m'.deliveries.rows, d.id = k.id ∧ d.status = .cancelled

/-- A delivery is as it was and was not attempted since. -/
structure Waits (k : EmailDelivery) (m m' : Mailer) : Prop where
  mem : k ∈ m'.deliveries.rows
  tries : m'.tries k.id = m.tries k.id

theorem ahead_le (k d : EmailDelivery) : ahead k d ≤ 10 := by
  unfold ahead
  split <;> omega

theorem ahead_eq_zero (h : d.status ≠ .pending ∨ k.createdAt < d.createdAt) :
    ahead k d = 0 := by
  refine if_neg fun hahead => ?_
  rcases h with h | h
  · exact h hahead.2.1
  · exact absurd hahead.2.2 (not_le.2 h)

/-- An attempt leaves its delivery less far ahead of those behind it. -/
theorem ahead_attempt (hpending : d.status = .pending) (hlt : d.attempts < 10)
    (hne : d.id ≠ k.id) (hattempt : c.attempt d = some d') :
    ahead k d' ≤ ahead k d ∧ (d.createdAt ≤ k.createdAt → ahead k d' < ahead k d) := by
  have hd : d.createdAt ≤ k.createdAt → ahead k d = 10 - d.attempts := fun hle =>
    if_pos ⟨hne, hpending, hle⟩
  rcases attempt_cases hattempt with rfl | rfl | ⟨error, rfl⟩
  · rw [ahead_eq_zero (.inl (by simp))]
    exact ⟨Nat.zero_le _, fun hle => by rw [hd hle]; omega⟩
  · rw [ahead_eq_zero (.inl (by simp))]
    exact ⟨Nat.zero_le _, fun hle => by rw [hd hle]; omega⟩
  · by_cases hle : d.createdAt ≤ k.createdAt
    · have hfail : ahead k (fail c.now error d) < ahead k d := by
        rw [hd hle]
        unfold ahead
        split
        · simp only [fail]
          omega
        · omega
      exact ⟨hfail.le, fun _ => hfail⟩
    · rw [ahead_eq_zero (d := fail c.now error d) (.inr (not_le.1 hle))]
      exact ⟨Nat.zero_le _, fun h => absurd h hle⟩

theorem tries_le_drain (calls : List Call) (id : Id) : m.tries id ≤ (drain m calls).tries id := by
  induction calls generalizing m with
  | nil => exact le_rfl
  | cons c rest ih =>
      unfold drain
      split
      · exact le_rfl
      · next m' hcommitted =>
        refine le_trans ?_ ih
        unfold deliverOne at hcommitted
        split at hcommitted
        · cases hcommitted
        · split at hcommitted
          · cases hcommitted
            dsimp only [Mailer.tried]
            split <;> omega
          · cases hcommitted
      · next m' hraised =>
        unfold deliverOne at hraised
        split at hraised
        · cases hraised
        · split at hraised
          · cases hraised
          · cases hraised
            dsimp only [Mailer.tried]
            split <;> omega

/-- An attempt is one at the delivery, or takes from what is ahead of it. -/
theorem commit_waits (h : m.Counted) (hk : k ∈ m.deliveries.rows)
    (hnext : m.nextDue c = some d) (hattempt : c.attempt d = some d') :
    m.tries k.id < (m.commit d').tries k.id ∨
      Waits k m (m.commit d') ∧ backlog (m.commit d') k ≤ backlog m k ∧
        (d.createdAt ≤ k.createdAt → backlog (m.commit d') k < backlog m k) := by
  obtain ⟨hmem, hpending, -⟩ := mem_of_nextDue hnext
  have hid := attempt_id hattempt
  have hfind : m.deliveries.find? d'.id = some d := hid ▸ Table.find?_of_mem hmem
  by_cases hown : d.id = k.id
  · refine .inl ?_
    rw [commit_tries, if_pos (hid.trans hown).symm]
    omega
  · have hne : k.id ≠ d'.id := fun heq => hown (hid ▸ heq.symm)
    have hin : k ∈ (m.commit d').deliveries.rows :=
      (Table.mem_set_of_find? hfind).2 (.inl ⟨hk, hne⟩)
    have htries : (m.commit d').tries k.id = m.tries k.id := by
      rw [commit_tries, if_neg hne]
    have hsum : backlog (m.commit d') k + ahead k d = backlog m k + ahead k d' :=
      Table.add_sum_set (ahead k) hfind
    obtain ⟨hle, hlt⟩ := ahead_attempt hpending (h.pending d hmem hpending).2 hown hattempt
    refine .inr ⟨⟨hin, htries⟩, by omega, fun hold => ?_⟩
    have := hlt hold
    omega

/-- The drain loop attempts a delivery, or takes from what is ahead of it. -/
theorem drain_waits {calls : List Call} (h : m.Counted) (hrecorded : DrainRecorded m calls)
    (hk : k ∈ m.deliveries.rows) :
    m.tries k.id < (drain m calls).tries k.id ∨
      Waits k m (drain m calls) ∧ backlog (drain m calls) k ≤ backlog m k := by
  induction calls generalizing m with
  | nil => exact .inr ⟨⟨hk, rfl⟩, le_rfl⟩
  | cons c rest ih =>
      obtain ⟨hc, hrest⟩ := hrecorded
      rcases deliverOne_of_recorded hc with ⟨-, hidle⟩ | ⟨d, d', hnext, hattempt, hcommitted⟩
      · simp only [drain, hidle]
        exact .inr ⟨⟨hk, rfl⟩, le_rfl⟩
      · rw [hcommitted] at hrest
        simp only [drain, hcommitted]
        rcases commit_waits h hk hnext hattempt with htried | ⟨hwaits, hle, -⟩
        · exact .inl (htried.trans_le (tries_le_drain rest k.id))
        · rcases ih (h.commit hnext hattempt) hrest hwaits.mem with htried | ⟨hrestWaits, hrestLe⟩
          · exact .inl (hwaits.tries ▸ htried)
          · exact .inr ⟨⟨hrestWaits.mem, hrestWaits.tries.trans hwaits.tries⟩, hrestLe.trans hle⟩

/-- If the delivery is due at the first call, the loop takes something from what is ahead. -/
theorem drain_waits_of_due {calls : List Call} (h : m.Counted)
    (hrecorded : DrainRecorded m (c :: calls)) (hk : k ∈ m.deliveries.rows)
    (hpending : k.status = .pending) (hdue : k.nextAttemptAt ≤ c.now) :
    m.tries k.id < (drain m (c :: calls)).tries k.id ∨
      Waits k m (drain m (c :: calls)) ∧ backlog (drain m (c :: calls)) k < backlog m k := by
  obtain ⟨hc, hrest⟩ := hrecorded
  obtain ⟨d, hnext, hold⟩ := nextDue_of_due hk hpending hdue
  obtain ⟨d', hattempt⟩ := Option.isSome_iff_exists.1 (attempt_isSome.2 (hc d hnext))
  have hcommitted := deliverOne_of_attempt hnext hattempt
  rw [hcommitted] at hrest
  simp only [drain, hcommitted]
  rcases commit_waits h hk hnext hattempt with htried | ⟨hwaits, -, hlt⟩
  · exact .inl (htried.trans_le (tries_le_drain calls k.id))
  · rcases drain_waits (h.commit hnext hattempt) hrest hwaits.mem with htried | ⟨hrestWaits, hle⟩
    · exact .inl (hwaits.tries ▸ htried)
    · exact .inr ⟨⟨hrestWaits.mem, hrestWaits.tries.trans hwaits.tries⟩, hle.trans_lt (hlt hold)⟩

/-- An event attempts a delivery or leaves it waiting; a tick at which it is due takes from
what is ahead of it, and only a retry or an earlier message adds to that. -/
theorem step_waits {e : Event} (h : m.Counted) (hrecorded : e.Recorded m)
    (hk : k ∈ m.deliveries.rows) (hpending : k.status = .pending) :
    Attended k m (step m e) ∨ Waits k m (step m e) ∧
      backlog (step m e) k + (if e.ready k then 1 else 0) ≤
        backlog m k + 10 * (if e.overtakes k then 1 else 0) := by
  cases e with
  | tick configured calls =>
      cases configured with
      | false => exact .inr ⟨⟨hk, rfl⟩, by simp [Event.ready, step]⟩
      | true =>
          have hdrain := hrecorded rfl
          show Attended k m (drain m (calls.take 20)) ∨ Waits k m (drain m (calls.take 20)) ∧ _
          by_cases hready : ∃ c ∈ calls.head?, k.nextAttemptAt ≤ c.now
          · obtain ⟨c, hc, hdue⟩ := hready
            obtain ⟨rest, rfl⟩ : ∃ rest, calls = c :: rest := by
              cases calls with
              | nil => cases hc
              | cons a rest => exact ⟨rest, by rw [Option.some.inj hc]⟩
            refine (drain_waits_of_due h hdrain hk hpending hdue).imp .inl fun hw => ⟨hw.1, ?_⟩
            have hone : (if Event.ready k (.tick true (c :: rest)) then 1 else 0) ≤ 1 := by
              split <;> omega
            have hlt : backlog (step m (.tick true (c :: rest))) k < backlog m k := hw.2
            omega
          · refine (drain_waits h hdrain hk).imp .inl fun hw => ⟨hw.1, ?_⟩
            rw [if_neg (by simpa [Event.ready] using hready)]
            exact hw.2
  | retry id now =>
      refine .inr ?_
      show Waits k m (retryDelivery m id now) ∧ backlog (retryDelivery m id now) k ≤ _
      unfold retryDelivery
      split
      · exact ⟨⟨hk, rfl⟩, Nat.le_add_right _ _⟩
      · next d hd =>
        split
        · next hfailed =>
          have hid : (requeue now d).id = id := Table.key_of_find? (r := d) hd
          have hfind : m.deliveries.find? (requeue now d).id = some d := hid ▸ hd
          have hne : k.id ≠ id := by
            rintro rfl
            rw [Table.find?_of_mem hk] at hd
            obtain rfl := Option.some.inj hd
            rw [hpending] at hfailed
            cases hfailed
          refine ⟨⟨(Table.mem_set_of_find? hfind).2 (.inl ⟨hk, hid ▸ hne⟩), if_neg hne⟩, ?_⟩
          have hsum := Table.add_sum_set (ahead k) hfind
          have hle := ahead_le k (requeue now d)
          simp only [backlog, Event.overtakes, if_true]
          omega
        · exact ⟨⟨hk, rfl⟩, Nat.le_add_right _ _⟩
  | enqueue id recipientId kind createdAt now =>
      refine .inr ?_
      show Waits k m (enqueue m id recipientId kind createdAt now) ∧
        backlog (enqueue m id recipientId kind createdAt now) k ≤ _
      unfold enqueue
      split
      · exact ⟨⟨hk, rfl⟩, Nat.le_add_right _ _⟩
      · next deliveries hinsert =>
        refine ⟨⟨(Table.mem_insert? hinsert).2 (.inl hk), rfl⟩, ?_⟩
        have hsum := Table.sum_insert? (ahead k) hinsert
        have hle := ahead_le k ⟨id, recipientId, kind, createdAt, .pending, 0, now, none⟩
        simp only [backlog, Event.overtakes, decide_eq_true_eq]
        split
        · omega
        · next hlater =>
          have hzero := ahead_eq_zero (k := k)
            (d := ⟨id, recipientId, kind, createdAt, .pending, 0, now, none⟩)
            (.inr (not_le.1 hlater))
          omega
  | supersede userId =>
      have hrow : cancelSetup userId k ∈ (supersede m userId).deliveries.rows :=
        List.mem_map_of_mem hk
      by_cases hcancelled : (cancelSetup userId k).status = .cancelled
      · exact .inl (.inr ⟨_, hrow, cancelSetup_id userId k, hcancelled⟩)
      · have hsame : cancelSetup userId k = k := by
          unfold cancelSetup at hcancelled ⊢
          split at hcancelled
          · exact absurd rfl hcancelled
          · next hother => rw [if_neg hother]
        refine .inr ⟨⟨hsame ▸ hrow, rfl⟩, ?_⟩
        show (supersede m userId).deliveries.sum (ahead k) ≤ m.deliveries.sum (ahead k)
        rw [supersede, Table.sum_mapRows]
        refine Table.sum_le_sum fun d _ => ?_
        unfold cancelSetup
        split
        · rw [ahead_eq_zero (.inl (by simp))]
          exact Nat.zero_le _
        · exact le_rfl

/-- A delivery that is due at more ticks than there are attempts ahead of it is attended. -/
theorem run_attends {later : List Event} (h : m.Counted) (hrecorded : Recorded m later)
    (hk : k ∈ m.deliveries.rows) (hpending : k.status = .pending)
    (hticks : backlog m k + 10 * later.countP (·.overtakes k) < later.countP (·.ready k)) :
    ∃ n, Attended k m (run m (later.take n)) := by
  induction later generalizing m with
  | nil => simp at hticks
  | cons e rest ih =>
      rcases step_waits h hrecorded.1 hk hpending with hattended | ⟨hwaits, hle⟩
      · exact ⟨1, hattended⟩
      · rw [List.countP_cons, List.countP_cons] at hticks
        obtain ⟨n, hn⟩ := ih (h.step hrecorded.1) hrecorded.2 hwaits.mem (by omega)
        refine ⟨n + 1, ?_⟩
        rwa [Attended, hwaits.tries] at hn

/-- In every run whose attempts are all recorded no delivery has had more than ten attempts
since it was last retried by hand; an attempt commits a change exactly when what it leads to
can be recorded; and however the queue goes on, as long as it records its attempts, a pending
delivery that is due at enough ticks is attempted. -/
theorem deliveries_progress {events : List Event} (h : Recorded .empty events) :
    (∀ id, (run .empty events).tries id ≤ 10) ∧
    (∀ c d, (run .empty events).nextDue c = some d →
      (Commits (run .empty events) c d ↔ c.cancels d ∨ c.outcome.Recordable)) ∧
    ∀ k ∈ (run .empty events).deliveries.rows, k.status = .pending →
      ∀ later, Recorded (run .empty events) later →
        backlog (run .empty events) k + 10 * later.countP (·.overtakes k) <
          later.countP (·.ready k) →
        ∃ n, Attended k (run .empty events) (run (run .empty events) (later.take n)) :=
  have hcounted := counted_empty.run h
  ⟨hcounted.tries, fun _ _ hnext => commits_iff hnext, fun _ hk hpending _ hlater hticks =>
    run_attends hcounted hlater hk hpending hticks⟩

/-! ## Two deliveries -/

theorem run_append (m : Mailer) (earlier later : List Event) :
    run m (earlier ++ later) = run (run m earlier) later :=
  List.foldl_append

/-- Ticks whose first attempt is refused leave the deliveries as they are. -/
theorem run_refused (calls : List Call) (n : Nat) (hnext : m.nextDue c = some d)
    (hattempt : c.attempt d = none) :
    (run m (List.replicate n (.tick true (c :: calls)))).deliveries = m.deliveries ∧
      ∀ id, (run m (List.replicate n (.tick true (c :: calls)))).tries id =
        m.tries id + if id = d.id then n else 0 := by
  induction n generalizing m with
  | zero => exact ⟨rfl, fun id => by simp [run]⟩
  | succ n ih =>
      have hstep : step m (.tick true (c :: calls)) = m.tried d.id := by
        simp [step, drain, deliverOne, hnext, hattempt]
      rw [List.replicate_succ, run, List.foldl_cons, hstep]
      obtain ⟨hdeliveries, htries⟩ := ih (m := m.tried d.id) hnext
      refine ⟨hdeliveries, fun id => (htries id).trans ?_⟩
      simp only [Mailer.tried]
      split <;> omega

namespace Sample

/-- Two messages, the second of which was queued after the first. -/
def queued : List Event := [.enqueue 1 1 "LEAVE_DECISION" 1 1, .enqueue 2 2 "LEAVE_DECISION" 2 2]

def second : EmailDelivery := ⟨2, 2, "LEAVE_DECISION", 2, .pending, 0, 2, none⟩

/-- A call whose message the server refuses with a text. -/
def refusal (text : String) : Call where
  now := 3
  users := fun _ => some ⟨true, false, true, true⟩
  outcome := .failed "SMTPDataError" text
  order := fun i => i

def first : EmailDelivery := ⟨1, 1, "LEAVE_DECISION", 1, .pending, 0, 1, none⟩

/-- A text of so many characters. -/
def textOf (length : Nat) : String := String.ofList (List.replicate length 'x')

theorem length_textOf (length : Nat) : (textOf length).length = length := by
  rw [textOf, String.length_ofList, List.length_replicate]

theorem textOf_refused {length : Nat} (h : 200 < length) :
    ¬ ((refusal (textOf length)).cancels first ∨
      (refusal (textOf length)).outcome.Recordable) := by
  rintro (hcancels | hfits)
  · exact Bool.false_ne_true hcancels
  · have hle : (textOf length).length ≤ 200 :=
      (length_le_errorText "SMTPDataError" _).trans (length_le_of_fitsColumn hfits)
    rw [length_textOf] at hle
    omega

/-- The text of a server that says more than the column takes. -/
def longText : String := textOf 201

end Sample

/-- With a text that fits, the second delivery gets its turn. -/
theorem deliveries_progress_short :
    ∃ n, Attended Sample.second (run .empty Sample.queued) (run (run .empty Sample.queued)
      ((List.replicate 11 (.tick true [Sample.refusal "mailbox full"])).take n)) :=
  have hqueued : Recorded .empty Sample.queued := by decide +kernel
  (deliveries_progress hqueued).2.2 Sample.second (by decide +kernel) rfl
    (List.replicate 11 (.tick true [Sample.refusal "mailbox full"])) (by decide +kernel)
    (by decide +kernel)

/-- With one that does not, the first delivery is attempted over and over, no attempt commits
anything, and the second delivery never gets its turn. -/
theorem deliveries_progress_fails :
    (¬ ∀ events id, (run .empty events).tries id ≤ 10) ∧
    (¬ ∀ events c d, (run .empty events).nextDue c = some d → Commits (run .empty events) c d) ∧
    ¬ ∀ events, ∀ k ∈ (run .empty events).deliveries.rows, k.status = .pending → ∀ later : List Event,
      backlog (run .empty events) k + 10 * later.countP (·.overtakes k) <
        later.countP (·.ready k) →
      ∃ n, Attended k (run .empty events) (run (run .empty events) (later.take n)) := by
  have hnext : (run .empty Sample.queued).nextDue (Sample.refusal Sample.longText) =
      some Sample.first := by decide +kernel
  have hattempt : (Sample.refusal Sample.longText).attempt Sample.first = none :=
    Option.not_isSome_iff_eq_none.1 fun h => Sample.textOf_refused (by omega) (attempt_isSome.1 h)
  refine ⟨fun hall => ?_, fun hall => ?_, fun hall => ?_⟩
  · have hle := hall (Sample.queued ++
      List.replicate 11 (.tick true [Sample.refusal Sample.longText])) 1
    rw [run_append] at hle
    have htries := (run_refused [] 11 hnext hattempt).2 1
    change _ = _ + 11 at htries
    omega
  · exact Sample.textOf_refused (by omega) ((commits_iff hnext).1 (hall _ _ _ hnext))
  · obtain ⟨n, hattended⟩ := hall Sample.queued Sample.second (by decide +kernel) rfl
      (List.replicate 11 (.tick true [Sample.refusal Sample.longText])) (by decide +kernel)
    rw [List.take_replicate] at hattended
    obtain ⟨hdeliveries, htries⟩ := run_refused [] (min n 11) hnext hattempt
    rcases hattended with hmore | ⟨d, hd, -, hcancelled⟩
    · rw [htries, if_neg (by decide)] at hmore
      omega
    · rw [hdeliveries] at hd
      revert d
      decide +kernel

end Cestos.Mail
