import NestSdk.Outbox.Shared

/-!
# `Outbox.Lease` — how long a claim lasts

`claimDueBatch` stamps `claimed_at` with the application's `new Date()` and tests it against the database's
`NOW()`. Here the two clocks are apart: an `Event` carries the clock of the process that executes it, the
`Store` the database's. A claimed row is `Held` until its claim is settled or until the lease counted from its
stamp is over, so the lease counted from the database's clock is kept exactly by the claims whose stamp is
not behind that clock.
-/

namespace NestSdk
namespace Outbox

open Js Lib

/-- Claims wait for a lease of `claimTimeoutMs` or more; nothing else is restricted. -/
def ClaimsAfter (claimTimeoutMs : Time) : Op → Prop
  | .claimDueBatch dto _ _ => claimTimeoutMs ≤ dto.claimTimeoutMs
  | _ => True

/-- **The lease of one claim.** The statement `e` claims the row `id` under `token` in the state `s`. However the
    run goes on, another statement claims the row `claimTimeoutMs` later on the database's clock at the
    earliest, unless a terminal write with `token` succeeded in between. -/
def LeaseKept (claimTimeoutMs : Time) (s : Shared) (e : Event) (id token : Uuid) : Prop :=
  ∀ (s' : Shared) (r : Record) (newer : List Record),
    Run (ClaimsAfter claimTimeoutMs) (s.exec e) s' →
    s'.history = r :: newer ++ (s.exec e).history →
    (r.claims id).isSome = true → token ∉ winsOf id newer →
    s.store.now + claimTimeoutMs ≤ r.before.now

/-- The row is being processed under `token`, stamped `claimedAt`. -/
def Held (table : OutboxTable) (id token : Uuid) (claimedAt : Time) : Prop :=
  ∃ row, table.get id = some row ∧ row.status = .processing ∧ row.claimToken = some token ∧
    row.claimedAt = some claimedAt

/-! ## What a claim finds and leaves -/

/-- **A claimed row was claimable.** -/
theorem claimable_of_claims {s : Store} {e : Event} {id token : Uuid}
    (h : (s.record e).claims id = some token) :
    ∃ row dto locked, e.op = .claimDueBatch dto locked token ∧ s.table.get id = some row ∧
      (claimable s.now dto.claimTimeoutMs row).holds = true ∧
      (s.exec e).1.table.get id = some (stamp token e.clock row) := by
  have hissued : e.op.claimToken? = some token := claims_issued h
  generalize hafter : (s.exec e).1.table.get id = after
  cases rowMove_of_get hafter with
  | kept _ hnone _ | deletion _ _ hnone _ => exact absurd (h.symm.trans hnone) (by simp)
  | enqueued hop _ | published hop _ _ _ | failed hop _ _ _ =>
      rw [hop] at hissued
      exact absurd hissued (by simp [Op.claimToken?])
  | @claimed row dto locked token' hop hrow hdue hclaims =>
      obtain rfl : token' = token := Option.some.inj (hclaims.symm.trans h)
      exact ⟨row, dto, locked, hop, hrow, hdue, rfl⟩

/-- A claim leaves its row held, stamped with the clock of the process that claimed. -/
theorem held_of_claims {s : Store} {e : Event} {id token : Uuid}
    (h : (s.record e).claims id = some token) : Held (s.exec e).1.table id token e.clock := by
  obtain ⟨row, dto, locked, -, -, -, hafter⟩ := claimable_of_claims h
  exact ⟨_, hafter, rfl, rfl, rfl⟩

/-- A held row is claimable only once the lease counted from its stamp is over. -/
theorem lease_over_of_claimable {claimTimeoutMs claimedAt now timeout : Time} {row : OutboxEvent}
    (hstatus : row.status = .processing) (hstamp : row.claimedAt = some claimedAt)
    (htimeout : claimTimeoutMs ≤ timeout) (hdue : (claimable now timeout row).holds = true) :
    claimedAt + claimTimeoutMs < now := by
  obtain ⟨-, -, -, hfree⟩ := claimable_holds.mp hdue
  rw [hstatus, hstamp] at hfree
  obtain hpending | hnull | ⟨t, ht, hlt⟩ := hfree
  · exact absurd hpending (by simp)
  · exact absurd hnull (by simp)
  · obtain rfl := Option.some.inj ht
    linarith

theorem lease_over_of_claims {claimTimeoutMs claimedAt : Time} {s : Store} {e : Event}
    {id token token' : Uuid} (hallowed : ClaimsAfter claimTimeoutMs e.op)
    (hheld : Held s.table id token claimedAt) (h : (s.record e).claims id = some token') :
    claimedAt + claimTimeoutMs < s.now := by
  obtain ⟨row, dto, locked, hop, hrow, hdue, -⟩ := claimable_of_claims h
  obtain ⟨row', hrow', hstatus, -, hstamp⟩ := hheld
  obtain rfl : row' = row := Option.some.inj (hrow'.symm.trans hrow)
  rw [hop] at hallowed
  exact lease_over_of_claimable hstatus hstamp hallowed hdue

/-! ## What a run leaves of a claim -/

/-- What has become of a claim stamped `claimedAt`, once the statements `newer` followed it: it is settled, or
    its lease is over by the stamp, or the row is still held. -/
inductive Lease (claimTimeoutMs claimedAt : Time) (id token : Uuid) (newer : List Record) (s : Store) : Prop
  | settled (h : token ∈ winsOf id newer)
  | ended (h : claimedAt + claimTimeoutMs < s.now)
  | held (h : Held s.table id token claimedAt)

/-- The database's clock only advances. -/
theorem Run.now_le {Allowed : Op → Prop} {s s' : Shared} (h : Run Allowed s s') :
    s.store.now ≤ s'.store.now := by
  induction h with
  | refl => exact le_rfl
  | tail _ hstep ih =>
      cases hstep with
      | exec e _ _ => exact ih.trans (now_le_exec _ e)

/-- **One statement, and a claim.** The move the statement makes of the row decides the case. -/
theorem Lease.exec {claimTimeoutMs claimedAt : Time} {id token : Uuid} {newer : List Record} {s : Store}
    {e : Event} (hallowed : ClaimsAfter claimTimeoutMs e.op)
    (h : Lease claimTimeoutMs claimedAt id token newer s) :
    Lease claimTimeoutMs claimedAt id token (s.record e :: newer) (s.exec e).1 := by
  cases h with
  | settled hwins =>
      apply Lease.settled
      -- what was won stays won, whatever this statement wins
      rw [winsOf, List.filterMap_cons]
      split
      · exact hwins
      · exact List.mem_cons_of_mem _ hwins
  | ended hover => exact .ended (hover.trans_le (now_le_exec s e))
  | held hheld =>
      have hwon : (s.record e).wins id = some token →
          Lease claimTimeoutMs claimedAt id token (s.record e :: newer) (s.exec e).1 := by
        -- won by this statement
        intro hwins
        apply Lease.settled
        rw [winsOf, List.filterMap_cons, hwins]
        exact List.mem_cons_self
      obtain ⟨row, hrow, hstatus, htoken, hstamp⟩ := hheld
      generalize hafter : (s.exec e).1.table.get id = after
      cases rowMove_of_get hafter with
      | kept hsame _ _ => exact .held ⟨row, hafter.trans (hsame.symm.trans hrow), hstatus, htoken, hstamp⟩
      | enqueued _ hnone => exact absurd (hnone.symm.trans hrow) (by simp)
      | claimed _ _ _ hclaims =>
          have hover := lease_over_of_claims hallowed ⟨row, hrow, hstatus, htoken, hstamp⟩ hclaims
          exact .ended (hover.trans_le (now_le_exec s e))
      | published _ hrow' howned hwins | failed _ hrow' howned hwins =>
          -- a terminal write takes the row from the claim only with the claim's own token
          obtain rfl := Option.some.inj (hrow.symm.trans hrow')
          obtain ⟨-, -, htoken'⟩ := ownedBy_iff.mp howned
          exact hwon (hwins.trans (htoken'.symm.trans htoken))
      | deletion _ hrow' _ _ =>
          obtain rfl := Option.some.inj (hrow.symm.trans hrow')
          exact .held ⟨_, hafter, hstatus, htoken, hstamp⟩

/-- **A claim over a run:** by induction, the statements since the claim being what the history gained. -/
theorem Run.lease {claimTimeoutMs claimedAt : Time} {id token : Uuid} {s s' : Shared}
    (hheld : Held s.store.table id token claimedAt) (h : Run (ClaimsAfter claimTimeoutMs) s s') :
    ∃ newer, s'.history = newer ++ s.history ∧
      Lease claimTimeoutMs claimedAt id token newer s'.store := by
  induction h with
  | refl => exact ⟨[], rfl, .held hheld⟩
  | @tail mid _ _ hstep ih =>
      obtain ⟨newer, hhistory, hlease⟩ := ih
      cases hstep with
      | exec e hallowed _ =>
          refine ⟨mid.store.record e :: newer, ?_, hlease.exec hallowed⟩
          rw [Shared.exec, hhistory]
          rfl

/-- **The lease counted from the stamp is always kept,** whatever the clocks: a statement that claims the row
    again finds the claim settled, or comes later than `claimTimeoutMs` after its stamp. -/
theorem reclaim_after_stamp {claimTimeoutMs : Time} {s s' : Shared} {e : Event} {id token : Uuid}
    {r : Record} {newer : List Record} (hclaim : (s.store.record e).claims id = some token)
    (hrun : Run (ClaimsAfter claimTimeoutMs) (s.exec e) s')
    (hhistory : s'.history = r :: newer ++ (s.exec e).history) (hagain : (r.claims id).isSome = true)
    (hunsettled : token ∉ winsOf id newer) :
    s.store.now ≤ r.before.now ∧ e.clock + claimTimeoutMs < r.before.now := by
  obtain hsame | ⟨mid, hmid, hlast⟩ := Relation.ReflTransGen.cases_tail hrun
  · -- the history would be longer than itself
    rw [hsame] at hhistory
    have hlength := congrArg List.length hhistory
    simp only [List.cons_append, List.length_cons, List.length_append] at hlength
    omega
  · obtain ⟨newer', hhistory', hlease⟩ := Run.lease (held_of_claims hclaim) hmid
    cases hlast with
    | exec e' hallowed _ =>
        have hcons : mid.store.record e' :: mid.history = r :: (newer ++ (s.exec e).history) := hhistory
        obtain ⟨rfl, htail⟩ := List.cons.inj hcons
        obtain rfl : newer' = newer := List.append_cancel_right (hhistory'.symm.trans htail)
        obtain ⟨token', hclaim'⟩ := Option.isSome_iff_exists.mp hagain
        refine ⟨(now_le_exec s.store e).trans (Run.now_le hmid), ?_⟩
        cases hlease with
        | settled hwins => exact absurd hwins hunsettled
        | ended hover => exact hover
        | held hheld => exact lease_over_of_claims hallowed hheld hclaim'

/-! ## A lagging clock -/

/-- There is always a token that was never used. -/
theorem exists_fresh (history : List Record) : ∃ token : Uuid, token ∉ issuedTokens history := by
  obtain ⟨token, htoken⟩ := Infinite.exists_notMem_finset (issuedTokens history).toFinset
  exact ⟨token, fun h => htoken (List.mem_toFinset.mpr h)⟩

/-- A batch with room for the whole table takes every claimable row. -/
theorem mem_selectDue_of_claimable {table : OutboxTable} {now claimTimeoutMs : Time} {row : OutboxEvent}
    (hrow : row ∈ table.rows) (hdue : (claimable now claimTimeoutMs row).holds = true) :
    row ∈ selectDue table ⟨table.rows.length, claimTimeoutMs⟩ now [] := by
  unfold selectDue
  rw [List.take_of_length_le (by rw [List.length_insertionSort]; exact List.length_filter_le _ _)]
  rw [List.mem_insertionSort, List.mem_filter]
  exact ⟨hrow, by simp [hdue]⟩

/-- A time that is past the lease counted from a stamp that lags, and within the lease counted from the claim. -/
theorem exists_between_leases {claimTimeoutMs clock now : Time} (hbehind : clock < now)
    (hlease : 0 < claimTimeoutMs) :
    ∃ ms : ℚ≥0, clock + claimTimeoutMs < now + ms ∧ (ms : Time) < claimTimeoutMs := by
  refine ⟨⟨max 0 (claimTimeoutMs - (now - clock) / 2), le_max_left _ _⟩, ?_, ?_⟩
  · have hmax := le_max_right 0 (claimTimeoutMs - (now - clock) / 2)
    rw [NNRat.coe_mk]
    linarith
  · rw [NNRat.coe_mk]
    exact max_lt hlease (by linarith)

/-- A claim of everything that is due, under a lease of `claimTimeoutMs`. -/
def claimAll (s : Store) (claimTimeoutMs : Time) (token : Uuid) : Event where
  caller := ⟨0, 0⟩
  clock := s.now
  op := .claimDueBatch ⟨s.table.rows.length, claimTimeoutMs⟩ [] token

theorem claims_claimAll {s : Store} {claimTimeoutMs : Time} {id token : Uuid} {row : OutboxEvent}
    (hrow : s.table.get id = some row) (hdue : (claimable s.now claimTimeoutMs row).holds = true) :
    (s.record (claimAll s claimTimeoutMs token)).claims id = some token := by
  have hmem := mem_selectDue_of_claimable (Table.mem_of_get hrow) hdue
  rw [claims_of_claimDueBatch rfl, if_pos (mem_selectDue_ids.mpr ⟨row, hrow, hmem⟩)]

/-- **A claim whose stamp is behind the database's clock loses its row early:** once the lease counted from the
    stamp is over, and before the one counted from the claim is, another statement may take the row. -/
theorem not_leaseKept_of_behind {claimTimeoutMs : Time} {s : Shared} {e : Event} {id token : Uuid}
    (hclaim : (s.store.record e).claims id = some token) (hbehind : e.clock < s.store.now)
    (hlease : 0 < claimTimeoutMs) : ¬ LeaseKept claimTimeoutMs s e id token := by
  intro hkept
  obtain ⟨row, dto, locked, hop, hrow, hdue, hafter⟩ := claimable_of_claims hclaim
  obtain ⟨hdeleted, -, ⟨dueAt, hat, hle⟩, -⟩ := claimable_holds.mp hdue
  obtain ⟨ms, hover, hwithin⟩ := exists_between_leases hbehind hlease
  -- time passes, and then somebody claims everything that is due
  let wait : Event := ⟨⟨0, 0⟩, 0, .elapse ms⟩
  let waited : Shared := (s.exec e).exec wait
  have hnow : waited.store.now = s.store.now + ms := by
    simp only [waited, wait, Shared.exec, Store.exec, hop]
  -- the row is as the claim left it, and its stamp is older than the lease
  have hagain : (claimable waited.store.now claimTimeoutMs (stamp token e.clock row)).holds = true := by
    refine claimable_holds.mpr ⟨hdeleted, .inr rfl, ⟨dueAt, hat, ?_⟩, .inr (.inr ⟨e.clock, rfl, ?_⟩)⟩
    · rw [hnow]
      exact hle.trans (le_add_of_nonneg_right ms.2)
    · rw [hnow]
      linarith
  obtain ⟨token', hfresh⟩ := exists_fresh waited.history
  let again : Event := claimAll waited.store claimTimeoutMs token'
  have hclaims : (waited.store.record again).claims id = some token' := claims_claimAll hafter hagain
  have hrun : Run (ClaimsAfter claimTimeoutMs) (s.exec e) (waited.exec again) := by
    refine .tail (.tail .refl (.exec wait trivial ?_)) (.exec again le_rfl ?_)
    · intro token htoken
      exact absurd htoken (by simp [wait, Op.claimToken?])
    · intro token htoken
      exact Option.some.inj htoken ▸ hfresh
  have hunsettled : token ∉ winsOf id [(s.exec e).store.record wait] := by
    rw [winsOf, List.filterMap_cons, wins_of_terminal id (show wait.op.terminal? = none from rfl)]
    exact List.not_mem_nil
  have hkeeps := hkept (waited.exec again) (waited.store.record again) [(s.exec e).store.record wait]
    hrun rfl (hclaims ▸ rfl) hunsettled
  have hlate : s.store.now + claimTimeoutMs ≤ waited.store.now := hkeeps
  linarith

/-- **A claim keeps its lease exactly when its stamp is not behind the database's clock.** -/
theorem leaseKept_iff {claimTimeoutMs : Time} {s : Shared} {e : Event} {id token : Uuid}
    (hclaim : (s.store.record e).claims id = some token) :
    LeaseKept claimTimeoutMs s e id token ↔ s.store.now ≤ e.clock ∨ claimTimeoutMs ≤ 0 := by
  constructor
  · intro hkept
    by_contra hnot
    obtain ⟨hbehind, hlease⟩ := not_or.mp hnot
    exact not_leaseKept_of_behind hclaim (not_le.mp hbehind) (not_le.mp hlease) hkept
  · intro hclock s' r newer hrun hhistory hagain hunsettled
    obtain ⟨hlater, hstamp⟩ := reclaim_after_stamp hclaim hrun hhistory hagain hunsettled
    obtain hclock | hlease := hclock
    · linarith
    · linarith

/-- The row is due and the database's clock reads 1000. -/
def laggedShared : Shared := (⟨sampleStore, []⟩ : Shared).exec ⟨⟨0, 0⟩, 0, .elapse (1000 : ℕ)⟩

/-- A claim by a process whose clock reads 0. -/
def laggedClaim : Event := ⟨⟨1, 0⟩, 0, .claimDueBatch ⟨1, 100⟩ [] (str "k")⟩

/-- The row of a process that lags a second behind the database can be claimed again at once. -/
theorem lagging_claim_not_kept :
    Run (ClaimsAfter 100) ⟨sampleStore, []⟩ laggedShared ∧
    (laggedShared.store.record laggedClaim).claims (str "e") = some (str "k") ∧
    ¬ LeaseKept 100 laggedShared laggedClaim (str "e") (str "k") := by
  refine ⟨.tail .refl (.exec _ trivial (by simp [Op.claimToken?])), by decide +kernel, ?_⟩
  intro hkept
  let again : Event := ⟨⟨2, 0⟩, 1000, .claimDueBatch ⟨1, 100⟩ [] (str "l")⟩
  have hrun : Run (ClaimsAfter 100) (laggedShared.exec laggedClaim)
      ((laggedShared.exec laggedClaim).exec again) :=
    .tail .refl (.exec again le_rfl (by decide +kernel))
  have hlate := hkept _ ((laggedShared.exec laggedClaim).store.record again) [] hrun rfl
    (by decide +kernel) (by decide)
  exact absurd hlate (by decide +kernel)

/-- The claim of a process whose clock agrees with the database's keeps its lease. -/
theorem leaseKept_punctual :
    LeaseKept 100 ⟨sampleStore, []⟩ ⟨⟨1, 0⟩, 0, .claimDueBatch ⟨1, 100⟩ [] (str "k")⟩ (str "e") (str "k") :=
  (leaseKept_iff (by decide +kernel)).mpr (.inl le_rfl)

end Outbox
end NestSdk
