import NestSdk.Lib.Fencing
import NestSdk.Outbox.Shared

/-!
# `Outbox.ClaimToken` — the claim token is a fencing token

For each row, what a `Shared` run does to its claim is a run of `Fence`: a claim that takes the row is an
acquisition under a fresh token, a successful terminal write is a settlement, everything else leaves the
fence alone (`step_fence`). The safety of stale credentials is then the safety of fencing, and what is left
to say about the table itself is that a refused write writes nothing and a terminal row stays as it is.
-/

namespace NestSdk
namespace Outbox

open Js Lib

/-- The claim of one row, seen as a fence. -/
def fenceOf (id : Uuid) (s : Shared) : Fence Uuid where
  issued := claimsOf id s.history
  holder := (s.store.table.get id).bind OutboxEvent.claimToken
  settled := winsOf id s.history

variable {Allowed : Op → Prop}

/-- **One statement is at most one fencing step for each row.** -/
theorem step_fence (hnew : ∀ row, Allowed (.enqueue row) → row.claimToken = none)
    {s s' : Shared} (h : Step Allowed s s') (id : Uuid) : Fence.Steps (fenceOf id s) (fenceOf id s') := by
  cases h with
  | exec e hallowed hfresh =>
      have hm := exec_rowMove s.store e id
      have hshape : fenceOf id (s.exec e) =
          ⟨((s.store.record e).claims id).toList ++ claimsOf id s.history,
            ((s.store.exec e).1.table.get id).bind OutboxEvent.claimToken,
            ((s.store.record e).wins id).toList ++ winsOf id s.history⟩ := by
        simp only [fenceOf, Shared.exec, claimsOf, winsOf, List.filterMap_cons]
        cases (s.store.record e).claims id <;> cases (s.store.record e).wins id <;> rfl
      rw [hshape]
      generalize (s.store.exec e).1.table.get id = after at hm
      cases hm with
      | kept hsame hclaims hwins =>
          rw [hclaims, hwins, ← hsame]
          exact .refl
      | enqueued hop hnone =>
          have htoken := hnew _ (hop ▸ hallowed)
          have hclaims := claims_of_claimToken (s := s.store) id (by rw [hop]; rfl)
          have hwins := wins_of_terminal (s := s.store) id (by rw [hop]; rfl)
          have hsame : fenceOf id s = ⟨claimsOf id s.history, none, winsOf id s.history⟩ := by
            simp only [fenceOf, hnone, Option.bind_none]
          rw [hclaims, hwins, hsame, Option.bind_some, htoken]
          exact .refl
      | @claimed row dto locked token hop hrow hdue hclaims =>
          have hwins := wins_of_terminal (s := s.store) id (by rw [hop]; rfl)
          have hnot : token ∉ claimsOf id s.history :=
            fun hmem => hfresh token (by rw [hop]; rfl) (claimsOf_issued hmem)
          rw [hclaims, hwins]
          exact .single (.acquire hnot)
      | @published row claim hop hrow howned hwins =>
          have hclaims := claims_of_claimToken (s := s.store) id (by rw [hop]; rfl)
          rw [hclaims, hwins]
          refine .single (.settle (t := claim.claimToken) ?_)
          simp only [fenceOf, hrow, Option.bind_some]
          exact (ownedBy_iff.mp howned).2.2
      | @failed row dto hop hrow howned hwins =>
          have hclaims := claims_of_claimToken (s := s.store) id (by rw [hop]; rfl)
          rw [hclaims, hwins]
          refine .single (.settle (t := dto.claimToken) ?_)
          simp only [fenceOf, hrow, Option.bind_some]
          exact (ownedBy_iff.mp howned).2.2
      | @deletion row deletedAt _ hrow hclaims hwins =>
          have hsame : fenceOf id s
              = ⟨claimsOf id s.history, row.claimToken, winsOf id s.history⟩ := by
            simp only [fenceOf, hrow, Option.bind_some]
          rw [hclaims, hwins, hsame]
          exact .refl

/-- **Every run is, row by row, a run of the fence.** -/
theorem run_fence (hnew : ∀ row, Allowed (.enqueue row) → row.claimToken = none)
    {start s : Shared} (hempty : start.history = [])
    (hstart : ∀ row ∈ start.store.table.rows, row.claimToken = none)
    (hrun : Run Allowed start s) (id : Uuid) : Fence.Steps Fence.init (fenceOf id s) := by
  induction hrun with
  | refl =>
      have hinit : fenceOf id start = Fence.init := by
        have hholder : (start.store.table.get id).bind OutboxEvent.claimToken = none := by
          cases hget : start.store.table.get id with
          | none => rfl
          | some row => exact hstart row (Table.mem_of_get hget)
        simp only [fenceOf, hempty, hholder]
        rfl
      rw [hinit]
  | tail _ hstep ih => exact ih.trans (step_fence hnew hstep id)

/-- A terminal write that answers true found the row still carrying its claim. -/
theorem holder_of_written {s : Store} {e : Event} {claim : Claim}
    (hop : e.op.terminal? = some claim) (hans : (s.exec e).2 = .written true) :
    (s.table.get claim.id).bind OutboxEvent.claimToken = some claim.claimToken := by
  obtain ⟨patch, hid, hexec⟩ := exec_of_terminal (s := s) hop
  rw [hexec] at hans
  obtain ⟨row, hrow, howned⟩ := updateClaimed_eq_true.mp (Answer.written.inj hans)
  rw [hrow, Option.bind_some]
  exact (ownedBy_iff.mp howned).2.2

/-- A terminal write that answers false leaves the whole store as it was. -/
theorem exec_of_refused {s : Store} {e : Event} {claim : Claim}
    (hop : e.op.terminal? = some claim) (hans : (s.exec e).2 = .written false) :
    (s.exec e).1 = s := by
  obtain ⟨patch, hid, hexec⟩ := exec_of_terminal (s := s) hop
  rw [hexec] at hans ⊢
  rw [updateClaimed_eq_false (Answer.written.inj hans)]

/-- **A terminal row is out of reach of claims and terminal writes:** it is not claimable, and it carries no
    claim a terminal write could match. -/
theorem exec_of_terminal_row {s : Store} {e : Event} {id : Uuid} {row : OutboxEvent}
    (hrow : s.table.get id = some row) (hterminal : row.status.isTerminal = true)
    (hprocessing : row.claimToken ≠ none → row.status = .processing)
    (hop : e.op.isOutbox = true) : (s.exec e).1.table.get id = some row := by
  have hclaim : row.claimToken = none := by
    by_contra hc
    rw [hprocessing hc] at hterminal
    exact absurd hterminal (by decide)
  have hm := exec_rowMove s e id
  generalize (s.exec e).1.table.get id = after at hm
  cases hm with
  | kept hsame _ _ => rw [← hsame, hrow]
  | enqueued hop' _ => rw [hop'] at hop; exact absurd hop (by simp [Op.isOutbox, Op.claimToken?, Op.terminal?])
  | claimed _ hrow' hdue _ =>
      obtain rfl := Option.some.inj (hrow'.symm.trans hrow)
      rw [not_claimable_of_terminal hterminal] at hdue
      exact absurd hdue (by decide)
  | published _ hrow' howned _ =>
      obtain rfl := Option.some.inj (hrow'.symm.trans hrow)
      rw [(ownedBy_iff.mp howned).2.2] at hclaim
      exact absurd hclaim (by simp)
  | failed _ hrow' howned _ =>
      obtain rfl := Option.some.inj (hrow'.symm.trans hrow)
      rw [(ownedBy_iff.mp howned).2.2] at hclaim
      exact absurd hclaim (by simp)
  | deletion hop' _ _ _ => exact absurd (hop.symm.trans hop') (by decide)

/-- **A terminal row stays as it is for ever:** later statements can only move its soft-delete marker. -/
theorem run_of_terminal_row {s s' : Shared} {id : Uuid} {row : OutboxEvent} (hrow : s.store.table.get id = some row)
    (hterminal : row.status.isTerminal = true) (hclaim : row.claimToken = none)
    (hrun : Run Allowed s s') :
    ∃ deletedAt, s'.store.table.get id = some { row with deletedAt := deletedAt } := by
  induction hrun with
  | refl => exact ⟨row.deletedAt, hrow⟩
  | @tail mid _ _ hstep ih =>
      obtain ⟨deletedAt, hmid⟩ := ih
      cases hstep with
      | exec e hallowed _ =>
          by_cases hop : e.op.isOutbox = true
          · exact ⟨deletedAt, exec_of_terminal_row hmid hterminal (fun hc => absurd hclaim hc) hop⟩
          · have hm := exec_rowMove mid.store e id
            show ∃ d, (mid.store.exec e).1.table.get id = some { row with deletedAt := d }
            generalize (mid.store.exec e).1.table.get id = after at hm
            cases hm with
            | kept hsame _ _ => exact ⟨deletedAt, hsame ▸ hmid⟩
            | enqueued _ hnone => rw [hnone] at hmid; exact absurd hmid (by simp)
            | claimed hop' _ _ _ => exact absurd (by rw [hop']; rfl) hop
            | published hop' _ _ _ => exact absurd (by rw [hop']; rfl) hop
            | failed hop' _ _ _ => exact absurd (by rw [hop']; rfl) hop
            | @deletion row' d _ hrow' _ _ =>
                obtain rfl := Option.some.inj (hrow'.symm.trans hmid)
                exact ⟨d, rfl⟩

/-! ## Claim-token safety -/

/-- **Claim-token safety.** After any interleaving over a table of unclaimed pending rows, and for any further
    statement `e` with any credentials whatever:
    a terminal write that answers true carries the token of the row's newest claim, which has not been settled
    before; no claim of a row is settled twice; a terminal write that answers false leaves the store alone; and
    a published or dead-lettered row is changed neither by `e` nor by anything after it. -/
theorem claim_token_safety {start s : Shared} (hstart : Initial Unclaimed start)
    (hrun : Run (Enqueues Unclaimed) start s) (e : Event) :
    (∀ claim, e.op.terminal? = some claim → (s.store.exec e).2 = .written true →
      (claimsOf claim.id s.history).head? = some claim.claimToken ∧
        claim.claimToken ∉ winsOf claim.id s.history) ∧
    (∀ id token, (winsOf id s.history).count token ≤ 1) ∧
    (∀ claim, e.op.terminal? = some claim → (s.store.exec e).2 = .written false →
      (s.store.exec e).1 = s.store) ∧
    (∀ id row, s.store.table.get id = some row →
      row.status = .published ∨ row.status = .deadLetter →
      (e.op.isOutbox = true → (s.store.exec e).1.table.get id = some row) ∧
      ∀ s', Run (Enqueues Unclaimed) s s' →
        ∃ deletedAt, s'.store.table.get id = some { row with deletedAt := deletedAt }) := by
  have hnew : ∀ row, Enqueues Unclaimed (.enqueue row) → row.claimToken = none := fun row h => h.2
  have hrows : ∀ row ∈ start.store.table.rows, row.claimToken = none :=
    fun row h => (hstart.rows row h).2
  refine ⟨?_, ?_, ?_, ?_⟩
  · intro claim hop hans
    exact Fence.settle_newest (run_fence hnew hstart.history hrows hrun claim.id)
      (holder_of_written hop hans)
  · intro id token
    exact List.nodup_iff_count_le_one.mp
      (Fence.settled_nodup (run_fence hnew hstart.history hrows hrun id)) token
  · intro claim hop hans
    exact exec_of_refused hop hans
  · intro id row hrow hstatus
    have hterminal : row.status.isTerminal = true := by
      rcases hstatus with hs | hs <;> rw [hs] <;> rfl
    have hprocessing : row.claimToken ≠ none → row.status = .processing :=
      Run.processing_of_claimToken hnew hrows hrun hrow
    have hclaim : row.claimToken = none := by
      by_contra hc
      rcases hstatus with hs | hs <;> rw [hprocessing hc] at hs <;> exact absurd hs (by decide)
    exact ⟨exec_of_terminal_row hrow hterminal hprocessing,
      fun s' hrun' => run_of_terminal_row hrow hterminal hclaim hrun'⟩

/-- A row claimed by caller 0, whose lease runs out, then claimed again by caller 1. -/
def reclaimedRun : Shared :=
  (((⟨sampleStore, []⟩ : Shared).exec ⟨⟨0, 0⟩, 0, .claimDueBatch ⟨10, 100⟩ [] (str "c0")⟩).exec
    ⟨⟨0, 0⟩, 0, .elapse 200⟩).exec ⟨⟨1, 0⟩, 200, .claimDueBatch ⟨10, 100⟩ [] (str "c1")⟩

theorem reclaimedRun_run : Run (Enqueues Unclaimed) ⟨sampleStore, []⟩ reclaimedRun := by
  refine .tail (.tail (.single (.exec ⟨⟨0, 0⟩, 0, .claimDueBatch ⟨10, 100⟩ [] (str "c0")⟩ trivial ?_))
    (.exec ⟨⟨0, 0⟩, 0, .elapse 200⟩ trivial ?_)) (.exec ⟨⟨1, 0⟩, 200, .claimDueBatch ⟨10, 100⟩ [] (str "c1")⟩ trivial ?_)
  · intro token _
    exact List.not_mem_nil
  · intro token h
    exact absurd h (by simp [Op.claimToken?])
  · intro token h
    obtain rfl : str "c1" = token := Option.some.inj h
    decide +kernel

/-- The stale caller's write is refused and changes nothing; the new owner's lands. -/
theorem claim_token_safety_reclaimed :
    (reclaimedRun.store.exec ⟨⟨0, 0⟩, 300, .markPublished ⟨str "e", str "t", str "c0"⟩⟩).1
      = reclaimedRun.store ∧
    (claimsOf (str "e") reclaimedRun.history).head? = some (str "c1") :=
  have hstart : Initial Unclaimed ⟨sampleStore, []⟩ :=
    ⟨rfl, fun row hrow => List.mem_singleton.mp hrow ▸ ⟨rfl, rfl⟩⟩
  ⟨(claim_token_safety hstart reclaimedRun_run _).2.2.1 ⟨str "e", str "t", str "c0"⟩ rfl
      (by decide +kernel),
    ((claim_token_safety hstart reclaimedRun_run
      ⟨⟨1, 0⟩, 300, .markPublished ⟨str "e", str "t", str "c1"⟩⟩).1 ⟨str "e", str "t", str "c1"⟩ rfl
      (by decide +kernel)).1⟩

end Outbox
end NestSdk
