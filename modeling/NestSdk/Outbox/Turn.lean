import NestSdk.Outbox.Alone
import NestSdk.Outbox.DueOrder

/-!
# `Outbox.Turn` — no due row starves

A row that keeps failing is put back, perhaps to be due again at once and ahead of the others. What bounds how long it
may hold them up is that every attempt is counted: `backlog` is the number of attempts a table can still ask for, each
turn takes one off it (`Settles`), and a cycle with no place for a due row in its batch has a whole batch of turns
(`Cycled`).

**`due_attempted`**: once `k` batches cover the backlog, `k` cycles of one processor alone have attempted every row
that was due.
-/

namespace NestSdk
namespace Outbox

open Js Lib

/-! ## What is left to attempt -/

/-- How many attempts a row can still ask for: its last one, or as many as `maxAttempts` leaves it. -/
def remaining (maxAttempts : Nat) (row : OutboxEvent) : ℕ :=
  if row.deletedAt = none ∧ row.status.isTerminal = false then max 1 (maxAttempts - row.attemptCount) else 0

/-- How many attempts a table can still ask for. -/
def backlog (maxAttempts : Nat) (table : OutboxTable) : ℕ := (table.rows.map (remaining maxAttempts)).sum

theorem remaining_open {row : OutboxEvent} (maxAttempts : Nat) (hlive : row.deletedAt = none)
    (hstatus : row.status.isTerminal = false) : remaining maxAttempts row = max 1 (maxAttempts - row.attemptCount) :=
  if_pos ⟨hlive, hstatus⟩

theorem remaining_terminal {row : OutboxEvent} (maxAttempts : Nat) (hstatus : row.status.isTerminal = true) :
    remaining maxAttempts row = 0 := by
  apply if_neg
  rintro ⟨-, hopen⟩
  rw [hstatus] at hopen
  cases hopen

theorem remaining_pos {row : OutboxEvent} (maxAttempts : Nat) (hlive : row.deletedAt = none)
    (hstatus : row.status.isTerminal = false) : 0 < remaining maxAttempts row := by
  rw [remaining_open maxAttempts hlive hstatus]
  exact lt_max_of_lt_left one_pos

/-- The row has had an attempt, and that attempt is over: it is settled for good, or was charged for it. -/
structure Attempted (row row' : OutboxEvent) : Prop where
  count : row.attemptCount ≤ row'.attemptCount
  ended : row'.status.isTerminal = true ∨ row.attemptCount < row'.attemptCount

/-- A row of a table has had an attempt since it was `row`. -/
def HadAttempt (table : OutboxTable) (row : OutboxEvent) : Prop :=
  ∃ row', table.get row.id = some row' ∧ Attempted row row'

/-- Every row of the first table is in the second as it was, or has had an attempt. -/
def Onward (before after : OutboxTable) : Prop :=
  ∀ row, before.get row.id = some row → after.get row.id = some row ∨ HadAttempt after row

theorem Attempted.trans {row row' row'' : OutboxEvent} (h : Attempted row row') (h' : Attempted row' row'') :
    Attempted row row'' :=
  ⟨h.count.trans h'.count, h'.ended.imp_right fun hlt => h.count.trans_lt hlt⟩

/-- **What had an attempt has had one,** whatever comes after. -/
theorem Onward.hadAttempt {before after : OutboxTable} (h : Onward before after) {row : OutboxEvent}
    (hrow : HadAttempt before row) : HadAttempt after row := by
  obtain ⟨row', hget, hattempted⟩ := hrow
  have hid : row'.id = row.id := Table.get_key hget
  rcases h row' (by rw [hid]; exact hget) with hkept | ⟨row'', hget', hagain⟩
  · exact ⟨row', by rw [← hid]; exact hkept, hattempted⟩
  · exact ⟨row'', by rw [← hid]; exact hget', hattempted.trans hagain⟩

theorem Onward.trans {t₁ t₂ t₃ : OutboxTable} (h : Onward t₁ t₂) (h' : Onward t₂ t₃) : Onward t₁ t₃ := by
  intro row hrow
  rcases h row hrow with hkept | hhad
  · exact h' row hkept
  · exact .inr (h'.hadAttempt hhad)

/-- A row that is still work is in the backlog. -/
theorem backlog_pos {maxAttempts : Nat} {table : OutboxTable} {row : OutboxEvent}
    (hget : table.get row.id = some row) (hlive : row.deletedAt = none) (hstatus : row.status.isTerminal = false) :
    0 < backlog maxAttempts table := by
  have hmem : remaining maxAttempts row ∈ table.rows.map (remaining maxAttempts) :=
    List.mem_map_of_mem (Table.mem_of_get hget)
  exact (remaining_pos maxAttempts hlive hstatus).trans_le (List.single_le_sum (fun _ _ => Nat.zero_le _) _ hmem)

/-- A claim asks for no attempt more and no attempt less. -/
theorem backlog_claimDueBatch (maxAttempts : Nat) (table : OutboxTable) (dto : ClaimDueBatchDto) (now : Time)
    (locked : List Uuid) (claimToken : Uuid) (claimedAt : Time) :
    backlog maxAttempts (claimDueBatch table dto now locked claimToken claimedAt).1 = backlog maxAttempts table := by
  unfold backlog
  rw [rows_claimDueBatch, List.map_map]
  congr 1
  refine List.map_congr_left fun row _ => ?_
  show remaining maxAttempts (if row ∈ selectDue table dto now locked then stamp claimToken claimedAt row else row) = _
  split
  · next hsel =>
      obtain ⟨hlive, hstatus, -, -⟩ := claimable_holds.mp (mem_selectDue hsel).2
      have hopen : row.status.isTerminal = false := by
        rcases hstatus with h | h
        · rw [h]
          rfl
        · rw [h]
          rfl
      have hstamped : remaining maxAttempts (stamp claimToken claimedAt row) = max 1 (maxAttempts - row.attemptCount) :=
        remaining_open maxAttempts hlive rfl
      rw [hstamped, remaining_open maxAttempts hlive hopen]
  · rfl

/-! ## One event -/

/-- A row handed out under a lease, as the table still has it. -/
structure InHand (table : OutboxTable) (event : OutboxEvent) : Prop where
  stored : table.get event.id = some event
  live : event.deletedAt = none
  lease : event.lease ≠ none

theorem InHand.status {table : OutboxTable} {event : OutboxEvent} (h : InHand table event) :
    event.status = .processing := by
  obtain ⟨token, htoken⟩ := Option.ne_none_iff_exists'.mp h.lease
  have hstatus := (Option.filter_eq_some_iff.mp htoken).2
  rw [Bool.and_eq_true, beq_iff_eq] at hstatus
  exact hstatus.2

/-- What an event's turn does to a table. -/
structure Settles (maxAttempts : Nat) (event : OutboxEvent) (before after : OutboxTable) : Prop where
  hadAttempt : HadAttempt after event
  others : ∀ id, id ≠ event.id → after.get id = before.get id
  backlog : backlog maxAttempts after + 1 ≤ backlog maxAttempts before

/-- **A terminal write of a leased event settles it,** if the patch does. -/
theorem settles_updateClaimed {maxAttempts : Nat} {table : OutboxTable} {event : OutboxEvent} {token : Uuid}
    (h : InHand table event) (hlease : event.lease = some token) (patch : OutboxEvent → OutboxEvent)
    (hid : ∀ row, (patch row).id = row.id) (hattempted : Attempted event (patch event))
    (hcost : remaining maxAttempts (patch event) < remaining maxAttempts event) :
    Settles maxAttempts event table (updateClaimed table (event.claim token) patch hid).1 := by
  have howned : ownedBy (event.claim token) event = true :=
    ownedBy_iff.mpr ⟨rfl, rfl, (Option.filter_eq_some_iff.mp hlease).1⟩
  refine ⟨⟨patch event, ?_, hattempted⟩, ?_, ?_⟩
  · rw [get_updateClaimed, h.stored, Option.map_some, if_pos howned]
  · intro id hne
    rw [get_updateClaimed]
    cases hget : table.get id with
    | none => rfl
    | some row =>
        rw [Option.map_some, if_neg]
        intro hown
        exact hne ((Table.get_key hget).symm.trans (ownedBy_iff.mp hown).1)
  · have hsum : backlog maxAttempts (updateClaimed table (event.claim token) patch hid).1
        + remaining maxAttempts event = backlog maxAttempts table + remaining maxAttempts (patch event) :=
      Table.sum_updateWhere hid (fun row hown => (ownedBy_iff.mp hown).1) h.stored howned (remaining maxAttempts)
    omega

theorem InHand.remaining_pos {table : OutboxTable} {event : OutboxEvent} (h : InHand table event)
    (maxAttempts : Nat) : 0 < remaining maxAttempts event := by
  apply Outbox.remaining_pos maxAttempts h.live
  rw [h.status]
  rfl

theorem settles_markPublished {maxAttempts : Nat} {table : OutboxTable} {event : OutboxEvent} {token : Uuid}
    (h : InHand table event) (hlease : event.lease = some token) (publishedAt : Time) :
    Settles maxAttempts event table (markPublished table (event.claim token) publishedAt).1 := by
  have hattempted : Attempted event (publishedPatch publishedAt event) := ⟨Nat.le_refl _, .inl rfl⟩
  apply settles_updateClaimed h hlease _ _ hattempted
  have hnone : remaining maxAttempts (publishedPatch publishedAt event) = 0 := remaining_terminal maxAttempts rfl
  rw [hnone]
  exact h.remaining_pos maxAttempts

theorem settles_recordFailure {maxAttempts : Nat} {table : OutboxTable} {event : OutboxEvent} {token : Uuid}
    (h : InHand table event) (hlease : event.lease = some token) (nextAttemptAt : Option Time) (isDeadLetter : Bool)
    (reason : Str) (hretry : isDeadLetter = false → event.attemptCount + 1 < maxAttempts) :
    Settles maxAttempts event table (recordFailure table ⟨event.claim token, event.attemptCount + 1, nextAttemptAt,
      isDeadLetter, reason⟩).1 := by
  have hattempted : ∀ dto : RecordFailureDto, dto.attemptCount = event.attemptCount + 1 →
      Attempted event (failurePatch dto event) := by
    intro dto hcount
    have hlt : event.attemptCount < (failurePatch dto event).attemptCount := by
      show event.attemptCount < dto.attemptCount
      omega
    exact ⟨hlt.le, .inr hlt⟩
  apply settles_updateClaimed h hlease _ _ (hattempted _ rfl)
  cases isDeadLetter with
  | true =>
      rw [remaining_terminal maxAttempts rfl]
      exact h.remaining_pos maxAttempts
  | false =>
      have hlt := hretry rfl
      have hopen : event.status.isTerminal = false := by
        rw [h.status]
        rfl
      have hcost : ∀ dto : RecordFailureDto, dto.isDeadLetter = false → dto.attemptCount = event.attemptCount + 1 →
          remaining maxAttempts (failurePatch dto event) = max 1 (maxAttempts - (event.attemptCount + 1)) := by
        intro dto hretried hcount
        have hstatus : (failurePatch dto event).status.isTerminal = false := by
          unfold failurePatch
          rw [hretried]
          rfl
        have hlive : (failurePatch dto event).deletedAt = none := h.live
        rw [remaining_open maxAttempts hlive hstatus, ← hcount]
        rfl
      rw [hcost _ rfl rfl, remaining_open maxAttempts h.live hopen]
      omega

/-! ## One cycle -/

section Cycle

variable {config : OutboxProcessorConfig} {caller : Caller} {w : World} {event : OutboxEvent}

/-- A program served alone. -/
abbrev Alone {α : Type} (config : OutboxProcessorConfig) (caller : Caller) (Q : Except Thrown α → World → Prop)
    (p : Async α) (w : World) : Prop := p.Wp (alone config caller) Q w

/-- A command that only looks, and what comes after it. -/
theorem alone_looks_bind {α : Type} {c : Command} (hc : c.looks = true) {f : Reply c → Async α}
    {Q : Except Thrown α → World → Prop}
    (h : ∀ reply w', Leaves w.store.table w w' → Alone config caller Q (f reply) w') :
    Alone config caller Q (send c >>= f) w := by
  refine Prog.wp_ask_bind (alone_serves config caller w c) ?_ ?_
  · intro reply w' hreply
    exact h reply w' (alone_looks hc hreply).2
  · intro e w' hreply
    obtain ⟨⟨reply, hok⟩, -⟩ := alone_looks hc hreply
    cases hok

/-- What is asked of an event's turn: it ends, settles its row and nothing else, and no clock goes back. -/
def Turned (maxAttempts : Nat) (event : OutboxEvent) (w : World) (outcome : Except Thrown Unit) (w' : World) : Prop :=
  outcome = .ok () ∧ Settles maxAttempts event w.store.table w'.store.table ∧ w.store.now ≤ w'.store.now

theorem Turned.of_leaves {maxAttempts : Nat} {w₁ w₂ w' : World} {outcome : Except Thrown Unit}
    (hleaves : Leaves w₁.store.table w₁ w₂) (h : Turned maxAttempts event w₂ outcome w') :
    Turned maxAttempts event w₁ outcome w' := by
  obtain ⟨hok, hsettles, hnow⟩ := h
  rw [hleaves.table] at hsettles
  exact ⟨hok, hsettles, hleaves.now.trans hnow⟩

theorem InHand.of_leaves {w' : World} (h : InHand w.store.table event) (hleaves : Leaves w.store.table w w') :
    InHand w'.store.table event := hleaves.table ▸ h

/-- A failure of a leased event recorded, and what comes after it. -/
theorem alone_fail_bind {α : Type} {token : Uuid} (h : InHand w.store.table event) (hlease : event.lease = some token)
    (nextAttemptAt : Option Time) {isDeadLetter : Bool} (reason : Str)
    (hretry : isDeadLetter = false → event.attemptCount + 1 < config.maxAttempts) {f : Bool → Async α}
    {Q : Except Thrown α → World → Prop}
    (hf : ∀ recorded w', Turned config.maxAttempts event w (.ok ()) w' → Alone config caller Q (f recorded) w') :
    Alone config caller Q (send (.recordFailure
      ⟨event.claim token, event.attemptCount + 1, nextAttemptAt, isDeadLetter, reason⟩) >>= f) w := by
  refine Prog.wp_ask_bind (alone_serves config caller w _) ?_ ?_
  · intro recorded w' hreply
    obtain ⟨-, hnow, htable⟩ := alone_fail hreply
    refine hf recorded w' ⟨rfl, ?_, hnow⟩
    rw [htable]
    exact settles_recordFailure h hlease nextAttemptAt isDeadLetter reason hretry
  · intro e w' hreply
    obtain ⟨⟨recorded, hok⟩, -⟩ := alone_fail hreply
    cases hok

/-- **A caught failure is settled.** -/
theorem processFailure_turned (name : Str) {token : Uuid} (h : InHand w.store.table event)
    (hlease : event.lease = some token) (error : Thrown) :
    Alone config caller (Turned config.maxAttempts event w)
      (processFailure name event (event.claim token) (event.attemptCount + 1) config error) w := by
  unfold processFailure
  refine alone_looks_bind rfl fun (permanent : Bool) w₁ hleaves₁ => ?_
  by_cases hdead : (permanent || decide (event.attemptCount + 1 ≥ config.maxAttempts)) = true
  · simp only [hdead, ↓reduceIte]
    have hnever : ∀ {isDeadLetter : Bool}, isDeadLetter = true → isDeadLetter = false →
        event.attemptCount + 1 < config.maxAttempts := fun htrue hfalse => absurd (htrue.symm.trans hfalse) (by decide)
    apply alone_fail_bind (h.of_leaves hleaves₁) hlease none _ (hnever hdead)
    intro recorded w₂ hturned
    refine Prog.wp_ask (alone_serves config caller w₂ _) fun r w₃ hreply => ?_
    obtain ⟨⟨u, rfl⟩, hquiet⟩ := alone_looks rfl hreply
    obtain ⟨-, hsettles, hnow⟩ := hturned.of_leaves hleaves₁
    refine ⟨rfl, ?_, hnow.trans hquiet.now⟩
    rw [hquiet.table]
    exact hsettles
  · have hretry : event.attemptCount + 1 < config.maxAttempts := by
      rw [Bool.or_eq_true, not_or, decide_eq_true_iff] at hdead
      exact not_le.mp hdead.2
    simp only [hdead, ↓reduceIte, nextOutboxAttemptAt, Bool.false_eq_true]
    apply Prog.Wp.bind
    refine alone_looks_bind rfl fun (now : Time) w₂ hleaves₂ => ?_
    refine alone_looks_bind rfl fun (random : ℚ) w₃ hleaves₃ => ?_
    have hleaves : Leaves w.store.table w w₃ := by
      have h₁₂ : Leaves w.store.table w w₂ := hleaves₁.trans (hleaves₁.table ▸ hleaves₂)
      exact h₁₂.trans (h₁₂.table ▸ hleaves₃)
    apply Prog.wp_pure
    dsimp only
    refine alone_fail_bind (h.of_leaves hleaves) hlease _ _ (fun _ => hretry) ?_
    intro recorded w₄ hturned
    exact hturned.of_leaves hleaves

/-- **An event has its turn.** -/
theorem process_turned (name : Str) (h : InHand w.store.table event) :
    Alone config caller (Turned config.maxAttempts event w) (process name event config) w := by
  obtain ⟨token, hlease⟩ := Option.ne_none_iff_exists'.mp h.lease
  unfold process
  rw [hlease]
  refine Prog.Wp.tryCatch (Prog.wp_ask_bind (alone_serves config caller w _) ?_ ?_)
  · intro u w₁ hreply
    have hleaves := alone_publish hreply
    refine Prog.wp_ask_bind (alone_serves config caller w₁ _) ?_ ?_
    · intro marked w₂ hmark
      obtain ⟨publishedAt, -, hnow, htable⟩ := alone_mark hmark
      refine ⟨rfl, ?_, hleaves.now.trans hnow⟩
      rw [htable, hleaves.table]
      exact settles_markPublished h hlease publishedAt
    · intro e w₂ hmark
      obtain ⟨publishedAt, ⟨marked, hok⟩, -⟩ := alone_mark hmark
      cases hok
  · intro e w₁ hreply
    have hleaves := alone_publish hreply
    exact (processFailure_turned name (h.of_leaves hleaves) hlease e).mono fun _ _ hturned => hturned.of_leaves hleaves

/-- A cycle among its events: those still to come are as they were handed out, the others had their attempt. -/
structure Midway (maxAttempts : Nat) (claimed : World) (batch events : List OutboxEvent) (w : World) : Prop where
  nodup : (events.map OutboxEvent.id).Nodup
  leased : ∀ event ∈ events, InHand w.store.table event
  turns : ∀ event ∈ batch, event ∈ events ∨ HadAttempt w.store.table event
  onward : Onward claimed.store.table w.store.table
  backlog : backlog maxAttempts w.store.table + batch.length ≤ backlog maxAttempts claimed.store.table + events.length
  now : claimed.store.now ≤ w.store.now

/-- **One turn takes a cycle to the next event.** -/
theorem Midway.step {maxAttempts : Nat} {claimed w' : World} {batch events : List OutboxEvent}
    {outcome : Except Thrown Unit} (h : Midway maxAttempts claimed batch (event :: events) w)
    (hturned : Turned maxAttempts event w outcome w') :
    Midway maxAttempts claimed batch events w' := by
  obtain ⟨-, hsettles, hnow⟩ := hturned
  have hnodup : event.id ∉ events.map OutboxEvent.id ∧ (events.map OutboxEvent.id).Nodup := List.nodup_cons.mp h.nodup
  have honward : Onward w.store.table w'.store.table := by
    intro row hrow
    by_cases hid : row.id = event.id
    · have hstored := (h.leased event List.mem_cons_self).stored
      rw [hid, hstored] at hrow
      obtain rfl := Option.some.inj hrow
      exact .inr hsettles.hadAttempt
    · exact .inl ((hsettles.others row.id hid).trans hrow)
  refine ⟨hnodup.2, ?_, ?_, h.onward.trans honward, ?_, h.now.trans hnow⟩
  · intro later hlater
    obtain ⟨hstored, hlive, hlease⟩ := h.leased later (List.mem_cons_of_mem _ hlater)
    have hne : later.id ≠ event.id := fun heq => hnodup.1 (heq ▸ List.mem_map_of_mem hlater)
    exact ⟨(hsettles.others later.id hne).trans hstored, hlive, hlease⟩
  · intro other hother
    rcases h.turns other hother with hmem | hhad
    · rcases List.mem_cons.mp hmem with rfl | hlater
      · exact .inr hsettles.hadAttempt
      · exact .inl hlater
    · exact .inr (honward.hadAttempt hhad)
  · have hcount := h.backlog
    have hless := hsettles.backlog
    rw [List.length_cons] at hcount
    omega

/-- What a cycle under `config` asks the table for, the rows it gets when nobody else holds any, and the events it is
    handed for them. -/
abbrev OutboxProcessorConfig.dto (config : OutboxProcessorConfig) : ClaimDueBatchDto :=
  ⟨config.batchSize, config.claimTimeoutMs⟩

abbrev chosen (config : OutboxProcessorConfig) (table : OutboxTable) (now : Time) : List OutboxEvent :=
  selectDue table config.dto now []

abbrev handedOut (config : OutboxProcessorConfig) (table : OutboxTable) (now : Time) (token : Uuid) (claimedAt : Time) :
    List OutboxEvent :=
  (chosen config table now).map (stamp token claimedAt)

/-- What a cycle that found `n` rows did. -/
structure Cycled (config : OutboxProcessorConfig) (process : Nat) (n : Nat) (w w' : World) : Prop where
  idle : w'.running process = false
  now : w.store.now ≤ w'.store.now
  onward : Onward w.store.table w'.store.table
  backlog : backlog config.maxAttempts w'.store.table + n ≤ backlog config.maxAttempts w.store.table
  turns : ∀ row, w.store.table.get row.id = some row →
    (claimable w.store.now config.claimTimeoutMs row).holds = true →
    HadAttempt w'.store.table row ∨ n = config.batchSize

/-- The batch of a claim, as the table then has it. -/
theorem inHand_of_claim {table : OutboxTable} {dto : ClaimDueBatchDto} {now : Time} {token : Uuid} (claimedAt : Time)
    (htoken : token ≠ []) : ∀ row ∈ selectDue table dto now [],
      InHand (claimDueBatch table dto now [] token claimedAt).1 (stamp token claimedAt row) := by
  intro row hrow
  obtain ⟨hmem, hdue⟩ := mem_selectDue hrow
  refine ⟨?_, (claimable_holds.mp hdue).1, ?_⟩
  · show (claimDueBatch table dto now [] token claimedAt).1.get row.id = _
    rw [get_claimDueBatch, Table.get_of_mem hmem, Option.map_some, if_pos hrow]
  · have hlease : (stamp token claimedAt row).lease = some token := by
      refine Option.filter_eq_some_iff.mpr ⟨rfl, ?_⟩
      cases token with
      | nil => exact absurd rfl htoken
      | cons c cs => rfl
    rw [hlease]
    exact Option.some_ne_none token

/-- **A claim that leaves a due row out is full.** -/
theorem full_of_not_mem {table : OutboxTable} {dto : ClaimDueBatchDto} {now : Time} {row : OutboxEvent}
    (hmem : row ∈ table.rows) (hdue : (claimable now dto.claimTimeoutMs row).holds = true)
    (hout : row ∉ selectDue table dto now []) : (selectDue table dto now []).length = dto.batchSize := by
  have hvisible : row ∈ (visibleDue table dto.claimTimeoutMs now []).insertionSort dueBefore := by
    refine (List.mem_insertionSort dueBefore).mpr (List.mem_filter.mpr ⟨hmem, ?_⟩)
    rw [hdue]
    rfl
  have hlong : dto.batchSize < ((visibleDue table dto.claimTimeoutMs now []).insertionSort dueBefore).length := by
    by_contra hshort
    have hall := List.take_of_length_le (not_lt.mp hshort)
    apply hout
    show row ∈ ((visibleDue table dto.claimTimeoutMs now []).insertionSort dueBefore).take dto.batchSize
    rw [hall]
    exact hvisible
  rw [List.length_insertionSort] at hlong
  rw [length_selectDue]
  exact min_eq_left hlong.le

/-- **A batch worked off is a cycle done,** once its claim is known. -/
theorem Midway.cycled {claimed w' : World} {now claimedAt : Time} {token : Uuid} {process : Nat}
    (hdue : w.store.now ≤ now)
    (htable : claimed.store.table = (claimDueBatch w.store.table config.dto now [] token claimedAt).1)
    (h : Midway config.maxAttempts claimed (handedOut config w.store.table now token claimedAt) [] w')
    (hidle : w'.running process = false) (hnow : w.store.now ≤ w'.store.now) :
    Cycled config process (handedOut config w.store.table now token claimedAt).length w w' := by
  have hget := get_claimDueBatch w.store.table config.dto now [] token claimedAt
  -- a selected row had its attempt as the event it was handed out as
  have hselected : ∀ row ∈ chosen config w.store.table now, HadAttempt w'.store.table row := by
    intro row hrow
    rcases h.turns _ (List.mem_map_of_mem hrow) with hmem | ⟨row', hget', hattempted⟩
    · cases hmem
    · exact ⟨row', hget', hattempted.count, hattempted.ended⟩
  refine ⟨hidle, hnow, ?_, ?_, ?_⟩
  · intro row hrow
    by_cases hsel : row ∈ chosen config w.store.table now
    · exact .inr (hselected row hsel)
    · apply h.onward row
      rw [htable, hget, hrow, Option.map_some, if_neg hsel]
  · have hcount := h.backlog
    rw [htable, backlog_claimDueBatch, List.length_nil, Nat.add_zero] at hcount
    exact hcount
  · intro row hrow hclaimable
    by_cases hsel : row ∈ chosen config w.store.table now
    · exact .inl (hselected row hsel)
    · right
      rw [List.length_map]
      exact full_of_not_mem (Table.mem_of_get hrow) (claimable_mono hdue hclaimable) hsel

/-- **What a whole cycle does,** when its processor is idle at first. -/
theorem runCycle_cycled (name : Str) (config : OutboxProcessorConfig) (caller : Caller)
    (hidle : w.running caller.process = false) :
    Alone config caller (fun outcome w' => ∃ n, outcome = .ok n ∧ Cycled config caller.process n w w')
      (runCycle name) w := by
  unfold runCycle
  refine Prog.wp_ask_bind (alone_serves config caller w _) (fun (isRunning : Bool) w₁ henter => ?_) ?_
  swap
  · intro e w₁ hreply
    cases (alone_enter hreply).1
  obtain ⟨hwas, htable₁, hnow₁⟩ := alone_enter henter
  obtain rfl : isRunning = false := (Except.ok.inj hwas).trans hidle
  refine Prog.Wp.tryFinally (Prog.wp_ask_bind (alone_serves config caller w₁ _)
    (fun (read : OutboxProcessorConfig) w₂ hread => ?_) ?_)
  swap
  · intro e w₂ hreply
    cases (alone_config hreply).1
  obtain ⟨hconfig, hleaves₂⟩ := alone_config hread
  obtain rfl : config = read := (Except.ok.inj hconfig).symm
  refine Prog.wp_ask_bind (alone_serves config caller w₂ _) (fun (batch : List OutboxEvent) w₃ hclaim => ?_) ?_
  swap
  · intro e w₃ hreply
    obtain ⟨now, token, claimedAt, -, -, -, hok, -⟩ := alone_claim hreply
    cases hok
  obtain ⟨now, token, claimedAt, hnow₂, hnow₃, htoken, hbatch, htable₃⟩ := alone_claim hclaim
  have hdue : w.store.now ≤ now := hnow₁.trans (hleaves₂.now.trans hnow₂)
  rw [hleaves₂.table.trans htable₁] at hbatch htable₃
  rw [claimDueBatch_batch] at hbatch
  obtain rfl := Except.ok.inj hbatch
  have hstart : Midway config.maxAttempts w₃ (handedOut config w.store.table now token claimedAt)
      (handedOut config w.store.table now token claimedAt) w₃ := by
    refine ⟨?_, ?_, fun _ hevent => .inl hevent, fun _ hrow => .inl hrow, le_rfl, le_rfl⟩
    · rw [List.map_map]
      exact selectDue_nodup _ _ _ _
    · intro event hevent
      obtain ⟨row, hrow, rfl⟩ := List.mem_map.mp hevent
      rw [htable₃]
      exact inHand_of_claim claimedAt htoken row hrow
  refine Prog.Wp.bind ((Prog.wp_forM (Midway config.maxAttempts w₃ (handedOut config w.store.table now token claimedAt))
    ?_ _ hstart).mono ?_)
  · intro event events w₄ hmidway
    refine (process_turned name (hmidway.leased event List.mem_cons_self)).mono fun outcome w₅ hturned => ?_
    exact ⟨hturned.1, hmidway.step hturned⟩
  · rintro outcome w₄ ⟨rfl, hmidway⟩
    refine Prog.wp_ask (alone_serves config caller w₄ _) fun left w₅ hleave => ?_
    obtain ⟨rfl, htable₅, hnow₅, hidle₅⟩ := alone_leave hleave
    have hnow : w₃.store.now ≤ w₅.store.now := hmidway.now.trans hnow₅
    have hdone : Midway config.maxAttempts w₃ (handedOut config w.store.table now token claimedAt) [] w₅ := by
      obtain ⟨hnodup, -, hturns, honward, hbacklog, -⟩ := hmidway
      rw [← htable₅] at hturns honward hbacklog
      exact ⟨hnodup, fun _ hevent => (List.not_mem_nil hevent).elim, hturns, honward, hbacklog, hnow⟩
    exact ⟨_, rfl, hdone.cycled hdue htable₃ hidle₅ (hdue.trans (hnow₃.trans hnow))⟩

end Cycle

/-! ## Cycle after cycle -/

/-- What `k` cycles did: a row due at first has had an attempt, or is as it was and `k` whole batches were taken off
    the backlog. -/
theorem CyclesAlone.cycled {name : Str} {config : OutboxProcessorConfig} {process first k : Nat} {w w' : World}
    (h : CyclesAlone name config process first k w w') (hidle : w.running process = false) :
    ∀ row, w.store.table.get row.id = some row → (claimable w.store.now config.claimTimeoutMs row).holds = true →
      HadAttempt w'.store.table row ∨ (w'.store.table.get row.id = some row ∧
        backlog config.maxAttempts w'.store.table + k * config.batchSize
          ≤ backlog config.maxAttempts w.store.table) := by
  -- what had an attempt in the first cycle keeps it through the others
  have honward : ∀ {first k w w'}, CyclesAlone name config process first k w w' → w.running process = false →
      Onward w.store.table w'.store.table := by
    intro first k w w' h
    induction h with
    | done first w => exact fun _ _ hrow => .inl hrow
    | @cycle first k w mid w' outcome hcycle _ ih =>
        intro hidle
        obtain ⟨n, -, hcycled⟩ := (runCycle_cycled name config ⟨process, first⟩ hidle).ends hcycle
        exact hcycled.onward.trans (ih hcycled.idle)
  induction h with
  | done first w =>
      intro row hrow _
      exact .inr ⟨hrow, by omega⟩
  | @cycle first k w mid w' outcome hcycle hrest ih =>
      intro row hrow hdue
      obtain ⟨n, -, hcycled⟩ := (runCycle_cycled name config ⟨process, first⟩ hidle).ends hcycle
      have hlater := honward hrest hcycled.idle
      rcases hcycled.onward row hrow with hkept | hhad
      · rcases hcycled.turns row hrow hdue with hhad | hfull
        · exact .inl (hlater.hadAttempt hhad)
        · -- the batch was full, so it took its size off the backlog
          refine (ih hcycled.idle row hkept (claimable_mono hcycled.now hdue)).imp_right ?_
          rintro ⟨hkept', hcount⟩
          refine ⟨hkept', ?_⟩
          have hless := hcycled.backlog
          rw [hfull] at hless
          rw [Nat.succ_mul]
          omega
      · exact .inl (hlater.hadAttempt hhad)

/-- From an idle processor there are `k` cycles. -/
theorem exists_cycles (name : Str) (config : OutboxProcessorConfig) (process first k : Nat) {w : World}
    (hidle : w.running process = false) : ∃ w', CyclesAlone name config process first k w w' := by
  induction k generalizing first w with
  | zero => exact ⟨w, .done first w⟩
  | succ k ih =>
      have hwp := runCycle_cycled name config ⟨process, first⟩ hidle
      obtain ⟨outcome, mid, hends⟩ := hwp.exists_ends
      obtain ⟨n, -, hcycled⟩ := hwp.ends hends
      obtain ⟨w', hrest⟩ := ih (first + 1) hcycled.idle
      exact ⟨w', .cycle hends hrest⟩

/-- **A row that was due has had an attempt,** once the backlog is covered. -/
theorem CyclesAlone.hadAttempt {name : Str} {config : OutboxProcessorConfig} {process first k : Nat} {w w' : World}
    (h : CyclesAlone name config process first k w w') (hidle : w.running process = false)
    (hk : backlog config.maxAttempts w.store.table ≤ k * config.batchSize) {row : OutboxEvent}
    (hrow : w.store.table.get row.id = some row)
    (hdue : (claimable w.store.now config.claimTimeoutMs row).holds = true) : HadAttempt w'.store.table row := by
  rcases h.cycled hidle row hrow hdue with hhad | ⟨hkept, hcount⟩
  · exact hhad
  · -- untouched, the row would still be in a backlog that is used up
    obtain ⟨hlive, hstatus, -, -⟩ := claimable_holds.mp hdue
    have hopen : row.status.isTerminal = false := by
      rcases hstatus with h | h
      · rw [h]
        rfl
      · rw [h]
        rfl
    have hpos : 0 < backlog config.maxAttempts w'.store.table := backlog_pos hkept hlive hopen
    omega

end Outbox
end NestSdk
