import NestSdk.Lib.Solo
import NestSdk.Outbox.World

/-!
# `Outbox.Alone` — one processor, and nobody else

The surroundings of a cycle while its processor is the only one at work: the database answers, the service's `publish`
throws or not, and time passes as it likes, also by different amounts on the two clocks. Served so, a command ends in
one of the ways `Effect` knows (`Served.effect`), and a sequence of cycles is an interleaving like any other
(`CyclesAlone.run`). Each command has one lemma, which says what it leaves of the world.
-/

namespace NestSdk
namespace Outbox

open Js Lib

/-! ## A processor alone -/

/-- Time passes, on the clock of a process or of the database. -/
inductive Passes (w : World) : World → Prop
  | tick (process : Nat) (ms : ℚ≥0) : Passes w (w.tick process ms)
  | elapse (e : Event) (ms : ℚ≥0) (hop : e.op = .elapse ms) : Passes w (w.exec e)

/-- How a command is served while the database answers: only `publish` throws, no row is locked, and `randomUUID`
    makes tokens that are new and not empty. -/
inductive Served (config : OutboxProcessorConfig) (caller : Caller) (w : World) :
    (c : Command) → Except Thrown (Reply c) → World → Prop
  | enter : Served config caller w .enter (.ok (w.running caller.process)) (w.setRunning caller.process true)
  | leave : Served config caller w .leave (.ok ()) (w.setRunning caller.process false)
  | config : Served config caller w .config (.ok config) w
  | stored {c : Command} {op : Op} (claimToken : Uuid) (hop : c.statement [] claimToken = some op)
      (hnonempty : claimToken ≠ [])
      (hfresh : ∀ token, op.claimToken? = some token → token ∉ issuedTokens w.history) {reply : Reply c}
      (hreply : (w.store.exec ⟨caller, w.clock caller.process, op⟩).2.reply c = some reply) :
      Served config caller w c (.ok reply) (w.exec ⟨caller, w.clock caller.process, op⟩)
  | publish (event : OutboxEvent) (outcome : Except Thrown Unit) :
      Served config caller w (.publish event) outcome w
  | judged (error : Thrown) (permanent : Bool) :
      Served config caller w (.isPermanentFailure error) (.ok permanent) w
  | now : Served config caller w .now (.ok (w.clock caller.process)) w
  | random {random : ℚ} (hnonneg : 0 ≤ random) (hlt : random < 1) :
      Served config caller w .random (.ok random) w
  | error (message : Str) (eventId : Uuid) : Served config caller w (.error message eventId) (.ok ()) w
  | warn (message : Str) (eventId tenantId : Uuid) (attemptCount : Nat) (reason : Str) (permanent : Bool) :
      Served config caller w (.warn message eventId tenantId attemptCount reason permanent) (.ok ()) w

/-- **Served is one of the ways a command can end.** -/
theorem Served.effect {config : OutboxProcessorConfig} {caller : Caller} {w w' : World} {c : Command}
    {outcome : Except Thrown (Reply c)} (h : Served config caller w c outcome w') :
    Effect (fun read => read = config) w caller c outcome w' := by
  cases h with
  | enter => exact .enter
  | leave => exact .leave
  | config => exact .config rfl
  | stored claimToken hop _ hfresh hreply => exact .stored [] claimToken hop hfresh hreply
  | publish event outcome =>
      cases outcome with
      | ok u => exact .published event
      | error e => exact .thrown rfl e
  | judged error permanent => exact .judged error permanent
  | now => exact .now
  | random hnonneg hlt => exact .random hnonneg hlt
  | error message eventId => exact .error message eventId
  | warn message eventId tenantId attemptCount reason permanent =>
      exact .warn message eventId tenantId attemptCount reason permanent

/-- What serves a cycle when its processor is alone: time passes, then the command is called and answered. -/
def alone (config : OutboxProcessorConfig) (caller : Caller) : Server World Command Reply Thrown :=
  fun w c outcome w' => ∃ mid after, Relation.ReflTransGen Passes w mid ∧
    Served config caller (mid.note (.called caller c)) c outcome after ∧ w' = after.note (.answered caller c outcome)

/-- `k` cycles of one process, one after the other, the calls numbered from `first`. -/
inductive CyclesAlone (name : Str) (config : OutboxProcessorConfig) (process : Nat) : Nat → Nat → World → World → Prop
  | done (first : Nat) (w : World) : CyclesAlone name config process first 0 w w
  | cycle {first k : Nat} {w mid w' : World} {outcome : Except Thrown Nat}
      (hcycle : (runCycle name).Ends (alone config ⟨process, first⟩) w outcome mid)
      (hrest : CyclesAlone name config process (first + 1) k mid w') : CyclesAlone name config process first (k + 1) w w'

section Alone

variable {config : OutboxProcessorConfig} {caller : Caller} {w w' : World}

theorem Passes.env (New : OutboxEvent → Prop) (h : Passes w w') : Env New w w' := by
  cases h with
  | tick process ms => exact .tick process ms
  | elapse e ms hop =>
      refine .statement e ?_ ?_
      · rw [hop]
        rfl
      · rw [hop]
        trivial

/-- **Each cycle alone is an interleaving:** one call more, and nobody else moves. -/
theorem CyclesAlone.run {name : Nat → Str} (New : OutboxEvent → Prop) {process first k : Nat}
    (h : CyclesAlone (name process) config process first k w w')
    {threads : Caller → Option (Thread Command Reply Thrown Nat)}
    (hfree : ∀ call, first ≤ call → threads ⟨process, call⟩ = none) :
    ∃ threads', Sys.Run (host (fun read => read = config) New) (fun caller => runCycle (name caller.process))
      ⟨w, threads⟩ ⟨w', threads'⟩ := by
  induction h generalizing threads with
  | done first w => exact ⟨threads, .refl⟩
  | @cycle first k w mid w' outcome hcycle _ ih =>
      have hserves : ∀ s c r s', alone config ⟨process, first⟩ s c r s' →
          ∃ mid, Relation.ReflTransGen (host (fun read => read = config) New).env s mid ∧
            (host (fun read => read = config) New).reply
              ((host (fun read => read = config) New).called mid ⟨process, first⟩ c) ⟨process, first⟩ c r s' := by
        rintro s c r s' ⟨mid, after, hpasses, hserved, rfl⟩
        have henv : Relation.ReflTransGen (Env New) s mid :=
          Relation.ReflTransGen.mono (fun a b (hpass : Passes a b) => hpass.env New) s mid hpasses
        exact ⟨mid, henv, after, hserved.effect, rfl⟩
      have hrun : Sys.Run (host (fun read => read = config) New) (fun caller => runCycle (name caller.process))
          ⟨w, Function.update threads ⟨process, first⟩ (some (.ready (runCycle (name process))))⟩
          ⟨mid, Function.update threads ⟨process, first⟩ (some (.ready (Prog.ofExcept outcome)))⟩ :=
        Sys.Run.of_ends ⟨process, first⟩ hserves hcycle threads
      have hlater : ∀ call, first + 1 ≤ call → Function.update threads ⟨process, first⟩
          (some (.ready (Prog.ofExcept outcome))) ⟨process, call⟩ = none := by
        intro call hcall
        have hne : (⟨process, call⟩ : Caller) ≠ ⟨process, first⟩ := by
          intro heq
          have hsame : call = first := congrArg Caller.call heq
          omega
        rw [Function.update_of_ne hne]
        exact hfree call (by omega)
      obtain ⟨threads', hrest⟩ := ih hlater
      exact ⟨threads', .head (.spawn ⟨process, first⟩ (hfree first le_rfl)) (hrun.trans hrest)⟩

/-! ## What each command leaves -/

/-- The world a command leaves: the table, a clock that did not go back, the flags. -/
structure Leaves (table : OutboxTable) (w w' : World) : Prop where
  table : w'.store.table = table
  now : w.store.now ≤ w'.store.now
  running : w'.running = w.running

theorem Leaves.trans {t : OutboxTable} {w₁ w₂ w₃ : World} (h : Leaves w₁.store.table w₁ w₂) (h' : Leaves t w₂ w₃) :
    Leaves t w₁ w₃ := ⟨h'.table, h.now.trans h'.now, h'.running.trans h.running⟩

/-- Nothing is read off a world but its store and its flags. -/
theorem Leaves.of_same {t : OutboxTable} {mid : World} (h : Leaves t w mid) (hstore : w'.store = mid.store)
    (hrunning : w'.running = mid.running) : Leaves t w w' :=
  ⟨hstore ▸ h.table, hstore ▸ h.now, hrunning.trans h.running⟩

theorem leaves_of_passes (h : Relation.ReflTransGen Passes w w') : Leaves w.store.table w w' := by
  induction h with
  | refl => exact ⟨rfl, le_rfl, rfl⟩
  | tail _ hstep ih =>
      cases hstep with
      | tick process ms => exact ⟨ih.table, ih.now, ih.running⟩
      | @elapse e ms hop =>
          refine ⟨?_, ih.now.trans (now_le_exec _ e), ih.running⟩
          rw [← ih.table]
          simp only [World.exec, Store.exec, hop]

/-- What a world served leaves, but for its log. -/
theorem alone_cases {c : Command} {outcome : Except Thrown (Reply c)} (h : alone config caller w c outcome w') :
    ∃ mid after, Leaves w.store.table w mid ∧ Served config caller mid c outcome after ∧
      w'.store = after.store ∧ w'.running = after.running := by
  obtain ⟨mid, after, hpasses, hserved, rfl⟩ := h
  have hleaves := leaves_of_passes hpasses
  refine ⟨mid.note (.called caller c), after, ?_, hserved, rfl, rfl⟩
  exact ⟨hleaves.table, hleaves.now, hleaves.running⟩

theorem exists_token (issued : List Uuid) : ∃ token : Uuid, token ≠ [] ∧ token ∉ issued := by
  obtain ⟨token, htoken⟩ := Infinite.exists_notMem_finset ([] :: issued).toFinset
  rw [List.mem_toFinset, List.mem_cons, not_or] at htoken
  exact ⟨token, htoken⟩

/-- **Every command is served.** -/
theorem alone_serves (config : OutboxProcessorConfig) (caller : Caller) (w : World) (c : Command) :
    ∃ outcome w', alone config caller w c outcome w' := by
  suffices h : ∃ outcome after, Served config caller (w.note (.called caller c)) c outcome after by
    obtain ⟨outcome, after, hserved⟩ := h
    exact ⟨outcome, _, w, after, .refl, hserved, rfl⟩
  obtain ⟨token, hnonempty, hfresh⟩ := exists_token (issuedTokens (w.note (.called caller c)).history)
  have hnew : ∀ {op : Op}, c.statement [] token = some op →
      ∀ token', op.claimToken? = some token' → token' ∉ issuedTokens (w.note (.called caller c)).history := by
    intro op hop token' htoken
    cases c with
    | claimDueBatch dto =>
        obtain rfl : Op.claimDueBatch dto [] token = op := Option.some.inj hop
        obtain rfl : token = token' := Option.some.inj htoken
        exact hfresh
    | markPublished claim =>
        obtain rfl : Op.markPublished claim = op := Option.some.inj hop
        cases htoken
    | recordFailure dto =>
        obtain rfl : Op.recordFailure dto = op := Option.some.inj hop
        cases htoken
    | _ => cases hop
  cases c with
  | enter => exact ⟨_, _, .enter⟩
  | leave => exact ⟨_, _, .leave⟩
  | config => exact ⟨_, _, .config⟩
  | claimDueBatch dto => exact ⟨_, _, .stored token rfl hnonempty (hnew rfl) rfl⟩
  | publish event => exact ⟨_, _, .publish event (.ok ())⟩
  | markPublished claim => exact ⟨_, _, .stored token rfl hnonempty (hnew rfl) rfl⟩
  | recordFailure dto => exact ⟨_, _, .stored token rfl hnonempty (hnew rfl) rfl⟩
  | isPermanentFailure error => exact ⟨_, _, .judged error true⟩
  | now => exact ⟨_, _, .now⟩
  | random => exact ⟨_, _, .random le_rfl one_pos⟩
  | error message eventId => exact ⟨_, _, .error message eventId⟩
  | warn message eventId tenantId attemptCount reason permanent =>
      exact ⟨_, _, .warn message eventId tenantId attemptCount reason permanent⟩

/-- The commands that only look at the world. -/
def Command.looks : Command → Bool
  | .isPermanentFailure _ | .now | .random | .error _ _ | .warn _ _ _ _ _ _ => true
  | _ => false

theorem alone_looks {c : Command} (hc : c.looks = true) {outcome : Except Thrown (Reply c)}
    (h : alone config caller w c outcome w') : (∃ reply, outcome = .ok reply) ∧ Leaves w.store.table w w' := by
  obtain ⟨mid, after, hleaves, hserved, hstore, hrunning⟩ := alone_cases h
  cases hserved with
  | judged | now | random | error | warn => exact ⟨⟨_, rfl⟩, hleaves.of_same hstore hrunning⟩
  | enter | leave | config | publish => cases hc
  | @stored c op claimToken hop =>
      cases c with
      | isPermanentFailure _ | now | random | error _ _ | warn _ _ _ _ _ _ => cases hop
      | enter | leave | config | claimDueBatch _ | publish _ | markPublished _ | recordFailure _ => cases hc

theorem alone_publish {event : OutboxEvent} {outcome : Except Thrown Unit}
    (h : alone config caller w (.publish event) outcome w') : Leaves w.store.table w w' := by
  obtain ⟨mid, after, hleaves, hserved, hstore, hrunning⟩ := alone_cases h
  cases hserved with
  | publish => exact hleaves.of_same hstore hrunning
  | stored claimToken hop => cases hop

theorem alone_config {outcome : Except Thrown OutboxProcessorConfig}
    (h : alone config caller w .config outcome w') : outcome = .ok config ∧ Leaves w.store.table w w' := by
  obtain ⟨mid, after, hleaves, hserved, hstore, hrunning⟩ := alone_cases h
  cases hserved with
  | config => exact ⟨rfl, hleaves.of_same hstore hrunning⟩
  | stored claimToken hop => cases hop

theorem alone_enter {outcome : Except Thrown Bool} (h : alone config caller w .enter outcome w') :
    outcome = .ok (w.running caller.process) ∧ w'.store.table = w.store.table ∧ w.store.now ≤ w'.store.now := by
  obtain ⟨mid, after, hleaves, hserved, hstore, -⟩ := alone_cases h
  cases hserved with
  | enter =>
      rw [hstore, ← hleaves.running]
      exact ⟨rfl, hleaves.table, hleaves.now⟩
  | stored claimToken hop => cases hop

theorem alone_leave {outcome : Except Thrown Unit} (h : alone config caller w .leave outcome w') :
    outcome = .ok () ∧ w'.store.table = w.store.table ∧ w.store.now ≤ w'.store.now ∧
      w'.running caller.process = false := by
  obtain ⟨mid, after, hleaves, hserved, hstore, hrunning⟩ := alone_cases h
  cases hserved with
  | leave =>
      rw [hstore, hrunning]
      exact ⟨rfl, hleaves.table, hleaves.now, Function.update_self ..⟩
  | stored claimToken hop => cases hop

theorem alone_claim {dto : ClaimDueBatchDto} {outcome : Except Thrown (List OutboxEvent)}
    (h : alone config caller w (.claimDueBatch dto) outcome w') :
    ∃ now token claimedAt, w.store.now ≤ now ∧ now ≤ w'.store.now ∧ token ≠ [] ∧
      outcome = .ok (claimDueBatch w.store.table dto now [] token claimedAt).2 ∧
      w'.store.table = (claimDueBatch w.store.table dto now [] token claimedAt).1 := by
  obtain ⟨mid, after, hleaves, hserved, hstore, -⟩ := alone_cases h
  cases hserved with
  | @stored c op token hop hnonempty _ reply hreply =>
      obtain rfl : Op.claimDueBatch dto [] token = op := Option.some.inj hop
      refine ⟨mid.store.now, token, mid.clock caller.process, hleaves.now, ?_, hnonempty, ?_, ?_⟩
      · rw [hstore]
        exact now_le_exec _ _
      · rw [← hleaves.table]
        exact congrArg Except.ok (Option.some.inj hreply).symm
      · rw [hstore, ← hleaves.table]
        rfl

theorem alone_mark {claim : Claim} {outcome : Except Thrown Bool}
    (h : alone config caller w (.markPublished claim) outcome w') :
    ∃ publishedAt, (∃ reply, outcome = .ok reply) ∧ w.store.now ≤ w'.store.now ∧
      w'.store.table = (markPublished w.store.table claim publishedAt).1 := by
  obtain ⟨mid, after, hleaves, hserved, hstore, -⟩ := alone_cases h
  cases hserved with
  | @stored c op token hop hnonempty _ reply hreply =>
      obtain rfl : Op.markPublished claim = op := Option.some.inj hop
      refine ⟨mid.clock caller.process, ⟨reply, rfl⟩, ?_, ?_⟩
      · rw [hstore]
        exact hleaves.now.trans (now_le_exec _ _)
      · rw [hstore, ← hleaves.table]
        rfl

theorem alone_fail {dto : RecordFailureDto} {outcome : Except Thrown Bool}
    (h : alone config caller w (.recordFailure dto) outcome w') :
    (∃ reply, outcome = .ok reply) ∧ w.store.now ≤ w'.store.now ∧
      w'.store.table = (recordFailure w.store.table dto).1 := by
  obtain ⟨mid, after, hleaves, hserved, hstore, -⟩ := alone_cases h
  cases hserved with
  | @stored c op token hop hnonempty _ reply hreply =>
      obtain rfl : Op.recordFailure dto = op := Option.some.inj hop
      refine ⟨⟨reply, rfl⟩, ?_, ?_⟩
      · rw [hstore]
        exact hleaves.now.trans (now_le_exec _ _)
      · rw [hstore, ← hleaves.table]
        rfl

end Alone

end Outbox
end NestSdk
