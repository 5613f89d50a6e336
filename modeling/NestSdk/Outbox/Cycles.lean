import NestSdk.Outbox.Processor

/-!
# `Outbox.Cycles` — the cycles of one processor

Any number of `runCycle` calls on one processor, ticks of its interval or not, interleaved at every `await`.
What they share is `isRunning`; everything else they ask for may be answered in any way, thrown or never.

A call that found `isRunning` down is inside its cycle until it ends. **`gated`**: no two calls are inside at
once, a call that checks while one is inside returns 0 having asked for nothing, and one that checks while
none is inside runs the cycle.
-/

namespace NestSdk
namespace Outbox

open Js Lib

/-- The part of `runCycle` behind the check. -/
def cycle (name : Str) : Async Nat :=
  Prog.tryFinally (do
    let config : OutboxProcessorConfig ← send .config
    let batch : List OutboxEvent ← send (.claimDueBatch ⟨config.batchSize, config.claimTimeoutMs⟩)
    batch.forM fun event => process name event config
    return batch.length) (send .leave)

/-- `if (this.isRunning) return 0;` -/
def afterCheck (name : Str) : Except Thrown Bool → Async Nat
  | .ok true => return 0
  | .ok false => cycle name
  | .error error => throw error

/-- **`runCycle` is the check and what comes after it.** -/
theorem runCycle_eq (name : Str) : runCycle name = .call .enter (afterCheck name) := by
  show Prog.call Command.enter _ = _
  congr 1
  funext outcome
  cases outcome with
  | ok isRunning => cases isRunning <;> rfl
  | error error => rfl

/-! ## The processor its calls share -/

/-- `isRunning`, and which call asked for what so far, newest first. -/
structure Processor where
  isRunning : Bool
  log : List (Nat × Command)

/-- What a command can be answered with, and what it makes of `isRunning`. -/
inductive Answered (isRunning : Bool) : (c : Command) → Except Thrown (Reply c) → Bool → Prop
  | enter : Answered isRunning .enter (.ok isRunning) true
  | leave : Answered isRunning .leave (.ok ()) false
  | other {c : Command} (henter : c ≠ .enter) (hleave : c ≠ .leave) (outcome : Except Thrown (Reply c)) :
      Answered isRunning c outcome isRunning

/-- The surroundings of the calls. -/
def processor : Host Nat Processor Command Reply Thrown where
  called s i c := { s with log := (i, c) :: s.log }
  reply s _ c outcome s' := ∃ isRunning, Answered s.isRunning c outcome isRunning ∧ s' = { s with isRunning }
  env _ _ := False

/-- The calls with what they share. -/
abbrev Cycles := Sys Nat Processor Command Reply Thrown Nat

/-- Any number of steps of any of the calls. -/
abbrev Cycles.Run (name : Str) : Cycles → Cycles → Prop := Sys.Run processor fun _ => runCycle name

/-- A processor nobody has called yet. -/
def Cycles.start : Cycles := ⟨⟨false, []⟩, fun _ => none⟩

/-- The call is still to find out whether a cycle is running. -/
def AtCheck : Thread Command Reply Thrown Nat → Prop
  | .ready (.call .enter _) | .waiting .enter _ => True
  | _ => False

/-- The call has returned, or thrown. -/
def Ended : Thread Command Reply Thrown Nat → Prop
  | .ready (.ret _) | .ready (.fail _) => True
  | _ => False

/-- The call is past the check and unfinished. -/
def Cycles.Inside (s : Cycles) (i : Nat) : Prop := ∃ t, s.threads i = some t ∧ ¬ AtCheck t ∧ ¬ Ended t

/-- The check of call `i` is made. -/
def Cycles.Checked (i : Nat) (s s' : Cycles) : Prop :=
  ∃ k outcome shared, s.threads i = some (.waiting .enter k) ∧ processor.reply s.shared i .enter outcome shared ∧
    s' = ⟨shared, Function.update s.threads i (some (.ready (k outcome)))⟩

/-! ## A call by stages -/

/-- How far a call has got. -/
inductive Stage
  | checking
  | inside
  | refused
  | done
deriving DecidableEq

/-- Where the check leads. -/
def Stage.checked : Except Thrown Bool → Stage
  | .ok true => .refused
  | .ok false => .inside
  | .error _ => .done

/-- A call checks, and only then asks for anything else; a refused call asks for nothing more. -/
def stages : Protocol Command Reply Thrown Stage where
  may
    | .checking, c => c = .enter
    | .inside, c => c ≠ .enter
    | .refused, _ | .done, _ => False
  gives c outcome := ∃ isRunning isRunning', Answered isRunning c outcome isRunning'
  sent stage _ := stage
  received
    | _, .enter, outcome => Stage.checked outcome
    | _, .leave, _ => .done
    | stage, _, _ => stage

/-- A refused call returns 0, and a cycle ends once it has left. -/
def EndsAt : Stage → Except Thrown Nat → Prop
  | .refused, outcome => outcome = .ok 0
  | .done, _ => True
  | .checking, _ | .inside, _ => False

/-- The program goes through its stages from here, and ends inside the cycle. -/
abbrev Stays {α : Type} (p : Async α) : Prop := Follows stages (fun g _ => g = .inside) p .inside

section Stays

variable {α β : Type}

theorem received_inside {c : Command} (henter : c ≠ .enter) (hleave : c ≠ .leave)
    (outcome : Except Thrown (Reply c)) : stages.received .inside c outcome = .inside := by
  cases c with
  | enter => exact absurd rfl henter
  | leave => exact absurd rfl hleave
  | _ => rfl

theorem stays_send {c : Command} (henter : c ≠ .enter) (hleave : c ≠ .leave) : Stays (send c) :=
  follows_ask henter fun outcome _ => received_inside henter hleave outcome

theorem stays_pure (a : α) : Stays (pure a : Async α) := rfl

theorem stays_bind {p : Async α} {f : α → Async β} (hp : Stays p) (hf : ∀ a, Stays (f a)) :
    Stays (p >>= f) := by
  refine Follows.bind (hp.mono ?_)
  rintro g outcome rfl
  cases outcome with
  | ok a => exact hf a
  | error error => rfl

theorem stays_tryCatch {p : Async α} {handler : Thrown → Async α} (hp : Stays p)
    (hhandler : ∀ error, Stays (handler error)) : Stays (tryCatch p handler) := by
  refine Follows.tryCatch (hp.mono ?_)
  rintro g outcome rfl
  cases outcome with
  | ok a => rfl
  | error error => exact hhandler error

theorem stays_forM (body : α → Async PUnit) (hbody : ∀ x, Stays (body x)) (xs : List α) :
    Stays (xs.forM body) := by
  refine follows_forM (fun _ g => g = .inside) ?_ (fun _ h => h) xs rfl
  rintro x xs g rfl
  refine (hbody x).mono ?_
  rintro g outcome rfl
  cases outcome with
  | ok _ => rfl
  | error _ => rfl

theorem stays_ite {b : Bool} {p q : Async α} (hp : Stays p) (hq : Stays q) :
    Stays (if b = true then p else q) := by
  cases b with
  | true => exact hp
  | false => exact hq

end Stays

theorem recordFailure_stays (dto : RecordFailureDto) (isDeadLetter : Bool) (message : Str)
    (eventId tenantId : Uuid) (attemptCount : Nat) (reason : Str) (permanent : Bool) :
    Stays (do
      let _ : Bool ← send (.recordFailure dto)
      if isDeadLetter then send (.warn message eventId tenantId attemptCount reason permanent)
      else pure () : Async Unit) :=
  stays_bind (stays_send (by simp) (by simp)) fun _ =>
    stays_ite (stays_send (by simp) (by simp)) (stays_pure ())

/-- An attempt neither checks nor leaves. -/
theorem process_stays (name : Str) (event : OutboxEvent) (config : OutboxProcessorConfig) :
    Stays (process name event config) := by
  unfold process
  cases event.lease with
  | none => exact stays_send (by simp) (by simp)
  | some claimToken =>
      refine stays_tryCatch ?_ ?_
      · refine stays_bind (stays_send (by simp) (by simp)) fun _ => ?_
        exact stays_bind (stays_send (by simp) (by simp)) fun _ => stays_pure _
      · intro error
        unfold processFailure
        refine stays_bind (stays_send (by simp) (by simp)) fun permanent => ?_
        refine stays_ite ?_ ?_
        · exact stays_bind (stays_pure none) fun _ => recordFailure_stays _ _ _ _ _ _ _ _
        · refine stays_bind (stays_bind (stays_send (by simp) (by simp)) fun _ =>
            stays_bind (stays_send (by simp) (by simp)) fun _ => stays_pure _) fun _ => ?_
          exact stays_bind (stays_pure _) fun _ => recordFailure_stays _ _ _ _ _ _ _ _

/-- **A cycle is inside until it has left,** however it ends. -/
theorem cycle_follows (name : Str) : Follows stages EndsAt (cycle name) .inside := by
  refine Follows.tryFinally (Follows.mono ?_ (?_ : Stays _))
  · rintro g outcome rfl
    apply follows_ask (by simp [stages])
    intro r _
    cases r with
    | ok _ => exact trivial
    | error _ => exact trivial
  · refine stays_bind (stays_send (by simp) (by simp)) fun config => ?_
    refine stays_bind (stays_send (by simp) (by simp)) fun batch => ?_
    exact stays_bind (stays_forM _ (fun event => process_stays name event config) batch) fun _ =>
      stays_pure batch.length

/-- **A call goes through its stages.** -/
theorem runCycle_follows_stages (name : Str) : Follows stages EndsAt (runCycle name) .checking := by
  rw [runCycle_eq]
  refine ⟨rfl, ?_⟩
  intro outcome _
  cases outcome with
  | ok isRunning =>
      cases isRunning with
      | true => exact rfl
      | false => exact cycle_follows name
  | error error => exact trivial

/-! ## Who is inside -/

theorem gives_of_reply {s s' : Processor} {i : Nat} {c : Command} {outcome : Except Thrown (Reply c)}
    (h : processor.reply s i c outcome s') : stages.gives c outcome := by
  obtain ⟨isRunning, hanswered, -⟩ := h
  exact ⟨_, _, hanswered⟩

/-- The call is inside its cycle, as far as its stage says. -/
def InsideView (clients : Nat → Option (Client stages)) (i : Nat) : Prop :=
  ∃ x, clients i = some x ∧ x.view = .inside

theorem insideView_self {clients : Nat → Option (Client stages)} {i : Nat} {x : Client stages} :
    InsideView (Function.update clients i (some x)) i ↔ x.view = .inside := by
  unfold InsideView
  simp

theorem insideView_of_ne {clients : Nat → Option (Client stages)} {i j : Nat} {x : Option (Client stages)}
    (h : j ≠ i) : InsideView (Function.update clients i x) j ↔ InsideView clients j := by
  unfold InsideView
  rw [Function.update_of_ne h]

/-- **The invariant:** at most one call is inside, `holder`, and `isRunning` says whether there is one. -/
structure Holds (s : Clients Nat Processor stages) (holder : Option Nat) : Prop where
  isRunning : s.shared.isRunning = holder.isSome
  inside : ∀ i, InsideView s.clients i ↔ holder = some i

/-- A call that is as much inside as it was changes nothing. -/
theorem Holds.update {s : Processor} {clients : Nat → Option (Client stages)} {holder : Option Nat}
    (h : Holds ⟨s, clients⟩ holder) {s' : Processor} (hrunning : s'.isRunning = s.isRunning) {i : Nat}
    {x : Client stages} (hsame : x.view = .inside ↔ InsideView clients i) :
    Holds ⟨s', Function.update clients i (some x)⟩ holder where
  isRunning := hrunning.trans h.isRunning
  inside := by
    intro j
    by_cases hj : j = i
    · subst hj
      exact insideView_self.trans (hsame.trans (h.inside j))
    · exact (insideView_of_ne hj).trans (h.inside j)

theorem insideView_iff {clients : Nat → Option (Client stages)} {i : Nat} {x : Client stages}
    (h : clients i = some x) : InsideView clients i ↔ x.view = .inside := by
  unfold InsideView
  simp [h]

/-- A call that is not yet inside asks for the check only; one that is, for anything else. -/
theorem checking_of_may {g : Stage} (h : stages.may g .enter) : g = .checking := by
  cases g with
  | checking => rfl
  | inside => exact absurd rfl h
  | refused | done => exact h.elim

theorem inside_of_may {g : Stage} {c : Command} (hc : c ≠ .enter) (h : stages.may g c) : g = .inside := by
  cases g with
  | checking => exact absurd h hc
  | inside => rfl
  | refused | done => exact h.elim

/-- **Each step keeps the invariant.** -/
theorem Holds.step {s s' : Clients Nat Processor stages} (hstep : Clients.Step processor .checking s s')
    {holder : Option Nat} (h : Holds s holder) : ∃ holder', Holds s' holder' := by
  cases hstep with
  | @join s clients i hfree =>
      refine ⟨holder, h.update rfl ?_⟩
      unfold InsideView
      simp [Client.view, hfree]
  | @send s clients i g c hidle hmay =>
      have hsame : (Client.pending g c hmay).view = .inside ↔ InsideView clients i :=
        (insideView_iff hidle).symm
      refine ⟨holder, h.update ?_ hsame⟩
      rfl
  | @receive s s' clients i g c hmay outcome hpending hreply =>
      obtain ⟨isRunning, hanswered, rfl⟩ := hreply
      have hbefore : InsideView clients i ↔ g = .inside := insideView_iff hpending
      cases hanswered with
      | enter =>
          obtain rfl := checking_of_may hmay
          have hrunning : s.isRunning = holder.isSome := h.isRunning
          cases hisRunning : s.isRunning with
          | true =>
              exact ⟨holder, h.update hisRunning.symm (by simp [hbefore, Client.view, stages, Stage.checked])⟩
          | false =>
              -- nobody was inside, and now this call is
              obtain rfl : holder = none := by simpa [hisRunning] using hrunning.symm
              refine ⟨some i, rfl, ?_⟩
              intro j
              by_cases hj : j = i
              · subst hj
                exact insideView_self.trans (by simp [Client.view, stages, Stage.checked])
              · refine (insideView_of_ne hj).trans ((h.inside j).trans ?_)
                simp [Ne.symm hj]
      | leave =>
          obtain rfl := inside_of_may (by simp) hmay
          -- the one call that was inside leaves
          obtain rfl := (h.inside i).mp (hbefore.mpr rfl)
          refine ⟨none, rfl, ?_⟩
          intro j
          by_cases hj : j = i
          · subst hj
            exact insideView_self.trans (by simp [Client.view, stages])
          · refine (insideView_of_ne hj).trans ((h.inside j).trans ?_)
            simp [Ne.symm hj]
      | other henter hleave outcome =>
          obtain rfl := inside_of_may henter hmay
          refine ⟨holder, h.update rfl ?_⟩
          exact iff_of_true (received_inside henter hleave outcome) (hbefore.mpr rfl)
  | env henv => exact henv.elim

/-- **It holds of every run,** by induction on the run. -/
theorem holds_of_run {s : Clients Nat Processor stages}
    (hrun : Clients.Run processor .checking (Clients.init stages ⟨false, []⟩) s) : ∃ holder, Holds s holder := by
  induction hrun with
  | refl => exact ⟨none, rfl, fun i => by simp [InsideView, Clients.init]⟩
  | tail _ hstep ih =>
      obtain ⟨holder, hholds⟩ := ih
      exact hholds.step hstep

theorem atCheck_ready {c : Command} {k : Except Thrown (Reply c) → Async Nat} :
    AtCheck (.ready (.call c k)) ↔ c = .enter := by
  cases c with
  | enter => exact iff_of_true trivial rfl
  | _ => exact iff_of_false id (by simp)

theorem atCheck_waiting {c : Command} {k : Except Thrown (Reply c) → Async Nat} :
    AtCheck (.waiting c k) ↔ c = .enter := by
  cases c with
  | enter => exact iff_of_true trivial rfl
  | _ => exact iff_of_false id (by simp)

/-- What a call may ask for tells whether it is inside. -/
theorem inside_iff_of_may {g : Stage} {c : Command} (h : stages.may g c) : c ≠ .enter ↔ g = .inside := by
  constructor
  · intro hc
    exact inside_of_may hc h
  · rintro rfl
    exact h

/-- The stage tells whether a call is inside. -/
theorem inside_iff {t : Option (Thread Command Reply Thrown Nat)} {x : Option (Client stages)}
    (h : Matches stages EndsAt t x) :
    (∃ thread, t = some thread ∧ ¬ AtCheck thread ∧ ¬ Ended thread) ↔
      ∃ client, x = some client ∧ client.view = .inside := by
  cases h with
  | absent => simp
  | @ready p g hfollows =>
      simp only [Option.some.injEq, exists_eq_left', Client.view]
      cases p with
      | ret n =>
          refine iff_of_false (fun h => h.2 trivial) ?_
          rintro rfl
          exact hfollows
      | fail error =>
          refine iff_of_false (fun h => h.2 trivial) ?_
          rintro rfl
          exact hfollows
      | call c k =>
          rw [atCheck_ready, ← inside_iff_of_may hfollows.1]
          exact and_iff_left id
  | @waiting c k g hmay hfollows =>
      simp only [Option.some.injEq, exists_eq_left', Client.view]
      rw [atCheck_waiting]
      exact (and_iff_left id).trans (inside_iff_of_may hmay)

/-! ## What a call has asked for -/

/-- A call that has not passed the check has asked for nothing else. -/
def Asks (s : Clients Nat Processor stages) : Prop :=
  ∀ i, (∀ x, s.clients i = some x → x.view = .checking ∨ x.view = .refused) →
    ∀ c, (i, c) ∈ s.shared.log → c = .enter

theorem Asks.step {s s' : Clients Nat Processor stages} (hstep : Clients.Step processor .checking s s')
    (h : Asks s) : Asks s' := by
  intro i hview c hlog
  cases hstep with
  | @join s clients j hfree =>
      refine h i ?_ c hlog
      intro x hx
      have hij : i ≠ j := by
        rintro rfl
        exact absurd (hfree.symm.trans hx) (by simp)
      exact hview x ((Function.update_of_ne hij _ _).trans hx)
  | @send s clients j g asked hidle hmay =>
      by_cases hij : i = j
      · subst hij
        have hstage : g = .checking ∨ g = .refused := hview _ (Function.update_self i _ clients)
        have hbefore : ∀ x, clients i = some x → x.view = .checking ∨ x.view = .refused := by
          intro x hx
          obtain rfl := Option.some.inj (hidle.symm.trans hx)
          exact hstage
        rcases List.mem_cons.mp hlog with hnow | hlog
        · obtain rfl := (Prod.mk.inj hnow).2
          rcases hstage with rfl | rfl
          · exact hmay
          · exact hmay.elim
        · exact h i hbefore c hlog
      · have hbefore : ∀ x, clients i = some x → x.view = .checking ∨ x.view = .refused :=
          fun x hx => hview x ((Function.update_of_ne hij _ _).trans hx)
        rcases List.mem_cons.mp hlog with hnow | hlog
        · exact absurd (Prod.mk.inj hnow).1 hij
        · exact h i hbefore c hlog
  | @receive s s' clients j g asked hmay outcome hpending hreply =>
      obtain ⟨isRunning, hanswered, rfl⟩ := hreply
      refine h i ?_ c hlog
      intro x hx
      by_cases hij : i = j
      · subst hij
        obtain rfl := Option.some.inj (hpending.symm.trans hx)
        have hstage := hview _ (Function.update_self i _ clients)
        cases g with
        | checking => exact .inl rfl
        | refused | done => exact hmay.elim
        | inside =>
            -- no answer takes a call back from inside its cycle
            cases hanswered with
            | enter => exact absurd rfl hmay
            | leave => exact absurd hstage (by simp [Client.view, stages])
            | other henter hleave outcome =>
                have hinside := received_inside henter hleave outcome
                exact absurd hstage (by simp [Client.view, hinside])
      · exact hview x ((Function.update_of_ne hij _ _).trans hx)
  | env henv => exact henv.elim

theorem asks_of_run {s : Clients Nat Processor stages}
    (hrun : Clients.Run processor .checking (Clients.init stages ⟨false, []⟩) s) : Asks s := by
  induction hrun with
  | refl =>
      intro i _ c hlog
      exact absurd hlog List.not_mem_nil
  | tail _ hstep ih => exact ih.step hstep

/-- No answer takes a call back to its check. -/
theorem received_ne_checking {g : Stage} {c : Command} (hmay : stages.may g c)
    (outcome : Except Thrown (Reply c)) : stages.received g c outcome ≠ .checking := by
  by_cases hc : c = .enter
  · subst hc
    show Stage.checked outcome ≠ .checking
    rcases outcome with error | isRunning
    · exact Stage.noConfusion
    · cases isRunning <;> exact Stage.noConfusion
  · obtain rfl := inside_of_may hc hmay
    cases c with
    | enter => exact absurd rfl hc
    | _ => exact Stage.noConfusion

/-! ## Calls as programs -/

section Run

variable {name : Str} {s s' : Cycles}

/-- What a pending check goes on with. -/
theorem afterCheck_of_run (hrun : Cycles.Run name Cycles.start s) {i : Nat}
    {k : Except Thrown Bool → Async Nat}
    (h : s.threads i = some (.ready (.call .enter k)) ∨ s.threads i = some (.waiting .enter k)) :
    k = afterCheck name := by
  induction hrun generalizing i k with
  | refl => exact absurd h (by simp [Cycles.start])
  | @tail mid s hmid hstep ih =>
      obtain ⟨clients, -, hmatch⟩ := Sys.Run.clients (fun _ => runCycle_follows_stages name)
        (fun _ _ _ _ _ => gives_of_reply) hmid
      cases hstep with
      | @spawn shared threads j hfree =>
          by_cases hij : i = j
          · subst hij
            simp only [Function.update_self, runCycle_eq] at h
            rcases h with h | h
            · cases h
              rfl
            · cases h
          · simp only [Function.update_of_ne hij] at h
            exact ih h
      | @call shared threads j c k' hready =>
          by_cases hij : i = j
          · subst hij
            simp only [Function.update_self] at h
            rcases h with h | h
            · cases h
            · cases h
              exact ih (.inl hready)
          · simp only [Function.update_of_ne hij] at h
            exact ih h
      | @reply shared shared' threads j c k' outcome hwaiting hreply =>
          by_cases hij : i = j
          · subst hij
            simp only [Function.update_self] at h
            have hi := hmatch i
            simp only [hwaiting] at hi
            generalize clients i = x at hi
            cases hi with
            | waiting hmay hfollows =>
                have hnext := hfollows outcome (gives_of_reply hreply)
                rcases h with h | h
                · rw [(Thread.ready.inj (Option.some.inj h))] at hnext
                  exact absurd (checking_of_may hnext.1) (received_ne_checking hmay outcome)
                · cases h
          · simp only [Function.update_of_ne hij] at h
            exact ih h
      | env henv => exact henv.elim

/-- A call that has ended neither goes on nor asks for anything. -/
theorem ended_of_run (hrun : Cycles.Run name s s') {i : Nat} {t : Thread Command Reply Thrown Nat}
    (ht : s.threads i = some t) (hended : Ended t) :
    s'.threads i = some t ∧ ∀ c, (i, c) ∈ s'.shared.log → (i, c) ∈ s.shared.log := by
  induction hrun with
  | refl => exact ⟨ht, fun _ h => h⟩
  | @tail mid s' _ hstep ih =>
      obtain ⟨ht, hlog⟩ := ih
      cases hstep with
      | @spawn shared threads j hfree =>
          have hij : i ≠ j := by
            rintro rfl
            exact absurd (hfree.symm.trans ht) (by simp)
          exact ⟨(Function.update_of_ne hij _ _).trans ht, hlog⟩
      | @call shared threads j c k hready =>
          have hij : i ≠ j := by
            rintro rfl
            obtain rfl := Option.some.inj (hready.symm.trans ht)
            exact hended
          refine ⟨(Function.update_of_ne hij _ _).trans ht, ?_⟩
          intro c' hc'
          rcases List.mem_cons.mp hc' with hnow | hc'
          · exact absurd (Prod.mk.inj hnow).1 hij
          · exact hlog c' hc'
      | @reply shared shared' threads j c k outcome hwaiting hreply =>
          obtain ⟨isRunning, -, rfl⟩ := hreply
          have hij : i ≠ j := by
            rintro rfl
            obtain rfl := Option.some.inj (hwaiting.symm.trans ht)
            exact hended
          exact ⟨(Function.update_of_ne hij _ _).trans ht, hlog⟩
      | env henv => exact henv.elim

/-- What a check leads to is what `isRunning` was. -/
theorem threads_of_checked (hrun : Cycles.Run name Cycles.start s) {j : Nat} (h : Cycles.Checked j s s') :
    s'.threads j = some (.ready (afterCheck name (.ok s.shared.isRunning))) ∧
      s'.shared.log = s.shared.log := by
  obtain ⟨k, outcome, shared, hwaiting, ⟨isRunning, hanswered, rfl⟩, rfl⟩ := h
  obtain rfl := afterCheck_of_run hrun (.inr hwaiting)
  cases hanswered with
  | enter => exact ⟨Function.update_self _ _ _, rfl⟩
  | other henter => exact absurd rfl henter

/-- A new call makes its check. -/
theorem run_check {j : Nat} (hfree : s.threads j = none) :
    Cycles.Run name s ⟨⟨true, (j, .enter) :: s.shared.log⟩,
      Function.update s.threads j (some (.ready (afterCheck name (.ok s.shared.isRunning))))⟩ := by
  obtain ⟨shared, threads⟩ := s
  have hreply : processor.reply (processor.called shared j .enter) j .enter (.ok shared.isRunning)
      ⟨true, (j, .enter) :: shared.log⟩ := ⟨true, .enter, rfl⟩
  refine .head (.spawn j hfree) ?_
  dsimp only
  rw [runCycle_eq]
  exact Sys.Run.ask (H := processor) j Command.enter (afterCheck name) (.ok shared.isRunning) hreply

end Run

/-- **Cycles of one processor never overlap and never wedge.** No two calls are inside at once; a call that
    checks while one is inside returns 0 and never asks for anything else; once nobody is inside, however the
    last cycle ended, a check leads into a whole cycle, and any new call gets there. -/
structure Gated (name : Str) (s : Cycles) : Prop where
  exclusive : ∀ i j, s.Inside i → s.Inside j → i = j
  refused : (∃ i, s.Inside i) → ∀ j s', Cycles.Checked j s s' → ∀ s'', Cycles.Run name s' s'' →
    s''.threads j = some (.ready (.ret 0)) ∧ ∀ c, (j, c) ∈ s''.shared.log → c = .enter
  admitted : (¬ ∃ i, s.Inside i) → ∀ j s', Cycles.Checked j s s' →
    s'.threads j = some (.ready (cycle name))
  welcome : (¬ ∃ i, s.Inside i) → ∀ j, s.threads j = none →
    ∃ s', Cycles.Run name s s' ∧ s'.threads j = some (.ready (cycle name))

/-- Whatever the calls and however they are answered, in every state they lead to. -/
theorem gated {name : Str} {s : Cycles} (hrun : Cycles.Run name Cycles.start s) : Gated name s := by
  obtain ⟨clients, hclients, hmatch⟩ := Sys.Run.clients (fun _ => runCycle_follows_stages name)
    (fun _ _ _ _ _ => gives_of_reply) hrun
  obtain ⟨holder, hholds⟩ := holds_of_run hclients
  have hinside : ∀ i, s.Inside i ↔ holder = some i :=
    fun i => (inside_iff (hmatch i)).trans (hholds.inside i)
  have hisRunning : s.shared.isRunning = holder.isSome := hholds.isRunning
  have hup : (∃ i, s.Inside i) → s.shared.isRunning = true := by
    rintro ⟨i, hi⟩
    rw [hisRunning, (hinside i).mp hi]
    rfl
  have hdown : (¬ ∃ i, s.Inside i) → s.shared.isRunning = false := by
    intro hnone
    rw [hisRunning]
    cases hholder : holder with
    | none => rfl
    | some i => exact absurd ⟨i, (hinside i).mpr hholder⟩ hnone
  refine ⟨?_, ?_, ?_, ?_⟩
  · intro i j hi hj
    exact Option.some.inj (((hinside i).mp hi).symm.trans ((hinside j).mp hj))
  · intro hsome j s' hchecked s'' hrun'
    obtain ⟨hthread, hlog⟩ := threads_of_checked hrun hchecked
    rw [hup hsome] at hthread
    obtain ⟨hstays, hasked⟩ := ended_of_run hrun' hthread trivial
    refine ⟨hstays, ?_⟩
    intro c hc
    refine asks_of_run hclients j ?_ c (hlog ▸ hasked c hc)
    -- a call whose check is pending is not inside
    obtain ⟨k, outcome, shared, hwaiting, -⟩ := hchecked
    have hj := hmatch j
    rw [hwaiting] at hj
    intro x hx
    obtain hx : clients j = some x := hx
    rw [hx] at hj
    cases hj with
    | waiting hmay _ => exact .inl (checking_of_may hmay)
  · intro hnone j s' hchecked
    have hthread := (threads_of_checked hrun hchecked).1
    rwa [hdown hnone] at hthread
  · intro hnone j hfree
    refine ⟨_, run_check hfree, (Function.update_self _ _ _).trans ?_⟩
    rw [hdown hnone]
    rfl

/-- One call is in its cycle, and the processor is gated. -/
theorem gated_running : Gated (str "q") ⟨⟨true, [(0, .enter)]⟩,
    Function.update (fun _ => none) 0 (some (.ready (cycle (str "q"))))⟩ :=
  gated (run_check (s := Cycles.start) (j := 0) rfl)

end Outbox
end NestSdk
