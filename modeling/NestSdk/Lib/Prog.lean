import Mathlib

/-!
# `Lib.Prog` — programs that await commands

A `Prog` is what a function with `await`s looks like from outside: it returns, or throws, or hands a command
to its surroundings and goes on from whatever comes back, a value or an exception. Nothing is said of how
commands are carried out, so one program can be run alone, interleaved with others, or against any reply.

* `attempt` goes on from either way a program can end; `bind`, `tryCatch` and `tryFinally` are its instances;
* `Protocol` — which command a client may send when, and what it then knows: a *view* that commands and
  replies advance;
* `Follows` — a program keeps to a protocol and ends in a view that satisfies a postcondition. Its rules are
  the Hoare rules of this language, one per construct.
-/

namespace NestSdk
namespace Lib

/-- A program over commands `C` with replies `R`, throwing `ε`, returning `α`. -/
inductive Prog (C : Type) (R : C → Type) (ε α : Type) : Type
  | ret (a : α)
  | fail (e : ε)
  | call (c : C) (k : Except ε (R c) → Prog C R ε α)

namespace Prog

variable {C : Type} {R : C → Type} {ε α β : Type}

/-- Goes on with `f` from the value or the exception `p` ends with. -/
def attempt : Prog C R ε α → (Except ε α → Prog C R ε β) → Prog C R ε β
  | .ret a, f => f (.ok a)
  | .fail e, f => f (.error e)
  | .call c k, f => .call c (fun r => (k r).attempt f)

/-- The program that ends the given way. -/
def ofExcept : Except ε α → Prog C R ε α
  | .ok a => .ret a
  | .error e => .fail e

/-- Sends one command; its exception is thrown on. -/
def ask (c : C) : Prog C R ε (R c) := .call c ofExcept

/-- `await p; …`: an exception of `p` is thrown on. -/
protected def bind (p : Prog C R ε α) (f : α → Prog C R ε β) : Prog C R ε β :=
  p.attempt fun
    | .ok a => f a
    | .error e => .fail e

/-- `try { p } catch (e) { … }`. -/
protected def tryCatch (p : Prog C R ε α) (handler : ε → Prog C R ε α) : Prog C R ε α :=
  p.attempt fun
    | .ok a => .ret a
    | .error e => handler e

/-- `try { p } finally { … }`: an exception of the `finally` block replaces the outcome of `p`. -/
protected def tryFinally (p : Prog C R ε α) (finalizer : Prog C R ε Unit) : Prog C R ε α :=
  p.attempt fun outcome => finalizer.attempt fun
    | .ok () => ofExcept outcome
    | .error e => .fail e

instance : Monad (Prog C R ε) where
  pure := .ret
  bind := Prog.bind

instance : MonadExceptOf ε (Prog C R ε) where
  throw := .fail
  tryCatch := Prog.tryCatch

/-! ### A program run alone -/

/-- Runs the program with every command answered by `answer`: the commands it sends, in order, and how it
    ends. -/
def run (answer : (c : C) → Except ε (R c)) : Prog C R ε α → List C × Except ε α
  | .ret a => ([], .ok a)
  | .fail e => ([], .error e)
  | .call c k => (c :: ((k (answer c)).run answer).1, ((k (answer c)).run answer).2)

variable (answer : (c : C) → Except ε (R c))

@[simp] theorem run_ask (c : C) : (ask c : Prog C R ε (R c)).run answer = ([c], answer c) := by
  show (Prog.call c ofExcept).run answer = _
  simp only [run]
  cases answer c with
  | ok r => rfl
  | error e => rfl

/-- **The rule every construct's rule follows from.** -/
theorem run_attempt (p : Prog C R ε α) (f : Except ε α → Prog C R ε β) :
    (p.attempt f).run answer
      = ((p.run answer).1 ++ ((f (p.run answer).2).run answer).1, ((f (p.run answer).2).run answer).2) := by
  induction p with
  | ret a => simp [attempt, run]
  | fail e => simp [attempt, run]
  | call c k ih => simp [attempt, run, ih]

theorem run_bind_ok {p : Prog C R ε α} {f : α → Prog C R ε β} {sent : List C} {a : α}
    (h : p.run answer = (sent, .ok a)) :
    (p >>= f).run answer = (sent ++ ((f a).run answer).1, ((f a).run answer).2) := by
  refine (run_attempt answer p _).trans ?_
  rw [h]

theorem run_bind_error {p : Prog C R ε α} {f : α → Prog C R ε β} {sent : List C} {e : ε}
    (h : p.run answer = (sent, .error e)) : (p >>= f).run answer = (sent, .error e) := by
  refine (run_attempt answer p _).trans ?_
  rw [h]
  simp [run]

/-- What a sequence sends, its first part sends, or its second part once the first has returned. -/
theorem mem_run_bind {p : Prog C R ε α} {f : α → Prog C R ε β} {c : C} (h : c ∈ ((p >>= f).run answer).1) :
    c ∈ (p.run answer).1 ∨ ∃ a, (p.run answer).2 = .ok a ∧ c ∈ ((f a).run answer).1 := by
  cases hp : p.run answer with
  | mk sent result =>
      cases result with
      | ok a =>
          rw [run_bind_ok answer hp] at h
          exact (List.mem_append.mp h).imp id fun hsent => ⟨a, rfl, hsent⟩
      | error e =>
          rw [run_bind_error answer hp] at h
          exact .inl h

/-- What follows a program that returns is sent, too. -/
theorem mem_run_bind_of_ok {p : Prog C R ε α} {f : α → Prog C R ε β} {c : C} {a : α} (h : (p.run answer).2 = .ok a)
    (hc : c ∈ ((f a).run answer).1) : c ∈ ((p >>= f).run answer).1 := by
  rw [run_bind_ok answer (Prod.ext rfl h : p.run answer = ((p.run answer).1, .ok a))]
  exact List.mem_append_right _ hc

theorem run_ask_ok {c : C} {f : R c → Prog C R ε α} {r : R c} (h : answer c = .ok r) :
    (ask c >>= f).run answer = (c :: ((f r).run answer).1, ((f r).run answer).2) := by
  have hask : (ask c : Prog C R ε (R c)).run answer = ([c], .ok r) := by rw [run_ask, h]
  apply run_bind_ok answer hask

theorem run_ask_error {c : C} {f : R c → Prog C R ε α} {e : ε} (h : answer c = .error e) :
    (ask c >>= f).run answer = ([c], .error e) := by
  have hask : (ask c : Prog C R ε (R c)).run answer = ([c], .error e) := by rw [run_ask, h]
  apply run_bind_error answer hask

theorem run_tryCatch_ok {p : Prog C R ε α} {handler : ε → Prog C R ε α} {a : α}
    (h : (p.run answer).2 = .ok a) : (tryCatch p handler).run answer = p.run answer := by
  have htry := run_attempt answer p (fun | .ok a => .ret a | .error e => handler e)
  rw [h] at htry
  apply htry.trans
  simp [run, ← h]

theorem run_tryCatch_error {p : Prog C R ε α} {handler : ε → Prog C R ε α} {e : ε}
    (h : (p.run answer).2 = .error e) :
    (tryCatch p handler).run answer
      = ((p.run answer).1 ++ ((handler e).run answer).1, ((handler e).run answer).2) := by
  have htry := run_attempt answer p (fun | .ok a => .ret a | .error e => handler e)
  rw [h] at htry
  exact htry

/-! ### How a program run alone ends

A rule per construct, which turns the outcome of a program into a computation that may throw. -/

/-- How the program ends when it is run alone. -/
def outcome (p : Prog C R ε α) : Except ε α := (p.run answer).2

@[simp] theorem outcome_ret (a : α) : (pure a : Prog C R ε α).outcome answer = .ok a := rfl

@[simp] theorem outcome_ofExcept (r : Except ε α) : (ofExcept r : Prog C R ε α).outcome answer = r := by
  cases r with
  | ok a => rfl
  | error e => rfl

@[simp] theorem outcome_ask (c : C) : (ask c : Prog C R ε (R c)).outcome answer = answer c :=
  outcome_ofExcept answer (answer c)

theorem outcome_attempt (p : Prog C R ε α) (f : Except ε α → Prog C R ε β) :
    (p.attempt f).outcome answer = (f (p.outcome answer)).outcome answer := by
  rw [outcome, run_attempt]
  rfl

@[simp] theorem outcome_bind (p : Prog C R ε α) (f : α → Prog C R ε β) :
    (p >>= f).outcome answer = p.outcome answer >>= fun a => (f a).outcome answer := by
  refine (outcome_attempt answer p _).trans ?_
  cases p.outcome answer with
  | ok a => rfl
  | error e => rfl

@[simp] theorem outcome_tryCatch (p : Prog C R ε α) (handler : ε → Prog C R ε α) :
    (tryCatch p handler).outcome answer
      = tryCatch (p.outcome answer) fun e => (handler e).outcome answer := by
  refine (outcome_attempt answer p _).trans ?_
  cases p.outcome answer with
  | ok a => rfl
  | error e => rfl

/-- Both parts of a sequence return, or the sequence throws. -/
theorem outcome_bind_eq_ok {p : Prog C R ε α} {f : α → Prog C R ε β} {b : β} :
    (p >>= f).outcome answer = .ok b ↔ ∃ a, p.outcome answer = .ok a ∧ (f a).outcome answer = .ok b := by
  rw [outcome_bind]
  cases p.outcome answer with
  | ok a =>
      constructor
      · intro h
        exact ⟨a, rfl, h⟩
      · rintro ⟨a', ha, h⟩
        cases ha
        exact h
  | error e =>
      constructor
      · intro h
        cases h
      · rintro ⟨a, ha, -⟩
        cases ha

/-- Where the `catch` clause only ever throws, what is returned was returned by the `try` block. -/
theorem outcome_tryCatch_eq_ok {p : Prog C R ε α} {handler : ε → Prog C R ε α} {a : α}
    (h : ∀ e, (handler e).outcome answer ≠ .ok a) :
    (tryCatch p handler).outcome answer = .ok a ↔ p.outcome answer = .ok a := by
  rw [outcome_tryCatch]
  cases p.outcome answer with
  | ok a' => rfl
  | error e =>
      constructor
      · intro hcaught
        exact absurd hcaught (h e)
      · intro hthrown
        cases hthrown

/-- A `finally` block that does not throw leaves the outcome as it is. -/
theorem outcome_tryFinally {p : Prog C R ε α} {finalizer : Prog C R ε Unit}
    (h : finalizer.outcome answer = .ok ()) : (p.tryFinally finalizer).outcome answer = p.outcome answer := by
  refine (outcome_attempt answer p _).trans ?_
  rw [outcome_attempt, h]
  exact outcome_ofExcept answer _

/-! ### A program run against a history

The same command may be answered differently each time it is sent: the reply depends on the commands sent
before it. -/

/-- Runs the program after the commands `past`, every command answered by what was sent before it. -/
def runAfter (reply : List C → (c : C) → Except ε (R c)) (past : List C) :
    Prog C R ε α → List C × Except ε α
  | .ret a => ([], .ok a)
  | .fail e => ([], .error e)
  | .call c k =>
      (c :: ((k (reply past c)).runAfter reply (past ++ [c])).1,
        ((k (reply past c)).runAfter reply (past ++ [c])).2)

variable {reply : List C → (c : C) → Except ε (R c)}

/-- The second part of a program runs after the commands of the first. -/
theorem runAfter_attempt (p : Prog C R ε α) (f : Except ε α → Prog C R ε β) (past : List C) :
    (p.attempt f).runAfter reply past =
      let first := p.runAfter reply past
      let second := (f first.2).runAfter reply (past ++ first.1)
      (first.1 ++ second.1, second.2) := by
  induction p generalizing past with
  | ret a => simp [attempt, runAfter]
  | fail e => simp [attempt, runAfter]
  | call c k ih => simp [attempt, runAfter, ih]

theorem runAfter_bind_ok {p : Prog C R ε α} {f : α → Prog C R ε β} {past sent : List C} {a : α}
    (h : p.runAfter reply past = (sent, .ok a)) :
    (p >>= f).runAfter reply past =
      (sent ++ ((f a).runAfter reply (past ++ sent)).1, ((f a).runAfter reply (past ++ sent)).2) := by
  refine (runAfter_attempt p _ past).trans ?_
  rw [h]

theorem runAfter_bind_error {p : Prog C R ε α} {f : α → Prog C R ε β} {past sent : List C} {e : ε}
    (h : p.runAfter reply past = (sent, .error e)) :
    (p >>= f).runAfter reply past = (sent, .error e) := by
  refine (runAfter_attempt p _ past).trans ?_
  rw [h]
  simp [runAfter]

/-- What a `try`/`catch` throws, the `catch` clause threw. -/
theorem runAfter_tryCatch_error {p : Prog C R ε α} {handler : ε → Prog C R ε α} {past : List C} {e : ε}
    (h : ((tryCatch p handler).runAfter reply past).2 = .error e) :
    ∃ caught past', ((handler caught).runAfter reply past').2 = .error e := by
  have htry : (p.attempt fun | .ok a => .ret a | .error e => handler e).runAfter reply past = _ :=
    runAfter_attempt p _ past
  have hsecond := (congrArg Prod.snd htry).symm.trans h
  cases hp : (p.runAfter reply past).2 with
  | ok a =>
      simp only [hp] at hsecond
      cases hsecond
  | error caught =>
      simp only [hp] at hsecond
      exact ⟨caught, _, hsecond⟩

/-- A `finally` block that does not throw adds its commands. -/
theorem runAfter_tryFinally {p : Prog C R ε α} {finalizer : Prog C R ε Unit} {past sent cleanup : List C}
    {result : Except ε α} (h : p.runAfter reply past = (sent, result))
    (hfinally : finalizer.runAfter reply (past ++ sent) = (cleanup, .ok ())) :
    (p.tryFinally finalizer).runAfter reply past = (sent ++ cleanup, result) := by
  refine (runAfter_attempt p _ past).trans ?_
  rw [h]
  dsimp only
  rw [runAfter_attempt, hfinally]
  cases result with
  | ok a => simp [ofExcept, runAfter]
  | error e => simp [ofExcept, runAfter]

/-- **A program whose every command is answered as `answer` would have it runs as it does alone.** -/
theorem runAfter_eq_run {p : Prog C R ε α} {past : List C}
    (h : ∀ sent c, sent ++ [c] <+: (p.run answer).1 → reply (past ++ sent) c = answer c) :
    p.runAfter reply past = p.run answer := by
  induction p generalizing past with
  | ret a => rfl
  | fail e => rfl
  | call c k ih =>
      have hfirst : reply past c = answer c := by
        have hsends := h [] c (by simp [run])
        rwa [List.append_nil] at hsends
      have hrest : (k (answer c)).runAfter reply (past ++ [c]) = (k (answer c)).run answer := by
        apply ih _
        intro sent c' hsent
        have hsends := h (c :: sent) c' (by simpa [run] using hsent)
        rwa [List.append_cons] at hsends
      simp only [runAfter, run]
      rw [hfirst, hrest]

end Prog

/-! ## Protocols -/

/-- What a client in a view may send, what may come back, and the views that follow. A reply is only ever
    one the surroundings can `give`. -/
structure Protocol (C : Type) (R : C → Type) (ε γ : Type) where
  may : γ → C → Prop
  gives : (c : C) → Except ε (R c) → Prop
  sent : γ → C → γ
  received : γ → (c : C) → Except ε (R c) → γ

section Follows

variable {C : Type} {R : C → Type} {ε α β γ : Type} {P : Protocol C R ε γ}

/-- The program keeps to the protocol from the view `g`, and every way it can end satisfies `Q`. -/
def Follows (P : Protocol C R ε γ) (Q : γ → Except ε α → Prop) : Prog C R ε α → γ → Prop
  | .ret a, g => Q g (.ok a)
  | .fail e, g => Q g (.error e)
  | .call c k, g => P.may g c ∧ ∀ r, P.gives c r → Follows P Q (k r) (P.received g c r)

theorem follows_ofExcept {Q : γ → Except ε α → Prop} {outcome : Except ε α} {g : γ}
    (h : Q g outcome) : Follows P Q (Prog.ofExcept outcome) g := by
  cases outcome with
  | ok a => exact h
  | error e => exact h

/-- A weaker postcondition. -/
theorem Follows.mono {Q Q' : γ → Except ε α → Prop} (hQ : ∀ g r, Q g r → Q' g r)
    {p : Prog C R ε α} {g : γ} (h : Follows P Q p g) : Follows P Q' p g := by
  induction p generalizing g with
  | ret a => exact hQ g _ h
  | fail e => exact hQ g _ h
  | call c k ih => exact ⟨h.1, fun r hr => ih r (h.2 r hr)⟩

/-- **The rule every construct's rule follows from:** what `p` ends in is what `f` starts from. -/
theorem Follows.attempt {Q : γ → Except ε α → Prop} {Q' : γ → Except ε β → Prop}
    {p : Prog C R ε α} {f : Except ε α → Prog C R ε β} {g : γ} (h : Follows P Q p g)
    (hf : ∀ g r, Q g r → Follows P Q' (f r) g) : Follows P Q' (p.attempt f) g := by
  induction p generalizing g with
  | ret a => exact hf g _ h
  | fail e => exact hf g _ h
  | call c k ih => exact ⟨h.1, fun r hr => ih r (h.2 r hr)⟩

/-- The rule for `await p; …`. The exceptions of `p` need the postcondition of the whole. -/
theorem Follows.bind {Q' : γ → Except ε β → Prop} {p : Prog C R ε α} {f : α → Prog C R ε β} {g : γ}
    (h : Follows P (fun g r => match r with
      | .ok a => Follows P Q' (f a) g
      | .error e => Q' g (.error e)) p g) : Follows P Q' (p >>= f) g := by
  apply Follows.attempt h
  intro g r hr
  cases r with
  | ok a => exact hr
  | error e => exact hr

/-- The rule for `try`/`catch`. -/
theorem Follows.tryCatch {Q : γ → Except ε α → Prop} {p : Prog C R ε α}
    {handler : ε → Prog C R ε α} {g : γ}
    (h : Follows P (fun g r => match r with
      | .ok a => Q g (.ok a)
      | .error e => Follows P Q (handler e) g) p g) : Follows P Q (tryCatch p handler) g := by
  apply Follows.attempt h
  intro g r hr
  cases r with
  | ok a => exact hr
  | error e => exact hr

/-- The rule for `try`/`finally`. -/
theorem Follows.tryFinally {Q : γ → Except ε α → Prop} {p : Prog C R ε α}
    {finalizer : Prog C R ε Unit} {g : γ}
    (h : Follows P (fun g outcome => Follows P (fun g r => match r with
      | .ok () => Q g outcome
      | .error e => Q g (.error e)) finalizer g) p g) : Follows P Q (p.tryFinally finalizer) g := by
  apply Follows.attempt h
  intro g outcome houtcome
  apply Follows.attempt houtcome
  intro g r hr
  cases r with
  | ok u => exact follows_ofExcept hr
  | error e => exact hr

/-- The rule for one command. -/
theorem follows_ask {Q : γ → Except ε (R c) → Prop} {g : γ} (hmay : P.may g c)
    (h : ∀ r, P.gives c r → Q (P.received g c r) r) : Follows P Q (Prog.ask c) g :=
  ⟨hmay, fun r hr => follows_ofExcept (h r hr)⟩

/-- The rule for one command and what comes after it. -/
theorem follows_ask_bind {Q : γ → Except ε α → Prop} {c : C} {f : R c → Prog C R ε α} {g : γ} (hmay : P.may g c)
    (hok : ∀ r, P.gives c (.ok r) → Follows P Q (f r) (P.received g c (.ok r)))
    (herror : ∀ e, Q (P.received g c (.error e)) (.error e)) : Follows P Q (Prog.ask c >>= f) g := by
  refine Follows.bind (follows_ask hmay ?_)
  intro r hr
  cases r with
  | ok a => exact hok a hr
  | error e => exact herror e

/-- **The rule for `for (const x of xs) await body(x)`,** by induction on the list: an invariant of the
    elements still to come. An exception leaves the loop. -/
theorem follows_forM {Q : γ → Except ε PUnit → Prop} {body : α → Prog C R ε PUnit}
    (I : List α → γ → Prop)
    (hbody : ∀ x xs g, I (x :: xs) g → Follows P (fun g r => match r with
      | .ok _ => I xs g
      | .error e => Q g (.error e)) (body x) g)
    (hdone : ∀ g, I [] g → Q g (.ok ⟨⟩)) (xs : List α) {g : γ} (h : I xs g) :
    Follows P Q (xs.forM body) g := by
  induction xs generalizing g with
  | nil => exact hdone g h
  | cons x xs ih =>
      refine Follows.bind (Follows.mono ?_ (hbody x xs g h))
      intro g r hr
      cases r with
      | ok u => exact ih hr
      | error e => exact hr

end Follows

end Lib
end NestSdk
