import NestSdk.Lib.Coop

/-!
# `Lib.Solo` — a program run alone over a state

While nobody else makes a command, what a program does to the shared state depends only on the `Server`: which
replies a command may get in a state, and the state each leaves.

* `Ends` — a run of the program to its end;
* `Wp` — the weakest precondition of a postcondition over outcome and state: every command is served, and however
  they are served the program ends as asked. One rule per construct;
* `Sys.Run.of_ends` — a run alone is one of the interleavings of `Sys`.
-/

namespace NestSdk
namespace Lib

variable {σ C : Type} {R : C → Type} {ε α β : Type}

/-- How commands are served: `S s c r s'` is a reply `r` to `c` in the state `s`, leaving `s'`. -/
abbrev Server (σ C : Type) (R : C → Type) (ε : Type) := σ → (c : C) → Except ε (R c) → σ → Prop

namespace Prog

/-- The program runs from `s` to its end. -/
inductive Ends (S : Server σ C R ε) : Prog C R ε α → σ → Except ε α → σ → Prop
  | ret (a : α) (s : σ) : Ends S (.ret a) s (.ok a) s
  | fail (e : ε) (s : σ) : Ends S (.fail e) s (.error e) s
  | call {c : C} {k : Except ε (R c) → Prog C R ε α} {s s' s'' : σ} {r : Except ε (R c)} {outcome : Except ε α}
      (hreply : S s c r s') (hrest : Ends S (k r) s' outcome s'') : Ends S (.call c k) s outcome s''

/-- No command is left unserved, and every end satisfies `Q`. -/
def Wp (S : Server σ C R ε) (Q : Except ε α → σ → Prop) : Prog C R ε α → σ → Prop
  | .ret a, s => Q (.ok a) s
  | .fail e, s => Q (.error e) s
  | .call c k, s => (∃ r s', S s c r s') ∧ ∀ r s', S s c r s' → Wp S Q (k r) s'

variable {S : Server σ C R ε} {Q : Except ε α → σ → Prop} {Q' : Except ε β → σ → Prop} {s : σ}

/-- **What the precondition promises of every run,** by induction on the run. -/
theorem Wp.ends {p : Prog C R ε α} (h : p.Wp S Q s) {outcome : Except ε α} {s' : σ}
    (hends : p.Ends S s outcome s') : Q outcome s' := by
  induction hends with
  | ret a s => exact h
  | fail e s => exact h
  | call hreply _ ih => exact ih (h.2 _ _ hreply)

/-- **There is a run,** by induction on the program. -/
theorem Wp.exists_ends {p : Prog C R ε α} (h : p.Wp S Q s) : ∃ outcome s', p.Ends S s outcome s' := by
  induction p generalizing s with
  | ret a => exact ⟨_, _, .ret a s⟩
  | fail e => exact ⟨_, _, .fail e s⟩
  | call c k ih =>
      obtain ⟨⟨r, s', hreply⟩, hrest⟩ := h
      obtain ⟨outcome, s'', hends⟩ := ih r (hrest r s' hreply)
      exact ⟨outcome, s'', .call hreply hends⟩

/-- A weaker postcondition. -/
theorem Wp.mono {Q₁ : Except ε α → σ → Prop} (hQ : ∀ r s, Q r s → Q₁ r s) {p : Prog C R ε α} (h : p.Wp S Q s) :
    p.Wp S Q₁ s := by
  induction p generalizing s with
  | ret a => exact hQ _ s h
  | fail e => exact hQ _ s h
  | call c k ih => exact ⟨h.1, fun r s' hreply => ih r (h.2 r s' hreply)⟩

/-- **The rule every construct's rule follows from.** -/
theorem Wp.attempt {p : Prog C R ε α} {f : Except ε α → Prog C R ε β}
    (h : p.Wp S (fun r s => (f r).Wp S Q' s) s) : (p.attempt f).Wp S Q' s := by
  induction p generalizing s with
  | ret a => exact h
  | fail e => exact h
  | call c k ih => exact ⟨h.1, fun r s' hreply => ih r (h.2 r s' hreply)⟩

theorem wp_pure {a : α} (h : Q (.ok a) s) : (pure a : Prog C R ε α).Wp S Q s := h

theorem wp_ofExcept {outcome : Except ε α} (h : Q outcome s) : (ofExcept outcome).Wp S Q s := by
  cases outcome with
  | ok a => exact h
  | error e => exact h

/-- The rule for `await p; …`. -/
theorem Wp.bind {p : Prog C R ε α} {f : α → Prog C R ε β}
    (h : p.Wp S (fun r s => match r with
      | .ok a => (f a).Wp S Q' s
      | .error e => Q' (.error e) s) s) : (p >>= f).Wp S Q' s := by
  refine Wp.attempt (h.mono ?_)
  intro r s hr
  cases r with
  | ok a => exact hr
  | error e => exact hr

/-- The rule for `try`/`catch`. -/
theorem Wp.tryCatch {p : Prog C R ε α} {handler : ε → Prog C R ε α}
    (h : p.Wp S (fun r s => match r with
      | .ok a => Q (.ok a) s
      | .error e => (handler e).Wp S Q s) s) : (tryCatch p handler).Wp S Q s := by
  refine Wp.attempt (h.mono ?_)
  intro r s hr
  cases r with
  | ok a => exact hr
  | error e => exact hr

/-- The rule for `try`/`finally`. -/
theorem Wp.tryFinally {p : Prog C R ε α} {finalizer : Prog C R ε Unit}
    (h : p.Wp S (fun outcome s => finalizer.Wp S (fun r s => match r with
      | .ok () => Q outcome s
      | .error e => Q (.error e) s) s) s) : (p.tryFinally finalizer).Wp S Q s := by
  refine Wp.attempt (h.mono ?_)
  intro outcome s houtcome
  refine Wp.attempt (houtcome.mono ?_)
  intro r s hr
  cases r with
  | ok u => exact wp_ofExcept hr
  | error e => exact hr

/-- The rule for one command. -/
theorem wp_ask {c : C} {Q : Except ε (R c) → σ → Prop} (hserved : ∃ r s', S s c r s')
    (h : ∀ r s', S s c r s' → Q r s') : (ask c).Wp S Q s :=
  ⟨hserved, fun r s' hreply => wp_ofExcept (h r s' hreply)⟩

/-- The rule for one command and what comes after it. -/
theorem wp_ask_bind {c : C} {f : R c → Prog C R ε β} (hserved : ∃ r s', S s c r s')
    (hok : ∀ a s', S s c (.ok a) s' → (f a).Wp S Q' s')
    (herror : ∀ e s', S s c (.error e) s' → Q' (.error e) s') : (ask c >>= f).Wp S Q' s := by
  refine Wp.bind (wp_ask hserved ?_)
  intro r s' hreply
  cases r with
  | ok a => exact hok a s' hreply
  | error e => exact herror e s' hreply

/-- What a run of one command and what comes after it was. -/
theorem Ends.of_ask_bind {c : C} {f : R c → Prog C R ε β} {outcome : Except ε β} {s' : σ}
    (h : (ask c >>= f).Ends S s outcome s') : ∃ r mid, S s c r mid ∧ match r with
      | .ok a => (f a).Ends S mid outcome s'
      | .error e => outcome = .error e ∧ s' = mid := by
  have hbind : (Prog.bind (ask c) f).Ends S s outcome s' := h
  unfold Prog.bind ask attempt at hbind
  cases hbind with
  | @call _ _ _ mid _ r _ hreply hrest =>
      refine ⟨r, mid, hreply, ?_⟩
      cases r with
      | ok a => exact hrest
      | error e =>
          cases hrest
          exact ⟨rfl, rfl⟩

/-- **The rule for `for (const x of xs) await body(x)`** where the body does not throw, by induction on the list:
    an invariant of the elements still to come. -/
theorem wp_forM {body : α → Prog C R ε PUnit} (I : List α → σ → Prop)
    (hbody : ∀ x xs s, I (x :: xs) s → (body x).Wp S (fun r s => r = .ok ⟨⟩ ∧ I xs s) s) (xs : List α) (h : I xs s) :
    (xs.forM body).Wp S (fun r s => r = .ok ⟨⟩ ∧ I [] s) s := by
  induction xs generalizing s with
  | nil => exact ⟨rfl, h⟩
  | cons x xs ih =>
      refine Wp.bind ((hbody x xs s h).mono ?_)
      rintro r s ⟨rfl, hI⟩
      exact ih hI

end Prog

/-! ## Among others -/

variable {ι : Type} [DecidableEq ι] {H : Host ι σ C R ε} {main : ι → Prog C R ε α} {S : Server σ C R ε}

/-- **A run alone is an interleaving in which the others do nothing,** by induction on the run. What the server does
    between commands are moves of the surroundings. -/
theorem Sys.Run.of_ends (i : ι)
    (hserves : ∀ s c r s', S s c r s' → ∃ mid, Relation.ReflTransGen H.env s mid ∧ H.reply (H.called mid i c) i c r s')
    {p : Prog C R ε α} {s s' : σ} {outcome : Except ε α} (hends : p.Ends S s outcome s')
    (threads : ι → Option (Thread C R ε α)) :
    Sys.Run H main ⟨s, Function.update threads i (some (.ready p))⟩
      ⟨s', Function.update threads i (some (.ready (Prog.ofExcept outcome)))⟩ := by
  induction hends with
  | ret a s => exact .refl
  | fail e s => exact .refl
  | @call c k s s' s'' r outcome hreply _ ih =>
      obtain ⟨mid, henv, hreply⟩ := hserves s c r s' hreply
      have hpass : ∀ {mid}, Relation.ReflTransGen H.env s mid →
          Sys.Run H main ⟨s, Function.update threads i (some (.ready (.call c k)))⟩
            ⟨mid, Function.update threads i (some (.ready (.call c k)))⟩ := by
        intro mid h
        induction h with
        | refl => exact .refl
        | tail _ hstep ihpass => exact ihpass.tail (.env hstep)
      exact (hpass henv).trans ((Sys.Run.ask i c k r hreply).trans ih)

/-- Surroundings that allow more allow the same runs. -/
theorem Sys.Run.of_host {H' : Host ι σ C R ε} {a b : Sys ι σ C R ε α} (h : Sys.Run H main a b)
    (hcalled : ∀ s i c, H'.called s i c = H.called s i c)
    (hreply : ∀ {s i c r s'}, H.reply s i c r s' → H'.reply s i c r s') (henv : ∀ {s s'}, H.env s s' → H'.env s s') :
    Sys.Run H' main a b := by
  induction h with
  | refl => exact .refl
  | tail _ hstep ih =>
      apply ih.tail
      cases hstep with
      | spawn i hfree => exact .spawn i hfree
      | call i hready =>
          rw [← hcalled]
          exact .call i hready
      | reply i hwaiting hanswer => exact .reply i hwaiting (hreply hanswer)
      | env hmove => exact .env (henv hmove)

end Lib
end NestSdk
