import NestSdk.Lib.Prog

/-!
# `Lib.Coop` — calls that interleave at their awaits

Any number of calls run over one shared state, and between two awaits of one call anything else may happen: a
`Host` says what making a call does at once, which replies a pending call may get and what they do, and how
the shared state moves by itself. A call may be left pending, or not continued, for ever.

Two systems are related here:

* `Sys` — every call is a `Prog`, run as it is written;
* `Clients` — every call is only the view a `Protocol` keeps of it, and sends whatever the protocol allows.

**`Sys.Run.clients`**: if the programs follow the protocol, each run of the first is, on the shared state, a
run of the second. Invariants are then proved of the second, where no program text is left, and
`Clients.Run.views` is the induction for the ones that speak of a single client.
-/

namespace NestSdk
namespace Lib

/-- The surroundings of interleaved calls. -/
structure Host (ι σ C : Type) (R : C → Type) (ε : Type) where
  called : σ → ι → C → σ
  reply : σ → ι → (c : C) → Except ε (R c) → σ → Prop
  env : σ → σ → Prop

variable {ι σ C : Type} {R : C → Type} {ε α γ : Type}

/-! ## Programs -/

/-- A call that can go on, or that awaits the reply to a command. -/
inductive Thread (C : Type) (R : C → Type) (ε α : Type) : Type
  | ready (p : Prog C R ε α)
  | waiting (c : C) (k : Except ε (R c) → Prog C R ε α)

/-- The shared state with the calls made so far. -/
structure Sys (ι σ C : Type) (R : C → Type) (ε α : Type) where
  shared : σ
  threads : ι → Option (Thread C R ε α)

variable [DecidableEq ι]

/-- One step of one call, or of the surroundings. -/
inductive Sys.Step (H : Host ι σ C R ε) (main : ι → Prog C R ε α) :
    Sys ι σ C R ε α → Sys ι σ C R ε α → Prop
  | spawn {s : σ} {threads : ι → Option (Thread C R ε α)} (i : ι) (hfree : threads i = none) :
      Step H main ⟨s, threads⟩ ⟨s, Function.update threads i (some (.ready (main i)))⟩
  | call {s : σ} {threads : ι → Option (Thread C R ε α)} (i : ι) {c : C}
      {k : Except ε (R c) → Prog C R ε α} (hready : threads i = some (.ready (.call c k))) :
      Step H main ⟨s, threads⟩ ⟨H.called s i c, Function.update threads i (some (.waiting c k))⟩
  | reply {s s' : σ} {threads : ι → Option (Thread C R ε α)} (i : ι) {c : C}
      {k : Except ε (R c) → Prog C R ε α} {r : Except ε (R c)}
      (hwaiting : threads i = some (.waiting c k)) (hreply : H.reply s i c r s') :
      Step H main ⟨s, threads⟩ ⟨s', Function.update threads i (some (.ready (k r)))⟩
  | env {s s' : σ} {threads : ι → Option (Thread C R ε α)} (henv : H.env s s') :
      Step H main ⟨s, threads⟩ ⟨s', threads⟩

/-- Any number of steps. -/
abbrev Sys.Run (H : Host ι σ C R ε) (main : ι → Prog C R ε α) :
    Sys ι σ C R ε α → Sys ι σ C R ε α → Prop := Relation.ReflTransGen (Sys.Step H main)

section Solo

variable {H : Host ι σ C R ε} {main : ι → Prog C R ε α} {s s' : σ}
  {threads : ι → Option (Thread C R ε α)}

/-- A call that goes on makes its next command. -/
theorem Sys.Step.call_self (i : ι) (c : C) (k : Except ε (R c) → Prog C R ε α) :
    Sys.Step H main ⟨s, Function.update threads i (some (.ready (.call c k)))⟩
      ⟨H.called s i c, Function.update threads i (some (.waiting c k))⟩ := by
  have hstep : Sys.Step H main ⟨s, Function.update threads i (some (.ready (.call c k)))⟩ _ :=
    .call i (Function.update_self i (some (.ready (.call c k))) threads)
  rwa [Function.update_idem] at hstep

/-- A call that goes on makes its next command and is answered. -/
theorem Sys.Run.ask (i : ι) (c : C) (k : Except ε (R c) → Prog C R ε α) (r : Except ε (R c))
    (hreply : H.reply (H.called s i c) i c r s') :
    Sys.Run H main ⟨s, Function.update threads i (some (.ready (.call c k)))⟩
      ⟨s', Function.update threads i (some (.ready (k r)))⟩ := by
  have hstep : Sys.Step H main ⟨H.called s i c, Function.update threads i (some (.waiting c k))⟩ _ :=
    .reply i (Function.update_self i (some (.waiting c k)) threads) hreply
  rw [Function.update_idem] at hstep
  exact (Relation.ReflTransGen.single (.call_self i c k)).tail hstep

end Solo

/-! ## Views -/

variable {P : Protocol C R ε γ}

/-- A client as the protocol sees it. A pending command is one its view allowed. -/
inductive Client (P : Protocol C R ε γ) : Type
  | idle (g : γ)
  | pending (g : γ) (c : C) (hmay : P.may g c)

/-- What a client knows now. -/
def Client.view : Client P → γ
  | .idle g => g
  | .pending g c _ => P.sent g c

/-- The shared state with the clients that have joined. -/
structure Clients (ι σ : Type) (P : Protocol C R ε γ) where
  shared : σ
  clients : ι → Option (Client P)

/-- Nobody has joined yet. -/
def Clients.init (P : Protocol C R ε γ) (s : σ) : Clients ι σ P := ⟨s, fun _ => none⟩

/-- One step of one client, or of the surroundings. -/
inductive Clients.Step (H : Host ι σ C R ε) (start : γ) : Clients ι σ P → Clients ι σ P → Prop
  | join {s : σ} {clients : ι → Option (Client P)} (i : ι) (hfree : clients i = none) :
      Step H start ⟨s, clients⟩ ⟨s, Function.update clients i (some (.idle start))⟩
  | send {s : σ} {clients : ι → Option (Client P)} (i : ι) {g : γ} {c : C}
      (hidle : clients i = some (.idle g)) (hmay : P.may g c) :
      Step H start ⟨s, clients⟩
        ⟨H.called s i c, Function.update clients i (some (.pending g c hmay))⟩
  | receive {s s' : σ} {clients : ι → Option (Client P)} (i : ι) {g : γ} {c : C} {hmay : P.may g c}
      {r : Except ε (R c)} (hpending : clients i = some (.pending g c hmay))
      (hreply : H.reply s i c r s') :
      Step H start ⟨s, clients⟩ ⟨s', Function.update clients i (some (.idle (P.received g c r)))⟩
  | env {s s' : σ} {clients : ι → Option (Client P)} (henv : H.env s s') :
      Step H start ⟨s, clients⟩ ⟨s', clients⟩

/-- Any number of steps. -/
abbrev Clients.Run (H : Host ι σ C R ε) (start : γ) : Clients ι σ P → Clients ι σ P → Prop :=
  Relation.ReflTransGen (Clients.Step H start)

/-! ## The simulation -/

/-- A call is matched by a client from whose view it still follows the protocol. -/
inductive Matches (P : Protocol C R ε γ) (Q : γ → Except ε α → Prop) :
    Option (Thread C R ε α) → Option (Client P) → Prop
  | absent : Matches P Q none none
  | ready {p : Prog C R ε α} {g : γ} (h : Follows P Q p g) :
      Matches P Q (some (.ready p)) (some (.idle g))
  | waiting {c : C} {k : Except ε (R c) → Prog C R ε α} {g : γ} (hmay : P.may g c)
      (h : ∀ r, P.gives c r → Follows P Q (k r) (P.received g c r)) :
      Matches P Q (some (.waiting c k)) (some (.pending g c hmay))

variable {Q : γ → Except ε α → Prop} {H : Host ι σ C R ε} {main : ι → Prog C R ε α} {start : γ}

theorem matches_update {threads : ι → Option (Thread C R ε α)} {clients : ι → Option (Client P)}
    (h : ∀ i, Matches P Q (threads i) (clients i)) (i : ι) {t : Option (Thread C R ε α)}
    {x : Option (Client P)} (hi : Matches P Q t x) (j : ι) :
    Matches P Q (Function.update threads i t j) (Function.update clients i x j) := by
  by_cases hj : j = i
  · subst hj
    rw [Function.update_self, Function.update_self]
    exact hi
  · rw [Function.update_of_ne hj, Function.update_of_ne hj]
    exact h j

/-- **One step of a program is one step of its client.** -/
theorem Sys.Step.clients (hmain : ∀ i, Follows P Q (main i) start)
    (hgives : ∀ s i c r s', H.reply s i c r s' → P.gives c r)
    {s s' : Sys ι σ C R ε α} (hstep : Sys.Step H main s s') {clients : ι → Option (Client P)}
    (h : ∀ i, Matches P Q (s.threads i) (clients i)) :
    ∃ clients', Clients.Step H start ⟨s.shared, clients⟩ ⟨s'.shared, clients'⟩ ∧
      ∀ i, Matches P Q (s'.threads i) (clients' i) := by
  cases hstep with
  | @spawn σ₀ threads i hfree =>
      have hi := h i
      simp only [hfree] at hi
      generalize hx : clients i = x at hi
      cases hi
      exact ⟨_, .join i hx, matches_update h i (.ready (hmain i))⟩
  | @call σ₀ threads i c k hready =>
      have hi := h i
      simp only [hready] at hi
      generalize hx : clients i = x at hi
      cases hi with
      | ready hfollows =>
          exact ⟨_, .send i hx hfollows.1, matches_update h i (.waiting hfollows.1 hfollows.2)⟩
  | @reply σ₀ σ₁ threads i c k r hwaiting hreply =>
      have hi := h i
      simp only [hwaiting] at hi
      generalize hx : clients i = x at hi
      cases hi with
      | waiting hmay hfollows =>
          exact ⟨_, .receive i hx hreply,
            matches_update h i (.ready (hfollows r (hgives _ _ _ _ _ hreply)))⟩
  | env henv => exact ⟨clients, .env henv, h⟩

/-- **Every run of the programs is a run of their clients,** by induction on the run. -/
theorem Sys.Run.clients (hmain : ∀ i, Follows P Q (main i) start)
    (hgives : ∀ s i c r s', H.reply s i c r s' → P.gives c r)
    {s₀ : σ} {s : Sys ι σ C R ε α} (hrun : Sys.Run H main ⟨s₀, fun _ => none⟩ s) :
    ∃ clients, Clients.Run H start (Clients.init P s₀) ⟨s.shared, clients⟩ ∧
      ∀ i, Matches P Q (s.threads i) (clients i) := by
  induction hrun with
  | refl => exact ⟨_, .refl, fun _ => .absent⟩
  | tail _ hstep ih =>
      obtain ⟨clients, hclients, hmatch⟩ := ih
      obtain ⟨clients', hstep', hmatch'⟩ := Sys.Step.clients hmain hgives hstep hmatch
      exact ⟨clients', hclients.tail hstep', hmatch'⟩

/-! ## Invariants of single clients -/

/-- The shared state moves: a client's command is made or replied to, or the surroundings act. -/
inductive Host.Moves (H : Host ι σ C R ε) : Option ι → σ → σ → Prop
  | called {s : σ} (i : ι) (c : C) : Moves H (some i) s (H.called s i c)
  | reply {s s' : σ} {i : ι} {c : C} {r : Except ε (R c)} (h : H.reply s i c r s') :
      Moves H (some i) s s'
  | env {s s' : σ} (h : H.env s s') : Moves H none s s'

/-- A client after one of them changed: that one, or one as it was. -/
theorem update_cases {clients : ι → Option (Client P)} {i j : ι} {x y : Client P}
    (h : Function.update clients j (some y) i = some x) :
    (j = i ∧ y = x) ∨ (j ≠ i ∧ clients i = some x) := by
  by_cases hj : i = j
  · subst hj
    rw [Function.update_self] at h
    exact .inl ⟨rfl, Option.some.inj h⟩
  · rw [Function.update_of_ne hj] at h
    exact .inr ⟨Ne.symm hj, h⟩

/-- **The induction behind every invariant of single clients.** What no one else's move breaks, what holds of a
    client that joins, and what its own sending and receiving keep, holds of every client. -/
theorem Clients.Run.views {I : σ → ι → γ → Prop} {s₀ : Clients ι σ P}
    (hempty : ∀ i, s₀.clients i = none)
    (hothers : ∀ s s' i g actor, Host.Moves H actor s s' → actor ≠ some i → I s i g → I s' i g)
    (hjoin : ∀ s i, I s i start)
    (hsend : ∀ s i g c, P.may g c → I s i g → I (H.called s i c) i (P.sent g c))
    (hreceive : ∀ s s' i g c r, P.may g c → H.reply s i c r s' → I s i (P.sent g c) →
      I s' i (P.received g c r))
    {s : Clients ι σ P} (hrun : Clients.Run H start s₀ s) (i : ι) {x : Client P}
    (hx : s.clients i = some x) : I s.shared i x.view := by
  induction hrun generalizing i x with
  | refl => exact absurd (hx.symm.trans (hempty i)) (by simp)
  | @tail mid _ hmid hstep ih =>
      cases hstep with
      | @join s clients j hfree =>
          obtain ⟨rfl, rfl⟩ | ⟨-, hx⟩ := update_cases hx
          · exact hjoin s j
          · exact ih i hx
      | @send s clients j g c hidle hmay =>
          obtain ⟨rfl, rfl⟩ | ⟨hj, hx⟩ := update_cases hx
          · exact hsend s j g c hmay (ih j hidle)
          · exact hothers s _ i _ _ (.called j c) (fun h => hj (Option.some.inj h)) (ih i hx)
      | @receive s s' clients j g c hmay r hpending hreply =>
          obtain ⟨rfl, rfl⟩ | ⟨hj, hx⟩ := update_cases hx
          · exact hreceive s s' j g c r hmay hreply (ih j hpending)
          · exact hothers s s' i _ _ (.reply hreply) (fun h => hj (Option.some.inj h)) (ih i hx)
      | @env s s' clients henv => exact hothers s s' i _ _ (.env henv) (by simp) (ih i hx)

end Lib
end NestSdk
