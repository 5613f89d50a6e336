import Mathlib

/-!
# `Lib.Envelope` — keys sealed under a master key

Envelope encryption has two layers: a message is sealed under a data key of its own, and the data key is sealed
under a master key. An envelope is the two boxes, and to open one is to open the first with the master key and
the second with what was in the first.

* `Ideal` — the authentication an ideal AEAD gives: a key opens only the boxes that sealing with it produced, to
  what was sealed;
* `Discipline` — the keys of a set of issued envelopes are fresh, and neither they nor the master key ever sealed
  anything else;
* `opened_is_issued` — under both, whoever opens the two layers, with boxes from wherever, holds the two boxes of
  one issued envelope.

Keys are messages here, since the first layer seals one.
-/

namespace NestSdk
namespace Lib

variable {M B : Type*}

/-- What was sealed, with which key, and the box that came of it. -/
structure Sealing (M B : Type*) where
  key : M
  message : M
  box : B
deriving DecidableEq

/-- One envelope as it was made. -/
structure Issued (M B : Type*) where
  dataKey : M
  wrapped : B
  message : M
  payload : B

/-- The data key, sealed under the master key. -/
def Issued.wrap (masterKey : M) (e : Issued M B) : Sealing M B :=
  { key := masterKey, message := e.dataKey, box := e.wrapped }

/-- The message, sealed under the data key. -/
def Issued.body (e : Issued M B) : Sealing M B :=
  { key := e.dataKey, message := e.message, box := e.payload }

/-- **An ideal AEAD,** after the sealings in `performed`: opening a box with a key succeeds only where sealing
    with that key produced the box, and gives what was sealed. -/
def Ideal (performed : Set (Sealing M B)) (opens : M → B → M → Prop) : Prop :=
  ∀ key box message, opens key box message → { key, message, box } ∈ performed

/-- **How the keys of the issued envelopes are used.** The data keys differ from each other and from the master
    key, and none of these keys sealed anything but the two layers of an issued envelope. Other keys may have
    sealed anything. -/
structure Discipline (masterKey : M) (issued : List (Issued M B)) (performed : Set (Sealing M B)) : Prop where
  fresh : (issued.map Issued.dataKey).Nodup
  not_master : masterKey ∉ issued.map Issued.dataKey
  only_layers : ∀ s ∈ performed, s.key = masterKey ∨ s.key ∈ issued.map Issued.dataKey →
    ∃ e ∈ issued, s = e.wrap masterKey ∨ s = e.body

variable {masterKey : M} {issued : List (Issued M B)} {performed : Set (Sealing M B)}
  {opens : M → B → M → Prop}

/-- The sealings that made an envelope. -/
def Issued.layers (masterKey : M) (e : Issued M B) : List (Sealing M B) := [e.wrap masterKey, e.body]

/-- Fresh keys with which nothing else was sealed. -/
theorem discipline_layers (fresh : (issued.map Issued.dataKey).Nodup)
    (not_master : masterKey ∉ issued.map Issued.dataKey) :
    Discipline masterKey issued {s | s ∈ issued.flatMap (Issued.layers masterKey)} := by
  refine ⟨fresh, not_master, ?_⟩
  rintro s hs -
  obtain ⟨e, he, hlayer⟩ := List.mem_flatMap.mp hs
  refine ⟨e, he, ?_⟩
  simpa [Issued.layers] using hlayer

/-- The master key sealed data keys only: a message sealed with it was sealed with a data key otherwise. -/
theorem Discipline.wrap_of_master (hkeys : Discipline masterKey issued performed) {s : Sealing M B}
    (hs : s ∈ performed) (hkey : s.key = masterKey) : ∃ e ∈ issued, s = e.wrap masterKey := by
  obtain ⟨e, he, hwrap | hbody⟩ := hkeys.only_layers s hs (.inl hkey)
  · exact ⟨e, he, hwrap⟩
  · have hmaster : e.dataKey = masterKey := by rw [← hkey, hbody]; rfl
    exact absurd (hmaster ▸ List.mem_map_of_mem he) hkeys.not_master

/-- A data key sealed the message of its envelope only: the other layer of any envelope is under the master key,
    and the messages of the others are under other data keys. -/
theorem Discipline.body_of_dataKey (hkeys : Discipline masterKey issued performed) {s : Sealing M B}
    {e : Issued M B} (hs : s ∈ performed) (he : e ∈ issued) (hkey : s.key = e.dataKey) : s = e.body := by
  have hmem : e.dataKey ∈ issued.map Issued.dataKey := List.mem_map_of_mem he
  obtain ⟨e', he', hwrap | hbody⟩ := hkeys.only_layers s hs (.inr (hkey ▸ hmem))
  · have hmaster : e.dataKey = masterKey := by rw [← hkey, hwrap]; rfl
    exact absurd (hmaster ▸ hmem) hkeys.not_master
  · have hdataKey : e'.dataKey = e.dataKey := by rw [← hkey, hbody]; rfl
    rw [hbody, List.inj_on_of_nodup_map hkeys.fresh he' he hdataKey]

/-- **Whoever opens both layers holds one issued envelope.** The first box names the envelope by its data key,
    and that key opens the second box of this envelope only. -/
theorem opened_is_issued (hideal : Ideal performed opens) (hkeys : Discipline masterKey issued performed)
    {wrapped payload : B} {dataKey message : M} (hwrapped : opens masterKey wrapped dataKey)
    (hpayload : opens dataKey payload message) :
    ∃ e ∈ issued, e.wrapped = wrapped ∧ e.payload = payload ∧ e.message = message := by
  obtain ⟨e, he, hwrap⟩ := hkeys.wrap_of_master (hideal _ _ _ hwrapped) rfl
  simp only [Issued.wrap, Sealing.mk.injEq] at hwrap
  obtain ⟨-, hkey, hbox⟩ := hwrap
  have hbody := hkeys.body_of_dataKey (hideal _ _ _ hpayload) he hkey
  simp only [Issued.body, Sealing.mk.injEq] at hbody
  obtain ⟨-, hmessage, hbox'⟩ := hbody
  exact ⟨e, he, hbox.symm, hbox'.symm, hmessage.symm⟩

end Lib
end NestSdk
