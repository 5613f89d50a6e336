import NestSdk.Testing.RegisteredRoute

/-!
# `Testing.PermissionMatrix` — one entry for each signature

`permissionMatrix` writes the permissions of each route under the route's signature, which is its verb, the prefix
of its controller and its path. Routes that differ in something else, their version or their module, share a
signature, and of the entries written under one signature the last stands. **`losesNoRoute_iff`** says for which
applications that loses nothing: those whose handlers of one signature declare one set of permissions.

An entry is a text, and names with a `+` in them run into each other in it (`a+b` is one permission or two). So whose entry
stands is said of the route that wrote it, and what a reader takes from the text is said where every name is legible.
-/

namespace NestSdk
namespace Testing

open Js Auth

/-- `Object.fromEntries`: of the entries under one key the last stands. -/
def fromEntries {κ α : Type} [DecidableEq κ] (entries : List (κ × α)) : κ → Option α :=
  entries.foldl (fun record entry => Function.update record entry.1 (some entry.2)) fun _ => none

/-- `permissions.sort()`, which compares code units. -/
def sort (permissions : List Str) : List Str := permissions.insertionSort (· ≤ ·)

/-- `route.permissions.sort().join('+')` -/
def RegisteredRoute.entry (route : RegisteredRoute) : Str := (str "+").intercalate (sort route.permissions)

/-- `signature → permissions`, for pinning the matrix. Public routes are excluded. -/
def permissionMatrix (routes : List RegisteredRoute) : Str → Option Str :=
  fromEntries ((routes.filter fun route => !route.isPublic).map fun route => (route.signature, route.entry))

/-! ## The last entry stands -/

section FromEntries

variable {κ α : Type} [DecidableEq κ]

theorem fromEntries_append_singleton (entries : List (κ × α)) (entry : κ × α) :
    fromEntries (entries ++ [entry]) = Function.update (fromEntries entries) entry.1 (some entry.2) := by
  simp [fromEntries]

/-- What stands under a key was written under it. -/
theorem mem_of_fromEntries {entries : List (κ × α)} {key : κ} {value : α}
    (h : fromEntries entries key = some value) : (key, value) ∈ entries := by
  induction entries using List.reverseRecOn with
  | nil => exact absurd h (by simp [fromEntries])
  | append_singleton entries entry ih =>
      rw [fromEntries_append_singleton] at h
      by_cases hkey : key = entry.1
      · subst hkey
        rw [Function.update_self] at h
        obtain rfl := Option.some.inj h
        exact List.mem_append_right _ (List.mem_singleton_self _)
      · rw [Function.update_of_ne hkey] at h
        exact List.mem_append_left _ (ih h)

/-- Something stands under every key that was written under. -/
theorem exists_fromEntries {entries : List (κ × α)} {key : κ} {value : α} (h : (key, value) ∈ entries) :
    ∃ value', fromEntries entries key = some value' := by
  induction entries using List.reverseRecOn with
  | nil => exact absurd h List.not_mem_nil
  | append_singleton entries entry ih =>
      rw [fromEntries_append_singleton]
      by_cases hkey : key = entry.1
      · subst hkey
        exact ⟨entry.2, Function.update_self ..⟩
      · rw [Function.update_of_ne hkey]
        apply ih
        obtain hmem | hmem := List.mem_append.mp h
        · exact hmem
        · exact absurd (congrArg Prod.fst (List.mem_singleton.mp hmem)) hkey

/-- **Every entry stands** exactly when no two of them differ under one key. -/
theorem fromEntries_keeps_iff (entries : List (κ × α)) :
    (∀ entry ∈ entries, fromEntries entries entry.1 = some entry.2) ↔
      ∀ entry ∈ entries, ∀ other ∈ entries, entry.1 = other.1 → entry.2 = other.2 := by
  constructor
  · intro h entry hentry other hother hkey
    have hstands := h entry hentry
    rw [hkey, h other hother] at hstands
    exact (Option.some.inj hstands).symm
  · intro h entry hentry
    obtain ⟨value, hvalue⟩ := exists_fromEntries hentry
    rw [hvalue, h entry hentry (entry.1, value) (mem_of_fromEntries hvalue) rfl]

/-- What is made of the values is made of the one that stands. -/
theorem fromEntries_map {β : Type} (f : α → β) (entries : List (κ × α)) (key : κ) :
    fromEntries (entries.map fun entry => (entry.1, f entry.2)) key = (fromEntries entries key).map f := by
  induction entries using List.reverseRecOn with
  | nil => rfl
  | append_singleton entries entry ih =>
      rw [List.map_append, List.map_singleton, fromEntries_append_singleton, fromEntries_append_singleton]
      by_cases hkey : key = entry.1
      · subst hkey
        rw [Function.update_self, Function.update_self]
        rfl
      · rw [Function.update_of_ne hkey, Function.update_of_ne hkey, ih]

end FromEntries

/-! ## The matrix -/

/-- The routes in the matrix, each under its signature. -/
def keyed (routes : List RegisteredRoute) : List (Str × RegisteredRoute) :=
  (routes.filter fun route => !route.isPublic).map fun route => (route.signature, route)

/-- The route whose entry stands under a signature. -/
def standing (routes : List RegisteredRoute) : Str → Option RegisteredRoute := fromEntries (keyed routes)

theorem permissionMatrix_eq (routes : List RegisteredRoute) (signature : Str) :
    permissionMatrix routes signature = (standing routes signature).map RegisteredRoute.entry := by
  unfold permissionMatrix standing
  rw [← fromEntries_map, keyed, List.map_map]
  rfl

/-- The route whose entry stands is one of those listed. -/
theorem standing_mem {routes : List RegisteredRoute} {signature : Str} {writer : RegisteredRoute}
    (h : standing routes signature = some writer) : writer ∈ routes := by
  obtain ⟨listed, hlisted, heq⟩ := List.mem_map.mp (mem_of_fromEntries h)
  obtain ⟨-, rfl⟩ := Prod.mk.inj heq
  exact (List.mem_filter.mp hlisted).1

/-- The two lists name the same permissions. -/
def SamePermissions (permissions others : List Str) : Prop := ∀ p, p ∈ permissions ↔ p ∈ others

/-- **The matrix loses no route:** under the signature of every route that is not public there is an entry, and it was
    written for that route's own set of permissions. -/
def LosesNoRoute (app : ModulesContainer) : Prop :=
  ∀ registered ∈ registeredRoutes app, registered.isPublic = false →
    ∃ writer, standing (registeredRoutes app) registered.signature = some writer ∧
      permissionMatrix (registeredRoutes app) registered.signature = some writer.entry ∧
      SamePermissions writer.permissions registered.permissions

/-- The permissions the decorators of a handler and its class declare. -/
def declared (controller : Controller) (handler : Handler) : Set Str :=
  {p | p ∈ handler.metadata.requiredPermissions.getD [] ∨ p ∈ controller.metadata.requiredPermissions.getD []}

/-- Handlers of one signature, public ones apart, declare the same set of permissions. -/
def SameForSignature (app : ModulesContainer) : Prop :=
  ∀ controller handler path controller' handler' path', Registers app controller handler path →
    Registers app controller' handler' path' →
    (route controller handler path).isPublic = false → (route controller' handler' path').isPublic = false →
    (route controller handler path).signature = (route controller' handler' path').signature →
    declared controller handler = declared controller' handler'

/-- A route's permissions, in any order and however often each. -/
def RegisteredRoute.permissionSet (route : RegisteredRoute) : Set Str := {p | p ∈ route.permissions}

theorem permissionSet_route (controller : Controller) (handler : Handler) (path : Str) :
    (route controller handler path).permissionSet = declared controller handler := by
  ext p
  exact List.mem_append

theorem samePermissions_iff {registered other : RegisteredRoute} :
    SamePermissions registered.permissions other.permissions ↔ registered.permissionSet = other.permissionSet :=
  Set.ext_iff.symm

/-- A route keeps its entry exactly when the set that stands under its signature is its own. -/
theorem keeps_iff (routes : List RegisteredRoute) (registered : RegisteredRoute) :
    (∃ writer, standing routes registered.signature = some writer ∧
        permissionMatrix routes registered.signature = some writer.entry ∧
        SamePermissions writer.permissions registered.permissions) ↔
      (standing routes registered.signature).map RegisteredRoute.permissionSet = some registered.permissionSet := by
  rw [Option.map_eq_some_iff]
  constructor
  · rintro ⟨writer, hstands, -, hsame⟩
    exact ⟨writer, hstands, samePermissions_iff.mp hsame⟩
  · rintro ⟨writer, hstands, hsame⟩
    refine ⟨writer, hstands, ?_, samePermissions_iff.mpr hsame⟩
    rw [permissionMatrix_eq, hstands]
    rfl

/-- **What becomes of the sets:** every route keeps its own exactly when routes of one signature have the same. -/
theorem keeps_all_iff (routes : List RegisteredRoute) :
    (∀ registered ∈ routes, registered.isPublic = false →
      (standing routes registered.signature).map RegisteredRoute.permissionSet = some registered.permissionSet) ↔
    ∀ registered ∈ routes, registered.isPublic = false → ∀ other ∈ routes, other.isPublic = false →
      registered.signature = other.signature → registered.permissionSet = other.permissionSet := by
  have hkeeps := fromEntries_keeps_iff ((keyed routes).map fun entry => (entry.1, entry.2.permissionSet))
  simp only [fromEntries_map, keyed, List.forall_mem_map, List.mem_filter, Bool.not_eq_true', and_imp] at hkeeps
  exact hkeeps

/-! ## Reading an entry -/

/-- A name that does not run into its neighbours: not empty, and without a `+`. -/
def Legible (name : Str) : Prop := name ≠ [] ∧ (0x2B : UInt16) ∉ name

/-- The names in an entry. -/
def readEntry (text : Str) : List Str := if text = [] then [] else text.splitOn 0x2B

/-- **Legible names are read back.** -/
theorem mem_readEntry {registered : RegisteredRoute} (hlegible : ∀ p ∈ registered.permissions, Legible p) (p : Str) :
    p ∈ readEntry registered.entry ↔ p ∈ registered.permissions := by
  have hmem : ∀ p, p ∈ sort registered.permissions ↔ p ∈ registered.permissions := fun _ => List.mem_insertionSort _
  unfold RegisteredRoute.entry
  cases hsorted : sort registered.permissions with
  | nil =>
      have hnone : p ∉ registered.permissions := by
        rw [← hmem, hsorted]
        exact List.not_mem_nil
      exact ⟨fun h => absurd h List.not_mem_nil, fun h => absurd h hnone⟩
  | cons first rest =>
      have hnames : ∀ name ∈ first :: rest, Legible name := fun name hname =>
        hlegible name ((hmem name).mp (hsorted ▸ hname))
      have hne : (str "+").intercalate (first :: rest) ≠ [] := by
        have hfirst := (hnames first List.mem_cons_self).1
        cases rest <;> simp [hfirst]
      unfold readEntry
      rw [if_neg hne, ← hmem, hsorted]
      have hread : ((str "+").intercalate (first :: rest)).splitOn 0x2B = first :: rest :=
        List.splitOn_intercalate _ (fun name hname => (hnames name hname).2) (List.cons_ne_nil _ _)
      rw [hread]

/-- Where every name is legible, whose entry stands can be read off the text. -/
theorem reads_iff {routes : List RegisteredRoute}
    (hlegible : ∀ registered ∈ routes, ∀ p ∈ registered.permissions, Legible p) (registered : RegisteredRoute) :
    (∃ writer, standing routes registered.signature = some writer ∧
        permissionMatrix routes registered.signature = some writer.entry ∧
        SamePermissions writer.permissions registered.permissions) ↔
      ∃ text, permissionMatrix routes registered.signature = some text ∧
        SamePermissions (readEntry text) registered.permissions := by
  constructor
  · rintro ⟨writer, hstands, hentry, hsame⟩
    refine ⟨writer.entry, hentry, fun p => ?_⟩
    rw [mem_readEntry (hlegible writer (standing_mem hstands))]
    exact hsame p
  · rintro ⟨text, htext, hsame⟩
    have hwritten := htext
    rw [permissionMatrix_eq, Option.map_eq_some_iff] at hwritten
    obtain ⟨writer, hstands, rfl⟩ := hwritten
    refine ⟨writer, hstands, htext, fun p => ?_⟩
    rw [← mem_readEntry (hlegible writer (standing_mem hstands))]
    exact hsame p

/-- Of handlers and of the routes found, the same is said. -/
theorem sameForSignature_iff (app : ModulesContainer) :
    SameForSignature app ↔ ∀ registered ∈ registeredRoutes app, registered.isPublic = false →
      ∀ other ∈ registeredRoutes app, other.isPublic = false →
        registered.signature = other.signature → registered.permissionSet = other.permissionSet := by
  constructor
  · intro h one hone hpublic other hother hpublic' hsignature
    obtain ⟨controller, handler, path, hregisters, rfl⟩ := exists_registers hone
    obtain ⟨controller', handler', path', hregisters', rfl⟩ := exists_registers hother
    rw [permissionSet_route, permissionSet_route]
    exact h _ _ _ _ _ _ hregisters hregisters' hpublic hpublic' hsignature
  · intro h controller handler path controller' handler' path' hregisters hregisters' hpublic hpublic' hsignature
    rw [← permissionSet_route controller handler path, ← permissionSet_route controller' handler' path']
    exact h _ (route_mem_registeredRoutes hregisters) hpublic _ (route_mem_registeredRoutes hregisters') hpublic'
      hsignature

/-- **When the matrix loses no route.** For every application: exactly when its handlers of one signature declare the
    same set of permissions. If every name is legible, that is to say that the text under each route's signature reads
    as that route's own set. -/
theorem losesNoRoute_iff (app : ModulesContainer) :
    (LosesNoRoute app ↔ SameForSignature app) ∧
    ((∀ registered ∈ registeredRoutes app, ∀ p ∈ registered.permissions, Legible p) →
      (LosesNoRoute app ↔ ∀ registered ∈ registeredRoutes app, registered.isPublic = false →
        ∃ text, permissionMatrix (registeredRoutes app) registered.signature = some text ∧
          SamePermissions (readEntry text) registered.permissions)) := by
  refine ⟨?_, fun hlegible => ?_⟩
  · rw [sameForSignature_iff, ← keeps_all_iff]
    exact forall₂_congr fun registered _ => imp_congr_right fun _ => keeps_iff _ registered
  · exact forall₂_congr fun registered _ => imp_congr_right fun _ => reads_iff hlegible registered

/-! ## Two versions of one path -/

/-- `GET /jobs`, behind a permission. -/
def jobs (permission : Str) : Controller :=
  ⟨⟨none, none⟩, some (str "jobs"), [some ⟨⟨none, some [permission]⟩, some (str "/"), some (str "GET")⟩]⟩

/-- The controllers of two API versions, each with a permission of its own. -/
def versioned : ModulesContainer := [[some (jobs (str "job:admin")), some (jobs (str "job:read"))]]

/-- Only the second version's permission is in the matrix. -/
theorem matrix_loses_version :
    permissionMatrix (registeredRoutes versioned) (str "GET /jobs") = some (str "job:read") ∧
      ¬ ∀ app, LosesNoRoute app := by
  have hmatrix : permissionMatrix (registeredRoutes versioned) (str "GET /jobs") = some (str "job:read") := by
    decide +kernel
  refine ⟨hmatrix, ?_⟩
  intro h
  have hfirst : route (jobs (str "job:admin")) ⟨⟨none, some [str "job:admin"]⟩, some (str "/"), some (str "GET")⟩
      (str "/") ∈ registeredRoutes versioned := List.mem_cons_self
  obtain ⟨writer, hstands, -, hsame⟩ := h versioned _ hfirst rfl
  have hsecond : (standing (registeredRoutes versioned) (str "GET /jobs")).map RegisteredRoute.permissions
      = some [str "job:read"] := by decide +kernel
  have hwriter : some writer.permissions = some [str "job:read"] :=
    (congrArg (Option.map RegisteredRoute.permissions) hstands).symm.trans hsecond
  have hadmin : str "job:admin" ∈ writer.permissions := (hsame _).mpr List.mem_cons_self
  rw [Option.some.inj hwriter] at hadmin
  exact absurd hadmin (by decide +kernel)

end Testing
end NestSdk
