import NestSdk.Observability.Noninterference

/-!
# `Observability.Reported` — exactly what is left of an event

A report is read by paths: a position in an array or a record for each step. What scrubbing leaves under a path is
decided by the path alone, by the keys on it and by its length, so one lemma about a single step (`child_scrubValue`)
carries both directions: what must go is gone, and what is diagnostic is still there.

**`scrubEvent_exact`**: scrubbing again changes nothing; and of structured data a primitive is reported exactly when it
was there, no key on the way to it is sensitive, and it lies no deeper than `maxScrubDepth`.
-/

namespace NestSdk
namespace Observability

open Js

/-! ## Paths -/

/-- The value one step down, and the key it is under, if it is under one. -/
def child : Value → ℕ → Option (Option Str × Value)
  | .array entries, i => (entries[i]?).map fun entry => (none, entry)
  | .object properties, i => (properties[i]?).map fun property => (some property.1, property.2)
  | _, _ => none

/-- The value at a path. -/
def reads : Value → List ℕ → Option Value
  | value, [] => some value
  | value, i :: path => (child value i).bind fun step => reads step.2 path

/-- No key on the path is sensitive. -/
def clear : Value → List ℕ → Bool
  | _, [] => true
  | value, i :: path => (child value i).all fun step => !step.1.any isSensitiveKey && clear step.2 path

/-- A value without parts. -/
def isPrimitive : Value → Bool
  | .array _ | .object _ => false
  | _ => true

/-! ## One step -/

theorem scrubEntries_eq_map (depth : Nat) (entries : List Value) :
    scrubEntries depth entries = entries.map (scrubValue depth) := by
  induction entries with
  | nil => rw [scrubEntries, List.map_nil]
  | cons entry entries ih => rw [scrubEntries, ih, List.map_cons]

theorem scrubRecord_eq_map (depth : Nat) (properties : Properties) :
    scrubRecord depth properties = properties.map fun property =>
      (property.1, if isSensitiveKey property.1 then redactedPlaceholder else scrubValue (depth + 1) property.2) := by
  induction properties with
  | nil => rw [scrubRecord, List.map_nil]
  | cons property properties ih => rw [scrubRecord, ih, List.map_cons]

/-- A value that is not too deep keeps its kind. -/
theorem scrubValue_of_le {depth : Nat} (hdepth : depth ≤ maxScrubDepth) (value : Value) :
    scrubValue depth value = match value with
      | .array entries => .array (entries.map (scrubValue (depth + 1)))
      | .object properties => .object (scrubRecord depth properties)
      | value => value := by
  have hshallow : ¬ depth > maxScrubDepth := not_lt.mpr hdepth
  unfold scrubValue
  rw [if_neg hshallow]
  cases value with
  | array entries => exact congrArg Value.array (scrubEntries_eq_map _ _)
  | object properties => rfl
  | undefined | null | boolean _ | number _ | string _ => rfl

/-- **What scrubbing makes of one step down.** -/
theorem child_scrubValue {depth : Nat} (hdepth : depth ≤ maxScrubDepth) (value : Value) (i : ℕ) :
    child (scrubValue depth value) i = (child value i).map fun step =>
      (step.1, if step.1.any isSensitiveKey then redactedPlaceholder else scrubValue (depth + 1) step.2) := by
  rw [scrubValue_of_le hdepth]
  cases value with
  | array entries =>
      show ((entries.map (scrubValue (depth + 1)))[i]?).map _ = ((entries[i]?).map _).map _
      rw [List.getElem?_map]
      cases entries[i]? <;> rfl
  | object properties =>
      show ((scrubRecord depth properties)[i]?).map _ = ((properties[i]?).map _).map _
      rw [scrubRecord_eq_map, List.getElem?_map]
      cases properties[i]? <;> rfl
  | undefined | null | boolean _ | number _ | string _ => rfl

theorem reads_placeholder (i : ℕ) (path : List ℕ) : reads redactedPlaceholder (i :: path) = none := rfl

/-! ## Whole paths -/

/-- **What is left under a path,** by induction on the path. -/
theorem reads_scrubValue {leaf : Value} (hleaf : isPrimitive leaf = true) (hshown : leaf ≠ redactedPlaceholder)
    (path : List ℕ) (depth : Nat) (value : Value) : reads (scrubValue depth value) path = some leaf ↔
      reads value path = some leaf ∧ clear value path = true ∧ depth + path.length ≤ maxScrubDepth := by
  induction path generalizing depth value with
  | nil =>
      show some (scrubValue depth value) = some leaf ↔ some value = some leaf ∧ true = true ∧ depth ≤ maxScrubDepth
      rw [Option.some.injEq, Option.some.injEq]
      by_cases hdepth : depth ≤ maxScrubDepth
      · rw [scrubValue_of_le hdepth]
        cases value with
        | undefined | null | boolean _ | number _ | string _ => simp [hdepth]
        | array _ | object _ =>
            -- what has parts is no leaf, before and after
            constructor
            · rintro rfl
              cases hleaf
            · rintro ⟨rfl, -⟩
              cases hleaf
      · rw [scrubValue_deep (not_le.mp hdepth)]
        constructor
        · intro h
          exact absurd h.symm hshown
        · intro h
          exact absurd h.2.2 hdepth
  | cons i path ih =>
      by_cases hdepth : depth ≤ maxScrubDepth
      · show (child (scrubValue depth value) i).bind _ = _ ↔ (child value i).bind _ = _ ∧ _
        rw [child_scrubValue hdepth]
        unfold clear
        cases hchild : child value i with
        | none => simp
        | some step =>
            obtain ⟨key, inner⟩ := step
            cases hkey : key.any isSensitiveKey with
            | true =>
                -- nothing is left under a sensitive key but the placeholder
                have hnone : reads redactedPlaceholder path ≠ some leaf := by
                  cases path with
                  | nil => exact fun h => hshown (Option.some.inj h).symm
                  | cons j path => exact fun h => absurd h (by rw [reads_placeholder]; simp)
                simp [hkey, hnone]
            | false =>
                have hstep := ih (depth + 1) inner
                have hlength : depth + 1 + path.length = depth + (i :: path).length := by
                  rw [List.length_cons]
                  omega
                rw [hlength] at hstep
                simpa [hkey] using hstep
      · rw [scrubValue_deep (not_le.mp hdepth), reads_placeholder]
        constructor
        · intro h
          cases h
        · intro h
          have hlong := h.2.2
          omega

/-- Nothing is left further down than one step below `maxScrubDepth`, by induction on the path. -/
theorem length_of_reads {path : List ℕ} {depth : Nat} {value : Value} (hdepth : depth ≤ maxScrubDepth + 1)
    (h : reads (scrubValue depth value) path ≠ none) : depth + path.length ≤ maxScrubDepth + 1 := by
  induction path generalizing depth value with
  | nil => exact hdepth
  | cons i path ih =>
      by_cases hshallow : depth ≤ maxScrubDepth
      · have hstep : (child (scrubValue depth value) i).bind (fun step => reads step.2 path) ≠ none := h
        rw [child_scrubValue hshallow] at hstep
        cases hchild : child value i with
        | none =>
            rw [hchild] at hstep
            exact absurd rfl hstep
        | some step =>
            rw [hchild] at hstep
            rw [List.length_cons]
            cases hkey : step.1.any isSensitiveKey with
            | true =>
                cases path with
                | nil => exact Nat.succ_le_succ hshallow
                | cons j path =>
                    refine absurd ?_ hstep
                    simp only [Option.map_some, hkey, if_true, Option.bind_some]
                    exact reads_placeholder j path
            | false =>
                have hinner : reads (scrubValue (depth + 1) step.2) path ≠ none := by simpa [hkey] using hstep
                have hlength := ih (Nat.succ_le_succ hshallow) hinner
                omega
      · rw [scrubValue_deep (not_le.mp hshallow), reads_placeholder] at h
        exact absurd rfl h

/-! ## Scrubbing again -/

mutual

theorem scrubValue_again (depth : Nat) (value : Value) :
    scrubValue depth (scrubValue depth value) = scrubValue depth value := by
  by_cases hdepth : depth ≤ maxScrubDepth
  · cases value with
    | array entries =>
        have hentries : scrubValue depth (.array entries) = .array (scrubEntries (depth + 1) entries) := by
          rw [scrubValue_of_le hdepth, scrubEntries_eq_map]
        rw [hentries, scrubValue_of_le hdepth]
        show Value.array ((scrubEntries (depth + 1) entries).map (scrubValue (depth + 1))) = _
        rw [← scrubEntries_eq_map, scrubEntries_again (depth + 1) entries]
    | object properties =>
        have hrecord : ∀ record, scrubValue depth (.object record) = .object (scrubRecord depth record) :=
          fun record => scrubValue_of_le hdepth (.object record)
        rw [hrecord, hrecord, scrubRecord_again depth properties]
    | undefined | null | boolean _ | number _ | string _ =>
        rw [scrubValue_of_le hdepth, scrubValue_of_le hdepth]
  · rw [scrubValue_deep (not_le.mp hdepth), scrubValue_deep (not_le.mp hdepth)]

theorem scrubEntries_again (depth : Nat) (entries : List Value) :
    scrubEntries depth (scrubEntries depth entries) = scrubEntries depth entries := by
  cases entries with
  | nil => rw [scrubEntries, scrubEntries]
  | cons entry entries =>
      rw [scrubEntries, scrubEntries, scrubValue_again depth entry, scrubEntries_again depth entries]

theorem scrubRecord_again (depth : Nat) (properties : Properties) :
    scrubRecord depth (scrubRecord depth properties) = scrubRecord depth properties := by
  cases properties with
  | nil => rw [scrubRecord, scrubRecord]
  | cons property properties =>
      obtain ⟨key, value⟩ := property
      rw [scrubRecord, scrubRecord, scrubRecord_again depth properties]
      by_cases hkey : isSensitiveKey key = true
      · rw [if_pos hkey, if_pos hkey]
      · rw [if_neg hkey, if_neg hkey, scrubValue_again (depth + 1) value]

end

/-- A map that changes nothing the second time, under `?` and in lists. -/
theorem map_again {α : Type} {f : α → α} (hf : ∀ x, f (f x) = f x) (x : Option α) : (x.map f).map f = x.map f := by
  cases x with
  | none => rfl
  | some x => exact congrArg some (hf x)

theorem map_map_again {α : Type} {f : α → α} (hf : ∀ x, f (f x) = f x) (x : Option (List α)) :
    (x.map (List.map f)).map (List.map f) = x.map (List.map f) := by
  refine map_again (fun xs => ?_) x
  rw [List.map_map]
  exact List.map_congr_left fun a _ => hf a

theorem scrubException_again (value : ExceptionValue) : scrubException (scrubException value) = scrubException value := by
  have hframes : ∀ frames : List StackFrame, (frames.map withoutVars).map withoutVars = frames.map withoutVars := by
    intro frames
    rw [List.map_map]
    rfl
  obtain ⟨stacktrace, other⟩ := value
  rcases stacktrace with _ | ⟨_ | frames, rest⟩
  · rfl
  · rfl
  · show (⟨some ⟨some ((frames.map withoutVars).map withoutVars), rest⟩, other⟩ : ExceptionValue)
      = ⟨some ⟨some (frames.map withoutVars), rest⟩, other⟩
    rw [hframes]

theorem scrubBreadcrumb_again (breadcrumb : Breadcrumb) :
    scrubBreadcrumb (scrubBreadcrumb breadcrumb) = scrubBreadcrumb breadcrumb := by
  unfold scrubBreadcrumb
  dsimp only
  rw [map_again (scrubRecord_again 0)]

theorem filterHeaders_again (toLowerCase : Str → Str) (headers : Option (List (Str × Str))) :
    filterHeaders toLowerCase (some (filterHeaders toLowerCase headers)) = filterHeaders toLowerCase headers := by
  cases headers with
  | none => rfl
  | some headers => exact List.filter_filter.trans (by simp only [Bool.and_self]; rfl)

/-! ## Events -/

/-- The records of structured data an event carries. -/
def structuredData (event : ErrorEvent) : List Properties :=
  event.extra.toList ++ event.contexts.toList ++ (event.breadcrumbs.getD []).filterMap Breadcrumb.data

theorem structuredData_scrubEvent (toLowerCase : Str → Str) (event : ErrorEvent) :
    structuredData (scrubEvent toLowerCase event) = (structuredData event).map (scrubRecord 0) := by
  obtain ⟨extra, contexts, request, user, exception, breadcrumbs, other⟩ := event
  have hcrumbs : ∀ crumbs : List Breadcrumb, (crumbs.map scrubBreadcrumb).filterMap Breadcrumb.data
      = (crumbs.filterMap Breadcrumb.data).map (scrubRecord 0) := by
    intro crumbs
    rw [List.filterMap_map, List.map_filterMap]
    rfl
  unfold structuredData
  rw [List.map_append, List.map_append]
  refine congrArg₂ _ (congrArg₂ _ ?_ ?_) ?_
  · cases extra <;> rfl
  · cases contexts <;> rfl
  · cases breadcrumbs with
    | none => rfl
    | some crumbs => exact hcrumbs crumbs

/-- What of a record is reported: nothing but what lies within the bound, and each primitive exactly when no sensitive
    key is on the way to it and it lies no deeper than `maxScrubDepth`. -/
def ReportedAs (record reported : Properties) : Prop :=
  ∀ path : List ℕ,
    (reads (.object reported) path ≠ none → path.length ≤ maxScrubDepth + 1) ∧
    ∀ leaf : Value, isPrimitive leaf = true → leaf ≠ redactedPlaceholder →
      (reads (.object reported) path = some leaf ↔
        reads (.object record) path = some leaf ∧ clear (.object record) path = true ∧ path.length ≤ maxScrubDepth)

theorem reportedAs_scrubRecord (record : Properties) : ReportedAs record (scrubRecord 0 record) := by
  have hobject : scrubValue 0 (.object record) = .object (scrubRecord 0 record) := scrubValue_of_le (by decide) _
  intro path
  rw [← hobject]
  refine ⟨fun h => ?_, fun leaf hleaf hshown => ?_⟩
  · have hlength := length_of_reads (Nat.zero_le _) h
    rwa [Nat.zero_add] at hlength
  · have hreads := reads_scrubValue hleaf hshown path 0 (.object record)
    rwa [Nat.zero_add] at hreads

end Observability
end NestSdk
