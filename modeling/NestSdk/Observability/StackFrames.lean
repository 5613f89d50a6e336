import NestSdk.Observability.Reported

/-!
# `Observability.StackFrames` — where a value has stack frames

A stack frame is an object in a list named `frames`, wherever that list is (`FrameAt`). What a value is left bare of is
its frames' local variables, and nothing else of them (`LeftBare`). That can be told part by part; and of structured
data, where `vars` is a key like any other, it can be told from what is shown of it: `leftBare_scrubRecord`.
-/

namespace NestSdk
namespace Observability

open Js

/-! ## Stack frames -/

/-- A stack frame stands at a path: an object in a list named `frames`. -/
inductive FrameAt : Value → List ℕ → Properties → Prop
  | listed {value : Value} {i j : ℕ} {entries : List Value} {frame : Properties}
      (hframes : child value i = some (some (str "frames"), .array entries))
      (hentry : entries[j]? = some (.object frame)) : FrameAt value [i, j] frame
  | inside {value inner : Value} {i : ℕ} {key : Option Str} {path : List ℕ} {frame : Properties}
      (hstep : child value i = some (key, inner)) (h : FrameAt inner path frame) : FrameAt value (i :: path) frame

/-- A frame's properties other than its local variables. -/
def others (frame : Properties) : Properties := frame.filter fun property => property.1 != str "vars"

/-- No stack frame in the value has local variables. -/
def NoVars (value : Value) : Prop := ∀ path frame, FrameAt value path frame → frame.lookup (str "vars") = none

/-- **Every stack frame left has been left bare:** it stands where it stood, has no local variables, and of its other
    properties all that it had. -/
def LeftBare (value left : Value) : Prop :=
  ∀ path frame, FrameAt left path frame →
    frame.lookup (str "vars") = none ∧ ∃ frame', FrameAt value path frame' ∧ others frame' = others frame

theorem others_of_bare {frame : Properties} (h : frame.lookup (str "vars") = none) : others frame = frame := by
  unfold others
  rw [List.filter_eq_self]
  intro property hmem
  rw [List.lookup_eq_none_iff] at h
  have hne := h property hmem
  simpa [bne, Bool.beq_comm] using hne

theorem lookup_others (frame : Properties) : (others frame).lookup (str "vars") = none := by
  rw [List.lookup_eq_none_iff]
  intro property hmem
  have hne := (List.mem_filter.mp hmem).2
  simpa [bne, Bool.beq_comm] using hne

/-- One place, one frame. -/
theorem FrameAt.unique {value : Value} {path : List ℕ} {frame frame' : Properties} (h : FrameAt value path frame)
    (h' : FrameAt value path frame') : frame = frame' := by
  induction h with
  | listed hframes hentry =>
      cases h' with
      | listed hframes' hentry' =>
          obtain ⟨-, hentries⟩ := Prod.mk.inj (Option.some.inj (hframes.symm.trans hframes'))
          obtain rfl := Value.array.inj hentries
          exact Value.object.inj (Option.some.inj (hentry.symm.trans hentry'))
      -- a frame listed here stands one step above anything inside it
      | inside hstep hinside =>
          obtain ⟨-, rfl⟩ := Prod.mk.inj (Option.some.inj (hframes.symm.trans hstep))
          cases hinside with
          | inside _ hinside => cases hinside
  | inside hstep hinside ih =>
      cases h' with
      | listed hframes' hentry' =>
          obtain ⟨-, rfl⟩ := Prod.mk.inj (Option.some.inj (hframes'.symm.trans hstep))
          cases hinside with
          | inside _ hinside => cases hinside
      | inside hstep' hinside' =>
          obtain ⟨-, rfl⟩ := Prod.mk.inj (Option.some.inj (hstep.symm.trans hstep'))
          exact ih hinside'

/-- What is left as it was is left bare if it was bare. -/
theorem leftBare_self {value : Value} : LeftBare value value ↔ NoVars value :=
  ⟨fun h path frame hframe => (h path frame hframe).1,
    fun h path frame hframe => ⟨h path frame hframe, frame, hframe, rfl⟩⟩

/-! ## Stack frames of what is put together -/

section Parts

variable {α : Type} {properties properties' left left' : Properties} {path : List ℕ} {frame : Properties} {key : Str}

/-- A property that may be missing. -/
def optional (key : Str) (value : Option Value) : Properties := value.toList.map fun value => (key, value)

theorem child_append_left {i : ℕ} (hi : i < left.length) :
    child (.object (left ++ left')) i = child (.object left) i := by
  show ((left ++ left')[i]?).map _ = (left[i]?).map _
  rw [List.getElem?_append_left hi]

theorem child_append_right {i : ℕ} :
    child (.object (left ++ left')) (left.length + i) = child (.object left') i := by
  show ((left ++ left')[left.length + i]?).map _ = (left'[i]?).map _
  rw [List.getElem?_append_right (Nat.le_add_right _ _), Nat.add_sub_cancel_left]

theorem child_object_eq_some {i : ℕ} {step : Option Str × Value} (h : child (.object left) i = some step) :
    i < left.length := by
  obtain ⟨property, hproperty, -⟩ := Option.map_eq_some_iff.mp h
  exact (List.getElem?_eq_some_iff.mp hproperty).1

/-- A frame stands where its first step leads. -/
theorem FrameAt.congr {value value' : Value} {i i' : ℕ} (hstep : child value i = child value' i')
    (h : FrameAt value (i :: path) frame) : FrameAt value' (i' :: path) frame := by
  cases h with
  | listed hframes hentry => exact .listed (hstep ▸ hframes) hentry
  | inside hinner h => exact .inside (hstep ▸ hinner) h

/-- A frame has a first step that leads to it. -/
theorem FrameAt.first {value : Value} (h : FrameAt value path frame) :
    ∃ i rest step, path = i :: rest ∧ child value i = some step := by
  cases h with
  | listed hframes _ => exact ⟨_, _, _, rfl, hframes⟩
  | inside hstep _ => exact ⟨_, _, _, rfl, hstep⟩

theorem FrameAt.lt {i : ℕ} (h : FrameAt (.object left) (i :: path) frame) : i < left.length := by
  obtain ⟨i, rest, step, hpath, hstep⟩ := h.first
  obtain ⟨rfl, -⟩ := List.cons.inj hpath
  exact child_object_eq_some hstep

/-- A frame in an object stands in the one part of it or in the other. -/
theorem frameAt_append : FrameAt (.object (left ++ left')) path frame ↔
    FrameAt (.object left) path frame ∨
      ∃ i rest, path = (left.length + i) :: rest ∧ FrameAt (.object left') (i :: rest) frame := by
  constructor
  · intro h
    obtain ⟨i, rest, -, rfl, -⟩ := h.first
    by_cases hi : i < left.length
    · exact .inl (h.congr (child_append_left hi))
    · obtain ⟨j, rfl⟩ := Nat.exists_eq_add_of_le (not_lt.mp hi)
      exact .inr ⟨j, rest, rfl, h.congr child_append_right⟩
  · rintro (h | ⟨i, rest, rfl, h⟩)
    · obtain ⟨i, rest, -, rfl, -⟩ := h.first
      exact h.congr (child_append_left h.lt).symm
    · exact h.congr child_append_right.symm

theorem not_frameAt_nil : ¬ FrameAt (.object []) path frame := by
  intro h
  obtain ⟨i, rest, -, rfl, -⟩ := h.first
  exact absurd h.lt (Nat.not_lt_zero i)

/-- **Part by part,** if the parts stand where they stood. -/
theorem leftBare_append (hlength : left.length = properties.length) :
    LeftBare (.object (properties ++ properties')) (.object (left ++ left')) ↔
      LeftBare (.object properties) (.object left) ∧ LeftBare (.object properties') (.object left') := by
  constructor
  · intro h
    constructor
    · intro path frame hframe
      obtain ⟨hbare, frame', hframe', hothers⟩ := h path frame (frameAt_append.mpr (.inl hframe))
      refine ⟨hbare, frame', ?_, hothers⟩
      obtain hinside | ⟨i, rest, rfl, -⟩ := frameAt_append.mp hframe'
      · exact hinside
      · -- the frame left stands in the first part, and so does its place
        have hi := hframe.lt
        omega
    · intro path frame hframe
      obtain ⟨i, rest, -, rfl, -⟩ := hframe.first
      obtain ⟨hbare, frame', hframe', hothers⟩ := h _ frame (frameAt_append.mpr (.inr ⟨i, rest, rfl, hframe⟩))
      rw [hlength] at hframe'
      exact ⟨hbare, frame', hframe'.congr child_append_right, hothers⟩
  · rintro ⟨hfirst, hsecond⟩ path frame hframe
    obtain hinside | ⟨i, rest, rfl, hinside⟩ := frameAt_append.mp hframe
    · obtain ⟨hbare, frame', hframe', hothers⟩ := hfirst path frame hinside
      exact ⟨hbare, frame', frameAt_append.mpr (.inl hframe'), hothers⟩
    · obtain ⟨hbare, frame', hframe', hothers⟩ := hsecond _ frame hinside
      exact ⟨hbare, frame', frameAt_append.mpr (.inr ⟨i, rest, by rw [hlength], hframe'⟩), hothers⟩

theorem child_optional (key : Str) (value : Value) (i : ℕ) :
    child (.object (optional key (some value))) i = if i = 0 then some (some key, value) else none := by
  cases i <;> rfl

theorem frameAt_optional (hkey : key ≠ str "frames") {value : Value} :
    FrameAt (.object (optional key (some value))) path frame ↔ ∃ rest, path = 0 :: rest ∧ FrameAt value rest frame := by
  constructor
  · intro h
    cases h with
    | @listed _ i j _ _ hframes hentry =>
        cases i with
        | zero => exact absurd (Option.some.inj (Prod.mk.inj (Option.some.inj hframes)).1) hkey
        | succ i => cases hframes
    | @inside _ _ i _ rest _ hstep hinside =>
        cases i with
        | zero =>
            obtain ⟨-, rfl⟩ := Prod.mk.inj (Option.some.inj hstep)
            exact ⟨rest, rfl, hinside⟩
        | succ i => cases hstep
  · rintro ⟨rest, rfl, h⟩
    exact .inside (child_optional key value 0) h

/-- A property under another name than `frames` is left bare if its value is. -/
theorem leftBare_optional (hkey : key ≠ str "frames") (x : Option α) (f g : α → Value) :
    LeftBare (.object (optional key (x.map f))) (.object (optional key (x.map g))) ↔ ∀ a ∈ x, LeftBare (f a) (g a) := by
  cases x with
  | none => exact ⟨fun _ a ha => (by cases ha), fun _ path frame hframe => absurd hframe not_frameAt_nil⟩
  | some a =>
      simp only [Option.map_some, Option.mem_some_iff, forall_eq']
      constructor
      · intro h path frame hframe
        obtain ⟨hbare, frame', hframe', hothers⟩ := h _ frame ((frameAt_optional hkey).mpr ⟨path, rfl, hframe⟩)
        obtain ⟨rest, hpath, hframe'⟩ := (frameAt_optional hkey).mp hframe'
        obtain ⟨-, rfl⟩ := List.cons.inj hpath
        exact ⟨hbare, frame', hframe', hothers⟩
      · intro h path frame hframe
        obtain ⟨rest, rfl, hinside⟩ := (frameAt_optional hkey).mp hframe
        obtain ⟨hbare, frame', hframe', hothers⟩ := h rest frame hinside
        exact ⟨hbare, frame', (frameAt_optional hkey).mpr ⟨rest, rfl, hframe'⟩, hothers⟩

/-- A frame in an array stands in one of its entries. -/
theorem frameAt_array {entries : List Value} : FrameAt (.array entries) path frame ↔
    ∃ i rest entry, path = i :: rest ∧ entries[i]? = some entry ∧ FrameAt entry rest frame := by
  constructor
  · intro h
    cases h with
    | listed hframes _ =>
        obtain ⟨entry, -, hentry⟩ := Option.map_eq_some_iff.mp hframes
        cases hentry
    | inside hstep hinside =>
        obtain ⟨entry, hentry, hstep⟩ := Option.map_eq_some_iff.mp hstep
        obtain ⟨-, rfl⟩ := Prod.mk.inj hstep
        exact ⟨_, _, entry, rfl, hentry, hinside⟩
  · rintro ⟨i, rest, entry, rfl, hentry, h⟩
    exact .inside (Option.map_eq_some_iff.mpr ⟨entry, hentry, rfl⟩ : child (.array entries) i = some (none, entry)) h

/-- An array is left bare if its entries are. -/
theorem leftBare_array (xs : List α) (f g : α → Value) :
    LeftBare (.array (xs.map f)) (.array (xs.map g)) ↔ ∀ a ∈ xs, LeftBare (f a) (g a) := by
  constructor
  · intro h a ha path frame hframe
    obtain ⟨i, hi⟩ := List.mem_iff_getElem?.mp ha
    have hentry : ∀ f : α → Value, (xs.map f)[i]? = some (f a) := fun f => by rw [List.getElem?_map, hi]; rfl
    obtain ⟨hbare, frame', hframe', hothers⟩ := h (i :: path) frame
      (frameAt_array.mpr ⟨i, path, g a, rfl, hentry g, hframe⟩)
    obtain ⟨j, rest, entry, hpath, hentry', hframe'⟩ := frameAt_array.mp hframe'
    obtain ⟨rfl, rfl⟩ := List.cons.inj hpath
    obtain rfl := Option.some.inj ((hentry f).symm.trans hentry')
    exact ⟨hbare, frame', hframe', hothers⟩
  · intro h path frame hframe
    obtain ⟨i, rest, entry, rfl, hentry, hframe⟩ := frameAt_array.mp hframe
    rw [List.getElem?_map] at hentry
    obtain ⟨a, ha, rfl⟩ := Option.map_eq_some_iff.mp hentry
    obtain ⟨hbare, frame', hframe', hothers⟩ := h a (List.mem_of_getElem? ha) rest frame hframe
    refine ⟨hbare, frame', frameAt_array.mpr ⟨i, rest, f a, rfl, ?_, hframe'⟩, hothers⟩
    rw [List.getElem?_map, ha]
    rfl

theorem not_frameAt_string {text : Str} : ¬ FrameAt (.string text) path frame := by
  intro h
  obtain ⟨i, rest, step, -, hstep⟩ := h.first
  cases hstep

end Parts

/-! ## Structured data -/

/-- Nothing in a value that stands at `depth` is redacted: only the placeholder stands under a sensitive key, or deeper
    than `maxScrubDepth`. -/
def Whole (depth : ℕ) (value : Value) : Prop :=
  ∀ path inner, reads value path = some inner →
    inner = redactedPlaceholder ∨ (clear value path = true ∧ depth + path.length ≤ maxScrubDepth)

/-- A frame of a record is shown: no key on the way to it is sensitive, and it lies no deeper than `maxScrubDepth`. -/
def Shown (record : Properties) (path : List ℕ) : Prop :=
  clear (.object record) path = true ∧ path.length ≤ maxScrubDepth

/-- Every stack frame that is shown of a record has no local variables, and nothing in it is redacted. -/
def ShownBare (record : Properties) : Prop :=
  ∀ path frame, FrameAt (.object record) path frame → Shown record path →
    frame.lookup (str "vars") = none ∧ Whole path.length (.object frame)

section Scrubbed

variable {depth : ℕ} {value : Value} {path : List ℕ} {frame : Properties}

theorem frames_not_sensitive : isSensitiveKey (str "frames") = false := by decide +kernel

theorem scrubValue_eq_array {entries : List Value} : scrubValue depth value = .array entries ↔
    depth ≤ maxScrubDepth ∧ ∃ entries', value = .array entries' ∧ entries = entries'.map (scrubValue (depth + 1)) := by
  by_cases hdepth : depth ≤ maxScrubDepth
  · rw [scrubValue_of_le hdepth]
    cases value with
    | array entries' => simp [hdepth, eq_comm]
    | undefined | null | boolean _ | number _ | string _ | object _ => simp
  · rw [scrubValue_deep (not_le.mp hdepth)]
    simp [hdepth, redactedPlaceholder]

theorem scrubValue_eq_object {record : Properties} : scrubValue depth value = .object record ↔
    depth ≤ maxScrubDepth ∧ ∃ record', value = .object record' ∧ record = scrubRecord depth record' := by
  by_cases hdepth : depth ≤ maxScrubDepth
  · rw [scrubValue_of_le hdepth]
    cases value with
    | object record' => simp [hdepth, eq_comm]
    | undefined | null | boolean _ | number _ | string _ | array _ => simp
  · rw [scrubValue_deep (not_le.mp hdepth)]
    simp [hdepth, redactedPlaceholder]

theorem clear_of_child {i : ℕ} {step : Option Str × Value} (hstep : child value i = some step) :
    clear value (i :: path) = (!step.1.any isSensitiveKey && clear step.2 path) := by
  rw [clear, hstep, Option.all_some]

theorem reads_of_child {i : ℕ} {step : Option Str × Value} (hstep : child value i = some step) :
    reads value (i :: path) = reads step.2 path := by
  rw [reads, hstep, Option.bind_some]

/-- One step into what is left under a key that is not sensitive. -/
theorem child_scrubValue_open {i : ℕ} {key : Option Str} {inner : Value} (hdepth : depth ≤ maxScrubDepth)
    (hstep : child value i = some (key, inner)) (hkey : key.any isSensitiveKey = false) :
    child (scrubValue depth value) i = some (key, scrubValue (depth + 1) inner) := by
  rw [child_scrubValue hdepth, hstep, Option.map_some, hkey, if_neg Bool.false_ne_true]

/-- One step into what is left: the placeholder, or what is left of the step. -/
theorem child_of_child_scrubValue {i : ℕ} {key : Option Str} {left : Value}
    (h : child (scrubValue depth value) i = some (key, left)) :
    depth ≤ maxScrubDepth ∧ ∃ inner, child value i = some (key, inner) ∧
      (left = redactedPlaceholder ∨ key.any isSensitiveKey = false ∧ left = scrubValue (depth + 1) inner) := by
  by_cases hdepth : depth ≤ maxScrubDepth
  · rw [child_scrubValue hdepth] at h
    obtain ⟨⟨key', inner⟩, hstep, hleft⟩ := Option.map_eq_some_iff.mp h
    obtain ⟨rfl, rfl⟩ := Prod.mk.inj hleft
    refine ⟨hdepth, inner, hstep, ?_⟩
    cases hkey : key'.any isSensitiveKey with
    | true => exact .inl (if_pos rfl)
    | false => exact .inr ⟨rfl, if_neg Bool.false_ne_true⟩
  · rw [scrubValue_deep (not_le.mp hdepth)] at h
    cases h

/-- **The frames that are left** stand where they stood, and are shown, by induction on the path. -/
theorem shown_of_frameAt_scrubValue (h : FrameAt (scrubValue depth value) path frame) :
    clear value path = true ∧ depth + path.length ≤ maxScrubDepth ∧
      ∃ frame', FrameAt value path frame' ∧ frame = scrubRecord (depth + path.length) frame' := by
  induction path generalizing depth value with
  | nil =>
      obtain ⟨i, rest, step, hpath, -⟩ := h.first
      cases hpath
  | cons i path ih =>
      cases h with
      | @listed _ _ j entries _ hframes hentry =>
          obtain ⟨-, inner, hstep, hredacted | ⟨-, hlist⟩⟩ := child_of_child_scrubValue hframes
          · cases hredacted
          -- what is redacted is no list, so this one was left, and its entries with it
          obtain ⟨-, entries', rfl, rfl⟩ := scrubValue_eq_array.mp hlist.symm
          rw [List.getElem?_map] at hentry
          obtain ⟨entry, hentry', hobject⟩ := Option.map_eq_some_iff.mp hentry
          obtain ⟨hdeep, frame', rfl, rfl⟩ := scrubValue_eq_object.mp hobject
          refine ⟨?_, hdeep, frame', .listed hstep hentry', rfl⟩
          have hchild : child (.array entries') j = some (none, .object frame') :=
            Option.map_eq_some_iff.mpr ⟨_, hentry', rfl⟩
          rw [clear_of_child hstep, clear_of_child hchild, Option.any_some, frames_not_sensitive]
          rfl
      | inside hstep hinside =>
          obtain ⟨-, inner, hstep', rfl | ⟨hkey, rfl⟩⟩ := child_of_child_scrubValue hstep
          · -- there is no frame in the placeholder
            exact absurd hinside not_frameAt_string
          obtain ⟨hclear, hdeep, frame', hframe', rfl⟩ := ih hinside
          have hlength : depth + 1 + path.length = depth + (i :: path).length := by
            rw [List.length_cons]
            omega
          rw [hlength] at hdeep ⊢
          refine ⟨?_, hdeep, frame', .inside hstep' hframe', rfl⟩
          rw [clear_of_child hstep', hkey, hclear]
          rfl

/-- **The frames that are shown** are left where they stood, by induction on where that is. -/
theorem FrameAt.scrubbed {frame : Properties} (h : FrameAt value path frame) (hclear : clear value path = true)
    (hdeep : depth + path.length ≤ maxScrubDepth) :
    FrameAt (scrubValue depth value) path (scrubRecord (depth + path.length) frame) := by
  induction h generalizing depth with
  | @listed value i j entries frame hframes hentry =>
      simp only [List.length_cons, List.length_nil] at hdeep ⊢
      have hlist : scrubValue (depth + 1) (.array entries) = .array (entries.map (scrubValue (depth + 1 + 1))) :=
        scrubValue_eq_array.mpr ⟨by omega, entries, rfl, rfl⟩
      have hopen : (some (str "frames")).any isSensitiveKey = false := by rw [Option.any_some, frames_not_sensitive]
      have hstep : child (scrubValue depth value) i = _ := child_scrubValue_open (by omega) hframes hopen
      rw [hlist] at hstep
      refine .listed hstep ?_
      rw [List.getElem?_map, hentry]
      exact congrArg some (scrubValue_eq_object.mpr ⟨hdeep, frame, rfl, rfl⟩)
  | @inside value inner i key path frame hstep _ ih =>
      rw [clear_of_child hstep, Bool.and_eq_true, Bool.not_eq_true'] at hclear
      have hlength : depth + (i :: path).length = depth + 1 + path.length := by
        rw [List.length_cons]
        omega
      rw [hlength] at hdeep ⊢
      exact .inside (child_scrubValue_open (by omega) hstep hclear.1) (ih hclear.2 hdeep)

theorem lookup_scrubRecord {record : Properties} :
    (scrubRecord depth record).lookup (str "vars") = none ↔ record.lookup (str "vars") = none := by
  rw [scrubRecord_eq_map, List.lookup_eq_none_iff, List.lookup_eq_none_iff, List.forall_mem_map]

end Scrubbed

theorem whole_placeholder (depth : ℕ) : Whole depth redactedPlaceholder := by
  intro path inner h
  cases path with
  | nil => exact .inl (Option.some.inj h).symm
  | cons i path => cases h

theorem scrubValue_placeholder (depth : ℕ) : scrubValue depth redactedPlaceholder = redactedPlaceholder := by
  by_cases hdepth : depth ≤ maxScrubDepth
  · exact scrubValue_of_le hdepth _
  · exact scrubValue_deep (not_le.mp hdepth) _

/-- One step into what is whole. -/
theorem Whole.step {depth i : ℕ} {value : Value} {step : Option Str × Value} (h : Whole depth value)
    (hstep : child value i = some step) :
    step.2 = redactedPlaceholder ∨ step.1.any isSensitiveKey = false ∧ Whole (depth + 1) step.2 := by
  by_cases hplaceholder : step.2 = redactedPlaceholder
  · exact .inl hplaceholder
  · refine .inr ⟨?_, ?_⟩
    · obtain hredacted | ⟨hopen, -⟩ := h [i] step.2 (reads_of_child hstep)
      · exact absurd hredacted hplaceholder
      · rw [clear_of_child hstep, Bool.and_eq_true, Bool.not_eq_true'] at hopen
        exact hopen.1
    · intro path inner hinner
      obtain hredacted | ⟨hopen, hdeep⟩ := h (i :: path) inner ((reads_of_child hstep).trans hinner)
      · exact .inl hredacted
      · rw [clear_of_child hstep, Bool.and_eq_true] at hopen
        rw [List.length_cons] at hdeep
        exact .inr ⟨hopen.2, by omega⟩

/-- What is whole and no placeholder stands high enough. -/
theorem Whole.le {depth : ℕ} {value : Value} (h : Whole depth value) (hvalue : value ≠ redactedPlaceholder) :
    depth ≤ maxScrubDepth := by
  obtain hredacted | ⟨-, hdeep⟩ := h [] value rfl
  · exact absurd hredacted hvalue
  · exact hdeep

mutual

/-- **What is whole is left as it is.** -/
theorem scrubValue_of_whole {depth : ℕ} : (value : Value) → Whole depth value → scrubValue depth value = value
  | .array entries, h => by
      have hdepth := h.le nofun
      rw [scrubValue_of_le hdepth]
      show Value.array (entries.map (scrubValue (depth + 1))) = .array entries
      rw [← scrubEntries_eq_map, scrubEntries_of_whole entries]
      intro entry hmem
      obtain ⟨i, hi⟩ := List.mem_iff_getElem?.mp hmem
      have hstep : child (.array entries) i = some (none, entry) := Option.map_eq_some_iff.mpr ⟨entry, hi, rfl⟩
      exact (h.step hstep).imp id And.right
  | .object record, h => by
      have hdepth := h.le nofun
      rw [scrubValue_of_le hdepth]
      show Value.object (scrubRecord depth record) = .object record
      rw [scrubRecord_of_whole record]
      intro property hmem
      obtain ⟨i, hi⟩ := List.mem_iff_getElem?.mp hmem
      have hstep : child (.object record) i = some (some property.1, property.2) :=
        Option.map_eq_some_iff.mpr ⟨property, hi, rfl⟩
      exact h.step hstep
  | .undefined, h => scrubValue_of_le (h.le nofun) _
  | .null, h => scrubValue_of_le (h.le nofun) _
  | .boolean _, h => scrubValue_of_le (h.le nofun) _
  | .number _, h => scrubValue_of_le (h.le nofun) _
  | .string text, h => by
      by_cases hplaceholder : Value.string text = redactedPlaceholder
      · rw [hplaceholder]
        exact scrubValue_placeholder depth
      · exact scrubValue_of_le (h.le hplaceholder) _

theorem scrubEntries_of_whole {depth : ℕ} : (entries : List Value) →
    (∀ entry ∈ entries, entry = redactedPlaceholder ∨ Whole depth entry) → scrubEntries depth entries = entries
  | [], _ => by rw [scrubEntries]
  | entry :: entries, h => by
      obtain ⟨hentry, hentries⟩ := List.forall_mem_cons.mp h
      have hwhole : Whole depth entry := hentry.elim (fun hentry => hentry ▸ whole_placeholder depth) id
      rw [scrubEntries, scrubValue_of_whole entry hwhole, scrubEntries_of_whole entries hentries]

theorem scrubRecord_of_whole {depth : ℕ} : (record : Properties) →
    (∀ property ∈ record, property.2 = redactedPlaceholder ∨
      isSensitiveKey property.1 = false ∧ Whole (depth + 1) property.2) →
    scrubRecord depth record = record
  | [], _ => by rw [scrubRecord]
  | (key, value) :: record, h => by
      obtain ⟨hproperty, hrecord⟩ := List.forall_mem_cons.mp h
      rw [scrubRecord, scrubRecord_of_whole record hrecord]
      obtain hredacted | ⟨hkey, hwhole⟩ := hproperty
      · obtain rfl : value = redactedPlaceholder := hredacted
        rw [scrubValue_placeholder, ite_self]
      · rw [if_neg (by rw [hkey]; exact Bool.false_ne_true), scrubValue_of_whole value hwhole]

end

/-- **And only that,** by induction on the path. -/
theorem whole_of_scrubValue {depth : ℕ} {value : Value} (h : scrubValue depth value = value) : Whole depth value := by
  intro path inner hinner
  induction path generalizing depth value with
  | nil =>
      obtain rfl := Option.some.inj hinner
      by_cases hdepth : depth ≤ maxScrubDepth
      · exact .inr ⟨rfl, hdepth⟩
      · exact .inl (h.symm.trans (scrubValue_deep (not_le.mp hdepth) _))
  | cons i path ih =>
      obtain ⟨⟨key, next⟩, hstep, hnext⟩ := Option.bind_eq_some_iff.mp hinner
      have hleft : child (scrubValue depth value) i = some (key, next) := h.symm ▸ hstep
      obtain ⟨-, inner', hstep', rfl | ⟨hkey, hsame⟩⟩ := child_of_child_scrubValue hleft
      · cases path with
        | nil => exact .inl (Option.some.inj hnext).symm
        | cons j path => cases hnext
      · obtain ⟨-, rfl⟩ := Prod.mk.inj (Option.some.inj (hstep.symm.trans hstep'))
        refine (ih hsame.symm hnext).imp id fun ⟨hclear, hdeep⟩ => ⟨?_, ?_⟩
        · rw [clear_of_child hstep, hkey, hclear]
          rfl
        · rw [List.length_cons]
          omega

/-- **The data of a record is left bare** exactly if every frame that is shown of it is bare and whole. -/
theorem leftBare_scrubRecord (record : Properties) :
    LeftBare (.object record) (.object (scrubRecord 0 record)) ↔ ShownBare record := by
  have hobject : scrubValue 0 (.object record) = .object (scrubRecord 0 record) := scrubValue_of_le (Nat.zero_le _) _
  rw [← hobject]
  constructor
  · rintro h path frame hframe ⟨hclear, hdeep⟩
    rw [← Nat.zero_add path.length] at hdeep ⊢
    obtain ⟨hbare, frame', hframe', hothers⟩ := h path _ (hframe.scrubbed hclear hdeep)
    obtain rfl := hframe.unique hframe'
    have hvars := lookup_scrubRecord.mp hbare
    refine ⟨hvars, whole_of_scrubValue ?_⟩
    rw [others_of_bare hvars, others_of_bare hbare] at hothers
    exact scrubValue_eq_object.mpr ⟨hdeep, frame, rfl, hothers⟩
  · intro h path frame hframe
    obtain ⟨hclear, hdeep, frame', hframe', rfl⟩ := shown_of_frameAt_scrubValue hframe
    rw [Nat.zero_add] at hdeep ⊢
    obtain ⟨hvars, hwhole⟩ := h path frame' hframe' ⟨hclear, hdeep⟩
    have hsame : scrubRecord path.length frame' = frame' :=
      (Value.object.inj ((scrubValue_of_le hdeep (.object frame')).symm.trans (scrubValue_of_whole _ hwhole)))
    rw [hsame]
    exact ⟨hvars, frame', hframe', rfl⟩

end Observability
end NestSdk
