import Mathlib.Data.List.Basic

/-!
# `Lib.Quoted` — quoted names, and lists of them

A name between two quotes can hold any symbols, if the quotes in it are doubled: whoever reads up to the first quote that
is not doubled reads the name back, whatever follows (`readQuoted_quoted`). And a list of parts, each of which can be read
back before a separator and before the end, is read back part by part (`readList_intercalate`).
-/

namespace NestSdk
namespace Lib

variable {α β : Type*} [DecidableEq α]

/-! ## One name -/

/-- The text with its quotes doubled. -/
def doubled (q : α) (name : List α) : List α := name.flatMap fun c => if c = q then [q, q] else [c]

/-- The text between quotes. -/
def quoted (q : α) (name : List α) : List α := q :: (doubled q name ++ [q])

/-- What is read up to a quote that is not doubled, and what is left. -/
def untilQuote (q : α) : List α → Option (List α × List α)
  | [] => none
  | [c] => if c = q then some ([], []) else none
  | c :: d :: rest =>
      if c = q then
        if d = q then (untilQuote q rest).map fun read => (q :: read.1, read.2) else some ([], d :: rest)
      else (untilQuote q (d :: rest)).map fun read => (c :: read.1, read.2)

/-- A quoted name, and what is left. -/
def readQuoted (q : α) : List α → Option (List α × List α)
  | [] => none
  | c :: rest => if c = q then untilQuote q rest else none

theorem untilQuote_end {q : α} {rest : List α} (hrest : rest.head? ≠ some q) :
    untilQuote q (q :: rest) = some ([], rest) := by
  cases rest with
  | nil => simp [untilQuote]
  | cons d rest =>
      have hd : d ≠ q := fun h => hrest (congrArg some h)
      simp [untilQuote, hd]

theorem untilQuote_cons {q c : α} (hc : c ≠ q) (text : List α) :
    untilQuote q (c :: text) = (untilQuote q text).map fun read => (c :: read.1, read.2) := by
  cases text with
  | nil => simp [untilQuote, hc]
  | cons d rest => rw [untilQuote, if_neg hc]

/-- **A quoted name is read back,** by induction on the name. -/
theorem readQuoted_quoted {q : α} (name : List α) {rest : List α} (hrest : rest.head? ≠ some q) :
    readQuoted q (quoted q name ++ rest) = some (name, rest) := by
  have huntil : untilQuote q (doubled q name ++ q :: rest) = some (name, rest) := by
    induction name with
    | nil => exact untilQuote_end hrest
    | cons c name ih =>
        by_cases hc : c = q
        · have htext : doubled q (c :: name) ++ q :: rest = q :: q :: (doubled q name ++ q :: rest) := by
            simp [doubled, hc]
          rw [htext, untilQuote, if_pos rfl, if_pos rfl, ih, hc]
          rfl
        · have htext : doubled q (c :: name) ++ q :: rest = c :: (doubled q name ++ q :: rest) := by
            simp [doubled, hc]
          rw [htext, untilQuote_cons hc, ih]
          rfl
  have htext : quoted q name ++ rest = q :: (doubled q name ++ q :: rest) := by simp [quoted]
  rw [htext, readQuoted, if_pos rfl, huntil]

/-! ## A list -/

/-- Parts with separators between them, at most `fuel` of them, and what is left. -/
def readList (read : List α → Option (β × List α)) (sep : List α) : ℕ → List α → Option (List β × List α)
  | 0, _ => none
  | fuel + 1, text =>
      match read text with
      | none => none
      | some (part, rest) =>
          if sep <+: rest then
            (readList read sep fuel (rest.drop sep.length)).map fun parts => (part :: parts.1, parts.2)
          else some ([part], rest)

/-- **A list of parts is read back,** by induction on the parts. `Before` is what a part can be read back before. -/
theorem readList_intercalate {read : List α → Option (β × List α)} {write : β → List α} {sep rest : List α}
    {Before : List α → Prop} (hread : ∀ part rest, Before rest → read (write part ++ rest) = some (part, rest))
    (hsep : ∀ text, Before (sep ++ text)) (hrest : Before rest) (hend : ¬ sep <+: rest) {fuel : ℕ} {parts : List β}
    (hparts : parts ≠ []) (hfuel : parts.length ≤ fuel) :
    readList read sep fuel (sep.intercalate (parts.map write) ++ rest) = some (parts, rest) := by
  induction parts generalizing fuel with
  | nil => exact absurd rfl hparts
  | cons part parts ih =>
      cases fuel with
      | zero => cases hfuel
      | succ fuel =>
          cases parts with
          | nil =>
              rw [List.map_singleton, List.intercalate_singleton, readList, hread part rest hrest]
              exact if_neg hend
          | cons next parts =>
              have htext : sep.intercalate ((part :: next :: parts).map write) ++ rest
                  = write part ++ (sep ++ (sep.intercalate ((next :: parts).map write) ++ rest)) := by
                rw [List.map_cons, List.map_cons, List.intercalate_cons_cons, List.append_assoc, List.append_assoc]
              have hlater := ih (List.cons_ne_nil next parts) (Nat.le_of_succ_le_succ hfuel)
              rw [htext, readList, hread part _ (hsep _)]
              show (if _ then _ else _) = _
              rw [if_pos (List.prefix_append sep _), List.drop_left, hlater]
              rfl

omit [DecidableEq α] in
/-- Parts that are not empty are no more than the symbols of their list. -/
theorem length_le_intercalate {sep : List α} {parts : List (List α)} (h : ∀ part ∈ parts, part ≠ []) :
    parts.length ≤ (sep.intercalate parts).length := by
  induction parts with
  | nil => exact Nat.zero_le _
  | cons part parts ih =>
      have hpart : 0 < part.length := List.length_pos_iff.mpr (h part List.mem_cons_self)
      have hlater := ih fun later hlater => h later (List.mem_cons_of_mem part hlater)
      cases parts with
      | nil =>
          rw [List.intercalate_singleton]
          exact hpart
      | cons next parts =>
          rw [List.intercalate_cons_cons, List.length_append, List.length_append]
          simp only [List.length_cons] at hlater ⊢
          omega

end Lib
end NestSdk
