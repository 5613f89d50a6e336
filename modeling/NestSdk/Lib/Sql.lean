import Mathlib

/-!
# `Lib.Sql` — three-valued predicates of a `WHERE` clause

A column may be `NULL`, so a comparison in SQL is *true*, *false* or *unknown*, and a row is selected only
when its predicate is true. `Truth` carries the third value as `none`; the connectives are Kleene's. The
lemmas say when each form **holds**, which is all a `WHERE` clause ever asks.
-/

namespace NestSdk
namespace Lib
namespace Sql

/-- A truth value of SQL: `none` is `UNKNOWN`. -/
abbrev Truth := Option Bool

/-- A row is selected only by a predicate that is true; `UNKNOWN` selects nothing. -/
def Truth.holds (p : Truth) : Bool := p == some true

/-- `AND`: false wins over unknown. -/
def Truth.and : Truth → Truth → Truth
  | some false, _ => some false
  | _, some false => some false
  | some true, some true => some true
  | _, _ => none

/-- `OR`: true wins over unknown. -/
def Truth.or : Truth → Truth → Truth
  | some true, _ => some true
  | _, some true => some true
  | some false, some false => some false
  | _, _ => none

variable {α : Type*}

/-- A comparison of a nullable column with a value: unknown on `NULL`. -/
def compare (test : α → Bool) (column : Option α) : Truth := column.map test

/-- `IS NULL`, which is never unknown. -/
def isNull (column : Option α) : Truth := some column.isNone

@[simp] theorem holds_some (b : Bool) : Truth.holds (some b) = b := by cases b <;> rfl

@[simp] theorem holds_and (p q : Truth) : (p.and q).holds = (p.holds && q.holds) := by
  rcases p with _ | _ | _ <;> rcases q with _ | _ | _ <;> rfl

@[simp] theorem holds_or (p q : Truth) : (p.or q).holds = (p.holds || q.holds) := by
  rcases p with _ | _ | _ <;> rcases q with _ | _ | _ <;> rfl

@[simp] theorem holds_isNull (column : Option α) : (isNull column).holds = column.isNone :=
  holds_some _

/-- A comparison holds exactly on a column that is present and passes the test. -/
theorem holds_compare {test : α → Bool} {column : Option α} :
    (compare test column).holds = true ↔ ∃ x, column = some x ∧ test x = true := by
  cases column with
  | none => simp [compare, Truth.holds]
  | some x => simp [compare]

end Sql
end Lib
end NestSdk
