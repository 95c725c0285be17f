import Mathlib.Order.Defs.LinearOrder

/-!
SQL conditions over nullable columns. A comparison with `NULL` is neither true
nor false, and a row is selected only if its condition is true.
-/

namespace Greetup.Sql

variable {α : Type}

/-- A truth value of SQL; `none` is `unknown`. -/
abbrev Truth := Option Bool

/-- The condition selects the row. -/
def Truth.Holds (t : Truth) : Prop := t = some true

instance (t : Truth) : Decidable t.Holds := inferInstanceAs (Decidable (t = some true))

namespace Truth

def ofBool (b : Bool) : Truth := some b

/-- `AND`: false if one side is, otherwise unknown if one side is. -/
def and : Truth → Truth → Truth
  | some false, _ => some false
  | some true, t => t
  | none, some false => some false
  | none, _ => none

/-- `OR`: true if one side is, otherwise unknown if one side is. -/
def or : Truth → Truth → Truth
  | some true, _ => some true
  | some false, t => t
  | none, some true => some true
  | none, _ => none

def all (ts : List Truth) : Truth := ts.foldr and (some true)

def any (ts : List Truth) : Truth := ts.foldr or (some false)

@[simp] theorem holds_ofBool (b : Bool) : (ofBool b).Holds ↔ b = true := by
  simp [ofBool, Holds]

@[simp] theorem holds_and (s t : Truth) : (and s t).Holds ↔ s.Holds ∧ t.Holds := by
  unfold Holds and
  cases s with
  | none => cases t with
    | none => simp
    | some b => cases b <;> simp
  | some b => cases b <;> simp

@[simp] theorem holds_or (s t : Truth) : (or s t).Holds ↔ s.Holds ∨ t.Holds := by
  unfold Holds or
  cases s with
  | none => cases t with
    | none => simp
    | some b => cases b <;> simp
  | some b => cases b <;> simp

@[simp] theorem holds_all_nil : (all []).Holds := rfl

@[simp] theorem holds_all_cons (t : Truth) (ts : List Truth) :
    (all (t :: ts)).Holds ↔ t.Holds ∧ (all ts).Holds := holds_and t (all ts)

@[simp] theorem not_holds_any_nil : ¬ (any []).Holds := by
  simp [any, Holds]

@[simp] theorem holds_any_cons (t : Truth) (ts : List Truth) :
    (any (t :: ts)).Holds ↔ t.Holds ∨ (any ts).Holds := holds_or t (any ts)

end Truth

/-! ### Nullable operands -/

def isNull (x : Option α) : Truth := .ofBool x.isNone

def isNotNull (x : Option α) : Truth := .ofBool x.isSome

def eq [DecidableEq α] (x : α) (y : α) : Truth := .ofBool (x = y)

/-- `x <= y` and `x < y`: unknown if an operand is `NULL`. -/
def le [LE α] [DecidableLE α] : Option α → Option α → Truth
  | some x, some y => .ofBool (x ≤ y)
  | _, _ => none

def lt [LT α] [DecidableLT α] : Option α → Option α → Truth
  | some x, some y => .ofBool (x < y)
  | _, _ => none

/-- `x + d` -/
def plus [Add α] (x : Option α) (d : α) : Option α := x.map (· + d)

def coalesce : Option α → Option α → Option α
  | some x, _ => some x
  | none, y => y

/-- `MAX(x)`: of the values that are not `NULL`. -/
def max [Max α] (xs : List (Option α)) : Option α := (xs.filterMap id).max?

section

variable {x : Option α} {y d : α}

theorem holds_isNull : (isNull x).Holds ↔ x = none := by
  rw [isNull, Truth.holds_ofBool, Option.isNone_iff_eq_none]

theorem holds_isNotNull : (isNotNull x).Holds ↔ x ≠ none := by
  rw [isNotNull, Truth.holds_ofBool, Option.isSome_iff_ne_none]

theorem holds_eq [DecidableEq α] {x : α} : (eq x y).Holds ↔ x = y := by
  rw [eq, Truth.holds_ofBool, decide_eq_true_iff]

theorem holds_le [LE α] [DecidableLE α] : (le x (some y)).Holds ↔ ∃ z, x = some z ∧ z ≤ y := by
  cases x with
  | none => simp [le, Truth.Holds]
  | some z => simp [le]

theorem holds_lt [LT α] [DecidableLT α] : (lt x (some y)).Holds ↔ ∃ z, x = some z ∧ z < y := by
  cases x with
  | none => simp [lt, Truth.Holds]
  | some z => simp [lt]

theorem plus_eq_some [Add α] {z : α} : plus x d = some z ↔ ∃ y, x = some y ∧ y + d = z :=
  Option.map_eq_some_iff

end

end Greetup.Sql
