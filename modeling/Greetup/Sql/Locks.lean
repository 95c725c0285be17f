import Mathlib.Logic.Function.Basic

/-!
Row locks. A transaction that has locked a row holds the lock until it ends, and
others that want it wait; a statement that waits is one that does not run yet.
-/

namespace Greetup.Sql

/-- Who holds the lock of a row. -/
abbrev Locks (κ ι : Type) := κ → Option ι

namespace Locks

variable {κ ι : Type}

/-- Nobody else holds the lock. -/
def isFree [DecidableEq ι] (locks : Locks κ ι) (tx : ι) (k : κ) : Bool := (locks k).all (· = tx)

def acquire [DecidableEq κ] (locks : Locks κ ι) (tx : ι) (k : κ) : Locks κ ι :=
  Function.update locks k (some tx)

/-- The transaction has ended. -/
def release [DecidableEq ι] (locks : Locks κ ι) (tx : ι) : Locks κ ι :=
  fun k => if locks k = some tx then none else locks k

variable {locks : Locks κ ι} {tx tx' : ι} {k k' : κ}

theorem eq_of_isFree [DecidableEq ι] (h : locks.isFree tx k = true) (hheld : locks k = some tx') :
    tx' = tx := by
  rw [isFree, hheld, Option.all_some] at h
  exact of_decide_eq_true h

theorem acquire_eq_some [DecidableEq κ] :
    locks.acquire tx k k' = some tx' ↔ if k' = k then tx' = tx else locks k' = some tx' := by
  rw [acquire, Function.update_apply]
  split
  · rw [Option.some.injEq, eq_comm]
  · exact Iff.rfl

theorem release_eq_some [DecidableEq ι] :
    locks.release tx k = some tx' ↔ locks k = some tx' ∧ tx' ≠ tx := by
  rw [release]
  split
  · rename_i h
    rw [h]
    simp [eq_comm]
  · rename_i h
    refine ⟨fun h' => ⟨h', ?_⟩, fun h' => h'.1⟩
    rintro rfl
    exact h h'

end Locks

end Greetup.Sql
