import Mathlib.Logic.Function.Basic

/-!
Transactions at the isolation level `READ COMMITTED`.

A statement sees what is committed by the time it runs, and over it what its own
transaction has written. It sees nothing of the other open transactions. What a
transaction has written are the rows it has changed; they lie over whatever the
others commit meanwhile, and all become visible at once when it commits.
-/

namespace Greetup.Sql

/-- The committed database, and what the open transaction of each connection has
written, newest first. -/
structure Sessions (κ W : Type) where
  committed : W
  writes : κ → List (W → W) := fun _ => []

namespace Sessions

variable {κ W : Type} [DecidableEq κ] (s : Sessions κ W) (tx : κ)

/-- What a statement of the transaction sees. -/
def view : W := (s.writes tx).foldr (fun change w => change w) s.committed

def write (change : W → W) : Sessions κ W :=
  { s with writes := Function.update s.writes tx (change :: s.writes tx) }

def commit : Sessions κ W where
  committed := s.view tx
  writes := Function.update s.writes tx []

def rollback : Sessions κ W := { s with writes := Function.update s.writes tx [] }

/-- A statement outside of a transaction is committed at once. -/
def autocommit (w : W) : Sessions κ W := { s with committed := w }

variable {s tx}

omit [DecidableEq κ] in
theorem view_of_nil (h : s.writes tx = []) : s.view tx = s.committed := by
  rw [view, h, List.foldr_nil]

@[simp] theorem write_committed (change : W → W) : (s.write tx change).committed = s.committed :=
  rfl

@[simp] theorem write_writes_self (change : W → W) :
    (s.write tx change).writes tx = change :: s.writes tx := Function.update_self ..

theorem write_writes_of_ne {tx' : κ} (h : tx' ≠ tx) (change : W → W) :
    (s.write tx change).writes tx' = s.writes tx' := Function.update_of_ne h ..

@[simp] theorem view_write_self (change : W → W) :
    (s.write tx change).view tx = change (s.view tx) := by
  rw [view, write_writes_self, List.foldr_cons, write_committed, view]

@[simp] theorem commit_committed : (s.commit tx).committed = s.view tx := rfl

@[simp] theorem commit_writes_self : (s.commit tx).writes tx = [] := Function.update_self ..

theorem commit_writes_of_ne {tx' : κ} (h : tx' ≠ tx) :
    (s.commit tx).writes tx' = s.writes tx' := Function.update_of_ne h ..

end Sessions

end Greetup.Sql
