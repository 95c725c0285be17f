import Greetup.Interleaving.Accounts

/-!
A value that is made once, by whoever holds a lock.

Who finds no value tries to get the lock. Who gets it looks again, makes the
value if it is still not there, and gives the lock back; nobody waits for the
lock.
-/

namespace Greetup.Interleaving

variable {ι C : Type} {R : C → Type} {W β : Type}

/-- What a command does about the lock and the value. -/
inductive OnceAction (β : Type)
  | tryAcquire
  | release
  | read
  | write (b : β)
  | rest
  /-- The lock or the value may go. -/
  | spoil

/-- The store has a lock and a place for a value: `won` says that an attempt to
get the lock succeeds, `seen` is what a reading finds. -/
structure Guarded (exec : (c : C) → W → R c × W) (lock : W → Bool) (cell : W → Option β)
    (act : C → OnceAction β) (won : Told C R → Bool) (seen : Told C R → Option β) : Prop where
  lock_exec : ∀ c w, act c ≠ .spoil → lock (exec c w).2 =
    match act c with
    | .tryAcquire => true
    | .release => false
    | _ => lock w
  cell_exec : ∀ c w, act c ≠ .spoil → cell (exec c w).2 =
    match act c with
    | .write b => some b
    | _ => cell w
  won_exec : ∀ c w, act c = .tryAcquire → won ⟨c, (exec c w).1⟩ = !lock w
  seen_exec : ∀ c w, act c = .read → seen ⟨c, (exec c w).1⟩ = cell w

section Told

variable (act : C → OnceAction β) (won : Told C R → Bool) (seen : Told C R → Option β)

/-- The caller has got the lock, and has not given it back. -/
def Holding : List (Told C R) → Prop
  | [] => False
  | e :: h =>
      match act e.1 with
      | .tryAcquire => won e = true ∨ Holding h
      | .release => False
      | _ => Holding h

/-- The caller holds the lock, has found no value since, and has made none. -/
def Checked : List (Told C R) → Prop
  | [] => False
  | e :: h =>
      match act e.1 with
      | .release | .write _ => False
      | .read => Holding act won h ∧ seen e = none ∨ Checked h
      | _ => Checked h

/-- What a caller may do: it gives back only what it holds, and makes the value
only when it has looked. -/
def MakesOnce (h : List (Told C R)) (c : C) : Prop :=
  match act c with
  | .release => Holding act won h
  | .write _ => Checked act won seen h
  | .spoil => False
  | _ => True

variable {act won seen} {h : List (Told C R)} {e : Told C R} {c : C}

theorem makesOnce_of_rest (hrest : act c = .rest) : MakesOnce act won seen h c := by
  rw [MakesOnce, hrest]
  trivial

theorem holding_cons : Holding act won (e :: h) ↔
    match act e.1 with
    | .tryAcquire => won e = true ∨ Holding act won h
    | .release => False
    | _ => Holding act won h :=
  Iff.rfl

theorem checked_cons : Checked act won seen (e :: h) ↔
    match act e.1 with
    | .release | .write _ => False
    | .read => Holding act won h ∧ seen e = none ∨ Checked act won seen h
    | _ => Checked act won seen h :=
  Iff.rfl

theorem holding_cons_of_won (hact : act e.1 = .tryAcquire) (hwon : won e = true) :
    Holding act won (e :: h) := by
  rw [holding_cons, hact]
  exact .inl hwon

theorem Holding.cons (hh : Holding act won h) (hact : act e.1 ≠ .release) :
    Holding act won (e :: h) := by
  rw [holding_cons]
  cases hcase : act e.1 with
  | tryAcquire => exact .inr hh
  | release => exact absurd hcase hact
  | read | write | rest | spoil => exact hh

theorem checked_cons_of_none (hh : Holding act won h) (hact : act e.1 = .read)
    (hnone : seen e = none) : Checked act won seen (e :: h) := by
  rw [checked_cons, hact]
  exact .inl ⟨hh, hnone⟩

theorem Checked.cons (hc : Checked act won seen h) (hact : act e.1 = .rest) :
    Checked act won seen (e :: h) := by
  rw [checked_cons, hact]
  exact hc

theorem Checked.holding (hc : Checked act won seen h) : Holding act won h := by
  induction h with
  | nil => exact hc
  | cons e h ih =>
      rw [checked_cons] at hc
      rw [holding_cons]
      cases hact : act e.1 with
      | tryAcquire =>
          rw [hact] at hc
          exact .inr (ih hc)
      | read =>
          rw [hact] at hc
          rcases hc with ⟨hholding, -⟩ | hc
          · exact hholding
          · exact ih hc
      | rest | spoil =>
          rw [hact] at hc
          exact ih hc
      | release | write =>
          rw [hact] at hc
          exact hc.elim

end Told

/-! ### In a run with others -/

variable [DecidableEq ι] {exec : (c : C) → W → R c × W} {lock : W → Bool} {cell : W → Option β}
  {act : C → OnceAction β} {won : Told C R → Bool} {seen : Told C R → Option β} {w₀ : W}
  {s : Scene ι C R W} {i k : ι} {c : C}

def OnceAction.writes : OnceAction β → Bool
  | .write _ => true
  | _ => false

/-- How often the value was made. -/
def Scene.made (act : C → OnceAction β) (s : Scene ι C R W) : ℕ :=
  s.count fun e => (act e.1).writes

/-- One caller at a time holds the lock, and what was found or made is there. -/
structure Scene.Once (lock : W → Bool) (cell : W → Option β) (act : C → OnceAction β)
    (won : Told C R → Bool) (seen : Told C R → Option β) (s : Scene ι C R W) : Prop where
  locked : ∀ i, Holding act won (s.told i) → lock s.world = true
  exclusive : ∀ i k, Holding act won (s.told i) → Holding act won (s.told k) → i = k
  checked : ∀ i, Checked act won seen (s.told i) → cell s.world = none
  found : ∀ i, ∀ e ∈ s.told i, ∀ b, (act e.1 = .read ∧ seen e = some b ∨ act e.1 = .write b) →
    cell s.world = some b
  made_le : s.made act ≤ 1
  made_eq : cell s.world = none → s.made act = 0

theorem Scene.Once.start : Scene.Once (ι := ι) lock cell act won seen
    (⟨w₀, []⟩ : Scene ι C R W) where
  locked _ h := h.elim
  exclusive _ _ h := h.elim
  checked _ h := h.elim
  found _ _ he := absurd he List.not_mem_nil
  made_le := Nat.zero_le 1
  made_eq _ := rfl

variable (hguarded : Guarded exec lock cell act won seen)

include hguarded

/-- Who holds the lock after a command has held it before, or gets it now. -/
theorem holding_after (h : Holding act won ((s.after exec i c).told k)) :
    (i = k ∧ act c = .tryAcquire ∧ lock s.world = false) ∨
      Holding act won (s.told k) ∧ (i = k → act c ≠ .release) := by
  by_cases hik : i = k
  · subst hik
    rw [Scene.told_after_self, holding_cons] at h
    dsimp only at h
    cases hact : act c with
    | tryAcquire =>
        rw [hact] at h
        rcases h with hwon | hold
        · rw [hguarded.won_exec c _ hact] at hwon
          exact .inl ⟨rfl, rfl, by simpa using hwon⟩
        · exact .inr ⟨hold, fun _ h => by cases h⟩
    | release =>
        rw [hact] at h
        exact h.elim
    | read | write | rest | spoil =>
        rw [hact] at h
        exact .inr ⟨h, fun _ h => by cases h⟩
  · rw [Scene.told_after_of_ne exec hik] at h
    exact .inr ⟨h, fun heq => absurd heq hik⟩

/-- Who has looked after a command has looked before, or looks now. -/
theorem checked_after (h : Checked act won seen ((s.after exec i c).told k)) :
    (act c = .read ∧ cell s.world = none) ∨
      Checked act won seen (s.told k) ∧ (i = k → (act c).writes = false) := by
  by_cases hik : i = k
  · subst hik
    rw [Scene.told_after_self, checked_cons] at h
    dsimp only at h
    cases hact : act c with
    | read =>
        rw [hact] at h
        rcases h with ⟨-, hnone⟩ | hold
        · rw [hguarded.seen_exec c _ hact] at hnone
          exact .inl ⟨rfl, hnone⟩
        · exact .inr ⟨hold, fun _ => rfl⟩
    | release | write =>
        rw [hact] at h
        exact h.elim
    | tryAcquire | rest | spoil =>
        rw [hact] at h
        exact .inr ⟨h, fun _ => rfl⟩
  · rw [Scene.told_after_of_ne exec hik] at h
    exact .inr ⟨h, fun heq => absurd heq hik⟩

omit [DecidableEq ι] in
/-- The value changes only when it is made. -/
theorem cell_after_of_not_writes (hspoil : act c ≠ .spoil) (hc : (act c).writes = false) :
    cell (s.after exec i c).world = cell s.world := by
  rw [Scene.after_world, hguarded.cell_exec c _ hspoil]
  cases hact : act c with
  | write b =>
      rw [hact] at hc
      cases hc
  | tryAcquire | release | read | rest => rfl
  | spoil => exact absurd hact hspoil

theorem Scene.Once.after (h : s.Once lock cell act won seen)
    (hlic : MakesOnce act won seen (s.told i) c) :
    (s.after exec i c).Once lock cell act won seen := by
  -- who makes the value has looked, and nothing was there
  have hwrites : (act c).writes = true → Checked act won seen (s.told i) := by
    intro hw
    rw [MakesOnce] at hlic
    cases hact : act c with
    | write b =>
        rw [hact] at hlic
        exact hlic
    | tryAcquire | release | read | rest | spoil =>
        rw [hact] at hw
        cases hw
  have hspoil : act c ≠ .spoil := by
    intro hact
    rw [MakesOnce, hact] at hlic
    exact hlic
  refine ⟨fun k hk => ?_, fun k l hk hl => ?_, fun k hk => ?_, fun k e he b hb => ?_, ?_, ?_⟩
  · rw [Scene.after_world, hguarded.lock_exec c _ hspoil]
    rcases holding_after hguarded hk with ⟨-, hact, -⟩ | ⟨hold, hkeeps⟩
    · rw [hact]
    · cases hact : act c with
      | tryAcquire => rfl
      | release =>
          rw [MakesOnce, hact] at hlic
          exact absurd hact (hkeeps (h.exclusive i k hlic hold))
      | read | write | rest => exact h.locked k hold
      | spoil => exact absurd hact hspoil
  · rcases holding_after hguarded hk with ⟨rfl, -, hfree⟩ | ⟨hold, -⟩
    · rcases holding_after hguarded hl with ⟨rfl, -, -⟩ | ⟨hold', -⟩
      · rfl
      · rw [h.locked l hold'] at hfree
        cases hfree
    · rcases holding_after hguarded hl with ⟨rfl, -, hfree⟩ | ⟨hold', -⟩
      · rw [h.locked k hold] at hfree
        cases hfree
      · exact h.exclusive k l hold hold'
  · rcases checked_after hguarded hk with ⟨hread, hnone⟩ | ⟨hold, hkeeps⟩
    · rw [cell_after_of_not_writes hguarded hspoil (by rw [hread]; rfl), hnone]
    · cases hw : (act c).writes with
      | false => rw [cell_after_of_not_writes hguarded hspoil hw, h.checked k hold]
      | true =>
          have hsame := h.exclusive i k (hwrites hw).holding hold.holding
          rw [hkeeps hsame] at hw
          cases hw
  · rcases (Scene.mem_told_after exec).mp he with ⟨rfl, rfl⟩ | hold
    · rcases hb with ⟨hread, hseen⟩ | hwrite
      · rw [cell_after_of_not_writes hguarded hspoil (by rw [hread]; rfl)]
        rwa [hguarded.seen_exec c _ hread] at hseen
      · rw [Scene.after_world, hguarded.cell_exec c _ hspoil, hwrite]
    · have hsome := h.found k e hold b hb
      cases hw : (act c).writes with
      | false => rw [cell_after_of_not_writes hguarded hspoil hw, hsome]
      | true =>
          rw [h.checked i (hwrites hw)] at hsome
          cases hsome
  · cases hw : (act c).writes with
    | false =>
        rw [Scene.made, Scene.count_after_of_false hw]
        exact h.made_le
    | true =>
        rw [Scene.made, Scene.count_after_of_true hw]
        exact Nat.succ_le_succ (Nat.le_of_eq (h.made_eq (h.checked i (hwrites hw))))
  · intro hnone
    cases hw : (act c).writes with
    | false =>
        rw [cell_after_of_not_writes hguarded hspoil hw] at hnone
        rw [Scene.made, Scene.count_after_of_false hw]
        exact h.made_eq hnone
    | true =>
        rw [Scene.after_world, hguarded.cell_exec c _ hspoil] at hnone
        cases hact : act c with
        | write b =>
            rw [hact] at hnone
            cases hnone
        | tryAcquire | release | read | rest | spoil =>
            rw [hact] at hw
            cases hw

end Greetup.Interleaving
