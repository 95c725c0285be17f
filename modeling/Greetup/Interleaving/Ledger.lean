import Greetup.Interleaving.Schedule

/-!
The ledger of a run: of the trace, only the marks that an argument is about.

A marking says which commands leave a mark, and which one. The ledger is the
list of the marks with their callers, newest first. A caller that is proved
safe knows its own part of the ledger exactly; about the rest it knows what was
there when it looked, and what a permission says of the time since then.
-/

namespace Greetup.Interleaving

variable {ι C : Type} {R : C → Type} {W M : Type} (mark : ι → (c : C) → R c → Option M)

def Scene.ledger (s : Scene ι C R W) : List (ι × M) :=
  s.trace.filterMap fun e => (mark e.tid e.cmd e.reply).map (e.tid, ·)

/-- The marks of one caller. -/
def Scene.own [DecidableEq ι] (i : ι) (s : Scene ι C R W) : List M :=
  (s.ledger mark).filterMap fun x => if x.1 = i then some x.2 else none

/-- The part of a ledger that is newer than every entry `x`. -/
def newerThan [DecidableEq ι] [DecidableEq M] (x : ι × M) (l : List (ι × M)) : List (ι × M) :=
  l.takeWhile (· ≠ x)

/-- The part of a ledger from the newest entry `x` on. -/
def upTo [DecidableEq ι] [DecidableEq M] (x : ι × M) (l : List (ι × M)) : List (ι × M) :=
  l.dropWhile (· ≠ x)

/-- Two entries of a list whose entries are pairwise related, each newer one to
the older ones, are the same or related. -/
theorem eq_or_of_pairwise {α : Type} {r : α → α → Prop} {l : List α} (h : l.Pairwise r) {a b : α}
    (ha : a ∈ l) (hb : b ∈ l) : a = b ∨ r a b ∨ r b a := by
  induction h with
  | nil => cases ha
  | cons hhead htail ih =>
      rcases List.mem_cons.mp ha with rfl | ha'
      · rcases List.mem_cons.mp hb with rfl | hb'
        · exact .inl rfl
        · exact .inr (.inl (hhead b hb'))
      · rcases List.mem_cons.mp hb with rfl | hb'
        · exact .inr (.inr (hhead a ha'))
        · exact ih ha' hb'

/-- What no entry shares with an older one occurs at most once. -/
theorem countP_le_one_of_pairwise {α : Type} {r : α → α → Prop} {p : α → Bool} {l : List α}
    (h : l.Pairwise r) (hp : ∀ a b, p a → p b → ¬ r a b) : l.countP p ≤ 1 := by
  induction h with
  | nil => exact Nat.zero_le 1
  | cons hhead htail ih =>
      rename_i a l
      cases ha : p a with
      | false =>
          rw [List.countP_cons_of_neg (by simp [ha])]
          exact ih
      | true =>
          have hzero : l.countP p = 0 :=
            List.countP_eq_zero.mpr fun b hb hpb => hp a b ha hpb (hhead b hb)
          rw [List.countP_cons_of_pos ha]
          omega

section Ledger

variable {mark} {s s' s'' : Scene ι C R W} {i j : ι} {c : C} {m : M} {x y : ι × M}
  {exec : (c : C) → W → R c × W}

theorem Scene.ledger_after_of_mark (h : mark i c (exec c s.world).1 = some m) :
    (s.after exec i c).ledger mark = (i, m) :: s.ledger mark := by
  rw [ledger, after_trace, List.filterMap_cons]
  simp only [h, Option.map_some, ledger]

theorem Scene.ledger_after_of_none (h : mark i c (exec c s.world).1 = none) :
    (s.after exec i c).ledger mark = s.ledger mark := by
  rw [ledger, after_trace, List.filterMap_cons]
  simp only [h, Option.map_none, ledger]

variable [DecidableEq ι]

theorem Scene.mem_own : m ∈ s.own mark i ↔ (i, m) ∈ s.ledger mark := by
  rw [own, List.mem_filterMap]
  constructor
  · rintro ⟨⟨j, m'⟩, hx, hm⟩
    split at hm
    · rename_i hij
      cases hij
      cases hm
      exact hx
    · cases hm
  · intro h
    exact ⟨(i, m), h, if_pos rfl⟩

theorem Scene.own_after_of_mark (h : mark i c (exec c s.world).1 = some m) :
    (s.after exec i c).own mark i = m :: s.own mark i := by
  rw [own, ledger_after_of_mark h, List.filterMap_cons]
  simp only [if_true, own]

variable {key : C → Prop} (hkey : ∀ i c r, ¬ key c → mark i c r = none)

include hkey

omit [DecidableEq ι] in
/-- In the meantime others may have left marks. -/
theorem Scene.Since.ledger (h : Scene.Since key i s s') :
    ∃ l, s'.ledger mark = l ++ s.ledger mark ∧ ∀ x ∈ l, x.1 ≠ i := by
  obtain ⟨l, hl, hown⟩ := h
  refine ⟨l.filterMap fun e => (mark e.tid e.cmd e.reply).map (e.tid, ·), ?_, ?_⟩
  · rw [Scene.ledger, hl, List.filterMap_append]
    rfl
  · intro x hx
    obtain ⟨e, he, hmark⟩ := List.mem_filterMap.mp hx
    obtain ⟨m, hm, rfl⟩ := Option.map_eq_some_iff.mp hmark
    intro htid
    rw [hkey _ _ _ (hown e he htid)] at hm
    cases hm

theorem Scene.Since.own (h : Scene.Since key i s s') : s'.own mark i = s.own mark i := by
  obtain ⟨l, hl, hown⟩ := h.ledger hkey
  rw [Scene.own, hl, List.filterMap_append]
  have hnil : (l.filterMap fun x => if x.1 = i then some x.2 else none) = [] :=
    List.filterMap_eq_nil_iff.mpr fun x hx => if_neg (hown x hx)
  rw [hnil]
  rfl

omit hkey [DecidableEq ι]

/-- The scene `s'` is a later one than `s`, and the entry `x` has not been made
in between. -/
def Scene.Without (mark : ι → (c : C) → R c → Option M) (x : ι × M) (s s' : Scene ι C R W) :
    Prop :=
  ∃ l, s'.ledger mark = l ++ s.ledger mark ∧ x ∉ l

theorem Scene.Without.refl : Scene.Without mark x s s := ⟨[], rfl, List.not_mem_nil⟩

theorem Scene.Without.trans (h : Scene.Without mark x s s') (h' : Scene.Without mark x s' s'') :
    Scene.Without mark x s s'' := by
  obtain ⟨l, hl, hx⟩ := h
  obtain ⟨l', hl', hx'⟩ := h'
  refine ⟨l' ++ l, by rw [hl', hl, List.append_assoc], ?_⟩
  rw [List.mem_append]
  exact not_or.mpr ⟨hx', hx⟩

include hkey in
theorem Scene.Since.without (h : Scene.Since key i s s') : Scene.Without mark (i, m) s s' := by
  obtain ⟨l, hl, hown⟩ := h.ledger hkey
  exact ⟨l, hl, fun hmem => hown _ hmem rfl⟩

theorem Scene.Without.after (h : mark i c (exec c s.world).1 = some m) (hne : (i, m) ≠ x) :
    Scene.Without mark x s (s.after exec i c) := by
  refine ⟨[(i, m)], Scene.ledger_after_of_mark h, ?_⟩
  rw [List.mem_singleton]
  exact hne.symm

/-- What was in the ledger stays there. -/
theorem Scene.Without.mem (h : Scene.Without mark x s s') (hy : y ∈ s.ledger mark) :
    y ∈ s'.ledger mark := by
  obtain ⟨l, hl, -⟩ := h
  rw [hl]
  exact List.mem_append_right l hy

variable [DecidableEq ι] [DecidableEq M]

/-- An entry is newer than `x`, or it was there before. -/
theorem Scene.Without.mem_newerThan (h : Scene.Without mark x s s') (hy : y ∈ s'.ledger mark) :
    y ∈ newerThan x (s'.ledger mark) ∨ y ∈ s.ledger mark := by
  obtain ⟨l, hl, hx⟩ := h
  rw [hl] at hy ⊢
  rcases List.mem_append.mp hy with hy | hy
  · refine .inl ?_
    have hpos : ∀ z ∈ l, decide (z ≠ x) = true :=
      fun z hz => decide_eq_true fun heq => hx (heq ▸ hz)
    rw [newerThan, List.takeWhile_append_of_pos hpos]
    exact List.mem_append_left _ hy
  · exact .inr hy

/-- From the newest `x` on, the ledger is as it was when `x` was made. -/
theorem Scene.Without.upTo (h : Scene.Without mark x s s') {l : List (ι × M)}
    (hs : s.ledger mark = x :: l) : upTo x (s'.ledger mark) = x :: l := by
  obtain ⟨l', hl', hx⟩ := h
  have hpos : ∀ z ∈ l', decide (z ≠ x) = true :=
    fun z hz => decide_eq_true fun heq => hx (heq ▸ hz)
  rw [hl', hs, Interleaving.upTo, List.dropWhile_append_of_pos hpos,
    List.dropWhile_cons_of_neg (by simp)]

end Ledger

end Greetup.Interleaving
