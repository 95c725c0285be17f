import Greetup.Interleaving.Licence

/-!
What a caller has read, and whether others have changed it since.

A handler that reads a part of the store and writes by what it has read is right
as long as no other caller changes that part in between. A datum is such a part:
which replies tell it, how a caller that knows it knows it after a command of its
own, and which commands of others may change it. What a caller takes the datum
for can be read off its history, and whether it was overtaken off the trace; a
caller that was not overtaken is right. That needs nothing of the programs, so it
holds in every run.
-/

namespace Greetup.Interleaving

variable {ι C : Type} {R : C → Type} {W β : Type} {exec : (c : C) → W → R c × W}

/-- A part of the store that callers read. -/
structure Datum (exec : (c : C) → W → R c × W) (β : Type) where
  value : W → β
  /-- the value, as far as the reply tells it -/
  tells : Told C R → Option β
  /-- what a caller takes it for after a command of its own -/
  moves : Told C R → β → Option β
  /-- the commands that may change it -/
  changes : Told C R → Bool
  tells_exec : ∀ c w, ∀ v ∈ tells ⟨c, (exec c w).1⟩, value (exec c w).2 = v
  moves_exec : ∀ c w, ∀ v ∈ moves ⟨c, (exec c w).1⟩ (value w), value (exec c w).2 = v
  value_exec : ∀ c w, changes ⟨c, (exec c w).1⟩ = false → value (exec c w).2 = value w

namespace Datum

/-- A datum of which a caller that changes it knows no more than what the reply
tells. -/
def ofReads (value : W → β) (tells : Told C R → Option β) (changes : Told C R → Bool)
    (tells_exec : ∀ c w, ∀ v ∈ tells ⟨c, (exec c w).1⟩, value (exec c w).2 = v)
    (value_exec : ∀ c w, changes ⟨c, (exec c w).1⟩ = false → value (exec c w).2 = value w) :
    Datum exec β where
  value := value
  tells := tells
  moves e v := if changes e then none else some v
  changes := changes
  tells_exec := tells_exec
  moves_exec c w v hv := by
    split at hv
    · cases hv
    · rename_i hsame
      cases hv
      exact value_exec c w (eq_false_of_ne_true hsame)
  value_exec := value_exec

variable (d : Datum exec β)

/-- What a caller takes the datum for, by its history, newest first. -/
def believed : List (Told C R) → Option β
  | [] => none
  | e :: h => (d.tells e).or ((believed h).bind (d.moves e))

theorem believed_cons_of_tells {e : Told C R} {h : List (Told C R)} {v : β}
    (htells : d.tells e = some v) : d.believed (e :: h) = some v := by
  rw [believed, htells, Option.some_or]

theorem believed_cons_of_moves {e : Told C R} {h : List (Told C R)} {v v' : β}
    (htells : d.tells e = none) (hv : d.believed h = some v) (hmoves : d.moves e v = some v') :
    d.believed (e :: h) = some v' := by
  rw [believed, htells, Option.none_or, hv, Option.bind_some, hmoves]

section Trace

variable [DecidableEq ι] (i : ι)

/-- What has happened since the caller was last told the datum. -/
def since (trace : List (Event ι C R)) : List (Event ι C R) :=
  trace.takeWhile fun e => !(decide (e.tid = i) && (d.tells ⟨e.cmd, e.reply⟩).isSome)

/-- Another caller has changed the datum since. -/
def Overtaken (trace : List (Event ι C R)) : Prop :=
  ∃ e ∈ d.since i trace, e.tid ≠ i ∧ d.changes ⟨e.cmd, e.reply⟩ = true

instance (trace : List (Event ι C R)) : Decidable (d.Overtaken i trace) :=
  inferInstanceAs (Decidable (∃ _ ∈ _, _))

variable {i} {e : Event ι C R} {trace : List (Event ι C R)}

theorem since_cons_of_tells (htid : e.tid = i) (htells : (d.tells ⟨e.cmd, e.reply⟩).isSome) :
    d.since i (e :: trace) = [] := by
  rw [since, List.takeWhile_cons_of_neg]
  simp [htid, htells]

theorem since_cons (h : e.tid = i → d.tells ⟨e.cmd, e.reply⟩ = none) :
    d.since i (e :: trace) = e :: d.since i trace := by
  rw [since, List.takeWhile_cons_of_pos]
  · rfl
  · by_cases htid : e.tid = i
    · simp [h htid]
    · simp [htid]

/-- Once overtaken, a caller stays so until it is told again. -/
theorem Overtaken.cons (h : d.Overtaken i trace)
    (he : e.tid = i → d.tells ⟨e.cmd, e.reply⟩ = none) : d.Overtaken i (e :: trace) := by
  obtain ⟨e', he', hother⟩ := h
  refine ⟨e', ?_, hother⟩
  rw [d.since_cons he]
  exact List.mem_cons_of_mem _ he'

/-- Whoever has just been told is not overtaken. -/
theorem not_overtaken_of_tells (htid : e.tid = i) (htells : (d.tells ⟨e.cmd, e.reply⟩).isSome) :
    ¬ d.Overtaken i (e :: trace) := by
  rintro ⟨e', he', -⟩
  rw [d.since_cons_of_tells htid htells] at he'
  cases he'

/-- Nobody is overtaken by itself. -/
theorem not_overtaken_cons (h : ¬ d.Overtaken i trace) (htid : e.tid = i) :
    ¬ d.Overtaken i (e :: trace) := by
  by_cases htells : (d.tells ⟨e.cmd, e.reply⟩).isSome
  · exact d.not_overtaken_of_tells htid htells
  · rintro ⟨e', he', hne, hchanges⟩
    rw [d.since_cons fun _ => Option.not_isSome_iff_eq_none.mp htells] at he'
    rcases List.mem_cons.mp he' with rfl | he'
    · exact hne htid
    · exact h ⟨e', he', hne, hchanges⟩

/-- Whoever has not been overtaken is right. -/
def Sound (s : Scene ι C R W) : Prop :=
  ∀ i v, d.believed (s.told i) = some v → ¬ d.Overtaken i s.trace → d.value s.world = v

theorem sound_start (w : W) : d.Sound (⟨w, []⟩ : Scene ι C R W) := by
  intro i v hv
  cases hv

variable {d} {s : Scene ι C R W} {c : C}

/-- **One step** of any caller. -/
theorem Sound.after (h : d.Sound s) (j : ι) (c : C) : d.Sound (s.after exec j c) := by
  intro i v hv hnot
  rw [Scene.after_world]
  by_cases hij : j = i
  · subst hij
    rw [Scene.told_after_self, believed] at hv
    cases htells : d.tells ⟨c, (exec c s.world).1⟩ with
    | some v' =>
        rw [htells] at hv
        cases hv
        exact d.tells_exec c s.world v htells
    | none =>
        rw [htells, Option.none_or, Option.bind_eq_some_iff] at hv
        obtain ⟨v', hv', hmoves⟩ := hv
        have hbefore : ¬ d.Overtaken j s.trace := fun hover => hnot (hover.cons d fun _ => htells)
        rw [← h j v' hv' hbefore] at hmoves
        exact d.moves_exec c s.world v hmoves
  · rw [Scene.told_after_of_ne exec hij] at hv
    have hbefore : ¬ d.Overtaken i s.trace := fun hover => hnot (hover.cons d fun heq =>
      absurd heq hij)
    have hsame : d.changes ⟨c, (exec c s.world).1⟩ = false := by
      refine eq_false_of_ne_true fun hchanges => hnot ⟨⟨j, c, (exec c s.world).1⟩, ?_⟩
      rw [Scene.after_trace, d.since_cons fun heq => absurd heq hij]
      exact ⟨List.mem_cons_self, hij, hchanges⟩
    rw [d.value_exec c s.world hsame, h i v hv hbefore]

end Trace

end Datum

end Greetup.Interleaving
