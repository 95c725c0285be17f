import Greetup.Interleaving.Sequence
import Greetup.Matching.Orchestrator

/-!
The location buckets of the pool and the notes that lead back to them.

A user is taken out of a bucket by way of the note that names it. The index is
sound when every bucket that holds a user is named by that user's note; then,
and only then, taking the user out of the pool takes the user out of all of it.
-/

namespace Greetup.Matching

open Greetup.Interleaving Prog Greetup.Data

/-- Every bucket that holds a user, other than the global one, is named by the
user's note. -/
def Redis.PoolIndexed (r : Redis) : Prop :=
  ∀ u key, key ≠ .poolGlobal → u ∈ r.pool key → key ∈ RawMeta.buckets (r.poolUserLocationMeta u)

theorem Redis.poolIndexed_empty : Redis.empty.PoolIndexed :=
  fun _ _ _ h => absurd h SortedSet.not_mem_empty

section Run

variable {out : Outside}

theorem LocationPoolIndexMeta.buckets_nodup (idx : LocationPoolIndexMeta) :
    idx.buckets.Nodup := by
  rcases idx with ⟨_ | cc, _ | city, _ | region⟩ <;> simp [buckets]

theorem LocationPoolIndexMeta.poolGlobal_notMem (idx : LocationPoolIndexMeta) :
    .poolGlobal ∉ idx.buckets := by
  rcases idx with ⟨_ | cc, _ | city, _ | region⟩ <;> simp [buckets]

theorem RawMeta.buckets_nodup (raw : Option RawMeta) : (RawMeta.buckets raw).Nodup := by
  rcases raw with _ | ⟨idx⟩ | _
  · exact .nil
  · exact idx.buckets_nodup
  · exact .nil

/-- The store with the given buckets changed by `f`. -/
def Redis.mapPool (r : Redis) (keys : List PoolKey) (f : SortedSet UserId → SortedSet UserId) :
    Redis :=
  { r with pool := fun key => if key ∈ keys then f (r.pool key) else r.pool key }

theorem Redis.mapPool_singleton (r : Redis) (key : PoolKey)
    (f : SortedSet UserId → SortedSet UserId) :
    { r with pool := Function.update r.pool key (f (r.pool key)) } = r.mapPool [key] f := by
  simp only [mapPool, Redis.mk.injEq, true_and, and_true]
  funext k
  by_cases hk : k = key
  · simp [hk]
  · simp [hk, Function.update_of_ne]

theorem Redis.mapPool_mapPool (r : Redis) {key : PoolKey} {keys : List PoolKey}
    (f : SortedSet UserId → SortedSet UserId) (hkey : key ∉ keys) :
    (r.mapPool [key] f).mapPool keys f = r.mapPool (key :: keys) f := by
  simp only [mapPool, Redis.mk.injEq, true_and, and_true]
  funext k
  by_cases hk : k = key
  · simp [hk, hkey]
  · simp [hk]

/-- One command per bucket changes all the buckets. -/
theorem forKeys_run {cmd : PoolKey → M Unit} {f : SortedSet UserId → SortedSet UserId}
    (hcmd : ∀ key w, (cmd key).run (exec out) w =
      ((), { w with redis := w.redis.mapPool [key] f }))
    {keys : List PoolKey} (hkeys : keys.Nodup) (w : World) :
    (forKeys cmd keys).run (exec out) w = ((), { w with redis := w.redis.mapPool keys f }) := by
  induction keys generalizing w with
  | nil => simp [forKeys, Redis.mapPool]
  | cons key keys ih =>
      rw [List.nodup_cons] at hkeys
      simp only [forKeys, run_bind, hcmd, ih hkeys.2, Redis.mapPool_mapPool _ f hkeys.1]

theorem zrem_run (u : UserId) (key : PoolKey) (w : World) :
    (issue (.zrem key u)).run (exec out) w =
      ((), { w with redis := w.redis.mapPool [key] (·.erase u) }) := by
  rw [← Redis.mapPool_singleton]
  rfl

theorem zadd_run (now : ℕ) (u : UserId) (key : PoolKey) (w : World) :
    (issue (.zadd key now u)).run (exec out) w =
      ((), { w with redis := w.redis.mapPool [key] (·.insert now u) }) := by
  rw [← Redis.mapPool_singleton]
  rfl

/-- What `stripFromPool` leaves behind. -/
def Redis.strip (r : Redis) (u : UserId) : Redis :=
  { r.mapPool (.poolGlobal :: RawMeta.buckets (r.poolUserLocationMeta u)) (·.erase u) with
    poolUserLocationMeta := Function.update r.poolUserLocationMeta u none }

theorem RawMeta.poolGlobal_notMem (raw : Option RawMeta) : .poolGlobal ∉ RawMeta.buckets raw := by
  rcases raw with _ | ⟨idx⟩ | _
  · exact List.not_mem_nil
  · exact idx.poolGlobal_notMem
  · exact List.not_mem_nil

theorem stripFromPool_run (u : UserId) (w : World) :
    (stripFromPool u).run (exec out) w = ((), { w with redis := w.redis.strip u }) := by
  have hmeta : (issue (.getPoolUserLocationMeta u)).run (exec out) w =
      (w.redis.poolUserLocationMeta u, w) := rfl
  simp only [stripFromPool, run_bind, hmeta]
  rw [zrem_run, forKeys_run (zrem_run u) (RawMeta.buckets_nodup _),
    Redis.mapPool_mapPool _ _ (RawMeta.poolGlobal_notMem _)]
  rfl

theorem Redis.mem_strip {r : Redis} {u v : UserId} {key : PoolKey} :
    v ∈ (r.strip u).pool key ↔ v ∈ r.pool key ∧
      (key ∈ .poolGlobal :: RawMeta.buckets (r.poolUserLocationMeta u) → v ≠ u) := by
  simp only [strip, mapPool]
  split_ifs with hkey <;> simp [hkey]

theorem Redis.strip_poolUserLocationMeta (r : Redis) (u : UserId) :
    (r.strip u).poolUserLocationMeta = Function.update r.poolUserLocationMeta u none := rfl

/-- A user taken out of a sound index is out of the whole pool. -/
theorem Redis.PoolIndexed.notMem_strip {r : Redis} (h : r.PoolIndexed) (u : UserId)
    (key : PoolKey) : u ∉ (r.strip u).pool key := by
  intro hmem
  obtain ⟨hpool, hnot⟩ := Redis.mem_strip.mp hmem
  refine hnot ?_ rfl
  by_cases hkey : key = .poolGlobal
  · exact hkey ▸ List.mem_cons_self
  · exact List.mem_cons_of_mem _ (h u key hkey hpool)

theorem Redis.PoolIndexed.strip {r : Redis} (h : r.PoolIndexed) (u : UserId) :
    (r.strip u).PoolIndexed := by
  intro v key hkey hmem
  have hvu : v ≠ u := by
    rintro rfl
    exact h.notMem_strip v key hmem
  rw [Redis.strip_poolUserLocationMeta, Function.update_of_ne hvu]
  exact h v key hkey (Redis.mem_strip.mp hmem).1

variable [Host]

/-- The buckets the user's snapshot names. -/
def Redis.index (r : Redis) (u : UserId) : LocationPoolIndexMeta :=
  buildLocationPoolIndexMeta ((r.snapshot u).map (parseSnapshot · u))

/-- What `enqueue` leaves behind. -/
def Redis.file (r : Redis) (u : UserId) (now : ℕ) : Redis :=
  { r.mapPool (.poolGlobal :: (r.index u).buckets) (·.insert now u) with
    poolUserLocationMeta :=
      Function.update r.poolUserLocationMeta u (some (.stringified (r.index u)))
    userState := Function.update r.userState u (some .searching) }

theorem enqueue_run (u : UserId) (w : World) :
    (enqueue u).run (exec out) w =
      ((), ⟨w.redis.file u (out.now w.asked), w.asked + 1⟩) := by
  have hnow : (issue .dateNow).run (exec out) w =
      (out.now w.asked, { w with asked := w.asked + 1 }) := rfl
  have hsnap : ∀ w : World, (getByUserId u).run (exec out) w =
      ((w.redis.snapshot u).map (parseSnapshot · u), w) := fun _ => rfl
  simp only [enqueue, run_bind]
  rw [hnow, hsnap, zadd_run, forKeys_run (zadd_run _ u) (LocationPoolIndexMeta.buckets_nodup _),
    Redis.mapPool_mapPool _ _ (LocationPoolIndexMeta.poolGlobal_notMem _)]
  rfl

theorem Redis.mem_file {r : Redis} {u v : UserId} {now : ℕ} {key : PoolKey} :
    v ∈ (r.file u now).pool key ↔
      (v = u ∧ key ∈ .poolGlobal :: (r.index u).buckets) ∨ v ∈ r.pool key := by
  simp only [file, mapPool]
  split_ifs with hkey <;> simp [hkey]

/-- Every bucket that still holds the user is one the user's snapshot names. -/
def Redis.RefiledWithin (r : Redis) (u : UserId) : Prop :=
  ∀ key, key ≠ .poolGlobal → u ∈ r.pool key → key ∈ (r.index u).buckets

/-- Filing a user keeps the index sound exactly when no older bucket of the user
is left unnamed. -/
theorem Redis.poolIndexed_file_iff {r : Redis} (h : r.PoolIndexed) (u : UserId) (now : ℕ) :
    (r.file u now).PoolIndexed ↔ r.RefiledWithin u := by
  constructor
  · intro hfile key hkey hmem
    have hnamed := hfile u key hkey (Redis.mem_file.mpr (.inr hmem))
    simpa [Redis.file, RawMeta.buckets] using hnamed
  · intro hrefile v key hkey hmem
    by_cases hvu : v = u
    · subst hvu
      have hnamed : key ∈ (r.index v).buckets := by
        rcases Redis.mem_file.mp hmem with ⟨-, hmem⟩ | hmem
        · exact (List.mem_cons.mp hmem).resolve_left hkey
        · exact hrefile key hkey hmem
      simpa [Redis.file, RawMeta.buckets] using hnamed
    · have hold : v ∈ r.pool key :=
        (Redis.mem_file.mp hmem).resolve_left fun hnew => hvu hnew.1
      simpa [Redis.file, Function.update_of_ne hvu] using h v key hkey hold

end Run

/-! ### Sequences of pool operations -/

/-- One operation on the pool, or a change of a stored snapshot in between. -/
inductive PoolCall
  | enqueue (userId : UserId)
  | stripFromPool (userId : UserId)
  | remove (userId : UserId)
  | snapshotChanged (userId : UserId) (raw : Option JsonRecord)

section Calls

variable [Host] (out : Outside)

/-- The world after the operation has run to its end. -/
def PoolCall.after (w : World) : PoolCall → World
  | .enqueue u => ((Matching.enqueue u).run (exec out) w).2
  | .stripFromPool u => ((Matching.stripFromPool u).run (exec out) w).2
  | .remove u => ((Matching.remove u).run (exec out) w).2
  | .snapshotChanged u raw =>
    { w with redis := { w.redis with snapshot := Function.update w.redis.snapshot u raw } }

/-- Whether the operation may start in this world: a user is filed only under
buckets that include all those the user is still in. -/
def PoolCall.Refiles (w : World) : PoolCall → Prop
  | .enqueue u => w.redis.RefiledWithin u
  | _ => True

omit [Host] in
theorem remove_run (u : UserId) (w : World) :
    (remove u).run (exec out) w =
      ((), { w with redis := { w.redis.strip u with
        userState := Function.update w.redis.userState u none } }) := by
  simp only [remove, run_bind, stripFromPool_run]
  rfl

theorem PoolCall.poolIndexed_after_iff {w : World} (h : w.redis.PoolIndexed) (c : PoolCall) :
    (c.after out w).redis.PoolIndexed ↔ c.Refiles w := by
  cases c with
  | enqueue u =>
      simp only [after, Refiles, enqueue_run]
      exact Redis.poolIndexed_file_iff h u _
  | stripFromPool u =>
      simp only [after, Refiles, stripFromPool_run, iff_true]
      exact h.strip u
  | remove u =>
      simp only [after, Refiles, remove_run, iff_true]
      exact h.strip u
  | snapshotChanged u raw => exact iff_of_true h trivial

/-- **Soundness of the pool index.** Throughout a sequence of pool operations
and snapshot changes the index is sound, and stripping a user leaves the user in
no bucket, exactly when nobody is filed while still in a bucket that the user's
present snapshot does not name. -/
theorem poolIndexed_always_iff {w : World} (h : w.redis.PoolIndexed) (calls : List PoolCall) :
    (Always (PoolCall.after out) (·.redis.PoolIndexed) w calls ∧
        ∀ pre u, pre ++ [.stripFromPool u] <+: calls → ∀ key,
          u ∉ ((pre ++ [.stripFromPool u]).foldl (PoolCall.after out) w).redis.pool key) ↔
      EveryStep (PoolCall.after out) PoolCall.Refiles w calls := by
  have hexact : Always (PoolCall.after out) (·.redis.PoolIndexed) w calls ↔
      EveryStep (PoolCall.after out) PoolCall.Refiles w calls :=
    always_iff_everyStep (J := (·.redis.PoolIndexed)) (fun _ hw => hw)
      (fun w c hw hc => (PoolCall.poolIndexed_after_iff out hw c).mpr hc)
      (fun w c hw hc => mt (PoolCall.poolIndexed_after_iff out hw c).mp hc) h
  refine ⟨fun hboth => hexact.mp hboth.1, fun hsteps => ⟨hexact.mpr hsteps, ?_⟩⟩
  intro pre u hpre key
  have hsound := hexact.mpr hsteps pre ((List.prefix_append _ _).trans hpre)
  simp only [List.foldl_append, List.foldl_cons, List.foldl_nil, PoolCall.after,
    stripFromPool_run]
  exact hsound.notMem_strip u key

end Calls

/-! ### A user who moves while searching -/

namespace Moving

abbrev host : Host := Host.exact .guestAndRegistered

def countrySnapshot (countryCode : String) : Option JsonRecord :=
  some [("location", .obj [("countryCode", .str countryCode)])]

def sweden : Text := ⟨"se", by decide⟩

def norway : Text := ⟨"no", by decide⟩

/-- Ann searches from Sweden, moves to Norway and searches again; then her entry
is taken out of the pool. -/
def calls : List PoolCall :=
  [.snapshotChanged Sample.ann (countrySnapshot "SE"), .enqueue Sample.ann,
    .snapshotChanged Sample.ann (countrySnapshot "NO"), .enqueue Sample.ann,
    .stripFromPool Sample.ann]

/-- She is taken out before she moves, and only then searches again. -/
def patient : List PoolCall :=
  [.snapshotChanged Sample.ann (countrySnapshot "SE"), .enqueue Sample.ann,
    .stripFromPool Sample.ann, .snapshotChanged Sample.ann (countrySnapshot "NO"),
    .enqueue Sample.ann]

theorem poolIndexed_strip_then_refile :
    (Always (@PoolCall.after host Sample.outside) (·.redis.PoolIndexed) ⟨Redis.empty, 0⟩ patient ∧
      ∀ pre u, pre ++ [PoolCall.stripFromPool u] <+: patient → ∀ key,
        u ∉ ((pre ++ [.stripFromPool u]).foldl (@PoolCall.after host Sample.outside)
          ⟨Redis.empty, 0⟩).redis.pool key) ∧
      Sample.ann ∈ ((patient.take 2).foldl (@PoolCall.after host Sample.outside)
        ⟨Redis.empty, 0⟩).redis.pool (.poolByCountry sweden) ∧
      Sample.ann ∈ (patient.foldl (@PoolCall.after host Sample.outside)
        ⟨Redis.empty, 0⟩).redis.pool (.poolByCountry norway) := by
  refine ⟨(@poolIndexed_always_iff host Sample.outside ⟨Redis.empty, 0⟩ Redis.poolIndexed_empty
    patient).mpr ?_, by decide +kernel, by decide +kernel⟩
  refine everyStep_cons.mpr ⟨trivial, everyStep_cons.mpr ⟨?first, everyStep_cons.mpr ⟨trivial,
    everyStep_cons.mpr ⟨trivial, everyStep_cons.mpr ⟨?again, everyStep_nil⟩⟩⟩⟩⟩
  case first => exact fun _ _ h => absurd h SortedSet.not_mem_empty
  case again =>
    intro key _ hmem
    have hindexed := (@PoolCall.poolIndexed_after_iff host Sample.outside
      (@PoolCall.after host Sample.outside ⟨Redis.empty, 0⟩
        (.snapshotChanged Sample.ann (countrySnapshot "SE"))) Redis.poolIndexed_empty
      (.enqueue Sample.ann)).mpr fun _ _ h => absurd h SortedSet.not_mem_empty
    simp only [PoolCall.after, stripFromPool_run] at hmem
    exact absurd hmem (hindexed.notMem_strip Sample.ann key)

/-- The Swedish bucket keeps Ann after she has been taken out. -/
theorem poolIndexed_lost :
    ¬ Always (@PoolCall.after host Sample.outside) (·.redis.PoolIndexed) ⟨Redis.empty, 0⟩ calls ∧
      Sample.ann ∈ (calls.foldl (@PoolCall.after host Sample.outside)
        ⟨Redis.empty, 0⟩).redis.pool (.poolByCountry sweden) := by
  have hmem : Sample.ann ∈ (calls.foldl (@PoolCall.after host Sample.outside)
      ⟨Redis.empty, 0⟩).redis.pool (.poolByCountry sweden) := by decide +kernel
  refine ⟨fun h => ?_, hmem⟩
  exact absurd (h calls (List.prefix_refl _) Sample.ann _ (by decide) hmem) (by decide +kernel)

end Moving

end Greetup.Matching
