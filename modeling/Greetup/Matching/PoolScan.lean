import Greetup.Data.StableSort
import Greetup.Matching.Eligibility
import Greetup.Matching.PoolIndex

/-!
The pool scan read one candidate at a time.

The code reads block sets, states and snapshots of all candidates in batches and
finds each candidate's replies by their position. The scan it stands for walks a
list of pool members, asks about one after the other and stops when it has
enough. Both give the same candidates.
-/

namespace Greetup.Matching

open Greetup.Interleaving Prog Greetup.Data

/-! ### The scan -/

/-- The first `batchSize` members that pass, looked at one by one. -/
def scan {α : Type} (passes : α → Bool) : ℕ → List α → List α
  | 0, _ => []
  | _, [] => []
  | batchSize + 1, c :: rows =>
    if passes c then c :: scan passes batchSize rows else scan passes (batchSize + 1) rows

theorem scan_eq {α : Type} (passes : α → Bool) (batchSize : ℕ) (rows : List α) :
    scan passes batchSize rows = (rows.filter passes).take batchSize := by
  induction rows generalizing batchSize with
  | nil => cases batchSize <;> rfl
  | cons c rows ih =>
      cases batchSize with
      | zero => rfl
      | succ batchSize =>
          rw [scan, ih, ih]
          split_ifs with h
          · rw [List.filter_cons_of_pos h, List.take_succ_cons]
          · rw [List.filter_cons_of_neg h]

namespace Redis

variable (r : Redis)

/-- Another user, not blocked in either direction and still searching. -/
def isCandidate (requesterId userId : UserId) : Bool :=
  userId ≠ requesterId ∧ ¬ r.blocked requesterId userId ∧ r.userState userId = some .searching

/-- The members of a pool set from the newest on, at most `limit` of them. -/
def newest (key : PoolKey) (limit : ℕ) : List MatchCandidate :=
  ((r.pool key).first limit).map fun e => ⟨e.2, e.1⟩

/-- Known to be in another country than `home`. -/
def isForeign [Host] (home : Option Text) (userId : UserId) : Bool :=
  match home, (r.snapshot userId).bind peekCountryCode with
  | some home, some peerCc => peerCc ≠ home
  | _, _ => false

end Redis

/-- Where the candidates of a search come from. -/
inductive PoolSource
  | global
  | bucketThenGlobal (key : PoolKey)
  | foreignFirst (home : Option Text)

section Source

variable [Host]

/-- The source the requester's preferences name. -/
def poolSource (snapshot : SnapshotUserProfile) : PoolSource :=
  let filters := snapshot.filters
  let locEnabled :=
    match filters.get "locationPreferenceEnabled" with
    | .bool b => b
    | _ => false
  let cc := normalizeCountryCode (stringOrNone (filters.get "countryCode"))
  if !locEnabled then .global
  else
    match canonicalDistancePreference (stringOrNone (filters.get "distancePreference")) with
    | none | some .random => .global
    | some .global =>
      .foreignFirst (cc <|>
        normalizeCountryCode (stringOrNone (snapshot.attributes.get "countryCode")))
    | some .sameCity =>
      match cc, slugLocationPart (stringOrNone (filters.get "city")) with
      | some cc, some city => .bucketThenGlobal (.poolByCity cc city)
      | _, _ => .global
    | some .sameCountry =>
      match cc with
      | some cc => .bucketThenGlobal (.poolByCountry cc)
      | none => .global
    | some .sameRegion =>
      match cc, slugLocationPart (stringOrNone (filters.get "region")) with
      | some cc, some reg => .bucketThenGlobal (.poolByRegion cc reg)
      | _, _ => .global

/-- The members in the order of the scan: newest first; the bucket first and
then the global pool without repeats; or members abroad first. -/
def PoolSource.rows (r : Redis) (scanLimit sortFetch : ℕ) : PoolSource → List MatchCandidate
  | .global => r.newest .poolGlobal scanLimit
  | .bucketThenGlobal key =>
    let primary := r.newest key scanLimit
    primary ++ (r.newest .poolGlobal scanLimit).filter fun c => c.userId ∉ primary.map (·.userId)
  | .foreignFirst home =>
    let rows := r.newest .poolGlobal sortFetch
    rows.filter (fun c => r.isForeign home c.userId) ++
      rows.filter fun c => !r.isForeign home c.userId

/-- The candidates found one by one, among at most `scanLimit` members of a pool
set or `sortFetch` of the one sorted by country. -/
def PoolSource.scan (r : Redis) (requesterId : UserId) (scanLimit sortFetch batchSize : ℕ)
    (source : PoolSource) : List MatchCandidate :=
  Matching.scan (fun c => r.isCandidate requesterId c.userId) batchSize
    (source.rows r scanLimit sortFetch)

end Source

/-! ### Replies by position -/

section Replies

variable {out : Outside} {w : World}

/-- The two replies about each peer but the requester. -/
def Redis.blockReplies (r : Redis) (requesterId : UserId) (peerIds : List UserId) : List Bool :=
  (peerIds.filter (· ≠ requesterId)).flatMap fun peerId =>
    [decide (peerId ∈ r.sets (.blocksOutgoing requesterId)),
      decide (peerId ∈ r.sets (.blocksIncoming requesterId))]

theorem run_blockReplies (requesterId : UserId) (peerIds : List UserId) :
    (blockReplies requesterId peerIds).run (exec out) w =
      (w.redis.blockReplies requesterId peerIds, w) := by
  induction peerIds with
  | nil => rfl
  | cons peerId peerIds ih =>
      by_cases hpeer : peerId = requesterId
      · simp only [blockReplies, if_pos hpeer, ih, Redis.blockReplies]
        simp [hpeer]
      · simp only [blockReplies, if_neg hpeer, run_bind, run_perform, exec, ih, Redis.blockReplies]
        simp [hpeer]

/-- The replies about a peer stand at twice the number of peers before it. -/
theorem mem_blockedAt {r : Redis} {requesterId v : UserId} (before : List Bool)
    (peerIds : List UserId) :
    v ∈ blockedAt requesterId (before ++ r.blockReplies requesterId peerIds) before.length
        peerIds ↔
      v ∈ peerIds ∧ r.blocked requesterId v := by
  induction peerIds generalizing before with
  | nil => simp [blockedAt]
  | cons peerId peerIds ih =>
      by_cases hpeer : peerId = requesterId
      · subst hpeer
        have hreplies : r.blockReplies peerId (peerId :: peerIds) =
            r.blockReplies peerId peerIds := by simp [Redis.blockReplies]
        rw [blockedAt, if_pos rfl, hreplies, ih, List.mem_cons]
        constructor
        · rintro ⟨hmem, hblocked⟩
          exact ⟨.inr hmem, hblocked⟩
        · rintro ⟨rfl | hmem, hblocked⟩
          · simp [Redis.blocked] at hblocked
          · exact ⟨hmem, hblocked⟩
      · have hreplies : before ++ r.blockReplies requesterId (peerId :: peerIds) =
            (before ++ [decide (peerId ∈ r.sets (.blocksOutgoing requesterId)),
              decide (peerId ∈ r.sets (.blocksIncoming requesterId))]) ++
                r.blockReplies requesterId peerIds := by
          simp [Redis.blockReplies, hpeer]
        have hoffset : (before ++ [decide (peerId ∈ r.sets (.blocksOutgoing requesterId)),
            decide (peerId ∈ r.sets (.blocksIncoming requesterId))]).length =
              before.length + 2 := by simp
        have hblocked : r.blocked requesterId peerId ↔
            peerId ∈ r.sets (.blocksOutgoing requesterId) ∨
              peerId ∈ r.sets (.blocksIncoming requesterId) := by
          simp [Redis.blocked, Ne.symm hpeer]
        have ih := ih (before ++ [decide (peerId ∈ r.sets (.blocksOutgoing requesterId)),
          decide (peerId ∈ r.sets (.blocksIncoming requesterId))])
        rw [← hreplies, hoffset] at ih
        have hfirst : (before ++ r.blockReplies requesterId (peerId :: peerIds))[before.length]? =
            some (decide (peerId ∈ r.sets (.blocksOutgoing requesterId))) := by
          rw [hreplies]
          simp
        have hsecond : (before ++
            r.blockReplies requesterId (peerId :: peerIds))[before.length + 1]? =
              some (decide (peerId ∈ r.sets (.blocksIncoming requesterId))) := by
          rw [hreplies]
          simp
        rw [blockedAt, if_neg hpeer]
        simp only [hfirst, hsecond, Option.some.injEq, decide_eq_true_eq, ← hblocked]
        split_ifs with h
        · rw [Finset.mem_insert, ih, List.mem_cons]
          constructor
          · rintro (rfl | ⟨hmem, hv⟩)
            · exact ⟨.inl rfl, h⟩
            · exact ⟨.inr hmem, hv⟩
          · rintro ⟨rfl | hmem, hv⟩
            · exact .inl rfl
            · exact .inr ⟨hmem, hv⟩
        · rw [ih, List.mem_cons]
          constructor
          · rintro ⟨hmem, hv⟩
            exact ⟨.inr hmem, hv⟩
          · rintro ⟨rfl | hmem, hv⟩
            · exact absurd hv h
            · exact ⟨hmem, hv⟩

/-- The batched check finds the blocked peers. -/
theorem run_filterBlockedPeers (requesterId : UserId) (peerIds : List UserId) :
    ((filterBlockedPeers requesterId peerIds).run (exec out) w).2 = w ∧
      ∀ v, v ∈ ((filterBlockedPeers requesterId peerIds).run (exec out) w).1 ↔
        v ∈ peerIds ∧ w.redis.blocked requesterId v := by
  unfold filterBlockedPeers
  split_ifs with hnil
  · rw [hnil]
    simp
  · simp only [run_bind, run_blockReplies, pure_eq, run_done, true_and]
    exact fun v => mem_blockedAt [] peerIds

/-- The rows of the batched read belong to the ids in the same places. -/
theorem run_fetchSearchingStates (userIds : List UserId) :
    ((fetchSearchingStates userIds).run (exec out) w).2 = w ∧
      ∀ v, v ∈ ((fetchSearchingStates userIds).run (exec out) w).1 ↔
        v ∈ userIds ∧ w.redis.userState v = some .searching := by
  have hzip : userIds.zip (userIds.map w.redis.userState) =
      userIds.map fun u => (u, w.redis.userState u) := List.map_prod_left_eq_zip.symm
  unfold fetchSearchingStates
  split_ifs with hnil
  · rw [hnil]
    simp
  · simp only [run_bind, run_perform, exec, pure_eq, run_done, true_and, hzip]
    intro v
    simp only [List.mem_toFinset, List.mem_map, List.mem_filter, decide_eq_true_eq]
    constructor
    · rintro ⟨_, ⟨⟨u, hu, rfl⟩, hstate⟩, rfl⟩
      exact ⟨hu, hstate⟩
    · rintro ⟨hv, hstate⟩
      exact ⟨(v, _), ⟨⟨v, hv, rfl⟩, hstate⟩, rfl⟩

variable [Host]

theorem run_peekCountryCodesByUserIds (userIds : List UserId) :
    (peekCountryCodesByUserIds userIds).run (exec out) w =
      (userIds.map fun u => (w.redis.snapshot u).bind peekCountryCode, w) := by
  unfold peekCountryCodesByUserIds
  split_ifs with hnil
  · rw [hnil]
    rfl
  · simp only [run_bind, run_perform, exec, pure_eq, run_done, List.map_map, Function.comp_def]

end Replies

/-! ### The batched scan -/

section Batched

variable {out : Outside} {w : World} {requesterId : UserId}

theorem filter_isCandidate (r : Redis) (requesterId : UserId) (rows : List MatchCandidate) :
    (rows.filter (·.userId ≠ requesterId)).filter (fun c => r.isCandidate requesterId c.userId) =
      rows.filter fun c => r.isCandidate requesterId c.userId := by
  rw [List.filter_filter]
  refine List.filter_congr fun c _ => ?_
  by_cases h : c.userId = requesterId <;> simp [Redis.isCandidate, h]

/-- Of a list without the requester, the batched filter keeps what the scan does. -/
theorem run_filterCandidates (ordered : List MatchCandidate)
    (hrequester : ∀ c ∈ ordered, c.userId ≠ requesterId) (batchSize : ℕ) :
    (filterCandidates requesterId ordered batchSize).run (exec out) w =
      (scan (fun c => w.redis.isCandidate requesterId c.userId) batchSize ordered, w) := by
  rw [scan_eq]
  unfold filterCandidates
  split_ifs with hnil
  · simp [hnil]
  · simp only [run_bind, pure_eq, run_done]
    obtain ⟨hworld, hblocked⟩ := @run_filterBlockedPeers out w requesterId
      (ordered.map (·.userId))
    obtain ⟨hworld', hsearching⟩ := @run_fetchSearchingStates out w (ordered.map (·.userId))
    simp only [hworld, hworld', Prod.mk.injEq, and_true]
    congr 1
    refine List.filter_congr fun c hc => ?_
    have hmem : c.userId ∈ ordered.map (·.userId) := List.mem_map_of_mem hc
    simp [hblocked, hsearching, hmem, Redis.isCandidate, hrequester c hc]

theorem nodup_newest (r : Redis) (key : PoolKey) (limit : ℕ) :
    ((r.newest key limit).map (·.userId)).Nodup := by
  have hentries := (r.pool key).nodup
  rw [Redis.newest, List.map_map]
  exact hentries.sublist ((List.take_sublist _ _).map _)

theorem run_collectFromZset (key : PoolKey) (scanLimit batchSize : ℕ) :
    (collectFromZset requesterId key scanLimit batchSize).run (exec out) w =
      (scan (fun c => w.redis.isCandidate requesterId c.userId) batchSize
        (w.redis.newest key scanLimit), w) := by
  simp only [collectFromZset, run_bind, run_perform, exec]
  rw [run_filterCandidates _ fun c hc => by simpa using (List.mem_filter.mp hc).2, scan_eq, scan_eq,
    filter_isCandidate]
  rfl

/-! ### A bucket and then the global pool -/

theorem pushUnique_eq {seen : List UserId} {rows : List MatchCandidate}
    (hnodup : (rows.map (·.userId)).Nodup) :
    pushUnique requesterId seen rows =
      rows.filter fun c => c.userId ≠ requesterId ∧ c.userId ∉ seen := by
  induction rows generalizing seen with
  | nil => rfl
  | cons c rows ih =>
      obtain ⟨hc, hnodup⟩ := List.nodup_cons.mp hnodup
      by_cases hskip : c.userId = requesterId ∨ c.userId ∈ seen
      · rw [pushUnique, if_pos hskip, ih hnodup, List.filter_cons_of_neg]
        simpa [← not_or] using hskip
      · rw [pushUnique, if_neg hskip, ih hnodup, List.filter_cons_of_pos]
        · congr 1
          refine List.filter_congr fun d hd => ?_
          have hdc : d.userId ≠ c.userId := fun h => hc (List.mem_map.mpr ⟨d, hd, h⟩)
          simp [hdc]
        · simpa [← not_or] using hskip

/-- The primary rows, and the global ones that repeat none of them. -/
theorem pushUnique_append {seen : List UserId} {primary rows : List MatchCandidate}
    (hprimary : (primary.map (·.userId)).Nodup) (hrows : (rows.map (·.userId)).Nodup) :
    pushUnique requesterId seen (primary ++ rows) =
      (primary ++ rows.filter fun c => c.userId ∉ primary.map (·.userId)).filter fun c =>
        c.userId ≠ requesterId ∧ c.userId ∉ seen := by
  induction primary generalizing seen with
  | nil =>
      rw [List.nil_append, pushUnique_eq hrows]
      simp
  | cons c primary ih =>
      obtain ⟨hc, hprimary⟩ := List.nodup_cons.mp hprimary
      rw [List.cons_append, List.cons_append]
      by_cases hskip : c.userId = requesterId ∨ c.userId ∈ seen
      · rw [pushUnique, if_pos hskip, ih hprimary,
          List.filter_cons_of_neg (by simpa [← not_or] using hskip), List.filter_append,
          List.filter_append, List.filter_filter, List.filter_filter]
        congr 1
        refine List.filter_congr fun d _ => ?_
        by_cases hd : d.userId = c.userId
        · rcases hskip with hskip | hskip <;> simp [hd, hskip]
        · simp [hd]
      · rw [pushUnique, if_neg hskip, ih hprimary,
          List.filter_cons_of_pos (by simpa [← not_or] using hskip), List.filter_append,
          List.filter_append, List.filter_filter, List.filter_filter]
        congr 2
        · refine List.filter_congr fun d hd => ?_
          have hdc : d.userId ≠ c.userId := fun h => hc (List.mem_map.mpr ⟨d, hd, h⟩)
          simp [hdc]
        · refine List.filter_congr fun d _ => ?_
          by_cases hd : d.userId = c.userId <;> simp [hd]

theorem run_mergePrimaryThenGlobal (key : PoolKey) :
    (mergePrimaryThenGlobal requesterId (w.redis.newest key MatchConfig.poolScanLimit)).run
        (exec out) w =
      (scan (fun c => w.redis.isCandidate requesterId c.userId) MatchConfig.candidateBatchSize
        (w.redis.newest key MatchConfig.poolScanLimit ++
          (w.redis.newest .poolGlobal MatchConfig.poolScanLimit).filter fun c =>
            c.userId ∉ (w.redis.newest key MatchConfig.poolScanLimit).map (·.userId)), w) := by
  simp only [mergePrimaryThenGlobal, run_bind, run_perform, exec]
  rw [show (((w.redis.pool .poolGlobal).first MatchConfig.poolScanLimit).map fun e =>
    (⟨e.2, e.1⟩ : MatchCandidate)) = w.redis.newest .poolGlobal MatchConfig.poolScanLimit from rfl,
    pushUnique_append (nodup_newest _ _ _) (nodup_newest _ _ _)]
  have hnil : ∀ rows : List MatchCandidate,
      (rows.filter fun c => c.userId ≠ requesterId ∧ c.userId ∉ ([] : List UserId)) =
        rows.filter (·.userId ≠ requesterId) :=
    fun rows => List.filter_congr fun c _ => by simp
  rw [hnil, run_filterCandidates _ fun c hc => by simpa using (List.mem_filter.mp hc).2, scan_eq,
    scan_eq, filter_isCandidate]

/-! ### Members abroad first -/

theorem newest_pairwise (r : Redis) (key : PoolKey) (limit : ℕ) :
    (r.newest key limit).Pairwise fun a b => b.score ≤ a.score := by
  rw [Redis.newest, List.pairwise_map]
  refine ((r.pool key).ranked.sublist (List.take_sublist _ _)).imp fun h => ?_
  rcases h with h | ⟨h, -⟩
  · exact h.le
  · exact h.le

variable [Host]

theorem sortGroup_eq (r : Redis) (home : Option Text) (userId : UserId) :
    sortGroup home ((r.snapshot userId).bind peekCountryCode) =
      if r.isForeign home userId then 0 else 1 := by
  unfold sortGroup Redis.isForeign
  cases home with
  | none => simp
  | some home =>
      cases (r.snapshot userId).bind peekCountryCode with
      | none => simp
      | some peerCc => by_cases h : peerCc = home <;> simp [h]

/-- A member with its group in the foreign-first order. -/
def Redis.grouped (r : Redis) (home : Option Text) (c : MatchCandidate) : GlobalRow where
  candidate := c
  sortGroup := if r.isForeign home c.userId then 0 else 1

theorem grouped_before {r : Redis} {home : Option Text} {a b : MatchCandidate}
    (hscore : b.score ≤ a.score)
    (hgroup : (r.grouped home a).sortGroup = (r.grouped home b).sortGroup) :
    (r.grouped home a).before (r.grouped home b) := by
  rw [GlobalRow.before, if_neg (not_not.mpr hgroup)]
  exact decide_eq_true hscore

/-- Sorting newest-first members by group puts those abroad in front. -/
theorem sort_grouped (r : Redis) (home : Option Text) {pending : List MatchCandidate}
    (hpending : pending.Pairwise fun a b => b.score ≤ a.score) :
    ((pending.map (r.grouped home)).insertionSort fun a b => a.before b).map (·.candidate) =
      pending.filter (fun c => r.isForeign home c.userId) ++
        pending.filter fun c => !r.isForeign home c.userId := by
  have hgroup : ∀ c, decide ((r.grouped home c).sortGroup = 0) = r.isForeign home c.userId := by
    intro c
    by_cases h : r.isForeign home c.userId <;> simp [Redis.grouped, h]
  rw [insertionSort_eq_partition (g := fun row : GlobalRow => row.sortGroup = 0)]
  · simp only [List.map_append, List.filter_map, List.map_map, Function.comp_def, hgroup]
    rw [show (fun c => (r.grouped home c).candidate) = id from rfl, List.map_id, List.map_id]
  · intro a b ha hb
    have ha := of_decide_eq_true ha
    simp only [decide_eq_true_eq] at hb
    have hne : a.sortGroup ≠ b.sortGroup := fun h => hb (h ▸ ha)
    simp only [GlobalRow.before, if_pos hne, if_pos hne.symm, decide_eq_true_eq]
    omega
  · rw [List.pairwise_map]
    refine hpending.imp fun {a b} hscore hsame => grouped_before hscore ?_
    rw [hgroup, hgroup] at hsame
    simp only [Redis.grouped, hsame]

omit [Host] in
/-- The members nobody has blocked. -/
theorem filter_unblocked (rows : List MatchCandidate) :
    (rows.filter (·.userId ≠ requesterId)).filter (fun c => c.userId ∉
      ((filterBlockedPeers requesterId ((rows.filter (·.userId ≠ requesterId)).map
        (·.userId))).run (exec out) w).1) =
      rows.filter fun c => c.userId ≠ requesterId ∧ ¬ w.redis.blocked requesterId c.userId := by
  obtain ⟨-, hblocked⟩ := @run_filterBlockedPeers out w requesterId
    ((rows.filter (·.userId ≠ requesterId)).map (·.userId))
  generalize ((filterBlockedPeers requesterId ((rows.filter (·.userId ≠ requesterId)).map
    (·.userId))).run (exec out) w).1 = blocked at hblocked ⊢
  rw [List.filter_filter]
  refine List.filter_congr fun c hc => ?_
  by_cases hrequester : c.userId = requesterId
  · simp [hrequester]
  · have hmem : c.userId ∈ (rows.filter (·.userId ≠ requesterId)).map (·.userId) :=
      List.mem_map_of_mem (List.mem_filter.mpr ⟨hc, by simpa using hrequester⟩)
    have hiff : c.userId ∈ blocked ↔ w.redis.blocked requesterId c.userId :=
      (hblocked _).trans (and_iff_right hmem)
    simp [hiff, hrequester]

theorem map_grouped (r : Redis) (home : Option Text) (pending : List MatchCandidate) :
    (pending.zip (pending.map fun c => (r.snapshot c.userId).bind peekCountryCode)).map
        (fun (c, peerCc) => ({ candidate := c, sortGroup := sortGroup home peerCc } : GlobalRow)) =
      pending.map (r.grouped home) := by
  rw [← List.map_prod_left_eq_zip, List.map_map]
  refine List.map_congr_left fun c _ => ?_
  simp only [Function.comp_apply, sortGroup_eq, Redis.grouped]

theorem run_collectGlobalForeignFirst (snapshot : SnapshotUserProfile) :
    (collectGlobalForeignFirst requesterId snapshot).run (exec out) w =
      (scan (fun c => w.redis.isCandidate requesterId c.userId) MatchConfig.candidateBatchSize
        ((PoolSource.foreignFirst
          (normalizeCountryCode (stringOrNone (snapshot.filters.get "countryCode")) <|>
            normalizeCountryCode (stringOrNone (snapshot.attributes.get "countryCode")))).rows
          w.redis MatchConfig.poolScanLimit MatchConfig.poolGlobalSortFetch), w) := by
  generalize hhome : (normalizeCountryCode (stringOrNone (snapshot.filters.get "countryCode")) <|>
    normalizeCountryCode (stringOrNone (snapshot.attributes.get "countryCode"))) = home
  simp only [collectGlobalForeignFirst, run_bind, run_perform, exec, hhome, pure_eq, run_done,
    filter_unblocked, run_peekCountryCodesByUserIds, (run_filterBlockedPeers _ _).1,
    (run_fetchSearchingStates _).1, List.map_map, Function.comp_def]
  rw [show (((w.redis.pool .poolGlobal).first MatchConfig.poolGlobalSortFetch).map fun e =>
    (⟨e.2, e.1⟩ : MatchCandidate)) = w.redis.newest .poolGlobal MatchConfig.poolGlobalSortFetch
    from rfl]
  have hnewest := newest_pairwise w.redis .poolGlobal MatchConfig.poolGlobalSortFetch
  simp only [PoolSource.rows]
  generalize w.redis.newest .poolGlobal MatchConfig.poolGlobalSortFetch = rows at hnewest ⊢
  rw [map_grouped]
  have hsorted := sort_grouped w.redis home (hnewest.filter fun c =>
    c.userId ≠ requesterId ∧ ¬ w.redis.blocked requesterId c.userId)
  generalize ((rows.filter fun c => c.userId ≠ requesterId ∧
    ¬ w.redis.blocked requesterId c.userId).map (w.redis.grouped home)).insertionSort
      (fun a b => a.before b) = sorted at hsorted ⊢
  obtain ⟨-, hsearching⟩ := @run_fetchSearchingStates out w (sorted.map (·.candidate.userId))
  have hfilter : (sorted.map (·.candidate)).filter (fun c => c.userId ∈
      ((fetchSearchingStates (sorted.map (·.candidate.userId))).run (exec out) w).1) =
      (sorted.map (·.candidate)).filter fun c => w.redis.userState c.userId = some .searching := by
    refine List.filter_congr fun c hc => ?_
    obtain ⟨row, hrow, rfl⟩ := List.mem_map.mp hc
    have hmem : row.candidate.userId ∈ sorted.map (·.candidate.userId) :=
      List.mem_map.mpr ⟨row, hrow, rfl⟩
    rw [decide_eq_decide, hsearching, and_iff_right hmem]
  rw [hfilter, hsorted, scan_eq]
  simp only [List.filter_append, List.filter_filter, Prod.mk.injEq, and_true]
  congr 2
  · refine List.filter_congr fun c _ => ?_
    simp only [Redis.isCandidate]
    grind
  · refine List.filter_congr fun c _ => ?_
    simp only [Redis.isCandidate]
    grind

end Batched

/-! ### All branches -/

section Candidates

variable [Host]

theorem getCandidates_eq (requesterId : UserId) (snapshot : SnapshotUserProfile) :
    getCandidates requesterId snapshot =
      match poolSource snapshot with
      | .global => collectFromZset requesterId .poolGlobal MatchConfig.poolScanLimit
          MatchConfig.candidateBatchSize
      | .bucketThenGlobal key => do
          let primary ← issue (.zrevrange key MatchConfig.poolScanLimit)
          mergePrimaryThenGlobal requesterId primary
      | .foreignFirst _ => collectGlobalForeignFirst requesterId snapshot := by
  unfold getCandidates poolSource
  dsimp only
  generalize normalizeCountryCode (stringOrNone (snapshot.filters.get "countryCode")) = cc
  cases snapshot.filters.get "locationPreferenceEnabled" with
  | bool enabled =>
      cases enabled
      case false => rfl
      case true =>
        cases canonicalDistancePreference
          (stringOrNone (snapshot.filters.get "distancePreference")) with
        | none => rfl
        | some preference =>
            cases preference with
            | random => rfl
            | sameCity =>
                cases cc
                case none => rfl
                case some cc =>
                  cases slugLocationPart (stringOrNone (snapshot.filters.get "city")) <;> rfl
            | sameRegion =>
                cases cc
                case none => rfl
                case some cc =>
                  cases slugLocationPart (stringOrNone (snapshot.filters.get "region")) <;> rfl
            | sameCountry => cases cc <;> rfl
            | global => rfl
  | _ => rfl

/-- The country the foreign-first order starts from is the requester's. -/
theorem poolSource_foreignFirst {snapshot : SnapshotUserProfile} {home : Option Text}
    (h : poolSource snapshot = .foreignFirst home) :
    home = (normalizeCountryCode (stringOrNone (snapshot.filters.get "countryCode")) <|>
      normalizeCountryCode (stringOrNone (snapshot.attributes.get "countryCode"))) := by
  unfold poolSource at h
  dsimp only at h
  split_ifs at h
  split at h
  all_goals first
    | exact (PoolSource.foreignFirst.inj h).symm
    | cases h
    | (split at h <;> cases h)

variable {out : Outside} {w : World} {requesterId : UserId}

theorem run_getCandidates (snapshot : SnapshotUserProfile) :
    (getCandidates requesterId snapshot).run (exec out) w =
      ((poolSource snapshot).scan w.redis requesterId MatchConfig.poolScanLimit
        MatchConfig.poolGlobalSortFetch MatchConfig.candidateBatchSize, w) := by
  rw [getCandidates_eq]
  cases hsource : poolSource snapshot with
  | global => exact run_collectFromZset _ _ _
  | bucketThenGlobal key => exact run_mergePrimaryThenGlobal key
  | foreignFirst home =>
      obtain rfl := poolSource_foreignFirst hsource
      exact run_collectGlobalForeignFirst snapshot

omit [Host] in
theorem nodup_ids_append {rows rows' : List MatchCandidate}
    (h : (rows.map (·.userId)).Nodup) (h' : (rows'.map (·.userId)).Nodup) :
    ((rows ++ rows'.filter fun c => c.userId ∉ rows.map (·.userId)).map (·.userId)).Nodup := by
  rw [List.map_append, List.nodup_append]
  refine ⟨h, h'.sublist (List.filter_sublist.map _), fun u hu v hv huv => ?_⟩
  subst huv
  obtain ⟨c, hc, rfl⟩ := List.mem_map.mp hv
  exact of_decide_eq_true (List.mem_filter.mp hc).2 hu

theorem PoolSource.nodup_rows (r : Redis) (scanLimit sortFetch : ℕ) (source : PoolSource) :
    ((source.rows r scanLimit sortFetch).map (·.userId)).Nodup := by
  cases source with
  | global => exact nodup_newest _ _ _
  | bucketThenGlobal key => exact nodup_ids_append (nodup_newest _ _ _) (nodup_newest _ _ _)
  | foreignFirst home =>
      have hperm := (List.filter_append_perm (fun c => r.isForeign home c.userId)
        (r.newest .poolGlobal sortFetch)).map (·.userId)
      exact hperm.nodup_iff.mpr (nodup_newest _ _ _)

theorem PoolSource.nodup_scan (r : Redis) (requesterId : UserId)
    (scanLimit sortFetch batchSize : ℕ) (source : PoolSource) :
    ((source.scan r requesterId scanLimit sortFetch batchSize).map (·.userId)).Nodup := by
  rw [PoolSource.scan, scan_eq]
  refine (source.nodup_rows r scanLimit sortFetch).sublist (List.Sublist.map _ ?_)
  exact (List.take_sublist _ _).trans List.filter_sublist

/-- **The batched pool scan.** Whatever the store holds, `getCandidates` finds
what the scan of the same members one by one finds, each candidate once. -/
theorem getCandidates_eq_scan (out : Outside) (w : World) (requesterId : UserId)
    (snapshot : SnapshotUserProfile) :
    (getCandidates requesterId snapshot).run (exec out) w =
        ((poolSource snapshot).scan w.redis requesterId MatchConfig.poolScanLimit
          MatchConfig.poolGlobalSortFetch MatchConfig.candidateBatchSize, w) ∧
      (((getCandidates requesterId snapshot).run (exec out) w).1.map (·.userId)).Nodup := by
  rw [run_getCandidates]
  exact ⟨rfl, PoolSource.nodup_scan _ _ _ _ _ _⟩

end Candidates

/-! ### A pool beyond the limit -/

namespace Crowd

/-- The `n`th member to have joined last. -/
def member (n : ℕ) : UserId :=
  ⟨String.ofList (List.replicate (n + 1) 'm'), by simp [String.ofList_eq_empty_iff]⟩

theorem member_injective : Function.Injective member := by
  intro n m h
  have hlist := congrArg (fun u : UserId => u.1.toList.length) h
  simpa [member] using hlist

/-- A hundred and one members, newest first. -/
def crowd : SortedSet UserId where
  entries := (List.range 101).map fun n => (101 - n, member n)
  ranked := by
    rw [List.pairwise_map]
    refine List.pairwise_lt_range.imp_of_mem fun {a b} ha hb hab => .inl ?_
    have hb := List.mem_range.mp hb
    dsimp only
    omega
  nodup := by
    rw [List.map_map]
    exact List.nodup_range.map member_injective

/-- Only the member who joined first still searches. -/
def world : World where
  redis := { Redis.empty with
    pool := fun key => if key = .poolGlobal then crowd else .empty
    userState := fun u => if u = member 100 then some .searching else none }
  asked := 0

def requester : SnapshotUserProfile := ⟨Sample.ann, [], []⟩

theorem crowd_newest (limit : ℕ) :
    world.redis.newest .poolGlobal limit =
      ((List.range 101).take limit).map fun n => ⟨member n, 101 - n⟩ := by
  rw [Redis.newest, SortedSet.first, show (world.redis.pool .poolGlobal).entries =
    (List.range 101).map fun n => (101 - n, member n) from rfl, ← List.map_take, List.map_map]
  rfl

theorem isCandidate_iff (n : ℕ) :
    world.redis.isCandidate requester.userId (member n) ↔ n = 100 := by
  have hann : member n ≠ requester.userId := by
    intro h
    have hchar := congrArg (fun u : UserId => u.1.toList.head?) h
    simp [member, requester, Sample.ann, List.replicate_succ] at hchar
  have hstate : world.redis.userState (member n) = some .searching ↔ n = 100 := by
    rw [show world.redis.userState (member n) =
      if member n = member 100 then some .searching else none from rfl]
    split_ifs with h
    · exact iff_of_true rfl (member_injective h)
    · exact iff_of_false (by simp) fun hn => h (congrArg member hn)
  have hfree : ¬ world.redis.blocked requester.userId (member n) := by
    simp [Redis.blocked, world, Redis.empty]
  simp only [Redis.isCandidate, decide_eq_true_eq]
  exact ⟨fun h => hstate.mp h.2.2, fun h => ⟨hann, hfree, hstate.mpr h⟩⟩

theorem source_requester : @poolSource Sample.host requester = .global := rfl

/-- A scan of the whole pool finds the one who searches; `getCandidates` has
stopped looking a member earlier. -/
theorem not_getCandidates_wholePool :
    ((@getCandidates Sample.host requester.userId requester).run (exec Sample.outside) world).1 ≠
      (@PoolSource.scan Sample.host world.redis requester.userId crowd.entries.length
        crowd.entries.length MatchConfig.candidateBatchSize
        (@poolSource Sample.host requester)) := by
  have hlength : crowd.entries.length = 101 := by simp [crowd]
  rw [@run_getCandidates Sample.host, source_requester, hlength]
  simp only [PoolSource.scan, PoolSource.rows, scan_eq, crowd_newest]
  intro h
  have hlast : (⟨member 100, 1⟩ : MatchCandidate) ∈ ((((List.range 101).take 101).map fun n =>
      (⟨member n, 101 - n⟩ : MatchCandidate)).filter fun c =>
        world.redis.isCandidate requester.userId c.userId).take MatchConfig.candidateBatchSize := by
    have hpass : ∀ n, world.redis.isCandidate requester.userId (member n) = decide (n = 100) :=
      fun n => by rw [Bool.eq_iff_iff, isCandidate_iff, decide_eq_true_eq]
    have honly : ((List.range 101).take 101).filter (fun n => decide (n = 100)) = [100] := by
      decide
    simp only [List.filter_map, Function.comp_def, hpass, honly]
    exact List.mem_singleton_self _
  rw [← h] at hlast
  obtain ⟨hmem, hpass⟩ := List.mem_filter.mp (List.mem_of_mem_take hlast)
  obtain ⟨n, hn, hrow⟩ := List.mem_map.mp hmem
  obtain rfl : n = 100 := member_injective (congrArg MatchCandidate.userId hrow)
  simp [MatchConfig.poolScanLimit] at hn

end Crowd

end Greetup.Matching
