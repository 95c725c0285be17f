import Greetup.Data.StableSort
import Greetup.Matching.Orchestrator

/-!
The order in which scored candidates are tried: fresh ones before known peers
and these before skipped ones, better matches first within a tier, the pool
score between equal matches, and the order of the scan between equals.
-/

namespace Greetup.Matching

open Greetup.Data

/-- 0 for a fresh candidate, 1 for a known peer, 2 for a skipped one. -/
def DeprioritizedPeerSets.tier (peerSets : DeprioritizedPeerSets) (userId : UserId) : ℕ :=
  if userId ∈ peerSets.skipped then 2 else if userId ∈ peerSets.known then 1 else 0

namespace ScoredMatchCandidate

/-- `a` scores no worse than `b`. -/
def ScoresAtLeast (a b : ScoredMatchCandidate) : Prop :=
  b.matchScore < a.matchScore ∨ a.matchScore = b.matchScore ∧ b.poolScore ≤ a.poolScore

/-- `a` belongs no later than `b` in the order of the tries. -/
def RankedBefore (peerSets : DeprioritizedPeerSets) (a b : ScoredMatchCandidate) : Prop :=
  peerSets.tier a.userId < peerSets.tier b.userId ∨
    peerSets.tier a.userId = peerSets.tier b.userId ∧ a.ScoresAtLeast b

/-- Neither tier nor score tells the two apart. -/
def Ties (peerSets : DeprioritizedPeerSets) (a b : ScoredMatchCandidate) : Prop :=
  peerSets.tier a.userId = peerSets.tier b.userId ∧ a.matchScore = b.matchScore ∧
    a.poolScore = b.poolScore

instance (peerSets : DeprioritizedPeerSets) (a b : ScoredMatchCandidate) :
    Decidable (Ties peerSets a b) :=
  inferInstanceAs (Decidable (_ ∧ _ ∧ _))

theorem before_iff (a b : ScoredMatchCandidate) : a.before b ↔ a.ScoresAtLeast b := by
  unfold before ScoresAtLeast
  split_ifs with h
  · simp only [decide_eq_true_eq, h, false_and, or_false]
    omega
  · push Not at h
    simp [h]

instance : IsTrans ScoredMatchCandidate fun a b => a.before b where
  trans a b c hab hbc := by
    rw [before_iff] at *
    unfold ScoresAtLeast at *
    omega

instance : Std.Total fun a b : ScoredMatchCandidate => a.before b where
  total a b := by
    rw [before_iff, before_iff]
    unfold ScoresAtLeast
    omega

end ScoredMatchCandidate

open ScoredMatchCandidate

/-- `ranked` is the order in which `candidates` are to be tried. -/
structure Ranks (peerSets : DeprioritizedPeerSets) (candidates ranked : List ScoredMatchCandidate) :
    Prop where
  perm : ranked.Perm candidates
  ordered : ranked.Pairwise (RankedBefore peerSets)
  stable : ∀ c, ranked.filter (Ties peerSets c) = candidates.filter (Ties peerSets c)

/-- The candidates of one tier, in the order given. -/
def inTier (peerSets : DeprioritizedPeerSets) (candidates : List ScoredMatchCandidate) (t : ℕ) :
    List ScoredMatchCandidate :=
  candidates.filter fun c => peerSets.tier c.userId = t

theorem partitionDeprioritizedCandidates_eq (candidates : List ScoredMatchCandidate)
    (peerSets : DeprioritizedPeerSets) :
    partitionDeprioritizedCandidates candidates peerSets =
      inTier peerSets candidates 0 ++ inTier peerSets candidates 1 ++
        inTier peerSets candidates 2 := by
  unfold partitionDeprioritizedCandidates inTier
  dsimp only
  rw [List.filter_filter, List.filter_filter]
  congr 1
  congr 1
  all_goals
    refine List.filter_congr fun c _ => ?_
    unfold DeprioritizedPeerSets.tier
    split_ifs <;> simp [*]

theorem tier_le (peerSets : DeprioritizedPeerSets) (userId : UserId) :
    peerSets.tier userId ≤ 2 := by
  unfold DeprioritizedPeerSets.tier
  split_ifs <;> omega

theorem partitionDeprioritizedCandidates_perm (candidates : List ScoredMatchCandidate)
    (peerSets : DeprioritizedPeerSets) :
    (partitionDeprioritizedCandidates candidates peerSets).Perm candidates := by
  have hknown := List.filter_append_perm (fun c => decide (c.userId ∉ peerSets.known))
    (candidates.filter (·.userId ∉ peerSets.skipped))
  have hskipped := List.filter_append_perm (fun c => decide (c.userId ∉ peerSets.skipped))
    candidates
  simp only [decide_not, Bool.not_not] at hknown hskipped
  unfold partitionDeprioritizedCandidates
  simp only [decide_not]
  exact (hknown.append_right _).trans hskipped

/-- A list in score order, cut into tiers, is in the order of the tries. -/
theorem partitionDeprioritizedCandidates_ordered {candidates : List ScoredMatchCandidate}
    (h : candidates.Pairwise ScoresAtLeast) (peerSets : DeprioritizedPeerSets) :
    (partitionDeprioritizedCandidates candidates peerSets).Pairwise (RankedBefore peerSets) := by
  have hwithin : ∀ t, (inTier peerSets candidates t).Pairwise (RankedBefore peerSets) := by
    intro t
    refine (h.filter _).imp_of_mem fun ha hb hab => .inr ⟨?_, hab⟩
    have ha := (List.mem_filter.mp ha).2
    have hb := (List.mem_filter.mp hb).2
    simp only [decide_eq_true_eq] at ha hb
    rw [ha, hb]
  have hacross : ∀ {t t'}, t < t' → ∀ a ∈ inTier peerSets candidates t,
      ∀ b ∈ inTier peerSets candidates t', RankedBefore peerSets a b := by
    intro t t' ht a ha b hb
    have ha := (List.mem_filter.mp ha).2
    have hb := (List.mem_filter.mp hb).2
    simp only [decide_eq_true_eq] at ha hb
    exact .inl (by omega)
  rw [partitionDeprioritizedCandidates_eq, List.pairwise_append, List.pairwise_append]
  refine ⟨⟨hwithin 0, hwithin 1, hacross (by decide)⟩, hwithin 2, fun a ha => ?_⟩
  rcases List.mem_append.mp ha with ha | ha
  · exact hacross (by decide) a ha
  · exact hacross (by decide) a ha

/-- Candidates that tie are all in one tier. -/
theorem partitionDeprioritizedCandidates_stable (candidates : List ScoredMatchCandidate)
    (peerSets : DeprioritizedPeerSets) (c : ScoredMatchCandidate) :
    (partitionDeprioritizedCandidates candidates peerSets).filter (Ties peerSets c) =
      candidates.filter (Ties peerSets c) := by
  have htier : ∀ t, (inTier peerSets candidates t).filter (Ties peerSets c) =
      if peerSets.tier c.userId = t then candidates.filter (Ties peerSets c) else [] := by
    intro t
    rw [inTier, List.filter_filter]
    split_ifs with ht
    · refine List.filter_congr fun d _ => ?_
      by_cases hd : Ties peerSets c d
      · simp [hd, ← ht, hd.1]
      · simp [hd]
    · refine List.filter_eq_nil_iff.mpr fun d _ hd => ht ?_
      simp only [Bool.and_eq_true, decide_eq_true_eq] at hd
      exact hd.1.1.trans hd.2
  rw [partitionDeprioritizedCandidates_eq, List.filter_append, List.filter_append, htier, htier,
    htier]
  have hle := tier_le peerSets c.userId
  obtain ht | ht | ht : peerSets.tier c.userId = 0 ∨ peerSets.tier c.userId = 1 ∨
    peerSets.tier c.userId = 2 := by omega
  all_goals simp [ht]

theorem rankCandidatesForPairing_ranks (candidates : List ScoredMatchCandidate)
    (peerSets : DeprioritizedPeerSets) :
    Ranks peerSets candidates (rankCandidatesForPairing candidates peerSets) where
  perm := (partitionDeprioritizedCandidates_perm _ peerSets).trans (List.perm_insertionSort _ _)
  ordered := by
    refine partitionDeprioritizedCandidates_ordered ?_ peerSets
    exact (List.pairwise_insertionSort _ candidates).imp fun h => (before_iff _ _).mp h
  stable c := by
    refine (partitionDeprioritizedCandidates_stable _ peerSets c).trans ?_
    refine filter_insertionSort (fun a b ha hb => ?_) candidates
    have ha := of_decide_eq_true ha
    have hb := of_decide_eq_true hb
    rw [before_iff]
    exact .inr ⟨ha.2.1.symm.trans hb.2.1, (hb.2.2.symm.trans ha.2.2).le⟩

end Greetup.Matching
