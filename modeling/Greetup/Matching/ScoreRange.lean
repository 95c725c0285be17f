import Greetup.Matching.Scoring
import Greetup.Matching.Snapshot
import Greetup.Data.WeightedMean
import Mathlib.Data.List.Perm.Subperm
import Mathlib.Data.Rat.Floor
import Mathlib.Tactic.Linarith
import Mathlib.Tactic.NormNum

/-!
The scale of the match score under exact arithmetic. Every component lies
between zero and one, whatever the two profiles hold, except the activity
overlap: it counts every row of the requester that the candidate shares, and
divides by the activities of both, each counted once. A requester whose rows
repeat an activity can be scored above one hundred.
-/

namespace Greetup.Matching

/-- Exact arithmetic, with the case mapping of the engine left open. -/
@[reducible] def Host.rational (toLowerCase : String → String)
    (policy : GuestMatchPoolPolicy) : Host :=
  { Host.exact policy with toLowerCase := toLowerCase }

/-! ### Activity rows -/

section Rows

variable [Host]

def activityRows (snapshot : SnapshotUserProfile) : List SessionActivityRow :=
  toSessionActivities (snapshot.attributes.get "sessionActivities")

/-- The requester's rows of activities the candidate has too. -/
def sharedRows (requester candidate : SnapshotUserProfile) : List SessionActivityRow :=
  (activityRows requester).filter fun row =>
    row.activityId ∈ (activityRows candidate).map (·.activityId)

/-- The activities of the two, each once. -/
def namedActivities (requester candidate : SnapshotUserProfile) : List String :=
  ((activityRows requester).map (·.activityId) ++
    (activityRows candidate).map (·.activityId)).dedup

/-- The requester's shared rows are no more than the activities of the two. -/
def RowsWithinActivities (requester candidate : SnapshotUserProfile) : Prop :=
  (sharedRows requester candidate).length ≤ (namedActivities requester candidate).length

instance (requester candidate : SnapshotUserProfile) :
    Decidable (RowsWithinActivities requester candidate) :=
  inferInstanceAs (Decidable (_ ≤ _))

omit [Host] in
theorem candidateById_isSome (rows : List SessionActivityRow) (activityId : String) :
    (candidateById rows activityId).isSome ↔ activityId ∈ rows.map (·.activityId) := by
  simp only [candidateById, List.find?_isSome, List.mem_reverse, decide_eq_true_eq, List.mem_map]

/-- Rows that repeat no activity are few enough. -/
theorem rowsWithinActivities_of_nodup {requester : SnapshotUserProfile}
    (h : ((activityRows requester).map (·.activityId)).Nodup) (candidate : SnapshotUserProfile) :
    RowsWithinActivities requester candidate := by
  have hsub : ((sharedRows requester candidate).map (·.activityId)).Sublist
      ((activityRows requester).map (·.activityId)) := List.filter_sublist.map _
  have hnamed : (sharedRows requester candidate).map (·.activityId) ⊆
      namedActivities requester candidate := by
    intro activityId hmem
    exact List.mem_dedup.mpr (List.mem_append_left _ (hsub.subset hmem))
  simpa [RowsWithinActivities] using ((h.sublist hsub).subperm hnamed).length_le

theorem sharedRows_eq_nil {requester candidate : SnapshotUserProfile}
    (h : activityRows requester = [] ∨ activityRows candidate = []) :
    sharedRows requester candidate = [] := by
  rcases h with h | h <;> simp [sharedRows, h]

theorem namedActivities_length_pos {requester : SnapshotUserProfile}
    (h : activityRows requester ≠ []) (candidate : SnapshotUserProfile) :
    0 < (namedActivities requester candidate).length := by
  obtain ⟨row, hrow⟩ := List.exists_mem_of_ne_nil _ h
  exact List.length_pos_of_mem (List.mem_dedup.mpr
    (List.mem_append_left _ (List.mem_map_of_mem hrow)))

theorem sharedRows_length (requester candidate : SnapshotUserProfile) :
    ((activityRows requester).filterMap fun left =>
      (candidateById (activityRows candidate) left.activityId).map fun right =>
        (left, right)).length = (sharedRows requester candidate).length := by
  rw [List.length_filterMap_eq_countP, sharedRows, ← List.countP_eq_length_filter]
  refine List.countP_congr fun row _ => ?_
  rw [Option.isSome_map, candidateById_isSome, decide_eq_true_eq]

theorem overlap_of_nil {requester candidate : SnapshotUserProfile}
    (h : activityRows requester = [] ∨ activityRows candidate = []) :
    (sessionActivityOverlapScore requester candidate).overlap = Host.ofNat 0 := by
  unfold sessionActivityOverlapScore
  rw [← activityRows, ← activityRows, if_pos h]

/-- The overlap counts rows above and activities below. -/
theorem overlap_eq {requester candidate : SnapshotUserProfile}
    (hreq : activityRows requester ≠ []) (hcand : activityRows candidate ≠ []) :
    (sessionActivityOverlapScore requester candidate).overlap =
      Host.ofNat (sharedRows requester candidate).length /
        Host.ofNat (namedActivities requester candidate).length := by
  have hne : ¬ (activityRows requester = [] ∨ activityRows candidate = []) := by
    simp [hreq, hcand]
  have hnamed : (namedActivities requester candidate).length ≠ 0 :=
    (namedActivities_length_pos hreq candidate).ne'
  unfold sessionActivityOverlapScore
  rw [← activityRows, ← activityRows, if_neg hne]
  dsimp only
  rw [← namedActivities, if_neg hnamed, sharedRows_length]

end Rows

/-! ### The components -/

section Components

variable {lower : String → String} {policy : GuestMatchPoolPolicy}

theorem ofRat_mem {q : ℚ} (h0 : 0 ≤ q) (h1 : q ≤ 1) :
    @Host.ofRat (Host.rational lower policy) q ∈ UnitScale ℚ := ⟨h0, h1⟩

theorem ofNat_zero_mem : @Host.ofNat (Host.rational lower policy) 0 ∈ UnitScale ℚ :=
  ofRat_mem (by norm_num) (by norm_num)

theorem ofNat_one_mem : @Host.ofNat (Host.rational lower policy) 1 ∈ UnitScale ℚ :=
  ofRat_mem (by norm_num) (by norm_num)

theorem ratio_mem {m n : ℕ} (h : m ≤ n) :
    letI := Host.rational lower policy
    (Host.ofNat m / Host.ofNat n : Host.Number) ∈ UnitScale ℚ :=
  div_mem_unitScale (K := ℚ) h

theorem rational_min (x y : ℚ) : @Host.min (Host.rational lower policy) x y = min x y := by
  by_cases h : x ≤ y
  · exact (if_pos (decide_eq_true h)).trans (min_eq_left h).symm
  · exact (if_neg fun hle => h (of_decide_eq_true hle)).trans (min_eq_right (le_of_not_ge h)).symm

theorem rational_max (x y : ℚ) : @Host.max (Host.rational lower policy) x y = max x y := by
  by_cases h : x ≤ y
  · exact (if_pos (decide_eq_true h)).trans (max_eq_right h).symm
  · exact (if_neg fun hle => h (of_decide_eq_true hle)).trans (max_eq_left (le_of_not_ge h)).symm

theorem overlapRatio_mem (left right : List String) :
    @overlapRatio (Host.rational lower policy) left right ∈ UnitScale ℚ := by
  unfold overlapRatio
  split
  · exact ofNat_zero_mem
  · dsimp only
    split
    · exact ofNat_zero_mem
    · refine ratio_mem (List.Subperm.length_le (List.Nodup.subperm ?_ ?_))
      · exact (List.nodup_dedup _).filter _
      · intro item hitem
        exact List.mem_dedup.mpr (List.mem_append_left _ (List.mem_of_mem_filter hitem))

/-- The score fades with the distance from the range, down to zero. -/
theorem fade_mem {distance : ℚ} (h : 0 ≤ distance) :
    letI := Host.rational lower policy
    Host.max (Host.ofNat 0) (Host.ofNat 1 - Host.min (distance / (10 : ℚ)) (Host.ofNat 1)) ∈
      UnitScale ℚ := by
  change @Host.max (Host.rational lower policy) (0 : ℚ)
    ((1 : ℚ) - @Host.min (Host.rational lower policy) (distance / 10 : ℚ) (1 : ℚ)) ∈ UnitScale ℚ
  rw [rational_max, rational_min]
  have hmin : 0 ≤ min (distance / 10) 1 := le_min (by positivity) zero_le_one
  exact ⟨le_max_left _ _, max_le zero_le_one (by linarith)⟩

theorem ageScore_mem (minAge maxAge candidateAge : Option ℚ) :
    @ageScore (Host.rational lower policy) minAge maxAge candidateAge ∈ UnitScale ℚ := by
  unfold ageScore
  cases candidateAge with
  | none => exact ofRat_mem (by norm_num) (by norm_num)
  | some candidateAge =>
    dsimp only
    split
    · exact ofNat_one_mem
    · split
      · exact ofNat_one_mem
      · refine fade_mem ?_
        split
        · rename_i h
          exact sub_nonneg.mpr (of_decide_eq_true h).le
        · split
          · rename_i h
            exact sub_nonneg.mpr (of_decide_eq_true h).le
          · exact le_refl _

theorem distanceScore_mem (preference : Option String) (enabled : Bool)
    (requester candidate : Place) :
    @distanceScore (Host.rational lower policy) preference enabled requester candidate ∈
      UnitScale ℚ := by
  unfold distanceScore
  repeat' split
  all_goals exact ofRat_mem (by norm_num) (by norm_num)

theorem trustScore_some (value : ℚ) :
    @trustScore (Host.rational lower policy) (some value) =
      (min (max value ((0 : ℕ) : ℚ)) ((100 : ℕ) : ℚ) / ((100 : ℕ) : ℚ) : ℚ) := by
  rw [← @rational_max lower policy, ← @rational_min lower policy]
  rfl

theorem trustScore_mem (value : Option ℚ) :
    @trustScore (Host.rational lower policy) value ∈ UnitScale ℚ := by
  cases value with
  | none => exact ofRat_mem (by norm_num) (by norm_num)
  | some value =>
    rw [trustScore_some]
    refine ⟨div_nonneg (le_min ?_ (Nat.cast_nonneg _)) (Nat.cast_nonneg _),
      div_le_one_of_le₀ (min_le_right _ _) (Nat.cast_nonneg _)⟩
    exact (Nat.cast_nonneg 0).trans (le_max_right _ _)

theorem genderPreferenceScore_mem (preferredGender candidateGender : Option String) :
    @genderPreferenceScore (Host.rational lower policy) preferredGender candidateGender ∈
      UnitScale ℚ := by
  unfold genderPreferenceScore
  repeat' split
  all_goals exact ofRat_mem (by norm_num) (by norm_num)

theorem sessionOverlapComponent_mem (left right : List String) :
    @sessionOverlapComponent (Host.rational lower policy) left right ∈ UnitScale ℚ := by
  unfold sessionOverlapComponent
  split
  · exact ofNat_one_mem
  · split
    · exact ofRat_mem (by norm_num) (by norm_num)
    · exact overlapRatio_mem left right

theorem connectionPreferenceDirectionalScore_mem (requesterPref : Option String)
    (requesterProfessions candidateProfessions : List String) :
    @connectionPreferenceDirectionalScore (Host.rational lower policy) requesterPref
      requesterProfessions candidateProfessions ∈ UnitScale ℚ := by
  obtain ⟨hnonneg, hle⟩ :=
    @overlapRatio_mem lower policy requesterProfessions candidateProfessions
  unfold connectionPreferenceDirectionalScore
  dsimp only
  split
  · exact ofNat_one_mem
  · split
    · split
      · exact ofRat_mem (by norm_num) (by norm_num)
      · split
        · rw [rational_max]
          exact ⟨hnonneg.trans (le_max_right _ _),
            max_le (ofRat_mem (by norm_num) (by norm_num)).2 hle⟩
        · exact ofRat_mem (by norm_num) (by norm_num)
    · split
      · split
        · exact ofRat_mem (by norm_num) (by norm_num)
        · exact ⟨sub_nonneg.mpr hle, sub_le_self _ hnonneg⟩
      · exact ofNat_one_mem

/-- The overlap is on the scale exactly when the shared rows are few enough. -/
theorem overlap_mem_iff (requester candidate : SnapshotUserProfile) :
    letI := Host.rational lower policy
    (sessionActivityOverlapScore requester candidate).overlap ∈ UnitScale ℚ ↔
      RowsWithinActivities requester candidate := by
  let _ := Host.rational lower policy
  by_cases hnil : activityRows requester = [] ∨ activityRows candidate = []
  · have hwithin : RowsWithinActivities requester candidate := by
      simp [RowsWithinActivities, sharedRows_eq_nil hnil]
    rw [overlap_of_nil hnil]
    exact ⟨fun _ => hwithin, fun _ => ofNat_zero_mem⟩
  · obtain ⟨hreq, hcand⟩ := not_or.mp hnil
    rw [overlap_eq hreq hcand]
    refine ⟨fun h => ?_, ratio_mem⟩
    have hpos : (0 : ℚ) < (namedActivities requester candidate).length :=
      Nat.cast_pos.mpr (namedActivities_length_pos hreq candidate)
    exact Nat.cast_le.mp ((div_le_one hpos).mp h.2)

theorem overlap_nonneg (requester candidate : SnapshotUserProfile) :
    letI := Host.rational lower policy
    (0 : ℚ) ≤ (sessionActivityOverlapScore requester candidate).overlap := by
  let _ := Host.rational lower policy
  by_cases hnil : activityRows requester = [] ∨ activityRows candidate = []
  · rw [overlap_of_nil hnil]
    exact ofNat_zero_mem.1
  · obtain ⟨hreq, hcand⟩ := not_or.mp hnil
    rw [overlap_eq hreq hcand]
    exact div_nonneg (Nat.cast_nonneg (α := ℚ) _) (Nat.cast_nonneg (α := ℚ) _)

theorem detailBonus_mem (requester candidate : SnapshotUserProfile) :
    letI := Host.rational lower policy
    (sessionActivityOverlapScore requester candidate).detailBonus ∈ UnitScale ℚ := by
  unfold sessionActivityOverlapScore
  dsimp only
  split
  · exact ofNat_zero_mem
  · dsimp only
    split
    · exact ofNat_zero_mem
    · exact ratio_mem (List.length_filter_le _ _)

end Components

/-! ### The score -/

section Score

variable (lower : String → String) (policy : GuestMatchPoolPolicy)

/-- The components of `calculateDirectionalScore` with their active weights. -/
def signals (requester candidate : SnapshotUserProfile) : List (ℚ × ℕ) :=
  letI := Host.rational lower policy
  let strings (snapshot : SnapshotUserProfile) (key : String) :=
    toStringArray (snapshot.attributes.get key)
  let place (record : JsonRecord) : Place :=
    { city := toTrimmedString (record.get "city")
      region := toTrimmedString (record.get "region")
      countryCode := toTrimmedString (record.get "countryCode") }
  let connectionPreference := toTrimmedString (requester.attributes.get "connectionPreference")
  let enabled :=
    match requester.filters.get "locationPreferenceEnabled" with
    | .bool b => b
    | _ => false
  let prep := activeMatchPrepWeights (strings requester "sessionMoodIds")
    (strings requester "sessionLookingForIds") connectionPreference
    (strings requester "sessionActivityIds")
  let activities := sessionActivityOverlapScore requester candidate
  [(overlapRatio (strings requester "interestIds") (strings candidate "interestIds"),
      ScoreWeights.interests),
    (overlapRatio (strings requester "goalIds") (strings candidate "goalIds"),
      ScoreWeights.goals),
    (overlapRatio (strings requester "professionIds") (strings candidate "professionIds"),
      ScoreWeights.professions),
    (ageScore (toNumber (requester.filters.get "minAge"))
      (toNumber (requester.filters.get "maxAge"))
      (toNumber (candidate.attributes.get "age")), ScoreWeights.agePreference),
    (distanceScore (toTrimmedString (requester.filters.get "distancePreference")) enabled
      (place requester.filters) (place candidate.attributes), ScoreWeights.distancePreference),
    (genderPreferenceScore (toTrimmedString (requester.filters.get "preferredGender"))
      (toTrimmedString (candidate.attributes.get "gender")), ScoreWeights.preferredGender),
    (Greetup.Matching.trustScore (toNumber (candidate.attributes.get "trustScore")),
      ScoreWeights.trustScore),
    (sessionOverlapComponent (strings requester "sessionMoodIds")
      (strings candidate "sessionMoodIds"), prep.mood),
    (sessionOverlapComponent (strings requester "sessionLookingForIds")
      (strings candidate "sessionLookingForIds"), prep.lookingFor),
    (connectionPreferenceDirectionalScore connectionPreference
      (strings requester "professionIds") (strings candidate "professionIds"),
      prep.connectionPreference),
    (activities.overlap, prep.sessionActivities),
    (activities.detailBonus, prep.sessionActivityDetail)]

/-- `calculateDirectionalScore`, read as the rational it is. -/
abbrev directionalScore (requester candidate : SnapshotUserProfile) : ℚ :=
  @MatchScore.calculateDirectionalScore (Host.rational lower policy) requester candidate

variable {lower policy}

theorem signals_nonneg (requester candidate : SnapshotUserProfile) :
    ∀ s ∈ signals lower policy requester candidate, 0 ≤ s.1 := by
  simp only [signals, List.forall_mem_cons, List.not_mem_nil, false_imp_iff, implies_true, and_true]
  exact ⟨(overlapRatio_mem _ _).1, (overlapRatio_mem _ _).1, (overlapRatio_mem _ _).1,
    (ageScore_mem _ _ _).1, (distanceScore_mem _ _ _ _).1, (genderPreferenceScore_mem _ _).1,
    (trustScore_mem _).1, (sessionOverlapComponent_mem _ _).1,
    (sessionOverlapComponent_mem _ _).1, (connectionPreferenceDirectionalScore_mem _ _ _).1,
    overlap_nonneg _ _, (detailBonus_mem _ _).1⟩

theorem signals_mem {requester candidate : SnapshotUserProfile}
    (h : @RowsWithinActivities (Host.rational lower policy) requester candidate) :
    ∀ s ∈ signals lower policy requester candidate, s.1 ∈ UnitScale ℚ := by
  simp only [signals, List.forall_mem_cons, List.not_mem_nil, false_imp_iff, implies_true, and_true]
  exact ⟨overlapRatio_mem _ _, overlapRatio_mem _ _, overlapRatio_mem _ _, ageScore_mem _ _ _,
    distanceScore_mem _ _ _ _, genderPreferenceScore_mem _ _, trustScore_mem _,
    sessionOverlapComponent_mem _ _, sessionOverlapComponent_mem _ _,
    connectionPreferenceDirectionalScore_mem _ _ _, (overlap_mem_iff _ _).mpr h,
    detailBonus_mem _ _⟩

theorem calculateDirectionalScore_eq (requester candidate : SnapshotUserProfile) :
    directionalScore lower policy requester candidate =
      weightedMean (signals lower policy requester candidate) * (100 : ℕ) := by
  have hpos : 0 < totalWeight (signals lower policy requester candidate) := by
    simp [signals, totalWeight, ScoreWeights.interests]
  have hle : ¬ (totalWeight (signals lower policy requester candidate) : ℚ) ≤ ((0 : ℕ) : ℚ) := by
    simpa using hpos.ne'
  unfold weightedMean
  simp only [signals, weightedTotal, totalWeight, List.map_cons, List.sum_cons, List.map_nil,
    List.sum_nil, add_zero, ← add_assoc] at hle ⊢
  exact if_neg fun h => hle (of_decide_eq_true h)

theorem calculateDirectionalScore_nonneg (requester candidate : SnapshotUserProfile) :
    0 ≤ directionalScore lower policy requester candidate := by
  rw [calculateDirectionalScore_eq]
  exact mul_nonneg (weightedMean_nonneg (signals_nonneg requester candidate)) (Nat.cast_nonneg _)

theorem calculateDirectionalScore_le {requester candidate : SnapshotUserProfile}
    (h : @RowsWithinActivities (Host.rational lower policy) requester candidate) :
    directionalScore lower policy requester candidate ≤ (100 : ℕ) := by
  rw [calculateDirectionalScore_eq]
  exact mul_le_of_le_one_left (Nat.cast_nonneg _) (weightedMean_mem (signals_mem h)).2

/-- `Math.round` rounds up from the half. -/
theorem calculateBidirectionalScore_eq (a b : SnapshotUserProfile) :
    @MatchScore.calculateBidirectionalScore (Host.rational lower policy) a b =
      ((directionalScore lower policy a b + directionalScore lower policy b a) / (2 : ℕ) +
        1 / 2).floor := rfl

theorem calculateBidirectionalScore_nonneg (a b : SnapshotUserProfile) :
    0 ≤ @MatchScore.calculateBidirectionalScore (Host.rational lower policy) a b := by
  have hab := @calculateDirectionalScore_nonneg lower policy a b
  have hba := @calculateDirectionalScore_nonneg lower policy b a
  rw [calculateBidirectionalScore_eq, Rat.le_floor_iff]
  push_cast
  linarith

theorem calculateBidirectionalScore_le {a b : SnapshotUserProfile}
    (hab : @RowsWithinActivities (Host.rational lower policy) a b)
    (hba : @RowsWithinActivities (Host.rational lower policy) b a) :
    @MatchScore.calculateBidirectionalScore (Host.rational lower policy) a b ≤ 100 := by
  have hab := @calculateDirectionalScore_le lower policy _ _ hab
  have hba := @calculateDirectionalScore_le lower policy _ _ hba
  rw [← Int.lt_add_one_iff, calculateBidirectionalScore_eq, Rat.floor_lt_iff]
  push_cast at hab hba ⊢
  linarith

/-- The score of two parsed snapshots is on the scale when neither side's rows
repeat the shared activities beyond what the two name together. -/
theorem score_in_range (lower : String → String) (policy : GuestMatchPoolPolicy)
    (rawA rawB : JsonRecord) (idA idB : UserId)
    (hab : @RowsWithinActivities (Host.rational lower policy)
      (@parseSnapshot (Host.rational lower policy) rawA idA)
      (@parseSnapshot (Host.rational lower policy) rawB idB))
    (hba : @RowsWithinActivities (Host.rational lower policy)
      (@parseSnapshot (Host.rational lower policy) rawB idB)
      (@parseSnapshot (Host.rational lower policy) rawA idA)) :
    letI := Host.rational lower policy
    let score := MatchScore.calculateBidirectionalScore (parseSnapshot rawA idA)
      (parseSnapshot rawB idB)
    0 ≤ score ∧ score ≤ 100 :=
  ⟨calculateBidirectionalScore_nonneg _ _, calculateBidirectionalScore_le hab hba⟩

end Score

/-! ### Two profiles that share one activity -/

namespace ScoreSample

def ines : UserId := ⟨"ines", by decide⟩

def jona : UserId := ⟨"jona", by decide⟩

/-- A stored snapshot whose session names the same activity `n` times. -/
def chessPlayer (n : ℕ) : JsonRecord :=
  [("currentStatus", .obj [("activities", .arr (List.replicate n
    (.obj [("activity", .obj [("id", .str "a1"), ("name", .str "Chess")])])))])]

theorem score_oneActivity :
    letI := Host.rational id .guestAndRegistered
    let score := MatchScore.calculateBidirectionalScore (parseSnapshot (chessPlayer 1) ines)
      (parseSnapshot (chessPlayer 1) jona)
    0 ≤ score ∧ score ≤ 100 :=
  score_in_range id .guestAndRegistered (chessPlayer 1) (chessPlayer 1) ines jona
    (by decide +kernel) (by decide +kernel)

/-- Ten rows of the one activity both named. -/
theorem not_score_repeatedActivity :
    letI := Host.rational id .guestAndRegistered
    ¬ MatchScore.calculateBidirectionalScore (parseSnapshot (chessPlayer 10) ines)
      (parseSnapshot (chessPlayer 1) jona) ≤ 100 := by
  decide +kernel

end ScoreSample

end Greetup.Matching
