import Greetup.Client.Navigation
import Greetup.Data.Descent

/-!
Whoever follows the gates comes to rest, and where all of them let a user stay,
the user may be.
-/

namespace Greetup.Client.Navigation

open Data

variable {l l' : Location} {who : Option Account} {a : Account} {told : Bool}

/-! ### The statement -/

/-- The gates that know the status let the user stay. -/
def Rests (who : Option Account) (l : Location) : Prop :=
  proxy (view who true) l = none ∧ gates (view who true) l = []

/-- Where a user may stay. -/
structure Right (who : Option Account) (l : Location) : Prop where
  /-- A protected path is served to accounts, to guests if it is a room, and to
  members that have set up their profiles, or are about to. -/
  served : shouldSkipProxy l.pathname = false → isProtectedRoute l.pathname = true →
    ∃ a, who = some a ∧ (a.isGuest = true → isGuestSpaceMatchRoom l.pathname = true) ∧
      (a.isGuest = false → a.isOnboarded = false → l.pathname = onboardingRoute)
  /-- What is below `RequireOnboarding` is shown to the same, on any path. -/
  shown : page l.pathname = .shell →
    ∃ a, who = some a ∧ (a.isGuest = true → isGuestSpaceMatchRoom l.pathname = true) ∧
      (a.isGuest = false → a.isOnboarded = true)
  setup : page l.pathname = .profileSetup →
    ∃ a, who = some a ∧ a.isGuest = false ∧ a.isOnboarded = false
  outside : page l.pathname = .landing ∨ page l.pathname = .login ∨ page l.pathname = .tryPage →
    ∀ a, who = some a → a.isGuest = true
  tries : page l.pathname = .tryPage → ∀ a, who = some a → a.trialConsumed = false

structure ComesToRest (who : Option Account) (start : Location) : Prop where
  bounded : ∀ visits : List Location, (start :: visits).IsChain (Move who) →
    visits.length ≤ bound start
  settles : ∃ l, Relation.ReflTransGen (Move who) start l ∧ Rests who l
  right : ∀ l, Relation.ReflTransGen (Move who) start l → Rests who l → Right who l

/-! ### Moves come to an end -/

theorem lowers_rank (who : Option Account) : Lowers (Move who) (rank who) :=
  fun _ _ h => rank_lt_of_move h

theorem rests_of_no_move (h : ∀ l', ¬ Move who l l') : Rests who l := by
  have hpass : proxy (view who true) l = none := by
    cases hproxy : proxy (view who true) l with
    | none => rfl
    | some l' => exact absurd (.proxy hproxy) (h l')
  exact ⟨hpass, List.eq_nil_iff_forall_not_mem.mpr fun l' hmem => h l' (.gate hpass hmem)⟩

/-! ### Routes that exclude each other -/

/-- None of the ones begins one of the others, nor the other way around. -/
def areApart (routes routes' : List String) : Bool :=
  routes.all fun r => routes'.all fun r' => !startsWith r r' && !startsWith r' r

theorem not_startsWith_of_areApart {routes routes' : List String} {r r' pathname : String}
    (hapart : areApart routes routes' = true) (hr : r ∈ routes) (hr' : r' ∈ routes')
    (h : startsWith pathname r = true) : startsWith pathname r' = false := by
  have hboth := List.all_eq_true.mp (List.all_eq_true.mp hapart r hr) r' hr'
  simp only [Bool.and_eq_true, Bool.not_eq_true'] at hboth
  by_contra hstarts
  rw [Bool.not_eq_false] at hstarts
  rcases List.prefix_or_prefix_of_prefix (List.isPrefixOf_iff_prefix.mp h)
    (List.isPrefixOf_iff_prefix.mp hstarts) with hprefix | hprefix
  · exact Bool.false_ne_true
      (hboth.2.symm.trans (List.isPrefixOf_iff_prefix.mpr hprefix))
  · exact Bool.false_ne_true
      (hboth.1.symm.trans (List.isPrefixOf_iff_prefix.mpr hprefix))

theorem startsWith_self (r : String) : startsWith r r = true :=
  List.isPrefixOf_iff_prefix.mpr List.prefix_rfl

theorem startsWith_of_append {pathname r ending : String}
    (h : startsWith pathname (r ++ ending) = true) : startsWith pathname r = true := by
  refine List.isPrefixOf_iff_prefix.mpr
    (List.IsPrefix.trans ?_ (List.isPrefixOf_iff_prefix.mp h))
  rw [String.toList_append]
  exact List.prefix_append _ _

section Apart

variable {routes : List String} {r pathname : String} (hr : r ∈ routes)
  (h : startsWith pathname r = true)

include hr h

theorem notMem_of_areApart {routes' : List String} (hapart : areApart routes routes' = true) :
    pathname ∉ routes' := by
  intro hmem
  have hnot := not_startsWith_of_areApart hapart hr hmem h
  rw [startsWith_self] at hnot
  cases hnot

theorem not_common_of_areApart (hapart : areApart routes commonRoutes = true) :
    isCommonRoute pathname = false := by
  rw [isCommonRoute, Bool.or_eq_false_iff]
  refine ⟨?_, List.any_eq_false.mpr fun route hroute => ?_⟩
  · rw [← Bool.not_eq_true, List.contains_iff_mem]
    exact notMem_of_areApart hr h hapart
  · split
    · rename_i hroot
      rw [hroot] at hroute
      exact absurd hroute (by decide)
    · intro hstarts
      exact absurd (startsWith_of_append hstarts)
        (Bool.eq_false_iff.mp (not_startsWith_of_areApart hapart hr hroute h))

theorem not_pathMatchesPrefix_of_areApart {route : String}
    (hapart : areApart routes [route] = true) : pathMatchesPrefix pathname route = false := by
  have hnot := not_startsWith_of_areApart hapart hr (List.mem_singleton_self _) h
  rw [pathMatchesPrefix, Bool.or_eq_false_iff]
  refine ⟨decide_eq_false fun heq => ?_, Bool.eq_false_iff.mpr fun hstarts => ?_⟩
  · rw [heq, startsWith_self] at hnot
    cases hnot
  · exact absurd (startsWith_of_append hstarts) (Bool.eq_false_iff.mp hnot)

theorem not_trial_of_areApart (hapart : areApart routes [guestTrialRoute] = true) :
    isGuestTrialRoute pathname = false :=
  not_pathMatchesPrefix_of_areApart hr h hapart

end Apart

/-! ### Protected paths -/

theorem exists_of_isProtectedRoute {pathname : String} (h : isProtectedRoute pathname = true) :
    ∃ r ∈ protectedRoutes, startsWith pathname r = true := by
  obtain ⟨r, hr, hstarts⟩ := List.any_eq_true.mp h
  refine ⟨r, hr, ?_⟩
  split at hstarts
  · rename_i hroot
    rw [hroot] at hr
    exact absurd hr (by decide)
  · exact hstarts

theorem isOnboardingRequiredRoute_of_protected {pathname : String}
    (h : isProtectedRoute pathname = true) : isOnboardingRequiredRoute pathname = true := by
  obtain ⟨r, hr, hstarts⟩ := exists_of_isProtectedRoute h
  have hrequired : ∃ r' ∈ onboardingRequiredRoutes, r' ≠ "/" ∧ startsWith pathname r' = true := by
    by_cases hsetup : r = onboardingRoute
    · -- the setup is not on the list, but begins with one that is
      refine ⟨"/profile", by decide, by decide, ?_⟩
      rw [hsetup] at hstarts
      have happend : startsWith pathname ("/profile" ++ "-setup") = true := hstarts
      exact startsWith_of_append happend
    · refine ⟨r, List.mem_filter.mpr ⟨hr, decide_eq_true hsetup⟩, ?_, hstarts⟩
      rintro rfl
      exact absurd hr (by decide)
  obtain ⟨r', hr', hroot, hstarts'⟩ := hrequired
  refine List.any_eq_true.mpr ⟨r', hr', ?_⟩
  rw [if_neg hroot]
  exact hstarts'

/-- What a protected path is not. -/
structure IsInner (pathname : String) : Prop where
  notListed : pathname ∉ "/" :: "/landing" :: publicRoutes
  notCommon : isCommonRoute pathname = false
  notTrial : isGuestTrialRoute pathname = false
  notConversion : isGuestAccountConversionRoute pathname = false

theorem isInner_of_protected {pathname : String} (h : isProtectedRoute pathname = true) :
    IsInner pathname := by
  obtain ⟨r, hr, hstarts⟩ := exists_of_isProtectedRoute h
  have hlisted : pathname ∉ "/landing" :: publicRoutes :=
    notMem_of_areApart hr hstarts (by decide)
  refine ⟨fun hmem => ?_, not_common_of_areApart hr hstarts (by decide),
    not_trial_of_areApart hr hstarts (by decide), ?_⟩
  · rcases List.mem_cons.mp hmem with heq | hmem
    · rw [heq] at h
      exact absurd h (by decide)
    · exact hlisted hmem
  · rw [isGuestAccountConversionRoute, Bool.or_eq_false_iff, Bool.or_eq_false_iff]
    refine ⟨⟨decide_eq_false ?_, decide_eq_false ?_⟩, decide_eq_false ?_⟩
    · rintro rfl
      exact hlisted (by decide)
    · rintro rfl
      exact hlisted (by decide)
    · rintro rfl
      exact hlisted (by decide)

theorem proxy_of_nobody (hskip : shouldSkipProxy l.pathname = false)
    (hprotected : isProtectedRoute l.pathname = true) : proxy (view none told) l =
      some (if isGuestSpaceMatchRoom l.pathname then guestTrial
        else loginUrl Percent.form l.href) := by
  obtain ⟨hlisted, hcommon, htrial, -⟩ := isInner_of_protected hprotected
  simp only [List.mem_cons, not_or] at hlisted
  simp only [proxy, view, hskip, hlisted.2.1, hcommon, htrial, hprotected,
    resolveGuestRouteRedirect, Bool.not_false, Bool.false_and, Bool.true_and,
    Bool.false_eq_true, if_false, if_true]
  split <;> rfl

/-- What the proxy lets pass on a protected path. -/
theorem admitted_of_proxy (hskip : shouldSkipProxy l.pathname = false)
    (hprotected : isProtectedRoute l.pathname = true) (h : proxy (view who true) l = none) :
    ∃ a, who = some a ∧ (a.isGuest = true → isGuestSpaceMatchRoom l.pathname = true) ∧
      (a.isGuest = false → a.isOnboarded = false → l.pathname = onboardingRoute) := by
  obtain ⟨hlisted, hcommon, htrial, hconversion⟩ := isInner_of_protected hprotected
  simp only [List.mem_cons, not_or] at hlisted
  cases who with
  | none =>
      rw [proxy_of_nobody hskip hprotected] at h
      cases h
  | some a =>
      refine ⟨a, rfl, fun hguest => ?_, fun hmember honboarded => ?_⟩
      -- in both cases the last branch left is a redirect
      · by_contra hroom
        simp [proxy, view, hskip, hlisted.1, hlisted.2.1, hlisted.2.2, hcommon, htrial, hprotected,
          hconversion, hroom, hguest, resolveGuestRouteRedirect] at h
      · by_contra hsetup
        have hrequired := isOnboardingRequiredRoute_of_protected hprotected
        simp [proxy, view, hskip, hlisted.1, hlisted.2.1, hlisted.2.2, hcommon, htrial, hprotected,
          hmember, honboarded, hrequired, hsetup, isOnboardingRoute, View.isMember,
          resolveGuestRouteRedirect] at h

/-! ### What the pages show -/

theorem cases_of_shell {pathname : String} (h : page pathname = .shell) :
    pathname ∈ shellRoutes ∨ ∃ r ∈ shellParents, startsWith pathname r = true := by
  rw [page] at h
  split_ifs at h with _ _ _ _ _ _ hshell
  rcases Bool.or_eq_true_iff.mp hshell with hroute | hparent
  · exact .inl (List.contains_iff_mem.mp hroute)
  · obtain ⟨r, hr, hchild⟩ := List.any_eq_true.mp hparent
    exact .inr ⟨r, hr, (Bool.and_eq_true_iff.mp hchild).1⟩

/-- Of a path that is none of the routes of the shell, nor below one, no page of the shell is
shown. -/
theorem not_pathMatchesPrefix_of_shell {pathname : String} {route : String}
    (h : page pathname = .shell)
    (hroutes : shellRoutes.all (fun r => !pathMatchesPrefix r route) = true)
    (hparents : areApart shellParents [route] = true) :
    pathMatchesPrefix pathname route = false := by
  rcases cases_of_shell h with hroute | ⟨r, hr, hstarts⟩
  · have hnot := List.all_eq_true.mp hroutes pathname hroute
    rwa [Bool.not_eq_true'] at hnot
  · exact not_pathMatchesPrefix_of_areApart hr hstarts hparents

theorem shown_of_gates (hpage : page l.pathname = .shell) (h : gates (view who true) l = []) :
    ∃ a, who = some a ∧ (a.isGuest = true → isGuestSpaceMatchRoom l.pathname = true) ∧
      (a.isGuest = false → a.isOnboarded = true) := by
  have htrial : isGuestTrialRoute l.pathname = false :=
    not_pathMatchesPrefix_of_shell hpage (by decide) (by decide)
  have hsetup : pathMatchesPrefix l.pathname onboardingRoute = false :=
    not_pathMatchesPrefix_of_shell hpage (by decide) (by decide)
  have hstays : requireOnboarding (view who true) l = none := by
    simpa only [gates, hpage, Option.toList_eq_nil_iff] using h
  -- whoever is not let stay is redirected by the branch that is left
  cases who with
  | none => simp [requireOnboarding, view, htrial] at hstays
  | some a =>
      refine ⟨a, rfl, fun hguest => ?_, fun hmember => ?_⟩
      · by_contra hroom
        simp [requireOnboarding, htrial, hguest, hroom] at hstays
      · by_contra honboarded
        simp [requireOnboarding, htrial, hmember, honboarded, hsetup] at hstays

theorem setup_of_gates (hpage : page l.pathname = .profileSetup)
    (h : gates (view (some a) true) l = []) : a.isGuest = false ∧ a.isOnboarded = false := by
  simp only [gates, hpage, List.append_eq_nil_iff, Option.toList_eq_nil_iff] at h
  have hmember : a.isGuest = false := by
    by_contra hguest
    rw [Bool.not_eq_false] at hguest
    simp [guestStepsRedirect, hguest] at h
  refine ⟨hmember, ?_⟩
  by_contra honboarded
  rw [Bool.not_eq_false] at honboarded
  simp [profileSetupRedirect, hmember, honboarded] at h

theorem outside_of_gates
    (hpage : page l.pathname = .landing ∨ page l.pathname = .login ∨ page l.pathname = .tryPage)
    (h : gates (view (some a) true) l = []) : a.isGuest = true := by
  by_contra hmember
  rw [Bool.not_eq_true] at hmember
  rcases hpage with hpage | hpage | hpage
  · simp [gates, hpage, landingAuthRedirect, hmember] at h
  · simp [gates, hpage, loginRedirect, hmember] at h
  · simp [gates, hpage, tryBoot, view, hmember] at h

theorem tries_of_gates (hpage : page l.pathname = .tryPage)
    (h : gates (view (some a) true) l = []) : a.trialConsumed = false := by
  have hguest := outside_of_gates (.inr (.inr hpage)) h
  by_contra hconsumed
  rw [Bool.not_eq_false] at hconsumed
  simp [gates, hpage, tryBoot, view, hguest, hconsumed] at h

theorem right_of_rests (h : Rests who l) : Right who l where
  served hskip hprotected := admitted_of_proxy hskip hprotected h.1
  shown hpage := shown_of_gates hpage h.2
  setup hpage := by
    have hpath := pathname_of_profileSetup hpage
    obtain ⟨a, rfl, -⟩ :=
      admitted_of_proxy (by rw [hpath]; decide) (by rw [hpath]; decide) h.1
    exact ⟨a, rfl, setup_of_gates hpage h.2⟩
  outside hpage a hwho := by
    subst hwho
    exact outside_of_gates hpage h.2
  tries hpage a hwho := by
    subst hwho
    exact tries_of_gates hpage h.2

/-! ### The result -/

/-- Whoever follows the gates from any location comes to rest after a bounded
number of moves, and only where the user may be. -/
theorem comesToRest (who : Option Account) (start : Location) : ComesToRest who start where
  bounded _ hvisits :=
    Nat.le_trans ((lowers_rank who).length_le hvisits) (rank_le_bound who start)
  settles := by
    obtain ⟨l, hreach, hlast⟩ := (lowers_rank who).exists_end start
    exact ⟨l, hreach, rests_of_no_move hlast⟩
  right _ _ hrests := right_of_rests hrests

end Greetup.Client.Navigation
