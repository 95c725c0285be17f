import Greetup.Client.Gates

/-!
Where the gates send users, and the rank that each move lowers.

The rank goes by what the account is, the gates by what they have been told of
it, and that may be nothing yet.
-/

namespace Greetup.Client.Navigation

open Data

variable {v : View} {l l' : Location} {who : Option Account} {a : Account} {told : Bool}

/-! ### What the proxy does -/

/-- The redirects of the proxy, each with what it is for. -/
inductive Redirected (v : View) (l : Location) : Location → Prop
  | landing (h : l.pathname = "/landing") : Redirected v l (at_ "/")
  | startTrial (hout : v.isLoggedIn = false) (h : isGuestSpaceMatchRoom l.pathname = true) :
      Redirected v l guestTrial
  | leaveTrial (hin : v.isLoggedIn = true) (hmember : v.isMember = true)
      (h : isGuestTrialRoute l.pathname = true) : Redirected v l home
  | toTrial (hin : v.isLoggedIn = true) (hguest : v.isGuest = true)
      (h : l.pathname ≠ "/" ∧ isGuestAccountConversionRoute l.pathname = false ∧
        (publicRoutes.contains l.pathname = true ∨ isGuestTrialRoute l.pathname = false)) :
      Redirected v l (guestTrialLandingPath v.trialConsumed)
  | complete (hin : v.isLoggedIn = true) (hguest : v.isGuest = true)
      (hconsumed : v.trialConsumed = true) (h : isGuestTrialRoute l.pathname = true)
      (hnot : isGuestTrialCompleteRoute l.pathname = false) :
      Redirected v l guestTrialComplete
  | notComplete (hin : v.isLoggedIn = true) (hguest : v.isGuest = true)
      (hconsumed : v.trialConsumed = false) (h : isGuestTrialCompleteRoute l.pathname = true) :
      Redirected v l guestTrial
  | welcome (hin : v.isLoggedIn = true) (hmember : v.isMember = true)
      (h : l.pathname = "/" ∨ publicRoutes.contains l.pathname = true) :
      Redirected v l (if v.isOnboarded then home else profileSetup)
  | login (hout : v.isLoggedIn = false) (h : isProtectedRoute l.pathname = true) :
      Redirected v l (loginUrl Percent.form l.href)
  | done (hin : v.isLoggedIn = true) (h : l.pathname = onboardingRoute)
      (honboarded : v.isOnboarded = true) : Redirected v l home
  | unfinished (hin : v.isLoggedIn = true) (hmember : v.isMember = true)
      (h : l.pathname ≠ onboardingRoute) (honboarded : v.isOnboarded = false) :
      Redirected v l profileSetup

theorem redirected_of_guest (hin : v.isLoggedIn = true) {status : GuestStatusSnapshot}
    (hstatus : v.guestStatus = some status) (hguest : status.isGuest = true)
    (h : resolveGuestRouteRedirect v l.pathname = some l') : Redirected v l l' := by
  have hconsumed : v.trialConsumed = status.trialConsumed := by
    rw [View.trialConsumed, hstatus, Option.any_some]
  have hguest' : v.isGuest = true := by
    rw [View.isGuest, hstatus, Option.any_some, hguest]
  simp only [resolveGuestRouteRedirect, hin, hstatus, hguest, Bool.not_true, Bool.false_eq_true,
    if_false, ← hconsumed] at h
  split at h
  · cases h
  rename_i hroot
  split at h
  · cases h
  rename_i hconversion
  split at h
  · rename_i hpublic
    cases h
    exact .toTrial hin hguest' ⟨hroot, by simpa using hconversion, .inl hpublic⟩
  split at h
  · rename_i htry
    split at h
    · rename_i hsome
      cases h
      obtain ⟨hdone, hnot⟩ := Bool.and_eq_true_iff.mp hsome
      exact .complete hin hguest' hdone htry (by simpa using hnot)
    · split at h
      · rename_i hsome
        cases h
        obtain ⟨hdone, hcomplete⟩ := Bool.and_eq_true_iff.mp hsome
        exact .notComplete hin hguest' (by simpa using hdone) hcomplete
      · cases h
  rename_i htry
  split at h
  · cases h
  split at h
  · cases h
    exact .toTrial hin hguest' ⟨hroot, by simpa using hconversion, .inr (by simpa using htry)⟩
  · cases h

theorem redirected_of_guestRoute (h : resolveGuestRouteRedirect v l.pathname = some l') :
    Redirected v l l' := by
  cases hin : v.isLoggedIn with
  | false =>
      rw [resolveGuestRouteRedirect, hin] at h
      cases h
  | true =>
      cases hstatus : v.guestStatus with
      | none =>
          simp only [resolveGuestRouteRedirect, hin, hstatus] at h
          cases h
      | some status =>
          cases hguest : status.isGuest with
          | true => exact redirected_of_guest hin hstatus hguest h
          | false =>
              simp only [resolveGuestRouteRedirect, hin, hstatus, hguest, Bool.not_true,
                Bool.not_false, if_true, Bool.false_eq_true, if_false] at h
              split at h
              · rename_i htry
                cases h
                exact .leaveTrial hin (by rw [View.isMember, hstatus, Option.any_some, hguest]; rfl)
                  htry
              · cases h

theorem redirected_of_proxy (h : proxy v l = some l') : Redirected v l l' := by
  rw [proxy] at h
  -- the conditions in the order of the code; most let the request pass
  by_cases hskip : shouldSkipProxy l.pathname = true
  · rw [if_pos hskip] at h
    cases h
  rw [if_neg hskip] at h
  by_cases hlanding : l.pathname = "/landing"
  · rw [if_pos hlanding] at h
    cases h
    exact .landing hlanding
  rw [if_neg hlanding] at h
  by_cases hcommon : isCommonRoute l.pathname = true
  · rw [if_pos hcommon] at h
    cases h
  rw [if_neg hcommon] at h
  by_cases htry : (!v.isLoggedIn && isGuestTrialRoute l.pathname) = true
  · rw [if_pos htry] at h
    cases h
  rw [if_neg htry] at h
  by_cases hroom : (!v.isLoggedIn && isGuestSpaceMatchRoom l.pathname) = true
  · rw [if_pos hroom] at h
    cases h
    obtain ⟨hout, hroom⟩ := Bool.and_eq_true_iff.mp hroom
    exact .startTrial (by simpa using hout) hroom
  rw [if_neg hroom] at h
  cases hguest : resolveGuestRouteRedirect v l.pathname with
  | some guestRedirect =>
      simp only [hguest] at h
      cases h
      exact redirected_of_guestRoute hguest
  | none =>
      simp only [hguest] at h
      split at h
      · rename_i hroot
        cases h
        simp only [Bool.and_eq_true, decide_eq_true_eq] at hroot
        exact .welcome hroot.1.1 hroot.2 (.inl hroot.1.2)
      split at h
      · rename_i hpublic
        obtain ⟨hin, hpublic⟩ := Bool.and_eq_true_iff.mp hpublic
        split at h
        · cases h
        split at h
        · rename_i hmember
          cases h
          exact .welcome hin hmember (.inr hpublic)
        · cases h
      split at h
      · rename_i hlogin
        cases h
        obtain ⟨hout, hprotected⟩ := Bool.and_eq_true_iff.mp hlogin
        exact .login (by simpa using hout) hprotected
      split at h
      · rename_i hdone
        cases h
        simp only [Bool.and_eq_true, isOnboardingRoute, decide_eq_true_eq] at hdone
        exact .done hdone.1.1 hdone.1.2 hdone.2
      split at h
      · rename_i hsetup
        cases h
        simp only [Bool.and_eq_true, isOnboardingRoute, Bool.not_eq_true', decide_eq_false_iff_not]
          at hsetup
        exact .unfinished hsetup.1.1.1.1 hsetup.1.1.1.2 hsetup.1.2 hsetup.2
      · cases h

/-! ### What the pages do -/

/-- Where the effects of a page send the user, each with what it is for. -/
inductive Sent (v : View) (l : Location) : Location → Prop
  | enter {l' : Location} (hpage : page l.pathname = .landing) (hin : v.isLoggedIn = true)
      (hmember : v.isMember = true) (h : l' = home ∨ l' = profileSetup) : Sent v l l'
  | landing (hpage : page l.pathname = .landingRedirect) : Sent v l (at_ "/")
  | back (hpage : page l.pathname = .login) (hin : v.isLoggedIn = true)
      (hmember : v.isMember = true) : Sent v l ((nextPath l).elim home Location.ofHref)
  | noSetup {l' : Location} (hpage : page l.pathname = .profileSetup) (hguest : v.isGuest = true)
      (h : l' = guestTrialLandingPath v.trialConsumed ∨ l' = guestTrial) : Sent v l l'
  | done (hpage : page l.pathname = .profileSetup) (honboarded : v.isOnboarded = true) :
      Sent v l home
  | login (hpage : page l.pathname = .shell) (hout : v.isLoggedIn = false) :
      Sent v l (buildLoginUrl l.rewritten.href)
  | toTrial (hpage : page l.pathname = .shell) (hguest : v.isGuest = true) :
      Sent v l (guestTrialLandingPath v.trialConsumed)
  | unfinished (hpage : page l.pathname = .shell) (hmember : v.isMember = true)
      (honboarded : v.isOnboarded = false) : Sent v l profileSetup
  | leaveTrial (hpage : page l.pathname = .tryPage) (hin : v.isLoggedIn = true)
      (hmember : v.isMember = true) : Sent v l home
  | consumed (hpage : page l.pathname = .tryPage) (hguest : v.isGuest = true)
      (hconsumed : v.trialConsumed = true) : Sent v l trySignup
  | complete (hpage : page l.pathname = .tryComplete) : Sent v l trySignup

theorem sent_of_requireOnboarding (hpage : page l.pathname = .shell)
    (h : requireOnboarding v l = some l') : Sent v l l' := by
  rw [requireOnboarding] at h
  split at h
  · cases h
  split at h
  · rename_i hout
    cases h
    exact .login hpage (by simpa using hout)
  split at h
  · rename_i hguest
    cases h
    exact .toTrial hpage (Bool.and_eq_true_iff.mp hguest).1
  split at h
  · rename_i hsetup
    cases h
    simp only [Bool.and_eq_true, Bool.not_eq_true'] at hsetup
    exact .unfinished hpage hsetup.1.1 hsetup.1.2
  · cases h

theorem sent_of_tryBoot (hpage : page l.pathname = .tryPage) (h : tryBoot v = some l') :
    Sent v l l' := by
  cases hin : v.isLoggedIn with
  | false =>
      rw [tryBoot, hin] at h
      cases h
  | true =>
      cases hstatus : v.guestStatus with
      | none =>
          simp only [tryBoot, hin, hstatus] at h
          cases h
      | some status =>
          simp only [tryBoot, hin, hstatus, Bool.not_true, Bool.false_eq_true, if_false] at h
          split at h
          · rename_i hmember
            cases h
            exact .leaveTrial hpage hin (by rw [View.isMember, hstatus, Option.any_some, hmember])
          · rename_i hguest
            split at h
            · rename_i hconsumed
              cases h
              refine .consumed hpage ?_ ?_
              · rw [View.isGuest, hstatus, Option.any_some]
                simpa using hguest
              · rw [View.trialConsumed, hstatus, Option.any_some, hconsumed]
            · cases h

theorem sent_of_mem_gates (h : l' ∈ gates v l) : Sent v l l' := by
  rw [gates] at h
  cases hpage : page l.pathname with
  | landing =>
      simp only [hpage, List.mem_append, Option.mem_toList, rootAuthGate, landingAuthRedirect] at h
      rcases h with h | h
      · split at h
        · rename_i hmember
          obtain ⟨hin, hmember⟩ := Bool.and_eq_true_iff.mp hmember
          cases h
          refine .enter hpage hin hmember ?_
          split
          · exact .inr rfl
          · exact .inl rfl
        · cases h
      · split at h
        · rename_i hmember
          obtain ⟨hin, hmember⟩ := Bool.and_eq_true_iff.mp hmember
          cases h
          exact .enter hpage hin hmember (.inl rfl)
        · cases h
  | landingRedirect =>
      simp only [hpage] at h
      cases List.mem_singleton.mp h
      exact .landing hpage
  | login =>
      simp only [hpage, Option.mem_toList, loginRedirect] at h
      split at h
      · rename_i hmember
        obtain ⟨hin, hmember⟩ := Bool.and_eq_true_iff.mp hmember
        cases h
        exact .back hpage hin hmember
      · cases h
  | profileSetup =>
      simp only [hpage, List.mem_append, Option.mem_toList, profileSetupRedirect,
        guestStepsRedirect] at h
      rcases h with h | h
      · split at h
        · rename_i hguest
          cases h
          exact .noSetup hpage hguest (.inl rfl)
        · split at h
          · rename_i honboarded
            cases h
            exact .done hpage honboarded
          · cases h
      · split at h
        · rename_i hguest
          cases h
          exact .noSetup hpage hguest (.inr rfl)
        · cases h
  | shell =>
      simp only [hpage, Option.mem_toList] at h
      exact sent_of_requireOnboarding hpage h
  | tryPage =>
      simp only [hpage, Option.mem_toList] at h
      exact sent_of_tryBoot hpage h
  | tryComplete =>
      simp only [hpage] at h
      cases List.mem_singleton.mp h
      exact .complete hpage
  | other =>
      simp only [hpage] at h
      cases h

/-! ### The rank -/

/-- How far a path is from where the account comes to rest. -/
def level : Option Account → String → ℕ
  | none, pathname => if pathname ∈ ["/", "/login", "/register", "/try"] then 0 else 1
  | some a, pathname =>
    if a.isGuest then
      if pathname ∈ ["/", "/login", "/register"] then 0
      else if pathname = "/try" then if a.trialConsumed then 2 else 0
      else if pathname = "/try/complete" then 1
      -- a session that counts as set up sends the guest from the setup to the home page
      else if pathname = "/profile-setup" then 4
      else 3
    else if pathname = "/home" then if a.isOnboarded then 0 else 1
    else if pathname = "/profile-setup" then if a.isOnboarded then 1 else 0
    -- both lead to a page that sends members on
    else if pathname = "/landing" ∨ pathname = "/try/complete" then 3
    else 2

/-- A member at the login page may be sent back, and from there again. -/
def rank (who : Option Account) (l : Location) : ℕ :=
  if who.any (!·.isGuest) = true ∧ l.pathname = "/login" then 2 + 4 * Percent.size l.search
  else level who l.pathname

/-- How many moves there can be from the location. -/
def bound (l : Location) : ℕ :=
  if l.pathname = "/login" then 2 + 4 * Percent.size l.search else 4

theorem rank_le_bound (who : Option Account) (l : Location) : rank who l ≤ bound l := by
  rw [rank, bound]
  by_cases hlogin : l.pathname = "/login"
  · rw [if_pos hlogin, hlogin]
    split
    · exact Nat.le_refl _
    · rename_i hmember
      rcases who with _ | ⟨isGuest, trialConsumed, isOnboarded⟩
      · exact Nat.zero_le _
      · cases isGuest with
        | true => exact Nat.zero_le _
        | false => exact absurd ⟨rfl, rfl⟩ hmember
  · rw [if_neg (fun h => hlogin h.2), if_neg hlogin]
    rcases who with _ | ⟨isGuest, trialConsumed, isOnboarded⟩
    · rw [level]
      split <;> decide
    · rw [level]
      split_ifs <;> decide

theorem notMem_of_apply {β : Type} {f : String → β} {b : β} {pathname : String}
    {low : List String} (h : f pathname = b) (hlow : ∀ q ∈ low, f q ≠ b) : pathname ∉ low :=
  fun hmem => hlow pathname hmem h

section Page

variable {pathname : String}

theorem pathname_of_landingRedirect (h : page pathname = .landingRedirect) :
    pathname = "/landing" := by
  rw [page] at h
  split_ifs at h
  assumption

theorem pathname_of_login (h : page pathname = .login) : pathname = "/login" := by
  rw [page] at h
  split_ifs at h
  assumption

theorem pathname_of_profileSetup (h : page pathname = .profileSetup) :
    pathname = "/profile-setup" := by
  rw [page] at h
  split_ifs at h
  assumption

theorem pathname_of_tryPage (h : page pathname = .tryPage) : pathname = "/try" := by
  rw [page] at h
  split_ifs at h
  assumption

theorem pathname_of_tryComplete (h : page pathname = .tryComplete) :
    pathname = "/try/complete" := by
  rw [page] at h
  split_ifs at h
  assumption

end Page

/-! ### Nobody -/

theorem rank_nobody (low : String) (hlow : l'.pathname = low)
    (hmem : low ∈ ["/", "/login", "/register", "/try"])
    (h : l.pathname ∉ ["/", "/login", "/register", "/try"]) : rank none l' < rank none l := by
  show level none l'.pathname < level none l.pathname
  rw [hlow, level, level, if_pos hmem, if_neg h]
  exact Nat.zero_lt_one

theorem pathname_buildLoginUrl (returnPath : String) :
    (buildLoginUrl returnPath).pathname = "/login" := by
  rw [buildLoginUrl]
  split
  · split <;> rfl
  · rfl

theorem rank_lt_of_nobody (h : Move none l l') : rank none l' < rank none l := by
  rcases h with ⟨hproxy⟩ | ⟨hpass, hgate⟩
  · cases redirected_of_proxy hproxy with
    | landing h =>
        refine rank_nobody "/" rfl (by decide) ?_
        rw [h]
        decide
    | startTrial _ h => exact rank_nobody "/try" rfl (by decide) (notMem_of_apply h (by decide))
    | login _ h => exact rank_nobody "/login" rfl (by decide) (notMem_of_apply h (by decide))
    | leaveTrial hin | toTrial hin | complete hin | notComplete hin | welcome hin | done hin
    | unfinished hin => cases hin
  · cases sent_of_mem_gates hgate with
    | landing hpage => exact rank_nobody "/" rfl (by decide) (notMem_of_apply hpage (by decide))
    | login hpage =>
        exact rank_nobody "/login" (pathname_buildLoginUrl _) (by decide)
          (notMem_of_apply hpage (by decide))
    | complete hpage =>
        exact rank_nobody "/register" rfl (by decide) (notMem_of_apply hpage (by decide))
    | enter _ hin | back _ hin | leaveTrial _ hin => cases hin
    | noSetup _ hguest | toTrial _ hguest | consumed _ hguest => cases hguest
    | done _ honboarded => cases honboarded
    | unfinished _ hmember => cases hmember

/-! ### Accounts -/

@[simp] theorem view_isLoggedIn : (view (some a) told).isLoggedIn = true := rfl

@[simp] theorem view_isOnboarded : (view (some a) told).isOnboarded = a.isOnboarded := rfl

@[simp] theorem view_isMember : (view (some a) told).isMember = (told && !a.isGuest) := by
  cases told <;> rfl

@[simp] theorem view_isGuest : (view (some a) told).isGuest = (told && a.isGuest) := by
  cases told <;> rfl

@[simp] theorem view_trialConsumed :
    (view (some a) told).trialConsumed = (told && a.trialConsumed) := by
  cases told <;> rfl

theorem rank_of_ne_login (h : l.pathname ≠ "/login") : rank who l = level who l.pathname :=
  if_neg fun hlogin => h hlogin.2

theorem level_le_rank : level who l.pathname ≤ rank who l := by
  rw [rank]
  split
  · rename_i hlogin
    rw [hlogin.2]
    rcases who with _ | ⟨isGuest, trialConsumed, isOnboarded⟩
    · exact Nat.zero_le _
    · cases isGuest with
      | true => exact Nat.zero_le _
      | false => exact Nat.le_add_right 2 _
  · exact Nat.le_refl _

/-! ### Members -/

section Member

variable (hmember : a.isGuest = false)

include hmember

theorem level_member (pathname : String) : level (some a) pathname =
    if pathname = "/home" then if a.isOnboarded then 0 else 1
    else if pathname = "/profile-setup" then if a.isOnboarded then 1 else 0
    else if pathname = "/landing" ∨ pathname = "/try/complete" then 3
    else 2 := by
  rw [level, if_neg (by rw [hmember]; exact Bool.false_ne_true)]

theorem two_le_level {pathname : String} (h : pathname ∉ ["/home", "/profile-setup"]) :
    2 ≤ level (some a) pathname := by
  rw [List.mem_cons, List.mem_singleton, not_or] at h
  rw [level_member hmember, if_neg h.1, if_neg h.2]
  split <;> decide

theorem rank_home : rank (some a) home = if a.isOnboarded then 0 else 1 := by
  rw [rank_of_ne_login (by decide), level_member hmember]
  rfl

theorem rank_profileSetup : rank (some a) profileSetup = if a.isOnboarded then 1 else 0 := by
  rw [rank_of_ne_login (by decide), level_member hmember]
  rfl

/-- From anywhere else home, or to the setup. -/
theorem rank_settled (h : l.pathname ∉ ["/home", "/profile-setup"])
    (hl' : l' = home ∨ l' = profileSetup) : rank (some a) l' < rank (some a) l := by
  have hle : rank (some a) l' ≤ 1 := by
    rcases hl' with rfl | rfl
    · rw [rank_home hmember]
      split <;> decide
    · rw [rank_profileSetup hmember]
      split <;> decide
  exact Nat.lt_of_le_of_lt hle (Nat.le_trans (two_le_level hmember h) level_le_rank)

theorem rank_done (h : l.pathname = "/profile-setup") (honboarded : a.isOnboarded = true) :
    rank (some a) home < rank (some a) l := by
  refine Nat.lt_of_lt_of_le ?_ level_le_rank
  rw [rank_home hmember, level_member hmember, h, honboarded]
  decide

theorem rank_unfinished (h : l.pathname ≠ "/profile-setup") (honboarded : a.isOnboarded = false) :
    rank (some a) profileSetup < rank (some a) l := by
  refine Nat.lt_of_lt_of_le ?_ level_le_rank
  rw [rank_profileSetup hmember, level_member hmember, honboarded, if_neg Bool.false_ne_true,
    if_neg Bool.false_ne_true, if_neg h]
  split_ifs <;> decide

/-- From the places that lead out of the trial and of the old landing page. -/
theorem rank_leave (h : l.pathname = "/landing" ∨ l.pathname = "/try/complete")
    (h' : l'.pathname = "/" ∨ l'.pathname = "/register") :
    rank (some a) l' < rank (some a) l := by
  have htwo : rank (some a) l' = 2 := by
    rcases h' with h' | h'
    · rw [rank_of_ne_login (by rw [h']; decide), level_member hmember, h']
      rfl
    · rw [rank_of_ne_login (by rw [h']; decide), level_member hmember, h']
      rfl
  have hthree : level (some a) l.pathname = 3 := by
    rcases h with h | h
    · rw [level_member hmember, h]
      rfl
    · rw [level_member hmember, h]
      rfl
  rw [htwo]
  exact Nat.lt_of_lt_of_le (by rw [hthree]; decide) level_le_rank

/-- The way back after a login is shorter than what it was read from. -/
theorem rank_next {next : String} (hlogin : l.pathname = "/login") (h : nextPath l = some next) :
    rank (some a) (Location.ofHref next) < rank (some a) l := by
  have hget : Percent.get "next" l.search = some next := by
    rw [nextPath, sanitizeNextPath, Option.filter_eq_some_iff] at h
    exact h.1
  have hlt := Percent.length_lt_of_get (by decide) hget
  have hle := size_search_ofHref_le next
  have hrank : rank (some a) l = 2 + 4 * Percent.size l.search :=
    if_pos ⟨by rw [Option.any_some, hmember]; rfl, hlogin⟩
  have hlevel : level (some a) (Location.ofHref next).pathname ≤ 3 := by
    rw [level_member hmember]
    split_ifs <;> decide
  rw [hrank, rank]
  split <;> omega

theorem rank_lt_of_member (h : Move (some a) l l') : rank (some a) l' < rank (some a) l := by
  rcases h with ⟨hproxy⟩ | ⟨hpass, hgate⟩
  · cases redirected_of_proxy hproxy with
    | landing h => exact rank_leave hmember (.inl h) (.inl rfl)
    | startTrial hout | login hout => cases hout
    | leaveTrial _ _ h =>
        exact rank_settled hmember (notMem_of_apply h (by decide)) (.inl rfl)
    | welcome _ _ h =>
        refine rank_settled hmember ?_ ?_
        · rcases h with h | h
          · rw [h]
            decide
          · exact notMem_of_apply h (by decide)
        · split
          · exact .inl rfl
          · exact .inr rfl
    | done _ h honboarded => exact rank_done hmember h honboarded
    | unfinished _ _ h honboarded => exact rank_unfinished hmember h honboarded
    | toTrial _ hguest | complete _ hguest | notComplete _ hguest =>
        rw [view_isGuest, hmember, Bool.and_false] at hguest
        cases hguest
  · cases sent_of_mem_gates hgate with
    | enter hpage _ _ h => exact rank_settled hmember (notMem_of_apply hpage (by decide)) h
    | landing hpage =>
        exact rank_leave hmember (.inl (pathname_of_landingRedirect hpage)) (.inl rfl)
    | back hpage =>
        cases hnext : nextPath l with
        | none => exact rank_settled hmember (notMem_of_apply hpage (by decide)) (.inl rfl)
        -- the way back may be another login page, with a shorter query
        | some next => exact rank_next hmember (pathname_of_login hpage) hnext
    | done hpage honboarded =>
        exact rank_done hmember (pathname_of_profileSetup hpage) honboarded
    | unfinished hpage _ honboarded =>
        refine rank_unfinished hmember ?_ honboarded
        rintro h
        rw [h] at hpage
        exact absurd hpage (by decide)
    | leaveTrial hpage => exact rank_settled hmember (notMem_of_apply hpage (by decide)) (.inl rfl)
    | complete hpage =>
        exact rank_leave hmember (.inr (pathname_of_tryComplete hpage)) (.inr rfl)
    | login _ hout => cases hout
    | noSetup _ hguest | toTrial _ hguest | consumed _ hguest =>
        rw [view_isGuest, hmember, Bool.and_false] at hguest
        cases hguest

end Member

/-! ### Guests -/

section Guest

variable (hguest : a.isGuest = true)

include hguest

theorem rank_guest (l : Location) : rank (some a) l =
    if l.pathname ∈ ["/", "/login", "/register"] then 0
    else if l.pathname = "/try" then if a.trialConsumed then 2 else 0
    else if l.pathname = "/try/complete" then 1
    else if l.pathname = "/profile-setup" then 4
    else 3 := by
  rw [rank, if_neg, level, if_pos hguest]
  rw [Option.any_some, hguest]
  exact fun h => Bool.false_ne_true h.1

theorem rank_landing (h : l.pathname ∈ ["/", "/login", "/register"]) : rank (some a) l = 0 := by
  rw [rank_guest hguest, if_pos h]

theorem rank_try : rank (some a) guestTrial = if a.trialConsumed then 2 else 0 :=
  rank_guest hguest _

theorem rank_tryComplete : rank (some a) guestTrialComplete = 1 := rank_guest hguest _

theorem rank_of_tryComplete (h : l.pathname = "/try/complete") : rank (some a) l = 1 := by
  rw [rank_guest hguest, h]
  rfl

theorem rank_home_of_guest : rank (some a) home = 3 := rank_guest hguest _

theorem rank_trialLanding : rank (some a) (guestTrialLandingPath a.trialConsumed) ≤ 1 := by
  cases hconsumed : a.trialConsumed with
  | true => exact Nat.le_of_eq (rank_tryComplete hguest)
  | false =>
      refine Nat.le_trans (Nat.le_of_eq (rank_try hguest)) ?_
      rw [hconsumed, if_neg Bool.false_ne_true]
      exact Nat.zero_le 1

theorem three_le_rank (h : l.pathname ∉ ["/", "/login", "/register", "/try", "/try/complete"]) :
    3 ≤ rank (some a) l := by
  simp only [List.mem_cons, List.not_mem_nil, or_false, not_or] at h
  obtain ⟨hroot, hlogin, hregister, htry, hcomplete⟩ := h
  rw [rank_guest hguest, if_neg (by simp [hroot, hlogin, hregister]), if_neg htry, if_neg hcomplete]
  split <;> decide

theorem rank_setup (h : l.pathname = "/profile-setup") : rank (some a) l = 4 := by
  rw [rank_guest hguest, h]
  rfl

omit hguest in
/-- Who knows of a guest knows whether the trial is over. -/
theorem trialConsumed_of_told (h : (view (some a) told).isGuest = true) :
    (view (some a) told).trialConsumed = a.trialConsumed := by
  rw [view_isGuest] at h
  rw [view_trialConsumed, (Bool.and_eq_true_iff.mp h).1, Bool.true_and]

theorem rank_complete (htry : isGuestTrialRoute l.pathname = true)
    (hnot : isGuestTrialCompleteRoute l.pathname = false) (hconsumed : a.trialConsumed = true) :
    1 < rank (some a) l := by
  by_cases hpath : l.pathname = "/try"
  · rw [rank_guest hguest, hpath, hconsumed]
    decide
  · refine Nat.lt_of_lt_of_le (by decide) (three_le_rank hguest fun hmem => ?_)
    simp only [List.mem_cons, List.not_mem_nil, or_false] at hmem
    rcases hmem with h | h | h | h | h
    · exact absurd htry (by rw [h]; decide)
    · exact absurd htry (by rw [h]; decide)
    · exact absurd htry (by rw [h]; decide)
    · exact hpath h
    · exact absurd hnot (by rw [h]; decide)

theorem rank_notComplete (hcomplete : isGuestTrialCompleteRoute l.pathname = true) :
    0 < rank (some a) l := by
  by_cases hpath : l.pathname = "/try/complete"
  · rw [rank_of_tryComplete hguest hpath]
    exact Nat.zero_lt_one
  · refine Nat.lt_of_lt_of_le (by decide) (three_le_rank hguest fun hmem => ?_)
    have hnot : l.pathname ∉ ["/", "/login", "/register", "/try"] :=
      notMem_of_apply hcomplete (by decide)
    simp only [List.mem_cons, List.not_mem_nil, or_false, not_or] at hmem hnot
    simp only [hnot.1, hnot.2.1, hnot.2.2.1, hnot.2.2.2, hpath, or_self] at hmem

omit hguest in
theorem notMem_of_toTrial (hroot : l.pathname ≠ "/")
    (hconversion : isGuestAccountConversionRoute l.pathname = false)
    (h : publicRoutes.contains l.pathname = true ∨ isGuestTrialRoute l.pathname = false) :
    l.pathname ∉ ["/", "/login", "/register", "/try", "/try/complete"] := by
  intro hmem
  simp only [List.mem_cons, List.not_mem_nil, or_false] at hmem
  rcases hmem with hp | hp | hp | hp | hp
  · exact hroot hp
  · exact absurd hconversion (by rw [hp]; decide)
  · exact absurd hconversion (by rw [hp]; decide)
  · exact h.elim (fun h => absurd h (by rw [hp]; decide)) fun h => absurd h (by rw [hp]; decide)
  · exact h.elim (fun h => absurd h (by rw [hp]; decide)) fun h => absurd h (by rw [hp]; decide)

theorem rank_lt_of_guest (h : Move (some a) l l') : rank (some a) l' < rank (some a) l := by
  rcases h with ⟨hproxy⟩ | ⟨hpass, hgate⟩
  · cases redirected_of_proxy hproxy with
    | landing h =>
        rw [rank_landing hguest (by decide)]
        exact Nat.lt_of_lt_of_le (by decide) (three_le_rank hguest (by rw [h]; decide))
    | toTrial _ htold h =>
        rw [trialConsumed_of_told htold]
        exact Nat.lt_of_le_of_lt (rank_trialLanding hguest) (Nat.lt_of_lt_of_le (by decide)
          (three_le_rank hguest (notMem_of_toTrial h.1 h.2.1 h.2.2)))
    | complete _ htold hconsumed h hnot =>
        rw [trialConsumed_of_told htold] at hconsumed
        rw [rank_tryComplete hguest]
        exact rank_complete hguest h hnot hconsumed
    | notComplete _ htold hconsumed h =>
        rw [trialConsumed_of_told htold] at hconsumed
        rw [rank_try hguest, hconsumed, if_neg Bool.false_ne_true]
        exact rank_notComplete hguest h
    | done _ h =>
        rw [rank_setup hguest h, rank_home_of_guest hguest]
        decide
    | startTrial hout | login hout => cases hout
    | leaveTrial _ hmember | welcome _ hmember | unfinished _ hmember =>
        rw [view_isMember, hguest, Bool.not_true, Bool.and_false] at hmember
        cases hmember
  · cases sent_of_mem_gates hgate with
    | landing hpage =>
        rw [rank_landing hguest (by decide)]
        exact Nat.lt_of_lt_of_le (by decide)
          (three_le_rank hguest (notMem_of_apply hpage (by decide)))
    | noSetup hpage htold h =>
        rw [rank_setup hguest (pathname_of_profileSetup hpage)]
        rcases h with rfl | rfl
        · rw [trialConsumed_of_told htold]
          exact Nat.lt_of_le_of_lt (rank_trialLanding hguest) (by decide)
        · rw [rank_try hguest]
          split <;> decide
    | done hpage =>
        rw [rank_setup hguest (pathname_of_profileSetup hpage), rank_home_of_guest hguest]
        decide
    | toTrial hpage htold =>
        rw [trialConsumed_of_told htold]
        exact Nat.lt_of_le_of_lt (rank_trialLanding hguest) (Nat.lt_of_lt_of_le (by decide)
          (three_le_rank hguest (notMem_of_apply hpage (by decide))))
    | consumed hpage htold hconsumed =>
        rw [trialConsumed_of_told htold] at hconsumed
        rw [rank_landing hguest (by decide), rank_guest hguest, pathname_of_tryPage hpage,
          hconsumed]
        decide
    | complete hpage =>
        rw [rank_landing hguest (by decide),
          rank_of_tryComplete hguest (pathname_of_tryComplete hpage)]
        exact Nat.zero_lt_one
    | login _ hout => cases hout
    | enter _ _ hmember | back _ _ hmember | unfinished _ hmember | leaveTrial _ _ hmember =>
        rw [view_isMember, hguest, Bool.not_true, Bool.and_false] at hmember
        cases hmember

end Guest

theorem rank_lt_of_move (h : Move who l l') : rank who l' < rank who l := by
  cases who with
  | none => exact rank_lt_of_nobody h
  | some a =>
      cases hguest : a.isGuest with
      | true => exact rank_lt_of_guest hguest h
      | false => exact rank_lt_of_member hguest h

end Greetup.Client.Navigation
