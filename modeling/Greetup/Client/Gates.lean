import Greetup.Client.Routes

/-!
The gates that a user passes on the way to a page: the proxy in front of the
client, and the effects of the pages that send users on. Every gate knows the
session and whether the set-up is done; the status of a guest may not have
loaded, or have failed to.
-/

namespace Greetup.Client.Navigation

open Data

structure GuestStatusSnapshot where
  isGuest : Bool
  trialConsumed : Bool

/-- What a gate has been told. -/
structure View where
  isLoggedIn : Bool
  guestStatus : Option GuestStatusSnapshot
  isOnboarded : Bool

/-- `guestStatus?.isGuest === false` -/
def View.isMember (v : View) : Bool := v.guestStatus.any (!·.isGuest)

def View.isGuest (v : View) : Bool := v.guestStatus.any (·.isGuest)

def View.trialConsumed (v : View) : Bool := v.guestStatus.any (·.trialConsumed)

def home : Location := at_ "/home"

def profileSetup : Location := at_ onboardingRoute

/-! ### The proxy -/

/-- Guest trial routing. -/
def resolveGuestRouteRedirect (v : View) (pathname : String) : Option Location :=
  if !v.isLoggedIn then none
  else
    match v.guestStatus with
    | none => none
    | some guestStatus =>
      -- a full account has no use for the trial
      if !guestStatus.isGuest then
        if isGuestTrialRoute pathname then some home else none
      else
        let trialLanding := guestTrialLandingPath guestStatus.trialConsumed
        -- guests may browse the landing page and sign up
        if pathname = "/" then none
        else if isGuestAccountConversionRoute pathname then none
        else if publicRoutes.contains pathname then some trialLanding
        else if isGuestTrialRoute pathname then
          if guestStatus.trialConsumed && !isGuestTrialCompleteRoute pathname then
            some guestTrialComplete
          else if !guestStatus.trialConsumed && isGuestTrialCompleteRoute pathname then
            some guestTrial
          else none
        else if isGuestSpaceMatchRoom pathname then none
        else if isGuestBlockedRoute pathname || isProtectedRoute pathname then some trialLanding
        else none

/-- Where the proxy sends the request, unless it lets it pass. -/
def proxy (v : View) (l : Location) : Option Location :=
  if shouldSkipProxy l.pathname then none
  else if l.pathname = "/landing" then some (at_ "/")
  else if isCommonRoute l.pathname then none
  else if !v.isLoggedIn && isGuestTrialRoute l.pathname then none
  else if !v.isLoggedIn && isGuestSpaceMatchRoom l.pathname then some guestTrial
  else
    match resolveGuestRouteRedirect v l.pathname with
    | some guestRedirect => some guestRedirect
    | none =>
      -- only a confirmed member is sent on, an unknown status is let pass
      if v.isLoggedIn && l.pathname = "/" && v.isMember then
        some (if v.isOnboarded then home else profileSetup)
      else if v.isLoggedIn && publicRoutes.contains l.pathname then
        if !v.isMember && isGuestAccountConversionRoute l.pathname then none
        else if v.isMember then some (if v.isOnboarded then home else profileSetup)
        else none
      else if !v.isLoggedIn && isProtectedRoute l.pathname then
        some (loginUrl Percent.form l.href)
      -- the setup is left by whoever is done with it, and only then
      else if v.isLoggedIn && isOnboardingRoute l.pathname && v.isOnboarded then some home
      else if v.isLoggedIn && v.isMember && isOnboardingRequiredRoute l.pathname &&
          !isOnboardingRoute l.pathname && !v.isOnboarded then
        some profileSetup
      else none

/-! ### The pages -/

inductive Page
  | landing
  | landingRedirect
  | login
  | profileSetup
  /-- below `RequireOnboarding` -/
  | shell
  | tryPage
  | tryComplete
  | other
  deriving DecidableEq

def shellRoutes : List String :=
  ["/connections", "/explore", "/home", "/messages", "/open-now", "/profile", "/settings",
    "/space/search", "/spaces"]

/-- Those with one more segment, which is a parameter. -/
def shellParents : List String := ["/messages/d/", "/messages/s/", "/space/", "/u/"]

def isChild (pathname parent : String) : Bool :=
  startsWith pathname parent &&
    (let segment := pathname.toList.drop parent.length
     segment ≠ [] && !segment.contains '/')

/-- The page at a path; `(realtime)` is the shell. -/
def page (pathname : String) : Page :=
  if pathname = "/" then .landing
  else if pathname = "/landing" then .landingRedirect
  else if pathname = "/login" then .login
  else if pathname = "/profile-setup" then .profileSetup
  else if pathname = "/try" then .tryPage
  else if pathname = "/try/complete" then .tryComplete
  else if shellRoutes.contains pathname || shellParents.any (isChild pathname) then .shell
  else .other

def rootAuthGate (v : View) : Option Location :=
  if v.isLoggedIn && v.isMember then some (if !v.isOnboarded then profileSetup else home)
  else none

def landingAuthRedirect (v : View) : Option Location :=
  if v.isLoggedIn && v.isMember then some home else none

def loginRedirect (v : View) (l : Location) : Option Location :=
  if v.isLoggedIn && v.isMember then some ((nextPath l).elim home Location.ofHref) else none

/-- The first of the two effects of the provider. -/
def profileSetupRedirect (v : View) : Option Location :=
  if v.isGuest then some (guestTrialLandingPath v.trialConsumed)
  else if v.isOnboarded then some home
  else none

def guestStepsRedirect (v : View) : Option Location :=
  if v.isGuest then some guestTrial else none

def withMark (query : List Char) : List Char := if query = [] then [] else '?' :: query

theorem withMark_query {query : List Char} (h : '#' ∉ query) :
    '#' ∉ withMark query ∧ (withMark query = [] ∨ (withMark query).head? = some '?') := by
  rw [withMark]
  split
  · exact ⟨List.not_mem_nil, .inl rfl⟩
  · refine ⟨fun hmem => ?_, .inr rfl⟩
    rcases List.mem_cons.mp hmem with heq | hmem
    · exact absurd heq (by decide)
    · exact h hmem

/-- The location with its query written anew. -/
def Location.rewritten (l : Location) : Location where
  pathname := l.pathname
  search := withMark (Percent.form.text (Percent.params l.search))
  path := l.path
  query := withMark_query (Percent.form.hash_notMem_text _)

def requireOnboarding (v : View) (l : Location) : Option Location :=
  if isGuestTrialRoute l.pathname then none
  else if !v.isLoggedIn then some (buildLoginUrl l.rewritten.href)
  else if v.isGuest && !isGuestSpaceMatchRoom l.pathname then
    some (guestTrialLandingPath v.trialConsumed)
  else if v.isMember && !v.isOnboarded && !pathMatchesPrefix l.pathname onboardingRoute then
    some profileSetup
  else none

/-- `TRY_SIGNUP_ROUTE` -/
def trySignup : Location := ⟨"/register", "?from=guest".toList, by decide, by decide, by decide⟩

def tryBoot (v : View) : Option Location :=
  if !v.isLoggedIn then none
  else
    match v.guestStatus with
    | none => none
    | some status =>
      if !status.isGuest then some home else if status.trialConsumed then some trySignup else none

/-- Where the effects of the page send the user; of two effects either may win. -/
def gates (v : View) (l : Location) : List Location :=
  match page l.pathname with
  | .landing => (rootAuthGate v).toList ++ (landingAuthRedirect v).toList
  | .landingRedirect => [at_ "/"]
  | .login => (loginRedirect v l).toList
  | .profileSetup => (profileSetupRedirect v).toList ++ (guestStepsRedirect v).toList
  | .shell => (requireOnboarding v l).toList
  | .tryPage => (tryBoot v).toList
  | .tryComplete => [trySignup]
  | .other => []

/-! ### Moves -/

structure Account where
  isGuest : Bool
  trialConsumed : Bool
  isOnboarded : Bool

/-- What a gate is told: the session as it is, with or without the status. -/
def view (who : Option Account) (told : Bool) : View :=
  match who with
  | none => ⟨false, none, false⟩
  | some a => ⟨true, if told then some ⟨a.isGuest, a.trialConsumed⟩ else none, a.isOnboarded⟩

/-- The user is sent on, by the proxy or by the page that it lets pass. -/
inductive Move (who : Option Account) (l : Location) : Location → Prop
  | proxy {told : Bool} {l' : Location} (h : proxy (view who told) l = some l') : Move who l l'
  | gate {told told' : Bool} {l' : Location} (hpass : Navigation.proxy (view who told) l = none)
      (h : l' ∈ gates (view who told') l) : Move who l l'

end Greetup.Client.Navigation
