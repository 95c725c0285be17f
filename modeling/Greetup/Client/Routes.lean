import Greetup.Data.Percent

/-!
Where a user is in the client, and the tests by which routes are told apart.
-/

namespace Greetup.Client.Navigation

open Data

/-! ### Locations -/

/-- Neither starts a query nor a hash. -/
def isPathChar (c : Char) : Bool := c ≠ '?' && c ≠ '#'

/-- The path and the query of a URL of the site. -/
structure Location where
  pathname : String
  search : List Char
  path : pathname.toList.all isPathChar = true
  query : '#' ∉ search ∧ (search = [] ∨ search.head? = some '?')
  deriving DecidableEq

def Location.href (l : Location) : String := l.pathname ++ String.ofList l.search

theorem head?_dropWhile {α : Type} (p : α → Bool) (l : List α) :
    l.dropWhile p = [] ∨ ∃ a, (l.dropWhile p).head? = some a ∧ p a = false := by
  cases h : l.dropWhile p with
  | nil => exact .inl rfl
  | cons a rest =>
      have hhead := List.head?_dropWhile_not p l
      rw [h] at hhead
      exact .inr ⟨a, rfl, hhead⟩

/-- A reference that starts with a slash: the path goes to the question mark, and
what follows a hash is no part of either. -/
def Location.ofHref (href : String) : Location where
  pathname := String.ofList ((href.toList.takeWhile (· ≠ '#')).takeWhile (· ≠ '?'))
  search := (href.toList.takeWhile (· ≠ '#')).dropWhile (· ≠ '?')
  path := by
    rw [String.toList_ofList]
    refine List.all_eq_true.mpr fun c hc => ?_
    have hmark := List.mem_takeWhile_imp (p := fun c => decide (c ≠ '?')) hc
    have hhash := List.mem_takeWhile_imp (p := fun c => decide (c ≠ '#'))
      ((List.takeWhile_sublist _).subset hc)
    exact Bool.and_eq_true_iff.mpr ⟨hmark, hhash⟩
  query := by
    refine ⟨fun hmem => ?_, ?_⟩
    · have hhash := List.mem_takeWhile_imp (p := fun c => decide (c ≠ '#'))
        ((List.dropWhile_sublist _).subset hmem)
      exact of_decide_eq_true hhash rfl
    · rcases head?_dropWhile (· ≠ '?') (href.toList.takeWhile (· ≠ '#')) with h | ⟨c, h, hc⟩
      · exact .inl h
      · rw [h, Decidable.not_not.mp (of_decide_eq_false hc)]
        exact .inr rfl

theorem Location.of_mem_path {l : Location} {c : Char} (h : c ∈ l.pathname.toList) :
    c ≠ '?' ∧ c ≠ '#' := by
  have hboth := Bool.and_eq_true_iff.mp (List.all_eq_true.mp l.path c h)
  exact ⟨of_decide_eq_true hboth.1, of_decide_eq_true hboth.2⟩

theorem Location.ext {l l' : Location} (hpath : l.pathname = l'.pathname)
    (hsearch : l.search = l'.search) : l = l' := by
  cases l
  cases l'
  cases hpath
  cases hsearch
  rfl

/-- What is remembered of a location is the location. -/
theorem Location.ofHref_href (l : Location) : Location.ofHref l.href = l := by
  have htext : l.href.toList = l.pathname.toList ++ l.search := by
    rw [href, String.toList_append, String.toList_ofList]
  have hhash : (l.pathname.toList ++ l.search).takeWhile (· ≠ '#') =
      l.pathname.toList ++ l.search := by
    refine List.takeWhile_eq_self_iff.mpr fun c hc => decide_eq_true ?_
    rcases List.mem_append.mp hc with hc | hc
    · exact (of_mem_path hc).2
    · rintro rfl
      exact l.query.1 hc
  have hpath : ∀ c ∈ l.pathname.toList, decide (c ≠ '?') = true :=
    fun c hc => decide_eq_true (of_mem_path hc).1
  have hsearch : l.search.takeWhile (· ≠ '?') = [] ∧ l.search.dropWhile (· ≠ '?') = l.search := by
    cases hs : l.search with
    | nil => exact ⟨rfl, rfl⟩
    | cons c rest =>
        have hmark := l.query.2
        rw [hs] at hmark
        cases Option.some.inj (hmark.resolve_left (List.cons_ne_nil _ _))
        exact ⟨rfl, rfl⟩
  refine Location.ext ?_ ?_
  · show String.ofList ((l.href.toList.takeWhile (· ≠ '#')).takeWhile (· ≠ '?')) = l.pathname
    rw [htext, hhash, List.takeWhile_append_of_pos hpath, hsearch.1, List.append_nil,
      String.ofList_toList]
  · show (l.href.toList.takeWhile (· ≠ '#')).dropWhile (· ≠ '?') = l.search
    rw [htext, hhash, List.dropWhile_append_of_pos hpath, hsearch.2]

theorem size_search_ofHref_le (href : String) :
    Percent.size (Location.ofHref href).search ≤ (Percent.bytes href).length := by
  rw [Percent.length_bytes]
  exact Percent.size_le_of_sublist
    ((List.dropWhile_sublist _).trans (List.takeWhile_sublist _))

/-- A path without a query. -/
def at_ (pathname : String) (path : pathname.toList.all isPathChar = true := by decide) :
    Location :=
  ⟨pathname, [], path, List.not_mem_nil, .inl rfl⟩

/-! ### Routes -/

def startsWith (s route : String) : Bool := route.toList.isPrefixOf s.toList

def endsWith (s ending : String) : Bool := ending.toList.isSuffixOf s.toList

/-- `PUBLIC_ROUTES` -/
def publicRoutes : List String :=
  ["/login", "/register", "/forgot-password", "/reset-password", "/verify-email"]

/-- `PROTECTED_ROUTES` -/
def protectedRoutes : List String :=
  ["/home", "/profile", "/settings", "/profile-setup", "/explore", "/connections", "/u",
    "/messages", "/spaces", "/open-now", "/chat", "/space"]

def onboardingRoute : String := "/profile-setup"

/-- `ONBOARDING_REQUIRED_ROUTES` -/
def onboardingRequiredRoutes : List String := protectedRoutes.filter (· ≠ onboardingRoute)

def guestTrialRoute : String := "/try"

def guestTrialCompleteRoute : String := "/try/complete"

/-- `GUEST_BLOCKED_ROUTES` -/
def guestBlockedRoutes : List String := protectedRoutes.filter (· ≠ "/space") ++ ["/space/search"]

/-- `COMMON_ROUTES` -/
def commonRoutes : List String :=
  ["/about", "/contact", "/pricing", "/features", "/blog", "/help", "/faq", "/terms", "/privacy",
    "/community-guidelines"]

def skippedEndings : List String :=
  [".ico", ".png", ".jpg", ".jpeg", ".svg", ".gif", ".webp", ".css", ".js", ".json", ".woff",
    ".woff2", ".ttf", ".eot", ".otf", ".pdf"]

def shouldSkipProxy (pathname : String) : Bool :=
  startsWith pathname "/_next" || startsWith pathname "/api" || startsWith pathname "/static" ||
    skippedEndings.any (endsWith pathname)

def isProtectedRoute (pathname : String) : Bool :=
  protectedRoutes.any fun route =>
    if route = "/" then pathname = "/" else startsWith pathname route

def isOnboardingRequiredRoute (pathname : String) : Bool :=
  onboardingRequiredRoutes.any fun route =>
    if route = "/" then pathname = "/" else startsWith pathname route

def isOnboardingRoute (pathname : String) : Bool := pathname = onboardingRoute

def isCommonRoute (pathname : String) : Bool :=
  commonRoutes.contains pathname ||
    commonRoutes.any fun route =>
      if route = "/" then pathname = "/" else startsWith pathname (route ++ "/")

def isGuestTrialRoute (pathname : String) : Bool :=
  pathname = guestTrialRoute || startsWith pathname (guestTrialRoute ++ "/")

def isGuestTrialCompleteRoute (pathname : String) : Bool :=
  pathname = guestTrialCompleteRoute || startsWith pathname (guestTrialCompleteRoute ++ "/")

/-- Direct match room `/space/[roomId]`, not browse or search. -/
def isGuestSpaceMatchRoom (pathname : String) : Bool :=
  if !startsWith pathname "/space/" then false
  else if pathname = "/space/search" || startsWith pathname "/space/search/" then false
  else
    let roomId := pathname.toList.drop "/space/".length
    roomId ≠ [] && !roomId.contains '/'

/-- Routes guests use while upgrading to a full account. -/
def isGuestAccountConversionRoute (pathname : String) : Bool :=
  pathname = "/register" || pathname = "/login" || pathname = "/verify-email"

def isGuestBlockedRoute (pathname : String) : Bool :=
  guestBlockedRoutes.any fun route =>
    if route = "/" then pathname = "/"
    else pathname = route || startsWith pathname (route ++ "/")

def guestTrial : Location := at_ guestTrialRoute

def guestTrialComplete : Location := at_ guestTrialCompleteRoute

def guestTrialLandingPath (trialConsumed : Bool) : Location :=
  if trialConsumed then guestTrialComplete else guestTrial

def pathMatchesPrefix (pathname route : String) : Bool :=
  pathname = route || startsWith pathname (route ++ "/")

/-! ### The way back after a login -/

/-- Only internal, absolute paths. -/
def sanitizeNextPath (next : Option String) : Option String :=
  next.filter fun next => next ≠ "" && startsWith next "/" &&
    !(startsWith next "//" || startsWith next "/\\")

/-- `/login` with the query that one of the encoders writes. -/
def loginUrl (encoder : Percent.Encoder) (next : String) : Location where
  pathname := "/login"
  search := encoder.query "next" next
  path := by decide
  query := by
    refine ⟨fun hmem => ?_, .inr rfl⟩
    rcases List.mem_append.mp hmem with hmem | hmem
    · exact absurd hmem (by decide)
    · rcases List.mem_cons.mp hmem with heq | hmem
      · exact absurd heq (by decide)
      · exact (encoder.mem_encode hmem).2.1 rfl

def buildLoginUrl (returnPath : String) : Location :=
  match sanitizeNextPath (some returnPath) with
  | some safe => if safe = "/login" then at_ "/login" else loginUrl Percent.component safe
  | none => at_ "/login"

/-- The path that a login page returns to. -/
def nextPath (l : Location) : Option String := sanitizeNextPath (Percent.get "next" l.search)

end Greetup.Client.Navigation
