import Greetup.Client.Resting

/-!
The way to the login page and back to where the login was asked for.
-/

namespace Greetup.Client.Navigation

open Data

variable {l l' : Location} {a : Account}

/-! ### The statement -/

structure ReturnsTo (l : Location) : Prop where
  /-- Nobody is served a protected path. A room leads to the trial instead. -/
  asked : shouldSkipProxy l.pathname = false → isProtectedRoute l.pathname = true →
    isGuestSpaceMatchRoom l.pathname = false →
    (∃ l', Move none l l') ∧ ∀ l', Move none l l' → l'.pathname = "/login"
  /-- The login page knows only one way on, to the path and its parameters. -/
  back : ∀ l', Move none l l' → l'.pathname = "/login" → ∀ a : Account, a.isGuest = false →
    ∃ last, gates (view (some a) true) l' = [last] ∧ last.pathname = l.pathname ∧
      Percent.params last.search = Percent.params l.search

/-! ### What the login page remembers -/

theorem startsWith_href {r : String} (h : startsWith l.pathname r = true) :
    startsWith l.href r = true := by
  refine List.isPrefixOf_iff_prefix.mpr
    (List.IsPrefix.trans (List.isPrefixOf_iff_prefix.mp h) ?_)
  rw [Location.href, String.toList_append]
  exact List.prefix_append _ _

/-- The routes are absolute paths of the site. -/
def areInternal (routes : List String) : Bool :=
  routes.all (startsWith · "/") && areApart routes ["//", "/\\"]

theorem sanitizeNextPath_of_areInternal {routes : List String} {r next : String}
    (hinternal : areInternal routes = true) (hr : r ∈ routes) (h : startsWith next r = true) :
    sanitizeNextPath (some next) = some next := by
  obtain ⟨hslash, hapart⟩ := Bool.and_eq_true_iff.mp hinternal
  have habsolute : startsWith next "/" = true :=
    List.isPrefixOf_iff_prefix.mpr (List.IsPrefix.trans
      (List.isPrefixOf_iff_prefix.mp (List.all_eq_true.mp hslash r hr))
      (List.isPrefixOf_iff_prefix.mp h))
  have hhost : startsWith next "//" = false :=
    not_startsWith_of_areApart hapart hr (by decide) h
  have hbackslash : startsWith next "/\\" = false :=
    not_startsWith_of_areApart hapart hr (by decide) h
  have hne : next ≠ "" := by
    rintro rfl
    exact absurd habsolute (by decide)
  rw [sanitizeNextPath, Option.filter_some, if_pos]
  simp only [hne, habsolute, hhost, hbackslash, ne_eq, not_false_eq_true, decide_true,
    Bool.or_self, Bool.not_false, Bool.and_self]

theorem nextPath_loginUrl {encoder : Percent.Encoder} {next : String}
    (h : sanitizeNextPath (some next) = some next) :
    nextPath (loginUrl encoder next) = some next := by
  have hget : Percent.get "next" (encoder.query "next" next) = some next :=
    Percent.Encoder.get_query next (by decide +kernel) (by decide) (by decide)
  show sanitizeNextPath (Percent.get "next" (encoder.query "next" next)) = some next
  rw [hget, h]

/-- Whoever logs in at a login page that remembers a location goes there. -/
theorem gates_loginUrl {encoder : Percent.Encoder} (hmember : a.isGuest = false)
    (h : sanitizeNextPath (some l.href) = some l.href) :
    gates (view (some a) true) (loginUrl encoder l.href) = [l] := by
  have hpage : page (loginUrl encoder l.href).pathname = .login := rfl
  simp only [gates, hpage, loginRedirect, view_isLoggedIn, view_isMember, hmember, Bool.not_false,
    Bool.and_self, if_true, nextPath_loginUrl h, Option.elim_some, Location.ofHref_href,
    Option.toList_some]

theorem params_withMark (query : List Char) :
    Percent.params (withMark query) = Percent.params ('?' :: query) := by
  rw [withMark]
  split
  · rename_i hnil
    rw [hnil]
    rfl
  · rfl

theorem params_rewritten (l : Location) :
    Percent.params l.rewritten.search = Percent.params l.search :=
  (params_withMark _).trans (Percent.Encoder.params_text _ _)

theorem sanitizeNextPath_of_protected (h : isProtectedRoute l.pathname = true) :
    sanitizeNextPath (some l.href) = some l.href := by
  obtain ⟨r, hr, hstarts⟩ := exists_of_isProtectedRoute h
  exact sanitizeNextPath_of_areInternal (by decide) hr (startsWith_href hstarts)

theorem sanitizeNextPath_of_shell (h : page l.pathname = .shell) :
    sanitizeNextPath (some l.href) = some l.href := by
  rcases cases_of_shell h with hroute | ⟨r, hr, hstarts⟩
  · exact sanitizeNextPath_of_areInternal (by decide) hroute (startsWith_href (startsWith_self _))
  · exact sanitizeNextPath_of_areInternal (by decide) hr (startsWith_href hstarts)

theorem buildLoginUrl_of_shell (h : page l.pathname = .shell) :
    buildLoginUrl l.href = loginUrl Percent.component l.href := by
  -- a reference to the login page would be dropped, but that is no page of the shell
  have hlogin : l.href ≠ "/login" := by
    intro hhref
    have hpath : l.pathname = "/login" := by
      rw [← Location.ofHref_href l, hhref]
      rfl
    rw [hpath] at h
    exact absurd h (by decide)
  simp only [buildLoginUrl, sanitizeNextPath_of_shell h, if_neg hlogin]

/-! ### There and back -/

theorem back_of_move (hmove : Move none l l') (hlogin : l'.pathname = "/login")
    (hmember : a.isGuest = false) :
    gates (view (some a) true) l' = [l] ∨ gates (view (some a) true) l' = [l.rewritten] := by
  rcases hmove with ⟨hproxy⟩ | ⟨hpass, hgate⟩
  · cases redirected_of_proxy hproxy with
    | login _ h => exact .inl (gates_loginUrl hmember (sanitizeNextPath_of_protected h))
    | landing | startTrial => exact absurd hlogin (by decide)
    | leaveTrial hin | toTrial hin | complete hin | notComplete hin | welcome hin | done hin
    | unfinished hin => cases hin
  · cases sent_of_mem_gates hgate with
    | login hpage =>
        have hshell : page l.rewritten.pathname = .shell := hpage
        rw [buildLoginUrl_of_shell hshell]
        exact .inr (gates_loginUrl hmember (sanitizeNextPath_of_shell hshell))
    | landing | complete => exact absurd hlogin (by decide)
    | enter _ hin | back _ hin | leaveTrial _ hin => cases hin
    | noSetup _ hguest | toTrial _ hguest | consumed _ hguest => cases hguest
    | done _ honboarded => cases honboarded
    | unfinished _ hmember => cases hmember

/-- Nobody gets at a protected path before a login, and whoever logs in there is
led to what was asked for. -/
theorem returnsTo (l : Location) : ReturnsTo l where
  asked hskip hprotected hroom := by
    have hsent (told : Bool) :
        proxy (view none told) l = some (loginUrl Percent.form l.href) := by
      rw [proxy_of_nobody hskip hprotected, hroom]
      rfl
    refine ⟨⟨_, .proxy (hsent false)⟩, ?_⟩
    rintro l' (⟨hproxy⟩ | ⟨hpass, -⟩)
    · rw [hsent] at hproxy
      cases hproxy
      rfl
    · rw [hsent] at hpass
      cases hpass
  back l' hmove hlogin a hmember := by
    rcases back_of_move hmove hlogin hmember with hback | hback
    · exact ⟨l, hback, rfl, rfl⟩
    · exact ⟨l.rewritten, hback, rfl, params_rewritten l⟩

end Greetup.Client.Navigation
