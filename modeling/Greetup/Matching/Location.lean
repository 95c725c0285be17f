import Greetup.Matching.Types

/-!
Location preferences and the bucket names of the pool index.
-/

namespace Greetup.Matching

variable [Host]

inductive CanonicalDistancePreference
  | random
  | sameCity
  | sameRegion
  | sameCountry
  | global
  deriving DecidableEq, Repr

def canonicalDistancePreference (value : Option String) :
    Option CanonicalDistancePreference :=
  match value with
  | none | some "" => none
  | some value =>
    let n := normalize value
    if n = "same city" ∨ n = "same_city" ∨ n = "nearby" then some .sameCity
    else if n = "same region" ∨ n = "same_region" then some .sameRegion
    else if n = "same country" ∨ n = "same_country" then some .sameCountry
    else if n = "global" then some .global
    else some .random

/-- ISO country code for bucket keys. -/
def normalizeCountryCode (value : Option String) : Option Text :=
  value.bind fun value => Text.of? (normalize value)

/-- Every run of characters outside `a-z0-9` becomes one underscore. -/
def collapse : List Char → List Char
  | [] => []
  | c :: cs =>
    if ('a' ≤ c ∧ c ≤ 'z') ∨ ('0' ≤ c ∧ c ≤ '9') then c :: collapse cs
    else
      match collapse cs with
      | '_' :: rest => '_' :: rest
      | rest => '_' :: rest

/-- `replace(/^_|_$/g, "")`: one underscore less at either end. -/
def stripUnderscores (cs : List Char) : List Char :=
  let front := if cs.head? = some '_' then cs.tail else cs
  if front.getLast? = some '_' then front.dropLast else front

/-- Slug for city and region bucket keys. -/
def slugLocationPart (value : Option String) : Option Text :=
  (value.map normalize).bind fun t =>
    if t = "" then none
    else Text.of? (String.ofList (stripUnderscores (collapse t.toList)))

example : collapse "são paulo".toList = "s_o_paulo".toList := by decide +kernel

/-- The buckets a pooled user is filed under, besides the global one. -/
structure LocationPoolIndexMeta where
  countryCode : Option Text := none
  citySlug : Option Text := none
  regionSlug : Option Text := none
  deriving DecidableEq

/-- Derives the bucket names from the profile snapshot. -/
def buildLocationPoolIndexMeta (snap : Option SnapshotUserProfile) : LocationPoolIndexMeta :=
  match snap with
  | none => {}
  | some snap =>
    let cc := normalizeCountryCode (toTrimmedString (snap.filters.get "countryCode")) <|>
      normalizeCountryCode (toTrimmedString (snap.attributes.get "countryCode"))
    let cityRaw := toTrimmedString (snap.filters.get "city") <|>
      toTrimmedString (snap.attributes.get "city")
    let regionRaw := toTrimmedString (snap.filters.get "region") <|>
      toTrimmedString (snap.attributes.get "region")
    { countryCode := cc
      citySlug := if cc.isSome then slugLocationPart cityRaw else none
      regionSlug := if cc.isSome then slugLocationPart regionRaw else none }

end Greetup.Matching
