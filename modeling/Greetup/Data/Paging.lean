import Mathlib.Data.List.Sort
import Mathlib.Order.GaloisConnection.Basic

/-!
Paging through rows, newest first.

A page is fetched with one row more than it shows, to see whether there are
others; then the time of its last row is the cursor of the next page, which
takes what is strictly older. The time of a row is finer than a cursor can say,
so that a cursor stands for the beginning of the unit that it lies in. A page
that ends within a unit loses the rest of it, and nothing else is lost.
-/

namespace Greetup.Data

variable {α τ δ : Type}

/-- The orders in which a database may return rows that are sorted by time
alone. -/
structure NewestFirst [LE τ] (time : α → τ) where
  arrange : List α → List α
  perm : ∀ l, (arrange l).Perm l
  sorted : ∀ l, (arrange l).Pairwise fun a b => time b ≤ time a

structure Page (α δ : Type) where
  rows : List α
  nextCursor : Option δ

/-- The page from the rows that were fetched for it, oldest first. -/
def cutPage (cursor : α → δ) (limit : ℕ) (rows : List α) : Page α δ :=
  let hasMore := decide (limit < rows.length)
  let page := if hasMore then rows.take limit else rows
  { rows := page.reverse
    nextCursor := if hasMore then page.getLast?.map cursor else none }

/-- From page to page until there is no cursor any more; the `n`-th page is
fetched by `fetch n`. -/
def scroll (fetch : ℕ → Option δ → Page α δ) : ℕ → ℕ → Option δ → Option (List (List α))
  | 0, _, _ => none
  | fuel + 1, n, cursor =>
      match (fetch n cursor).nextCursor with
      | none => some [(fetch n cursor).rows]
      | some next => (scroll fetch fuel (n + 1) (some next)).map ((fetch n cursor).rows :: ·)

/-- More fuel does not change a scroll that has ended. -/
theorem scroll_mono {fetch : ℕ → Option δ → Page α δ} {fuel fuel' n : ℕ} {cursor : Option δ}
    {pages : List (List α)} (h : scroll fetch fuel n cursor = some pages) (hle : fuel ≤ fuel') :
    scroll fetch fuel' n cursor = some pages := by
  induction fuel generalizing fuel' n cursor pages with
  | zero => cases h
  | succ fuel ih =>
      obtain ⟨fuel', rfl⟩ : ∃ k, fuel' = k + 1 := ⟨fuel' - 1, by omega⟩
      rw [scroll] at h ⊢
      split at h
      · exact h
      · obtain ⟨rest, hrest, rfl⟩ := Option.map_eq_some_iff.mp h
        rw [ih hrest (by omega), Option.map_some]

/-- The pages put together, older pages in front. -/
def putTogether (pages : List (List α)) : List α := pages.reverse.flatten

@[simp] theorem putTogether_nil : putTogether ([] : List (List α)) = [] := rfl

@[simp] theorem putTogether_cons (page : List α) (pages : List (List α)) :
    putTogether (page :: pages) = putTogether pages ++ page := by
  simp [putTogether]

/-- No page of a list ends between two equal entries. -/
def CleanCuts (limit : ℕ) (l : List δ) : Prop :=
  ∀ k d d', l[(k + 1) * limit - 1]? = some d → l[(k + 1) * limit]? = some d' → d ≠ d'

section Arrangements

variable [LinearOrder τ] {time : α → τ}

def NewestFirst.sorting : NewestFirst time where
  arrange l := l.insertionSort fun a b => time b ≤ time a
  perm := List.perm_insertionSort _
  sorted l := by
    have : Std.Total fun a b : α => time b ≤ time a := ⟨fun a b => le_total _ _⟩
    have : IsTrans α fun a b : α => time b ≤ time a := ⟨fun a b c hab hbc => hbc.trans hab⟩
    exact List.pairwise_insertionSort _ l

/-- Whatever is sorted may be what the database returns. -/
theorem NewestFirst.exists_arrange [DecidableEq α] {l target : List α} (hperm : target.Perm l)
    (hsorted : target.Pairwise fun a b => time b ≤ time a) :
    ∃ order : NewestFirst time, order.arrange l = target := by
  let sorting : NewestFirst time := .sorting
  refine ⟨⟨fun l' => if l' = l then target else sorting.arrange l',
    fun l' => ?_, fun l' => ?_⟩, if_pos rfl⟩
  · split_ifs with h
    · exact h ▸ hperm
    · exact sorting.perm l'
  · split_ifs
    · exact hsorted
    · exact sorting.sorted l'

/-- What is cut from rows that are read one by one. -/
theorem cutPage_map {β : Type} (f : α → β) (cursor : β → δ) (limit : ℕ) (rows : List α) :
    cutPage cursor limit (rows.map f) =
      ⟨(cutPage (fun row => cursor (f row)) limit rows).rows.map f,
        (cutPage (fun row => cursor (f row)) limit rows).nextCursor⟩ := by
  rw [cutPage, cutPage, List.length_map]
  by_cases h : limit < rows.length
  · simp [h, ← List.map_take, List.getLast?_map, Function.comp_def]
  · simp [h]

end Arrangements

section CleanCuts

variable {limit : ℕ} {l : List δ}

theorem cleanCuts_of_length_le (h : l.length ≤ limit) : CleanCuts limit l := by
  intro k d d' _ hd'
  have hlt := (List.getElem?_eq_some_iff.mp hd').1
  have hle : limit ≤ (k + 1) * limit := Nat.le_mul_of_pos_left limit k.succ_pos
  omega

/-- The first cut, and those of the rest. -/
theorem cleanCuts_iff (hpos : 0 < limit) {d d' : δ} (hd : l[limit - 1]? = some d)
    (hd' : l[limit]? = some d') : CleanCuts limit l ↔ d ≠ d' ∧ CleanCuts limit (l.drop limit) := by
  have hshift (k : ℕ) : (k + 1 + 1) * limit - 1 = limit + ((k + 1) * limit - 1) ∧
      (k + 1 + 1) * limit = limit + (k + 1) * limit := by
    have hsucc : (k + 1 + 1) * limit = limit + (k + 1) * limit := by rw [Nat.succ_mul]; omega
    have hle : 0 < (k + 1) * limit := Nat.mul_pos k.succ_pos hpos
    omega
  constructor
  · intro h
    refine ⟨h 0 d d' (by simpa using hd) (by simpa using hd'), fun k e e' he he' => ?_⟩
    rw [List.getElem?_drop] at he he'
    refine h (k + 1) e e' ?_ ?_
    · rw [(hshift k).1]
      exact he
    · rw [(hshift k).2]
      exact he'
  · rintro ⟨hfirst, hrest⟩ k e e' he he'
    cases k with
    | zero =>
        rw [Nat.zero_add, Nat.one_mul] at he he'
        cases hd.symm.trans he
        cases hd'.symm.trans he'
        exact hfirst
    | succ k =>
        rw [(hshift k).1] at he
        rw [(hshift k).2] at he'
        exact hrest k e e' (by rw [List.getElem?_drop]; exact he)
          (by rw [List.getElem?_drop]; exact he')

end CleanCuts

section CutPage

variable {f : α → δ} {limit : ℕ} {l : List α} {a : α}

/-- The last page shows what is left. -/
theorem cutPage_of_le (h : l.length ≤ limit) :
    cutPage f limit (l.take (limit + 1)) = ⟨l.reverse, none⟩ := by
  rw [List.take_of_length_le (by omega), cutPage]
  simp [Nat.not_lt.mpr h]

/-- Any other page shows the first rows, and its cursor is that of the last. -/
theorem cutPage_of_lt (hpos : 0 < limit) (ha : l[limit - 1]? = some a) (h : limit < l.length) :
    cutPage f limit (l.take (limit + 1)) = ⟨(l.take limit).reverse, some (f a)⟩ := by
  have hmore : limit < (l.take (limit + 1)).length := by
    rw [List.length_take]
    omega
  have htake : (l.take (limit + 1)).take limit = l.take limit := by
    rw [List.take_take]
    congr 1
    omega
  have hlast : (l.take limit).getLast? = some a := by
    rw [List.getLast?_eq_getElem?, List.length_take, Nat.min_eq_left h.le,
      List.getElem?_take_of_lt (by omega)]
    exact ha
  simp only [cutPage, hmore, decide_true, if_true, htake, hlast, Option.map_some]

end CutPage

section Scroll

variable [LinearOrder τ] [LinearOrder δ] {time : α → τ} (write : δ → τ) (read : τ → δ)
  (limit : ℕ) (rows : List α)

/-- The rows strictly older than the cursor. -/
def olderThan (time : α → τ) (cursor : Option δ) : List α :=
  rows.filter fun row => cursor.all fun d => time row < write d

/-- One page: the newest `limit` rows that are older than the cursor. -/
def fetchPage (order : NewestFirst time) (cursor : Option δ) : Page α δ :=
  cutPage (fun row => read (time row)) limit
    ((order.arrange (olderThan write rows time cursor)).take (limit + 1))

/-- What a scroll through `rest` has collected: some of the rows, oldest first,
and all of them if no page ends between equal cursors. -/
structure Collects (time : α → τ) (rest collected : List α) : Prop where
  sorted : collected.Pairwise fun a b => time a ≤ time b
  mem : ∀ row ∈ collected, row ∈ rest
  length : collected.length ≤ rest.length
  exact : ∀ l : List δ, l.Pairwise (· ≥ ·) → l.Perm (rest.map fun row => read (time row)) →
    (collected.Perm rest ↔ CleanCuts limit l)

variable {write read limit rows} {order : NewestFirst time} {cursor : Option δ} {rest l : List α}
  {a : α}

theorem collects_last (hperm : l.Perm rest) (hsorted : l.Pairwise fun a b => time b ≤ time a)
    (h : l.length ≤ limit) : Collects read limit time rest l.reverse where
  sorted := List.pairwise_reverse.mpr hsorted
  mem row hrow := hperm.mem_iff.mp (List.mem_reverse.mp hrow)
  length := by rw [List.length_reverse, hperm.length_eq]
  exact l' _ hl' := by
    refine iff_of_true ((List.reverse_perm l).trans hperm) (cleanCuts_of_length_le ?_)
    rw [hl'.length_eq, List.length_map, ← hperm.length_eq]
    exact h

variable (gc : GaloisConnection write read)

include gc

/-- What is older than a cursor lies in an earlier unit. -/
theorem lt_write_iff {t : τ} {d : δ} : t < write d ↔ read t < d := by
  rw [← not_le, gc.le_iff_le, not_le]

/-- A page and what is collected after it. -/
theorem collects_step (hpos : 0 < limit) (hperm : l.Perm rest)
    (hsorted : l.Pairwise fun a b => time b ≤ time a) (ha : l[limit - 1]? = some a)
    (h : limit < l.length) {collected : List α}
    (hrest : Collects read limit time (rest.filter fun row => time row < write (read (time a)))
      collected) :
    Collects read limit time rest (collected ++ (l.take limit).reverse) := by
  have hpage : ∀ row ∈ l.take limit, time a ≤ time row := by
    intro row hrow
    obtain ⟨i, hi, rfl⟩ := List.mem_take_iff_getElem.mp hrow
    obtain ⟨hlt, rfl⟩ := List.getElem?_eq_some_iff.mp ha
    rcases Nat.lt_or_ge i (limit - 1) with hilt | hige
    · exact List.pairwise_iff_getElem.mp hsorted i (limit - 1) _ hlt hilt
    · have hieq : i = limit - 1 := by omega
      subst hieq
      exact le_rfl
  have hnewer : ∀ row ∈ l.take limit, ¬ time row < write (read (time a)) :=
    fun row hrow => not_lt.mpr ((gc.l_u_le (time a)).trans (hpage row hrow))
  have hfilter : (rest.filter fun row => time row < write (read (time a))).Perm
      ((l.drop limit).filter fun row => time row < write (read (time a))) := by
    refine (hperm.symm.filter _).trans (.of_eq ?_)
    conv_lhs => rw [← List.take_append_drop limit l, List.filter_append]
    rw [List.filter_eq_nil_iff.mpr (by simpa using hnewer), List.nil_append]
  constructor
  · refine List.pairwise_append.mpr ⟨hrest.sorted, List.pairwise_reverse.mpr ?_, ?_⟩
    · exact hsorted.sublist (List.take_sublist limit l)
    · intro x hx y hy
      have hx := of_decide_eq_true (List.mem_filter.mp (hrest.mem x hx)).2
      have hy := not_lt.mp (hnewer y (List.mem_reverse.mp hy))
      exact (hx.trans_le hy).le
  · intro row hrow
    rcases List.mem_append.mp hrow with hrow | hrow
    · exact List.mem_of_mem_filter (hrest.mem row hrow)
    · exact hperm.mem_iff.mp (List.mem_of_mem_take (List.mem_reverse.mp hrow))
  · have hle := hrest.length.trans (hfilter.length_eq.trans_le (List.length_filter_le _ _))
    rw [List.length_drop] at hle
    rw [List.length_append, List.length_reverse, List.length_take, ← hperm.length_eq]
    omega
  · intro l' hl' hperm'
    have hmono : (l.map fun row => read (time row)).Pairwise (· ≥ ·) :=
      hsorted.map _ fun x y hxy => gc.monotone_u hxy
    have heq : l' = l.map fun row => read (time row) :=
      (hperm'.trans (hperm.symm.map _)).eq_of_pairwise' hl' hmono
    subst heq
    obtain ⟨b, hb⟩ : ∃ b, l[limit]? = some b := ⟨_, List.getElem?_eq_getElem h⟩
    have hcutA : (l.map fun row => read (time row))[limit - 1]? = some (read (time a)) := by
      rw [List.getElem?_map, ha, Option.map_some]
    have hcutB : (l.map fun row => read (time row))[limit]? = some (read (time b)) := by
      rw [List.getElem?_map, hb, Option.map_some]
    rw [cleanCuts_iff hpos hcutA hcutB, ← List.map_drop]
    have hcancel : (collected ++ (l.take limit).reverse).Perm rest ↔
        collected.Perm (l.drop limit) := by
      have hleft : (collected ++ (l.take limit).reverse).Perm (l.take limit ++ collected) :=
        List.perm_append_comm.trans ((List.reverse_perm _).append_right _)
      rw [hleft.congr_left, ← hperm.congr_right, ← List.take_append_drop limit l,
        List.take_left' (by simp [h.le]), List.drop_left' (by simp [h.le])]
      exact List.perm_append_left_iff _
    rw [hcancel]
    by_cases hab : read (time a) = read (time b)
    · -- the next row is in the unit of the cursor, and never fetched
      refine iff_of_false (fun hall => ?_) fun hclean => hclean.1 hab
      have hlost : ((l.drop limit).filter fun row => time row < write (read (time a))).length <
          (l.drop limit).length := by
        refine List.length_filter_lt_length_iff_exists.mpr ⟨b, ?_, ?_⟩
        · exact List.mem_of_getElem? (i := 0) (by rw [List.getElem?_drop]; exact hb)
        · simp [lt_write_iff gc, hab]
      have hle := hrest.length
      rw [hall.length_eq, hfilter.length_eq] at hle
      omega
    · -- all that is left is older than the cursor
      have holder : ∀ row ∈ l.drop limit, time row < write (read (time a)) := by
        intro row hrow
        obtain ⟨hlt, rfl⟩ := List.getElem?_eq_some_iff.mp hb
        have hbefore : time row ≤ time l[limit] := by
          obtain ⟨j, hj, rfl⟩ := List.mem_drop_iff_getElem.mp hrow
          rcases Nat.eq_zero_or_pos j with rfl | hpos
          · exact le_rfl
          · exact List.pairwise_iff_getElem.mp hsorted limit (limit + j) h (by omega) (by omega)
        obtain ⟨hlt', rfl⟩ := List.getElem?_eq_some_iff.mp ha
        have hab' : time l[limit] ≤ time l[limit - 1] :=
          List.pairwise_iff_getElem.mp hsorted (limit - 1) limit hlt' h (by omega)
        rw [lt_write_iff gc]
        exact (gc.monotone_u hbefore).trans_lt ((gc.monotone_u hab').lt_of_ne' hab)
      have hdrop : (rest.filter fun row => time row < write (read (time a))).Perm
          (l.drop limit) := by
        refine hfilter.trans (.of_eq (List.filter_eq_self.mpr ?_))
        simpa using holder
      rw [and_iff_right hab, ← hdrop.congr_right]
      refine hrest.exact _ (hmono.sublist ?_) ((hdrop.symm).map _)
      exact (List.drop_sublist limit l).map _

/-- What is older than a cursor of the page is older than the cursor of the
page before. -/
theorem olderThan_next (ha : a ∈ olderThan write rows time cursor) :
    olderThan write rows time (some (read (time a))) =
      (olderThan write rows time cursor).filter fun row => time row < write (read (time a)) := by
  rw [olderThan, olderThan, List.filter_filter]
  refine List.filter_congr fun row _ => ?_
  cases cursor with
  | none => simp
  | some d =>
      have hd := of_decide_eq_true (List.mem_filter.mp ha).2
      rw [Option.all_some, Option.all_some]
      by_cases hrow : time row < write (read (time a))
      · have hlt : time row < write d := hrow.trans_le ((gc.l_u_le _).trans hd.le)
        simp [hrow, hlt]
      · simp [hrow]

variable (orders : ℕ → NewestFirst time)

theorem scroll_collects (hpos : 0 < limit) {fuel n : ℕ}
    (hfuel : (olderThan write rows time cursor).length < fuel) :
    ∃ pages, scroll (fun n => fetchPage write read limit rows (orders n)) fuel n cursor =
        some pages ∧
      Collects read limit time (olderThan write rows time cursor) (putTogether pages) := by
  induction fuel generalizing n cursor with
  | zero => cases hfuel
  | succ fuel ih =>
      obtain ⟨l, hl⟩ : ∃ l, l = (orders n).arrange (olderThan write rows time cursor) := ⟨_, rfl⟩
      have hperm : l.Perm (olderThan write rows time cursor) := hl ▸ (orders n).perm _
      have hsorted : l.Pairwise fun a b => time b ≤ time a := hl ▸ (orders n).sorted _
      rcases Nat.lt_or_ge limit l.length with hlt | hge
      · obtain ⟨a, ha⟩ : ∃ a, l[limit - 1]? = some a := ⟨_, List.getElem?_eq_getElem (by omega)⟩
        have hpage : fetchPage write read limit rows (orders n) cursor =
            ⟨(l.take limit).reverse, some (read (time a))⟩ := by
          rw [fetchPage, ← hl]
          exact cutPage_of_lt hpos ha hlt
        have hmem : a ∈ olderThan write rows time cursor :=
          hperm.mem_iff.mp (List.mem_of_getElem? ha)
        have hnext := olderThan_next gc hmem
        have hless : (olderThan write rows time (some (read (time a)))).length <
            (olderThan write rows time cursor).length := by
          rw [hnext]
          refine List.length_filter_lt_length_iff_exists.mpr ⟨a, hmem, ?_⟩
          simpa using gc.l_u_le (time a)
        obtain ⟨pages, hpages, hcollects⟩ := ih (n := n + 1) (hless.trans_le (by omega))
        refine ⟨(l.take limit).reverse :: pages, ?_, ?_⟩
        · rw [scroll, hpage]
          exact congrArg (Option.map _) hpages
        · rw [putTogether_cons]
          exact collects_step gc hpos hperm hsorted ha hlt (hnext ▸ hcollects)
      · have hpage : fetchPage write read limit rows (orders n) cursor = ⟨l.reverse, none⟩ := by
          rw [fetchPage, ← hl]
          exact cutPage_of_le hge
        refine ⟨[l.reverse], by rw [scroll, hpage], ?_⟩
        rw [putTogether_cons, putTogether_nil, List.nil_append]
        exact collects_last hperm hsorted hge

variable (rows) in
/-- **Scrolling back.** It ends, and what it has collected is sorted; it is every
row once if and only if no page ends between two rows whose cursors are equal. -/
theorem scroll_iff (hpos : 0 < limit) :
    ∃ pages, (∀ fuel, rows.length < fuel →
        scroll (fun n => fetchPage write read limit rows (orders n)) fuel 0 none = some pages) ∧
      ((putTogether pages).Perm rows ∧ (putTogether pages).Pairwise (fun a b => time a ≤ time b) ↔
        CleanCuts limit ((rows.map fun row => read (time row)).mergeSort (· ≥ ·))) := by
  have hall : olderThan write rows time none = rows := by simp [olderThan]
  have hfuel : (olderThan write rows time none).length < rows.length + 1 := by
    rw [hall]
    exact Nat.lt_succ_self _
  obtain ⟨pages, hpages, hcollects⟩ := scroll_collects (n := 0) gc orders hpos hfuel
  rw [hall] at hcollects
  refine ⟨pages, fun fuel hfuel => scroll_mono hpages hfuel, ?_⟩
  rw [and_iff_left hcollects.sorted]
  exact hcollects.exact _ (List.pairwise_mergeSort' (· ≥ ·) _) (List.mergeSort_perm _ _)

end Scroll

end Greetup.Data
