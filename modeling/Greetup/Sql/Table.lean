import Mathlib.Data.List.Nodup
import Mathlib.Tactic.Common

/-!
A table with a unique key. Rows keep their keys when they are updated, so the
key stays unique without being checked again.
-/

namespace Greetup.Sql

variable {κ ρ : Type}

@[ext]
structure Table (key : ρ → κ) where
  rows : List ρ
  unique : (rows.map key).Nodup

namespace Table

variable {key : ρ → κ}

def empty : Table key := ⟨[], List.nodup_nil⟩

/-- `UPDATE … SET f WHERE p` -/
def update (t : Table key) (p : ρ → Bool) (f : ρ → ρ) (hf : ∀ r, key (f r) = key r) :
    Table key where
  rows := t.rows.map fun r => if p r then f r else r
  unique := by
    have hkeys : (key ∘ fun r => if p r then f r else r) = key := by
      funext r
      show key (if p r then f r else r) = key r
      split
      · exact hf r
      · rfl
    rw [List.map_map, hkeys]
    exact t.unique

/-- `DELETE … WHERE p` -/
def delete (t : Table key) (p : ρ → Bool) : Table key where
  rows := t.rows.filter (!p ·)
  unique := t.unique.sublist (List.filter_sublist.map key)

variable [DecidableEq κ]

/-- The row with the key. -/
def find (t : Table key) (k : κ) : Option ρ := t.rows.find? (key · = k)

/-- `INSERT … ON CONFLICT (key) DO UPDATE SET f` -/
def insert (t : Table key) (row : ρ) (f : ρ → ρ) (hf : ∀ r, key (f r) = key r) : Table key :=
  if h : key row ∈ t.rows.map key then t.update (key · = key row) f hf
  else
    { rows := row :: t.rows
      unique := by
        rw [List.map_cons, List.nodup_cons]
        exact ⟨h, t.unique⟩ }

section

variable {t : Table key} {k k' : κ} {r r' : ρ} {p : ρ → Bool} {f : ρ → ρ}
  {hf : ∀ r, key (f r) = key r}

theorem mem_of_find (h : t.find k = some r) : r ∈ t.rows ∧ key r = k := by
  have hmem := List.mem_of_find?_eq_some h
  have hkey := List.find?_some (p := fun r => decide (key r = k)) h
  exact ⟨hmem, of_decide_eq_true hkey⟩

omit [DecidableEq κ] in
/-- Two rows with one key are one row. -/
theorem eq_of_key (hr : r ∈ t.rows) (hr' : r' ∈ t.rows) (h : key r = key r') : r = r' :=
  List.inj_on_of_nodup_map t.unique hr hr' h

theorem find_eq_some : t.find k = some r ↔ r ∈ t.rows ∧ key r = k := by
  constructor
  · exact mem_of_find
  · rintro ⟨hr, hk⟩
    cases hfind : t.find k with
    | none =>
        have hne := List.find?_eq_none.mp hfind r hr
        exact absurd (decide_eq_true hk) hne
    | some r' =>
        obtain ⟨hr', hk'⟩ := mem_of_find hfind
        rw [eq_of_key hr' hr (hk'.trans hk.symm)]

/-- An update leaves every row where it is. -/
theorem find_update : (t.update p f hf).find k =
    (t.find k).map fun r => if p r then f r else r := by
  have hkey : (fun r => decide (key (if p r then f r else r) = k)) =
      fun r => decide (key r = k) := by
    funext r
    split
    · rw [hf]
    · rfl
  rw [find, update, List.find?_map]
  show Option.map _ (List.find? (fun r => decide (key (if p r then f r else r) = k)) t.rows) = _
  rw [hkey]
  rfl

/-- An insertion changes the row with its key, or adds it. -/
theorem find_insert : (t.insert r f hf).find k =
    if key r = k then some ((t.find k).elim r f) else t.find k := by
  rw [insert]
  split
  · rename_i hmem
    rw [find_update]
    cases hfind : t.find k with
    | none =>
        rw [if_neg, Option.map_none]
        rintro rfl
        obtain ⟨r', hr', hkey⟩ := List.mem_map.mp hmem
        rw [find_eq_some.mpr ⟨hr', hkey⟩] at hfind
        cases hfind
    | some r' =>
        obtain ⟨-, hkey⟩ := mem_of_find hfind
        rw [Option.map_some, hkey]
        by_cases heq : key r = k
        · rw [if_pos heq, if_pos (decide_eq_true heq.symm), Option.elim_some]
        · rw [if_neg heq, if_neg (by simpa using Ne.symm heq)]
  · rename_i hmem
    show List.find? (fun r' => decide (key r' = k)) (r :: t.rows) = _
    rw [List.find?_cons]
    by_cases heq : key r = k
    · have hnone : t.find k = none := by
        rw [find, List.find?_eq_none]
        intro r' hr' hkey
        exact hmem (List.mem_map.mpr ⟨r', hr', (of_decide_eq_true hkey).trans heq.symm⟩)
      rw [decide_eq_true heq, if_pos heq, hnone, Option.elim_none]
    · rw [decide_eq_false heq, if_neg heq]
      rfl

/-- A row with a new key is added. -/
theorem rows_insert_of_find (h : t.find (key r) = none) : (t.insert r f hf).rows = r :: t.rows := by
  have hnew : key r ∉ t.rows.map key := by
    intro hmem
    obtain ⟨r', hr', hkey⟩ := List.mem_map.mp hmem
    rw [find_eq_some.mpr ⟨hr', hkey⟩] at h
    cases h
  rw [insert, dif_neg hnew]

omit [DecidableEq κ] in
/-- An update without a matching row does nothing. -/
theorem update_eq_self (h : ∀ r ∈ t.rows, p r = false) : t.update p f hf = t := by
  have hrows : (t.update p f hf).rows = t.rows := by
    rw [update]
    conv_rhs => rw [← List.map_id t.rows]
    apply List.map_congr_left
    intro r hr
    rw [h r hr, if_neg Bool.false_ne_true, id]
  exact Table.ext hrows

omit [DecidableEq κ] in
/-- An update is not seen by a query for other rows. -/
theorem filter_update {q : ρ → Bool} (hq : ∀ r, q (f r) = q r)
    (h : ∀ r ∈ t.rows, p r = true → q r = false) :
    (t.update p f hf).rows.filter q = t.rows.filter q := by
  have hsame : (q ∘ fun r => if p r then f r else r) = q := by
    funext r
    show q (if p r then f r else r) = q r
    split
    · exact hq r
    · rfl
  rw [update, List.filter_map, hsame]
  conv_rhs => rw [← List.map_id (t.rows.filter q)]
  apply List.map_congr_left
  intro r hr
  obtain ⟨hmem, hqr⟩ := List.mem_filter.mp hr
  have hp : ¬ p r = true := by
    intro hp
    rw [h r hmem hp] at hqr
    cases hqr
  rw [if_neg hp, id]

omit [DecidableEq κ] in
theorem mem_update : r ∈ (t.update p f hf).rows ↔ ∃ r' ∈ t.rows, (if p r' then f r' else r') = r :=
  List.mem_map

omit [DecidableEq κ] in
theorem mem_of_mem_delete (h : r ∈ (t.delete p).rows) : r ∈ t.rows := (List.mem_filter.mp h).1

/-- A row after an insertion is the new one, or was there, or has been changed. -/
theorem mem_insert (h : r' ∈ (t.insert r f hf).rows) :
    r' = r ∨ r' ∈ t.rows ∨ ∃ r₀ ∈ t.rows, key r₀ = key r ∧ r' = f r₀ := by
  rw [insert] at h
  split at h
  · obtain ⟨r₀, hr₀, heq⟩ := mem_update.mp h
    split at heq
    · rename_i hkey
      exact .inr (.inr ⟨r₀, hr₀, of_decide_eq_true hkey, heq.symm⟩)
    · exact .inr (.inl (heq ▸ hr₀))
  · exact (List.mem_cons.mp h).imp_right .inl

end

end Table

end Greetup.Sql
