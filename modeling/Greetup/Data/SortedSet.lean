import Mathlib.Data.List.Sort
import Mathlib.Data.Prod.Lex

/-!
A set of members, each with a score, kept in rank order: highest score first
and, among equal scores, the greater member first. Every member occurs once;
adding a member that is already there changes its score. Reading by rank is
reading a prefix of the list.
-/

namespace Greetup.Data

/-- `x` is ranked no later than `y`. -/
def RankedBefore {α : Type} [LinearOrder α] (x y : ℕ × α) : Prop :=
  y.1 < x.1 ∨ y.1 = x.1 ∧ y.2 ≤ x.2

section Rank

variable {α : Type} [LinearOrder α]

instance : DecidableRel (RankedBefore (α := α)) := fun x y =>
  inferInstanceAs (Decidable (y.1 < x.1 ∨ y.1 = x.1 ∧ y.2 ≤ x.2))

instance : IsTrans (ℕ × α) RankedBefore where
  trans x y z hxy hyz := by
    rcases hxy with hxy | ⟨hxy, hxy'⟩ <;> rcases hyz with hyz | ⟨hyz, hyz'⟩
    · exact .inl (hyz.trans hxy)
    · exact .inl (hyz ▸ hxy)
    · exact .inl (hxy ▸ hyz)
    · exact .inr ⟨hyz.trans hxy, hyz'.trans hxy'⟩

instance : Std.Total (α := ℕ × α) RankedBefore where
  total x y := by
    rcases lt_trichotomy x.1 y.1 with h | h | h
    · exact .inr (.inl h)
    · rcases le_total x.2 y.2 with h' | h'
      · exact .inr (.inr ⟨h, h'⟩)
      · exact .inl (.inr ⟨h.symm, h'⟩)
    · exact .inl (.inl h)

end Rank

/-- Members with scores in rank order. -/
structure SortedSet (α : Type) [LinearOrder α] where
  entries : List (ℕ × α)
  ranked : entries.Pairwise RankedBefore
  nodup : (entries.map Prod.snd).Nodup

namespace SortedSet

variable {α : Type} [LinearOrder α] {z : SortedSet α} {a b : α} {n : ℕ}

instance : Membership α (SortedSet α) := ⟨fun z a => a ∈ z.entries.map Prod.snd⟩

theorem mem_iff : a ∈ z ↔ a ∈ z.entries.map Prod.snd := Iff.rfl

instance (a : α) (z : SortedSet α) : Decidable (a ∈ z) :=
  inferInstanceAs (Decidable (a ∈ z.entries.map Prod.snd))

def empty : SortedSet α := ⟨[], .nil, .nil⟩

@[simp] theorem not_mem_empty : a ∉ (empty : SortedSet α) := by simp [mem_iff, empty]

/-- The set without `a`. -/
def erase (z : SortedSet α) (a : α) : SortedSet α where
  entries := z.entries.filter fun e => e.2 ≠ a
  ranked := z.ranked.filter _
  nodup := z.nodup.sublist (List.filter_sublist.map _)

@[simp] theorem mem_erase : b ∈ z.erase a ↔ b ∈ z ∧ b ≠ a := by
  simp only [mem_iff, erase, List.mem_map, List.mem_filter, decide_eq_true_eq]
  constructor
  · rintro ⟨e, ⟨he, hne⟩, rfl⟩
    exact ⟨⟨e, he, rfl⟩, hne⟩
  · rintro ⟨⟨e, he, rfl⟩, hne⟩
    exact ⟨e, ⟨he, hne⟩, rfl⟩

/-- The set with `a` at score `n`. -/
def insert (z : SortedSet α) (n : ℕ) (a : α) : SortedSet α where
  entries := (z.erase a).entries.orderedInsert RankedBefore (n, a)
  ranked := (z.erase a).ranked.orderedInsert _ _
  nodup := by
    have hperm := (List.perm_orderedInsert RankedBefore (n, a) (z.erase a).entries).map Prod.snd
    rw [hperm.nodup_iff, List.map_cons, List.nodup_cons]
    exact ⟨fun h => (mem_erase.mp h).2 rfl, (z.erase a).nodup⟩

@[simp] theorem mem_insert : b ∈ z.insert n a ↔ b = a ∨ b ∈ z := by
  have hperm := (List.perm_orderedInsert RankedBefore (n, a) (z.erase a).entries).map Prod.snd
  rw [mem_iff, insert, hperm.mem_iff, List.map_cons, List.mem_cons]
  by_cases h : b = a
  · simp [h]
  · simp only [h, false_or]
    exact mem_erase.trans (and_iff_left h)

/-- The first `n` entries by rank. -/
def first (z : SortedSet α) (n : ℕ) : List (ℕ × α) := z.entries.take n

end SortedSet

end Greetup.Data
