import Greetup.Connections.Service

/-!
What the statements do to the rows of the connections: one row is changed,
added or deleted, and all others stay.
-/

namespace Greetup.Connections

open Interleaving

/-! ### Rows of a table -/

namespace ConnectionTable

variable {t t' : ConnectionTable} {id : ConnectionId} {row r : ConnectionRow}
  {p : ConnectionRow → Bool} {status : ConnectionStatus} {requesterId addresseeId : UserId}

theorem eq_of_id (hr : r ∈ t.rows) (hrow : row ∈ t.rows) (h : r.id = row.id) : r = row :=
  Sql.Table.eq_of_key hr hrow h

/-- An update that changes one row. -/
theorem mem_update_one {f : ConnectionRow → ConnectionRow} (hrow : row ∈ t.rows)
    (hkey : ∀ r ∈ t.rows, p r = true ↔ r = row) :
    r ∈ t.rows.map (fun r => if p r then f r else r) ↔ r ∈ t.rows ∧ r ≠ row ∨ r = f row := by
  rw [List.mem_map]
  constructor
  · rintro ⟨r', hr', rfl⟩
    by_cases heq : r' = row
    · rw [if_pos ((hkey r' hr').mpr heq), heq]
      exact .inr rfl
    · rw [if_neg (mt (hkey r' hr').mp heq)]
      exact .inl ⟨hr', heq⟩
  · rintro (⟨hr, hne⟩ | rfl)
    · exact ⟨r, hr, if_neg (mt (hkey r hr).mp hne)⟩
    · exact ⟨row, hrow, if_pos ((hkey row hrow).mpr rfl)⟩

/-- A row of the updated table is as it was, or has the new status. -/
theorem of_mem_setStatus (hr : r ∈ (t.setStatus p status).rows) :
    r ∈ t.rows ∧ p r = false ∨ ∃ row ∈ t.rows, p row = true ∧ r = { row with status } := by
  obtain ⟨row, hrow, rfl⟩ := List.mem_map.mp hr
  cases hp : p row with
  | true => exact .inr ⟨row, hrow, hp, if_pos rfl⟩
  | false =>
      rw [if_neg Bool.false_ne_true]
      exact .inl ⟨hrow, hp⟩

/-- What an update to another status leaves as it was. -/
theorem mem_setStatus_of_ne (h : r.status ≠ status) :
    r ∈ (t.setStatus p status).rows ↔ r ∈ t.rows ∧ p r = false := by
  show r ∈ t.rows.map _ ↔ _
  rw [List.mem_map]
  constructor
  · rintro ⟨r', hr', rfl⟩
    split at h
    · exact absurd rfl h
    · rename_i hp
      rw [if_neg hp]
      exact ⟨hr', Bool.eq_false_of_not_eq_true hp⟩
  · rintro ⟨hr, hp⟩
    refine ⟨r, hr, ?_⟩
    rw [hp, if_neg Bool.false_ne_true]

theorem setStatus_toTable : (t.setStatus p status).toTable =
    t.toTable.update p ({ · with status }) fun _ => rfl := rfl

/-- An update of one row that is there. -/
theorem mem_setStatus (h : t.find id = some row) (hp : p row = true) :
    r ∈ (t.setStatus (fun r => r.id = id && p r) status).rows ↔
      r ∈ t.rows ∧ r ≠ row ∨ r = { row with status } := by
  obtain ⟨hrow, rfl⟩ := Sql.Table.mem_of_find h
  have hkey : ∀ r' ∈ t.rows, (decide (r'.id = row.id) && p r') = true ↔ r' = row := by
    intro r' hr'
    constructor
    · intro hr
      rw [Bool.and_eq_true, decide_eq_true_eq] at hr
      exact eq_of_id hr' hrow hr.1
    · rintro rfl
      rw [hp, decide_eq_true rfl]
      rfl
  exact mem_update_one hrow hkey

/-- An update that finds no row. -/
theorem setStatus_of_none (h : ∀ row, t.find id = some row → p row = false) :
    t.setStatus (fun r => r.id = id && p r) status = t := by
  have hnone : ∀ r ∈ t.toTable.rows, (decide (r.id = id) && p r) = false := by
    intro r hr
    by_cases hid : r.id = id
    · rw [h r (Sql.Table.find_eq_some.mpr ⟨hr, hid⟩), Bool.and_false]
    · rw [decide_eq_false hid, Bool.false_and]
  have hsame : (t.setStatus (fun r => r.id = id && p r) status).toTable = t.toTable := by
    rw [setStatus_toTable]
    exact Sql.Table.update_eq_self hnone
  cases t
  rw [setStatus] at hsame ⊢
  simp only [mk.injEq]
  exact hsame

theorem mem_delete : r ∈ (t.delete id).rows ↔ r ∈ t.rows ∧ r.id ≠ id := by
  simp [delete]

theorem mem_insert (h : t.insert row = some t') : r ∈ t'.rows ↔ r = row ∨ r ∈ t.rows := by
  rw [insert] at h
  split at h
  · cases h
    exact List.mem_cons
  · cases h

theorem insert_id (h : t.insert row = some t') : ∀ r ∈ t.rows, r.id ≠ row.id := by
  rw [insert] at h
  split at h
  · rename_i hnew
    exact fun r hr hid => hnew.1 (List.mem_map.mpr ⟨r, hr, hid⟩)
  · cases h

theorem mem_redirect (h : t.find id = some row)
    (hredirect : t.redirect id requesterId addresseeId = some t') :
    r ∈ t'.rows ↔
      r ∈ t.rows ∧ r ≠ row ∨ r = { row with requesterId, addresseeId, status := .pending } := by
  obtain ⟨hrow, rfl⟩ := Sql.Table.mem_of_find h
  have hkey : ∀ r' ∈ t.rows, decide (r'.id = row.id) = true ↔ r' = row := by
    intro r' hr'
    rw [decide_eq_true_eq]
    exact ⟨eq_of_id hr' hrow, congrArg _⟩
  rw [redirect] at hredirect
  split at hredirect
  · cases hredirect
    exact mem_update_one hrow hkey
  · cases hredirect

theorem redirect_of_none (h : t.find id = none)
    (hredirect : t.redirect id requesterId addresseeId = some t') : t'.rows = t.rows := by
  have hnone : ∀ r ∈ t.toTable.rows, decide (r.id = id) = false := by
    intro r hr
    rw [decide_eq_false_iff_not]
    intro hid
    rw [Sql.Table.find_eq_some.mpr ⟨hr, hid⟩] at h
    cases h
  have hsame : t.toTable.update (·.id = id)
      ({ · with requesterId, addresseeId, status := .pending }) (fun _ => rfl) = t.toTable :=
    Sql.Table.update_eq_self hnone
  rw [redirect] at hredirect
  split at hredirect
  · cases hredirect
    exact congrArg Sql.Table.rows hsame
  · cases hredirect

end ConnectionTable

/-- The accepted rows after another status was written. -/
theorem World.mem_updateStatus_accepted {w : World} {id : ConnectionId} {p : ConnectionRow → Bool}
    {status : ConnectionStatus}
    {r : ConnectionRow} (hstatus : status ≠ .accepted) (hr : r.status = .accepted) :
    r ∈ (w.updateStatus id p status).2.connections.rows ↔
      r ∈ w.connections.rows ∧ (decide (r.id = id) && p r) = false :=
  ConnectionTable.mem_setStatus_of_ne (hr.trans_ne hstatus.symm)

/-! ### Pairs -/

section Pairs

variable {row : ConnectionRow} {a b : UserId}

theorem isBetween_iff : row.isBetween a b = true ↔
    row.requesterId = a ∧ row.addresseeId = b ∨ row.requesterId = b ∧ row.addresseeId = a := by
  simp [ConnectionRow.isBetween]

theorem isBetween_comm : row.isBetween a b = row.isBetween b a := by
  rw [ConnectionRow.isBetween, ConnectionRow.isBetween, Bool.or_comm]

theorem isBetween_self : row.isBetween row.requesterId row.addresseeId = true := by
  simp [ConnectionRow.isBetween]

/-- The users of the pair are those of the row. -/
theorem isBetween_row (h : row.isBetween a b = true) (row' : ConnectionRow) :
    row'.isBetween row.requesterId row.addresseeId = row'.isBetween a b := by
  rcases isBetween_iff.mp h with ⟨rfl, rfl⟩ | ⟨rfl, rfl⟩
  · rfl
  · exact isBetween_comm

/-- A row is between two users if they are its users. -/
theorem isBetween_iff_of (h : row.isBetween a b = true) {c d : UserId} :
    row.isBetween c d = true ↔ a = c ∧ b = d ∨ a = d ∧ b = c := by
  rcases isBetween_iff.mp h with ⟨rfl, rfl⟩ | ⟨rfl, rfl⟩
  · exact isBetween_iff
  · rw [isBetween_comm, isBetween_iff, and_comm, and_comm (b := row.requesterId = c)]

theorem isLive_iff : row.isLive = true ↔ row.status = .pending ∨ row.status = .accepted := by
  simp [ConnectionRow.isLive]

end Pairs

/-! ### Gates -/

section Gates

variable {found : Option ConnectionRow} {row : ConnectionRow} {viewerId : UserId}

theorem gateAddresseePending_eq_ok : gateAddresseePending found viewerId = .ok row ↔
    found = some row ∧ row.addresseeId = viewerId ∧ row.status = .pending := by
  cases found with
  | none => simp [gateAddresseePending]
  | some r => grind [gateAddresseePending]

theorem gateRequesterPending_eq_ok : gateRequesterPending found viewerId = .ok row ↔
    found = some row ∧ row.requesterId = viewerId ∧ row.status = .pending := by
  cases found with
  | none => simp [gateRequesterPending]
  | some r => grind [gateRequesterPending]

theorem gatePeerAccepted_eq_ok : gatePeerAccepted found viewerId = .ok row ↔
    found = some row ∧ (row.requesterId = viewerId ∨ row.addresseeId = viewerId) ∧
      row.status = .accepted := by
  cases found with
  | none => simp [gatePeerAccepted]
  | some r => grind [gatePeerAccepted]

end Gates

/-! ### Sets -/

section Sets

variable {f : UserId → Finset UserId} {a b c d : UserId}

theorem mem_update_insert :
    d ∈ Function.update f a (insert b (f a)) c ↔ d ∈ f c ∨ a = c ∧ b = d := by
  by_cases hac : a = c
  · subst hac
    rw [Function.update_self, Finset.mem_insert, or_comm, eq_comm, and_iff_right rfl]
  · rw [Function.update_of_ne (Ne.symm hac)]
    simp [hac]

theorem mem_update_erase :
    d ∈ Function.update f a ((f a).erase b) c ↔ d ∈ f c ∧ ¬ (a = c ∧ b = d) := by
  by_cases hac : a = c
  · subst hac
    rw [Function.update_self, Finset.mem_erase, and_comm, ne_comm, and_iff_right rfl]
  · rw [Function.update_of_ne (Ne.symm hac)]
    simp [hac]

end Sets

end Greetup.Connections
