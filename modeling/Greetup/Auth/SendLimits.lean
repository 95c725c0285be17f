import Greetup.Auth.SendGate
import Greetup.Interleaving.Accounts
import Greetup.Interleaving.Epochs
import Mathlib.Algebra.Ring.Nat

/-!
What the gate lets through.

The cooldown is looked at first and claimed last, and the counters are consumed
in between; a counter gets its TTL in a command of its own. A window of a
counter opens with the call that creates its key, and everything that happens
until the next one opens belongs to it.
-/

namespace Greetup.Auth

open Interleaving Prog

section Terms

variable {ι ν κ ω : Type} [DecidableEq ι] [DecidableEq ν] [DecidableEq κ]

abbrev GateTold (ν κ : Type) : Type := Told (GateCmd ν κ) GateCmd.Reply

abbrev GateScene (ι ν κ : Type) : Type := Scene ι (GateCmd ν κ) GateCmd.Reply (GateWorld ν κ)

abbrev GateEvent (ι ν κ : Type) : Type := Event ι (GateCmd ν κ) GateCmd.Reply

/-- How much time a command takes. -/
def GateCmd.sec : GateCmd ν κ → ℕ
  | .pass sec => sec
  | _ => 0

/-- How much time passes in a part of a history. -/
def elapsed (l : List (GateEvent ι ν κ)) : ℕ := (l.map fun e => e.cmd.sec).sum

/-- A call is allowed: the last command it executes. -/
def isSend (e164Phone : ν) (e : GateEvent ι ν κ) : Bool :=
  match e.cmd with
  | .setCooldown phone _ => phone = e164Phone
  | _ => false

/-- A counter is consumed. -/
def consumes (key : CounterKey ν κ) (e : GateEvent ι ν κ) : Bool := e.cmd = .incr key

/-- A counter is consumed that was not there. -/
def opensWindow (key : CounterKey ν κ) (e : GateEvent ι ν κ) : Bool :=
  match e with
  | ⟨_, .incr key', count⟩ => key' = key ∧ count = 1
  | _ => false

/-- The call has created the counter, and has yet to give it a TTL. -/
def AwaitsExpire (key : CounterKey ν κ) (told : List (GateTold ν κ)) : Prop :=
  ∃ rest, told = ⟨.incr key, (1 : ℕ)⟩ :: rest

/-! ### What is asked of the gate -/

/-- Two calls that are allowed are a cooldown apart. -/
def Spaced (e164Phone : ν) (l : List (GateEvent ι ν κ)) : Prop :=
  ∀ newest later between sooner older, l = newest ++ later :: (between ++ sooner :: older) →
    isSend e164Phone later → isSend e164Phone sooner → phoneOtpResendCooldownSec ≤ elapsed between

/-- In a window at most so many calls are allowed. -/
def WindowBounded (e164Phone : ν) (l : List (GateEvent ι ν κ)) : Prop :=
  ∀ k, (during (opensWindow (.phone e164Phone)) k l).countP (isSend e164Phone) ≤
    phoneOtpMaxSendsPerHour

/-- A call is allowed when the number has no cooldown, and in the window in
which it was counted. -/
def Gated (i : ι) (c : GateCmd ν κ) (s : GateScene ι ν κ) : Prop :=
  match c with
  | .setCooldown e164Phone _ =>
      (∀ t, s.world.cooldown e164Phone = some t → t ≤ s.world.now) ∧
        ∃ count, ⟨i, .incr (.phone e164Phone), count⟩ ∈
          current (opensWindow (.phone e164Phone)) s.trace
  | _ => True

end Terms

/-! ### The order of a call -/

section Licences

variable {ν κ ω : Type}

/-- A call gives a counter that it has created its TTL at once, and sets the
cooldown last, if the counter of the number was low enough. -/
structure Cleared (h : List (GateTold ν κ)) (c : GateCmd ν κ) : Prop where
  settles : ∀ key, AwaitsExpire key h → c = .expire key phoneOtpSendWindowSec
  expires : ∀ key sec, c = .expire key sec → sec = phoneOtpSendWindowSec ∧ AwaitsExpire key h
  gates : ∀ e164Phone sec, c = .setCooldown e164Phone sec → sec = phoneOtpResendCooldownSec ∧
    ∀ count, ⟨.incr (.phone e164Phone), count⟩ ∈ h → count ≤ phoneOtpMaxSendsPerHour
  last : ∀ e ∈ h, ∀ e164Phone sec, e.1 ≠ .setCooldown e164Phone sec

/-- The call has created no counter that is still without a TTL, and has not
been allowed. -/
structure Settled (h : List (GateTold ν κ)) : Prop where
  settled : ∀ key, ¬ AwaitsExpire key h
  last : ∀ e ∈ h, ∀ e164Phone sec, e.1 ≠ .setCooldown e164Phone sec

variable {h : List (GateTold ν κ)} {c : GateCmd ν κ}

theorem Settled.cleared (hs : Settled h) (hexpire : ∀ key sec, c ≠ .expire key sec)
    (hsend : ∀ e164Phone sec, c ≠ .setCooldown e164Phone sec) : Cleared h c where
  settles key hawaits := absurd hawaits (hs.settled key)
  expires key sec heq := absurd heq (hexpire key sec)
  gates e164Phone sec heq := absurd heq (hsend e164Phone sec)
  last := hs.last

theorem Settled.cons (hs : Settled h) {r : c.Reply} (hincr : ∀ key, c ≠ .incr key)
    (hsend : ∀ e164Phone sec, c ≠ .setCooldown e164Phone sec) : Settled (⟨c, r⟩ :: h) where
  settled key hawaits := by
    obtain ⟨rest, heq⟩ := hawaits
    cases heq
    exact hincr key rfl
  last := List.forall_mem_cons.mpr ⟨hsend, hs.last⟩

/-- Apart from one answer `count` of the counter, `h'` has only those of `h`. -/
def OnlyCounts (key : CounterKey ν κ) (count : ℕ) (h h' : List (GateTold ν κ)) : Prop :=
  ∀ key' count', ⟨.incr key', count'⟩ ∈ h' → key' = key ∧ count' = count ∨ ⟨.incr key', count'⟩ ∈ h

theorem OnlyCounts.cons {key : CounterKey ν κ} {count : ℕ} {h' : List (GateTold ν κ)}
    (hc : OnlyCounts key count h h') {r : c.Reply} (hincr : ∀ key, c ≠ .incr key) :
    OnlyCounts key count h (⟨c, r⟩ :: h') := by
  intro key' count' hmem
  rcases List.mem_cons.mp hmem with heq | hmem
  · cases heq
    exact absurd rfl (hincr key')
  · exact hc key' count' hmem

variable [DecidableEq ν] [DecidableEq κ]

end Licences

/-! ### What one command can do -/

section Commands

variable {ν κ : Type} [DecidableEq ν] [DecidableEq κ] {w : GateWorld ν κ} {c : GateCmd ν κ}
  {key : CounterKey ν κ} {counter : Counter}

omit [DecidableEq ν] [DecidableEq κ] in
theorem counter_eq_some :
    w.counter key = some counter ↔ w.counters key = some counter ∧ counter.LivesAt w.now := by
  rw [GateWorld.counter, Option.filter_eq_some_iff, decide_eq_true_eq]

theorem livesAt_of_none {now : ℕ} (h : counter.expiresAt = none) : counter.LivesAt now := by
  intro t ht
  rw [h] at ht
  cases ht

/-- A command that is neither an increment nor an expiry of the key. -/
def GateCmd.Spares (key : CounterKey ν κ) (c : GateCmd ν κ) : Prop :=
  c ≠ .incr key ∧ ∀ sec, c ≠ .expire key sec

theorem counters_of_spares (h : c.Spares key) : (execGate c w).2.counters key = w.counters key := by
  cases c with
  | incr key' => exact Function.update_of_ne (fun heq => h.1 (by rw [heq])) _ _
  | expire key' sec => exact Function.update_of_ne (fun heq => h.2 sec (by rw [heq])) _ _
  | ttlCooldown => rfl
  | ttl => rfl
  | setCooldown => rfl
  | pass => rfl

@[simp] theorem counters_incr :
    (execGate (.incr key) w).2.counters key = some (w.incr key) :=
  Function.update_self _ _ _

@[simp] theorem counters_expire (sec : ℕ) : (execGate (.expire key sec) w).2.counters key =
    (w.counter key).map ({ · with expiresAt := some (w.now + sec) }) :=
  Function.update_self _ _ _

theorem now_execGate : (execGate c w).2.now = w.now + c.sec := by
  cases c <;> rfl

omit [DecidableEq ν] [DecidableEq κ] in
theorem incr_of_some (h : w.counter key = some counter) :
    w.incr key = { counter with count := counter.count + 1 } := by
  rw [GateWorld.incr, h]

omit [DecidableEq ν] [DecidableEq κ] in
theorem incr_of_none (h : w.counter key = none) : w.incr key = ⟨1, none⟩ := by
  rw [GateWorld.incr, h]

end Commands

/-! ### Counters and their TTLs -/

section Expiry

variable {ι ν κ : Type} [DecidableEq ι] [DecidableEq ν] [DecidableEq κ] {s : GateScene ι ν κ}
  {i j : ι} {c : GateCmd ν κ} {key : CounterKey ν κ} {counter : Counter}

/-- A counter without a TTL is the one that some call has created and is about
to give its TTL; no other call is about to touch its TTL. -/
structure Expiring (s : GateScene ι ν κ) : Prop where
  positive : ∀ key counter, s.world.counters key = some counter → 1 ≤ counter.count
  created : ∀ i key, AwaitsExpire key (s.told i) →
    ∃ counter, s.world.counters key = some counter ∧ counter.expiresAt = none
  alone : ∀ i j key, AwaitsExpire key (s.told i) → AwaitsExpire key (s.told j) → i = j
  awaited : ∀ key counter, s.world.counters key = some counter → counter.expiresAt = none →
    ∃ i, AwaitsExpire key (s.told i)
  soon : ∀ key counter t, s.world.counters key = some counter → counter.expiresAt = some t →
    t ≤ s.world.now + phoneOtpSendWindowSec

/-- The only command that creates a counter is an increment that answers one. -/
theorem awaitsExpire_after (h : AwaitsExpire key ((s.after execGate i c).told j)) :
    i = j ∧ c = .incr key ∧ (s.world.incr key).count = 1 ∨ i ≠ j ∧ AwaitsExpire key (s.told j) := by
  by_cases hij : i = j
  · subst hij
    obtain ⟨rest, heq⟩ := h
    rw [Scene.told_after_self] at heq
    obtain ⟨hhead, -⟩ := List.cons.inj heq
    have hcmd : c = .incr key := congrArg Sigma.fst hhead
    subst hcmd
    exact .inl ⟨rfl, rfl, eq_of_heq (Sigma.mk.inj hhead).2⟩
  · rw [Scene.told_after_of_ne execGate hij] at h
    exact .inr ⟨hij, h⟩

namespace Expiring

variable (h : Expiring s) (hclear : Cleared (s.told i) c)

include h

omit [DecidableEq ν] [DecidableEq κ] in
theorem counter_of_incr_eq_one (hone : (s.world.incr key).count = 1) :
    s.world.counter key = none := by
  cases hcounter : s.world.counter key with
  | none => rfl
  | some counter =>
      rw [incr_of_some hcounter] at hone
      have hpos := h.positive key counter (counter_eq_some.mp hcounter).1
      have hzero : counter.count = 0 := Nat.succ.inj hone
      omega

theorem positive_after (key : CounterKey ν κ) (counter : Counter)
    (hcounter : (execGate c s.world).2.counters key = some counter) : 1 ≤ counter.count := by
  by_cases hincr : c = .incr key
  · subst hincr
    rw [counters_incr, Option.some.injEq] at hcounter
    rw [← hcounter, GateWorld.incr]
    split
    · exact Nat.le_refl 1
    · exact Nat.le_add_left 1 _
  · by_cases hexpire : ∃ sec, c = .expire key sec
    · obtain ⟨sec, rfl⟩ := hexpire
      rw [counters_expire, Option.map_eq_some_iff] at hcounter
      obtain ⟨old, hold, rfl⟩ := hcounter
      exact h.positive key old (counter_eq_some.mp hold).1
    · rw [counters_of_spares ⟨hincr, fun sec heq => hexpire ⟨sec, heq⟩⟩] at hcounter
      exact h.positive key counter hcounter

include hclear in
theorem created_after (j : ι) (key : CounterKey ν κ)
    (hawaits : AwaitsExpire key ((s.after execGate i c).told j)) :
    ∃ counter, (execGate c s.world).2.counters key = some counter ∧ counter.expiresAt = none := by
  rcases awaitsExpire_after hawaits with ⟨-, rfl, hone⟩ | ⟨hij, hawaits⟩
  · rw [counters_incr, incr_of_none (h.counter_of_incr_eq_one hone)]
    exact ⟨_, rfl, rfl⟩
  · obtain ⟨counter, hcounter, hnone⟩ := h.created j key hawaits
    by_cases hincr : c = .incr key
    · subst hincr
      rw [counters_incr, incr_of_some (counter_eq_some.mpr ⟨hcounter, livesAt_of_none hnone⟩)]
      exact ⟨_, rfl, hnone⟩
    · have hexpire : ∀ sec, c ≠ .expire key sec := fun sec heq =>
        hij (h.alone i j key (hclear.expires key sec heq).2 hawaits)
      rw [counters_of_spares ⟨hincr, hexpire⟩]
      exact ⟨counter, hcounter, hnone⟩

theorem alone_after (j j' : ι) (key : CounterKey ν κ)
    (hj : AwaitsExpire key ((s.after execGate i c).told j))
    (hj' : AwaitsExpire key ((s.after execGate i c).told j')) : j = j' := by
  have hnew {j : ι} (hone : (s.world.incr key).count = 1) (hj : AwaitsExpire key (s.told j)) :
      False := by
    obtain ⟨counter, hcounter, hnone⟩ := h.created j key hj
    have hgone := h.counter_of_incr_eq_one hone
    rw [counter_eq_some.mpr ⟨hcounter, livesAt_of_none hnone⟩] at hgone
    cases hgone
  rcases awaitsExpire_after hj with ⟨rfl, -, hone⟩ | ⟨-, hj⟩
  · rcases awaitsExpire_after hj' with ⟨rfl, -⟩ | ⟨-, hj'⟩
    · rfl
    · exact (hnew hone hj').elim
  · rcases awaitsExpire_after hj' with ⟨-, -, hone⟩ | ⟨-, hj'⟩
    · exact (hnew hone hj).elim
    · exact h.alone j j' key hj hj'

include hclear in
theorem awaited_after (key : CounterKey ν κ) (counter : Counter)
    (hcounter : (execGate c s.world).2.counters key = some counter)
    (hnone : counter.expiresAt = none) :
    ∃ j, AwaitsExpire key ((s.after execGate i c).told j) := by
  -- a call that awaits its expiry issues nothing else
  have hstill {j : ι} (hj : AwaitsExpire key (s.told j))
      (hexpire : ∀ sec, c ≠ .expire key sec) :
      AwaitsExpire key ((s.after execGate i c).told j) := by
    have hij : i ≠ j := by
      rintro rfl
      exact hexpire _ (hclear.settles key hj)
    rw [Scene.told_after_of_ne execGate hij]
    exact hj
  by_cases hincr : c = .incr key
  · subst hincr
    rw [counters_incr, Option.some.injEq] at hcounter
    cases hold : s.world.counter key with
    | none =>
        refine ⟨i, s.told i, ?_⟩
        rw [Scene.told_after_self, execGate, incr_of_none hold]
    | some old =>
        rw [incr_of_some hold] at hcounter
        subst hcounter
        obtain ⟨j, hj⟩ := h.awaited key old (counter_eq_some.mp hold).1 hnone
        exact ⟨j, hstill hj (by simp)⟩
  · by_cases hexpire : ∃ sec, c = .expire key sec
    · obtain ⟨sec, rfl⟩ := hexpire
      rw [counters_expire, Option.map_eq_some_iff] at hcounter
      obtain ⟨old, -, rfl⟩ := hcounter
      cases hnone
    · have hexpire : ∀ sec, c ≠ .expire key sec := fun sec heq => hexpire ⟨sec, heq⟩
      rw [counters_of_spares ⟨hincr, hexpire⟩] at hcounter
      obtain ⟨j, hj⟩ := h.awaited key counter hcounter hnone
      exact ⟨j, hstill hj hexpire⟩

include hclear in
theorem soon_after (key : CounterKey ν κ) (counter : Counter) (t : ℕ)
    (hcounter : (execGate c s.world).2.counters key = some counter)
    (hsome : counter.expiresAt = some t) :
    t ≤ (execGate c s.world).2.now + phoneOtpSendWindowSec := by
  have hlater {counter : Counter} (hcounter : s.world.counters key = some counter)
      (hsome : counter.expiresAt = some t) :
      t ≤ (execGate c s.world).2.now + phoneOtpSendWindowSec := by
    have hsoon := h.soon key counter t hcounter hsome
    rw [now_execGate]
    omega
  by_cases hincr : c = .incr key
  · subst hincr
    rw [counters_incr, Option.some.injEq] at hcounter
    cases hold : s.world.counter key with
    | none =>
        rw [incr_of_none hold] at hcounter
        subst hcounter
        cases hsome
    | some old =>
        rw [incr_of_some hold] at hcounter
        subst hcounter
        exact hlater (counter_eq_some.mp hold).1 hsome
  · by_cases hexpire : ∃ sec, c = .expire key sec
    · obtain ⟨sec, rfl⟩ := hexpire
      rw [counters_expire, Option.map_eq_some_iff] at hcounter
      obtain ⟨old, -, rfl⟩ := hcounter
      cases hsome
      rw [(hclear.expires key sec rfl).1]
      exact Nat.le_refl _
    · rw [counters_of_spares ⟨hincr, fun sec heq => hexpire ⟨sec, heq⟩⟩] at hcounter
      exact hlater hcounter hsome

include hclear in
theorem after : Expiring (s.after execGate i c) where
  positive := h.positive_after
  created := h.created_after hclear
  alone := h.alone_after
  awaited := h.awaited_after hclear
  soon := h.soon_after hclear

end Expiring

end Expiry

/-! ### Windows -/

section Windows

variable {ι ν κ : Type} [DecidableEq ι] [DecidableEq ν] [DecidableEq κ] {e164Phone : ν}
  {s : GateScene ι ν κ} {i : ι} {c : GateCmd ν κ}

/-- The counter of the number is consumed, and is not over its limit. -/
def admits (e164Phone : ν) (e : GateEvent ι ν κ) : Bool :=
  match e with
  | ⟨_, .incr key, count⟩ => key = .phone e164Phone ∧ count ≤ phoneOtpMaxSendsPerHour
  | _ => false

/-- The answers of a counter count the calls of its window; whoever is allowed in
a window has been counted in it, and is allowed once. -/
structure Windowed (e164Phone : ν) (s : GateScene ι ν κ) : Prop where
  counted : ∀ counter, s.world.counter (.phone e164Phone) = some counter →
    counter.count =
      (current (opensWindow (.phone e164Phone)) s.trace).countP (consumes (.phone e164Phone))
  few : ∀ k, (during (opensWindow (.phone e164Phone)) k s.trace).countP (admits e164Phone) ≤
    phoneOtpMaxSendsPerHour
  admitted : ∀ k e, e ∈ during (opensWindow (.phone e164Phone)) k s.trace → isSend e164Phone e →
    ∃ e' ∈ during (opensWindow (.phone e164Phone)) k s.trace, e'.tid = e.tid ∧ admits e164Phone e'
  once : ∀ i, (s.trace.filter (·.tid = i)).countP (isSend e164Phone) ≤ 1

section Events

variable {key : CounterKey ν κ} {r : c.Reply}

omit [DecidableEq ι]

theorem opensWindow_eq_false (h : c ≠ .incr key) :
    opensWindow key (⟨i, c, r⟩ : GateEvent ι ν κ) = false := by
  cases c <;> try rfl
  refine decide_eq_false fun heq => h ?_
  rw [heq.1]

theorem opensWindow_incr {count : ℕ} :
    opensWindow key (⟨i, .incr key, count⟩ : GateEvent ι ν κ) = decide (count = 1) := by
  simp [opensWindow]

theorem consumes_incr {count : ℕ} :
    consumes key (⟨i, .incr key, count⟩ : GateEvent ι ν κ) = true :=
  decide_eq_true rfl

theorem consumes_eq_false (h : c ≠ .incr key) :
    consumes key (⟨i, c, r⟩ : GateEvent ι ν κ) = false :=
  decide_eq_false h

theorem admits_eq_false (h : c ≠ .incr (.phone e164Phone)) :
    admits e164Phone (⟨i, c, r⟩ : GateEvent ι ν κ) = false := by
  cases c <;> try rfl
  refine decide_eq_false fun heq => h ?_
  rw [heq.1]

theorem consumes_of_admits {e : GateEvent ι ν κ} (h : admits e164Phone e = true) :
    consumes (.phone e164Phone) e = true := by
  obtain ⟨i, c, r⟩ := e
  by_contra hne
  rw [admits_eq_false fun heq => hne (decide_eq_true heq)] at h
  cases h

omit [DecidableEq κ] in
theorem isSend_eq_true {e : GateEvent ι ν κ} (h : isSend e164Phone e = true) :
    ∃ sec, e.cmd = .setCooldown e164Phone sec := by
  obtain ⟨i, c, r⟩ := e
  cases c with
  | setCooldown phone sec =>
      have heq : phone = e164Phone := of_decide_eq_true h
      exact ⟨sec, by rw [heq]⟩
  | ttlCooldown => cases h
  | incr => cases h
  | expire => cases h
  | ttl => cases h
  | pass => cases h

end Events

namespace Windowed

variable (h : Windowed e164Phone s) (hexp : Expiring s)

include h hexp

theorem counted_after (counter : Counter)
    (hcounter : (execGate c s.world).2.counter (.phone e164Phone) = some counter) :
    counter.count = (current (opensWindow (.phone e164Phone)) (s.after execGate i c).trace).countP
      (consumes (.phone e164Phone)) := by
  obtain ⟨hstored, hlives⟩ := counter_eq_some.mp hcounter
  rw [Scene.after_trace]
  by_cases hincr : c = .incr (.phone e164Phone)
  · subst hincr
    rw [counters_incr, Option.some.injEq] at hstored
    subst hstored
    cases hold : s.world.counter (.phone e164Phone) with
    | none =>
        have hone : (s.world.incr (.phone e164Phone)).count = 1 := by rw [incr_of_none hold]
        rw [hone, current_cons_of_opens, List.countP_cons_of_pos consumes_incr, List.countP_nil]
        exact opensWindow_incr.trans (decide_eq_true hone)
    | some old =>
        have hpos := hexp.positive _ old (counter_eq_some.mp hold).1
        have hmany : (s.world.incr (.phone e164Phone)).count = old.count + 1 := by
          rw [incr_of_some hold]
        rw [current_cons_of_not_opens, List.countP_cons_of_pos consumes_incr, hmany,
          h.counted old hold]
        refine opensWindow_incr.trans (decide_eq_false ?_)
        show (s.world.incr (.phone e164Phone)).count ≠ 1
        omega
  · rw [current_cons_of_not_opens (opensWindow_eq_false hincr),
      List.countP_cons_of_neg (by simp [consumes_eq_false hincr])]
    by_cases hexpire : ∃ sec, c = .expire (.phone e164Phone) sec
    · obtain ⟨sec, rfl⟩ := hexpire
      rw [counters_expire, Option.map_eq_some_iff] at hstored
      obtain ⟨old, hold, rfl⟩ := hstored
      exact h.counted old hold
    · rw [counters_of_spares ⟨hincr, fun sec heq => hexpire ⟨sec, heq⟩⟩] at hstored
      refine h.counted counter (counter_eq_some.mpr ⟨hstored, fun t ht => ?_⟩)
      have hlater := hlives t ht
      rw [now_execGate] at hlater
      omega

theorem few_after (k : ℕ) :
    (during (opensWindow (.phone e164Phone)) k (s.after execGate i c).trace).countP
      (admits e164Phone) ≤ phoneOtpMaxSendsPerHour := by
  rw [Scene.after_trace]
  by_cases hincr : c = .incr (.phone e164Phone)
  · subst hincr
    cases hadmits : admits e164Phone
        (⟨i, .incr (.phone e164Phone), (s.world.incr (.phone e164Phone)).count⟩ :
          GateEvent ι ν κ) with
    | false => exact countP_during_cons_of_false h.few hadmits k
    | true =>
        refine countP_during_cons_le h.few ?_ k
        cases hold : s.world.counter (.phone e164Phone) with
        | none =>
            have hone : (s.world.incr (.phone e164Phone)).count = 1 := by rw [incr_of_none hold]
            rw [current_cons_of_opens]
            · refine Nat.le_trans List.countP_le_length ?_
              show 1 ≤ 5
              decide
            · exact opensWindow_incr.trans (decide_eq_true hone)
        | some old =>
            have hmany : (s.world.incr (.phone e164Phone)).count = old.count + 1 := by
              rw [incr_of_some hold]
            have hpos := hexp.positive _ old (counter_eq_some.mp hold).1
            have hlow : (s.world.incr (.phone e164Phone)).count ≤ phoneOtpMaxSendsPerHour :=
              (of_decide_eq_true hadmits).2
            have hcounted := h.counted old hold
            have hmono : (current (opensWindow (.phone e164Phone)) s.trace).countP
                (admits e164Phone) ≤ (current (opensWindow (.phone e164Phone)) s.trace).countP
                  (consumes (.phone e164Phone)) :=
              List.countP_mono_left fun e _ he => consumes_of_admits he
            rw [current_cons_of_not_opens, List.countP_cons]
            · split <;> omega
            · refine opensWindow_incr.trans (decide_eq_false ?_)
              show (s.world.incr (.phone e164Phone)).count ≠ 1
              omega
  · exact countP_during_cons_of_false h.few (admits_eq_false hincr) k

omit hexp in
theorem admitted_after (hclear : Cleared (s.told i) c) (hgated : Gated i c s) (k : ℕ)
    (e : GateEvent ι ν κ)
    (he : e ∈ during (opensWindow (.phone e164Phone)) k (s.after execGate i c).trace)
    (hsend : isSend e164Phone e) :
    ∃ e' ∈ during (opensWindow (.phone e164Phone)) k (s.after execGate i c).trace,
      e'.tid = e.tid ∧ admits e164Phone e' := by
  rw [Scene.after_trace] at he ⊢
  rcases mem_during_cons.mp he with ⟨rfl, hk⟩ | he
  · obtain ⟨sec, rfl⟩ := isSend_eq_true hsend
    have hnot : opensWindow (.phone e164Phone)
        (⟨i, .setCooldown e164Phone sec, ()⟩ : GateEvent ι ν κ) = false := rfl
    obtain ⟨-, count, hcount⟩ := hgated
    have hlow := (hclear.gates e164Phone sec rfl).2 count
      (Scene.mem_told.mpr (during_subset hcount))
    refine ⟨⟨i, .incr (.phone e164Phone), count⟩, ?_, rfl, decide_eq_true ⟨rfl, hlow⟩⟩
    rw [List.countP_cons_of_neg (by simp [hnot])] at hk
    subst hk
    exact mem_during_cons.mpr (.inr hcount)
  · obtain ⟨e', he', htid, hadmits⟩ := h.admitted k e he hsend
    exact ⟨e', mem_during_cons.mpr (.inr he'), htid, hadmits⟩

omit hexp in
theorem once_after (hclear : Cleared (s.told i) c) (j : ι) :
    ((s.after execGate i c).trace.filter (·.tid = j)).countP (isSend e164Phone) ≤ 1 := by
  rw [Scene.after_trace]
  by_cases hij : i = j
  · subst hij
    rw [List.filter_cons_of_pos (by simp), List.countP_cons]
    have hnone : (s.trace.filter (·.tid = i)).countP (isSend e164Phone) = 0 := by
      rw [List.countP_eq_zero]
      intro e he hsend
      obtain ⟨sec, hcmd⟩ := isSend_eq_true hsend
      obtain ⟨hmem, htid⟩ := List.mem_filter.mp he
      have htid : e.tid = i := of_decide_eq_true htid
      subst htid
      exact hclear.last ⟨e.cmd, e.reply⟩ (Scene.mem_told.mpr hmem) e164Phone sec hcmd
    rw [hnone]
    split <;> decide
  · rw [List.filter_cons_of_neg (by simpa using hij)]
    exact h.once j

theorem after (hclear : Cleared (s.told i) c) (hgated : Gated i c s) :
    Windowed e164Phone (s.after execGate i c) where
  counted := h.counted_after hexp
  few := h.few_after hexp
  admitted := h.admitted_after hclear hgated
  once := h.once_after hclear

omit hexp in
/-- Whoever is allowed in a window has been admitted in it. -/
theorem bounded : WindowBounded e164Phone s.trace := by
  intro k
  refine Nat.le_trans (countP_le_of_each Event.tid _ fun i => ?_) (h.few k)
  obtain ⟨l, hl⟩ : ∃ l, l = during (opensWindow (.phone e164Phone)) k s.trace := ⟨_, rfl⟩
  rw [← hl]
  by_cases hsend : ∃ e ∈ l.filter (·.tid = i), isSend e164Phone e
  · obtain ⟨e, he, hsend⟩ := hsend
    obtain ⟨hmem, htid⟩ := List.mem_filter.mp he
    obtain ⟨e', he', htid', hadmits⟩ := h.admitted k e (hl ▸ hmem) hsend
    have hone : (l.filter (·.tid = i)).countP (isSend e164Phone) ≤ 1 :=
      Nat.le_trans ((hl ▸ during_sublist.filter _).countP_le) (h.once i)
    refine Nat.le_trans hone (List.countP_pos_iff.mpr ⟨e', ?_, hadmits⟩)
    exact List.mem_filter.mpr ⟨hl ▸ he', decide_eq_true (htid'.trans (of_decide_eq_true htid))⟩
  · rw [List.countP_eq_zero.mpr fun e he hs => hsend ⟨e, he, hs⟩]
    exact Nat.zero_le _

end Windowed

end Windows

/-! ### Cooldowns -/

section Cooldowns

variable {ι ν κ : Type} [DecidableEq ι] [DecidableEq ν] [DecidableEq κ] {e164Phone : ν}
  {s : GateScene ι ν κ} {i : ι} {c : GateCmd ν κ}

/-- The cooldown of the number lasts from every call that was allowed. -/
structure Cooling (e164Phone : ν) (s : GateScene ι ν κ) : Prop where
  lasts : ∀ newer send older, s.trace = newer ++ send :: older → isSend e164Phone send →
    ∃ t, s.world.cooldown e164Phone = some t ∧
      s.world.now + phoneOtpResendCooldownSec ≤ t + elapsed newer
  spaced : Spaced e164Phone s.trace

omit [DecidableEq ι] [DecidableEq ν] [DecidableEq κ] in
theorem elapsed_cons (e : GateEvent ι ν κ) (l : List (GateEvent ι ν κ)) :
    elapsed (e :: l) = e.cmd.sec + elapsed l := by
  rw [elapsed, List.map_cons, List.sum_cons, elapsed]

theorem lasts_after (h : Cooling e164Phone s) (hclear : Cleared (s.told i) c)
    (newer : List (GateEvent ι ν κ)) (send : GateEvent ι ν κ) (older : List (GateEvent ι ν κ))
    (heq : (s.after execGate i c).trace = newer ++ send :: older)
    (hsend : isSend e164Phone send) :
    ∃ t, (execGate c s.world).2.cooldown e164Phone = some t ∧
      (execGate c s.world).2.now + phoneOtpResendCooldownSec ≤ t + elapsed newer := by
  rw [Scene.after_trace] at heq
  by_cases hset : ∃ sec, c = .setCooldown e164Phone sec
  · -- the cooldown starts anew
    obtain ⟨sec, rfl⟩ := hset
    refine ⟨s.world.now + sec, Function.update_self _ _ _, ?_⟩
    rw [(hclear.gates e164Phone sec rfl).1]
    exact Nat.le_add_right _ _
  · have hsame : (execGate c s.world).2.cooldown e164Phone = s.world.cooldown e164Phone := by
      cases c <;> try rfl
      rename_i phone sec
      exact Function.update_of_ne (fun heq => hset ⟨sec, by rw [heq]⟩) _ _
    cases newer with
    | nil =>
        obtain ⟨rfl, -⟩ := List.cons.inj heq
        exact absurd (isSend_eq_true hsend) hset
    | cons e newer =>
        obtain ⟨rfl, htrace⟩ := List.cons.inj heq
        obtain ⟨t, ht, hlasts⟩ := h.lasts newer send older htrace hsend
        refine ⟨t, hsame.trans ht, ?_⟩
        rw [now_execGate, elapsed_cons]
        dsimp only
        omega

omit [DecidableEq ι] in
theorem spaced_after (h : Cooling e164Phone s) (hgated : Gated i c s) :
    Spaced e164Phone (s.after execGate i c).trace := by
  intro newest later between sooner older heq hlater hsooner
  rw [Scene.after_trace] at heq
  cases newest with
  | nil =>
      obtain ⟨rfl, htrace⟩ := List.cons.inj heq
      obtain ⟨sec, rfl⟩ := isSend_eq_true hlater
      obtain ⟨t, ht, hlasts⟩ := h.lasts between sooner older htrace hsooner
      have hover := hgated.1 t ht
      omega
  | cons e newest =>
      obtain ⟨-, htrace⟩ := List.cons.inj heq
      exact h.spaced newest later between sooner older htrace hlater hsooner

theorem Cooling.after (h : Cooling e164Phone s) (hclear : Cleared (s.told i) c)
    (hgated : Gated i c s) : Cooling e164Phone (s.after execGate i c) where
  lasts := lasts_after h hclear
  spaced := spaced_after h hgated

end Cooldowns

/-! ### Runs -/

section Runs

variable {ι ν κ ω : Type} [DecidableEq ι] [DecidableEq ν] [DecidableEq κ] {hashIp : ω → κ}
  {calls : ι → GateCall ν ω} {now : ℕ} {sched : List ι}

/-- What is known of the gate at any time. -/
structure GateInv (s : GateScene ι ν κ) : Prop where
  expiring : Expiring s
  windowed : ∀ e164Phone, Windowed e164Phone s
  cooling : ∀ e164Phone, Cooling e164Phone s

theorem GateInv.after {s : GateScene ι ν κ} {i : ι} {c : GateCmd ν κ} (h : GateInv s)
    (hclear : Cleared (s.told i) c) (hgated : Gated i c s) : GateInv (s.after execGate i c) where
  expiring := h.expiring.after hclear
  windowed e164Phone := (h.windowed e164Phone).after h.expiring hclear hgated
  cooling e164Phone := (h.cooling e164Phone).after hclear hgated

end Runs

namespace Sample

/-- A number asks for a code twice, and half a minute passes at some time. -/
def asking : Fin 3 → GateCall Unit Unit
  | 0 => .check () ()
  | 1 => .check () ()
  | 2 => .pass 30

end Sample

end Greetup.Auth
