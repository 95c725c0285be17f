import Greetup.Interleaving.Licence
import Mathlib.Data.Int.Notation
import Mathlib.Data.Nat.Notation

/-!
The gate in front of the texting service: a cooldown for each number, and
counters of an hour for each number and each address. Time passes in seconds,
and a key is gone as soon as its TTL has run out.
-/

namespace Greetup.Auth

open Interleaving (Prog)

/-- `PHONE_OTP_RESEND_COOLDOWN_SEC` -/
def phoneOtpResendCooldownSec : ℕ := 30

/-- `PHONE_OTP_MAX_SENDS_PER_HOUR` -/
def phoneOtpMaxSendsPerHour : ℕ := 5

/-- `PHONE_OTP_MAX_SENDS_PER_IP_PER_HOUR` -/
def phoneOtpMaxSendsPerIpPerHour : ℕ := 20

/-- `PHONE_OTP_SEND_WINDOW_SEC` -/
def phoneOtpSendWindowSec : ℕ := 3600

/-! ### The store -/

/-- The key of a counter: `sendCountByPhone` or `sendCountByIp` of the hashed
address. -/
inductive CounterKey (ν κ : Type)
  | phone (e164Phone : ν)
  | ip (ipHash : κ)
  deriving DecidableEq

structure Counter where
  count : ℕ
  /-- When its TTL runs out, if it has one. -/
  expiresAt : Option ℕ
  deriving DecidableEq

structure GateWorld (ν κ : Type) where
  now : ℕ
  /-- When the cooldown of a number runs out. -/
  cooldown : ν → Option ℕ
  counters : CounterKey ν κ → Option Counter

/-- It is still there at that time. -/
def Counter.LivesAt (now : ℕ) (counter : Counter) : Prop :=
  ∀ t, counter.expiresAt = some t → now < t

instance (now : ℕ) (counter : Counter) : Decidable (counter.LivesAt now) :=
  decidable_of_iff (counter.expiresAt.all (now < ·)) (by
    rw [Counter.LivesAt]
    cases counter.expiresAt <;> simp)

namespace GateWorld

variable {ν κ : Type} (w : GateWorld ν κ)

/-- The counter under the key. -/
def counter (key : CounterKey ν κ) : Option Counter :=
  (w.counters key).filter (Counter.LivesAt w.now)

/-- What `TTL` answers: the seconds left, or why there are none. -/
def ttl (key : CounterKey ν κ) : ℤ :=
  match w.counter key with
  | none => -2
  | some counter => (counter.expiresAt.map fun t => (t : ℤ) - w.now).getD (-1)

def cooldownTtl (e164Phone : ν) : ℤ :=
  match w.cooldown e164Phone with
  | none => -2
  | some t => if w.now < t then (t : ℤ) - w.now else -2

/-- `INCR`; a key that is not there is created, without a TTL. -/
def incr (key : CounterKey ν κ) : Counter :=
  match w.counter key with
  | none => { count := 1, expiresAt := none }
  | some counter => { counter with count := counter.count + 1 }

end GateWorld

inductive GateCmd (ν κ : Type)
  | ttlCooldown (e164Phone : ν)
  | incr (key : CounterKey ν κ)
  | expire (key : CounterKey ν κ) (sec : ℕ)
  | ttl (key : CounterKey ν κ)
  /-- `SET … EX` -/
  | setCooldown (e164Phone : ν) (sec : ℕ)
  /-- Time passes. -/
  | pass (sec : ℕ)
  deriving DecidableEq

@[reducible] def GateCmd.Reply {ν κ : Type} : GateCmd ν κ → Type
  | .ttlCooldown _ | .ttl _ => ℤ
  | .incr _ => ℕ
  | _ => Unit

section Exec

variable {ν κ : Type} [DecidableEq ν] [DecidableEq κ]

def execGate : (c : GateCmd ν κ) → GateWorld ν κ → c.Reply × GateWorld ν κ
  | .ttlCooldown e164Phone, w => (w.cooldownTtl e164Phone, w)
  | .incr key, w =>
      ((w.incr key).count,
        { w with counters := Function.update w.counters key (some (w.incr key)) })
  | .expire key sec, w =>
      ((), { w with
        counters := Function.update w.counters key
          ((w.counter key).map ({ · with expiresAt := some (w.now + sec) })) })
  | .ttl key, w => (w.ttl key, w)
  | .setCooldown e164Phone sec, w =>
      ((), { w with cooldown := Function.update w.cooldown e164Phone (some (w.now + sec)) })
  | .pass sec, w => ((), { w with now := w.now + sec })

end Exec

abbrev GateM (ν κ : Type) := Prog (GateCmd ν κ) GateCmd.Reply

abbrev issueGate {ν κ : Type} (c : GateCmd ν κ) : GateM ν κ c.Reply := Prog.perform c

/-! ### The functions -/

structure ConsumeRateLimitResult where
  allowed : Bool
  count : ℕ
  retryAfterSec : ℤ

inductive Reason
  | cooldown
  | phoneLimit
  | ipLimit
  deriving DecidableEq

inductive OtpSendGate
  | allowed
  | refused (reason : Reason) (retryAfterSec : ℤ)
  deriving DecidableEq

section Functions

variable {ν κ ω : Type}

def consumeRateLimit (key : CounterKey ν κ) (limit windowSec : ℕ) :
    GateM ν κ ConsumeRateLimitResult := do
  let count ← issueGate (.incr key)
  if count = 1 then issueGate (.expire key windowSec)
  let ttl ← issueGate (.ttl key)
  let retryAfterSec := if 0 < ttl then ttl else windowSec
  return { allowed := count ≤ limit, count, retryAfterSec }

def checkOtpSendAllowed (hashIp : ω → κ) (e164Phone : ν) (ip : ω) : GateM ν κ OtpSendGate := do
  let cooldownTtl ← issueGate (.ttlCooldown e164Phone)
  if 0 < cooldownTtl then return .refused .cooldown cooldownTtl
  let perPhone ← consumeRateLimit (.phone e164Phone) phoneOtpMaxSendsPerHour phoneOtpSendWindowSec
  if !perPhone.allowed then return .refused .phoneLimit perPhone.retryAfterSec
  let perIp ← consumeRateLimit (.ip (hashIp ip)) phoneOtpMaxSendsPerIpPerHour phoneOtpSendWindowSec
  if !perIp.allowed then return .refused .ipLimit perIp.retryAfterSec
  issueGate (.setCooldown e164Phone phoneOtpResendCooldownSec)
  return .allowed

/-- A call of the gate, or a stretch of time. -/
inductive GateCall (ν ω : Type)
  | check (e164Phone : ν) (ip : ω)
  | pass (sec : ℕ)
  deriving DecidableEq

def GateCall.program (hashIp : ω → κ) : GateCall ν ω → GateM ν κ (Option OtpSendGate)
  | .check e164Phone ip => some <$> checkOtpSendAllowed hashIp e164Phone ip
  | .pass sec => (fun _ => none) <$> issueGate (.pass sec)

end Functions

end Greetup.Auth
