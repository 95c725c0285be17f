import Greetup.Interleaving.Licence
import Mathlib.Data.Nat.Notation

/-!
The codes that are sent to phone numbers: how one is stored, and how a code that
a user types in is checked against it. A code is one Redis hash, its digest and
the number of wrong guesses; it is written in one transaction and read, counted
and deleted in commands of their own.
-/

namespace Greetup.Auth

open Interleaving (Prog)

/-! ### The store -/

/-- The hash under `PHONE_OTP_KEYS.code`. -/
structure StoredOtp (δ : Type) where
  codeHash : Option δ
  attempts : Option ℕ
  /-- The key has a TTL. -/
  expires : Bool
  deriving DecidableEq

/-- The service's configuration, and the digest it stores a code as. -/
structure OtpConfig (δ : Type) where
  otpLength : ℕ
  otpMaxAttempts : ℕ
  hashCode : String → δ

/-- Of every number, the hash that is stored, if there is one. -/
abbrev OtpWorld (ν δ : Type) : Type := ν → Option (StoredOtp δ)

inductive OtpCmd (ν δ : Type)
  /-- `MULTI DEL; HSET codeHash attempts 0; EXPIRE` -/
  | multiSet (e164Phone : ν) (codeHash : δ)
  | hgetall (e164Phone : ν)
  | del (e164Phone : ν)
  | hincrbyAttempts (e164Phone : ν)
  /-- The TTL has run out. -/
  | expire (e164Phone : ν)
  deriving DecidableEq

@[reducible] def OtpCmd.Reply {ν δ : Type} : OtpCmd ν δ → Type
  | .hgetall _ => Option (StoredOtp δ)
  | .hincrbyAttempts _ => ℕ
  | _ => Unit

section Exec

variable {ν δ : Type} [DecidableEq ν]

/-- `HINCRBY attempts 1`; a key that is not there is created, without a TTL. -/
def StoredOtp.count (stored : Option (StoredOtp δ)) : StoredOtp δ :=
  match stored with
  | none => { codeHash := none, attempts := some 1, expires := false }
  | some stored => { stored with attempts := some (stored.attempts.getD 0 + 1) }

def execOtp : (c : OtpCmd ν δ) → OtpWorld ν δ → c.Reply × OtpWorld ν δ
  | .multiSet e164Phone codeHash, w =>
      ((), Function.update w e164Phone
        (some { codeHash := some codeHash, attempts := some 0, expires := true }))
  | .hgetall e164Phone, w => (w e164Phone, w)
  | .del e164Phone, w => ((), Function.update w e164Phone none)
  | .hincrbyAttempts e164Phone, w =>
      ((StoredOtp.count (w e164Phone)).attempts.getD 0,
        Function.update w e164Phone (some (StoredOtp.count (w e164Phone))))
  | .expire e164Phone, w =>
      ((), if (w e164Phone).any StoredOtp.expires then Function.update w e164Phone none else w)

section

variable (e164Phone : ν) (w : OtpWorld ν δ)

@[simp] theorem execOtp_multiSet (codeHash : δ) :
    (execOtp (.multiSet e164Phone codeHash) w).2 e164Phone =
      some { codeHash := some codeHash, attempts := some 0, expires := true } :=
  Function.update_self _ _ _

@[simp] theorem execOtp_del : (execOtp (.del e164Phone) w).2 e164Phone = none :=
  Function.update_self _ _ _

@[simp] theorem execOtp_hincrbyAttempts : (execOtp (.hincrbyAttempts e164Phone) w).2 e164Phone =
    some (StoredOtp.count (w e164Phone)) :=
  Function.update_self _ _ _

@[simp] theorem execOtp_expire : (execOtp (.expire e164Phone) w).2 e164Phone =
    if (w e164Phone).any StoredOtp.expires then none else w e164Phone := by
  rw [execOtp]
  split
  · exact Function.update_self _ _ _
  · rfl

end

end Exec

abbrev OtpM (ν δ : Type) := Prog (OtpCmd ν δ) OtpCmd.Reply

abbrev issueOtp {ν δ : Type} (c : OtpCmd ν δ) : OtpM ν δ c.Reply := Prog.perform c

/-! ### The functions -/

inductive VerifyOtpResult
  | ok
  | notFound
  | mismatch (attemptsLeft : ℕ)
  | tooManyAttempts
  deriving DecidableEq

/-- Everything but digits is dropped. -/
def digitsOnlyOtp (raw : String) : String := String.ofList (raw.toList.filter Char.isDigit)

/-- The drawn number with leading zeros. -/
def generateCode (length drawn : ℕ) : String :=
  String.ofList ((toString drawn).toList.leftpad length '0')

section Functions

variable {ν δ : Type} [DecidableEq δ] (cfg : OtpConfig δ)

def createOtp (e164Phone : ν) (drawn : ℕ) : OtpM ν δ String := do
  let code := generateCode cfg.otpLength drawn
  issueOtp (.multiSet e164Phone (cfg.hashCode code))
  return code

/-- What follows when the code is not the one that is stored. -/
def countWrongGuess (e164Phone : ν) : OtpM ν δ VerifyOtpResult := do
  let newAttempts ← issueOtp (.hincrbyAttempts e164Phone)
  if cfg.otpMaxAttempts ≤ newAttempts then
    issueOtp (.del e164Phone)
    return .tooManyAttempts
  return .mismatch (cfg.otpMaxAttempts - newAttempts)

/-- How a code compares with the one that is stored: there is none, there were
too many wrong ones already, or it is the right one or not. -/
inductive Comparison
  | missing
  | locked
  | right
  | wrong
  deriving DecidableEq

def StoredOtp.compare (stored : Option (StoredOtp δ)) (code : String) : Comparison :=
  match stored.bind StoredOtp.codeHash with
  | none => .missing
  | some codeHash =>
      if cfg.otpMaxAttempts ≤ (stored.bind StoredOtp.attempts).getD 0 then .locked
      else if cfg.hashCode code = codeHash then .right
      else .wrong

def verifyOtp (e164Phone : ν) (rawCode : String) : OtpM ν δ VerifyOtpResult := do
  let code := digitsOnlyOtp rawCode
  let stored ← issueOtp (.hgetall e164Phone)
  match StoredOtp.compare cfg stored code with
  | .missing => return .notFound
  | .locked =>
      issueOtp (.del e164Phone)
      return .tooManyAttempts
  | .right =>
      issueOtp (.del e164Phone)
      return .ok
  | .wrong => countWrongGuess cfg e164Phone

end Functions

/-! ### Calls -/

inductive OtpCall (ν : Type)
  | createOtp (e164Phone : ν) (drawn : ℕ)
  | verifyOtp (e164Phone : ν) (rawCode : String)
  | expire (e164Phone : ν)
  deriving DecidableEq

inductive OtpOutcome
  | created (code : String)
  | verified (result : VerifyOtpResult)
  | expired
  deriving DecidableEq

def OtpCall.program {ν δ : Type} [DecidableEq δ] (cfg : OtpConfig δ) :
    OtpCall ν → OtpM ν δ OtpOutcome
  | .createOtp e164Phone drawn => .created <$> Auth.createOtp cfg e164Phone drawn
  | .verifyOtp e164Phone rawCode => .verified <$> Auth.verifyOtp cfg e164Phone rawCode
  | .expire e164Phone => (fun _ => .expired) <$> issueOtp (.expire e164Phone)

end Greetup.Auth
