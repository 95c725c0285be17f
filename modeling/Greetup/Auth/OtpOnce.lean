import Greetup.Auth.OtpStore
import Greetup.Interleaving.Accounts
import Greetup.Interleaving.Epochs

/-!
What the calls on the codes do together.

A call reads the hash, decides, and then writes; what it writes is meant for the
code it has read. The code of a number that is issued anew opens an epoch of the
history: a guess is compared with the code of the epoch it falls into, and is
counted, or uses up the code, in a later command.
-/

namespace Greetup.Auth

open Interleaving Prog

section Terms

variable {ι ν δ : Type} [DecidableEq ι] [DecidableEq ν] [DecidableEq δ] (cfg : OtpConfig δ)
  (calls : ι → OtpCall ν) (e164Phone : ν)

abbrev OtpTold (ν δ : Type) : Type := Told (OtpCmd ν δ) OtpCmd.Reply

abbrev OtpScene (ι ν δ : Type) : Type := Scene ι (OtpCmd ν δ) OtpCmd.Reply (OtpWorld ν δ)

abbrev OtpEvent (ι ν δ : Type) : Type := Event ι (OtpCmd ν δ) OtpCmd.Reply

/-- How the guess of a call compares with what it is shown of the number. -/
def OtpCall.compared (call : OtpCall ν) (told : OtpTold ν δ) : Comparison :=
  match call, told with
  | .verifyOtp phone rawCode, ⟨.hgetall phone', stored⟩ =>
      if phone = e164Phone ∧ phone' = e164Phone then
        StoredOtp.compare cfg stored (digitsOnlyOtp rawCode)
      else .missing
  | _, _ => .missing

/-- The call has compared its code with the one that is stored, and it was not
the right one. -/
def guessedWrong (i : ι) (told : OtpTold ν δ) : Bool :=
  (calls i).compared cfg e164Phone told = .wrong

def guessedRight (i : ι) (told : OtpTold ν δ) : Bool :=
  (calls i).compared cfg e164Phone told = .right

/-- A code is issued for the number. -/
def issues (e : OtpEvent ι ν δ) : Bool :=
  match e.cmd with
  | .multiSet phone _ => phone = e164Phone
  | _ => false

/-- A wrong guess is counted. -/
def counts (told : OtpTold ν δ) : Bool := told.1 = .hincrbyAttempts e164Phone

/-- How many wrong guesses there are. -/
def wrongs (l : List (OtpEvent ι ν δ)) : ℕ :=
  l.countP fun e => guessedWrong cfg calls e164Phone e.tid ⟨e.cmd, e.reply⟩

def rights (l : List (OtpEvent ι ν δ)) : ℕ :=
  l.countP fun e => guessedRight cfg calls e164Phone e.tid ⟨e.cmd, e.reply⟩

/-- How many of them have been made and not been counted yet. -/
def uncounted (s : OtpScene ι ν δ) : ℕ :=
  s.trace.countP fun e => guessedWrong cfg calls e164Phone e.tid ⟨e.cmd, e.reply⟩ &&
    !((s.told e.tid).any (counts e164Phone))

/-- How many have been counted. -/
def tallies (l : List (OtpEvent ι ν δ)) : ℕ := l.countP fun e => counts e164Phone ⟨e.cmd, e.reply⟩

/-- The call has read a code and has not acted on it yet. -/
def InFlight (told : List (OtpTold ν δ)) : Prop :=
  (∃ stored, told = [⟨.hgetall e164Phone, stored⟩] ∧ (stored.bind StoredOtp.codeHash).isSome) ∨
    ∃ newAttempts stored, cfg.otpMaxAttempts ≤ newAttempts ∧
      told = [⟨.hincrbyAttempts e164Phone, newAttempts⟩, ⟨.hgetall e164Phone, stored⟩]

/-! ### What is asked of the calls -/

/-- A code is issued when no call is in flight on the number. A call with the
right code reads it when no other call that has is yet to delete it; a call with
a wrong one, when the guesses counted and those not counted yet are fewer than
the maximum. -/
def Orderly (i : ι) (c : OtpCmd ν δ) (s : OtpScene ι ν δ) : Prop :=
  match c with
  | .multiSet e164Phone _ => ∀ j, ¬ InFlight cfg e164Phone (s.told j)
  | .hgetall e164Phone =>
      match (calls i).compared cfg e164Phone ⟨.hgetall e164Phone, s.world e164Phone⟩ with
      | .right => ∀ j, (s.told j).any (guessedRight cfg calls e164Phone j) →
          ∃ e ∈ s.told j, e.1 = .del e164Phone
      | .wrong => ((s.world e164Phone).bind StoredOtp.attempts).getD 0 +
          uncounted cfg calls e164Phone s < cfg.otpMaxAttempts
      | _ => True
  | _ => True

end Terms

/-! ### The course of a call -/

section Courses

variable {ι ν δ : Type} [DecidableEq ν] [DecidableEq δ]

/-- What a call can have been told at any time. -/
inductive Course (cfg : OtpConfig δ) : OtpCall ν → List (OtpTold ν δ) → Prop
  | start {call} : Course cfg call []
  | issued {phone drawn codeHash} :
      Course cfg (.createOtp phone drawn) [⟨.multiSet phone codeHash, ()⟩]
  | expired {phone} : Course cfg (.expire phone) [⟨.expire phone, ()⟩]
  | read {phone rawCode stored} : Course cfg (.verifyOtp phone rawCode) [⟨.hgetall phone, stored⟩]
  | used {phone rawCode stored}
      (acted : StoredOtp.compare cfg stored (digitsOnlyOtp rawCode) = .locked ∨
        StoredOtp.compare cfg stored (digitsOnlyOtp rawCode) = .right) :
      Course cfg (.verifyOtp phone rawCode) [⟨.del phone, ()⟩, ⟨.hgetall phone, stored⟩]
  | counted {phone rawCode stored newAttempts}
      (wrong : StoredOtp.compare cfg stored (digitsOnlyOtp rawCode) = .wrong) :
      Course cfg (.verifyOtp phone rawCode)
        [⟨.hincrbyAttempts phone, newAttempts⟩, ⟨.hgetall phone, stored⟩]
  | locked {phone rawCode stored newAttempts}
      (wrong : StoredOtp.compare cfg stored (digitsOnlyOtp rawCode) = .wrong)
      (last : cfg.otpMaxAttempts ≤ newAttempts) :
      Course cfg (.verifyOtp phone rawCode)
        [⟨.del phone, ()⟩, ⟨.hincrbyAttempts phone, newAttempts⟩, ⟨.hgetall phone, stored⟩]

/-- A command that takes the call on its course. -/
def Due (cfg : OtpConfig δ) (call : OtpCall ν) (told : List (OtpTold ν δ)) (c : OtpCmd ν δ) :
    Prop :=
  ∀ r, Course cfg call (⟨c, r⟩ :: told)

/-- A call that returns `ok` has compared its code with the one that was stored,
and it was the right one. -/
def Ended (cfg : OtpConfig δ) (call : OtpCall ν) (told : List (OtpTold ν δ)) (a : OtpOutcome) :
    Prop :=
  Course cfg call told ∧ (a = .verified .ok → ∀ e164Phone stored,
    ⟨.hgetall e164Phone, stored⟩ ∈ told →
      call.compared cfg e164Phone ⟨.hgetall e164Phone, stored⟩ = .right)

section Licences

variable (cfg : OtpConfig δ) (e164Phone : ν) (rawCode : String)

theorem isSome_of_compare {stored : Option (StoredOtp δ)} {code : String}
    (h : StoredOtp.compare cfg stored code ≠ .missing) :
    (stored.bind StoredOtp.codeHash).isSome := by
  rw [StoredOtp.compare] at h
  split at h
  · exact absurd rfl h
  · rename_i codeHash heq
    rw [heq]
    rfl

theorem compared_hgetall (stored : Option (StoredOtp δ)) :
    (OtpCall.verifyOtp e164Phone rawCode).compared cfg e164Phone ⟨.hgetall e164Phone, stored⟩ =
      StoredOtp.compare cfg stored (digitsOnlyOtp rawCode) :=
  if_pos ⟨rfl, rfl⟩

end Licences

end Courses

/-! ### What one command can do -/

section Commands

variable {ι ν δ : Type} [DecidableEq ν] {cfg : OtpConfig δ} {calls : ι → OtpCall ν}
  {e164Phone : ν} {c : OtpCmd ν δ} {i : ι}

def OtpCmd.phone : OtpCmd ν δ → ν
  | .multiSet phone _ | .hgetall phone | .del phone | .hincrbyAttempts phone | .expire phone =>
      phone

theorem execOtp_of_ne (h : c.phone ≠ e164Phone) (w : OtpWorld ν δ) :
    (execOtp c w).2 e164Phone = w e164Phone := by
  cases c with
  | hgetall phone => rfl
  | expire phone =>
      rw [execOtp]
      split
      · exact Function.update_of_ne h.symm _ _
      · rfl
  | multiSet phone codeHash => exact Function.update_of_ne h.symm _ _
  | del phone => exact Function.update_of_ne h.symm _ _
  | hincrbyAttempts phone => exact Function.update_of_ne h.symm _ _

theorem issues_eq_false (h : ∀ codeHash, c ≠ .multiSet e164Phone codeHash) (r : c.Reply) :
    issues e164Phone (⟨i, c, r⟩ : OtpEvent ι ν δ) = false := by
  cases c <;> try rfl
  rename_i phone codeHash
  refine decide_eq_false fun heq => h codeHash ?_
  rw [heq]

theorem issues_multiSet (codeHash : δ) (r : Unit) :
    issues e164Phone (⟨i, .multiSet e164Phone codeHash, r⟩ : OtpEvent ι ν δ) = true :=
  decide_eq_true rfl

omit [DecidableEq ν] in
theorem not_inFlight_cons {h : List (OtpTold ν δ)} {r : c.Reply} (hread : c ≠ .hgetall e164Phone)
    (hcount : c ≠ .hincrbyAttempts e164Phone) : ¬ InFlight cfg e164Phone (⟨c, r⟩ :: h) := by
  rintro (⟨stored, heq, -⟩ | ⟨newAttempts, stored, -, heq⟩)
  · cases heq
    exact hread rfl
  · cases heq
    exact hcount rfl

variable [DecidableEq δ]

/-- Only what a call reads of the number is compared. -/
theorem compared_eq_missing (h : c ≠ .hgetall e164Phone) (call : OtpCall ν) (r : c.Reply) :
    call.compared cfg e164Phone ⟨c, r⟩ = .missing := by
  cases call <;> cases c <;> try rfl
  exact if_neg fun heq => h (by rw [heq.2])

theorem guessedWrong_eq_false (h : c ≠ .hgetall e164Phone) (r : c.Reply) :
    guessedWrong cfg calls e164Phone i ⟨c, r⟩ = false := by
  rw [guessedWrong, compared_eq_missing h]
  rfl

theorem guessedRight_eq_false (h : c ≠ .hgetall e164Phone) (r : c.Reply) :
    guessedRight cfg calls e164Phone i ⟨c, r⟩ = false := by
  rw [guessedRight, compared_eq_missing h]
  rfl

/-- What is compared is a code that is stored. -/
theorem isSome_of_compared {call : OtpCall ν} {stored : Option (StoredOtp δ)}
    (h : call.compared cfg e164Phone ⟨.hgetall e164Phone, stored⟩ ≠ .missing) :
    (stored.bind StoredOtp.codeHash).isSome := by
  cases call with
  | verifyOtp phone rawCode =>
      by_cases hphone : phone = e164Phone
      · cases hphone
        rw [compared_hgetall] at h
        exact isSome_of_compare cfg h
      · exact absurd (if_neg fun heq => hphone heq.1) h
  | createOtp phone drawn => exact absurd rfl h
  | expire phone => exact absurd rfl h

theorem guessedWrong_hgetall {rawCode : String} {stored : Option (StoredOtp δ)}
    (hcall : calls i = .verifyOtp e164Phone rawCode)
    (hwrong : StoredOtp.compare cfg stored (digitsOnlyOtp rawCode) = .wrong) :
    guessedWrong cfg calls e164Phone i ⟨.hgetall e164Phone, stored⟩ = true := by
  rw [guessedWrong, hcall, compared_hgetall, hwrong]
  rfl

/-- A guess that has been counted was wrong, and is the only one of its call. -/
theorem countP_guessedWrong_of_course {call : OtpCall ν} {h : List (OtpTold ν δ)}
    (hcall : calls i = call) (hcourse : Course cfg call h) :
    h.countP (fun t => guessedWrong cfg calls e164Phone i t && h.any (counts e164Phone)) =
      h.countP (counts e164Phone) := by
  cases hcourse with
  | start => rfl
  | issued => simp [counts]
  | expired => simp [counts]
  | read => simp [counts]
  | used => simp [counts]
  | counted hwrong =>
      rename_i phone rawCode stored newAttempts
      by_cases hphone : phone = e164Phone
      · cases hphone
        simp [counts, guessedWrong_eq_false, guessedWrong_hgetall hcall hwrong]
      · simp [counts, hphone]
  | locked hwrong hlast =>
      rename_i phone rawCode stored newAttempts
      by_cases hphone : phone = e164Phone
      · cases hphone
        simp [counts, guessedWrong_eq_false, guessedWrong_hgetall hcall hwrong]
      · simp [counts, hphone]

/-- A call that has guessed wrong has yet to count it, or has. -/
theorem inFlight_of_course {call : OtpCall ν} {h : List (OtpTold ν δ)} (hcall : calls i = call)
    (hcourse : Course cfg call h) {t : OtpTold ν δ} (ht : t ∈ h)
    (hwrong : guessedWrong cfg calls e164Phone i t = true) :
    InFlight cfg e164Phone h ∨ h.any (counts e164Phone) = true := by
  obtain ⟨c, r⟩ := t
  obtain rfl : c = .hgetall e164Phone := by
    by_contra hne
    rw [guessedWrong_eq_false hne] at hwrong
    cases hwrong
  cases hcourse with
  | start => cases ht
  | issued => cases List.mem_singleton.mp ht
  | expired => cases List.mem_singleton.mp ht
  | read =>
      cases List.mem_singleton.mp ht
      have hfound : (calls i).compared cfg e164Phone ⟨.hgetall e164Phone, r⟩ ≠ .missing := by
        rw [of_decide_eq_true hwrong]
        decide
      exact .inl (.inl ⟨r, rfl, isSome_of_compared hfound⟩)
  | used hacted =>
      rcases List.mem_cons.mp ht with heq | ht
      · cases heq
      · cases List.mem_singleton.mp ht
        rw [guessedWrong, hcall, compared_hgetall] at hwrong
        rcases hacted with hlocked | hright
        · rw [hlocked] at hwrong
          cases hwrong
        · rw [hright] at hwrong
          cases hwrong
  | counted =>
      rcases List.mem_cons.mp ht with heq | ht
      · cases heq
      · cases List.mem_singleton.mp ht
        exact .inr (by simp [counts])
  | locked =>
      rcases List.mem_cons.mp ht with heq | ht
      · cases heq
      · rcases List.mem_cons.mp ht with heq | ht
        · cases heq
        · cases List.mem_singleton.mp ht
          exact .inr (by simp [counts])

end Commands

/-! ### The account of a number -/

section Accounts

variable {ι ν δ : Type} [DecidableEq ι] [DecidableEq ν] [DecidableEq δ] {cfg : OtpConfig δ}
  {calls : ι → OtpCall ν} {e164Phone : ν} {s : OtpScene ι ν δ} {c : OtpCmd ν δ} {i : ι}

variable (e164Phone) in
theorem uncounted_add_tallies (h : ∀ i, Course cfg (calls i) (s.told i)) :
    uncounted cfg calls e164Phone s + tallies e164Phone s.trace =
      wrongs cfg calls e164Phone s.trace := by
  have hcounted : tallies e164Phone s.trace = s.trace.countP fun e =>
      guessedWrong cfg calls e164Phone e.tid ⟨e.cmd, e.reply⟩ &&
        (s.told e.tid).any (counts e164Phone) := by
    refine (Scene.countP_eq_of_told (P := fun i t => guessedWrong cfg calls e164Phone i t &&
      (s.told i).any (counts e164Phone)) (Q := fun _ => counts e164Phone) fun i => ?_).symm
    exact countP_guessedWrong_of_course rfl (h i)
  rw [hcounted, uncounted, wrongs]
  generalize s.trace = l
  induction l with
  | nil => rfl
  | cons e l ih =>
      simp only [List.countP_cons, ← ih]
      cases guessedWrong cfg calls e164Phone e.tid ⟨e.cmd, e.reply⟩ <;>
        cases (s.told e.tid).any (counts e164Phone) <;> simp <;> omega

theorem uncounted_eq_zero (h : ∀ i, Course cfg (calls i) (s.told i))
    (hidle : ∀ i, ¬ InFlight cfg e164Phone (s.told i)) :
    uncounted cfg calls e164Phone s = 0 := by
  rw [uncounted, List.countP_eq_zero]
  rintro ⟨i, c, r⟩ he hopen
  obtain ⟨hwrong, hnone⟩ := (Bool.and_eq_true _ _).mp hopen
  rcases inFlight_of_course rfl (h i) (Scene.mem_told.mpr he) hwrong with hflight | hcounted
  · exact hidle i hflight
  · rw [hcounted] at hnone
    cases hnone

/-- There is a code that can be compared. -/
def Live (w : OtpWorld ν δ) (e164Phone : ν) : Prop :=
  ((w e164Phone).bind StoredOtp.codeHash).isSome

/-- What is stored of the number is what has been guessed since the code was
issued. -/
structure OtpAccount (cfg : OtpConfig δ) (calls : ι → OtpCall ν) (e164Phone : ν)
    (s : OtpScene ι ν δ) : Prop where
  balanced : Live s.world e164Phone →
    wrongs cfg calls e164Phone (current (issues e164Phone) s.trace) + tallies e164Phone s.trace =
      ((s.world e164Phone).bind StoredOtp.attempts).getD 0 + wrongs cfg calls e164Phone s.trace
  unused : Live s.world e164Phone → ∀ e ∈ current (issues e164Phone) s.trace,
    guessedRight cfg calls e164Phone e.tid ⟨e.cmd, e.reply⟩ → ∀ t ∈ s.told e.tid,
      t.1 ≠ .del e164Phone
  recent : ∀ i, InFlight cfg e164Phone (s.told i) →
    ∃ stored, ⟨i, .hgetall e164Phone, stored⟩ ∈ current (issues e164Phone) s.trace
  bounded : ∀ k, wrongs cfg calls e164Phone (during (issues e164Phone) k s.trace) ≤
    cfg.otpMaxAttempts
  once : ∀ k, rights cfg calls e164Phone (during (issues e164Phone) k s.trace) ≤ 1

omit [DecidableEq ι] in
/-- A code stays what it is until it is issued anew, and only guesses that are
counted change the attempts. -/
theorem live_after (hc : ∀ codeHash, c ≠ .multiSet e164Phone codeHash) {w : OtpWorld ν δ}
    (h : Live (execOtp c w).2 e164Phone) : Live w e164Phone ∧
      (((execOtp c w).2 e164Phone).bind StoredOtp.attempts).getD 0 =
        ((w e164Phone).bind StoredOtp.attempts).getD 0 +
          if c = .hincrbyAttempts e164Phone then 1 else 0 := by
  by_cases hphone : c.phone = e164Phone
  · cases c with
    | multiSet phone codeHash => exact absurd (by rw [← hphone]; rfl) (hc codeHash)
    | hgetall phone => exact ⟨h, rfl⟩
    | del phone =>
        obtain rfl : phone = e164Phone := hphone
        rw [Live, execOtp_del] at h
        cases h
    | hincrbyAttempts phone =>
        obtain rfl : phone = e164Phone := hphone
        rw [Live, execOtp_hincrbyAttempts] at h
        rw [execOtp_hincrbyAttempts, if_pos rfl, Live]
        cases hstored : w phone with
        | none =>
            rw [hstored] at h
            cases h
        | some stored =>
            rw [hstored] at h
            exact ⟨h, rfl⟩
    | expire phone =>
        obtain rfl : phone = e164Phone := hphone
        rw [Live, execOtp_expire] at h
        rw [execOtp_expire]
        split at h
        · cases h
        · rename_i hlasts
          rw [if_neg hlasts]
          exact ⟨h, rfl⟩
  · rw [Live, execOtp_of_ne hphone] at h
    rw [execOtp_of_ne hphone, if_neg]
    · exact ⟨h, rfl⟩
    · rintro rfl
      exact hphone rfl

section Counting

omit [DecidableEq ι]

theorem wrongs_cons (e : OtpEvent ι ν δ) (l : List (OtpEvent ι ν δ)) :
    wrongs cfg calls e164Phone (e :: l) = wrongs cfg calls e164Phone l +
      if guessedWrong cfg calls e164Phone e.tid ⟨e.cmd, e.reply⟩ then 1 else 0 :=
  List.countP_cons

theorem tallies_cons (e : OtpEvent ι ν δ) (l : List (OtpEvent ι ν δ)) :
    tallies e164Phone (e :: l) =
      tallies e164Phone l + if e.cmd = .hincrbyAttempts e164Phone then 1 else 0 := by
  rw [tallies, List.countP_cons, ← tallies]
  simp only [counts, decide_eq_true_eq]

end Counting

theorem OtpAccount.balanced_after (h : OtpAccount cfg calls e164Phone s)
    (hcourse : ∀ i, Course cfg (calls i) (s.told i)) (horder : Orderly cfg calls i c s)
    (hlive : Live (execOtp c s.world).2 e164Phone) :
    wrongs cfg calls e164Phone (current (issues e164Phone) (s.after execOtp i c).trace) +
        tallies e164Phone (s.after execOtp i c).trace =
      (((execOtp c s.world).2 e164Phone).bind StoredOtp.attempts).getD 0 +
        wrongs cfg calls e164Phone (s.after execOtp i c).trace := by
  rw [Scene.after_trace, tallies_cons, wrongs_cons]
  by_cases hissue : ∃ codeHash, c = .multiSet e164Phone codeHash
  · obtain ⟨codeHash, rfl⟩ := hissue
    have hall := uncounted_add_tallies e164Phone hcourse
    rw [uncounted_eq_zero hcourse horder, Nat.zero_add] at hall
    rw [current_cons_of_opens (issues_multiSet codeHash _), wrongs_cons, hall, execOtp_multiSet]
    simp [wrongs, guessedWrong_eq_false]
  · have hnot : ∀ codeHash, c ≠ .multiSet e164Phone codeHash := fun d hd => hissue ⟨d, hd⟩
    obtain ⟨hlive, hattempts⟩ := live_after hnot hlive
    have hbalanced := h.balanced hlive
    rw [current_cons_of_not_opens (issues_eq_false hnot _), wrongs_cons, hattempts]
    dsimp only
    omega

omit [DecidableEq ι] [DecidableEq ν] in
theorem Due.told_eq_nil {call : OtpCall ν} {h : List (OtpTold ν δ)}
    (hdue : Due cfg call h (.hgetall e164Phone)) : h = [] := by
  cases hdue none
  rfl

omit [DecidableEq ι] [DecidableEq ν] in
/-- A call deletes and counts for a code that it has read. -/
theorem Due.inFlight {call : OtpCall ν} {h : List (OtpTold ν δ)} (hdue : Due cfg call h c)
    (hc : c = .del e164Phone ∨ c = .hincrbyAttempts e164Phone) : InFlight cfg e164Phone h := by
  have hfound {stored : Option (StoredOtp δ)} {code : String} {x : Comparison}
      (h : StoredOtp.compare cfg stored code = x) (hx : x ≠ .missing) :
      (stored.bind StoredOtp.codeHash).isSome :=
    isSome_of_compare cfg (h ▸ hx)
  rcases hc with rfl | rfl
  · cases hdue () with
    | used hacted =>
        refine .inl ⟨_, rfl, ?_⟩
        rcases hacted with hlocked | hright
        · exact hfound hlocked (by decide)
        · exact hfound hright (by decide)
    | locked hwrong hlast => exact .inr ⟨_, _, hlast, rfl⟩
  · cases hdue 0 with
    | counted hwrong => exact .inl ⟨_, rfl, hfound hwrong (by decide)⟩

omit [DecidableEq ι] in
/-- What is compared when it is read is a code that is stored. -/
theorem live_of_compared {r : c.Reply} {call : OtpCall ν} {w : OtpWorld ν δ}
    (hr : r = (execOtp c w).1) (h : call.compared cfg e164Phone ⟨c, r⟩ ≠ .missing) :
    c = .hgetall e164Phone ∧ Live w e164Phone := by
  by_cases hc : c = .hgetall e164Phone
  · subst hc
    subst hr
    exact ⟨rfl, isSome_of_compared h⟩
  · exact absurd (compared_eq_missing hc call r) h

namespace OtpAccount

variable (h : OtpAccount cfg calls e164Phone s) (hdue : Due cfg (calls i) (s.told i) c)
  (horder : Orderly cfg calls i c s)

include h

include hdue in
theorem unused_after (hlive : Live (execOtp c s.world).2 e164Phone) :
    ∀ e ∈ current (issues e164Phone) (s.after execOtp i c).trace,
      guessedRight cfg calls e164Phone e.tid ⟨e.cmd, e.reply⟩ →
        ∀ t ∈ (s.after execOtp i c).told e.tid, t.1 ≠ .del e164Phone := by
  intro e he hright t ht hdel
  rw [Scene.after_trace] at he
  by_cases hissue : ∃ codeHash, c = .multiSet e164Phone codeHash
  · obtain ⟨codeHash, rfl⟩ := hissue
    rw [current_cons_of_opens (issues_multiSet codeHash _), List.mem_singleton] at he
    subst he
    rw [guessedRight_eq_false (by simp)] at hright
    cases hright
  · have hnot : ∀ codeHash, c ≠ .multiSet e164Phone codeHash := fun d hd => hissue ⟨d, hd⟩
    have hkept : c ≠ .del e164Phone := by
      rintro rfl
      rw [Live, execOtp_del] at hlive
      cases hlive
    rw [current_cons_of_not_opens (issues_eq_false hnot _), List.mem_cons] at he
    rcases (Scene.mem_told_after execOtp).mp ht with ⟨-, rfl⟩ | ht
    · exact hkept hdel
    · rcases he with rfl | he
      · -- the call that reads has done nothing before
        have hfound : (calls i).compared cfg e164Phone ⟨c, (execOtp c s.world).1⟩ ≠ .missing := by
          rw [of_decide_eq_true hright]
          decide
        obtain ⟨rfl, -⟩ := live_of_compared rfl hfound
        rw [hdue.told_eq_nil] at ht
        cases ht
      · exact h.unused (live_after hnot hlive).1 e he hright t ht hdel

include hdue horder in
theorem recent_after (j : ι) (hflight : InFlight cfg e164Phone ((s.after execOtp i c).told j)) :
    ∃ stored, ⟨j, .hgetall e164Phone, stored⟩ ∈
      current (issues e164Phone) (s.after execOtp i c).trace := by
  rw [Scene.after_trace]
  by_cases hij : i = j
  · subst hij
    rw [Scene.told_after_self] at hflight
    by_cases hread : c = .hgetall e164Phone
    · subst hread
      rw [current_cons_of_not_opens (issues_eq_false (by simp) _)]
      exact ⟨_, List.mem_cons_self⟩
    · by_cases hcount : c = .hincrbyAttempts e164Phone
      · subst hcount
        obtain ⟨stored, hstored⟩ := h.recent i (hdue.inFlight (.inr rfl))
        rw [current_cons_of_not_opens (issues_eq_false (by simp) _)]
        exact ⟨stored, List.mem_cons_of_mem _ hstored⟩
      · exact absurd hflight (not_inFlight_cons hread hcount)
  · rw [Scene.told_after_of_ne execOtp hij] at hflight
    by_cases hissue : ∃ codeHash, c = .multiSet e164Phone codeHash
    · obtain ⟨codeHash, rfl⟩ := hissue
      exact absurd hflight (horder j)
    · have hnot : ∀ codeHash, c ≠ .multiSet e164Phone codeHash := fun d hd => hissue ⟨d, hd⟩
      obtain ⟨stored, hstored⟩ := h.recent j hflight
      rw [current_cons_of_not_opens (issues_eq_false hnot _)]
      exact ⟨stored, List.mem_cons_of_mem _ hstored⟩

include horder in
theorem bounded_after (hcourse : ∀ i, Course cfg (calls i) (s.told i)) (k : ℕ) :
    wrongs cfg calls e164Phone (during (issues e164Phone) k (s.after execOtp i c).trace) ≤
      cfg.otpMaxAttempts := by
  rw [Scene.after_trace]
  cases hwrong : guessedWrong cfg calls e164Phone i ⟨c, (execOtp c s.world).1⟩ with
  | false => exact countP_during_cons_of_false h.bounded hwrong k
  | true =>
      have hcompared := of_decide_eq_true hwrong
      obtain ⟨rfl, hlive⟩ := live_of_compared rfl (hcompared.trans_ne (by decide))
      refine countP_during_cons_le h.bounded ?_ k
      have hfew : ((s.world e164Phone).bind StoredOtp.attempts).getD 0 +
          uncounted cfg calls e164Phone s < cfg.otpMaxAttempts := by
        have horder' := horder
        simp only [Orderly] at horder'
        rw [show (calls i).compared cfg e164Phone ⟨.hgetall e164Phone, s.world e164Phone⟩ = .wrong
          from hcompared] at horder'
        exact horder'
      have hbalanced := h.balanced hlive
      have hall := uncounted_add_tallies e164Phone hcourse
      rw [current_cons_of_not_opens (issues_eq_false (by simp) _)]
      show wrongs cfg calls e164Phone _ ≤ _
      rw [wrongs_cons]
      dsimp only
      rw [if_pos hwrong]
      omega

include horder in
theorem once_after (k : ℕ) :
    rights cfg calls e164Phone (during (issues e164Phone) k (s.after execOtp i c).trace) ≤ 1 := by
  rw [Scene.after_trace]
  cases hright : guessedRight cfg calls e164Phone i ⟨c, (execOtp c s.world).1⟩ with
  | false => exact countP_during_cons_of_false h.once hright k
  | true =>
      have hcompared := of_decide_eq_true hright
      obtain ⟨rfl, hlive⟩ := live_of_compared rfl (hcompared.trans_ne (by decide))
      refine countP_during_cons_le h.once ?_ k
      have hdeleted : ∀ j, (s.told j).any (guessedRight cfg calls e164Phone j) →
          ∃ e ∈ s.told j, e.1 = .del e164Phone := by
        have horder' := horder
        simp only [Orderly] at horder'
        rw [show (calls i).compared cfg e164Phone ⟨.hgetall e164Phone, s.world e164Phone⟩ = .right
          from hcompared] at horder'
        exact horder'
      -- no other call has the right code, as it would have deleted the key
      have hnone : (current (issues e164Phone) s.trace).countP (fun e =>
          guessedRight cfg calls e164Phone e.tid ⟨e.cmd, e.reply⟩) = 0 := by
        rw [List.countP_eq_zero]
        intro e he hright
        have htold : (⟨e.cmd, e.reply⟩ : OtpTold ν δ) ∈ s.told e.tid :=
          Scene.mem_told.mpr (during_subset he)
        obtain ⟨t, ht, hdel⟩ := hdeleted e.tid (List.any_eq_true.mpr ⟨_, htold, hright⟩)
        exact h.unused hlive e he hright t ht hdel
      rw [current_cons_of_not_opens (issues_eq_false (by simp) _), List.countP_cons, hnone]
      split <;> decide

end OtpAccount

/-- Every call is on its course, and every number has its account. -/
structure OtpInv (cfg : OtpConfig δ) (calls : ι → OtpCall ν) (s : OtpScene ι ν δ) : Prop where
  course : ∀ i, Course cfg (calls i) (s.told i)
  account : ∀ e164Phone, OtpAccount cfg calls e164Phone s

theorem OtpInv.after (h : OtpInv cfg calls s) (hdue : Due cfg (calls i) (s.told i) c)
    (horder : Orderly cfg calls i c s) : OtpInv cfg calls (s.after execOtp i c) where
  course j := by
    by_cases hij : i = j
    · subst hij
      rw [Scene.told_after_self]
      exact hdue _
    · rw [Scene.told_after_of_ne execOtp hij]
      exact h.course j
  account e164Phone :=
    { balanced := (h.account e164Phone).balanced_after h.course horder
      unused := (h.account e164Phone).unused_after hdue
      recent := (h.account e164Phone).recent_after hdue horder
      bounded := (h.account e164Phone).bounded_after horder h.course
      once := (h.account e164Phone).once_after horder }

end Accounts

/-! ### Runs -/

section Runs

variable {ι ν δ : Type} [DecidableEq ι] [DecidableEq ν] [DecidableEq δ] {cfg : OtpConfig δ}
  {calls : ι → OtpCall ν} {sched : List ι}

end Runs

namespace Sample

end Sample

end Greetup.Auth
