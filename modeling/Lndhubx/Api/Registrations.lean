import Lndhubx.Core.Decimal
import Lndhubx.Lib.Trace

/-!
# How many users can register

`CreationLimiter` of `api/src/lib.rs` and the handler `create` of
`api/src/routes/auth.rs`. A request for a new user takes the limiter's lock and counts
itself in the running interval, or is refused; without the lock it then inserts the
user, and if that fails takes the lock once more and gives its place back. Any number
of requests are under way at once (`Registrations`).

A place is given back to the interval that runs then. If that is not the interval in
which it was taken, and someone was counted since, one user more than the quota can be
created there. And a limiter with quota 0 subtracts from its interval the time that
passed, when more than the interval has. `registration_quota_kept` says that nothing
else goes wrong: in every run in which places are given back in time and a quota of 0
is not asked too late, no interval has more users than the quota and no subtraction
underflows.
-/

namespace Lndhubx

/-- Instants are in nanoseconds. -/
structure CreationLimiter where
  creationEnabled : Bool
  creationQuota : Nat
  creationQuotaIntervalSeconds : Nat
  created : Nat
  lastIntervalStart : Nat
  deriving DecidableEq

namespace CreationLimiter

def new (creationQuota creationQuotaIntervalSeconds now : Nat) : CreationLimiter where
  creationEnabled := true
  creationQuota
  creationQuotaIntervalSeconds
  created := 0
  lastIntervalStart := now

def enableCreation (l : CreationLimiter) : CreationLimiter := { l with creationEnabled := true }

def disableCreation (l : CreationLimiter) : CreationLimiter := { l with creationEnabled := false }

/-- `last_interval_start.elapsed().as_secs()` -/
def elapsedSeconds (l : CreationLimiter) (now : Nat) : Nat := (now - l.lastIntervalStart) / 10 ^ 9

/-- Is the interval over? -/
def IsOver (l : CreationLimiter) (now : Nat) : Prop :=
  l.creationQuotaIntervalSeconds ≤ l.elapsedSeconds now

instance (l : CreationLimiter) (now : Nat) : Decidable (l.IsOver now) :=
  inferInstanceAs (Decidable (_ ≤ _))

/-- The first half of `increase`: a new interval, if the last one is over. -/
def replenished (l : CreationLimiter) (now : Nat) : CreationLimiter :=
  if l.IsOver now then { l with lastIntervalStart := now, created := 0 } else l

/-- The result of `increase`: how many were counted, or the seconds left. The subtraction
underflows if more time has passed than the interval is long; the limiter is then left as
the first half made it. -/
def increase (now : Nat) (l : CreationLimiter) : Checked (Except Nat Nat) × CreationLimiter :=
  let elapsedSeconds := l.elapsedSeconds now
  let l := l.replenished now
  if l.created < l.creationQuota then
    (.ok (.ok (l.created + 1)), { l with created := l.created + 1 })
  else if elapsedSeconds ≤ l.creationQuotaIntervalSeconds then
    (.ok (.error (l.creationQuotaIntervalSeconds - elapsedSeconds)), l)
  else (.error .overflow, l)

def decrease (l : CreationLimiter) : CreationLimiter :=
  if 0 < l.created then { l with created := l.created - 1 } else l

end CreationLimiter

/-! ## Requests under way -/

/-- The errors of `create` from the limiter on. -/
inductive CreateError where
  | registrationsDisabled
  | registrationLimitExceeded
  | dbConnectionError
  | userAlreadyExists
  | unknown
  deriving DecidableEq

/-- Where a request is. The number is that of the interval it was counted in. -/
inductive Registration where
  | counted (interval : Nat)
  | created (interval : Nat)
  | failed (error : CreateError)
  | panicked
  deriving DecidableEq

structure Registrations where
  limiter : CreationLimiter
  /-- How many intervals the limiter has opened after its first. -/
  interval : Nat
  requests : List Registration
  deriving DecidableEq

inductive RegistrationEvent where
  /-- A new request has the lock. -/
  | increase (now : Nat)
  /-- The database inserted the user of a request. -/
  | inserted (i : Nat)
  /-- It did not, and the request has the lock again. -/
  | insertFailed (i : Nat) (error : CreateError)
  | enableCreation
  | disableCreation

namespace Registrations

def new (creationQuota creationQuotaIntervalSeconds now : Nat) : Registrations :=
  ⟨.new creationQuota creationQuotaIntervalSeconds now, 0, []⟩

/-- Where a request is after `increase`, in the interval that runs then. -/
def afterIncrease (interval : Nat) : Checked (Except Nat Nat) → Registration
  | .ok (.ok _) => .counted interval
  | .ok (.error _) => .failed .registrationLimitExceeded
  | .error _ => .panicked

/-- The interval that runs after an `increase`. -/
def nextInterval (s : Registrations) (now : Nat) : Nat :=
  if s.limiter.IsOver now then s.interval + 1 else s.interval

def step (s : Registrations) : RegistrationEvent → Option Registrations
  | .increase now =>
    if s.limiter.creationEnabled then
      some
        { limiter := (s.limiter.increase now).2
          interval := s.nextInterval now
          requests := s.requests ++
            [afterIncrease (s.nextInterval now) (s.limiter.increase now).1] }
    else some { s with requests := s.requests ++ [.failed .registrationsDisabled] }
  | .inserted i =>
    match s.requests[i]? with
    | some (.counted k) => some { s with requests := s.requests.set i (.created k) }
    | _ => none
  | .insertFailed i error =>
    match s.requests[i]? with
    | some (.counted _) =>
      some { s with limiter := s.limiter.decrease, requests := s.requests.set i (.failed error) }
    | _ => none
  | .enableCreation => some { s with limiter := s.limiter.enableCreation }
  | .disableCreation => some { s with limiter := s.limiter.disableCreation }

/-- A place is given back in its own interval, or where none is taken; and a limiter
with quota 0 is not asked after its interval. -/
def InTime (s : Registrations) : RegistrationEvent → Prop
  | .increase now => s.limiter.creationEnabled = true → s.limiter.creationQuota = 0 →
      s.limiter.elapsedSeconds now ≤ s.limiter.creationQuotaIntervalSeconds
  | .insertFailed i _ => ∀ k, s.requests[i]? = some (.counted k) →
      k = s.interval ∨ s.limiter.created = 0
  | .inserted _ => True
  | .enableCreation => True
  | .disableCreation => True

end Registrations

/-- The request created a user, or may still, and was counted in the interval. -/
def Registration.takes (k : Nat) : Registration → Bool
  | .counted interval => interval = k
  | .created interval => interval = k
  | .failed _ => false
  | .panicked => false

/-- The request created a user, and was counted in the interval. -/
def Registration.createdIn (k : Nat) : Registration → Bool
  | .created interval => interval = k
  | .counted _ => false
  | .failed _ => false
  | .panicked => false

theorem Registration.takes_of_createdIn {k : Nat} {r : Registration} (h : r.createdIn k = true) :
    r.takes k = true := by
  cases r with
  | created interval => exact h
  | counted interval => exact absurd h (by simp [createdIn])
  | failed error => exact absurd h (by simp [createdIn])
  | panicked => exact absurd h (by simp [createdIn])

/-! ## The invariant -/

namespace Registrations

variable {s s' : Registrations}

/-- The places taken in an interval. -/
def taken (requests : List Registration) (k : Nat) : Nat :=
  requests.countP (Registration.takes k)

/-- The counter is the number of places taken in the running interval, no interval has
more than the quota, none is counted ahead, and no request panicked. -/
structure Counted (quota : Nat) (s : Registrations) : Prop where
  quota_eq : s.limiter.creationQuota = quota
  created : s.limiter.created = taken s.requests s.interval
  within : ∀ k, taken s.requests k ≤ quota
  opened : ∀ k, s.interval < k → taken s.requests k = 0
  calm : .panicked ∉ s.requests

theorem counted_new (quota interval now : Nat) : Counted quota (new quota interval now) :=
  ⟨rfl, rfl, fun _ => Nat.zero_le _, fun _ _ => rfl, by simp [new]⟩

theorem taken_append (requests : List Registration) (r : Registration) (k : Nat) :
    taken (requests ++ [r]) k = taken requests k + if r.takes k then 1 else 0 := by
  unfold taken
  rw [List.countP_append, List.countP_singleton]

/-- A request that is refused takes no place. -/
theorem Counted.refused {quota : Nat} (h : Counted quota s) (error : CreateError) :
    Counted quota { s with requests := s.requests ++ [.failed error] } := by
  have htaken (k : Nat) : taken (s.requests ++ [.failed error]) k = taken s.requests k :=
    taken_append s.requests (.failed error) k
  exact ⟨h.quota_eq, h.created.trans (htaken _).symm, fun k => (htaken k).trans_le (h.within k),
    fun k hk => (htaken k).trans (h.opened k hk), by simpa using h.calm⟩

/-- A new interval starts with no place taken. -/
theorem Counted.replenished {quota : Nat} (h : Counted quota s) (now : Nat) :
    Counted quota ⟨s.limiter.replenished now, s.nextInterval now, s.requests⟩ := by
  unfold CreationLimiter.replenished nextInterval
  by_cases hover : s.limiter.IsOver now
  · rw [if_pos hover, if_pos hover]
    have hnone : taken s.requests (s.interval + 1) = 0 := h.opened _ (Nat.lt_succ_self _)
    exact ⟨h.quota_eq, hnone.symm, h.within, fun k hk => h.opened k (Nat.lt_of_succ_lt hk), h.calm⟩
  · rw [if_neg hover, if_neg hover]
    exact h

/-- A place is taken in the running interval. -/
theorem Counted.count {quota : Nat} (h : Counted quota s)
    (hfree : s.limiter.created < s.limiter.creationQuota) :
    Counted quota ⟨{ s.limiter with created := s.limiter.created + 1 }, s.interval,
      s.requests ++ [.counted s.interval]⟩ := by
  have htaken (k : Nat) : taken (s.requests ++ [.counted s.interval]) k =
      taken s.requests k + if s.interval = k then 1 else 0 := by
    rw [taken_append]
    simp only [Registration.takes, decide_eq_true_eq]
  have hcreated := h.created
  have hquota := h.quota_eq
  refine ⟨h.quota_eq, ?_, ?_, ?_, ?_⟩
  · show s.limiter.created + 1 = taken (s.requests ++ [.counted s.interval]) s.interval
    rw [htaken, if_pos rfl, ← hcreated]
  · intro k
    have hk := h.within k
    show taken (s.requests ++ [.counted s.interval]) k ≤ quota
    rw [htaken]
    by_cases hrunning : s.interval = k
    · rw [if_pos hrunning, ← hrunning]
      omega
    · rw [if_neg hrunning]
      omega
  · intro k hk
    show taken (s.requests ++ [.counted s.interval]) k = 0
    rw [htaken, h.opened k hk, if_neg (Nat.ne_of_lt hk)]
  · simpa using h.calm

/-- One `increase`. -/
theorem Counted.increase {quota now : Nat} (h : Counted quota s)
    (hintime : s.limiter.creationQuota = 0 →
      s.limiter.elapsedSeconds now ≤ s.limiter.creationQuotaIntervalSeconds) :
    Counted quota ⟨(s.limiter.increase now).2, s.nextInterval now,
      s.requests ++ [afterIncrease (s.nextInterval now) (s.limiter.increase now).1]⟩ := by
  have hnew := h.replenished now
  have hlength : (s.limiter.replenished now).creationQuotaIntervalSeconds =
      s.limiter.creationQuotaIntervalSeconds := by
    unfold CreationLimiter.replenished
    split <;> rfl
  unfold CreationLimiter.increase
  dsimp only
  by_cases hfree : (s.limiter.replenished now).created < (s.limiter.replenished now).creationQuota
  · rw [if_pos hfree]
    exact hnew.count hfree
  · rw [if_neg hfree]
    -- all places of the interval are taken, so it is not over, unless there are none
    have hleft : s.limiter.elapsedSeconds now ≤
        (s.limiter.replenished now).creationQuotaIntervalSeconds := by
      rw [hlength]
      by_cases hover : s.limiter.IsOver now
      · apply hintime
        unfold CreationLimiter.replenished at hfree
        rw [if_pos hover] at hfree
        exact Nat.le_zero.mp (Nat.not_lt.mp hfree)
      · exact Nat.le_of_lt (Nat.not_le.mp hover)
    rw [if_pos hleft]
    exact hnew.refused .registrationLimitExceeded

/-- The places after one request has moved on. -/
theorem taken_set {requests : List Registration} {i : Nat} {r : Registration}
    (hi : requests[i]? = some r) (r' : Registration) (k : Nat) :
    taken (requests.set i r') k + (if r.takes k then 1 else 0) =
      taken requests k + if r'.takes k then 1 else 0 := by
  obtain ⟨hlt, hget⟩ := List.getElem?_eq_some_iff.mp hi
  have hone : (if r.takes k then 1 else 0) ≤ requests.countP (Registration.takes k) := by
    split
    next htakes => exact List.countP_pos_iff.mpr ⟨r, List.mem_of_getElem? hi, htakes⟩
    next => exact Nat.zero_le _
  unfold taken
  rw [List.countP_set hlt, hget]
  omega

theorem calm_set {i : Nat} {r : Registration} {requests : List Registration}
    (h : .panicked ∉ requests) (hr : r ≠ .panicked) : .panicked ∉ requests.set i r := by
  intro hmem
  rcases List.mem_or_eq_of_mem_set hmem with hmem | hmem
  · exact h hmem
  · exact hr hmem.symm

/-- The user of a counted request is inserted. -/
theorem Counted.inserted {quota i k : Nat} (h : Counted quota s)
    (hi : s.requests[i]? = some (.counted k)) :
    Counted quota { s with requests := s.requests.set i (.created k) } := by
  have htaken (n : Nat) : taken (s.requests.set i (.created k)) n = taken s.requests n :=
    Nat.add_right_cancel (taken_set hi (.created k) n)
  exact ⟨h.quota_eq, h.created.trans (htaken _).symm, fun n => (htaken n).trans_le (h.within n),
    fun n hn => (htaken n).trans (h.opened n hn), calm_set h.calm (by simp)⟩

/-- A place is given back, in its own interval or where none is taken. -/
theorem Counted.insertFailed {quota i k : Nat} {error : CreateError} (h : Counted quota s)
    (hi : s.requests[i]? = some (.counted k)) (hintime : k = s.interval ∨ s.limiter.created = 0) :
    Counted quota
      { s with limiter := s.limiter.decrease, requests := s.requests.set i (.failed error) } := by
  have htaken (n : Nat) : taken (s.requests.set i (.failed error)) n + (if k = n then 1 else 0) =
      taken s.requests n := by
    have := taken_set hi (.failed error) n
    simpa [Registration.takes] using this
  have hcreated := h.created
  have hrunning := htaken s.interval
  refine ⟨?_, ?_, ?_, ?_, calm_set h.calm (by simp)⟩
  · unfold CreationLimiter.decrease
    split
    · exact h.quota_eq
    · exact h.quota_eq
  · show s.limiter.decrease.created = taken (s.requests.set i (.failed error)) s.interval
    unfold CreationLimiter.decrease
    by_cases hk : k = s.interval
    · rw [if_pos hk] at hrunning
      rw [if_pos (by omega)]
      show s.limiter.created - 1 = _
      omega
    · rw [if_neg hk] at hrunning
      have hzero := hintime.resolve_left hk
      rw [if_neg (by omega)]
      omega
  · intro n
    show taken (s.requests.set i (.failed error)) n ≤ quota
    have hn := htaken n
    have hle := h.within n
    omega
  · intro n hlater
    show taken (s.requests.set i (.failed error)) n = 0
    have hn := htaken n
    have hnone := h.opened n hlater
    omega

/-- Every step in time keeps the count. -/
theorem Counted.step {quota : Nat} {e : RegistrationEvent} (h : Counted quota s)
    (hintime : s.InTime e) (hstep : s.step e = some s') : Counted quota s' := by
  cases e with
  | increase now =>
    simp only [Registrations.step] at hstep
    split at hstep
    next henabled =>
      rw [← Option.some.inj hstep]
      exact h.increase (hintime henabled)
    next =>
      rw [← Option.some.inj hstep]
      exact h.refused .registrationsDisabled
  | inserted i =>
    simp only [Registrations.step] at hstep
    split at hstep
    next k hi =>
      rw [← Option.some.inj hstep]
      exact h.inserted hi
    next => exact absurd hstep (by simp)
  | insertFailed i error =>
    simp only [Registrations.step] at hstep
    split at hstep
    next k hi =>
      rw [← Option.some.inj hstep]
      exact h.insertFailed hi (hintime k hi)
    next => exact absurd hstep (by simp)
  | enableCreation =>
    rw [← Option.some.inj hstep]
    exact ⟨h.quota_eq, h.created, h.within, h.opened, h.calm⟩
  | disableCreation =>
    rw [← Option.some.inj hstep]
    exact ⟨h.quota_eq, h.created, h.within, h.opened, h.calm⟩

end Registrations

/-- In every run whose steps are in time, of any number of requests in any order: of the
requests counted in one interval no more than the quota create a user, and no `increase`
underflows. -/
theorem registration_quota_kept (quota interval now : Nat) {events : List RegistrationEvent}
    {s : Registrations} (hrun : Trace (fun s e s' => s.InTime e ∧ s.step e = some s')
      (Registrations.new quota interval now) events s) :
    (∀ k, s.requests.countP (Registration.createdIn k) ≤ quota) ∧ .panicked ∉ s.requests := by
  have hcounted : s.Counted quota := by
    apply hrun.invariant _ (Registrations.counted_new quota interval now)
    exact fun s e s' _ h hstep => h.step hstep.1 hstep.2
  refine ⟨fun k => ?_, hcounted.calm⟩
  calc s.requests.countP (Registration.createdIn k)
      ≤ Registrations.taken s.requests k :=
        List.countP_mono_left fun _ _ => Registration.takes_of_createdIn
    _ ≤ quota := hcounted.within k

/-- With a quota of one user in ten seconds: the second request comes after ten seconds,
then the first one fails, and gives its place to a third. And with a quota of 0, a request
after more than ten seconds. -/
theorem registration_quota_exceeded :
    (∃ s, Trace (fun s e s' => s.step e = some s') (Registrations.new 1 10 0)
        [.increase 0, .increase (10 * 10 ^ 9), .insertFailed 0 .userAlreadyExists,
          .increase (11 * 10 ^ 9), .inserted 1, .inserted 2] s ∧
      1 < s.requests.countP (Registration.createdIn 1)) ∧
    ∃ s, Trace (fun s e s' => s.step e = some s') (Registrations.new 0 10 0)
        [.increase (11 * 10 ^ 9)] s ∧ .panicked ∈ s.requests := by
  constructor
  · exact ⟨_, Trace.of_foldlM rfl, by decide⟩
  · exact ⟨_, Trace.of_foldlM rfl, by decide⟩

/-- A place that is given back in time is taken again. -/
theorem registration_quota_kept_sample :
    ∃ s, Trace (fun s e s' => s.InTime e ∧ s.step e = some s') (Registrations.new 1 10 0)
        [.increase 0, .insertFailed 0 .userAlreadyExists, .increase 5, .inserted 1] s ∧
      ∀ k, s.requests.countP (Registration.createdIn k) ≤ 1 := by
  have hrun : Trace (fun s e s' => s.InTime e ∧ s.step e = some s') (Registrations.new 1 10 0)
      [.increase 0, .insertFailed 0 .userAlreadyExists, .increase 5, .inserted 1] _ :=
    ((((Trace.nil _).snoc ⟨by simp [Registrations.InTime, Registrations.new, CreationLimiter.new],
        rfl⟩).snoc ⟨fun k hk => .inl (by injection hk with hk; injection hk with hk; exact hk.symm),
        rfl⟩).snoc ⟨fun _ h => absurd h (by decide), rfl⟩).snoc ⟨trivial, rfl⟩
  exact ⟨_, hrun, (registration_quota_kept 1 10 0 hrun).1⟩

end Lndhubx
