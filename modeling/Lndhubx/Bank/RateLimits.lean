import Lndhubx.Bank.ProcessMsg
import Lndhubx.Lib.Windows

/-!
# The request limit

Requests are counted per user in windows: one opens with the user's first request,
and one with every request that finds the last window over. A window that opened with
the entry admits `requestLimit` requests (`admitted_from_entry`), a window that opened with
a reset one more (`admitted_after_reset`), because the request that resets the counter is
admitted without being counted. `request_limit_kept_iff` draws the line:
the limit is kept in every window exactly if no window opened by a reset has more
requests than the limit. Requests of other users never matter.
-/

namespace Lndhubx

open Prog Windows

/-- The two limiters of the bank. -/
inductive RequestKind where
  | deposit
  | withdrawal

namespace RequestKind

def settings (cfg : Config) : RequestKind → RateLimiterSettings
  | deposit => cfg.depositRequestRateLimiterSettings
  | withdrawal => cfg.withdrawalRequestRateLimiterSettings

def limiter (s : State) : RequestKind → RateLimiter
  | deposit => s.depositRequestRateLimiter
  | withdrawal => s.withdrawalRequestRateLimiter

def check (cfg : Config) (env : Env) (uid : UserId) : RequestKind → Handler Bool
  | deposit => BankEngine.checkDepositRequestRateLimit cfg env uid
  | withdrawal => BankEngine.checkWithdrawalRequestRateLimit cfg env uid

end RequestKind

/-- A call of a limiter. -/
structure LimitCall where
  uid : UserId
  env : Env

/-- What a call was answered. -/
structure LimitAnswer where
  uid : UserId
  time : Nat
  admitted : Bool

namespace RequestKind

/-- Calls one after the other. -/
def checks (kind : RequestKind) (cfg : Config) : List LimitCall → Handler (List LimitAnswer)
  | [] => return []
  | c :: calls => do
    let admitted ← kind.check cfg c.env c.uid
    let answers ← checks kind cfg calls
    return ⟨c.uid, c.env.instant, admitted⟩ :: answers

end RequestKind

/-- When a user called, and whether the call was admitted. -/
def answersTo (uid : UserId) (answers : List LimitAnswer) : List (Nat × Bool) :=
  (answers.filter fun a => a.uid = uid).map fun a => (a.time, a.admitted)

/-- When a user called. -/
def timesOf (uid : UserId) (calls : List LimitCall) : List Nat :=
  (calls.filter fun c => c.uid = uid).map fun c => c.env.instant

/-- How many of the calls of a window were admitted. -/
def admittedIn (w : List (Nat × Bool)) : Nat := w.countP Prod.snd

/-- No window of the user admits more than the limit. -/
def LimitKept (settings : RateLimiterSettings) (answers : List (Nat × Bool)) : Prop :=
  ∀ w ∈ windows settings.replenishmentInterval Prod.fst answers,
    admittedIn w ≤ settings.requestLimit

/-- The windows that a reset opened: all but the first, which opens with the entry. An
entry without an interval is reset by the call that makes it. -/
def resetWindows (interval : Nat) (times : List Nat) : List (List Nat) :=
  if interval = 0 then windows interval id times else (windows interval id times).tail

/-! ## The calls of one user -/

/-- One call, on the user's entry. -/
def countRequest (settings : RateLimiterSettings) (now : Nat) (entry : Option (Nat × Nat)) :
    Bool × (Nat × Nat) :=
  if now - (entry.getD (0, now)).2 < settings.replenishmentInterval then
    (decide ((entry.getD (0, now)).1 + 1 ≤ settings.requestLimit),
      ((entry.getD (0, now)).1 + 1, (entry.getD (0, now)).2))
  else (true, (0, now))

/-- The answers to one user's calls. -/
def answersFrom (settings : RateLimiterSettings) :
    Option (Nat × Nat) → List Nat → List (Nat × Bool)
  | _, [] => []
  | entry, now :: times =>
    (now, (countRequest settings now entry).1) ::
      answersFrom settings (some (countRequest settings now entry).2) times

theorem answersFrom_cons (settings : RateLimiterSettings) (entry : Option (Nat × Nat))
    (now : Nat) (times : List Nat) :
    answersFrom settings entry (now :: times) = (now, (countRequest settings now entry).1) ::
      answersFrom settings (some (countRequest settings now entry).2) times := rfl

theorem checkRateLimit_eq (settings : RateLimiterSettings) (now : Nat) (limiter : RateLimiter)
    (uid : UserId) :
    BankEngine.checkRateLimit settings now limiter uid =
      ((countRequest settings now (limiter.lookup uid)).1,
        limiter.insert uid (countRequest settings now (limiter.lookup uid)).2) := by
  unfold BankEngine.checkRateLimit countRequest
  show (if _ then _ else _) = _
  split <;> rfl

namespace RequestKind

theorem check_run (kind : RequestKind) (cfg : Config) (env : Env) (uid : UserId) (s : State) :
    ∃ s', kind.check cfg env uid s =
        .ok ((countRequest (kind.settings cfg) env.instant ((kind.limiter s).lookup uid)).1, s') ∧
      kind.limiter s' = (kind.limiter s).insert uid
        (countRequest (kind.settings cfg) env.instant ((kind.limiter s).lookup uid)).2 := by
  cases kind with
  | deposit =>
    have h := checkRateLimit_eq cfg.depositRequestRateLimiterSettings env.instant
      s.depositRequestRateLimiter uid
    refine ⟨{ s with
      depositRequestRateLimiter := s.depositRequestRateLimiter.insert uid _ }, ?_, rfl⟩
    unfold check BankEngine.checkDepositRequestRateLimit
    simp only [Prog.run_get_bind, h]
    rfl
  | withdrawal =>
    have h := checkRateLimit_eq cfg.withdrawalRequestRateLimiterSettings env.instant
      s.withdrawalRequestRateLimiter uid
    refine ⟨{ s with
      withdrawalRequestRateLimiter := s.withdrawalRequestRateLimiter.insert uid _ }, ?_, rfl⟩
    unfold check BankEngine.checkWithdrawalRequestRateLimit
    simp only [Prog.run_get_bind, h]
    rfl

/-- Whatever others call in between, a user is answered from its own entry. -/
theorem checks_run (kind : RequestKind) (cfg : Config) (calls : List LimitCall) (s : State) :
    ∃ answers s', checks kind cfg calls s = .ok (answers, s') ∧
      ∀ uid, answersTo uid answers =
        answersFrom (kind.settings cfg) ((kind.limiter s).lookup uid) (timesOf uid calls) := by
  induction calls generalizing s with
  | nil => exact ⟨[], s, rfl, fun _ => by simp [answersTo, timesOf, answersFrom]⟩
  | cons c calls ih =>
    obtain ⟨s₁, hrun, hlimiter⟩ := check_run kind cfg c.env c.uid s
    obtain ⟨answers, s', hrest, hanswers⟩ := ih s₁
    refine ⟨⟨c.uid, c.env.instant, (countRequest (kind.settings cfg) c.env.instant
      ((kind.limiter s).lookup c.uid)).1⟩ :: answers, s', ?_, ?_⟩
    · unfold checks
      rw [Prog.run_bind hrun, Prog.run_bind hrest]
      rfl
    · intro uid
      by_cases huid : c.uid = uid
      · have hlookup := hanswers uid
        rw [hlimiter, ← huid, AList.lookup_insert, huid] at hlookup
        unfold answersTo timesOf at hlookup ⊢
        rw [List.filter_cons_of_pos (by simpa using huid),
          List.filter_cons_of_pos (by simpa using huid), List.map_cons, List.map_cons, hlookup,
          answersFrom_cons, huid]
      · have hlookup := hanswers uid
        rw [hlimiter, AList.lookup_insert_ne (Ne.symm huid)] at hlookup
        unfold answersTo timesOf at hlookup ⊢
        rw [List.filter_cons_of_neg (by simpa using huid),
          List.filter_cons_of_neg (by simpa using huid), hlookup]

end RequestKind

/-! ## The admissions of a window -/

section Counting

variable (settings : RateLimiterSettings)

theorem admittedIn_append (w : List (Nat × Bool)) (now : Nat) (admitted : Bool) :
    admittedIn (w ++ [(now, admitted)]) = admittedIn w + if admitted then 1 else 0 := by
  unfold admittedIn
  rw [List.countP_append]
  cases admitted <;> rfl

/-- From an entry on, the windows to come were opened by a reset. -/
theorem admitted_after_reset (c start : Nat) (w : List (Nat × Bool)) (hlength : w.length = c + 1)
    (hadmitted : admittedIn w = min w.length (settings.requestLimit + 1)) (times : List Nat) :
    ∀ v ∈ windowsFrom settings.replenishmentInterval Prod.fst start w
        (answersFrom settings (some (c, start)) times),
      admittedIn v = min v.length (settings.requestLimit + 1) := by
  -- along the calls, with the window so far: its opening call is not counted
  induction times generalizing c start w with
  | nil =>
    intro v hv
    unfold answersFrom windowsFrom at hv
    rw [List.mem_singleton] at hv
    rw [hv]
    exact hadmitted
  | cons now times ih =>
    intro v hv
    rw [answersFrom_cons] at hv
    unfold windowsFrom at hv
    by_cases hnow : now - start < settings.replenishmentInterval
    · have hcount : countRequest settings now (some (c, start)) =
          (decide (c + 1 ≤ settings.requestLimit), (c + 1, start)) := if_pos hnow
      rw [hcount, if_pos hnow] at hv
      apply ih (c + 1) start _ (by simp [hlength]) ?_ v hv
      rw [admittedIn_append, hadmitted, List.length_append, List.length_singleton, hlength]
      by_cases hle : c + 1 ≤ settings.requestLimit
      · rw [decide_eq_true hle, if_pos rfl]
        omega
      · rw [decide_eq_false hle, if_neg (by simp)]
        omega
    · have hcount : countRequest settings now (some (c, start)) = (true, (0, now)) := if_neg hnow
      rw [hcount, if_neg hnow] at hv
      rcases List.mem_cons.mp hv with hv | hv
      · rw [hv]
        exact hadmitted
      · exact ih 0 now [(now, true)] rfl (by simp [admittedIn]) v hv

/-- The window that opened with the entry, and those after it. -/
theorem admitted_from_entry (c start : Nat) (w : List (Nat × Bool)) (hlength : w.length = c)
    (hadmitted : admittedIn w = min w.length settings.requestLimit) (times : List Nat) :
    ∃ v vs, windowsFrom settings.replenishmentInterval Prod.fst start w
        (answersFrom settings (some (c, start)) times) = v :: vs ∧
      admittedIn v = min v.length settings.requestLimit ∧
      ∀ u ∈ vs, admittedIn u = min u.length (settings.requestLimit + 1) := by
  induction times generalizing c w with
  | nil => exact ⟨w, [], rfl, hadmitted, fun _ hu => absurd hu (by simp)⟩
  | cons now times ih =>
    rw [answersFrom_cons]
    unfold windowsFrom
    by_cases hnow : now - start < settings.replenishmentInterval
    · have hcount : countRequest settings now (some (c, start)) =
          (decide (c + 1 ≤ settings.requestLimit), (c + 1, start)) := if_pos hnow
      rw [hcount, if_pos hnow]
      apply ih (c + 1) _ (by simp [hlength])
      rw [admittedIn_append, hadmitted, List.length_append, List.length_singleton, hlength]
      by_cases hle : c + 1 ≤ settings.requestLimit
      · rw [decide_eq_true hle, if_pos rfl]
        omega
      · rw [decide_eq_false hle, if_neg (by simp)]
        omega
    · have hcount : countRequest settings now (some (c, start)) = (true, (0, now)) := if_neg hnow
      rw [hcount, if_neg hnow]
      exact ⟨w, _, rfl, hadmitted,
        admitted_after_reset settings 0 now [(now, true)] rfl (by simp [admittedIn]) times⟩

end Counting

theorem answersFrom_times (settings : RateLimiterSettings) (entry : Option (Nat × Nat))
    (times : List Nat) : (answersFrom settings entry times).map Prod.fst = times := by
  induction times generalizing entry with
  | nil => rfl
  | cons now times ih =>
    unfold answersFrom
    rw [List.map_cons, ih]

/-- The windows of a user's answers, as windows of the times. -/
theorem windows_times (settings : RateLimiterSettings) (entry : Option (Nat × Nat))
    (times : List Nat) :
    windows settings.replenishmentInterval id times =
      (windows settings.replenishmentInterval Prod.fst
        (answersFrom settings entry times)).map (List.map Prod.fst) := by
  have h := windows_map settings.replenishmentInterval id Prod.fst
    (answersFrom settings entry times)
  rw [answersFrom_times] at h
  exact h

/-- Of a user without an entry: the limit is kept exactly if the windows opened by a
reset are short enough. -/
theorem limitKept_iff (settings : RateLimiterSettings) (times : List Nat) :
    LimitKept settings (answersFrom settings none times) ↔
      ∀ w ∈ resetWindows settings.replenishmentInterval times,
        w.length ≤ settings.requestLimit := by
  unfold LimitKept resetWindows
  rw [windows_times settings none times]
  cases times with
  | nil => simp [answersFrom, windows]
  | cons now times =>
    rw [answersFrom_cons]
    unfold windows
    by_cases hinterval : settings.replenishmentInterval = 0
    · -- the entry is reset at once: every window admits one call too many
      have hcount : countRequest settings now none = (true, (0, now)) := if_neg (by omega)
      rw [if_pos hinterval, hcount]
      have hcount := admitted_after_reset settings 0 now [(now, true)] rfl (by simp [admittedIn])
        times
      constructor
      · intro h w hw
        obtain ⟨v, hv, rfl⟩ := List.mem_map.mp hw
        have hle := h v hv
        rw [hcount v hv] at hle
        rw [List.length_map]
        omega
      · intro h v hv
        have hle := h _ (List.mem_map_of_mem hv)
        rw [List.length_map] at hle
        rw [hcount v hv]
        omega
    · have hcount : countRequest settings now none =
          (decide (1 ≤ settings.requestLimit), (1, now)) :=
        if_pos (by simp [Nat.pos_of_ne_zero hinterval])
      rw [if_neg hinterval, hcount]
      -- the call that opens the first window is counted only in the entry it makes
      have hopening : admittedIn [(now, decide (1 ≤ settings.requestLimit))] =
          min 1 settings.requestLimit := by
        by_cases hle : 1 ≤ settings.requestLimit
        · simp [admittedIn, hle]
        · simp [admittedIn, Nat.lt_one_iff.mp (Nat.not_le.mp hle)]
      obtain ⟨v, vs, hsplit, hfirst, hcount⟩ :=
        admitted_from_entry settings 1 now [(now, _)] rfl hopening times
      show (∀ w ∈ windowsFrom _ _ _ _ _, _) ↔
        ∀ w ∈ List.tail (List.map _ (windowsFrom _ _ _ _ _)), _
      rw [hsplit, List.map_cons, List.tail_cons]
      constructor
      · intro h w hw
        obtain ⟨u, hu, rfl⟩ := List.mem_map.mp hw
        have hle := h u (List.mem_cons_of_mem _ hu)
        rw [hcount u hu] at hle
        rw [List.length_map]
        omega
      · intro h u hu
        rcases List.mem_cons.mp hu with rfl | hu
        · omega
        · have hle := h _ (List.mem_map_of_mem hu)
          rw [List.length_map] at hle
          rw [hcount u hu]
          omega

/-- For any calls, from a state that has no entry of the user: each of the user's windows
admits no more than the limit, and the answers are those the user would get alone,
exactly if no window opened by a reset has more calls than the limit. -/
theorem request_limit_kept_iff (kind : RequestKind) (cfg : Config) (uid : UserId) {s : State}
    (hnew : (kind.limiter s).lookup uid = none) (calls : List LimitCall) :
    ∃ answers own s' s'', kind.checks cfg calls s = .ok (answers, s') ∧
      kind.checks cfg (calls.filter fun c => c.uid = uid) s = .ok (own, s'') ∧
      (LimitKept (kind.settings cfg) (answersTo uid answers) ∧
          answersTo uid answers = answersTo uid own ↔
        ∀ w ∈ resetWindows (kind.settings cfg).replenishmentInterval (timesOf uid calls),
          w.length ≤ (kind.settings cfg).requestLimit) := by
  obtain ⟨answers, s', hrun, hanswers⟩ := kind.checks_run cfg calls s
  obtain ⟨own, s'', hown, halone⟩ := kind.checks_run cfg (calls.filter fun c => c.uid = uid) s
  have htimes : timesOf uid (calls.filter fun c => c.uid = uid) = timesOf uid calls := by
    unfold timesOf
    rw [List.filter_filter]
    simp
  refine ⟨answers, own, s', s'', hrun, hown, ?_⟩
  rw [halone, htimes, hanswers, hnew, limitKept_iff]
  simp

namespace Sample

/-- Alice calls at the given times. -/
def aliceCalls (times : List Nat) : List LimitCall := times.map fun t => ⟨7, env t⟩

end Sample

/-- One request a second: the third and the fourth fall into one window that a reset
opened, and both are admitted. -/
theorem request_limit_exceeded :
    ∃ answers s', RequestKind.checks .withdrawal
        { Sample.config with withdrawalRequestRateLimiterSettings := ⟨1, 1000⟩ }
        (Sample.aliceCalls [0, 1000, 1001]) Sample.state = .ok (answers, s') ∧
      ¬LimitKept ⟨1, 1000⟩ (answersTo 7 answers) := by
  refine ⟨_, _, rfl, ?_⟩
  intro h
  have hle := h [(1000, true), (1001, true)] (by decide)
  exact absurd hle (by decide)

/-- Two requests a second, and never more than two. -/
theorem request_limit_kept_sample :
    RequestKind.limiter Sample.state .withdrawal = ∅ ∧
    ∃ answers own s' s'', RequestKind.checks .withdrawal
        { Sample.config with withdrawalRequestRateLimiterSettings := ⟨2, 1000⟩ }
        (Sample.aliceCalls [0, 1, 2, 1000, 1001, 2000]) Sample.state = .ok (answers, s') ∧
      RequestKind.checks .withdrawal
        { Sample.config with withdrawalRequestRateLimiterSettings := ⟨2, 1000⟩ }
        ((Sample.aliceCalls [0, 1, 2, 1000, 1001, 2000]).filter fun c => c.uid = 7)
        Sample.state = .ok (own, s'') ∧
      LimitKept ⟨2, 1000⟩ (answersTo 7 answers) := by
  constructor
  · rfl
  · obtain ⟨answers, own, s', s'', hrun, hown, hiff⟩ := request_limit_kept_iff .withdrawal
      { Sample.config with withdrawalRequestRateLimiterSettings := ⟨2, 1000⟩ } 7
      (s := Sample.state) rfl (Sample.aliceCalls [0, 1, 2, 1000, 1001, 2000])
    exact ⟨answers, own, s', s'', hrun, hown, (hiff.mpr (by decide)).1⟩

end Lndhubx
