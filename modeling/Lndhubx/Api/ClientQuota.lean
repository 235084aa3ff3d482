import Lndhubx.Api.RateLimitMiddleware
import Mathlib.Data.Nat.Find

/-!
# The quota of a client

What the middleware lets through, in any interleaving of requests, store and timers.
`passed_within_quota` bounds what overlapping requests can gain: while one entry lives,
a client with at most `k` requests in progress has at most `k * (quota + k - 1)` let
through. Without overlap that is the quota, and then any stretch of `j` intervals has at
most `(j + 1) * quota` (`passed_in_stretch`). Nobody is refused before the quota of the
entry is used up (`refused_after_quota`).
-/

namespace Lndhubx

namespace RateLimited

variable {m : RateLimitMiddleware} {s s' : RateLimited} {e : RateLimitEvent} {key : String}

/-! ## What overlapping requests can gain -/

/-- What each `Set` of an entry can let through at most, with `k` requests in progress:
what the entry is good for, and all that were admitted when the last place was taken. -/
def share (m : RateLimitMiddleware) (k : Nat) : Nat := m.quota + (k - 1)

/-- The requests that will pass if the entry lives on, and those that will enter it. -/
def admitted (s : RateLimited) (key : String) : Nat := s.count key RequestPhase.admitted

def entering (s : RateLimited) (key : String) : Nat := s.count key RequestPhase.entering

/-- What the entry can let through before it is entered anew. -/
def toCome (s : RateLimited) (k : Nat) (key : String) (remaining : Nat) : Nat :=
  if remaining = 0 then s.admitted key else remaining + (k - 1)

/-- What the entries of a client have let through and can still let through. -/
structure Within (m : RateLimitMiddleware) (k : Nat) (key : String) (s : RateLimited) : Prop where
  past : ∀ n, n < s.life key → s.passed key n ≤ k * share m k
  future : ∀ n, s.life key < n → s.passed key n = 0
  absent : s.store.lookup key = none → s.passed key (s.life key) = 0
  present : ∀ remaining expires, s.store.lookup key = some (remaining, expires) →
    s.passed key (s.life key) + s.toCome k key remaining + s.entering key * share m k ≤
      k * share m k

theorem within_new (m : RateLimitMiddleware) (k : Nat) (key : String) (now : Nat) :
    Within m k key (new now) :=
  ⟨fun _ _ => Nat.zero_le _, fun _ _ => rfl, fun _ => rfl,
    fun _ _ h => absurd h (by simp [new])⟩

variable {k : Nat}

theorem Within.bound (h : Within m k key s) (n : Nat) : s.passed key n ≤ k * share m k := by
  rcases Nat.lt_trichotomy n (s.life key) with hlt | rfl | hgt
  · exact h.past n hlt
  · cases hentry : s.store.lookup key with
    | none =>
      rw [h.absent hentry]
      exact Nat.zero_le _
    | some entry =>
      have := h.present entry.1 entry.2 hentry
      omega
  · rw [h.future n hgt]
    exact Nat.zero_le _

/-- A step that lets nobody through. -/
theorem Within.calm (h : Within m k key s) (hlife : s'.life key = s.life key)
    (hpassed : ∀ n, s'.passed key n = s.passed key n)
    (hstore : s'.store.lookup key = s.store.lookup key)
    (hless : ∀ remaining expires, s.store.lookup key = some (remaining, expires) →
      s'.toCome k key remaining ≤ s.toCome k key remaining ∧ s'.entering key ≤ s.entering key) :
    Within m k key s' := by
  refine ⟨fun n hn => ?_, fun n hn => ?_, fun hnone => ?_, fun remaining expires hentry => ?_⟩
  · rw [hpassed]
    exact h.past n (hlife ▸ hn)
  · rw [hpassed]
    exact h.future n (hlife ▸ hn)
  · rw [hpassed, hlife]
    exact h.absent (hstore ▸ hnone)
  · rw [hstore] at hentry
    obtain ⟨htoCome, hentering⟩ := hless remaining expires hentry
    have hshares := Nat.mul_le_mul_right (share m k) hentering
    have hold := h.present remaining expires hentry
    rw [hpassed, hlife]
    omega

/-- A step that lets one request through. -/
theorem Within.pass {remaining' expires' : Nat} (h : Within m k key s)
    (hlife : s'.life key = s.life key)
    (hpassed : ∀ n, s'.passed key n = s.passed key n + (if n = s.life key then 1 else 0))
    (hstore : s'.store.lookup key = some (remaining', expires'))
    (hpresent : ∀ remaining expires, s.store.lookup key = some (remaining, expires) →
      s'.toCome k key remaining' + s'.entering key * share m k + 1 ≤
        s.toCome k key remaining + s.entering key * share m k)
    (habsent : s.store.lookup key = none →
      s'.toCome k key remaining' + s'.entering key * share m k + 1 ≤ k * share m k) :
    Within m k key s' := by
  refine ⟨fun n hn => ?_, fun n hn => ?_, fun hnone => ?_, fun remaining expires hentry => ?_⟩
  · rw [hlife] at hn
    rw [hpassed, if_neg (Nat.ne_of_lt hn)]
    exact h.past n hn
  · rw [hlife] at hn
    rw [hpassed, if_neg (Nat.ne_of_gt hn), h.future n hn]
  · rw [hstore] at hnone
    exact absurd hnone (by simp)
  · rw [hstore] at hentry
    obtain ⟨rfl, rfl⟩ := by simpa using hentry
    rw [hpassed, hlife, if_pos rfl]
    cases hold : s.store.lookup key with
    | none =>
      have hnone := h.absent hold
      have hbound := habsent hold
      omega
    | some entry =>
      have hsome := h.present entry.1 entry.2 hold
      have hbound := hpresent entry.1 entry.2 hold
      omega

theorem toNat_decide (l n : Nat) : (decide (l = n)).toNat = if n = l then 1 else 0 := by
  by_cases h : n = l
  · simp [h]
  · simp [h, Ne.symm h]

/-- A message of one of the client's own requests. -/
theorem Within.handled {i instant : Nat} {phase phase' : RequestPhase}
    (h : Within m k key s) (hi : s.requests[i]? = some (key, phase)) (hk : s.inProgress key ≤ k)
    (hhandle : Handles m (s.life key) instant (s.store.lookup key) phase (s'.store.lookup key)
      phase') (hlife : s'.life = s.life)
      (hrequests : s'.requests = s.requests.set i (key, phase')) :
    Within m k key s' := by
  have hcount (p : RequestPhase → Bool) :
      s'.count key p + (p phase).toNat = s.count key p + (p phase').toNat := by
    unfold count
    rw [hrequests]
    exact Parties.tally_move hi p phase'
  have hpassed (n : Nat) : s'.passed key n + (phase.passedIn n).toNat =
      s.passed key n + (phase'.passedIn n).toNat := hcount _
  have hadmitted : s'.admitted key + phase.admitted.toNat =
      s.admitted key + phase'.admitted.toNat := hcount _
  have hentering : s'.entering key + phase.entering.toNat =
      s.entering key + phase'.entering.toNat := hcount _
  have hprogress : s'.inProgress key + phase.inProgress.toNat =
      s.inProgress key + phase'.inProgress.toNat := hcount _
  have hboth : s'.admitted key + s'.entering key ≤ s'.inProgress key :=
    Parties.tally_add_le RequestPhase.inProgress_of_admitted RequestPhase.inProgress_of_entering
      RequestPhase.not_entering_of_admitted
  have hlife' := congrFun hlife key
  have hshare : share m k = m.currentValue + 1 + (k - 1) := rfl
  generalize hentry : s.store.lookup key = entry at hhandle
  generalize hentry' : s'.store.lookup key = entry' at hhandle
  cases hhandle with
  | found entry =>
    simp at hpassed hadmitted hentering
    refine h.calm hlife' hpassed (hentry'.trans hentry.symm) fun remaining expires _ => ?_
    unfold toCome
    rw [hadmitted]
    exact ⟨Nat.le_refl _, Nat.le_of_eq hentering⟩
  | absent =>
    simp at hpassed
    refine h.calm hlife' hpassed (hentry'.trans hentry.symm) fun remaining expires hsome => ?_
    exact absurd (hentry.symm.trans hsome) (by simp)
  | read remaining expires =>
    simp at hpassed hadmitted hentering
    refine h.calm hlife' hpassed (hentry'.trans hentry.symm) fun r e hsome => ?_
    obtain ⟨rfl, rfl⟩ : remaining = r ∧ expires = e := by
      simpa using Option.some.inj (hentry.symm.trans hsome)
    refine ⟨?_, Nat.le_of_eq hentering⟩
    unfold toCome
    by_cases hzero : remaining = 0
    · simp [hzero] at hadmitted
      rw [if_pos hzero, if_pos hzero, hadmitted]
    · rw [if_neg hzero, if_neg hzero]
  | refuse entry l =>
    simp at hpassed hadmitted hentering
    refine h.calm hlife' hpassed (hentry'.trans hentry.symm) fun remaining expires _ => ?_
    unfold toCome
    rw [hadmitted]
    exact ⟨Nat.le_refl _, Nat.le_of_eq hentering⟩
  | letIn entry remaining l reset hne =>
    simp [hne] at hpassed hadmitted hentering
    refine h.calm hlife' hpassed (hentry'.trans hentry.symm) fun remaining expires _ => ?_
    unfold toCome
    rw [hadmitted]
    exact ⟨Nat.le_refl _, Nat.le_of_eq hentering⟩
  | pass remaining expires reset headers =>
    simp at hpassed hadmitted hentering hprogress
    refine h.pass hlife' ?_ hentry' (fun r e hsome => ?_) fun hnone => ?_
    · intro n
      rw [hpassed, toNat_decide]
    · obtain ⟨rfl, rfl⟩ : remaining = r ∧ expires = e := by
        simpa using Option.some.inj (hentry.symm.trans hsome)
      unfold toCome
      rw [hentering]
      -- the last place is taken: those that were admitted with it may still pass
      by_cases hlast : remaining ≤ 1
      · rw [if_pos (by omega)]
        split <;> omega
      · rw [if_neg (by omega), if_neg (by omega)]
        omega
    · exact absurd (hentry.symm.trans hnone) (by simp)
  | enter entry expires headers =>
    simp at hpassed hadmitted hentering hprogress
    have htoCome : s'.toCome k key m.currentValue + 1 ≤ share m k := by
      unfold toCome
      split <;> omega
    refine h.pass hlife' ?_ hentry' (fun r e hsome => ?_) fun hnone => ?_
    · intro n
      rw [hpassed, toNat_decide]
    · rw [← hentering, Nat.add_mul]
      omega
    · have hfits : (s'.entering key + 1) * share m k ≤ k * share m k :=
        Nat.mul_le_mul_right _ (by omega)
      rw [Nat.add_mul] at hfits
      omega
  | fail _ hin hset =>
    have hno (n : Nat) : (phase.passedIn n).toNat = 0 := by
      cases phase <;> first | rfl | exact absurd hin (by simp)
    have hsame (n : Nat) : s'.passed key n = s.passed key n := by
      have hn := hpassed n
      rw [hno] at hn
      exact hn
    refine h.calm hlife' hsame (hentry'.trans hentry.symm) fun remaining expires hsome => ?_
    exact absurd (hentry.symm.trans hsome) (by simp)

theorem Within.step (h : Within m k key s) (hk : s.inProgress key ≤ k)
    (hstep : s.step m e = some s') : Within m k key s' := by
  cases stepFor_of_step key hstep with
  | others hstore hlife htimers hnow hrequests =>
    have hadmitted : s'.admitted key = s.admitted key := count_others rfl hrequests
    have hentering : s'.entering key = s.entering key := count_others rfl hrequests
    refine h.calm hlife (fun n => count_others rfl hrequests) hstore fun remaining expires _ => ?_
    unfold toCome
    rw [hadmitted]
    exact ⟨Nat.le_refl _, Nat.le_of_eq hentering⟩
  | own i phase phase' timers hi hhandles hset hlife hnow htimers hrequests =>
    exact h.handled hi hk hhandles hlife hrequests
  | timer i due r hi hr hs' hnow hdue =>
    -- taking the timer off the list changes nothing that is counted
    have hold : Within m k key r := by
      rw [hr]
      exact ⟨h.past, h.future, h.absent, h.present⟩
    rw [hs']
    obtain ⟨hgone, hlife⟩ := remove_self r key
    have hpassed (n : Nat) : (r.remove key).passed key n = r.passed key n :=
      count_remove r key key _
    -- the life that begins has let nothing through yet
    have hnone : (r.remove key).passed key ((r.remove key).life key) = 0 := by
      rw [hpassed]
      rcases hlife with ⟨habsent, hsame⟩ | ⟨-, hnext⟩
      · rw [hsame]
        exact hold.absent habsent
      · rw [hnext]
        exact hold.future _ (Nat.lt_succ_self _)
    refine ⟨fun n hn => ?_, fun n hn => ?_, fun _ => hnone, fun _ _ hsome => ?_⟩
    · rw [hpassed]
      exact hold.bound n
    · rw [hpassed]
      apply hold.future
      rcases hlife with ⟨-, hsame⟩ | ⟨-, hnext⟩
      · omega
      · omega
    · rw [hgone] at hsome
      exact absurd hsome (by simp)

/-! ## Nobody is refused early -/

/-- Nothing that was let through is taken back. -/
theorem passed_le_of_step (key : String) (n : Nat) (hstep : s.step m e = some s') :
    s.passed key n ≤ s'.passed key n := by
  cases stepFor_of_step key hstep with
  | others hstore hlife htimers hnow hrequests =>
    exact Nat.le_of_eq (count_others rfl hrequests).symm
  | own i phase phase' timers hi hhandles hset hlife hnow htimers hrequests =>
    have hmove := Parties.tally_move hi (RequestPhase.passedIn n) phase'
    rw [hhandles.passedIn_eq_false, ← hrequests] at hmove
    exact Nat.le.intro hmove.symm
  | timer i due r hi hr hs' hnow hdue =>
    have hcount := count_remove r key key (RequestPhase.passedIn n)
    rw [← hs', hr] at hcount
    exact Nat.le_of_eq hcount.symm

/-- Where less is left than the quota, the rest was let through, and where a request is
refused, all of it was. -/
structure UsedUp (m : RateLimitMiddleware) (key : String) (s : RateLimited) : Prop where
  entry : ∀ remaining expires, s.store.lookup key = some (remaining, expires) →
    m.quota ≤ s.passed key (s.life key) + remaining
  refusal : ∀ phase life, (key, phase) ∈ s.requests →
    phase = .expire 0 life ∨ phase = .refused life → m.quota ≤ s.passed key life

theorem UsedUp.step (h : UsedUp m key s) (hstep : s.step m e = some s') : UsedUp m key s' := by
  have hmono (n : Nat) := passed_le_of_step key n hstep
  cases stepFor_of_step key hstep with
  | others hstore hlife htimers hnow hrequests =>
    refine ⟨fun remaining expires hentry => ?_, fun phase life hmem hphase => ?_⟩
    · have hold := h.entry remaining expires (hstore ▸ hentry)
      have := hmono (s.life key)
      rw [hlife]
      omega
    · have hget : phase ≠ .get := by
        rcases hphase with rfl | rfl
        · simp
        · simp
      exact Nat.le_trans (h.refusal phase life (mem_of_others hget hrequests hmem) hphase)
        (hmono life)
  | own i phase phase' timers hi hhandles hset hlife hnow htimers hrequests =>
    have hlife' := congrFun hlife key
    have hpassed (n : Nat) : s'.passed key n = s.passed key n + (phase'.passedIn n).toNat := by
      have hmove := Parties.tally_move hi (RequestPhase.passedIn n) phase'
      rw [hhandles.passedIn_eq_false, ← hrequests] at hmove
      exact hmove
    have hmem := List.mem_of_getElem? hi
    have hold := h.entry
    have hcurrent := hpassed (s.life key)
    generalize hentry : s.store.lookup key = entry at hhandles hold
    generalize hentry' : s'.store.lookup key = entry' at hhandles
    -- only the message that reads what is left makes a refusal possible
    have hrefusal (life : Nat) (hphase : phase' = .expire 0 life ∨ phase' = .refused life) :
        m.quota ≤ s.passed key life := by
      cases hhandles with
      | read remaining expires =>
        obtain ⟨rfl, rfl⟩ : remaining = 0 ∧ s.life key = life := by simpa using hphase
        exact hold 0 expires rfl
      | refuse entry l =>
        obtain rfl : l = life := by simpa using hphase
        exact h.refusal _ l hmem (.inl rfl)
      | _ => exact absurd hphase (by simp)
    refine ⟨fun remaining expires hsome => ?_, fun phase'' life hmem' hphase => ?_⟩
    · rw [hlife', hcurrent]
      rw [hentry'] at hsome
      cases hhandles with
      | found entry => exact Nat.le_trans (hold remaining expires hsome) (by omega)
      | absent => exact absurd hsome (by simp)
      | read r e => exact Nat.le_trans (hold remaining expires hsome) (by omega)
      | refuse entry l => exact Nat.le_trans (hold remaining expires hsome) (by omega)
      | letIn entry r l reset hne => exact Nat.le_trans (hold remaining expires hsome) (by omega)
      | pass r e reset headers =>
        obtain ⟨rfl, rfl⟩ : r - 1 = remaining ∧ e = expires := by simpa using hsome
        have := hold r e rfl
        simp only [RequestPhase.passedIn, decide_true, Bool.toNat_true]
        omega
      | enter entry e headers =>
        obtain ⟨rfl, rfl⟩ : m.currentValue = remaining ∧ e = expires := by simpa using hsome
        have hquota : m.quota = m.currentValue + 1 := rfl
        simp only [RequestPhase.passedIn, decide_true, Bool.toNat_true]
        omega
      | fail _ hin hset => exact absurd hsome (by simp)
    · rw [hrequests] at hmem'
      rcases List.mem_or_eq_of_mem_set hmem' with hmem' | heq
      · exact Nat.le_trans (h.refusal phase'' life hmem' hphase) (hmono life)
      · rw [(Prod.mk.inj heq).2] at hphase
        exact Nat.le_trans (hrefusal life hphase) (hmono life)
  | timer i due r hi hr hs' hnow hdue =>
    obtain ⟨hgone, -⟩ := remove_self r key
    refine ⟨fun remaining expires hsome => ?_, fun phase life hmem hphase => ?_⟩
    · rw [hs', hgone] at hsome
      exact absurd hsome (by simp)
    · rw [hs', remove_requests, hr] at hmem
      exact Nat.le_trans (h.refusal phase life hmem hphase) (hmono life)

/-! ## How far apart entries are -/

/-- A request of a client was let through at an instant, while its entry `life` lived. -/
def Lets (s : RateLimited) (key : String) (life instant : Nat) : Prop :=
  ∃ headers, (key, .passed headers life instant) ∈ s.requests

/-- No entry: nobody else is going to remove one, and what was let through lies as many
intervals back as entries were removed since. -/
structure Idle (m : RateLimitMiddleware) (key : String) (s : RateLimited) : Prop where
  entry : s.store.lookup key = none
  timers : s.timers.filter (·.1 = key) = []
  before : ∀ l t, s.Lets key l t →
    l < s.life key ∧ t + (s.life key - l - 1) * m.intervalMillis ≤ s.now

/-- An entry that was made at `created`, and the one timer that will remove it. -/
structure Alive (m : RateLimitMiddleware) (key : String) (created : Nat) (s : RateLimited) :
    Prop where
  entry : s.store.lookup key ≠ none
  timers : s.timers.filter (·.1 = key) = [(key, created + m.intervalMillis)]
  created_le : created ≤ s.now
  entering : s.entering key = 0
  before : ∀ l t, s.Lets key l t →
    (l < s.life key ∧ t + (s.life key - l - 1) * m.intervalMillis ≤ created) ∨
      (l = s.life key ∧ created ≤ t)

/-- The entries of a client whose requests do not overlap follow each other at least an
interval apart, and so does what they let through. -/
structure Paced (m : RateLimitMiddleware) (key : String) (s : RateLimited) : Prop where
  pace : Idle m key s ∨ ∃ created, Alive m key created s
  past : ∀ l t, s.Lets key l t → t ≤ s.now
  apart : ∀ l t l' t', s.Lets key l t → s.Lets key l' t' → l < l' →
    t + (l' - l - 1) * m.intervalMillis ≤ t'

theorem paced_new (m : RateLimitMiddleware) (key : String) (now : Nat) :
    Paced m key (new now) := by
  have hnone (l t : Nat) : ¬ (new now).Lets key l t := by
    intro h
    obtain ⟨headers, hmem⟩ := h
    exact absurd hmem (by simp [new])
  refine ⟨.inl ⟨rfl, rfl, fun l t h => absurd h (hnone l t)⟩, fun l t h => absurd h (hnone l t), ?_⟩
  exact fun l t _ _ h => absurd h (hnone l t)

/-- What a step lets through, it lets through now. -/
theorem lets_of_own {i : Nat} {phase phase' : RequestPhase} {l t : Nat}
    (hhandles : Handles m (s.life key) s'.now (s.store.lookup key) phase (s'.store.lookup key)
      phase') (hrequests : s'.requests = s.requests.set i (key, phase'))
    (h : s'.Lets key l t) : s.Lets key l t ∨ (l = s.life key ∧ t = s'.now) := by
  obtain ⟨headers, hmem⟩ := h
  rw [hrequests] at hmem
  rcases List.mem_or_eq_of_mem_set hmem with hmem | heq
  · exact .inl ⟨headers, hmem⟩
  · rw [← (Prod.mk.inj heq).2] at hhandles
    exact .inr hhandles.passed_eq

/-- The latest life is the current one, and earlier ones keep their distance from now. -/
theorem Paced.distance (h : Paced m key s) {l t : Nat} (hlets : s.Lets key l t) :
    l ≤ s.life key ∧ (l < s.life key → t + (s.life key - l - 1) * m.intervalMillis ≤ s.now) := by
  rcases h.pace with hidle | ⟨created, halive⟩
  · obtain ⟨hlt, hle⟩ := hidle.before l t hlets
    exact ⟨Nat.le_of_lt hlt, fun _ => hle⟩
  · have hcreated := halive.created_le
    rcases halive.before l t hlets with ⟨hlt, hle⟩ | ⟨heq, -⟩
    · exact ⟨Nat.le_of_lt hlt, fun _ => by omega⟩
    · exact ⟨Nat.le_of_eq heq, fun hlt => absurd heq (Nat.ne_of_lt hlt)⟩

/-- A message of one of the client's requests, which is the only one in progress. -/
theorem Paced.own {i : Nat} {phase phase' : RequestPhase} {timers : List (String × Nat)}
    (h : Paced m key s) (hk : s.inProgress key ≤ 1) (hi : s.requests[i]? = some (key, phase))
    (hhandles : Handles m (s.life key) s'.now (s.store.lookup key) phase (s'.store.lookup key)
      phase')
    (hset : timers = [] ∧ phase ≠ .set ∨
      timers = [(key, s'.now + m.intervalMillis)] ∧ phase = .set)
    (hlife : s'.life = s.life) (hnow : s.now ≤ s'.now) (htimers : s'.timers = s.timers ++ timers)
    (hrequests : s'.requests = s.requests.set i (key, phase')) : Paced m key s' := by
  have hlife' := congrFun hlife key
  have hlets (l t : Nat) (hl : s'.Lets key l t) := lets_of_own hhandles hrequests hl
  -- how many of the client's requests are about to enter her
  have hentering : s'.entering key + phase.entering.toNat =
      s.entering key + phase'.entering.toNat := by
    unfold entering count
    rw [hrequests]
    exact Parties.tally_move hi RequestPhase.entering phase'
  have hprogress : s.entering key ≤ s.inProgress key :=
    Parties.tally_le_of_imp RequestPhase.inProgress_of_entering
  refine ⟨?_, fun l t hl => ?_, fun l t l' t' hl hl' hlt => ?_⟩
  · rcases h.pace with hidle | ⟨created, halive⟩
    · by_cases hphase : phase = .set
      · -- the client is entered
        right
        refine ⟨s'.now, ?_⟩
        obtain ⟨rfl, -⟩ := hset.resolve_left fun hno => hno.2 hphase
        subst hphase
        have hentry := hidle.entry
        generalize s.store.lookup key = entry at hhandles
        generalize hentry' : s'.store.lookup key = entry' at hhandles
        cases hhandles with
        | enter entry expires headers =>
          simp at hentering
          refine ⟨by rw [hentry']; simp, ?_, Nat.le_refl _, by omega, fun l t hl => ?_⟩
          · rw [htimers, List.filter_append, hidle.timers]
            simp
          · rw [hlife']
            rcases hlets l t hl with hold | hnew
            · have hbefore := hidle.before l t hold
              exact .inl ⟨hbefore.1, by omega⟩
            · exact .inr ⟨hnew.1, Nat.le_of_eq hnew.2.symm⟩
        | fail _ _ hne => exact absurd rfl hne
      · -- without an entry nothing is let through
        left
        obtain ⟨rfl, -⟩ := hset.resolve_right fun hyes => hphase hyes.2
        have hentry := hidle.entry
        rw [hentry] at hhandles
        have hstill : s'.store.lookup key = none ∧ ∀ headers l t, phase' ≠ .passed headers l t := by
          generalize hentry' : s'.store.lookup key = entry' at hhandles
          cases hhandles with
          | absent => exact ⟨rfl, by simp⟩
          | enter => exact absurd rfl hphase
          | fail => exact ⟨rfl, by simp⟩
        refine ⟨hstill.1, ?_, fun l t hl => ?_⟩
        · rw [htimers, List.append_nil]
          exact hidle.timers
        · obtain ⟨headers, hmem⟩ := hl
          rw [hrequests] at hmem
          rcases List.mem_or_eq_of_mem_set hmem with hmem | heq
          · have hbefore := hidle.before l t ⟨headers, hmem⟩
            rw [hlife']
            exact ⟨hbefore.1, by omega⟩
          · exact absurd (Prod.mk.inj heq).2.symm (hstill.2 headers l t)
    · right
      refine ⟨created, ?_⟩
      -- a client who is in the store is not entered again
      have hnotset : phase ≠ .set := by
        intro hphase
        have hpos : 0 < s.entering key :=
          Parties.tally_pos hi (p := RequestPhase.entering) (by rw [hphase]; rfl)
        exact absurd halive.entering (Nat.ne_of_gt hpos)
      obtain ⟨rfl, -⟩ := hset.resolve_right fun hyes => hnotset hyes.2
      have hentry := halive.entry
      have hstill : s'.store.lookup key ≠ none ∧ phase'.entering = false := by
        generalize s.store.lookup key = entry at hhandles hentry
        generalize s'.store.lookup key = entry' at hhandles
        cases hhandles with
        | absent => exact absurd rfl hentry
        | enter => exact absurd rfl hnotset
        | fail => exact absurd rfl hentry
        | _ => exact ⟨by simp, rfl⟩
      refine ⟨hstill.1, ?_, ?_, ?_, fun l t hl => ?_⟩
      · rw [htimers, List.append_nil]
        exact halive.timers
      · exact Nat.le_trans halive.created_le hnow
      · have hzero := halive.entering
        rw [hstill.2] at hentering
        simp only [Bool.toNat_false] at hentering
        omega
      · rw [hlife']
        rcases hlets l t hl with hold | hnew
        · exact halive.before l t hold
        · have hcreated := halive.created_le
          exact .inr ⟨hnew.1, by omega⟩
  · rcases hlets l t hl with hold | hnew
    · exact Nat.le_trans (h.past l t hold) hnow
    · exact Nat.le_of_eq hnew.2
  · rcases hlets l t hl with hold | hnew
    · rcases hlets l' t' hl' with hold' | hnew'
      · exact h.apart l t l' t' hold hold' hlt
      · have hdistance := (h.distance hold).2
        rw [← hnew'.1] at hdistance
        have := hdistance hlt
        omega
    · rcases hlets l' t' hl' with hold' | hnew'
      · have := (h.distance hold').1
        omega
      · omega

theorem Paced.timer {i due : Nat} {r : RateLimited} (h : Paced m key s)
    (hi : s.timers[i]? = some (key, due))
    (hr : r = { s with timers := s.timers.eraseIdx i, now := s'.now }) (hs' : s' = r.remove key)
    (hnow : s.now ≤ s'.now) (hdue : due ≤ s'.now) : Paced m key s' := by
  have hlets (l t : Nat) (hl : s'.Lets key l t) : s.Lets key l t := by
    obtain ⟨headers, hmem⟩ := hl
    rw [hs', remove_requests, hr] at hmem
    exact ⟨headers, hmem⟩
  obtain ⟨before, after, herased, hbefore⟩ := Parties.eraseIdx_split hi
  have hfilter : s.timers.filter (·.1 = key) =
      before.filter (·.1 = key) ++ (key, due) :: after.filter (·.1 = key) := by
    rw [hbefore, List.filter_append, List.filter_cons_of_pos (by simp)]
  refine ⟨?_, fun l t hl => Nat.le_trans (h.past l t (hlets l t hl)) hnow, ?_⟩
  · rcases h.pace with hidle | ⟨created, halive⟩
    · rw [hidle.timers] at hfilter
      exact absurd hfilter.symm (by simp)
    · left
      rw [halive.timers] at hfilter
      have hlengths := congrArg List.length hfilter
      simp only [List.length_cons, List.length_nil, List.length_append] at hlengths
      have hb : before.filter (·.1 = key) = [] := List.length_eq_zero_iff.mp (by omega)
      have ha : after.filter (·.1 = key) = [] := List.length_eq_zero_iff.mp (by omega)
      -- it is the only timer of the client, so the one of her entry
      have hdue' : created + m.intervalMillis = due := by
        rw [hb, ha] at hfilter
        simpa using hfilter
      obtain ⟨hgone, hlife⟩ := remove_self r key
      have hnext : (r.remove key).life key = s.life key + 1 := by
        rcases hlife with ⟨hnone, -⟩ | ⟨-, hnext⟩
        · rw [hr] at hnone
          exact absurd hnone halive.entry
        · rw [hnext, hr]
      rw [← hs'] at hgone hnext
      refine ⟨hgone, ?_, fun l t hl => ?_⟩
      · rw [hs', remove_timers, hr]
        show (s.timers.eraseIdx i).filter _ = []
        rw [herased, List.filter_append, hb, ha, List.append_nil]
      · rw [hnext]
        rcases halive.before l t (hlets l t hl) with ⟨hlt, hle⟩ | ⟨rfl, -⟩
        · have hmore : s.life key + 1 - l - 1 = s.life key - l - 1 + 1 := by omega
          rw [hmore, Nat.succ_mul]
          exact ⟨by omega, by omega⟩
        · have hpast := h.past _ t (hlets _ t hl)
          have hzero : s.life key + 1 - s.life key - 1 = 0 := by omega
          rw [hzero, Nat.zero_mul]
          exact ⟨by omega, by omega⟩
  · exact fun l t l' t' hl hl' => h.apart l t l' t' (hlets l t hl) (hlets l' t' hl')

theorem Paced.step (h : Paced m key s) (hk : s.inProgress key ≤ 1)
    (hstep : s.step m e = some s') : Paced m key s' := by
  cases stepFor_of_step key hstep with
  | others hstore hlife htimers hnow hrequests =>
    have hlets (l t : Nat) (hl : s'.Lets key l t) : s.Lets key l t := by
      obtain ⟨headers, hmem⟩ := hl
      exact ⟨headers, mem_of_others (by simp) hrequests hmem⟩
    have hentering : s'.entering key = s.entering key := count_others rfl hrequests
    refine ⟨?_, fun l t hl => Nat.le_trans (h.past l t (hlets l t hl)) hnow,
      fun l t l' t' hl hl' => h.apart l t l' t' (hlets l t hl) (hlets l' t' hl')⟩
    rcases h.pace with hidle | ⟨created, halive⟩
    · left
      refine ⟨hstore.trans hidle.entry, htimers.trans hidle.timers, fun l t hl => ?_⟩
      have hbefore := hidle.before l t (hlets l t hl)
      rw [hlife]
      exact ⟨hbefore.1, by omega⟩
    · right
      refine ⟨created, hstore ▸ halive.entry, htimers.trans halive.timers,
        Nat.le_trans halive.created_le hnow, hentering.trans halive.entering, fun l t hl => ?_⟩
      rw [hlife]
      exact halive.before l t (hlets l t hl)
  | own i phase phase' timers hi hhandles hset hlife hnow htimers hrequests =>
    exact h.own hk hi hhandles hset hlife hnow htimers hrequests
  | timer i due r hi hr hs' hnow hdue => exact h.timer hi hr hs' hnow hdue

end RateLimited

/-- While one entry of a client lives, the requests of the client let through are at most
`k * (quota + k - 1)`, if at most `k` of them are in progress at any time: whatever is
interleaved with them, and whenever the timers fire. -/
theorem passed_within_quota (m : RateLimitMiddleware) (k : Nat) (key : String) (now n : Nat)
    {events : List RateLimitEvent} {s : RateLimited}
    (hrun : Trace (fun s e s' => s.inProgress key ≤ k ∧ s.step m e = some s')
      (RateLimited.new now) events s) :
    s.passed key n ≤ k * (m.quota + (k - 1)) := by
  have hwithin : RateLimited.Within m k key s := by
    apply hrun.invariant _ (RateLimited.within_new m k key now)
    exact fun s e s' _ h hstep => h.step hstep.1 hstep.2
  exact hwithin.bound n

/-- With a quota of 2, two requests that overlap: both find no entry, so both are let
through, and each leaves one place. That is one more than the quota. -/
theorem passed_within_quota_sample :
    ∃ s, Trace (fun s e s' => s.inProgress "ip" ≤ 2 ∧ s.step (.new 2 60000) e = some s')
        (RateLimited.new 0)
        [.request "ip:80", .request "ip:81", .handled 0 0 0, .handled 1 0 0, .handled 0 0 0,
          .handled 1 0 1, .request "ip:82", .handled 2 0 2, .handled 2 0 2, .handled 2 0 2,
          .handled 2 0 2] s ∧
      s.passed "ip" 0 = 3 ∧ s.passed "ip" 0 ≤ 2 * (2 + (2 - 1)) := by
  have hrun := Trace.of_foldlM_guarded (G := fun s => RateLimited.inProgress s "ip" ≤ 2)
    (f := RateLimited.step (.new 2 60000)) (s := RateLimited.new 0)
    (l := [.request "ip:80", .request "ip:81", .handled 0 0 0, .handled 1 0 0, .handled 0 0 0,
      .handled 1 0 1, .request "ip:82", .handled 2 0 2, .handled 2 0 2, .handled 2 0 2,
      .handled 2 0 2]) rfl
  exact ⟨_, hrun, by decide, passed_within_quota (.new 2 60000) 2 "ip" 0 0 hrun⟩

/-- A request is refused only if the entry it was looked up in has let the quota through,
in any interleaving. -/
theorem refused_after_quota (m : RateLimitMiddleware) (now : Nat) {key : String} {life : Nat}
    {events : List RateLimitEvent} {s : RateLimited}
    (hrun : Trace (fun s e s' => s.step m e = some s') (RateLimited.new now) events s)
    (hrefused : (key, .refused life) ∈ s.requests) : m.quota ≤ s.passed key life := by
  have hused : RateLimited.UsedUp m key s := by
    apply hrun.invariant fun s e s' _ h hstep => h.step hstep
    exact ⟨fun _ _ h => absurd h (by simp [RateLimited.new]),
      fun _ _ h => absurd h (by simp [RateLimited.new])⟩
  exact hused.refusal _ life hrefused (.inr rfl)

/-- With a quota of one request, the second one is refused. -/
theorem refused_after_quota_sample :
    ∃ s, Trace (fun s e s' => s.step (.new 1 60000) e = some s') (RateLimited.new 0)
        [.request "ip:80", .handled 0 0 0, .handled 0 0 0, .request "ip:81", .handled 1 0 1,
          .handled 1 0 1, .handled 1 0 1] s ∧
      (RateLimitMiddleware.new 1 60000).quota ≤ s.passed "ip" 0 := by
  have hrun := Trace.of_foldlM (f := RateLimited.step (.new 1 60000)) (s := RateLimited.new 0)
    (l := [.request "ip:80", .handled 0 0 0, .handled 0 0 0, .request "ip:81", .handled 1 0 1,
      .handled 1 0 1, .handled 1 0 1]) rfl
  exact ⟨_, hrun, refused_after_quota (.new 1 60000) 0 hrun (by decide)⟩

/-- In any stretch of `j` intervals at most `(j + 1) * quota` requests of a client are let
through, if no two of them are in progress at the same time. -/
theorem passed_in_stretch (m : RateLimitMiddleware) (key : String) (now start j : Nat)
    {events : List RateLimitEvent} {s : RateLimited}
    (hrun : Trace (fun s e s' => s.inProgress key ≤ 1 ∧ s.step m e = some s')
      (RateLimited.new now) events s) :
    s.count key (RequestPhase.passedBetween start (start + j * m.intervalMillis)) ≤
      (j + 1) * m.quota := by
  have hpaced : RateLimited.Paced m key s := by
    apply hrun.invariant _ (RateLimited.paced_new m key now)
    exact fun s e s' _ h hstep => h.step hstep.1 hstep.2
  have hquota (n : Nat) : s.passed key n ≤ m.quota := by
    have := passed_within_quota m 1 key now n hrun
    omega
  by_cases hsome : ∃ l t, s.Lets key l t ∧ start ≤ t
  · classical
    -- the first entry of the stretch; no other one of it is more than `j` entries later
    obtain ⟨t₀, hfirst, hstart⟩ := Nat.find_spec hsome
    have hmin (l t : Nat) (hlets : s.Lets key l t) (ht : start ≤ t) : Nat.find hsome ≤ l :=
      Nat.find_min' hsome ⟨t, hlets, ht⟩
    generalize Nat.find hsome = first at hfirst hmin
    apply Parties.tally_le_mul (q := fun k => RequestPhase.passedIn (first + k))
    · intro phase hmem hp
      cases phase with
      | passed headers l t =>
        obtain ⟨ht, hstop⟩ := by simpa [RequestPhase.passedBetween] using hp
        have hge := hmin l t ⟨headers, hmem⟩ ht
        refine ⟨l - first, ?_, by simp; omega⟩
        by_cases hlater : first < l
        · have hapart := hpaced.apart first t₀ l t hfirst ⟨headers, hmem⟩ hlater
          have hfew : (l - first - 1) * m.intervalMillis < j * m.intervalMillis := by omega
          have := Nat.lt_of_mul_lt_mul_right hfew
          omega
        · omega
      | _ => exact absurd hp (by simp [RequestPhase.passedBetween])
    · exact fun k _ => hquota (first + k)
  · have hnone : s.count key (RequestPhase.passedBetween start (start + j * m.intervalMillis)) ≤
        0 * m.quota := by
      apply Parties.tally_le_mul (q := fun k => RequestPhase.passedIn k)
      · intro phase hmem hp
        cases phase with
        | passed headers l t =>
          obtain ⟨ht, -⟩ := by simpa [RequestPhase.passedBetween] using hp
          exact absurd ⟨l, t, ⟨headers, hmem⟩, ht⟩ hsome
        | _ => exact absurd hp (by simp [RequestPhase.passedBetween])
      · exact fun k hk => absurd hk (Nat.not_lt_zero k)
    omega

/-- With one request a minute: at the end of a minute and at the beginning of the next. -/
theorem passed_in_stretch_sample :
    ∃ s, Trace (fun s e s' => s.inProgress "ip" ≤ 1 ∧ s.step (.new 1 60000) e = some s')
        (RateLimited.new 0)
        [.request "ip:80", .handled 0 0 0, .handled 0 0 0, .removed 0 60000, .request "ip:81",
          .handled 1 60000 60000, .handled 1 60000 60000] s ∧
      s.count "ip" (RequestPhase.passedBetween 0 (0 + 2 * 60000)) = 2 ∧
      s.count "ip" (RequestPhase.passedBetween 0 (0 + 2 * 60000)) ≤ (2 + 1) * 1 := by
  have hrun := Trace.of_foldlM_guarded (G := fun s => RateLimited.inProgress s "ip" ≤ 1)
    (f := RateLimited.step (.new 1 60000)) (s := RateLimited.new 0)
    (l := [.request "ip:80", .handled 0 0 0, .handled 0 0 0, .removed 0 60000, .request "ip:81",
      .handled 1 60000 60000, .handled 1 60000 60000]) rfl
  exact ⟨_, hrun, by decide, passed_in_stretch (.new 1 60000) "ip" 0 0 2 hrun⟩

end Lndhubx
