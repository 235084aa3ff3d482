import Lndhubx.Lib.Parties
import Lndhubx.Lib.Trace
import Mathlib.Algebra.Group.Nat.Defs
import Mathlib.Data.List.AList

/-!
# Requests per client

`actix-ratelimit/src`: the middleware in front of every handler of the API, and the
memory store it is set up with (`api/src/lib.rs`). The store keeps for each client how
many requests are left to it; a client that is not there is entered with its first
request, and a timer removes it again an interval later.

A request is decided in up to three messages to the store: what is left, when it
expires, and one less. Every worker thread of the server has a store actor of its own,
and all of them share one map, so the messages of different requests are interleaved in
any order, and timers fire in between (`RateLimited`). Nothing is reserved between
reading what is left and taking one off, so requests that overlap may all be let through
on the last place, or each enter the client anew.
-/

namespace Lndhubx

/-- `ip_parts[0]` of the address a request comes from, which is what names a client: all
that stands before the first colon. -/
def clientKey (address : String) : String := String.ofList (address.toList.takeWhile (· ≠ ':'))

/-- A `usize` of the machine. -/
def USIZE_MODULUS : Nat := 2 ^ 64

/-- What the middleware knows of `RateLimiter`. -/
structure RateLimitMiddleware where
  maxRequests : Nat
  /-- In seconds: fractions were dropped by `new_transform`. -/
  interval : Nat

namespace RateLimitMiddleware

/-- `api::start` and `RateLimiter::new_transform`. -/
def new (quotaSize quotaReplenishmentIntervalMillis : Nat) : RateLimitMiddleware where
  maxRequests := quotaSize
  interval := quotaReplenishmentIntervalMillis / 1000

/-- `max_requests - 1`, of the first request of a client; a quota of 0 wraps. -/
def currentValue (m : RateLimitMiddleware) : Nat :=
  (m.maxRequests + (USIZE_MODULUS - 1)) % USIZE_MODULUS

/-- How many requests an entry is good for. -/
def quota (m : RateLimitMiddleware) : Nat := m.currentValue + 1

def intervalMillis (m : RateLimitMiddleware) : Nat := m.interval * 1000

theorem quota_eq {m : RateLimitMiddleware} (hpos : 0 < m.maxRequests)
    (hmax : m.maxRequests < USIZE_MODULUS) : m.quota = m.maxRequests := by
  unfold quota currentValue USIZE_MODULUS at *
  omega

end RateLimitMiddleware

/-! ## The store -/

/-- `DashMap<String, (usize, Duration)>`: what is left to a client, and when its entry
expires, in milliseconds since the epoch. -/
abbrev MemoryStore := AList fun _ : String => Nat × Nat

namespace MemoryStore

/-- The handlers of the messages of `MemoryStoreActor`; `none` is a `ReadWriteError`. -/
def set (store : MemoryStore) (key : String) (value expiry now : Nat) : MemoryStore :=
  store.insert key (value, now + expiry)

def update (store : MemoryStore) (key : String) (value : Nat) : Option (Nat × MemoryStore) :=
  match store.lookup key with
  | some (left, expires) =>
    let left' := if value < left then left - value else 0
    some (left', store.insert key (left', expires))
  | none => none

/-- How long the entry still has; 0 if it should be gone. -/
def expire (store : MemoryStore) (key : String) (now : Nat) : Option Nat :=
  match store.lookup key with
  | some (_, expires) => some (expires - now)
  | none => none

end MemoryStore

/-! ## Requests in progress -/

/-- The headers of a reply, the last one in seconds. A refusal sets them on an answer
that is then thrown away. -/
structure RateLimitHeaders where
  limit : Nat
  remaining : Nat
  reset : Nat
  deriving DecidableEq

/-- The message of a request that the store handles next, or how it ended. `Get` looks
at the map twice. -/
inductive RequestPhase where
  | get
  | read
  | expire (remaining life : Nat)
  | update (reset : Nat)
  | set
  /-- The request was handed to the API. -/
  | passed (headers : RateLimitHeaders) (life instant : Nat)
  | refused (life : Nat)
  | failed
  deriving DecidableEq

namespace RequestPhase

def inProgress : RequestPhase → Bool
  | .get => true
  | .read => true
  | .expire _ _ => true
  | .update _ => true
  | .set => true
  | .passed _ _ _ => false
  | .refused _ => false
  | .failed => false

/-- The client was not found: it will be entered. -/
def entering : RequestPhase → Bool
  | .set => true
  | _ => false

/-- There was something left: the request will be let through if the entry still lives. -/
def admitted : RequestPhase → Bool
  | .expire remaining _ => remaining ≠ 0
  | .update _ => true
  | _ => false

def passedBetween (start stop : Nat) : RequestPhase → Bool
  | .passed _ _ instant => start ≤ instant ∧ instant < stop
  | _ => false

def passedIn (life : Nat) : RequestPhase → Bool
  | .passed _ l _ => l = life
  | _ => false

attribute [simp] inProgress entering admitted passedIn

theorem inProgress_of_entering (phase : RequestPhase) (h : phase.entering = true) :
    phase.inProgress = true := by
  cases phase <;> first | rfl | exact absurd h (by simp [entering])

theorem inProgress_of_admitted (phase : RequestPhase) (h : phase.admitted = true) :
    phase.inProgress = true := by
  cases phase <;> first | rfl | exact absurd h (by simp [admitted])

theorem not_entering_of_admitted (phase : RequestPhase) (h : phase.admitted = true) :
    phase.entering = false := by
  cases phase <;> first | rfl | exact absurd h (by simp [admitted])

end RequestPhase

/-- The store, the timers of its actors and the requests. Times are in milliseconds. -/
structure RateLimited where
  store : MemoryStore
  /-- The `Remove`s that are still to come, and when they are due. -/
  timers : List (String × Nat)
  requests : List (String × RequestPhase)
  /-- The last reading of the monotonic clock. -/
  now : Nat
  /-- How many entries of a client were removed: the number of the entry that lives, or
  of the next one. No code reads it. -/
  life : String → Nat

inductive RateLimitEvent where
  | request (address : String)
  /-- The store handles the next message of a request. -/
  | handled (i system instant : Nat)
  /-- A timer has fired. -/
  | removed (i instant : Nat)

namespace RateLimited

def new (now : Nat) : RateLimited := ⟨∅, [], [], now, fun _ => 0⟩

/-- What a message does: the next phase of its request, the store, and the timer that
`Set` starts. -/
def handle (m : RateLimitMiddleware) (s : RateLimited) (key : String) (system instant : Nat) :
    RequestPhase → Option (RequestPhase × MemoryStore × List (String × Nat))
  | .get =>
    if key ∈ s.store then some (.read, s.store, []) else some (.set, s.store, [])
  | .read =>
    match s.store.lookup key with
    | some (remaining, _) => some (.expire remaining (s.life key), s.store, [])
    | none => some (.failed, s.store, [])
  | .expire remaining life =>
    match s.store.expire key system with
    | some reset =>
      if remaining = 0 then some (.refused life, s.store, [])
      else some (.update reset, s.store, [])
    | none => some (.failed, s.store, [])
  | .update reset =>
    match s.store.update key 1 with
    | some (updated, store) =>
      some (.passed ⟨m.maxRequests, updated, reset / 1000⟩ (s.life key) instant, store, [])
    | none => some (.failed, s.store, [])
  | .set =>
    some (.passed ⟨m.maxRequests, m.currentValue, m.interval⟩ (s.life key) instant,
      s.store.set key m.currentValue m.intervalMillis system,
      [(key, instant + m.intervalMillis)])
  | .passed _ _ _ => none
  | .refused _ => none
  | .failed => none

/-- `Remove`, of a timer. -/
def remove (s : RateLimited) (key : String) : RateLimited :=
  if key ∈ s.store then
    { s with store := s.store.erase key, life := Function.update s.life key (s.life key + 1) }
  else s

def step (m : RateLimitMiddleware) (s : RateLimited) : RateLimitEvent → Option RateLimited
  | .request address => some { s with requests := s.requests ++ [(clientKey address, .get)] }
  | .handled i system instant =>
    if instant < s.now then none else
      match s.requests[i]? with
      | some (key, phase) =>
        match s.handle m key system instant phase with
        | some (phase', store, timers) =>
          some { s with
            store
            timers := s.timers ++ timers
            requests := s.requests.set i (key, phase')
            now := instant }
        | none => none
      | none => none
  | .removed i instant =>
    if instant < s.now then none else
      match s.timers[i]? with
      | some (key, due) =>
        if instant < due then none
        else some ({ s with timers := s.timers.eraseIdx i, now := instant }.remove key)
      | none => none

/-- The requests of a client whose phase satisfies `p`. -/
def count (s : RateLimited) (key : String) (p : RequestPhase → Bool) : Nat :=
  Parties.tally key p s.requests

def inProgress (s : RateLimited) (key : String) : Nat := s.count key RequestPhase.inProgress

/-- How many requests of a client were let through while its `n`-th entry lived. -/
def passed (s : RateLimited) (key : String) (n : Nat) : Nat :=
  s.count key (RequestPhase.passedIn n)

/-! ## What a message does -/

variable {m : RateLimitMiddleware} {s s' : RateLimited} {e : RateLimitEvent} {key : String}

/-- The store has handled a message. -/
theorem step_handled {i system instant : Nat}
    (h : s.step m (.handled i system instant) = some s') :
    ∃ key phase phase' store timers, s.now ≤ instant ∧ s.requests[i]? = some (key, phase) ∧
      s.handle m key system instant phase = some (phase', store, timers) ∧
      s' = { s with
        store
        timers := s.timers ++ timers
        requests := s.requests.set i (key, phase')
        now := instant } := by
  simp only [step] at h
  split at h
  next => exact absurd h (by simp)
  next hnow =>
    split at h
    next key phase hi =>
      split at h
      next phase' store timers hhandle =>
        exact ⟨key, phase, phase', store, timers, Nat.not_lt.mp hnow, hi, hhandle,
          (Option.some.inj h).symm⟩
      next => exact absurd h (by simp)
    next => exact absurd h (by simp)

/-- A timer has fired. -/
theorem step_removed {i instant : Nat} (h : s.step m (.removed i instant) = some s') :
    ∃ key due, s.now ≤ instant ∧ s.timers[i]? = some (key, due) ∧ due ≤ instant ∧
      s' = { s with timers := s.timers.eraseIdx i, now := instant }.remove key := by
  simp only [step] at h
  split at h
  next => exact absurd h (by simp)
  next hnow =>
    split at h
    next key due hi =>
      split at h
      next => exact absurd h (by simp)
      next hdue =>
        exact ⟨key, due, Nat.not_lt.mp hnow, hi, Nat.not_lt.mp hdue, (Option.some.inj h).symm⟩
    next => exact absurd h (by simp)

/-- What a message of a request may do to it and to the entry of its client. -/
inductive Handles (m : RateLimitMiddleware) (life instant : Nat) :
    Option (Nat × Nat) → RequestPhase → Option (Nat × Nat) → RequestPhase → Prop
  | found (entry : Nat × Nat) : Handles m life instant (some entry) .get (some entry) .read
  | absent : Handles m life instant none .get none .set
  | read (remaining expires : Nat) :
      Handles m life instant (some (remaining, expires)) .read (some (remaining, expires))
        (.expire remaining life)
  | refuse (entry : Nat × Nat) (l : Nat) :
      Handles m life instant (some entry) (.expire 0 l) (some entry) (.refused l)
  | letIn (entry : Nat × Nat) (remaining l reset : Nat) (h : remaining ≠ 0) :
      Handles m life instant (some entry) (.expire remaining l) (some entry) (.update reset)
  | pass (remaining expires reset : Nat) (headers : RateLimitHeaders) :
      Handles m life instant (some (remaining, expires)) (.update reset)
        (some (remaining - 1, expires)) (.passed headers life instant)
  | enter (entry : Option (Nat × Nat)) (expires : Nat) (headers : RateLimitHeaders) :
      Handles m life instant entry .set (some (m.currentValue, expires))
        (.passed headers life instant)
  | fail (phase : RequestPhase) (h : phase.inProgress = true) (hset : phase ≠ .set) :
      Handles m life instant none phase none .failed

theorem handle_spec {system instant : Nat} {phase phase' : RequestPhase} {store : MemoryStore}
    {timers : List (String × Nat)}
    (h : s.handle m key system instant phase = some (phase', store, timers)) :
    Handles m (s.life key) instant (s.store.lookup key) phase (store.lookup key) phase' ∧
      (timers = [] ∧ phase ≠ .set ∨ timers = [(key, instant + m.intervalMillis)] ∧ phase = .set) ∧
      ∀ key', key ≠ key' → store.lookup key' = s.store.lookup key' := by
  cases phase with
  | get =>
    simp only [handle] at h
    split at h
    next hmem =>
      obtain ⟨rfl, rfl, rfl⟩ := by simpa using h
      obtain ⟨entry, hentry⟩ := Option.isSome_iff_exists.mp (AList.lookup_isSome.mpr hmem)
      rw [hentry]
      exact ⟨.found entry, .inl ⟨rfl, by simp⟩, fun _ _ => rfl⟩
    next hmem =>
      obtain ⟨rfl, rfl, rfl⟩ := by simpa using h
      rw [AList.lookup_eq_none.mpr hmem]
      exact ⟨.absent, .inl ⟨rfl, by simp⟩, fun _ _ => rfl⟩
  | read =>
    simp only [handle] at h
    split at h
    next remaining expires hentry =>
      obtain ⟨rfl, rfl, rfl⟩ := by simpa using h
      rw [hentry]
      exact ⟨.read remaining expires, .inl ⟨rfl, by simp⟩, fun _ _ => rfl⟩
    next hentry =>
      obtain ⟨rfl, rfl, rfl⟩ := by simpa using h
      rw [hentry]
      exact ⟨.fail _ rfl (by simp), .inl ⟨rfl, by simp⟩, fun _ _ => rfl⟩
  | expire remaining life =>
    simp only [handle, MemoryStore.expire] at h
    cases hentry : s.store.lookup key with
    | none =>
      rw [hentry] at h
      obtain ⟨rfl, rfl, rfl⟩ := by simpa using h
      rw [hentry]
      exact ⟨.fail _ rfl (by simp), .inl ⟨rfl, by simp⟩, fun _ _ => rfl⟩
    | some entry =>
      rw [hentry] at h
      by_cases hzero : remaining = 0
      · simp only [if_pos hzero] at h
        obtain ⟨rfl, rfl, rfl⟩ := by simpa using h
        rw [hentry, hzero]
        exact ⟨.refuse entry life, .inl ⟨rfl, by simp⟩, fun _ _ => rfl⟩
      · simp only [if_neg hzero] at h
        obtain ⟨rfl, rfl, rfl⟩ := by simpa using h
        rw [hentry]
        exact ⟨.letIn entry remaining life _ hzero, .inl ⟨rfl, by simp⟩, fun _ _ => rfl⟩
  | update reset =>
    simp only [handle, MemoryStore.update] at h
    cases hentry : s.store.lookup key with
    | none =>
      rw [hentry] at h
      obtain ⟨rfl, rfl, rfl⟩ := by simpa using h
      rw [hentry]
      exact ⟨.fail _ rfl (by simp), .inl ⟨rfl, by simp⟩, fun _ _ => rfl⟩
    | some entry =>
      rw [hentry] at h
      obtain ⟨rfl, rfl, rfl⟩ := by simpa using h
      refine ⟨?_, .inl ⟨rfl, by simp⟩, fun key' hne => AList.lookup_insert_ne hne.symm⟩
      -- one less, but not below zero
      have hless : (if 1 < entry.1 then entry.1 - 1 else 0) = entry.1 - 1 := by
        by_cases hone : 1 < entry.1
        · rw [if_pos hone]
        · rw [if_neg hone]
          omega
      rw [AList.lookup_insert, hless]
      exact .pass entry.1 entry.2 reset _
  | set =>
    simp only [handle, MemoryStore.set] at h
    obtain ⟨rfl, rfl, rfl⟩ := by simpa using h
    refine ⟨?_, .inr ⟨rfl, rfl⟩, fun key' hne => AList.lookup_insert_ne hne.symm⟩
    rw [AList.lookup_insert]
    exact .enter _ _ _
  | passed headers life instant => exact absurd h (by simp [handle])
  | refused life => exact absurd h (by simp [handle])
  | failed => exact absurd h (by simp [handle])

@[simp] theorem remove_requests (s : RateLimited) (key : String) :
    (s.remove key).requests = s.requests := by
  unfold remove
  split <;> rfl

@[simp] theorem remove_timers (s : RateLimited) (key : String) :
    (s.remove key).timers = s.timers := by
  unfold remove
  split <;> rfl

@[simp] theorem remove_now (s : RateLimited) (key : String) : (s.remove key).now = s.now := by
  unfold remove
  split <;> rfl

/-- The entry of a client is gone, and its life counted, if it was there. -/
theorem remove_self (s : RateLimited) (key : String) :
    (s.remove key).store.lookup key = none ∧
      ((s.store.lookup key = none ∧ (s.remove key).life key = s.life key) ∨
        (s.store.lookup key ≠ none ∧ (s.remove key).life key = s.life key + 1)) := by
  unfold remove
  by_cases hmem : key ∈ s.store
  · rw [if_pos hmem]
    refine ⟨AList.lookup_erase key s.store, .inr ⟨?_, Function.update_self ..⟩⟩
    exact fun h => AList.lookup_eq_none.mp h hmem
  · rw [if_neg hmem]
    have hnone := AList.lookup_eq_none.mpr hmem
    exact ⟨hnone, .inl ⟨hnone, rfl⟩⟩

theorem remove_ne {key' : String} (s : RateLimited) (hne : key' ≠ key) :
    (s.remove key').store.lookup key = s.store.lookup key ∧
      (s.remove key').life key = s.life key := by
  unfold remove
  by_cases hmem : key' ∈ s.store
  · rw [if_pos hmem]
    exact ⟨AList.lookup_erase_ne hne.symm, Function.update_of_ne hne.symm ..⟩
  · rw [if_neg hmem]
    exact ⟨rfl, rfl⟩

/-! ## What a step means for one client -/

theorem Handles.passedIn_eq_false {life instant n : Nat} {entry entry' : Option (Nat × Nat)}
    {phase phase' : RequestPhase} (h : Handles m life instant entry phase entry' phase') :
    phase.passedIn n = false := by
  cases h with
  | fail _ hin _ => cases phase <;> first | rfl | exact absurd hin (by simp)
  | _ => rfl

theorem Handles.passed_eq {life instant l t : Nat} {entry entry' : Option (Nat × Nat)}
    {phase : RequestPhase} {headers : RateLimitHeaders}
    (h : Handles m life instant entry phase entry' (.passed headers l t)) :
    l = life ∧ t = instant := by
  cases h with
  | pass => exact ⟨rfl, rfl⟩
  | enter => exact ⟨rfl, rfl⟩

/-- A step of the requests that leaves those of a client alone, but for a new one. -/
inductive OthersMove (key : String) (requests : List (String × RequestPhase)) :
    List (String × RequestPhase) → Prop
  | same : OthersMove key requests requests
  | request (key' : String) : OthersMove key requests (requests ++ [(key', .get)])
  | handled (i : Nat) (key' : String) (phase phase' : RequestPhase) (hne : key' ≠ key)
      (hi : requests[i]? = some (key', phase)) :
      OthersMove key requests (requests.set i (key', phase'))

/-- What a step means for a client. -/
inductive StepFor (m : RateLimitMiddleware) (key : String) (s s' : RateLimited) : Prop
  /-- A new request, of this client or another, or a message or timer of another. -/
  | others (hstore : s'.store.lookup key = s.store.lookup key) (hlife : s'.life key = s.life key)
      (htimers : s'.timers.filter (·.1 = key) = s.timers.filter (·.1 = key))
      (hnow : s.now ≤ s'.now)
      (hrequests : OthersMove key s.requests s'.requests)
  | own (i : Nat) (phase phase' : RequestPhase) (timers : List (String × Nat))
      (hi : s.requests[i]? = some (key, phase))
      (hhandles : Handles m (s.life key) s'.now (s.store.lookup key) phase (s'.store.lookup key)
        phase')
      (hset : timers = [] ∧ phase ≠ .set ∨
        timers = [(key, s'.now + m.intervalMillis)] ∧ phase = .set)
      (hlife : s'.life = s.life) (hnow : s.now ≤ s'.now) (htimers : s'.timers = s.timers ++ timers)
      (hrequests : s'.requests = s.requests.set i (key, phase'))
  | timer (i due : Nat) (r : RateLimited) (hi : s.timers[i]? = some (key, due))
      (hr : r = { s with timers := s.timers.eraseIdx i, now := s'.now }) (hs' : s' = r.remove key)
      (hnow : s.now ≤ s'.now) (hdue : due ≤ s'.now)

theorem stepFor_of_step (key : String) (hstep : s.step m e = some s') : StepFor m key s s' := by
  cases e with
  | request address =>
    have hs' := Option.some.inj hstep
    subst hs'
    exact .others rfl rfl rfl (Nat.le_refl _) (.request _)
  | handled i system instant =>
    obtain ⟨key', phase, phase', store, timers, hnow, hi, hhandle, rfl⟩ := step_handled hstep
    obtain ⟨hhandles, hset, hothers⟩ := handle_spec hhandle
    by_cases hkey : key' = key
    · subst hkey
      exact .own i phase phase' timers hi hhandles hset rfl hnow rfl rfl
    · refine .others (hothers key hkey) rfl ?_ hnow (.handled i key' phase phase' hkey hi)
      show (s.timers ++ timers).filter _ = _
      rcases hset with ⟨rfl, -⟩ | ⟨rfl, -⟩
      · rw [List.append_nil]
      · rw [List.filter_append, List.filter_cons_of_neg (by simpa using hkey), List.filter_nil,
          List.append_nil]
  | removed i instant =>
    obtain ⟨key', due, hnow, hi, hdue, hs'⟩ := step_removed hstep
    have hnow' : s'.now = instant := by rw [hs', remove_now]
    rw [← hnow'] at hs' hnow hdue
    by_cases hkey : key' = key
    · subst hkey
      exact .timer i due _ hi rfl hs' hnow hdue
    · obtain ⟨hstore, hlife⟩ : _ = s.store.lookup key ∧ _ = s.life key :=
        remove_ne { s with timers := s.timers.eraseIdx i, now := s'.now } hkey
      rw [← hs'] at hstore hlife
      refine .others hstore hlife ?_ hnow (by rw [hs', remove_requests]; exact .same)
      rw [hs', remove_timers]
      obtain ⟨before, after, hbefore, hafter⟩ := Parties.eraseIdx_split hi
      show (s.timers.eraseIdx i).filter _ = _
      rw [hbefore, hafter, List.filter_append, List.filter_append,
        List.filter_cons_of_neg (by simpa using hkey)]

theorem count_others {p : RequestPhase → Bool} (hget : p .get = false)
    (hrequests : OthersMove key s.requests s'.requests) :
    s'.count key p = s.count key p := by
  unfold count
  generalize s'.requests = requests' at hrequests
  cases hrequests with
  | same => rfl
  | request key' =>
    rw [Parties.tally_snoc, hget]
    simp
  | handled i key' phase phase' hne hi => exact Parties.tally_move_ne hi hne p phase'

theorem count_remove (r : RateLimited) (key key' : String) (p : RequestPhase → Bool) :
    (r.remove key').count key p = r.count key p := by
  unfold count
  rw [remove_requests]

/-- Requests that a step does not concern. -/
theorem mem_of_others {phase : RequestPhase} (hget : phase ≠ .get)
    (hrequests : OthersMove key s.requests s'.requests)
    (hmem : (key, phase) ∈ s'.requests) : (key, phase) ∈ s.requests := by
  generalize s'.requests = requests' at hrequests hmem
  cases hrequests with
  | same => exact hmem
  | request key' =>
    rcases List.mem_append.mp hmem with hmem | hmem
    · exact hmem
    · exact absurd (Prod.mk.inj (List.mem_singleton.mp hmem)).2 hget
  | handled i key' old new hne hi =>
    rcases List.mem_or_eq_of_mem_set hmem with hmem | heq
    · exact hmem
    · exact absurd (Prod.mk.inj heq).1.symm hne

end RateLimited

end Lndhubx
