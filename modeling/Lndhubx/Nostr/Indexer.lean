import Lndhubx.Nostr.Engine
import Lndhubx.Lib.Trace

/-!
# The indexer of historical profiles

`spawn_profile_indexer` and `store_last_check` of `nostr_engine/src/lib.rs`, and the
start of the indexer in `main.rs`. The task asks for one hour of profiles after the
other, up to the time the clock reads; five seconds after each it stores where the
hour began, and goes on after the hour. Once there it subscribes to what comes, anew
every hour. A process that is stopped and started again goes on from what was stored.

`ProfileIndexer` is the database, the task of the running process and what was asked
of the relays so far. A subscription is live until its process is stopped: what came up
to then was served (`served`), what comes after needs the next process, which asks for
ranges from the stored second on and has to subscribe anew.

What is asked for has no gap as long as, in every process, each range starts where the
last one that was sent ended (`askedUpTo`), and the first subscription does
(`IndexerGuard`). The code does not see to that: a range that could not be sent is not
asked for again, and one that was cut short by the clock is followed by the next full
hour, or by a subscription that starts after the five seconds.
-/

namespace Lndhubx

def SECONDS_IN_HOUR : UInt64 := 3600

/-- Where the indexer starts: at what was stored, or at 2021-01-01 00:00:00. -/
def indexerStart (lastCheck : Option Int64) : UInt64 :=
  match lastCheck with
  | some last => last.toUInt64
  | none => 1609459200

/-- Where the task of the indexer is. -/
inductive IndexerPhase where
  | stopped
  | indexing (rangeSince : UInt64)
  /-- A range was asked for, and its start is not stored yet. -/
  | asked (rangeSince rangeUntil : UInt64)
  | caughtUp
  | subscribed (since : UInt64)

/-- One database and the process that works on it, with what all processes sent so far. -/
structure ProfileIndexer where
  lastCheck : Option Int64
  phase : IndexerPhase
  /-- The last reading of the clock, in milliseconds. -/
  clock : UInt64
  /-- What was sent to the engine, by any process. -/
  requests : List InternalNostrProfileRequest
  /-- Those of the running process, which end with it. -/
  subscriptions : List InternalNostrProfileRequest
  /-- From where a process subscribed to where it was stopped, in seconds. -/
  served : List (Nat × Nat)
  /-- The second after the last range this process has sent, or the one it started at. -/
  askedUpTo : Nat

/-- What happens to the indexer, with what the clock shows and which calls succeed. -/
inductive IndexerEvent where
  | start
  | round (now : UInt64) (sent : Bool)
  | store (stored : Bool)
  | subscribe (now : UInt64)
  | stop (now : UInt64)

namespace ProfileIndexer

/-- A database before the first process. -/
def new (lastCheck : Option Int64) (clock : UInt64) : ProfileIndexer :=
  ⟨lastCheck, .stopped, clock, [], [], [], 0⟩

/-- Where the first subscription of the running process starts. -/
def subscribedSince (s : ProfileIndexer) : Option Nat :=
  s.subscriptions.head?.bind (·.since)

/-- `store_last_check` -/
def storeLastCheck (s : ProfileIndexer) (lastCheck : UInt64) (stored : Bool) : ProfileIndexer :=
  if stored then { s with lastCheck := some lastCheck.toInt64 } else s

/-- The range of a round, cut off at the time. -/
def rangeRequest (rangeSince rangeUntilCapped : UInt64) : InternalNostrProfileRequest :=
  ⟨none, some rangeSince.toNat, some rangeUntilCapped.toNat, none⟩

/-- A round of the first loop, up to the sleep: out of the loop, or one more range. -/
def round (s : ProfileIndexer) (rangeSince now : UInt64) (sent : Bool) : ProfileIndexer :=
  let timeNow := now / 1000
  if rangeSince ≥ timeNow then { s with clock := now, phase := .caughtUp }
  else
    let rangeUntil := rangeSince + SECONDS_IN_HOUR
    let rangeUntilCapped := min rangeUntil timeNow
    let s := { s with clock := now, phase := .asked rangeSince rangeUntil }
    if sent then
      { s with
        requests := s.requests ++ [rangeRequest rangeSince rangeUntilCapped]
        askedUpTo := rangeUntilCapped.toNat + 1 }
    else s

/-- The subscriptions of a process end with it. -/
def stop (s : ProfileIndexer) (now : UInt64) : ProfileIndexer :=
  { s with
    clock := now
    phase := .stopped
    subscriptions := []
    served := s.served ++
      (s.subscribedSince.map fun since => (since, (now / 1000).toNat)).toList }

/-- One event; the clock does not go back. -/
def step (s : ProfileIndexer) : IndexerEvent → Option ProfileIndexer
  | .start =>
    match s.phase with
    | .stopped => some
      { s with
        phase := .indexing (indexerStart s.lastCheck)
        askedUpTo := (indexerStart s.lastCheck).toNat }
    | _ => none
  | .round now sent =>
    match s.phase with
    | .indexing rangeSince => if s.clock ≤ now then some (s.round rangeSince now sent) else none
    | _ => none
  | .store stored =>
    match s.phase with
    -- the next range starts after the full hour, cut off or not
    | .asked rangeSince rangeUntil =>
      some { s.storeLastCheck rangeSince stored with phase := .indexing rangeUntil }
    | .subscribed since => some { s.storeLastCheck since stored with phase := .caughtUp }
    | _ => none
  | .subscribe now =>
    match s.phase with
    | .caughtUp =>
      if s.clock ≤ now then some
        { s with
          clock := now
          phase := .subscribed (now / 1000)
          subscriptions := s.subscriptions ++ [⟨none, some (now / 1000).toNat, none, none⟩] }
      else none
    | _ => none
  | .stop now => if s.clock ≤ now then some (s.stop now) else none

end ProfileIndexer

/-- Any number of processes, one after the other, on one database. -/
abbrev IndexerRun : ProfileIndexer → List IndexerEvent → ProfileIndexer → Prop :=
  Trace fun s e s' => s.step e = some s'

/-! ## What is covered -/

/-- The second lies in what the request asks for. -/
def InternalNostrProfileRequest.Covers (r : InternalNostrProfileRequest) (second : Nat) : Prop :=
  (∃ since, r.since = some since ∧ since ≤ second) ∧ ∀ u, r.until = some u → second ≤ u

namespace ProfileIndexer

/-- A range that was sent has the second, or it came while an earlier process was
subscribed. -/
def Recorded (s : ProfileIndexer) (second : Nat) : Prop :=
  (∃ r ∈ s.requests, r.Covers second) ∨ ∃ span ∈ s.served, span.1 ≤ second ∧ second < span.2

/-- The second is recorded, or it lies in the first live subscription, that of the running
process. -/
def Covered (s : ProfileIndexer) (second : Nat) : Prop :=
  s.Recorded second ∨ ∃ r, s.subscriptions.head? = some r ∧ r.Covers second

end ProfileIndexer

/-- No gap: a range starts where the last one sent by the process has ended, and so does
its first subscription. -/
def IndexerGuard (s : ProfileIndexer) : IndexerEvent → Prop
  | .round now _ => ∀ rangeSince, s.phase = .indexing rangeSince → rangeSince < now / 1000 →
      rangeSince.toNat ≤ s.askedUpTo
  | .subscribe now => s.subscriptions = [] → (now / 1000).toNat ≤ s.askedUpTo
  | _ => True

namespace ProfileIndexer

variable {s s' : ProfileIndexer} {second : Nat}

/-- The second is recorded, or the running process was subscribed when it came: nothing
that happens later can change that. -/
def Kept (s : ProfileIndexer) (second : Nat) : Prop :=
  s.Recorded second ∨
    ∃ since, s.subscribedSince = some since ∧ since ≤ second ∧ second < (s.clock / 1000).toNat

/-- A later reading is not an earlier second. -/
theorem seconds_mono {a b : UInt64} (h : a ≤ b) : (a / 1000).toNat ≤ (b / 1000).toNat := by
  rw [UInt64.toNat_div, UInt64.toNat_div]
  exact Nat.div_le_div_right (UInt64.le_iff_toNat_le.mp h)

/-- What was sent or served stays so. -/
theorem Recorded.mono (h : s.Recorded second) (hreq : s.requests ⊆ s'.requests)
    (hserved : s.served ⊆ s'.served) : s'.Recorded second := by
  rcases h with ⟨r, hr, hcovers⟩ | ⟨span, hspan, hin⟩
  · exact .inl ⟨r, hreq hr, hcovers⟩
  · exact .inr ⟨span, hserved hspan, hin⟩

/-- While the process runs: more is asked for, and it stays subscribed. -/
theorem Kept.mono (h : s.Kept second) (hreq : s.requests ⊆ s'.requests)
    (hserved : s'.served = s.served)
    (hsub : ∀ since, s.subscribedSince = some since → s'.subscribedSince = some since)
    (hclock : s.clock ≤ s'.clock) : s'.Kept second := by
  rcases h with h | ⟨since, hsince, hle, hlt⟩
  · exact .inl (h.mono hreq (by rw [hserved]; exact List.Subset.refl _))
  · exact .inr ⟨since, hsub since hsince, hle, hlt.trans_le (seconds_mono hclock)⟩

/-- When the process is stopped, it was subscribed up to then. -/
theorem Kept.stop {now : UInt64} (h : s.Kept second) (hclock : s.clock ≤ now) :
    (s.stop now).Kept second := by
  rcases h with h | ⟨since, hsince, hle, hlt⟩
  · exact .inl (h.mono (List.Subset.refl _) (List.subset_append_left _ _))
  · refine .inl (.inr ⟨(since, (now / 1000).toNat), ?_, hle, hlt.trans_le (seconds_mono hclock)⟩)
    unfold ProfileIndexer.stop
    rw [hsince]
    exact List.mem_append_right _ (List.mem_singleton.mpr rfl)

/-- All but the subscription of the running process is recorded. -/
theorem Covered.of_kept (h : s.Kept second)
    (hopen : ∀ r ∈ s.subscriptions, r.until = none) : s.Covered second := by
  rcases h with h | ⟨since, hsince, hle, -⟩
  · exact .inl h
  · obtain ⟨r, hr, hrs⟩ := Option.bind_eq_some_iff.mp hsince
    refine .inr ⟨r, hr, ⟨since, hrs, hle⟩, fun u hu => ?_⟩
    rw [hopen r (List.mem_of_mem_head? hr)] at hu
    exact absurd hu (by simp)

/-- `first` is where the first process started. What lies before the stored second, the
last range and the first subscription of the running process is kept. -/
structure Gapless (first : Nat) (s : ProfileIndexer) : Prop where
  stored : ∀ x, first ≤ x → x < (indexerStart s.lastCheck).toNat → s.Kept x
  asked : ∀ x, first ≤ x → x < s.askedUpTo → s.Kept x
  range : ∀ since u, s.phase = .asked since u → ∀ x, first ≤ x → x < since.toNat → s.Kept x
  subscribed : ∀ since, s.phase = .subscribed since →
    s.subscriptions ≠ [] ∧ since.toNat ≤ (s.clock / 1000).toNat
  live : ∀ since, s.subscribedSince = some since → ∀ x, first ≤ x → x < since → s.Kept x
  unbounded : ∀ r ∈ s.subscriptions, r.until = none ∧ ∃ since, r.since = some since

/-- At the first start nothing is due. -/
theorem gapless_new (lastCheck : Option Int64) (clock : UInt64) :
    Gapless (indexerStart lastCheck).toNat (new lastCheck clock) where
  stored _ hx hlt := absurd hlt (not_lt.mpr hx)
  asked _ _ hlt := absurd hlt (Nat.not_lt_zero _)
  range _ _ h := nomatch h
  subscribed _ h := nomatch h
  live _ h := nomatch h
  unbounded _ h := absurd h List.not_mem_nil

/-- A subscription says where it starts. -/
theorem Gapless.exists_since {first : Nat} (h : Gapless first s) (hlive : s.subscriptions ≠ []) :
    ∃ r since, s.subscriptions.head? = some r ∧ r.since = some since ∧
      s.subscribedSince = some since := by
  obtain ⟨r, rest, hsub⟩ := List.exists_cons_of_ne_nil hlive
  have hhead : s.subscriptions.head? = some r := by rw [hsub]; rfl
  obtain ⟨-, since, hsince⟩ := h.unbounded r (List.mem_of_mem_head? hhead)
  refine ⟨r, since, hhead, hsince, ?_⟩
  unfold subscribedSince
  rw [hhead]
  exact hsince

/-- While the process is subscribed, all that has come is kept. -/
theorem Gapless.kept_of_live {first x : Nat} (h : Gapless first s) (hlive : s.subscriptions ≠ [])
    (hx : first ≤ x) (hlt : x < (s.clock / 1000).toNat) : s.Kept x := by
  obtain ⟨r, since, -, -, hsince⟩ := h.exists_since hlive
  by_cases hbefore : x < since
  · exact h.live since hsince x hx hbefore
  · exact .inr ⟨since, hsince, not_lt.mp hbefore, hlt⟩

/-- And all that is to come is covered. -/
theorem Gapless.covered {first x : Nat} (h : Gapless first s) (hlive : s.subscriptions ≠ [])
    (hx : first ≤ x) : s.Covered x := by
  obtain ⟨r, since, hhead, hr, hsince⟩ := h.exists_since hlive
  by_cases hbefore : x < since
  · exact .of_kept (h.live since hsince x hx hbefore) fun r hr => (h.unbounded r hr).1
  · refine .inr ⟨r, hhead, ⟨since, hr, not_lt.mp hbefore⟩, fun u hu => ?_⟩
    rw [(h.unbounded r (List.mem_of_mem_head? hhead)).1] at hu
    exact absurd hu (by simp)

/-- A step after which what was kept still is, and that does not subscribe. -/
theorem Gapless.move {first : Nat} (h : Gapless first s)
    (hmono : ∀ x, s.Kept x → s'.Kept x)
    (hstored : ∀ x, first ≤ x → x < (indexerStart s'.lastCheck).toNat → s.Kept x)
    (hasked : ∀ x, first ≤ x → x < s'.askedUpTo → s'.Kept x)
    (hrange : ∀ since u, s'.phase = .asked since u → ∀ x, first ≤ x → x < since.toNat → s.Kept x)
    (hphase : ∀ since, s'.phase ≠ .subscribed since)
    (hsub : s'.subscriptions = s.subscriptions ∨ s'.subscriptions = []) : Gapless first s' where
  stored x hx hlt := hmono x (hstored x hx hlt)
  asked := hasked
  range since u hp x hx hlt := hmono x (hrange since u hp x hx hlt)
  subscribed since hp := absurd hp (hphase since)
  live since hsince x hx hlt := by
    unfold subscribedSince at hsince
    rcases hsub with hsub | hsub
    · rw [hsub] at hsince
      exact hmono x (h.live since hsince x hx hlt)
    · rw [hsub] at hsince
      exact absurd hsince (by simp)
  unbounded r hr := by
    rcases hsub with hsub | hsub
    · rw [hsub] at hr
      exact h.unbounded r hr
    · rw [hsub] at hr
      exact absurd hr List.not_mem_nil

/-- A round of the loop sends the range that is due, loses it, or ends the loop. -/
theorem Gapless.round {first : Nat} {rangeSince now : UInt64} {sent : Bool} (h : Gapless first s)
    (hclock : s.clock ≤ now)
    (hguard : rangeSince < now / 1000 → rangeSince.toNat ≤ s.askedUpTo) :
    Gapless first (s.round rangeSince now sent) := by
  unfold ProfileIndexer.round
  by_cases hend : rangeSince ≥ now / 1000
  · simp only [hend, if_true]
    have hmono : ∀ x, s.Kept x → Kept { s with clock := now, phase := .caughtUp } x :=
      fun x hx => hx.mono (List.Subset.refl _) rfl (fun _ hs => hs) hclock
    exact h.move hmono h.stored (fun x hx hlt => hmono x (h.asked x hx hlt)) (by simp) (by simp)
      (.inl rfl)
  simp only [hend, if_false]
  have hstart : rangeSince.toNat ≤ s.askedUpTo := hguard (UInt64.not_le.mp hend)
  have hbefore : ∀ x, first ≤ x → x < rangeSince.toNat → s.Kept x := by
    intro x hx hlt
    exact h.asked x hx (by omega)
  -- the range that the process is at starts where what is kept ends
  have hrange : ∀ since u, IndexerPhase.asked rangeSince (rangeSince + SECONDS_IN_HOUR) =
      .asked since u → ∀ x, first ≤ x → x < since.toNat → s.Kept x := by
    intro since u hp x hx hlt
    injection hp with hp
    exact hbefore x hx (hp ▸ hlt)
  cases sent with
  | false =>
    -- the range is lost, and the next one has to wait for a new process
    have hmono : ∀ x, s.Kept x → Kept { s with
        clock := now
        phase := .asked rangeSince (rangeSince + SECONDS_IN_HOUR) } x :=
      fun x hx => hx.mono (List.Subset.refl _) rfl (fun _ hs => hs) hclock
    exact h.move hmono h.stored (fun x hx hlt => hmono x (h.asked x hx hlt)) hrange (by simp)
      (.inl rfl)
  | true =>
    simp only [if_true]
    generalize hcap : min (rangeSince + SECONDS_IN_HOUR) (now / 1000) = rangeUntilCapped
    have hmono : ∀ x, s.Kept x → Kept { s with
        clock := now
        phase := .asked rangeSince (rangeSince + SECONDS_IN_HOUR)
        requests := s.requests ++ [rangeRequest rangeSince rangeUntilCapped]
        askedUpTo := rangeUntilCapped.toNat + 1 } x :=
      fun x hx => hx.mono (List.subset_append_left _ _) rfl (fun _ hs => hs) hclock
    refine h.move hmono h.stored ?_ hrange (by simp) (.inl rfl)
    intro x hx hlt
    by_cases hasked : x < s.askedUpTo
    · exact hmono x (h.asked x hx hasked)
    · -- what is new lies in the range
      refine .inl (.inl
        ⟨_, List.mem_append_right _ (List.mem_singleton.mpr rfl), ⟨_, rfl, ?_⟩, ?_⟩)
      · omega
      · intro u hu
        rw [← Option.some.inj hu]
        exact Nat.le_of_lt_succ hlt

/-- A subscription that starts where the ranges end. -/
theorem Gapless.subscribe {first : Nat} {now : UInt64} (h : Gapless first s)
    (hclock : s.clock ≤ now) (hguard : s.subscriptions = [] → (now / 1000).toNat ≤ s.askedUpTo) :
    Gapless first { s with
      clock := now
      phase := .subscribed (now / 1000)
      subscriptions := s.subscriptions ++ [⟨none, some (now / 1000).toNat, none, none⟩] } := by
  have hmono : ∀ x, s.Kept x → Kept { s with
      clock := now
      phase := .subscribed (now / 1000)
      subscriptions := s.subscriptions ++ [⟨none, some (now / 1000).toNat, none, none⟩] } x := by
    intro x hx
    refine hx.mono (List.Subset.refl _) rfl (fun since hs => ?_) hclock
    obtain ⟨r, hr, hrs⟩ := Option.bind_eq_some_iff.mp hs
    unfold subscribedSince
    rw [List.head?_append, hr]
    exact hrs
  refine ⟨fun x hx hlt => hmono x (h.stored x hx hlt), fun x hx hlt => hmono x (h.asked x hx hlt),
    by simp, ?_, ?_, ?_⟩
  · intro since hp
    injection hp with hp
    rw [← hp]
    exact ⟨by simp, le_rfl⟩
  · intro since hsince x hx hlt
    by_cases hlive : s.subscriptions = []
    · -- the first one starts where the ranges end
      have hfirst : (now / 1000).toNat = since := by
        unfold subscribedSince at hsince
        rw [hlive] at hsince
        exact Option.some.inj hsince
      have hle := hguard hlive
      exact hmono x (h.asked x hx (by omega))
    · obtain ⟨r, since', hhead, hr, hold⟩ := h.exists_since hlive
      have hsame : since' = since := by
        unfold subscribedSince at hsince
        rw [List.head?_append, hhead] at hsince
        exact Option.some.inj (hr.symm.trans hsince)
      exact hmono x (h.live since' hold x hx (by omega))
  · intro r hr
    rcases List.mem_append.mp hr with hr | hr
    · exact h.unbounded r hr
    · rw [List.mem_singleton.mp hr]
      exact ⟨rfl, _, rfl⟩

/-- What is before the stored second is kept, so a new process may start there. -/
theorem Gapless.store {first : Nat} {since : UInt64} {stored : Bool} {phase : IndexerPhase}
    (h : Gapless first s) (hsince : ∀ x, first ≤ x → x < since.toNat → s.Kept x)
    (hrange : ∀ a b, phase ≠ .asked a b) (hphase : ∀ a, phase ≠ .subscribed a) :
    Gapless first { s.storeLastCheck since stored with phase } := by
  have hmono : ∀ x, s.Kept x → Kept { s.storeLastCheck since stored with phase } x := by
    intro x hx
    unfold storeLastCheck
    cases stored <;> exact hx
  refine h.move hmono ?_ ?_ (fun a b hp => absurd hp (hrange a b)) hphase ?_
  · unfold storeLastCheck
    cases stored with
    | false => exact h.stored
    | true => exact hsince
  · intro x hx hlt
    refine hmono x (h.asked x hx ?_)
    unfold storeLastCheck at hlt
    cases stored <;> exact hlt
  · unfold storeLastCheck
    cases stored <;> exact .inl rfl

/-- A step that leaves no gap keeps that there is none. -/
theorem Gapless.step {first : Nat} {e : IndexerEvent} (h : Gapless first s)
    (hguard : IndexerGuard s e) (hstep : s.step e = some s') : Gapless first s' := by
  cases e with
  | start =>
    simp only [ProfileIndexer.step] at hstep
    split at hstep
    next =>
      rw [← Option.some.inj hstep]
      exact h.move (fun _ hx => hx) h.stored h.stored (by simp) (by simp) (.inl rfl)
    next => exact absurd hstep (by simp)
  | round now sent =>
    simp only [ProfileIndexer.step] at hstep
    split at hstep
    next rangeSince hphase =>
      split at hstep
      next hclock =>
        rw [← Option.some.inj hstep]
        exact h.round hclock (hguard rangeSince hphase)
      next => exact absurd hstep (by simp)
    next => exact absurd hstep (by simp)
  | store stored =>
    simp only [ProfileIndexer.step] at hstep
    split at hstep
    next rangeSince rangeUntil hphase =>
      rw [← Option.some.inj hstep]
      exact h.store (h.range rangeSince rangeUntil hphase) (by simp) (by simp)
    next since hphase =>
      rw [← Option.some.inj hstep]
      obtain ⟨hlive, hle⟩ := h.subscribed since hphase
      exact h.store (fun x hx hlt => h.kept_of_live hlive hx (hlt.trans_le hle)) (by simp)
        (by simp)
    next => exact absurd hstep (by simp)
  | subscribe now =>
    simp only [ProfileIndexer.step] at hstep
    split at hstep
    next =>
      split at hstep
      next hclock =>
        rw [← Option.some.inj hstep]
        exact h.subscribe hclock hguard
      next => exact absurd hstep (by simp)
    next => exact absurd hstep (by simp)
  | stop now =>
    simp only [ProfileIndexer.step] at hstep
    split at hstep
    next hclock =>
      rw [← Option.some.inj hstep]
      have hmono : ∀ x, s.Kept x → (s.stop now).Kept x := fun x hx => hx.stop hclock
      exact h.move hmono h.stored (fun x hx hlt => hmono x (h.asked x hx hlt)) (by simp [stop])
        (by simp [stop]) (.inr rfl)
    next => exact absurd hstep (by simp)

end ProfileIndexer

/-- In every run of any number of processes whose steps leave no gap, once the running
process has a live subscription, every second from where the first process started lies in
a range that was sent, in the time an earlier process was subscribed, or after the start of
the first subscription of the running one. -/
theorem indexed_without_gaps_of_run {lastCheck : Option Int64} {clock : UInt64}
    {es : List IndexerEvent} {s : ProfileIndexer}
    (hrun : Trace (fun s e s' => IndexerGuard s e ∧ s.step e = some s') (.new lastCheck clock) es s)
    (hlive : s.subscriptions ≠ []) :
    ∀ second, (indexerStart lastCheck).toNat ≤ second → s.Covered second := by
  have hinv := hrun.invariant (I := ProfileIndexer.Gapless (indexerStart lastCheck).toNat)
    (fun s e s' _ hs hstep => hs.step hstep.1 hstep.2) (ProfileIndexer.gapless_new lastCheck clock)
  exact fun second hsecond => hinv.covered hlive hsecond

namespace Sample

/-- A reading, in seconds after the default start. -/
def clockAt (seconds : UInt64) : UInt64 := (1609459200 + seconds) * 1000

end Sample

/-- A range that starts in time. -/
theorem IndexerGuard.round {s : ProfileIndexer} {rangeSince now : UInt64} {sent : Bool}
    (hphase : s.phase = .indexing rangeSince) (h : rangeSince.toNat ≤ s.askedUpTo) :
    IndexerGuard s (.round now sent) := by
  intro since hsince _
  rw [hphase] at hsince
  injection hsince with hsince
  rw [← hsince]
  exact h

/-- The process is stopped while it is subscribed, and the next one asks for what came
since the second that was stored, the start of the subscription. -/
theorem indexed_after_restart : ∃ s : ProfileIndexer,
    Trace (fun s e s' => IndexerGuard s e ∧ s.step e = some s') (.new none 0)
      [.start, .round (Sample.clockAt 3600) true, .store true, .round (Sample.clockAt 3600) true,
        .subscribe (Sample.clockAt 3601), .store true, .stop (Sample.clockAt 7200), .start,
        .round (Sample.clockAt 7201) true, .store true, .round (Sample.clockAt 7201) true,
        .subscribe (Sample.clockAt 7202)] s ∧
    s.requests.length = 2 ∧ ∀ second, 1609459200 ≤ second → s.Covered second := by
  have hrun : Trace (fun s e s' => IndexerGuard s e ∧ s.step e = some s') (.new none 0)
      [.start, .round (Sample.clockAt 3600) true, .store true, .round (Sample.clockAt 3600) true,
        .subscribe (Sample.clockAt 3601), .store true, .stop (Sample.clockAt 7200), .start,
        .round (Sample.clockAt 7201) true, .store true, .round (Sample.clockAt 7201) true,
        .subscribe (Sample.clockAt 7202)] _ :=
    ((((((((((((Trace.nil _).snoc ⟨trivial, rfl⟩).snoc ⟨.round rfl (by decide), rfl⟩).snoc
      ⟨trivial, rfl⟩).snoc ⟨.round rfl (by decide), rfl⟩).snoc ⟨fun _ => by decide, rfl⟩).snoc
      ⟨trivial, rfl⟩).snoc ⟨trivial, rfl⟩).snoc ⟨trivial, rfl⟩).snoc
      ⟨.round rfl (by decide), rfl⟩).snoc ⟨trivial, rfl⟩).snoc
      ⟨.round rfl (by decide), rfl⟩).snoc ⟨fun _ => by decide, rfl⟩
  exact ⟨_, hrun, rfl, indexed_without_gaps_of_run hrun (by simp)⟩

/-- All is sent and all is stored, but between the end of the last range and the start
of the subscription lie five seconds, of which four are not asked for. -/
theorem gap_while_sleeping : ∃ s : ProfileIndexer,
    IndexerRun (.new none 0)
      [.start, .round (Sample.clockAt 10) true, .store true, .round (Sample.clockAt 15) true,
        .subscribe (Sample.clockAt 15)] s ∧
    s.subscriptions ≠ [] ∧ (indexerStart none).toNat ≤ 1609459212 ∧ ¬s.Covered 1609459212 := by
  refine ⟨_, (((((Trace.nil _).snoc rfl).snoc rfl).snoc rfl).snoc rfl).snoc rfl, by simp,
    by decide, ?_⟩
  intro hcovered
  rcases hcovered with (⟨r, hr, hcovers⟩ | ⟨span, hspan, -⟩) | ⟨r, hr, hcovers⟩
  · -- the range ends two seconds before
    obtain rfl := List.mem_singleton.mp hr
    have hend := hcovers.2 _ rfl
    exact absurd hend (by decide)
  · exact absurd hspan List.not_mem_nil
  · obtain ⟨since, hsince, hle⟩ := hcovers.1
    rw [← Option.some.inj hr] at hsince
    rw [← Option.some.inj hsince] at hle
    exact absurd hle (by decide)

end Lndhubx
