import Lndhubx.Msgs
import Mathlib.Data.List.Chain

/-!
# The timer of the recurring buys

`dca_task` of `bank/src/dca.rs`. Each interval has a time stamp, a multiple of its
length. A pass of the loop reads the clock, and for each interval whose time stamp is
in the past it reads the clock again, moves the time stamp to the next multiple after
the second reading, and asks the bank to buy for that interval.

Between two readings less than half an interval passes, so from the reading that had
not passed the time stamp to the second one that sets the next, less than an interval
does: the time stamp moves by one length exactly (`getNextTimestamp_after`), and no
multiple is skipped or served twice (`dca_fires_once`).

The product in `get_next_timestamp` wraps: it is the next multiple as long as there is
one below `2 ^ 64`.
-/

namespace Lndhubx

structure DcaInterval where
  name : String
  nextTimeStamp : UInt64
  durationInMillis : UInt64
  deriving DecidableEq

/-- `get_next_timestamp`, at what its clock reads. -/
def getNextTimestamp (now millis : UInt64) : UInt64 := (now / millis + 1) * millis

def dcaIntervals : List (String × UInt64) :=
  [("1d", 86400000), ("1w", 604800000), ("1m", 2419200000)]

/-- One interval in one pass that has read `now`; `later` is the second reading. -/
def DcaInterval.poll (interval : DcaInterval) (now later : UInt64) :
    DcaInterval × Option DcaRebalance :=
  if interval.nextTimeStamp < now then
    ({ interval with nextTimeStamp := getNextTimestamp later interval.durationInMillis },
      some ⟨interval.name⟩)
  else (interval, none)

/-- A pass of the loop: its reading, and the second one for the interval in each place. -/
structure DcaPass where
  now : UInt64
  later : Nat → UInt64

/-- The intervals, and what was sent to the bank. -/
structure DcaTask where
  intervals : List DcaInterval
  sent : List DcaRebalance

namespace DcaTask

/-- Before the loop. -/
def new (intervals : List (String × UInt64)) (start : Nat → UInt64) : DcaTask where
  intervals := intervals.mapIdx fun i interval =>
    ⟨interval.1, getNextTimestamp (start i) interval.2, interval.2⟩
  sent := []

def pass (task : DcaTask) (p : DcaPass) : DcaTask where
  intervals := task.intervals.mapIdx fun i interval => (interval.poll p.now (p.later i)).1
  sent := task.sent ++
    (task.intervals.mapIdx fun i interval => (interval.poll p.now (p.later i)).2).filterMap id

/-- The loop. -/
def run (task : DcaTask) (passes : List DcaPass) : DcaTask := passes.foldl pass task

end DcaTask

/-! ## One interval -/

/-- A time stamp that was passed, and the two readings. -/
structure Firing where
  timeStamp : UInt64
  now : UInt64
  later : UInt64
  deriving DecidableEq

namespace DcaInterval

/-- What an interval does in the passes of the loop, of which it is given its two readings. -/
def firings : DcaInterval → List (UInt64 × UInt64) → List Firing
  | _, [] => []
  | interval, (now, later) :: ps =>
    if interval.nextTimeStamp < now then
      ⟨interval.nextTimeStamp, now, later⟩ :: (interval.poll now later).1.firings ps
    else interval.firings ps

/-- The readings of the clock: one in each pass, and one for each new time stamp. -/
def readings : DcaInterval → List (UInt64 × UInt64) → List UInt64
  | _, [] => []
  | interval, (now, later) :: ps =>
    if interval.nextTimeStamp < now then now :: later :: (interval.poll now later).1.readings ps
    else now :: interval.readings ps

def after (interval : DcaInterval) (ps : List (UInt64 × UInt64)) : DcaInterval :=
  ps.foldl (fun interval p => (interval.poll p.1 p.2).1) interval

variable {interval : DcaInterval} {now later : UInt64} {ps : List (UInt64 × UInt64)}

theorem poll_due (h : interval.nextTimeStamp < now) :
    interval.poll now later =
      ({ interval with nextTimeStamp := getNextTimestamp later interval.durationInMillis },
        some ⟨interval.name⟩) := if_pos h

theorem poll_not_due (h : ¬interval.nextTimeStamp < now) :
    interval.poll now later = (interval, none) := if_neg h

@[simp] theorem poll_name : (interval.poll now later).1.name = interval.name := by
  unfold poll
  split <;> rfl

@[simp] theorem poll_durationInMillis :
    (interval.poll now later).1.durationInMillis = interval.durationInMillis := by
  unfold poll
  split <;> rfl

theorem firings_due (h : interval.nextTimeStamp < now) :
    interval.firings ((now, later) :: ps) =
      ⟨interval.nextTimeStamp, now, later⟩ :: (interval.poll now later).1.firings ps := if_pos h

theorem firings_not_due (h : ¬interval.nextTimeStamp < now) :
    interval.firings ((now, later) :: ps) = interval.firings ps := if_neg h

theorem readings_due (h : interval.nextTimeStamp < now) :
    interval.readings ((now, later) :: ps) =
      now :: later :: (interval.poll now later).1.readings ps := if_pos h

theorem readings_not_due (h : ¬interval.nextTimeStamp < now) :
    interval.readings ((now, later) :: ps) = now :: interval.readings ps := if_neg h

end DcaInterval

/-! ## The next multiple -/

/-- The next multiple of `d` after a reading is below `2 ^ 64`. -/
def Fits (d r : UInt64) : Prop := (r.toNat / d.toNat + 1) * d.toNat < 2 ^ 64

instance (d r : UInt64) : Decidable (Fits d r) := inferInstanceAs (Decidable (_ < _))

/-- The clock does not go back, and less than half of `d` passes between two readings. -/
def SteadyClock (d r r' : UInt64) : Prop :=
  r.toNat ≤ r'.toNat ∧ 2 * (r'.toNat - r.toNat) < d.toNat

instance (d r r' : UInt64) : Decidable (SteadyClock d r r') := inferInstanceAs (Decidable (_ ∧ _))

theorem toNat_getNextTimestamp {d r : UInt64} (hd : 0 < d.toNat) (h : Fits d r) :
    (getNextTimestamp r d).toNat = (r.toNat / d.toNat + 1) * d.toNat := by
  unfold Fits at h
  have hone : r.toNat / d.toNat + 1 < 2 ^ 64 := lt_of_le_of_lt (Nat.le_mul_of_pos_right _ hd) h
  unfold getNextTimestamp
  rw [UInt64.toNat_mul, UInt64.toNat_add, UInt64.toNat_div]
  rw [show (1 : UInt64).toNat = 1 from rfl, Nat.mod_eq_of_lt hone, Nat.mod_eq_of_lt h]

theorem getNextTimestamp_dvd {d r : UInt64} (hd : 0 < d.toNat) (h : Fits d r) :
    d.toNat ∣ (getNextTimestamp r d).toNat := by
  rw [toNat_getNextTimestamp hd h]
  exact Nat.dvd_mul_left _ _

theorem lt_getNextTimestamp {d r : UInt64} (hd : 0 < d.toNat) (h : Fits d r) :
    r.toNat < (getNextTimestamp r d).toNat := by
  rw [toNat_getNextTimestamp hd h]
  exact Nat.lt_mul_of_div_lt (Nat.lt_succ_self _) hd

/-- It is the first multiple after the reading. -/
theorem getNextTimestamp_le {d r : UInt64} {b : Nat} (hd : 0 < d.toNat) (h : Fits d r)
    (hdvd : d.toNat ∣ b) (hr : r.toNat < b) : (getNextTimestamp r d).toNat ≤ b := by
  rw [toNat_getNextTimestamp hd h]
  obtain ⟨k, rfl⟩ := hdvd
  rw [Nat.mul_comm d.toNat k] at hr ⊢
  have hk : r.toNat / d.toNat < k := Nat.div_lt_of_lt_mul (by rwa [Nat.mul_comm] at hr)
  exact Nat.mul_le_mul_right _ hk

/-- Of two multiples the larger one is larger by `d` at least. -/
theorem add_le_of_dvd_of_lt {d a b : Nat} (ha : d ∣ a) (hb : d ∣ b) (h : a < b) : a + d ≤ b := by
  obtain ⟨k, rfl⟩ := ha
  obtain ⟨m, rfl⟩ := hb
  have hkm : k < m := Nat.lt_of_mul_lt_mul_left h
  calc d * k + d = d * (k + 1) := by ring
    _ ≤ d * m := Nat.mul_le_mul_left _ hkm

/-- A reading less than `d` after a multiple gives the multiple that follows it. -/
theorem getNextTimestamp_after {d r : UInt64} {b : Nat} (hd : 0 < d.toNat) (h : Fits d r)
    (hdvd : d.toNat ∣ b) (hle : b ≤ r.toNat) (hlt : r.toNat < b + d.toNat) :
    (getNextTimestamp r d).toNat = b + d.toNat := by
  have hlater : b < (getNextTimestamp r d).toNat := lt_of_le_of_lt hle (lt_getNextTimestamp hd h)
  apply le_antisymm
  · exact getNextTimestamp_le hd h (Nat.dvd_add_self_right.mpr hdvd) hlt
  · exact add_le_of_dvd_of_lt hdvd (getNextTimestamp_dvd hd h) hlater

/-! ## The firings of an interval -/

/-- Which time stamps an interval serves from `next` on: each multiple that a pass has
read past, once. -/
structure ServesFrom (d : UInt64) (next : Nat) (ps : List (UInt64 × UInt64))
    (firings : List Firing) : Prop where
  once : ∀ b, d.toNat ∣ b → next ≤ b → (∃ p ∈ ps, b < p.1.toNat) →
    (firings.map (·.timeStamp.toNat)).count b = 1
  only : ∀ f ∈ firings, d.toNat ∣ f.timeStamp.toNat ∧ next ≤ f.timeStamp.toNat ∧
    f.timeStamp < f.now

/-- The induction is on the passes; `last` is the reading before them, which has not
passed the time stamp. -/
theorem DcaInterval.servesFrom {d : UInt64} (hd : 0 < d.toNat) {ps : List (UInt64 × UInt64)}
    {interval : DcaInterval} {last : UInt64} (hduration : interval.durationInMillis = d)
    (hdvd : d.toNat ∣ interval.nextTimeStamp.toNat)
    (hlast : last.toNat ≤ interval.nextTimeStamp.toNat)
    (hsteady : (last :: interval.readings ps).IsChain (SteadyClock d))
    (hfits : ∀ f ∈ interval.firings ps, Fits d f.later) :
    ServesFrom d interval.nextTimeStamp.toNat ps (interval.firings ps) := by
  induction ps generalizing interval last with
  | nil => exact ⟨fun b _ _ h => absurd h (by simp), fun f hf => absurd hf (by simp [firings])⟩
  | cons p ps ih =>
    obtain ⟨now, later⟩ := p
    by_cases hdue : interval.nextTimeStamp < now
    · rw [readings_due hdue, List.isChain_cons_cons, List.isChain_cons_cons] at hsteady
      obtain ⟨hnow, hlater, hrest⟩ := hsteady
      rw [firings_due hdue] at hfits ⊢
      have hdueNat : interval.nextTimeStamp.toNat < now.toNat := UInt64.lt_iff_toNat_lt.mp hdue
      have hfit : Fits d later := hfits _ List.mem_cons_self
      unfold SteadyClock at hnow hlater
      -- twice less than half of `d` has passed since `last`
      have hnext : (getNextTimestamp later d).toNat =
          interval.nextTimeStamp.toNat + d.toNat :=
        getNextTimestamp_after hd hfit hdvd (by omega) (by omega)
      have hpoll : (interval.poll now later).1.nextTimeStamp = getNextTimestamp later d := by
        rw [poll_due hdue, hduration]
      have hserves : ServesFrom d (interval.poll now later).1.nextTimeStamp.toNat ps
          ((interval.poll now later).1.firings ps) := by
        refine ih ?_ ?_ ?_ hrest fun f hf => hfits f (List.mem_cons_of_mem _ hf)
        · rw [poll_durationInMillis, hduration]
        · rw [hpoll]
          exact getNextTimestamp_dvd hd hfit
        · rw [hpoll]
          exact (lt_getNextTimestamp hd hfit).le
      rw [hpoll, hnext] at hserves
      refine ⟨fun b hb hle hpassed => ?_, fun f hf => ?_⟩
      · rw [List.map_cons, List.count_cons]
        by_cases hself : interval.nextTimeStamp.toNat = b
        · -- later firings are for later multiples
          have hnone : ((firings (interval.poll now later).1 ps).map (·.timeStamp.toNat)).count b =
              0 := by
            refine List.count_eq_zero.mpr fun hmem => ?_
            obtain ⟨f, hf, hfb⟩ := List.mem_map.mp hmem
            have hfle := (hserves.only f hf).2.1
            omega
          rw [hnone]
          simp [hself]
        · have hfar : interval.nextTimeStamp.toNat + d.toNat ≤ b :=
            add_le_of_dvd_of_lt hdvd hb (by omega)
          rw [hserves.once b hb hfar ?_]
          · simp [hself]
          · obtain ⟨p, hp, hbp⟩ := hpassed
            rcases List.mem_cons.mp hp with rfl | hp
            · dsimp only at hbp
              omega
            · exact ⟨p, hp, hbp⟩
      · rcases List.mem_cons.mp hf with rfl | hf
        · exact ⟨hdvd, le_refl _, hdue⟩
        · obtain ⟨hfd, hfle, hfnow⟩ := hserves.only f hf
          exact ⟨hfd, by omega, hfnow⟩
    · -- nothing fires, and the reading of this pass has not passed the time stamp
      rw [readings_not_due hdue, List.isChain_cons_cons] at hsteady
      rw [firings_not_due hdue] at hfits ⊢
      have hnot : now.toNat ≤ interval.nextTimeStamp.toNat := by
        rw [UInt64.lt_iff_toNat_lt] at hdue
        omega
      have hserves := ih hduration hdvd hnot hsteady.2 hfits
      refine ⟨fun b hb hle hpassed => hserves.once b hb hle ?_, hserves.only⟩
      obtain ⟨p, hp, hbp⟩ := hpassed
      rcases List.mem_cons.mp hp with rfl | hp
      · dsimp only at hbp
        omega
      · exact ⟨p, hp, hbp⟩

/-- The reading at which the time stamp was set last, if it was set at `start`. -/
def lastSet (start : UInt64) (firings : List Firing) : UInt64 :=
  (firings.map (·.later)).getLastD start

/-- The time stamp is a multiple after the reading at which it was set. -/
structure TimeStampOf (d set : UInt64) (interval : DcaInterval) : Prop where
  duration : interval.durationInMillis = d
  multiple : d.toNat ∣ interval.nextTimeStamp.toNat
  later : set < interval.nextTimeStamp

theorem timeStampOf_getNextTimestamp {d r : UInt64} (hd : 0 < d.toNat) (h : Fits d r)
    (name : String) : TimeStampOf d r ⟨name, getNextTimestamp r d, d⟩ :=
  ⟨rfl, getNextTimestamp_dvd hd h, UInt64.lt_iff_toNat_lt.mpr (lt_getNextTimestamp hd h)⟩

theorem TimeStampOf.after {d : UInt64} (hd : 0 < d.toNat) {ps : List (UInt64 × UInt64)}
    {interval : DcaInterval} {set : UInt64} (h : TimeStampOf d set interval)
    (hfits : ∀ f ∈ interval.firings ps, Fits d f.later) :
    TimeStampOf d (lastSet set (interval.firings ps)) (interval.after ps) := by
  induction ps generalizing interval set with
  | nil => exact h
  | cons p ps ih =>
    obtain ⟨now, later⟩ := p
    by_cases hdue : interval.nextTimeStamp < now
    · rw [DcaInterval.firings_due hdue] at hfits ⊢
      have hset : TimeStampOf d later (interval.poll now later).1 := by
        rw [DcaInterval.poll_due hdue, h.duration]
        exact timeStampOf_getNextTimestamp hd (hfits _ List.mem_cons_self) _
      have hrest := ih hset fun f hf => hfits f (List.mem_cons_of_mem _ hf)
      unfold lastSet at hrest ⊢
      rw [List.map_cons, List.getLastD_cons]
      exact hrest
    · rw [DcaInterval.firings_not_due hdue] at hfits ⊢
      have hsame : (interval.poll now later).1 = interval := by
        rw [DcaInterval.poll_not_due hdue]
      have hrest := ih h hfits
      unfold DcaInterval.after at hrest ⊢
      rw [List.foldl_cons, hsame]
      exact hrest

/-! ## The whole loop -/

/-- The readings of the interval in place `i`. -/
def seen (i : Nat) (passes : List DcaPass) : List (UInt64 × UInt64) :=
  passes.map fun p => (p.now, p.later i)

namespace DcaTask

variable {task : DcaTask} {i : Nat} {interval : DcaInterval} {passes : List DcaPass}

theorem pass_intervals (h : task.intervals[i]? = some interval) (p : DcaPass) :
    (task.pass p).intervals[i]? = some (interval.poll p.now (p.later i)).1 := by
  unfold pass
  rw [List.getElem?_mapIdx, h]
  rfl

theorem pass_names (p : DcaPass) :
    (task.pass p).intervals.map (·.name) = task.intervals.map (·.name) := by
  refine List.ext_getElem? fun i => ?_
  rw [List.getElem?_map, List.getElem?_map]
  unfold pass
  rw [List.getElem?_mapIdx]
  cases task.intervals[i]? with
  | none => rfl
  | some interval => exact congrArg some DcaInterval.poll_name

theorem run_intervals (h : task.intervals[i]? = some interval) :
    (task.run passes).intervals[i]? = some (interval.after (seen i passes)) := by
  induction passes generalizing task interval with
  | nil => exact h
  | cons p passes ih => exact ih (pass_intervals h p)

/-- Of the intervals with their different names, the one in place `i` sends what is sent
under its name. -/
theorem countP_sent {l : List DcaInterval} (hnames : (l.map (·.name)).Nodup) {i : Nat}
    {x : DcaInterval} (hx : l[i]? = some x) {f : Nat → DcaInterval → Option DcaRebalance}
    (hf : ∀ j y, f j y = none ∨ f j y = some ⟨y.name⟩) :
    ((l.mapIdx f).filterMap id).countP (·.intervalName = x.name) =
      if (f i x).isSome then 1 else 0 := by
  have hother : ∀ {l : List DcaInterval} {f : Nat → DcaInterval → Option DcaRebalance},
      (∀ j y, f j y = none ∨ f j y = some ⟨y.name⟩) → x.name ∉ l.map (·.name) →
      ((l.mapIdx f).filterMap id).countP (·.intervalName = x.name) = 0 := by
    intro l f hf hnot
    refine List.countP_eq_zero.mpr fun m hm => ?_
    obtain ⟨o, ho, hm⟩ := List.mem_filterMap.mp hm
    obtain ⟨j, hj, rfl⟩ := List.mem_mapIdx.mp ho
    have hm : f j l[j] = some m := hm
    rcases hf j l[j] with hnone | hsome
    · rw [hnone] at hm
      exact absurd hm (by simp)
    · rw [hsome] at hm
      rw [← Option.some.inj hm, decide_eq_true_eq]
      intro hname
      exact hnot (hname ▸ List.mem_map_of_mem (List.getElem_mem hj))
  -- the place moves with the list, so each interval is the first of its rest once
  induction l generalizing i f with
  | nil => exact absurd hx (by simp)
  | cons y l ih =>
    obtain ⟨hy, hnames⟩ := List.nodup_cons.mp hnames
    rw [List.mapIdx_cons]
    cases i with
    | zero =>
      obtain rfl : y = x := by simpa using hx
      have hrest := hother (fun j y => hf (j + 1) y) hy
      rcases hf 0 y with hnone | hsome
      · rw [hnone, List.filterMap_cons_none rfl, hrest]
        rfl
      · rw [hsome, List.filterMap_cons_some (f := id) rfl, List.countP_cons_of_pos (by simp), hrest]
        rfl
    | succ i =>
      have hmem : x ∈ l := List.mem_of_getElem? hx
      have hne : y.name ≠ x.name := by
        intro h
        exact hy (List.mem_map.mpr ⟨x, hmem, h.symm⟩)
      have hrest := ih hnames hx fun j y => hf (j + 1) y
      rcases hf 0 y with hnone | hsome
      · rw [hnone, List.filterMap_cons_none rfl, hrest]
      · rw [hsome, List.filterMap_cons_some (f := id) rfl, List.countP_cons_of_neg (by simp [hne]),
          hrest]

/-- Each firing of an interval is one message under its name. -/
theorem run_sent (hnames : (task.intervals.map (·.name)).Nodup)
    (h : task.intervals[i]? = some interval) :
    (task.run passes).sent.countP (·.intervalName = interval.name) =
      task.sent.countP (·.intervalName = interval.name) +
        (interval.firings (seen i passes)).length := by
  induction passes generalizing task interval with
  | nil => rfl
  | cons p passes ih =>
    have hrest := ih (by rw [pass_names]; exact hnames) (pass_intervals h p)
    have hone := countP_sent hnames h
      (f := fun i interval => (interval.poll p.now (p.later i)).2) (fun j y => by
        unfold DcaInterval.poll
        split
        next => exact .inr rfl
        next => exact .inl rfl)
    rw [DcaInterval.poll_name] at hrest
    have hsent : (task.pass p).sent.countP (·.intervalName = interval.name) =
        task.sent.countP (·.intervalName = interval.name) +
          if ((interval.poll p.now (p.later i)).2).isSome then 1 else 0 := by
      unfold pass
      rw [List.countP_append, hone]
    show (run (task.pass p) passes).sent.countP _ = _
    rw [hrest, hsent]
    by_cases hdue : interval.nextTimeStamp < p.now
    · rw [show seen i (p :: passes) = (p.now, p.later i) :: seen i passes from rfl,
        DcaInterval.firings_due hdue, DcaInterval.poll_due hdue, List.length_cons]
      simp only [Option.isSome_some, if_true]
      omega
    · rw [show seen i (p :: passes) = (p.now, p.later i) :: seen i passes from rfl,
        DcaInterval.firings_not_due hdue, DcaInterval.poll_not_due hdue]
      simp

end DcaTask

/-! ## Once per period -/

/-- The interval at the start of the loop. -/
def DcaInterval.first (name : String) (d start : UInt64) : DcaInterval :=
  ⟨name, getNextTimestamp start d, d⟩

/-- What a run of the loop does for the interval in place `i`: for each multiple of its
length after the start that a pass has read past, one time stamp, and nothing else; for
each time stamp one message; and the time stamp it ends with is a multiple after the
reading at which it was set. -/
structure FiresOncePerPeriod (intervals : List (String × UInt64)) (start : Nat → UInt64)
    (passes : List DcaPass) (i : Nat) (name : String) (d : UInt64) (firings : List Firing) :
    Prop where
  once : ∀ b, d.toNat ∣ b → (start i).toNat < b → (∃ p ∈ passes, b < p.now.toNat) →
    (firings.map (·.timeStamp.toNat)).count b = 1
  only : ∀ f ∈ firings, d.toNat ∣ f.timeStamp.toNat ∧ start i < f.timeStamp ∧ f.timeStamp < f.now
  sent : ((DcaTask.new intervals start).run passes).sent.countP (·.intervalName = name) =
    firings.length
  next : ∃ interval, ((DcaTask.new intervals start).run passes).intervals[i]? = some interval ∧
    TimeStampOf d (lastSet (start i) firings) interval

/-- Of intervals with different names each fires once per period, for any start and any
readings that are less than half a period apart, as long as the next multiple is below
`2 ^ 64` when it is computed. -/
theorem dca_fires_once {intervals : List (String × UInt64)} {start : Nat → UInt64}
    {passes : List DcaPass} {i : Nat} {name : String} {d : UInt64}
    (hnames : (intervals.map (·.1)).Nodup) (hi : intervals[i]? = some (name, d)) (hd : 0 < d)
    (hsteady : (start i ::
      (DcaInterval.first name d (start i)).readings (seen i passes)).IsChain (SteadyClock d))
    (hfits : ∀ r ∈ start i ::
      ((DcaInterval.first name d (start i)).firings (seen i passes)).map (·.later), Fits d r) :
    FiresOncePerPeriod intervals start passes i name d
      ((DcaInterval.first name d (start i)).firings (seen i passes)) := by
  have hd : 0 < d.toNat := UInt64.lt_iff_toNat_lt.mp hd
  obtain ⟨hstart, hlater⟩ := List.forall_mem_cons.mp hfits
  rw [List.forall_mem_map] at hlater
  have hget : (DcaTask.new intervals start).intervals[i]? =
      some (DcaInterval.first name d (start i)) := by
    unfold DcaTask.new
    rw [List.getElem?_mapIdx, hi]
    rfl
  have hnodup : ((DcaTask.new intervals start).intervals.map (·.name)).Nodup := by
    have hsame : (DcaTask.new intervals start).intervals.map (·.name) = intervals.map (·.1) := by
      refine List.ext_getElem? fun j => ?_
      rw [List.getElem?_map, List.getElem?_map]
      unfold DcaTask.new
      rw [List.getElem?_mapIdx]
      cases intervals[j]? <;> rfl
    rw [hsame]
    exact hnames
  have hfirst : TimeStampOf d (start i) (DcaInterval.first name d (start i)) :=
    timeStampOf_getNextTimestamp hd hstart name
  have hserves := DcaInterval.servesFrom hd rfl hfirst.multiple
    (UInt64.lt_iff_toNat_lt.mp hfirst.later).le hsteady hlater
  refine ⟨fun b hb hafter hpassed => ?_, fun f hf => ?_, ?_, ?_⟩
  · refine hserves.once b hb (getNextTimestamp_le hd hstart hb hafter) ?_
    obtain ⟨p, hp, hbp⟩ := hpassed
    exact ⟨_, List.mem_map_of_mem hp, hbp⟩
  · obtain ⟨hfd, hfle, hfnow⟩ := hserves.only f hf
    exact ⟨hfd, UInt64.lt_of_lt_of_le hfirst.later (UInt64.le_iff_toNat_le.mpr hfle), hfnow⟩
  · have hsent : ((DcaTask.new intervals start).run passes).sent.countP
        (·.intervalName = name) = _ := DcaTask.run_sent hnodup hget
    rw [show (DcaTask.new intervals start).sent = [] from rfl, List.countP_nil, Nat.zero_add]
      at hsent
    exact hsent
  · exact ⟨_, DcaTask.run_intervals hget, hfirst.after hd hlater⟩

/-- A day that starts a second after the first pass: one purchase. -/
theorem dca_fires_sample :
    FiresOncePerPeriod dcaIntervals (fun _ => 86399000) [⟨86400000, fun _ => 0⟩,
      ⟨86400001, fun _ => 86400002⟩, ⟨86460001, fun _ => 0⟩] 0 "1d" 86400000
      [⟨86400000, 86400001, 86400002⟩] := by
  have hfits : [86399000, 86400002].all (fun r => decide (Fits 86400000 r)) = true := by decide
  exact dca_fires_once (by decide) rfl (by decide) (by decide +kernel)
    fun r hr => of_decide_eq_true (List.all_eq_true.mp hfits r hr)

/-- The last reading that 64 bits hold. -/
def lastReading : UInt64 := 18446744073709551615

/-- After it there is no multiple: the time stamp wraps around and is in the past at once. -/
theorem dca_wraps :
    (lastReading :: (DcaInterval.first "1d" 86400000 lastReading).readings
      (seen 0 [⟨lastReading, fun _ => lastReading⟩])).IsChain (SteadyClock 86400000) ∧
    ¬FiresOncePerPeriod dcaIntervals (fun _ => lastReading) [⟨lastReading, fun _ => lastReading⟩]
      0 "1d" 86400000 ((DcaInterval.first "1d" 86400000 lastReading).firings
        (seen 0 [⟨lastReading, fun _ => lastReading⟩])) := by
  refine ⟨by decide +kernel, fun h => ?_⟩
  have hfired : (⟨getNextTimestamp lastReading 86400000, lastReading, lastReading⟩ : Firing) ∈
      (DcaInterval.first "1d" 86400000 lastReading).firings
        (seen 0 [⟨lastReading, fun _ => lastReading⟩]) := by decide +kernel
  have hlater := (h.only _ hfired).2.1
  exact absurd hlater (by decide +kernel)

end Lndhubx
