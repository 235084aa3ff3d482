import Mathlib.Data.Set.Finite.Lemmas
import Lndhubx.Nostr.Profiles

/-!
# Profiles in any order

Relays send the profiles of a public key in any order, and the indexer sends them
again. As long as no two profiles of one key were made at the same time, the order
does not show in the cache: `storeProfiles_order_independent` says that any two
orders leave the same cache, which has of each key the profile made last. Of the two
halves of the rule by which `store_profile` replaces a profile only the first then
decides; the second, on verification, compares profiles of one time.

A key that was cached before the first of the profiles arrived keeps what it had,
unless the last of the profiles would have replaced that too.
-/

namespace Lndhubx

namespace NostrEngine

/-- Profiles stored one after the other, each with what its processing finds. -/
def storeProfiles (arrivals : List (NostrEnv × NostrProfileUpdate)) (s : NostrEngine) :
    NostrEngine :=
  arrivals.foldl (fun s a => storeProfile a.1 a.2 s) s

/-- The profiles of some arrivals, in their order. -/
def updatesOf (arrivals : List (NostrEnv × NostrProfileUpdate)) : List NostrProfileUpdate :=
  arrivals.map Prod.snd

/-- No two profiles of one key are of the same time. -/
def TimesDiffer (updates : List NostrProfileUpdate) : Prop :=
  updates.Pairwise fun u v => u.pubkey = v.pubkey → u.createdAtEpochMs ≠ v.createdAtEpochMs

/-- Among `updates`, `m` was made last of its key. -/
structure Latest (updates : List NostrProfileUpdate) (m : NostrProfileUpdate) : Prop where
  mem : m ∈ updates
  latest : ∀ u ∈ updates, u.pubkey = m.pubkey → u.createdAtEpochMs ≤ m.createdAtEpochMs

theorem Latest.of_perm {updates updates' : List NostrProfileUpdate} {m : NostrProfileUpdate}
    (h : Latest updates m) (hperm : updates.Perm updates') : Latest updates' m :=
  ⟨hperm.mem_iff.mp h.mem, fun u hu => h.latest u (hperm.mem_iff.mpr hu)⟩

/-- A key of which there is a profile has a last one. -/
theorem exists_latest {updates : List NostrProfileUpdate} {u : NostrProfileUpdate}
    (hu : u ∈ updates) : ∃ m, Latest updates m ∧ m.pubkey = u.pubkey := by
  have hfinite : {v | v ∈ updates ∧ v.pubkey = u.pubkey}.Finite :=
    (List.finite_toSet updates).subset fun v hv => hv.1
  obtain ⟨m, ⟨hmem, hkey⟩, hmax⟩ :=
    Set.exists_max_image _ (fun v => v.createdAtEpochMs.toNat) hfinite ⟨u, hu, rfl⟩
  exact ⟨m, ⟨hmem, fun v hv hv' => hmax v ⟨hv, hv'.trans hkey⟩⟩, hkey⟩

/-! ## The rule of the cache on profiles of different times -/

theorem entersCache_of_lt {existing u : NostrProfileUpdate}
    (h : existing.createdAtEpochMs < u.createdAtEpochMs) : entersCache existing u = true := by
  unfold entersCache
  simp [h]

theorem entersCache_of_gt {existing u : NostrProfileUpdate}
    (h : u.createdAtEpochMs < existing.createdAtEpochMs) : entersCache existing u = false := by
  unfold entersCache
  simp [UInt64.le_of_lt h, (UInt64.ne_of_lt h).symm]

theorem entersCache_le {existing u : NostrProfileUpdate} (h : entersCache existing u = true) :
    existing.createdAtEpochMs ≤ u.createdAtEpochMs := by
  by_contra hlt
  rw [entersCache_of_gt (UInt64.not_le.mp hlt)] at h
  exact absurd h (by simp)

/-- What a profile leaves of its key. -/
theorem storeProfile_key (env : NostrEnv) (u : NostrProfileUpdate) (s : NostrEngine) :
    (storeProfile env u s).nostrProfileCache u.pubkey =
      if inserted u s then some u else s.nostrProfileCache u.pubkey := by
  rw [storeProfile_cache]
  split
  · rw [Function.update_self]
  · rfl

theorem storeProfile_other_key {env : NostrEnv} {u : NostrProfileUpdate} {pubkey : String}
    (h : u.pubkey ≠ pubkey) (s : NostrEngine) :
    (storeProfile env u s).nostrProfileCache pubkey = s.nostrProfileCache pubkey := by
  rw [storeProfile_cache]
  split
  · exact Function.update_of_ne h.symm _ _
  · rfl

/-- A profile stored on a key of which only that profile's elder `m` was stored before. -/
theorem storeProfile_after_elder {env : NostrEnv} {u m : NostrProfileUpdate} {s s' : NostrEngine}
    (hkey : m.pubkey = u.pubkey) (hlt : m.createdAtEpochMs < u.createdAtEpochMs)
    (hcache : s'.nostrProfileCache m.pubkey =
      if inserted m s then some m else s.nostrProfileCache m.pubkey) :
    (storeProfile env u s').nostrProfileCache u.pubkey =
      if inserted u s then some u else s.nostrProfileCache u.pubkey := by
  rw [storeProfile_key]
  rw [hkey] at hcache
  by_cases hm : inserted m s = true
  · -- `m` went in, so `u` goes in over it, and would have gone in over what `m` replaced
    rw [if_pos hm] at hcache
    have hu' : inserted u s' = true := by
      unfold inserted
      rw [hcache]
      exact entersCache_of_lt hlt
    have hu : inserted u s = true := by
      unfold inserted at hm ⊢
      rw [hkey] at hm
      cases hs : s.nostrProfileCache u.pubkey with
      | none => rfl
      | some existing =>
        rw [hs] at hm
        exact entersCache_of_lt (UInt64.lt_of_le_of_lt (entersCache_le hm) hlt)
    rw [if_pos hu', if_pos hu]
  · rw [if_neg hm] at hcache
    have hsame : inserted u s' = inserted u s := by
      unfold inserted
      rw [hcache]
    rw [hsame, hcache]

/-- A profile elder than the last one changes nothing. -/
theorem storeProfile_after_younger {env : NostrEnv} {u m : NostrProfileUpdate}
    {s s' : NostrEngine} (hkey : u.pubkey = m.pubkey)
    (hlt : u.createdAtEpochMs < m.createdAtEpochMs)
    (hcache : s'.nostrProfileCache m.pubkey =
      if inserted m s then some m else s.nostrProfileCache m.pubkey) :
    (storeProfile env u s').nostrProfileCache m.pubkey =
      if inserted m s then some m else s.nostrProfileCache m.pubkey := by
  have hold : inserted u s' = false := by
    unfold inserted
    rw [hkey, hcache]
    by_cases hm : inserted m s = true
    · rw [if_pos hm]
      exact entersCache_of_gt hlt
    · rw [if_neg hm]
      unfold inserted at hm
      cases hs : s.nostrProfileCache m.pubkey with
      | none =>
        rw [hs] at hm
        exact absurd rfl hm
      | some existing =>
        rw [hs] at hm
        have hle : m.createdAtEpochMs ≤ existing.createdAtEpochMs := by
          by_contra hgt
          exact hm (entersCache_of_lt (UInt64.not_le.mp hgt))
        exact entersCache_of_gt (UInt64.lt_of_lt_of_le hlt hle)
  rw [storeProfile_cache, hold, ← hcache]
  rfl

/-! ## Many profiles -/

/-- A key without arrivals keeps what it had. -/
theorem storeProfiles_other {arrivals : List (NostrEnv × NostrProfileUpdate)} {pubkey : String}
    (h : ∀ u ∈ updatesOf arrivals, u.pubkey ≠ pubkey) (s : NostrEngine) :
    (storeProfiles arrivals s).nostrProfileCache pubkey = s.nostrProfileCache pubkey := by
  unfold storeProfiles
  induction arrivals generalizing s with
  | nil => rfl
  | cons a arrivals ih =>
    rw [List.foldl_cons, ih (fun u hu => h u (List.mem_cons_of_mem _ hu))]
    exact storeProfile_other_key (h a.2 (by simp [updatesOf])) s

/-- Of a key with arrivals the last profile decides, against what was cached before. -/
theorem storeProfiles_latest {arrivals : List (NostrEnv × NostrProfileUpdate)}
    (hdiffer : TimesDiffer (updatesOf arrivals)) {m : NostrProfileUpdate}
    (hm : Latest (updatesOf arrivals) m) (s : NostrEngine) :
    (storeProfiles arrivals s).nostrProfileCache m.pubkey =
      if inserted m s then some m else s.nostrProfileCache m.pubkey := by
  -- from the last arrival: it is `m`, or a profile elder than `m`, or of another key
  induction arrivals using List.reverseRecOn generalizing m with
  | nil => exact absurd hm.mem (by simp [updatesOf])
  | append_singleton arrivals a ih =>
    obtain ⟨env, u⟩ := a
    have hsplit : updatesOf (arrivals ++ [(env, u)]) = updatesOf arrivals ++ [u] := by
      simp [updatesOf]
    unfold TimesDiffer at hdiffer
    rw [hsplit, List.pairwise_append] at hdiffer
    rw [hsplit] at hm
    obtain ⟨hdiffer, -, hlast⟩ := hdiffer
    have hstep : storeProfiles (arrivals ++ [(env, u)]) s =
        storeProfile env u (storeProfiles arrivals s) := by
      unfold storeProfiles
      rw [List.foldl_append]
      rfl
    rw [hstep]
    rcases List.mem_append.mp hm.mem with hmem | hmem
    · have hbefore : Latest (updatesOf arrivals) m :=
        ⟨hmem, fun v hv => hm.latest v (List.mem_append_left _ hv)⟩
      by_cases hkey : u.pubkey = m.pubkey
      · have hle : u.createdAtEpochMs ≤ m.createdAtEpochMs := hm.latest u (by simp) hkey
        have hne : m.createdAtEpochMs ≠ u.createdAtEpochMs := hlast m hmem u (by simp) hkey.symm
        exact storeProfile_after_younger hkey (UInt64.lt_of_le_of_ne hle hne.symm)
          (ih hdiffer hbefore)
      · rw [storeProfile_other_key hkey]
        exact ih hdiffer hbefore
    · rw [List.mem_singleton] at hmem
      rw [hmem] at hm ⊢
      by_cases hfirst : ∃ v ∈ updatesOf arrivals, v.pubkey = u.pubkey
      · obtain ⟨v, hv, hvkey⟩ := hfirst
        obtain ⟨m', hm', hkey⟩ := exists_latest hv
        have hkey' : m'.pubkey = u.pubkey := hkey.trans hvkey
        have hle : m'.createdAtEpochMs ≤ u.createdAtEpochMs :=
          hm.latest m' (List.mem_append_left _ hm'.mem) hkey'
        have hne : m'.createdAtEpochMs ≠ u.createdAtEpochMs := hlast m' hm'.mem u (by simp) hkey'
        exact storeProfile_after_elder hkey' (UInt64.lt_of_le_of_ne hle hne) (ih hdiffer hm')
      · have hnone : (storeProfiles arrivals s).nostrProfileCache u.pubkey =
            s.nostrProfileCache u.pubkey :=
          storeProfiles_other (fun v hv hkey => hfirst ⟨v, hv, hkey⟩) s
        have hsame : inserted u (storeProfiles arrivals s) = inserted u s := by
          unfold inserted
          rw [hnone]
        rw [storeProfile_key, hsame, hnone]

/-- Two orders of the same profiles leave the same cache. Of a key that was not cached
before it holds the last profile; a cached one gives way only to a last profile that
enters the cache over it. -/
theorem storeProfiles_order_independent (s : NostrEngine)
    (arrivals arrivals' : List (NostrEnv × NostrProfileUpdate))
    (hperm : (updatesOf arrivals).Perm (updatesOf arrivals'))
    (hdiffer : TimesDiffer (updatesOf arrivals)) :
    (storeProfiles arrivals s).nostrProfileCache =
      (storeProfiles arrivals' s).nostrProfileCache ∧
    ∀ pubkey, (s.nostrProfileCache pubkey = none →
        ∀ u, (storeProfiles arrivals s).nostrProfileCache pubkey = some u ↔
          u.pubkey = pubkey ∧ Latest (updatesOf arrivals) u) ∧
      ∀ existing, s.nostrProfileCache pubkey = some existing →
        ∀ u, u.pubkey = pubkey → Latest (updatesOf arrivals) u →
          (storeProfiles arrivals s).nostrProfileCache pubkey =
            some (if entersCache existing u then u else existing) := by
  have hdiffer' : TimesDiffer (updatesOf arrivals') :=
    hperm.pairwise hdiffer fun h hkey => (h hkey.symm).symm
  constructor
  · funext pubkey
    by_cases hkey : ∃ u ∈ updatesOf arrivals, u.pubkey = pubkey
    · obtain ⟨u, hu, rfl⟩ := hkey
      obtain ⟨m, hm, hmkey⟩ := exists_latest hu
      rw [← hmkey, storeProfiles_latest hdiffer hm,
        storeProfiles_latest hdiffer' (hm.of_perm hperm)]
    · rw [storeProfiles_other (fun u hu he => hkey ⟨u, hu, he⟩),
        storeProfiles_other (fun u hu he => hkey ⟨u, hperm.mem_iff.mpr hu, he⟩)]
  · intro pubkey
    constructor
    · intro hnone u
      have hinserted : ∀ m : NostrProfileUpdate, m.pubkey = pubkey → inserted m s = true := by
        intro m hm
        unfold inserted
        rw [hm, hnone]
      constructor
      · intro hu
        by_cases hkey : ∃ v ∈ updatesOf arrivals, v.pubkey = pubkey
        · obtain ⟨v, hv, rfl⟩ := hkey
          obtain ⟨m, hm, hmkey⟩ := exists_latest hv
          rw [← hmkey, storeProfiles_latest hdiffer hm, if_pos (hinserted m hmkey)] at hu
          rw [← Option.some.inj hu]
          exact ⟨hmkey, hm⟩
        · rw [storeProfiles_other (fun v hv he => hkey ⟨v, hv, he⟩), hnone] at hu
          exact absurd hu (by simp)
      · intro hu
        rw [← hu.1, storeProfiles_latest hdiffer hu.2, if_pos (hinserted u hu.1)]
    · intro existing hexisting u hkey hu
      have hinserted : inserted u s = entersCache existing u := by
        unfold inserted
        rw [hkey, hexisting]
      rw [← hkey, storeProfiles_latest hdiffer hu, hinserted, hkey, hexisting]
      split <;> rfl

/-- Two profiles of a key and one of another, in two orders. -/
theorem storeProfiles_two_orders :
    let a := Sample.profile "a" 1 (some true)
    let a' := Sample.profile "a" 2 none
    let b := Sample.profile "b" 1 none
    (storeProfiles [(Sample.env 1, a'), (Sample.env 2, b), (Sample.env 3, a)]
        (new Table.empty)).nostrProfileCache =
      (storeProfiles [(Sample.env 1, a), (Sample.env 2, a'), (Sample.env 3, b)]
        (new Table.empty)).nostrProfileCache ∧
    (storeProfiles [(Sample.env 1, a'), (Sample.env 2, b), (Sample.env 3, a)]
      (new Table.empty)).nostrProfileCache "a" = some a' := by
  intro a a' b
  have hperm : [a', b, a].Perm [a, a', b] := @List.perm_append_comm _ [a', b] [a]
  have hdiffer : TimesDiffer [a', b, a] := by
    simp [TimesDiffer, a, a', b, Sample.profile]
  have h := storeProfiles_order_independent (new Table.empty)
    [(Sample.env 1, a'), (Sample.env 2, b), (Sample.env 3, a)]
    [(Sample.env 1, a), (Sample.env 2, a'), (Sample.env 3, b)] hperm hdiffer
  refine ⟨h.1, ((h.2 "a").1 rfl a').mpr ⟨rfl, List.mem_cons_self, ?_⟩⟩
  intro u hu _
  change u ∈ [a', b, a] at hu
  simp only [List.mem_cons, List.not_mem_nil, or_false] at hu
  rcases hu with rfl | rfl | rfl <;> decide

end NostrEngine

end Lndhubx
