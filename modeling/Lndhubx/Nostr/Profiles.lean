import Mathlib.Data.UInt
import Lndhubx.Nostr.Engine

/-!
# The profile cache against the table

The engine answers from its cache and searches in the table, so the two should say
the same of a public key: when the profile was made, what it holds and whether its
address was verified (`Mirrors`). Both keep the last profile by a rule written
twice. The rules part in two places: the cache compares times as `u64` and the
table as `i64`, and of two profiles of the same time the cache tells "not verified"
from "unknown" where the table's `COALESCE` does not (`entersCache_eq_iff`). A third
place is a row that the cache never read, because its content is empty or does not
parse: the cache takes the first profile that comes, the table only a later one.

`profile_cache_agrees_iff` says that these are all: cache and table agree after
every event of a run exactly if every profile stored in it meets `Settles`.
-/

namespace Lndhubx

/-! ## Times on both sides of the cast -/

/-- Read as signed, times of one half of the range keep their order. -/
theorem toInt64_lt_iff_of_same_half {a b : UInt64} (h : a < 2 ^ 63 ↔ b < 2 ^ 63) :
    a.toInt64 < b.toInt64 ↔ a < b := by
  rw [Int64.lt_iff_toInt_lt, UInt64.lt_iff_toNat_lt]
  rw [UInt64.lt_iff_toNat_lt, UInt64.lt_iff_toNat_lt] at h
  show a.toBitVec.toInt < b.toBitVec.toInt ↔ _
  rw [BitVec.toInt_eq_toNat_cond, BitVec.toInt_eq_toNat_cond]
  show (if 2 * a.toNat < 2 ^ 64 then (a.toNat : Int) else (a.toNat : Int) - (2 ^ 64 : Nat)) <
    (if 2 * b.toNat < 2 ^ 64 then (b.toNat : Int) else (b.toNat : Int) - (2 ^ 64 : Nat)) ↔ _
  have hhalf : (2 ^ 63 : UInt64).toNat = 2 ^ 63 := by decide +kernel
  rw [hhalf] at h
  split <;> split <;> omega

/-- Times of different halves change places. -/
theorem toInt64_lt_iff_of_other_half {a b : UInt64} (h : ¬(a < 2 ^ 63 ↔ b < 2 ^ 63)) :
    a.toInt64 < b.toInt64 ↔ b < a := by
  rw [Int64.lt_iff_toInt_lt, UInt64.lt_iff_toNat_lt]
  rw [UInt64.lt_iff_toNat_lt, UInt64.lt_iff_toNat_lt] at h
  show a.toBitVec.toInt < b.toBitVec.toInt ↔ _
  rw [BitVec.toInt_eq_toNat_cond, BitVec.toInt_eq_toNat_cond]
  show (if 2 * a.toNat < 2 ^ 64 then (a.toNat : Int) else (a.toNat : Int) - (2 ^ 64 : Nat)) <
    (if 2 * b.toNat < 2 ^ 64 then (b.toNat : Int) else (b.toNat : Int) - (2 ^ 64 : Nat)) ↔ _
  have hhalf : (2 ^ 63 : UInt64).toNat = 2 ^ 63 := by decide +kernel
  rw [hhalf] at h
  have ha := a.toNat_lt
  have hb := b.toNat_lt
  split <;> split <;> omega

theorem toInt64_inj {a b : UInt64} : a.toInt64 = b.toInt64 ↔ a = b := by
  constructor
  · intro h
    rw [← UInt64.toUInt64_toInt64 a, h, UInt64.toUInt64_toInt64]
  · exact fun h => congrArg _ h

/-! ## The row of a key after an upsert -/

namespace NostrProfileRecords

theorem row_pubkey {t : NostrProfileRecords} {pubkey : String} {r : NostrProfileRecord}
    (h : t.row pubkey = some r) : r.pubkey = pubkey := by
  simpa using List.find?_some h

theorem row_of_mem {t : NostrProfileRecords} {r : NostrProfileRecord} (h : r ∈ t.rows) :
    t.row r.pubkey = some r :=
  Table.find_key h

/-- An insert goes through exactly where the key has no row. -/
theorem insert_isSome_iff (t : NostrProfileRecords) (record : NostrProfileRecord) :
    (t.insert record).isSome ↔ t.row record.pubkey = none := by
  rw [← Option.ne_none_iff_isSome, ne_eq, Table.insert_eq_none]
  unfold row Table.find Table.has
  rw [List.find?_eq_none]
  simp only [decide_eq_true_eq, List.mem_map, not_exists, not_and]

theorem row_upsert_fresh {t : NostrProfileRecords} {record : NostrProfileRecord}
    (h : t.row record.pubkey = none) :
    (record.upsert t).row record.pubkey = some record := by
  obtain ⟨t', ht⟩ := Option.isSome_iff_exists.mp ((insert_isSome_iff t record).mpr h)
  unfold NostrProfileRecord.upsert
  rw [ht]
  show row t' record.pubkey = some record
  unfold row Table.find at h ⊢
  rw [Table.insert_rows ht, List.find?_append, h]
  simp

theorem row_upsert_conflict {t : NostrProfileRecords} {record n : NostrProfileRecord}
    (h : t.row record.pubkey = some n) :
    (record.upsert t).row record.pubkey =
      some (if n.upsertReplaces record then record else n) := by
  have hkey : n.pubkey = record.pubkey := row_pubkey h
  have hins : t.insert record = none := by
    rw [← Option.not_isSome_iff_eq_none, insert_isSome_iff, h]
    simp
  have hmod : row (t.modify n.pubkey record.onConflict
      (NostrProfileRecord.onConflict_pubkey record)) record.pubkey = some (record.onConflict n) :=
    Table.find_modify (NostrProfileRecord.onConflict_pubkey record) h
      (by simpa [NostrProfileRecord.onConflict_pubkey] using hkey)
  have hrow : record.onConflict n = if n.upsertReplaces record then record else n := by
    unfold NostrProfileRecord.onConflict
    rw [hkey]
  unfold NostrProfileRecord.upsert
  rw [hins, ← hrow, ← hmod, hkey]

theorem row_upsert_other {t : NostrProfileRecords} {record : NostrProfileRecord}
    {pubkey : String} (h : pubkey ≠ record.pubkey) :
    (record.upsert t).row pubkey = t.row pubkey := by
  unfold NostrProfileRecord.upsert
  cases hins : t.insert record with
  | some t' =>
    show row t' pubkey = _
    unfold row Table.find
    rw [Table.insert_rows hins, List.find?_append]
    simp [h.symm]
  | none =>
    refine Table.find_modify_other (NostrProfileRecord.onConflict_pubkey record) ?_
    intro r _ hr
    rw [NostrProfileRecord.onConflict_pubkey, hr]
    simp [h.symm]

end NostrProfileRecords

/-- The database calls of an event succeed. -/
def NostrEnv.DbUp (env : NostrEnv) : Prop := env.conn = true ∧ env.query = true

namespace NostrEngine

/-! ## The two rules -/

/-- Cached profile and row say the same. -/
structure Mirrors (u : NostrProfileUpdate) (r : NostrProfileRecord) : Prop where
  createdAt : r.createdAt = u.createdAtEpochMs.toInt64
  content : r.content = u.content
  nip05Verified : r.nip05Verified = u.nostrProfile.nip05Verified

theorem mirrors_record (u : NostrProfileUpdate) : Mirrors u u.record := ⟨rfl, rfl, rfl⟩

/-- Two profiles on which cache and table decide alike: their times lie in the same
half of the range, and they are not of the same time with one of them unverified and
of the other nothing known. -/
structure Comparable (existing u : NostrProfileUpdate) : Prop where
  times : existing.createdAtEpochMs < 2 ^ 63 ↔ u.createdAtEpochMs < 2 ^ 63
  verified : existing.createdAtEpochMs = u.createdAtEpochMs →
    existing.nostrProfile.nip05Verified ≠ u.nostrProfile.nip05Verified →
      existing.nostrProfile.nip05Verified = some true ∨ u.nostrProfile.nip05Verified = some true

/-- `≠` and the comparison of `COALESCE`d values differ on `NULL` and `FALSE` alone. -/
theorem coalesce_eq_iff (a b : Option Bool) :
    (a != b) = (a.getD false != b.getD false) ↔ (a ≠ b → a = some true ∨ b = some true) := by
  rcases a with _ | _ | _ <;> rcases b with _ | _ | _ <;> decide

/-- The rule of the cache is the rule of the table exactly on comparable profiles. -/
theorem entersCache_eq_iff {existing u : NostrProfileUpdate} {r : NostrProfileRecord}
    (h : Mirrors existing r) :
    entersCache existing u = r.upsertReplaces u.record ↔ Comparable existing u := by
  have hreplaces : r.upsertReplaces u.record =
      (decide (existing.createdAtEpochMs.toInt64 < u.createdAtEpochMs.toInt64) ||
        (existing.createdAtEpochMs == u.createdAtEpochMs &&
          existing.nostrProfile.nip05Verified.getD false !=
            u.nostrProfile.nip05Verified.getD false)) := by
    unfold NostrProfileRecord.upsertReplaces
    rw [h.createdAt, h.nip05Verified]
    show (_ || ((_ : Int64) == u.createdAtEpochMs.toInt64 && _)) = _
    rw [show (existing.createdAtEpochMs.toInt64 == u.createdAtEpochMs.toInt64) =
      (existing.createdAtEpochMs == u.createdAtEpochMs) from by
        rw [Bool.eq_iff_iff, beq_iff_eq, beq_iff_eq, toInt64_inj]]
    rfl
  rw [hreplaces]
  unfold entersCache
  by_cases heq : existing.createdAtEpochMs = u.createdAtEpochMs
  · -- of one time: the verifications decide
    rw [heq]
    simp only [UInt64.lt_irrefl, Int64.lt_irrefl, decide_false, Bool.false_or, beq_self_eq_true,
      Bool.true_and]
    rw [coalesce_eq_iff]
    constructor
    · exact fun hv => ⟨by rw [heq], fun _ => hv⟩
    · exact fun hc => hc.verified heq
  · simp only [beq_eq_false_iff_ne.mpr heq, Bool.false_and, Bool.or_false]
    rw [decide_eq_decide]
    by_cases hhalf : existing.createdAtEpochMs < 2 ^ 63 ↔ u.createdAtEpochMs < 2 ^ 63
    · constructor
      · exact fun _ => ⟨hhalf, fun e => absurd e heq⟩
      · exact fun _ => (toInt64_lt_iff_of_same_half hhalf).symm
    · constructor
      · intro hlt
        rw [toInt64_lt_iff_of_other_half hhalf, UInt64.lt_iff_toNat_lt,
          UInt64.lt_iff_toNat_lt] at hlt
        have hne : existing.createdAtEpochMs.toNat ≠ u.createdAtEpochMs.toNat :=
          fun e => heq (UInt64.toNat_inj.mp e)
        omega
      · exact fun hc => absurd hc.times hhalf

/-- A profile that the cache takes is not the one it had. -/
theorem not_mirrors_of_entersCache {existing u : NostrProfileUpdate} {r : NostrProfileRecord}
    (h : Mirrors existing r) (henters : entersCache existing u = true) : ¬Mirrors u r := by
  intro hu
  have htime : existing.createdAtEpochMs = u.createdAtEpochMs :=
    toInt64_inj.mp (h.createdAt.symm.trans hu.createdAt)
  have hver : existing.nostrProfile.nip05Verified = u.nostrProfile.nip05Verified :=
    h.nip05Verified.symm.trans hu.nip05Verified
  unfold entersCache at henters
  rw [htime, hver] at henters
  simp at henters

/-- A profile that the table takes over a row is not the one the row mirrors. -/
theorem not_mirrors_of_upsertReplaces {existing u : NostrProfileUpdate} {r : NostrProfileRecord}
    (h : Mirrors existing r) (hreplaces : r.upsertReplaces u.record = true) :
    ¬Mirrors existing u.record := by
  intro hu
  unfold NostrProfileRecord.upsertReplaces at hreplaces
  rw [h.createdAt, h.nip05Verified, hu.createdAt, hu.nip05Verified] at hreplaces
  simp at hreplaces

/-! ## One event -/

/-- Every cached profile has a row that says the same. -/
def Agree (s : NostrEngine) : Prop :=
  ∀ pubkey u, s.nostrProfileCache pubkey = some u →
    ∃ r, s.dbPool.row pubkey = some r ∧ Mirrors u r

/-- What a profile must find when it is stored: a cached one that it can be compared
with; or, where none is cached, no row, a row that it replaces, or one that already
says the same. -/
def Settles (s : NostrEngine) (u : NostrProfileUpdate) : Prop :=
  (∀ existing, s.nostrProfileCache u.pubkey = some existing → Comparable existing u) ∧
  (s.nostrProfileCache u.pubkey = none → ∀ r, s.dbPool.row u.pubkey = some r →
    r.upsertReplaces u.record = true ∨ Mirrors u r)

theorem replyIfPending_cache (env : NostrEnv) (u : NostrProfileUpdate) (s : NostrEngine) :
    (replyIfPending env u s).nostrProfileCache = s.nostrProfileCache := by
  unfold replyIfPending
  split
  · rfl
  · split <;> rfl

theorem replyIfPending_dbPool (env : NostrEnv) (u : NostrProfileUpdate) (s : NostrEngine) :
    (replyIfPending env u s).dbPool = s.dbPool := by
  unfold replyIfPending
  split
  · rfl
  · split <;> rfl

theorem cacheProfile_cache (env : NostrEnv) (u : NostrProfileUpdate) (s : NostrEngine) :
    (cacheProfile env u s).nostrProfileCache =
      if inserted u s then Function.update s.nostrProfileCache u.pubkey (some u)
      else s.nostrProfileCache := by
  unfold cacheProfile
  split
  · rw [replyIfPending_cache]
  · rfl

theorem cacheProfile_dbPool (env : NostrEnv) (u : NostrProfileUpdate) (s : NostrEngine) :
    (cacheProfile env u s).dbPool = s.dbPool := by
  unfold cacheProfile
  split
  · rw [replyIfPending_dbPool]
  · rfl

theorem storeProfile_cache (env : NostrEnv) (u : NostrProfileUpdate) (s : NostrEngine) :
    (storeProfile env u s).nostrProfileCache =
      if inserted u s then Function.update s.nostrProfileCache u.pubkey (some u)
      else s.nostrProfileCache := by
  rw [← cacheProfile_cache env u s]
  unfold storeProfile
  show NostrEngine.nostrProfileCache (if _ then _ else _) = _
  split <;> rfl

theorem storeProfile_dbPool {env : NostrEnv} (hdb : env.DbUp) (u : NostrProfileUpdate)
    (s : NostrEngine) : (storeProfile env u s).dbPool = u.record.upsert s.dbPool := by
  unfold storeProfile
  show NostrEngine.dbPool (if _ then _ else _) = _
  rw [hdb.1, hdb.2]
  show u.record.upsert (cacheProfile env u s).dbPool = _
  rw [cacheProfile_dbPool]

/-- Storing a profile leaves the other keys as they are. -/
theorem storeProfile_other {env : NostrEnv} (hdb : env.DbUp) {u : NostrProfileUpdate}
    {pubkey : String} (h : pubkey ≠ u.pubkey) (s : NostrEngine) :
    (storeProfile env u s).nostrProfileCache pubkey = s.nostrProfileCache pubkey ∧
      (storeProfile env u s).dbPool.row pubkey = s.dbPool.row pubkey := by
  rw [storeProfile_cache, storeProfile_dbPool hdb]
  constructor
  · split
    · exact Function.update_of_ne h _ _
    · rfl
  · exact NostrProfileRecords.row_upsert_other h

/-- The key of a stored profile, cached before or not: cache and table still say the
same of it exactly if the profile settles. -/
theorem storeProfile_self_iff {env : NostrEnv} (hdb : env.DbUp) {s : NostrEngine}
    (hs : Agree s) (u : NostrProfileUpdate) :
    (∀ v, (storeProfile env u s).nostrProfileCache u.pubkey = some v →
      ∃ r, (storeProfile env u s).dbPool.row u.pubkey = some r ∧ Mirrors v r) ↔
    Settles s u := by
  rw [storeProfile_cache, storeProfile_dbPool hdb]
  cases hc : s.nostrProfileCache u.pubkey with
  | some existing =>
    obtain ⟨r, hr, hmirrors⟩ := hs _ _ hc
    have hrow : (u.record.upsert s.dbPool).row u.pubkey = _ :=
      NostrProfileRecords.row_upsert_conflict hr
    have hins : inserted u s = entersCache existing u := by
      unfold inserted
      rw [hc]
    have hsettles : Settles s u ↔ Comparable existing u := by
      unfold Settles
      rw [hc]
      simp
    rw [hsettles, ← entersCache_eq_iff hmirrors, hins, hrow]
    cases henters : entersCache existing u <;> cases hreplaces : r.upsertReplaces u.record
    · simp [hc, hmirrors]
    · have := not_mirrors_of_upsertReplaces hmirrors hreplaces
      simp [hc, this]
    · have := not_mirrors_of_entersCache hmirrors henters
      simp [this]
    · simp [mirrors_record]
  | none =>
    have hins : inserted u s = true := by
      unfold inserted
      rw [hc]
    rw [hins]
    cases hr : s.dbPool.row u.pubkey with
    | none =>
      have hrow : (u.record.upsert s.dbPool).row u.pubkey = some u.record :=
        NostrProfileRecords.row_upsert_fresh hr
      have hsettles : Settles s u := ⟨fun e he => absurd (hc.symm.trans he) (by simp),
        fun _ r he => absurd (hr.symm.trans he) (by simp)⟩
      simp [hrow, mirrors_record, hsettles]
    | some r =>
      have hrow : (u.record.upsert s.dbPool).row u.pubkey = _ :=
        NostrProfileRecords.row_upsert_conflict hr
      have hsettles : Settles s u ↔ r.upsertReplaces u.record = true ∨ Mirrors u r := by
        unfold Settles
        rw [hc, hr]
        simp
      rw [hsettles, hrow]
      cases hreplaces : r.upsertReplaces u.record
      · simp
      · simp [mirrors_record]

/-- A stored profile keeps cache and table together exactly if it settles. -/
theorem storeProfile_agree_iff {env : NostrEnv} (hdb : env.DbUp) {s : NostrEngine}
    (hs : Agree s) (u : NostrProfileUpdate) :
    Agree (storeProfile env u s) ↔ Settles s u := by
  rw [← storeProfile_self_iff hdb hs u]
  constructor
  · exact fun h v hv => h _ _ hv
  · intro h pubkey v hv
    by_cases hkey : pubkey = u.pubkey
    · rw [hkey] at hv ⊢
      exact h v hv
    · obtain ⟨hcache, hrow⟩ := storeProfile_other hdb hkey s
      rw [hcache] at hv
      rw [hrow]
      exact hs _ _ hv

/-- An event other than a profile leaves cache and table alone. -/
theorem processEvent_same {fns : NostrEngineFns} {env : NostrEnv} {event : NostrEngineEvent}
    {s s' : NostrEngine} (hevent : event.update? = none)
    (h : processEvent fns env event s = .ok s') :
    s'.nostrProfileCache = s.nostrProfileCache ∧ s'.dbPool = s.dbPool := by
  cases event with
  | nostrProfileUpdate u => exact absurd hevent (by simp [NostrEngineEvent.update?])
  | lndhubxMessage message =>
    rcases processMessage_cases h with ⟨_, rfl⟩ | ⟨_, _, rfl⟩ | ⟨_, _, _, _, _, _, rfl⟩
    · exact ⟨rfl, rfl⟩
    · exact ⟨rfl, rfl⟩
    · exact ⟨rfl, rfl⟩
  | internalNostrProfileRequest request =>
    injection h with h
    obtain ⟨_, hcalls⟩ := requestUserProfile_eq fns request s
    rw [← h, hcalls]
    exact ⟨rfl, rfl⟩

theorem processEvent_agree {fns : NostrEngineFns} {env : NostrEnv} {event : NostrEngineEvent}
    {s s' : NostrEngine} (hevent : event.update? = none) (hs : Agree s)
    (h : processEvent fns env event s = .ok s') : Agree s' := by
  obtain ⟨hcache, hdb⟩ := processEvent_same hevent h
  intro pubkey u hu
  rw [hcache] at hu
  rw [hdb]
  exact hs pubkey u hu

/-! ## The cache read from the table -/

theorem mem_of_collect {updates : List NostrProfileUpdate} {pubkey : String}
    {u : NostrProfileUpdate} (h : collect updates pubkey = some u) :
    u ∈ updates ∧ u.pubkey = pubkey := by
  unfold collect at h
  induction updates using List.reverseRecOn with
  | nil => exact absurd h (by simp)
  | append_singleton updates v ih =>
    rw [List.foldl_append] at h
    by_cases hv : pubkey = v.pubkey
    · rw [List.foldl_cons, List.foldl_nil, hv, Function.update_self] at h
      injection h with h
      exact ⟨by simp [h], by rw [hv, h]⟩
    · rw [List.foldl_cons, List.foldl_nil, Function.update_of_ne hv] at h
      exact ⟨List.mem_append_left _ (ih h).1, (ih h).2⟩

/-- A row read back mirrors the row. -/
theorem mirrors_of_profileOfRecord {fns : NostrEngineFns} {r : NostrProfileRecord}
    {u : NostrProfileUpdate} (h : profileOfRecord fns r = some u) :
    u.pubkey = r.pubkey ∧ Mirrors u r := by
  unfold profileOfRecord at h
  split at h
  · exact absurd h (by simp)
  · obtain ⟨profile, _, rfl⟩ := Option.map_eq_some_iff.mp h
    exact ⟨rfl, ⟨(Int64.toInt64_toUInt64 _).symm, rfl, rfl⟩⟩

theorem initializeProfileCache_agree (fns : NostrEngineFns) {env : NostrEnv} (hdb : env.DbUp)
    (s : NostrEngine) : Agree (initializeProfileCache fns env s) := by
  unfold initializeProfileCache
  rw [hdb.1, hdb.2]
  intro pubkey u hu
  obtain ⟨hmem, rfl⟩ := mem_of_collect hu
  obtain ⟨r, hr, hread⟩ := List.mem_filterMap.mp hmem
  obtain ⟨hkey, hmirrors⟩ := mirrors_of_profileOfRecord hread
  rw [hkey]
  exact ⟨r, NostrProfileRecords.row_of_mem hr, hmirrors⟩

/-! ## Runs -/

/-- From a state in which cache and table agree, every profile of a run settling, they
agree at the end of the run. -/
theorem processEvents_agree {fns : NostrEngineFns} {s : NostrEngine} (hs : Agree s)
    {events : List (NostrEnv × NostrEngineEvent)} (hdb : ∀ e ∈ events, e.1.DbUp)
    (hsettles : ∀ before env u after m, events = before ++ (env, .nostrProfileUpdate u) :: after →
      processEvents fns before s = .ok m → Settles m u)
    {s' : NostrEngine} (h : processEvents fns events s = .ok s') : Agree s' := by
  induction events using List.reverseRecOn generalizing s' with
  | nil =>
    injection h with h
    rw [← h]
    exact hs
  | append_singleton events e ih =>
    obtain ⟨env, event⟩ := e
    obtain ⟨m, hm, hlast⟩ := processEvents_snoc.mp h
    have hagree : Agree m := by
      apply ih (fun e he => hdb e (List.mem_append_left _ he)) ?_ hm
      intro before env' u after m' hev
      apply hsettles before env' u (after ++ [(env, event)]) m'
      rw [hev]
      simp
    cases event with
    | nostrProfileUpdate u =>
      injection hlast with hlast
      rw [← hlast]
      apply (storeProfile_agree_iff (hdb (env, .nostrProfileUpdate u) (by simp)) hagree u).mpr
      exact hsettles events env u [] m rfl hm
    | lndhubxMessage message => exact processEvent_agree rfl hagree hlast
    | internalNostrProfileRequest request => exact processEvent_agree rfl hagree hlast

/-- The cache agrees with the table after every event of a run from the start of the
engine exactly if every profile of the run settles where it is stored. -/
theorem profile_cache_agrees_iff (fns : NostrEngineFns) (table : NostrProfileRecords)
    {env₀ : NostrEnv} (hstart : env₀.DbUp) {events : List (NostrEnv × NostrEngineEvent)}
    (hdb : ∀ e ∈ events, e.1.DbUp) :
    (∀ before after s, events = before ++ after →
      processEvents fns before (started fns env₀ table) = .ok s → Agree s) ↔
    (∀ before env u after s, events = before ++ (env, .nostrProfileUpdate u) :: after →
      processEvents fns before (started fns env₀ table) = .ok s → Settles s u) := by
  have hinit : Agree (started fns env₀ table) := initializeProfileCache_agree fns hstart _
  constructor
  · intro h before env u after s hev hs
    have hagree : Agree s := h before _ s hev hs
    apply (storeProfile_agree_iff (hdb (env, .nostrProfileUpdate u) (by simp [hev])) hagree u).mp
    apply h (before ++ [(env, .nostrProfileUpdate u)]) after
    · rw [hev]
      simp
    · exact processEvents_snoc.mpr ⟨s, hs, rfl⟩
  · intro h before after s hev hs
    apply processEvents_agree hinit (fun e he => hdb e (by rw [hev]; simp [he])) ?_ hs
    intro before' env u after' m hbefore hm
    apply h before' env u (after' ++ after) m ?_ hm
    rw [hev, hbefore]
    simp

/-! ### Two profiles of one time -/

/-- The verification of a profile is first unknown, then it fails: the cache has it as
failed, the table still as unknown. -/
theorem failed_verification_is_not_stored :
    ¬∀ (fns : NostrEngineFns) (table : NostrProfileRecords) (env₀ : NostrEnv)
      (events : List (NostrEnv × NostrEngineEvent)), env₀.DbUp → (∀ e ∈ events, e.1.DbUp) →
      ∀ s, processEvents fns events (started fns env₀ table) = .ok s → Agree s := by
  intro h
  let events : List (NostrEnv × NostrEngineEvent) :=
    [(Sample.env 1, .nostrProfileUpdate (Sample.profile "a" 1 none)),
      (Sample.env 2, .nostrProfileUpdate (Sample.profile "a" 1 (some false)))]
  obtain ⟨r, hr, hmirrors⟩ := h Sample.fns Table.empty (Sample.env 0) events ⟨rfl, rfl⟩
    (by simp [events, NostrEnv.DbUp, Sample.env]) _ rfl "a" (Sample.profile "a" 1 (some false)) rfl
  have hrow : some r = some (Sample.profile "a" 1 none).record := hr.symm.trans rfl
  injection hrow with hrow
  have hver := hmirrors.nip05Verified
  rw [hrow] at hver
  exact absurd hver (by decide)

/-- A profile, and a later one that was verified. -/
theorem verified_profile_is_stored :
    let events : List (NostrEnv × NostrEngineEvent) :=
      [(Sample.env 1, .nostrProfileUpdate (Sample.profile "a" 1 none)),
        (Sample.env 2, .nostrProfileUpdate (Sample.profile "a" 2 (some true)))]
    ((Sample.env 0).DbUp ∧ ∀ e ∈ events, e.1.DbUp) ∧
      ∀ before after s, events = before ++ after → processEvents Sample.fns before
        (started Sample.fns (Sample.env 0) Table.empty) = .ok s → Agree s := by
  intro events
  have hdb : ∀ e ∈ events, e.1.DbUp := by simp [events, NostrEnv.DbUp, Sample.env]
  refine ⟨⟨⟨rfl, rfl⟩, hdb⟩, ?_⟩
  apply (profile_cache_agrees_iff Sample.fns Table.empty ⟨rfl, rfl⟩ hdb).mpr
  intro before env u after s hev hs
  cases before with
  | nil =>
    injection hs with hs
    rw [← hs]
    exact ⟨fun e he => absurd he (by simp [started, initializeProfileCache, Sample.env, new,
      Table.empty, collect]), fun _ r hr => absurd hr (by simp [started, initializeProfileCache,
        Sample.env, new, Table.empty, NostrProfileRecords.row, Table.find])⟩
  | cons first before =>
    injection hev with hfirst hev
    cases before with
    | nil =>
      injection hev with hu _
      injection hu with _ hu
      injection hu with hu
      rw [← hfirst] at hs
      injection hs with hs
      rw [← hs, ← hu]
      constructor
      · intro existing he
        have hexisting : some existing = some (Sample.profile "a" 1 none) := he.symm.trans rfl
        injection hexisting with hexisting
        rw [hexisting]
        exact ⟨by decide +kernel, fun htime => absurd htime (by decide)⟩
      · intro hnone
        exact absurd hnone (by simp [storeProfile_cache, inserted, Sample.profile, started,
          initializeProfileCache, Sample.env, new, Table.empty, collect])
    | cons second before =>
      injection hev with _ hev
      exact absurd hev (by simp)

end NostrEngine

end Lndhubx
