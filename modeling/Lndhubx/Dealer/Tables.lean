import Lndhubx.Dealer.Quotes
import Lndhubx.Dealer.Spec

/-!
# Quotes and the book they come from

After an update of a book its quote tables should be those that `updateQuotes`
would compute from the new book alone (`QuotesCurrent`). The tables are not
emptied first: a bucket that the new book cannot fill keeps the quote of an
older one. So they are current after every update of a run exactly if no update
takes away a bucket the book could fill before (`current_iff_kept`).

The invariant is `QuotesMatch`: the buckets with a quote are those the book can
fill.
-/

namespace Lndhubx

open Prog DealerEngine

variable {cfg : DealerConfig}

/-! ## One side of a book -/

namespace DealerEngine

/-- The buckets with a quote are those the side can fill, and there is no table
without a quote. -/
structure Matches (table : Option QuoteTable) (side : Option (List (Scaled × Nat))) : Prop where
  quoted : ∀ q : Nat, (∃ t : QuoteTable, table = some t ∧ t[q]? ≠ none) ↔
    q ∈ QUANTITIES ∧ ∃ l, side = some l ∧ q ≤ depth l
  nonempty : ∀ t, table = some t → ∃ q : Nat, t[q]? ≠ none

theorem Matches.none : Matches none none where
  quoted q := by
    constructor
    · intro h
      obtain ⟨t, h, -⟩ := h
      exact absurd h (by simp)
    · intro h
      obtain ⟨-, l, h, -⟩ := h
      exact absurd h (by simp)
  nonempty t h := absurd h (by simp)

theorem Matches.unfilled {t : QuoteTable} {l : List (Scaled × Nat)} {q : Nat}
    (h : Matches (some t) (some l)) (hq : depth l < q) : t[q]? = Option.none := by
  by_contra hquoted
  obtain ⟨-, l', hl, hdepth⟩ := (h.quoted q).mp ⟨t, rfl, hquoted⟩
  injection hl with hl
  rw [hl] at hq
  omega

/-- Every bucket that the old side could fill, the new one can fill too. -/
def SideKept (old : Option (List (Scaled × Nat))) (new : List (Scaled × Nat)) : Prop :=
  ∀ q ∈ QUANTITIES, (∃ l, old = some l ∧ q ≤ depth l) → q ≤ depth new

variable {tables : AList fun _ : Symbol => QuoteTable} {symbol : Symbol}
  {old : Option (List (Scaled × Nat))} {new : List (Scaled × Nat)} {quotes : List (Nat × Decimal)}

theorem mem_keys_iff (hkeys : quotes.map (·.1) = QUANTITIES.filter (· ≤ depth new)) {q : Nat} :
    q ∈ quotes.map (·.1) ↔ q ∈ QUANTITIES ∧ q ≤ depth new := by
  rw [hkeys, List.mem_filter, decide_eq_true_iff]

theorem lookup_storeQuotes_erase :
    (storeQuotes (tables.erase symbol) symbol quotes).lookup symbol =
      if quotes = [] then none else some (insertAll ∅ quotes) := by
  rw [lookup_storeQuotes, AList.lookup_erase]
  rfl

/-- The table is the one made from nothing exactly if no bucket was lost. -/
theorem storeQuotes_eq_iff (hold : Matches (tables.lookup symbol) old)
    (hkeys : quotes.map (·.1) = QUANTITIES.filter (· ≤ depth new)) :
    (storeQuotes tables symbol quotes).lookup symbol =
      (storeQuotes (tables.erase symbol) symbol quotes).lookup symbol ↔ SideKept old new := by
  rw [lookup_storeQuotes, lookup_storeQuotes_erase]
  constructor
  · intro h q hq hfilled
    obtain ⟨t, ht, hquoted⟩ := (hold.quoted q).mpr ⟨hq, hfilled⟩
    by_contra hlost
    -- a lost bucket is not written, so the old quote stays in the table
    have hkey : q ∉ quotes.map (·.1) := fun hmem => hlost ((mem_keys_iff hkeys).mp hmem).2
    by_cases hnil : quotes = []
    · rw [if_pos hnil, if_pos hnil, ht] at h
      exact absurd h (by simp)
    · rw [if_neg hnil, if_neg hnil, ht] at h
      injection h with h
      have hq : (insertAll t quotes)[q]? = (insertAll ∅ quotes)[q]? := by rw [← h]; rfl
      rw [getElem?_insertAll_not_mem hkey, getElem?_insertAll_not_mem hkey] at hq
      exact hquoted (hq.trans Std.ExtTreeMap.getElem?_empty)
  · intro hkept
    -- every bucket of the old table is written again
    have hmem {t : QuoteTable} {q : Nat} (ht : tables.lookup symbol = some t)
        (hquoted : t[q]? ≠ none) : q ∈ quotes.map (·.1) := by
      obtain ⟨hq, hfilled⟩ := (hold.quoted q).mp ⟨t, ht, hquoted⟩
      exact (mem_keys_iff hkeys).mpr ⟨hq, hkept q hq hfilled⟩
    by_cases hnil : quotes = []
    · rw [if_pos hnil, if_pos hnil]
      cases ht : tables.lookup symbol with
      | none => rfl
      | some t =>
        obtain ⟨q, hquoted⟩ := hold.nonempty t ht
        have hq := hmem ht hquoted
        rw [hnil] at hq
        exact absurd hq (by simp)
    · rw [if_neg hnil, if_neg hnil]
      congr 1
      refine Std.ExtTreeMap.ext_getElem? fun q => ?_
      by_cases hkey : q ∈ quotes.map (·.1)
      · exact getElem?_insertAll_mem hkey
      · rw [getElem?_insertAll_not_mem hkey, getElem?_insertAll_not_mem hkey]
        cases ht : tables.lookup symbol with
        | none => rfl
        | some t =>
          rw [Option.getD_some, Std.ExtTreeMap.getElem?_empty]
          by_contra hquoted
          exact hkey (hmem ht hquoted)

/-- A table made from nothing matches the side it was made from. -/
theorem Matches.store (hkeys : quotes.map (·.1) = QUANTITIES.filter (· ≤ depth new)) :
    Matches ((storeQuotes (tables.erase symbol) symbol quotes).lookup symbol) (some new) := by
  rw [lookup_storeQuotes_erase]
  refine ⟨fun q => ⟨fun h => ?_, fun h => ?_⟩, fun t ht => ?_⟩
  · obtain ⟨t, ht, hquoted⟩ := h
    by_cases hnil : quotes = []
    · rw [if_pos hnil] at ht
      exact absurd ht (by simp)
    · rw [if_neg hnil] at ht
      injection ht with ht
      have hkey : q ∈ quotes.map (·.1) := by
        by_contra hkey
        rw [← ht, getElem?_insertAll_not_mem hkey] at hquoted
        exact hquoted Std.ExtTreeMap.getElem?_empty
      obtain ⟨hq, hdepth⟩ := (mem_keys_iff hkeys).mp hkey
      exact ⟨hq, new, rfl, hdepth⟩
  · obtain ⟨hq, l, hl, hdepth⟩ := h
    injection hl with hl
    rw [← hl] at hdepth
    have hkey := (mem_keys_iff hkeys).mpr ⟨hq, hdepth⟩
    rw [if_neg (fun hnil => by rw [hnil] at hkey; exact absurd hkey (by simp))]
    exact ⟨_, rfl, getElem?_insertAll_ne_none hkey⟩
  · by_cases hnil : quotes = []
    · rw [if_pos hnil] at ht
      exact absurd ht (by simp)
    · rw [if_neg hnil] at ht
      injection ht with ht
      obtain ⟨e, he⟩ := List.exists_mem_of_ne_nil quotes hnil
      rw [← ht]
      exact ⟨e.1, getElem?_insertAll_ne_none (List.mem_map_of_mem he)⟩

/-! ## One update -/

theorem depth_reverse (side : List (Scaled × Nat)) : depth side.reverse = depth side := by
  unfold depth lotsOf
  rw [List.map_reverse, Lots.depth_reverse]

/-- Only the book of the update's contract changes. -/
theorem updateBook_lookup_ne {books books' : AList fun _ : Symbol => Level2State}
    {u : Level2State} {symbol : Symbol} (h : updateBook books u = .ok books')
    (hne : symbol ≠ u.symbol) : books'.lookup symbol = books.lookup symbol := by
  unfold updateBook at h
  split at h
  next =>
    rw [← Checked.pure_eq_ok.mp h]
    exact AList.lookup_insert_ne hne
  next =>
    split at h
    next =>
      split at h
      next =>
        rw [← Checked.pure_eq_ok.mp h]
        exact AList.lookup_insert_ne hne
      next => rw [← Checked.pure_eq_ok.mp h]
    next => exact absurd h (by simp [throw, throwThe, MonadExceptOf.throw])

/-- A book is there after the update, or there was none before. -/
theorem updateBook_lookup_none {books books' : AList fun _ : Symbol => Level2State}
    {u : Level2State} (h : updateBook books u = .ok books')
    (hnone : books'.lookup u.symbol = none) : books' = books := by
  unfold updateBook at h
  split at h
  next =>
    rw [← Checked.pure_eq_ok.mp h, AList.lookup_insert] at hnone
    exact absurd hnone (by simp)
  next =>
    split at h
    next =>
      split at h
      next =>
        rw [← Checked.pure_eq_ok.mp h, AList.lookup_insert] at hnone
        exact absurd hnone (by simp)
      next => exact (Checked.pure_eq_ok.mp h).symm
    next => exact absurd h (by simp [throw, throwThe, MonadExceptOf.throw])

section requoted

variable [Rounding]

/-- The quotes of a contract computed from its book. -/
structure Requotes (ws : WsClient) (symbol : Symbol) (s : DealerState) (l2 : Level2State)
    (bids asks : List (Nat × Decimal)) : Prop where
  book : s.level2Data.lookup symbol = some l2
  bidKeys : bids.map (·.1) = QUANTITIES.filter (· ≤ depth l2.bids.levels.reverse)
  askKeys : asks.map (·.1) = QUANTITIES.filter (· ≤ depth l2.asks.levels)
  priced : ∃ contract, ws.tradableSymbols.lookup symbol = some contract ∧
    (∀ e ∈ bids, PricedAt .ceil contract.priceDp l2.bids.levels.reverse e.1 e.2) ∧
    ∀ e ∈ asks, PricedAt .floor contract.priceDp l2.asks.levels e.1 e.2
  run : ∀ bidQuotes askQuotes, updateQuotes ws symbol { s with bidQuotes, askQuotes } =
    .ok ((), { s with
      bidQuotes := storeQuotes bidQuotes symbol bids
      askQuotes := storeQuotes askQuotes symbol asks })

theorem updateQuotes_spec {ws : WsClient} {symbol : Symbol} {s s' : DealerState}
    (h : updateQuotes ws symbol s = .ok ((), s')) :
    (ws.tradableSymbols.lookup symbol = none ∧ s' = s) ∨
      (s.level2Data.lookup symbol = none ∧ s' = s) ∨
      ∃ l2 bids asks, Requotes ws symbol s l2 bids asks := by
  have hspec : Ensures (updateQuotes ws symbol) s fun _ s' =>
      (ws.tradableSymbols.lookup symbol = none ∧ s' = s) ∨
      (s.level2Data.lookup symbol = none ∧ s' = s) ∨
      ∃ l2 bids asks, Requotes ws symbol s l2 bids asks := by
    unfold updateQuotes
    cases hc : ws.tradableSymbols.lookup symbol with
    | none => exact .ret (.inl ⟨rfl, rfl⟩)
    | some contract =>
      refine Ensures.get_bind ?_
      cases hb : s.level2Data.lookup symbol with
      | none => exact .ret (.inr (.inl ⟨rfl, rfl⟩))
      | some book =>
        refine Ensures.lift_bind fun bids hbids => ?_
        refine Ensures.lift_bind fun asks hasks => ?_
        refine .inr (.inr ⟨book, bids, asks, hb, (bidSideQuotes_spec hbids).1,
          (askSideQuotes_spec hasks).1, ⟨contract, hc, (bidSideQuotes_spec hbids).2,
            (askSideQuotes_spec hasks).2⟩, fun bidQuotes askQuotes => ?_⟩)
        unfold updateQuotes
        rw [hc]
        dsimp only
        rw [run_get_bind]
        dsimp only
        rw [hb]
        dsimp only
        rw [run_lift_bind hbids, run_lift_bind hasks, run_set]
  exact hspec.of_run h

theorem processOrderbookUpdate_eq_ok {ws : WsClient} {u : Level2State} {s s' : DealerState}
    (h : processOrderbookUpdate ws u s = .ok ((), s')) :
    ∃ books, updateBook s.level2Data u = .ok books ∧
      updateQuotes ws u.symbol { s with level2Data := books } = .ok ((), s') := by
  cases hb : updateBook s.level2Data u with
  | error e =>
    unfold processOrderbookUpdate at h
    rw [run_get_bind, run_lift_bind_error hb] at h
    exact absurd h (by simp)
  | ok books =>
    refine ⟨books, rfl, ?_⟩
    unfold processOrderbookUpdate at h
    rwa [run_get_bind, run_lift_bind hb, run_set_bind] at h

end requoted

end DealerEngine

/-! ## The tables after an update -/

/-- Every bucket the book of the update's contract could fill, it can fill after
the update. -/
def BucketsKept (s : DealerState) (u : Level2State) : Prop :=
  ∀ books new, updateBook s.level2Data u = .ok books → books.lookup u.symbol = some new →
    SideKept ((s.level2Data.lookup u.symbol).map (·.bids.levels)) new.bids.levels ∧
    SideKept ((s.level2Data.lookup u.symbol).map (·.asks.levels)) new.asks.levels

/-- The buckets with a quote are those the book can fill, for every contract. -/
def QuotesMatch (s : DealerState) : Prop :=
  ∀ symbol, Matches (s.bidQuotes.lookup symbol)
      ((s.level2Data.lookup symbol).map (·.bids.levels)) ∧
    Matches (s.askQuotes.lookup symbol) ((s.level2Data.lookup symbol).map (·.asks.levels))

/-- No quotes for a contract. -/
def DealerState.withoutQuotes (s : DealerState) (symbol : Symbol) : DealerState :=
  { s with bidQuotes := s.bidQuotes.erase symbol, askQuotes := s.askQuotes.erase symbol }

section current

variable [Rounding]

/-- The tables of a contract are those computed from its book alone: they have no
quote for a bucket the book cannot fill, and no rate comes from an older book. -/
structure QuotesCurrent (cfg : DealerConfig) (ws : WsClient) (s : DealerState) (symbol : Symbol) :
    Prop where
  fresh : ∃ s', updateQuotes ws symbol (s.withoutQuotes symbol) = .ok ((), s') ∧
    s.bidQuotes.lookup symbol = s'.bidQuotes.lookup symbol ∧
    s.askQuotes.lookup symbol = s'.askQuotes.lookup symbol ∧
    ∀ amount conversion charge, conversion.symbol = symbol →
      getBtcCrossRate cfg s amount conversion charge =
        getBtcCrossRate cfg s' amount conversion charge
  unfilledBids : ∀ l2 t q, s.level2Data.lookup symbol = some l2 →
    s.bidQuotes.lookup symbol = some t → depth l2.bids.levels < q → t[q]? = none
  unfilledAsks : ∀ l2 t q, s.level2Data.lookup symbol = some l2 →
    s.askQuotes.lookup symbol = some t → depth l2.asks.levels < q → t[q]? = none

variable {s s' : DealerState} {ws : WsClient} {u : Level2State}

theorem getBtcCrossRate_congr {symbol : Symbol} {amount : Money} {conversion : ConversionInfo}
    {charge : Bool} (hbids : s.bidQuotes.lookup symbol = s'.bidQuotes.lookup symbol)
    (hasks : s.askQuotes.lookup symbol = s'.askQuotes.lookup symbol)
    (hsymbol : conversion.symbol = symbol) :
    getBtcCrossRate cfg s amount conversion charge =
      getBtcCrossRate cfg s' amount conversion charge := by
  have hquotes : quotesFor s conversion = quotesFor s' conversion := by
    unfold quotesFor
    rw [hsymbol, hbids, hasks]
  unfold getBtcCrossRate
  rw [hquotes]

/-- A delta of an unknown book changes nothing. -/
theorem QuotesMatch.current_of_none (hs : QuotesMatch s) {symbol : Symbol}
    (hnone : s.level2Data.lookup symbol = none) : QuotesCurrent cfg ws s symbol := by
  have hno {table : Option QuoteTable} (h : Matches table none) : table = none := by
    cases ht : table with
    | none => rfl
    | some t =>
      obtain ⟨q, hq⟩ := h.nonempty t ht
      obtain ⟨-, l, hl, -⟩ := (h.quoted q).mp ⟨t, ht, hq⟩
      exact absurd hl (by simp)
  have hbids := (hs symbol).1
  have hasks := (hs symbol).2
  rw [hnone] at hbids hasks
  have hbids := hno hbids
  have hasks := hno hasks
  have hrun : updateQuotes ws symbol (s.withoutQuotes symbol) =
      .ok ((), s.withoutQuotes symbol) := by
    have hnone' : (s.withoutQuotes symbol).level2Data.lookup symbol = none := hnone
    cases hc : ws.tradableSymbols.lookup symbol with
    | none =>
      unfold updateQuotes
      rw [hc]
      exact run_pure _
    | some contract =>
      unfold updateQuotes
      rw [hc]
      dsimp only
      rw [run_get_bind, hnone']
      exact run_pure _
  have hb : s.bidQuotes.lookup symbol = (s.withoutQuotes symbol).bidQuotes.lookup symbol :=
    hbids.trans (AList.lookup_erase symbol s.bidQuotes).symm
  have ha : s.askQuotes.lookup symbol = (s.withoutQuotes symbol).askQuotes.lookup symbol :=
    hasks.trans (AList.lookup_erase symbol s.askQuotes).symm
  refine ⟨⟨_, hrun, hb, ha, fun _ _ _ h => getBtcCrossRate_congr hb ha h⟩, ?_, ?_⟩
  · intro l2 t q hl2
    rw [hnone] at hl2
    exact absurd hl2 (by simp)
  · intro l2 t q hl2
    rw [hnone] at hl2
    exact absurd hl2 (by simp)

/-- The tables are current after an update exactly if it keeps the buckets, and
then they match the book again. -/
theorem QuotesMatch.update (hs : QuotesMatch s)
    (htradable : ws.tradableSymbols.lookup u.symbol ≠ none)
    (h : processOrderbookUpdate ws u s = .ok ((), s')) :
    (QuotesCurrent cfg ws s' u.symbol ↔ BucketsKept s u) ∧ (BucketsKept s u → QuotesMatch s') := by
  obtain ⟨books, hbooks, h⟩ := processOrderbookUpdate_eq_ok h
  rcases updateQuotes_spec h with ⟨hnone, -⟩ | ⟨hnone, rfl⟩ | ⟨l2, bids, asks, hreq⟩
  · exact absurd hnone htradable
  · have hnone : books.lookup u.symbol = none := hnone
    obtain rfl := updateBook_lookup_none hbooks hnone
    have hkept : BucketsKept s u := by
      intro books' new hbooks' hnew
      rw [hbooks] at hbooks'
      injection hbooks' with hbooks'
      rw [← hbooks', hnone] at hnew
      exact absurd hnew (by simp)
    exact ⟨⟨fun _ => hkept, fun _ => hs.current_of_none hnone⟩, fun _ => hs⟩
  · -- the new book, and what its quotes made of the tables
    have hl2 : books.lookup u.symbol = some l2 := hreq.book
    have hs' := hreq.run s.bidQuotes s.askQuotes
    rw [h] at hs'
    injection hs' with hs'
    obtain rfl := (Prod.ext_iff.mp hs').2
    have hbidKeys := hreq.bidKeys
    rw [depth_reverse] at hbidKeys
    have hbids := storeQuotes_eq_iff (hs u.symbol).1 hbidKeys
    have hasks := storeQuotes_eq_iff (hs u.symbol).2 hreq.askKeys
    have hbuckets : BucketsKept s u ↔
        SideKept ((s.level2Data.lookup u.symbol).map (·.bids.levels)) l2.bids.levels ∧
        SideKept ((s.level2Data.lookup u.symbol).map (·.asks.levels)) l2.asks.levels := by
      constructor
      · intro hkept
        exact hkept books l2 hbooks hl2
      · intro hkept books' new hbooks' hnew
        rw [hbooks] at hbooks'
        injection hbooks' with hbooks'
        rw [← hbooks', hl2] at hnew
        injection hnew with hnew
        rw [← hnew]
        exact hkept
    -- where no bucket was lost, the tables are those of the new book
    have hmatch (hkept : BucketsKept s u) :
        Matches ((storeQuotes s.bidQuotes u.symbol bids).lookup u.symbol) (some l2.bids.levels) ∧
        Matches ((storeQuotes s.askQuotes u.symbol asks).lookup u.symbol)
          (some l2.asks.levels) := by
      obtain ⟨hkeptBids, hkeptAsks⟩ := hbuckets.mp hkept
      rw [hbids.mpr hkeptBids, hasks.mpr hkeptAsks]
      exact ⟨.store hbidKeys, .store hreq.askKeys⟩
    refine ⟨⟨fun hcur => ?_, fun hkept => ?_⟩, fun hkept symbol => ?_⟩
    · -- current tables are those that are made from nothing
      obtain ⟨s₂, hrun, hb, ha, -⟩ := hcur.fresh
      have hrun' := hreq.run
        ((storeQuotes s.bidQuotes u.symbol bids).erase u.symbol)
        ((storeQuotes s.askQuotes u.symbol asks).erase u.symbol)
      have heq := hrun.symm.trans hrun'
      injection heq with heq
      obtain rfl := (Prod.ext_iff.mp heq).2
      refine hbuckets.mpr ⟨hbids.mp ?_, hasks.mp ?_⟩
      · exact hb.trans (lookup_storeQuotes_erase.trans lookup_storeQuotes_erase.symm)
      · exact ha.trans (lookup_storeQuotes_erase.trans lookup_storeQuotes_erase.symm)
    · obtain ⟨hkeptBids, hkeptAsks⟩ := hbuckets.mp hkept
      obtain ⟨hmatchBids, hmatchAsks⟩ := hmatch hkept
      have hb : (storeQuotes s.bidQuotes u.symbol bids).lookup u.symbol =
          (storeQuotes ((storeQuotes s.bidQuotes u.symbol bids).erase u.symbol)
            u.symbol bids).lookup
            u.symbol :=
        (hbids.mpr hkeptBids).trans (lookup_storeQuotes_erase.trans lookup_storeQuotes_erase.symm)
      have ha : (storeQuotes s.askQuotes u.symbol asks).lookup u.symbol =
          (storeQuotes ((storeQuotes s.askQuotes u.symbol asks).erase u.symbol)
            u.symbol asks).lookup
            u.symbol :=
        (hasks.mpr hkeptAsks).trans (lookup_storeQuotes_erase.trans lookup_storeQuotes_erase.symm)
      refine ⟨⟨_, hreq.run _ _, hb, ha, fun _ _ _ h => getBtcCrossRate_congr hb ha h⟩, ?_, ?_⟩
      · intro l2' t q hl2' ht hq
        have hl2' : books.lookup u.symbol = some l2' := hl2'
        rw [hl2] at hl2'
        injection hl2' with hl2'
        have ht : (storeQuotes s.bidQuotes u.symbol bids).lookup u.symbol = some t := ht
        rw [ht] at hmatchBids
        exact hmatchBids.unfilled (by rw [hl2']; exact hq)
      · intro l2' t q hl2' ht hq
        have hl2' : books.lookup u.symbol = some l2' := hl2'
        rw [hl2] at hl2'
        injection hl2' with hl2'
        have ht : (storeQuotes s.askQuotes u.symbol asks).lookup u.symbol = some t := ht
        rw [ht] at hmatchAsks
        exact hmatchAsks.unfilled (by rw [hl2']; exact hq)
    · show Matches ((storeQuotes s.bidQuotes u.symbol bids).lookup symbol)
          ((books.lookup symbol).map (·.bids.levels)) ∧
        Matches ((storeQuotes s.askQuotes u.symbol asks).lookup symbol)
          ((books.lookup symbol).map (·.asks.levels))
      -- the tables of the other contracts are not touched
      by_cases hsymbol : symbol = u.symbol
      · rw [hsymbol, hl2]
        exact hmatch hkept
      · rw [lookup_storeQuotes_ne hsymbol, lookup_storeQuotes_ne hsymbol,
          updateBook_lookup_ne hbooks hsymbol]
        exact hs symbol

end current

/-! ## Runs -/

variable {s s' : DealerState}

/-- The contract of a reported book can be traded. -/
def Tradable (d : DealerDelivery) : Prop :=
  ∀ u, d.input = .kollider (.level2State u) → d.env.ws.tradableSymbols.lookup u.symbol ≠ none

/-- A run in which the tables are current after every report of a book. -/
abbrev CurrentRun (cfg : DealerConfig) : DealerState → List DealerDelivery → DealerState → Prop :=
  Trace fun s d s' => (∀ u, d.input = .kollider (.level2State u) →
    QuotesCurrent cfg d.env.ws s' u.symbol) ∧ DealerDelivers cfg s d s'

/-- A run in which no report of a book takes away a bucket. -/
abbrev KeptRun (cfg : DealerConfig) : DealerState → List DealerDelivery → DealerState → Prop :=
  Trace fun s d s' => (∀ u, d.input = .kollider (.level2State u) → BucketsKept s u) ∧
    DealerDelivers cfg s d s'

theorem QuotesMatch.of_noMarket (h : NoMarket s) : QuotesMatch s := by
  intro symbol
  rw [h.level2Data, h.bidQuotes, h.askQuotes]
  exact ⟨.none, .none⟩

theorem QuotesMatch.of_sameMarket (hs : QuotesMatch s) (h : SameMarket s s') : QuotesMatch s' := by
  intro symbol
  rw [h.level2Data, h.bidQuotes, h.askQuotes]
  exact hs symbol

/-- Under the invariant, a step leaves current tables exactly if it keeps the
buckets, and then it keeps the invariant. -/
theorem QuotesMatch.step {d : DealerDelivery} (hs : QuotesMatch s) (ht : Tradable d)
    (h : DealerDelivers cfg s d s') :
    ((∀ u, d.input = .kollider (.level2State u) → QuotesCurrent cfg d.env.ws s' u.symbol) ↔
      ∀ u, d.input = .kollider (.level2State u) → BucketsKept s u) ∧
    ((∀ u, d.input = .kollider (.level2State u) → BucketsKept s u) → QuotesMatch s') := by
  by_cases hlevel : ∃ u, d.input = .kollider (.level2State u)
  · obtain ⟨u, hu⟩ := hlevel
    have hrun := dealerDelivers_iff.mp h
    rw [hu] at hrun
    have hone (u' : Level2State) (hu' : d.input = .kollider (.level2State u')) : u' = u := by
      rw [hu] at hu'
      injection hu' with hu'
      injection hu' with hu'
      exact hu'.symm
    have hupdate : (QuotesCurrent cfg d.env.ws s' u.symbol ↔ BucketsKept s u) ∧
        (BucketsKept s u → QuotesMatch s') := hs.update (ht u hu) hrun
    obtain ⟨hiff, hkeep⟩ := hupdate
    refine ⟨⟨fun hcur u' hu' => ?_, fun hkept u' hu' => ?_⟩, fun hkept => hkeep (hkept u hu)⟩
    · rw [hone u' hu']
      exact hiff.mp (hcur u hu)
    · rw [hone u' hu']
      exact hiff.mpr (hkept u hu)
  · refine ⟨⟨fun _ u hu => absurd ⟨u, hu⟩ hlevel, fun _ u hu => absurd ⟨u, hu⟩ hlevel⟩, fun _ => ?_⟩
    rcases h.market with ⟨u, hu, -⟩ | hsame | hnone
    · exact absurd ⟨u, hu⟩ hlevel
    · exact hs.of_sameMarket hsame
    · exact .of_noMarket hnone

/-- The tables are current after every report of a book exactly if no report
takes away a bucket that its book could fill before. -/
theorem current_iff_kept {env : DealerEnv} {pnl : Decimal} {ds : List DealerDelivery}
    (htradable : ∀ d ∈ ds, Tradable d) :
    CurrentRun cfg (.new cfg env pnl) ds s ↔ KeptRun cfg (.new cfg env pnl) ds s := by
  have hnew : QuotesMatch (.new cfg env pnl) := .of_noMarket ⟨rfl, rfl, rfl⟩
  constructor
  · intro h
    refine (h.restrict_mono (I := QuotesMatch) hnew fun s d s' hd hs hstep hcur => ?_).1
    obtain ⟨hiff, hkeep⟩ := hs.step (htradable d hd) hstep
    exact ⟨hiff.mp hcur, hkeep (hiff.mp hcur)⟩
  · intro h
    refine (h.restrict_mono (I := QuotesMatch) hnew fun s d s' hd hs hstep hkept => ?_).1
    obtain ⟨hiff, hkeep⟩ := hs.step (htradable d hd) hstep
    exact ⟨hiff.mpr hkept, hkeep hkept⟩

namespace Sample

def snapshotOf (volume : Nat) : DealerDelivery :=
  ⟨dealerEnv 1, dollarBook "snapshot" 20000 20010 volume⟩

theorem tradable_snapshotOf (volume : Nat) : Tradable (snapshotOf volume) := by
  intro u hu
  injection hu with hu
  injection hu with hu
  rw [← hu]
  show List.lookup usdSymbol [(usdSymbol, (⟨0⟩ : TradableSymbol))] ≠ none
  simp

/-- A first report has nothing to take away. -/
theorem bucketsKept_first (d : DealerDelivery) :
    ∀ u, d.input = .kollider (.level2State u) → BucketsKept dealer u := by
  intro u _ books new _ _
  have hnone : dealer.level2Data.lookup u.symbol = none := rfl
  rw [hnone]
  exact ⟨fun q _ h => absurd h (by simp), fun q _ h => absurd h (by simp)⟩

end Sample

/-- A first snapshot takes nothing away. -/
theorem current_after_snapshot : ∃ s t, CurrentRun Sample.dealerConfig Sample.dealer
    [Sample.snapshotOf 100] s ∧ s.bidQuotes.lookup Sample.usdSymbol = some t ∧
    t[100]? = some 20000 := by
  obtain ⟨s, hstep, hquote⟩ := exists_dealerDelivers Sample.dealerConfig (Sample.snapshotOf 100)
    Sample.dealer (fun s => (s.bidQuotes.lookup Sample.usdSymbol).any (·[100]? = some 20000) = true)
    (by decide +kernel)
  obtain ⟨t, ht, hquote⟩ := (Option.any_eq_true _ _).mp hquote
  refine ⟨s, t, ?_, ht, of_decide_eq_true hquote⟩
  refine (current_iff_kept ?_).mpr ((Trace.nil _).snoc ⟨Sample.bucketsKept_first _, hstep⟩)
  intro d hd
  rw [List.mem_singleton.mp hd]
  exact Sample.tradable_snapshotOf 100

/-- A deep book is replaced by a shallow one: the bucket of 100 keeps its quote,
and a swap of that size is still priced by it. -/
theorem stale_quote_after_shrink : ∃ ds s l2 t rate fees,
    DealerRun Sample.dealerConfig Sample.dealer ds s ∧ (∀ d ∈ ds, Tradable d) ∧
      s.level2Data.lookup Sample.usdSymbol = some l2 ∧ depth l2.bids.levels < 100 ∧
      s.bidQuotes.lookup Sample.usdSymbol = some t ∧ t[100]? = some 20000 ∧
      getRate Sample.dealerConfig s ⟨.BTC, 1 / 250⟩ .USD = .ok (some rate, fees) ∧
      ¬QuotesCurrent Sample.dealerConfig (Sample.dealerEnv 1).ws s Sample.usdSymbol := by
  obtain ⟨s, hrun, hbook, hquote, hrate⟩ := exists_dealerRun Sample.dealerConfig
    [Sample.snapshotOf 100, Sample.snapshotOf 10] Sample.dealer
    (fun s => (s.level2Data.lookup Sample.usdSymbol).any (depth ·.bids.levels < 100) = true ∧
      (s.bidQuotes.lookup Sample.usdSymbol).any (·[100]? = some 20000) = true ∧
      (getRate Sample.dealerConfig s ⟨.BTC, 1 / 250⟩ .USD).toOption.any (·.1.isSome) = true)
    (by decide +kernel)
  obtain ⟨l2, hl2, hdepth⟩ := (Option.any_eq_true _ _).mp hbook
  obtain ⟨t, ht, hquote⟩ := (Option.any_eq_true _ _).mp hquote
  have hdepth := of_decide_eq_true hdepth
  have hquote := of_decide_eq_true hquote
  cases hr : getRate Sample.dealerConfig s ⟨.BTC, 1 / 250⟩ .USD with
  | error e =>
    rw [hr] at hrate
    exact absurd hrate (by simp [Except.toOption])
  | ok quoted =>
    obtain ⟨rate, fees⟩ := quoted
    rw [hr] at hrate
    obtain ⟨r, rfl⟩ := Option.isSome_iff_exists.mp (by simpa [Except.toOption] using hrate)
    refine ⟨_, s, l2, t, r, fees, hrun, fun d hd => ?_, hl2, hdepth, ht, hquote, hr, fun hcur => ?_⟩
    · rcases List.mem_cons.mp hd with rfl | hd
      · exact Sample.tradable_snapshotOf 100
      · rw [List.mem_singleton.mp hd]
        exact Sample.tradable_snapshotOf 10
    · rw [hcur.unfilledBids l2 t 100 hl2 ht hdepth] at hquote
      exact absurd hquote (by simp)

end Lndhubx
