import Mathlib.Data.List.TakeWhile
import Lndhubx.Lib.Like
import Lndhubx.Lib.Query
import Lndhubx.Nostr.Engine

/-!
# Searching nostr profiles

`NostrProfileRecord::search_by_text`, `models/src/nostr_profiles.rs`, the query behind
`search_profile_by_text` of the engine. A text is looked for in the names of a profile,
and in its two internet identifiers in front of an `@`, unless it has an `@` itself. The
text is put into the patterns after a backslash in front of each `%` and `_`, and in
lower case.

`profileAccepted_iff_matches`: the rows the query selects are those that mention the text,
whatever the rows are, exactly if the text has no backslash. `search_answered_with_best`
says what the engine then answers with, the database being free in the order of rows that
are verified alike: profiles that mention the text, the verified ones first, and none left
out for one that is less verified.
-/

namespace Lndhubx

open Like (Folding backslash)

namespace NostrProfileRecord

/-- `text.replace('%', "\%").replace('_', "\_")` -/
def escapedText (text : List Char) : List Char :=
  Like.escapeChar '_' (Like.escapeChar '%' text)

/-- `split_once('@')` and the pattern made of the two parts, or of the whole text. -/
def internetIdentifier (escapedLowered : List Char) : List Char :=
  match escapedLowered.span (· != '@') with
  | (localPart, _ :: domain) => '%' :: (localPart ++ '@' :: (domain ++ ['%']))
  | (_, []) => Like.search escapedLowered ++ ['@', '%']

variable (F : Folding) (toLowercase : List Char → List Char)

/-- `column ILIKE pattern`, where it is true: it is not true of `NULL`. -/
def isLike (pattern : List Char) (column : Option String) : Bool :=
  column.any fun value => F.ilike value.toList pattern == some true

/-- The condition on the columns with text. -/
def accepted (text : String) (r : NostrProfileRecord) : Bool :=
  let escapedLowered := toLowercase (escapedText text.toList)
  let namePattern := Like.search escapedLowered
  let identifier := internetIdentifier escapedLowered
  isLike F namePattern r.name || isLike F namePattern r.displayName ||
    isLike F identifier r.nip05 || isLike F identifier r.lud16

/-- `ORDER BY nip05_verified DESC NULLS LAST` -/
def rank (r : NostrProfileRecord) : Nat :=
  match r.nip05Verified with
  | some true => 0
  | some false => 1
  | none => 2

/-- The rows of the `WHERE`. -/
def selected (table : NostrProfileRecords) (pubkey text : Option String) :
    List NostrProfileRecord :=
  table.rows.filter fun r =>
    pubkey.all (fun pkey => r.pubkey = pkey) && text.all (fun txt => accepted F toLowercase txt r)

/-- The lists `search_by_text` may give for a table. -/
def IsFound (table : NostrProfileRecords) (pubkey text : Option String) (limit : Option Nat)
    (found : List NostrProfileRecord) : Prop :=
  if pubkey.isNone ∧ text.isNone then found = []
  else Query.IsTop rank limit (selected F toLowercase table pubkey text) found

/-- One of them. -/
def searchByText (table : NostrProfileRecords) (pubkey text : Option String)
    (limit : Option Nat) : List NostrProfileRecord :=
  if pubkey.isNone ∧ text.isNone then []
  else Query.limited limit (Query.orderBy rank (selected F toLowercase table pubkey text))

theorem isFound_searchByText (table : NostrProfileRecords) (pubkey text : Option String)
    (limit : Option Nat) :
    IsFound F toLowercase table pubkey text limit
      (searchByText F toLowercase table pubkey text limit) := by
  unfold IsFound searchByText
  split
  · rfl
  · exact Query.isTop_orderBy rank limit _

/-! ## What is found -/

/-- An identifier mentions a text with an `@` like a name does, and another text in front
of its `@`. -/
def MentionsAddress (value text : List Char) : Prop :=
  if '@' ∈ text then F.Contains value text
  else ∃ u v, value = u ++ '@' :: v ∧ F.Contains u text

/-- What a search for the text is meant to find. -/
def Matches (text : List Char) (r : NostrProfileRecord) : Prop :=
  (∃ name ∈ r.name, F.Contains name.toList text) ∨
    (∃ name ∈ r.displayName, F.Contains name.toList text) ∨
    (∃ address ∈ r.nip05, MentionsAddress F address.toList text) ∨
    (∃ address ∈ r.lud16, MentionsAddress F address.toList text)

def textSpecials : List Char := ['_', '%']

theorem escapedText_eq (text : List Char) : escapedText text = Like.escape textSpecials text := by
  have hpercent : Like.escapeChar '%' text = Like.escape ['%'] text := by
    have h : Like.escapeChar '%' (Like.escape [] text) = Like.escape ['%'] text :=
      Like.escapeChar_escape (by simp) (by decide) text
    rw [Like.escape_nil] at h
    exact h
  unfold escapedText textSpecials
  rw [hpercent]
  exact Like.escapeChar_escape (by decide) (by decide) text

theorem textSpecials_escapes : Like.Escapes textSpecials := ⟨by decide, by decide, by decide⟩

theorem textSpecials_isSign : ∀ c ∈ textSpecials, Like.IsSign c := by
  simp only [textSpecials, List.forall_mem_cons, List.not_mem_nil, false_implies, implies_true,
    and_true]
  decide

theorem textSpecials_read : ∀ c ∈ textSpecials, Like.item c ≠ .lit c := by
  simp only [textSpecials, List.forall_mem_cons, List.not_mem_nil, false_implies, implies_true,
    and_true]
  decide

/-- The patterns of an identifier, with an `@` in the text and without. -/
theorem internetIdentifier_of_mem {x : List Char} (h : '@' ∈ x) :
    internetIdentifier x = Like.search x := by
  unfold internetIdentifier
  have hspan := List.takeWhile_append_dropWhile (p := (· != '@')) (l := x)
  rw [List.span_eq_takeWhile_dropWhile]
  cases hdrop : x.dropWhile (· != '@') with
  | nil =>
    have hall := List.dropWhile_eq_nil_iff.mp hdrop '@' h
    exact absurd hall (by decide)
  | cons c domain =>
    have hc : c = '@' := by
      have hnot := List.head_dropWhile_not (· != '@') (l := x) (by rw [hdrop]; simp)
      simp only [hdrop, List.head_cons] at hnot
      simpa using hnot
    show '%' :: (x.takeWhile (· != '@') ++ '@' :: (domain ++ ['%'])) = Like.search x
    rw [hdrop, hc] at hspan
    unfold Like.search
    conv_rhs => rw [← hspan]
    rw [List.append_assoc, List.cons_append]

theorem internetIdentifier_of_not_mem {x : List Char} (h : '@' ∉ x) :
    internetIdentifier x = Like.search x ++ ['@', '%'] := by
  unfold internetIdentifier
  rw [List.span_eq_takeWhile_dropWhile]
  have hdrop : x.dropWhile (· != '@') = [] := by
    refine List.dropWhile_eq_nil_iff.mpr fun c hc => ?_
    have hne : c ≠ '@' := fun e => h (e ▸ hc)
    simpa using hne
  rw [hdrop]

theorem isSign_at : Like.IsSign '@' := by decide

section OneText

variable {F toLowercase} {text : List Char}
  (hlower : F.fold (toLowercase (escapedText text)) = F.fold (escapedText text))
include hlower

theorem fold_lowered :
    F.fold (toLowercase (escapedText text)) = Like.escape textSpecials (F.fold text) := by
  rw [hlower, escapedText_eq, Folding.fold_escape textSpecials_isSign]

theorem mem_lowered_iff : '@' ∈ toLowercase (escapedText text) ↔ '@' ∈ text := by
  rw [← Folding.mem_fold_iff (F := F) isSign_at, hlower, Folding.mem_fold_iff isSign_at,
    escapedText_eq, Like.mem_escape_iff (by decide)]

/-- The pattern for a name is that of the text as it was typed. -/
theorem ilike_namePattern (s : List Char) :
    F.ilike s (Like.search (toLowercase (escapedText text))) =
      F.ilike s (Like.search (Like.escape textSpecials text)) := by
  unfold Folding.ilike
  rw [Folding.fold_search, Folding.fold_search, fold_lowered hlower,
    Folding.fold_escape textSpecials_isSign]

/-- The pattern for an address that has its `@` behind the text. -/
theorem fold_addressPattern :
    F.fold (Like.search (toLowercase (escapedText text)) ++ ['@', '%']) =
      '%' :: (Like.escape textSpecials (F.fold text) ++ ['%', '@', '%']) := by
  have happend : ∀ x y : List Char, F.fold (x ++ y) = F.fold x ++ F.fold y :=
    fun x y => List.map_append
  have htail : F.fold ['@', '%'] = ['@', '%'] := by
    show [F.lower '@', F.lower '%'] = ['@', '%']
    rw [Folding.lower_sign isSign_at, Folding.lower_sign Folding.isSign_percent]
  rw [happend, htail, Folding.fold_search, fold_lowered hlower]
  unfold Like.search
  rw [List.cons_append, List.append_assoc]
  rfl

omit hlower in
theorem like_addressPattern_iff (ht : Like.Harmless textSpecials (F.fold text)) (s : List Char) :
    Like.like (F.fold s) ('%' :: (Like.escape textSpecials (F.fold text) ++ ['%', '@', '%'])) =
        some true ↔
      ∃ u v, s = u ++ '@' :: v ∧ F.Contains u text := by
  have hq : Like.parse false ['%', '@', '%'] = some (.any :: (Like.lits ['@'] ++ [.any])) := rfl
  rw [Like.like_harmless_iff textSpecials_escapes ht hq]
  constructor
  · intro ⟨u, v, hs, hv⟩
    obtain ⟨a, b, rfl, _⟩ := (Like.accepts_any_lits_iff ['@'] [.any] v).mp hv
    have hcut : F.fold s = (u ++ F.fold text ++ a) ++ '@' :: b := by
      rw [hs]
      simp
    obtain ⟨u', v', hs', hu, _⟩ := Folding.fold_eq_append_sign isSign_at hcut
    exact ⟨u', v', hs', u, a, hu.symm⟩
  · intro ⟨u', v', hs, u, a, hu⟩
    refine ⟨u, a ++ '@' :: F.fold v', ?_, ?_⟩
    · have hfold : F.fold s = F.fold u' ++ F.lower '@' :: F.fold v' := by
        rw [hs]
        exact List.map_append
      rw [hfold, ← hu, Folding.lower_sign isSign_at]
      simp
    · exact (Like.accepts_any_lits_iff ['@'] [.any] _).mpr
        ⟨a, F.fold v', rfl, Like.accepts_any _⟩

variable (hb : backslash ∉ text)
include hb

theorem ilike_name_iff (s : List Char) :
    F.ilike s (Like.search (toLowercase (escapedText text))) = some true ↔
      F.Contains s text := by
  rw [ilike_namePattern hlower]
  exact Folding.ilike_search_of_harmless textSpecials_isSign textSpecials_escapes
    (Like.harmless_of_not_mem hb) s

theorem ilike_identifier_iff (s : List Char) :
    F.ilike s (internetIdentifier (toLowercase (escapedText text))) = some true ↔
      MentionsAddress F s text := by
  unfold MentionsAddress
  by_cases hat : '@' ∈ text
  · rw [internetIdentifier_of_mem ((mem_lowered_iff hlower).mpr hat), if_pos hat]
    exact ilike_name_iff hlower hb s
  · rw [internetIdentifier_of_not_mem fun h => hat ((mem_lowered_iff hlower).mp h), if_neg hat,
      Folding.ilike, fold_addressPattern hlower]
    have hharmless := (Folding.harmless_fold_iff (F := F) textSpecials_isSign text).mpr
      (Like.harmless_of_not_mem hb)
    exact like_addressPattern_iff hharmless s

end OneText

/-- The condition of the query, column by column. -/
theorem accepted_iff (F : Folding) (toLowercase : List Char → List Char) (text : String)
    (r : NostrProfileRecord) :
    accepted F toLowercase text r = true ↔
      (∃ name ∈ r.name, F.ilike name.toList
        (Like.search (toLowercase (escapedText text.toList))) = some true) ∨
      (∃ name ∈ r.displayName, F.ilike name.toList
        (Like.search (toLowercase (escapedText text.toList))) = some true) ∨
      (∃ address ∈ r.nip05, F.ilike address.toList
        (internetIdentifier (toLowercase (escapedText text.toList))) = some true) ∨
      (∃ address ∈ r.lud16, F.ilike address.toList
        (internetIdentifier (toLowercase (escapedText text.toList))) = some true) := by
  have hcolumn : ∀ (pattern : List Char) (column : Option String),
      isLike F pattern column = true ↔
        ∃ value ∈ column, F.ilike value.toList pattern = some true := by
    intro pattern column
    unfold isLike
    rw [Option.any_eq_true]
    simp
  unfold accepted
  simp only [Bool.or_eq_true, hcolumn, or_assoc]

/-- A profile with nothing but a name. -/
def named (name : String) : NostrProfileRecord where
  pubkey := ""
  createdAt := 0
  receivedAt := 0
  name := some name
  displayName := none
  nip05 := none
  lud16 := none
  nip05Verified := none
  content := ""
  lnurlPayReq := none

/-- The rows the query selects are those that mention the text, if the text has no
backslash, and only then. -/
theorem profileAccepted_iff_matches (F : Folding) (toLowercase : List Char → List Char)
    (text : String)
    (hlower : F.fold (toLowercase (escapedText text.toList)) =
      F.fold (escapedText text.toList)) :
    (∀ r, accepted F toLowercase text r = true ↔ Matches F text.toList r) ↔
      backslash ∉ text.toList := by
  constructor
  · intro hall
    rw [← Like.harmless_iff_not_mem textSpecials_read]
    refine (Folding.ilike_search_iff (F := F) textSpecials_isSign textSpecials_escapes
      text.toList).mp fun s => ?_
    -- what is said of all profiles is said of those that have the name only
    have hone := hall (named (String.ofList s))
    rw [accepted_iff] at hone
    simpa [Matches, named, ilike_namePattern hlower] using hone
  · intro hb r
    rw [accepted_iff]
    simp only [ilike_name_iff hlower hb, ilike_identifier_iff hlower hb]
    exact Iff.rfl

end NostrProfileRecord

/-! ## The answer of the engine -/

namespace NostrEngine

open NostrProfileRecord

/-- A row that is found, as the engine shares it; one whose content does not parse is
left out. -/
def shareRecord (fns : NostrEngineFns) (record : NostrProfileRecord) :
    Option ShareableNostrProfile :=
  (fns.parseProfile record.content).map fun profile =>
    { pubkey := record.pubkey
      createdAt := record.createdAt.toInt.tdiv 1000
      profile := { profile with nip05Verified := record.nip05Verified }
      validatedLnurlPayReq := record.lnurlPayReq }

/-- The profiles a search for a text should answer with. -/
structure IsBest (F : Folding) (s : NostrEngine) (text : String) (limit : Nat)
    (found : List NostrProfileRecord) : Prop where
  stored : ∀ r ∈ found, r ∈ s.dbPool.rows
  matching : ∀ r ∈ found, Matches F text.toList r
  length_le : found.length ≤ limit
  ordered : found.Pairwise fun a b => rank a ≤ rank b
  /-- What matches and is left out had no room, and is verified no better than any that is
  there. -/
  leftOut : ∀ r ∈ s.dbPool.rows, Matches F text.toList r → r ∉ found →
    found.length = limit ∧ ∀ a ∈ found, rank a ≤ rank r

/-- A search for a text without a backslash is answered, under its own id, with the best
of the profiles that mention the text, whatever the database does with rows of one rank. -/
theorem search_answered_with_best (F : Folding) (toLowercase : List Char → List Char)
    (fns : NostrEngineFns)
    (hselect : ∀ table pubkey text limit,
      IsFound F toLowercase table pubkey text limit (fns.selectByText table pubkey text limit))
    (env : NostrEnv) (hconn : env.conn = true) (hquery : env.query = true) (s : NostrEngine)
    (reqId : RequestId) (text : String) (limit : Nat) (hb : backslash ∉ text.toList)
    (hlower : F.fold (toLowercase (escapedText text.toList)) =
      F.fold (escapedText text.toList)) :
    ∃ found, IsBest F s text limit found ∧
      processEvent fns env (.lndhubxMessage (.api (.nostrProfileSearchRequest
          { reqId, pubkey := none, text := some text, limit := some limit }))) s =
        .ok (s.sendToBank (.api (.nostrProfileSearchResponse
          { reqId, data := found.filterMap (shareRecord fns), error := none }))) := by
  have hmatch := (profileAccepted_iff_matches F toLowercase text hlower).mpr hb
  have hfound := hselect s.dbPool none (some text) (some limit)
  have hnone : ¬((none : Option String).isNone = true ∧ (some text).isNone = true) := by simp
  unfold IsFound at hfound
  rw [if_neg hnone] at hfound
  refine ⟨fns.selectByText s.dbPool none (some text) (some limit), ?_, ?_⟩
  · have hmem : ∀ r, r ∈ selected F toLowercase s.dbPool none (some text) ↔
        r ∈ s.dbPool.rows ∧ Matches F text.toList r := by
      intro r
      unfold selected
      rw [List.mem_filter, ← hmatch r]
      simp
    exact
      { stored := fun r hr => ((hmem r).mp (hfound.mem hr)).1
        matching := fun r hr => ((hmem r).mp (hfound.mem hr)).2
        length_le := hfound.length_le rfl
        ordered := hfound.ordered
        leftOut := by
          intro r hr hmatches hout
          have hsel := (hmem r).mpr ⟨hr, hmatches⟩
          refine ⟨?_, fun a ha => hfound.best ha hsel hout⟩
          have hle := hfound.length_le rfl
          by_contra hne
          refine hout (hfound.complete (fun n hn => ?_) hsel)
          rw [← Option.some.inj hn]
          omega }
  · have hsearch : searchProfileByText fns env s none (some text) (some limit) =
        .ok ((fns.selectByText s.dbPool none (some text) (some limit)).filterMap
          (shareRecord fns)) := by
      unfold searchProfileByText
      rw [hconn, hquery, if_neg hnone]
      rfl
    unfold processEvent processMessage
    simp only [hsearch]

namespace Sample

/-- The functions of an engine over a database in the locale `C`. -/
def searchFns : NostrEngineFns :=
  { fns with selectByText := searchByText Like.asciiFolding (List.map Char.toLower) }

/-- An engine that knows one profile. -/
def annLee : NostrEngine := NostrEngine.new ((named "ann_lee").upsert Table.empty)

theorem search_answered_with_best_sample :
    ∃ found, IsBest Like.asciiFolding annLee "Ann_" 25 found ∧
      processEvent searchFns (env 0) (.lndhubxMessage (.api (.nostrProfileSearchRequest
          { reqId := 7, pubkey := none, text := some "Ann_", limit := some 25 }))) annLee =
        .ok (annLee.sendToBank (.api (.nostrProfileSearchResponse
          { reqId := 7, data := found.filterMap (shareRecord searchFns), error := none }))) := by
  refine search_answered_with_best Like.asciiFolding (List.map Char.toLower) searchFns
    (fun table pubkey text limit => isFound_searchByText _ _ table pubkey text limit) (env 0)
    rfl rfl annLee 7 "Ann_" 25 (by decide) ?_
  unfold Like.Folding.fold
  rw [List.map_map]
  exact List.map_congr_left fun c _ => Like.asciiFolding.idem c

end Sample

end NostrEngine

end Lndhubx
