import Lndhubx.Api.Routes
import Lndhubx.Lib.Like
import Lndhubx.Lib.Query

/-!
# Searching lightning addresses

`search_ln_addresses`, `api/src/routes/user.rs`, and the query it ends in,
`LnAddress::search_by_username_fragment`. The text a user types is put between two `%`
of an `ILIKE` pattern, after a backslash in front of each `%`, `_` and `@`. A backslash
of the text itself is not escaped.

`searchLnAddresses_exact_iff`: the search finds the names that the text is part of, for
every table of names, exactly for the texts in which each backslash stands in front of an
`@`. For any other text there is a name that is found and does not contain it.
-/

namespace Lndhubx

open Like (Folding backslash)

/-- A row of `ln_addresses`; the time it was made is not read. -/
structure LnAddress where
  id : Int
  username : String
  domain : String
  deriving DecidableEq

/-- What of a row leaves the application. -/
structure ShareableLnAddress where
  id : Int
  username : String
  domain : String
  deriving DecidableEq

def LnAddress.share (address : LnAddress) : ShareableLnAddress :=
  { id := address.id, username := address.username, domain := address.domain }

def MINIMUM_PATTERN_LENGTH : Nat := 1

/-- `text.replace('%', "\%").replace('_', "\_").replace('@', "\@")` -/
def escapedFragment (text : String) : List Char :=
  Like.escapeChar '@' (Like.escapeChar '_' (Like.escapeChar '%' text.toList))

/-- `WHERE username ILIKE '%{fragment}%'`; `none` where the database refuses the pattern. -/
def LnAddress.searchByUsernameFragment (F : Folding) (table : List LnAddress)
    (fragment : List Char) : Option (List LnAddress) :=
  Query.select (fun address => F.ilike address.username.toList (Like.search fragment)) table

/-- `conn` is `none` where the pool has no connection to give. -/
def Routes.searchLnAddresses (F : Folding) (conn : Option (List LnAddress)) (text : String) :
    Except ApiError (List ShareableLnAddress) :=
  if text.utf8ByteSize < MINIMUM_PATTERN_LENGTH then .error (.request .invalidDataSupplied)
  else
    match conn with
    | none => .error (.db .dbConnectionError)
    | some table =>
      match LnAddress.searchByUsernameFragment F table (escapedFragment text) with
      | none => .error (.db .userDoesNotExist)
      | some data => .ok (data.map LnAddress.share)

/-! ## What is found -/

/-- The characters that are escaped. -/
def fragmentSpecials : List Char := ['@', '_', '%']

theorem escapedFragment_eq (text : String) :
    escapedFragment text = Like.escape fragmentSpecials text.toList := by
  have hpercent : Like.escapeChar '%' text.toList = Like.escape ['%'] text.toList := by
    have h : Like.escapeChar '%' (Like.escape [] text.toList) = Like.escape ['%'] text.toList :=
      Like.escapeChar_escape (by simp) (by decide) text.toList
    rw [Like.escape_nil] at h
    exact h
  have hunderscore : Like.escapeChar '_' (Like.escape ['%'] text.toList) =
      Like.escape ['_', '%'] text.toList :=
    Like.escapeChar_escape (by decide) (by decide) text.toList
  unfold escapedFragment fragmentSpecials
  rw [hpercent, hunderscore]
  exact Like.escapeChar_escape (by decide) (by decide) text.toList

theorem fragmentSpecials_escapes : Like.Escapes fragmentSpecials :=
  ⟨by decide, by decide, by decide⟩

theorem fragmentSpecials_isSign : ∀ c ∈ fragmentSpecials, Like.IsSign c := by
  simp only [fragmentSpecials, List.forall_mem_cons, List.not_mem_nil, false_implies, implies_true,
    and_true]
  decide

/-- Each backslash of a text stands in front of an `@`. -/
def BackslashesBeforeAt (text : String) : Prop :=
  ∀ u v, text.toList = u ++ backslash :: v → ∃ w, v = '@' :: w

theorem harmless_fragment_iff (text : String) :
    Like.Harmless fragmentSpecials text.toList ↔ BackslashesBeforeAt text := by
  constructor
  · intro h u v htext
    obtain ⟨c, w, hv, hc, hitem⟩ := h u v htext
    -- the other two mean something to the database
    have hat : c = '@' := by
      unfold fragmentSpecials at hc
      simp only [List.mem_cons, List.not_mem_nil, or_false] at hc
      obtain rfl | rfl | rfl := hc
      · rfl
      · exact absurd hitem (by decide)
      · exact absurd hitem (by decide)
    exact ⟨w, by rw [hv, hat]⟩
  · intro h u v htext
    obtain ⟨w, hv⟩ := h u v htext
    exact ⟨'@', w, hv, by decide, by decide⟩

/-- Names that contain the text, whatever the case. -/
def matchingAddresses (F : Folding) (table : List LnAddress) (text : String) :
    List LnAddress :=
  table.filter fun address => decide (F.Contains address.username.toList text.toList)

variable (F : Folding)

/-- What a search replies, if it finds the rows that are right. -/
def searchReply (table : List LnAddress) (text : String) :
    Except ApiError (List ShareableLnAddress) :=
  .ok ((matchingAddresses F table text).map LnAddress.share)

theorem searchLnAddresses_of_select {table found : List LnAddress} {text : String}
    (hlen : MINIMUM_PATTERN_LENGTH ≤ text.utf8ByteSize)
    (h : LnAddress.searchByUsernameFragment F table (escapedFragment text) = some found) :
    Routes.searchLnAddresses F (some table) text = .ok (found.map LnAddress.share) := by
  unfold Routes.searchLnAddresses
  rw [if_neg (Nat.not_lt.mpr hlen)]
  simp only [h]

/-- The pattern of a text accepts a name. -/
def Accepted (text : String) (address : LnAddress) : Prop :=
  F.ilike address.username.toList (Like.search (escapedFragment text)) = some true

instance (text : String) (address : LnAddress) : Decidable (Accepted F text address) :=
  inferInstanceAs (Decidable (_ = _))

/-- The database takes every pattern, and answers with the names it accepts. -/
theorem searchByUsernameFragment_eq (table : List LnAddress) (text : String) :
    LnAddress.searchByUsernameFragment F table (escapedFragment text) =
      some (table.filter fun address => decide (Accepted F text address)) := by
  refine Query.select_eq_filter fun address _ => ?_
  have hsome := Folding.ilike_search_isSome (F := F) fragmentSpecials_isSign
    fragmentSpecials_escapes text.toList address.username.toList
  rw [← escapedFragment_eq] at hsome
  obtain ⟨b, hb⟩ := Option.isSome_iff_exists.mp hsome
  refine hb.trans (congrArg some ?_)
  cases b with
  | true => exact (decide_eq_true hb).symm
  | false =>
    refine (decide_eq_false fun h => ?_).symm
    unfold Accepted at h
    rw [hb] at h
    cases h

theorem accepted_iff_of_backslashes {text : String} (h : BackslashesBeforeAt text)
    (address : LnAddress) :
    Accepted F text address ↔ F.Contains address.username.toList text.toList := by
  unfold Accepted
  rw [escapedFragment_eq]
  exact Folding.ilike_search_of_harmless fragmentSpecials_isSign fragmentSpecials_escapes
    ((harmless_fragment_iff text).mpr h) address.username.toList

theorem share_filter_singleton_iff (p q : LnAddress → Prop) [DecidablePred p] [DecidablePred q]
    (address : LnAddress)
    (h : ([address].filter fun a => decide (p a)).map LnAddress.share =
      ([address].filter fun a => decide (q a)).map LnAddress.share) :
    p address ↔ q address := by
  by_cases hp : p address <;> by_cases hq : q address <;> simp [hp, hq] at h ⊢

/-- The search finds the names that the text is part of, in every table, if each of its
backslashes stands in front of an `@`, and only then. -/
theorem searchLnAddresses_exact_iff (text : String) :
    (∀ table, Routes.searchLnAddresses F (some table) text = searchReply F table text) ↔
      MINIMUM_PATTERN_LENGTH ≤ text.utf8ByteSize ∧ BackslashesBeforeAt text := by
  constructor
  · intro hall
    have hlen : MINIMUM_PATTERN_LENGTH ≤ text.utf8ByteSize := by
      by_contra hlt
      have hnil := hall []
      unfold Routes.searchLnAddresses at hnil
      rw [if_pos (Nat.lt_of_not_le hlt)] at hnil
      cases hnil
    refine ⟨hlen, (harmless_fragment_iff text).mp ?_⟩
    refine (Folding.ilike_search_iff (F := F) fragmentSpecials_isSign
      fragmentSpecials_escapes text.toList).mp fun s => ?_
    -- a table with no other name tells what the pattern does with this one
    have hone := hall [{ id := 0, username := String.ofList s, domain := "" }]
    rw [searchLnAddresses_of_select F hlen (searchByUsernameFragment_eq F _ text)] at hone
    have hiff := share_filter_singleton_iff (Accepted F text)
      (fun a => F.Contains a.username.toList text.toList) _ (Except.ok.inj hone)
    unfold Accepted at hiff
    rw [escapedFragment_eq, String.toList_ofList] at hiff
    exact hiff
  · intro ⟨hlen, h⟩ table
    rw [searchLnAddresses_of_select F hlen (searchByUsernameFragment_eq F table text)]
    have hfilter : (table.filter fun a => decide (Accepted F text a)) =
        matchingAddresses F table text :=
      List.filter_congr fun a _ => decide_eq_decide.mpr (accepted_iff_of_backslashes F h a)
    rw [hfilter]
    rfl

end Lndhubx
