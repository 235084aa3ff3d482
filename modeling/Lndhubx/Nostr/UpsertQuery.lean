import Lndhubx.Nostr.Engine
import Lndhubx.Lib.SqlLexer

/-!
# The statement of an upsert

`NostrProfileRecord::upsert` of `models/src/nostr_profiles.rs` up to its execution: a
statement written by hand, with the fields of the profile spliced in. The texts of a
profile are whatever its owner published. `lex_upsertQuery` says that they do not get out
of their literals: the tokens are those of the template, with the field for each
placeholder.
-/

namespace Lndhubx

open Sql

/-- `text.replace('\'', "''")` -/
def escapedText (text : String) : String :=
  String.ofList (text.toList.flatMap fun c => if c = quote then [quote, quote] else [c])

def nullableString (value : Option String) : String :=
  match value with
  | some text => "'" ++ escapedText text ++ "'"
  | none => "NULL"

def notNullableString (value : String) : String := "'" ++ escapedText value ++ "'"

def nullableBool (value : Option Bool) : String :=
  match value with
  | some true => "true"
  | some false => "false"
  | none => "NULL"

/-- The lines of the template in front of the values. -/
def upsertHead : List String :=
  ["INSERT INTO nostr_profile_records AS n (", "pubkey, ", "created_at, ", "received_at, ",
    "name, ", "display_name, ", "nip05, ", "lud16, ", "nip05_verified, ", "content, ",
    "lnurl_pay_req ", ") ", "VALUES("]

/-- The lines after the values. -/
def upsertTail : List String :=
  ["\n                ) ", "ON CONFLICT (pubkey) ", "DO UPDATE ", "SET ",
    "created_at = EXCLUDED.created_at, ", "received_at = EXCLUDED.received_at, ",
    "name = EXCLUDED.name, ", "display_name = EXCLUDED.display_name, ",
    "nip05 = EXCLUDED.nip05, ", "lud16 = EXCLUDED.lud16, ",
    "nip05_verified = EXCLUDED.nip05_verified, ", "content = EXCLUDED.content, ",
    "lnurl_pay_req = EXCLUDED.lnurl_pay_req\n                ", "WHERE ",
    "n.created_at < EXCLUDED.created_at OR ", "(n.created_at = EXCLUDED.created_at ",
    "AND (COALESCE(n.nip05_verified, FALSE) ",
    "!= COALESCE(EXCLUDED.nip05_verified, FALSE)))", "\n            "]

/-- `upsert_query` -/
def NostrProfileRecord.upsertQuery (r : NostrProfileRecord) : String :=
  String.join upsertHead ++ (("'" ++ r.pubkey ++ "'") ++ (", " ++
    (r.createdAt.toInt.repr ++ (", " ++ (r.receivedAt.toInt.repr ++ (", " ++
    (nullableString r.name ++ (", " ++ (nullableString r.displayName ++ (", " ++
    (nullableString r.nip05 ++ (", " ++ (nullableString r.lud16 ++ (", " ++
    (nullableBool r.nip05Verified ++ (", " ++ (notNullableString r.content ++ (", " ++
    (nullableString r.lnurlPayReq ++ String.join upsertTail)))))))))))))))))))

/-! ## Its tokens -/

example : tokens "VALUES(" = [.word "VALUES", .punctuation '('] := by decide

/-- A text, or `NULL`. -/
def nullableToken (value : Option String) : Token :=
  match value with
  | some text => .literal text
  | none => .word "NULL"

def boolToken (value : Option Bool) : Token :=
  match value with
  | some true => .word "true"
  | some false => .word "false"
  | none => .word "NULL"

/-- The tokens of the template, with a token for each placeholder: a literal with the
field as its value, or `NULL`, and the numbers and the truth value as they are. -/
def NostrProfileRecord.upsertTokens (r : NostrProfileRecord) : List Token :=
  upsertHead.flatMap tokens ++ ([.literal r.pubkey] ++ .punctuation ',' ::
    (integer r.createdAt.toInt ++ .punctuation ',' :: (integer r.receivedAt.toInt ++
    .punctuation ',' :: ([nullableToken r.name] ++ .punctuation ',' ::
    ([nullableToken r.displayName] ++ .punctuation ',' :: ([nullableToken r.nip05] ++
    .punctuation ',' :: ([nullableToken r.lud16] ++ .punctuation ',' ::
    ([boolToken r.nip05Verified] ++ .punctuation ',' :: ([.literal r.content] ++
    .punctuation ',' :: ([nullableToken r.lnurlPayReq] ++ upsertTail.flatMap tokens))))))))))

theorem toList_quoted (text : String) :
    ("'" ++ escapedText text ++ "'").toList = quote :: doubled text.toList ++ [quote] := by
  unfold escapedText doubled
  simp only [String.toList_append, String.toList_ofList]
  rfl

theorem yields_notNullableString (value : String) :
    Yields (notNullableString value).toList [.literal value] := by
  have hyields := yields_literal value.toList
  rw [String.ofList_toList] at hyields
  unfold notNullableString
  rw [toList_quoted]
  exact hyields

/-- A word of the template. -/
theorem yields_word {w : String} (h : run .blank w.toList = ([], .word w.toList)) :
    Yields w.toList [.word w] := by
  have hyields : Yields w.toList ([] ++ [.word (String.ofList w.toList)]) :=
    Reads.yields h rfl
  rw [String.ofList_toList] at hyields
  exact hyields

theorem yields_nullableString (value : Option String) :
    Yields (nullableString value).toList [nullableToken value] := by
  cases value with
  | none => exact yields_word (by decide)
  | some text => exact yields_notNullableString text

theorem yields_nullableBool (value : Option Bool) :
    Yields (nullableBool value).toList [boolToken value] := by
  cases value with
  | none => exact yields_word (by decide)
  | some v =>
    cases v with
    | true => exact yields_word (by decide)
    | false => exact yields_word (by decide)

/-- `[0-9a-fA-F]` -/
def IsHex (c : Char) : Prop := c.isDigit = true ∨ ('a' ≤ c ∧ c ≤ 'f') ∨ ('A' ≤ c ∧ c ≤ 'F')

theorem IsHex.ne_quote {c : Char} (h : IsHex c) : c ≠ quote := by
  intro hc
  rw [hc] at h
  exact absurd h (by unfold IsHex; decide)

/-- A key has no quote to double. -/
theorem yields_pubkey {pubkey : String} (h : ∀ c ∈ pubkey.toList, IsHex c) :
    Yields ("'" ++ pubkey ++ "'").toList [.literal pubkey] := by
  have hsame : doubled pubkey.toList = pubkey.toList := by
    unfold doubled
    calc pubkey.toList.flatMap (fun c => if c = quote then [quote, quote] else [c])
        = pubkey.toList.flatMap fun c => [c] :=
          List.flatMap_congr fun c hc => if_neg (h c hc).ne_quote
      _ = pubkey.toList := List.flatMap_singleton' _
  have hyields := yields_literal pubkey.toList
  rw [String.ofList_toList, hsame] at hyields
  simp only [String.toList_append]
  exact hyields

theorem reads_upsertHead :
    Reads .blank (upsertHead.flatMap (·.toList)) (upsertHead.flatMap tokens) .blank :=
  reads_lines (by decide +kernel)

theorem reads_upsertTail :
    Reads .blank (upsertTail.flatMap (·.toList)) (upsertTail.flatMap tokens) .blank :=
  reads_lines (by decide +kernel)

/-- The values end in front of a line break. -/
theorem yields_last (r : NostrProfileRecord) :
    Reads .blank (nullableString r.lnurlPayReq ++ String.join upsertTail).toList
      ([nullableToken r.lnurlPayReq] ++ upsertTail.flatMap tokens) .blank := by
  have htail : Reads .blank (String.join upsertTail).toList (upsertTail.flatMap tokens) .blank := by
    rw [String.toList_join]
    exact reads_upsertTail
  have hfirst : "\n                ) ".toList = Char.ofNat 10 :: "                ) ".toList := by
    decide
  have hchars : ∃ cs, (String.join upsertTail).toList = Char.ofNat 10 :: cs := by
    rw [String.toList_join, upsertTail, List.flatMap_cons, hfirst]
    exact ⟨_, List.cons_append⟩
  obtain ⟨cs, hcs⟩ := hchars
  exact (yields_nullableString r.lnurlPayReq).before htail ⟨by decide, by decide, by decide⟩ hcs

/-- The tokens of the statement are those of the template with the fields for its
placeholders, whatever the texts are: no text ends its literal, and none takes in what
follows it. -/
theorem lex_upsertQuery (r : NostrProfileRecord) (hkey : ∀ c ∈ r.pubkey.toList, IsHex c) :
    lex r.upsertQuery = some r.upsertTokens := by
  -- from the last value to the first, each in front of what is read already
  have hcontent := (yields_notNullableString r.content).comma (yields_last r)
  have hverified := (yields_nullableBool r.nip05Verified).comma hcontent
  have hlud16 := (yields_nullableString r.lud16).comma hverified
  have hnip05 := (yields_nullableString r.nip05).comma hlud16
  have hdisplay := (yields_nullableString r.displayName).comma hnip05
  have hname := (yields_nullableString r.name).comma hdisplay
  have hreceived := (yields_integer r.receivedAt.toInt).comma hname
  have hcreated := (yields_integer r.createdAt.toInt).comma hreceived
  have hpubkey := (yields_pubkey hkey).comma hcreated
  apply lex_of_reads
  unfold NostrProfileRecord.upsertQuery NostrProfileRecord.upsertTokens
  rw [String.toList_append, String.toList_join]
  exact reads_upsertHead.append hpubkey

/-- A name that would end the statement, if it got out of its literal. -/
theorem lex_upsertQuery_sample :
    lex (NostrProfileRecord.upsertQuery ⟨"ab01", -5, 7, some "'); DROP TABLE n; --", none, none,
      some "'", some true, "''", none⟩) =
    some (NostrProfileRecord.upsertTokens ⟨"ab01", -5, 7, some "'); DROP TABLE n; --", none, none,
      some "'", some true, "''", none⟩) := by
  refine lex_upsertQuery _ fun c hc => ?_
  have hhex : "ab01".toList.all (fun c => c.isDigit || ('a' ≤ c && c ≤ 'f')) = true := by decide
  have hc := List.all_eq_true.mp hhex c hc
  rw [Bool.or_eq_true, Bool.and_eq_true, decide_eq_true_eq, decide_eq_true_eq] at hc
  exact hc.imp_right .inl

end Lndhubx
