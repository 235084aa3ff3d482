import Mathlib.Data.List.Chain
import Mathlib.Tactic.Common

/-!
# Usernames

`utils/src/user.rs` and the part of `create`, `api/src/routes/auth.rs`, that comes
before the limiter. A name is scanned once for characters that are not allowed and
once more with a flag that says whether the last character was alphanumeric: the
flag starts out false, so the first character has to be, and its last value is the
result, so the last one has to be.

`checkUsernameValid_iff` says which names these are: runs of `[a-z0-9]`, separated by
single characters of punctuation (`IsUsername`), of at most 128 bytes.
-/

namespace Lndhubx

/-- In bytes. -/
def MAX_USERNAME_LEN : Nat := 128

/-- `c.is_ascii_lowercase() || c.is_ascii_digit()` -/
def isUsernameAlphanumeric (c : Char) : Bool := c.isLower || c.isDigit

/-- What may stand inside a name, one at a time. -/
def isUsernamePunctuation (c : Char) : Bool := c == '-' || c == '.' || c == '_'

/-- What a name may be made of. -/
def isUsernameChar (c : Char) : Bool := isUsernameAlphanumeric c || isUsernamePunctuation c

/-- The loop of `check_username_valid`, and the test of the flag after it. -/
def scanUsername (alphanumeric : Bool) : List Char → Bool
  | [] => alphanumeric
  | c :: cs =>
    -- two characters of punctuation, or one at the start
    if !alphanumeric && !isUsernameAlphanumeric c then false
    else scanUsername (isUsernameAlphanumeric c) cs

/-- The check of a new name. -/
def checkUsernameValid (username : String) : Bool :=
  if username.utf8ByteSize > MAX_USERNAME_LEN then false
  else if !username.toList.all isUsernameChar then false
  else scanUsername false username.toList

/-- The errors of `create` before the limiter. -/
inductive UsernameError where
  | invalidUsername
  | userExists
  deriving DecidableEq

/-- `create`, up to the limiter: the name asked for in lower case, or else a new id.
Unicode's lower case is a parameter. -/
def createUsername (toLowercase : String → String) (reservedUsernames : List String)
    (newV4 : String) (username : Option String) : Except UsernameError String :=
  let username := toLowercase (username.getD newV4)
  if !checkUsernameValid username then .error .invalidUsername
  else if reservedUsernames.contains username then .error .userExists
  else .ok username

/-! ## The grammar -/

/-- `[a-z0-9]` -/
def IsAlphanumeric (c : Char) : Prop := ('a' ≤ c ∧ c ≤ 'z') ∨ ('0' ≤ c ∧ c ≤ '9')

/-- The same as a proposition. -/
def IsPunctuation (c : Char) : Prop := c = '-' ∨ c = '.' ∨ c = '_'

/-- A piece of a name between two signs. -/
structure IsAlphanumericRun (run : List Char) : Prop where
  nonempty : run ≠ []
  alphanumeric : ∀ c ∈ run, IsAlphanumeric c

/-- One run, or a run, a character of punctuation and more of it. -/
inductive IsUsername : List Char → Prop
  | run {run : List Char} (h : IsAlphanumericRun run) : IsUsername run
  | separated {run rest : List Char} {c : Char} (h : IsAlphanumericRun run) (hc : IsPunctuation c)
      (hrest : IsUsername rest) : IsUsername (run ++ c :: rest)

/-- The check of a character agrees with what it is meant to say. -/
theorem isUsernameAlphanumeric_iff (c : Char) :
    isUsernameAlphanumeric c = true ↔ IsAlphanumeric c := by
  unfold isUsernameAlphanumeric IsAlphanumeric Char.isLower Char.isDigit
  simp only [Bool.or_eq_true, Bool.and_eq_true, decide_eq_true_eq]
  rfl

/-- So does the check of a sign. -/
theorem isUsernamePunctuation_iff (c : Char) :
    isUsernamePunctuation c = true ↔ IsPunctuation c := by
  unfold isUsernamePunctuation IsPunctuation
  simp [or_assoc]

/-- No character is both. -/
theorem IsPunctuation.not_alphanumeric {c : Char} (h : IsPunctuation c) : ¬IsAlphanumeric c := by
  rw [← isUsernameAlphanumeric_iff]
  obtain rfl | rfl | rfl := h <;> decide

/-- A run becomes longer at its start. -/
theorem IsAlphanumericRun.cons {c : Char} {run : List Char} (hc : IsAlphanumeric c)
    (h : ∀ d ∈ run, IsAlphanumeric d) : IsAlphanumericRun (c :: run) :=
  ⟨by simp, List.forall_mem_cons.mpr ⟨hc, h⟩⟩

/-- One letter or digit more in front. -/
theorem IsUsername.cons {c : Char} {cs : List Char} (hc : IsAlphanumeric c) (h : IsUsername cs) :
    IsUsername (c :: cs) := by
  cases h with
  | run h => exact .run (.cons hc h.alphanumeric)
  | separated h hp hrest => exact .separated (.cons hc h.alphanumeric) hp hrest

/-! ## What the scan accepts -/

/-- After a run the flag is set. -/
theorem scanUsername_run {run : List Char} (h : IsAlphanumericRun run) (alphanumeric : Bool)
    (cs : List Char) : scanUsername alphanumeric (run ++ cs) = scanUsername true cs := by
  obtain ⟨hne, hrun⟩ := h
  induction run generalizing alphanumeric with
  | nil => exact absurd rfl hne
  | cons c run ih =>
    obtain ⟨hc, hrun⟩ := List.forall_mem_cons.mp hrun
    rw [← isUsernameAlphanumeric_iff] at hc
    rw [List.cons_append, scanUsername, hc, Bool.not_true, Bool.and_false]
    cases run with
    | nil => rfl
    | cons d run => exact ih true (by simp) hrun

/-- A name goes through the scan. -/
theorem IsUsername.scan {cs : List Char} (h : IsUsername cs) : scanUsername false cs = true := by
  induction h with
  | @run run h =>
    have hscan := scanUsername_run h false []
    rw [List.append_nil] at hscan
    exact hscan
  | @separated run rest c h hc _ ih =>
    -- the run has set the flag, so one character of punctuation may follow
    have hnot : isUsernameAlphanumeric c = false := by
      rw [← Bool.not_eq_true, isUsernameAlphanumeric_iff]
      exact hc.not_alphanumeric
    rw [scanUsername_run h, scanUsername, hnot]
    exact ih

/-- A name has allowed characters only. -/
theorem IsUsername.allowed {cs : List Char} (h : IsUsername cs) :
    ∀ c ∈ cs, isUsernameChar c = true := by
  have hrun : ∀ {run : List Char}, IsAlphanumericRun run → ∀ c ∈ run, isUsernameChar c = true := by
    intro run h c hc
    unfold isUsernameChar
    rw [(isUsernameAlphanumeric_iff c).mpr (h.alphanumeric c hc), Bool.true_or]
  induction h with
  | run h => exact hrun h
  | @separated run rest c h hc _ ih =>
    intro d hd
    rcases List.mem_append.mp hd with hd | hd
    · exact hrun h d hd
    · rcases List.mem_cons.mp hd with rfl | hd
      · unfold isUsernameChar
        rw [(isUsernamePunctuation_iff d).mpr hc, Bool.or_true]
      · exact ih d hd

/-- What is left of a name after an alphanumeric character. -/
inductive EndsUsername : List Char → Prop
  | nothing : EndsUsername []
  | more {cs : List Char} (h : IsUsername cs) : EndsUsername cs
  | separated {c : Char} {cs : List Char} (hc : IsPunctuation c) (h : IsUsername cs) :
      EndsUsername (c :: cs)

/-- One letter or digit in front of what may end a name. -/
theorem EndsUsername.cons {c : Char} {cs : List Char} (hc : IsAlphanumeric c)
    (h : EndsUsername cs) : IsUsername (c :: cs) := by
  cases h with
  | nothing => exact .run (.cons hc (by simp))
  | more h => exact h.cons hc
  | separated hp h =>
    have hone : IsAlphanumericRun [c] := .cons hc (by simp)
    exact .separated hone hp h

/-- The induction is on the characters left, for both values of the flag at once. -/
theorem isUsername_of_scan {cs : List Char} (hall : ∀ c ∈ cs, isUsernameChar c = true) :
    (scanUsername false cs = true → IsUsername cs) ∧
      (scanUsername true cs = true → EndsUsername cs) := by
  induction cs with
  | nil => exact ⟨fun h => absurd h (by simp [scanUsername]), fun _ => .nothing⟩
  | cons c cs ih =>
    obtain ⟨hc, hall⟩ := List.forall_mem_cons.mp hall
    obtain ⟨ihFalse, ihTrue⟩ := ih hall
    cases halnum : isUsernameAlphanumeric c with
    | true =>
      -- the flag that comes in does not matter
      have hword : scanUsername true cs = true → IsUsername (c :: cs) := fun h =>
        (ihTrue h).cons ((isUsernameAlphanumeric_iff c).mp halnum)
      simp only [scanUsername, halnum, Bool.not_true, Bool.and_false]
      exact ⟨hword, fun h => .more (hword h)⟩
    | false =>
      have hpunct : IsPunctuation c := by
        unfold isUsernameChar at hc
        rw [halnum, Bool.false_or] at hc
        exact (isUsernamePunctuation_iff c).mp hc
      simp only [scanUsername, halnum]
      exact ⟨fun h => absurd h (by simp), fun h => .separated hpunct (ihFalse h)⟩

/-- The scans accept the grammar. -/
theorem scans_iff_isUsername (cs : List Char) :
    cs.all isUsernameChar = true ∧ scanUsername false cs = true ↔ IsUsername cs := by
  rw [List.all_eq_true]
  constructor
  · intro h
    exact (isUsername_of_scan h.1).1 h.2
  · intro h
    exact ⟨h.allowed, h.scan⟩

/-- A name that is accepted. -/
theorem checkUsernameValid_eq_true (username : String) :
    checkUsernameValid username = true ↔
      username.utf8ByteSize ≤ MAX_USERNAME_LEN ∧ IsUsername username.toList := by
  rw [← scans_iff_isUsername]
  unfold checkUsernameValid
  by_cases hlen : username.utf8ByteSize > MAX_USERNAME_LEN
  · simp [hlen]
  · cases hall : username.toList.all isUsernameChar with
    | false => simp [hlen]
    | true => simp [hlen, Nat.le_of_not_lt hlen]

/-! ## What a name looks like -/

/-- It starts and ends alphanumeric, and of two neighbours one is. -/
structure WellFormedName (cs : List Char) : Prop where
  head : ∃ c, cs.head? = some c ∧ IsAlphanumeric c
  last : ∃ c, cs.getLast? = some c ∧ IsAlphanumeric c
  chain : cs.IsChain fun a b => IsAlphanumeric a ∨ IsAlphanumeric b

/-- One piece is a name. -/
theorem IsAlphanumericRun.wellFormed {run : List Char} (h : IsAlphanumericRun run) :
    WellFormedName run := by
  refine ⟨⟨run.head h.nonempty, List.head?_eq_some_head h.nonempty, ?_⟩,
    ⟨run.getLast h.nonempty, List.getLast?_eq_some_getLast h.nonempty, ?_⟩, ?_⟩
  · exact h.alphanumeric _ (List.head_mem h.nonempty)
  · exact h.alphanumeric _ (List.getLast_mem h.nonempty)
  · rw [List.isChain_iff_forall_rel_of_append_cons_cons]
    intro a b l l' hrun
    exact .inl (h.alphanumeric a (by rw [hrun]; simp))

/-- A name is pieces with one sign between two of them. -/
theorem IsUsername.wellFormed {cs : List Char} (h : IsUsername cs) : WellFormedName cs := by
  induction h with
  | run h => exact h.wellFormed
  | @separated run rest c h hc _ ih =>
    obtain ⟨a, ha, halnum⟩ := h.wellFormed.head
    obtain ⟨b, hb, hblnum⟩ := ih.last
    obtain ⟨d, hd, hdlnum⟩ := ih.head
    refine ⟨⟨a, ?_, halnum⟩, ⟨b, ?_, hblnum⟩, ?_⟩
    · rw [List.head?_append, ha]
      rfl
    · rw [List.getLast?_append, List.getLast?_cons, hb]
      rfl
    · refine List.isChain_append.mpr ⟨h.wellFormed.chain, ?_, ?_⟩
      · -- what follows the punctuation starts alphanumeric
        refine List.isChain_cons.mpr ⟨fun y hy => ?_, ih.chain⟩
        rw [hd, Option.mem_some_iff] at hy
        rw [← hy]
        exact .inr hdlnum
      · intro x hx y hy
        exact .inl (h.alphanumeric x (List.mem_of_mem_getLast? hx))

/-! ## The result -/

/-- The names that are valid: at most 128 bytes of runs of `[a-z0-9]` separated by single
characters of punctuation. They start and end alphanumeric, and no two characters of
punctuation are neighbours. -/
theorem checkUsernameValid_iff (username : String) :
    (checkUsernameValid username = true ↔
      username.utf8ByteSize ≤ 128 ∧ IsUsername username.toList) ∧
    (checkUsernameValid username = true → WellFormedName username.toList) := by
  have hvalid := checkUsernameValid_eq_true username
  exact ⟨hvalid, fun h => (hvalid.mp h).2.wellFormed⟩

example : checkUsernameValid "alice.b-2" = true := by decide +kernel
example : checkUsernameValid "alice..b" = false := by decide +kernel

/-- Who registers has a name of this form that is not reserved. -/
theorem createUsername_eq_ok {toLowercase : String → String} {reservedUsernames : List String}
    {newV4 name : String} {username : Option String}
    (h : createUsername toLowercase reservedUsernames newV4 username = .ok name) :
    name.utf8ByteSize ≤ MAX_USERNAME_LEN ∧ IsUsername name.toList ∧ name ∉ reservedUsernames := by
  unfold createUsername at h
  dsimp only at h
  split at h
  next => exact absurd h (by simp)
  next hvalid =>
    split at h
    next => exact absurd h (by simp)
    next hreserved =>
      rw [← Except.ok.inj h]
      rw [Bool.not_eq_true, Bool.not_eq_false'] at hvalid
      obtain ⟨hlen, hname⟩ := (checkUsernameValid_eq_true _).mp hvalid
      exact ⟨hlen, hname, by simpa using hreserved⟩

end Lndhubx
