import Mathlib.Data.List.Basic
import Mathlib.Tactic.Common

/-!
# Lexing SQL

The tokens of a statement as PostgreSQL reads it with `standard_conforming_strings`
on: a literal ends at the first quote that is not followed by a quote, two quotes stand
for one, and a backslash is a character like any other. The lexer is an automaton over
the characters (`next`), so a text is read piece by piece (`Reads.append`).

What is not read here stops the lexer (`unsupported`): a word in front of a literal, as
in `E'...'`, identifiers in double quotes, dollar quotes and block comments. Literals on
both sides of a line break are not put together; a text that has another token between
them is not affected.
-/

namespace Sql

/-- The single quote. -/
def quote : Char := Char.ofNat 39

/-- What a text is made of. -/
inductive Token where
  /-- A keyword, a name or a number. -/
  | word (text : String)
  | literal (value : String)
  | operator (text : String)
  | punctuation (c : Char)
  deriving DecidableEq

/-- Where the lexer is, with the characters of the token it is in. -/
inductive LexState where
  | blank
  | word (read : List Char)
  | operator (read : List Char)
  | literal (read : List Char)
  /-- A quote was read in a literal: its end, or the first of two. -/
  | closing (read : List Char)
  | comment
  | unsupported
  deriving DecidableEq

/-- What keywords, names and numbers are written with. -/
def isWordChar (c : Char) : Bool := c.isAlphanum || c == '_' || 128 ≤ c.toNat

/-- What operators are written with. -/
def operatorChars : List Char :=
  ['~', '!', '@', '#', '^', '&', '|', '?', '+', '-', '*', '/', '%', '<', '>', '=', Char.ofNat 96]

def isOperatorChar (c : Char) : Bool := operatorChars.contains c

/-- A character outside any token. -/
def start (c : Char) : List Token × LexState :=
  if c.isWhitespace then ([], .blank)
  else if c = quote then ([], .literal [])
  else if c = Char.ofNat 34 || c = '$' then ([], .unsupported)
  else if isWordChar c then ([], .word [c])
  else if isOperatorChar c then ([], .operator [c])
  else ([.punctuation c], .blank)

/-- A character that ends a token. -/
def startAfter (t : Token) (c : Char) : List Token × LexState := (t :: (start c).1, (start c).2)

/-- What a character of an operator makes of the ones before it. -/
def operatorNext (read : List Char) (c : Char) : List Token × LexState :=
  if read.getLast? = some '-' ∧ c = '-' then
    (if read.dropLast = [] then [] else [.operator (String.ofList read.dropLast)], .comment)
  else if read.getLast? = some '/' ∧ c = '*' then ([], .unsupported)
  else if isOperatorChar c then ([], .operator (read ++ [c]))
  else startAfter (.operator (String.ofList read)) c

/-- One character more. -/
def next : LexState → Char → List Token × LexState
  | .blank, c => start c
  | .word read, c =>
    if isWordChar c then ([], .word (read ++ [c]))
    else if c = quote then ([], .unsupported)
    else startAfter (.word (String.ofList read)) c
  | .operator read, c => operatorNext read c
  | .literal read, c => if c = quote then ([], .closing read) else ([], .literal (read ++ [c]))
  | .closing read, c =>
    if c = quote then ([], .literal (read ++ [quote]))
    else startAfter (.literal (String.ofList read)) c
  | .comment, c => if c = Char.ofNat 10 then ([], .blank) else ([], .comment)
  | .unsupported, _ => ([], .unsupported)

/-- The token that is still open, unless the text may not end here. -/
def LexState.finish : LexState → Option (List Token)
  | .blank => some []
  | .word read => some [.word (String.ofList read)]
  | .operator read => some [.operator (String.ofList read)]
  | .literal _ => none
  | .closing read => some [.literal (String.ofList read)]
  | .comment => some []
  | .unsupported => none

/-- A whole text, character by character. -/
def run : LexState → List Char → List Token × LexState
  | st, [] => ([], st)
  | st, c :: cs => ((next st c).1 ++ (run (next st c).2 cs).1, (run (next st c).2 cs).2)

/-- The tokens of a text, if it is one that is read here. -/
def lex (text : String) : Option (List Token) :=
  (run .blank text.toList).2.finish.map ((run .blank text.toList).1 ++ ·)

/-- The tokens of a text that ends with a token or after one. -/
def tokens (text : String) : List Token := (lex text).getD []

/-! ## Reading piece by piece -/

/-- From one state to another, with the tokens that ended on the way. -/
def Reads (st : LexState) (cs : List Char) (ts : List Token) (st' : LexState) : Prop :=
  run st cs = (ts, st')

namespace Reads

variable {st st' st'' : LexState} {cs cs' : List Char} {ts ts' : List Token}

/-- Nothing was read. -/
theorem nil (st : LexState) : Reads st [] [] st := rfl

/-- One character, and then the rest. -/
theorem cons {c : Char} (h : Reads (next st c).2 cs ts st') :
    Reads st (c :: cs) ((next st c).1 ++ ts) st' := by
  unfold Reads at *
  rw [run, h]

/-- Two pieces of text, one after the other. -/
theorem append (h : Reads st cs ts st') (h' : Reads st' cs' ts' st'') :
    Reads st (cs ++ cs') (ts ++ ts') st'' := by
  induction cs generalizing st ts with
  | nil =>
    obtain ⟨rfl, rfl⟩ := Prod.mk.inj (show (([], st) : List Token × LexState) = (ts, st') from h)
    exact h'
  | cons c cs ih =>
    unfold Reads at h
    rw [run] at h
    obtain ⟨hts, hst⟩ := Prod.mk.inj h
    have hrest : Reads (next st c).2 cs (run (next st c).2 cs).1 st' := by
      unfold Reads
      rw [← hst]
    rw [← hts, List.append_assoc, List.cons_append]
    exact (ih hrest).cons

end Reads

/-- The text of a literal, with its quotes doubled. -/
def doubled (cs : List Char) : List Char :=
  cs.flatMap fun c => if c = quote then [quote, quote] else [c]

/-- Reading it gives the text back. -/
theorem reads_doubled (read cs : List Char) :
    Reads (.literal read) (doubled cs) [] (.literal (read ++ cs)) := by
  induction cs generalizing read with
  | nil =>
    rw [List.append_nil]
    exact .nil _
  | cons c cs ih =>
    have hrest := ih (read ++ [c])
    rw [List.append_assoc, List.singleton_append] at hrest
    unfold doubled
    rw [List.flatMap_cons]
    by_cases hc : c = quote
    · rw [if_pos hc]
      -- the first quote may be the end, the second one says that it is not
      have hpair : Reads (.literal read) [quote, quote] [] (.literal (read ++ [c])) := by
        rw [hc]
        rfl
      exact hpair.append hrest
    · rw [if_neg hc]
      have hone : Reads (.literal read) [c] [] (.literal (read ++ [c])) := by
        unfold Reads
        simp [run, next, hc]
      exact hone.append hrest

/-- A literal is read up to its own closing quote. -/
theorem reads_literal (cs : List Char) :
    Reads .blank (quote :: doubled cs ++ [quote]) [] (.closing cs) := by
  have hopen : Reads .blank [quote] [] (.literal []) := rfl
  have hclose : Reads (.literal ([] ++ cs)) [quote] [] (.closing cs) := by
    unfold Reads
    simp [run, next]
  exact (hopen.append (reads_doubled [] cs)).append hclose

/-! ## Texts in front of a separator -/

/-- The character ends a word, an operator and a literal. -/
structure Separates (c : Char) : Prop where
  word : isWordChar c = false
  operator : isOperatorChar c = false
  quote : c ≠ quote

/-- The token that a separator ends. -/
def LexState.open? : LexState → Option Token
  | .word read => some (.word (String.ofList read))
  | .operator read => some (.operator (String.ofList read))
  | .closing read => some (.literal (String.ofList read))
  | _ => none

/-- A character that separates ends what was open. -/
theorem next_separator {st : LexState} {t : Token} {c : Char} (h : st.open? = some t)
    (hc : Separates c) : next st c = startAfter t c := by
  -- what starts or continues an operator does not separate
  have hne : ∀ e : Char, isOperatorChar e = true → c ≠ e := by
    intro e he hce
    rw [← hce, hc.operator] at he
    exact absurd he (by simp)
  have hminus : c ≠ '-' := hne '-' (by decide)
  have hstar : c ≠ '*' := hne '*' (by decide)
  cases st with
  | word read =>
    rw [← Option.some.inj h]
    simp [next, hc.word, hc.quote]
  | operator read =>
    rw [← Option.some.inj h]
    simp [next, operatorNext, hc.operator, hminus, hstar]
  | closing read =>
    rw [← Option.some.inj h]
    simp [next, hc.quote]
  | blank => exact absurd h (by simp [LexState.open?])
  | literal read => exact absurd h (by simp [LexState.open?])
  | comment => exact absurd h (by simp [LexState.open?])
  | unsupported => exact absurd h (by simp [LexState.open?])

/-- The text is these tokens in front of every separator. -/
def Yields (cs : List Char) (ts : List Token) : Prop :=
  ∀ c rest ts' st', Separates c → Reads .blank (c :: rest) ts' st' →
    Reads .blank (cs ++ c :: rest) (ts ++ ts') st'

/-- What is still open at the end is the last token. -/
theorem Reads.yields {cs : List Char} {ts : List Token} {st : LexState} {t : Token}
    (h : Reads .blank cs ts st) (ht : st.open? = some t) : Yields cs (ts ++ [t]) := by
  intro c rest ts' st' hc hrest
  have hlast : Reads st (c :: rest) (t :: ts') st' := by
    unfold Reads at hrest ⊢
    rw [run, next_separator ht hc]
    rw [run] at hrest
    obtain ⟨hts, hst⟩ := Prod.mk.inj hrest
    rw [← hts, ← hst]
    rfl
  rw [List.append_assoc]
  exact h.append hlast

/-- A quoted value is one literal, whatever is in it. -/
theorem yields_literal (cs : List Char) :
    Yields (quote :: doubled cs ++ [quote]) [.literal (String.ofList cs)] :=
  (reads_literal cs).yields rfl

/-- Digits make words. -/
theorem isWordChar_of_isDigit {d : Char} (h : d.isDigit = true) : isWordChar d = true := by
  unfold isWordChar Char.isAlphanum
  rw [h, Bool.or_true, Bool.true_or, Bool.true_or]

/-- A digit is none of the other characters. -/
theorem ne_of_isDigit {d e : Char} (hd : d.isDigit = true) (he : e.isDigit = false) : d ≠ e := by
  intro hde
  rw [hde, he] at hd
  exact absurd hd (by simp)

/-- Digits are read to their end. -/
theorem reads_digits {read ds : List Char} (h : ∀ d ∈ ds, d.isDigit = true) :
    Reads (.word read) ds [] (.word (read ++ ds)) := by
  induction ds generalizing read with
  | nil =>
    rw [List.append_nil]
    exact .nil _
  | cons d ds ih =>
    obtain ⟨hd, hds⟩ := List.forall_mem_cons.mp h
    have hword : isWordChar d = true := isWordChar_of_isDigit hd
    have hone : Reads (.word read) [d] [] (.word (read ++ [d])) := by
      unfold Reads
      simp [run, next, hword]
    have hrest : Reads (.word (read ++ [d])) ds [] (.word (read ++ [d] ++ ds)) := ih hds
    rw [List.append_assoc] at hrest
    exact hone.append hrest

/-- A digit starts a word. -/
theorem start_digit {d : Char} (h : d.isDigit = true) : start d = ([], .word [d]) := by
  have hword : isWordChar d = true := isWordChar_of_isDigit h
  have hne : ∀ e : Char, e.isDigit = false → d ≠ e := fun e he => ne_of_isDigit h he
  have hspace : d.isWhitespace = false := by
    unfold Char.isWhitespace
    simp [hne ' ' (by decide), hne (Char.ofNat 9) (by decide), hne (Char.ofNat 13) (by decide),
      hne (Char.ofNat 10) (by decide)]
  unfold start
  simp [hspace, hword, hne quote (by decide), hne (Char.ofNat 34) (by decide),
    hne '$' (by decide)]

/-- A number is written in digits. -/
theorem isDigit_of_mem_repr {n : Nat} : ∀ d ∈ n.repr.toList, d.isDigit = true := by
  intro d hd
  rw [Nat.toList_repr] at hd
  exact Nat.isDigit_of_mem_toDigits (by decide) (by decide) hd

/-- The tokens of a number. -/
def integer : Int → List Token
  | .ofNat n => [.word n.repr]
  | .negSucc n => [.operator "-", .word (n + 1).repr]

/-- The digits of a number stay in one word. -/
theorem reads_nat (n : Nat) : ∃ d ds, n.repr.toList = d :: ds ∧ d.isDigit = true ∧
    Reads (.word [d]) ds [] (.word n.repr.toList) := by
  have hdigits : ∀ d ∈ n.repr.toList, d.isDigit = true := isDigit_of_mem_repr
  cases hn : n.repr.toList with
  | nil =>
    rw [Nat.toList_repr] at hn
    exact absurd hn Nat.toDigits_ne_nil
  | cons d ds =>
    rw [hn] at hdigits
    obtain ⟨hd, hds⟩ := List.forall_mem_cons.mp hdigits
    exact ⟨d, ds, rfl, hd, reads_digits hds⟩

/-- A number is one token. -/
theorem yields_nat (n : Nat) : Yields n.repr.toList [.word n.repr] := by
  obtain ⟨d, ds, hn, hd, hrest⟩ := reads_nat n
  have hone : Reads .blank [d] [] (.word [d]) := by
    unfold Reads
    simp [run, next, start_digit hd]
  have hread : Reads .blank n.repr.toList [] (.word n.repr.toList) := by
    have hread := hone.append hrest
    rwa [List.singleton_append, ← hn] at hread
  have hyields := hread.yields rfl
  rw [String.ofList_toList] at hyields
  exact hyields

/-- A negative number is its sign and a number. -/
theorem yields_integer (i : Int) : Yields i.repr.toList (integer i) := by
  cases i with
  | ofNat n => exact yields_nat n
  | negSucc n =>
    obtain ⟨d, ds, hn, hd, hrest⟩ := reads_nat (n + 1)
    have hne : ∀ e : Char, e.isDigit = false → d ≠ e := fun e he => ne_of_isDigit hd he
    have hoperator : isOperatorChar d = false := by
      rw [Bool.eq_false_iff]
      intro h
      have hmem : d ∈ operatorChars := by simpa [isOperatorChar] using h
      have hall : operatorChars.all (fun e => !e.isDigit) = true := by decide
      have hnot : d.isDigit = false := by simpa using List.all_eq_true.mp hall d hmem
      exact hne d hnot rfl
    -- the sign is an operator of its own
    have hsign : Reads .blank ['-'] [] (.operator ['-']) := rfl
    have hone : Reads (.operator ['-']) [d] [.operator "-"] (.word [d]) := by
      unfold Reads
      simp [run, next, operatorNext, hne '-' (by decide), hne '*' (by decide), hoperator,
        startAfter, start_digit hd]
    have hread : Reads .blank ('-' :: (n + 1).repr.toList) [.operator "-"]
        (.word (n + 1).repr.toList) := by
      have hread := (hsign.append hone).append hrest
      rw [hn] at hread ⊢
      exact hread
    have hyields := hread.yields rfl
    rw [String.ofList_toList] at hyields
    have hchars : (Int.negSucc n).repr.toList = '-' :: (n + 1).repr.toList := by
      show ("-" ++ (n + 1).repr).toList = _
      rw [String.toList_append]
      rfl
    rw [hchars]
    exact hyields

/-! ## Lists of values -/

/-- A value in front of a text that starts with a separator. -/
theorem Yields.before {value rest : String} {c : Char} {cs : List Char} {ts ts' : List Token}
    {st : LexState} (h : Yields value.toList ts) (hrest : Reads .blank rest.toList ts' st)
    (hc : Separates c) (hcs : rest.toList = c :: cs) :
    Reads .blank (value ++ rest).toList (ts ++ ts') st := by
  rw [hcs] at hrest
  rw [String.toList_append, hcs]
  exact h c cs ts' st hc hrest

/-- A value in front of a comma. -/
theorem Yields.comma {value rest : String} {ts ts' : List Token} {st : LexState}
    (h : Yields value.toList ts) (hrest : Reads .blank rest.toList ts' st) :
    Reads .blank (value ++ (", " ++ rest)).toList (ts ++ .punctuation ',' :: ts') st := by
  have hcomma : Reads .blank ", ".toList [.punctuation ','] .blank := by rfl
  have hall : Reads .blank (", " ++ rest).toList (.punctuation ',' :: ts') st := by
    rw [String.toList_append]
    exact hcomma.append hrest
  have hchars : (", " ++ rest).toList = ',' :: ' ' :: rest.toList := by
    rw [String.toList_append]
    rfl
  exact h.before hall ⟨by decide, by decide, by decide⟩ hchars

/-- The tokens of a text whose lines end outside a token. -/
theorem reads_lines {lines : List String}
    (h : ∀ line ∈ lines, (run .blank line.toList).2 = .blank) :
    Reads .blank (lines.flatMap (·.toList)) (lines.flatMap tokens) .blank := by
  induction lines with
  | nil => exact .nil _
  | cons line lines ih =>
    obtain ⟨hline, hlines⟩ := List.forall_mem_cons.mp h
    have hrun : run .blank line.toList = ((run .blank line.toList).1, .blank) :=
      Prod.ext rfl hline
    have hread : Reads .blank line.toList (tokens line) .blank := by
      unfold tokens lex Reads
      rw [hrun]
      simp [LexState.finish]
    rw [List.flatMap_cons, List.flatMap_cons]
    exact hread.append (ih hlines)

/-- A text that is read to its end. -/
theorem lex_of_reads {text : String} {ts : List Token} (h : Reads .blank text.toList ts .blank) :
    lex text = some ts := by
  unfold Reads at h
  unfold lex
  rw [h]
  simp [LexState.finish]

end Sql
