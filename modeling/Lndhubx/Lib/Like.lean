import Mathlib

/-!
# LIKE patterns

The patterns of SQL's `LIKE`: `%` stands for any text, `_` for one character, and a
backslash takes the character after it for itself. `ILIKE` is `LIKE` on both sides in
lower case (`Folding`).

A text that is put between two `%` should find what it is part of. `escape` puts a
backslash in front of the characters that are special, and not in front of a backslash.
`accepts_search_iff` says for which texts this is good enough: those in which every
backslash stands in front of a special character that `LIKE` does not read (`Harmless`).
For any other text the shortest word the pattern accepts (`shortest`) is not longer than
the text and differs from it, so the text is not part of it.
-/

namespace Like

/-- The escape character of a pattern. -/
def backslash : Char := Char.ofNat 92

/-- What a pattern asks of a text, piece by piece. -/
inductive Item where
  | lit (c : Char)
  | one
  | any
  deriving DecidableEq

/-- A character of a pattern that is not taken for itself. -/
def item (c : Char) : Item := if c = '%' then .any else if c = '_' then .one else .lit c

/-- The pieces of a pattern; the flag is set behind a backslash. A pattern must not end
with one. -/
def parse : Bool → List Char → Option (List Item)
  | false, [] => some []
  | true, [] => none
  | false, c :: cs =>
    if c = backslash then parse true cs else (parse false cs).map (item c :: ·)
  | true, c :: cs => (parse false cs).map (.lit c :: ·)

/-- A text has the pieces a pattern asks for, in this order. -/
def accepts : List Item → List Char → Bool
  | [], s => s.isEmpty
  | .lit _ :: _, [] => false
  | .lit c :: p, d :: ds => d == c && accepts p ds
  | .one :: _, [] => false
  | .one :: p, _ :: ds => accepts p ds
  | .any :: p, s => s.tails.any (accepts p)

/-- `s LIKE p`; `none` is the error for a pattern that ends too early. -/
def like (s p : List Char) : Option Bool := (parse false p).map (accepts · s)

/-! ## What a pattern accepts -/

/-- `%` takes any piece from the front. -/
theorem accepts_any_iff (p : List Item) (s : List Char) :
    accepts (.any :: p) s = true ↔ ∃ u v, s = u ++ v ∧ accepts p v = true := by
  rw [accepts, List.any_eq_true]
  constructor
  · intro ⟨v, hv, hp⟩
    obtain ⟨u, rfl⟩ := (List.mem_tails _ _).mp hv
    exact ⟨u, v, rfl, hp⟩
  · intro ⟨u, v, hs, hp⟩
    exact ⟨v, (List.mem_tails _ _).mpr ⟨u, hs.symm⟩, hp⟩

/-- Two patterns one after the other split the text. -/
theorem accepts_append_iff (p q : List Item) (s : List Char) :
    accepts (p ++ q) s = true ↔
      ∃ u v, s = u ++ v ∧ accepts p u = true ∧ accepts q v = true := by
  induction p generalizing s with
  | nil =>
    constructor
    · intro h
      exact ⟨[], s, rfl, rfl, h⟩
    · intro ⟨u, v, hs, hu, hv⟩
      have hu : u = [] := List.isEmpty_iff.mp hu
      rw [hs, hu]
      exact hv
  | cons i p ih =>
    rw [List.cons_append]
    cases i with
    | lit c =>
      cases s with
      | nil =>
        constructor
        · intro h
          cases h
        · intro ⟨u, v, hs, hu, _⟩
          obtain ⟨rfl, rfl⟩ := List.append_eq_nil_iff.mp hs.symm
          cases hu
      | cons d ds =>
        rw [accepts, Bool.and_eq_true, ih]
        constructor
        · intro ⟨hd, u, v, hds, hu, hv⟩
          exact ⟨d :: u, v, by rw [hds, List.cons_append], by rw [accepts, hd, hu]; rfl, hv⟩
        · intro ⟨u, v, hs, hu, hv⟩
          cases u with
          | nil => cases hu
          | cons e u =>
            obtain ⟨rfl, hds⟩ := List.cons.inj hs
            rw [accepts, Bool.and_eq_true] at hu
            exact ⟨hu.1, u, v, hds, hu.2, hv⟩
    | one =>
      cases s with
      | nil =>
        constructor
        · intro h
          cases h
        · intro ⟨u, v, hs, hu, _⟩
          obtain ⟨rfl, rfl⟩ := List.append_eq_nil_iff.mp hs.symm
          cases hu
      | cons d ds =>
        rw [accepts, ih]
        constructor
        · intro ⟨u, v, hds, hu, hv⟩
          exact ⟨d :: u, v, by rw [hds, List.cons_append], hu, hv⟩
        · intro ⟨u, v, hs, hu, hv⟩
          cases u with
          | nil => cases hu
          | cons e u => exact ⟨u, v, (List.cons.inj hs).2, hu, hv⟩
    | any =>
      -- what `%` takes goes to the front of the first piece
      rw [accepts_any_iff]
      constructor
      · intro ⟨w, s', hs, h⟩
        obtain ⟨u, v, hs', hu, hv⟩ := (ih s').mp h
        refine ⟨w ++ u, v, by rw [hs, hs', List.append_assoc], ?_, hv⟩
        exact (accepts_any_iff p _).mpr ⟨w, u, rfl, hu⟩
      · intro ⟨u, v, hs, hu, hv⟩
        obtain ⟨w, u', hu', hp⟩ := (accepts_any_iff p u).mp hu
        exact ⟨w, u' ++ v, by rw [hs, hu', List.append_assoc], (ih _).mpr ⟨u', v, rfl, hp, hv⟩⟩

/-- A text as a pattern for itself. -/
def lits (t : List Char) : List Item := t.map .lit

/-- A pattern of characters takes the one text. -/
theorem accepts_lits_iff (t s : List Char) : accepts (lits t) s = true ↔ s = t := by
  induction t generalizing s with
  | nil => exact List.isEmpty_iff
  | cons c t ih =>
    cases s with
    | nil => simp [lits, accepts]
    | cons d ds =>
      show (d == c && accepts (lits t) ds) = true ↔ _
      rw [Bool.and_eq_true, ih, beq_iff_eq, List.cons.injEq]

/-- Characters first, and then the rest of the pattern. -/
theorem accepts_lits_append_iff (t : List Char) (q : List Item) (s : List Char) :
    accepts (lits t ++ q) s = true ↔ ∃ v, s = t ++ v ∧ accepts q v = true := by
  rw [accepts_append_iff]
  constructor
  · intro ⟨u, v, hs, hu, hv⟩
    rw [(accepts_lits_iff t u).mp hu] at hs
    exact ⟨v, hs, hv⟩
  · intro ⟨v, hs, hv⟩
    exact ⟨t, v, hs, (accepts_lits_iff t t).mpr rfl, hv⟩

/-- `%` takes every text. -/
theorem accepts_any (s : List Char) : accepts [.any] s = true :=
  (accepts_any_iff [] s).mpr ⟨s, [], (List.append_nil s).symm, rfl⟩

/-- Anything in front, then the text, then what `q` asks for. -/
theorem accepts_any_lits_iff (t : List Char) (q : List Item) (s : List Char) :
    accepts (.any :: (lits t ++ q)) s = true ↔
      ∃ u v, s = u ++ (t ++ v) ∧ accepts q v = true := by
  rw [accepts_any_iff]
  constructor
  · intro ⟨u, v, hs, h⟩
    obtain ⟨w, hv, hq⟩ := (accepts_lits_append_iff t q v).mp h
    exact ⟨u, w, by rw [hs, hv], hq⟩
  · intro ⟨u, w, hs, hq⟩
    exact ⟨u, t ++ w, hs, (accepts_lits_append_iff t q _).mpr ⟨w, rfl, hq⟩⟩

/-! ## Escaping -/

/-- `text.replace(c, "\c")` -/
def escapeChar (c : Char) (t : List Char) : List Char :=
  t.flatMap fun d => if d = c then [backslash, d] else [d]

/-- A backslash in front of each special character. -/
def escape (special t : List Char) : List Char :=
  t.flatMap fun c => if special.contains c then [backslash, c] else [c]

/-- With nothing to escape, a text stays as it is. -/
theorem escape_nil (t : List Char) : escape [] t = t := by
  unfold escape
  simp

/-- One replacement after another escapes them all, as no replacement makes a character
of the ones still to be replaced. -/
theorem escapeChar_escape {special : List Char} {c : Char} (hc : c ∉ special)
    (hb : c ≠ backslash) (t : List Char) :
    escapeChar c (escape special t) = escape (c :: special) t := by
  have hb' : backslash ≠ c := Ne.symm hb
  unfold escapeChar escape
  rw [List.flatMap_assoc]
  congr 1
  funext d
  by_cases hd : d = c
  · subst hd
    simp [hc]
  · by_cases hs : d ∈ special
    · simp [hd, hs, hb']
    · simp [hd, hs]

variable (special : List Char)

/-- The characters that `LIKE` reads have their backslash, and no backslash has one. -/
structure Escapes : Prop where
  percent : '%' ∈ special
  underscore : '_' ∈ special
  backslash : backslash ∉ special

/-- A special character that means nothing to `LIKE`. -/
def IsIdle (c : Char) : Prop := c ∈ special ∧ item c = .lit c

/-- Every backslash of a text stands in front of a special character that means nothing to
`LIKE`: with the one that is put between them it is a pair. -/
def Harmless (t : List Char) : Prop :=
  ∀ u v, t = u ++ backslash :: v → ∃ c w, v = c :: w ∧ IsIdle special c

/-- What the pattern for an escaped text and a final `%` asks for. -/
def read : Bool → List Char → List Item
  | false, [] => [.any]
  | true, [] => [.lit '%']
  | false, c :: cs => if c = backslash then read true cs else .lit c :: read false cs
  | true, c :: cs =>
    if special.contains c then .lit backslash :: item c :: read false cs
    else .lit c :: read false cs

variable {special}

/-- An empty text has no escape character. -/
theorem harmless_nil : Harmless special [] := by
  intro u v h
  cases u <;> cases h

/-- An escape character is harmless before a special one that means nothing to `LIKE`. -/
theorem harmless_cons_iff (c : Char) (cs : List Char) :
    Harmless special (c :: cs) ↔
      (c = backslash → ∃ d ds, cs = d :: ds ∧ IsIdle special d) ∧ Harmless special cs := by
  constructor
  · intro h
    refine ⟨fun hc => h [] cs (by rw [hc]; rfl), fun u v hcs => ?_⟩
    exact h (c :: u) v (by rw [hcs]; rfl)
  · intro ⟨hhead, htail⟩ u v h
    cases u with
    | nil =>
      obtain ⟨hc, hcs⟩ := List.cons.inj h
      rw [← hcs]
      exact hhead hc
    | cons d u => exact htail u v (List.cons.inj h).2

/-- A text without the escape character is harmless. -/
theorem harmless_of_not_mem {t : List Char} (h : backslash ∉ t) : Harmless special t := by
  intro u v ht
  rw [ht] at h
  simp at h

/-- Where `LIKE` reads all the special characters, no backslash is harmless. -/
theorem harmless_iff_not_mem (hs : ∀ c ∈ special, item c ≠ .lit c) (t : List Char) :
    Harmless special t ↔ backslash ∉ t := by
  refine ⟨fun h hmem => ?_, harmless_of_not_mem⟩
  obtain ⟨u, v, ht⟩ := List.append_of_mem hmem
  obtain ⟨c, w, _, hc, hitem⟩ := h u v ht
  exact hs c hc hitem

/-! ## How an escaped text is read -/

/-- Escaping goes character by character. -/
theorem escape_cons (c : Char) (t : List Char) :
    escape special (c :: t) =
      (if special.contains c then [backslash, c] else [c]) ++ escape special t := rfl

/-- It adds no character but the escape character. -/
theorem mem_escape_iff {c : Char} (hc : c ≠ backslash) (t : List Char) :
    c ∈ escape special t ↔ c ∈ t := by
  unfold escape
  rw [List.mem_flatMap]
  constructor
  · intro ⟨d, hd, h⟩
    have hcd : c = d := by
      split at h
      · simpa [hc] using h
      · simpa using h
    rw [hcd]
    exact hd
  · intro h
    refine ⟨c, h, ?_⟩
    split <;> simp

namespace Escapes

variable (h : Escapes special)
include h

/-- A character that is no special one is read as itself. -/
theorem item_eq {c : Char} (hc : c ∉ special) : item c = .lit c := by
  have hp : c ≠ '%' := fun e => hc (e ▸ h.percent)
  have hu : c ≠ '_' := fun e => hc (e ▸ h.underscore)
  rw [item, if_neg hp, if_neg hu]

/-- A character of the text that is no backslash is read as itself. -/
theorem parse_cons {c : Char} (hc : c ≠ Like.backslash) (t cs : List Char) :
    parse false (escape special (c :: t) ++ cs) =
      (parse false (escape special t ++ cs)).map (.lit c :: ·) := by
  rw [escape_cons, List.append_assoc]
  by_cases hs : c ∈ special
  · rw [if_pos (List.contains_iff_mem.mpr hs)]
    rfl
  · rw [if_neg (fun e => hs (List.contains_iff_mem.mp e))]
    show parse false (c :: (escape special t ++ cs)) = _
    rw [parse, if_neg hc, h.item_eq hs]

/-- A backslash of the text is none of the special characters, so it stays as it is. -/
theorem parse_backslash (t cs : List Char) :
    parse false (escape special (Like.backslash :: t) ++ cs) =
      parse true (escape special t ++ cs) := by
  rw [escape_cons, if_neg (fun e => h.backslash (List.contains_iff_mem.mp e))]
  rfl

/-- Behind a backslash of the text, a special character has lost its own one. -/
theorem parse_true_special {c : Char} (hs : c ∈ special) (t cs : List Char) :
    parse true (escape special (c :: t) ++ cs) =
      (parse false (escape special t ++ cs)).map (.lit Like.backslash :: item c :: ·) := by
  have hc : c ≠ Like.backslash := fun e => h.backslash (e ▸ hs)
  rw [escape_cons, if_pos (List.contains_iff_mem.mpr hs)]
  show parse true (Like.backslash :: c :: _) = _
  rw [parse, parse, if_neg hc, Option.map_map]
  rfl

omit h in

/-- After an escape character a plain one stands for itself. -/
theorem parse_true_cons {c : Char} (hs : c ∉ special) (t cs : List Char) :
    parse true (escape special (c :: t) ++ cs) =
      (parse false (escape special t ++ cs)).map (.lit c :: ·) := by
  rw [escape_cons, if_neg (fun e => hs (List.contains_iff_mem.mp e))]
  rfl

/-- The pattern of a search, behind its first `%`. -/
theorem parse_read (t : List Char) :
    parse false (escape special t ++ ['%']) = some (read special false t) ∧
      parse true (escape special t ++ ['%']) = some (read special true t) := by
  induction t with
  | nil => exact ⟨rfl, rfl⟩
  | cons c t ih =>
    obtain ⟨ihf, iht⟩ := ih
    constructor
    · rw [read]
      by_cases hc : c = Like.backslash
      · rw [hc, h.parse_backslash, if_pos rfl, iht]
      · rw [h.parse_cons hc, if_neg hc, ihf]
        rfl
    · rw [read]
      by_cases hs : c ∈ special
      · rw [h.parse_true_special hs, if_pos (List.contains_iff_mem.mpr hs), ihf]
        rfl
      · rw [parse_true_cons hs, if_neg (fun e => hs (List.contains_iff_mem.mp e)), ihf]
        rfl

/-- A harmless text is read as itself, whatever follows. -/
theorem parse_harmless {t : List Char} (ht : Harmless special t) (cs : List Char) :
    parse false (escape special t ++ cs) = (parse false cs).map (lits t ++ ·) := by
  induction t using List.twoStepInduction with
  | nil =>
    show parse false cs = _
    simp [lits]
  | singleton c =>
    obtain ⟨hc, _⟩ := (harmless_cons_iff c []).mp ht
    have hc : c ≠ Like.backslash := by
      intro e
      obtain ⟨d, ds, hd, _⟩ := hc e
      cases hd
    rw [h.parse_cons hc]
    rfl
  | cons_cons c d t ih ihd =>
    obtain ⟨hc, htail⟩ := (harmless_cons_iff c (d :: t)).mp ht
    by_cases hb : c = Like.backslash
    · -- the pair of a backslash and a character that `LIKE` does not read
      obtain ⟨d', ds, hds, hidle, hitem⟩ := hc hb
      obtain ⟨rfl, _⟩ := List.cons.inj hds
      have hrest : Harmless special t := ((harmless_cons_iff d t).mp htail).2
      rw [hb, h.parse_backslash, h.parse_true_special hidle, hitem, ih hrest, Option.map_map]
      rfl
    · rw [h.parse_cons hb, ihd d htail, Option.map_map]
      rfl

end Escapes

/-! ## Which texts are found -/

/-- The shortest word a pattern accepts; a single character is an `a`. -/
def shortest : List Item → List Char
  | [] => []
  | .lit c :: p => c :: shortest p
  | .one :: p => 'a' :: shortest p
  | .any :: p => shortest p

/-- The shortest text is accepted. -/
theorem accepts_shortest (p : List Item) : accepts p (shortest p) = true := by
  induction p with
  | nil => rfl
  | cons i p ih =>
    cases i with
    | lit c =>
      show (c == c && accepts p (shortest p)) = true
      rw [ih, beq_self_eq_true, Bool.true_and]
    | one => exact ih
    | any => exact (accepts_any_iff p _).mpr ⟨[], shortest p, rfl, ih⟩

/-- An item asks for one character at most. -/
theorem shortest_item_length (c : Char) (p : List Item) :
    (shortest (item c :: p)).length ≤ (shortest p).length + 1 := by
  rw [item]
  split
  · exact Nat.le_succ _
  · split <;> exact Nat.le_refl _

/-- The shortest word that is found is not longer than the text. -/
theorem shortest_read_length (t : List Char) :
    (shortest (read special false t)).length ≤ t.length ∧
      (shortest (read special true t)).length ≤ t.length + 1 := by
  induction t with
  | nil => exact ⟨Nat.le_refl _, Nat.le_refl _⟩
  | cons c t ih =>
    obtain ⟨ihf, iht⟩ := ih
    constructor
    · rw [read]
      split
      · exact iht
      · exact Nat.succ_le_succ ihf
    · rw [read]
      split
      · have hitem := shortest_item_length c (read special false t)
        show (shortest (item c :: read special false t)).length + 1 ≤ t.length + 1 + 1
        omega
      · show (shortest (read special false t)).length + 1 ≤ t.length + 1 + 1
        omega

/-- Where it is the text itself, the text is harmless. -/
theorem harmless_of_shortest (h : Escapes special) (t : List Char) :
    (shortest (read special false t) = t → Harmless special t) ∧
      (shortest (read special true t) = backslash :: t → Harmless special (backslash :: t)) := by
  induction t with
  | nil =>
    refine ⟨fun _ => harmless_nil, fun hw => ?_⟩
    have hc : '%' = backslash := (List.cons.inj hw).1
    exact absurd hc (by decide)
  | cons c t ih =>
    obtain ⟨ihf, iht⟩ := ih
    constructor
    · intro hw
      rw [read] at hw
      by_cases hc : c = backslash
      · rw [if_pos hc, hc] at hw
        rw [hc]
        exact iht hw
      · rw [if_neg hc] at hw
        refine (harmless_cons_iff c t).mpr ⟨fun e => absurd e hc, ?_⟩
        exact ihf (List.cons.inj hw).2
    · intro hw
      rw [read] at hw
      have hlen : (shortest (read special false t)).length ≤ t.length :=
        (shortest_read_length t).1
      by_cases hs : c ∈ special
      · rw [if_pos (List.contains_iff_mem.mpr hs)] at hw
        have hw : shortest (item c :: read special false t) = c :: t := (List.cons.inj hw).2
        have hcb : c ≠ backslash := fun e => h.backslash (e ▸ hs)
        have hitem : item c = .lit c := by
          -- `%` would make the word shorter, and the character for `_` is another one
          rw [item] at hw ⊢
          split at hw
          · have hl : (shortest (read special false t)).length = (c :: t).length :=
              congrArg List.length hw
            rw [List.length_cons] at hl
            omega
          · split at hw
            · rename_i hu
              exact absurd ((List.cons.inj hw).1.trans hu) (by decide)
            · rename_i hp hu
              rw [if_neg hp, if_neg hu]
        rw [hitem] at hw
        have ht : Harmless special t := ihf (List.cons.inj hw).2
        refine (harmless_cons_iff _ _).mpr ⟨fun _ => ⟨c, t, rfl, hs, hitem⟩, ?_⟩
        exact (harmless_cons_iff c t).mpr ⟨fun e => absurd e hcb, ht⟩
      · rw [if_neg (fun e => hs (List.contains_iff_mem.mp e))] at hw
        have hl : (shortest (read special false t)).length + 1 = t.length + 2 :=
          congrArg List.length hw
        omega

/-- The pattern that finds what a text is part of. -/
def search (t : List Char) : List Char := '%' :: (t ++ ['%'])

/-- What a search pattern means, for any text that was escaped into it. -/
theorem like_search (h : Escapes special) (t s : List Char) :
    like s (search (escape special t)) = some (accepts (.any :: read special false t) s) := by
  have hparse : parse false (search (escape special t)) =
      some (.any :: read special false t) := by
    show (parse false (escape special t ++ ['%'])).map (.any :: ·) = _
    rw [(h.parse_read t).1]
    rfl
  rw [like, hparse]
  rfl

/-- Anything, a harmless text, and what the rest of the pattern asks for. -/
theorem like_harmless_iff (h : Escapes special) {t : List Char} (ht : Harmless special t)
    {cs : List Char} {q : List Item} (hq : parse false cs = some q) (s : List Char) :
    like s ('%' :: (escape special t ++ cs)) = some true ↔
      ∃ u v, s = u ++ (t ++ v) ∧ accepts q v = true := by
  have hparse : parse false ('%' :: (escape special t ++ cs)) =
      some (.any :: (lits t ++ q)) := by
    show (parse false (escape special t ++ cs)).map (.any :: ·) = _
    rw [h.parse_harmless ht, hq]
    rfl
  rw [like, hparse, Option.map_some, Option.some_inj]
  exact accepts_any_lits_iff t q s

/-- For a harmless text it means "contains". -/
theorem like_search_iff (h : Escapes special) {t : List Char} (ht : Harmless special t)
    (s : List Char) : like s (search (escape special t)) = some true ↔ t <:+: s := by
  have hq : parse false ['%'] = some [.any] := rfl
  rw [search, like_harmless_iff h ht hq]
  constructor
  · intro ⟨u, v, hs, _⟩
    exact ⟨u, v, by rw [hs, List.append_assoc]⟩
  · intro ⟨u, v, hs⟩
    exact ⟨u, v, by rw [← hs, List.append_assoc], accepts_any v⟩

/-- The shortest word has room for nothing besides the text. -/
theorem harmless_of_part (h : Escapes special) {t : List Char}
    (ht : t <:+: shortest (read special false t)) : Harmless special t :=
  (harmless_of_shortest h t).1 (ht.sublist.eq_of_length_le (shortest_read_length t).1).symm

/-! ## Upper and lower case -/

/-- A character that is no letter in any case. -/
def IsSign (c : Char) : Prop := c.toNat < 128 ∧ c.isAlpha = false

instance : DecidablePred IsSign := fun _ => instDecidableAnd

/-- Lower case, character by character: lower case stays what it is, and nothing becomes
or ceases to be a sign. -/
structure Folding where
  lower : Char → Char
  idem : ∀ c, lower (lower c) = lower c
  lower_a : lower 'a' = 'a'
  sign : ∀ c d, IsSign d → (lower c = d ↔ c = d)

namespace Folding

variable (F : Folding)

/-- A text in lower case. -/
def fold (t : List Char) : List Char := t.map F.lower

/-- `s ILIKE p` -/
def ilike (s p : List Char) : Option Bool := like (F.fold s) (F.fold p)

/-- What `ILIKE` should find: the text is part of the other one, whatever the case. -/
def Contains (s t : List Char) : Prop := F.fold t <:+: F.fold s

instance (s t : List Char) : Decidable (F.Contains s t) := by
  unfold Contains
  infer_instance

variable {F}

/-- Signs have no case. -/
theorem lower_sign {c : Char} (hc : IsSign c) : F.lower c = c := (F.sign c c hc).mpr rfl

/-- The escape character is a sign. -/
theorem isSign_backslash : IsSign backslash := by decide

/-- So is the percent sign. -/
theorem isSign_percent : IsSign '%' := by decide

/-- A search pattern in lower case is that of the text in lower case. -/
theorem fold_search (t : List Char) : F.fold (search t) = search (F.fold t) := by
  unfold fold search
  rw [List.map_cons, List.map_append, List.map_singleton, lower_sign isSign_percent]

/-- Signs are where they were. -/
theorem mem_fold_iff {c : Char} (hc : IsSign c) (t : List Char) : c ∈ F.fold t ↔ c ∈ t := by
  unfold fold
  rw [List.mem_map]
  constructor
  · intro ⟨d, hd, h⟩
    rw [← (F.sign d c hc).mp h]
    exact hd
  · intro h
    exact ⟨c, h, lower_sign hc⟩

/-- A text can be cut at a sign before or after it is put in lower case. -/
theorem fold_eq_append_sign {c : Char} (hc : IsSign c) {s u v : List Char}
    (h : F.fold s = u ++ c :: v) : ∃ u' v', s = u' ++ c :: v' ∧ F.fold u' = u ∧ F.fold v' = v := by
  obtain ⟨u', w, hs, hu, hw⟩ := List.map_eq_append_iff.mp h
  obtain ⟨d, v', hw', hd, hv⟩ := List.map_eq_cons_iff.mp hw
  rw [hw', (F.sign d c hc).mp hd] at hs
  exact ⟨u', v', hs, hu, hv⟩

variable {special : List Char} (hs : ∀ c ∈ special, IsSign c)
include hs

/-- What is escaped has no case. -/
theorem lower_mem_iff (c : Char) : F.lower c ∈ special ↔ c ∈ special := by
  constructor
  · intro h
    rw [(F.sign c _ (hs _ h)).mp rfl]
    exact h
  · intro h
    rw [lower_sign (hs c h)]
    exact h

/-- Escaping and lower case do not disturb each other. -/
theorem fold_escape (t : List Char) :
    F.fold (escape special t) = escape special (F.fold t) := by
  induction t with
  | nil => rfl
  | cons c t ih =>
    show F.fold (escape special (c :: t)) = escape special (F.lower c :: F.fold t)
    rw [escape_cons, escape_cons, ← ih]
    by_cases h : c ∈ special
    · rw [if_pos (List.contains_iff_mem.mpr h),
        if_pos (List.contains_iff_mem.mpr ((lower_mem_iff hs c).mpr h))]
      show F.lower backslash :: F.lower c :: _ = _
      rw [lower_sign isSign_backslash]
      rfl
    · rw [if_neg (fun e => h (List.contains_iff_mem.mp e)),
        if_neg (fun e => h ((lower_mem_iff hs c).mp (List.contains_iff_mem.mp e)))]
      rfl

/-- Nor does lower case change which special characters mean nothing to `LIKE`. -/
theorem isIdle_lower_iff (c : Char) : IsIdle special (F.lower c) ↔ IsIdle special c := by
  unfold IsIdle
  rw [lower_mem_iff hs]
  constructor
  · intro ⟨hc, hitem⟩
    rw [lower_sign (hs c hc)] at hitem
    exact ⟨hc, hitem⟩
  · intro ⟨hc, hitem⟩
    rw [lower_sign (hs c hc)]
    exact ⟨hc, hitem⟩

/-- A text is as harmless in lower case. -/
theorem harmless_fold_iff (t : List Char) :
    Harmless special (F.fold t) ↔ Harmless special t := by
  induction t with
  | nil => exact Iff.rfl
  | cons c t ih =>
    show Harmless special (F.lower c :: F.fold t) ↔ _
    rw [harmless_cons_iff, harmless_cons_iff, ih, F.sign c backslash isSign_backslash]
    refine and_congr_left fun _ => imp_congr_right fun _ => ?_
    cases t with
    | nil => exact Iff.rfl
    | cons d t =>
      show (∃ e es, F.lower d :: F.fold t = e :: es ∧ IsIdle special e) ↔ _
      constructor
      · intro ⟨e, es, he, hidle⟩
        obtain ⟨rfl, _⟩ := List.cons.inj he
        exact ⟨d, t, rfl, (isIdle_lower_iff hs d).mp hidle⟩
      · intro ⟨e, es, he, hidle⟩
        obtain ⟨rfl, _⟩ := List.cons.inj he
        exact ⟨_, _, rfl, (isIdle_lower_iff hs d).mpr hidle⟩

omit hs in
/-- The shortest word for a text in lower case is in lower case. -/
theorem fold_shortest (t : List Char) (b : Bool) :
    F.fold (shortest (read special b (F.fold t))) = shortest (read special b (F.fold t)) := by
  induction t generalizing b with
  | nil =>
    cases b with
    | false => rfl
    | true => exact congrArg (· :: []) (lower_sign isSign_percent)
  | cons c t ih =>
    show F.fold (shortest (read special b (F.lower c :: F.fold t))) =
      shortest (read special b (F.lower c :: F.fold t))
    have hlit : F.fold (shortest (.lit (F.lower c) :: read special false (F.fold t))) =
        shortest (.lit (F.lower c) :: read special false (F.fold t)) := by
      show F.lower (F.lower c) :: F.fold _ = F.lower c :: _
      rw [F.idem, ih]
    cases b with
    | false =>
      rw [read]
      split
      · exact ih true
      · exact hlit
    | true =>
      rw [read]
      split
      · show F.lower backslash :: F.fold (shortest (item (F.lower c) :: _)) = backslash :: _
        rw [lower_sign isSign_backslash]
        congr 1
        rw [item]
        split
        · exact ih false
        · split
          · show F.lower 'a' :: F.fold _ = 'a' :: _
            rw [F.lower_a, ih]
          · exact hlit
      · exact hlit

/-- A search is never refused: its pattern ends with `%`. -/
theorem ilike_search_isSome (h : Escapes special) (t s : List Char) :
    (F.ilike s (search (escape special t))).isSome = true := by
  rw [ilike, fold_search, fold_escape hs, like_search h]
  rfl

/-- For a harmless text the search means "contains", whatever the case. -/
theorem ilike_search_of_harmless (h : Escapes special) {t : List Char}
    (ht : Harmless special t) (s : List Char) :
    F.ilike s (search (escape special t)) = some true ↔ F.Contains s t := by
  rw [ilike, fold_search, fold_escape hs]
  exact like_search_iff h ((harmless_fold_iff hs t).mpr ht) (F.fold s)

/-- An escaped text is found in the texts that it is part of and in no others, if it is
harmless and only then. -/
theorem ilike_search_iff (h : Escapes special) (t : List Char) :
    (∀ s, F.ilike s (search (escape special t)) = some true ↔ F.Contains s t) ↔
      Harmless special t := by
  refine ⟨fun hall => ?_, fun ht => ilike_search_of_harmless hs h ht⟩
  have hfold : F.fold (shortest (read special false (F.fold t))) =
      shortest (read special false (F.fold t)) := fold_shortest t false
  have hfound : F.ilike (shortest (read special false (F.fold t)))
      (search (escape special t)) = some true := by
    rw [ilike, fold_search, fold_escape hs, hfold, like_search h]
    exact congrArg some (accepts_shortest (.any :: read special false (F.fold t)))
  have hinfix := (hall _).mp hfound
  rw [Contains, hfold] at hinfix
  exact (harmless_fold_iff hs t).mp (harmless_of_part h hinfix)

end Folding

/-! ## The letters of ASCII -/

/-- Only capitals have another lower case. -/
theorem toLower_of_not_isUpper {c : Char} (hc : ¬c.isUpper = true) : c.toLower = c := by
  rw [Char.isUpper, decide_eq_true_eq] at hc
  exact dif_neg hc

/-- No letter is of both cases. -/
theorem not_isUpper_of_isLower {c : Char} (hc : c.isLower = true) : ¬c.isUpper = true := by
  rw [Char.isLower, Bool.and_eq_true, decide_eq_true_eq, ge_iff_le] at hc
  rw [Char.isUpper, decide_eq_true_eq]
  rintro ⟨-, hhi⟩
  exact absurd (UInt32.le_trans hc.1 hhi) (by decide)

/-- The lower case of a capital is a small letter. -/
theorem isLower_toLower {c : Char} (hc : c.isUpper = true) : c.toLower.isLower = true := by
  rw [Char.isUpper, decide_eq_true_eq] at hc
  have hval : c.toLower.val = c.val + 32 := by
    unfold Char.toLower
    rw [dif_pos hc]
    rfl
  obtain ⟨hlo, hhi⟩ := hc
  rw [ge_iff_le, UInt32.le_iff_toNat_le] at hlo
  rw [UInt32.le_iff_toNat_le] at hhi
  have hadd : (c.val + 32).toNat = c.val.toNat + 32 := by
    rw [UInt32.toNat_add]
    have hlt : c.val.toNat ≤ 90 := hhi
    show (c.val.toNat + 32) % 4294967296 = c.val.toNat + 32
    omega
  unfold Char.isLower
  rw [hval, Bool.and_eq_true, decide_eq_true_eq, decide_eq_true_eq, ge_iff_le,
    UInt32.le_iff_toNat_le, UInt32.le_iff_toNat_le, hadd]
  exact ⟨Nat.add_le_add_right hlo 32, Nat.add_le_add_right hhi 32⟩

/-- Lower case for the letters of ASCII, as in a database with the locale `C`. -/
def asciiFolding : Folding where
  lower := Char.toLower
  idem c := by
    by_cases hc : c.isUpper = true
    · exact toLower_of_not_isUpper (not_isUpper_of_isLower (isLower_toLower hc))
    · rw [toLower_of_not_isUpper hc, toLower_of_not_isUpper hc]
  lower_a := rfl
  sign c d hd := by
    by_cases hc : c.isUpper = true
    · -- a letter is no sign, before and after
      constructor
      · intro h
        rw [← h, IsSign, Char.isAlpha, isLower_toLower hc, Bool.or_true] at hd
        exact absurd hd.2 (by simp)
      · intro h
        rw [← h, IsSign, Char.isAlpha, hc, Bool.true_or] at hd
        exact absurd hd.2 (by simp)
    · rw [toLower_of_not_isUpper hc]

end Like
