import Mathlib.Data.List.TakeWhile
import Mathlib.Data.Nat.Digits.Defs
import SensorSeries.Number.Numeral

/-!
# Integer numerals

`IsInteger` says how integers are written: an optional sign, then decimal digits of any script, with at
most one underscore between two of them. The reader takes these numerals with padding around them and
no others, up to a greatest number of digits (`integer?_eq_some_iff`); blanks that are stripped
beforehand count as padding too (`integer?_strip_eq_some_iff`). What is written for an integer is such a
numeral (`isInteger_toString`).
-/

namespace SensorSeries

namespace Text

/-! ## Padding -/

section Padding

variable {drop wider : Char → Bool} {cs text inner : List Char}

/-- Whether a text is `cs` with characters of a class at both ends. -/
def IsPadded (drop : Char → Bool) (cs text : List Char) : Prop :=
  ∃ before after, text = before ++ cs ++ after ∧ ∀ c ∈ before ++ after, drop c = true

theorem IsPadded.refl (drop : Char → Bool) (cs : List Char) : IsPadded drop cs cs :=
  ⟨[], [], by simp, by simp⟩

theorem IsPadded.mono (h : IsPadded drop cs text) (hwider : ∀ c, drop c = true → wider c = true) :
    IsPadded wider cs text := by
  obtain ⟨before, after, htext, hdrop⟩ := h
  exact ⟨before, after, htext, fun c hc => hwider c (hdrop c hc)⟩

theorem IsPadded.trans (hinner : IsPadded drop cs inner) (houter : IsPadded drop inner text) :
    IsPadded drop cs text := by
  obtain ⟨before, after, rfl, hdrop⟩ := hinner
  obtain ⟨farBefore, farAfter, rfl, hfar⟩ := houter
  refine ⟨farBefore ++ before, after ++ farAfter, by simp, fun c hc => ?_⟩
  simp only [List.mem_append] at hc hdrop hfar
  rcases hc with (hc | hc) | hc | hc
  · exact hfar c (.inl hc)
  · exact hdrop c (.inl hc)
  · exact hdrop c (.inr hc)
  · exact hfar c (.inr hc)

/-- Whether characters are left, and neither the first nor the last of them is of a class. -/
structure IsTrimmed (drop : Char → Bool) (cs : List Char) : Prop where
  ne_nil : cs ≠ []
  first : ∀ c ∈ cs.head?, drop c = false
  last : ∀ c ∈ cs.getLast?, drop c = false

theorem IsTrimmed.mono (h : IsTrimmed wider cs) (hwider : ∀ c, drop c = true → wider c = true) :
    IsTrimmed drop cs where
  ne_nil := h.ne_nil
  first c hc := Bool.eq_false_iff.2 fun hdrop => by simpa [h.first c hc] using hwider c hdrop
  last c hc := Bool.eq_false_iff.2 fun hdrop => by simpa [h.last c hc] using hwider c hdrop

theorem dropWhile_eq_self (h : ∀ c ∈ cs.head?, drop c = false) : cs.dropWhile drop = cs := by
  cases cs with
  | nil => rfl
  | cons c cs => exact List.dropWhile_cons_of_neg (by simp [h c rfl])

/-- Stripping takes off the padding and no more. -/
theorem IsTrimmed.stripBy_eq (h : IsTrimmed drop cs) (hpadded : IsPadded drop cs text) :
    stripBy drop text = cs := by
  obtain ⟨before, after, rfl, hdrop⟩ := hpadded
  have hbefore : ∀ c ∈ before, drop c = true := fun c hc => hdrop c (List.mem_append_left _ hc)
  have hafter : ∀ c ∈ after.reverse, drop c = true := fun c hc =>
    hdrop c (List.mem_append_right _ (List.mem_reverse.1 hc))
  have hfirst : ∀ c ∈ (cs ++ after).head?, drop c = false := by
    rw [List.head?_append, Option.or_of_isSome (List.isSome_head?.2 h.ne_nil)]
    exact h.first
  have hlast : ∀ c ∈ cs.reverse.head?, drop c = false := by
    rw [List.head?_reverse]
    exact h.last
  rw [stripBy, List.append_assoc, List.dropWhile_append_of_pos hbefore, dropWhile_eq_self hfirst,
    List.reverse_append, List.dropWhile_append_of_pos hafter, dropWhile_eq_self hlast,
    List.reverse_reverse]

theorem isPadded_stripBy (drop : Char → Bool) (text : List Char) :
    IsPadded drop (stripBy drop text) text := by
  let rest := text.dropWhile drop
  refine ⟨text.takeWhile drop, (rest.reverse.takeWhile drop).reverse, ?_, ?_⟩
  · have hrest : rest = stripBy drop text ++ (rest.reverse.takeWhile drop).reverse := by
      rw [stripBy, ← List.reverse_append, List.takeWhile_append_dropWhile, List.reverse_reverse]
    rw [List.append_assoc, ← hrest, List.takeWhile_append_dropWhile]
  · intro c hc
    rcases List.mem_append.1 hc with hc | hc
    · exact List.mem_takeWhile_imp hc
    · exact List.mem_takeWhile_imp (List.mem_reverse.1 hc)

end Padding

/-! ## Digits and blanks -/

section Digits

variable {c : Char} {d : Nat}

theorem digit?_range (h : digit? c = some d) :
    ∃ first ∈ zeros, first ≤ c.toNat ∧ c.toNat < first + 10 := by
  obtain ⟨first, hfind, -⟩ := Option.map_eq_some_iff.1 h
  have hrange := List.find?_some hfind
  simp only [Bool.and_eq_true, decide_eq_true_eq] at hrange
  exact ⟨first, List.mem_of_find?_eq_some hfind, hrange⟩

/-- No row of digits overlaps a range of blanks. -/
theorem isBlank_of_digit (h : digit? c = some d) : isBlank c = false := by
  have hapart : ∀ first ∈ zeros, ∀ r ∈ blankRanges, r.2 < first ∨ first + 10 ≤ r.1 := by decide
  obtain ⟨first, hfirst, hfrom, hto⟩ := digit?_range h
  rw [Bool.eq_false_iff]
  intro hblank
  obtain ⟨r, hr, hin⟩ := List.any_eq_true.1 hblank
  simp only [Bool.and_eq_true, decide_eq_true_eq] at hin
  rcases hapart first hfirst r hr with h | h <;> omega

/-- A Latin digit counts for its distance from zero. -/
theorem digit?_of_isDigit (h : c.isDigit = true) : digit? c = some (c.toNat - '0'.toNat) := by
  have hrange : 48 ≤ c.toNat ∧ c.toNat ≤ 57 := by
    simpa [Char.isDigit, UInt32.le_iff_toNat_le] using h
  have hfind : zeros.find? (fun first => first ≤ c.toNat && c.toNat < first + 10) = some 48 :=
    List.find?_cons_of_pos (by simp; omega)
  rw [digit?, hfind, Option.map_some]
  rfl

end Digits

end Text

namespace Numeral

open Text

/-! ## Spelling -/

/-- Which numbers below ten a row of digits stands for, first to last. An underscore may stand
between two digits. -/
inductive Spells : List Char → List Nat → Prop where
  | digit {c : Char} {d : Nat} (hc : digit? c = some d) : Spells [c] [d]
  | next {c : Char} {d : Nat} {cs : List Char} {ds : List Nat} (hc : digit? c = some d)
      (hrest : Spells cs ds) : Spells (c :: cs) (d :: ds)
  | underscore {c : Char} {d : Nat} {cs : List Char} {ds : List Nat} (hc : digit? c = some d)
      (hrest : Spells cs ds) : Spells (c :: '_' :: cs) (d :: ds)

/-- The number that digits denote, the most significant one first. -/
def denotes (ds : List Nat) : Nat := Nat.ofDigits 10 ds.reverse

/-- Which integer an optional sign and digits stand for. -/
inductive IsInteger : List Char → List Nat → Int → Prop where
  | unsigned {cs : List Char} {ds : List Nat} (h : Spells cs ds) : IsInteger cs ds (denotes ds)
  | plus {cs : List Char} {ds : List Nat} (h : Spells cs ds) : IsInteger ('+' :: cs) ds (denotes ds)
  | minus {cs : List Char} {ds : List Nat} (h : Spells cs ds) :
      IsInteger ('-' :: cs) ds (-(denotes ds))

section Spelling

variable {c : Char} {cs : List Char} {d value n : Nat} {ds : List Nat} {afterDigit : Bool} {i : Int}

theorem denotes_eq_foldl (ds : List Nat) : denotes ds = ds.foldl (fun n d => 10 * n + d) 0 := by
  rw [denotes, Nat.ofDigits_eq_foldr, List.foldr_reverse]
  simp only [Nat.cast_id, Nat.add_comm]

theorem not_digit_underscore : digit? '_' = none := by decide

theorem ne_of_digit (h : digit? c = some d) {other : Char} (hother : digit? other = none) :
    c ≠ other := by
  rintro rfl
  exact Option.some_ne_none d (h.symm.trans hother)

theorem Spells.first (h : Spells cs ds) : ∃ c d rest, cs = c :: rest ∧ digit? c = some d := by
  cases h with
  | digit hc | next hc _ | underscore hc _ => exact ⟨_, _, _, rfl, hc⟩

theorem Spells.last (h : Spells cs ds) : ∀ c ∈ cs.getLast?, ∃ d, digit? c = some d := by
  induction h with
  | digit hc => simpa using ⟨_, hc⟩
  | next hc hrest ih =>
    obtain ⟨c, d, rest, rfl, -⟩ := hrest.first
    rwa [List.getLast?_cons_cons]
  | underscore hc hrest ih =>
    obtain ⟨c, d, rest, rfl, -⟩ := hrest.first
    rwa [List.getLast?_cons_cons, List.getLast?_cons_cons]

theorem Spells.isTrimmed (h : Spells cs ds) : IsTrimmed isBlank cs := by
  obtain ⟨c, d, rest, rfl, hc⟩ := h.first
  refine ⟨List.cons_ne_nil _ _, ?_, fun last hlast => ?_⟩
  · rintro _ ⟨⟩
    exact isBlank_of_digit hc
  · obtain ⟨d, hd⟩ := h.last last hlast
    exact isBlank_of_digit hd

/-- A sign is no blank, and digits follow it. -/
theorem IsInteger.isTrimmed (h : IsInteger cs ds i) : IsTrimmed isBlank cs := by
  have signed : ∀ {sign cs}, isBlank sign = false → IsTrimmed isBlank cs →
      IsTrimmed isBlank (sign :: cs) := by
    intro sign cs hsign hcs
    obtain ⟨c, rest, rfl⟩ := List.exists_cons_of_ne_nil hcs.ne_nil
    refine ⟨List.cons_ne_nil _ _, by simpa using hsign, ?_⟩
    rw [List.getLast?_cons_cons]
    exact hcs.last
  cases h with
  | unsigned h => exact h.isTrimmed
  | plus h => exact signed (by decide) h.isTrimmed
  | minus h => exact signed (by decide) h.isTrimmed

theorem Spells.digit_count (h : Spells cs ds) : (cs.filter (· != '_')).length = ds.length := by
  induction h with
  | digit hc | next hc _ _ | underscore hc _ _ =>
    simp [*, ne_of_digit hc not_digit_underscore]

/-! ## Reading digits -/

theorem digitsFrom_cons (h : digit? c = some d) :
    digitsFrom value afterDigit (c :: cs) = digitsFrom (10 * value + d) true cs := by
  rw [digitsFrom, if_neg (ne_of_digit h not_digit_underscore), h]

/-- Digits are added to what has been read. -/
theorem Spells.digitsFrom_eq (h : Spells cs ds) (value : Nat) (afterDigit : Bool) :
    digitsFrom value afterDigit cs = some (ds.foldl (fun n d => 10 * n + d) value) := by
  induction h generalizing value afterDigit with
  | digit hc => rw [digitsFrom_cons hc]; rfl
  | next hc _ ih => rw [digitsFrom_cons hc, ih]; rfl
  | underscore hc _ ih => rw [digitsFrom_cons hc, digitsFrom, if_pos rfl, if_pos rfl, ih]; rfl

/-- Whether characters spell digits by themselves or, if they come after a digit, together with it. -/
def SpellsAfter (afterDigit : Bool) (cs : List Char) (ds : List Nat) : Prop :=
  if afterDigit then ∀ c d, digit? c = some d → Spells (c :: cs) (d :: ds) else Spells cs ds

theorem SpellsAfter.cons (hc : digit? c = some d) (h : SpellsAfter true cs ds) :
    SpellsAfter afterDigit (c :: cs) (d :: ds) := by
  cases afterDigit with
  | false => exact h c d hc
  | true => exact fun before b hbefore => .next hbefore (h c d hc)

/-- Only what is spelled is read. After a digit nothing more need come, or an underscore may. -/
theorem spells_of_digitsFrom (h : digitsFrom value afterDigit cs = some n) :
    ∃ ds, SpellsAfter afterDigit cs ds ∧ n = ds.foldl (fun n d => 10 * n + d) value := by
  induction cs generalizing value afterDigit with
  | nil =>
    cases afterDigit with
    | false => cases h
    | true => exact ⟨[], fun c d hc => .digit hc, (Option.some.inj h).symm⟩
  | cons c cs ih =>
    by_cases hunderscore : c = '_'
    · subst hunderscore
      cases afterDigit with
      | false => cases h
      | true =>
        obtain ⟨ds, hspells, rfl⟩ := ih h
        exact ⟨ds, fun c d hc => .underscore hc hspells, rfl⟩
    · cases hc : digit? c with
      | none => simp [digitsFrom, hunderscore, hc] at h
      | some d =>
        rw [digitsFrom_cons hc] at h
        obtain ⟨ds, hspells, rfl⟩ := ih h
        exact ⟨d :: ds, hspells.cons hc, rfl⟩

theorem digits?_eq_some_iff : digits? cs = some n ↔ ∃ ds, Spells cs ds ∧ n = denotes ds := by
  constructor
  · intro h
    obtain ⟨ds, hspells, rfl⟩ := spells_of_digitsFrom h
    exact ⟨ds, hspells, (denotes_eq_foldl ds).symm⟩
  · rintro ⟨ds, hspells, rfl⟩
    rw [digits?, hspells.digitsFrom_eq, denotes_eq_foldl]

/-! ## Reading integers -/

theorem Spells.splitSign_eq (h : Spells cs ds) : splitSign cs = (false, cs) := by
  obtain ⟨c, d, rest, rfl, hc⟩ := h.first
  have hminus : c ≠ '-' := ne_of_digit hc (by decide)
  have hplus : c ≠ '+' := ne_of_digit hc (by decide)
  simp [splitSign, hminus, hplus]

/-- A numeral is what its sign is split off from and the digits of the rest. -/
theorem isInteger_iff : IsInteger cs ds i ↔
    Spells (splitSign cs).2 ds ∧ i = signed (splitSign cs).1 (denotes ds) := by
  constructor
  · rintro (h | h | h)
    · rw [h.splitSign_eq]
      exact ⟨h, rfl⟩
    · exact ⟨h, rfl⟩
    · exact ⟨h, rfl⟩
  · rintro ⟨h, rfl⟩
    unfold splitSign at h ⊢
    split at h
    · exact .minus h
    · exact .plus h
    · exact .unsigned h

theorem isBlank_of_isPadding (h : isPadding c = true) : isBlank c = true :=
  (Bool.and_eq_true_iff.1 h).1

/-- An integer is read from what the padding leaves, unless it has too many digits. -/
theorem integer?_eq_some_iff_stripBy {s : String} : integer? s = some i ↔
    ∃ ds, IsInteger (stripBy isPadding s.toList) ds i ∧ ds.length ≤ maxDigits := by
  simp only [integer?, isInteger_iff]
  rcases splitSign (stripBy isPadding s.toList) with ⟨negative, body⟩
  constructor
  · intro h
    obtain ⟨hshort, h⟩ := Option.ite_none_left_eq_some.1 h
    obtain ⟨n, hdigits, rfl⟩ := Option.map_eq_some_iff.1 h
    obtain ⟨ds, hspells, rfl⟩ := digits?_eq_some_iff.1 hdigits
    rw [hspells.digit_count, Nat.not_lt] at hshort
    exact ⟨ds, ⟨hspells, rfl⟩, hshort⟩
  · rintro ⟨ds, ⟨hspells, rfl⟩, hshort⟩
    rw [hspells.digit_count, if_neg (Nat.not_lt.2 hshort),
      digits?_eq_some_iff.2 ⟨ds, hspells, rfl⟩, Option.map_some]

/-- The reader takes the numerals of few enough digits with padding around them. -/
theorem integer?_eq_some_iff {s : String} : integer? s = some i ↔
    ∃ cs ds, IsPadded isPadding cs s.toList ∧ IsInteger cs ds i ∧ ds.length ≤ maxDigits := by
  rw [integer?_eq_some_iff_stripBy]
  constructor
  · rintro ⟨ds, hinteger, hshort⟩
    exact ⟨_, ds, isPadded_stripBy _ _, hinteger, hshort⟩
  · rintro ⟨cs, ds, hpadded, hinteger, hshort⟩
    have htrimmed := hinteger.isTrimmed.mono fun _ => isBlank_of_isPadding
    exact ⟨ds, by rwa [htrimmed.stripBy_eq hpadded], hshort⟩

/-- Where blanks are stripped first, every blank is padding. -/
theorem integer?_strip_eq_some_iff {s : String} : integer? (strip s) = some i ↔
    ∃ cs ds, IsPadded isBlank cs s.toList ∧ IsInteger cs ds i ∧ ds.length ≤ maxDigits := by
  rw [integer?_eq_some_iff, strip, String.toList_ofList]
  constructor
  · rintro ⟨cs, ds, hpadded, hinteger, hshort⟩
    have hblank := hpadded.mono fun _ => isBlank_of_isPadding
    exact ⟨cs, ds, hblank.trans (isPadded_stripBy _ _), hinteger, hshort⟩
  · rintro ⟨cs, ds, hpadded, hinteger, hshort⟩
    rw [hinteger.isTrimmed.stripBy_eq hpadded]
    exact ⟨cs, ds, .refl _ _, hinteger, hshort⟩

/-! ## Writing integers -/

/-- Latin digits spell what they count for. -/
theorem spells_of_isDigit (hne : cs ≠ []) (h : ∀ c ∈ cs, c.isDigit = true) :
    Spells cs (cs.map (·.toNat - '0'.toNat)) := by
  induction cs with
  | nil => exact absurd rfl hne
  | cons c cs ih =>
    have hc := digit?_of_isDigit (h c List.mem_cons_self)
    cases cs with
    | nil => exact .digit hc
    | cons next rest => exact .next hc (ih (List.cons_ne_nil _ _) fun c hc => h c (.tail _ hc))

/-- The digits that a number is written with. -/
def digitsOf (n : Nat) : List Nat := (Nat.toDigits 10 n).map (·.toNat - '0'.toNat)

theorem spells_toDigits (n : Nat) : Spells (Nat.toDigits 10 n) (digitsOf n) :=
  spells_of_isDigit Nat.toDigits_ne_nil
    fun _ hc => Nat.isDigit_of_mem_toDigits (by decide) (by decide) hc

theorem denotes_digitsOf (n : Nat) : denotes (digitsOf n) = n := by
  rw [denotes_eq_foldl, digitsOf, List.foldl_map]
  exact Nat.ofDigitChars_ten_toDigits

/-- An integer is written as a numeral for it. -/
theorem isInteger_toString (i : Int) : IsInteger (toString i).toList (digitsOf i.natAbs) i := by
  cases i with
  | ofNat n =>
    have h := IsInteger.unsigned (spells_toDigits n)
    rw [denotes_digitsOf] at h
    simpa [Int.toString_eq_repr, Int.repr, Nat.toList_repr] using h
  | negSucc n =>
    have h := IsInteger.minus (spells_toDigits (n + 1))
    rw [denotes_digitsOf, Int.natCast_succ, ← Int.negSucc_eq] at h
    simpa [Int.toString_eq_repr, Int.repr, Nat.toList_repr] using h

theorem length_digitsOf_le {digits : Nat} (hpos : 0 < digits) (h : n < 10 ^ digits) :
    (digitsOf n).length ≤ digits := by
  rw [digitsOf, List.length_map]
  exact Nat.toDigits_length 10 n digits hpos h

end Spelling

end Numeral

end SensorSeries
