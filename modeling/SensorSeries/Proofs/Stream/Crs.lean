import SensorSeries.Proofs.Number.Numerals
import SensorSeries.Stream.Crs

/-!
# Reading the number of a reference system

An option asks for a reference system by an integer or by a numeral between blanks, and reading gives
the number that it asks for. Every other option is named in the failure as it was given.
-/

namespace SensorSeries.Crs

open Numeral Text

/-- The number that an option asks for. -/
inductive Names : Datum → Int → Prop
  | number (n : Int) : Names (.int n) n
  | numeral {s : String} {n : Int} (h : Numeral.integer? (Text.strip s) = some n) :
    Names (.text s) n

theorem read_of_names {option : Datum} {n : Int} (h : Names option n) : read option = .ok n := by
  cases h with
  | number => rfl
  | numeral h => rw [read, h]

theorem read_of_nameless {option : Datum} (h : ∀ n, ¬ Names option n) :
    ∃ reason, read option = .error (malformed option reason) := by
  cases option with
  | int n => exact absurd (.number n) (h n)
  | text s =>
    cases hs : Numeral.integer? (Text.strip s) with
    | some n => exact absurd (.numeral hs) (h n)
    | none =>
      refine ⟨"not a numeric string", ?_⟩
      rw [read, hs]
  | _ => exact ⟨_, rfl⟩

/-- How an option may be written for a number: as the number itself, or as a numeral of few enough
digits with blanks around it. A truth value is no number. -/
inductive Asks : Datum → Int → Prop where
  | number (n : Int) : Asks (.int n) n
  | numeral {s : String} {cs : List Char} {ds : List Nat} {n : Int}
      (hpadded : IsPadded isBlank cs s.toList) (hinteger : IsInteger cs ds n)
      (hshort : ds.length ≤ maxDigits) : Asks (.text s) n

variable {option : Datum} {n : Int}

theorem names_iff_asks : Names option n ↔ Asks option n := by
  constructor
  · rintro (_ | h)
    · exact .number n
    · obtain ⟨cs, ds, hpadded, hinteger, hshort⟩ := integer?_strip_eq_some_iff.1 h
      exact .numeral hpadded hinteger hshort
  · rintro (_ | ⟨hpadded, hinteger, hshort⟩)
    · exact .number n
    · exact .numeral (integer?_strip_eq_some_iff.2 ⟨_, _, hpadded, hinteger, hshort⟩)

theorem read_eq_ok_iff : read option = .ok n ↔ Asks option n := by
  rw [← names_iff_asks]
  refine ⟨fun h => ?_, read_of_names⟩
  by_cases hnames : ∃ m, Names option m
  · obtain ⟨m, hm⟩ := hnames
    obtain rfl := Except.ok.inj ((read_of_names hm).symm.trans h)
    exact hm
  · obtain ⟨reason, herror⟩ := read_of_nameless (not_exists.1 hnames)
    cases herror.symm.trans h

/-- The text of a number asks for it, whatever blanks stand around it. -/
theorem asks_toString {before after : String} (hsmall : n.natAbs < 10 ^ maxDigits)
    (hblank : ∀ c ∈ before.toList ++ after.toList, isBlank c = true) :
    Asks (.text (before ++ toString n ++ after)) n := by
  refine .numeral ⟨before.toList, after.toList, ?_, hblank⟩ (isInteger_toString n)
    (length_digitsOf_le (by decide) hsmall)
  rw [String.toList_append, String.toList_append]

/-- An option is read exactly if it asks for a number, and as that number; every other option is given
back in the failure. What is written for a number, with any blanks around it, is read as that number,
unless the number has too many digits. -/
theorem reads_what_is_asked :
    (∀ option n, read option = .ok n ↔ Asks option n) ∧
    (∀ option, (∀ n, ¬ Asks option n) →
      ∃ reason, read option = .error (.badParameter (.text "crs") option (.text reason))) ∧
    ∀ (n : Int) (before after : String), n.natAbs < 10 ^ maxDigits →
      (∀ c ∈ before.toList ++ after.toList, isBlank c = true) →
      read (.text (before ++ toString n ++ after)) = .ok n := by
  refine ⟨fun option n => read_eq_ok_iff, fun option hnone => ?_,
    fun n before after hsmall hblank => read_eq_ok_iff.2 (asks_toString hsmall hblank)⟩
  exact read_of_nameless fun n hnames => hnone n (names_iff_asks.1 hnames)

/-- A numeral may mix scripts, and an underscore may stand between two digits. -/
example : (read (.text "\u2003-2\u0665_832\n")).toOption = some (-25832) := by decide +kernel

end SensorSeries.Crs
