import Mathlib.Data.List.Lex
import Mathlib.Data.String.Basic
import Mathlib.Data.Prod.Lex
import Mathlib.Data.Sum.Order
import SensorSeries.Datum.Basic

/-!
# Codes of data

Data are compared by two functions, one for equality and one for order, that are defined apart from
each other. Where two data are `Alike`, numbers meet numbers and texts meet texts as far as the two
are looked at; then both functions compare the `code`s of the data, which are lists of numbers and
texts in the order of lists (`Alike.outcome`). So all the laws of a linear order hold of them.
-/

namespace SensorSeries

namespace Position

/-- The part of the number line that a point lies on, and where. -/
def place : Position → Int ×ₗ Int
  | .below => toLex (-1, 0)
  | .finite units => toLex (0, units)
  | .above => toLex (1, 0)

theorem place_injective : Function.Injective place := by
  intro p q h
  cases p <;> cases q <;> simp_all [place]

instance : LinearOrder Position := LinearOrder.lift' place place_injective

theorem lt_iff {p q : Position} : p.lt q = true ↔ p < q := by
  change _ ↔ place p < place q
  cases p <;> cases q <;> simp [lt, place, Prod.Lex.toLex_lt_toLex]

end Position

/-- A sign of a code. Tuples stand between an opening and a closing sign. -/
inductive Token where
  | closing
  | number (p : Position)
  | text (s : String)
  | opening

namespace Token

/-- The end of a tuple comes before everything that may stand in its place. -/
def rank : Token → WithBot (WithTop (Position ⊕ₗ String))
  | .closing => ⊥
  | .number p => ((toLex (.inl p) : Position ⊕ₗ String) : WithTop (Position ⊕ₗ String))
  | .text s => ((toLex (.inr s) : Position ⊕ₗ String) : WithTop (Position ⊕ₗ String))
  | .opening => (⊤ : WithTop (Position ⊕ₗ String))

theorem rank_injective : Function.Injective rank := by
  intro a b h
  cases a <;> cases b <;> simp_all [rank]

instance : LinearOrder Token := LinearOrder.lift' rank rank_injective

theorem number_lt_number {p q : Position} : number p < number q ↔ p < q := by
  change rank _ < rank _ ↔ _
  simp [rank]

theorem text_lt_text {s t : String} : text s < text t ↔ s < t := by
  change rank _ < rank _ ↔ _
  simp only [rank, WithBot.coe_lt_coe, WithTop.coe_lt_coe, Sum.Lex.inr_lt_inr_iff]

theorem closing_lt {a : Token} (h : a ≠ closing) : closing < a := by
  change rank _ < rank _
  cases a with
  | closing => exact absurd rfl h
  | number p => exact WithBot.bot_lt_coe _
  | text s => exact WithBot.bot_lt_coe _
  | opening => exact WithBot.bot_lt_coe _

end Token

namespace Datum

mutual

/-- What a normal form is compared by. Where there is no order an opening sign stands for the whole.
-/
def code : Datum → List Token
  | .bool b => [.number (.ofInt (if b then 1 else 0))]
  | .int n => [.number (.ofInt n)]
  | .num x => [x.position?.elim .opening .number]
  | .text s => [.text s]
  | .tuple items => .opening :: codeAll items
  | _ => [.opening]

def codeAll : List Datum → List Token
  | [] => [.closing]
  | d :: rest => code d ++ codeAll rest

end

theorem exists_code (d : Datum) : ∃ a c, d.code = a :: c ∧ a ≠ .closing := by
  cases d with
  | num x =>
    refine ⟨_, _, rfl, ?_⟩
    cases x.position? <;> exact nofun
  | _ => exact ⟨_, _, rfl, nofun⟩

theorem code_of_number {d : Datum} {p : Position} (h : d.number? = some (some p)) :
    d.code = [.number p] := by
  cases d with
  | bool b =>
    cases h
    rfl
  | int n =>
    cases h
    rfl
  | num x =>
    have hx : x.position? = some p := Option.some.inj h
    rw [code, hx]
    rfl
  | _ => cases h

mutual

/-- Whether two normal forms can be compared: wherever they are looked at they are both numbers,
both texts, or both tuples. Tuples are looked at up to the first place where they differ. -/
inductive Alike : Datum → Datum → Prop
  | number {a b : Datum} {p q : Position} (ha : a.number? = some (some p))
      (hb : b.number? = some (some q)) : Alike a b
  | text (s t : String) : Alike (.text s) (.text t)
  | tuple {xs ys : List Datum} (h : AlikeAll xs ys) : Alike (.tuple xs) (.tuple ys)

inductive AlikeAll : List Datum → List Datum → Prop
  | nilLeft (ys : List Datum) : AlikeAll [] ys
  | nilRight (xs : List Datum) : AlikeAll xs []
  | cons {x y : Datum} {xs ys : List Datum} (h : Alike x y)
      (hrest : x.code = y.code → AlikeAll xs ys) : AlikeAll (x :: xs) (y :: ys)

end

/-- How the answers of two comparisons agree with the order of two codes, whatever follows the codes
in a longer one. -/
inductive Outcome (c d : List Token) : Bool → Option Bool → Prop
  | equal (h : c = d) : Outcome c d true (some false)
  | less (h : ∀ r s, c ++ r < d ++ s) : Outcome c d false (some true)
  | greater (h : ∀ r s, d ++ s < c ++ r) : Outcome c d false (some false)

/-- The first place where two codes differ decides, whatever follows it. -/
theorem append_lt_append {a b : Token} (h : a < b) (c d r s : List Token) :
    (a :: c) ++ r < (b :: d) ++ s := by
  rw [List.cons_append, List.cons_append, List.cons_lt_cons_iff]
  exact .inl h

theorem outcome_of_token {a b : Token} {same : Bool} {before : Option Bool}
    (hsame : same = decide (a = b)) (hbefore : before = some (decide (a < b))) :
    Outcome [a] [b] same before := by
  subst hsame hbefore
  rcases lt_trichotomy a b with h | h | h
  · rw [decide_eq_false h.ne, decide_eq_true h]
    exact .less (append_lt_append h [] [])
  · rw [decide_eq_true h, decide_eq_false h.not_lt]
    exact .equal (by rw [h])
  · rw [decide_eq_false h.ne', decide_eq_false h.not_gt]
    exact .greater fun r s => append_lt_append h [] [] s r

theorem outcome_number {a b : Datum} {p q : Position} (ha : a.number? = some (some p))
    (hb : b.number? = some (some q)) :
    Outcome a.code b.code (beqCanon a b) (beforeCanon? a b) := by
  have hsame : sameNumber a b = (p == q) := by
    simp only [sameNumber, ha, hb]
  have hbefore : beforeNumber? a b = some (p.lt q) := by
    simp only [beforeNumber?, ha, hb]
  have hnumber : beqCanon a b = sameNumber a b ∧ beforeCanon? a b = beforeNumber? a b := by
    cases a with
    | bool b => exact ⟨rfl, rfl⟩
    | int n => exact ⟨rfl, rfl⟩
    | num x => exact ⟨rfl, rfl⟩
    | _ => cases ha
  rw [code_of_number ha, code_of_number hb, hnumber.1, hnumber.2, hsame, hbefore]
  refine outcome_of_token ?_ ?_
  · rw [Bool.eq_iff_iff]
    simp
  · rw [Option.some.injEq, Bool.eq_iff_iff, Position.lt_iff, decide_eq_true_eq,
      Token.number_lt_number]

theorem outcome_text (s t : String) :
    Outcome (code (.text s)) (code (.text t)) (beqCanon (.text s) (.text t))
      (beforeCanon? (.text s) (.text t)) := by
  refine outcome_of_token ?_ ?_
  · rw [Bool.eq_iff_iff]
    simp [beqCanon]
  · rw [beforeCanon?, Option.some.injEq, decide_eq_decide, Token.text_lt_text]

/-- A tuple that ends comes before every tuple that goes on. -/
theorem closing_lt_codeAll (y : Datum) (ys : List Datum) (r s : List Token) :
    codeAll [] ++ r < codeAll (y :: ys) ++ s := by
  obtain ⟨a, c, hc, ha⟩ := y.exists_code
  rw [codeAll, codeAll, hc, List.cons_append]
  exact append_lt_append (Token.closing_lt ha) [] _ r s

/-- If the first parts of two codes are equal, what follows them decides. -/
theorem Outcome.append {c d c' d' : List Token} {same same' : Bool} {before before' : Option Bool}
    (h : Outcome c d same before) (hrest : c = d → Outcome c' d' same' before') :
    Outcome (c ++ c') (d ++ d') (same && same') (if same then before' else before) := by
  have hprefix (e : List Token) {f g : List Token} (hfg : f < g) : e ++ f < e ++ g := by
    induction e with
    | nil => exact hfg
    | cons a e ih => exact List.cons_lt_cons_iff.2 (.inr ⟨rfl, ih⟩)
  cases h with
  | equal h =>
    subst h
    cases hrest rfl with
    | equal h => exact .equal (by rw [h])
    | less h =>
      refine .less fun r s => ?_
      rw [List.append_assoc, List.append_assoc]
      exact hprefix c (h r s)
    | greater h =>
      refine .greater fun r s => ?_
      rw [List.append_assoc, List.append_assoc]
      exact hprefix c (h r s)
  | less h =>
    refine .less fun r s => ?_
    rw [List.append_assoc, List.append_assoc]
    exact h _ _
  | greater h =>
    refine .greater fun r s => ?_
    rw [List.append_assoc, List.append_assoc]
    exact h _ _

mutual

/-- **Data that are alike are compared by their codes.** -/
theorem Alike.outcome {x y : Datum} : Alike x y →
    Outcome x.code y.code (beqCanon x y) (beforeCanon? x y)
  | .number ha hb => outcome_number ha hb
  | .text s t => outcome_text s t
  | .tuple h => (Outcome.equal (Eq.refl [Token.opening])).append fun _ => h.outcome

theorem AlikeAll.outcome {xs ys : List Datum} : AlikeAll xs ys →
    Outcome (codeAll xs) (codeAll ys) (beqAll xs ys) (beforeAll? xs ys)
  | .nilLeft [] => .equal rfl
  | .nilLeft (y :: ys) => .less (closing_lt_codeAll y ys)
  | .nilRight [] => .equal rfl
  | .nilRight (x :: xs) => .greater fun r s => closing_lt_codeAll x xs s r
  | .cons h hrest => h.outcome.append fun heq => (hrest heq).outcome

end

theorem Outcome.answers {c d : List Token} {same : Bool} {before : Option Bool}
    (h : Outcome c d same before) : same = decide (c = d) ∧ before = some (decide (c < d)) := by
  cases h with
  | equal h =>
    subst h
    simp
  | less h =>
    have hlt : c < d := by simpa using h [] []
    simp [hlt, hlt.ne]
  | greater h =>
    have hlt : d < c := by simpa using h [] []
    simp [hlt.not_gt, hlt.ne']

end Datum

end SensorSeries
