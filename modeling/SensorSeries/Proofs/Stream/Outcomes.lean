import SensorSeries.Stream.Memo

/-!
# What actions end in

`EndsIn` tells what holds of the answer of an action and of the state it leaves. With a rule for
each kind of step an action is followed from its beginning to its end by rewriting; a chain ends in
what its second action ends in, or in the failure of its first (`endsIn_bind`). What every action of
a chain preserves, the chain preserves (`EndsIn.bind_state`), also if it tells how the chain has
failed (`EndsIn.bind_failure`).
-/

namespace SensorSeries

namespace Action

variable {σ τ α β : Type}

/-- Whether the answer of an action and the state it leaves meet a condition. -/
def EndsIn (x : Action σ α) (s : σ) (Q : Except Failure α → σ → Prop) : Prop :=
  Q (x.run s).answer (x.run s).state

variable {s : σ} {Q R : Except Failure α → σ → Prop}

theorem EndsIn.mono {x : Action σ α} (h : x.EndsIn s Q) (hQR : ∀ a t, Q a t → R a t) :
    x.EndsIn s R :=
  hQR _ _ h

theorem endsIn_congr {x : Action σ α} (h : ∀ a t, Q a t ↔ R a t) : x.EndsIn s Q ↔ x.EndsIn s R :=
  h _ _

theorem EndsIn.of_forall (x : Action σ α) (s : σ) (hQ : ∀ a t, Q a t) : x.EndsIn s Q := hQ _ _

theorem EndsIn.and {x : Action σ α} (hQ : x.EndsIn s Q) (hR : x.EndsIn s R) :
    x.EndsIn s fun a t => Q a t ∧ R a t :=
  ⟨hQ, hR⟩

/-- A condition on something else than the action may be met first. -/
theorem endsIn_imp {x : Action σ α} {p : Prop} :
    (x.EndsIn s fun a t => p → Q a t) ↔ (p → x.EndsIn s Q) := .rfl

/-- What is left to show of a chain when its first action has ended. -/
def Continues (f : α → Action σ β) (Q : Except Failure β → σ → Prop) :
    Except Failure α → σ → Prop
  | .error e, t => Q (.error e) t
  | .ok a, t => (f a).EndsIn t Q

@[simp] theorem continues_ok (f : α → Action σ β) (Q : Except Failure β → σ → Prop) (a : α)
    (t : σ) : Continues f Q (.ok a) t ↔ (f a).EndsIn t Q := .rfl

@[simp] theorem endsIn_bind (x : Action σ α) (f : α → Action σ β) (s : σ)
    (Q : Except Failure β → σ → Prop) :
    (x >>= f).EndsIn s Q ↔ x.EndsIn s (Continues f Q) := by
  unfold EndsIn
  rw [run_bind]
  cases (x.run s).answer <;> rfl

@[simp] theorem endsIn_pure (a : α) (s : σ) (Q : Except Failure α → σ → Prop) :
    (Pure.pure a : Action σ α).EndsIn s Q ↔ Q (.ok a) s := .rfl

@[simp] theorem endsIn_lift (a : Except Failure α) (s : σ) (Q : Except Failure α → σ → Prop) :
    (lift a).EndsIn s Q ↔ Q a s := .rfl

@[simp] theorem endsIn_get (s : σ) (Q : Except Failure σ → σ → Prop) :
    get.EndsIn s Q ↔ Q (.ok s) s := .rfl

@[simp] theorem endsIn_modify (f : σ → σ) (s : σ) (Q : Except Failure Unit → σ → Prop) :
    (modify f).EndsIn s Q ↔ Q (.ok ()) (f s) := .rfl

@[simp] theorem endsIn_note (e : JournalEntry) (s : σ) (Q : Except Failure Unit → σ → Prop) :
    (note e).EndsIn s Q ↔ Q (.ok ()) s := .rfl

@[simp] theorem endsIn_zoom (part : τ → σ) (put : σ → τ → τ) (x : Action σ α) (t : τ)
    (Q : Except Failure α → τ → Prop) :
    (zoom part put x).EndsIn t Q ↔ x.EndsIn (part t) fun a s => Q a (put s t) := .rfl

@[simp] theorem endsIn_onFirst (x : Action σ α) (s : σ × τ) (Q : Except Failure α → σ × τ → Prop) :
    (onFirst x).EndsIn s Q ↔ x.EndsIn s.1 fun a t => Q a (t, s.2) := .rfl

@[simp] theorem endsIn_onSecond (x : Action τ α) (s : σ × τ) (Q : Except Failure α → σ × τ → Prop) :
    (onSecond x).EndsIn s Q ↔ x.EndsIn s.2 fun a t => Q a (s.1, t) := .rfl

theorem endsIn_orElse (x : Action σ α) (recover : Failure → Action σ α) (s : σ)
    (Q : Except Failure α → σ → Prop) :
    (x.orElse recover).EndsIn s Q ↔
      x.EndsIn s fun a t => match a with
        | .ok a => Q (.ok a) t
        | .error e => (recover e).EndsIn t Q := by
  unfold EndsIn run orElse
  dsimp only
  cases (x s).answer <;> rfl

/-- A chain on a part is a chain on the whole. -/
theorem zoom_bind {part : τ → σ} {put : σ → τ → τ} (hpart : ∀ s t, part (put s t) = s)
    (hput : ∀ s s' t, put s' (put s t) = put s' t) (x : Action σ α) (f : α → Action σ β) :
    zoom part put (x >>= f) = zoom part put x >>= fun a => zoom part put (f a) := by
  funext t
  change (zoom part put (x >>= f)).run t = (zoom part put x >>= fun a => zoom part put (f a)).run t
  rw [run_bind]
  simp only [zoom, run, Bind.bind, bind]
  cases (x (part t)).answer with
  | error e => rfl
  | ok a => simp only [hpart, hput]

theorem onFirst_bind (x : Action σ α) (f : α → Action σ β) :
    (onFirst (x >>= f) : Action (σ × τ) β) = onFirst x >>= fun a => onFirst (f a) := by
  unfold onFirst
  refine zoom_bind ?_ ?_ x f
  · exact fun s t => rfl
  · exact fun s s' t => rfl

/-- A chain goes on after an action that goes through. -/
theorem EndsIn.bind_ok {x : Action σ α} {f : α → Action σ β} {a : α} {P : σ → Prop}
    {Q : Except Failure β → σ → Prop} (hx : x.EndsIn s fun b t => b = .ok a ∧ P t)
    (hf : ∀ t, P t → (f a).EndsIn t Q) : (x >>= f).EndsIn s Q := by
  rw [endsIn_bind]
  refine hx.mono ?_
  rintro _ t ⟨rfl, ht⟩
  exact hf t ht

/-- A chain ends with its first action if that fails. -/
theorem EndsIn.bind_error {x : Action σ α} {f : α → Action σ β} {e : Failure} {P : σ → Prop}
    (hx : x.EndsIn s fun a t => a = .error e ∧ P t) :
    (x >>= f).EndsIn s fun b t => b = .error e ∧ P t := by
  rw [endsIn_bind]
  refine hx.mono ?_
  rintro _ t ⟨rfl, ht⟩
  exact ⟨rfl, ht⟩

/-- What both actions of a chain preserve, the chain preserves. -/
theorem EndsIn.bind_state {x : Action σ α} {f : α → Action σ β} {P : σ → Prop}
    (hx : x.EndsIn s fun _ t => P t)
    (hf : ∀ a t, P t → (f a).EndsIn t fun _ t => P t) : (x >>= f).EndsIn s fun _ t => P t := by
  rw [endsIn_bind]
  refine hx.mono ?_
  rintro (e | a) t ht
  · exact ht
  · exact hf a t ht

/-- What holds of the answer of a chain, if there is one: it follows from what holds of the answer of
the first action. -/
theorem EndsIn.bind_answer {x : Action σ α} {f : α → Action σ β} {P : α → σ → Prop}
    {Q : β → σ → Prop} (hx : x.EndsIn s fun a t => ∀ r, a = .ok r → P r t)
    (hf : ∀ a t, P a t → (f a).EndsIn t fun b t => ∀ r, b = .ok r → Q r t) :
    (x >>= f).EndsIn s fun b t => ∀ r, b = .ok r → Q r t := by
  rw [endsIn_bind]
  refine hx.mono ?_
  rintro (e | a) t ht
  · exact nofun
  · exact hf a t (ht a rfl)

theorem EndsIn.map_answer {x : Action σ α} {f : α → β} {P : α → σ → Prop} {Q : β → σ → Prop}
    (hx : x.EndsIn s fun a t => ∀ r, a = .ok r → P r t) (hf : ∀ a t, P a t → Q (f a) t) :
    (x >>= fun a => Pure.pure (f a)).EndsIn s fun b t => ∀ r, b = .ok r → Q r t := by
  refine hx.bind_answer fun a t ha => ?_
  rintro _ ⟨⟩
  exact hf a t ha

/-- What is made of an answer fails as the answer does. -/
theorem endsIn_map (x : Action σ α) (f : α → β) (s : σ) (Q : Except Failure β → σ → Prop) :
    (x >>= fun a => Pure.pure (f a)).EndsIn s Q ↔ x.EndsIn s fun a t => Q (a.map f) t := by
  rw [endsIn_bind]
  refine endsIn_congr ?_
  rintro (e | a) t
  · exact .rfl
  · exact .rfl

theorem endsIn_bind_lift (x : Action σ α) (f : α → Except Failure β) (s : σ)
    (Q : Except Failure β → σ → Prop) :
    (x >>= fun a => lift (f a)).EndsIn s Q ↔ x.EndsIn s fun a t => Q (a >>= f) t := by
  rw [endsIn_bind]
  refine endsIn_congr ?_
  rintro (e | a) t
  · exact .rfl
  · exact .rfl

/-- What is made of an answer that is known is known. -/
theorem EndsIn.map_eq {x : Action σ α} {r : Except Failure α} {P : σ → Prop}
    (hx : x.EndsIn s fun a t => a = r ∧ P t) (f : α → β) :
    (x >>= fun a => Pure.pure (f a)).EndsIn s fun b t => b = r.map f ∧ P t :=
  (endsIn_map ..).2 (hx.mono fun _ _ ⟨ha, ht⟩ => ⟨congrArg (Except.map f) ha, ht⟩)

/-- What is made of an answer does not change the state. -/
theorem EndsIn.bind_pure {x : Action σ α} {P : σ → Prop} (hx : x.EndsIn s fun _ t => P t)
    (f : α → β) : (x >>= fun a => Pure.pure (f a)).EndsIn s fun _ t => P t :=
  hx.bind_state fun _ _ ht => ht

theorem EndsIn.bind_lift {x : Action σ α} {P : σ → Prop} (hx : x.EndsIn s fun _ t => P t)
    (f : α → Except Failure β) : (x >>= fun a => lift (f a)).EndsIn s fun _ t => P t :=
  hx.bind_state fun _ _ ht => ht

/-- Why there is no answer, if there is none. -/
def failureOf : Except Failure α → Option Failure
  | .ok _ => none
  | .error e => some e

@[simp] theorem failureOf_ok (a : α) : failureOf (.ok a) = none := rfl

@[simp] theorem failureOf_error (e : Failure) : failureOf (.error e : Except Failure α) = some e :=
  rfl

theorem failureOf_eq_some {a : Except Failure α} {e : Failure} :
    failureOf a = some e ↔ a = .error e := by
  cases a <;> simp

/-- What both actions of a chain preserve, the chain preserves; the second one is only asked to if
the first one has not failed. -/
theorem EndsIn.bind_failure {x : Action σ α} {f : α → Action σ β} {P : Option Failure → σ → Prop}
    (hx : x.EndsIn s fun a t => P (failureOf a) t)
    (hf : ∀ a t, P none t → (f a).EndsIn t fun b t => P (failureOf b) t) :
    (x >>= f).EndsIn s fun b t => P (failureOf b) t := by
  rw [endsIn_bind]
  refine hx.mono ?_
  rintro (e | a) t ht
  · exact ht
  · exact hf a t ht

end Action

end SensorSeries
