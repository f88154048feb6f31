import Mathlib.Tactic.Lemma
import PooledCredit.FixedPoint

/-!
# When a request succeeds, and how it can fail

Every request is a chain of steps of type `Result`. `bind_eq_ok` and its companions read a
successful chain backwards, step by step. `FailsOnly p` says that whatever failure a result
has satisfies `p`; it is shown along the chain in the same way. `Tally R` compares the results of
two chains, which are read side by side.
-/

namespace PooledCredit

variable {α β : Type}

/-! ## Success -/

/-- A chain of two steps succeeds exactly when both do. -/
lemma bind_eq_ok {x : Result α} {f : α → Result β} {b : β} :
    (x >>= f) = .ok b ↔ ∃ a, x = .ok a ∧ f a = .ok b := by
  cases x with
  | ok a => simp [Bind.bind, Except.bind]
  | error e => simp [Bind.bind, Except.bind]

/-- Returning a value succeeds with that value. -/
lemma pure_eq_ok {a b : α} : (pure a : Result α) = .ok b ↔ a = b := by
  simp [pure, Except.pure]

/-- A result is a success exactly when it has a value. -/
lemma isOk_iff {x : Result α} : x.isOk = true ↔ ∃ a, x = .ok a := by
  cases x <;> simp [Except.isOk, Except.toBool]

/-- A refusal never succeeds. -/
lemma refuse_eq_ok {cause : Refusal} {a : α} : (refuse cause : Result α) = .ok a ↔ False := by
  simp [refuse]

/-- A guard is passed exactly when its condition holds. -/
lemma require_eq_ok {p : Prop} [Decidable p] {cause : Refusal} {u : Unit} :
    require p cause = .ok u ↔ p := by
  by_cases h : p <;> simp [require, refuse, h]

/-- Two branches that go on in the same way are one choice in front of the rest of the chain. -/
lemma ite_bind {c : Prop} [Decidable c] {x y : Result α} {f : α → Result β} :
    (if c then x >>= f else y >>= f) = (if c then x else y) >>= f := by
  split <;> rfl

/-- A step whose result is only reshaped is a mapped step. -/
lemma bind_pure_bind {γ : Type} {x : Result α} {g : α → β} {f : β → Result γ} :
    (x >>= fun a => pure (g a) >>= f) = (g <$> x) >>= f := by
  cases x <;> rfl

/-- A mapped step succeeds with the image of what the step gives. -/
lemma map_eq_ok {x : Result α} {g : α → β} {b : β} :
    (g <$> x) = .ok b ↔ ∃ a, x = .ok a ∧ g a = b := by
  cases x <;> simp [Functor.map, Except.map]

/-- An optional value is opened exactly when it is there. -/
lemma orRefuse_eq_ok {value : Option α} {cause : Refusal} {a : α} :
    orRefuse value cause = .ok a ↔ value = some a := by
  cases value <;> simp [orRefuse, refuse]

/-- A number is accepted as an amount exactly when it is in range. -/
lemma fitAmount_eq_ok {n m : Nat} : fitAmount n = .ok m ↔ n < amountBound ∧ n = m := by
  by_cases h : n < amountBound <;> simp [fitAmount, refuse, h]

/-- A number is accepted as a clock reading exactly when it is in range. -/
lemma fitClock_eq_ok {n m : Nat} : fitClock n = .ok m ↔ n < clockBound ∧ n = m := by
  by_cases h : n < clockBound <;> simp [fitClock, refuse, h]

/-- An addition succeeds with the sum. -/
lemma addAmount_eq_ok {a b c : Nat} : addAmount a b = .ok c ↔ a + b < amountBound ∧ a + b = c :=
  fitAmount_eq_ok

/-- A subtraction succeeds with the difference. -/
lemma subAmount_eq_ok {a b c : Nat} : subAmount a b = .ok c ↔ b ≤ a ∧ a - b = c := by
  by_cases h : b ≤ a <;> simp [subAmount, refuse, h]

/-- An unchecked subtraction succeeds with the difference. -/
lemma bareSub_eq_ok {a b c : Nat} : bareSub a b = .ok c ↔ b ≤ a ∧ a - b = c := by
  by_cases h : b ≤ a <;> simp [bareSub, breakOff, h]

/-- An unchecked addition succeeds with the sum. -/
lemma bareAdd_eq_ok {bound a b c : Nat} :
    bareAdd bound a b = .ok c ↔ a + b < bound ∧ a + b = c := by
  by_cases h : a + b < bound <;> simp [bareAdd, breakOff, h]

/-- A division of a product succeeds with the rounded quotient. -/
lemma mulDiv_eq_ok {round : Rounding} {a b d c : Nat} :
    mulDiv round a b d = .ok c ↔
      d ≠ 0 ∧ round.divide (a * b) d < amountBound ∧ round.divide (a * b) d = c := by
  by_cases h : d = 0 <;> simp [mulDiv, refuse, fitAmount_eq_ok, h]

/-! ## Failure -/

/-- Whatever failure a result has satisfies `p`. -/
def FailsOnly (p : Failure → Prop) (x : Result α) : Prop :=
  ∀ e, x = .error e → p e

variable {p : Failure → Prop}

/-- A success has no failure. -/
lemma failsOnly_ok (a : α) : FailsOnly p (.ok a : Result α) := by
  intro e h
  cases h

/-- A returned value has no failure. -/
lemma failsOnly_pure (a : α) : FailsOnly p (pure a : Result α) :=
  failsOnly_ok a

/-- A refusal fails with its cause. -/
lemma failsOnly_refuse {cause : Refusal} (h : p (.refused cause)) :
    FailsOnly p (refuse cause : Result α) := by
  intro e he
  cases he
  exact h

/-- A fault fails with its cause. -/
lemma failsOnly_breakOff {cause : Fault} (h : p (.fault cause)) :
    FailsOnly p (breakOff cause : Result α) := by
  intro e he
  cases he
  exact h

/-- A chain fails as its first step does, or as the second does after a success of the first. -/
lemma FailsOnly.bind {x : Result α} {f : α → Result β} (hx : FailsOnly p x)
    (hf : ∀ a, x = .ok a → FailsOnly p (f a)) : FailsOnly p (x >>= f) := by
  intro e h
  cases hc : x with
  | ok a =>
    rw [hc] at h
    exact hf a hc e h
  | error e' =>
    rw [hc] at h
    cases h
    exact hx e hc

/-- A chain whose first step is known to succeed fails as the rest of it does. -/
lemma FailsOnly.bind_of_ok {x : Result α} {a : α} {f : α → Result β} (hx : x = .ok a)
    (hf : FailsOnly p (f a)) : FailsOnly p (x >>= f) := by
  rw [hx]
  exact hf

/-- A chain behind a guard whose condition holds fails as the rest of it does. -/
lemma FailsOnly.bind_of_holds {c : Prop} [Decidable c] {cause : Refusal} {f : Unit → Result β}
    (hc : c) (hf : FailsOnly p (f ())) : FailsOnly p (require c cause >>= f) := by
  have hpassed : require c cause = .ok () := require_eq_ok.mpr hc
  exact FailsOnly.bind_of_ok hpassed hf

/-- Reshaping a result adds no failure. -/
lemma FailsOnly.map {x : Result α} {f : α → β} (h : FailsOnly p x) : FailsOnly p (f <$> x) := by
  intro e he
  cases x with
  | ok a => cases he
  | error e' =>
    cases he
    exact h e rfl

/-- A guard fails with its cause, and only when its condition does not hold. -/
lemma failsOnly_require {c : Prop} [Decidable c] {cause : Refusal} (h : ¬ c → p (.refused cause)) :
    FailsOnly p (require c cause) := by
  unfold require
  split
  · exact failsOnly_ok _
  · next hc => exact failsOnly_refuse (h hc)

/-- Opening an optional value fails with the given cause, and only when there is no value. -/
lemma failsOnly_orRefuse {value : Option α} {cause : Refusal}
    (h : value = none → p (.refused cause)) : FailsOnly p (orRefuse value cause) := by
  cases value with
  | none => exact failsOnly_refuse (h rfl)
  | some a => exact failsOnly_ok a

/-- A choice fails as the chosen branch does. -/
lemma failsOnly_ite {c : Prop} [Decidable c] {x y : Result α} (hx : c → FailsOnly p x)
    (hy : ¬ c → FailsOnly p y) : FailsOnly p (if c then x else y) := by
  split
  · next hc => exact hx hc
  · next hc => exact hy hc

/-- Accepting an amount fails only with an overflow. -/
lemma failsOnly_fitAmount (h : p (.refused .overflow)) (n : Nat) : FailsOnly p (fitAmount n) :=
  failsOnly_ite (fun _ => failsOnly_ok n) fun _ => failsOnly_refuse h

/-- Accepting a clock reading fails only with an overflow. -/
lemma failsOnly_fitClock (h : p (.refused .overflow)) (n : Nat) : FailsOnly p (fitClock n) :=
  failsOnly_ite (fun _ => failsOnly_ok n) fun _ => failsOnly_refuse h

/-- Adding fails only with an overflow. -/
lemma failsOnly_addAmount (h : p (.refused .overflow)) (a b : Nat) : FailsOnly p (addAmount a b) :=
  failsOnly_fitAmount h _

/-- A division of a product fails only with an overflow when the divisor is not zero. -/
lemma failsOnly_mulDiv (h : p (.refused .overflow)) {round : Rounding} {a b d : Nat}
    (hd : d = 0 → p (.refused .divisionByZero)) : FailsOnly p (mulDiv round a b d) :=
  failsOnly_ite (fun hc => failsOnly_refuse (hd hc)) fun _ => failsOnly_fitAmount h _

/-- A subtraction within range does not fail. -/
lemma failsOnly_subAmount {a b : Nat} (h : b ≤ a) : FailsOnly p (subAmount a b) :=
  failsOnly_ite (fun _ => failsOnly_ok _) fun hc => absurd h hc

/-- An unchecked subtraction within range does not break off. -/
lemma failsOnly_bareSub {a b : Nat} (h : b ≤ a) : FailsOnly p (bareSub a b) :=
  failsOnly_ite (fun _ => failsOnly_ok _) fun hc => absurd h hc

/-- An unchecked addition breaks off only when the sum is out of range. -/
lemma failsOnly_bareAdd {bound a b : Nat} (h : bound ≤ a + b → p (.fault .addition)) :
    FailsOnly p (bareAdd bound a b) :=
  failsOnly_ite (fun _ => failsOnly_ok _) fun hc => failsOnly_breakOff (h (Nat.le_of_not_lt hc))

/-! ## Comparison -/

/-- Two results tally: both are successes with related values, or both fail in the same way. -/
inductive Tally (R : α → β → Prop) : Result α → Result β → Prop where
  | ok {a : α} {b : β} (h : R a b) : Tally R (.ok a) (.ok b)
  | error (e : Failure) : Tally R (.error e) (.error e)

section Tally

variable {γ δ : Type} {R : α → β → Prop} {S : γ → δ → Prop}

/-- Returned values tally when they are related. -/
lemma tally_pure {a : α} {b : β} (h : R a b) : Tally R (pure a) (pure b) := .ok h

/-- Refusals with the same cause tally. -/
lemma tally_refuse (cause : Refusal) : Tally R (refuse cause) (refuse cause) := .error _

/-- Chains tally when their first steps do and what follows does from related values. -/
lemma Tally.bind {x : Result α} {y : Result β} {f : α → Result γ} {g : β → Result δ}
    (h : Tally R x y) (hrest : ∀ a b, R a b → Tally S (f a) (g b)) :
    Tally S (x >>= f) (y >>= g) := by
  cases h with
  | ok h => exact hrest _ _ h
  | error e => exact .error e

/-- Chains with the same first step tally when what follows does. -/
lemma tally_bind_same {x : Result α} {f : α → Result γ} {g : α → Result δ}
    (hrest : ∀ a, Tally S (f a) (g a)) : Tally S (x >>= f) (x >>= g) := by
  cases x with
  | ok a => exact hrest a
  | error e => exact .error e

/-- Opening optional values tallies when they are related or both missing. -/
lemma tally_orRefuse {value : Option α} {value' : Option β} (h : Option.Rel R value value')
    (cause : Refusal) : Tally R (orRefuse value cause) (orRefuse value' cause) := by
  cases h with
  | some h => exact .ok h
  | none => exact .error _

/-- Results that tally up to equality are equal. -/
lemma Tally.eq {x y : Result α} (h : Tally Eq x y) : x = y := by
  cases h with
  | ok h => rw [h]
  | error e => rfl

end Tally

end PooledCredit
