import ChangeFeed.Value.Basic

/-!
What numbers are worth.

Numbers of different kinds can be worth the same, and so can real numbers that are written with
different exponents. A real number that is not a number is worth nothing.
-/

namespace ChangeFeed.Value

/-- What a number is worth. -/
inductive Quantity where
  | fraction (num : Int) (den : Nat)
  | infinite (negative : Bool)
  /-- No quantity, and in no order with any. -/
  | none
  deriving DecidableEq, Repr

namespace Quantity

/-- Whether a quantity is less than another one. -/
def isBelow : Quantity → Quantity → Bool
  | fraction a b, fraction c d => decide (a * d < c * b)
  | infinite x, infinite y => x && !y
  | infinite x, fraction _ _ => x
  | fraction _ _, infinite y => !y
  | none, _ | _, none => false

/-- Whether two quantities are the same. -/
def same : Quantity → Quantity → Bool
  | fraction a b, fraction c d => decide (a * d = c * b)
  | infinite x, infinite y => x == y
  | _, _ => false

/-- Whether a fraction has a denominator. -/
def IsProper : Quantity → Prop
  | fraction _ den => 0 < den
  | _ => True

variable {a b c : Quantity}

theorem same_symm (h : a.same b) : b.same a := by
  cases a <;> cases b <;> simp_all [same]

theorem same_trans (hb : b.IsProper) (hab : a.same b) (hbc : b.same c) : a.same c := by
  cases a <;> cases b <;> cases c <;> simp only [same, decide_eq_true_eq, beq_iff_eq,
    Bool.false_eq_true] at hab hbc ⊢
  case fraction.fraction.fraction m₁ n₁ m₂ n₂ m₃ n₃ =>
    have hpos : (n₂ : Int) ≠ 0 := Int.natCast_ne_zero.2 (Nat.pos_iff_ne_zero.1 hb)
    refine Int.eq_of_mul_eq_mul_right hpos ?_
    calc m₁ * n₃ * n₂ = m₁ * n₂ * n₃ := Int.mul_right_comm ..
      _ = m₂ * n₃ * n₁ := by rw [hab, Int.mul_right_comm]
      _ = m₃ * n₁ * n₂ := by rw [hbc, Int.mul_right_comm]
  case infinite.infinite.infinite => rw [hab, hbc]

end Quantity

/-- What a value is worth, if it is a number. -/
def quantity? : Value → Option Quantity
  | .int n => some (.fraction n 1)
  | .bool b => some (.fraction (if b then 1 else 0) 1)
  | .real (.infinite negative) => some (.infinite negative)
  | .real x => some ((x.signedRatio?.map fun r => .fraction r.1 r.2).getD .none)
  | _ => .none

theorem isProper_of_quantity? {v : Value} {a : Quantity} (h : v.quantity? = some a) :
    a.IsProper := by
  unfold quantity? at h
  split at h
  · obtain rfl := Option.some.inj h
    exact Nat.one_pos
  · obtain rfl := Option.some.inj h
    exact Nat.one_pos
  · obtain rfl := Option.some.inj h
    trivial
  · next x _ =>
    obtain rfl := Option.some.inj h
    cases hx : x.signedRatio? with
    | none => trivial
    | some r => exact Binary64.signedRatio?_den_pos hx
  · cases h

end ChangeFeed.Value
