import DeviceRpc.Binary64.Basic

/-!
# Rounding

A quotient is rounded to the nearest whole number, and where two are as near, to the even one
(`roundDiv_eq_iff`). So it is told which numbers of seconds are a time, and what time they are
(`Binary64.nanoseconds?_eq_some_iff`).
-/

namespace DeviceRpc

/-- A whole number is not further from a quotient than a half, and if it is just as far, it is
even. -/
structure Nearest (num den q : Nat) : Prop where
  below : 2 * num ≤ (2 * q + 1) * den
  above : 2 * q * den ≤ 2 * num + den
  even : 2 * num = (2 * q + 1) * den ∨ 2 * q * den = 2 * num + den → q % 2 = 0

namespace Nearest

variable {num den q q' : Nat}

/-- Two numbers are not both the nearest one. -/
theorem not_lt (some : 0 < den) (h : Nearest num den q) (h' : Nearest num den q') : ¬ q < q' := by
  intro less
  have sum : (2 * q + 1) * den + den = 2 * (q + 1) * den := by
    rw [← Nat.succ_mul]
    congr 1
  have large : 2 * (q + 1) * den ≤ 2 * q' * den :=
    Nat.mul_le_mul_right _ (Nat.mul_le_mul_left 2 less)
  have between := h.below
  have between' := h'.above
  have half : 2 * num = (2 * q + 1) * den := by omega
  have half' : 2 * (q + 1) * den = 2 * q' * den := by omega
  have next : 2 * (q + 1) = 2 * q' := Nat.eq_of_mul_eq_mul_right some half'
  have even := h.even (.inl half)
  have even' := h'.even (.inr (by omega))
  omega

theorem unique (some : 0 < den) (h : Nearest num den q) (h' : Nearest num den q') : q = q' :=
  Nat.le_antisymm (Nat.le_of_not_lt (h'.not_lt some h)) (Nat.le_of_not_lt (h.not_lt some h'))

end Nearest

theorem roundDiv_nearest {den : Nat} (num : Nat) (some : 0 < den) :
    Nearest num den (roundDiv num den) := by
  have split : 2 * num = 2 * (num / den) * den + 2 * (num % den) := by
    have whole := Nat.div_add_mod num den
    rw [Nat.mul_assoc, Nat.mul_comm (num / den)]
    omega
  have small : num % den < den := Nat.mod_lt num some
  have one : (2 * (num / den) + 1) * den = 2 * (num / den) * den + den := Nat.succ_mul ..
  have two : 2 * (num / den + 1) * den = 2 * (num / den) * den + den + den := by
    rw [Nat.mul_add, Nat.add_mul]
    omega
  have three : (2 * (num / den + 1) + 1) * den = 2 * (num / den) * den + den + den + den := by
    rw [Nat.succ_mul, two]
  unfold roundDiv
  simp only
  by_cases down : 2 * (num % den) < den
  · rw [if_pos down]
    exact ⟨by omega, by omega, by omega⟩
  rw [if_neg down]
  by_cases up : den < 2 * (num % den)
  · rw [if_pos up]
    exact ⟨by omega, by omega, by omega⟩
  rw [if_neg up]
  rcases Nat.mod_two_eq_zero_or_one (num / den) with even | odd
  · rw [even, Nat.add_zero]
    exact ⟨by omega, by omega, fun _ => even⟩
  · rw [odd]
    exact ⟨by omega, by omega, fun _ => by omega⟩

theorem roundDiv_eq_iff {num den q : Nat} (some : 0 < den) :
    roundDiv num den = q ↔ Nearest num den q := by
  constructor
  · rintro rfl
    exact roundDiv_nearest num some
  · exact (roundDiv_nearest num some).unique some

namespace Binary64

/-- A number of seconds is a time of so many nanoseconds: it is a number, positive and finite, this
is the nearest whole number of nanoseconds, and it is less than `2 ^ 64` seconds. -/
structure IsTime (x : Binary64) (nanoseconds : Nat) : Prop where
  number : x.isNaN = false
  positive : x.isNegative = false ∧ x.magnitude ≠ 0
  finite : x.isInfinite = false
  nearest : Nearest (x.magnitude * twoTo x.scale * 1000000000) (twoTo 1074) nanoseconds
  representable : nanoseconds < UInt64.size * 1000000000

theorem twoTo_pos (n : Nat) : 0 < twoTo n := Nat.pow_pos Nat.two_pos

theorem nanoseconds?_eq_some_iff {x : Binary64} {ns : Nat} :
    x.nanoseconds? = some ns ↔ x.IsTime ns := by
  have rounds (n : Nat) : x.timesRounded 1000000000 = n ↔ Nearest _ _ n :=
    roundDiv_eq_iff (twoTo_pos 1074)
  unfold nanoseconds?
  constructor
  · intro time
    by_cases proper : (x.isPositive && !x.isInfinite) = true
    · rw [if_pos proper] at time
      by_cases short : x.timesRounded 1000000000 < UInt64.size * 1000000000
      · simp only [if_pos short, Option.some.injEq] at time
        simp only [isPositive, Bool.and_eq_true, Bool.or_eq_true, Bool.not_eq_true',
          decide_eq_true_eq] at proper
        obtain ⟨⟨⟨number, positive⟩, large | nonzero⟩, finite⟩ := proper
        · rw [large] at finite
          cases finite
        · exact ⟨number, ⟨positive, nonzero⟩, finite, (rounds ns).mp time, time ▸ short⟩
      · simp only [if_neg short] at time
        cases time
    · rw [if_neg proper] at time
      cases time
  · rintro ⟨number, ⟨positive, nonzero⟩, finite, nearest, representable⟩
    have proper : (x.isPositive && !x.isInfinite) = true := by
      simp [isPositive, number, positive, nonzero, finite]
    rw [if_pos proper]
    simp only [(rounds ns).mpr nearest, if_pos representable]

end Binary64

end DeviceRpc
