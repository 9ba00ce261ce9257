import Mathlib.Algebra.Order.Group.Nat

namespace Rotonda

structure F64 where
  bits : UInt64
  deriving DecidableEq

namespace F64

inductive Value where
  | nan
  | inf (negative : Bool)
  | finite (negative : Bool) (mantissa : Nat) (exponent : Int)
  deriving DecidableEq

def decode (x : F64) : Value :=
  let negative := decide (2 ^ 63 ≤ x.bits.toNat)
  let biased : Nat := x.bits.toNat / 2 ^ 52 % 2 ^ 11
  let fraction : Nat := x.bits.toNat % 2 ^ 52
  if biased = 2 ^ 11 - 1 then if fraction = 0 then .inf negative else .nan
  else if biased = 0 then .finite negative fraction (-1074)
  else .finite negative (2 ^ 52 + fraction) ((biased : Int) - 1075)

-- A byte at a time, so that `decide` evaluates it on the mantissas of products.
def bitLength (n : Nat) : Nat := byBytes n n
where
  byBytes : Nat → Nat → Nat
    | 0, _ => 0
    | fuel + 1, n => if n < 2 ^ 8 then byBits 8 n else byBytes fuel (n / 2 ^ 8) + 8
  byBits : Nat → Nat → Nat
    | 0, _ => 0
    | fuel + 1, n => if n = 0 then 0 else byBits fuel (n / 2) + 1

def roundToEven (n s : Nat) : Nat :=
  let unit := 1 <<< s
  if unit < 2 * (n % unit) ∨ 2 * (n % unit) = unit ∧ (n >>> s) % 2 = 1 then (n >>> s) + 1
  else n >>> s

-- `n * 2 ^ e` to 53 significant bits, ties to even, the last place at least `2 ^ -1074`.
def roundNearest (n : Nat) (e : Int) : Nat × Int :=
  let ulp := max (e + bitLength n - 53) (-1074)
  if ulp ≤ e then (n, e) else (roundToEven n (ulp - e).toNat, ulp)

def round (negative : Bool) (n : Nat) (e : Int) : Value :=
  let rounded := roundNearest n e
  if 1024 < rounded.2 + bitLength rounded.1 then .inf negative
  else .finite negative rounded.1 rounded.2

def ofNat (n : Nat) : Value := round false n 0

def mul : Value → Value → Value
  | .nan, _ | _, .nan => .nan
  | .inf s, .inf t => .inf (s != t)
  | .inf s, .finite t m _ | .finite t m _, .inf s => if m = 0 then .nan else .inf (s != t)
  | .finite s a e, .finite t b f => round (s != t) (a * b) (e + f)

-- `as u64`: toward zero, saturating, and zero for a NaN.
def toU64 : Value → Nat
  | .nan => 0
  | .inf negative => if negative then 0 else 2 ^ 64 - 1
  | .finite negative m e =>
    if negative then 0 else min (m <<< e.toNat >>> (-e).toNat) (2 ^ 64 - 1)

def Value.atLeastOne : Value → Bool
  | .inf negative => !negative
  | .finite negative m e => !negative && decide (1 <<< (-e).toNat ≤ m <<< e.toNat)
  | .nan => false

theorem bitLength_byBits (fuel : Nat) :
    ∀ n, n < 2 ^ fuel →
      n < 2 ^ bitLength.byBits fuel n ∧ (0 < n → 2 ^ bitLength.byBits fuel n ≤ 2 * n) := by
  induction fuel with
  | zero => intro n below; simp [Nat.lt_one_iff.mp below, bitLength.byBits]
  | succ fuel ih =>
    intro n below
    by_cases zero : n = 0
    · simp [zero, bitLength.byBits]
    rw [Nat.pow_succ] at below
    obtain ⟨upper, lower⟩ := ih (n / 2) (by omega)
    simp only [bitLength.byBits, zero, if_false, Nat.pow_succ]
    refine ⟨by omega, fun _ => ?_⟩
    by_cases one : n / 2 = 0
    · cases fuel <;> simp only [one, bitLength.byBits, if_true, Nat.pow_zero] <;> omega
    · have := lower (by omega)
      omega

theorem bitLength_byBytes (fuel : Nat) :
    ∀ n, n ≤ fuel →
      n < 2 ^ bitLength.byBytes fuel n ∧ (0 < n → 2 ^ bitLength.byBytes fuel n ≤ 2 * n) := by
  induction fuel with
  | zero => intro n below; simp [Nat.le_zero.mp below, bitLength.byBytes]
  | succ fuel ih =>
    intro n below
    simp only [bitLength.byBytes]
    split
    · exact bitLength_byBits 8 n ‹_›
    · obtain ⟨upper, lower⟩ := ih (n / 2 ^ 8) (by omega)
      have := lower (by omega)
      rw [Nat.pow_add]
      omega

theorem lt_two_pow_bitLength (n : Nat) : n < 2 ^ bitLength n :=
  (bitLength_byBytes n n (Nat.le_refl n)).1

theorem two_pow_bitLength_le {n : Nat} (pos : 0 < n) : 2 ^ bitLength n ≤ 2 * n :=
  (bitLength_byBytes n n (Nat.le_refl n)).2 pos

theorem bitLength_zero : bitLength 0 = 0 := rfl

theorem bitLength_le {n k : Nat} (below : n < 2 ^ k) : bitLength n ≤ k := by
  rcases Nat.eq_zero_or_pos n with rfl | pos
  · simp [bitLength_zero]
  · have := two_pow_bitLength_le pos
    have : 2 ^ bitLength n < 2 ^ (k + 1) := by rw [Nat.pow_succ]; omega
    exact Nat.lt_succ_iff.mp ((Nat.pow_lt_pow_iff_right (by decide)).mp this)

theorem div_le_roundToEven (n s : Nat) : n / 2 ^ s ≤ roundToEven n s := by
  simp only [roundToEven, Nat.shiftRight_eq_div_pow]
  split <;> omega

theorem roundNearest_of_lt {n : Nat} (below : n < 2 ^ 53) : roundNearest n 0 = (n, 0) := by
  have := bitLength_le below
  simp only [roundNearest]
  rw [if_pos (by omega)]

theorem ofNat_of_lt {n : Nat} (below : n < 2 ^ 53) : ofNat n = .finite false n 0 := by
  have := bitLength_le below
  simp only [ofNat, round, roundNearest_of_lt below]
  rw [if_neg (by omega)]

theorem le_roundToEven {n s m : Nat} (below : m * 2 ^ s ≤ n) : m ≤ roundToEven n s :=
  Nat.le_trans ((Nat.le_div_iff_mul_le (Nat.two_pow_pos s)).mpr below) (div_le_roundToEven n s)

theorem two_pow_le_roundToEven {n s : Nat} (long : bitLength n = s + 53) :
    2 ^ 52 ≤ roundToEven n s := by
  have pos : 0 < n := Nat.pos_of_ne_zero fun zero => by simp [zero, bitLength_zero] at long
  have := two_pow_bitLength_le pos
  rw [long, Nat.pow_add] at this
  exact le_roundToEven (by omega)

theorem le_roundNearest {n k : Nat} {e : Int} (small : k < 2 ^ 53)
    (reached : k * 2 ^ (-e).toNat ≤ n * 2 ^ e.toNat) :
    k * 2 ^ (-(roundNearest n e).2).toNat ≤
      (roundNearest n e).1 * 2 ^ (roundNearest n e).2.toNat := by
  simp only [roundNearest]
  split
  · exact reached
  · dsimp only
    by_cases subnormal : max (e + bitLength n - 53) (-1074) ≤ 0
    · obtain ⟨j, hj⟩ : ∃ j : Nat, -max (e + bitLength n - 53) (-1074) = j :=
        ⟨_, (Int.toNat_of_nonneg (by omega)).symm⟩
      obtain ⟨s, hs⟩ : ∃ s : Nat, max (e + bitLength n - 53) (-1074) - e = s :=
        ⟨_, (Int.toNat_of_nonneg (by omega)).symm⟩
      rw [show e.toNat = 0 by omega, show (-e).toNat = s + j by omega, Nat.pow_zero, Nat.mul_one,
        Nat.pow_add, ← Nat.mul_assoc, Nat.mul_right_comm] at reached
      rw [hj, hs, show (max (e + bitLength n - 53) (-1074)).toNat = 0 by omega, Int.toNat_ofNat,
        Int.toNat_ofNat, Nat.pow_zero, Nat.mul_one]
      exact le_roundToEven reached
    · obtain ⟨s, hs⟩ : ∃ s : Nat, bitLength n = s + 53 := ⟨bitLength n - 53, by omega⟩
      obtain ⟨u, hu⟩ : ∃ u : Nat, max (e + bitLength n - 53) (-1074) = u + 1 :=
        ⟨(e + bitLength n - 53).toNat - 1, by omega⟩
      rw [show max (e + bitLength n - 53) (-1074) - e = s by omega, hu,
        show (-((u : Int) + 1)).toNat = 0 by omega, Int.toNat_ofNat, Nat.pow_zero, Nat.mul_one,
        show ((u : Int) + 1).toNat = u + 1 by omega, Nat.pow_succ]
      have := Nat.one_le_two_pow (n := u)
      calc k ≤ 2 ^ 52 * (1 * 2) := by omega
        _ ≤ roundToEven n s * (2 ^ u * 2) := Nat.mul_le_mul (two_pow_le_roundToEven hs) (by omega)

theorem le_toU64_round {n k : Nat} {e : Int} (small : k < 2 ^ 53)
    (reached : k * 2 ^ (-e).toNat ≤ n * 2 ^ e.toNat) : k ≤ toU64 (round false n e) := by
  simp only [round]
  split
  · simp only [toU64, Bool.false_eq_true, if_false]
    omega
  · simp only [toU64, Bool.false_eq_true, if_false, Nat.shiftLeft_eq, Nat.shiftRight_eq_div_pow]
    exact Nat.le_min.mpr ⟨(Nat.le_div_iff_mul_le (Nat.two_pow_pos _)).mpr
      (le_roundNearest small reached), by omega⟩

theorem le_toU64_mul {n : Nat} {multiplier : Value} (small : n < 2 ^ 53)
    (atLeastOne : multiplier.atLeastOne = true) : n ≤ toU64 (mul (ofNat n) multiplier) := by
  rw [ofNat_of_lt small]
  cases multiplier with
  | nan => cases atLeastOne
  | inf negative =>
    simp only [Value.atLeastOne, Bool.not_eq_true'] at atLeastOne
    subst atLeastOne
    simp only [mul]
    split
    · omega
    · simp only [toU64, bne_self_eq_false, Bool.false_eq_true, if_false]
      omega
  | finite negative m e =>
    simp only [Value.atLeastOne, Bool.and_eq_true, Bool.not_eq_true', decide_eq_true_eq,
      Nat.shiftLeft_eq, Nat.one_mul] at atLeastOne
    obtain ⟨rfl, atLeast⟩ := atLeastOne
    simp only [mul, bne_self_eq_false, Int.zero_add]
    refine le_toU64_round small ?_
    calc n * 2 ^ (-e).toNat ≤ n * (m * 2 ^ e.toNat) := Nat.mul_le_mul_left n atLeast
      _ = n * m * 2 ^ e.toNat := (Nat.mul_assoc _ _ _).symm

end F64

end Rotonda
