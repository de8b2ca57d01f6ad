import Mathlib.Tactic.Ring
import Workflow.Number.Basic

/-!
# Integers rounded to doubles

An integer is rounded to the nearest double, and to the one that ends even where two are equally
near.  `IsNearest` says so without a look at how it is done, and `isNearest_iff` says that `nearest`
does it.  That rounding never reverses an order, and keeps what has at most 53 binary digits,
follows from there being no double that is nearer.
-/

namespace Workflow.Number

/-! ## Doubles that are integers -/

/-- The integer is a double, its size apart: it has at most 53 binary digits with zeros behind
them. -/
def IsDouble (x : Int) : Prop :=
  ∃ m k : Nat, m < 2 ^ 53 ∧ x.natAbs = m * 2 ^ k

/-- The last of the 53 binary digits of a double is zero. -/
def EndsEven (x : Int) : Prop :=
  ∃ m k : Nat, 2 ^ 51 ≤ m ∧ m < 2 ^ 52 ∧ x.natAbs = 2 * m * 2 ^ k

/-- No double is nearer to `n` than the double `x`, and `x` ends even if another one is as near. -/
structure IsNearest (n x : Int) : Prop where
  isDouble : IsDouble x
  nearest : ∀ y, IsDouble y → (n - x).natAbs ≤ (n - y).natAbs
  even : ∀ y, IsDouble y → y ≠ x → (n - y).natAbs = (n - x).natAbs → EndsEven x

variable {x y : Int}

theorem IsDouble.neg (hx : IsDouble x) : IsDouble (-x) := by
  rwa [IsDouble, Int.natAbs_neg]

theorem isDouble_of_natAbs_le (hx : x.natAbs ≤ 2 ^ 53) : IsDouble x := by
  by_cases hlt : x.natAbs < 2 ^ 53
  · exact ⟨x.natAbs, 0, hlt, by rw [Nat.pow_zero, Nat.mul_one]⟩
  · exact ⟨2 ^ 52, 1, by decide, by omega⟩

/-- The two signs are alike. -/
theorem IsNearest.neg {n : Int} (hx : IsNearest n x) : IsNearest (-n) (-x) where
  isDouble := hx.isDouble.neg
  nearest := by
    intro y hy
    have := hx.nearest (-y) hy.neg
    omega
  even := by
    intro y hy hne hequal
    have hends := hx.even (-y) hy.neg (by omega) (by omega)
    rwa [EndsEven, Int.natAbs_neg]

/-- Rounding reverses no order. -/
theorem IsNearest.le_of_lt {a b : Int} (ha : IsNearest a x) (hb : IsNearest b y) (hlt : a < b) :
    x ≤ y := by
  have hxy := ha.nearest y hb.isDouble
  have hyx := hb.nearest x ha.isDouble
  omega

/-- A double is rounded to itself. -/
theorem IsNearest.eq_self {n : Int} (hx : IsNearest n x) (hn : IsDouble n) : x = n := by
  have := hx.nearest n hn
  omega

/-! ## Rounding to a multiple -/

theorem roundRatio_cases (num den : Nat) :
    (roundRatio num den = num / den ∧ 2 * (num % den) ≤ den ∧
        (2 * (num % den) = den → roundRatio num den % 2 = 0)) ∨
      (roundRatio num den = num / den + 1 ∧ den ≤ 2 * (num % den) ∧
        (2 * (num % den) = den → roundRatio num den % 2 = 0)) := by
  unfold roundRatio
  dsimp only
  by_cases hless : 2 * (num % den) < den
  · rw [if_pos hless]
    left
    omega
  · rw [if_neg hless]
    by_cases hgreater : den < 2 * (num % den)
    · rw [if_pos hgreater]
      right
      omega
    · rw [if_neg hgreater]
      omega

/-- A number is rounded to a multiple of `den` at most half of it away, and to an even one if it is
just that far. -/
theorem roundRatio_near (num : Nat) {den : Nat} (hden : 0 < den) :
    2 * ((num : Int) - (roundRatio num den * den : Nat)).natAbs ≤ den ∧
      (2 * ((num : Int) - (roundRatio num den * den : Nat)).natAbs = den →
        roundRatio num den % 2 = 0) := by
  have hsplit := Nat.div_add_mod' num den
  have hlt := Nat.mod_lt num hden
  obtain ⟨hround, hle, heven⟩ | ⟨hround, hle, heven⟩ := roundRatio_cases num den
  · rw [hround] at heven ⊢
    omega
  · rw [hround] at heven ⊢
    rw [Nat.add_mul, Nat.one_mul]
    omega

/-- Any other multiple is at least half of `den` away. -/
theorem le_add_of_ne_roundRatio {num den j : Nat} (hne : j ≠ roundRatio num den) :
    den ≤ ((num : Int) - (roundRatio num den * den : Nat)).natAbs +
      ((num : Int) - (j * den : Nat)).natAbs := by
  obtain hless | hgreater := Nat.lt_or_gt_of_ne hne
  · have := Nat.mul_le_mul_right den hless
    rw [Nat.succ_mul] at this
    omega
  · have := Nat.mul_le_mul_right den hgreater
    rw [Nat.succ_mul] at this
    omega

/-- A scale in which everything is measured does not matter. -/
theorem roundRatio_mul (num den : Nat) {scale : Nat} (hscale : 0 < scale) :
    roundRatio (num * scale) (den * scale) = roundRatio num den := by
  unfold roundRatio
  dsimp only
  rw [Nat.mul_div_mul_right _ _ hscale, Nat.mul_mod_mul_right, ← Nat.mul_assoc]
  simp only [Nat.mul_lt_mul_right hscale]

theorem roundRatio_of_mul (n : Nat) {den : Nat} (hden : 0 < den) :
    roundRatio (n * den) den = n := by
  unfold roundRatio
  dsimp only
  rw [Nat.mul_mod_left, if_pos hden, Nat.mul_div_cancel _ hden]

/-! ## Rounding to 53 digits -/

/-- What the last of 53 binary digits of a number is worth, if it has that many, and one if it has
less. -/
def lastPlace (n : Nat) : Nat :=
  2 ^ (n.log2 - 52)

theorem lastPlace_pos (n : Nat) : 0 < lastPlace n :=
  Nat.two_pow_pos _

theorem lt_mul_lastPlace (n : Nat) : n < 2 ^ 53 * lastPlace n := by
  rw [lastPlace, ← Nat.pow_add]
  calc
    n < 2 ^ (n.log2 + 1) := Nat.lt_log2_self
    _ ≤ 2 ^ (53 + (n.log2 - 52)) := Nat.pow_le_pow_right (by decide) (by omega)

theorem lastPlace_cases (n : Nat) : lastPlace n = 1 ∨ 2 ^ 52 * lastPlace n ≤ n := by
  by_cases hlog : n.log2 ≤ 52
  · left
    rw [lastPlace, Nat.sub_eq_zero_of_le hlog, Nat.pow_zero]
  · right
    have hn : n ≠ 0 := by
      rintro rfl
      exact hlog (by decide)
    rw [lastPlace, ← Nat.pow_add, show 52 + (n.log2 - 52) = n.log2 by omega]
    exact Nat.log2_self_le hn

theorem roundUnits_eq (n : Nat) :
    roundUnits n 1 = roundRatio n (lastPlace n) * lastPlace n := by
  unfold roundUnits lastPlace
  dsimp only
  rw [Nat.div_one, Nat.one_mul]
  by_cases hlt : n < Nat.pow 2 53
  · have hlog : n.log2 - 52 = 0 := by
      by_cases hn : n = 0
      · rw [hn]
        decide
      · have := (Nat.log2_lt hn).mpr hlt
        omega
    rw [if_pos hlt, hlog, Nat.pow_zero, Nat.mul_one]
  · rw [if_neg hlt]
    rfl

/-- A rounded number has 53 digits, or one more where all of them are carried over; it has no less
if it has zeros behind them. -/
theorem roundRatio_lastPlace_le (n : Nat) : roundRatio n (lastPlace n) ≤ 2 ^ 53 := by
  have hnear := (roundRatio_near n (lastPlace_pos n)).1
  have hlt := lt_mul_lastPlace n
  by_contra hlarge
  have := Nat.mul_le_mul_right (lastPlace n) (Nat.lt_of_not_le hlarge)
  rw [Nat.succ_mul] at this
  omega

theorem le_roundRatio_lastPlace {n : Nat} (hplace : lastPlace n ≠ 1) :
    2 ^ 52 ≤ roundRatio n (lastPlace n) := by
  have hnear := (roundRatio_near n (lastPlace_pos n)).1
  have hle := (lastPlace_cases n).resolve_left hplace
  have hpos := lastPlace_pos n
  by_contra hsmall
  have := Nat.mul_le_mul_right (lastPlace n) (Nat.lt_of_not_le hsmall)
  rw [Nat.succ_mul] at this
  omega

theorem isDouble_roundUnits (n : Nat) : IsDouble (roundUnits n 1 : Nat) := by
  rw [roundUnits_eq]
  have hle := roundRatio_lastPlace_le n
  by_cases hlt : roundRatio n (lastPlace n) < 2 ^ 53
  · exact ⟨_, n.log2 - 52, hlt, rfl⟩
  · refine ⟨2 ^ 52, n.log2 - 52 + 1, by decide, ?_⟩
    rw [Nat.le_antisymm hle (Nat.le_of_not_lt hlt), Int.natAbs_natCast, lastPlace, Nat.pow_succ]
    omega

/-- An even multiple ends even. -/
theorem endsEven_roundUnits {n : Nat} (hplace : lastPlace n ≠ 1)
    (heven : roundRatio n (lastPlace n) % 2 = 0) : EndsEven (roundUnits n 1 : Nat) := by
  rw [roundUnits_eq]
  have hle := roundRatio_lastPlace_le n
  have hge := le_roundRatio_lastPlace hplace
  by_cases hlt : roundRatio n (lastPlace n) < 2 ^ 53
  · refine ⟨roundRatio n (lastPlace n) / 2, n.log2 - 52, by omega, by omega, ?_⟩
    rw [Int.natAbs_natCast, Nat.mul_div_cancel' (Nat.dvd_of_mod_eq_zero heven)]
    rfl
  · refine ⟨2 ^ 51, n.log2 - 52 + 1, by decide, by decide, ?_⟩
    rw [Nat.le_antisymm hle (Nat.le_of_not_lt hlt), Int.natAbs_natCast, lastPlace, Nat.pow_succ]
    omega

/-- No multiple of what the last place is worth is nearer. -/
theorem natAbs_sub_roundUnits_le (n j : Nat) :
    ((n : Int) - (roundUnits n 1 : Nat)).natAbs ≤
      ((n : Int) - (j * lastPlace n : Nat)).natAbs := by
  rw [roundUnits_eq]
  by_cases hj : j = roundRatio n (lastPlace n)
  · rw [hj]
  · have hnear := (roundRatio_near n (lastPlace_pos n)).1
    have hadd := le_add_of_ne_roundRatio hj
    omega

/-- A double is a multiple of what the last place is worth, or farther away than one. -/
theorem multiple_or_farther (n : Nat) (hy : IsDouble y) :
    (∃ j : Nat, y = (j * lastPlace n : Nat)) ∨
      ((n : Int) - (roundUnits n 1 : Nat)).natAbs < ((n : Int) - y).natAbs := by
  obtain ⟨m, k, hm, hy⟩ := hy
  by_cases hneg : y < 0
  · right
    have hzero := natAbs_sub_roundUnits_le n 0
    omega
  · by_cases hplaces : n.log2 - 52 ≤ k
    · left
      refine ⟨m * 2 ^ (k - (n.log2 - 52)), ?_⟩
      rw [lastPlace, Nat.mul_assoc, ← Nat.pow_add, Nat.sub_add_cancel hplaces]
      omega
    · right
      have hdouble : 2 * 2 ^ k ≤ lastPlace n := by
        rw [lastPlace, ← Nat.pow_succ']
        exact Nat.pow_le_pow_right (by decide) (by omega)
      have hplace : lastPlace n ≠ 1 := by
        have := Nat.two_pow_pos k
        omega
      have hle := (lastPlace_cases n).resolve_left hplace
      have hsmall : m * 2 ^ k < 2 ^ 53 * 2 ^ k := Nat.mul_lt_mul_of_pos_right hm (Nat.two_pow_pos k)
      have hnearest := natAbs_sub_roundUnits_le n (2 ^ 52)
      omega

/-- Where another multiple is as near, both are half of the last place away, and the one that was
chosen is even. -/
theorem tie_of_natAbs_eq {n j : Nat} (hne : j ≠ roundRatio n (lastPlace n))
    (hequal : ((n : Int) - (j * lastPlace n : Nat)).natAbs =
      ((n : Int) - (roundUnits n 1 : Nat)).natAbs) :
    2 * ((n : Int) - (roundUnits n 1 : Nat)).natAbs = lastPlace n ∧ lastPlace n ≠ 1 ∧
      roundRatio n (lastPlace n) % 2 = 0 := by
  rw [roundUnits_eq] at hequal ⊢
  obtain ⟨hnear, heven⟩ := roundRatio_near n (lastPlace_pos n)
  have hadd := le_add_of_ne_roundRatio hne
  have htie : 2 * ((n : Int) - (roundRatio n (lastPlace n) * lastPlace n : Nat)).natAbs =
      lastPlace n := by
    omega
  exact ⟨htie, by omega, heven htie⟩

theorem isNearest_roundUnits (n : Nat) : IsNearest n (roundUnits n 1 : Nat) where
  isDouble := isDouble_roundUnits n
  nearest := by
    intro y hy
    obtain ⟨j, rfl⟩ | hfarther := multiple_or_farther n hy
    · exact natAbs_sub_roundUnits_le n j
    · exact Nat.le_of_lt hfarther
  even := by
    intro y hy hne hequal
    obtain ⟨j, rfl⟩ | hfarther := multiple_or_farther n hy
    · have hj : j ≠ roundRatio n (lastPlace n) := by
        rintro rfl
        exact hne (by rw [roundUnits_eq])
      obtain ⟨-, hplace, heven⟩ := tie_of_natAbs_eq hj hequal
      exact endsEven_roundUnits hplace heven
    · exact absurd hequal (Nat.ne_of_gt hfarther)

/-! ## The nearest double is unique -/

theorem le_of_mul_two_pow_eq {a b k l : Nat} (ha : a < 2 ^ 53) (hb : 2 ^ 52 ≤ b)
    (hequal : a * 2 ^ k = b * 2 ^ l) : l ≤ k := by
  by_contra hlt
  have hpow : 2 * 2 ^ k ≤ 2 ^ l := by
    rw [← Nat.pow_succ']
    exact Nat.pow_le_pow_right (by decide) (by omega)
  have hle : 2 ^ 52 * (2 * 2 ^ k) ≤ b * 2 ^ l := Nat.mul_le_mul hb hpow
  have hless : a * 2 ^ k < 2 ^ 53 * 2 ^ k := Nat.mul_lt_mul_of_pos_right ha (Nat.two_pow_pos k)
  omega

/-- A number of 53 digits is written with them in one way. -/
theorem eq_of_mul_two_pow_eq {a b k l : Nat} (ha : 2 ^ 52 ≤ a ∧ a < 2 ^ 53)
    (hb : 2 ^ 52 ≤ b ∧ b < 2 ^ 53) (hequal : a * 2 ^ k = b * 2 ^ l) : a = b := by
  have hpow : k = l :=
    Nat.le_antisymm (le_of_mul_two_pow_eq hb.2 ha.1 hequal.symm)
      (le_of_mul_two_pow_eq ha.2 hb.1 hequal)
  rw [hpow] at hequal
  exact Nat.eq_of_mul_eq_mul_right (Nat.two_pow_pos l) hequal

/-- Where another multiple is as near, it is a neighbour of the one that was chosen. -/
theorem odd_of_natAbs_eq {n j : Nat} (hne : j ≠ roundRatio n (lastPlace n))
    (hequal : ((n : Int) - (j * lastPlace n : Nat)).natAbs =
      ((n : Int) - (roundUnits n 1 : Nat)).natAbs) :
    j % 2 = 1 ∧ 2 ^ 52 ≤ j ∧ j < 2 ^ 53 := by
  obtain ⟨htie, hplace, heven⟩ := tie_of_natAbs_eq hne hequal
  have hpos := lastPlace_pos n
  have hupper := lt_mul_lastPlace n
  have hlower := (lastPlace_cases n).resolve_left hplace
  have hle := roundRatio_lastPlace_le n
  have hge := le_roundRatio_lastPlace hplace
  rw [roundUnits_eq] at htie hequal
  generalize roundRatio n (lastPlace n) = chosen at *
  obtain hless | hgreater := Nat.lt_or_gt_of_ne hne
  · have hnext : chosen = j + 1 := by
      by_contra hapart
      have := Nat.mul_le_mul_right (lastPlace n) (show j + 2 ≤ chosen by omega)
      rw [Nat.add_mul] at this
      omega
    rw [hnext, Nat.succ_mul] at htie hequal
    refine ⟨by omega, ?_, by omega⟩
    by_contra hsmall
    have := Nat.mul_le_mul_right (lastPlace n) (Nat.lt_of_not_le hsmall)
    rw [Nat.succ_mul] at this
    omega
  · have hnext : j = chosen + 1 := by
      by_contra hapart
      have := Nat.mul_le_mul_right (lastPlace n) (show chosen + 2 ≤ j by omega)
      rw [Nat.add_mul] at this
      omega
    rw [hnext, Nat.succ_mul] at hequal
    have hcarried : chosen ≠ 2 ^ 53 := by
      rintro rfl
      omega
    omega

theorem not_endsEven_of_natAbs_eq {n j : Nat} (hne : j ≠ roundRatio n (lastPlace n))
    (hequal : ((n : Int) - (j * lastPlace n : Nat)).natAbs =
      ((n : Int) - (roundUnits n 1 : Nat)).natAbs) :
    ¬ EndsEven (j * lastPlace n : Nat) := by
  rintro ⟨m, k, hge, hlt, hends⟩
  obtain ⟨hodd, hdigits⟩ := odd_of_natAbs_eq hne hequal
  have := eq_of_mul_two_pow_eq hdigits (by omega) hends
  omega

theorem IsNearest.eq_roundUnits {n : Nat} (hx : IsNearest n x) : x = (roundUnits n 1 : Nat) := by
  have hround := isNearest_roundUnits n
  have hequal := Nat.le_antisymm (hx.nearest _ hround.isDouble) (hround.nearest x hx.isDouble)
  by_contra hne
  obtain ⟨j, rfl⟩ | hfarther := multiple_or_farther n hx.isDouble
  · have hj : j ≠ roundRatio n (lastPlace n) := by
      rintro rfl
      exact hne (by rw [roundUnits_eq])
    exact not_endsEven_of_natAbs_eq hj hequal (hx.even _ hround.isDouble (Ne.symm hne) hequal.symm)
  · exact absurd hequal (Nat.ne_of_gt hfarther)

/-! ## Integers -/

/-- The double nearest to an integer, which is an integer again. -/
def nearest (n : Int) : Int :=
  if n < 0 then -(roundUnits n.natAbs 1 : Nat) else (roundUnits n.natAbs 1 : Nat)

theorem isNearest_iff (n x : Int) : IsNearest n x ↔ x = nearest n := by
  unfold nearest
  by_cases hneg : n < 0
  · rw [if_pos hneg]
    have hn : n = -(n.natAbs : Int) := by omega
    constructor
    · intro hx
      have hflip : IsNearest n.natAbs (-x) := by
        have := hx.neg
        rwa [hn, Int.neg_neg] at this
      rw [← hflip.eq_roundUnits, Int.neg_neg]
    · rintro rfl
      have := (isNearest_roundUnits n.natAbs).neg
      rwa [← hn] at this
  · rw [if_neg hneg]
    have hn : n = (n.natAbs : Int) := by omega
    constructor
    · intro hx
      rw [hn] at hx
      exact hx.eq_roundUnits
    · rintro rfl
      have := isNearest_roundUnits n.natAbs
      rwa [← hn] at this

theorem isNearest_nearest (n : Int) : IsNearest n (nearest n) :=
  (isNearest_iff n (nearest n)).mpr rfl

theorem nearest_eq_self {n : Int} (hn : n.natAbs ≤ 2 ^ 53) : nearest n = n :=
  (isNearest_nearest n).eq_self (isDouble_of_natAbs_le hn)

theorem nearest_le_nearest {a b : Int} (hle : a ≤ b) : nearest a ≤ nearest b := by
  by_cases hsame : a = b
  · rw [hsame]
  · exact (isNearest_nearest a).le_of_lt (isNearest_nearest b) (by omega)

/-- An integer whose neighbours are doubles as well is in order with every other integer. -/
theorem nearest_lt_nearest {a b : Int} (hsmall : a.natAbs < 2 ^ 53 ∨ b.natAbs < 2 ^ 53)
    (hlt : a < b) : nearest a < nearest b := by
  obtain ha | hb := hsmall
  · calc
      nearest a = a := nearest_eq_self (Nat.le_of_lt ha)
      _ < a + 1 := Int.lt_succ a
      _ = nearest (a + 1) := (nearest_eq_self (by omega)).symm
      _ ≤ nearest b := nearest_le_nearest hlt
  · calc
      nearest a ≤ nearest (b - 1) := nearest_le_nearest (by omega)
      _ = b - 1 := nearest_eq_self (by omega)
      _ < b := Int.sub_one_lt_of_le (Int.le_refl b)
      _ = nearest b := (nearest_eq_self (Nat.le_of_lt hb)).symm

theorem compare_nearest {a b : Int} (hsmall : a.natAbs < 2 ^ 53 ∨ b.natAbs < 2 ^ 53) :
    compare (nearest a) (nearest b) = compare a b := by
  obtain hlt | rfl | hgt := Int.lt_trichotomy a b
  · rw [Int.compare_eq_lt.mpr hlt, Int.compare_eq_lt]
    exact nearest_lt_nearest hsmall hlt
  · rw [Int.compare_eq_eq.mpr rfl, Int.compare_eq_eq.mpr rfl]
  · rw [Int.compare_eq_gt.mpr hgt, Int.compare_eq_gt]
    exact nearest_lt_nearest hsmall.symm hgt

/-! ## Integers in units -/

theorem log2_mul_two_pow {n : Nat} (hn : n ≠ 0) (e : Nat) : (n * 2 ^ e).log2 = n.log2 + e := by
  have hpos := Nat.two_pow_pos e
  rw [Nat.log2_eq_iff (Nat.mul_ne_zero hn (Nat.ne_of_gt hpos))]
  constructor
  · rw [Nat.pow_add]
    exact Nat.mul_le_mul_right _ (Nat.log2_self_le hn)
  · rw [Nat.add_right_comm, Nat.pow_add]
    exact Nat.mul_lt_mul_of_pos_right Nat.lt_log2_self hpos

/-- Rounding is the same in smaller units, if they are so small that no integer is rounded to a part
of one. -/
theorem roundUnits_mul_two_pow (n : Nat) {e : Nat} (he : 52 ≤ e) :
    roundUnits (n * 2 ^ e) 1 = roundUnits n 1 * 2 ^ e := by
  by_cases hn : n = 0
  · rw [hn, Nat.zero_mul, roundUnits_one_of_lt (by decide), Nat.zero_mul]
  · rw [roundUnits_eq, roundUnits_eq, lastPlace, log2_mul_two_pow hn]
    by_cases hlog : n.log2 ≤ 52
    · -- nothing is rounded
      have hplace : lastPlace n = 1 := by
        rw [lastPlace, Nat.sub_eq_zero_of_le hlog, Nat.pow_zero]
      have hsplit : 2 ^ e = 2 ^ (52 - n.log2) * 2 ^ (n.log2 + e - 52) := by
        rw [← Nat.pow_add]
        congr 1
        omega
      have hself : roundRatio n 1 = n := by
        have := roundRatio_of_mul n Nat.one_pos
        rwa [Nat.mul_one] at this
      rw [hplace, hself, Nat.mul_one, hsplit, ← Nat.mul_assoc,
        roundRatio_of_mul _ (Nat.two_pow_pos _)]
    · have hplaces : n.log2 + e - 52 = n.log2 - 52 + e := by omega
      rw [hplaces, Nat.pow_add, roundRatio_mul n _ (Nat.two_pow_pos e), ← Nat.mul_assoc]
      rfl

theorem exists_one_eq : ∃ e, 52 ≤ e ∧ one = 2 ^ e := by
  have hle : 52 ≤ 1074 := by decide
  unfold one
  -- the power itself is too large to be computed
  generalize 1074 = e at hle ⊢
  exact ⟨e, hle, rfl⟩

theorem one_pos : 0 < one := by
  obtain ⟨e, -, hone⟩ := exists_one_eq
  rw [hone]
  exact Nat.two_pow_pos e

/-- An integer is read as the nearest double. -/
theorem signedUnits_int (n : Int) : (int n).toFinite.signedUnits = nearest n * one := by
  have hunits : roundUnits (n.natAbs * one) 1 = roundUnits n.natAbs 1 * one := by
    obtain ⟨e, he, hone⟩ := exists_one_eq
    rw [hone]
    exact roundUnits_mul_two_pow n.natAbs he
  simp only [toFinite, Finite.ofNat, Finite.signedUnits, nearest, hunits, Int.natCast_mul,
    decide_eq_true_eq]
  by_cases hneg : n < 0
  · rw [if_pos hneg, if_pos hneg, Int.neg_mul]
  · rw [if_neg hneg, if_neg hneg]

theorem sameDouble_int (a b : Int) :
    (int a).sameDouble (int b) = decide (nearest a = nearest b) := by
  have hpos : (one : Int) ≠ 0 := Int.natCast_ne_zero.mpr (Nat.ne_of_gt one_pos)
  rw [sameDouble, signedUnits_int, signedUnits_int, Bool.beq_eq_decide_eq]
  exact decide_eq_decide.mpr (Int.mul_eq_mul_right_iff hpos)

theorem compare_mul_right (a b : Int) {c : Int} (hc : 0 < c) :
    compare (a * c) (b * c) = compare a b := by
  obtain hlt | rfl | hgt := Int.lt_trichotomy a b
  · rw [Int.compare_eq_lt.mpr hlt, Int.compare_eq_lt]
    exact Int.mul_lt_mul_of_pos_right hlt hc
  · rw [Int.compare_eq_eq.mpr rfl, Int.compare_eq_eq.mpr rfl]
  · rw [Int.compare_eq_gt.mpr hgt, Int.compare_eq_gt]
    exact Int.mul_lt_mul_of_pos_right hgt hc

theorem compare?_int (a b : Int) :
    Double.compare? (.finite (int a).toFinite) (.finite (int b).toFinite) =
      some (compare (nearest a) (nearest b)) := by
  rw [Double.compare?, signedUnits_int, signedUnits_int,
    compare_mul_right _ _ (Int.natCast_pos.mpr one_pos)]

end Workflow.Number
