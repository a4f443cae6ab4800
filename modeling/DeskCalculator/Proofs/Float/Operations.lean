import DeskCalculator.Proofs.Float.Storage

/-!
# Operations on positive floats

A float denotes a positive number if it is finite and that number
(`Denotes`).  Each operation on such floats gives the float nearest to the exact
result (`Denotes.div`, `Denotes.mul`, `Denotes.sub`), which denotes the nearest
binary number unless that is too large (`denotes_nearestFloat`).
-/

namespace DeskCalculator.Binary

open Float.Model Float.Model.UnpackedFloat

/-! ## The nearest float -/

/-- What a positive number is rounded to, with its bounds. -/
theorem rounded_cases {x : ℚ} (hx : 0 < x) (s : Sign) :
    (nearest x = 0 ∧ rounded s x = .zero s) ∨
    ∃ mantissa exponent hpos, rounded s x = .finite s mantissa exponent hpos ∧
      mantissa * 2 ^ exponent = nearest x ∧ mantissa < 2 ^ 53 ∧ -1074 ≤ exponent ∧
      (2 ^ 52 ≤ mantissa ∨ exponent = -1074) := by
  have hle := factor_le hx
  have hnearest : nearest x = factor x * 2 ^ unitExponent x := by
    rw [nearest, ← factor_eq hx.le]
    rfl
  have hlow : -1074 ≤ unitExponent x := le_max_right _ _
  have hfull := le_factor hx
  rw [hnearest]
  unfold rounded
  generalize factor x = factor at *
  unfold ofFactor
  rcases Nat.eq_zero_or_pos factor with rfl | hpos
  · exact .inl ⟨by simp, by simp⟩
  · right
    rw [dif_neg hpos.ne']
    rcases hle.lt_or_eq with hlt | rfl
    · rw [if_pos hlt]
      exact ⟨factor, unitExponent x, hpos, rfl, rfl, hlt, hlow, hfull⟩
    · rw [if_neg (lt_irrefl _)]
      refine ⟨2 ^ 52, unitExponent x + 1, by norm_num, rfl, ?_, by norm_num, by omega,
        .inl le_rfl⟩
      rw [zpow_add₀ (by norm_num)]
      push_cast
      ring

/-- The float nearest to a positive number. -/
def nearestFloat (x : ℚ) : Float := .ofModel (.pack (rounded .positive x))

/-- Whether a float is this number, and positive. -/
def Denotes (v : Float) (x : ℚ) : Prop :=
  ∃ mantissa exponent hpos, v.toModel.unpack = .finite .positive mantissa exponent hpos ∧
    IsStored (.finite .positive mantissa exponent hpos) ∧ x = mantissa * 2 ^ exponent

theorem Denotes.pos {v : Float} {x : ℚ} (h : Denotes v x) : 0 < x := by
  obtain ⟨mantissa, exponent, hpos, -, -, rfl⟩ := h
  positivity

theorem Denotes.isBinary {v : Float} {x : ℚ} (h : Denotes v x) : IsBinary x := by
  obtain ⟨mantissa, exponent, hpos, -, ⟨hmantissa, hlow, -⟩, rfl⟩ := h
  exact ⟨mantissa, exponent, hmantissa, hlow, rfl⟩

theorem Denotes.isFinite {v : Float} {x : ℚ} (h : Denotes v x) : v.isFinite = true := by
  obtain ⟨mantissa, exponent, hpos, hunpack, -⟩ := h
  show v.toModel.unpack.isFinite = true
  rw [hunpack]
  rfl

/-- A number that is written with too large an exponent is too large. -/
theorem exponent_le_iff {mantissa : ℕ} {exponent : ℤ} (hmantissa : mantissa < 2 ^ 53)
    (hfull : 2 ^ 52 ≤ mantissa ∨ exponent = -1074) :
    exponent ≤ 971 ↔ (mantissa * 2 ^ exponent : ℚ) < 2 ^ (1024 : ℤ) := by
  constructor
  · intro hle
    have hlt : (mantissa : ℚ) < 2 ^ (53 : ℤ) := by exact_mod_cast hmantissa
    calc (mantissa * 2 ^ exponent : ℚ) < 2 ^ (53 : ℤ) * 2 ^ exponent :=
          mul_lt_mul_of_pos_right hlt (by positivity)
      _ ≤ 2 ^ (53 : ℤ) * 2 ^ (971 : ℤ) :=
          mul_le_mul_of_nonneg_left (zpow_le_zpow_right₀ (by norm_num) hle) (by positivity)
      _ = 2 ^ (1024 : ℤ) := by rw [← zpow_add₀ (by norm_num)]; rfl
  · intro hlt
    by_contra hexponent
    have hmantissa' : 2 ^ 52 ≤ mantissa := hfull.resolve_right (by omega)
    have hle : (2 : ℚ) ^ (52 : ℤ) ≤ mantissa := by exact_mod_cast hmantissa'
    have hlarge : (2 : ℚ) ^ (1024 : ℤ) ≤ mantissa * 2 ^ exponent := by
      calc (2 : ℚ) ^ (1024 : ℤ) = 2 ^ (52 : ℤ) * 2 ^ (972 : ℤ) := by
            rw [← zpow_add₀ (by norm_num)]; rfl
        _ ≤ mantissa * 2 ^ exponent :=
            mul_le_mul hle (zpow_le_zpow_right₀ (by norm_num) (by omega)) (by positivity)
              (by positivity)
    exact absurd hlt (not_lt.2 hlarge)

/-- What a positive number is rounded to can be stored unless it is too large. -/
theorem isStored_rounded {x : ℚ} (hx : 0 < x) (s : Sign) (hlt : nearest x < 2 ^ (1024 : ℤ)) :
    IsStored (rounded s x) := by
  rcases rounded_cases hx s with ⟨-, hrounded⟩ |
    ⟨mantissa, exponent, hmantissa, hrounded, hnearest, hbits, hlow, hfull⟩
  · rw [hrounded]
    trivial
  · rw [hrounded]
    exact ⟨hbits, hlow, (exponent_le_iff hbits hfull).2 (hnearest ▸ hlt), hfull⟩

/-- Infinity is stored in place of what is rounded to too large a number. -/
theorem pack_rounded_eq_infinity {x : ℚ} (hx : 0 < x) (s : Sign)
    (hle : 2 ^ (1024 : ℤ) ≤ nearest x) :
    Float.Model.pack (rounded s x) = Float.Model.pack (.infinity s) := by
  rcases rounded_cases hx s with ⟨hzero, -⟩ |
    ⟨mantissa, exponent, hmantissa, hrounded, hnearest, hbits, -, hfull⟩
  · rw [hzero] at hle
    exact absurd hle (not_le.2 (by positivity))
  · have hlarge : 972 ≤ exponent := by
      by_contra hexponent
      have hlt := (exponent_le_iff hbits hfull).1 (by omega)
      rw [hnearest] at hlt
      exact absurd hle (not_le.2 hlt)
    rw [hrounded, pack_eq_infinity hlarge]

/-- The nearest float denotes the nearest number if that is neither zero nor too large. -/
theorem denotes_nearestFloat {x : ℚ} (hx : 0 < x) (hpos : 0 < nearest x)
    (hlt : nearest x < 2 ^ (1024 : ℤ)) : Denotes (nearestFloat x) (nearest x) := by
  have hstored := isStored_rounded hx .positive hlt
  rcases rounded_cases hx .positive with ⟨hzero, -⟩ |
    ⟨mantissa, exponent, hmantissa, hrounded, hnearest, -⟩
  · exact absurd hzero hpos.ne'
  · rw [hrounded] at hstored
    refine ⟨mantissa, exponent, hmantissa, ?_, hstored, hnearest.symm⟩
    rw [nearestFloat, hrounded, unpack_pack hstored]

theorem nearestFloat_eq_infinity {x : ℚ} (hx : 0 < x) (hle : 2 ^ (1024 : ℤ) ≤ nearest x) :
    nearestFloat x = .ofModel (.pack (.infinity .positive)) := by
  rw [nearestFloat, pack_rounded_eq_infinity hx .positive hle]

theorem nearestFloat_eq_zero {x : ℚ} (hx : 0 < x) (hzero : nearest x = 0) :
    nearestFloat x = .ofModel (.pack (.zero .positive)) := by
  rcases rounded_cases hx .positive with ⟨-, hrounded⟩ | ⟨mantissa, exponent, hpos, -, hnearest, -⟩
  · rw [nearestFloat, hrounded]
  · rw [hzero] at hnearest
    have hne : (mantissa * 2 ^ exponent : ℚ) ≠ 0 := by positivity
    exact absurd hnearest hne

/-- A number of the format that is not too large is the nearest float itself. -/
theorem IsBinary.denotes {x : ℚ} (hb : IsBinary x) (hx : 0 < x) (hlt : x < 2 ^ (1024 : ℤ)) :
    Denotes (nearestFloat x) x := by
  have hnearest := nearest_of_isBinary hb
  have hdenotes := denotes_nearestFloat hx (hnearest.symm ▸ hx) (hnearest.symm ▸ hlt)
  rwa [hnearest] at hdenotes

/-! ## Arithmetic -/

/-- The model's product is the nearest one, unless its exponent lies above the unit. -/
theorem mul_eq {m n : ℕ} (hm : 0 < m) (hn : 0 < n) {d e : ℤ}
    (hunit : d + e ≤ unitExponent (m * 2 ^ d * (n * 2 ^ e))) {s t : Sign} :
    UnpackedFloat.mul .binary64 (.finite s m d hm) (.finite t n e hn) =
      rounded (s * t) (m * 2 ^ d * (n * 2 ^ e)) := by
  have hquotient : (m * 2 ^ d * (n * 2 ^ e) : ℚ) / 2 ^ (d + e) = (m * n : ℕ) := by
    rw [zpow_add₀ (by norm_num), div_eq_iff (by positivity)]
    push_cast
    ring
  refine roundWithAccuracy_eq (by positivity) ?_ hunit (s * t)
  rw [hquotient]
  exact describes_exact _

/-- The exponents of stored numbers add up to no more than that of the unit around the product. -/
theorem exponent_add_le {m n : ℕ} {hm : 0 < m} {hn : 0 < n} {d e : ℤ}
    (hstored : IsStored (.finite .positive m d hm))
    (hstored' : IsStored (.finite .positive n e hn)) :
    d + e ≤ unitExponent (m * 2 ^ d * (n * 2 ^ e)) := by
  obtain ⟨-, -, -, hfull⟩ := hstored
  obtain ⟨-, -, -, hfull'⟩ := hstored'
  have hvalue : (m * 2 ^ d * (n * 2 ^ e) : ℚ) = (m * n : ℕ) * 2 ^ (d + e) := by
    rw [zpow_add₀ (by norm_num)]
    push_cast
    ring
  rw [hvalue, unitExponent_eq (Nat.mul_pos hm hn), totalExponent_eq, targetExponent_binary64]
  have hlog : (2 ^ 52 ≤ m * n) ∨ d + e ≤ -1074 := by
    rcases hfull with hfull | rfl
    · exact .inl (hfull.trans (Nat.le_mul_of_pos_right m hn))
    · rcases hfull' with hfull' | rfl
      · exact .inl (hfull'.trans (Nat.le_mul_of_pos_left n hm))
      · exact .inr (by norm_num)
  rcases hlog with hlog | hlog
  · have hle := Nat.le_log_of_pow_le (by norm_num) hlog
    omega
  · omega

/-- The logarithm of a quotient. -/
theorem le_log_div {m n : ℕ} (hm : 0 < m) (hn : 0 < n) (d e : ℤ) :
    (Nat.log 2 m + d) - (Nat.log 2 n + e) - 1 ≤ Int.log 2 ((m * 2 ^ d : ℚ) / (n * 2 ^ e)) := by
  have hlow : 2 ^ Nat.log 2 m ≤ m := Nat.pow_log_le_self 2 hm.ne'
  have hhigh : n ≤ 2 ^ (Nat.log 2 n + 1) := (Nat.lt_pow_succ_log_self (by norm_num) n).le
  refine (Int.zpow_le_iff_le_log (by norm_num) (by positivity)).1 ?_
  rw [le_div_iff₀ (by positivity)]
  calc ((2 : ℕ) : ℚ) ^ ((Nat.log 2 m + d) - (Nat.log 2 n + e) - 1 : ℤ) * (n * 2 ^ e)
      ≤ 2 ^ ((Nat.log 2 m + d) - (Nat.log 2 n + e) - 1 : ℤ) * (2 ^ (Nat.log 2 n + 1) * 2 ^ e) := by
        push_cast
        gcongr
        exact_mod_cast hhigh
    _ = 2 ^ Nat.log 2 m * 2 ^ d := by
        rw [← zpow_natCast, ← zpow_natCast, ← zpow_add₀ (by norm_num), ← zpow_add₀ (by norm_num),
          ← zpow_add₀ (by norm_num)]
        congr 1
        push_cast
        ring
    _ ≤ m * 2 ^ d := by
        gcongr
        exact_mod_cast hlow

/-- The model's quotient is the nearest one. -/
theorem div_eq {m n : ℕ} (hm : 0 < m) (hn : 0 < n) (d e : ℤ) :
    UnpackedFloat.div .binary64 (.finite .positive m d hm) (.finite .positive n e hn) =
      rounded .positive (m * 2 ^ d / (n * 2 ^ e)) := by
  have hlog := le_log_div hm hn d e
  have htarget : Format.binary64.targetExponent (totalExponent m d - totalExponent n e) ≤
      unitExponent (m * 2 ^ d / (n * 2 ^ e)) := by
    rw [totalExponent_eq, totalExponent_eq, targetExponent_binary64]
    unfold unitExponent
    omega
  unfold UnpackedFloat.div divCore
  dsimp only
  generalize Format.binary64.targetExponent (totalExponent m d - totalExponent n e) = target
    at htarget
  generalize hamount : (d - e - min (d - e) target).toNat = amount
  have hexponent : min (d - e) target = d - e - amount := by omega
  refine roundWithAccuracy_eq (by positivity) ?_ (by omega) _
  have hquotient : (m * 2 ^ d : ℚ) / (n * 2 ^ e) / 2 ^ min (d - e) target =
      (m <<< amount : ℕ) / n := by
    rw [hexponent, Nat.shiftLeft_eq, zpow_sub₀ (by norm_num), zpow_sub₀ (by norm_num), zpow_natCast]
    push_cast
    field_simp
  rw [hquotient]
  exact describes_div _ hn

theorem normalize_eq {mantissa : ℤ} (hpos : 0 < mantissa) (exponent : ℤ) (s : Sign) :
    UnpackedFloat.normalize .binary64 mantissa exponent s =
      rounded .positive (mantissa.toNat * 2 ^ exponent) := by
  have hcompare : compare mantissa 0 = .gt := Int.compare_eq_gt.2 hpos
  unfold UnpackedFloat.normalize
  rw [hcompare, ← round_eq (by omega)]

/-- A mantissa in smaller units. -/
theorem mul_decreaseExponent (mantissa : ℕ) {exponent smaller : ℤ} (h : smaller ≤ exponent) :
    ((decreaseExponent mantissa exponent smaller).1 : ℚ) * 2 ^ smaller =
      mantissa * 2 ^ exponent := by
  obtain ⟨amount, hamount⟩ := Int.eq_ofNat_of_zero_le (sub_nonneg.2 h)
  have hexponent : exponent = amount + smaller := by omega
  unfold decreaseExponent
  dsimp only
  rw [hamount, Int.toNat_natCast, Nat.shiftLeft_eq, hexponent, zpow_add₀ (by norm_num),
    zpow_natCast]
  push_cast
  ring

/-- The model's difference is the nearest one. -/
theorem sub_eq {m n : ℕ} (hm : 0 < m) (hn : 0 < n) {d e : ℤ}
    (h : (n * 2 ^ e : ℚ) < m * 2 ^ d) :
    UnpackedFloat.sub .binary64 (.finite .positive m d hm) (.finite .positive n e hn) =
      rounded .positive (m * 2 ^ d - n * 2 ^ e) := by
  have hfirst := mul_decreaseExponent m (min_le_left d e)
  have hsecond := mul_decreaseExponent n (min_le_right d e)
  rw [← hfirst, ← hsecond] at h ⊢
  show UnpackedFloat.normalize .binary64 (((decreaseExponent m d (min d e)).1 : ℤ) -
    (decreaseExponent n e (min d e)).1) (min d e) .positive = _
  generalize (decreaseExponent m d (min d e)).1 = first at h ⊢
  generalize (decreaseExponent n e (min d e)).1 = second at h ⊢
  have hlt : second < first := by exact_mod_cast lt_of_mul_lt_mul_right h (by positivity)
  have htoNat : ((first : ℤ) - second).toNat = first - second := by omega
  have hcast : (((first : ℤ) - second).toNat : ℚ) = first - second := by
    rw [htoNat, Nat.cast_sub hlt.le]
  rw [normalize_eq (by omega), hcast, sub_mul]

/-! ## Comparison -/

/-- The larger exponent belongs to the larger number. -/
theorem lt_of_exponent_lt {m n : ℕ} {d e : ℤ} (hm : m < 2 ^ 53) (hn : 2 ^ 52 ≤ n) (h : d < e) :
    (m * 2 ^ d : ℚ) < n * 2 ^ e := by
  have hm' : (m : ℚ) < 2 ^ (53 : ℤ) := by exact_mod_cast hm
  have hn' : (2 : ℚ) ^ (52 : ℤ) ≤ n := by exact_mod_cast hn
  calc (m * 2 ^ d : ℚ) < 2 ^ (53 : ℤ) * 2 ^ d := mul_lt_mul_of_pos_right hm' (by positivity)
    _ = 2 ^ (52 : ℤ) * 2 ^ (d + 1) := by
        rw [← zpow_add₀ (by norm_num), ← zpow_add₀ (by norm_num)]
        congr 1
        ring
    _ ≤ n * 2 ^ e :=
        mul_le_mul hn' (zpow_le_zpow_right₀ (by norm_num) h) (by positivity) (by positivity)

theorem compare_eq {m n : ℕ} {hm : 0 < m} {hn : 0 < n} {d e : ℤ}
    (hstored : IsStored (.finite .positive m d hm))
    (hstored' : IsStored (.finite .positive n e hn)) :
    (compare d e).then (compare m n) = compare (m * 2 ^ d : ℚ) (n * 2 ^ e) := by
  obtain ⟨hlt, hlow, -, hfull⟩ := hstored
  obtain ⟨hlt', hlow', -, hfull'⟩ := hstored'
  rcases lt_trichotomy d e with h | rfl | h
  · have hvalue := lt_of_exponent_lt hlt (hfull'.resolve_right (by omega)) h
    rw [Int.compare_eq_lt.2 h, compare_lt_iff_lt.2 hvalue]
    rfl
  · have hequal : compare d d = .eq := Int.compare_eq_eq.2 rfl
    rw [hequal, Ordering.eq_then]
    have hpower : (0 : ℚ) < 2 ^ d := by positivity
    rcases lt_trichotomy m n with h | rfl | h
    · rw [Nat.compare_eq_lt.2 h, compare_lt_iff_lt.2]
      exact mul_lt_mul_of_pos_right (by exact_mod_cast h) hpower
    · rw [Nat.compare_eq_eq.2 rfl, compare_eq_iff_eq.2 rfl]
    · rw [Nat.compare_eq_gt.2 h, compare_gt_iff_gt.2]
      exact mul_lt_mul_of_pos_right (by exact_mod_cast h) hpower
  · have hvalue := lt_of_exponent_lt hlt' (hfull.resolve_right (by omega)) h
    rw [Int.compare_eq_gt.2 h, compare_gt_iff_gt.2 hvalue]
    rfl

/-- A number is stored in one way. -/
theorem eq_of_isStored {m n : ℕ} {hm : 0 < m} {hn : 0 < n} {d e : ℤ}
    (hstored : IsStored (.finite .positive m d hm)) (hstored' : IsStored (.finite .positive n e hn))
    (h : (m * 2 ^ d : ℚ) = n * 2 ^ e) : m = n ∧ d = e := by
  have hcompare := compare_eq hstored hstored'
  rw [compare_eq_iff_eq.2 h, Ordering.then_eq_eq] at hcompare
  exact ⟨Nat.compare_eq_eq.1 hcompare.2, Int.compare_eq_eq.1 hcompare.1⟩

section

variable {a b : Float} {x y : ℚ}

theorem Denotes.mul (ha : Denotes a x) (hb : Denotes b y) : a * b = nearestFloat (x * y) := by
  obtain ⟨m, d, hm, hunpack, hstored, rfl⟩ := ha
  obtain ⟨n, e, hn, hunpack', hstored', rfl⟩ := hb
  show Float.ofModel (.pack (UnpackedFloat.mul .binary64 a.toModel.unpack b.toModel.unpack)) = _
  rw [hunpack, hunpack', mul_eq hm hn (exponent_add_le hstored hstored')]
  rfl

theorem Denotes.div (ha : Denotes a x) (hb : Denotes b y) : a / b = nearestFloat (x / y) := by
  obtain ⟨m, d, hm, hunpack, -, rfl⟩ := ha
  obtain ⟨n, e, hn, hunpack', -, rfl⟩ := hb
  show Float.ofModel (.pack (UnpackedFloat.div .binary64 a.toModel.unpack b.toModel.unpack)) = _
  rw [hunpack, hunpack', div_eq hm hn]
  rfl

theorem Denotes.sub (ha : Denotes a x) (hb : Denotes b y) (h : y < x) :
    a - b = nearestFloat (x - y) := by
  obtain ⟨m, d, hm, hunpack, -, rfl⟩ := ha
  obtain ⟨n, e, hn, hunpack', -, rfl⟩ := hb
  show Float.ofModel (.pack (UnpackedFloat.sub .binary64 a.toModel.unpack b.toModel.unpack)) = _
  rw [hunpack, hunpack', sub_eq hm hn h]
  rfl

theorem Denotes.zero_mul (ha : Denotes a x) :
    Float.ofModel (.pack (.zero .positive)) * a = .ofModel (.pack (.zero .positive)) := by
  obtain ⟨m, d, hm, hunpack, -, rfl⟩ := ha
  show Float.ofModel (.pack (UnpackedFloat.mul .binary64 (.zero .positive) a.toModel.unpack)) = _
  rw [hunpack]
  rfl

theorem Denotes.zero_div (ha : Denotes a x) :
    Float.ofModel (.pack (.zero .positive)) / a = .ofModel (.pack (.zero .positive)) := by
  obtain ⟨m, d, hm, hunpack, -, rfl⟩ := ha
  show Float.ofModel (.pack (UnpackedFloat.div .binary64 (.zero .positive) a.toModel.unpack)) = _
  rw [hunpack]
  rfl

/-- Subtracting zero leaves a positive number as it is. -/
theorem Denotes.sub_zero (ha : Denotes a x) :
    Denotes (a - .ofModel (.pack (.zero .positive))) x := by
  obtain ⟨m, d, hm, hunpack, hstored, rfl⟩ := ha
  refine ⟨m, d, hm, ?_, hstored, rfl⟩
  show (Float.Model.pack (UnpackedFloat.sub .binary64 a.toModel.unpack (.zero .positive))).unpack = _
  rw [hunpack]
  exact unpack_pack hstored

end

end DeskCalculator.Binary
