import DeskCalculator.Proofs.Decimal.Rounding

/-!
# The shortest decimal is found

A decimal reads back as a float if the number of the format that is nearest to it is the float's
magnitude (`readsBack_iff`).  If any number on a decimal grid reads back, then one of the two
neighbours on that grid does (`exists_readsBack_of_grid`), and on the grid of seventeen digits the
nearer neighbour always does (`exists_readsBack_seventeen`).  So the search for the shortest decimal
succeeds, and it finds the coarsest grid on which anything reads back (`exists_found`).
-/

namespace DeskCalculator.Decimal

open Binary

variable {d e : Decimal} {v : Float} {dropped : ℕ}

/-! ## Reading back -/

/-- A decimal reads back if the float's magnitude is the nearest number of the format. -/
theorem readsBack_iff (hfinite : v.isFinite = true) (hpos : 0 < magnitude v) :
    d.ReadsBack v ↔ nearest d.value = magnitude v := by
  have habs : v.abs.isFinite = true := by rwa [isFinite_abs]
  have hdenotes := denotes_abs hfinite hpos
  constructor
  · intro hreads
    have hfloat := hreads.toFloat_eq
    rcases Nat.eq_zero_or_pos d.coefficient with hzero | hcoefficient
    · rw [toFloat_zero hzero] at hfloat
      have hvalue := value_abs hfinite
      rw [← hfloat, value_zero] at hvalue
      exact absurd hvalue hpos.ne
    · have hd := value_pos_iff.2 hcoefficient
      rw [toFloat_eq_nearestFloat hcoefficient] at hfloat
      have hlt : d.value < overflow := by
        rw [← hfloat] at habs
        exact (isFinite_pack_rounded hd.le .positive).1 habs
      rw [← value_abs hfinite, ← hfloat, value_nearestFloat hd.le hlt]
  · intro hnearest
    have hd : 0 < d.coefficient := by
      rw [Nat.pos_iff_ne_zero]
      intro hzero
      rw [value_eq_zero_iff.2 hzero, nearest_zero] at hnearest
      exact hpos.ne hnearest
    have hlt : nearest d.value < 2 ^ (1024 : ℤ) := by
      have hmagnitude := (nearest_lt_iff hpos).2 (magnitude_lt_overflow hfinite)
      rwa [nearest_of_isBinary (isBinary_magnitude hfinite), ← hnearest] at hmagnitude
    have hnearby := denotes_nearestFloat (value_pos_iff.2 hd) (hnearest ▸ hpos) hlt
    rw [hnearest] at hnearby
    show d.toFloat.toBits = v.abs.toBits
    rw [toFloat_eq_nearestFloat hd, hnearby.unique hdenotes]

theorem readsBack_ofFloat (hfinite : v.isFinite = true) : (ofFloat v).ReadsBack v :=
  congrArg Float.toBits (toFloat_ofFloat hfinite)

/-! ## Neighbours -/

/-- The neighbour that is not above a decimal, on the grid without its last `dropped` digits. -/
def below (d : Decimal) (dropped : ℕ) : Decimal :=
  ⟨d.coefficient / 10 ^ dropped, d.exponent + dropped⟩

/-- The neighbour above a decimal on that grid. -/
def above (d : Decimal) (dropped : ℕ) : Decimal :=
  ⟨d.coefficient / 10 ^ dropped + 1, d.exponent + dropped⟩

theorem mem_neighbours_iff :
    e ∈ d.neighbours dropped ↔ e = d.below dropped ∨ e = d.above dropped := by
  have hpair : ∀ {first second : Decimal}, e ∈ [first, second] ↔ e = first ∨ e = second := by
    intro first second
    rw [List.mem_cons, List.mem_singleton]
  unfold neighbours
  dsimp only
  split
  · exact hpair
  · exact hpair.trans or_comm
  · split_ifs
    · exact hpair
    · exact hpair.trans or_comm

/-- A number on the grid in units of the decimal. -/
theorem grid_eq (d : Decimal) (n dropped : ℕ) :
    (n * 10 ^ (d.exponent + dropped) : ℚ) = (n * 10 ^ dropped : ℕ) * 10 ^ d.exponent := by
  rw [zpow_add₀ (by norm_num), zpow_natCast]
  push_cast
  ring

private theorem value_below_le (d : Decimal) (dropped : ℕ) : (d.below dropped).value ≤ d.value := by
  have hle := Nat.div_mul_le_self d.coefficient (10 ^ dropped)
  rw [below, value, value]
  dsimp only
  rw [grid_eq]
  exact mul_le_mul_of_nonneg_right (by exact_mod_cast hle) (by positivity)

private theorem lt_value_above (d : Decimal) (dropped : ℕ) : d.value < (d.above dropped).value := by
  have hlt : d.coefficient < (d.coefficient / 10 ^ dropped + 1) * 10 ^ dropped :=
    (Nat.div_lt_iff_lt_mul (Nat.pow_pos (by norm_num))).1 (Nat.lt_succ_self _)
  rw [above, value, value]
  dsimp only
  rw [grid_eq]
  exact mul_lt_mul_of_pos_right (by exact_mod_cast hlt) (by positivity)

/-- No number on the grid lies between the neighbours. -/
theorem le_value_below {n : ℕ} (h : (n * 10 ^ (d.exponent + dropped) : ℚ) ≤ d.value) :
    (n * 10 ^ (d.exponent + dropped) : ℚ) ≤ (d.below dropped).value := by
  rw [grid_eq, value] at h
  have hle : n * 10 ^ dropped ≤ d.coefficient := by
    exact_mod_cast le_of_mul_le_mul_right h (by positivity)
  have hquotient := (Nat.le_div_iff_mul_le (Nat.pow_pos (by norm_num))).2 hle
  exact mul_le_mul_of_nonneg_right (by exact_mod_cast hquotient) (by positivity)

private theorem value_above_le {n : ℕ} (h : d.value < (n * 10 ^ (d.exponent + dropped) : ℚ)) :
    (d.above dropped).value ≤ (n * 10 ^ (d.exponent + dropped) : ℚ) := by
  rw [grid_eq, value] at h
  have hlt : d.coefficient < n * 10 ^ dropped := by
    exact_mod_cast lt_of_mul_lt_mul_right h (by positivity)
  have hquotient : d.coefficient / 10 ^ dropped + 1 ≤ n :=
    Nat.div_lt_of_lt_mul (by rwa [mul_comm] at hlt)
  exact mul_le_mul_of_nonneg_right (by exact_mod_cast hquotient) (by positivity)

/-- Where some number on the grid reads back, so does the neighbour on its side: that one lies
between the number and the float. -/
theorem exists_readsBack_of_grid (hfinite : v.isFinite = true) (hpos : 0 < magnitude v) {n : ℕ}
    (h : nearest (n * 10 ^ ((ofFloat v).exponent + dropped)) = magnitude v) :
    ∃ e ∈ (ofFloat v).neighbours dropped, e.ReadsBack v := by
  have hself := nearest_of_isBinary (isBinary_magnitude hfinite)
  have hvalue := value_ofFloat v
  have hgrid : (0 : ℚ) < n * 10 ^ ((ofFloat v).exponent + dropped) := by
    rcases Nat.eq_zero_or_pos n with rfl | hn
    · rw [Nat.cast_zero, zero_mul, nearest_zero] at h
      exact absurd h hpos.ne
    · positivity
  rcases le_or_gt (n * 10 ^ ((ofFloat v).exponent + dropped) : ℚ) (ofFloat v).value with hle | hgt
  · refine ⟨_, mem_neighbours_iff.2 (.inl rfl), (readsBack_iff hfinite hpos).2 ?_⟩
    have hbetween := le_value_below hle
    refine le_antisymm ?_ ?_
    · calc nearest ((ofFloat v).below dropped).value ≤ nearest (magnitude v) :=
            nearest_mono (hgrid.trans_le hbetween) (hvalue ▸ value_below_le _ _)
        _ = magnitude v := hself
    · calc magnitude v = _ := h.symm
        _ ≤ nearest ((ofFloat v).below dropped).value := nearest_mono hgrid hbetween
  · refine ⟨_, mem_neighbours_iff.2 (.inr rfl), (readsBack_iff hfinite hpos).2 ?_⟩
    have hbetween := value_above_le hgt
    have habove : magnitude v < ((ofFloat v).above dropped).value := hvalue ▸ lt_value_above _ _
    refine le_antisymm ?_ ?_
    · calc nearest ((ofFloat v).above dropped).value ≤ _ :=
            nearest_mono (hpos.trans habove) hbetween
        _ = magnitude v := h
    · calc magnitude v = nearest (magnitude v) := hself.symm
        _ ≤ nearest ((ofFloat v).above dropped).value := nearest_mono hpos habove.le

/-! ## Seventeen digits -/

/-- What differs from the exact decimal by little is rounded to the float. -/
theorem nearest_of_close (hfinite : v.isFinite = true) {n : ℕ}
    (h : 2 ^ 54 * |((ofFloat v).coefficient - n : ℚ)| < (ofFloat v).coefficient) :
    nearest (n * 10 ^ (ofFloat v).exponent) = magnitude v := by
  have hpower : (0 : ℚ) < 10 ^ (ofFloat v).exponent := by positivity
  have hmagnitude := value_ofFloat v
  have hn : (0 : ℚ) < n := by
    have habs := le_abs_self ((ofFloat v).coefficient - n : ℚ)
    have hnonneg := abs_nonneg ((ofFloat v).coefficient - n : ℚ)
    linarith
  rw [value] at hmagnitude
  refine nearest_eq_of_abs_sub_lt (mul_pos hn hpower) (isBinary_magnitude hfinite) ?_
  rw [← hmagnitude, ← sub_mul, abs_mul, abs_of_pos hpower, ← mul_assoc]
  exact mul_lt_mul_of_pos_right h hpower

/-- One of the neighbours is at most half a unit of the grid away. -/
theorem exists_nearer (d : Decimal) (dropped : ℕ) :
    ∃ e ∈ d.neighbours dropped, e.exponent = d.exponent + dropped ∧
      2 * |(d.coefficient - (e.coefficient * 10 ^ dropped : ℕ) : ℚ)| ≤ (10 ^ dropped : ℕ) := by
  have hsplit := Nat.div_add_mod' d.coefficient (10 ^ dropped)
  have hrest := Nat.mod_lt d.coefficient (Nat.pow_pos (by norm_num) : 0 < 10 ^ dropped)
  rcases le_or_gt (2 * (d.coefficient % 10 ^ dropped)) (10 ^ dropped) with hhalf | hhalf
  · refine ⟨d.below dropped, mem_neighbours_iff.2 (.inl rfl), rfl, ?_⟩
    show 2 * |(d.coefficient - (d.coefficient / 10 ^ dropped * 10 ^ dropped : ℕ) : ℚ)| ≤ _
    rw [← Nat.cast_sub (by omega), Nat.abs_cast]
    exact_mod_cast (by omega : 2 * (d.coefficient - d.coefficient / 10 ^ dropped * 10 ^ dropped) ≤
      10 ^ dropped)
  · refine ⟨d.above dropped, mem_neighbours_iff.2 (.inr rfl), rfl, ?_⟩
    have habove : (d.coefficient / 10 ^ dropped + 1) * 10 ^ dropped =
        d.coefficient / 10 ^ dropped * 10 ^ dropped + 10 ^ dropped := by
      ring
    show 2 * |(d.coefficient - ((d.coefficient / 10 ^ dropped + 1) * 10 ^ dropped : ℕ) : ℚ)| ≤ _
    rw [habove, abs_sub_comm, ← Nat.cast_sub (by omega), Nat.abs_cast]
    exact_mod_cast (by omega : 2 * (d.coefficient / 10 ^ dropped * 10 ^ dropped + 10 ^ dropped -
      d.coefficient) ≤ 10 ^ dropped)

/-- The nearer neighbour on the grid of seventeen digits reads back: it is less than half of ten to
the minus sixteenth of the number away, and floats are farther apart. -/
theorem exists_readsBack_seventeen (hfinite : v.isFinite = true) (hpos : 0 < magnitude v)
    (hlong : 17 < (ofFloat v).digits.length) :
    ∃ e ∈ (ofFloat v).neighbours ((ofFloat v).digits.length - 17), e.ReadsBack v := by
  have hcoefficient : 0 < (ofFloat v).coefficient := by
    rwa [← value_pos_iff, value_ofFloat]
  have hlarge : 10 ^ 16 * 10 ^ ((ofFloat v).digits.length - 17) ≤ (ofFloat v).coefficient := by
    have hexponent : 16 + ((ofFloat v).digits.length - 17) = (ofFloat v).digits.length - 1 := by
      omega
    rw [← pow_add, hexponent]
    exact le_coefficient hcoefficient
  obtain ⟨e, hmem, hexponent, hnearer⟩ :=
    (ofFloat v).exists_nearer ((ofFloat v).digits.length - 17)
  refine ⟨e, hmem, (readsBack_iff hfinite hpos).2 ?_⟩
  rw [value, hexponent, grid_eq]
  refine nearest_of_close hfinite ?_
  generalize (ofFloat v).digits.length - 17 = dropped at hlarge hnearer
  have hunit : (0 : ℚ) < (10 ^ dropped : ℕ) := by positivity
  have hcast : (10 ^ 16 : ℚ) * (10 ^ dropped : ℕ) ≤ (ofFloat v).coefficient := by
    exact_mod_cast hlarge
  linarith

/-! ## The search -/

private theorem of_mem_candidates {count : ℕ} (hcount : count ≤ d.digits.length)
    (hmem : e ∈ d.candidates count) :
    e.exponent = d.exponent + (d.digits.length - count : ℕ) ∧ e.coefficient ≤ 10 ^ count := by
  have hlt := d.coefficient_lt
  unfold candidates at hmem
  split_ifs at hmem with hall
  · obtain rfl := List.mem_singleton.1 hmem
    obtain rfl := le_antisymm hcount hall
    rw [Nat.sub_self, Nat.cast_zero, add_zero]
    exact ⟨rfl, hlt.le⟩
  · have hquotient : d.coefficient / 10 ^ (d.digits.length - count) < 10 ^ count := by
      rw [Nat.div_lt_iff_lt_mul (Nat.pow_pos (by norm_num)), ← pow_add, Nat.add_sub_cancel' hcount]
      exact hlt
    rcases mem_neighbours_iff.1 hmem with rfl | rfl
    · exact ⟨rfl, hquotient.le⟩
    · exact ⟨rfl, hquotient⟩

/-- Whether a decimal is what the search for the shortest one of a float finds: it reads back, it
lies on the grid of so many digits, and no number on the next coarser grid reads back. -/
structure Found (v : Float) (count : ℕ) (e : Decimal) : Prop where
  pos : 1 ≤ count
  reads : nearest e.value = magnitude v
  exponent : e.exponent = (ofFloat v).exponent + ((ofFloat v).digits.length - count : ℕ)
  coefficient : e.coefficient ≤ 10 ^ count
  coarser : 1 < count → ∀ n : ℕ, nearest (n * 10 ^ (e.exponent + 1)) ≠ magnitude v

/-- A search through ascending numbers finds something for the first that there is something for. -/
theorem first_of_findSome?_range' {α : Type} {f : ℕ → Option α} {start length : ℕ} {found : α}
    (h : (List.range' start length).findSome? f = some found) :
    ∃ first, start ≤ first ∧ f first = some found ∧
      ∀ earlier, start ≤ earlier → earlier < first → f earlier = none := by
  obtain ⟨before, first, after, hrange, hfirst, hbefore⟩ := List.findSome?_eq_some_iff.1 h
  have hmem : ∀ n, n ∈ before ++ first :: after ↔ start ≤ n ∧ n < start + length := by
    intro n
    rw [← hrange, List.mem_range'_1]
  have hsorted : (before ++ first :: after).Pairwise (· < ·) := by
    rw [← hrange]
    exact List.pairwise_lt_range'
  have hbounds := (hmem first).1 (List.mem_append_right _ List.mem_cons_self)
  refine ⟨first, hbounds.1, hfirst, fun earlier hstart hlt => hbefore earlier ?_⟩
  rcases List.mem_append.1 ((hmem earlier).2 ⟨hstart, by omega⟩) with hfront | hrest
  · exact hfront
  · have hlater := (List.pairwise_append.1 hsorted).2.1
    rcases List.mem_cons.1 hrest with rfl | hbehind
    · exact absurd hlt (lt_irrefl _)
    · exact absurd hlt (List.rel_of_pairwise_cons hlater hbehind).not_gt

/-- Seventeen digits are enough. -/
theorem exists_candidate_seventeen (hfinite : v.isFinite = true) (hpos : 0 < magnitude v) :
    ∃ e ∈ (ofFloat v).candidates 17, e.ReadsBack v := by
  by_cases hlong : (ofFloat v).digits.length ≤ 17
  · rw [candidates, if_pos hlong]
    exact ⟨_, List.mem_cons_self, readsBack_ofFloat hfinite⟩
  · rw [candidates, if_neg hlong]
    exact exists_readsBack_seventeen hfinite hpos (not_le.1 hlong)

/-- The search succeeds, at the latest with seventeen digits, and tries coarser grids first. -/
theorem exists_first (hfinite : v.isFinite = true) (hpos : 0 < magnitude v) :
    ∃ count e, 1 ≤ count ∧ e ∈ (ofFloat v).candidates count ∧ e.ReadsBack v ∧
      (∀ fewer, 1 ≤ fewer → fewer < count → ∀ other ∈ (ofFloat v).candidates fewer,
        ¬ other.ReadsBack v) ∧ (shortest v).value = e.value := by
  have hfails : ∀ {count : ℕ},
      ((ofFloat v).candidates count).find? (fun d => decide (d.ReadsBack v)) = none →
        ∀ other ∈ (ofFloat v).candidates count, ¬ other.ReadsBack v := by
    intro count hnone other hother
    simpa using List.find?_eq_none.1 hnone other hother
  unfold shortest
  simp only [value_withoutTrailingZeros]
  cases hfound : (List.range' 1 17).findSome? fun count =>
      ((ofFloat v).candidates count).find? fun d => decide (d.ReadsBack v) with
  | none =>
      obtain ⟨e, hmem, hreads⟩ := exists_candidate_seventeen hfinite hpos
      exact absurd hreads (hfails (List.findSome?_eq_none_iff.1 hfound 17 (by decide)) e hmem)
  | some e =>
      obtain ⟨count, hone, hcandidate, hfewer⟩ := first_of_findSome?_range' hfound
      exact ⟨count, e, hone, List.mem_of_find?_eq_some hcandidate,
        by simpa using List.find?_some hcandidate,
        fun fewer hpositive hlt => hfails (hfewer fewer hpositive hlt), rfl⟩

/-- The shortest decimal of a float stands for a number that has been found. -/
theorem exists_found (hfinite : v.isFinite = true) (hpos : 0 < magnitude v) :
    ∃ count e, Found v count e ∧ (shortest v).value = e.value := by
  obtain ⟨count, e, hone, hmem, hreads, hfewer, hvalue⟩ := exists_first hfinite hpos
  have hcount : count ≤ (ofFloat v).digits.length := by
    by_contra hlonger
    -- all digits would have been tried before
    have hall : ofFloat v ∈ (ofFloat v).candidates (ofFloat v).digits.length := by
      rw [candidates, if_pos le_rfl]
      exact List.mem_cons_self
    exact hfewer _ (ofFloat v).length_digits_pos (not_le.1 hlonger) _ hall
      (readsBack_ofFloat hfinite)
  obtain ⟨hexponent, hcoefficient⟩ := of_mem_candidates hcount hmem
  refine ⟨count, e,
    ⟨hone, (readsBack_iff hfinite hpos).1 hreads, hexponent, hcoefficient, ?_⟩, hvalue⟩
  intro hseveral n hgrid
  have hnext : e.exponent + 1 =
      (ofFloat v).exponent + ((ofFloat v).digits.length - (count - 1) : ℕ) := by
    omega
  rw [hnext] at hgrid
  obtain ⟨other, hother, hothers⟩ := exists_readsBack_of_grid hfinite hpos hgrid
  refine hfewer (count - 1) (by omega) (by omega) other ?_ hothers
  rwa [candidates, if_neg (by omega)]

end DeskCalculator.Decimal
