import DeskCalculator.Proofs.Float.Range
import DeskCalculator.Proofs.Graph.Polylines

/-!
# Points at finite pixels

A column is drawn if the curve has a finite value there.  The point is found by scaling the
value and subtracting it from the middle, and either step may leave the range of floats.
So a point has finite coordinates exactly if its value is `Drawable`
(`points_finite_iff_drawable`).  Ordinary values are (`drawable_of_le`), but a value close to the
largest float is drawn at an infinite pixel (`large_value_at_infinite_pixel`).
-/

namespace DeskCalculator.Graph

open Binary

/-- Whether a value has a finite pixel on a canvas: neither its distance from the axis nor that from
the upper edge, in pixels, is too large for a float. -/
structure Canvas.Drawable (canvas : Canvas) (y : Float) : Prop where
  axis : |value y * value canvas.scale| < overflow
  edge : |value (half canvas.height) - value (y * canvas.scale)| < overflow

theorem Canvas.isFinite_pixel_iff {canvas : Canvas} {y : Float}
    (hheight : (half canvas.height).isFinite = true) (hscale : canvas.scale.isFinite = true)
    (hy : y.isFinite = true) :
    (half canvas.height - y * canvas.scale).isFinite = true ↔ canvas.Drawable y := by
  have hproduct := isFinite_mul hy hscale
  cases hfinite : (y * canvas.scale).isFinite with
  | true =>
      rw [isFinite_sub hheight hfinite]
      exact ⟨fun hedge => ⟨hproduct.1 hfinite, hedge⟩, Drawable.edge⟩
  | false =>
      rw [isFinite_sub_of_not_isFinite hheight hfinite]
      refine iff_of_false Bool.false_ne_true fun hdrawable => ?_
      rw [hproduct.2 hdrawable.axis] at hfinite
      cases hfinite

/-- A value at most `2 ^ 1022` pixels away from the axis is drawable on every canvas that is not
more than twice as high. -/
theorem Canvas.drawable_of_le {canvas : Canvas} {y : Float}
    (hscale : canvas.scale.isFinite = true) (hy : y.isFinite = true)
    (haxis : |value y * value canvas.scale| ≤ 2 ^ (1022 : ℤ))
    (hheight : magnitude (half canvas.height) ≤ 2 ^ (1022 : ℤ)) : canvas.Drawable y := by
  have hbound : (2 : ℚ) ^ (1022 : ℤ) + 2 ^ (1022 : ℤ) < overflow := by
    have hpower : (2 : ℚ) ^ (1022 : ℤ) = 2 ^ 52 * 2 ^ (970 : ℤ) := by
      rw [← zpow_natCast, ← zpow_add₀ (by norm_num)]
      rfl
    rw [overflow, hpower, ← add_mul]
    exact mul_lt_mul_of_pos_right (by norm_num) (by positivity)
  have hpos : (0 : ℚ) < 2 ^ (1022 : ℤ) := by positivity
  have hlt : |value y * value canvas.scale| < overflow :=
    (haxis.trans (le_add_of_nonneg_right hpos.le)).trans_lt hbound
  refine ⟨hlt, ?_⟩
  have hbinary : IsBinary (2 ^ (1022 : ℤ)) := ⟨1, 1022, by norm_num, by norm_num, by norm_num⟩
  have hproduct : magnitude (y * canvas.scale) ≤ 2 ^ (1022 : ℤ) := by
    rw [magnitude_mul hy hscale hlt]
    rcases (abs_nonneg (value y * value canvas.scale)).eq_or_lt with hzero | hpositive
    · rw [← hzero, nearest_zero]
      exact hpos.le
    · exact hbinary.nearest_le hpositive haxis
  calc |value (half canvas.height) - value (y * canvas.scale)| ≤
        |value (half canvas.height)| + |value (y * canvas.scale)| := abs_sub _ _
    _ = magnitude (half canvas.height) + magnitude (y * canvas.scale) := by
        rw [abs_value, abs_value]
    _ ≤ 2 ^ (1022 : ℤ) + 2 ^ (1022 : ℤ) := add_le_add hheight hproduct
    _ < overflow := hbound

/-- Every column that is listed is a finite float. -/
theorem Canvas.Fits.isFinite_ofNat [Platform] {canvas : Canvas} (h : canvas.Fits) {column : ℕ}
    (hcolumn : (column : ℤ) < canvas.width) : (Float.ofNat column).isFinite = true := by
  obtain ⟨listed, hlisted⟩ := h.columns
  have hwidth := Platform.width_lt hlisted
  exact Binary.isFinite_ofNat (natCast_lt_overflow (by omega))

/-- What stands in the second of two related lists is related to something in the first. -/
theorem exists_mem_of_forall₂ {α β : Type} {R : α → β → Prop} {items : List α} {others : List β}
    (h : List.Forall₂ R items others) {other : β} (hother : other ∈ others) :
    ∃ item ∈ items, R item other := by
  induction h with
  | nil => cases hother
  | cons hrelated _ ih =>
      rcases List.mem_cons.1 hother with rfl | hmem
      · exact ⟨_, List.mem_cons_self, hrelated⟩
      · obtain ⟨item, hitem, hfound⟩ := ih hmem
        exact ⟨item, List.mem_cons_of_mem _ hitem, hfound⟩

/-- The points of runs are those of columns on the canvas. -/
theorem AreRuns.shows {canvas : Canvas} {tree : Expr} {columns : List (List ℕ)}
    {lines : List (List Point)} (h : AreRuns canvas tree columns lines) {line : List Point}
    (hline : line ∈ lines) {point : Point} (hpoint : point ∈ line) :
    ∃ column : ℕ, (column : ℤ) < canvas.width ∧ canvas.Shows tree column point := by
  obtain ⟨run, hrun, hshown⟩ := exists_mem_of_forall₂ h.points hline
  obtain ⟨column, hcolumn, hshows⟩ := exists_mem_of_forall₂ hshown hpoint
  have hmem : column ∈ columns.flatten := List.mem_flatten.2 ⟨run, hrun, hcolumn⟩
  exact ⟨column, ((h.mem_iff column).1 hmem).1, hshows⟩

section Platform

variable [Platform]

/-- Polylines with a point are those of a curve, on a canvas that is small enough. -/
theorem exists_areRuns {expression : List Char} {canvas : Canvas} {lines : List (List Point)}
    (h : polylines expression canvas = .ok lines) {line : List Point} (hline : line ∈ lines) :
    ∃ tree columns, HasCurve expression tree ∧ canvas.Fits ∧ AreRuns canvas tree columns lines := by
  obtain ⟨found, hcurve⟩ := exists_curve? expression
  cases found with
  | none =>
      rw [polylines_of_curve?_eq_none hcurve] at h
      cases h
      cases hline
  | some tree =>
      have hhas := curve?_eq_some_iff.1 hcurve
      by_cases hfits : canvas.Fits
      · obtain ⟨columns, hruns⟩ := canvas.areRuns tree
        rw [polylines_of_hasCurve hhas hfits] at h
        cases h
        exact ⟨tree, columns, hhas, hfits, hruns⟩
      · obtain ⟨fault, hrefused⟩ := polylines_of_not_fits hhas hfits
        rw [hrefused] at h
        cases h

/-- Every point of the polylines belongs to a column with a finite value.  Its first coordinate is
finite, and its second one is if the value is drawable. -/
theorem points_finite_iff_drawable {expression : List Char} {canvas : Canvas}
    {lines : List (List Point)} (hscale : canvas.scale.isFinite = true)
    (hlines : polylines expression canvas = .ok lines) :
    ∀ line ∈ lines, ∀ point ∈ line, ∃ tree y, ∃ column : ℕ, HasCurve expression tree ∧
      (column : ℤ) < canvas.width ∧ canvas.Finite tree column y ∧
      point = ⟨Float.ofNat column, half canvas.height - y * canvas.scale⟩ ∧
      point.x.isFinite = true ∧ (point.y.isFinite = true ↔ canvas.Drawable y) := by
  intro line hline point hpoint
  obtain ⟨tree, columns, hcurve, hfits, hruns⟩ := exists_areRuns hlines hline
  obtain ⟨column, hwidth, y, hfinite, rfl⟩ := hruns.shows hline hpoint
  refine ⟨tree, y, column, hcurve, hwidth, hfinite, rfl, hfits.isFinite_ofNat hwidth, ?_⟩
  exact Canvas.isFinite_pixel_iff hfits.height hscale hfinite.2

/-- Whether polylines have a point of some kind can be evaluated. -/
theorem exists_point {expression : List Char} {canvas : Canvas} {kind : Point → Bool}
    (h : (polylines expression canvas).toOption.any (·.any (·.any kind)) = true) :
    ∃ lines, polylines expression canvas = .ok lines ∧
      ∃ line ∈ lines, ∃ point ∈ line, kind point = true := by
  cases hlines : polylines expression canvas with
  | error fault =>
      rw [hlines] at h
      cases h
  | ok lines =>
      rw [hlines] at h
      change lines.any _ = true at h
      simp only [List.any_eq_true] at h
      exact ⟨lines, rfl, h⟩

end Platform

/-- The variable has one point on a canvas of one column. -/
theorem points_finite_iff_drawable_variable :
    (1.0 : Float).isFinite = true ∧ ∃ lines, polylines "x".toList ⟨1, 1, 1.0⟩ = .ok lines ∧
      ∃ line ∈ lines, ∃ point ∈ line, ∃ tree y, ∃ column : ℕ, HasCurve "x".toList tree ∧
        (column : ℤ) < 1 ∧ (⟨1, 1, 1.0⟩ : Canvas).Finite tree column y ∧
        point = ⟨Float.ofNat column, half 1 - y * 1.0⟩ ∧ point.x.isFinite = true ∧
        (point.y.isFinite = true ↔ (⟨1, 1, 1.0⟩ : Canvas).Drawable y) := by
  have hscale : (1.0 : Float).isFinite = true := by decide +kernel
  obtain ⟨lines, hlines, line, hline, point, hpoint, -⟩ :=
    @exists_point _ "x".toList ⟨1, 1, 1.0⟩ (fun _ => true) (by decide +kernel)
  have hshown :=
    @points_finite_iff_drawable _ "x".toList ⟨1, 1, 1.0⟩ lines hscale hlines line hline point hpoint
  exact ⟨hscale, lines, hlines, line, hline, point, hpoint, hshown⟩

/-- A value close to the largest float is finite, but its distance from the axis in pixels is not:
the sample does not end the polyline, and its point has an infinite coordinate. -/
theorem large_value_at_infinite_pixel :
    (0 : Float) < 20.0 ∧ (20.0 : Float).isFinite = true ∧
      ∃ lines, polylines "1e308".toList ⟨1, 1, 20.0⟩ = .ok lines ∧
        ∃ line ∈ lines, ∃ point ∈ line, point.y.isFinite = false := by
  obtain ⟨lines, hlines, line, hline, point, hpoint, hinfinite⟩ :=
    @exists_point _ "1e308".toList ⟨1, 1, 20.0⟩ (fun point => !point.y.isFinite)
      (by decide +kernel)
  rw [Bool.not_eq_true'] at hinfinite
  exact ⟨by decide +kernel, by decide +kernel, lines, hlines, line, hline, point, hpoint, hinfinite⟩

end DeskCalculator.Graph
