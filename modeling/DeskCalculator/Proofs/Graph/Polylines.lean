import DeskCalculator.Proofs.Expr.Faults

/-!
# The polylines of a curve

The polylines of a curve are its maximal runs of columns with a finite value: in order
they list exactly these columns, each once, with their points; none is empty or has a
gap; and between two of them a column is left out (`polylines_are_runs`).  This holds on
every canvas whose sides have halves that are floats and whose columns the platform lists.

## Strategy

`firstRun` looks only at which items are present (`forall₂_firstRun`), so the columns can
be put in place of their points.  For columns, the run in front and the runs behind it
satisfy an invariant (`Split`) that one more column keeps, whether it is taken or left
out; the induction is on the number of columns.  A sample never breaks down, since an
evaluation does not (`sample_eq`).
-/

namespace DeskCalculator.Graph

/-! ## Runs of items -/

theorem firstRun_none {α : Type} (rest : List (Option α)) :
    firstRun (none :: rest) = ([], runs rest) := rfl

section Related

variable {α β : Type} {R : α → β → Prop}

/-- Where the same items are present, the runs are the same. -/
theorem forall₂_firstRun {items : List (Option α)} {others : List (Option β)}
    (h : List.Forall₂ (Option.Rel R) items others) :
    List.Forall₂ R (firstRun items).1 (firstRun others).1 ∧
      List.Forall₂ (List.Forall₂ R) (firstRun items).2 (firstRun others).2 := by
  induction h with
  | nil => exact ⟨.nil, .nil⟩
  | @cons item other rest more hitem hrest ih =>
      obtain ⟨hrun, hbehind⟩ := ih
      cases hitem with
      | some hrelated => exact ⟨.cons hrelated hrun, hbehind⟩
      | none =>
          refine ⟨.nil, ?_⟩
          simp only [firstRun_none, runs]
          have hempty : (firstRun rest).1.isEmpty = (firstRun more).1.isEmpty := by
            rw [Bool.eq_iff_iff, List.isEmpty_iff_length_eq_zero, List.isEmpty_iff_length_eq_zero,
              hrun.length_eq]
          rw [hempty]
          split
          · exact hbehind
          · exact .cons hrun hbehind

private theorem forall₂_runs {items : List (Option α)} {others : List (Option β)}
    (h : List.Forall₂ (Option.Rel R) items others) :
    List.Forall₂ (List.Forall₂ R) (runs items) (runs others) :=
  (forall₂_firstRun (.cons (.none) h)).2

end Related

/-! ## Runs of columns -/

/-- Whether a column that is left out stands between two runs. -/
def Apart (P : Nat → Bool) (first second : List Nat) : Prop :=
  ∃ c, P c = false ∧ (∀ a ∈ first, a < c) ∧ ∀ b ∈ second, c < b

/-- The columns, each present if `P` holds of it. -/
def present (P : Nat → Bool) (columns : List Nat) : List (Option Nat) :=
  columns.map fun c => if P c then some c else none

/-- Whether these are the runs of the columns with `P` among the `count` ones from `start`. -/
structure Separated (P : Nat → Bool) (start count : Nat) (columns : List (List Nat)) : Prop where
  kept : columns.flatten = (List.range' start count).filter P
  ne_nil : ∀ run ∈ columns, run ≠ []
  consecutive : ∀ run ∈ columns, run.IsChain fun a b => b = a + 1
  apart : columns.IsChain (Apart P)

/-- Whether `run` is the run that begins at `start`, perhaps empty, and these are the others. -/
structure Split (P : Nat → Bool) (start count : Nat) (run : List Nat) (others : List (List Nat)) :
    Prop where
  kept : run ++ others.flatten = (List.range' start count).filter P
  ne_nil : ∀ other ∈ others, other ≠ []
  head : ∀ a ∈ run.head?, a = start
  consecutive_run : run.IsChain fun a b => b = a + 1
  consecutive : ∀ other ∈ others, other.IsChain fun a b => b = a + 1
  apart_run : ∀ second ∈ others.head?,
    ∃ c, start ≤ c ∧ P c = false ∧ (∀ a ∈ run, a < c) ∧ ∀ b ∈ second, c < b
  apart : others.IsChain (Apart P)

variable {P : Nat → Bool} {start count : Nat} {run : List Nat} {others : List (List Nat)}

theorem Split.separated (h : Split P start count run others) :
    Separated P start count (if run.isEmpty then others else run :: others) := by
  split
  · next hempty =>
      have hkept := h.kept
      rw [List.isEmpty_iff.1 hempty, List.nil_append] at hkept
      exact ⟨hkept, h.ne_nil, h.consecutive, h.apart⟩
  · next hempty =>
      refine ⟨h.kept, ?_, ?_, ?_⟩
      · exact List.forall_mem_cons.2 ⟨by simpa using hempty, h.ne_nil⟩
      · exact List.forall_mem_cons.2 ⟨h.consecutive_run, h.consecutive⟩
      · refine List.isChain_cons.2 ⟨fun second hsecond => ?_, h.apart⟩
        obtain ⟨c, -, hdropped, hbefore, hbehind⟩ := h.apart_run second hsecond
        exact ⟨c, hdropped, hbefore, hbehind⟩

/-- A column that is taken continues the run behind it. -/
theorem Split.take (h : Split P (start + 1) count run others) (hstart : P start = true) :
    Split P start (count + 1) (start :: run) others := by
  refine ⟨?_, h.ne_nil, ?_, ?_, h.consecutive, ?_, h.apart⟩
  · rw [List.range'_succ, List.filter_cons_of_pos hstart, ← h.kept, List.cons_append]
  · rintro a ⟨⟩
    rfl
  · exact List.isChain_cons.2 ⟨h.head, h.consecutive_run⟩
  · intro second hsecond
    obtain ⟨c, hle, hdropped, hbefore, hbehind⟩ := h.apart_run second hsecond
    exact ⟨c, by omega, hdropped, List.forall_mem_cons.2 ⟨by omega, hbefore⟩, hbehind⟩

/-- A column that is left out stands in front of every run. -/
theorem Separated.leaveOut {columns : List (List Nat)}
    (h : Separated P (start + 1) count columns) (hstart : P start = false) :
    Split P start (count + 1) [] columns := by
  refine ⟨?_, h.ne_nil, nofun, .nil, h.consecutive, ?_, h.apart⟩
  · have hnot : ¬ P start = true := by
      rw [hstart]
      exact Bool.false_ne_true
    rw [List.range'_succ, List.filter_cons_of_neg hnot, ← h.kept, List.nil_append]
  · intro second hsecond
    refine ⟨start, Nat.le_refl _, hstart, nofun, fun b hb => ?_⟩
    have hmem : b ∈ columns.flatten :=
      List.mem_flatten.2 ⟨second, List.mem_of_mem_head? hsecond, hb⟩
    rw [h.kept] at hmem
    have hrange := List.mem_range'_1.1 (List.mem_of_mem_filter hmem)
    omega

private theorem split_firstRun (P : Nat → Bool) (count start : Nat) :
    Split P start count (firstRun (present P (List.range' start count))).1
      (firstRun (present P (List.range' start count))).2 := by
  induction count generalizing start with
  | zero => exact ⟨rfl, nofun, nofun, .nil, nofun, nofun, .nil⟩
  | succ count ih =>
      rw [List.range'_succ, present, List.map_cons, ← present]
      cases hstart : P start with
      | true => exact (ih (start + 1)).take hstart
      | false => exact (ih (start + 1)).separated.leaveOut hstart

/-- The runs of columns are those with `P`, each run without a gap, and apart. -/
theorem separated_runs (P : Nat → Bool) (count : Nat) :
    Separated P 0 count (runs (present P (List.range' 0 count))) :=
  (split_firstRun P count 0).separated

/-! ## Polylines -/

/-- Whether a canvas is small enough: the halves of its sides are floats, and the platform lists its
columns. -/
structure Canvas.Fits [Platform] (canvas : Canvas) : Prop where
  width : (half canvas.width).isFinite = true
  height : (half canvas.height).isFinite = true
  columns : ∃ listed, Platform.columns canvas.width = .ok listed

/-- Whether a curve has this value in a column, and the value is finite. -/
def Canvas.Finite (canvas : Canvas) (tree : Expr) (column : Nat) (y : Float) : Prop :=
  tree.evaluate [("x", canvas.abscissa (Float.ofNat column))] = .ok y ∧ y.isFinite = true

/-- Whether a point is that of a curve in a column. -/
def Canvas.Shows (canvas : Canvas) (tree : Expr) (column : Nat) (point : Point) : Prop :=
  ∃ y, canvas.Finite tree column y ∧
    point = ⟨Float.ofNat column, half canvas.height - y * canvas.scale⟩

/-- Whether polylines are the maximal runs of a curve on a canvas, with the columns that belong to
their points. -/
structure AreRuns (canvas : Canvas) (tree : Expr) (columns : List (List Nat))
    (lines : List (List Point)) : Prop where
  points : List.Forall₂ (List.Forall₂ (canvas.Shows tree)) columns lines
  mem_iff : ∀ c, c ∈ columns.flatten ↔ (c : Int) < canvas.width ∧ ∃ y, canvas.Finite tree c y
  ascending : columns.flatten.Pairwise (· < ·)
  ne_nil : ∀ run ∈ columns, run ≠ []
  consecutive : ∀ run ∈ columns, run.IsChain fun a b => b = a + 1
  apart : columns.IsChain fun first second =>
    ∃ c, (∀ y, ¬ canvas.Finite tree c y) ∧ (∀ a ∈ first, a < c) ∧ ∀ b ∈ second, c < b

/-- The point of a curve in a column, if it is drawn there. -/
def Canvas.point? (canvas : Canvas) (tree : Expr) (column : Nat) : Option Point :=
  (canvas.sample tree (Float.ofNat column)).toOption.join

/-- No sample breaks down. -/
theorem Canvas.sample_eq (canvas : Canvas) (tree : Expr) (column : Nat) :
    canvas.sample tree (Float.ofNat column) = .ok (canvas.point? tree column) := by
  unfold Canvas.point?
  cases hsample : canvas.sample tree (Float.ofNat column) with
  | ok point => rfl
  | error breakdown =>
      unfold Canvas.sample at hsample
      split at hsample
      · cases hsample
      · cases hsample
      · next hvalue =>
          obtain ⟨fault, hfault⟩ := Expr.faultsOnly_evaluate _ tree _ hvalue
          cases hfault

theorem Canvas.mapM_sample (canvas : Canvas) (tree : Expr) (columns : List Nat) :
    (columns.map Float.ofNat).mapM (canvas.sample tree) =
      .ok (columns.map (canvas.point? tree)) := by
  have hsample : canvas.sample tree ∘ Float.ofNat = fun column => .ok (canvas.point? tree column) :=
    funext (canvas.sample_eq tree)
  rw [List.mapM_map, hsample]
  exact List.mapM_pure

theorem Canvas.point?_eq_some_iff {canvas : Canvas} {tree : Expr} {column : Nat} {point : Point} :
    canvas.point? tree column = some point ↔ canvas.Shows tree column point := by
  unfold Canvas.point? Canvas.sample Canvas.Shows Canvas.Finite
  cases tree.evaluate [("x", canvas.abscissa (Float.ofNat column))] with
  | error failure => cases failure <;> exact ⟨nofun, fun ⟨_, ⟨h, _⟩, _⟩ => by cases h⟩
  | ok y =>
      dsimp only
      split
      · next hfinite =>
          constructor
          · intro h
            exact ⟨y, ⟨rfl, hfinite⟩, (Option.some.inj h).symm⟩
          · rintro ⟨_, ⟨⟨⟩, -⟩, rfl⟩
            rfl
      · next hinfinite =>
          refine ⟨nofun, ?_⟩
          rintro ⟨_, ⟨⟨⟩, hfinite⟩, -⟩
          exact absurd hfinite hinfinite

/-- Whether a curve is drawn in a column. -/
def Canvas.draws (canvas : Canvas) (tree : Expr) (column : Nat) : Bool :=
  (canvas.point? tree column).isSome

theorem Canvas.draws_iff {canvas : Canvas} {tree : Expr} {column : Nat} :
    canvas.draws tree column = true ↔ ∃ y, canvas.Finite tree column y := by
  rw [Canvas.draws, Option.isSome_iff_exists]
  constructor
  · rintro ⟨point, h⟩
    obtain ⟨y, hfinite, -⟩ := Canvas.point?_eq_some_iff.1 h
    exact ⟨y, hfinite⟩
  · rintro ⟨y, hfinite⟩
    exact ⟨_, Canvas.point?_eq_some_iff.2 ⟨y, hfinite, rfl⟩⟩

/-- The samples are present in the columns in which the curve is drawn. -/
theorem Canvas.forall₂_point? (canvas : Canvas) (tree : Expr) (columns : List Nat) :
    List.Forall₂ (Option.Rel (canvas.Shows tree)) (present (canvas.draws tree) columns)
      (columns.map (canvas.point? tree)) := by
  induction columns with
  | nil => exact .nil
  | cons c rest ih =>
      refine .cons ?_ ih
      dsimp only
      split
      · next hdrawn =>
          obtain ⟨point, hsample⟩ := Option.isSome_iff_exists.1 hdrawn
          rw [hsample]
          exact .some (Canvas.point?_eq_some_iff.1 hsample)
      · next hdropped =>
          rw [Option.not_isSome_iff_eq_none.1 hdropped]
          exact .none

/-- The runs of a curve's samples are its maximal runs. -/
theorem Canvas.areRuns (canvas : Canvas) (tree : Expr) :
    ∃ columns, AreRuns canvas tree columns
      (runs ((List.range canvas.width.toNat).map (canvas.point? tree))) := by
  have hruns := separated_runs (canvas.draws tree) canvas.width.toNat
  rw [List.range_eq_range']
  refine ⟨_, forall₂_runs (canvas.forall₂_point? tree _), ?_, ?_, hruns.ne_nil,
    hruns.consecutive, hruns.apart.imp ?_⟩
  · intro c
    rw [hruns.kept, List.mem_filter, List.mem_range'_1, Canvas.draws_iff]
    simp only [Nat.zero_le, true_and, Nat.zero_add, Int.lt_toNat]
  · rw [hruns.kept]
    exact List.Pairwise.filter _ List.pairwise_lt_range'
  · rintro first second ⟨c, hdropped, hbefore, hbehind⟩
    refine ⟨c, fun y hfinite => ?_, hbefore, hbehind⟩
    rw [Canvas.draws_iff.2 ⟨y, hfinite⟩] at hdropped
    cases hdropped

section Platform

variable [Platform] {expression : List Char} {canvas : Canvas} {tree : Expr}

/-- The columns of a canvas are listed if it is small enough. -/
theorem Canvas.columns_of_fits (h : canvas.Fits) :
    canvas.columns = .ok ((List.range canvas.width.toNat).map Float.ofNat) := by
  obtain ⟨listed, hlisted⟩ := h.columns
  rw [Canvas.columns, h.width, h.height, hlisted, Platform.columns_eq hlisted]
  rfl

theorem Canvas.fits_of_columns {listed : List Float} (h : canvas.columns = .ok listed) :
    canvas.Fits := by
  unfold Canvas.columns at h
  split at h
  · cases h
  · next hside =>
      rw [Bool.or_eq_true, not_or, Bool.not_eq_true', Bool.not_eq_true', Bool.not_eq_false,
        Bool.not_eq_false] at hside
      exact ⟨hside.1, hside.2, listed, Expr.mapError_eq_ok h⟩

theorem polylines_of_hasCurve (hcurve : HasCurve expression tree) (hfits : canvas.Fits) :
    polylines expression canvas =
      .ok (runs ((List.range canvas.width.toNat).map (canvas.point? tree))) := by
  rw [polylines, curve?_eq_some_iff.2 hcurve, Canvas.columns_of_fits hfits]
  show (((_ : List Float).mapM (canvas.sample tree)).mapError _).bind _ = _
  rw [Canvas.mapM_sample]
  rfl

theorem polylines_of_not_fits (hcurve : HasCurve expression tree) (hlarge : ¬ canvas.Fits) :
    ∃ fault, polylines expression canvas = .error fault := by
  rw [polylines, curve?_eq_some_iff.2 hcurve]
  cases hcolumns : canvas.columns with
  | ok listed => exact absurd (Canvas.fits_of_columns hcolumns) hlarge
  | error fault => exact ⟨fault, rfl⟩

theorem polylines_of_curve?_eq_none (hcurve : curve? expression = .ok none) :
    polylines expression canvas = .ok [] := by
  rw [polylines, hcurve]
  rfl

/-- On a canvas that is small enough, the polylines of an expression with a curve are the maximal
runs of the columns with a finite value; any other canvas is refused.  An expression without a curve
has no polylines. -/
theorem polylines_are_runs (expression : List Char) (canvas : Canvas) :
    (∀ tree, HasCurve expression tree → canvas.Fits →
      ∃ columns lines, polylines expression canvas = .ok lines ∧
        AreRuns canvas tree columns lines) ∧
    (∀ tree, HasCurve expression tree → ¬ canvas.Fits →
      ∃ fault, polylines expression canvas = .error fault) ∧
    ((∀ tree, ¬ HasCurve expression tree) → polylines expression canvas = .ok []) := by
  refine ⟨?_, fun tree => polylines_of_not_fits, ?_⟩
  · intro tree hcurve hfits
    obtain ⟨columns, hruns⟩ := canvas.areRuns tree
    exact ⟨columns, _, polylines_of_hasCurve hcurve hfits, hruns⟩
  · intro hnone
    obtain ⟨found, hcurve⟩ := exists_curve? expression
    cases found with
    | none => exact polylines_of_curve?_eq_none hcurve
    | some tree => exact absurd (curve?_eq_some_iff.1 hcurve) (hnone tree)

end Platform

/-- The variable itself has a curve on a canvas of two columns, which a canvas of immense height
cannot show. -/
theorem polylines_are_runs_variable :
    HasCurve ['x'] (.name "x") ∧ (⟨2, 2, 1.0⟩ : Canvas).Fits ∧
      (∃ columns lines, polylines ['x'] ⟨2, 2, 1.0⟩ = .ok lines ∧
        AreRuns ⟨2, 2, 1.0⟩ (.name "x") columns lines) ∧
      (∃ fault, polylines ['x'] ⟨2, 10 ^ 400, 1.0⟩ = .error fault) ∧
      (∀ tree, ¬ HasCurve [] tree) ∧ polylines [] ⟨2, 2, 1.0⟩ = .ok [] := by
  have hfits : (⟨2, 2, 1.0⟩ : Canvas).Fits :=
    ⟨by decide +kernel, by decide +kernel, [0, 1], by decide +kernel⟩
  have hlarge : ¬ (⟨2, 10 ^ 400, 1.0⟩ : Canvas).Fits := fun h =>
    absurd h.height (by decide +kernel)
  have hnone : ∀ tree, ¬ HasCurve [] tree := fun tree h => h.not_blank rfl
  exact ⟨hasCurve_variable, hfits, (polylines_are_runs _ _).1 _ hasCurve_variable hfits,
    (polylines_are_runs _ _).2.1 _ hasCurve_variable hlarge, hnone,
    (polylines_are_runs _ _).2.2 hnone⟩

/-- Neither of the first two canvases has a column.  But one is refused because its height is too
large for a float, and the other because its width is too large for a number of columns, even though
it is negative.  And there is no room for so many columns as the third one has. -/
theorem polylines_refused_on_immense_canvas :
    HasCurve ['x'] (.name "x") ∧
      polylines ['x'] ⟨0, 10 ^ 400, 20.0⟩ = .error .sideTooLong ∧
      polylines ['x'] ⟨-10 ^ 20, 0, 20.0⟩ =
        .error (.columnsRefused "Maximum allowed size exceeded") ∧
      polylines ['x'] ⟨2 ^ 60, 0, 20.0⟩ =
        .error (.columnsRefused "Maximum allowed size exceeded") ∧
      ¬ ∃ columns lines, polylines ['x'] ⟨0, 10 ^ 400, 20.0⟩ = .ok lines ∧
        AreRuns ⟨0, 10 ^ 400, 20.0⟩ (.name "x") columns lines := by
  have hrefused : ∀ {canvas : Canvas} {fault : CanvasFault}, canvas.columns = .error fault →
      polylines ['x'] canvas = .error fault := by
    intro canvas fault hcolumns
    rw [polylines, curve?_eq_some_iff.2 hasCurve_variable, hcolumns]
    rfl
  have hheight : polylines ['x'] ⟨0, 10 ^ 400, 20.0⟩ = .error .sideTooLong :=
    hrefused (by decide +kernel)
  refine ⟨hasCurve_variable, hheight, hrefused (by decide +kernel), hrefused (by decide +kernel),
    ?_⟩
  rintro ⟨columns, lines, hlines, -⟩
  rw [hheight] at hlines
  cases hlines

end DeskCalculator.Graph
