import DeskCalculator.Proofs.Settings.WellFormed

/-!
# Settings after changes

Changes are put over the fields of the old settings, and settings are made of what
comes out.  If no field is changed twice, each new setting is what the change of its
field asks for, or the old one where its field is not changed
(`customTheme_updated`, `precision_updated`).  The theme is the one whose validity
hangs on another field: it is as asked for, or as it was, provided that the custom
theme keeps a palette (`name_theme_updated`, `theme_updated`).

A palette that is asked for has been checked before.  What the check lets through are
the colours that were given, as far as they are those of style variables
(`Palette.ofFields_toFields_eq_ok_iff`).
-/

namespace DeskCalculator

namespace Json.Fields

/-- A field that has been changed has its new value, every other field the old one. -/
theorem get?_update {changes : Fields} (hnames : (changes.map Prod.fst).Nodup) (fields : Fields)
    (key : String) :
    (fields.update changes).get? key = (changes.get? key).or (fields.get? key) := by
  induction changes generalizing fields with
  | nil => rfl
  | cons change rest ih =>
      obtain ⟨name, value⟩ := change
      rw [List.map_cons, List.nodup_cons] at hnames
      have hfirst : fields.update ((name, value) :: rest) =
          (fields.set name value).update rest := rfl
      rw [hfirst, ih hnames.2, get?_set, get?_cons]
      by_cases hkey : key = name
      · -- the field is not changed again
        have hrest : Fields.get? rest key = none := by
          refine List.lookup_eq_none_iff.2 fun field hfield => ?_
          rw [bne_iff_ne, hkey]
          rintro rfl
          exact hnames.1 (List.mem_map.2 ⟨field, hfield, rfl⟩)
        rw [hrest, if_pos hkey, if_pos hkey]
        rfl
      · rw [if_neg hkey, if_neg hkey]

end Json.Fields

/-! ## Colours that are given -/

namespace Palette

/-- The colours that are given to style variables. -/
def restricted (colours : List (String × String)) : Palette :=
  styleNames.filterMap fun name => (colours.lookup name).map (name, ·)

/-- Whether every style variable is given a colour. -/
def Complete (colours : List (String × String)) : Prop :=
  ∀ name ∈ styleNames, ∃ colour, colours.lookup name = some colour ∧
    isColour colour.toList = true

theorem get?_toFields_eq (colours : List (String × String)) (name : String) :
    (toFields colours).get? name = (colours.lookup name).map .text := by
  induction colours with
  | nil => rfl
  | cons entry rest ih =>
      obtain ⟨key, colour⟩ := entry
      show Json.Fields.get? ((key, .text colour) :: toFields rest) name = _
      rw [Json.Fields.get?_cons, ih, List.lookup_cons]
      by_cases hname : name = key
      · rw [if_pos hname, beq_iff_eq.2 hname]
        rfl
      · rw [if_neg hname, beq_false_of_ne hname]

theorem colour?_toFields (colours : List (String × String)) (name : String) :
    colour? (toFields colours) name = (colours.lookup name).filter (isColour ·.toList) := by
  rw [colour?, get?_toFields_eq]
  cases colours.lookup name with
  | none => rfl
  | some colour => rfl

private theorem isSome_colour?_iff {colours : List (String × String)} {name : String} :
    (colour? (toFields colours) name).isSome = true ↔
      ∃ colour, colours.lookup name = some colour ∧ isColour colour.toList = true := by
  rw [colour?_toFields]
  cases colours.lookup name <;> simp

/-- Colours are accepted if every style variable is given one, and nothing but these is kept. -/
theorem ofFields_toFields_eq_ok_iff {colours : List (String × String)} {palette : Palette} :
    ofFields (toFields colours) = .ok palette ↔
      Complete colours ∧ palette = restricted colours := by
  have habsent : Complete colours →
      (styleNames.filter fun name => ((toFields colours).get? name).isNone) = [] := by
    intro hcomplete
    rw [List.filter_eq_nil_iff]
    intro name hname
    obtain ⟨colour, hcolour, -⟩ := hcomplete name hname
    rw [get?_toFields_eq, hcolour]
    exact Bool.false_ne_true
  have hwrong : (styleNames.filter fun name => (colour? (toFields colours) name).isNone) = [] ↔
      Complete colours := by
    rw [List.filter_eq_nil_iff]
    refine forall₂_congr fun name _ => ?_
    rw [← isSome_colour?_iff, ← Option.not_isSome, Bool.not_eq_true', Bool.not_eq_false]
  have hkept : Complete colours →
      (styleNames.filterMap fun name => (colour? (toFields colours) name).map (name, ·)) =
        restricted colours := by
    intro hcomplete
    refine List.filterMap_congr fun name hname => ?_
    obtain ⟨colour, hlookup, hcolour⟩ := hcomplete name hname
    have hgiven : colour? (toFields colours) name = some colour := by
      simp [colour?_toFields, hlookup, hcolour]
    rw [hgiven, hlookup]
  unfold ofFields
  simp only
  by_cases hcomplete : Complete colours
  · rw [habsent hcomplete, hwrong.2 hcomplete, hkept hcomplete]
    simp [hcomplete, eq_comm]
  · rw [if_pos (mt hwrong.1 hcomplete)]
    split_ifs <;> simp [hcomplete]

/-- Colours that are accepted make a palette. -/
theorem Complete.wellFormed_restricted {colours : List (String × String)}
    (h : Complete colours) : (restricted colours).WellFormed := by
  have hread : ofJson (.object (toFields colours)) = .ok (restricted colours) :=
    ofFields_toFields_eq_ok_iff.2 ⟨h, rfl⟩
  exact wellFormed_ofJson hread

end Palette

/-! ## Changed settings -/

namespace Settings

variable {settings : Settings} {changes : Json.Fields}

theorem customTheme_updated (h : settings.WellFormed) (hnames : (changes.map Prod.fst).Nodup) :
    (settings.updated changes).customTheme =
      match changes.get? "custom_theme" with
      | some value => (Palette.ofJson value).toOption
      | none => settings.customTheme := by
  show customOf (settings.toFields.update changes) = _
  rw [customOf, Json.Fields.get?_update hnames]
  cases changes.get? "custom_theme" with
  | some value => rfl
  | none => exact congrArg customTheme h.ofFields_toFields

theorem precision_updated (h : settings.WellFormed) (hnames : (changes.map Prod.fst).Nodup) :
    (settings.updated changes).precision =
      match changes.get? "rounding_precision" with
      | some value => Precision.ofJson value
      | none => settings.precision := by
  show precisionOf (settings.toFields.update changes) = _
  rw [precisionOf, Json.Fields.get?_update hnames]
  cases changes.get? "rounding_precision" with
  | some value => rfl
  | none => exact congrArg precision h.ofFields_toFields

/-- A theme that is not changed stays, as long as there is a palette if there was one. -/
theorem theme_updated (h : settings.WellFormed) (hnames : (changes.map Prod.fst).Nodup)
    (htheme : changes.get? "theme" = none)
    (hcustom : settings.customTheme ≠ none → (settings.updated changes).customTheme ≠ none) :
    (settings.updated changes).theme = settings.theme := by
  show themeOf (settings.toFields.update changes) (settings.updated changes).customTheme.isSome = _
  rw [themeOf, Json.Fields.get?_update hnames, htheme, Option.none_or]
  cases hold : settings.theme with
  | light => simp [toFields, Json.Fields.get?, hold, Theme.name]
  | dark => simp [toFields, Json.Fields.get?, hold, Theme.name]
  | custom =>
      have hsome := Option.isSome_iff_ne_none.2 (hcustom (h.custom hold))
      simp [toFields, Json.Fields.get?, hold, Theme.name, hsome]

/-- A theme that is asked for is chosen, the custom one if there is a palette for it. -/
theorem name_theme_updated {name : String} (hnames : (changes.map Prod.fst).Nodup)
    (htheme : changes.get? "theme" = some (.text name)) (hname : name ∈ ["light", "dark", "custom"])
    (hcustom : name = "custom" → (settings.updated changes).customTheme ≠ none) :
    (settings.updated changes).theme.name = name := by
  show (themeOf (settings.toFields.update changes)
    (settings.updated changes).customTheme.isSome).name = _
  rw [themeOf, Json.Fields.get?_update hnames, htheme, Option.some_or]
  fin_cases hname
  · rfl
  · rfl
  · have hsome := Option.isSome_iff_ne_none.2 (hcustom rfl)
    simp [hsome, Theme.name]

end Settings

end DeskCalculator
