import DeskCalculator.Proofs.Settings.Updated

/-!
# The form of stored settings

Settings are stored as an object with three fields of a certain form (`Settings.InForm`).
Whatever is found in their place is brought to that form, and what has it already is left
as it is, except that fields are put in order (`stored_settings_form`).  So the objects of
that form are exactly those that come out.

Two values that differ in the order of fields alone are related by `Json.Same`.
-/

namespace DeskCalculator

namespace Json

/-- Whether two values are the same, except perhaps for the order of fields. -/
inductive Same : Json → Json → Prop
  | refl (value : Json) : Same value value
  | object {first second : Fields}
      (names : ∀ key, first.get? key = none ↔ second.get? key = none)
      (values : ∀ key value other, first.get? key = some value → second.get? key = some other →
        Same value other) : Same (.object first) (.object second)

theorem Fields.get?_eq_none_iff {fields : Fields} {key : String} :
    fields.get? key = none ↔ key ∉ fields.map Prod.fst := by
  rw [Fields.get?, List.lookup_eq_none_iff, List.mem_map, not_exists]
  refine forall_congr' fun field => ?_
  rw [not_and, bne_iff_ne, ne_comm]

/-- Fields of the same names are absent in the same places. -/
theorem Fields.get?_eq_none_congr {first second : Fields}
    (hnames : (first.map Prod.fst).Perm (second.map Prod.fst)) (key : String) :
    first.get? key = none ↔ second.get? key = none := by
  rw [get?_eq_none_iff, get?_eq_none_iff, hnames.mem_iff]

end Json

/-! ## Palettes in any order -/

namespace Palette

variable {colours : List (String × String)} {palette : Palette}

/-- Whether each style variable is given one colour, in whatever order. -/
structure Exact (colours : List (String × String)) : Prop where
  names : (colours.map Prod.fst).Perm styleNames
  colours : ∀ entry ∈ colours, isColour entry.2.toList = true

theorem WellFormed.exact (h : palette.WellFormed) : Exact palette := ⟨.of_eq h.names, h.colours⟩

theorem Exact.complete (h : Exact colours) : Complete colours := by
  intro name hname
  obtain ⟨entry, hentry, rfl⟩ := List.mem_map.1 (h.names.mem_iff.2 hname)
  have hfield := get?_toFields (h.names.nodup_iff.2 nodup_styleNames) hentry
  rw [get?_toFields_eq, Option.map_eq_some_iff] at hfield
  obtain ⟨colour, hlookup, hcolour⟩ := hfield
  cases hcolour
  exact ⟨entry.2, hlookup, h.colours entry hentry⟩

/-- It is accepted, and its entries are put in order. -/
theorem Exact.ofJson_toFields (h : Exact colours) :
    ofJson (.object (toFields colours)) = .ok (restricted colours) :=
  ofFields_toFields_eq_ok_iff.2 ⟨h.complete, rfl⟩

private theorem lookup_of_lookup_restricted {name colour : String}
    (h : (restricted colours).lookup name = some colour) : colours.lookup name = some colour := by
  obtain ⟨before, after, hsplit, -⟩ := List.lookup_eq_some_iff.1 h
  have hentry : (name, colour) ∈ restricted colours := by
    rw [hsplit]
    exact List.mem_append_right _ List.mem_cons_self
  obtain ⟨found, -, hfound⟩ := List.mem_filterMap.1 hentry
  obtain ⟨given, hgiven, heq⟩ := Option.map_eq_some_iff.1 hfound
  cases heq
  exact hgiven

theorem Exact.same_restricted (h : Exact colours) :
    Json.Same (.object (toFields (restricted colours))) (.object (toFields colours)) := by
  have hordered := h.complete.wellFormed_restricted.names
  refine .object (Json.Fields.get?_eq_none_congr ?_) fun key value other hvalue hother => ?_
  · rw [map_fst_toFields, map_fst_toFields, hordered]
    exact h.names.symm
  · rw [get?_toFields_eq, Option.map_eq_some_iff] at hvalue
    obtain ⟨colour, hcolour, rfl⟩ := hvalue
    rw [get?_toFields_eq, lookup_of_lookup_restricted hcolour] at hother
    cases hother
    exact .refl _

end Palette

/-! ## Settings in any order -/

namespace Settings

variable {settings : Settings} {fields : Json.Fields}

/-- The names of the settings. -/
def fieldNames : List String := ["theme", "custom_theme", "rounding_precision"]

/-- Whether the fields of an object are those of settings that make sense, in whatever order. -/
structure InForm (fields : Json.Fields) : Prop where
  names : (fields.map Prod.fst).Perm fieldNames
  theme : ∃ name ∈ ["light", "dark", "custom"], fields.get? "theme" = some (.text name)
  palette : fields.get? "custom_theme" = some .null ∨ ∃ colours, Palette.Exact colours ∧
    fields.get? "custom_theme" = some (.object (Palette.toFields colours))
  custom : fields.get? "theme" = some (.text "custom") → fields.get? "custom_theme" ≠ some .null
  precision : ∃ text ∈ Precision.settings, fields.get? "rounding_precision" = some (.text text)

theorem get?_toFields_custom (settings : Settings) : settings.toFields.get? "custom_theme" =
    some (settings.customTheme.elim .null fun palette => .object palette.toFields) := rfl

/-- Well-formed settings are stored in that form. -/
theorem WellFormed.inForm (h : settings.WellFormed) : InForm settings.toFields where
  names := .refl _
  theme := ⟨settings.theme.name, by cases settings.theme <;> decide, rfl⟩
  palette := by
    rw [get?_toFields_custom]
    cases hcustom : settings.customTheme with
    | none => exact .inl rfl
    | some palette => exact .inr ⟨palette, (h.palette palette hcustom).exact, rfl⟩
  custom htheme := by
    have hname : settings.theme.name = "custom" := Json.text.inj (Option.some.inj htheme)
    have hcustom : settings.theme = .custom := by
      revert hname
      cases settings.theme <;> decide
    obtain ⟨palette, hpalette⟩ := Option.ne_none_iff_exists'.1 (h.custom hcustom)
    rw [get?_toFields_custom, hpalette]
    exact nofun
  precision := ⟨_, h.precision.toSetting_mem, rfl⟩

/-! ## What is made of such an object -/

/-- The palette is taken over, in order. -/
theorem InForm.same_custom (h : InForm fields) : ∃ value,
    fields.get? "custom_theme" = some value ∧
      Json.Same ((customOf fields).elim .null fun palette => .object palette.toFields) value := by
  rcases h.palette with hnone | ⟨colours, hexact, hcolours⟩
  · have hcustom : customOf fields = none := by
      rw [customOf, hnone]
      rfl
    rw [hcustom]
    exact ⟨_, hnone, .refl _⟩
  · have hcustom : customOf fields = some (Palette.restricted colours) := by
      simp only [customOf, hcolours, hexact.ofJson_toFields]
      rfl
    rw [hcustom]
    exact ⟨_, hcolours, hexact.same_restricted⟩

/-- The theme stays, as the custom one comes with a palette. -/
theorem InForm.name_theme (h : InForm fields) :
    fields.get? "theme" = some (.text (ofFields fields).theme.name) := by
  obtain ⟨name, hname, htheme⟩ := h.theme
  show fields.get? "theme" = some (.text (themeOf fields (customOf fields).isSome).name)
  rw [themeOf, htheme]
  fin_cases hname
  · rfl
  · rfl
  · obtain ⟨value, hvalue, hsame⟩ := h.same_custom
    cases hcustom : customOf fields with
    | none =>
        rw [hcustom] at hsame
        cases hsame
        exact absurd hvalue (h.custom htheme)
    | some palette => rfl

/-- A precision is stored as the text that it is read from. -/
theorem InForm.precision_eq (h : InForm fields) :
    fields.get? "rounding_precision" = some (.text (ofFields fields).precision.toSetting) := by
  obtain ⟨text, htext, hprecision⟩ := h.precision
  have hall : ∀ text ∈ Precision.settings, (Precision.ofText text).toSetting = text := by decide
  show _ = some (Json.text (precisionOf fields).toSetting)
  rw [precisionOf, hprecision]
  exact congrArg (some ∘ Json.text) (hall text htext).symm

/-- An object of that form is left as it is, but for the order of its fields. -/
theorem InForm.same_toJson (h : InForm fields) :
    Json.Same (ofJson (.object fields)).toJson (.object fields) := by
  refine .object (Json.Fields.get?_eq_none_congr h.names.symm) fun key value other hvalue hother => ?_
  have hkey : key ∈ fieldNames := by
    by_contra hnot
    rw [Json.Fields.get?_eq_none_iff.2 (mt h.names.mem_iff.1 hnot)] at hother
    cases hother
  change (ofFields fields).toFields.get? key = some value at hvalue
  simp only [fieldNames, List.mem_cons, List.not_mem_nil, or_false] at hkey
  rcases hkey with rfl | rfl | rfl
  · rw [h.name_theme] at hother
    cases hvalue
    cases hother
    exact .refl _
  · obtain ⟨stored, hstored, hsame⟩ := h.same_custom
    rw [hstored] at hother
    rw [get?_toFields_custom] at hvalue
    cases hvalue
    cases hother
    exact hsame
  · rw [h.precision_eq] at hother
    cases hvalue
    cases hother
    exact .refl _

/-- Whatever is stored, the settings made of it are stored in the form of settings.  An object of
that form gives the same object again, but for the order of its fields, and what has come out once
comes out again exactly. -/
theorem stored_settings_form :
    (∀ stored, ∃ fields, (ofJson stored).toJson = .object fields ∧ InForm fields) ∧
    (∀ fields, InForm fields → Json.Same (ofJson (.object fields)).toJson (.object fields)) ∧
    ∀ stored, (ofJson (ofJson stored).toJson).toJson = (ofJson stored).toJson :=
  ⟨fun stored => ⟨_, rfl, (wellFormed_ofJson stored).inForm⟩, fun _ => InForm.same_toJson,
    fun stored => congrArg toJson (wellFormed_ofJson stored).ofJson_toJson⟩

/-- Settings whose fields, and the colours of whose palette, are in the opposite order. -/
def reversedFields : Json.Fields :=
  [("rounding_precision", .text "3"),
    ("custom_theme", .object (Palette.toFields Palette.dark.reverse)),
    ("theme", .text "custom")]

theorem stored_settings_form_reversed :
    InForm reversedFields ∧
      Json.Same (ofJson (.object reversedFields)).toJson (.object reversedFields) := by
  have hdark := Palette.wellFormed_dark.exact
  have hexact : Palette.Exact Palette.dark.reverse := by
    refine ⟨?_, fun entry hentry => hdark.colours entry (List.mem_reverse.1 hentry)⟩
    rw [List.map_reverse]
    exact (List.reverse_perm _).trans hdark.names
  have hform : InForm reversedFields :=
    { names := List.reverse_perm fieldNames
      theme := ⟨"custom", by decide, rfl⟩
      palette := .inr ⟨_, hexact, rfl⟩
      custom := fun _ => nofun
      precision := ⟨"3", by decide, rfl⟩ }
  exact ⟨hform, stored_settings_form.2.1 _ hform⟩

end Settings

end DeskCalculator
