import DeskCalculator.Proofs.Json.Writable
import DeskCalculator.Settings.Basic

/-!
# Settings that make sense

Whatever is stored, the settings made of it are well-formed (`wellFormed_ofJson`):
the custom theme comes with a palette, a palette has every style variable and only
colours, and a precision is one that a setting may ask for.  Well-formed settings are
what they were when they are stored and taken from there again (`ofJson_toJson`), and
they give every style variable a colour (`exists_colour`).
-/

namespace DeskCalculator

open Text

/-! ## Palettes -/

namespace Palette

variable {palette : Palette}

/-- Whether a palette gives a colour to each of the style variables, in order. -/
structure WellFormed (palette : Palette) : Prop where
  names : palette.map Prod.fst = styleNames
  colours : ∀ entry ∈ palette, isColour entry.2.toList = true

theorem nodup_styleNames : styleNames.Nodup := by decide

theorem colour?_eq_some {fields : Json.Fields} {name colour : String}
    (h : colour? fields name = some colour) : isColour colour.toList = true := by
  unfold colour? at h
  split at h
  · split_ifs at h with hcolour
    cases h
    exact hcolour
  · cases h

/-- A palette that has been accepted is well-formed. -/
theorem wellFormed_ofJson {value : Json} (h : ofJson value = .ok palette) : palette.WellFormed := by
  unfold ofJson at h
  split at h
  · next fields =>
      unfold ofFields at h
      simp only at h
      split_ifs at h with habsent hwrong
      cases h
      -- no style variable is without a colour, so none is passed over
      rw [not_not, List.filter_eq_nil_iff] at hwrong
      have hsome : ∀ name ∈ styleNames, ∃ colour, colour? fields name = some colour := by
        intro name hname
        have hpresent := hwrong name hname
        rwa [Option.isNone_iff_eq_none, ← ne_eq, Option.ne_none_iff_exists'] at hpresent
      constructor
      · rw [List.map_filterMap]
        calc styleNames.filterMap _ = styleNames.filterMap some := by
              refine List.filterMap_congr fun name hname => ?_
              obtain ⟨colour, hcolour⟩ := hsome name hname
              rw [hcolour]
              rfl
          _ = styleNames := List.filterMap_some
      · intro entry hentry
        obtain ⟨name, -, hcolour⟩ := List.mem_filterMap.1 hentry
        obtain ⟨colour, hfound, rfl⟩ := Option.map_eq_some_iff.1 hcolour
        exact colour?_eq_some hfound
  · cases h

/-- The field of a style variable is its colour. -/
theorem get?_toFields {entry : String × String} (hnodup : (palette.map Prod.fst).Nodup)
    (hentry : entry ∈ palette) : palette.toFields.get? entry.1 = some (.text entry.2) := by
  induction palette with
  | nil => cases hentry
  | cons first rest ih =>
      obtain ⟨name, colour⟩ := first
      rw [List.map_cons, List.nodup_cons] at hnodup
      show Json.Fields.get? ((name, .text colour) :: toFields rest) entry.1 = _
      rw [Json.Fields.get?_cons]
      rcases List.mem_cons.1 hentry with rfl | hrest
      · rw [if_pos rfl]
      · have hname : entry.1 ≠ name := by
          rintro rfl
          exact hnodup.1 (List.mem_map.2 ⟨entry, hrest, rfl⟩)
        rw [if_neg hname, ih hnodup.2 hrest]

/-- A well-formed palette is accepted again, as it is. -/
theorem WellFormed.ofJson_toFields (h : palette.WellFormed) :
    ofJson (.object palette.toFields) = .ok palette := by
  have hnodup : (palette.map Prod.fst).Nodup := h.names ▸ nodup_styleNames
  have hcolour : ∀ entry ∈ palette, colour? palette.toFields entry.1 = some entry.2 := by
    intro entry hentry
    simp only [colour?, get?_toFields hnodup hentry, h.colours entry hentry, if_true]
  have hpresent : ∀ name ∈ styleNames, ∃ colour, colour? palette.toFields name = some colour := by
    intro name hname
    rw [← h.names] at hname
    obtain ⟨entry, hentry, rfl⟩ := List.mem_map.1 hname
    exact ⟨entry.2, hcolour entry hentry⟩
  -- neither check has anything to object to
  have habsent : (styleNames.filter fun name => (palette.toFields.get? name).isNone) = [] := by
    rw [List.filter_eq_nil_iff]
    intro name hname
    rw [← h.names] at hname
    obtain ⟨entry, hentry, rfl⟩ := List.mem_map.1 hname
    rw [get?_toFields hnodup hentry]
    exact Bool.false_ne_true
  have hwrong : (styleNames.filter fun name => (colour? palette.toFields name).isNone) = [] := by
    rw [List.filter_eq_nil_iff]
    intro name hname
    obtain ⟨colour, hfound⟩ := hpresent name hname
    rw [hfound]
    exact Bool.false_ne_true
  have hentries : (styleNames.filterMap fun name =>
      (colour? palette.toFields name).map (name, ·)) = palette := by
    rw [← h.names, List.filterMap_map]
    calc palette.filterMap _ = palette.filterMap some := by
          refine List.filterMap_congr fun entry hentry => ?_
          rw [Function.comp_apply, hcolour entry hentry]
          rfl
      _ = palette := List.filterMap_some
  rw [ofJson, ofFields, habsent, hwrong]
  simp only [ne_eq, not_true_eq_false, if_false, hentries]

theorem toNat_lt_of_isHexadecimal {c : Char} (h : isHexadecimal c = true) : c.toNat < 128 := by
  have hbound : ∀ d : Char, c ≤ d → d.toNat < 128 → c.toNat < 128 := fun d hle hd =>
    (UInt32.le_iff_toNat_le.1 (Char.le_def.1 hle)).trans_lt hd
  unfold isHexadecimal Text.hexadecimalValue? at h
  split_ifs at h with hdigit hsmall hcapital
  · exact hbound '9' hdigit.2 (by decide)
  · exact hbound 'f' hsmall.2 (by decide)
  · exact hbound 'F' hcapital.2 (by decide)
  · cases h

/-- Colours are written within ASCII. -/
theorem isEncodable_of_isColour [Platform] {text : List Char} (h : isColour text = true) :
    isEncodable text = true := by
  refine isEncodable_of_ascii fun c hmem => ?_
  unfold isColour at h
  split at h
  · next rest =>
      simp only [Bool.and_eq_true, beq_iff_eq, Bool.or_eq_true, List.all_eq_true] at h
      obtain ⟨⟨-, hdigits⟩, htail⟩ := h
      rcases List.mem_cons.1 hmem with rfl | hmem
      · decide
      -- six digits, behind which there may be a line feed
      rw [← List.take_append_drop 6 rest] at hmem
      rcases List.mem_append.1 hmem with hmem | hmem
      · exact toNat_lt_of_isHexadecimal (hdigits c hmem)
      · rcases htail with htail | htail
        · rw [htail] at hmem
          cases hmem
        · rw [htail, List.mem_singleton] at hmem
          subst hmem
          decide
  · cases h

theorem map_fst_toFields (colours : List (String × String)) :
    (toFields colours).map Prod.fst = colours.map Prod.fst := by
  rw [toFields, List.map_map]
  rfl

theorem toFields_fit (h : palette.WellFormed) (room : ℕ) : Json.FieldsFit room palette.toFields where
  names := by
    rw [map_fst_toFields, h.names]
    exact nodup_styleNames
  values field hfield := by
    obtain ⟨entry, -, rfl⟩ := List.mem_map.1 hfield
    exact .text _

theorem isWritable_toFields [Platform] (h : palette.WellFormed) :
    (Json.object palette.toFields).isWritable = true := by
  have hnames : ∀ name ∈ styleNames, name.toList.all (·.toNat < 128) = true := by decide
  rw [Json.isWritable_object, List.all_eq_true]
  intro field hfield
  obtain ⟨entry, hentry, rfl⟩ := List.mem_map.1 hfield
  have hname : entry.1 ∈ styleNames := h.names ▸ List.mem_map_of_mem hentry
  rw [Json.isWritable_text, isEncodable_of_isColour (h.colours entry hentry), Bool.and_true]
  exact isEncodable_of_all (hnames _ hname)

theorem wellFormed_light : light.WellFormed := ⟨by decide, by decide⟩

theorem wellFormed_dark : dark.WellFormed := ⟨by decide, by decide⟩

end Palette

/-! ## Precisions -/

namespace Precision

/-- Whether a setting may ask for this precision. -/
def WellFormed (precision : Precision) : Prop :=
  ∀ places, precision = some places → 0 ≤ places ∧ places ≤ maximum

private theorem wellFormed_ofInt (places : ℤ) : (ofInt places).WellFormed := by
  intro asked h
  unfold ofInt at h
  split_ifs at h with hrange
  cases h
  exact hrange

/-- A precision that a stored value asks for is one that a setting may ask for. -/
theorem wellFormed_ofJson (value : Json) : (ofJson value).WellFormed := by
  unfold ofJson
  split
  · exact wellFormed_ofInt _
  · unfold ofText
    split
    · exact wellFormed_ofInt _
    · exact nofun
  · exact nofun

/-- How the precisions are stored that a setting may ask for. -/
def settings : List String := ["None", "0", "1", "2", "3", "4", "5", "6", "7", "8"]

/-- The precisions that a setting may ask for. -/
def choices : List Precision := none :: (List.range 9).map fun places => some (Int.ofNat places)

theorem WellFormed.mem_choices {precision : Precision} (h : precision.WellFormed) :
    precision ∈ choices := by
  cases precision with
  | none => exact List.mem_cons_self
  | some places =>
      obtain ⟨hlow, hhigh⟩ := h places rfl
      have hhigh : places ≤ 8 := hhigh
      refine List.mem_cons_of_mem _ (List.mem_map.2 ⟨places.toNat, ?_, ?_⟩)
      · rw [List.mem_range]
        omega
      · rw [Int.ofNat_eq_natCast, Int.toNat_of_nonneg hlow]

theorem WellFormed.toSetting_mem {precision : Precision} (h : precision.WellFormed) :
    precision.toSetting ∈ settings := by
  have hall : ∀ precision ∈ choices, toSetting precision ∈ settings := by decide
  exact hall precision h.mem_choices

/-- A precision is read back from the text that is stored for it. -/
theorem WellFormed.ofText_toSetting {precision : Precision} (h : precision.WellFormed) :
    ofText precision.toSetting = precision := by
  have hall : ∀ precision ∈ choices, ofText (toSetting precision) = precision := by decide
  exact hall precision h.mem_choices

end Precision

/-! ## Settings -/

namespace Settings

variable {settings : Settings}

/-- Whether settings make sense. -/
structure WellFormed (settings : Settings) : Prop where
  custom : settings.theme = .custom → settings.customTheme ≠ none
  palette : ∀ palette, settings.customTheme = some palette → palette.WellFormed
  precision : settings.precision.WellFormed

theorem wellFormed_ofFields (fields : Json.Fields) : (ofFields fields).WellFormed where
  custom h := by
    change themeOf fields (customOf fields).isSome = .custom at h
    show customOf fields ≠ none
    unfold themeOf at h
    split at h
    · cases h
    · split_ifs at h with hcustom
      exact Option.isSome_iff_ne_none.1 hcustom
    · cases h
  palette palette h := by
    change customOf fields = some palette at h
    unfold customOf at h
    split at h
    · next value _ =>
        cases hvalue : Palette.ofJson value with
        | error fault =>
            rw [hvalue] at h
            cases h
        | ok found =>
            rw [hvalue] at h
            cases h
            exact Palette.wellFormed_ofJson hvalue
    · cases h
  precision := Precision.wellFormed_ofJson _

theorem wellFormed_default : ({} : Settings).WellFormed := ⟨nofun, nofun, nofun⟩

/-- Whatever a stored value is, the settings made of it make sense. -/
theorem wellFormed_ofJson (stored : Json) : (ofJson stored).WellFormed := by
  unfold ofJson
  split
  · exact wellFormed_ofFields _
  · exact wellFormed_default

theorem wellFormed_updated (settings : Settings) (changes : Json.Fields) :
    (settings.updated changes).WellFormed :=
  wellFormed_ofFields _

/-- The fields that stand for well-formed settings give these settings. -/
theorem WellFormed.ofFields_toFields (h : settings.WellFormed) :
    ofFields settings.toFields = settings := by
  obtain ⟨theme, customTheme, precision⟩ := settings
  have hcustom : customOf (toFields ⟨theme, customTheme, precision⟩) = customTheme := by
    cases customTheme with
    | none => rfl
    | some palette =>
        show (Palette.ofJson (.object palette.toFields)).toOption = _
        rw [(h.palette palette rfl).ofJson_toFields]
        rfl
  have htheme : themeOf (toFields ⟨theme, customTheme, precision⟩) customTheme.isSome = theme := by
    cases theme with
    | light => rfl
    | dark => rfl
    | custom =>
        have hsome : customTheme.isSome = true := Option.isSome_iff_ne_none.2 (h.custom rfl)
        show (if customTheme.isSome then Theme.custom else .dark) = _
        rw [if_pos hsome]
  have hprecision : precisionOf (toFields ⟨theme, customTheme, precision⟩) = precision :=
    h.precision.ofText_toSetting
  rw [ofFields, hcustom, htheme, hprecision]

theorem WellFormed.ofJson_toJson (h : settings.WellFormed) : ofJson settings.toJson = settings :=
  h.ofFields_toFields

/-- No change leaves well-formed settings as they are. -/
theorem WellFormed.updated_nil (h : settings.WellFormed) : settings.updated [] = settings :=
  h.ofFields_toFields

/-- Stored settings fit wherever three objects can be nested. -/
theorem WellFormed.fits_toJson (h : settings.WellFormed) (room : ℕ) :
    Json.Fits (room + 2) settings.toJson := by
  have hnames : ["theme", "custom_theme", "rounding_precision"].Nodup := by decide
  refine .object hnames fun field hfield => ?_
  simp only [toFields, List.mem_cons, List.not_mem_nil, or_false] at hfield
  rcases hfield with rfl | rfl | rfl
  · exact .text _
  · cases hcustom : settings.customTheme with
    | none => exact .null
    | some palette =>
        have hfields := Palette.toFields_fit (h.palette palette hcustom) room
        exact .object hfields.names hfields.values
  · exact .text _

/-- Well-formed settings can be written. -/
theorem WellFormed.isWritable_toJson [Platform] (h : settings.WellFormed) :
    settings.toJson.isWritable = true := by
  have htheme : isEncodable settings.theme.name.toList = true := by
    cases settings.theme <;> exact isEncodable_of_all (by decide)
  have hprecision : isEncodable settings.precision.toSetting.toList = true := by
    have hall : ∀ text ∈ Precision.settings, text.toList.all (·.toNat < 128) = true := by decide
    exact isEncodable_of_all (hall _ h.precision.toSetting_mem)
  have hnames : ∀ name ∈ ["theme", "custom_theme", "rounding_precision"],
      isEncodable name.toList = true := by
    simp only [List.forall_mem_cons]
    exact ⟨isEncodable_of_all (by decide), isEncodable_of_all (by decide),
      isEncodable_of_all (by decide), nofun⟩
  have hcustom : (settings.customTheme.elim Json.null fun palette =>
      .object palette.toFields).isWritable = true := by
    cases hcustom : settings.customTheme with
    | none => exact Json.isWritable_null
    | some palette => exact Palette.isWritable_toFields (h.palette palette hcustom)
  rw [toJson, Json.isWritable_object]
  simp only [toFields, List.all_cons, List.all_nil, Bool.and_true, Json.isWritable_text, htheme,
    hprecision, hcustom, hnames, List.mem_cons, true_or, or_true]

/-- Well-formed settings give a colour to each style variable. -/
theorem WellFormed.exists_colour (h : settings.WellFormed) {name : String}
    (hname : name ∈ Palette.styleNames) :
    ∃ colour, settings.palette.get? name = some (.text colour) ∧
      Palette.isColour colour.toList = true := by
  -- one of the two palettes that are always there, or the user's own
  have hshown : ∃ palette : Palette, palette.WellFormed ∧ settings.palette = palette.toFields := by
    unfold Settings.palette
    cases htheme : settings.theme with
    | light => exact ⟨_, Palette.wellFormed_light, by cases settings.customTheme <;> rfl⟩
    | dark => exact ⟨_, Palette.wellFormed_dark, by cases settings.customTheme <;> rfl⟩
    | custom =>
        obtain ⟨palette, hcustom⟩ := Option.ne_none_iff_exists'.1 (h.custom htheme)
        have hpalette := h.palette palette hcustom
        refine ⟨palette, hpalette, ?_⟩
        rw [hcustom]
        cases palette with
        | nil => exact absurd hpalette.names (by decide)
        | cons first rest => rfl
  obtain ⟨palette, hpalette, hfields⟩ := hshown
  rw [← hpalette.names] at hname
  obtain ⟨entry, hentry, rfl⟩ := List.mem_map.1 hname
  refine ⟨entry.2, ?_, hpalette.colours entry hentry⟩
  rw [hfields, Palette.get?_toFields (hpalette.names ▸ Palette.nodup_styleNames) hentry]

end Settings

end DeskCalculator
