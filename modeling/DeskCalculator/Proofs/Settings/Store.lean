import DeskCalculator.Proofs.Settings.WellFormed
import DeskCalculator.Settings.Store

/-!
# The settings file is read as it was written

Settings that have been saved are the ones that are read afterwards, and the fields
of others are what they were (`save_reads_back`).  What can go wrong is writing: the
fields of others are written again with the settings, so saving fails if one of them
cannot be encoded, and the file then ends before it.

Reading goes wrong for some files as well, though not for every file that makes no
sense; settings that are read do make sense (`settings_wellFormed`).
-/

namespace DeskCalculator.Store

open Text

/-! ## The settings among other fields -/

theorem settingsOf_set {fields : Json.Fields} {settings : Settings} (h : settings.WellFormed) :
    settingsOf (fields.set "settings" settings.toJson) = settings := by
  rw [settingsOf, Json.Fields.get?_set, if_pos rfl, Option.getD_some, h.ofJson_toJson]

theorem settingsOf_defaultFields : settingsOf defaultFields = {} :=
  Settings.wellFormed_default.ofJson_toJson

section

variable [Platform] {store : Store} {fields : Json.Fields}

/-! ## Loading and writing -/

/-- How many lists and objects can be open inside the stored object. -/
def room : ℕ := Platform.nesting .settings - 1

theorem nesting_eq : Platform.nesting .settings = room + 1 := by
  have hnesting := Platform.three_le_nesting
  rw [room]
  omega

/-- There is room for settings. -/
theorem fits_settings {settings : Settings} (h : settings.WellFormed) :
    Json.Fits room settings.toJson := by
  have hroom : room = room - 2 + 2 := by
    have hnesting := Platform.three_le_nesting
    rw [room]
    omega
  rw [hroom]
  exact h.fits_toJson (room - 2)

theorem fieldsFit_defaultFields : Json.FieldsFit room defaultFields :=
  ⟨List.nodup_singleton _, List.forall_mem_singleton.2 (fits_settings Settings.wellFormed_default)⟩

/-- Fields that have been loaded fit the limits of reading. -/
theorem fieldsFit_load (h : store.load = .ok fields) : Json.FieldsFit room fields := by
  unfold load at h
  split at h
  · cases h
    exact fieldsFit_defaultFields
  · cases h
    exact fieldsFit_defaultFields
  · split at h
    · unfold fieldsOfText at h
      split at h
      · next hread =>
          cases h
          have hfits := Json.fits_read hread
          rw [nesting_eq] at hfits
          cases hfits with
          | object hnames hvalues => exact ⟨hnames, hvalues⟩
      · cases h
        exact fieldsFit_defaultFields
      · cases h
        exact fieldsFit_defaultFields
      · cases h
      · cases h
    · cases h

theorem load_file_toUTF8 (text : String) : (file text.toUTF8).load = fieldsOfText text := by
  have hdecoded : String.fromUTF8? text.toUTF8 = some text := by
    rw [String.fromUTF8?, String.toUTF8_eq_toByteArray, dif_pos text.isValidUTF8]
    rfl
  rw [load, hdecoded]

/-- What has been written is loaded. -/
theorem load_file_indented (h : Json.FieldsFit room fields) :
    (file (Json.object fields).indented.toUTF8).load = .ok fields := by
  have hread : Json.read .settings (Json.object fields).indented = .ok (.object fields) :=
    Json.read_indented (nesting_eq ▸ .object h.names h.values)
  rw [load_file_toUTF8, fieldsOfText, hread]

/-- An object that can be written goes into the file. -/
theorem write_eq (hstore : store ≠ directory) (h : (Json.object fields).isWritable = true) :
    store.write fields = (.ok (), file (Json.object fields).indented.toUTF8) := by
  cases store with
  | directory => exact absurd rfl hstore
  | absent | file => simp only [write, h, if_true]

private theorem write_fails (hstore : store ≠ directory)
    (h : (Json.object fields).isWritable = false) :
    (store.write fields).1 = .error .notEncodable := by
  cases store with
  | directory => exact absurd rfl hstore
  | absent | file => simp only [write, h, Bool.false_eq_true, if_false]

/-! ## Saving -/

/-- Whether the fields other than the settings can be written. -/
def OthersWritable (fields : Json.Fields) : Prop :=
  ∀ field ∈ fields, field.1 ≠ "settings" →
    isEncodable field.1.toList = true ∧ field.2.isWritable = true

/-- Settings that make sense never keep an object from being written. -/
theorem isWritable_set_iff (hnames : (fields.map Prod.fst).Nodup) {settings : Settings}
    (h : settings.WellFormed) :
    (Json.object (fields.set "settings" settings.toJson)).isWritable = true ↔
      OthersWritable fields := by
  have hkey : isEncodable "settings".toList = true := isEncodable_of_all (by decide)
  rw [Json.isWritable_object, List.all_eq_true]
  simp only [Bool.and_eq_true]
  constructor
  · intro hall field hfield hname
    exact hall field ((Json.Fields.mem_set_iff hnames).2 (.inr ⟨hfield, hname⟩))
  · intro hothers field hfield
    rcases (Json.Fields.mem_set_iff hnames).1 hfield with rfl | ⟨hfield, hname⟩
    · exact ⟨hkey, h.isWritable_toJson⟩
    · exact hothers field hfield hname

/-- Saving succeeds if the fields of others can be written, and the file then holds them with the
new settings. -/
theorem save_eq (hstore : store ≠ directory) (hload : store.load = .ok fields)
    (hothers : OthersWritable fields) (changes : Json.Fields) :
    let settings := (settingsOf fields).updated changes
    store.save changes = (.ok settings,
      file (Json.object (fields.set "settings" settings.toJson)).indented.toUTF8) := by
  have hwritable := (isWritable_set_iff (fieldsFit_load hload).names
    ((settingsOf fields).wellFormed_updated changes)).2 hothers
  rw [save, hload]
  simp only [write_eq hstore hwritable]
  rfl

theorem save_fails (hstore : store ≠ directory) (hload : store.load = .ok fields)
    (hothers : ¬ OthersWritable fields) (changes : Json.Fields) :
    (store.save changes).1 = .error .notEncodable := by
  have hwritable : (Json.object (fields.set "settings"
      ((settingsOf fields).updated changes).toJson)).isWritable = false := by
    rw [Bool.eq_false_iff, ne_eq, isWritable_set_iff (fieldsFit_load hload).names
      ((settingsOf fields).wellFormed_updated changes)]
    exact hothers
  rw [save, hload]
  simp only [write_fails hstore hwritable]
  rfl

/-- What is loaded after the settings have been saved. -/
theorem load_save (hstore : store ≠ directory) (hload : store.load = .ok fields)
    (hothers : OthersWritable fields) (changes : Json.Fields) :
    (store.save changes).2.load =
      .ok (fields.set "settings" ((settingsOf fields).updated changes).toJson) := by
  have hsettings := fits_settings ((settingsOf fields).wellFormed_updated changes)
  rw [save_eq hstore hload hothers]
  exact load_file_indented ((fieldsFit_load hload).set hsettings)

theorem settings_eq (h : store.load = .ok fields) : store.settings = .ok (settingsOf fields) := by
  rw [settings, h]
  rfl

/-- Setting a field lets the others be written that could be. -/
theorem OthersWritable.set (h : OthersWritable fields) (hnames : (fields.map Prod.fst).Nodup)
    (value : Json) : OthersWritable (fields.set "settings" value) := by
  intro field hfield hname
  rcases (Json.Fields.mem_set_iff hnames).1 hfield with rfl | ⟨hfield, -⟩
  · exact absurd rfl hname
  · exact h field hfield hname

/-- From a store that can be loaded, saving succeeds if and only if the fields of others can be
written.  The settings that it gives are then read from the store, all other fields have the values
that they had, and saving no further changes gives the same settings again. -/
theorem save_reads_back (hstore : store ≠ directory) (hload : store.load = .ok fields)
    (changes : Json.Fields) :
    ((∃ settings, (store.save changes).1 = .ok settings) ↔ OthersWritable fields) ∧
      ∀ settings, (store.save changes).1 = .ok settings →
        let after := (store.save changes).2
        after.settings = .ok settings ∧
          (∃ kept, after.load = .ok kept ∧
            ∀ key, key ≠ "settings" → kept.get? key = fields.get? key) ∧
          (after.save []).1 = .ok settings := by
  have hothers : ∀ settings, (store.save changes).1 = .ok settings → OthersWritable fields := by
    intro settings h
    by_contra hothers
    rw [save_fails hstore hload hothers changes] at h
    cases h
  refine ⟨⟨fun ⟨settings, h⟩ => hothers settings h, fun h => ?_⟩, fun settings h => ?_⟩
  · exact ⟨_, congrArg Prod.fst (save_eq hstore hload h changes)⟩
  have hfields := hothers settings h
  have hsave := save_eq hstore hload hfields changes
  have hwellFormed := (settingsOf fields).wellFormed_updated changes
  have hafter := load_save hstore hload hfields changes
  obtain rfl : (settingsOf fields).updated changes = settings := by
    rw [hsave] at h
    exact Except.ok.inj h
  have hfile : (store.save changes).2 ≠ directory := by
    rw [hsave]
    exact nofun
  -- the fields of others are still the same, so saving succeeds once more
  have hkept := hfields.set (fieldsFit_load hload).names
    ((settingsOf fields).updated changes).toJson
  refine ⟨?_, ⟨_, hafter, fun key hkey => ?_⟩, ?_⟩
  · rw [settings_eq hafter, settingsOf_set hwellFormed]
  · rw [Json.Fields.get?_set, if_neg hkey]
  · have hagain := save_eq hfile hafter hkept []
    rw [settingsOf_set hwellFormed, hwellFormed.updated_nil] at hagain
    exact congrArg Prod.fst hagain

end

/-- A file with a field of others that can be written. -/
theorem save_reads_back_light :
    let store := file (Json.object [("a", .integer 1)]).indented.toUTF8
    let changes := [("theme", .text "light"), ("rounding_precision", .integer 3)]
    let after := (store.save changes).2
    store ≠ directory ∧ store.load = .ok [("a", .integer 1)] ∧
      (store.save changes).1 = .ok ⟨.light, none, some 3⟩ ∧
      after.settings = .ok ⟨.light, none, some 3⟩ ∧
      ∃ kept, after.load = .ok kept ∧ kept.get? "a" = some (.integer 1) := by
  intro store changes after
  have hfile : store ≠ directory := nofun
  have hload : store.load = .ok [("a", .integer 1)] := by
    refine load_file_indented ⟨List.nodup_singleton _, List.forall_mem_singleton.2 (.integer ?_)⟩
    decide +kernel
  have hothers : OthersWritable [("a", .integer 1)] := by
    intro field hfield _
    rw [List.mem_singleton.1 hfield]
    exact ⟨by decide, by decide +kernel⟩
  have hreads := save_reads_back hfile hload changes
  obtain ⟨settings, hsettings⟩ := hreads.1.2 hothers
  obtain ⟨hafter, ⟨kept, hkept, hsame⟩, -⟩ := hreads.2 settings hsettings
  have hlight : settings = ⟨.light, none, some 3⟩ := by
    rw [save_eq hfile hload hothers] at hsettings
    exact (Except.ok.inj hsettings).symm
  subst hlight
  exact ⟨hfile, hload, hsettings, hafter, kept, hkept, hsame "a" (by decide)⟩

/-- A field of others that holds half of a surrogate pair keeps the settings from being saved. -/
theorem save_fails_on_half :
    let store := file "\x7b\"a\": \"\\ud800\"\x7d".toUTF8
    (∃ fields, store.load = .ok fields) ∧ ¬ ∃ settings, (store.save []).1 = .ok settings := by
  have hread : Json.read .settings "\x7b\"a\": \"\\ud800\"\x7d" =
      .ok (.object [("a", .text (String.singleton (half 0xD800)))]) := by
    cbv
  have hload : (file "\x7b\"a\": \"\\ud800\"\x7d".toUTF8).load =
      .ok [("a", .text (String.singleton (half 0xD800)))] := by
    rw [load_file_toUTF8, fieldsOfText, hread]
  have hothers : ¬ OthersWritable [("a", .text (String.singleton (half 0xD800)))] := by
    intro h
    have hwritable := (h _ (List.mem_singleton_self _) (by decide)).2
    rw [Json.isWritable_text] at hwritable
    exact absurd hwritable (by decide)
  have hfile : file "\x7b\"a\": \"\\ud800\"\x7d".toUTF8 ≠ directory := by
    rintro ⟨⟩
  refine ⟨⟨_, hload⟩, ?_⟩
  rintro ⟨settings, hsettings⟩
  rw [save_fails hfile hload hothers] at hsettings
  cases hsettings

/-! ## Reading -/

section

variable [Platform] {store : Store}

/-- Whether what is found in the place of the settings file can be read: a file must be UTF-8, and
its text must neither hold a whole number of too many digits nor nest values too deeply. -/
def Readable : Store → Prop
  | absent | directory => True
  | file content => ∃ text, String.fromUTF8? content = some text ∧
      ∀ fault, Json.read .settings text = .error fault → fault = .malformed

theorem exists_fieldsOfText_iff {text : String} : (∃ fields, fieldsOfText text = .ok fields) ↔
    ∀ fault, Json.read .settings text = .error fault → fault = .malformed := by
  unfold fieldsOfText
  -- malformed text counts as the default fields, and so do values that are no objects
  cases Json.read .settings text with
  | ok value =>
      refine iff_of_true ?_ (fun fault h => by cases h)
      cases value with
      | object fields => exact ⟨fields, rfl⟩
      | _ => exact ⟨_, rfl⟩
  | error fault =>
      cases fault with
      | malformed => exact iff_of_true ⟨_, rfl⟩ fun fault h => (Except.error.inj h).symm
      | tooLong digits => exact iff_of_false (fun ⟨_, h⟩ => by cases h) fun h => by cases h _ rfl
      | tooDeep => exact iff_of_false (fun ⟨_, h⟩ => by cases h) fun h => by cases h _ rfl

theorem exists_load_iff : (∃ fields, store.load = .ok fields) ↔ store.Readable := by
  cases store with
  | absent => exact iff_of_true ⟨_, rfl⟩ trivial
  | directory => exact iff_of_true ⟨_, rfl⟩ trivial
  | file content =>
      unfold load Readable
      cases hdecoded : String.fromUTF8? content with
      | none => simp [hdecoded]
      | some text => simp [hdecoded, exists_fieldsOfText_iff]

theorem exists_settings_iff : (∃ settings, store.settings = .ok settings) ↔ store.Readable := by
  rw [← exists_load_iff]
  constructor
  · rintro ⟨settings, h⟩
    cases hload : store.load with
    | ok fields => exact ⟨fields, rfl⟩
    | error failure =>
        rw [Store.settings, hload] at h
        cases h
  · rintro ⟨fields, hload⟩
    exact ⟨_, settings_eq hload⟩

theorem wellFormed_settings {settings : Settings} (h : store.settings = .ok settings) :
    settings.WellFormed := by
  obtain ⟨fields, hload⟩ := exists_load_iff.2 (exists_settings_iff.1 ⟨_, h⟩)
  rw [settings_eq hload] at h
  cases h
  exact Settings.wellFormed_ofJson _

/-- Where there is no file, or one that is not JSON or holds no object, the settings are the default
ones.  Settings can be read in every case but those of a file that is not UTF-8, that holds a whole
number of too many digits or that nests values too deeply.  Settings that are read make sense, and
they give a colour to every style variable. -/
theorem settings_wellFormed (store : Store) :
    absent.settings = .ok {} ∧ directory.settings = .ok {} ∧
      (∀ text, (Json.read .settings text = .error .malformed ∨
        ∃ value, Json.read .settings text = .ok value ∧ value.fields? = none) →
        (file text.toUTF8).settings = .ok {}) ∧
      ((∃ settings, store.settings = .ok settings) ↔ store.Readable) ∧
      ∀ settings, store.settings = .ok settings →
        settings.theme.name ∈ ["light", "dark", "custom"] ∧
        (settings.theme = .custom → ∃ palette, settings.customTheme = some palette) ∧
        (∀ palette, settings.customTheme = some palette →
          palette.WellFormed ∧ Palette.ofJson (.object palette.toFields) = .ok palette) ∧
        settings.precision.toSetting ∈ Precision.settings ∧
        ∀ name ∈ Palette.styleNames, ∃ colour,
          settings.palette.get? name = some (.text colour) ∧
            Palette.isColour colour.toList = true := by
  have hdefault : ∀ store : Store, store.load = .ok defaultFields → store.settings = .ok {} := by
    intro store h
    rw [settings_eq h, settingsOf_defaultFields]
  refine ⟨hdefault _ rfl, hdefault _ rfl, fun text htext => hdefault _ ?_, exists_settings_iff,
    fun settings h => ?_⟩
  · rw [load_file_toUTF8, fieldsOfText]
    rcases htext with hread | ⟨value, hread, hfields⟩
    · rw [hread]
    · rw [hread]
      cases value with
      | object fields => cases hfields
      | _ => rfl
  · have hwellFormed := wellFormed_settings h
    refine ⟨?_, fun hcustom => Option.ne_none_iff_exists'.1 (hwellFormed.custom hcustom), ?_,
      hwellFormed.precision.toSetting_mem, fun name => hwellFormed.exists_colour⟩
    · cases settings.theme <;> decide
    · intro palette hpalette
      have hcustom := hwellFormed.palette palette hpalette
      exact ⟨hcustom, hcustom.ofJson_toFields⟩

end

/-- Bytes that are not UTF-8 keep the settings from being read. -/
theorem settings_fail_on_bytes : (file ⟨#[0xff]⟩).settings = .error .notUnicode := by
  have hdecoded : String.fromUTF8? ⟨#[0xff]⟩ = none := by decide
  rw [settings, load, hdecoded]
  rfl

end DeskCalculator.Store
