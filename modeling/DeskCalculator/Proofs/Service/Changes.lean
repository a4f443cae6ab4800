import DeskCalculator.Proofs.Service.Results
import DeskCalculator.Proofs.Settings.Updated

/-!
# Changed settings are as asked for

A request to change settings is either refused and changes nothing, or every setting
that it asks for is then stored as it was asked for, and the others are what they were
(`update_refused_or_honoured`).  The checks of the request and those of the store say
the same: colours pass both if every style variable is given one (`Acceptable`), and a
precision if it is one of those that are stored, apart from blanks around it
(`isPrecisionText_iff`).  So the store never replaces what has passed the checks.

A palette without a theme is stored in two steps, and the second one starts from
settings which have the palette and the theme for it already.
-/

namespace DeskCalculator

open Text

section

variable [Platform]

/-! ## Answers that can be sent -/

/-- Where sending and writing agree on the values of some fields, they agree on the object. -/
theorem Json.isSendable_object_eq {fields : Json.Fields}
    (h : ∀ field ∈ fields, field.2.isSendable = field.2.isWritable) :
    (object fields).isSendable = (object fields).isWritable := by
  rw [isSendable_object, isWritable_object, Bool.eq_iff_iff, List.all_eq_true, List.all_eq_true]
  refine forall₂_congr fun field hfield => ?_
  rw [h field hfield]

theorem Palette.isSendable_toFields (palette : Palette) :
    (Json.object palette.toFields).isSendable = (Json.object palette.toFields).isWritable := by
  refine Json.isSendable_object_eq fun field hfield => ?_
  obtain ⟨entry, -, rfl⟩ := List.mem_map.1 hfield
  exact (Json.isWritable_text entry.2).symm

/-- Well-formed settings can be sent. -/
theorem Settings.WellFormed.isSendable_toJson {settings : Settings} (h : settings.WellFormed) :
    settings.toJson.isSendable = true := by
  rw [toJson, Json.isSendable_object_eq, ← toJson, h.isWritable_toJson]
  intro field hfield
  simp only [toFields, List.mem_cons, List.not_mem_nil, or_false] at hfield
  rcases hfield with rfl | rfl | rfl
  · exact (Json.isWritable_text _).symm
  · cases settings.customTheme with
    | none => exact Json.isWritable_null.symm
    | some palette => exact palette.isSendable_toFields
  · exact (Json.isWritable_text _).symm

private theorem isEncodable_intercalate {separator : String} {texts : List String}
    (hseparator : isEncodable separator.toList = true)
    (htexts : ∀ text ∈ texts, isEncodable text.toList = true) :
    isEncodable (separator.intercalate texts).toList = true := by
  induction texts with
  | nil => rfl
  | cons first rest ih =>
      rw [List.forall_mem_cons] at htexts
      cases rest with
      | nil => rw [String.intercalate_singleton, htexts.1]
      | cons second rest =>
          simp only [String.intercalate_cons_cons, String.toList_append, isEncodable_append,
            htexts.1, hseparator, ih htexts.2, Bool.and_true]

theorem Palette.isEncodable_listing {introduction : String}
    (h : isEncodable introduction.toList = true) (P : String → Bool) :
    isEncodable (introduction ++ ", ".intercalate (styleNames.filter P)).toList = true := by
  have hnames : ∀ name ∈ styleNames, name.toList.all (·.toNat < 128) = true := by decide
  rw [String.toList_append, isEncodable_append, h, Bool.true_and]
  exact isEncodable_intercalate (isEncodable_of_all (by decide)) fun name hname =>
    isEncodable_of_all (hnames name (List.mem_of_mem_filter hname))

/-- The message about colours that are refused names style variables only. -/
theorem Palette.isEncodable_message {fields : Json.Fields} {fault : Fault}
    (h : ofFields fields = .error fault) : isEncodable fault.message.toList = true := by
  rw [ofFields] at h
  split at h
  · obtain rfl := Except.error.inj h
    exact isEncodable_listing (isEncodable_of_all (by decide)) _
  · split at h
    · obtain rfl := Except.error.inj h
      exact isEncodable_listing (isEncodable_of_all (by decide)) _
    · cases h

/-! ## Saved settings -/

namespace Store

variable {store : Store} {failure : Failure}

/-- Settings that have been saved are the old ones with the changes, and they are read
afterwards. -/
theorem settings_save {changes : Json.Fields} {before after : Settings}
    (hbefore : store.settings = .ok before) (hsave : (store.save changes).1 = .ok after) :
    after = before.updated changes ∧ (store.save changes).2.settings = .ok after := by
  obtain ⟨fields, hload⟩ := exists_load_iff.2 (exists_settings_iff.1 ⟨before, hbefore⟩)
  obtain rfl : settingsOf fields = before := Except.ok.inj ((settings_eq hload).symm.trans hbefore)
  have hstore : store ≠ directory := by
    rintro rfl
    cases hload
    cases hsave
  have hothers : OthersWritable fields := by
    by_contra hothers
    rw [save_fails hstore hload hothers] at hsave
    cases hsave
  obtain ⟨-, -, saved, hsaved, hreads⟩ :=
    Savable.adopts_save ⟨fields, hload, hothers⟩ hstore changes
  cases hsave.symm.trans hsaved
  rw [save_eq hstore hload hothers] at hsave
  exact ⟨(Except.ok.inj hsave).symm, hreads⟩

/-- Where the settings cannot be read, none are saved. -/
theorem save_of_settings_eq_error (h : store.settings = .error failure) (changes : Json.Fields) :
    store.save changes = (.error failure, store) := by
  cases hload : store.load with
  | ok fields =>
      rw [settings_eq hload] at h
      cases h
  | error found =>
      rw [settings, hload] at h
      cases h
      rw [save, hload]

/-- The changes that choose a palette. -/
def choosing (palette : Palette) : Json.Fields :=
  [("custom_theme", .object palette.toFields), ("theme", .text "custom")]

private theorem saveTheme_eq {palette : Palette} (h : palette.WellFormed) :
    store.saveTheme (.object palette.toFields) = store.save (choosing palette) := by
  rw [saveTheme, h.ofJson_toFields]
  rfl

end Store

end

namespace Service

/-! ## What a request asks for -/

namespace Reading

variable {α β : Type} {first : Reading α} {second : Reading β}

theorem map_eq_ok {f : α → β} {b : β} (h : first.map f = .ok b) : ∃ a, first = .ok a ∧ f a = b := by
  cases first with
  | error misfits => cases h
  | ok a => exact ⟨a, rfl, Except.ok.inj h⟩

theorem and_eq_ok {both : α × β} (h : first.and second = .ok both) :
    first = .ok both.1 ∧ second = .ok both.2 := by
  unfold Reading.and at h
  split at h <;> cases h
  exact ⟨rfl, rfl⟩

theorem ofOption_eq_ok {part : Json} {value : Option α} {a : α}
    (h : ofOption part value = .ok a) : value = some a := by
  cases value with
  | none => cases h
  | some found => exact congrArg some (Except.ok.inj h)

end Reading

theorem FieldType.optional_eq_ok {α : Type} {type : FieldType α} {fields : Json.Fields}
    {key : String} {a : α} (h : optional type fields key = .ok (some a)) :
    ∃ part, type part = .ok a := by
  unfold optional at h
  split at h
  · cases h
  · cases h
  · next part _ _ =>
      obtain ⟨found, hfound, hsome⟩ := Reading.map_eq_ok h
      cases hsome
      exact ⟨part, hfound⟩

namespace SettingsRequest

/-- A theme that a request chooses is one of the three that there are. -/
theorem theme_of_read {body : Json} {asked : SettingsRequest} {name : String}
    (h : SettingsRequest.read body = .ok asked) (htheme : asked.theme = some name) :
    name ∈ ["light", "dark", "custom"] := by
  unfold SettingsRequest.read FieldType.record at h
  split at h
  · obtain ⟨parts, hparts, rfl⟩ := Reading.map_eq_ok h
    have hfirst := (Reading.and_eq_ok hparts).1
    rw [show parts.1 = some name from htheme] at hfirst
    obtain ⟨part, hpart⟩ := FieldType.optional_eq_ok hfirst
    have hfound := Reading.ofOption_eq_ok hpart
    simpa using (Option.filter_eq_some_iff.1 hfound).2
  · cases h

/-- Whether settings can be changed as a request asks. -/
structure Acceptable (asked : SettingsRequest) (before : Settings) : Prop where
  colours : ∀ colours, asked.customTheme = some colours → Palette.Complete colours
  precision : ∀ text, asked.precision = some text → trimString text ∈ Precision.settings
  /-- There is a palette for the custom theme. -/
  theme : asked.theme = some "custom" → asked.customTheme ≠ none ∨ before.customTheme ≠ none

/-- Whether settings have been changed as a request asks, and only so. -/
structure Honours (asked : SettingsRequest) (before after : Settings) : Prop where
  theme : after.theme.name =
    asked.theme.getD (if asked.customTheme.isSome then "custom" else before.theme.name)
  customTheme : after.customTheme = (asked.customTheme.map Palette.restricted).or before.customTheme
  precision : after.precision.toSetting =
    (asked.precision.map trimString).getD before.precision.toSetting

end SettingsRequest

namespace App

open Keypad Session Store SettingsRequest

variable {asked : SettingsRequest} {before after : Settings}

/-- A text is accepted as a precision if it is one that is stored, with blanks around it. -/
theorem isPrecisionText_iff {text : String} :
    isPrecisionText text = true ↔ trimString text ∈ Precision.settings := by
  rw [isPrecisionText, beq_iff_eq]
  constructor
  · intro h
    rw [← h]
    exact (Precision.wellFormed_ofJson (.text text)).toSetting_mem
  · intro h
    -- only what stands between the blanks is read
    have htrim : trim text.toList = (trimString text).toList := String.toList_ofList.symm
    rw [Precision.ofText, htrim]
    generalize trimString text = core at *
    clear htrim
    revert core
    decide

/-- A precision that is sent is not refused if it is one that is stored, with blanks around it. -/
theorem any_not_isPrecisionText_eq_false : asked.precision.any (!isPrecisionText ·) = false ↔
    ∀ text, asked.precision = some text → trimString text ∈ Precision.settings := by
  cases asked.precision with
  | none => simp
  | some text => simp [isPrecisionText_iff]

/-- With a palette and a precision that are accepted, what is left to refuse is the name of a
palette that is nowhere. -/
theorem acceptable_iff
    (hcolours : ∀ colours, asked.customTheme = some colours → Palette.Complete colours)
    (hprecision : ∀ text, asked.precision = some text →
      trimString text ∈ Precision.settings) :
    asked.Acceptable before ↔ ¬ (asked.theme = some "custom" ∧
      asked.customTheme.map Palette.restricted = none ∧ before.customTheme = none) := by
  constructor
  · rintro hasked ⟨htheme, hsent, hnone⟩
    rcases hasked.theme htheme with hchosen | hstored
    · exact hchosen (Option.map_eq_none_iff.1 hsent)
    · exact hstored hnone
  · intro h
    refine ⟨hcolours, hprecision, fun htheme => ?_⟩
    by_contra hneither
    obtain ⟨hsent, hnone⟩ := not_or.1 hneither
    rw [not_not] at hsent hnone
    exact h ⟨htheme, Option.map_eq_none_iff.2 hsent, hnone⟩

/-! ## Settings with the changes -/

/-- Whether changes to the fields of stored settings are what a request asks for. -/
structure Describes (changes : Json.Fields) (asked : SettingsRequest) : Prop where
  names : (changes.map Prod.fst).Nodup
  theme : changes.get? "theme" = asked.theme.map .text
  customTheme : changes.get? "custom_theme" =
    asked.customTheme.map fun colours => .object (Palette.restricted colours).toFields
  precision : changes.get? "rounding_precision" = asked.precision.map .text

private theorem describes_changesOf (asked : SettingsRequest) :
    Describes (changesOf asked (asked.customTheme.map Palette.restricted)) asked := by
  obtain ⟨theme, colours, precision⟩ := asked
  constructor <;> cases theme <;> cases colours <;> cases precision <;>
    first | rfl | simp [changesOf]

private theorem describes_choosing (colours : List (String × String)) :
    Describes (choosing (Palette.restricted colours)) ⟨some "custom", some colours, none⟩ where
  names := by simp [choosing]
  theme := rfl
  customTheme := rfl
  precision := rfl

/-- Settings with the changes that a request asks for honour it, if they can. -/
theorem honours_updated {changes : Json.Fields} (h : before.WellFormed)
    (hchanges : Describes changes asked) (hasked : asked.Acceptable before)
    (hthemes : ∀ name, asked.theme = some name → name ∈ ["light", "dark", "custom"])
    (hcolours : asked.theme = none → asked.customTheme = none) :
    asked.Honours before (before.updated changes) := by
  have hcustom : (before.updated changes).customTheme =
      (asked.customTheme.map Palette.restricted).or before.customTheme := by
    rw [Settings.customTheme_updated h hchanges.names, hchanges.customTheme]
    cases hsent : asked.customTheme with
    | none => rfl
    | some colours =>
        have hpalette := (hasked.colours colours hsent).wellFormed_restricted
        simp only [Option.map_some, hpalette.ofJson_toFields]
        rfl
  refine ⟨?_, hcustom, ?_⟩
  · cases htheme : asked.theme with
    | none =>
        have hkept : (before.updated changes).customTheme = before.customTheme := by
          rw [hcustom, hcolours htheme]
          rfl
        rw [Settings.theme_updated h hchanges.names (by rw [hchanges.theme, htheme]; rfl)
          (fun hpalette => hkept ▸ hpalette), hcolours htheme]
        rfl
    | some name =>
        refine Settings.name_theme_updated hchanges.names (by rw [hchanges.theme, htheme]; rfl)
          (hthemes name htheme) fun hname => ?_
        rw [hcustom]
        rcases hasked.theme (hname ▸ htheme) with hsent | hstored
        · simpa [Option.or_eq_none_iff] using fun h => absurd h hsent
        · simpa [Option.or_eq_none_iff] using fun _ => hstored
  · rw [Settings.precision_updated h hchanges.names, hchanges.precision]
    cases hsent : asked.precision with
    | none => rfl
    | some text =>
        exact beq_iff_eq.1 (isPrecisionText_iff.2 (hasked.precision text hsent))

/-- Choosing a palette and changing the precision afterwards honours a request for both. -/
theorem honours_of_steps {colours : List (String × String)} {precision : Option String}
    {between : Settings} (hfirst : Honours ⟨some "custom", some colours, none⟩ before between)
    (hsecond : Honours ⟨none, none, precision⟩ between after) :
    Honours ⟨none, some colours, precision⟩ before after where
  theme := hsecond.theme.trans hfirst.theme
  customTheme := hsecond.customTheme.trans hfirst.customTheme
  precision := by rw [hsecond.precision, hfirst.precision]; rfl

section

variable [Platform]

/-! ## Storing the changes -/

/-- How the store comes by the changes of a request with good colours: in one step, or, where the
colours come without a theme, they are chosen first. -/
theorem storeChanges_cases (store : Store)
    (hcomplete : ∀ colours, asked.customTheme = some colours → Palette.Complete colours) :
    let stored := storeChanges store asked (asked.customTheme.map Palette.restricted)
    ((asked.theme = none → asked.customTheme = none) ∧
      stored = store.save (changesOf asked (asked.customTheme.map Palette.restricted))) ∨
    ∃ colours precision, asked = ⟨none, some colours, precision⟩ ∧ stored =
      match store.save (choosing (Palette.restricted colours)) with
      | (.ok _, written) => written.save (changesOf ⟨none, none, precision⟩ none)
      | failed => failed := by
  obtain ⟨theme, customTheme, precision⟩ := asked
  cases theme with
  | some name => exact .inl ⟨nofun, rfl⟩
  | none =>
      cases customTheme with
      | none => exact .inl ⟨fun _ => rfl, rfl⟩
      | some colours =>
          refine .inr ⟨colours, precision, rfl, ?_⟩
          rw [← saveTheme_eq (hcomplete colours rfl).wellFormed_restricted]
          rfl

/-- What a request has stored honours it. -/
theorem honours_storeChanges {store : Store} (hbefore : store.settings = .ok before)
    (hasked : asked.Acceptable before)
    (hthemes : ∀ name, asked.theme = some name → name ∈ ["light", "dark", "custom"])
    (hstored : (storeChanges store asked (asked.customTheme.map Palette.restricted)).1 =
      .ok after) :
    asked.Honours before after ∧
      (storeChanges store asked (asked.customTheme.map Palette.restricted)).2.settings =
        .ok after := by
  have hwellFormed := wellFormed_settings hbefore
  rcases storeChanges_cases store hasked.colours with
    ⟨hcolours, heq⟩ | ⟨colours, precision, rfl, heq⟩
  · rw [heq] at hstored ⊢
    obtain ⟨rfl, hafter⟩ := settings_save hbefore hstored
    exact ⟨honours_updated hwellFormed (describes_changesOf asked) hasked hthemes hcolours, hafter⟩
  -- each of the two steps is a request of its own
  rw [heq] at hstored ⊢
  clear heq
  cases hfirst : store.save (choosing (Palette.restricted colours)) with
  | mk outcome written =>
      cases outcome with
      | error failure =>
          rw [hfirst] at hstored
          cases hstored
      | ok between =>
          simp only [hfirst] at hstored ⊢
          have hsaved := settings_save hbefore (congrArg Prod.fst hfirst)
          rw [hfirst] at hsaved
          obtain ⟨rfl, hbetween⟩ := hsaved
          obtain ⟨rfl, hafter⟩ := settings_save hbetween hstored
          have hchosen := honours_updated hwellFormed (describes_choosing colours)
            ⟨hasked.colours, nofun, fun _ => .inl nofun⟩ (by rintro name ⟨⟩; decide) nofun
          have hprecise := honours_updated (Settings.wellFormed_updated before
            (choosing (Palette.restricted colours))) (describes_changesOf ⟨none, none, precision⟩)
            ⟨nofun, hasked.precision, nofun⟩ nofun fun _ => rfl
          exact ⟨honours_of_steps hchosen hprecise, hafter⟩

/-- Where the settings cannot be read, nothing is stored. -/
theorem storeChanges_of_settings_eq_error {store : Store} {failure : Store.Failure}
    (h : store.settings = .error failure)
    (hcomplete : ∀ colours, asked.customTheme = some colours → Palette.Complete colours) :
    storeChanges store asked (asked.customTheme.map Palette.restricted) =
      (.error failure, store) := by
  rcases storeChanges_cases store hcomplete with ⟨-, heq⟩ | ⟨colours, precision, rfl, heq⟩
  · rw [heq, save_of_settings_eq_error h]
  · rw [heq, save_of_settings_eq_error h]

/-- Changes that can be acted on are stored in any file that can be written again. -/
theorem exists_storeChanges {store : Store} (hsavable : store.Savable) (hstore : store ≠ .directory)
    (hasked : asked.Acceptable before) : ∃ after,
      (storeChanges store asked (asked.customTheme.map Palette.restricted)).1 = .ok after := by
  rcases storeChanges_cases store hasked.colours with
    ⟨-, heq⟩ | ⟨colours, precision, rfl, heq⟩
  · obtain ⟨-, -, after, hafter, -⟩ := hsavable.adopts_save hstore
      (changesOf asked (asked.customTheme.map Palette.restricted))
    exact ⟨after, heq ▸ hafter⟩
  · have hfirst := hsavable.adopts_save hstore (choosing (Palette.restricted colours))
    rw [heq]
    generalize store.save (choosing (Palette.restricted colours)) = saved at hfirst ⊢
    obtain ⟨outcome, written⟩ := saved
    obtain ⟨hfile, hagain, between, hbetween, -⟩ := hfirst
    cases hbetween
    obtain ⟨-, -, after, hafter, -⟩ := hagain.adopts_save hfile
      (changesOf ⟨none, none, precision⟩ none)
    exact ⟨after, hafter⟩

/-! ## Checking the request -/

/-- What comes of a request to change settings, once the session is there: it is refused and cannot
be acted on, or the settings cannot be read, or it is acted on. -/
inductive Outcome (app : App) (session : Session) (asked : SettingsRequest) : Reaction → Prop
  | refused {detail : String} (encodable : isEncodable detail.toList = true)
      (unacceptable : ∀ before, app.store.settings = .ok before → ¬ asked.Acceptable before) :
      Outcome app session asked ⟨app.withSession session, .refusal 400 detail, []⟩
  | unreadable {failure : Store.Failure} (settings : app.store.settings = .error failure) :
      Outcome app session asked ⟨app.withSession session, .crash, []⟩
  | stored {before : Settings} (settings : app.store.settings = .ok before)
      (acceptable : asked.Acceptable before) :
      Outcome app session asked
        (app.settled session
          (storeChanges app.store asked (asked.customTheme.map Palette.restricted)))

private theorem updateSettings_eq {app : App} {session : Session}
    (hcomplete : ∀ colours, asked.customTheme = some colours → Palette.Complete colours) :
    app.updateSettings session asked =
      if asked.precision.any (!isPrecisionText ·) then
        ⟨app.withSession session,
          .refusal 400 "Rounding precision must be 'None' or an integer from 0 to 8.", []⟩
      else
        match lacksTheme app.store asked (asked.customTheme.map Palette.restricted) with
        | .error _ => ⟨app.withSession session, .crash, []⟩
        | .ok true => ⟨app.withSession session, .refusal 400 "No custom theme has been saved.", []⟩
        | .ok false => app.settled session
            (storeChanges app.store asked (asked.customTheme.map Palette.restricted)) := by
  unfold updateSettings
  cases hsent : asked.customTheme with
  | none => rfl
  | some colours =>
      have hchecked := Palette.ofFields_toFields_eq_ok_iff.2 ⟨hcomplete colours hsent, rfl⟩
      simp only [Option.map_some, hchecked]
      rfl

private theorem lacksTheme_eq {store : Store} {palette : Option Palette}
    (h : store.settings = .ok before) : lacksTheme store asked palette =
      .ok (decide (asked.theme = some "custom" ∧ palette = none ∧ before.customTheme = none)) := by
  rw [lacksTheme, h]
  split_ifs with hchosen
  · show Except.ok before.customTheme.isNone = _
    rw [Option.isNone_iff_eq_none] at hchosen
    simp only [hchosen, true_and]
    cases before.customTheme <;> simp
  · have hother : ¬ (asked.theme = some "custom" ∧ palette = none ∧ before.customTheme = none) :=
      fun h => hchosen ⟨h.1, Option.isNone_iff_eq_none.2 h.2.1⟩
    rw [decide_eq_false hother]
    rfl

/-- Where the settings cannot be read, looking for the palette fails, or there was none to look
for. -/
theorem lacksTheme_of_settings_eq_error {store : Store} {failure : Store.Failure}
    {palette : Option Palette} (h : store.settings = .error failure) :
    lacksTheme store asked palette = .error failure ∨
      lacksTheme store asked palette = .ok false := by
  rw [lacksTheme, h]
  split_ifs
  · exact .inl rfl
  · exact .inr rfl

/-- A palette that lacks a colour is refused. -/
theorem outcome_of_not_complete {colours : List (String × String)}
    (hsent : asked.customTheme = some colours) (hlacking : ¬ Palette.Complete colours)
    (app : App) (session : Session) :
    Outcome app session asked (app.updateSettings session asked) := by
  cases hchecked : Palette.ofFields (Palette.toFields colours) with
  | ok palette => exact absurd (Palette.ofFields_toFields_eq_ok_iff.1 hchecked).1 hlacking
  | error fault =>
      have hrefused : app.updateSettings session asked =
          ⟨app.withSession session, .refusal 400 fault.message, []⟩ := by
        simp only [updateSettings, hsent, Option.map_some, hchecked]
      rw [hrefused]
      exact .refused (Palette.isEncodable_message hchecked) fun before _ hasked =>
        hlacking (hasked.colours colours hsent)

private theorem outcome_updateSettings (app : App) (session : Session) (asked : SettingsRequest) :
    Outcome app session asked (app.updateSettings session asked) := by
  by_cases hcomplete : ∀ colours, asked.customTheme = some colours → Palette.Complete colours
  · rw [updateSettings_eq hcomplete]
    split_ifs with hrefused
    · refine .refused (isEncodable_of_all (by decide)) fun before _ hasked => ?_
      rw [any_not_isPrecisionText_eq_false.2 hasked.precision] at hrefused
      cases hrefused
    · have hprecision := any_not_isPrecisionText_eq_false.1 (Bool.eq_false_iff.2 hrefused)
      cases hsettings : app.store.settings with
      | error failure =>
          rcases @lacksTheme_of_settings_eq_error asked _ _ _
            (asked.customTheme.map Palette.restricted) hsettings with hlacks | hlacks
          · rw [hlacks]
            exact .unreadable hsettings
          · rw [hlacks, storeChanges_of_settings_eq_error hsettings hcomplete]
            exact .unreadable hsettings
      | ok before =>
          rw [lacksTheme_eq hsettings]
          split
          · next hlacks => cases hlacks
          · next hlacks =>
            refine .refused (isEncodable_of_all (by decide)) fun found hfound hasked => ?_
            cases hsettings.symm.trans hfound
            exact (acceptable_iff hcomplete hprecision).1 hasked
              (of_decide_eq_true (Except.ok.inj hlacks))
          · next hlacks =>
            exact .stored hsettings ((acceptable_iff hcomplete hprecision).2
              (of_decide_eq_false (Except.ok.inj hlacks)))
  · obtain ⟨colours, hsent, hlacking⟩ : ∃ colours, asked.customTheme = some colours ∧
        ¬ Palette.Complete colours := by
      simpa using hcomplete
    exact outcome_of_not_complete hsent hlacking app session

/-! ## The whole request -/

/-- Whether a request asks for changes to the settings. -/
def Updates (request : Request) (asked : SettingsRequest) : Prop :=
  request.target = .route .updateSettings ∧ content? SettingsRequest.read request = some asked

variable {app : App} {session : Session} {request : Request}

theorem Updates.theme (h : Updates request asked) :
    ∀ name, asked.theme = some name → name ∈ ["light", "dark", "custom"] := by
  obtain ⟨body, -, hread⟩ := content?_eq_some h.2
  exact fun name => theme_of_read hread

theorem Updates.handle (h : Updates request asked) (hready : app.ready = .ok session)
    (world : World) : app.handle request world = { app.updateSettings session asked with
      response := (app.updateSettings session asked).response.sent } := by
  obtain ⟨body, hread, hhandle⟩ := handle_of_content h.1 rfl h.2 app world
  rw [hhandle]
  simp only [carryOut, inSession, hready, reading, hread]

theorem Updates.handle_of_not_ready {failure : Store.Failure} (h : Updates request asked)
    (hready : app.ready = .error failure) (world : World) :
    app.handle request world = { app, response := .crash } := by
  obtain ⟨body, -, hhandle⟩ := handle_of_content h.1 rfl h.2 app world
  rw [hhandle]
  simp only [carryOut, inSession, hready, Response.sent]

private theorem handle_showSettings {settings : Settings}
    (hstored : app.store.settings = .ok settings)
    (htarget : request.target = .route .showSettings) (world : World) :
    (app.handle request world).response = (Response.ok settings.toJson).sent := by
  simp [App.handle, answer, htarget, readsBody, carryOut, showStored, hstored]

theorem sent_settings {settings : Settings} (h : settings.WellFormed) :
    (Response.ok settings.toJson).sent = .ok settings.toJson := by
  rw [sent_ok, h.isSendable_toJson, if_pos rfl]

/-- The session is ready wherever the settings can be read. -/
theorem exists_ready_of_settings (h : app.store.settings = .ok before) :
    ∃ session, app.ready = .ok session := by
  unfold ready
  split
  · next session _ => exact ⟨session, rfl⟩
  · rw [storedPrecision_eq h]
    exact ⟨_, rfl⟩

/-- What is answered to a request to change settings, and what has come of the service. -/
inductive Answered (app : App) (asked : SettingsRequest) : Reaction → Prop
  | refused {session : Session} {detail : String} (ready : app.ready = .ok session)
      (unacceptable : ∀ before, app.store.settings = .ok before → ¬ asked.Acceptable before) :
      Answered app asked ⟨app.withSession session, .refusal 400 detail, []⟩
  | broken {next : App} (store : app.store.Savable → app.store = .directory) :
      Answered app asked ⟨next, .crash, []⟩
  | changed {before after : Settings} {next : App} (settings : app.store.settings = .ok before)
      (acceptable : asked.Acceptable before) (honours : asked.Honours before after)
      (stored : next.store.settings = .ok after) :
      Answered app asked ⟨next, .ok after.toJson, []⟩

theorem exists_settings_of_savable {store : Store} (h : store.Savable) :
    ∃ settings, store.settings = .ok settings := by
  obtain ⟨fields, hload, -⟩ := h
  exact ⟨_, settings_eq hload⟩

theorem Updates.answered_of_ready (h : Updates request asked) (hready : app.ready = .ok session)
    (world : World) : Answered app asked (app.handle request world) := by
  rw [h.handle hready]
  have houtcome := outcome_updateSettings app session asked
  generalize app.updateSettings session asked = reaction at houtcome
  cases houtcome with
  | refused encodable unacceptable =>
      rw [sent_refusal encodable]
      exact .refused hready unacceptable
  | unreadable settings =>
      refine .broken fun hsavable => ?_
      obtain ⟨before, hbefore⟩ := exists_settings_of_savable hsavable
      cases settings.symm.trans hbefore
  | @stored before settings acceptable =>
      have hhonours := fun (after : Settings)
          (hstored : (storeChanges app.store asked
            (asked.customTheme.map Palette.restricted)).1 = .ok after) =>
        honours_storeChanges settings acceptable h.theme hstored
      have hexists := fun (hsavable : app.store.Savable) (hstore : app.store ≠ .directory) =>
        exists_storeChanges hsavable hstore acceptable
      generalize storeChanges app.store asked (asked.customTheme.map Palette.restricted) = outcome
        at hhonours hexists
      obtain ⟨result, written⟩ := outcome
      cases result with
      | error failure =>
          refine .broken fun hsavable => ?_
          by_contra hstore
          obtain ⟨after, hafter⟩ := hexists hsavable hstore
          cases hafter
      | ok after =>
          obtain ⟨hhonoured, hafter⟩ := hhonours after rfl
          have hsent := sent_settings (wellFormed_settings hafter)
          simp only [settled, hsent]
          exact .changed settings acceptable hhonoured hafter

theorem Updates.answered (h : Updates request asked) (app : App) (world : World) :
    Answered app asked (app.handle request world) := by
  cases hready : app.ready with
  | ok session => exact h.answered_of_ready hready world
  | error failure =>
      rw [h.handle_of_not_ready hready]
      refine .broken fun hsavable => ?_
      obtain ⟨before, hbefore⟩ := exists_settings_of_savable hsavable
      obtain ⟨session, hsession⟩ := exists_ready_of_settings hbefore
      cases hready.symm.trans hsession

/-- A request to change settings is refused and changes nothing, or it is answered with the settings
that are then stored, which are as asked for where it asks for something and else as they were. If
the store can be written, then the request decides which of the two it is. -/
theorem update_refused_or_honoured (app : App) {request : Request} {asked : SettingsRequest}
    (h : Updates request asked) (world : World) :
    let reaction := app.handle request world
    (reaction.response.status = 400 →
      reaction.app.store = app.store ∧ KeepsSession app reaction.app) ∧
    (reaction.response.status = 200 → ∃ before after, app.store.settings = .ok before ∧
      reaction.response = .ok after.toJson ∧ asked.Honours before after ∧
      ∀ later, later.target = .route .showSettings → ∀ world,
        (reaction.app.handle later world).response = reaction.response) ∧
    (app.store.Savable → app.store ≠ .directory → ∃ before, app.store.settings = .ok before ∧
      (reaction.response.status = 400 ↔ ¬ asked.Acceptable before) ∧
      (reaction.response.status = 200 ↔ asked.Acceptable before)) := by
  intro reaction
  have hanswered : Answered app asked reaction := h.answered app world
  clear_value reaction
  cases hanswered with
  | refused ready unacceptable =>
      refine ⟨fun _ => ⟨rfl, keepsSession_withSession ready⟩, nofun, fun hsavable _ => ?_⟩
      obtain ⟨before, hbefore⟩ := exists_settings_of_savable hsavable
      exact ⟨before, hbefore, iff_of_true rfl (unacceptable before hbefore),
        iff_of_false nofun (unacceptable before hbefore)⟩
  | broken store =>
      exact ⟨nofun, nofun, fun hsavable hstore => absurd (store hsavable) hstore⟩
  | @changed before after next settings acceptable honours stored =>
      refine ⟨nofun, fun _ => ⟨before, after, settings, rfl, honours, ?_⟩, fun _ _ => ?_⟩
      · intro later hlater world
        rw [handle_showSettings stored hlater, sent_settings (wellFormed_settings stored)]
      · exact ⟨before, settings, iff_of_false nofun (not_not.2 acceptable),
          iff_of_true rfl acceptable⟩

end

/-- The light theme, and three places with blanks around the number. -/
theorem update_refused_or_honoured_light :
    let asked : SettingsRequest := ⟨some "light", none, some " 3 "⟩
    let request : Request := ⟨"PUT", "/api/settings",
      "\x7b\"theme\": \"light\", \"rounding_precision\": \" 3 \"\x7d".toUTF8⟩
    let reaction := offline.handle request midnight
    Updates request asked ∧ reaction.response.status = 200 ∧
      ∃ after : Settings, reaction.response = .ok after.toJson ∧ after.theme.name = "light" ∧
        after.customTheme = none ∧ after.precision.toSetting = "3" := by
  intro asked request reaction
  have hupdates : Updates request asked := ⟨by decide +kernel, by decide +kernel⟩
  have hstatus : reaction.response.status = 200 := by decide +kernel
  obtain ⟨before, after, hbefore, hresponse, hhonours, -⟩ :=
    (update_refused_or_honoured offline hupdates midnight).2.1 hstatus
  have hdefault : offline.store.settings = .ok {} :=
    (settings_eq rfl).trans (congrArg Except.ok settingsOf_defaultFields)
  cases hdefault.symm.trans hbefore
  exact ⟨hupdates, hstatus, after, hresponse, hhonours.theme, hhonours.customTheme,
    hhonours.precision⟩

end App

end Service

end DeskCalculator
