import DeskCalculator.Proofs.Settings.WellFormed

/-!
# Which palettes are accepted

A value is taken as a palette if it is an object that gives each style variable a
colour, and the palette then consists of just these colours (`accepted_palettes`).
Any other value is refused, and the fault names the style variables that it is about
(`Refused`).

A colour is a number sign with six hexadecimal digits (`IsPlainColour`).  The check lets
one more form through, in which a line feed stands behind the digits (`isColour_iff`),
and a colour of that form is kept with its line feed (`line_feed_is_accepted`).
-/

namespace DeskCalculator

namespace Palette

/-! ## Colours -/

/-- The hexadecimal digits, with letters of either case. -/
def hexadecimalDigits : List Char :=
  ['0', '1', '2', '3', '4', '5', '6', '7', '8', '9', 'a', 'b', 'c', 'd', 'e', 'f',
    'A', 'B', 'C', 'D', 'E', 'F']

/-- Whether a text is a number sign with six hexadecimal digits, and nothing else. -/
def IsPlainColour (text : List Char) : Prop :=
  ∃ digits : List Char, digits.length = 6 ∧ (∀ c ∈ digits, c ∈ hexadecimalDigits) ∧
    text = '#' :: digits

private theorem isHexadecimal_iff {c : Char} : isHexadecimal c = true ↔ c ∈ hexadecimalDigits := by
  have hascii : ∀ code < 128, isHexadecimal (Char.ofNat code) = true ↔
      Char.ofNat code ∈ hexadecimalDigits := by
    decide +kernel
  have hdigits : hexadecimalDigits.all (·.toNat < 128) = true := by decide
  by_cases hc : c.toNat < 128
  · simpa only [Char.ofNat_toNat] using hascii c.toNat hc
  · refine iff_of_false (mt toNat_lt_of_isHexadecimal hc) fun hmem => hc ?_
    simpa using List.all_eq_true.1 hdigits c hmem

/-- What passes for a colour is one, except that a line feed may stand behind it. -/
theorem isColour_iff {text : List Char} : isColour text = true ↔
    IsPlainColour text ∨ ∃ colour, IsPlainColour colour ∧ text = colour ++ ['\n'] := by
  constructor
  · intro h
    unfold isColour at h
    split at h
    · next rest =>
        simp only [Bool.and_eq_true, Bool.or_eq_true, beq_iff_eq, List.all_eq_true,
          isHexadecimal_iff] at h
        obtain ⟨⟨hlength, hdigits⟩, hbehind⟩ := h
        have hplain : IsPlainColour ('#' :: rest.take 6) := ⟨_, hlength, hdigits, rfl⟩
        rw [← List.take_append_drop 6 rest]
        rcases hbehind with hbehind | hbehind <;> rw [hbehind]
        · exact .inl (by rwa [List.append_nil])
        · exact .inr ⟨_, hplain, rfl⟩
    · cases h
  · -- in either form the six digits are followed by what the check expects there
    have hcolour : ∀ digits behind : List Char, digits.length = 6 →
        (∀ c ∈ digits, c ∈ hexadecimalDigits) → behind = [] ∨ behind = ['\n'] →
        isColour ('#' :: (digits ++ behind)) = true := by
      intro digits behind hlength hdigits hbehind
      simp only [isColour, Bool.and_eq_true, Bool.or_eq_true, beq_iff_eq, List.all_eq_true,
        isHexadecimal_iff, List.take_left' hlength, List.drop_left' hlength]
      exact ⟨⟨hlength, hdigits⟩, hbehind⟩
    rintro (⟨digits, hlength, hdigits, rfl⟩ | ⟨_, ⟨digits, hlength, hdigits, rfl⟩, rfl⟩)
    · simpa using hcolour digits [] hlength hdigits (.inl rfl)
    · exact hcolour digits ['\n'] hlength hdigits (.inr rfl)

/-! ## Fields -/

variable {fields : Json.Fields} {palette : Palette} {name colour : String}

theorem colour?_eq_some_iff : colour? fields name = some colour ↔
    fields.get? name = some (.text colour) ∧ isColour colour.toList = true := by
  constructor
  · intro h
    refine ⟨?_, colour?_eq_some h⟩
    unfold colour? at h
    split at h
    · next text hfield =>
        split_ifs at h
        cases h
        exact hfield
    · cases h
  · rintro ⟨hfield, hcolour⟩
    simp only [colour?, hfield, hcolour, if_true]

/-- Whether every style variable is given something that passes for a colour. -/
def GivesColours (fields : Json.Fields) : Prop :=
  ∀ name ∈ styleNames, ∃ colour : String, fields.get? name = some (.text colour) ∧
    (IsPlainColour colour.toList ∨
      ∃ plain, IsPlainColour plain ∧ colour.toList = plain ++ ['\n'])

/-- Whether a palette consists of what the fields give to the style variables. -/
structure TakenFrom (fields : Json.Fields) (palette : Palette) : Prop where
  names : palette.map Prod.fst = styleNames
  given : ∀ entry ∈ palette, fields.get? entry.1 = some (.text entry.2)

/-- Whether a fault says what is wrong with a value.  Variables are named as missing first, and
colours are looked at where none is. -/
inductive Refused (value : Json) : Fault → Prop
  | notAMapping (noObject : value.fields? = none) : Refused value .notAMapping
  | missing {fields : Json.Fields} {names : List String} (object : value = .object fields)
      (nonempty : names ≠ [])
      (listed : ∀ name, name ∈ names ↔ name ∈ styleNames ∧ fields.get? name = none) :
      Refused value (.missing names)
  | notColours {fields : Json.Fields} {names : List String} (object : value = .object fields)
      (complete : ∀ name ∈ styleNames, fields.get? name ≠ none) (nonempty : names ≠ [])
      (listed : ∀ name, name ∈ names ↔ name ∈ styleNames ∧
        ∀ colour, fields.get? name = some (.text colour) → isColour colour.toList = false) :
      Refused value (.notColours names)

theorem givesColours_iff :
    GivesColours fields ↔ ∀ name ∈ styleNames, (colour? fields name).isSome = true := by
  refine forall₂_congr fun name _ => ?_
  simp only [Option.isSome_iff_exists, colour?_eq_some_iff, isColour_iff]

theorem exists_ofFields_eq_ok_iff :
    (∃ palette, ofFields fields = .ok palette) ↔ GivesColours fields := by
  have hwrong : (styleNames.filter fun name => (colour? fields name).isNone) = [] ↔
      GivesColours fields := by
    rw [List.filter_eq_nil_iff, givesColours_iff]
    simp only [Bool.not_eq_true, Option.isNone_eq_false_iff]
  constructor
  · rintro ⟨palette, h⟩
    unfold ofFields at h
    simp only at h
    split_ifs at h with _ hnone
    exact hwrong.1 (not_not.1 hnone)
  · intro h
    -- a variable that has a colour is not missing
    have habsent : (styleNames.filter fun name => (fields.get? name).isNone) = [] := by
      rw [List.filter_eq_nil_iff]
      intro name hname
      obtain ⟨colour, hcolour, -⟩ := h name hname
      rw [hcolour]
      exact Bool.false_ne_true
    unfold ofFields
    simp only [habsent, hwrong.2 h, ne_eq, not_true_eq_false, if_false]
    exact ⟨_, rfl⟩

theorem takenFrom_of_ofFields (h : ofFields fields = .ok palette) : TakenFrom fields palette where
  names := by
    have hread : ofJson (.object fields) = .ok palette := h
    exact (wellFormed_ofJson hread).names
  given entry hentry := by
    unfold ofFields at h
    simp only at h
    split_ifs at h
    cases h
    obtain ⟨name, -, hcolour⟩ := List.mem_filterMap.1 hentry
    obtain ⟨colour, hfound, rfl⟩ := Option.map_eq_some_iff.1 hcolour
    exact (colour?_eq_some_iff.1 hfound).1

/-- What is taken from fields is determined by them. -/
theorem TakenFrom.unique {other : Palette} (h : TakenFrom fields palette)
    (hother : TakenFrom fields other) : palette = other := by
  have hentries : ∀ {taken : Palette}, TakenFrom fields taken →
      taken = styleNames.map fun name =>
        (name, ((fields.get? name).bind Json.text?).getD "") := by
    intro taken htaken
    rw [← htaken.names, List.map_map]
    refine (List.map_id _).symm.trans (List.map_congr_left fun entry hentry => ?_)
    simp only [Function.comp_apply, htaken.given entry hentry]
    rfl
  exact (hentries h).trans (hentries hother).symm

/-- Fields are accepted if they give every style variable a colour, and these colours are kept. -/
theorem ofFields_eq_ok_iff :
    ofFields fields = .ok palette ↔ GivesColours fields ∧ TakenFrom fields palette := by
  constructor
  · intro h
    exact ⟨exists_ofFields_eq_ok_iff.1 ⟨palette, h⟩, takenFrom_of_ofFields h⟩
  · rintro ⟨hgives, htaken⟩
    obtain ⟨found, hfound⟩ := exists_ofFields_eq_ok_iff.2 hgives
    rw [hfound, htaken.unique (takenFrom_of_ofFields hfound)]

/-- Fields that are refused are refused for what is wrong with them. -/
theorem refused_of_ofFields {fault : Fault} (h : ofFields fields = .error fault) :
    Refused (.object fields) fault := by
  unfold ofFields at h
  simp only at h
  split_ifs at h with habsent hwrong
  · cases h
    refine .missing rfl habsent fun name => ?_
    rw [List.mem_filter, Option.isNone_iff_eq_none]
  · cases h
    rw [not_not, List.filter_eq_nil_iff] at habsent
    refine .notColours rfl (fun name hname hnone => ?_) hwrong fun name => ?_
    · exact habsent name hname (by rw [hnone]; rfl)
    · rw [List.mem_filter, Option.isNone_iff_eq_none, Option.eq_none_iff_forall_ne_some]
      simp only [ne_eq, colour?_eq_some_iff, not_and, Bool.not_eq_true]

/-! ## Values -/

private theorem ofJson_of_fields?_eq_none {value : Json} (h : value.fields? = none) :
    ofJson value = .error .notAMapping := by
  cases value with
  | object fields => cases h
  | null | bool | integer | real | text | list => rfl

/-- A value is accepted exactly if it is an object that gives every style variable a colour, behind
which there may be a line feed.  The palette has just the style variables, with the colours that
were given, and any other value is refused for what is wrong with it. -/
theorem accepted_palettes (value : Json) :
    ((∃ palette, ofJson value = .ok palette) ↔
      ∃ fields, value = .object fields ∧ GivesColours fields) ∧
    (∀ palette, ofJson value = .ok palette ↔
      ∃ fields, value = .object fields ∧ GivesColours fields ∧ TakenFrom fields palette) ∧
    ∀ fault, ofJson value = .error fault → Refused value fault := by
  cases hobject : value.fields? with
  | none =>
      have hread := ofJson_of_fields?_eq_none hobject
      have hnone : ∀ fields, value ≠ .object fields := by
        rintro fields rfl
        cases hobject
      simp only [hread, hnone, false_and, exists_false, reduceCtorEq, iff_self, implies_true,
        true_and, Except.error.injEq]
      rintro fault rfl
      exact .notAMapping hobject
  | some fields =>
      have hvalue : value = .object fields := by
        cases value <;> cases hobject
        rfl
      subst hvalue
      simp only [Json.object.injEq, exists_eq_left']
      exact ⟨exists_ofFields_eq_ok_iff, fun palette => ofFields_eq_ok_iff,
        fun fault => refused_of_ofFields⟩

/-- Another field does no harm, and is left out. -/
theorem accepted_palettes_dark :
    let fields : Json.Fields := ("note", .null) :: dark.toFields
    GivesColours fields ∧ TakenFrom fields dark ∧ ofJson (.object fields) = .ok dark := by
  intro fields
  have hgives : GivesColours fields := givesColours_iff.2 (by decide)
  have htaken : TakenFrom fields dark := by
    refine ⟨rfl, fun entry hentry => ?_⟩
    have hname : entry.1 ≠ "note" := by
      have hnames : ∀ entry ∈ dark, entry.1 ≠ "note" := by decide
      exact hnames entry hentry
    rw [Json.Fields.get?_cons, if_neg hname, get?_toFields nodup_styleNames hentry]
  exact ⟨hgives, htaken, ((accepted_palettes _).2.1 dark).2 ⟨fields, rfl, hgives, htaken⟩⟩

/-- A colour with a line feed behind it is not plain, but it is accepted and kept as it is. -/
theorem line_feed_is_accepted :
    let fields := Json.Fields.set dark.toFields "--bg-primary" (.text "#111827\n")
    ¬ IsPlainColour "#111827\n".toList ∧
      ∃ palette, ofJson (.object fields) = .ok palette ∧
        ("--bg-primary", "#111827\n") ∈ palette := by
  intro fields
  refine ⟨?_, ?_⟩
  · rintro ⟨digits, hlength, -, htext⟩
    have hlong := congrArg List.length htext
    rw [List.length_cons, hlength] at hlong
    exact absurd hlong (by decide)
  · obtain ⟨palette, hpalette⟩ := exists_ofFields_eq_ok_iff.2
      (givesColours_iff.2 (by decide) : GivesColours fields)
    have htaken := takenFrom_of_ofFields hpalette
    have hname : "--bg-primary" ∈ palette.map Prod.fst := by
      rw [htaken.names]
      decide
    obtain ⟨⟨name, colour⟩, hentry, rfl⟩ := List.mem_map.1 hname
    have hgiven := htaken.given _ hentry
    rw [Json.Fields.get?_set, if_pos rfl] at hgiven
    cases hgiven
    exact ⟨palette, hpalette, hentry⟩

end Palette

end DeskCalculator
