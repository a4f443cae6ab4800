import DeskCalculator.Json.Reader
import DeskCalculator.Proofs.Decimal.Numeral

/-!
# What can be read

A value that has been read fits the limits of reading: it is nested no deeper than
lists and objects may be open at once, its whole numbers have no more digits than
are ever read, and the fields of each of its objects have different names
(`fits_read`).  The invariant is that of a stack: each open container holds values
that fit the room that is left inside it.
-/

namespace DeskCalculator.Json

open Text

/-- Whether a value fits where so many more lists and objects can be opened. -/
inductive Fits : ℕ → Json → Prop
  | null {room : ℕ} : Fits room null
  | bool {room : ℕ} (value : Bool) : Fits room (bool value)
  | integer {room : ℕ} {value : ℤ} (hvalue : value.natAbs < 10 ^ numeralLimit) :
      Fits room (integer value)
  | real {room : ℕ} (value : Float) : Fits room (real value)
  | text {room : ℕ} (value : String) : Fits room (text value)
  | list {room : ℕ} {items : List Json} (hitems : ∀ item ∈ items, Fits room item) :
      Fits (room + 1) (list items)
  | object {room : ℕ} {fields : Fields} (hnames : (fields.map Prod.fst).Nodup)
      (hvalues : ∀ field ∈ fields, Fits room field.2) : Fits (room + 1) (object fields)

/-! ## Fields -/

/-- Whether fields have different names and values that fit. -/
structure FieldsFit (room : ℕ) (fields : Fields) : Prop where
  names : (fields.map Prod.fst).Nodup
  values : ∀ field ∈ fields, Fits room field.2

theorem FieldsFit.nil {room : ℕ} : FieldsFit room [] := ⟨List.nodup_nil, nofun⟩

namespace Fields

variable {fields : Fields} {key : String} {value : Json}

theorem set_of_notMem (h : key ∉ fields.map Prod.fst) :
    fields.set key value = fields ++ [(key, value)] := by
  induction fields with
  | nil => rfl
  | cons field rest ih =>
      obtain ⟨name, old⟩ := field
      rw [List.map_cons, List.mem_cons, not_or] at h
      rw [set, if_neg (Ne.symm h.1), ih h.2, List.cons_append]

/-- Setting a field replaces the one of that name. -/
theorem mem_set_iff (h : (fields.map Prod.fst).Nodup) {field : String × Json} :
    field ∈ fields.set key value ↔ field = (key, value) ∨ field ∈ fields ∧ field.1 ≠ key := by
  induction fields with
  | nil => simp [set]
  | cons first rest ih =>
      obtain ⟨name, old⟩ := first
      rw [List.map_cons, List.nodup_cons] at h
      rw [set]
      split_ifs with hname
      · subst hname
        have hrest : field ∈ rest → field.1 ≠ name := fun hmem hsame =>
          h.1 (List.mem_map.2 ⟨field, hmem, hsame⟩)
        rw [List.mem_cons, List.mem_cons]
        constructor
        · exact Or.imp_right fun hmem => ⟨.inr hmem, hrest hmem⟩
        · rintro (hfield | ⟨rfl | hmem, hother⟩)
          · exact .inl hfield
          · exact absurd rfl hother
          · exact .inr hmem
      · rw [List.mem_cons, List.mem_cons, ih h.2]
        constructor
        · rintro (rfl | hfield | ⟨hmem, hother⟩)
          · exact .inr ⟨.inl rfl, hname⟩
          · exact .inl hfield
          · exact .inr ⟨.inr hmem, hother⟩
        · rintro (hfield | ⟨hfield | hmem, hother⟩)
          · exact .inr (.inl hfield)
          · exact .inl hfield
          · exact .inr (.inr ⟨hmem, hother⟩)

theorem nodup_set (h : (fields.map Prod.fst).Nodup) :
    ((fields.set key value).map Prod.fst).Nodup := by
  induction fields with
  | nil => simp [set]
  | cons first rest ih =>
      obtain ⟨name, old⟩ := first
      rw [List.map_cons, List.nodup_cons] at h
      rw [set]
      split_ifs with hname
      · rw [List.map_cons, List.nodup_cons, ← hname]
        exact h
      · rw [List.map_cons, List.nodup_cons]
        refine ⟨fun hmem => ?_, ih h.2⟩
        obtain ⟨field, hfield, hkey⟩ := List.mem_map.1 hmem
        rcases (mem_set_iff h.2).1 hfield with rfl | ⟨hfield, -⟩
        · exact hname hkey.symm
        · exact h.1 (List.mem_map.2 ⟨field, hfield, hkey⟩)

end Fields

theorem FieldsFit.set {room : ℕ} {fields : Fields} {key : String} {value : Json}
    (h : FieldsFit room fields) (hvalue : Fits room value) :
    FieldsFit room (fields.set key value) where
  names := Fields.nodup_set h.names
  values field hfield := by
    rcases (Fields.mem_set_iff h.names).1 hfield with rfl | ⟨hfield, -⟩
    · exact hvalue
    · exact h.values field hfield

/-! ## Numbers and words -/

private theorem digitsValue_lt {digits : List Char} (h : ∀ c ∈ digits, c.isDigit = true) :
    digitsValue digits < 10 ^ digits.length := by
  induction digits using List.reverseRecOn with
  | nil => decide
  | append_singleton first c ih =>
      have hfirst : ∀ d ∈ first, d.isDigit = true := fun d hd => h d (List.mem_append_left _ hd)
      have hc : c.isDigit = true := h c (by simp)
      have hrange := Entry.toNat_of_isDigit.1 hc
      have hlast : c.toNat - '0'.toNat < 10 := by
        simp only [Char.reduceToNat]
        omega
      have hbound := ih hfirst
      rw [digitsValue_append hfirst (by simpa using hc), Nat.ofDigitChars_cons,
        Nat.ofDigitChars_nil, List.length_append, List.length_singleton, pow_succ]
      omega

/-- A number that has been read is not too long. -/
theorem fits_numberValue {numeral : List Char} {v : Json} {room : ℕ}
    (h : numberValue numeral = .ok v) : Fits room v := by
  unfold numberValue at h
  generalize splitSign numeral = parts at h
  obtain ⟨negative, body⟩ := parts
  have hbound : (∀ c ∈ body, c.isDigit = true) → ¬ numeralLimit < body.length →
      digitsValue body < 10 ^ numeralLimit := fun hdigits hlength =>
    (digitsValue_lt hdigits).trans_le (Nat.pow_le_pow_right (by decide) (not_lt.1 hlength))
  simp only at h
  split_ifs at h with hdigits hlength hnegative
  · cases h
    refine .integer ?_
    rw [Int.natAbs_neg, Int.natAbs_natCast]
    exact hbound (List.all_eq_true.1 hdigits) hlength
  · cases h
    exact .integer (hbound (List.all_eq_true.1 hdigits) hlength)
  · cases h
    exact .real _

/-- Whether the value of a lexeme, if it is a word, fits anywhere. -/
def Lexeme.Fits : Lexeme → Prop
  | word value => ∀ room, Json.Fits room value
  | _ => True

theorem fits_word? {text : List Char} {v : Json} {length room : ℕ}
    (h : word? text = some (v, length)) : Fits room v := by
  obtain ⟨⟨name, value⟩, hfound, hvalue⟩ := Option.map_eq_some_iff.1 h
  cases hvalue
  have hmem := List.mem_of_find?_eq_some hfound
  simp only [words, List.mem_cons, Prod.mk.injEq, List.not_mem_nil, or_false] at hmem
  rcases hmem with ⟨-, rfl⟩ | ⟨-, rfl⟩ | ⟨-, rfl⟩ | ⟨-, rfl⟩ | ⟨-, rfl⟩ | ⟨-, rfl⟩
  · exact .null
  · exact .bool _
  · exact .bool _
  · exact .real _
  · exact .real _
  · exact .real _

theorem fits_lexeme? [Platform] {text : List Char} {lexeme : Lexeme} {length : ℕ}
    (h : lexeme? text = some (lexeme, length)) : lexeme.Fits := by
  unfold lexeme? at h
  split at h
  · cases h
  · simp only at h
    split_ifs at h
    · cases h
      trivial
    · obtain ⟨⟨value, taken⟩, -, hlexeme⟩ := Option.bind_eq_some_iff.1 h
      cases hlexeme
      trivial
    -- what is left is a number, or else a word
    all_goals
      first
      | (cases h; trivial)
      | (obtain ⟨⟨value, length⟩, hword, hlexeme⟩ := Option.bind_eq_some_iff.1 h
         cases hlexeme
         exact fun room => fits_word? hword)

/-! ## Open containers -/

/-- Whether the values in an open container fit the room inside it. -/
def Container.Fits (room : ℕ) : Container → Prop
  | list done => ∀ item ∈ done, Json.Fits room item
  | object done | field done _ => FieldsFit room done

section

variable {limit : ℕ}

/-- Whether this room is left inside the innermost of some open containers, and what they hold
fits. -/
def StackFits (limit : ℕ) : ℕ → List Container → Prop
  | room, [] => room = limit
  | room, container :: rest => container.Fits room ∧ StackFits limit (room + 1) rest

theorem StackFits.length_add : ∀ {opened : List Container} {room : ℕ},
    StackFits limit room opened → opened.length + room = limit
  | [], room, h => by rw [List.length_nil, Nat.zero_add]; exact h
  | container :: rest, room, h => by
      have hrest := StackFits.length_add h.2
      rw [List.length_cons]
      omega

/-- Whether everything that has been read so far fits. -/
def Reading.Fits (limit : ℕ) (reading : Reading) : Prop :=
  ∃ room, StackFits limit room reading.opened ∧ ∀ v, reading.stage = .after v → Json.Fits room v

theorem Reading.Fits.of_after {opened : List Container} {room : ℕ} {v : Json}
    (hopened : StackFits limit room opened) (hv : Json.Fits room v) :
    Reading.Fits limit ⟨opened, .after v⟩ :=
  ⟨room, hopened, fun w hw => by cases hw; exact hv⟩

theorem fits_openContainer {opened : List Container} {container : Container} {stage : Stage}
    {next : Reading} {room : ℕ} (hopened : StackFits limit room opened)
    (h : openContainer limit opened container stage = .ok next)
    (hcontainer : ∀ room, container.Fits room) (hstage : ∀ v, stage ≠ .after v) :
    next.Fits limit := by
  unfold openContainer at h
  split_ifs at h with hroom
  cases h
  -- as another container may be opened, there is room left
  have hlength := hopened.length_add
  obtain ⟨inner, rfl⟩ := Nat.exists_eq_succ_of_ne_zero (show room ≠ 0 by omega)
  exact ⟨inner, ⟨hcontainer inner, hopened⟩, fun v hv => absurd hv (hstage v)⟩

theorem fits_takeValue {opened : List Container} {lexeme : Lexeme} {next : Reading} {room : ℕ}
    (hopened : StackFits limit room opened) (hlexeme : lexeme.Fits)
    (h : takeValue limit opened lexeme = .ok next) : next.Fits limit := by
  unfold takeValue at h
  split at h
  · exact fits_openContainer hopened h (fun room => List.forall_mem_nil _) nofun
  · exact fits_openContainer hopened h (fun room => FieldsFit.nil) nofun
  · cases h
  · cases h
    exact .of_after hopened (.text _)
  · next numeral =>
      cases hvalue : numberValue numeral with
      | error fault =>
          rw [hvalue] at h
          cases h
      | ok v =>
          rw [hvalue] at h
          cases h
          exact .of_after hopened (fits_numberValue hvalue)
  · cases h
    exact .of_after hopened (hlexeme room)

theorem fits_takeKey {opened : List Container} {lexeme : Lexeme} {next : Reading} {room : ℕ}
    (hopened : StackFits limit room opened) (h : takeKey opened lexeme = .ok next) :
    next.Fits limit := by
  unfold takeKey at h
  split at h
  · cases h
    exact ⟨room, hopened, nofun⟩
  · cases h

/-- A step keeps to the limits. -/
theorem Reading.Fits.step {reading next : Reading} {lexeme : Lexeme} (h : reading.Fits limit)
    (hlexeme : lexeme.Fits) (hstep : reading.step limit lexeme = .ok next) : next.Fits limit := by
  obtain ⟨room, hopened, hafter⟩ := h
  unfold Reading.step at hstep
  -- one case for each stage, and behind a value one for each container that it may stand in
  split at hstep
  · exact fits_takeValue hopened hlexeme hstep
  · split at hstep
    · cases hstep
      exact .of_after hopened.2 (.list fun item hitem => hopened.1 item (List.mem_reverse.1 hitem))
    · exact fits_takeValue hopened hlexeme hstep
  · exact fits_takeKey hopened hstep
  · split at hstep
    · cases hstep
      exact .of_after hopened.2 (.object hopened.1.names hopened.1.values)
    · exact fits_takeKey hopened hstep
  · split at hstep
    · cases hstep
      exact ⟨room, hopened, nofun⟩
    · cases hstep
  · next opened value =>
      have hvalue := hafter value rfl
      split at hstep
      · cases hstep
        refine ⟨room, ⟨?_, hopened.2⟩, nofun⟩
        exact List.forall_mem_cons.2 ⟨hvalue, hopened.1⟩
      · cases hstep
        refine .of_after hopened.2 (.list fun item hitem => ?_)
        rcases List.mem_cons.1 (List.mem_reverse.1 hitem) with rfl | hitem
        · exact hvalue
        · exact hopened.1 item hitem
      · cases hstep
        exact ⟨room, ⟨FieldsFit.set hopened.1 hvalue, hopened.2⟩, nofun⟩
      · next done key rest =>
          cases hstep
          have hfields : FieldsFit room (done.set key value) := FieldsFit.set hopened.1 hvalue
          exact .of_after hopened.2 (.object hfields.names hfields.values)
      · cases hstep

/-- What a run gives fits. -/
theorem Reading.Fits.run [Platform] {reading : Reading} {text : List Char} {v : Json}
    (h : reading.Fits limit) (hrun : reading.run limit text = .ok v) : Json.Fits limit v := by
  fun_induction Reading.run limit reading text with
  | case1 reading =>
      unfold Reading.finish at hrun
      split at hrun
      · cases hrun
        -- nothing is open at the end, so the room is all that there is
        obtain ⟨room, hopened, hafter⟩ := h
        obtain rfl : room = limit := hopened
        exact hafter _ rfl
      · cases hrun
  | case2 reading c rest hseparator ih => exact ih h hrun
  | case3 reading c rest hseparator hnone => cases hrun
  | case4 reading c rest hseparator lexeme length hlexeme ih =>
      cases hstep : reading.step limit lexeme with
      | error fault =>
          rw [hstep] at hrun
          cases hrun
      | ok next =>
          rw [hstep] at hrun
          exact ih next (h.step (fits_lexeme? hlexeme) hstep) hrun

end

/-- What has been read fits. -/
theorem fits_read [Platform] {source : JsonSource} {text : String} {v : Json}
    (h : read source text = .ok v) : Fits (Platform.nesting source) v := by
  have hstart : Reading.Fits (Platform.nesting source) ⟨[], .value⟩ := ⟨_, rfl, nofun⟩
  exact hstart.run h

end DeskCalculator.Json
