import DeskCalculator.Proofs.Json.RoundTrip

/-!
# What can be written

Whether the indented text of a value can be written to its end does not depend on
the level that it is written on (`all_indentedPieces`).  So an object can be written
if its keys can be encoded and its values written (`isWritable_object`), and a
string if it can be encoded itself.
-/

namespace DeskCalculator

open Text

variable [Platform]

/-! ## Texts that can be encoded -/

theorem Text.isEncodable_iff {text : List Char} :
    isEncodable text = true ↔ ∀ c ∈ text, isHalf c = false := by
  simp [isEncodable]

theorem Text.isEncodable_append (first second : List Char) :
    isEncodable (first ++ second) = (isEncodable first && isEncodable second) := by
  simp [isEncodable]

/-- No half of a surrogate pair stands below those that are set apart for them. -/
theorem Text.isHalf_eq_false {c : Char} (h : c.toNat < 0x40000) : isHalf c = false := by
  have hfirst := Platform.le_firstHalf
  simp only [isHalf, Bool.and_eq_false_imp, decide_eq_true_eq]
  omega

/-- Nothing within ASCII is half of a surrogate pair. -/
theorem Text.isEncodable_of_ascii {text : List Char} (h : ∀ c ∈ text, c.toNat < 128) :
    isEncodable text = true :=
  isEncodable_iff.2 fun c hc => isHalf_eq_false ((h c hc).trans (by decide))

theorem Text.isEncodable_of_all {text : List Char} (h : text.all (·.toNat < 128) = true) :
    isEncodable text = true :=
  isEncodable_of_ascii fun c hc => of_decide_eq_true (List.all_eq_true.1 h c hc)

namespace Json

/-- An escape neither brings in half of a surrogate pair nor hides one. -/
theorem isEncodable_escaped (c : Char) : isEncodable (escaped c) = !isHalf c := by
  -- whatever is escaped is within ASCII, and so is its escape
  have hascii : c.toNat < 128 → (escaped c).all (·.toNat < 128) = true →
      isEncodable (escaped c) = !isHalf c := fun hc hescape => by
    rw [isEncodable_of_all hescape, isHalf_eq_false (hc.trans (by decide)), Bool.not_false]
  unfold escaped at hascii ⊢
  split_ifs at hascii ⊢ with hmark hfeed hreturn htab hback hform hcontrol
  · rcases hmark with rfl | rfl <;> exact hascii (by decide) (by decide)
  · subst hfeed
    exact hascii (by decide) (by decide)
  · subst hreturn
    exact hascii (by decide) (by decide)
  · subst htab
    exact hascii (by decide) (by decide)
  · exact hascii (by omega) (by decide)
  · exact hascii (by omega) (by decide)
  · have hall : ∀ code < 0x20, ('\\' :: 'u' :: hexadecimal 4 code).all (·.toNat < 128) = true := by
      decide
    exact hascii (by omega) (hall _ hcontrol)
  · simp [isEncodable]

theorem isEncodable_writeText (value : String) :
    isEncodable (writeText value) = isEncodable value.toList := by
  have hquote : isEncodable ['"'] = true := isEncodable_of_all (by decide)
  rw [writeText, ← List.singleton_append, isEncodable_append, isEncodable_append, hquote,
    Bool.true_and, Bool.and_true, isEncodable, List.all_flatMap]
  exact List.all_congr rfl isEncodable_escaped

theorem isEncodable_newLine (level : ℕ) : isEncodable (newLine level) = true := by
  refine isEncodable_of_ascii fun c hc => ?_
  rcases List.mem_cons.1 hc with rfl | hc
  · decide
  · rw [List.eq_of_mem_replicate hc]
    decide

/-- A mark and the line break behind it. -/
theorem isEncodable_markLine {c : Char} (hc : c.toNat < 128) (level : ℕ) :
    isEncodable (c :: newLine level) = true := by
  rw [← List.singleton_append, isEncodable_append, isEncodable_newLine, Bool.and_true]
  exact isEncodable_of_ascii (by simpa using hc)

theorem isEncodable_opening : isEncodable ['{'] = true :=
  isEncodable_of_all (by decide)

theorem isEncodable_colon : isEncodable [':', ' '] = true :=
  isEncodable_of_all (by decide)

/-! ## Values -/

theorem all_behindSeparator (before : List Char) (level : ℕ) (item : Json) :
    (behindSeparator before item (indentedPieces level item)).all isEncodable =
      (isEncodable before && (indentedPieces level item).all isEncodable) := by
  cases item with
  | text value => simp [behindSeparator, indentedPieces, writeAtom, isEncodable_append]
  | _ => rfl

theorem all_atom {v : Json} (level : ℕ) (hlist : ∀ first rest, v ≠ list (first :: rest))
    (hobject : ∀ key first rest, v ≠ object ((key, first) :: rest)) :
    (indentedPieces level v).all isEncodable = isEncodable (writeAtom v) := by
  rw [indentedPieces, List.all_cons, List.all_nil, Bool.and_true]
  · exact hlist
  · exact hobject

mutual

-- Only keys and strings decide, and the line breaks between them never do.

/-- Whether a value can be written is the same on every level. -/
theorem all_indentedPieces : ∀ (v : Json) (level : ℕ),
    (indentedPieces level v).all isEncodable = v.isWritable
  | list (first :: items), level => by
      have hparts : ∀ level, (indentedPieces level (list (first :: items))).all isEncodable =
          (first.isWritable && items.all isWritable) := by
        intro level
        rw [indentedPieces, List.all_append, all_behindSeparator, isEncodable_markLine (by decide),
          Bool.true_and, all_indentedPieces first, all_itemPieces items]
      rw [isWritable, hparts, hparts]
  | object ((key, first) :: fields), level => by
      have hparts : ∀ level, (indentedPieces level (object ((key, first) :: fields))).all
          isEncodable = (isEncodable key.toList && (first.isWritable &&
            fields.all fun field => isEncodable field.1.toList && field.2.isWritable)) := by
        intro level
        rw [indentedPieces, List.all_cons, List.all_cons, List.all_cons, List.all_cons,
          List.all_append, isEncodable_opening, isEncodable_newLine, isEncodable_writeText,
          isEncodable_colon, all_indentedPieces first, all_fieldPieces fields]
        rfl
      rw [isWritable, hparts, hparts]
  | list [], level => by
      rw [isWritable, all_atom _ (by simp) (by simp), all_atom _ (by simp) (by simp)]
  | object [], level => by
      rw [isWritable, all_atom _ (by simp) (by simp), all_atom _ (by simp) (by simp)]
  | null, level => by
      rw [isWritable, all_atom _ (by simp) (by simp), all_atom _ (by simp) (by simp)]
  | bool value, level => by
      rw [isWritable, all_atom _ (by simp) (by simp), all_atom _ (by simp) (by simp)]
  | integer value, level => by
      rw [isWritable, all_atom _ (by simp) (by simp), all_atom _ (by simp) (by simp)]
  | real value, level => by
      rw [isWritable, all_atom _ (by simp) (by simp), all_atom _ (by simp) (by simp)]
  | text value, level => by
      rw [isWritable, all_atom _ (by simp) (by simp), all_atom _ (by simp) (by simp)]

theorem all_itemPieces : ∀ (items : List Json) (level : ℕ),
    (itemPieces level items).all isEncodable = items.all isWritable
  | [], level => by
      rw [itemPieces, List.all_cons, isEncodable_newLine, List.all_cons,
        isEncodable_of_all (by decide)]
      rfl
  | item :: items, level => by
      rw [itemPieces, List.all_append, all_behindSeparator, isEncodable_markLine (by decide),
        Bool.true_and, all_indentedPieces item, all_itemPieces items, List.all_cons]

theorem all_fieldPieces : ∀ (fields : Fields) (level : ℕ),
    (fieldPieces level fields).all isEncodable =
      fields.all fun field => isEncodable field.1.toList && field.2.isWritable
  | [], level => by
      rw [fieldPieces, List.all_cons, isEncodable_newLine, List.all_cons,
        isEncodable_of_all (by decide)]
      rfl
  | (key, value) :: fields, level => by
      rw [fieldPieces, List.all_cons, List.all_cons, List.all_cons, List.all_append,
        isEncodable_markLine (by decide), isEncodable_writeText, isEncodable_colon,
        all_indentedPieces value, all_fieldPieces fields, List.all_cons, Bool.and_assoc]
      rfl

end

/-- An object can be written if its keys can be encoded and its values written. -/
theorem isWritable_object (fields : Fields) : (object fields).isWritable =
    fields.all fun field => isEncodable field.1.toList && field.2.isWritable := by
  cases fields with
  | nil =>
      rw [isWritable, all_atom _ (by simp) (by simp)]
      exact isEncodable_of_all (by decide)
  | cons field fields =>
      obtain ⟨key, first⟩ := field
      rw [isWritable, indentedPieces, List.all_cons, List.all_cons, List.all_cons, List.all_cons,
        List.all_append, isEncodable_opening, isEncodable_newLine, isEncodable_writeText,
        isEncodable_colon, all_indentedPieces first, all_fieldPieces fields, List.all_cons,
        Bool.and_assoc]
      rfl

theorem isWritable_null : null.isWritable = true := by
  rw [isWritable, all_atom _ (by simp) (by simp)]
  exact isEncodable_of_all (by decide)

theorem isWritable_text (value : String) :
    (text value).isWritable = isEncodable value.toList := by
  rw [isWritable, all_atom _ (by simp) (by simp)]
  exact isEncodable_writeText value

end Json

end DeskCalculator
