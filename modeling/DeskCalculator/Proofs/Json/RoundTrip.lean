import DeskCalculator.Proofs.Json.Fits
import DeskCalculator.Proofs.Json.Lexeme

/-!
# What has been written is read back

The indented text of a value that fits the limits of reading denotes that value
(`read_indented`).  The proof follows the writer: the pieces of each value, of the
further items of a list and of the further fields of an object lead the reader from
one state to the next, whatever containers are open around them.
-/

namespace DeskCalculator.Json

variable {limit : ℕ} {reading next : Reading} {opened : List Container} {stage : Stage}
  {rest : List Char}

/-! ## One lexeme -/

section

variable [Platform]

/-- No lexeme starts with a blank. -/
theorem lexeme?_of_isSeparator {c : Char} (h : isSeparator c = true) :
    lexeme? (c :: rest) = none := by
  simp only [isSeparator, decide_eq_true_eq, List.mem_cons, List.not_mem_nil, or_false] at h
  rcases h with rfl | rfl | rfl | rfl <;> rfl

/-- A lexeme is taken, and the run goes on behind it. -/
theorem run_append {chars : List Char} {lexeme : Lexeme} (hne : chars ≠ [])
    (hlexeme : lexeme? (chars ++ rest) = some (lexeme, chars.length))
    (hstep : reading.step limit lexeme = .ok next) :
    reading.run limit (chars ++ rest) = next.run limit rest := by
  cases chars with
  | nil => exact absurd rfl hne
  | cons c others =>
      rw [List.cons_append] at hlexeme ⊢
      have hseparator : ¬ isSeparator c = true := by
        intro h
        rw [lexeme?_of_isSeparator h] at hlexeme
        cases hlexeme
      have hdrop : (others ++ rest).drop ((c :: others).length - 1) = rest := by simp
      rw [Reading.run, if_neg hseparator, hlexeme]
      simp only [hstep, hdrop]
      rfl

/-- Blanks before a lexeme are skipped. -/
theorem run_blanks {gap : List Char} (h : ∀ c ∈ gap, isSeparator c = true) :
    reading.run limit (gap ++ rest) = reading.run limit rest := by
  induction gap with
  | nil => rfl
  | cons c others ih =>
      rw [List.cons_append, Reading.run, if_pos (h c List.mem_cons_self)]
      exact ih fun d hd => h d (List.mem_cons_of_mem _ hd)

theorem run_newLine (level : ℕ) :
    reading.run limit (newLine level ++ rest) = reading.run limit rest := by
  refine run_blanks fun c hc => ?_
  rcases List.mem_cons.1 hc with rfl | hc
  · decide
  · rw [List.eq_of_mem_replicate hc]
    decide

theorem run_mark {c : Char} (hc : c ∈ ['[', ']', '{', '}', ',', ':'])
    (hstep : reading.step limit (.mark c) = .ok next) :
    reading.run limit (c :: rest) = next.run limit rest := by
  have hlexeme : lexeme? ([c] ++ rest) = some (.mark c, [c].length) := by
    simp only [lexeme?, List.singleton_append, hc, if_true, List.length_singleton]
  exact run_append (List.cons_ne_nil _ _) hlexeme hstep

/-- The key of a field. -/
theorem run_key {done : Fields} {key : String} {stage : Stage}
    (hstage : stage = .key ∨ stage = .firstKey) :
    Reading.run limit ⟨.object done :: opened, stage⟩ (writeText key ++ rest) =
      Reading.run limit ⟨.field done key :: opened, .colon⟩ rest := by
  refine run_append (List.cons_ne_nil _ _) (lexeme?_writeText key rest) ?_
  rcases hstage with rfl | rfl <;> rfl

/-- The colon and the blank behind a key. -/
theorem run_colon : Reading.run limit ⟨opened, .colon⟩ ([':', ' '] ++ rest) =
    Reading.run limit ⟨opened, .value⟩ rest := by
  have hcolon : Reading.step limit ⟨opened, .colon⟩ (.mark ':') = .ok ⟨opened, .value⟩ := rfl
  rw [List.cons_append, run_mark (by decide) hcolon]
  exact run_blanks (by simp [isSeparator])

end

/-! ## Values without parts -/

/-- Whether a value is due. -/
def Stage.Due (stage : Stage) : Prop := stage = .value ∨ stage = .firstItem

theorem step_of_due {lexeme : Lexeme} (hstage : stage.Due)
    (h : takeValue limit opened lexeme = .ok next) :
    Reading.step limit ⟨opened, stage⟩ lexeme = .ok next := by
  rcases hstage with rfl | rfl
  · exact h
  · unfold Reading.step
    simp only
    split
    · cases h
    · exact h

theorem run_gives [Platform] {chars : List Char} {v : Json} (h : Gives chars v) (hstage : stage.Due)
    (hrest : Delimits rest) :
    Reading.run limit ⟨opened, stage⟩ (chars ++ rest) =
      Reading.run limit ⟨opened, .after v⟩ rest := by
  have hne : chars ≠ [] := by
    rintro rfl
    obtain ⟨lexeme, hlexeme, -⟩ := h [] nofun
    cases hlexeme
  obtain ⟨lexeme, hlexeme, hvalue⟩ := h rest hrest
  exact run_append hne hlexeme (step_of_due hstage (hvalue limit opened))

/-! ## Lists and objects -/

private theorem takeValue_bracket {room : ℕ} (hroom : opened.length + (room + 1) = limit) :
    takeValue limit opened (.mark '[') = .ok ⟨.list [] :: opened, .firstItem⟩ :=
  if_pos (by omega)

private theorem takeValue_brace {room : ℕ} (hroom : opened.length + (room + 1) = limit) :
    takeValue limit opened (.mark '{') = .ok ⟨.object [] :: opened, .firstKey⟩ :=
  if_pos (by omega)

/-- A value without parts is one piece. -/
theorem flatten_atom {v : Json} (level : ℕ) (hlist : ∀ first rest, v ≠ list (first :: rest))
    (hobject : ∀ key first rest, v ≠ object ((key, first) :: rest)) :
    (indentedPieces level v).flatten = writeAtom v := by
  rw [indentedPieces, List.flatten_singleton]
  · exact hlist
  · exact hobject

theorem run_atom [Platform] {v : Json} (level : ℕ) (hlist : ∀ first rest, v ≠ list (first :: rest))
    (hobject : ∀ key first rest, v ≠ object ((key, first) :: rest)) (h : Gives (writeAtom v) v)
    (hstage : stage.Due) (hrest : Delimits rest) :
    Reading.run limit ⟨opened, stage⟩ ((indentedPieces level v).flatten ++ rest) =
      Reading.run limit ⟨opened, .after v⟩ rest := by
  rw [flatten_atom level hlist hobject]
  exact run_gives h hstage hrest

/-- A string makes one piece with what comes before it, which does not change the text. -/
theorem flatten_behindSeparator (before : List Char) (level : ℕ) (item : Json) :
    (behindSeparator before item (indentedPieces level item)).flatten =
      before ++ (indentedPieces level item).flatten := by
  cases item with
  | text value => simp [behindSeparator, indentedPieces, writeAtom]
  | _ => rfl

theorem delimits_comma : Delimits (',' :: rest) := by
  intro c hc
  cases hc
  decide

theorem delimits_newLine (level : ℕ) : Delimits (newLine level ++ rest) := by
  intro c hc
  cases hc
  decide

theorem delimits_itemPieces (level : ℕ) (items : List Json) :
    Delimits ((itemPieces level items).flatten ++ rest) := by
  cases items with
  | nil =>
      rw [itemPieces, List.flatten_cons, List.append_assoc]
      exact delimits_newLine level
  | cons item items =>
      rw [itemPieces, List.flatten_append, flatten_behindSeparator]
      exact delimits_comma

theorem delimits_fieldPieces (level : ℕ) (fields : Fields) :
    Delimits ((fieldPieces level fields).flatten ++ rest) := by
  cases fields with
  | nil =>
      rw [fieldPieces, List.flatten_cons, List.append_assoc]
      exact delimits_newLine level
  | cons field fields =>
      obtain ⟨key, value⟩ := field
      rw [fieldPieces, List.flatten_cons]
      exact delimits_comma

/-- A field with a new name goes to the end. -/
theorem set_of_nodup {done fields : Fields} {key : String} {last : Json}
    (h : ((done ++ (key, last) :: fields).map Prod.fst).Nodup) :
    done.set key last = done ++ [(key, last)] := by
  refine Fields.set_of_notMem fun hmem => ?_
  rw [List.map_append, List.map_cons, List.nodup_append] at h
  exact h.2.2 key hmem key List.mem_cons_self rfl

variable [Platform]

mutual

-- The recursion is on the value and on the parts that are still to come.  What is open and the room
-- that the value needs add up to the limit, and each container takes one from the room.

/-- The text of a value leads to that value. -/
theorem run_indented : ∀ {v : Json} {room : ℕ}, Fits room v → ∀ {opened : List Container}
    {stage : Stage} {rest : List Char} (level : ℕ), opened.length + room = limit →
    stage.Due → Delimits rest →
    Reading.run limit ⟨opened, stage⟩ ((indentedPieces level v).flatten ++ rest) =
      Reading.run limit ⟨opened, .after v⟩ rest
  | null, _, _, _, _, _, level, _, hstage, hrest =>
      run_atom level (by simp) (by simp) gives_null hstage hrest
  | bool value, _, _, _, _, _, level, _, hstage, hrest =>
      run_atom level (by simp) (by simp) (gives_bool value) hstage hrest
  | integer _, _, .integer hvalue, _, _, _, level, _, hstage, hrest =>
      run_atom level (by simp) (by simp) (gives_integer hvalue) hstage hrest
  | real value, _, _, _, _, _, level, _, hstage, hrest =>
      run_atom level (by simp) (by simp) (gives_real value) hstage hrest
  | text value, _, _, _, _, _, level, _, hstage, hrest =>
      run_atom level (by simp) (by simp) (gives_text value) hstage hrest
  | list [], _, .list _, opened, _, rest, _, hroom, hstage, _ => by
      have hclose : Reading.step limit ⟨.list [] :: opened, .firstItem⟩ (.mark ']') =
          .ok ⟨opened, .after (.list [])⟩ := rfl
      rw [flatten_atom _ (by simp) (by simp), writeAtom, List.cons_append,
        run_mark (by decide) (step_of_due hstage (takeValue_bracket hroom)), List.singleton_append,
        run_mark (by decide) hclose]
  | list (first :: items), room + 1, .list hitems, opened, _, rest, level, hroom, hstage, _ => by
      obtain ⟨hfirst, hitems⟩ := List.forall_mem_cons.1 hitems
      have hinner : (Container.list [] :: opened).length + room = limit := by
        rw [List.length_cons, ← hroom]
        omega
      -- the bracket opens the list, and its first item is due on a new line
      rw [indentedPieces, List.flatten_append, flatten_behindSeparator, List.append_assoc,
        List.append_assoc, List.cons_append,
        run_mark (by decide) (step_of_due hstage (takeValue_bracket hroom)), run_newLine,
        run_indented hfirst _ hinner (.inr rfl) (delimits_itemPieces _ _),
        run_itemPieces items hitems level hroom]
      rfl
  | object [], _, .object _ _, opened, _, rest, _, hroom, hstage, _ => by
      have hclose : Reading.step limit ⟨.object [] :: opened, .firstKey⟩ (.mark '}') =
          .ok ⟨opened, .after (.object [])⟩ := rfl
      rw [flatten_atom _ (by simp) (by simp), writeAtom, List.cons_append,
        run_mark (by decide) (step_of_due hstage (takeValue_brace hroom)), List.singleton_append,
        run_mark (by decide) hclose]
  | object ((key, first) :: fields), room + 1, .object hnames hvalues, opened, _, rest, level,
      hroom, hstage, _ => by
      obtain ⟨hfirst, hfields⟩ := List.forall_mem_cons.1 hvalues
      have hinner : (Container.field [] key :: opened).length + room = limit := by
        rw [List.length_cons, ← hroom]
        omega
      rw [indentedPieces]
      simp only [List.flatten_cons, List.flatten_append, List.append_assoc]
      rw [List.cons_append, List.nil_append,
        run_mark (by decide) (step_of_due hstage (takeValue_brace hroom)), run_newLine,
        run_key (.inr rfl), run_colon,
        run_indented hfirst _ hinner (.inl rfl) (delimits_fieldPieces _ _),
        run_fieldPieces fields hfields level hroom hnames]
      rfl

/-- The text of the further items of a list completes it. -/
theorem run_itemPieces : ∀ (items : List Json) {room : ℕ}, (∀ item ∈ items, Fits room item) →
    ∀ {opened : List Container} {done : List Json} {last : Json} {rest : List Char} (level : ℕ),
    opened.length + (room + 1) = limit →
    Reading.run limit ⟨.list done :: opened, .after last⟩
        ((itemPieces level items).flatten ++ rest) =
      Reading.run limit ⟨opened, .after (.list ((last :: done).reverse ++ items))⟩ rest
  | [], _, _, opened, done, last, rest, level, _ => by
      have hclose : Reading.step limit ⟨.list done :: opened, .after last⟩ (.mark ']') =
          .ok ⟨opened, .after (.list (last :: done).reverse)⟩ := rfl
      rw [itemPieces, List.flatten_cons, List.flatten_singleton, List.append_assoc, run_newLine,
        List.singleton_append, run_mark (by decide) hclose, List.append_nil]
  | item :: items, room, hitems, opened, done, last, rest, level, hroom => by
      obtain ⟨hitem, hitems⟩ := List.forall_mem_cons.1 hitems
      have hinner : (Container.list (last :: done) :: opened).length + room = limit := by
        rw [List.length_cons, ← hroom]
        omega
      have hcomma : Reading.step limit ⟨.list done :: opened, .after last⟩ (.mark ',') =
          .ok ⟨.list (last :: done) :: opened, .value⟩ := rfl
      rw [itemPieces, List.flatten_append, flatten_behindSeparator, List.append_assoc,
        List.append_assoc, List.cons_append, run_mark (by decide) hcomma, run_newLine,
        run_indented hitem _ hinner (.inl rfl) (delimits_itemPieces _ _),
        run_itemPieces items hitems level hroom]
      simp

/-- The text of the further fields of an object completes it. -/
theorem run_fieldPieces : ∀ (fields : Fields) {room : ℕ}, (∀ field ∈ fields, Fits room field.2) →
    ∀ {opened : List Container} {done : Fields} {key : String} {last : Json} {rest : List Char}
    (level : ℕ), opened.length + (room + 1) = limit →
    ((done ++ (key, last) :: fields).map Prod.fst).Nodup →
    Reading.run limit ⟨.field done key :: opened, .after last⟩
        ((fieldPieces level fields).flatten ++ rest) =
      Reading.run limit ⟨opened, .after (.object (done ++ (key, last) :: fields))⟩ rest
  | [], _, _, opened, done, key, last, rest, level, _, hnames => by
      have hset : done.set key last = done ++ [(key, last)] := set_of_nodup hnames
      have hclose : Reading.step limit ⟨.field done key :: opened, .after last⟩ (.mark '}') =
          .ok ⟨opened, .after (.object (done.set key last))⟩ := rfl
      rw [fieldPieces, List.flatten_cons, List.flatten_singleton, List.append_assoc, run_newLine,
        List.singleton_append, run_mark (by decide) hclose, hset]
  | (name, value) :: fields, room, hvalues, opened, done, key, last, rest, level, hroom,
      hnames => by
      obtain ⟨hvalue, hfields⟩ := List.forall_mem_cons.1 hvalues
      have hinner : (Container.field (done.set key last) name :: opened).length + room =
          limit := by
        rw [List.length_cons, ← hroom]
        omega
      -- the name is a new one, so the field that is complete now goes to the end
      have hset : done.set key last = done ++ [(key, last)] := set_of_nodup hnames
      have hsplit : done ++ (key, last) :: (name, value) :: fields =
          (done ++ [(key, last)]) ++ (name, value) :: fields := by simp
      have hcomma : Reading.step limit ⟨.field done key :: opened, .after last⟩ (.mark ',') =
          .ok ⟨.object (done.set key last) :: opened, .key⟩ := rfl
      rw [fieldPieces]
      simp only [List.flatten_cons, List.flatten_append, List.append_assoc]
      rw [List.cons_append, run_mark (by decide) hcomma, run_newLine, run_key (.inl rfl), run_colon,
        run_indented hvalue _ hinner (.inl rfl) (delimits_fieldPieces _ _), hset,
        run_fieldPieces fields hfields level hroom (hsplit ▸ hnames), ← hsplit]

end

/-- The indented text of a value that fits denotes it. -/
theorem read_indented {source : JsonSource} {v : Json} (h : Fits (Platform.nesting source) v) :
    read source v.indented = .ok v := by
  have hrun := @run_indented _ _ v _ h [] .value [] 0 (Nat.zero_add _) (.inl rfl) nofun
  rw [List.append_nil] at hrun
  rw [read, indented, String.toList_ofList, hrun, Reading.run]
  rfl

end DeskCalculator.Json
