import DeskCalculator.Proofs.Expr.Machine
import DeskCalculator.Remote.Client
import Mathlib.Data.List.Forall2

/-!
# The answer in a payload, or what is wrong with it

A payload has an answer if it can be read, and what is read has parts that all say
something: the answer is what they say together (`Answers`).  Otherwise there is a reason
why it has none (`Fails`).  Both are told from the text of the payload and the shape of the
value in it, and one of the two always comes of reading an answer from it
(`answers_iff`, `fails_iff`).
-/

namespace DeskCalculator.Remote

/-! ## Answers and failures -/

/-- Whether a part says a text: it is an object with this text, or one without any, and then it says
nothing. -/
def PartSays (part : Json) (text : String) : Prop :=
  ∃ fields : Json.Fields, part = .object fields ∧
    (fields.get? "text" = some (.text text) ∨ fields.get? "text" = none ∧ text = "")

/-- Whether a payload has an answer: it can be read, it has parts, and the answer consists of what
these say. -/
def Answers [Platform] (payload answer : String) : Prop :=
  ∃ value parts texts, Json.read .reply payload = .ok value ∧
    (parts? value).bind items? = some parts ∧
    List.Forall₂ PartSays parts texts ∧ answer = String.join texts

/-- Why a payload that can be read has no answer: it has no parts, one of these is no object, or all
are but one has something else than a string for its text. -/
inductive Defect (value : Json) : Failure → Prop
  | shape (none : (parts? value).bind items? = none) : Defect value .unexpectedPayload
  | part {part : Json} {parts : List Json} (found : (parts? value).bind items? = some parts)
      (mem : part ∈ parts) (notObject : part.fields? = none) : Defect value .partNotObject
  | text {part : Json} {parts : List Json} (found : (parts? value).bind items? = some parts)
      (objects : ∀ part ∈ parts, part.fields? ≠ none) (mem : part ∈ parts)
      (silent : ∀ text, ¬ PartSays part text) : Defect value .unexpectedPayload

/-- Why a payload has no answer: it nests too deeply, it is not read for another reason, with the
ordinary failure `failed`, or what is read has a defect. -/
inductive Fails [Platform] (failed : Failure) (payload : String) : Failure → Prop
  | nested (read : Json.read .reply payload = .error .tooDeep) : Fails failed payload .tooDeep
  | unread {fault : Json.ReadFault} (read : Json.read .reply payload = .error fault)
      (shallow : fault ≠ .tooDeep) : Fails failed payload failed
  | defect {value : Json} {failure : Failure} (read : Json.read .reply payload = .ok value)
      (h : Defect value failure) : Fails failed payload failure

/-! ## What the parts say -/

private theorem partSays_iff {part : Json} {text : String} :
    PartSays part text ↔ partText part = .ok (.text text) := by
  cases part with
  | object fields =>
      simp only [PartSays, partText, Json.fields?, Json.object.injEq, exists_eq_left',
        Except.ok.injEq]
      cases Json.Fields.get? fields "text" <;> simp [eq_comm]
  | null | bool | integer | real | text | list =>
      refine iff_of_false ?_ nofun
      rintro ⟨fields, hfields, -⟩
      cases hfields

/-- Parts that can all be asked for a text, and have only strings for it, say these texts. -/
theorem forall₂_partSays_iff {parts : List Json} {texts : List String} :
    List.Forall₂ PartSays parts texts ↔ ∃ values, parts.mapM partText = .ok values ∧
      values.mapM Json.text? = some texts := by
  induction parts generalizing texts with
  | nil =>
      rw [List.forall₂_nil_left_iff]
      constructor
      · rintro rfl
        exact ⟨[], rfl, rfl⟩
      · rintro ⟨values, hvalues, htexts⟩
        cases hvalues
        cases htexts
        rfl
  | cons part rest ih =>
      rw [List.forall₂_cons_left_iff, List.mapM_cons]
      constructor
      · rintro ⟨text, others, hpart, hrest, rfl⟩
        obtain ⟨values, hvalues, htexts⟩ := ih.1 hrest
        refine ⟨.text text :: values, ?_, ?_⟩
        · rw [partSays_iff.1 hpart, hvalues]
          rfl
        · rw [List.mapM_cons, htexts]
          rfl
      · rintro ⟨values, hvalues, htexts⟩
        obtain ⟨value, hvalue, hvalues⟩ := Expr.bind_eq_ok hvalues
        obtain ⟨others, hothers, hvalues⟩ := Expr.bind_eq_ok hvalues
        cases hvalues
        rw [List.mapM_cons] at htexts
        obtain ⟨text, htext, htexts⟩ := Option.bind_eq_some_iff.1 htexts
        obtain ⟨furtherTexts, hfurther, htexts⟩ := Option.bind_eq_some_iff.1 htexts
        cases htexts
        have hstring : value = .text text := by
          cases value <;> cases htext
          rfl
        subst hstring
        exact ⟨text, furtherTexts, partSays_iff.2 hvalue, ih.2 ⟨others, hothers, hfurther⟩, rfl⟩

/-- All parts can be asked for a text unless one of them is no object. -/
theorem mapM_partText_eq_error_iff {parts : List Json} {failure : Failure} :
    parts.mapM partText = .error failure ↔
      failure = .partNotObject ∧ ∃ part ∈ parts, part.fields? = none := by
  induction parts with
  | nil => exact iff_of_false nofun (by simp)
  | cons part rest ih =>
      rw [List.mapM_cons]
      cases hfields : part.fields? with
      | none =>
          have hpart : partText part = .error .partNotObject := by rw [partText, hfields]
          rw [hpart]
          show Except.error Failure.partNotObject = Except.error failure ↔ _
          simp [hfields, eq_comm]
      | some fields =>
          have hpart : partText part = .ok ((fields.get? "text").getD (.text "")) := by
            rw [partText, hfields]
          rw [hpart]
          show (rest.mapM partText >>= fun texts => pure (_ :: texts)) = Except.error failure ↔ _
          simp only [List.mem_cons, exists_eq_or_imp, hfields, reduceCtorEq, false_or, ← ih]
          cases rest.mapM partText with
          | error cause => rfl
          | ok texts => exact iff_of_false nofun nofun

/-- Parts say something together if each says something. -/
theorem exists_forall₂_partSays_iff {parts : List Json} :
    (∃ texts, List.Forall₂ PartSays parts texts) ↔ ∀ part ∈ parts, ∃ text, PartSays part text := by
  induction parts with
  | nil => exact iff_of_true ⟨[], .nil⟩ nofun
  | cons part rest ih =>
      rw [List.forall_mem_cons, ← ih]
      constructor
      · rintro ⟨texts, htexts⟩
        obtain ⟨text, others, hpart, hothers, -⟩ := List.forall₂_cons_left_iff.1 htexts
        exact ⟨⟨text, hpart⟩, others, hothers⟩
      · rintro ⟨⟨text, hpart⟩, texts, hrest⟩
        exact ⟨text :: texts, .cons hpart hrest⟩

/-! ## The answer in a value -/

theorem answerText_of_no_parts {value : Json} (h : (parts? value).bind items? = none) :
    answerText value = .error .unexpectedPayload := by
  unfold answerText
  rw [h]
  rfl

theorem answerText_of_parts {value : Json} {parts : List Json}
    (h : (parts? value).bind items? = some parts) :
    answerText value = parts.mapM partText >>= fun values =>
      match values.mapM Json.text? with
      | some texts => .ok (String.join texts)
      | none => .error .unexpectedPayload := by
  unfold answerText
  rw [h]
  rfl

theorem answerText_of_values {value : Json} {parts values : List Json}
    (hparts : (parts? value).bind items? = some parts)
    (hvalues : parts.mapM partText = .ok values) :
    answerText value =
      match values.mapM Json.text? with
      | some texts => .ok (String.join texts)
      | none => .error .unexpectedPayload := by
  rw [answerText_of_parts hparts, hvalues]
  rfl

theorem answerText_eq_ok_iff {value : Json} {answer : String} :
    answerText value = .ok answer ↔ ∃ parts texts, (parts? value).bind items? = some parts ∧
      List.Forall₂ PartSays parts texts ∧ answer = String.join texts := by
  constructor
  · intro h
    cases hparts : (parts? value).bind items? with
    | none => cases (answerText_of_no_parts hparts).symm.trans h
    | some parts =>
        rw [answerText_of_parts hparts] at h
        obtain ⟨values, hvalues, h⟩ := Expr.bind_eq_ok h
        cases htexts : values.mapM Json.text? with
        | none =>
            rw [htexts] at h
            cases h
        | some texts =>
            rw [htexts] at h
            cases h
            exact ⟨parts, texts, rfl, forall₂_partSays_iff.2 ⟨values, hvalues, htexts⟩, rfl⟩
  · rintro ⟨parts, texts, hparts, hsay, rfl⟩
    obtain ⟨values, hvalues, htexts⟩ := forall₂_partSays_iff.1 hsay
    rw [answerText_of_values hparts hvalues, htexts]

theorem Defect.answerText_eq {value : Json} {failure : Failure} (h : Defect value failure) :
    answerText value = .error failure := by
  cases h with
  | shape none => exact answerText_of_no_parts none
  | part found mem notObject =>
      rw [answerText_of_parts found, mapM_partText_eq_error_iff.2 ⟨rfl, _, mem, notObject⟩]
      rfl
  | @text part parts found objects mem silent =>
      cases hvalues : parts.mapM partText with
      | error failure =>
          obtain ⟨-, other, hother, hnone⟩ := mapM_partText_eq_error_iff.1 hvalues
          exact absurd hnone (objects other hother)
      | ok values =>
          rw [answerText_of_values found hvalues]
          cases htexts : values.mapM Json.text? with
          | none => rfl
          | some texts =>
              have hall := forall₂_partSays_iff.2 ⟨values, hvalues, htexts⟩
              obtain ⟨text, hsays⟩ := exists_forall₂_partSays_iff.1 ⟨texts, hall⟩ part mem
              exact absurd hsays (silent text)

/-- A payload that can be read has an answer or a defect. -/
theorem exists_answerText_or_defect (value : Json) :
    (∃ answer, answerText value = .ok answer) ∨ ∃ failure, Defect value failure := by
  cases hparts : (parts? value).bind items? with
  | none => exact .inr ⟨_, .shape hparts⟩
  | some parts =>
      by_cases hsay : ∀ part ∈ parts, ∃ text, PartSays part text
      · obtain ⟨texts, htexts⟩ := exists_forall₂_partSays_iff.2 hsay
        exact .inl ⟨_, answerText_eq_ok_iff.2 ⟨parts, texts, hparts, htexts, rfl⟩⟩
      · push Not at hsay
        obtain ⟨part, hmem, hsilent⟩ := hsay
        by_cases hobjects : ∀ part ∈ parts, part.fields? ≠ none
        · exact .inr ⟨_, .text hparts hobjects hmem hsilent⟩
        · push Not at hobjects
          obtain ⟨other, hother, hnone⟩ := hobjects
          exact .inr ⟨_, .part hparts hother hnone⟩

private theorem answerText_eq_error_iff {value : Json} {failure : Failure} :
    answerText value = .error failure ↔ Defect value failure := by
  refine ⟨fun h => ?_, Defect.answerText_eq⟩
  rcases exists_answerText_or_defect value with ⟨answer, hanswer⟩ | ⟨other, hdefect⟩
  · cases hanswer.symm.trans h
  · cases hdefect.answerText_eq.symm.trans h
    exact hdefect

/-! ## The answer in a payload -/

variable [Platform]

/-- A payload has an answer if it is read as one. -/
theorem answers_iff {failed : Failure} {payload answer : String} :
    Answers payload answer ↔ (Client.payload failed payload >>= answerText) = .ok answer := by
  rw [Client.payload]
  cases hread : Json.read .reply payload with
  | error fault =>
      refine iff_of_false ?_ nofun
      rintro ⟨value, -, -, hvalue, -⟩
      cases hread.symm.trans hvalue
  | ok value =>
      show _ ↔ answerText value = .ok answer
      rw [answerText_eq_ok_iff]
      simp only [Answers, hread, Except.ok.injEq, exists_and_left, exists_eq_left']

/-- A payload has no answer if reading one from it fails. -/
theorem fails_iff {failed failure : Failure} {payload : String} : Fails failed payload failure ↔
    (Client.payload failed payload >>= answerText) = .error failure := by
  rw [Client.payload]
  cases hread : Json.read .reply payload with
  | error fault =>
      show _ ↔ Except.error (Client.readFailure failed fault) = .error failure
      rw [Except.error.injEq]
      constructor
      · rintro (hfault | ⟨hfault, hshallow⟩ | ⟨hvalue, -⟩)
        · cases hread.symm.trans hfault
          rfl
        · cases hread.symm.trans hfault
          cases fault <;> first | rfl | exact absurd rfl hshallow
        · cases hread.symm.trans hvalue
      · rintro rfl
        cases fault with
        | tooDeep => exact .nested hread
        | malformed => exact .unread hread nofun
        | tooLong digits => exact .unread hread nofun
  | ok value =>
      show _ ↔ answerText value = .error failure
      rw [answerText_eq_error_iff]
      constructor
      · rintro (hfault | ⟨hfault, -⟩ | ⟨hvalue, hdefect⟩)
        · cases hread.symm.trans hfault
        · cases hread.symm.trans hfault
        · cases hread.symm.trans hvalue
          exact hdefect
      · exact .defect hread

end DeskCalculator.Remote
