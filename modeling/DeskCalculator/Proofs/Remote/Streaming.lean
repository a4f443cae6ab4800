import DeskCalculator.Proofs.Remote.Answers
import DeskCalculator.Proofs.Remote.Reported
import DeskCalculator.Proofs.Text.Lines

/-!
# What a stream delivers

The lines of a stream that begin with `data:` carry payloads, and those without that mark
say nothing.  The payloads are read one after the other until one has no answer
(`Reads`).  What is delivered are the answers before it in which something is said, each
without its dollar signs, and the failure is that of the payload that has none
(`readLines_of_reads`).  So what has been delivered stays, whatever comes behind it
(`chunks_prefix`).

A reply that breaks off is read as far as its lines have ended, and then it fails
(`readStream_eq`).
-/

namespace DeskCalculator.Remote

open Text

/-! ## Lines -/

/-- The payloads of a stream: what stands behind the mark in the lines that begin with it. -/
def payloads (lines : List (List Char)) : List String :=
  lines.filterMap fun line => (line.dropPrefix? "data:".toList).map String.ofList

/-- What reading the payloads of a stream comes to: the answers of those before the first that has
none, and why that one has none. -/
inductive Reads [Platform] : List String → List String → Option Failure → Prop
  | complete {payloads answers : List String} (read : List.Forall₂ Answers payloads answers) :
      Reads payloads answers none
  | broken {before later answers : List String} {bad : String} {failure : Failure}
      (read : List.Forall₂ Answers before answers) (fails : Fails .streamFailed bad failure) :
      Reads (before ++ bad :: later) answers (some failure)

section

variable [Platform] {payload : String} {later answers : List String} {failure : Option Failure}

/-- The first payload has an answer, behind which the others are read, or it has none. -/
theorem reads_cons_iff : Reads (payload :: later) answers failure ↔
    (∃ answer others, Answers payload answer ∧ answers = answer :: others ∧
      Reads later others failure) ∨
    (answers = [] ∧ ∃ cause, failure = some cause ∧ Fails .streamFailed payload cause) := by
  constructor
  · intro h
    generalize hall : payload :: later = all at h
    cases h with
    | complete read =>
        subst hall
        obtain ⟨answer, others, hanswer, hothers, rfl⟩ := List.forall₂_cons_left_iff.1 read
        exact .inl ⟨answer, others, hanswer, rfl, .complete hothers⟩
    | @broken before _ _ _ _ read fails =>
        cases before with
        | nil =>
            cases hall
            cases read
            exact .inr ⟨rfl, _, rfl, fails⟩
        | cons first before =>
            cases hall
            obtain ⟨answer, others, hanswer, hothers, rfl⟩ := List.forall₂_cons_left_iff.1 read
            exact .inl ⟨answer, others, hanswer, rfl, .broken hothers fails⟩
  · rintro (⟨answer, others, hanswer, rfl, hothers⟩ | ⟨rfl, cause, rfl, hfails⟩)
    · cases hothers with
      | complete read => exact .complete (.cons hanswer read)
      | @broken before later _ bad _ read fails =>
          exact @Reads.broken _ (payload :: before) later _ bad _ (.cons hanswer read) fails
    · exact @Reads.broken _ [] later [] payload cause .nil hfails

/-- Whatever the payloads are, reading them comes to something. -/
theorem exists_reads (payloads : List String) :
    ∃ answers failure, Reads payloads answers failure := by
  induction payloads with
  | nil => exact ⟨[], none, .complete .nil⟩
  | cons payload later ih =>
      cases hread : Client.payload .streamFailed payload >>= answerText with
      | error cause =>
          exact ⟨[], some cause, reads_cons_iff.2 (.inr ⟨rfl, cause, rfl, fails_iff.2 hread⟩)⟩
      | ok answer =>
          obtain ⟨answers, failure, hlater⟩ := ih
          exact ⟨answer :: answers, failure,
            reads_cons_iff.2 (.inl ⟨answer, answers, answers_iff.2 hread, rfl, hlater⟩)⟩

end

/-! ## What is delivered -/

/-- What is delivered of answers: those in which something is said, without their dollar signs. -/
def chunksOf (answers : List String) : List String :=
  (answers.filter fun answer => answer ≠ "").map fun answer =>
    String.ofList (answer.toList.filter fun c => c ≠ '$')

private theorem chunksOf_cons (answer : String) (later : List String) : chunksOf (answer :: later) =
    if answer = "" then chunksOf later else Client.delivered answer :: chunksOf later := by
  have hdollar : (fun c : Char => c != '$') = fun c => decide (c ≠ '$') := by
    funext c
    by_cases hc : c = '$' <;> simp [hc]
  by_cases h : answer = "" <;> simp [chunksOf, Client.delivered, h, hdollar]

variable [Platform] {answers : List String} {failure : Option Failure}

/-- A line without the mark says nothing. -/
theorem lineText_of_no_mark {line : List Char} (h : line.dropPrefix? "data:".toList = none) :
    Client.lineText line = .ok none := by
  have hmark : "data:".toList.isPrefixOf line = false := by
    rw [Bool.eq_false_iff, Ne, List.isPrefixOf_iff_prefix]
    rintro ⟨text, rfl⟩
    rw [List.dropPrefix?_append_of_beq _ (beq_self_eq_true _)] at h
    cases h
  rw [Client.lineText]
  simp only [hmark]
  rfl

/-- A line with the mark says what its payload answers, if that is anything. -/
theorem lineText_of_mark {line text : List Char}
    (h : line.dropPrefix? "data:".toList = some text) :
    Client.lineText line = (Client.payload .streamFailed (String.ofList text) >>= answerText).map
      fun answer => if answer = "" then none else some answer := by
  obtain ⟨mark, rfl, hmark⟩ := List.dropPrefix?_eq_some_iff.1 h
  cases eq_of_beq hmark
  have hmarked : "data:".toList.isPrefixOf ("data:".toList ++ text) = true :=
    List.isPrefixOf_iff_prefix.2 (List.prefix_append _ _)
  rw [Client.lineText]
  simp only [hmarked, if_true, List.drop_left]
  cases Client.payload .streamFailed (String.ofList text) with
  | error failure => rfl
  | ok value =>
      show (answerText value >>= fun answer => _) = Except.map _ (answerText value)
      cases answerText value with
      | error failure => rfl
      | ok answer =>
          by_cases hanswer : answer = "" <;> simp [Except.map, hanswer]

/-- What is delivered are the answers of the payloads up to the first that has none. -/
theorem readLines_of_reads {lines : List (List Char)} (h : Reads (payloads lines) answers failure) :
    Client.readLines lines = ⟨chunksOf answers, failure⟩ := by
  induction lines generalizing answers with
  | nil =>
      generalize hpayloads : payloads [] = all at h
      cases h with
      | complete read =>
          cases hpayloads
          cases read
          rfl
      | @broken before _ _ _ _ read fails => cases before <;> cases hpayloads
  | cons line rest ih =>
      rw [Client.readLines]
      cases hmark : line.dropPrefix? "data:".toList with
      | none =>
          rw [payloads, List.filterMap_cons_none (by rw [hmark]; rfl)] at h
          rw [lineText_of_no_mark hmark]
          exact ih h
      | some text =>
          rw [payloads, List.filterMap_cons_some (by rw [hmark]; rfl)] at h
          rw [lineText_of_mark hmark]
          obtain ⟨answer, others, hanswer, rfl, hothers⟩ | ⟨rfl, cause, rfl, hfails⟩ :=
            reads_cons_iff.1 h
          · rw [answers_iff.1 hanswer]
            have hrest := ih hothers
            rw [chunksOf_cons]
            by_cases hsaid : answer = "" <;> simp [Except.map, hsaid, hrest]
          · rw [fails_iff.1 hfails]
            rfl

/-- What has been delivered stays, whatever comes behind it. -/
theorem chunks_prefix (lines later : List (List Char)) :
    (Client.readLines lines).chunks <+: (Client.readLines (lines ++ later)).chunks := by
  induction lines with
  | nil => exact List.nil_prefix
  | cons line rest ih =>
      rw [List.cons_append, Client.readLines, Client.readLines]
      cases Client.lineText line with
      | error failure => exact List.prefix_refl _
      | ok said =>
          cases said with
          | none => exact ih
          | some text => exact List.cons_prefix_cons.2 ⟨rfl, ih⟩

/-! ## Replies -/

/-- What of a reply is read as a stream: the lines, and the failure behind them if the reply breaks
off.  Only a reply with a status of success is read. -/
def Reply.streamLines? : Reply → Option (List (List Char) × Option Failure)
  | .response status body =>
    if 200 ≤ status ∧ status < 300 then some (lines body.text.toList, none) else none
  | .broken status arrived =>
    if 200 ≤ status ∧ status < 300 then
      some (finishedLines arrived.text.toList, some .streamFailed)
    else none
  | .unreachable | .badAddress => none

/-- A reply that is read delivers what its lines do, and a failure behind them counts if these have
not failed.  From any other reply nothing is delivered but a failure. -/
theorem readStream_eq (reply : Reply) :
    match reply.streamLines? with
    | some (lines, ending) => Client.readStream reply =
        ⟨(Client.readLines lines).chunks, (Client.readLines lines).failure.or ending⟩
    | none => ∃ failure, Client.readStream reply = ⟨[], some failure⟩ := by
  cases reply with
  | response status body | broken status body =>
      by_cases hsuccess : 200 ≤ status ∧ status < 300 <;>
        simp [Reply.streamLines?, Client.readStream, Client.withStatus, Client.checkStatus,
          Client.Stream.endingIn, hsuccess]
  | unreachable | badAddress => exact ⟨_, rfl⟩

/-- What a reply delivers that breaks off is delivered by every reply that goes on. -/
theorem chunks_finishedLines_prefix (text rest : List Char) :
    (Client.readLines (finishedLines text)).chunks <+:
      (Client.readLines (lines (text ++ rest))).chunks := by
  obtain ⟨later, hlater⟩ := finishedLines_prefix text rest
  rw [← hlater]
  exact chunks_prefix _ later

end DeskCalculator.Remote
