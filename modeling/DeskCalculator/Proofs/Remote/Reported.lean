import DeskCalculator.Proofs.Remote.Answers
import DeskCalculator.Remote.Division

/-!
# Failures of the remote model

Whatever comes back from the remote model, an operation ends in an answer or in a failure
that is reported as one of the remote service, unless a payload upsets it (`Upsets`): one
that nests too deeply, or one with a part that is no object.  Which replies do that is
said for answers (`reported_readAnswer`) and for streams (`reported_readStream`), where
nothing behind the first line that cannot be read counts.  A reply that breaks off is
itself a failure that is reported, but of a stream the lines that had ended are read.
-/

namespace DeskCalculator.Remote

/-! ## Reported failures -/

/-- Whether an outcome is an answer or a failure that is reported. -/
def Reported {α : Type} (outcome : Except Failure α) : Prop :=
  ∀ failure, outcome = .error failure → failure.isReported = true

section

variable {α β : Type} {outcome : Except Failure α} {failure : Failure}

theorem reported_ok (answer : α) : Reported (.ok answer) := nofun

theorem reported_error : Reported (.error failure : Except Failure α) ↔ failure.isReported = true :=
  ⟨fun h => h failure rfl, fun h _ heq => by cases heq; exact h⟩

theorem reported_bind {next : α → Except Failure β} :
    Reported (outcome >>= next) ↔
      Reported outcome ∧ ∀ answer, outcome = .ok answer → Reported (next answer) := by
  cases outcome with
  | error failure =>
      show Reported (.error failure) ↔ _
      rw [reported_error, reported_error]
      exact ⟨fun h => ⟨h, nofun⟩, And.left⟩
  | ok answer =>
      refine ⟨fun h => ⟨reported_ok answer, fun _ heq => ?_⟩, fun h => h.2 answer rfl⟩
      cases heq
      exact h

end

/-- Where the status is not one of success, that is a failure that is reported. -/
theorem reported_checkStatus_bind {α : Type} {failed : Failure} (hfailed : failed.isReported = true)
    {status : ℕ} {next : Unit → Except Failure α} :
    Reported (Client.checkStatus failed status >>= next) ↔
      (200 ≤ status ∧ status < 300 → Reported (next ())) := by
  unfold Client.checkStatus
  split_ifs with hsuccess
  · exact ⟨fun h _ => h, fun h => h hsuccess⟩
  · exact iff_of_true (reported_error.2 hfailed) fun h => absurd h hsuccess

/-- Whether a stream is complete or ends in a failure that is reported. -/
def StreamReported (stream : Client.Stream) : Prop :=
  ∀ failure, stream.failure = some failure → failure.isReported = true

/-- The same for a stream with a status. -/
theorem streamReported_withStatus {status : ℕ} {stream : Client.Stream} :
    StreamReported (Client.withStatus status stream) ↔
      (200 ≤ status ∧ status < 300 → StreamReported stream) := by
  unfold Client.withStatus Client.checkStatus
  split_ifs with hsuccess
  · exact ⟨fun h _ => h, fun h => h hsuccess⟩
  · refine iff_of_true ?_ fun h => absurd h hsuccess
    rintro _ ⟨⟩
    rfl

/-- A failure that is reported may follow at the end. -/
theorem streamReported_endingIn {failure : Failure} (hfailure : failure.isReported = true)
    {stream : Client.Stream} :
    StreamReported (stream.endingIn failure) ↔ StreamReported stream := by
  unfold StreamReported Client.Stream.endingIn
  cases stream.failure with
  | none => simp [hfailure]
  | some earlier => simp

/-- How an operation ends in a failure that is not reported: there is no address to send its request
to, or the reply upsets it. -/
inductive Breaks (asked : Except Failure Request) (wire : Wire) (upsets : Reply → Prop) : Prop
  | address (h : asked = .error .badAddress)
  | reply {request : Request} (h : asked = .ok request)
      (reply : upsets (Client.received request (wire request)))

theorem breaks_error {failure : Failure} {wire : Wire} {upsets : Reply → Prop} :
    Breaks (.error failure) wire upsets ↔ failure = .badAddress := by
  constructor
  · rintro (h | h)
    · exact Except.error.inj h
    · cases h
  · rintro rfl
    exact .address rfl

theorem breaks_ok {request : Request} {wire : Wire} {upsets : Reply → Prop} :
    Breaks (.ok request) wire upsets ↔ upsets (Client.received request (wire request)) := by
  constructor
  · rintro (h | ⟨h, hreply⟩)
    · cases h
    · cases h
      exact hreply
  · exact fun h => .reply rfl h

/-! ## Payloads -/

variable [Platform]

/-- A payload text that an operation does not survive. -/
inductive Upsets (text : String) : Prop
  | nested (read : Json.read .reply text = .error .tooDeep)
  | part {value part : Json} {items : List Json} (read : Json.read .reply text = .ok value)
      (found : (parts? value).bind items? = some items) (mem : part ∈ items)
      (notObject : part.fields? = none)

/-- Reading an answer from a payload fails otherwise than reported on an upsetting one only. -/
theorem reported_payload_answer {failed : Failure} (hfailed : failed.isReported = true)
    (text : String) :
    Reported (Client.payload failed text >>= answerText) ↔ ¬ Upsets text := by
  simp only [Reported, ← fails_iff]
  constructor
  · rintro h (hread | ⟨hread, hfound, hmem, hnone⟩)
    · exact absurd (h .tooDeep (.nested hread)) (by decide)
    · exact absurd (h .partNotObject (.defect hread (.part hfound hmem hnone))) (by decide)
  · intro h failure hfails
    cases hfails with
    | nested hread => exact absurd (.nested hread) h
    | unread => exact hfailed
    | defect hread hdefect =>
        cases hdefect with
        | shape => rfl
        | part hfound hmem hnone => exact absurd (.part hread hfound hmem hnone) h
        | text => rfl

/-! ## Answers -/

/-- A reply that asking for an answer does not survive: an address that is none, or a body of
success with an upsetting payload.  A reply that breaks off is survived. -/
inductive UpsetsAnswer : Reply → Prop
  | address : UpsetsAnswer .badAddress
  | body {status : ℕ} {body : Body} {text : String} (success : 200 ≤ status ∧ status < 300)
      (decoded : Json.textOfBody? body.bytes = some text) (h : Upsets text) :
      UpsetsAnswer (.response status body)

theorem reported_bodyAnswer (body : Body) : Reported (Client.bodyAnswer body) ↔
    ¬ ∃ text, Json.textOfBody? body.bytes = some text ∧ Upsets text := by
  have htrim : ∀ {outcome : Except Failure String},
      Reported (outcome >>= fun answer => pure (Text.trimString answer)) ↔ Reported outcome :=
    fun {outcome} => reported_bind.trans (and_iff_left fun answer _ => reported_ok _)
  rw [Client.bodyAnswer, ← bind_assoc, htrim, Client.bodyPayload]
  cases Json.textOfBody? body.bytes with
  | none => exact iff_of_true (reported_error.2 rfl) nofun
  | some text =>
      simp only [Option.some.injEq, exists_eq_left']
      exact reported_payload_answer rfl text

theorem reported_readAnswer (reply : Reply) :
    Reported (Client.readAnswer reply) ↔ ¬ UpsetsAnswer reply := by
  cases reply with
  | response status body =>
      rw [Client.readAnswer, reported_checkStatus_bind rfl, reported_bodyAnswer]
      constructor
      · rintro h (_ | ⟨hsuccess, hdecoded, hupsets⟩)
        exact h hsuccess ⟨_, hdecoded, hupsets⟩
      · rintro h hsuccess ⟨text, hdecoded, hupsets⟩
        exact h (.body hsuccess hdecoded hupsets)
  | broken status arrived => exact iff_of_true (reported_error.2 rfl) nofun
  | unreachable => exact iff_of_true (reported_error.2 rfl) nofun
  | badAddress => exact iff_of_false (fun h => by cases reported_error.1 h) (not_not.2 .address)

/-! ## Streams -/

/-- Lines that upset the reading of a stream: the payload of one does, and those before it can be
read. -/
inductive UpsetsLines : List (List Char) → Prop
  | first {text : List Char} {later : List (List Char)} (h : Upsets (String.ofList text)) :
      UpsetsLines (("data:".toList ++ text) :: later)
  | later {line : List Char} {said : Option String} {rest : List (List Char)}
      (fine : Client.lineText line = .ok said) (h : UpsetsLines rest) : UpsetsLines (line :: rest)

theorem reported_lineText (line : List Char) : Reported (Client.lineText line) ↔
    ∀ text, line = "data:".toList ++ text → ¬ Upsets (String.ofList text) := by
  unfold Client.lineText
  simp only
  split_ifs with hmark
  · obtain ⟨text, rfl⟩ := List.isPrefixOf_iff_prefix.1 hmark
    rw [List.drop_left, ← bind_assoc, reported_bind, reported_payload_answer rfl,
      and_iff_left fun answer _ => by split_ifs <;> exact reported_ok _]
    simp
  · refine iff_of_true (reported_ok none) fun text hline => absurd ?_ hmark
    exact List.isPrefixOf_iff_prefix.2 ⟨text, hline.symm⟩

private theorem upsetsLines_cons {line : List Char} {rest : List (List Char)} :
    UpsetsLines (line :: rest) ↔ ¬ Reported (Client.lineText line) ∨
      (∃ said, Client.lineText line = .ok said) ∧ UpsetsLines rest := by
  constructor
  · rintro (hupsets | ⟨hfine, hrest⟩)
    · exact .inl fun h => (reported_lineText _).1 h _ rfl hupsets
    · exact .inr ⟨⟨_, hfine⟩, hrest⟩
  · rintro (hline | ⟨⟨said, hfine⟩, hrest⟩)
    · rw [reported_lineText] at hline
      push Not at hline
      obtain ⟨text, rfl, hupsets⟩ := hline
      exact .first hupsets
    · exact .later hfine hrest

theorem reported_readLines (lines : List (List Char)) :
    StreamReported (Client.readLines lines) ↔ ¬ UpsetsLines lines := by
  induction lines with
  | nil => exact iff_of_true nofun nofun
  | cons line rest ih =>
      rw [upsetsLines_cons, Client.readLines]
      cases hline : Client.lineText line with
      | error failure =>
          simp [reported_error, StreamReported]
      | ok said =>
          -- a line that can be read leaves the failure to the lines behind it
          have hrest : ¬ (¬ Reported (.ok said : Except Failure (Option String)) ∨
              (∃ text, (.ok said : Except Failure (Option String)) = .ok text) ∧
                UpsetsLines rest) ↔ ¬ UpsetsLines rest := by
            simp [reported_ok]
          rw [hrest, ← ih]
          cases said <;> rfl

/-- A reply that a conversation does not survive: an address that is none, or lines of success that
upset the reading.  Of a reply that breaks off these are the lines that had ended. -/
inductive UpsetsStream : Reply → Prop
  | address : UpsetsStream .badAddress
  | whole {status : ℕ} {body : Body} (success : 200 ≤ status ∧ status < 300)
      (h : UpsetsLines (Text.lines body.text.toList)) : UpsetsStream (.response status body)
  | part {status : ℕ} {arrived : Body} (success : 200 ≤ status ∧ status < 300)
      (h : UpsetsLines (Text.finishedLines arrived.text.toList)) :
      UpsetsStream (.broken status arrived)

theorem reported_readStream (reply : Reply) :
    StreamReported (Client.readStream reply) ↔ ¬ UpsetsStream reply := by
  cases reply with
  | response status body =>
      rw [Client.readStream, streamReported_withStatus, reported_readLines]
      constructor
      · rintro h (_ | ⟨hsuccess, hupsets⟩)
        exact h hsuccess hupsets
      · exact fun h hsuccess hupsets => h (.whole hsuccess hupsets)
  | broken status arrived =>
      rw [Client.readStream, streamReported_withStatus, streamReported_endingIn rfl,
        reported_readLines]
      constructor
      · rintro h (_ | _ | ⟨hsuccess, hupsets⟩)
        exact h hsuccess hupsets
      · exact fun h hsuccess hupsets => h (.part hsuccess hupsets)
  | unreachable => exact iff_of_true (by rintro _ ⟨⟩; rfl) nofun
  | badAddress => exact iff_of_false (fun h => by cases h _ rfl) (not_not.2 .address)

/-! ## Operations -/

namespace Client

variable (client : Client) (wire : Wire)

/-- The request for an answer. -/
def answerRequest (instruction prompt : String) : Except Failure Request :=
  client.request .generateFailed "generateContent" none
    (requestBody instruction [⟨userRole, prompt⟩])

/-- The request for a stream. -/
def streamRequest (history : List Turn) (message : String) : Except Failure Request :=
  client.request .streamFailed "streamGenerateContent" (some "alt=sse")
    (requestBody assistantInstruction (contents history message))

/-- How asking for an answer ends in a failure that is not reported. -/
def AnswerBreaks (instruction prompt : String) : Prop :=
  Breaks (client.answerRequest instruction prompt) wire UpsetsAnswer

/-- How a conversation ends in a failure that is not reported. -/
def StreamBreaks (history : List Turn) (message : String) : Prop :=
  Breaks (client.streamRequest history message) wire UpsetsStream

variable {client wire}

/-- What comes of making a request. -/
theorem request_cases (client : Client) (failed : Failure) (operation : String)
    (query : Option String) (body : Json) :
    let outcome := client.request failed operation query body
    outcome = .error .noKey ∨ outcome = .error .badAddress ∨ outcome = .error failed ∨
      body.isSendable = true ∧ ∃ url, outcome = .ok ⟨"POST", url, client.key.getD "", body⟩ := by
  simp only [request]
  split
  · exact .inl rfl
  split
  · exact .inr (.inl rfl)
  split
  · exact .inr (.inr (.inl rfl))
  split
  · exact .inr (.inl rfl)
  split
  · exact .inr (.inr (.inl rfl))
  · next hsendable =>
      exact .inr (.inr (.inr ⟨by simpa using (not_or.1 hsendable).2, _, rfl⟩))

/-- A request fails otherwise than reported where there is no address only. -/
theorem isReported_of_request {failed failure : Failure} (hfailed : failed.isReported = true)
    {operation : String} {query : Option String} {body : Json}
    (h : client.request failed operation query body = .error failure) :
    failure.isReported = true ↔ failure ≠ .badAddress := by
  rcases client.request_cases failed operation query body with
    heq | heq | heq | ⟨-, url, heq⟩
  · cases h.symm.trans heq
    exact iff_of_true rfl nofun
  · cases h.symm.trans heq
    exact iff_of_false nofun (not_not.2 rfl)
  · cases h.symm.trans heq
    refine iff_of_true hfailed ?_
    rintro rfl
    cases hfailed
  · cases h.symm.trans heq

theorem reported_generate (instruction prompt : String) :
    Reported (client.generate instruction prompt wire).outcome ↔
      ¬ client.AnswerBreaks wire instruction prompt := by
  rw [AnswerBreaks, answerRequest, generate]
  cases hrequest : client.request .generateFailed "generateContent" none
      (requestBody instruction [⟨userRole, prompt⟩]) with
  | error failure =>
      rw [breaks_error, reported_error, isReported_of_request rfl hrequest]
  | ok request => rw [breaks_ok, reported_readAnswer]

/-- Solving an equation ends in an answer or in a failure that is reported, unless it breaks. -/
theorem reported_solve (equation : String) : Reported (client.solve equation wire).outcome ↔
    ¬ client.AnswerBreaks wire solverInstruction (equationPrompt equation) := by
  have hnonEmpty : ∀ answer, Reported (nonEmpty answer) := by
    intro answer
    rw [nonEmpty]
    split_ifs
    · exact reported_error.2 rfl
    · exact reported_ok answer
  rw [← reported_generate]
  exact reported_bind.trans (and_iff_left fun answer _ => hnonEmpty answer)

/-- So does a division of numbers that can be divided. -/
theorem reported_divide {dividend divisor : String}
    (h : checkDivision dividend divisor = .ok ()) :
    (∀ failure, (client.divide dividend divisor wire).outcome = .error failure →
      ∃ remote, failure = .remote remote ∧ remote.isReported = true) ↔
    ¬ client.AnswerBreaks wire divisionInstruction (divisionPrompt dividend divisor) := by
  have houtcome : (client.divide dividend divisor wire).outcome =
      (client.generate divisionInstruction (divisionPrompt dividend divisor)
        wire).outcome.mapError .remote := by
    rw [divide, h]
  rw [← reported_generate, houtcome]
  cases (client.generate divisionInstruction (divisionPrompt dividend divisor) wire).outcome with
  | ok working => exact iff_of_true (fun _ h => by cases h) (reported_ok working)
  | error failure =>
      rw [reported_error]
      refine ⟨fun h => ?_, fun h _ heq => ?_⟩
      · obtain ⟨remote, hremote, hreported⟩ := h (.remote failure) rfl
        cases hremote
        exact hreported
      · cases heq
        exact ⟨failure, rfl, h⟩

/-- So does a conversation. -/
theorem reported_chat (history : List Turn) (message : String) :
    StreamReported (client.chat history message wire).outcome ↔
      ¬ client.StreamBreaks wire history message := by
  rw [StreamBreaks, streamRequest, chat]
  cases hrequest : client.request .streamFailed "streamGenerateContent" (some "alt=sse")
      (requestBody assistantInstruction (contents history message)) with
  | error failure =>
      rw [breaks_error]
      simp [StreamReported, isReported_of_request rfl hrequest]
  | ok request => rw [breaks_ok, reported_readStream]

end Client

end DeskCalculator.Remote
