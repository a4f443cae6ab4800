import DeskCalculator.Proofs.Remote.Streaming
import DeskCalculator.Proofs.Remote.Turns
import DeskCalculator.Proofs.Service.Solving

/-!
# Conversations with the assistant

What a conversation sends, and what it delivers.  The turns that are sent are those that
count, and the message (`turns_are_sent`).  What comes back is delivered answer by answer
until a payload has none or the reply breaks off, and the response consists of what has
been delivered, with an apology behind it if the stream failed in a way that the remote
model reports (`chat_delivers`).
-/

namespace DeskCalculator

open Text

section

variable [Platform]

namespace Remote.Client

variable {client : Client} {wire : Wire} {history : List Turn} {message : String}

/-- What is read as a stream of the reply in a conversation: the lines, and the failure behind them
if the reply breaks off. -/
def streamLines? (client : Client) (history : List Turn) (message : String) (wire : Wire) :
    Option (List (List Char) × Option Failure) :=
  (client.streamRequest history message).toOption.bind fun request =>
    (received request (wire request)).streamLines?

theorem outcome_chat (client : Client) (history : List Turn) (message : String) (wire : Wire) :
    (client.chat history message wire).outcome =
      match client.streamRequest history message with
      | .error failure => ⟨[], some failure⟩
      | .ok request => readStream (received request (wire request)) := by
  simp only [chat, streamRequest]
  cases client.request .streamFailed "streamGenerateContent" (some "alt=sse")
      (requestBody assistantInstruction (contents history message)) <;> rfl

/-- A reply of success is read line by line, as far as it goes.  Without one nothing is delivered,
and there is a failure. -/
theorem outcome_chat_eq (client : Client) (history : List Turn) (message : String) (wire : Wire) :
    match client.streamLines? history message wire with
    | some (lines, ending) => (client.chat history message wire).outcome =
        ⟨(readLines lines).chunks, (readLines lines).failure.or ending⟩
    | none => ∃ failure, (client.chat history message wire).outcome = ⟨[], some failure⟩ := by
  rw [outcome_chat, streamLines?]
  cases client.streamRequest history message with
  | error failure => exact ⟨failure, rfl⟩
  | ok request => exact readStream_eq (received request (wire request))

/-- Whether a request carries these turns, in this order. -/
def Carries (request : Request) (turns : List Turn) : Prop :=
  request.body.field? "contents" = some (.list (turns.map fun turn =>
    .object [("role", .text turn.role), ("parts", .list [.object [("text", .text turn.text)]])]))

private theorem carries_contents {asked : Request}
    (h : client.streamRequest history message = .ok asked) :
    Carries asked (contents history message) := by
  rw [Carries, body_of_request h]
  rfl

private theorem mem_sent_chat {asked : Request} : asked ∈ (client.chat history message wire).sent ↔
    client.streamRequest history message = .ok asked := by
  rw [sent_chat]
  cases client.streamRequest history message with
  | error failure => exact iff_of_false nofun nofun
  | ok found =>
      show asked ∈ [found] ↔ _
      rw [List.mem_singleton, Except.ok.injEq, eq_comm]

/-- A conversation sends one request if the client can ask and all turns can be encoded, and none
otherwise. -/
theorem exists_sent_chat_iff : (∃ asked, (client.chat history message wire).sent = [asked]) ↔
    client.CanAsk "streamGenerateContent" ∧ ∀ turn ∈ contents history message,
      isEncodable turn.role.toList = true ∧ isEncodable turn.text.toList = true := by
  have hbody : (requestBody assistantInstruction (contents history message)).isSendable = true ↔
      ∀ turn ∈ contents history message,
        isEncodable turn.role.toList = true ∧ isEncodable turn.text.toList = true := by
    rw [isSendable_requestBody, isEncodable_assistantInstruction, Bool.true_and, List.all_eq_true]
    simp only [Bool.and_eq_true]
  rw [← hbody, ← exists_request_iff, sent_chat, streamRequest]
  cases client.request .streamFailed "streamGenerateContent" (some "alt=sse")
      (requestBody assistantInstruction (contents history message)) with
  | error failure =>
      refine iff_of_false ?_ ?_
      · rintro ⟨asked, hsent⟩
        cases hsent
      · rintro ⟨asked, hasked⟩
        cases hasked
  | ok asked => exact iff_of_true ⟨asked, rfl⟩ ⟨asked, rfl⟩

end Remote.Client

end

namespace Service.App

open Remote Remote.Client

section

variable [Platform]

variable {app : App} {request : Request} {asked : ChatRequest} {world : World}

/-- Whether a request passes a message on to the assistant, which is not blank. -/
def Converses (request : Request) (asked : ChatRequest) : Prop :=
  request.target = .route .chat ∧ content? ChatRequest.read request = some asked ∧
    trimString asked.message ≠ ""

theorem Converses.handle (h : Converses request asked) (app : App) (world : World) :
    let exchange := app.client.chat asked.history (trimString asked.message) world.wire
    app.handle request world = ⟨app, .plain (chatText exchange.outcome), exchange.sent⟩ := by
  obtain ⟨htarget, hcontent, hmessage⟩ := h
  obtain ⟨body, hread, hhandle⟩ := handle_of_content htarget rfl hcontent app world
  rw [hhandle]
  simp [carryOut, reading, hread, chat, hmessage, Response.sent]

/-- All that a stream delivers arrives if it can be encoded, and a failure that is reported is
followed by an apology. -/
theorem chatText_of_reported {stream : Stream} (hreported : StreamReported stream)
    (hencodable : ∀ chunk ∈ stream.chunks, isEncodable chunk.toList = true) :
    chatText stream =
      String.join stream.chunks ++ if stream.failure.isSome then apology else "" := by
  have harrived : stream.chunks.takeWhile (isEncodable ·.toList) = stream.chunks :=
    List.takeWhile_eq_self_iff.2 hencodable
  have hapology : stream.failure.any Failure.isReported = stream.failure.isSome := by
    cases hfailure : stream.failure with
    | none => rfl
    | some failure => exact hreported failure hfailure
  simp only [chatText, harrived, hapology, true_and]

/-- The texts delivered are the answers, as far as something is said in them and without their
dollar signs, of the payloads up to the first that has none.  Lines without the mark have no effect,
and what has been delivered stays.  Of a text that breaks off all lines have ended but at most one,
and what they deliver is delivered however the text goes on.  In a conversation the lines are those
of the reply, or those that have ended if it breaks off, which is a failure.  The response to a
message consists of what is delivered, with an apology behind it if the stream fails, provided that
its failure is reported and all that is delivered can be encoded. -/
theorem chat_delivers (app : App) (world : World) :
    (∀ lines, (∃ answers failure, Reads (payloads lines) answers failure) ∧
      ∀ answers failure, Reads (payloads lines) answers failure →
        readLines lines = ⟨chunksOf answers, failure⟩) ∧
    (∀ before line after, line.dropPrefix? "data:".toList = none →
      readLines (before ++ line :: after) = readLines (before ++ after)) ∧
    (∀ lines later, (readLines lines).chunks <+: (readLines (lines ++ later)).chunks) ∧
    (∀ text,
      (∃ pending, Text.lines text = finishedLines text ++ pending ∧ pending.length ≤ 1) ∧
      ∀ rest, finishedLines text <+: Text.lines (text ++ rest) ∧
        (readLines (finishedLines text)).chunks <+:
          (readLines (Text.lines (text ++ rest))).chunks) ∧
    (∀ history message,
      let outcome := (app.client.chat history message world.wire).outcome
      match app.client.streamLines? history message world.wire with
      | some (lines, ending) =>
          outcome = ⟨(readLines lines).chunks, (readLines lines).failure.or ending⟩
      | none => ∃ failure, outcome = ⟨[], some failure⟩) ∧
    ∀ request asked, Converses request asked →
      let stream := (app.client.chat asked.history (trimString asked.message) world.wire).outcome
      StreamReported stream → (∀ chunk ∈ stream.chunks, isEncodable chunk.toList = true) →
        (app.handle request world).response =
          .plain (String.join stream.chunks ++ if stream.failure.isSome then apology else "") := by
  refine ⟨fun lines => ⟨exists_reads _, fun answers failure => readLines_of_reads⟩, ?_,
    chunks_prefix, ?_, fun history message => outcome_chat_eq _ history message _, ?_⟩
  · intro before line after hline
    obtain ⟨answers, failure, hreads⟩ := exists_reads (payloads (before ++ line :: after))
    have hpayloads : payloads (before ++ line :: after) = payloads (before ++ after) := by
      rw [payloads, payloads, List.filterMap_append, List.filterMap_append,
        List.filterMap_cons_none (by rw [hline]; rfl)]
    rw [readLines_of_reads hreads, readLines_of_reads (hpayloads ▸ hreads)]
  · intro text
    refine ⟨exists_pending text, fun rest => ⟨?_, ?_⟩⟩
    · exact finishedLines_prefix text rest
    · exact chunks_finishedLines_prefix text rest
  · intro request asked h stream hreported hencodable
    rw [h.handle app world]
    exact congrArg Response.plain (chatText_of_reported hreported hencodable)

/-- With a message go the turns in which something is said, from the first one of the user on, in
one request if there is any.  So the first turn that is sent is the user's, no earlier turn is
empty, and behind the first one that is kept only empty turns are left out.  A message that is
posted is sent in this way without the blanks around it. -/
theorem turns_are_sent (app : App) (world : World) :
    (∀ history message,
      let turns := counted history ++ [⟨userRole, message⟩]
      (∀ asked ∈ (app.client.chat history message world.wire).sent, Carries asked turns) ∧
      ((∃ asked, (app.client.chat history message world.wire).sent = [asked]) ↔
        app.client.CanAsk "streamGenerateContent" ∧ ∀ turn ∈ turns,
          isEncodable turn.role.toList = true ∧ isEncodable turn.text.toList = true) ∧
      (∃ first rest, turns = first :: rest ∧ first.role = userRole) ∧
      ∀ turn ∈ counted history, turn.text ≠ "") ∧
    (∀ history, (∀ turn ∈ history, turn.text = "" ∨ turn.role ≠ userRole) →
      counted history = []) ∧
    (∀ before first after, (∀ turn ∈ before, turn.text = "" ∨ turn.role ≠ userRole) →
      first.role = userRole → first.text ≠ "" →
        counted (before ++ first :: after) = first :: after.filter fun turn => turn.text ≠ "") ∧
    ∀ request asked, Converses request asked → (app.handle request world).sent =
      (app.client.chat asked.history (trimString asked.message) world.wire).sent := by
  refine ⟨fun history message => ?_, fun history => counted_eq_nil,
    fun before first after => counted_append, fun request asked h => by rw [h.handle app world]⟩
  intro turns
  have hturns : turns = contents history message := (contents_eq history message).symm
  rw [hturns]
  refine ⟨fun asked hasked => carries_contents (mem_sent_chat.1 hasked), exists_sent_chat_iff,
    exists_contents_eq_cons history message, fun turn => text_ne_of_mem_counted⟩

end

/-- A conversation that the assistant has opened. -/
def resumed : Request := ⟨"POST", "/api/chat",
  ("\x7b\"history\": [\x7b\"role\": \"model\", \"text\": \"m\"\x7d, " ++
    "\x7b\"role\": \"user\", \"text\": \"a\"\x7d, " ++
    "\x7b\"role\": \"model\", \"text\": \"\"\x7d, " ++
    "\x7b\"role\": \"model\", \"text\": \"b\"\x7d], \"message\": \"c\"\x7d").toUTF8⟩

/-- What is read from it. -/
def resumption : ChatRequest :=
  ⟨[⟨"model", "m"⟩, ⟨"user", "a"⟩, ⟨"model", ""⟩, ⟨"model", "b"⟩], "c"⟩

theorem converses_resumed : Converses resumed resumption :=
  ⟨by decide +kernel, by decide +kernel, by decide +kernel⟩

/-- Neither what the assistant has opened with nor its empty turn is sent. -/
theorem turns_are_sent_resumed :
    let world := answering ""
    Converses resumed resumption ∧
      ∃ asked, (online.handle resumed world).sent = [asked] ∧
        Carries asked [⟨"user", "a"⟩, ⟨"model", "b"⟩, ⟨"user", "c"⟩] := by
  intro world
  have hmessage : trimString resumption.message = "c" := by decide +kernel
  have hcounted : counted resumption.history = [⟨"user", "a"⟩, ⟨"model", "b"⟩] := by decide
  have hcan : online.client.CanAsk "streamGenerateContent" :=
    canAsk_default (by decide) (any_isBeyondAscii_eq_false_iff.1 (by decide)) (.inr rfl)
  obtain ⟨hchat, -, -, hpost⟩ := turns_are_sent online world
  obtain ⟨hcarries, hsends, -⟩ := hchat resumption.history "c"
  rw [hcounted] at hcarries hsends
  obtain ⟨asked, hasked⟩ := hsends.2 ⟨hcan, by decide⟩
  refine ⟨converses_resumed, asked, ?_, hcarries asked ?_⟩
  · rw [hpost resumed resumption converses_resumed, hmessage, hasked]
  · rw [hasked]
    exact List.mem_singleton_self asked

/-- A message for the assistant. -/
def greeted : Request := ⟨"POST", "/api/chat", "\x7b\"message\": \" hi \"\x7d".toUTF8⟩

theorem converses_greeted : Converses greeted ⟨[], " hi "⟩ :=
  ⟨by decide +kernel, by decide +kernel, by decide +kernel⟩

/-- That reply is what it reads in every conversation that can be encoded. -/
theorem chat_online {history : List Turn} {message : String}
    (hturns : ((contents history message).all fun turn =>
      isEncodable turn.role.toList && isEncodable turn.text.toList) = true) (reply : Reply) :
    (online.client.chat history message (replying reply).wire).outcome = readStream reply := by
  have hsendable : (requestBody assistantInstruction (contents history message)).isSendable =
      true := by
    rw [isSendable_requestBody, isEncodable_assistantInstruction, hturns]
    rfl
  have htaken : (online.client.request .streamFailed "streamGenerateContent" (some "alt=sse")
      .null).toOption.any (fun request => Address.takesResponse request.url.toList) = true := by
    decide +kernel
  obtain ⟨request, hrequest, hreply⟩ := exists_request_online hsendable htaken reply
  rw [outcome_chat, streamRequest, hrequest]
  exact congrArg readStream hreply

/-- A line of a stream whose answer is `x`. -/
def firstLine : String := "data: " ++ payloadOf "\x7b\"text\": \"$x$\"\x7d" ++ "\n"

/-- A payload that is none ends the stream behind the first answer, and so does a reply that breaks
off in the line behind it. -/
theorem chat_delivers_apology :
    let whole := replying (.response 200 (bodyOf (firstLine ++ "\ndata: oops\n" ++ firstLine)))
    let broken := replying (.broken 200 (bodyOf (firstLine ++ "\ndata: ")))
    Converses greeted ⟨[], " hi "⟩ ∧
      ((online.client.chat [] "hi" whole.wire).outcome = ⟨["x"], some .streamFailed⟩ ∧
        (online.handle greeted whole).response = .plain ("x" ++ apology)) ∧
      (online.client.chat [] "hi" broken.wire).outcome = ⟨["x"], some .streamFailed⟩ ∧
        (online.handle greeted broken).response = .plain ("x" ++ apology) := by
  intro whole broken
  have hmessage : trimString " hi " = "hi" := by decide +kernel
  have hdelivered : ∀ reply, readStream reply = ⟨["x"], some .streamFailed⟩ →
      (online.client.chat [] "hi" (replying reply).wire).outcome = ⟨["x"], some .streamFailed⟩ ∧
        (online.handle greeted (replying reply)).response = .plain ("x" ++ apology) := by
    intro reply hread
    have hstream : (online.client.chat [] "hi" (replying reply).wire).outcome =
        ⟨["x"], some .streamFailed⟩ := by
      rw [chat_online (by decide), hread]
    obtain ⟨-, -, -, -, -, hresponse⟩ := chat_delivers online (replying reply)
    have hgreeted := hresponse greeted ⟨[], " hi "⟩ converses_greeted
    simp only [hmessage, hstream] at hgreeted
    refine ⟨hstream, hgreeted ?_ (by decide)⟩
    intro failure hfailure
    cases hfailure
    rfl
  exact ⟨converses_greeted, hdelivered _ (by decide +kernel), hdelivered _ (by decide +kernel)⟩

end Service.App

end DeskCalculator
