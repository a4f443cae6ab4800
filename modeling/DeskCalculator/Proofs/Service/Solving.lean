import DeskCalculator.Proofs.Remote.Asking
import DeskCalculator.Proofs.Service.Results

/-!
# Solving by the remote model

What becomes of a failure of the remote model when an equation is posted
(`remote_failures_reported`).  A failure that is reported is a bad gateway, and an answer
that can be encoded is sent.  What is left are the replies that upset the client
(`Remote.Breaks`), and answers that cannot be encoded; an equation that cannot is never
sent to the model in the first place.
-/

namespace DeskCalculator

open Text

section

variable [Platform]

namespace Remote.Client

/-- What is sent does not depend on the body, as long as it can be sent. -/
theorem request_of_isSendable {client : Client} {failed : Failure} {operation : String}
    {query : Option String} {body : Json} (h : body.isSendable = true) :
    client.request failed operation query body =
      (client.request failed operation query .null).map fun request => { request with body } := by
  have hnull : Json.null.isSendable = true := rfl
  simp only [request, h, hnull]
  split
  · rfl
  split
  · rfl
  split
  · rfl
  split
  · rfl
  split <;> rfl

private theorem isEncodable_of_generate {client : Client} {instruction prompt answer : String}
    {wire : Wire} (h : (client.generate instruction prompt wire).outcome = .ok answer) :
    isEncodable prompt.toList = true := by
  rw [generate] at h
  rcases client.request_cases .generateFailed "generateContent" none
      (requestBody instruction [⟨userRole, prompt⟩]) with
    heq | heq | heq | ⟨hsendable, -⟩
  · simp only [heq] at h
    cases h
  · simp only [heq] at h
    cases h
  · simp only [heq] at h
    cases h
  · rw [isSendable_promptBody, Bool.and_eq_true] at hsendable
    exact hsendable.2

/-- An equation with an answer can be encoded. -/
theorem isEncodable_of_solve {client : Client} {equation answer : String} {wire : Wire}
    (h : (client.solve equation wire).outcome = .ok answer) :
    isEncodable equation.toList = true := by
  rw [solve] at h
  obtain ⟨found, hfound, -⟩ := Expr.bind_eq_ok h
  have hprompt := isEncodable_of_generate hfound
  have htext : equationPrompt equation = "Solve this equation: " ++ equation := rfl
  rw [htext, String.toList_append, isEncodable_append, Bool.and_eq_true] at hprompt
  exact hprompt.2

end Remote.Client

end

namespace Service.App

section

variable [Platform] {app : App} {request : Request} {equation : String} {world : World}

/-- Whether a request asks for the solution of an equation, which is not blank. -/
def Poses (request : Request) (equation : String) : Prop :=
  request.target = .route .solve ∧ equation ≠ "" ∧
    (content? (readText "equation") request).map trimString = some equation

/-- The status of the response to an equation, from what came of asking the remote model. -/
def solvedStatus (outcome : Except Remote.Failure String) : ℕ :=
  match outcome with
  | .ok answer => if isEncodable answer.toList then 200 else 500
  | .error failure => if failure.isReported then 502 else 500

theorem Poses.status (h : Poses request equation) (app : App) (world : World) :
    (app.handle request world).response.status =
      solvedStatus (app.client.solve equation world.wire).outcome := by
  obtain ⟨htarget, hne, hcontent⟩ := h
  obtain ⟨typed, htyped, rfl⟩ := Option.map_eq_some_iff.1 hcontent
  obtain ⟨body, hread, hhandle⟩ := handle_of_content htarget rfl htyped app world
  have hblank : (trimString typed).isEmpty = false := by
    rw [Bool.eq_false_iff, ne_eq, String.isEmpty_iff]
    exact hne
  rw [hhandle]
  simp only [carryOut, reading, hread, solve, hblank, Bool.false_eq_true, if_false]
  cases houtcome : (app.client.solve (trimString typed) world.wire).outcome with
  | error failure =>
      simp only [solvedStatus]
      split_ifs
      · rw [sent_refusal (isEncodable_label .solverFailed)]
        rfl
      · rfl
  | ok answer =>
      have hbody : (Json.object [("equation", .text (trimString typed)),
          ("answer", .text answer)]).isSendable = isEncodable answer.toList := by
        rw [Json.isSendable_object_of_ascii (by simp)]
        simp only [List.all_cons, List.all_nil, Json.isSendable,
          Remote.Client.isEncodable_of_solve houtcome, Bool.and_true, Bool.true_and]
      simp only [solvedStatus, sent_ok, hbody]
      split_ifs <;> rfl

/-- Every operation of the remote model ends in an answer or in a failure that is reported unless a
reply upsets it, and an equation is answered accordingly: with its solution, as a bad gateway, or
not at all where a reply upsets the client or the solution cannot be encoded. -/
theorem remote_failures_reported (app : App) (world : World) :
    (∀ equation, Remote.Reported (app.client.solve equation world.wire).outcome ↔
      ¬ app.client.AnswerBreaks world.wire Remote.solverInstruction
        (Remote.equationPrompt equation)) ∧
    (∀ dividend divisor, Remote.checkDivision dividend divisor = .ok () →
      ((∀ failure, (app.client.divide dividend divisor world.wire).outcome = .error failure →
          ∃ remote, failure = .remote remote ∧ remote.isReported = true) ↔
        ¬ app.client.AnswerBreaks world.wire Remote.divisionInstruction
          (Remote.divisionPrompt dividend divisor))) ∧
    (∀ history message, Remote.StreamReported (app.client.chat history message world.wire).outcome ↔
      ¬ app.client.StreamBreaks world.wire history message) ∧
    ∀ request equation, Poses request equation →
      let outcome := (app.client.solve equation world.wire).outcome
      let status := (app.handle request world).response.status
      (status = 200 ↔ ∃ answer, outcome = .ok answer ∧ isEncodable answer.toList = true) ∧
      (status = 502 ↔ ∃ failure, outcome = .error failure ∧ failure.isReported = true) ∧
      (status = 500 ↔ app.client.AnswerBreaks world.wire Remote.solverInstruction
          (Remote.equationPrompt equation) ∨
        ∃ answer, outcome = .ok answer ∧ isEncodable answer.toList = false) := by
  refine ⟨Remote.Client.reported_solve, fun _ _ => Remote.Client.reported_divide,
    Remote.Client.reported_chat, fun request equation h => ?_⟩
  intro outcome status
  have hstatus : status = solvedStatus outcome := h.status app world
  have hreported : Remote.Reported outcome ↔ ¬ app.client.AnswerBreaks world.wire
      Remote.solverInstruction (Remote.equationPrompt equation) :=
    Remote.Client.reported_solve equation
  rw [hstatus, ← not_iff_not.2 hreported |>.trans not_not]
  clear_value outcome
  cases outcome with
  | error failure =>
      cases hfailure : failure.isReported <;>
        simp [solvedStatus, hfailure, Remote.reported_error]
  | ok answer =>
      cases hanswer : isEncodable answer.toList <;>
        simp [solvedStatus, hanswer, Remote.reported_ok]

end

/-- A service with a key for the remote model. -/
def online : App := start .absent (.new (some "k") Remote.defaultModel Remote.defaultAddress)

/-- A body with the bytes of this text. -/
def bodyOf (text : String) : Remote.Body := ⟨text.toUTF8, text⟩

/-- Midnight, and a remote model with this reply to every request. -/
def replying (reply : Remote.Reply) : World := ⟨⟨0, 0⟩, fun _ => reply⟩

/-- Midnight, and a remote model that answers every request with this payload. -/
def answering (payload : String) : World := replying (.response 200 (bodyOf payload))

/-- A payload whose answer has one part. -/
def payloadOf (part : String) : String :=
  "\x7b\"candidates\": [\x7b\"content\": \x7b\"parts\": [" ++ part ++ "]\x7d\x7d]\x7d"

/-- The request to solve `x=1`. -/
def posed : Request := ⟨"POST", "/api/solve", "\x7b\"equation\": \"x=1\"\x7d".toUTF8⟩

theorem poses_posed : Poses posed "x=1" :=
  ⟨by decide +kernel, by decide, by decide +kernel⟩

/-- A request that can be sent gets that reply, if responses are taken from where it goes. -/
theorem exists_request_online {failed : Remote.Failure} {operation : String}
    {query : Option String} {body : Json} (hbody : body.isSendable = true)
    (htaken : (online.client.request failed operation query .null).toOption.any
      (fun request => Address.takesResponse request.url.toList) = true) (reply : Remote.Reply) :
    ∃ request, online.client.request failed operation query body = .ok request ∧
      Remote.Client.received request ((replying reply).wire request) = reply := by
  rw [Remote.Client.request_of_isSendable hbody]
  cases hrequest : online.client.request failed operation query .null with
  | error failure =>
      rw [hrequest] at htaken
      cases htaken
  | ok request =>
      rw [hrequest] at htaken
      have htaken' : Address.takesResponse request.url.toList = true := htaken
      refine ⟨{ request with body }, rfl, ?_⟩
      cases reply <;> simp [Remote.Client.received, replying, htaken']

/-- That payload is what it reads for every prompt that can be encoded. -/
theorem generate_online {instruction prompt : String}
    (hinstruction : isEncodable instruction.toList = true)
    (hprompt : isEncodable prompt.toList = true) (payload : String) :
    (online.client.generate instruction prompt (answering payload).wire).outcome =
      Remote.Client.readAnswer (.response 200 (bodyOf payload)) := by
  have hsendable :
      (Remote.requestBody instruction [⟨Remote.userRole, prompt⟩]).isSendable = true := by
    rw [Remote.isSendable_promptBody, hinstruction, hprompt]
    rfl
  have htaken : (online.client.request .generateFailed "generateContent" none .null).toOption.any
      (fun request => Address.takesResponse request.url.toList) = true := by
    decide +kernel
  obtain ⟨request, hrequest, hreply⟩ := exists_request_online hsendable htaken
    (.response 200 (bodyOf payload))
  rw [Remote.Client.generate, hrequest]
  exact congrArg Remote.Client.readAnswer hreply

/-- A proper answer is sent, whatever was asked for. -/
theorem remote_failures_reported_seven :
    let world := answering (payloadOf "\x7b\"text\": \"x = 1\"\x7d")
    Poses posed "x=1" ∧ Remote.checkDivision "7" "2" = .ok () ∧
      (online.handle posed world).response.status = 200 ∧
      ¬ online.client.AnswerBreaks world.wire Remote.divisionInstruction
        (Remote.divisionPrompt "7" "2") := by
  intro world
  have hcheck : Remote.checkDivision "7" "2" = .ok () := by decide
  have hread : Remote.Client.readAnswer (.response 200
      (bodyOf (payloadOf "\x7b\"text\": \"x = 1\"\x7d"))) = .ok "x = 1" := by
    decide +kernel
  have hsolved : (online.client.solve "x=1" world.wire).outcome = .ok "x = 1" := by
    rw [Remote.Client.solve, generate_online Remote.isEncodable_solverInstruction (by decide),
      hread]
    rfl
  have hdivided : (online.client.divide "7" "2" world.wire).outcome = .ok "x = 1" := by
    rw [Remote.Client.divide, hcheck]
    simp only [world]
    rw [generate_online Remote.isEncodable_divisionInstruction (by decide), hread]
    rfl
  obtain ⟨-, hdivide, -, hpost⟩ := remote_failures_reported online world
  refine ⟨poses_posed, hcheck, (hpost posed "x=1" poses_posed).1.2 ⟨"x = 1", hsolved, by decide⟩,
    (hdivide "7" "2" hcheck).1 fun failure hfailure => ?_⟩
  cases hdivided.symm.trans hfailure

/-- A part that is a string, not an object, breaks the request off. -/
theorem part_without_text_crashes :
    let world := answering (payloadOf "\"x\"")
    Poses posed "x=1" ∧
      (online.client.solve "x=1" world.wire).outcome = .error .partNotObject ∧
      Remote.Failure.isReported .partNotObject = false ∧
      (online.handle posed world).response.status = 500 := by
  intro world
  have hread : Remote.Client.readAnswer (.response 200 (bodyOf (payloadOf "\"x\""))) =
      .error .partNotObject := by
    decide +kernel
  have hsolved : (online.client.solve "x=1" world.wire).outcome = .error .partNotObject := by
    rw [Remote.Client.solve, generate_online Remote.isEncodable_solverInstruction (by decide),
      hread]
    rfl
  refine ⟨poses_posed, hsolved, rfl, ?_⟩
  rw [poses_posed.status, hsolved]
  rfl

end Service.App

end DeskCalculator
