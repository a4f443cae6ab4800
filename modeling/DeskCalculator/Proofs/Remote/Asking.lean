import DeskCalculator.Proofs.Remote.Reported
import DeskCalculator.Proofs.Service.Sendable

/-!
# What is sent to the remote model

Whether there is a request at all depends on the client, which needs a key and an
address that can be sent to (`Client.CanAsk`), and on the body, all texts of which have
to be encoded (`isSendable_requestBody`).  Where there is one it has that body, and it is
the only request that an operation sends (`sent_generate`, `sent_chat`).
-/

namespace DeskCalculator.Remote

open Text

section

variable [Platform]

/-! ## Texts of our own -/

theorem isEncodable_solverInstruction : isEncodable solverInstruction.toList = true := by
  refine isEncodable_of_all ?_
  unfold solverInstruction
  simp only [String.toList_append, List.all_append, Bool.and_eq_true]
  decide +kernel

theorem isEncodable_assistantInstruction : isEncodable assistantInstruction.toList = true := by
  refine isEncodable_of_all ?_
  unfold assistantInstruction
  simp only [String.toList_append, List.all_append, Bool.and_eq_true]
  decide +kernel

theorem isEncodable_divisionInstruction : isEncodable divisionInstruction.toList = true := by
  refine isEncodable_of_all ?_
  unfold divisionInstruction
  simp only [String.toList_append, List.all_append, Bool.and_eq_true]
  decide +kernel

/-! ## Bodies -/

/-- The part that a text is sent as. -/
theorem isSendable_part (value : String) :
    (Json.list [.object [("text", .text value)]]).isSendable = isEncodable value.toList := by
  rw [Json.isSendable_list, List.all_cons, List.all_nil,
    Json.isSendable_object_of_ascii (by simp), List.all_cons, List.all_nil, Json.isSendable,
    Bool.and_true, Bool.and_true]

private theorem isSendable_turn (turn : Turn) :
    turn.toJson.isSendable = (isEncodable turn.role.toList && isEncodable turn.text.toList) := by
  rw [Turn.toJson, Json.isSendable_object_of_ascii (by simp)]
  simp only [List.all_cons, List.all_nil, isSendable_part, Bool.and_true]
  rw [Json.isSendable]

/-- A body can be sent if the instruction and all turns can be encoded. -/
theorem isSendable_requestBody (instruction : String) (turns : List Turn) :
    (requestBody instruction turns).isSendable = (isEncodable instruction.toList &&
      turns.all fun turn => isEncodable turn.role.toList && isEncodable turn.text.toList) := by
  have hinstruction : (Json.object [("parts", .list [.object [("text", .text instruction)]])]
      ).isSendable = isEncodable instruction.toList := by
    rw [Json.isSendable_object_of_ascii (by simp), List.all_cons, List.all_nil, isSendable_part,
      Bool.and_true]
  have hturns : (Json.list (turns.map Turn.toJson)).isSendable =
      turns.all fun turn => isEncodable turn.role.toList && isEncodable turn.text.toList := by
    rw [Json.isSendable_list, List.all_map]
    exact congrArg turns.all (funext isSendable_turn)
  rw [requestBody, Json.isSendable_object_of_ascii (by simp), List.all_cons, List.all_cons,
    List.all_nil, hinstruction, hturns, Bool.and_true]

/-- The body of a single prompt can be sent if instruction and prompt can be encoded. -/
theorem isSendable_promptBody (instruction prompt : String) :
    (requestBody instruction [⟨userRole, prompt⟩]).isSendable =
      (isEncodable instruction.toList && isEncodable prompt.toList) := by
  have hrole : isEncodable userRole.toList = true := isEncodable_of_all (by decide)
  rw [isSendable_requestBody, List.all_cons, List.all_nil, hrole, Bool.and_true, Bool.true_and]

end

namespace Client

/-! ## Clients -/

/-- Where an operation is asked for, unless it cannot be addressed within ASCII. -/
def endpoint? (client : Client) (operation : String) : Option Address :=
  ((Address.ofText? client.address).bind fun service =>
    (Address.ofText? (client.operationPath operation)).bind service.below?).filter
      (!·.authority.any isBeyondAscii)

/-- Whether a client can ask for an operation at all: it has a key, which is written in ASCII, and
an address to send it to. -/
structure CanAsk (client : Client) (operation : String) : Prop where
  key : client.key.getD "" ≠ ""
  ascii : ∀ c ∈ (client.key.getD "").toList, c.toNat < 128
  endpoint : (client.endpoint? operation).isSome = true

variable {client : Client} {wire : Wire} {failed : Failure} {operation : String}
  {query : Option String} {body : Json}

theorem endpoint?_eq_some_iff {address : Address} : client.endpoint? operation = some address ↔
    (∃ service, Address.ofText? client.address = some service ∧
      (Address.ofText? (client.operationPath operation)).bind service.below? = some address) ∧
    address.authority.any isBeyondAscii = false := by
  rw [endpoint?, Option.filter_eq_some_iff, Option.bind_eq_some_iff, Bool.not_eq_true']

theorem any_isBeyondAscii_eq_false_iff {text : List Char} :
    text.any isBeyondAscii = false ↔ ∀ c ∈ text, c.toNat < 128 := by
  rw [List.any_eq_false]
  simp only [isBeyondAscii, decide_eq_true_eq, not_le]

/-- With a key in ASCII, nothing keeps a client from asking the default model. -/
theorem canAsk_default {key operation : String} (hkey : key ≠ "")
    (hascii : ∀ c ∈ key.toList, c.toNat < 128)
    (hoperation : operation = "generateContent" ∨ operation = "streamGenerateContent") :
    (new (some key) defaultModel defaultAddress).CanAsk operation := by
  refine ⟨hkey, hascii, ?_⟩
  have hendpoint : ∀ operation ∈ ["generateContent", "streamGenerateContent"],
      ((new none defaultModel defaultAddress).endpoint? operation).isSome = true := by
    decide +kernel
  exact hendpoint operation (by simpa using hoperation)

/-! ## Operations -/

variable [Platform]

/-- There is a request exactly if the client can ask and the body can be sent. -/
theorem exists_request_iff : (∃ asked, client.request failed operation query body = .ok asked) ↔
    client.CanAsk operation ∧ body.isSendable = true := by
  constructor
  · rintro ⟨asked, h⟩
    unfold request at h
    simp only at h
    split at h
    · cases h
    next hkey =>
      split at h
      · cases h
      next service hservice =>
        split at h
        · cases h
        next hascii =>
          split at h
          · cases h
          next address haddress =>
            split_ifs at h with hrest
            rw [not_or, Bool.not_eq_true, Bool.not_eq_true', Bool.not_eq_false] at hrest
            have hendpoint := endpoint?_eq_some_iff.2 ⟨⟨service, hservice, haddress⟩, hrest.1⟩
            refine ⟨⟨by simpa using hkey, ?_, by rw [hendpoint]; rfl⟩, hrest.2⟩
            exact any_isBeyondAscii_eq_false_iff.1 (Bool.eq_false_iff.2 hascii)
  · rintro ⟨⟨hkey, hascii, hendpoint⟩, hbody⟩
    obtain ⟨address, haddress⟩ := Option.isSome_iff_exists.1 hendpoint
    obtain ⟨⟨service, hservice, hbelow⟩, hauthority⟩ := endpoint?_eq_some_iff.1 haddress
    have hnonempty : (client.key.getD "").isEmpty = false := by simpa using hkey
    unfold request
    simp only [hnonempty, hservice, any_isBeyondAscii_eq_false_iff.2 hascii, hbelow, hauthority,
      hbody]
    exact ⟨_, rfl⟩

theorem body_of_request {asked : Request}
    (h : client.request failed operation query body = .ok asked) : asked.body = body := by
  rcases client.request_cases failed operation query body with
    heq | heq | heq | ⟨-, url, heq⟩ <;> cases h.symm.trans heq
  rfl

theorem sent_generate (instruction prompt : String) :
    (client.generate instruction prompt wire).sent =
      (client.answerRequest instruction prompt).toOption.toList := by
  rw [generate, answerRequest]
  split <;> next h => rw [h]; rfl

theorem sent_chat (history : List Turn) (message : String) :
    (client.chat history message wire).sent =
      (client.streamRequest history message).toOption.toList := by
  rw [chat, streamRequest]
  split <;> next h => rw [h]; rfl

end Client

end DeskCalculator.Remote
