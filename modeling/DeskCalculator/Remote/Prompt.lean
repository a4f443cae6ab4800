import DeskCalculator.Json.Basic

/-!
# Prompts

What the remote model is told for each of its three uses, and the body of a
request: an instruction and the turns of a conversation.
-/

namespace DeskCalculator.Remote

/-! ## Texts -/

/-- The instruction for solving an equation. -/
def solverInstruction : String :=
  "You are an algebra solver. When given an equation, solve for the variable(s). " ++
  "Your response must only be the final answer for the variable, for example: 'x = 3'. " ++
  "If there are multiple solutions, separate them with a comma, for example: " ++
  "'x = 2, x = -2'. Do not include any explanations, apologies, or conversational " ++
  "text. Only provide the result."

/-- The instruction for the assistant. -/
def assistantInstruction : String :=
  "You are a helpful and friendly math assistant. Your goal is to help users " ++
  "understand mathematical concepts. When asked to solve a problem, provide a clear, " ++
  "step-by-step explanation. Format your answers clearly, using markdown for things " ++
  "like code blocks for equations or lists for steps. Use **text** for bolding."

/-- The instruction for a long division. -/
def divisionInstruction : String :=
  "You are a math tutor. Your task is to provide the full step-by-step process of " ++
  "long division as you would write it on paper. Use monospaced formatting, ensuring " ++
  "all numbers, subtraction lines, and the final remainder are perfectly aligned. Do " ++
  "not include any other explanations, conversational text, or introductions. Only " ++
  "provide the formatted long division calculation."

/-- How the assistant greets. -/
def greeting : String := "Hello! How can I help you with math today?"

/-- Questions that the assistant suggests. -/
def quickQuestions : List String := [
  "What is the quadratic formula?",
  "Solve 2x + 5 = 15 for x.",
  "Explain the Pythagorean theorem.",
  "How do I calculate the area of a circle?"]

/-- How the assistant excuses itself. -/
def apology : String := "Sorry, I encountered an error. Please try again."

/-- The prompt for an equation. -/
def equationPrompt (equation : String) : String :=
  "Solve this equation: " ++ equation

/-- The prompt for a long division. -/
def divisionPrompt (dividend divisor : String) : String :=
  "Solve the long division problem: " ++ dividend ++ " / " ++ divisor ++ "."

/-! ## Conversations -/

/-- One turn of a conversation: who speaks, and what is said. -/
structure Turn where
  role : String
  text : String
  deriving DecidableEq, Repr

/-- The role of the person who asks. -/
def userRole : String := "user"

/-- A turn as it is sent. -/
def Turn.toJson (turn : Turn) : Json :=
  .object [("role", .text turn.role), ("parts", .list [.object [("text", .text turn.text)]])]

/-- The turns of a conversation that are sent, in reverse, after those in `kept`: empty ones are
left out, and so is what comes before the first turn of the user. -/
def keep (kept : List Turn) (turn : Turn) : List Turn :=
  if turn.text.isEmpty ∨ (kept.isEmpty ∧ turn.role ≠ userRole) then kept else turn :: kept

/-- The turns that are sent with a message. -/
def contents (history : List Turn) (message : String) : List Turn :=
  (history.foldl keep []).reverse ++ [⟨userRole, message⟩]

/-- The body of a request. -/
def requestBody (instruction : String) (turns : List Turn) : Json :=
  .object [
    ("system_instruction", .object [("parts", .list [.object [("text", .text instruction)]])]),
    ("contents", .list (turns.map Turn.toJson))]

end DeskCalculator.Remote
