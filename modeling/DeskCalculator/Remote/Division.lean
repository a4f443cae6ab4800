import DeskCalculator.Remote.Client
import DeskCalculator.Text.Numeral

/-!
# Long division

The working of a long division is written by the remote model.  Whether the two
numbers can be divided at all is decided here, before anything is sent.
-/

namespace DeskCalculator.Remote

open Text

/-- Why a division is refused. -/
inductive Refusal where
  /-- One of the numbers is not written in digits. -/
  | notDigits
  /-- The divisor is zero. -/
  | zeroDivisor
  /-- The divisor has more digits than are ever read. -/
  | tooLong (digits : Nat)
  deriving DecidableEq, Repr

/-- The message of a refusal. -/
def Refusal.message : Refusal → String
  | notDigits => "Invalid input: Please use non-negative integers."
  | zeroDivisor => "Error: Cannot divide by zero."
  | tooLong digits => tooLongMessage digits

/-- Why a long division has no result. -/
inductive DivisionFailure where
  | refused (refusal : Refusal)
  | remote (failure : Failure)
  deriving DecidableEq, Repr

/-- A text without one line feed at its end. -/
def withoutLineFeed (text : List Char) : List Char :=
  if text.getLast? = some '\n' then text.dropLast else text

/-- Whether a text consists of decimal digits, at least one of them, with at most a line feed behind
them. -/
def isDigits (text : List Char) : Bool :=
  let body := withoutLineFeed text
  !body.isEmpty && body.all isDigit

/-- Refuses what cannot be divided. -/
def checkDivision (dividend divisor : String) : Except Refusal Unit :=
  if !isDigits dividend.toList || !isDigits divisor.toList then .error .notDigits
  else
    match readInteger divisor.toList with
    | .ok value => if value = 0 then .error .zeroDivisor else .ok ()
    | .error (.tooLong digits) => .error (.tooLong digits)
    | .error .malformed => .error .notDigits

/-- Asks for the working of a long division. -/
def Client.divide [Platform] (client : Client) (dividend divisor : String) (wire : Wire) :
    Exchange (Except DivisionFailure String) :=
  match checkDivision dividend divisor with
  | .error refusal => ⟨[], .error (.refused refusal)⟩
  | .ok () =>
    let exchange := client.generate divisionInstruction (divisionPrompt dividend divisor) wire
    ⟨exchange.sent, exchange.outcome.mapError .remote⟩

end DeskCalculator.Remote
