import DeskCalculator.Proofs.Grammar.Phrases

/-!
# One step of the parser

The two ways in which the parser gives an operand to what waits for it are one:
`closeWhile` stops at the first operation that a test on its operator refuses.
The test of `close` refuses none, and that of `closeBefore` refuses those that
bind less tightly than the operator that follows.

The step lemmas say what each sort of token does to the progress; no later
proof opens `step`.
-/

namespace DeskCalculator.Grammar

open DeskCalculator.Expr

/-! ## Closing -/

/-- Gives the operand to the signs and to the operations whose operator passes the test, up to
the first that does not or to the innermost open bracket. -/
def closeWhile (test : String → Bool) (operand : Expr) : List Pending → Expr × List Pending
  | .sign operator :: rest => closeWhile test (.sign operator operand) rest
  | .operation left operator :: rest =>
    if test operator then closeWhile test (.operation left operator operand) rest
    else (operand, .operation left operator :: rest)
  | rest => (operand, rest)

/-- Nothing is closed behind what is neither a sign nor an operation. -/
theorem closeWhile_of_open {test : String → Bool} {operand : Expr} {pending : List Pending}
    (hsign : ∀ operator rest, pending = .sign operator :: rest → False)
    (hoperation : ∀ left operator rest, pending = .operation left operator :: rest → False) :
    closeWhile test operand pending = (operand, pending) := by
  rw [closeWhile]
  · exact hsign
  · exact hoperation

/-- What is closed is taken from the top. -/
theorem closeWhile_suffix (test : String → Bool) (operand : Expr) (pending : List Pending) :
    (closeWhile test operand pending).2 <:+ pending := by
  fun_induction closeWhile test operand pending with
  | case1 operand operator rest ih => exact ih.trans (List.suffix_cons ..)
  | case2 operand left operator rest _ ih => exact ih.trans (List.suffix_cons ..)
  | case3 | case4 => exact List.suffix_rfl

theorem close_eq_closeWhile (operand : Expr) (pending : List Pending) :
    close operand pending = closeWhile (fun _ => true) operand pending := by
  fun_induction close operand pending with
  | case1 operand operator rest ih => simpa [closeWhile] using ih
  | case2 operand left operator rest ih => simpa [closeWhile] using ih
  | case3 operand rest hsign hoperation => rw [closeWhile_of_open hsign hoperation]

theorem closeBefore_eq_closeWhile (next : String) (operand : Expr) (pending : List Pending) :
    closeBefore next operand pending = closeWhile (bindsLeft · next) operand pending := by
  fun_induction closeBefore next operand pending with
  | case1 operand operator rest ih => simpa [closeWhile] using ih
  | case2 operand left operator rest hbinds ih => simpa [closeWhile, hbinds] using ih
  | case3 operand left operator rest hbinds => simp [closeWhile, hbinds]
  | case4 operand rest hsign hoperation => rw [closeWhile_of_open hsign hoperation]

/-- Whether an operand stays where it is: no sign waits for it, and an operation that does is
weaker than `bound`. -/
def HeadBelow (bound : Nat) : List Pending → Prop
  | .sign _ :: _ => False
  | .operation _ operator :: _ => strength operator < bound
  | _ => True

theorem HeadBelow.mono {small large : Nat} (hle : small ≤ large) {pending : List Pending}
    (h : HeadBelow small pending) : HeadBelow large pending := by
  match pending with
  | [] | .group :: _ | .call .. :: _ => trivial
  | .operation .. :: _ => exact Nat.lt_of_lt_of_le h hle

theorem closeWhile_of_headBelow {test : String → Bool} {bound : Nat}
    (htest : ∀ operator, strength operator < bound → test operator = false) {pending : List Pending}
    (h : HeadBelow bound pending) (operand : Expr) :
    closeWhile test operand pending = (operand, pending) := by
  match pending with
  | [] | .group :: _ | .call .. :: _ => rfl
  | .operation left operator :: rest => simp [closeWhile, htest operator h]

theorem one_le_strength (operator : String) : 1 ≤ strength operator := by
  unfold strength
  split <;> decide

theorem strength_le_three (operator : String) : strength operator ≤ 3 := by
  unfold strength
  split <;> decide

theorem strength_additive {token : Token} (h : token.Additive) : strength token.text = 1 := by
  obtain ⟨-, text⟩ | ⟨-, text⟩ := h <;> rw [text] <;> decide

theorem strength_multiplicative {token : Token} (h : token.Multiplicative) :
    strength token.text = 2 := by
  obtain ⟨-, text⟩ | ⟨-, text⟩ := h <;> rw [text] <;> decide

theorem strength_power {token : Token} (h : token.Is .power "**") : strength token.text = 3 := by
  rw [h.2]
  decide

theorem headBelow_operation {bound : Nat} {left : Expr} {operator : String} {rest : List Pending}
    (h : strength operator < bound) : HeadBelow bound (.operation left operator :: rest) := h

/-- Operators that group to the left close everything that is at least as strong as they are. -/
theorem bindsLeft_of_strength_le {first second : String} (hsecond : second ≠ "**")
    (hle : strength second ≤ strength first) : bindsLeft first second = true := by
  rcases Nat.lt_or_eq_of_le hle with hlt | heq
  · simp [bindsLeft, hlt]
  · simp [bindsLeft, heq, hsecond]

theorem bindsLeft_of_strength_lt {first second : String} (hlt : strength first < strength second) :
    bindsLeft first second = false := by
  have hnot : ¬ strength second < strength first := by omega
  have hne : ¬ strength first = strength second := by omega
  simp [bindsLeft, hnot, hne]

theorem bindsLeft_power (operator : String) : bindsLeft operator "**" = false := by
  have hnot : ¬ strength "**" < strength operator := Nat.not_lt.2 (strength_le_three operator)
  simp [bindsLeft, hnot]

/-! ## The effect of each token -/

section Step

variable {token : Token} {pending : List Pending} {operand : Expr}

theorem step_number (kind : token.kind = .number) :
    step ⟨pending, none⟩ token = .ok ⟨pending, some (.number token.value)⟩ := by
  obtain ⟨_, text, position⟩ := token
  obtain rfl := kind
  rfl

theorem step_name (kind : token.kind = .name) :
    step ⟨pending, none⟩ token = .ok ⟨pending, some (.name token.text)⟩ := by
  obtain ⟨_, text, position⟩ := token
  obtain rfl := kind
  rfl

theorem step_sign (additive : token.Additive) :
    step ⟨pending, none⟩ token = .ok ⟨.sign token.text :: pending, none⟩ := by
  obtain ⟨kind, text, position⟩ := token
  rcases additive with ⟨rfl, rfl⟩ | ⟨rfl, rfl⟩
  · rfl
  · rfl

theorem step_group (opens : token.Is .symbol "(") :
    step ⟨pending, none⟩ token = .ok ⟨.group :: pending, none⟩ := by
  obtain ⟨kind, text, position⟩ := token
  obtain ⟨rfl, rfl⟩ := opens
  rfl

theorem step_call (opens : token.Is .symbol "(") :
    step ⟨pending, some operand⟩ token = .ok ⟨.call operand [] :: pending, none⟩ := by
  obtain ⟨kind, text, position⟩ := token
  obtain ⟨rfl, rfl⟩ := opens
  rfl

theorem step_emptyCall (closes : token.Is .symbol ")") :
    step ⟨.call operand [] :: pending, none⟩ token = .ok ⟨pending, some (.call operand [])⟩ := by
  obtain ⟨kind, text, position⟩ := token
  obtain ⟨rfl, rfl⟩ := closes
  rfl

theorem step_closing (closes : token.Is .symbol ")") :
    step ⟨pending, some operand⟩ token =
      match close operand pending with
      | (inner, .group :: rest) => .ok ⟨rest, some inner⟩
      | (last, .call callee done :: rest) =>
        .ok ⟨rest, some (.call callee (last :: done).reverse)⟩
      | _ => .error (unexpected token) := by
  obtain ⟨kind, text, position⟩ := token
  obtain ⟨rfl, rfl⟩ := closes
  rfl

theorem step_comma (separates : token.Is .symbol ",") :
    step ⟨pending, some operand⟩ token =
      match close operand pending with
      | (last, .call callee done :: rest) => .ok ⟨.call callee (last :: done) :: rest, none⟩
      | _ => .error (unexpected token) := by
  obtain ⟨kind, text, position⟩ := token
  obtain ⟨rfl, rfl⟩ := separates
  rfl

theorem step_due_closing_error (closes : token.Is .symbol ")")
    (h : ∀ callee rest, pending ≠ .call callee [] :: rest) :
    step ⟨pending, none⟩ token = .error (unexpected token) := by
  obtain ⟨kind, text, position⟩ := token
  obtain ⟨rfl, rfl⟩ := closes
  match pending with
  | [] | .sign _ :: _ | .operation .. :: _ | .group :: _ | .call _ (_ :: _) :: _ => rfl
  | .call callee [] :: rest => exact absurd rfl (h callee rest)

theorem step_due_comma (separates : token.Is .symbol ",") :
    step ⟨pending, none⟩ token = .error (unexpected token) := by
  obtain ⟨kind, text, position⟩ := token
  obtain ⟨rfl, rfl⟩ := separates
  rfl

theorem step_due_multiplicative (joins : token.Multiplicative) :
    step ⟨pending, none⟩ token = .error (unexpected token) := by
  obtain ⟨kind, text, position⟩ := token
  rcases joins with ⟨rfl, rfl⟩ | ⟨rfl, rfl⟩
  · rfl
  · rfl

theorem step_due_power (raises : token.Is .power "**") :
    step ⟨pending, none⟩ token = .error (unexpected token) := by
  obtain ⟨kind, text, position⟩ := token
  obtain ⟨rfl, rfl⟩ := raises
  rfl

theorem step_behind_number (kind : token.kind = .number) :
    step ⟨pending, some operand⟩ token = .error (unexpected token) := by
  obtain ⟨_, text, position⟩ := token
  obtain rfl := kind
  rfl

theorem step_behind_name (kind : token.kind = .name) :
    step ⟨pending, some operand⟩ token = .error (unexpected token) := by
  obtain ⟨_, text, position⟩ := token
  obtain rfl := kind
  rfl

/-- The tokens that stand between two operands of an operation. -/
def IsOperator (token : Token) : Prop :=
  token.Additive ∨ token.Multiplicative ∨ token.Is .power "**"

theorem step_operator (binary : IsOperator token) :
    step ⟨pending, some operand⟩ token =
      .ok ⟨.operation (closeBefore token.text operand pending).1 token.text ::
        (closeBefore token.text operand pending).2, none⟩ := by
  obtain ⟨kind, text, position⟩ := token
  rcases binary with (⟨rfl, rfl⟩ | ⟨rfl, rfl⟩) | (⟨rfl, rfl⟩ | ⟨rfl, rfl⟩) | ⟨rfl, rfl⟩
  all_goals rfl

end Step

/-! ## The end of the text -/

theorem finish_of_close_nil {operand tree : Expr} {pending : List Pending}
    (h : close operand pending = (tree, [])) : finish ⟨pending, some operand⟩ = .ok tree := by
  simp [finish, h]

theorem finish_of_close_cons {operand inner : Expr} {entry : Pending} {pending rest : List Pending}
    (h : close operand pending = (inner, entry :: rest)) :
    finish ⟨pending, some operand⟩ = .error .unclosedBracket := by
  simp [finish, h]

end DeskCalculator.Grammar
