import DeskCalculator.Proofs.Grammar.Derivation
import DeskCalculator.Proofs.Grammar.Reading

/-!
# The parser on two bare stacks

The parser keeps with every pending entry the operands that belong to it.  Here
is the same algorithm on two separate stacks, as it is usually given: operands
on one, signs, operations and open brackets on the other, where an open call
remembers how high the operand stack was.  Every access to a stack or to the
table of precedences may find nothing, and then the run stops with `missing`.

`view` lays the progress of the parser out on the two stacks.  The main result
is that the bare algorithm takes exactly the steps of the parser (`step_view`),
so it never finds anything missing, and that both follow the grammar.
-/

namespace DeskCalculator.TwoStacks

open Grammar

/-- An entry of the operator stack. -/
inductive Entry where
  | unary (operator : String)
  | binary (operator : String)
  | group
  /-- An open call, with the height of the operand stack at which its arguments start. -/
  | call (callee : Expr) (base : Nat)

/-- How a run on bare stacks can stop without a result. -/
inductive Stop (Reason : Type) where
  /-- The input is refused. -/
  | fault (reason : Reason)
  /-- A stack or a table has no entry where one is taken for granted. -/
  | missing

/-- The two stacks, the last element first, and whether an operand is due. -/
structure Stacks where
  operands : List Expr
  entries : List Entry
  due : Bool

/-! ## The algorithm -/

/-- The table of precedences. -/
def precedence (operator : String) : Except (Stop Fault) Nat :=
  match operator with
  | "+" | "-" => .ok 1
  | "*" | "/" => .ok 2
  | "**" => .ok 3
  | _ => .error .missing

/-- Whether an entry is reduced before a binary operator is put on top of it. -/
def yields (next : String) : Entry → Except (Stop Fault) Bool
  | .unary _ => .ok true
  | .binary operator => do
    let first ← precedence operator
    let second ← precedence next
    return second < first || (first == second && next != "**")
  | .group | .call .. => .ok false

/-- Takes the operands of an entry from their stack and puts the result there. -/
def reduce : Entry → List Expr → Except (Stop Fault) (List Expr)
  | .unary operator, operand :: rest => .ok (.sign operator operand :: rest)
  | .binary operator, right :: left :: rest => .ok (.operation left operator right :: rest)
  | _, _ => .error .missing

/-- Reduces all entries that yield to the operator. -/
def reduceBefore (next : String) :
    List Expr → List Entry → Except (Stop Fault) (List Expr × List Entry)
  | operands, [] => .ok (operands, [])
  | operands, top :: rest => do
    if ← yields next top then reduceBefore next (← reduce top operands) rest
    else return (operands, top :: rest)

/-- Reduces all entries up to the innermost open bracket. -/
def reduceToBracket : List Expr → List Entry → Except (Stop Fault) (List Expr × List Entry)
  | operands, .group :: rest => .ok (operands, .group :: rest)
  | operands, .call callee base :: rest => .ok (operands, .call callee base :: rest)
  | operands, top :: rest => do reduceToBracket (← reduce top operands) rest
  | operands, [] => .ok (operands, [])

/-- Stops at a token that cannot stand where it does. -/
def refuse {α : Type} (token : Token) : Except (Stop Fault) α :=
  .error (.fault (Expr.unexpected token))

/-- Reads a closing parenthesis. -/
def closing (state : Stacks) (token : Token) : Except (Stop Fault) Stacks :=
  if state.due then
    match state.entries with
    | .call callee base :: rest =>
      if state.operands.length = base then
        .ok ⟨.call callee [] :: state.operands, rest, false⟩
      else refuse token
    | _ => refuse token
  else do
    match ← reduceToBracket state.operands state.entries with
    | (_, []) => refuse token
    | (operands, .call callee base :: rest) =>
      let count := operands.length - base
      return ⟨.call callee (operands.take count).reverse :: operands.drop count, rest, false⟩
    | (operands, _ :: rest) => return ⟨operands, rest, false⟩

/-- Reads a comma. -/
def comma (state : Stacks) (token : Token) : Except (Stop Fault) Stacks :=
  if state.due then refuse token
  else do
    match ← reduceToBracket state.operands state.entries with
    | (operands, .call callee base :: rest) => return ⟨operands, .call callee base :: rest, true⟩
    | _ => refuse token

/-- Reads an opening parenthesis. -/
def opening (state : Stacks) : Except (Stop Fault) Stacks :=
  if state.due then .ok { state with entries := .group :: state.entries }
  else
    match state.operands with
    | callee :: rest => .ok ⟨rest, .call callee rest.length :: state.entries, true⟩
    | [] => .error .missing

/-- Reads an operator, which is a sign where an operand is due. -/
def operator (state : Stacks) (token : Token) : Except (Stop Fault) Stacks :=
  if state.due then
    if token.text ∈ ["+", "-"] then
      .ok { state with entries := .unary token.text :: state.entries }
    else refuse token
  else do
    let (operands, entries) ← reduceBefore token.text state.operands state.entries
    return ⟨operands, .binary token.text :: entries, true⟩

/-- Puts an operand on its stack. -/
def operand (state : Stacks) (token : Token) (e : Expr) : Except (Stop Fault) Stacks :=
  if state.due then .ok { state with operands := e :: state.operands, due := false }
  else refuse token

/-- Reads one token. -/
def step (state : Stacks) (token : Token) : Except (Stop Fault) Stacks :=
  match token.kind with
  | .number => operand state token (.number token.value)
  | .name => operand state token (.name token.text)
  | .power | .symbol =>
    if token.text = "(" then opening state
    else if token.text = ")" then closing state token
    else if token.text = "," then comma state token
    else operator state token

/-- Reduces the entries that are left when no token is; an open bracket cannot be. -/
def reduceAll : List Expr → List Entry → Except (Stop Fault) (List Expr)
  | operands, [] => .ok operands
  | _, .group :: _ | _, .call .. :: _ => .error (.fault .unclosedBracket)
  | operands, top :: rest => do reduceAll (← reduce top operands) rest

/-- The operand stack that is left at the end, of which the bottom is the tree. -/
def parse (tokens : List Token) : Except (Stop Fault) (List Expr) := do
  let state ← tokens.foldlM step ⟨[], [], true⟩
  if state.due then .error (.fault .unexpectedEnd)
  else reduceAll state.operands state.entries

/-! ## The view of the parser's progress -/

/-- The operands that pending entries keep, the last one first. -/
def operandsOf : List Expr.Pending → List Expr
  | [] => []
  | .sign _ :: rest => operandsOf rest
  | .operation left _ :: rest => left :: operandsOf rest
  | .group :: rest => operandsOf rest
  | .call _ done :: rest => done ++ operandsOf rest

/-- The entries without their operands. -/
def entriesOf : List Expr.Pending → List Entry
  | [] => []
  | .sign operator :: rest => .unary operator :: entriesOf rest
  | .operation _ operator :: rest => .binary operator :: entriesOf rest
  | .group :: rest => .group :: entriesOf rest
  | .call callee _ :: rest => .call callee (operandsOf rest).length :: entriesOf rest

/-- The two stacks that a progress amounts to. -/
def view (progress : Expr.Progress) : Stacks :=
  ⟨progress.operand.toList ++ operandsOf progress.pending, entriesOf progress.pending,
    progress.operand.isNone⟩

/-- An outcome of the parser as an outcome on the two stacks. -/
def outcome {Reason α β : Type} (f : α → β) (result : Except Reason α) : Except (Stop Reason) β :=
  (result.map f).mapError .fault

/-- Every pending operation has an operator with a precedence. -/
def Known (pending : List Expr.Pending) : Prop :=
  ∀ left operator, .operation left operator ∈ pending →
    precedence operator = .ok (Expr.strength operator)

theorem Known.tail {entry : Expr.Pending} {rest : List Expr.Pending} (h : Known (entry :: rest)) :
    Known rest :=
  fun left operator hmem => h left operator (List.mem_cons_of_mem _ hmem)

private theorem precedence_of_isOperator {token : Token} (binary : IsOperator token) :
    precedence token.text = .ok (Expr.strength token.text) := by
  obtain (⟨-, text⟩ | ⟨-, text⟩) | (⟨-, text⟩ | ⟨-, text⟩) | ⟨-, text⟩ := binary <;>
    rw [text] <;> rfl

/-! ## Reducing is closing -/

private theorem reduceBefore_eq {next : String} (hnext : precedence next = .ok (Expr.strength next))
    {pending : List Expr.Pending} (known : Known pending) (operand : Expr) :
    reduceBefore next (operand :: operandsOf pending) (entriesOf pending) =
      .ok ((Expr.closeBefore next operand pending).1 ::
          operandsOf (Expr.closeBefore next operand pending).2,
        entriesOf (Expr.closeBefore next operand pending).2) := by
  induction pending generalizing operand with
  | nil => rfl
  | cons entry rest ih =>
      cases entry with
      | sign operator => exact ih known.tail (.sign operator operand)
      | operation left operator =>
          have hoperator := known left operator List.mem_cons_self
          have hyields : yields next (.binary operator) = .ok (Expr.bindsLeft operator next) := by
            simp only [yields, hoperator, hnext]
            rfl
          simp only [operandsOf, entriesOf, reduceBefore, hyields, Expr.closeBefore]
          cases hbinds : Expr.bindsLeft operator next with
          | false => rfl
          | true => exact ih known.tail (.operation left operator operand)
      | group => rfl
      | call callee done => rfl

theorem reduceToBracket_eq (operand : Expr) (pending : List Expr.Pending) :
    reduceToBracket (operand :: operandsOf pending) (entriesOf pending) =
      .ok ((Expr.close operand pending).1 :: operandsOf (Expr.close operand pending).2,
        entriesOf (Expr.close operand pending).2) := by
  induction pending generalizing operand with
  | nil => rfl
  | cons entry rest ih =>
      cases entry with
      | sign operator => exact ih (.sign operator operand)
      | operation left operator => exact ih (.operation left operator operand)
      | group => rfl
      | call callee done => rfl

private theorem reduceAll_eq (operand : Expr) (pending : List Expr.Pending) :
    reduceAll (operand :: operandsOf pending) (entriesOf pending) =
      outcome ([·]) (Expr.finish ⟨pending, some operand⟩) := by
  induction pending generalizing operand with
  | nil => rfl
  | cons entry rest ih =>
      cases entry with
      | sign operator => exact ih (.sign operator operand)
      | operation left operator => exact ih (.operation left operator operand)
      | group => rfl
      | call callee done => rfl

/-! ## One token -/

private theorem closeBefore_suffix (next : String) (operand : Expr) (pending : List Expr.Pending) :
    (Expr.closeBefore next operand pending).2 <:+ pending := by
  rw [closeBefore_eq_closeWhile]
  exact closeWhile_suffix _ operand pending

theorem close_suffix (operand : Expr) (pending : List Expr.Pending) :
    (Expr.close operand pending).2 <:+ pending := by
  rw [close_eq_closeWhile]
  exact closeWhile_suffix _ operand pending

/-- Closing stops at a bracket, or at the bottom. -/
theorem headBelow_close (operand : Expr) (pending : List Expr.Pending) :
    HeadBelow 1 (Expr.close operand pending).2 := by
  fun_induction Expr.close operand pending with
  | case1 operand operator rest ih => exact ih
  | case2 operand left operator rest ih => exact ih
  | case3 operand rest hsign hoperation =>
      cases rest with
      | nil => trivial
      | cons entry rest =>
          cases entry with
          | group | call => trivial
          | sign operator => exact absurd rfl (hsign operator rest)
          | operation left operator => exact absurd rfl (hoperation left operator rest)

theorem Known.suffix {pending rest : List Expr.Pending} (h : Known pending)
    (hsuffix : rest <:+ pending) : Known rest :=
  fun left operator hmem => h left operator (hsuffix.subset hmem)

theorem Known.cons {entry : Expr.Pending} {rest : List Expr.Pending} (h : Known rest)
    (hentry : ∀ left operator, entry ≠ .operation left operator) : Known (entry :: rest) := by
  intro left operator hmem
  rcases List.mem_cons.1 hmem with heq | hmem
  · exact absurd heq.symm (hentry left operator)
  · exact h left operator hmem

theorem Known.operation {operator : String} {left : Expr} {rest : List Expr.Pending}
    (h : Known rest) (hoperator : precedence operator = .ok (Expr.strength operator)) :
    Known (.operation left operator :: rest) := by
  intro first other hmem
  rcases List.mem_cons.1 hmem with heq | hmem
  · cases heq
    exact hoperator
  · exact h first other hmem

section Step

variable {token : Token} {pending : List Expr.Pending}

/-- What a step of the parser is on the two stacks: the same step, and the operators that are
pending stay known. -/
def Follows (progress : Expr.Progress) (token : Token) : Prop :=
  step (view progress) token = outcome view (Expr.step progress token) ∧
    ∀ next, Expr.step progress token = .ok next → Known next.pending

theorem Follows.of_ok {progress next : Expr.Progress}
    (hview : step (view progress) token = .ok (view next))
    (hstep : Expr.step progress token = .ok next) (known : Known next.pending) :
    Follows progress token := by
  refine ⟨by rw [hview, hstep]; rfl, fun other hother => ?_⟩
  rw [hstep] at hother
  cases hother
  exact known

theorem Follows.of_error {progress : Expr.Progress}
    (hview : step (view progress) token = refuse token)
    (hstep : Expr.step progress token = .error (Expr.unexpected token)) :
    Follows progress token := by
  refine ⟨by rw [hview, hstep]; rfl, fun other hother => ?_⟩
  rw [hstep] at hother
  cases hother

theorem follows_due (lexical : token.Lexical) (known : Known pending) :
    Follows ⟨pending, none⟩ token := by
  cases lexical with
  | number kind => exact .of_ok (by simp [step, kind, operand, view]) (step_number kind) known
  | name kind => exact .of_ok (by simp [step, kind, operand, view]) (step_name kind) known
  | opening opens =>
      refine .of_ok ?_ (step_group opens) (known.cons nofun)
      simp [step, opens.1, opens.2, opening, view, entriesOf, operandsOf]
  | closing closes =>
      match pending with
      | .call callee [] :: rest =>
          refine .of_ok ?_ (step_emptyCall closes) known.tail
          simp [step, closes.1, closes.2, closing, view, entriesOf, operandsOf]
      | .call callee (e :: done) :: rest =>
          refine .of_error ?_ (step_due_closing_error closes nofun)
          simp [step, closes.1, closes.2, closing, view, entriesOf, operandsOf]
          omega
      | [] | .sign _ :: _ | .operation .. :: _ | .group :: _ =>
          refine .of_error ?_ (step_due_closing_error closes nofun)
          simp [step, closes.1, closes.2, closing, view, entriesOf]
  | comma separates =>
      refine .of_error ?_ (step_due_comma separates)
      simp [step, separates.1, separates.2, comma, view]
  | additive joins =>
      refine .of_ok ?_ (step_sign joins) (known.cons nofun)
      obtain ⟨kind, text⟩ | ⟨kind, text⟩ := joins <;>
        simp [step, kind, text, operator, view, entriesOf, operandsOf]
  | multiplicative joins =>
      refine .of_error ?_ (step_due_multiplicative joins)
      obtain ⟨kind, text⟩ | ⟨kind, text⟩ := joins <;> simp [step, kind, text, operator, view]
  | power raises =>
      refine .of_error ?_ (step_due_power raises)
      simp [step, raises.1, raises.2, operator, view]

theorem follows_behind_operator {operand : Expr} (binary : IsOperator token)
    (known : Known pending) : Follows ⟨pending, some operand⟩ token := by
  have hreduce := reduceBefore_eq (precedence_of_isOperator binary) known operand
  refine .of_ok ?_ (step_operator binary) ?_
  · have hoperator : step (view ⟨pending, some operand⟩) token =
        operator (view ⟨pending, some operand⟩) token := by
      obtain (⟨kind, text⟩ | ⟨kind, text⟩) | (⟨kind, text⟩ | ⟨kind, text⟩) | ⟨kind, text⟩ := binary <;>
        simp [step, kind, text]
    rw [hoperator]
    simp only [operator, view, Option.toList_some, List.cons_append, List.nil_append,
      Option.isNone_some, Bool.false_eq_true, if_false, hreduce]
    rfl
  · exact (known.suffix (closeBefore_suffix ..)).operation (precedence_of_isOperator binary)

theorem follows_behind_closing {operand : Expr} (closes : token.Is .symbol ")")
    (known : Known pending) : Follows ⟨pending, some operand⟩ token := by
  have hrest := known.suffix (close_suffix operand pending)
  have hhead := headBelow_close operand pending
  have hparser := @step_closing _ pending operand closes
  have hclosing : step (view ⟨pending, some operand⟩) token =
      closing (view ⟨pending, some operand⟩) token := by
    simp [step, closes.1, closes.2]
  simp only [closing, view, Option.toList_some, List.cons_append, List.nil_append,
    Option.isNone_some, Bool.false_eq_true, if_false, reduceToBracket_eq] at hclosing
  generalize Expr.close operand pending = closed at hclosing hrest hhead hparser
  obtain ⟨inner, stack⟩ := closed
  match stack with
  | [] => exact .of_error hclosing hparser
  | .sign _ :: _ => exact hhead.elim
  | .operation _ operator :: _ => exact absurd hhead (Nat.not_lt.2 (one_le_strength operator))
  | .group :: rest =>
      refine .of_ok ?_ hparser hrest.tail
      exact hclosing
  | .call callee done :: rest =>
      refine .of_ok ?_ hparser hrest.tail
      have hcount : (inner :: operandsOf (.call callee done :: rest)).length -
          (operandsOf rest).length = (inner :: done).length := by
        simp only [operandsOf, List.length_cons, List.length_append]
        omega
      refine Eq.trans hclosing ?_
      show Except.ok (Stacks.mk _ _ _) = _
      rw [hcount]
      simp [operandsOf, view]

theorem follows_behind_comma {operand : Expr} (separates : token.Is .symbol ",")
    (known : Known pending) : Follows ⟨pending, some operand⟩ token := by
  have hrest := known.suffix (close_suffix operand pending)
  have hhead := headBelow_close operand pending
  have hparser := @step_comma _ pending operand separates
  have hcomma : step (view ⟨pending, some operand⟩) token =
      comma (view ⟨pending, some operand⟩) token := by
    simp [step, separates.1, separates.2]
  simp only [comma, view, Option.toList_some, List.cons_append, List.nil_append,
    Option.isNone_some, Bool.false_eq_true, if_false, reduceToBracket_eq] at hcomma
  generalize Expr.close operand pending = closed at hcomma hrest hhead hparser
  obtain ⟨inner, stack⟩ := closed
  match stack with
  | [] => exact .of_error hcomma hparser
  | .sign _ :: _ => exact hhead.elim
  | .operation _ operator :: _ => exact absurd hhead (Nat.not_lt.2 (one_le_strength operator))
  | .group :: rest => exact .of_error hcomma hparser
  | .call callee done :: rest =>
      refine .of_ok ?_ hparser (hrest.tail.cons nofun)
      exact hcomma

theorem follows_behind {operand : Expr} (lexical : token.Lexical) (known : Known pending) :
    Follows ⟨pending, some operand⟩ token := by
  cases lexical with
  | number kind =>
      exact .of_error (by simp [step, kind, TwoStacks.operand, view]) (step_behind_number kind)
  | name kind =>
      exact .of_error (by simp [step, kind, TwoStacks.operand, view]) (step_behind_name kind)
  | opening opens =>
      refine .of_ok ?_ (step_call opens) (known.cons nofun)
      simp [step, opens.1, opens.2, opening, view, entriesOf, operandsOf]
  | closing closes => exact follows_behind_closing closes known
  | comma separates => exact follows_behind_comma separates known
  | additive joins => exact follows_behind_operator (.inl joins) known
  | multiplicative joins => exact follows_behind_operator (.inr (.inl joins)) known
  | power raises => exact follows_behind_operator (.inr (.inr raises)) known

/-- On lexical tokens the two stacks follow the parser step by step. -/
theorem follows {progress : Expr.Progress} (lexical : token.Lexical)
    (known : Known progress.pending) : Follows progress token := by
  match progress with
  | ⟨pending, none⟩ => exact follows_due lexical known
  | ⟨pending, some operand⟩ => exact follows_behind lexical known

end Step

/-! ## Whole runs -/

private theorem foldlM_eq {tokens : List Token} (lexical : ∀ token ∈ tokens, token.Lexical) :
    ∀ {progress : Expr.Progress}, Known progress.pending →
      tokens.foldlM step (view progress) = outcome view (tokens.foldlM Expr.step progress) := by
  induction tokens with
  | nil => exact fun _ => rfl
  | cons token later ih =>
      intro progress known
      obtain ⟨hstep, hknown⟩ := follows (lexical token List.mem_cons_self) known
      rw [List.foldlM_cons, List.foldlM_cons, hstep]
      cases hnext : Expr.step progress token with
      | error fault => rfl
      | ok next =>
          exact ih (fun other hother => lexical other (List.mem_cons_of_mem _ hother))
            (hknown next hnext)

/-- On lexical tokens the two stacks give what the parser gives: the same fault, or an operand
stack with nothing but the tree. -/
theorem parse_eq {tokens : List Token} (lexical : ∀ token ∈ tokens, token.Lexical) :
    parse tokens = outcome ([·]) (Expr.ofTokens tokens) := by
  have hrun := @foldlM_eq _ lexical ⟨[], none⟩ nofun
  rw [parse, show (⟨[], [], true⟩ : Stacks) = view ⟨[], none⟩ from rfl, hrun, Expr.ofTokens]
  cases hstop : tokens.foldlM Expr.step ⟨[], none⟩ with
  | error fault => rfl
  | ok stop =>
      obtain ⟨pending, operand⟩ := stop
      cases operand with
      | none => rfl
      | some operand => exact reduceAll_eq operand pending

end DeskCalculator.TwoStacks
