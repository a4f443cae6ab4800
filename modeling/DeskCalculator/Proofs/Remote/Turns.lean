import DeskCalculator.Remote.Prompt
import Mathlib.Data.List.Basic
import Mathlib.Data.List.TakeWhile

/-!
# The turns that are sent

With a message go those turns of the conversation in which something is said, from the
first one of the user on (`contents_eq`).  Whether a turn is kept hangs on what has been
kept before it, but only as long as that is nothing (`foldl_keep_nil`): behind the first
turn that is kept, every turn in which something is said is kept as well
(`foldl_keep_of_ne_nil`).
-/

namespace DeskCalculator.Remote

/-- The turns of a conversation that count: those in which something is said, without the leading
ones that are not the user's. -/
def counted (history : List Turn) : List Turn :=
  (history.filter fun turn => turn.text ≠ "").dropWhile fun turn => turn.role ≠ userRole

/-! ## One turn -/

variable {kept : List Turn} {turn : Turn}

theorem keep_of_text_eq (h : turn.text = "") : keep kept turn = kept := by
  rw [keep, if_pos (.inl (String.isEmpty_iff.2 h))]

private theorem keep_of_ne_nil (hkept : kept ≠ []) (h : turn.text ≠ "") :
    keep kept turn = turn :: kept := by
  rw [keep, if_neg]
  simp [hkept, h]

private theorem keep_nil (h : turn.text ≠ "") :
    keep [] turn = if turn.role = userRole then [turn] else [] := by
  by_cases hrole : turn.role = userRole <;> simp [keep, h, hrole]

/-! ## A conversation -/

/-- Behind a turn that is kept, every turn is in which something is said. -/
theorem foldl_keep_of_ne_nil (history : List Turn) (hkept : kept ≠ []) :
    history.foldl keep kept = (history.filter fun turn => turn.text ≠ "").reverse ++ kept := by
  induction history generalizing kept with
  | nil => rfl
  | cons turn rest ih =>
      rw [List.foldl_cons]
      by_cases htext : turn.text = ""
      · rw [keep_of_text_eq htext, ih hkept, List.filter_cons_of_neg (by simpa using htext)]
      · rw [keep_of_ne_nil hkept htext, ih (List.cons_ne_nil _ _),
          List.filter_cons_of_pos (by simpa using htext), List.reverse_cons, List.append_assoc]
        rfl

theorem foldl_keep_nil (history : List Turn) :
    history.foldl keep [] = (counted history).reverse := by
  induction history with
  | nil => rfl
  | cons turn rest ih =>
      rw [List.foldl_cons, counted]
      by_cases htext : turn.text = ""
      · rw [keep_of_text_eq htext, ih, List.filter_cons_of_neg (by simpa using htext), counted]
      · rw [keep_nil htext, List.filter_cons_of_pos (by simpa using htext)]
        by_cases hrole : turn.role = userRole
        · -- the first turn that is kept
          rw [if_pos hrole, foldl_keep_of_ne_nil rest (List.cons_ne_nil _ _),
            List.dropWhile_cons_of_neg (by simpa using hrole), List.reverse_cons]
        · rw [if_neg hrole, ih, List.dropWhile_cons_of_pos (by simpa using hrole), counted]

/-- The turns that are sent with a message are those that count, and the message. -/
theorem contents_eq (history : List Turn) (message : String) :
    contents history message = counted history ++ [⟨userRole, message⟩] := by
  rw [contents, foldl_keep_nil, List.reverse_reverse]

/-! ## The turns that count -/

theorem text_ne_of_mem_counted {history : List Turn} (h : turn ∈ counted history) :
    turn.text ≠ "" := by
  have hmem := (List.dropWhile_sublist _).subset h
  simpa using (List.mem_filter.1 hmem).2

/-- The first turn that is sent is one of the user's. -/
theorem exists_contents_eq_cons (history : List Turn) (message : String) :
    ∃ first rest, contents history message = first :: rest ∧ first.role = userRole := by
  rw [contents_eq]
  cases hcounted : counted history with
  | nil => exact ⟨_, _, rfl, rfl⟩
  | cons first rest =>
      have hhead := List.head?_dropWhile_not (fun turn : Turn => turn.role ≠ userRole)
        (history.filter fun turn => turn.text ≠ "")
      rw [counted] at hcounted
      rw [hcounted] at hhead
      exact ⟨first, _, rfl, by simpa using hhead⟩

theorem role_ne_of_mem_filter {before : List Turn}
    (h : ∀ turn ∈ before, turn.text = "" ∨ turn.role ≠ userRole) :
    ∀ turn ∈ before.filter fun turn => turn.text ≠ "", decide (turn.role ≠ userRole) = true := by
  intro turn hturn
  obtain ⟨hmem, hsaid⟩ := List.mem_filter.1 hturn
  exact decide_eq_true ((h turn hmem).resolve_left (by simpa using hsaid))

/-- Nothing counts as long as the user says nothing. -/
theorem counted_eq_nil {history : List Turn}
    (h : ∀ turn ∈ history, turn.text = "" ∨ turn.role ≠ userRole) : counted history = [] := by
  rw [counted, List.dropWhile_eq_nil_iff]
  exact role_ne_of_mem_filter h

/-- From the first turn of the user on in which something is said, only empty turns are left out. -/
theorem counted_append {before after : List Turn} {first : Turn}
    (hbefore : ∀ turn ∈ before, turn.text = "" ∨ turn.role ≠ userRole)
    (hrole : first.role = userRole) (htext : first.text ≠ "") :
    counted (before ++ first :: after) = first :: after.filter fun turn => turn.text ≠ "" := by
  rw [counted, List.filter_append, List.dropWhile_append_of_pos (role_ne_of_mem_filter hbefore),
    List.filter_cons_of_pos (by simpa using htext),
    List.dropWhile_cons_of_neg (by simpa using hrole)]

end DeskCalculator.Remote
