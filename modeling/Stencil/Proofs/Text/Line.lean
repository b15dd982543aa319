import Mathlib.Data.List.TakeWhile
import Stencil.Text.LineEnd

namespace Stencil
namespace Text

/-!
Text up to a symbol that ends it, and lines, which line feeds end.  A text
with a line feed is a line, the line feed, and the text behind it, and it is
read and split accordingly.
-/

variable {line rest : List Char}

theorem takeWhile_unended {symbol : Char} {content : List Char} (unended : symbol ∉ content) :
    content.takeWhile (· != symbol) = content :=
  List.takeWhile_eq_self_iff.mpr fun _ member =>
    bne_iff_ne.mpr fun same => unended (same ▸ member)

theorem takeWhile_ended {symbol : Char} {content : List Char} (unended : symbol ∉ content) :
    (content ++ symbol :: rest).takeWhile (· != symbol) = content := by
  rw [List.takeWhile_append, takeWhile_unended unended, if_pos rfl, List.takeWhile_cons_of_neg,
    List.append_nil]
  simp

theorem readLine_ended (unended : '\n' ∉ line) :
    readLine (line ++ '\n' :: rest) = (line ++ ['\n'], rest) := by
  induction line with
  | nil => rfl
  | cons character others inductiveHypothesis =>
      rw [List.mem_cons, not_or] at unended
      rw [List.cons_append, readLine, if_neg (Ne.symm unended.1), inductiveHypothesis unended.2]
      rfl

theorem readLine_unended (unended : '\n' ∉ line) : readLine line = (line, []) := by
  induction line with
  | nil => rfl
  | cons character others inductiveHypothesis =>
      rw [List.mem_cons, not_or] at unended
      rw [readLine, if_neg (Ne.symm unended.1), inductiveHypothesis unended.2]

/-- A text that does not begin with a line feed begins with a line that is not
empty; if it ends there, it ends without a line feed. -/
theorem exists_line {character : Char} (stays : character ≠ '\n') :
    ∃ line, line ≠ [] ∧ '\n' ∉ line ∧
      (character :: rest = line ∨ ∃ later, character :: rest = line ++ '\n' :: later) := by
  by_cases inside : '\n' ∈ rest
  · rcases List.eq_append_cons_of_mem inside with ⟨before, later, rfl, unended⟩
    exact ⟨character :: before, List.cons_ne_nil _ _,
      List.not_mem_cons_of_ne_of_not_mem (Ne.symm stays) unended, .inr ⟨later, rfl⟩⟩
  · exact ⟨character :: rest, List.cons_ne_nil _ _,
      List.not_mem_cons_of_ne_of_not_mem (Ne.symm stays) inside, .inl rfl⟩

end Text
end Stencil
