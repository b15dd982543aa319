import Stencil.Regex.Run

namespace Stencil
namespace Regex

/-!
Segments of a text.  A run goes over the characters between two positions;
segments that follow one another are put together, and a segment can be cut
where a part of it ends.
-/

/-- The characters from one position up to the other. -/
def segment (text : Array Char) (start stop : Nat) : List Char :=
  (text.extract start stop).toList

theorem segment_self (text : Array Char) (position : Nat) : segment text position position = [] := by
  simp [segment]

theorem segment_append {text : Array Char} {start middle stop : Nat} (before : start ≤ middle)
    (after : middle ≤ stop) :
    segment text start middle ++ segment text middle stop = segment text start stop := by
  unfold segment
  rw [← Array.toList_append, Array.extract_append_extract, Nat.min_eq_left before,
    Nat.max_eq_right after]

theorem segment_eq_take (text : Array Char) (start count : Nat) :
    segment text start (start + count) = (text.toList.drop start).take count := by
  simp [segment]

theorem segment_eq_cons {text : Array Char} {start count : Nat} {character : Char}
    {rest : List Char} :
    segment text start (start + (count + 1)) = character :: rest ↔
      text[start]? = some character ∧ segment text (start + 1) (start + 1 + count) = rest := by
  have head : text[start]? = (text.toList.drop start).head? := by
    rw [List.head?_drop, Array.getElem?_toList]
  have tail : text.toList.drop (start + 1) = (text.toList.drop start).tail := List.tail_drop.symm
  rw [segment_eq_take, segment_eq_take, head, tail]
  cases text.toList.drop start <;> simp

theorem length_segment {text : Array Char} {start stop : Nat} (forward : start ≤ stop)
    (inside : stop ≤ text.size) : (segment text start stop).length = stop - start := by
  obtain ⟨width, rfl⟩ := Nat.exists_eq_add_of_le forward
  have size : text.toList.length = text.size := Array.length_toList
  rw [segment_eq_take, List.length_take, List.length_drop, size]
  omega

theorem inside_of_segment_eq {text : Array Char} {start : Nat} {characters : List Char}
    (inside : start ≤ text.size)
    (same : segment text start (start + characters.length) = characters) :
    start + characters.length ≤ text.size := by
  have length := congrArg List.length same
  have size : text.toList.length = text.size := Array.length_toList
  rw [segment_eq_take, List.length_take, List.length_drop, size] at length
  omega

/-- A segment that is two parts is cut between them. -/
theorem exists_of_segment_eq_append {text : Array Char} {start stop : Nat} {front back : List Char}
    (forward : start ≤ stop) (inside : stop ≤ text.size)
    (parts : segment text start stop = front ++ back) :
    ∃ middle, start ≤ middle ∧ middle ≤ stop ∧ segment text start middle = front ∧
      segment text middle stop = back := by
  have length := congrArg List.length parts
  rw [length_segment forward inside, List.length_append] at length
  have before : start + front.length ≤ stop := by omega
  have joined : _ ++ segment text _ _ = _ :=
    segment_append (Nat.le_add_right start front.length) before
  have frontLength : (segment text start (start + front.length)).length = front.length := by
    rw [length_segment (Nat.le_add_right _ _) (Nat.le_trans before inside), Nat.add_sub_cancel_left]
  obtain ⟨isFront, isBack⟩ := List.append_inj (joined.trans parts) frontLength
  exact ⟨_, Nat.le_add_right _ _, before, isFront, isBack⟩

theorem segment_whole (text : Array Char) : segment text 0 text.size = text.toList := by
  simp [segment]

end Regex
end Stencil
