namespace Stencil
namespace Text

/-!
Line ends.  Text that comes from outside may end its lines by a line feed, by
a carriage return, or by both in that order; inside, a line feed alone ends a
line.
-/

/-- Every line end becomes one line feed; the two characters of a pair count
as one. -/
def normalizeLineEnds : List Char -> List Char
  | [] => []
  | '\r' :: '\n' :: rest => '\n' :: normalizeLineEnds rest
  | character :: rest =>
      (if character = '\r' then '\n' else character) :: normalizeLineEnds rest

/-- The first line with its line feed, if it has one, and the text after it;
nothing at the end of the text. -/
def readLine : List Char -> List Char × List Char
  | [] => ([], [])
  | character :: rest =>
      if character = '\n' then
        (['\n'], rest)
      else
        let (line, later) := readLine rest
        (character :: line, later)

/-- Reading a line shortens a text that is not at its end. -/
theorem length_readLine_lt (character : Char) (rest : List Char) :
    (readLine (character :: rest)).2.length < (character :: rest).length := by
  induction rest generalizing character with
  | nil => simp [readLine]; split <;> simp
  | cons second rest inductiveHypothesis =>
      rw [readLine]
      split
      · simp
      · exact Nat.lt_succ_of_lt (inductiveHypothesis second)

end Text
end Stencil
