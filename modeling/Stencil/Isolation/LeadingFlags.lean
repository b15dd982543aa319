namespace Stencil
namespace Isolation

/-!
Flags for a whole expression, which are written in groups of their own at its
very start.  An expression with such flags cannot stand inside another one, so
the flags are moved to a group around what follows them, where they mean the
same.
-/

/-- The letters that may stand in a leading flag group. -/
def isLeadingFlag (character : Char) : Bool :=
  ['a', 'i', 'L', 'm', 's', 'u', 'x'].contains character

/-- The letters of the flag group that the text begins with, and the text
after the group.  A group without a letter, or with a letter that is none of
these, is no flag group. -/
def flagGroup? : List Char -> Option (List Char × List Char)
  | '(' :: '?' :: rest =>
      match rest.takeWhile isLeadingFlag, rest.dropWhile isLeadingFlag with
      | [], _ => none
      | letters, ')' :: after => some (letters, after)
      | _, _ => none
  | _ => none

/-- What follows a flag group is shorter than the text. -/
theorem length_lt_of_flagGroup? {text letters after : List Char}
    (group : flagGroup? text = some (letters, after)) : after.length < text.length := by
  unfold flagGroup? at group
  split at group
  · rename_i rest
    split at group
    · cases group
    · rename_i following _
      cases group
      have := congrArg List.length following
      have := (List.dropWhile_sublist isLeadingFlag (l := rest)).length_le
      simp only [List.length_cons] at *
      omega
    · cases group
  · cases group

/-- The letters of all flag groups that the text begins with, and the text
after them.  Only an unbroken run of groups counts. -/
def splitFlags (text : List Char) : List Char × List Char :=
  match _ : flagGroup? text with
  | none => ([], text)
  | some (letters, after) =>
      let (more, body) := splitFlags after
      (letters ++ more, body)
termination_by text.length
decreasing_by exact length_lt_of_flagGroup? (by assumption)

/-- The expression with its leading flags on a group around the rest.  If
white space is skipped the group ends on a new line, since a comment may reach
to the end of the text. -/
def groupLeadingFlags (expression : List Char) : List Char :=
  match splitFlags expression with
  | ([], _) => expression
  | (letters, body) =>
      let ending := if letters.contains 'x' then ['\n'] else []
      ['(', '?'] ++ letters.eraseDups ++ [':'] ++ body ++ ending ++ [')']

end Isolation
end Stencil
