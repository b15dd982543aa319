namespace Stencil
namespace Isolation

/-!
Making groups non-capturing, by their text alone.  Groups that capture, with
or without a name, are found by scanning for parentheses; escapes, character
classes, comments and extensions are copied.  The scan knows no more of the
expression than that, so any text can be given to it.
-/

/-- What the scan is in the middle of.  The scan knows classes and comments,
and nothing else of the syntax around a group. -/
inductive Region where
  | outside
  /-- In a character class. -/
  | inClass
  /-- In a comment that ends with the line. -/
  | lineComment
  /-- In a comment that ends with a parenthesis. -/
  | comment
  /-- In the name of a group, which is dropped. -/
  | groupName
  deriving DecidableEq, Repr

/-- The text without captures, scanned from the given region on; `verbose`
says whether a `#` outside classes begins a comment.  Nothing if a group name
or a comment does not end. -/
def withoutCapturesFrom? (verbose : Bool) : Region -> List Char -> Option (List Char)
  | .outside, [] => some []
  | .outside, ['\\'] => some ['\\']
  | .outside, '\\' :: character :: rest =>
      (withoutCapturesFrom? verbose .outside rest).map fun text => '\\' :: character :: text
  | .outside, '[' :: '^' :: ']' :: rest =>
      (withoutCapturesFrom? verbose .inClass rest).map (['[', '^', ']'] ++ ·)
  | .outside, '[' :: '^' :: rest =>
      (withoutCapturesFrom? verbose .inClass rest).map (['[', '^'] ++ ·)
  | .outside, '[' :: ']' :: rest =>
      (withoutCapturesFrom? verbose .inClass rest).map (['[', ']'] ++ ·)
  | .outside, '[' :: rest => (withoutCapturesFrom? verbose .inClass rest).map ('[' :: ·)
  | .outside, '(' :: '?' :: 'P' :: '<' :: rest =>
      (withoutCapturesFrom? verbose .groupName rest).map (['(', '?', ':'] ++ ·)
  | .outside, '(' :: '?' :: '#' :: rest =>
      (withoutCapturesFrom? verbose .comment rest).map (['(', '?', '#'] ++ ·)
  | .outside, '(' :: '?' :: rest =>
      (withoutCapturesFrom? verbose .outside rest).map (['(', '?'] ++ ·)
  | .outside, '(' :: rest =>
      (withoutCapturesFrom? verbose .outside rest).map (['(', '?', ':'] ++ ·)
  | .outside, character :: rest =>
      let region := if verbose && character == '#' then .lineComment else .outside
      (withoutCapturesFrom? verbose region rest).map (character :: ·)
  | .inClass, [] => some []
  | .inClass, ['\\'] => some ['\\']
  | .inClass, '\\' :: character :: rest =>
      (withoutCapturesFrom? verbose .inClass rest).map fun text => '\\' :: character :: text
  | .inClass, character :: rest =>
      let region := if character = ']' then .outside else .inClass
      (withoutCapturesFrom? verbose region rest).map (character :: ·)
  | .lineComment, [] => some []
  | .lineComment, character :: rest =>
      let region := if character = '\n' then .outside else .lineComment
      (withoutCapturesFrom? verbose region rest).map (character :: ·)
  | .comment, [] => none
  | .comment, character :: rest =>
      let region := if character = ')' then .outside else .comment
      (withoutCapturesFrom? verbose region rest).map (character :: ·)
  | .groupName, [] => none
  | .groupName, character :: rest =>
      if character = '>' then withoutCapturesFrom? verbose .outside rest
      else withoutCapturesFrom? verbose .groupName rest

/-- The text without captures: every capturing group becomes a plain one and
keeps its place, so that alternatives are held together as before. -/
def withoutCaptures? (verbose : Bool) (expression : List Char) : Option (List Char) :=
  withoutCapturesFrom? verbose .outside expression

end Isolation
end Stencil
