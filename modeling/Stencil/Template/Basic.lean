namespace Stencil

/-!
Templates: literal text with named placeholders in it.  A template is kept as
the sequence of its placeholders, each with the literal before it, and the
literal after the last of them, so literals and placeholders alternate by
construction and there is always one literal more.

The fragments of a template are the same sequence flattened.  A fragment
sequence need not come from a template: any alternation of literals and
placeholders that begins with a literal can be given.
-/

/-- A part of a template: text that stands for itself, or a named
placeholder. -/
inductive Fragment where
  | literal (text : String)
  | placeholder (name : String)
  deriving DecidableEq, Repr

namespace Fragment

def text : Fragment -> String
  | .literal text => text
  | .placeholder name => name

mutual

/-- Reads the texts as literals and placeholder names in turn, a literal
first. -/
def alternating : List String -> List Fragment
  | [] => []
  | text :: rest => .literal text :: alternatingFromPlaceholder rest

/-- Reads the texts as placeholder names and literals in turn, a name
first. -/
def alternatingFromPlaceholder : List String -> List Fragment
  | [] => []
  | name :: rest => .placeholder name :: alternating rest

end

/-- The names of the placeholders, in order and with repetitions. -/
def names : List Fragment -> List String
  | [] => []
  | .literal _ :: rest => names rest
  | .placeholder name :: rest => name :: names rest

end Fragment

structure Template where
  /-- Each placeholder's name, with the literal before it. -/
  pieces : List (String × String)
  /-- The literal after the last placeholder. -/
  last : String
  deriving DecidableEq, Repr

namespace Template

/-- The symbol that begins a placeholder, and that is written twice to stand
for itself. -/
def openingSymbol : Char := '$'

def openingBrace : Char := '{'

def closingBrace : Char := '}'

/-- What a placeholder's name may hold besides ASCII letters and digits. -/
def namePunctuation : List Char := ['#', '+', '-', '/', ':', '=', '_']

def isAsciiAlphanumeric (character : Char) : Bool :=
  ('0' ≤ character && character ≤ '9') || ('A' ≤ character && character ≤ 'Z') ||
    ('a' ≤ character && character ≤ 'z')

/-- Whether the character may stand in a placeholder's name. -/
def isNameCharacter (character : Char) : Bool :=
  namePunctuation.contains character || isAsciiAlphanumeric character

/-- Whether the text is a single name character, or a run of ASCII letters and
digits.  Punctuation counts only where it stands alone. -/
def isNameUnit (text : String) : Bool :=
  match text.toList with
  | [] => false
  | [character] => isNameCharacter character
  | characters => characters.all isAsciiAlphanumeric

def literals (template : Template) : List String :=
  template.pieces.map Prod.fst ++ [template.last]

def names (template : Template) : List String :=
  template.pieces.map Prod.snd

/-- The distinct placeholder names, in order of first occurrence. -/
def distinctNames (template : Template) : List String :=
  template.names.eraseDups

def fragments (template : Template) : List Fragment :=
  template.pieces.flatMap (fun (literal, name) => [.literal literal, .placeholder name]) ++
    [.literal template.last]

/-- Puts literals and placeholder names together in turn.  This gives nothing
unless there is exactly one literal more than there are names. -/
def weave? : (literals names : List String) -> Option Template
  | [last], [] => some ⟨[], last⟩
  | literal :: literals, name :: names =>
      (weave? literals names).map fun rest => ⟨(literal, name) :: rest.pieces, rest.last⟩
  | _, _ => none

theorem length_literals (template : Template) :
    template.literals.length = template.names.length + 1 := by
  simp [literals, names]

/-- Weaving a template's own literals and names gives the template back. -/
theorem weave?_literals_names (template : Template) :
    weave? template.literals template.names = some template := by
  obtain ⟨pieces, last⟩ := template
  induction pieces with
  | nil => rfl
  | cons piece rest inductiveHypothesis =>
      obtain ⟨literal, name⟩ := piece
      simp only [literals, names, List.map_cons, List.cons_append] at inductiveHypothesis ⊢
      rw [weave?, inductiveHypothesis]
      rfl

end Template

end Stencil
