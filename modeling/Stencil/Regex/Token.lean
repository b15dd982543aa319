namespace Stencil
namespace Regex

/-!
The tokens of a regular expression: single characters, and characters escaped
by a backslash.  A backslash always takes the next character with it, so a
text splits into tokens in one way only, whatever the characters mean.  A
backslash at the very end escapes nothing and is no token.
-/

structure Token where
  escaped : Bool
  character : Char
  deriving DecidableEq, Repr

namespace Token

def is (token : Token) (character : Char) : Bool :=
  !token.escaped && token.character == character

/-- Whether the token is a character that passes the test, not escaped. -/
def passes (token : Token) (test : Char -> Bool) : Bool :=
  !token.escaped && test token.character

def characters (token : Token) : List Char :=
  if token.escaped then ['\\', token.character] else [token.character]

def text (token : Token) : String :=
  String.ofList token.characters

def length (token : Token) : Nat :=
  token.characters.length

/-- The tokens of a text, and whether a backslash is left at its end. -/
def split : List Char -> List Token × Bool
  | [] => ([], false)
  | ['\\'] => ([], true)
  | '\\' :: character :: rest =>
      let (tokens, dangling) := split rest
      (⟨true, character⟩ :: tokens, dangling)
  | character :: rest =>
      let (tokens, dangling) := split rest
      (⟨false, character⟩ :: tokens, dangling)

/-- A text is its tokens, followed by the backslash left over. -/
theorem flatMap_characters_split (text : List Char) :
    (split text).1.flatMap characters ++ (if (split text).2 then ['\\'] else []) = text := by
  fun_induction split text with
  | case1 => rfl
  | case2 => rfl
  | case3 character rest tokens dangling equation inductiveHypothesis =>
      rw [equation] at inductiveHypothesis
      simpa [characters] using inductiveHypothesis
  | case4 character rest _ _ tokens dangling equation inductiveHypothesis =>
      rw [equation] at inductiveHypothesis
      simpa [characters] using inductiveHypothesis

end Token

end Regex
end Stencil
