namespace Stencil
namespace Regex

/-!
Quoting text for regular expressions.  Every character that means something in
an expression, verbose or not, gets a backslash, so the quoted text matches
the text itself and nothing else.
-/

/-- The characters with a meaning of their own, in an expression or in a
set. -/
def specialCharacters : List Char :=
  "()[]\x7b\x7d?*+-|^$\\.&~# \t\n\r\x0b\x0c".toList

def quoteCharacters : List Char -> List Char
  | [] => []
  | character :: rest =>
      if specialCharacters.contains character then '\\' :: character :: quoteCharacters rest
      else character :: quoteCharacters rest

def quote (text : String) : String :=
  String.ofList (quoteCharacters text.toList)

end Regex
end Stencil
