import Stencil.Text.Printable

namespace Stencil
namespace Text

/-!
Text shown between quotation marks, on one line and without invisible
characters.  Apostrophes are the marks, unless the text holds one and no
double quotation mark.  The mark and the backslash are escaped by a backslash;
tab, line feed and carriage return have letters; any other character that
cannot be shown is given by its code, in as many hexadecimal digits as its
size class has.
-/

/-- The last `width` hexadecimal digits of a number. -/
def hexadecimal (width code : Nat) : String :=
  let digits := Nat.toDigits 16 code
  String.ofList (List.replicate (width - digits.length) '0' ++ digits)

/-- The mark that needs least escaping: the apostrophe, unless the text holds
one and no double quotation mark. -/
def quotationMark (text : List Char) : Char :=
  if text.contains '\'' && !text.contains '"' then '"' else '\''

def quotedCharacter (mark character : Char) : String :=
  let code := character.toNat
  if character = mark || character = '\\' then String.ofList ['\\', character]
  else if character = '\t' then "\\t"
  else if character = '\n' then "\\n"
  else if character = '\r' then "\\r"
  else if isPrintable code then character.toString
  else if code ≤ 0xFF then "\\x" ++ hexadecimal 2 code
  else if code ≤ 0xFFFF then "\\u" ++ hexadecimal 4 code
  else "\\U" ++ hexadecimal 8 code

def quoted (text : String) : String :=
  let mark := quotationMark text.toList
  let body := text.toList.foldl (fun shown character => shown ++ quotedCharacter mark character) ""
  mark.toString ++ body ++ mark.toString

end Text
end Stencil
