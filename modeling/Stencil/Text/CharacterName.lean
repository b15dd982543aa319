import Stencil.Text.CharacterName.Alphabets
import Stencil.Text.CharacterName.Signs
import Stencil.Text.CharacterName.EastAsian
import Stencil.Text.CharacterName.Historic
import Stencil.Text.CharacterName.Notations
import Stencil.Text.CodeSet

namespace Stencil
namespace Text

/-!
The names of characters, by Unicode 14.  Most are registered one by one.  The
syllables of Hangul are spelled out, and the ideographs of several scripts go
by their code points.

The case of a name does not matter, except that a syllable of Hangul or a
unified ideograph has to be named in capitals.  Names that stand for several
characters at once are not among them.
-/

namespace CharacterName

/-- Further names of characters: the controls, which have no other,
abbreviations, and corrections of registered names. -/
def aliases : List Run := [
  ⟨0x0, "", ["NULL;START OF HEADING;START OF TEXT;END OF TEXT;END OF TRANSMISSION;ENQUIRY",
    "ACKNOWLEDGE;ALERT;BACKSPACE;CHARACTER TABULATION;LINE FEED;LINE TABULATION;FORM FEED",
    "CARRIAGE RETURN;SHIFT OUT;SHIFT IN;DATA LINK ESCAPE;DEVICE CONTROL ONE;DEVICE CONTROL TWO",
    "DEVICE CONTROL THREE;DEVICE CONTROL FOUR;NEGATIVE ACKNOWLEDGE;SYNCHRONOUS IDLE",
    "END OF TRANSMISSION BLOCK;CANCEL;END OF MEDIUM;SUBSTITUTE;ESCAPE;INFORMATION SEPARATOR FOUR",
    "INFORMATION SEPARATOR THREE;INFORMATION SEPARATOR TWO;INFORMATION SEPARATOR ONE;SP"]⟩,
  ⟨0x0, "", ["NUL;SOH;STX;ETX;EOT;ENQ;ACK;BEL;BS;HORIZONTAL TABULATION;NEW LINE",
    "VERTICAL TABULATION;FF;CR;LOCKING-SHIFT ONE;LOCKING-SHIFT ZERO;DLE;DC1;DC2;DC3;DC4;NAK;SYN",
    "ETB;CAN;EOM;SUB;ESC;FILE SEPARATOR;GROUP SEPARATOR;RECORD SEPARATOR;UNIT SEPARATOR"]⟩,
  ⟨0x9, "", ["HT;END OF LINE;VT"]⟩,
  ⟨0x9, "", ["TAB;LF"]⟩,
  ⟨0xA, "", ["NL"]⟩,
  ⟨0xA, "", ["EOL"]⟩,
  ⟨0xE, "", ["SO;SI"]⟩,
  ⟨0x1C, "", ["FS;GS;RS;US"]⟩,
  ⟨0x7F, "", ["DELETE;PADDING CHARACTER;HIGH OCTET PRESET;BREAK PERMITTED HERE;NO BREAK HERE;INDEX",
    "NEXT LINE;START OF SELECTED AREA;END OF SELECTED AREA;CHARACTER TABULATION SET",
    "CHARACTER TABULATION WITH JUSTIFICATION;LINE TABULATION SET;PARTIAL LINE FORWARD",
    "PARTIAL LINE BACKWARD;REVERSE LINE FEED;SINGLE SHIFT TWO;SINGLE SHIFT THREE",
    "DEVICE CONTROL STRING;PRIVATE USE ONE;PRIVATE USE TWO;SET TRANSMIT STATE;CANCEL CHARACTER",
    "MESSAGE WAITING;START OF GUARDED AREA;END OF GUARDED AREA;START OF STRING",
    "SINGLE GRAPHIC CHARACTER INTRODUCER;SINGLE CHARACTER INTRODUCER;CONTROL SEQUENCE INTRODUCER",
    "STRING TERMINATOR;OPERATING SYSTEM COMMAND;PRIVACY MESSAGE;APPLICATION PROGRAM COMMAND;NBSP"]⟩,
  ⟨0x7F, "", ["DEL;PAD;HOP;BPH;NBH;IND;NEL;SSA;ESA;HORIZONTAL TABULATION SET",
    "HORIZONTAL TABULATION WITH JUSTIFICATION;VERTICAL TABULATION SET;PARTIAL LINE DOWN",
    "PARTIAL LINE UP;REVERSE INDEX;SINGLE-SHIFT-2;SINGLE-SHIFT-3;DCS;PRIVATE USE-1;PRIVATE USE-2",
    "STS;CCH;MW;START OF PROTECTED AREA;END OF PROTECTED AREA;SOS;SGC;SCI;CSI;ST;OSC;PM;APC"]⟩,
  ⟨0x88, "", ["HTS;HTJ;VTS;PLD;PLU;RI;SS2;SS3"]⟩,
  ⟨0x91, "", ["PU1;PU2"]⟩,
  ⟨0x96, "", ["SPA;EPA"]⟩,
  ⟨0xAD, "", ["SHY"]⟩,
  ⟨0x1A2, "", ["LATIN CAPITAL LETTER GHA;LATIN SMALL LETTER GHA"]⟩,
  ⟨0x34F, "", ["CGJ"]⟩,
  ⟨0x61C, "", ["ALM"]⟩,
  ⟨0x709, "", ["SYRIAC SUBLINEAR COLON SKEWED LEFT"]⟩,
  ⟨0xCDE, "", ["KANNADA LETTER LLLA"]⟩,
  ⟨0xE9D, "", ["LAO LETTER FO FON"]⟩,
  ⟨0xE9F, "", ["LAO LETTER FO FAY"]⟩,
  ⟨0xEA3, "", ["LAO LETTER RO"]⟩,
  ⟨0xEA5, "", ["LAO LETTER LO"]⟩,
  ⟨0xFD0, "", ["TIBETAN MARK BKA- SHOG GI MGO RGYAN"]⟩,
  ⟨0x11EC, "", ["HANGUL JONGSEONG YESIEUNG-KIYEOK;HANGUL JONGSEONG YESIEUNG-SSANGKIYEOK",
    "HANGUL JONGSEONG SSANGYESIEUNG;HANGUL JONGSEONG YESIEUNG-KHIEUKH"]⟩,
  ⟨0x180B, "", ["FVS1;FVS2;FVS3;MVS;FVS4"]⟩,
  ⟨0x200B, "", ["ZWSP;ZWNJ;ZWJ;LRM;RLM"]⟩,
  ⟨0x202A, "", ["LRE;RLE;PDF;LRO;RLO;NNBSP"]⟩,
  ⟨0x205F, "", ["MMSP;WJ"]⟩,
  ⟨0x2066, "", ["LRI;RLI;FSI;PDI"]⟩,
  ⟨0x2118, "", ["WEIERSTRASS ELLIPTIC FUNCTION"]⟩,
  ⟨0x2448, "", ["MICR ON US SYMBOL;MICR DASH SYMBOL"]⟩,
  ⟨0x2B7A, "", ["LEFTWARDS TRIANGLE-HEADED ARROW WITH DOUBLE VERTICAL STROKE"]⟩,
  ⟨0x2B7C, "", ["RIGHTWARDS TRIANGLE-HEADED ARROW WITH DOUBLE VERTICAL STROKE"]⟩,
  ⟨0xA015, "", ["YI SYLLABLE ITERATION MARK"]⟩,
  ⟨0xAA6E, "", ["MYANMAR LETTER KHAMTI LLA"]⟩,
  ⟨0xFE00, "VS", ["1;2;3;4;5;6;7;8;9;10;11;12;13;14;15;16"]⟩,
  ⟨0xFE18, "", ["PRESENTATION FORM FOR VERTICAL RIGHT WHITE LENTICULAR BRACKET"]⟩,
  ⟨0xFEFF, "", ["BYTE ORDER MARK"]⟩,
  ⟨0xFEFF, "", ["BOM"]⟩,
  ⟨0xFEFF, "", ["ZWNBSP"]⟩,
  ⟨0x122D4, "", ["CUNEIFORM SIGN NU11 TENU;CUNEIFORM SIGN NU11 OVER NU11 BUR OVER BUR"]⟩,
  ⟨0x16E56, "", ["MEDEFAIDRIN CAPITAL LETTER H;MEDEFAIDRIN CAPITAL LETTER NG"]⟩,
  ⟨0x16E76, "", ["MEDEFAIDRIN SMALL LETTER H;MEDEFAIDRIN SMALL LETTER NG"]⟩,
  ⟨0x1B001, "", ["HENTAIGANA LETTER E-1"]⟩,
  ⟨0x1D0C5, "", ["BYZANTINE MUSICAL SYMBOL FTHORA SKLIRON CHROMA VASIS"]⟩,
  ⟨0xE0100, "VS", ["17;18;19;20;21;22;23;24;25;26;27;28;29;30;31;32;33;34;35;36;37;38;39;40;41;42",
    "43;44;45;46;47;48;49;50;51;52;53;54;55;56;57;58;59;60;61;62;63;64;65;66;67;68;69;70;71;72;73",
    "74;75;76;77;78;79;80;81;82;83;84;85;86;87;88;89;90;91;92;93;94;95;96;97;98;99;100;101;102;103",
    "104;105;106;107;108;109;110;111;112;113;114;115;116;117;118;119;120;121;122;123;124;125;126",
    "127;128;129;130;131;132;133;134;135;136;137;138;139;140;141;142;143;144;145;146;147;148;149",
    "150;151;152;153;154;155;156;157;158;159;160;161;162;163;164;165;166;167;168;169;170;171;172",
    "173;174;175;176;177;178;179;180;181;182;183;184;185;186;187;188;189;190;191;192;193;194;195",
    "196;197;198;199;200;201;202;203;204;205;206;207;208;209;210;211;212;213;214;215;216;217;218",
    "219;220;221;222;223;224;225;226;227;228;229;230;231;232;233;234;235;236;237;238;239;240;241",
    "242;243;244;245;246;247;248;249;250;251;252;253;254;255;256"]⟩]

def registered : List Run :=
  [european, semitic, indic, himalayan, ethiopic, insular, phonetic,
    punctuation, technical, graphical, mathematical, supplementary,
    kana, yi, regional, compatible,
    aegean, aramaic, brahmic, cuneiform, hieroglyphic, tangut,
    musical, styled, signed, enclosed, pictorial, alchemical, aliases].flatten

/-- The consonants that begin a syllable of Hangul, with the silent one. -/
def leads : List String :=
  ["G", "GG", "N", "D", "DD", "R", "M", "B", "BB", "S", "SS", "", "J", "JJ", "C", "K", "T", "P", "H"]

def vowels : List String :=
  ["A", "AE", "YA", "YAE", "EO", "E", "YEO", "YE", "O", "WA", "WAE", "OE", "YO", "U", "WEO", "WE",
    "WI", "YU", "EU", "YI", "I"]

/-- The consonants that end a syllable of Hangul, if any does. -/
def tails : List String :=
  ["", "G", "GG", "GS", "N", "NJ", "NH", "D", "L", "LG", "LM", "LB", "LS", "LT", "LP", "LH", "M",
    "B", "BS", "S", "SS", "NG", "J", "C", "K", "T", "P", "H"]

def syllables : List String :=
  leads.flatMap fun lead => vowels.flatMap fun vowel => tails.map fun tail => lead ++ vowel ++ tail

def syllable? (spelling : String) : Option Nat :=
  (syllables.idxOf? spelling).map (0xAC00 + ·)

def digitValue? (digit : Char) : Option Nat :=
  if digit.isDigit then some (digit.toNat - '0'.toNat)
  else if 'A' ≤ digit && digit ≤ 'F' then some (digit.toNat - 'A'.toNat + 10)
  else none

def codePoint? (digits : List Char) : Option Nat :=
  digits.foldlM (fun code digit => (code * 16 + ·) <$> digitValue? digit) 0

def unifiedIdeographs : CodeSet where
  changes := #[
    0x3400, 0x4DC0, 0x4E00, 0xA000, 0x20000, 0x2A6E0, 0x2A700, 0x2B739, 0x2B740, 0x2B81E, 0x2B820,
    0x2CEA2, 0x2CEB0, 0x2EBE1, 0x30000, 0x3134B]

/-- A unified ideograph goes by four or five digits, with zeros in front if
need be. -/
def unifiedIdeograph? (digits : List Char) : Option Nat :=
  if digits.length == 4 || digits.length == 5 then
    (codePoint? digits).filter unifiedIdeographs.contains
  else
    none

/-- What the names of the other characters begin with that go by their code
points.  Their digits are as many as needed, without zeros in front. -/
def numberedKinds : List (String × CodeSet) := [
  ("CJK COMPATIBILITY IDEOGRAPH-", ⟨#[0xF900, 0xFA6E, 0xFA70, 0xFADA, 0x2F800, 0x2FA1E]⟩),
  ("KHITAN SMALL SCRIPT CHARACTER-", ⟨#[0x18B00, 0x18CD6]⟩),
  ("NUSHU CHARACTER-", ⟨#[0x1B170, 0x1B2FC]⟩)]

/-- What the name goes on with after `kind`, if it begins so. -/
def after? (kind : String) (name : List Char) : Option (List Char) :=
  if kind.toList.isPrefixOf name then some (name.drop kind.length) else none

def numbered? (name : List Char) : Option Nat :=
  numberedKinds.findSome? fun (kind, codes) => do
    let digits ← after? kind name
    let code ← codePoint? digits
    if codes.contains code && digits.head? != some '0' then some code else none

/-- The characters that names are made of, but for the case of the letters. -/
def isNameCharacter (character : Char) : Bool :=
  character.isUpper || character.isDigit || character == ' ' || character == '-'

def codeNamed? (name : List Char) : Option Nat :=
  match after? "HANGUL SYLLABLE " name, after? "CJK UNIFIED IDEOGRAPH-" name with
  | some spelling, _ => syllable? (String.ofList spelling)
  | none, some digits => unifiedIdeograph? digits
  | none, none =>
      let raised := name.map Char.toUpper
      (numbered? raised).or (registered.findSome? (·.codeOf? (String.ofList raised)))

end CharacterName

open CharacterName

/-- The character of that name.  Case matters only in the names of syllables
and of unified ideographs, and whatever holds another character than those of
names names nothing. -/
def characterNamed? (name : String) : Option Char :=
  if name.toList.all fun character => isNameCharacter character.toUpper then
    (codeNamed? name.toList).map Char.ofNat
  else
    none

end Text
end Stencil
