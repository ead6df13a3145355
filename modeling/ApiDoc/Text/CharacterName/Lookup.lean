import ApiDoc.Text.CharacterName.Alphabets
import ApiDoc.Text.CharacterName.Ancient
import ApiDoc.Text.CharacterName.Pictures
import ApiDoc.Text.CharacterName.Syllabaries
import ApiDoc.Text.CharacterName.Symbols
import ApiDoc.Text.Ranges

/-!
# Characters by name

Every assigned character has a name of capital letters, digits, spaces and hyphens, and some have further names. The names of ideographs hold their code points, those of Hangul syllables spell their parts, and the rest stand in tables of Unicode 14.
-/

namespace ApiDoc.Text

namespace CharacterName

/-! ## Tables -/

/-- A row of a table: a name by its difference from the name in the row before. -/
structure Row where
  /-- The code point; without one it is that of the row before and one. -/
  code : Option Nat
  /-- The number of words taken over from the name in the row before. -/
  kept : Nat
  /-- The words after those. -/
  words : List String
  deriving Repr, Inhabited

def hexDigit? (c : Char) : Option Nat :=
  if c.isDigit then some (c.toNat - 48) else if 'A' ≤ c && c ≤ 'F' then some (c.toNat - 55) else none

def hex? (digits : List Char) : Option Nat :=
  (digits.mapM hexDigit?).map (·.foldl (fun n d => 16 * n + d) 0)

def wordsOf (name : List Char) : List String := (String.ofList name).splitOn " "

/-- The difference from the name before: one digit for the words that stay, and then the other words. -/
def Row.difference (code : Option Nat) : List Char → Row
  | [] => ⟨code, 0, []⟩
  | d :: rest => ⟨code, d.toNat - 48, if rest.isEmpty then [] else wordsOf rest⟩

/-- Reads a row, which gives its code point after an at sign when there is a gap before it. -/
def Row.read (text : List Char) : Row :=
  match text.dropWhile fun c => c == ' ' || c == '\n' with
  | '@' :: rest => .difference (hex? (rest.takeWhile (· != ' '))) ((rest.dropWhile (· != ' ')).drop 1)
  | rest => .difference none rest

/-- The code point of a name in a table; `code` and `before` are those of the row before. -/
def findIn (name : List String) : List String → (code : Nat) → (before : List String) → Option Nat
  | [], _, _ => none
  | text :: rest, code, before =>
    let row := Row.read text.toList
    let here := row.code.getD (code + 1)
    let words := before.take row.kept ++ row.words
    if words == name then some here else findIn name rest here words

/-- Further names of characters: control characters, abbreviations and corrected spellings. -/
def furtherNames : String :=
  "@0 0NUL;@0 0NULL;@1 0SOH;@1 0START OF HEADING;@2 0START OF TEXT;@2 0STX;@3 0END OF TEXT;@3 0ETX;
   @4 0END OF TRANSMISSION;@4 0EOT;@5 0ENQ;@5 0ENQUIRY;@6 0ACK;@6 0ACKNOWLEDGE;@7 0ALERT;@7 0BEL;@8 0BACKSPACE;@8 0BS;
   @9 0CHARACTER TABULATION;@9 0HORIZONTAL TABULATION;@9 0HT;@9 0TAB;@A 0END OF LINE;@A 0EOL;@A 0LF;@A 0LINE FEED;
   @A 0NEW LINE;@A 0NL;@B 0LINE TABULATION;@B 0VERTICAL TABULATION;@B 0VT;@C 0FF;@C 0FORM FEED;@D 0CARRIAGE RETURN;
   @D 0CR;@E 0LOCKING-SHIFT ONE;@E 0SHIFT OUT;@E 0SO;@F 0LOCKING-SHIFT ZERO;@F 0SHIFT IN;@F 0SI;@10 0DATA LINK ESCAPE;
   @10 0DLE;@11 0DC1;@11 0DEVICE CONTROL ONE;@12 0DC2;@12 0DEVICE CONTROL TWO;@13 0DC3;@13 0DEVICE CONTROL THREE;
   @14 0DC4;@14 0DEVICE CONTROL FOUR;@15 0NAK;@15 0NEGATIVE ACKNOWLEDGE;@16 0SYN;@16 0SYNCHRONOUS IDLE;
   @17 0END OF TRANSMISSION BLOCK;@17 0ETB;@18 0CAN;@18 0CANCEL;@19 0END OF MEDIUM;@19 0EOM;@1A 0SUB;@1A 0SUBSTITUTE;
   @1B 0ESC;@1B 0ESCAPE;@1C 0FILE SEPARATOR;@1C 0FS;@1C 0INFORMATION SEPARATOR FOUR;@1D 0GROUP SEPARATOR;@1D 0GS;
   @1D 0INFORMATION SEPARATOR THREE;@1E 0INFORMATION SEPARATOR TWO;@1E 0RECORD SEPARATOR;@1E 0RS;
   @1F 0INFORMATION SEPARATOR ONE;@1F 0UNIT SEPARATOR;@1F 0US;@20 0SP;@7F 0DEL;@7F 0DELETE;@80 0PAD;
   @80 0PADDING CHARACTER;@81 0HIGH OCTET PRESET;@81 0HOP;@82 0BPH;@82 0BREAK PERMITTED HERE;@83 0NBH;
   @83 0NO BREAK HERE;@84 0IND;@84 0INDEX;@85 0NEL;@85 0NEXT LINE;@86 0SSA;@86 0START OF SELECTED AREA;
   @87 0END OF SELECTED AREA;@87 0ESA;@88 0CHARACTER TABULATION SET;@88 0HORIZONTAL TABULATION SET;@88 0HTS;
   @89 0CHARACTER TABULATION WITH JUSTIFICATION;@89 0HORIZONTAL TABULATION WITH JUSTIFICATION;@89 0HTJ;
   @8A 0LINE TABULATION SET;@8A 0VERTICAL TABULATION SET;@8A 0VTS;@8B 0PARTIAL LINE DOWN;@8B 0PARTIAL LINE FORWARD;
   @8B 0PLD;@8C 0PARTIAL LINE BACKWARD;@8C 0PARTIAL LINE UP;@8C 0PLU;@8D 0REVERSE INDEX;@8D 0REVERSE LINE FEED;@8D 0RI;
   @8E 0SINGLE SHIFT TWO;@8E 0SINGLE-SHIFT-2;@8E 0SS2;@8F 0SINGLE SHIFT THREE;@8F 0SINGLE-SHIFT-3;@8F 0SS3;@90 0DCS;
   @90 0DEVICE CONTROL STRING;@91 0PRIVATE USE ONE;@91 0PRIVATE USE-1;@91 0PU1;@92 0PRIVATE USE TWO;@92 0PRIVATE USE-2;
   @92 0PU2;@93 0SET TRANSMIT STATE;@93 0STS;@94 0CANCEL CHARACTER;@94 0CCH;@95 0MESSAGE WAITING;@95 0MW;@96 0SPA;
   @96 0START OF GUARDED AREA;@96 0START OF PROTECTED AREA;@97 0END OF GUARDED AREA;@97 0END OF PROTECTED AREA;
   @97 0EPA;@98 0SOS;@98 0START OF STRING;@99 0SGC;@99 0SINGLE GRAPHIC CHARACTER INTRODUCER;@9A 0SCI;
   @9A 0SINGLE CHARACTER INTRODUCER;@9B 0CONTROL SEQUENCE INTRODUCER;@9B 0CSI;@9C 0ST;@9C 0STRING TERMINATOR;
   @9D 0OPERATING SYSTEM COMMAND;@9D 0OSC;@9E 0PM;@9E 0PRIVACY MESSAGE;@9F 0APC;@9F 0APPLICATION PROGRAM COMMAND;
   @A0 0NBSP;@AD 0SHY;@1A2 0LATIN CAPITAL LETTER GHA;@1A3 0LATIN SMALL LETTER GHA;@34F 0CGJ;@470 0461;@61C 0ALM;
   @709 0SYRIAC SUBLINEAR COLON SKEWED LEFT;@CDE 0KANNADA LETTER LLLA;@E9D 0LAO LETTER FO FON;@E9F 0LAO LETTER FO FAY;
   @EA3 0LAO LETTER RO;@EA5 0LAO LETTER LO;@FD0 0TIBETAN MARK BKA- SHOG GI MGO RGYAN;
   @11EC 0HANGUL JONGSEONG YESIEUNG-KIYEOK;@11ED 0HANGUL JONGSEONG YESIEUNG-SSANGKIYEOK;
   @11EE 0HANGUL JONGSEONG SSANGYESIEUNG;@11EF 0HANGUL JONGSEONG YESIEUNG-KHIEUKH;@180B 0FVS1;@180C 0FVS2;@180D 0FVS3;
   @180E 0MVS;@180F 0FVS4;@200B 0ZWSP;@200C 0ZWNJ;@200D 0ZWJ;@200E 0LRM;@200F 0RLM;@202A 0LRE;@202B 0RLE;@202C 0PDF;
   @202D 0LRO;@202E 0RLO;@202F 0NNBSP;@205F 0MMSP;@2060 0WJ;@2066 0LRI;@2067 0RLI;@2068 0FSI;@2069 0PDI;
   @2118 0WEIERSTRASS ELLIPTIC FUNCTION;@2448 0MICR ON US SYMBOL;@2449 0MICR DASH SYMBOL;
   @2B7A 0LEFTWARDS TRIANGLE-HEADED ARROW WITH DOUBLE VERTICAL STROKE;
   @2B7C 0RIGHTWARDS TRIANGLE-HEADED ARROW WITH DOUBLE VERTICAL STROKE;@A015 0YI SYLLABLE ITERATION MARK;
   @AA6E 0MYANMAR LETTER KHAMTI LLA;@FE18 0PRESENTATION FORM FOR VERTICAL RIGHT WHITE LENTICULAR BRACKET;@FEFF 0BOM;
   @FEFF 0BYTE ORDER MARK;@FEFF 0ZWNBSP;@122D4 0CUNEIFORM SIGN NU11 TENU;
   @122D5 0CUNEIFORM SIGN NU11 OVER NU11 BUR OVER BUR;@16E56 0MEDEFAIDRIN CAPITAL LETTER H;
   @16E57 0MEDEFAIDRIN CAPITAL LETTER NG;@16E76 0MEDEFAIDRIN SMALL LETTER H;@16E77 0MEDEFAIDRIN SMALL LETTER NG;
   @1B001 0HENTAIGANA LETTER E-1;@1D0C5 0BYZANTINE MUSICAL SYMBOL FTHORA SKLIRON CHROMA VASIS;"

/-- All tables, the likeliest first. -/
def tables : List String := [symbols, alphabets, furtherNames, pictures, syllabaries, ancient]

/-- The code point of a name that stands in a table. -/
def tabled? (name : List Char) : Option Nat :=
  tables.findSome? fun table => findIn (wordsOf name) (table.splitOn ";") 0 []

/-! ## Names made by rule -/

/-- Characters whose names end in their code points. -/
def numbered : List (String × List (Nat × Nat)) :=
  [("CJK COMPATIBILITY IDEOGRAPH-", [(0xF900, 0xFA6D), (0xFA70, 0xFAD9), (0x2F800, 0x2FA1D)]),
    ("KHITAN SMALL SCRIPT CHARACTER-", [(0x18B00, 0x18CD5)]),
    ("NUSHU CHARACTER-", [(0x1B170, 0x1B2FB)])]

/-- The rest of a text after a beginning. -/
def after? (beginning : String) (text : List Char) : Option (List Char) :=
  if beginning.toList.isPrefixOf text then some (text.drop beginning.length) else none

/-- The code point of a name that ends in it, without a zero in front. -/
def numbered? (name : List Char) : Option Nat :=
  numbered.findSome? fun (beginning, ranges) => do
    let digits ← after? beginning name
    let n ← hex? digits
    if digits.head? != some '0' && inRanges ranges n then some n else none

def ideographRanges : List (Nat × Nat) :=
  [(0x3400, 0x4DBF), (0x4E00, 0x9FFF), (0x20000, 0x2A6DF), (0x2A700, 0x2B738), (0x2B740, 0x2B81D),
    (0x2B820, 0x2CEA1), (0x2CEB0, 0x2EBE0), (0x30000, 0x3134A)]

/-- The code point of a unified ideograph, whose name ends in four or five digits. Small letters are not accepted. -/
def ideograph? (name : List Char) : Option Nat := do
  let digits ← after? "CJK UNIFIED IDEOGRAPH-" name
  let n ← hex? digits
  if (digits.length == 4 || digits.length == 5) && inRanges ideographRanges n then some n else none

/-- The leading consonants of Hangul syllables. -/
def initials : List String :=
  ["G", "GG", "N", "D", "DD", "R", "M", "B", "BB", "S", "SS", "", "J", "JJ", "C", "K", "T", "P", "H"]

/-- The vowels of Hangul syllables. -/
def medials : List String :=
  ["A", "AE", "YA", "YAE", "EO", "E", "YEO", "YE", "O", "WA", "WAE", "OE", "YO", "U", "WEO", "WE", "WI", "YU",
    "EU", "YI", "I"]

/-- The trailing consonants of Hangul syllables. -/
def finals : List String :=
  ["", "G", "GG", "GS", "N", "NJ", "NH", "D", "L", "LG", "LM", "LB", "LS", "LT", "LP", "LH", "M", "B", "BS", "S",
    "SS", "NG", "J", "C", "K", "T", "P", "H"]

/-- The places in a list of the beginnings of a text, each with the rest of the text. -/
def splits (beginnings : List String) (text : List Char) : List (Nat × List Char) :=
  beginnings.zipIdx.filterMap fun (beginning, index) => (after? beginning text).map fun rest => (index, rest)

/-- The code point of a Hangul syllable, whose name spells its parts. Small letters are not accepted. -/
def syllable? (name : List Char) : Option Nat := do
  let parts ← after? "HANGUL SYLLABLE " name
  (splits initials parts).findSome? fun (initial, rest) =>
    (splits medials rest).findSome? fun (medial, rest) =>
      ((splits finals rest).find? (·.2.isEmpty)).map fun (closing, _) =>
        0xAC00 + (initial * 21 + medial) * 28 + closing

/-- The abbreviations of the variation selectors, which count from one. -/
def selector? (name : List Char) : Option Nat := do
  let digits ← after? "VS" name
  if digits.head? == some '0' || !digits.all Char.isDigit then none
  else
    let n := digits.foldl (fun n c => 10 * n + (c.toNat - 48)) 0
    if n == 0 || n > 256 then none else some (if n ≤ 16 then 0xFDFF + n else 0xE00EF + n)

end CharacterName

/-- The code point of the character with a name. Small letters stand for capitals in the names that are tabled. -/
def characterNamed? (name : List Char) : Option Nat :=
  let capitals := name.map Char.toUpper
  CharacterName.syllable? name <|> CharacterName.ideograph? name <|> CharacterName.numbered? capitals
    <|> CharacterName.selector? capitals <|> CharacterName.tabled? capitals

end ApiDoc.Text
