import SqlRunner.Text.Blank
import SqlRunner.Text.CharacterName.Alphabets
import SqlRunner.Text.CharacterName.EastAsian
import SqlRunner.Text.CharacterName.Historic
import SqlRunner.Text.CharacterName.Notations
import SqlRunner.Text.CharacterName.Pictures
import SqlRunner.Text.CharacterName.Signs
import SqlRunner.Text.Letter

/-!
# Character names — the code point that a name stands for

Unicode gives every character a name of its own. Most names are kept in tables, in the order of
their code points and written short: the entries of a table are separated by semicolons, with blanks
before an entry for layout; an entry of digits alone passes over so many code points, and any other
entry is the name of the next one.
Neighbouring names share words, so an entry may open with one or two small letters: the first
counts the words that it takes from the front of the name before, the second those it takes from
the back, `a` for none, `b` for one and so on; the words that are written stand between the two.

Three kinds of names are made by rule: unified ideographs carry their code point, the syllables of
Hangul are spelt by their letters, and some scripts are numbered by code point. Finally there are
second names, such as those of the controls. Names are compared without regard to case, except
those of ideographs and syllables of Hangul.
-/

set_option autoImplicit false

namespace SqlRunner.Text.CharacterName

/-- The number that a counting letter stands for. -/
def wordCount (letter : Option Char) : Nat := (letter.map fun c => c.toNat - 97).getD 0

/-- The words of the name that an entry writes after the name `before`. -/
def nameWords (before : List String) (entry : List Char) : List String :=
  let counts := entry.takeWhile Char.isLower
  let written := String.ofList (entry.drop counts.length)
  let words := if written.isEmpty then [] else written.splitOn " "
  before.take (wordCount counts[0]?) ++ words ++
    before.drop (before.length - wordCount counts[1]?)

/-- The code point of a name among entries; `point` is that of the next name, and `before` is the
    name before it. -/
def findEntry? (wanted : List String) (point : Nat) (before : List String) :
    List String → Option Nat
  | [] => none
  | entry :: rest =>
    let entry := dropBlanks entry.toList
    match (String.ofList entry).toNat? with
    | some skipped => findEntry? wanted (point + skipped) before rest
    | none =>
      let name := nameWords before entry
      if name == wanted then some point else findEntry? wanted (point + 1) name rest

/-- The tables, each with the code point at which it begins. -/
def tables : List (Nat × String) :=
  [(0, alphabets), (0x2000, signs), (0x3000, eastAsian), (0x10000, historic),
    (0x1D000, notations), (0x1F000, pictures)]

/-- The code point of a name that stands in a table. -/
def listed? (name : String) : Option Nat :=
  let wanted := name.splitOn " "
  tables.findSome? fun (start, table) => findEntry? wanted start [] (table.splitOn ";")

/-- The number that hexadecimal digits with capital letters write. -/
def readHex? (digits : List Char) : Option Nat :=
  digits.foldl (fun acc c => do
    let value ←
      if c.isDigit then some (c.toNat - 48)
      else if 'A' ≤ c && c ≤ 'F' then some (c.toNat - 55)
      else none
    return 16 * (← acc) + value) (some 0)

/-- The scripts whose characters are named by code point, with the ranges of these. -/
def numberedScripts : List (String × List (Nat × Nat)) := [
    ("CJK COMPATIBILITY IDEOGRAPH-", [(0xF900, 0xFA6D), (0xFA70, 0xFAD9), (0x2F800, 0x2FA1D)]),
    ("NUSHU CHARACTER-", [(0x1B170, 0x1B2FB)]),
    ("KHITAN SMALL SCRIPT CHARACTER-", [(0x18B00, 0x18CD5)])]

/-- The code point of a character named by its number, which is written without leading zeros. -/
def numbered? (name : String) : Option Nat :=
  numberedScripts.findSome? fun (stem, ranges) => do
    let digits ← stem.toList.isPrefixOf? name.toList
    guard (digits.head? != some '0')
    let point ← readHex? digits
    guard (inRanges ranges point)
    return point

/-- The unified ideographs. -/
def ideographRanges : List (Nat × Nat) := [
    (0x3400, 0x4DBF), (0x4E00, 0x9FFF), (0x20000, 0x2A6DF), (0x2A700, 0x2B738),
    (0x2B740, 0x2B81D), (0x2B820, 0x2CEA1), (0x2CEB0, 0x2EBE0), (0x30000, 0x3134A)]

/-- The code point of a unified ideograph: its number in four or five digits. -/
def ideograph? (name : List Char) : Option Nat := do
  let digits ← "CJK UNIFIED IDEOGRAPH-".toList.isPrefixOf? name
  guard (digits.length == 4 || digits.length == 5)
  let point ← readHex? digits
  guard (inRanges ideographRanges point)
  return point

/-- The consonants that may open a syllable of Hangul. -/
def openingLetters : List String :=
  ["G", "GG", "N", "D", "DD", "R", "M", "B", "BB", "S", "SS", "", "J", "JJ", "C", "K", "T", "P",
    "H"]

/-- The vowels of a syllable of Hangul. -/
def vowelLetters : List String :=
  ["A", "AE", "YA", "YAE", "EO", "E", "YEO", "YE", "O", "WA", "WAE", "OE", "YO", "U", "WEO", "WE",
    "WI", "YU", "EU", "YI", "I"]

/-- The consonants that may close a syllable of Hangul. -/
def closingLetters : List String :=
  ["", "G", "GG", "GS", "N", "NJ", "NH", "D", "L", "LG", "LM", "LB", "LS", "LT", "LP", "LH", "M",
    "B", "BS", "S", "SS", "NG", "J", "C", "K", "T", "P", "H"]

/-- The longest of the letters that the text starts with: its place among them, and what is left
    of the text. -/
def longestLetter? (letters : List String) (s : List Char) : Option (Nat × List Char) :=
  let fitting := letters.zipIdx.filter fun (letter, _) => letter.toList.isPrefixOf s
  let longest? := fitting.foldl (fun best (letter, place) =>
    match best with
    | some (other, _) => if letter.length > other.length then some (letter, place) else best
    | none => some (letter, place)) (none : Option (String × Nat))
  longest?.map fun (letter, place) => (place, s.drop letter.length)

/-- The code point of a syllable of Hangul, spelt by its letters. -/
def syllable? (name : List Char) : Option Nat := do
  let spelling ← "HANGUL SYLLABLE ".toList.isPrefixOf? name
  let (opening, rest) ← longestLetter? openingLetters spelling
  let (vowel, rest) ← longestLetter? vowelLetters rest
  let (closing, rest) ← longestLetter? closingLetters rest
  guard rest.isEmpty
  return 0xAC00 +
    (opening * vowelLetters.length + vowel) * closingLetters.length + closing

/-- The code point of a variation selector by its short name, `VS1` to `VS256`. -/
def variationSelector? (name : String) : Option Nat := do
  let digits ← "VS".toList.isPrefixOf? name.toList
  guard (digits.all Char.isDigit && digits.head? != some '0')
  let number ← (String.ofList digits).toNat?
  guard (1 ≤ number && number ≤ 256)
  return if number ≤ 16 then 0xFE00 + (number - 1) else 0xE0100 + (number - 17)

/-- Second names: of controls, abbreviations, and of characters whose first name has a fault. -/
def secondNames : List (String × Nat) := [
    ("NUL", 0x0), ("NULL", 0x0), ("SOH", 0x1), ("START OF HEADING", 0x1), ("START OF TEXT", 0x2),
    ("STX", 0x2), ("END OF TEXT", 0x3), ("ETX", 0x3), ("END OF TRANSMISSION", 0x4), ("EOT", 0x4),
    ("ENQ", 0x5), ("ENQUIRY", 0x5), ("ACK", 0x6), ("ACKNOWLEDGE", 0x6), ("ALERT", 0x7),
    ("BEL", 0x7), ("BACKSPACE", 0x8), ("BS", 0x8), ("CHARACTER TABULATION", 0x9),
    ("HORIZONTAL TABULATION", 0x9), ("HT", 0x9), ("TAB", 0x9), ("END OF LINE", 0xA), ("EOL", 0xA),
    ("LF", 0xA), ("LINE FEED", 0xA), ("NEW LINE", 0xA), ("NL", 0xA), ("LINE TABULATION", 0xB),
    ("VERTICAL TABULATION", 0xB), ("VT", 0xB), ("FF", 0xC), ("FORM FEED", 0xC),
    ("CARRIAGE RETURN", 0xD), ("CR", 0xD), ("LOCKING-SHIFT ONE", 0xE), ("SHIFT OUT", 0xE),
    ("SO", 0xE), ("LOCKING-SHIFT ZERO", 0xF), ("SHIFT IN", 0xF), ("SI", 0xF),
    ("DATA LINK ESCAPE", 0x10), ("DLE", 0x10), ("DC1", 0x11), ("DEVICE CONTROL ONE", 0x11),
    ("DC2", 0x12), ("DEVICE CONTROL TWO", 0x12), ("DC3", 0x13), ("DEVICE CONTROL THREE", 0x13),
    ("DC4", 0x14), ("DEVICE CONTROL FOUR", 0x14), ("NAK", 0x15), ("NEGATIVE ACKNOWLEDGE", 0x15),
    ("SYN", 0x16), ("SYNCHRONOUS IDLE", 0x16), ("END OF TRANSMISSION BLOCK", 0x17), ("ETB", 0x17),
    ("CAN", 0x18), ("CANCEL", 0x18), ("END OF MEDIUM", 0x19), ("EOM", 0x19), ("SUB", 0x1A),
    ("SUBSTITUTE", 0x1A), ("ESC", 0x1B), ("ESCAPE", 0x1B), ("FILE SEPARATOR", 0x1C), ("FS", 0x1C),
    ("INFORMATION SEPARATOR FOUR", 0x1C), ("GROUP SEPARATOR", 0x1D), ("GS", 0x1D),
    ("INFORMATION SEPARATOR THREE", 0x1D), ("INFORMATION SEPARATOR TWO", 0x1E),
    ("RECORD SEPARATOR", 0x1E), ("RS", 0x1E), ("INFORMATION SEPARATOR ONE", 0x1F),
    ("UNIT SEPARATOR", 0x1F), ("US", 0x1F), ("SP", 0x20), ("DEL", 0x7F), ("DELETE", 0x7F),
    ("PAD", 0x80), ("PADDING CHARACTER", 0x80), ("HIGH OCTET PRESET", 0x81), ("HOP", 0x81),
    ("BPH", 0x82), ("BREAK PERMITTED HERE", 0x82), ("NBH", 0x83), ("NO BREAK HERE", 0x83),
    ("IND", 0x84), ("INDEX", 0x84), ("NEL", 0x85), ("NEXT LINE", 0x85), ("SSA", 0x86),
    ("START OF SELECTED AREA", 0x86), ("END OF SELECTED AREA", 0x87), ("ESA", 0x87),
    ("CHARACTER TABULATION SET", 0x88), ("HORIZONTAL TABULATION SET", 0x88), ("HTS", 0x88),
    ("CHARACTER TABULATION WITH JUSTIFICATION", 0x89),
    ("HORIZONTAL TABULATION WITH JUSTIFICATION", 0x89), ("HTJ", 0x89),
    ("LINE TABULATION SET", 0x8A), ("VERTICAL TABULATION SET", 0x8A), ("VTS", 0x8A),
    ("PARTIAL LINE DOWN", 0x8B), ("PARTIAL LINE FORWARD", 0x8B), ("PLD", 0x8B),
    ("PARTIAL LINE BACKWARD", 0x8C), ("PARTIAL LINE UP", 0x8C), ("PLU", 0x8C),
    ("REVERSE INDEX", 0x8D), ("REVERSE LINE FEED", 0x8D), ("RI", 0x8D),
    ("SINGLE SHIFT TWO", 0x8E), ("SINGLE-SHIFT-2", 0x8E), ("SS2", 0x8E),
    ("SINGLE SHIFT THREE", 0x8F), ("SINGLE-SHIFT-3", 0x8F), ("SS3", 0x8F), ("DCS", 0x90),
    ("DEVICE CONTROL STRING", 0x90), ("PRIVATE USE ONE", 0x91), ("PRIVATE USE-1", 0x91),
    ("PU1", 0x91), ("PRIVATE USE TWO", 0x92), ("PRIVATE USE-2", 0x92), ("PU2", 0x92),
    ("SET TRANSMIT STATE", 0x93), ("STS", 0x93), ("CANCEL CHARACTER", 0x94), ("CCH", 0x94),
    ("MESSAGE WAITING", 0x95), ("MW", 0x95), ("SPA", 0x96), ("START OF GUARDED AREA", 0x96),
    ("START OF PROTECTED AREA", 0x96), ("END OF GUARDED AREA", 0x97),
    ("END OF PROTECTED AREA", 0x97), ("EPA", 0x97), ("SOS", 0x98), ("START OF STRING", 0x98),
    ("SGC", 0x99), ("SINGLE GRAPHIC CHARACTER INTRODUCER", 0x99), ("SCI", 0x9A),
    ("SINGLE CHARACTER INTRODUCER", 0x9A), ("CONTROL SEQUENCE INTRODUCER", 0x9B), ("CSI", 0x9B),
    ("ST", 0x9C), ("STRING TERMINATOR", 0x9C), ("OPERATING SYSTEM COMMAND", 0x9D), ("OSC", 0x9D),
    ("PM", 0x9E), ("PRIVACY MESSAGE", 0x9E), ("APC", 0x9F), ("APPLICATION PROGRAM COMMAND", 0x9F),
    ("NBSP", 0xA0), ("SHY", 0xAD), ("LATIN CAPITAL LETTER GHA", 0x1A2),
    ("LATIN SMALL LETTER GHA", 0x1A3), ("CGJ", 0x34F), ("ALM", 0x61C),
    ("SYRIAC SUBLINEAR COLON SKEWED LEFT", 0x709), ("KANNADA LETTER LLLA", 0xCDE),
    ("LAO LETTER FO FON", 0xE9D), ("LAO LETTER FO FAY", 0xE9F), ("LAO LETTER RO", 0xEA3),
    ("LAO LETTER LO", 0xEA5), ("TIBETAN MARK BKA- SHOG GI MGO RGYAN", 0xFD0),
    ("HANGUL JONGSEONG YESIEUNG-KIYEOK", 0x11EC),
    ("HANGUL JONGSEONG YESIEUNG-SSANGKIYEOK", 0x11ED), ("HANGUL JONGSEONG SSANGYESIEUNG", 0x11EE),
    ("HANGUL JONGSEONG YESIEUNG-KHIEUKH", 0x11EF), ("FVS1", 0x180B), ("FVS2", 0x180C),
    ("FVS3", 0x180D), ("MVS", 0x180E), ("FVS4", 0x180F), ("ZWSP", 0x200B), ("ZWNJ", 0x200C),
    ("ZWJ", 0x200D), ("LRM", 0x200E), ("RLM", 0x200F), ("LRE", 0x202A), ("RLE", 0x202B),
    ("PDF", 0x202C), ("LRO", 0x202D), ("RLO", 0x202E), ("NNBSP", 0x202F), ("MMSP", 0x205F),
    ("WJ", 0x2060), ("LRI", 0x2066), ("RLI", 0x2067), ("FSI", 0x2068), ("PDI", 0x2069),
    ("WEIERSTRASS ELLIPTIC FUNCTION", 0x2118), ("MICR ON US SYMBOL", 0x2448),
    ("MICR DASH SYMBOL", 0x2449),
    ("LEFTWARDS TRIANGLE-HEADED ARROW WITH DOUBLE VERTICAL STROKE", 0x2B7A),
    ("RIGHTWARDS TRIANGLE-HEADED ARROW WITH DOUBLE VERTICAL STROKE", 0x2B7C),
    ("YI SYLLABLE ITERATION MARK", 0xA015), ("MYANMAR LETTER KHAMTI LLA", 0xAA6E),
    ("PRESENTATION FORM FOR VERTICAL RIGHT WHITE LENTICULAR BRACKET", 0xFE18), ("BOM", 0xFEFF),
    ("BYTE ORDER MARK", 0xFEFF), ("ZWNBSP", 0xFEFF), ("CUNEIFORM SIGN NU11 TENU", 0x122D4),
    ("CUNEIFORM SIGN NU11 OVER NU11 BUR OVER BUR", 0x122D5),
    ("MEDEFAIDRIN CAPITAL LETTER H", 0x16E56), ("MEDEFAIDRIN CAPITAL LETTER NG", 0x16E57),
    ("MEDEFAIDRIN SMALL LETTER H", 0x16E76), ("MEDEFAIDRIN SMALL LETTER NG", 0x16E77),
    ("HENTAIGANA LETTER E-1", 0x1B001),
    ("BYZANTINE MUSICAL SYMBOL FTHORA SKLIRON CHROMA VASIS", 0x1D0C5)]

end CharacterName

/-- The code point of the character with the name. -/
def characterNamed? (name : String) : Option Nat :=
  if "HANGUL SYLLABLE ".toList.isPrefixOf name.toList then CharacterName.syllable? name.toList
  else if "CJK UNIFIED IDEOGRAPH-".toList.isPrefixOf name.toList then
    CharacterName.ideograph? name.toList
  else
    let name := String.ofList (name.toList.map Char.toUpper)
    ((CharacterName.secondNames.lookup name).orElse fun _ =>
      CharacterName.variationSelector? name).orElse fun _ =>
      (CharacterName.numbered? name).orElse fun _ => CharacterName.listed? name

end SqlRunner.Text
