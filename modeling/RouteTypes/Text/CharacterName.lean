/-!
# Names of characters

The names by which characters can be written in patterns: those of the Latin letters and
symbols, of general punctuation, and the names and abbreviations of controls.
-/

namespace RouteTypes.Text

/-- The first part of `characterNames`. -/
def characterNamesFirst : List (String × Nat) :=
  [
    ("SPACE", 32), ("EXCLAMATION MARK", 33), ("QUOTATION MARK", 34), ("NUMBER SIGN", 35),
    ("DOLLAR SIGN", 36), ("PERCENT SIGN", 37), ("AMPERSAND", 38), ("APOSTROPHE", 39),
    ("LEFT PARENTHESIS", 40), ("RIGHT PARENTHESIS", 41), ("ASTERISK", 42), ("PLUS SIGN", 43),
    ("COMMA", 44), ("HYPHEN-MINUS", 45), ("FULL STOP", 46), ("SOLIDUS", 47), ("DIGIT ZERO", 48),
    ("DIGIT ONE", 49), ("DIGIT TWO", 50), ("DIGIT THREE", 51), ("DIGIT FOUR", 52),
    ("DIGIT FIVE", 53), ("DIGIT SIX", 54), ("DIGIT SEVEN", 55), ("DIGIT EIGHT", 56),
    ("DIGIT NINE", 57), ("COLON", 58), ("SEMICOLON", 59), ("LESS-THAN SIGN", 60),
    ("EQUALS SIGN", 61), ("GREATER-THAN SIGN", 62), ("QUESTION MARK", 63), ("COMMERCIAL AT", 64),
    ("LATIN CAPITAL LETTER A", 65), ("LATIN CAPITAL LETTER B", 66),
    ("LATIN CAPITAL LETTER C", 67), ("LATIN CAPITAL LETTER D", 68),
    ("LATIN CAPITAL LETTER E", 69), ("LATIN CAPITAL LETTER F", 70),
    ("LATIN CAPITAL LETTER G", 71), ("LATIN CAPITAL LETTER H", 72),
    ("LATIN CAPITAL LETTER I", 73), ("LATIN CAPITAL LETTER J", 74),
    ("LATIN CAPITAL LETTER K", 75), ("LATIN CAPITAL LETTER L", 76),
    ("LATIN CAPITAL LETTER M", 77), ("LATIN CAPITAL LETTER N", 78),
    ("LATIN CAPITAL LETTER O", 79), ("LATIN CAPITAL LETTER P", 80),
    ("LATIN CAPITAL LETTER Q", 81), ("LATIN CAPITAL LETTER R", 82),
    ("LATIN CAPITAL LETTER S", 83), ("LATIN CAPITAL LETTER T", 84),
    ("LATIN CAPITAL LETTER U", 85), ("LATIN CAPITAL LETTER V", 86),
    ("LATIN CAPITAL LETTER W", 87), ("LATIN CAPITAL LETTER X", 88),
    ("LATIN CAPITAL LETTER Y", 89), ("LATIN CAPITAL LETTER Z", 90), ("LEFT SQUARE BRACKET", 91),
    ("REVERSE SOLIDUS", 92), ("RIGHT SQUARE BRACKET", 93), ("CIRCUMFLEX ACCENT", 94),
    ("LOW LINE", 95), ("GRAVE ACCENT", 96), ("LATIN SMALL LETTER A", 97),
    ("LATIN SMALL LETTER B", 98), ("LATIN SMALL LETTER C", 99), ("LATIN SMALL LETTER D", 100),
    ("LATIN SMALL LETTER E", 101), ("LATIN SMALL LETTER F", 102), ("LATIN SMALL LETTER G", 103),
    ("LATIN SMALL LETTER H", 104), ("LATIN SMALL LETTER I", 105), ("LATIN SMALL LETTER J", 106),
    ("LATIN SMALL LETTER K", 107), ("LATIN SMALL LETTER L", 108), ("LATIN SMALL LETTER M", 109),
    ("LATIN SMALL LETTER N", 110), ("LATIN SMALL LETTER O", 111), ("LATIN SMALL LETTER P", 112),
    ("LATIN SMALL LETTER Q", 113), ("LATIN SMALL LETTER R", 114), ("LATIN SMALL LETTER S", 115),
    ("LATIN SMALL LETTER T", 116), ("LATIN SMALL LETTER U", 117), ("LATIN SMALL LETTER V", 118),
    ("LATIN SMALL LETTER W", 119), ("LATIN SMALL LETTER X", 120), ("LATIN SMALL LETTER Y", 121),
    ("LATIN SMALL LETTER Z", 122), ("LEFT CURLY BRACKET", 123), ("VERTICAL LINE", 124),
    ("RIGHT CURLY BRACKET", 125), ("TILDE", 126), ("NO-BREAK SPACE", 160),
    ("INVERTED EXCLAMATION MARK", 161), ("CENT SIGN", 162), ("POUND SIGN", 163),
    ("CURRENCY SIGN", 164)]

/-- The second part of `characterNames`. -/
def characterNamesSecond : List (String × Nat) :=
  [
    ("YEN SIGN", 165), ("BROKEN BAR", 166), ("SECTION SIGN", 167), ("DIAERESIS", 168),
    ("COPYRIGHT SIGN", 169), ("FEMININE ORDINAL INDICATOR", 170),
    ("LEFT-POINTING DOUBLE ANGLE QUOTATION MARK", 171), ("NOT SIGN", 172), ("SOFT HYPHEN", 173),
    ("REGISTERED SIGN", 174), ("MACRON", 175), ("DEGREE SIGN", 176), ("PLUS-MINUS SIGN", 177),
    ("SUPERSCRIPT TWO", 178), ("SUPERSCRIPT THREE", 179), ("ACUTE ACCENT", 180),
    ("MICRO SIGN", 181), ("PILCROW SIGN", 182), ("MIDDLE DOT", 183), ("CEDILLA", 184),
    ("SUPERSCRIPT ONE", 185), ("MASCULINE ORDINAL INDICATOR", 186),
    ("RIGHT-POINTING DOUBLE ANGLE QUOTATION MARK", 187), ("VULGAR FRACTION ONE QUARTER", 188),
    ("VULGAR FRACTION ONE HALF", 189), ("VULGAR FRACTION THREE QUARTERS", 190),
    ("INVERTED QUESTION MARK", 191), ("LATIN CAPITAL LETTER A WITH GRAVE", 192),
    ("LATIN CAPITAL LETTER A WITH ACUTE", 193), ("LATIN CAPITAL LETTER A WITH CIRCUMFLEX", 194),
    ("LATIN CAPITAL LETTER A WITH TILDE", 195), ("LATIN CAPITAL LETTER A WITH DIAERESIS", 196),
    ("LATIN CAPITAL LETTER A WITH RING ABOVE", 197), ("LATIN CAPITAL LETTER AE", 198),
    ("LATIN CAPITAL LETTER C WITH CEDILLA", 199), ("LATIN CAPITAL LETTER E WITH GRAVE", 200),
    ("LATIN CAPITAL LETTER E WITH ACUTE", 201), ("LATIN CAPITAL LETTER E WITH CIRCUMFLEX", 202),
    ("LATIN CAPITAL LETTER E WITH DIAERESIS", 203), ("LATIN CAPITAL LETTER I WITH GRAVE", 204),
    ("LATIN CAPITAL LETTER I WITH ACUTE", 205), ("LATIN CAPITAL LETTER I WITH CIRCUMFLEX", 206),
    ("LATIN CAPITAL LETTER I WITH DIAERESIS", 207), ("LATIN CAPITAL LETTER ETH", 208),
    ("LATIN CAPITAL LETTER N WITH TILDE", 209), ("LATIN CAPITAL LETTER O WITH GRAVE", 210),
    ("LATIN CAPITAL LETTER O WITH ACUTE", 211), ("LATIN CAPITAL LETTER O WITH CIRCUMFLEX", 212),
    ("LATIN CAPITAL LETTER O WITH TILDE", 213), ("LATIN CAPITAL LETTER O WITH DIAERESIS", 214),
    ("MULTIPLICATION SIGN", 215), ("LATIN CAPITAL LETTER O WITH STROKE", 216),
    ("LATIN CAPITAL LETTER U WITH GRAVE", 217), ("LATIN CAPITAL LETTER U WITH ACUTE", 218),
    ("LATIN CAPITAL LETTER U WITH CIRCUMFLEX", 219),
    ("LATIN CAPITAL LETTER U WITH DIAERESIS", 220), ("LATIN CAPITAL LETTER Y WITH ACUTE", 221),
    ("LATIN CAPITAL LETTER THORN", 222), ("LATIN SMALL LETTER SHARP S", 223),
    ("LATIN SMALL LETTER A WITH GRAVE", 224), ("LATIN SMALL LETTER A WITH ACUTE", 225),
    ("LATIN SMALL LETTER A WITH CIRCUMFLEX", 226), ("LATIN SMALL LETTER A WITH TILDE", 227),
    ("LATIN SMALL LETTER A WITH DIAERESIS", 228), ("LATIN SMALL LETTER A WITH RING ABOVE", 229),
    ("LATIN SMALL LETTER AE", 230), ("LATIN SMALL LETTER C WITH CEDILLA", 231),
    ("LATIN SMALL LETTER E WITH GRAVE", 232), ("LATIN SMALL LETTER E WITH ACUTE", 233),
    ("LATIN SMALL LETTER E WITH CIRCUMFLEX", 234), ("LATIN SMALL LETTER E WITH DIAERESIS", 235),
    ("LATIN SMALL LETTER I WITH GRAVE", 236), ("LATIN SMALL LETTER I WITH ACUTE", 237),
    ("LATIN SMALL LETTER I WITH CIRCUMFLEX", 238), ("LATIN SMALL LETTER I WITH DIAERESIS", 239),
    ("LATIN SMALL LETTER ETH", 240), ("LATIN SMALL LETTER N WITH TILDE", 241),
    ("LATIN SMALL LETTER O WITH GRAVE", 242), ("LATIN SMALL LETTER O WITH ACUTE", 243),
    ("LATIN SMALL LETTER O WITH CIRCUMFLEX", 244), ("LATIN SMALL LETTER O WITH TILDE", 245),
    ("LATIN SMALL LETTER O WITH DIAERESIS", 246), ("DIVISION SIGN", 247),
    ("LATIN SMALL LETTER O WITH STROKE", 248), ("LATIN SMALL LETTER U WITH GRAVE", 249),
    ("LATIN SMALL LETTER U WITH ACUTE", 250), ("LATIN SMALL LETTER U WITH CIRCUMFLEX", 251),
    ("LATIN SMALL LETTER U WITH DIAERESIS", 252), ("LATIN SMALL LETTER Y WITH ACUTE", 253),
    ("LATIN SMALL LETTER THORN", 254), ("LATIN SMALL LETTER Y WITH DIAERESIS", 255),
    ("HYPHEN", 8208), ("NON-BREAKING HYPHEN", 8209), ("FIGURE DASH", 8210), ("EN DASH", 8211),
    ("EM DASH", 8212), ("HORIZONTAL BAR", 8213), ("DOUBLE VERTICAL LINE", 8214),
    ("DOUBLE LOW LINE", 8215), ("LEFT SINGLE QUOTATION MARK", 8216)]

/-- The third part of `characterNames`. -/
def characterNamesThird : List (String × Nat) :=
  [
    ("RIGHT SINGLE QUOTATION MARK", 8217), ("SINGLE LOW-9 QUOTATION MARK", 8218),
    ("SINGLE HIGH-REVERSED-9 QUOTATION MARK", 8219), ("LEFT DOUBLE QUOTATION MARK", 8220),
    ("RIGHT DOUBLE QUOTATION MARK", 8221), ("DOUBLE LOW-9 QUOTATION MARK", 8222),
    ("DOUBLE HIGH-REVERSED-9 QUOTATION MARK", 8223), ("DAGGER", 8224), ("DOUBLE DAGGER", 8225),
    ("BULLET", 8226), ("TRIANGULAR BULLET", 8227), ("ONE DOT LEADER", 8228),
    ("TWO DOT LEADER", 8229), ("HORIZONTAL ELLIPSIS", 8230), ("HYPHENATION POINT", 8231),
    ("PER MILLE SIGN", 8240), ("PER TEN THOUSAND SIGN", 8241), ("PRIME", 8242),
    ("DOUBLE PRIME", 8243), ("TRIPLE PRIME", 8244), ("REVERSED PRIME", 8245),
    ("REVERSED DOUBLE PRIME", 8246), ("REVERSED TRIPLE PRIME", 8247), ("CARET", 8248),
    ("SINGLE LEFT-POINTING ANGLE QUOTATION MARK", 8249),
    ("SINGLE RIGHT-POINTING ANGLE QUOTATION MARK", 8250), ("REFERENCE MARK", 8251),
    ("DOUBLE EXCLAMATION MARK", 8252), ("INTERROBANG", 8253), ("OVERLINE", 8254),
    ("UNDERTIE", 8255), ("CHARACTER TIE", 8256), ("CARET INSERTION POINT", 8257),
    ("ASTERISM", 8258), ("HYPHEN BULLET", 8259), ("FRACTION SLASH", 8260),
    ("LEFT SQUARE BRACKET WITH QUILL", 8261), ("RIGHT SQUARE BRACKET WITH QUILL", 8262),
    ("DOUBLE QUESTION MARK", 8263), ("QUESTION EXCLAMATION MARK", 8264),
    ("EXCLAMATION QUESTION MARK", 8265), ("TIRONIAN SIGN ET", 8266),
    ("REVERSED PILCROW SIGN", 8267), ("BLACK LEFTWARDS BULLET", 8268),
    ("BLACK RIGHTWARDS BULLET", 8269), ("LOW ASTERISK", 8270), ("REVERSED SEMICOLON", 8271),
    ("CLOSE UP", 8272), ("TWO ASTERISKS ALIGNED VERTICALLY", 8273),
    ("COMMERCIAL MINUS SIGN", 8274), ("SWUNG DASH", 8275), ("INVERTED UNDERTIE", 8276),
    ("FLOWER PUNCTUATION MARK", 8277), ("THREE DOT PUNCTUATION", 8278),
    ("QUADRUPLE PRIME", 8279), ("FOUR DOT PUNCTUATION", 8280), ("FIVE DOT PUNCTUATION", 8281),
    ("TWO DOT PUNCTUATION", 8282), ("FOUR DOT MARK", 8283), ("DOTTED CROSS", 8284),
    ("TRICOLON", 8285), ("VERTICAL FOUR DOTS", 8286), ("NULL", 0), ("START OF HEADING", 1),
    ("START OF TEXT", 2), ("END OF TEXT", 3), ("END OF TRANSMISSION", 4), ("ENQUIRY", 5),
    ("ACKNOWLEDGE", 6), ("ALERT", 7), ("BACKSPACE", 8), ("CHARACTER TABULATION", 9),
    ("HORIZONTAL TABULATION", 9), ("LINE FEED", 10), ("NEW LINE", 10), ("END OF LINE", 10),
    ("LINE TABULATION", 11), ("VERTICAL TABULATION", 11), ("FORM FEED", 12),
    ("CARRIAGE RETURN", 13), ("SHIFT OUT", 14), ("LOCKING-SHIFT ONE", 14), ("SHIFT IN", 15),
    ("LOCKING-SHIFT ZERO", 15), ("DATA LINK ESCAPE", 16), ("DEVICE CONTROL ONE", 17),
    ("DEVICE CONTROL TWO", 18), ("DEVICE CONTROL THREE", 19), ("DEVICE CONTROL FOUR", 20),
    ("NEGATIVE ACKNOWLEDGE", 21), ("SYNCHRONOUS IDLE", 22), ("END OF TRANSMISSION BLOCK", 23),
    ("CANCEL", 24), ("END OF MEDIUM", 25), ("SUBSTITUTE", 26), ("ESCAPE", 27),
    ("INFORMATION SEPARATOR FOUR", 28), ("FILE SEPARATOR", 28),
    ("INFORMATION SEPARATOR THREE", 29), ("GROUP SEPARATOR", 29)]

/-- The fourth part of `characterNames`. -/
def characterNamesFourth : List (String × Nat) :=
  [
    ("INFORMATION SEPARATOR TWO", 30), ("RECORD SEPARATOR", 30),
    ("INFORMATION SEPARATOR ONE", 31), ("UNIT SEPARATOR", 31), ("DELETE", 127),
    ("NEXT LINE", 133), ("NUL", 0), ("SOH", 1), ("STX", 2), ("ETX", 3), ("EOT", 4), ("ENQ", 5),
    ("ACK", 6), ("BEL", 7), ("BS", 8), ("HT", 9), ("TAB", 9), ("LF", 10), ("NL", 10),
    ("EOL", 10), ("VT", 11), ("FF", 12), ("CR", 13), ("SO", 14), ("SI", 15), ("DLE", 16),
    ("DC1", 17), ("DC2", 18), ("DC3", 19), ("DC4", 20), ("NAK", 21), ("SYN", 22), ("ETB", 23),
    ("CAN", 24), ("EOM", 25), ("SUB", 26), ("ESC", 27), ("FS", 28), ("GS", 29), ("RS", 30),
    ("US", 31), ("SP", 32), ("DEL", 127), ("NEL", 133), ("NBSP", 160), ("SHY", 173),
    ("ZERO WIDTH NO-BREAK SPACE", 65279), ("BYTE ORDER MARK", 65279), ("BOM", 65279),
    ("ZWSP", 8203), ("ZWNJ", 8204), ("ZWJ", 8205)]

/-- The names of characters with their code points. -/
def characterNames : List (String × Nat) :=
  characterNamesFirst ++ characterNamesSecond ++ characterNamesThird ++ characterNamesFourth

/-- The code point of the character with the given name, letter case aside. -/
def characterNamed? (name : String) : Option Nat :=
  characterNames.lookup (String.ofList (name.toList.map Char.toUpper))

end RouteTypes.Text
