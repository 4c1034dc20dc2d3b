namespace DuckTypes.Text.CharacterName

def aliases : List String :=
  ["NULL", "NUL", "START OF HEADING", "SOH", "START OF TEXT", "STX", "END OF TEXT", "ETX",
    "END OF TRANSMISSION", "EOT", "ENQUIRY", "ENQ", "ACKNOWLEDGE", "ACK", "ALERT", "BEL",
    "BACKSPACE", "BS", "CHARACTER TABULATION", "HORIZONTAL TABULATION", "HT", "TAB", "LINE FEED",
    "NEW LINE", "END OF LINE", "LF", "NL", "EOL", "LINE TABULATION", "VERTICAL TABULATION", "VT",
    "FORM FEED", "FF", "CARRIAGE RETURN", "CR", "SHIFT OUT", "LOCKING-SHIFT ONE", "SO", "SHIFT IN",
    "LOCKING-SHIFT ZERO", "SI", "DATA LINK ESCAPE", "DLE", "DEVICE CONTROL ONE", "DC1",
    "DEVICE CONTROL TWO", "DC2", "DEVICE CONTROL THREE", "DC3", "DEVICE CONTROL FOUR", "DC4",
    "NEGATIVE ACKNOWLEDGE", "NAK", "SYNCHRONOUS IDLE", "SYN", "END OF TRANSMISSION BLOCK", "ETB",
    "CANCEL", "CAN", "END OF MEDIUM", "EOM", "EM", "SUBSTITUTE", "SUB", "ESCAPE", "ESC",
    "INFORMATION SEPARATOR FOUR", "FILE SEPARATOR", "FS", "INFORMATION SEPARATOR THREE",
    "GROUP SEPARATOR", "GS", "INFORMATION SEPARATOR TWO", "RECORD SEPARATOR", "RS",
    "INFORMATION SEPARATOR ONE", "UNIT SEPARATOR", "US", "SP", "DELETE", "DEL", "PADDING CHARACTER",
    "PAD", "HIGH OCTET PRESET", "HOP", "BREAK PERMITTED HERE", "BPH", "NO BREAK HERE", "NBH",
    "INDEX", "IND", "NEXT LINE", "NEL", "START OF SELECTED AREA", "SSA", "END OF SELECTED AREA",
    "ESA", "CHARACTER TABULATION SET", "HORIZONTAL TABULATION SET", "HTS",
    "CHARACTER TABULATION WITH JUSTIFICATION", "HORIZONTAL TABULATION WITH JUSTIFICATION", "HTJ",
    "LINE TABULATION SET", "VERTICAL TABULATION SET", "VTS", "PARTIAL LINE FORWARD",
    "PARTIAL LINE DOWN", "PLD", "PARTIAL LINE BACKWARD", "PARTIAL LINE UP", "PLU",
    "REVERSE LINE FEED", "REVERSE INDEX", "RI", "SINGLE SHIFT TWO", "SINGLE-SHIFT-2", "SS2",
    "SINGLE SHIFT THREE", "SINGLE-SHIFT-3", "SS3", "DEVICE CONTROL STRING", "DCS",
    "PRIVATE USE ONE", "PRIVATE USE-1", "PU1", "PRIVATE USE TWO", "PRIVATE USE-2", "PU2",
    "SET TRANSMIT STATE", "STS", "CANCEL CHARACTER", "CCH", "MESSAGE WAITING", "MW",
    "START OF GUARDED AREA", "START OF PROTECTED AREA", "SPA", "END OF GUARDED AREA",
    "END OF PROTECTED AREA", "EPA", "START OF STRING", "SOS", "SINGLE GRAPHIC CHARACTER INTRODUCER",
    "SGC", "SINGLE CHARACTER INTRODUCER", "SCI", "CONTROL SEQUENCE INTRODUCER", "CSI",
    "STRING TERMINATOR", "ST", "OPERATING SYSTEM COMMAND", "OSC", "PRIVACY MESSAGE", "PM",
    "APPLICATION PROGRAM COMMAND", "APC", "NBSP", "SHY", "LATIN CAPITAL LETTER GHA",
    "LATIN SMALL LETTER GHA", "CGJ", "ARABIC SMALL HIGH LIGATURE ALEF WITH YEH BARREE", "ALM",
    "SYRIAC SUBLINEAR COLON SKEWED LEFT", "KANNADA LETTER LLLA", "LAO LETTER FO FON",
    "LAO LETTER FO FAY", "LAO LETTER RO", "LAO LETTER LO", "TIBETAN MARK BKA- SHOG GI MGO RGYAN",
    "HANGUL JONGSEONG YESIEUNG-KIYEOK", "HANGUL JONGSEONG YESIEUNG-SSANGKIYEOK",
    "HANGUL JONGSEONG SSANGYESIEUNG", "HANGUL JONGSEONG YESIEUNG-KHIEUKH", "FVS1", "FVS2", "FVS3",
    "MVS", "FVS4", "SUNDANESE LETTER ARCHAIC I", "ZWSP", "ZWNJ", "ZWJ", "LRM", "RLM", "LRE", "RLE",
    "PDF", "LRO", "RLO", "NNBSP", "MMSP", "WJ", "LRI", "RLI", "FSI", "PDI",
    "WEIERSTRASS ELLIPTIC FUNCTION", "MICR ON US SYMBOL", "MICR DASH SYMBOL",
    "LEFTWARDS TRIANGLE-HEADED ARROW WITH DOUBLE VERTICAL STROKE",
    "RIGHTWARDS TRIANGLE-HEADED ARROW WITH DOUBLE VERTICAL STROKE", "YI SYLLABLE ITERATION MARK",
    "MYANMAR LETTER KHAMTI LLA", "PRESENTATION FORM FOR VERTICAL RIGHT WHITE LENTICULAR BRACKET",
    "BYTE ORDER MARK", "BOM", "ZWNBSP", "CUNEIFORM SIGN NU11 TENU",
    "CUNEIFORM SIGN NU11 OVER NU11 BUR OVER BUR", "MEDEFAIDRIN CAPITAL LETTER H",
    "MEDEFAIDRIN CAPITAL LETTER NG", "MEDEFAIDRIN SMALL LETTER H", "MEDEFAIDRIN SMALL LETTER NG",
    "HENTAIGANA LETTER E-1", "BYZANTINE MUSICAL SYMBOL FTHORA SKLIRON CHROMA VASIS",
    "CUNEIFORM SIGN KALAM", "BAMUM LETTER PHASE-A MAEMGBIEE", "BAMUM LETTER PHASE-B PUNGGAAM",
    "BAMUM LETTER PHASE-B NGGOM", "BAMUM LETTER PHASE-C SHETFON", "BAMUM LETTER PHASE-E NGGOP",
    "MENDE KIKAKUI SYLLABLE M172 MBO", "MENDE KIKAKUI SYLLABLE M174 MBOO"]

def selectors : Nat := 256

def isAlias (name : String) : Bool :=
  aliases.contains name || (List.range selectors).any fun n => name = s!"VS{n + 1}"

end DuckTypes.Text.CharacterName
