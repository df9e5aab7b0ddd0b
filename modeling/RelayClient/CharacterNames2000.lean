import RelayClient.NamedRun

/-! # Names of the characters U+2000 to U+2FFF -/
namespace RelayClient.CharacterName

def from2000 : List NamedRun :=
  [⟨0x2000, "", ["EN QUAD,EM QUAD,EN SPACE,EM SPACE,THREE-PER-EM SPACE,FOUR-PER-EM SPACE",
      "SIX-PER-EM SPACE,FIGURE SPACE,PUNCTUATION SPACE,THIN SPACE,HAIR SPACE,ZERO WIDTH SPACE",
      "ZERO WIDTH NON-JOINER,ZERO WIDTH JOINER,LEFT-TO-RIGHT MARK,RIGHT-TO-LEFT MARK,HYPHEN",
      "NON-BREAKING HYPHEN,FIGURE DASH,EN DASH,EM DASH,HORIZONTAL BAR,DOUBLE VERTICAL LINE",
      "DOUBLE LOW LINE,LEFT SINGLE QUOTATION MARK,RIGHT SINGLE QUOTATION MARK",
      "SINGLE LOW-9 QUOTATION MARK,SINGLE HIGH-REVERSED-9 QUOTATION MARK",
      "LEFT DOUBLE QUOTATION MARK,RIGHT DOUBLE QUOTATION MARK,DOUBLE LOW-9 QUOTATION MARK",
      "DOUBLE HIGH-REVERSED-9 QUOTATION MARK,DAGGER,DOUBLE DAGGER,BULLET,TRIANGULAR BULLET",
      "ONE DOT LEADER,TWO DOT LEADER,HORIZONTAL ELLIPSIS,HYPHENATION POINT,LINE SEPARATOR",
      "PARAGRAPH SEPARATOR,LEFT-TO-RIGHT EMBEDDING,RIGHT-TO-LEFT EMBEDDING",
      "POP DIRECTIONAL FORMATTING,LEFT-TO-RIGHT OVERRIDE,RIGHT-TO-LEFT OVERRIDE",
      "NARROW NO-BREAK SPACE,PER MILLE SIGN,PER TEN THOUSAND SIGN,PRIME,DOUBLE PRIME",
      "TRIPLE PRIME,REVERSED PRIME,REVERSED DOUBLE PRIME,REVERSED TRIPLE PRIME,CARET",
      "SINGLE LEFT-POINTING ANGLE QUOTATION MARK,SINGLE RIGHT-POINTING ANGLE QUOTATION MARK",
      "REFERENCE MARK,DOUBLE EXCLAMATION MARK,INTERROBANG,OVERLINE,UNDERTIE,CHARACTER TIE",
      "CARET INSERTION POINT,ASTERISM,HYPHEN BULLET,FRACTION SLASH",
      "LEFT SQUARE BRACKET WITH QUILL,RIGHT SQUARE BRACKET WITH QUILL,DOUBLE QUESTION MARK",
      "QUESTION EXCLAMATION MARK,EXCLAMATION QUESTION MARK,TIRONIAN SIGN ET",
      "REVERSED PILCROW SIGN,BLACK LEFTWARDS BULLET,BLACK RIGHTWARDS BULLET,LOW ASTERISK",
      "REVERSED SEMICOLON,CLOSE UP,TWO ASTERISKS ALIGNED VERTICALLY,COMMERCIAL MINUS SIGN",
      "SWUNG DASH,INVERTED UNDERTIE,FLOWER PUNCTUATION MARK,THREE DOT PUNCTUATION",
      "QUADRUPLE PRIME,FOUR DOT PUNCTUATION,FIVE DOT PUNCTUATION,TWO DOT PUNCTUATION",
      "FOUR DOT MARK,DOTTED CROSS,TRICOLON,VERTICAL FOUR DOTS,MEDIUM MATHEMATICAL SPACE",
      "WORD JOINER,FUNCTION APPLICATION,INVISIBLE TIMES,INVISIBLE SEPARATOR,INVISIBLE PLUS,",
      "LEFT-TO-RIGHT ISOLATE,RIGHT-TO-LEFT ISOLATE,FIRST STRONG ISOLATE,POP DIRECTIONAL ISOLATE",
      "INHIBIT SYMMETRIC SWAPPING,ACTIVATE SYMMETRIC SWAPPING,INHIBIT ARABIC FORM SHAPING",
      "ACTIVATE ARABIC FORM SHAPING,NATIONAL DIGIT SHAPES,NOMINAL DIGIT SHAPES"]⟩,
    ⟨0x2070, "SUPERSCRIPT ", ["ZERO,LATIN SMALL LETTER I,,,FOUR,FIVE,SIX,SEVEN,EIGHT,NINE",
      "PLUS SIGN,MINUS,EQUALS SIGN,LEFT PARENTHESIS,RIGHT PARENTHESIS,LATIN SMALL LETTER N"]⟩,
    ⟨0x2080, "SUBSCRIPT ", ["ZERO,ONE,TWO,THREE,FOUR,FIVE,SIX,SEVEN,EIGHT,NINE,PLUS SIGN,MINUS",
      "EQUALS SIGN,LEFT PARENTHESIS,RIGHT PARENTHESIS"]⟩,
    ⟨0x2090, "LATIN SUBSCRIPT SMALL LETTER ", ["A,E,O,X,SCHWA,H,K,L,M,N,P,S,T"]⟩,
    ⟨0x20A0, "", ["EURO-CURRENCY SIGN,COLON SIGN,CRUZEIRO SIGN,FRENCH FRANC SIGN,LIRA SIGN",
      "MILL SIGN,NAIRA SIGN,PESETA SIGN,RUPEE SIGN,WON SIGN,NEW SHEQEL SIGN,DONG SIGN,EURO SIGN",
      "KIP SIGN,TUGRIK SIGN,DRACHMA SIGN,GERMAN PENNY SIGN,PESO SIGN,GUARANI SIGN,AUSTRAL SIGN",
      "HRYVNIA SIGN,CEDI SIGN,LIVRE TOURNOIS SIGN,SPESMILO SIGN,TENGE SIGN,INDIAN RUPEE SIGN",
      "TURKISH LIRA SIGN,NORDIC MARK SIGN,MANAT SIGN,RUBLE SIGN,LARI SIGN,BITCOIN SIGN,SOM SIGN"]⟩,
    ⟨0x20D0, "COMBINING ", ["LEFT HARPOON ABOVE,RIGHT HARPOON ABOVE,LONG VERTICAL LINE OVERLAY",
      "SHORT VERTICAL LINE OVERLAY,ANTICLOCKWISE ARROW ABOVE,CLOCKWISE ARROW ABOVE",
      "LEFT ARROW ABOVE,RIGHT ARROW ABOVE,RING OVERLAY,CLOCKWISE RING OVERLAY",
      "ANTICLOCKWISE RING OVERLAY,THREE DOTS ABOVE,FOUR DOTS ABOVE,,,,,LEFT RIGHT ARROW ABOVE,,",
      ",REVERSE SOLIDUS OVERLAY,DOUBLE VERTICAL STROKE OVERLAY,ANNUITY SYMBOL,TRIPLE UNDERDOT",
      "WIDE BRIDGE ABOVE,LEFTWARDS ARROW OVERLAY,LONG DOUBLE SOLIDUS OVERLAY",
      "RIGHTWARDS HARPOON WITH BARB DOWNWARDS,LEFTWARDS HARPOON WITH BARB DOWNWARDS",
      "LEFT ARROW BELOW,RIGHT ARROW BELOW,ASTERISK ABOVE"]⟩,
    ⟨0x20DD, "COMBINING ENCLOSING ", ["CIRCLE,SQUARE,DIAMOND,CIRCLE BACKSLASH,,SCREEN,KEYCAP",
      "UPWARD POINTING TRIANGLE"]⟩,
    ⟨0x2100, "", ["ACCOUNT OF,ADDRESSED TO THE SUBJECT,,DEGREE CELSIUS,CENTRE LINE SYMBOL",
      "CARE OF,CADA UNA,EULER CONSTANT,SCRUPLE,DEGREE FAHRENHEIT,,,BLACK-LETTER CAPITAL H,",
      "PLANCK CONSTANT,PLANCK CONSTANT OVER TWO PI,,BLACK-LETTER CAPITAL I,,,L B BAR SYMBOL,",
      "NUMERO SIGN,SOUND RECORDING COPYRIGHT,,,,,BLACK-LETTER CAPITAL R,,PRESCRIPTION TAKE",
      "RESPONSE,SERVICE MARK,TELEPHONE SIGN,TRADE MARK SIGN,VERSICLE,,OUNCE SIGN,OHM SIGN",
      "INVERTED OHM SIGN,BLACK-LETTER CAPITAL Z,TURNED GREEK SMALL LETTER IOTA,KELVIN SIGN",
      "ANGSTROM SIGN,,BLACK-LETTER CAPITAL C,ESTIMATED SYMBOL,,,,TURNED CAPITAL F,,,ALEF SYMBOL",
      "BET SYMBOL,GIMEL SYMBOL,DALET SYMBOL,INFORMATION SOURCE,ROTATED CAPITAL Q,FACSIMILE SIGN",
      ",,,,,TURNED SANS-SERIF CAPITAL G,TURNED SANS-SERIF CAPITAL L",
      "REVERSED SANS-SERIF CAPITAL L,TURNED SANS-SERIF CAPITAL Y,,,,,,PROPERTY LINE",
      "TURNED AMPERSAND,PER SIGN,AKTIESELSKAB,TURNED SMALL F,SYMBOL FOR SAMARITAN SOURCE,,,,,,,",
      ",,,,,,,,FRACTION NUMERATOR ONE"]⟩,
    ⟨0x2102, "DOUBLE-STRUCK ", ["CAPITAL C,,,,,,,,,,,CAPITAL H,,,,,,,,CAPITAL N,,,,CAPITAL P",
      "CAPITAL Q,,,CAPITAL R,,,,,,,CAPITAL Z,,,,,,,,,,,,,,,,,,,,,,,,SMALL PI,SMALL GAMMA",
      "CAPITAL GAMMA,CAPITAL PI,N-ARY SUMMATION,,,,,ITALIC CAPITAL D,ITALIC SMALL D",
      "ITALIC SMALL E,ITALIC SMALL I,ITALIC SMALL J"]⟩,
    ⟨0x210A, "SCRIPT ", ["SMALL G,CAPITAL H,,,,,CAPITAL I,,CAPITAL L,SMALL L,,,,,CAPITAL P,,",
      "CAPITAL R,,,,,,,,,,,,,,,,,CAPITAL B,,,SMALL E,CAPITAL E,CAPITAL F,,CAPITAL M,SMALL O"]⟩,
    ⟨0x2150, "VULGAR FRACTION ", ["ONE SEVENTH,ONE NINTH,ONE TENTH,ONE THIRD,TWO THIRDS",
      "ONE FIFTH,TWO FIFTHS,THREE FIFTHS,FOUR FIFTHS,ONE SIXTH,FIVE SIXTHS,ONE EIGHTH",
      "THREE EIGHTHS,FIVE EIGHTHS,SEVEN EIGHTHS,,,,,,,,,,,,,,,,,,,,,,,,,,,,,,,,,,,,,,,,,,",
      "ZERO THIRDS"]⟩,
    ⟨0x2160, "ROMAN NUMERAL ", ["ONE,TWO,THREE,FOUR,FIVE,SIX,SEVEN,EIGHT,NINE,TEN,ELEVEN,TWELVE",
      "FIFTY,ONE HUNDRED,FIVE HUNDRED,ONE THOUSAND,,,,,,,,,,,,,,,,,ONE THOUSAND C D",
      "FIVE THOUSAND,TEN THOUSAND,REVERSED ONE HUNDRED,,SIX LATE FORM,FIFTY EARLY FORM",
      "FIFTY THOUSAND,ONE HUNDRED THOUSAND"]⟩,
    ⟨0x2170, "SMALL ROMAN NUMERAL ", ["ONE,TWO,THREE,FOUR,FIVE,SIX,SEVEN,EIGHT,NINE,TEN,ELEVEN",
      "TWELVE,FIFTY,ONE HUNDRED,FIVE HUNDRED,ONE THOUSAND"]⟩,
    ⟨0x2184, "", ["LATIN SMALL LETTER REVERSED C,,,,,,TURNED DIGIT TWO,TURNED DIGIT THREE,,,,,,",
      ",,LEFT RIGHT ARROW,UP DOWN ARROW,NORTH WEST ARROW,NORTH EAST ARROW,SOUTH EAST ARROW",
      "SOUTH WEST ARROW,,,,,,,,,,,,,,,UP DOWN ARROW WITH BASE,,,,,LEFT RIGHT WAVE ARROW",
      "LEFT RIGHT ARROW WITH STROKE,,,,,,,,ANTICLOCKWISE TOP SEMICIRCLE ARROW",
      "CLOCKWISE TOP SEMICIRCLE ARROW,NORTH WEST ARROW TO LONG BAR,",
      "ANTICLOCKWISE OPEN CIRCLE ARROW,CLOCKWISE OPEN CIRCLE ARROW,,,,,,,,,,,,,,,,,,",
      "LEFT RIGHT DOUBLE ARROW WITH STROKE,,,,,,LEFT RIGHT DOUBLE ARROW,UP DOWN DOUBLE ARROW",
      "NORTH WEST DOUBLE ARROW,NORTH EAST DOUBLE ARROW,SOUTH EAST DOUBLE ARROW",
      "SOUTH WEST DOUBLE ARROW,,,,,,,,,,,,,,,,,,,,,,,,NORTH WEST ARROW TO CORNER",
      "SOUTH EAST ARROW TO CORNER,UP DOWN WHITE ARROW,RIGHT ARROW WITH SMALL CIRCLE,",
      "THREE RIGHTWARDS ARROWS,,,LEFT RIGHT ARROW WITH VERTICAL STROKE,,",
      "LEFT RIGHT ARROW WITH DOUBLE VERTICAL STROKE,,,LEFT RIGHT OPEN-HEADED ARROW,FOR ALL",
      "COMPLEMENT,PARTIAL DIFFERENTIAL,THERE EXISTS,THERE DOES NOT EXIST,EMPTY SET,INCREMENT",
      "NABLA,ELEMENT OF,NOT AN ELEMENT OF,SMALL ELEMENT OF,CONTAINS AS MEMBER",
      "DOES NOT CONTAIN AS MEMBER,SMALL CONTAINS AS MEMBER,END OF PROOF,N-ARY PRODUCT",
      "N-ARY COPRODUCT,N-ARY SUMMATION,MINUS SIGN,MINUS-OR-PLUS SIGN,DOT PLUS,DIVISION SLASH",
      "SET MINUS,ASTERISK OPERATOR,RING OPERATOR,BULLET OPERATOR,SQUARE ROOT,CUBE ROOT",
      "FOURTH ROOT,PROPORTIONAL TO,INFINITY,RIGHT ANGLE,ANGLE,MEASURED ANGLE,SPHERICAL ANGLE",
      "DIVIDES,DOES NOT DIVIDE,PARALLEL TO,NOT PARALLEL TO,LOGICAL AND,LOGICAL OR,INTERSECTION",
      "UNION,INTEGRAL,DOUBLE INTEGRAL,TRIPLE INTEGRAL,CONTOUR INTEGRAL,SURFACE INTEGRAL",
      "VOLUME INTEGRAL,CLOCKWISE INTEGRAL,CLOCKWISE CONTOUR INTEGRAL",
      "ANTICLOCKWISE CONTOUR INTEGRAL,THEREFORE,BECAUSE,RATIO,PROPORTION,DOT MINUS,EXCESS",
      "GEOMETRIC PROPORTION,HOMOTHETIC,TILDE OPERATOR,REVERSED TILDE,INVERTED LAZY S,SINE WAVE",
      "WREATH PRODUCT,NOT TILDE,MINUS TILDE,ASYMPTOTICALLY EQUAL TO,NOT ASYMPTOTICALLY EQUAL TO",
      "APPROXIMATELY EQUAL TO,APPROXIMATELY BUT NOT ACTUALLY EQUAL TO",
      "NEITHER APPROXIMATELY NOR ACTUALLY EQUAL TO,ALMOST EQUAL TO,NOT ALMOST EQUAL TO",
      "ALMOST EQUAL OR EQUAL TO,TRIPLE TILDE,ALL EQUAL TO,EQUIVALENT TO",
      "GEOMETRICALLY EQUIVALENT TO,DIFFERENCE BETWEEN,APPROACHES THE LIMIT",
      "GEOMETRICALLY EQUAL TO,APPROXIMATELY EQUAL TO OR THE IMAGE OF",
      "IMAGE OF OR APPROXIMATELY EQUAL TO,COLON EQUALS,EQUALS COLON,RING IN EQUAL TO",
      "RING EQUAL TO,CORRESPONDS TO,ESTIMATES,EQUIANGULAR TO,STAR EQUALS,DELTA EQUAL TO",
      "EQUAL TO BY DEFINITION,MEASURED BY,QUESTIONED EQUAL TO,NOT EQUAL TO,IDENTICAL TO",
      "NOT IDENTICAL TO,STRICTLY EQUIVALENT TO,LESS-THAN OR EQUAL TO,GREATER-THAN OR EQUAL TO",
      "LESS-THAN OVER EQUAL TO,GREATER-THAN OVER EQUAL TO,LESS-THAN BUT NOT EQUAL TO",
      "GREATER-THAN BUT NOT EQUAL TO,MUCH LESS-THAN,MUCH GREATER-THAN,BETWEEN,NOT EQUIVALENT TO",
      "NOT LESS-THAN,NOT GREATER-THAN,,,LESS-THAN OR EQUIVALENT TO",
      "GREATER-THAN OR EQUIVALENT TO,,,LESS-THAN OR GREATER-THAN,GREATER-THAN OR LESS-THAN,,",
      "PRECEDES,SUCCEEDS,PRECEDES OR EQUAL TO,SUCCEEDS OR EQUAL TO,PRECEDES OR EQUIVALENT TO",
      "SUCCEEDS OR EQUIVALENT TO,DOES NOT PRECEDE,DOES NOT SUCCEED,SUBSET OF,SUPERSET OF",
      "NOT A SUBSET OF,NOT A SUPERSET OF,SUBSET OF OR EQUAL TO,SUPERSET OF OR EQUAL TO,,",
      "SUBSET OF WITH NOT EQUAL TO,SUPERSET OF WITH NOT EQUAL TO,MULTISET",
      "MULTISET MULTIPLICATION,MULTISET UNION,,,,,,,,,,,,,,,,SQUARED PLUS,SQUARED MINUS",
      "SQUARED TIMES,SQUARED DOT OPERATOR,RIGHT TACK,LEFT TACK,DOWN TACK,UP TACK,ASSERTION",
      "MODELS,TRUE,FORCES,TRIPLE VERTICAL BAR RIGHT TURNSTILE",
      "DOUBLE VERTICAL BAR DOUBLE RIGHT TURNSTILE,DOES NOT PROVE,NOT TRUE,DOES NOT FORCE",
      "NEGATED DOUBLE VERTICAL BAR DOUBLE RIGHT TURNSTILE,PRECEDES UNDER RELATION",
      "SUCCEEDS UNDER RELATION,NORMAL SUBGROUP OF,CONTAINS AS NORMAL SUBGROUP",
      "NORMAL SUBGROUP OF OR EQUAL TO,CONTAINS AS NORMAL SUBGROUP OR EQUAL TO,ORIGINAL OF",
      "IMAGE OF,MULTIMAP,HERMITIAN CONJUGATE MATRIX,INTERCALATE,XOR,NAND,NOR",
      "RIGHT ANGLE WITH ARC,RIGHT TRIANGLE,N-ARY LOGICAL AND,N-ARY LOGICAL OR",
      "N-ARY INTERSECTION,N-ARY UNION,DIAMOND OPERATOR,DOT OPERATOR,STAR OPERATOR",
      "DIVISION TIMES,BOWTIE,LEFT NORMAL FACTOR SEMIDIRECT PRODUCT",
      "RIGHT NORMAL FACTOR SEMIDIRECT PRODUCT,LEFT SEMIDIRECT PRODUCT,RIGHT SEMIDIRECT PRODUCT",
      "REVERSED TILDE EQUALS,CURLY LOGICAL OR,CURLY LOGICAL AND,DOUBLE SUBSET,DOUBLE SUPERSET",
      "DOUBLE INTERSECTION,DOUBLE UNION,PITCHFORK,EQUAL AND PARALLEL TO,LESS-THAN WITH DOT",
      "GREATER-THAN WITH DOT,VERY MUCH LESS-THAN,VERY MUCH GREATER-THAN",
      "LESS-THAN EQUAL TO OR GREATER-THAN,GREATER-THAN EQUAL TO OR LESS-THAN",
      "EQUAL TO OR LESS-THAN,EQUAL TO OR GREATER-THAN,EQUAL TO OR PRECEDES,EQUAL TO OR SUCCEEDS",
      "DOES NOT PRECEDE OR EQUAL,DOES NOT SUCCEED OR EQUAL,NOT SQUARE IMAGE OF OR EQUAL TO",
      "NOT SQUARE ORIGINAL OF OR EQUAL TO,SQUARE IMAGE OF OR NOT EQUAL TO",
      "SQUARE ORIGINAL OF OR NOT EQUAL TO,LESS-THAN BUT NOT EQUIVALENT TO",
      "GREATER-THAN BUT NOT EQUIVALENT TO,PRECEDES BUT NOT EQUIVALENT TO",
      "SUCCEEDS BUT NOT EQUIVALENT TO,NOT NORMAL SUBGROUP OF",
      "DOES NOT CONTAIN AS NORMAL SUBGROUP,NOT NORMAL SUBGROUP OF OR EQUAL TO",
      "DOES NOT CONTAIN AS NORMAL SUBGROUP OR EQUAL,VERTICAL ELLIPSIS",
      "MIDLINE HORIZONTAL ELLIPSIS,UP RIGHT DIAGONAL ELLIPSIS,DOWN RIGHT DIAGONAL ELLIPSIS,,",
      "SMALL ELEMENT OF WITH VERTICAL BAR AT END OF HORIZONTAL STROKE,,",
      "SMALL ELEMENT OF WITH OVERBAR,,,CONTAINS WITH LONG HORIZONTAL STROKE",
      "CONTAINS WITH VERTICAL BAR AT END OF HORIZONTAL STROKE",
      "SMALL CONTAINS WITH VERTICAL BAR AT END OF HORIZONTAL STROKE,CONTAINS WITH OVERBAR",
      "SMALL CONTAINS WITH OVERBAR,Z NOTATION BAG MEMBERSHIP,DIAMETER SIGN,ELECTRIC ARROW,HOUSE",
      "UP ARROWHEAD,DOWN ARROWHEAD,PROJECTIVE,PERSPECTIVE,WAVY LINE,LEFT CEILING,RIGHT CEILING",
      "LEFT FLOOR,RIGHT FLOOR,BOTTOM RIGHT CROP,BOTTOM LEFT CROP,TOP RIGHT CROP,TOP LEFT CROP",
      "REVERSED NOT SIGN,SQUARE LOZENGE,ARC,SEGMENT,SECTOR,TELEPHONE RECORDER",
      "POSITION INDICATOR,VIEWDATA SQUARE,PLACE OF INTEREST SIGN,TURNED NOT SIGN,WATCH",
      "HOURGLASS,TOP LEFT CORNER,TOP RIGHT CORNER,BOTTOM LEFT CORNER,BOTTOM RIGHT CORNER",
      "TOP HALF INTEGRAL,BOTTOM HALF INTEGRAL,FROWN,SMILE",
      "UP ARROWHEAD BETWEEN TWO HORIZONTAL BARS,OPTION KEY,ERASE TO THE RIGHT",
      "X IN A RECTANGLE BOX,KEYBOARD,LEFT-POINTING ANGLE BRACKET,RIGHT-POINTING ANGLE BRACKET",
      "ERASE TO THE LEFT,BENZENE RING,CYLINDRICITY,ALL AROUND-PROFILE,SYMMETRY,TOTAL RUNOUT",
      "DIMENSION ORIGIN,CONICAL TAPER,SLOPE,COUNTERBORE,COUNTERSINK"]⟩,
    ⟨0x2190, "LEFTWARDS ", ["ARROW,,,,,,,,,,ARROW WITH STROKE,,WAVE ARROW,,TWO HEADED ARROW,,,",
      "ARROW WITH TAIL,,ARROW FROM BAR,,,,,ARROW WITH HOOK,,ARROW WITH LOOP,,,,,,,,,,,,,",
      "ARROW TO BAR OVER RIGHTWARDS ARROW TO BAR,,,HARPOON WITH BARB UPWARDS",
      "HARPOON WITH BARB DOWNWARDS,,,,,,,,,ARROW OVER RIGHTWARDS ARROW,PAIRED ARROWS,,,",
      "HARPOON OVER RIGHTWARDS HARPOON,,DOUBLE ARROW WITH STROKE,,,DOUBLE ARROW,,,,,,,,,",
      "TRIPLE ARROW,,SQUIGGLE ARROW,,,,DASHED ARROW,,,,ARROW TO BAR,,WHITE ARROW,,,,,,,,,,,,,,,",
      ",ARROW WITH VERTICAL STROKE,,,ARROW WITH DOUBLE VERTICAL STROKE,,,OPEN-HEADED ARROW"]⟩,
    ⟨0x2191, "UPWARDS ", ["ARROW,,,,,,,,,,,,,,TWO HEADED ARROW,,,,,,ARROW FROM BAR,,,,,,,,,,",
      "ARROW WITH TIP LEFTWARDS,ARROW WITH TIP RIGHTWARDS,,,,,,,,,,,,",
      "HARPOON WITH BARB RIGHTWARDS,HARPOON WITH BARB LEFTWARDS,,,,,",
      "ARROW LEFTWARDS OF DOWNWARDS ARROW,,,PAIRED ARROWS,,,,,,,,,DOUBLE ARROW,,,,,,,,,,,,",
      "ARROW WITH DOUBLE STROKE,,,DASHED ARROW,,,,,,WHITE ARROW,,,WHITE ARROW FROM BAR",
      "WHITE ARROW ON PEDESTAL,WHITE ARROW ON PEDESTAL WITH HORIZONTAL BAR",
      "WHITE ARROW ON PEDESTAL WITH VERTICAL BAR,WHITE DOUBLE ARROW",
      "WHITE DOUBLE ARROW ON PEDESTAL"]⟩,
    ⟨0x2192, "RIGHTWARDS ", ["ARROW,,,,,,,,,ARROW WITH STROKE,,WAVE ARROW,,,TWO HEADED ARROW,,",
      "ARROW WITH TAIL,,,ARROW FROM BAR,,,,ARROW WITH HOOK,,ARROW WITH LOOP,,,,,,,",
      "ARROW WITH CORNER DOWNWARDS,,,,,,,,,,,,HARPOON WITH BARB UPWARDS",
      "HARPOON WITH BARB DOWNWARDS,,,ARROW OVER LEFTWARDS ARROW,,,,,PAIRED ARROWS,,",
      "HARPOON OVER LEFTWARDS HARPOON,,,DOUBLE ARROW WITH STROKE,,,DOUBLE ARROW,,,,,,,,",
      "TRIPLE ARROW,,SQUIGGLE ARROW,,,,,DASHED ARROW,,,ARROW TO BAR,,,WHITE ARROW,,,,,,,",
      "WHITE ARROW FROM WALL,,,,,,,,ARROW WITH VERTICAL STROKE,,",
      "ARROW WITH DOUBLE VERTICAL STROKE,,,OPEN-HEADED ARROW"]⟩,
    ⟨0x2193, "DOWNWARDS ", ["ARROW,,,,,,,,,,,,,,TWO HEADED ARROW,,,,,,ARROW FROM BAR,,,,,,,",
      "ZIGZAG ARROW,,,ARROW WITH TIP LEFTWARDS,ARROW WITH TIP RIGHTWARDS,",
      "ARROW WITH CORNER LEFTWARDS,,,,,,,,,,,,,HARPOON WITH BARB RIGHTWARDS",
      "HARPOON WITH BARB LEFTWARDS,,,,,,,PAIRED ARROWS,,,,,,,,,DOUBLE ARROW,,,,,,,,,,,",
      "ARROW WITH DOUBLE STROKE,,,,DASHED ARROW,,,,,,WHITE ARROW,,,,,,,,,,,",
      "ARROW LEFTWARDS OF UPWARDS ARROW"]⟩,
    ⟨0x2270, "NEITHER ", ["LESS-THAN NOR EQUAL TO,GREATER-THAN NOR EQUAL TO,,",
      "LESS-THAN NOR EQUIVALENT TO,GREATER-THAN NOR EQUIVALENT TO,,,LESS-THAN NOR GREATER-THAN",
      "GREATER-THAN NOR LESS-THAN,,,,,,,,,,,,,,,A SUBSET OF NOR EQUAL TO",
      "A SUPERSET OF NOR EQUAL TO"]⟩,
    ⟨0x228F, "SQUARE ", ["IMAGE OF,ORIGINAL OF,IMAGE OF OR EQUAL TO,ORIGINAL OF OR EQUAL TO,CAP",
      "CUP"]⟩,
    ⟨0x2295, "CIRCLED ", ["PLUS,MINUS,TIMES,DIVISION SLASH,DOT OPERATOR,RING OPERATOR",
      "ASTERISK OPERATOR,EQUALS,DASH"]⟩,
    ⟨0x22F2, "ELEMENT ", ["OF WITH LONG HORIZONTAL STROKE",
      "OF WITH VERTICAL BAR AT END OF HORIZONTAL STROKE,,OF WITH DOT ABOVE,OF WITH OVERBAR,",
      "OF WITH UNDERBAR,OF WITH TWO HORIZONTAL STROKES"]⟩,
    ⟨0x2336, "APL FUNCTIONAL SYMBOL ", ["I-BEAM,SQUISH QUAD,,,,,,CIRCLE STILE,CIRCLE JOT",
      "SLASH BAR,BACKSLASH BAR,,,,,LEFTWARDS VANE,RIGHTWARDS VANE,,,CIRCLE BACKSLASH",
      "DOWN TACK UNDERBAR,DELTA STILE,,,DOWN TACK JOT,UPWARDS VANE,,UP TACK OVERBAR,DEL STILE,,",
      "UP TACK JOT,DOWNWARDS VANE,,QUOTE UNDERBAR,DELTA UNDERBAR,DIAMOND UNDERBAR,JOT UNDERBAR",
      "CIRCLE UNDERBAR,UP SHOE JOT,QUOTE QUAD,CIRCLE STAR,,UP TACK DIAERESIS,DEL DIAERESIS",
      "STAR DIAERESIS,JOT DIAERESIS,CIRCLE DIAERESIS,DOWN SHOE STILE,LEFT SHOE STILE",
      "TILDE DIAERESIS,GREATER-THAN DIAERESIS,COMMA BAR,DEL TILDE,ZILDE,STILE TILDE",
      "SEMICOLON UNDERBAR,,,DOWN CARET TILDE,UP CARET TILDE,IOTA,RHO,OMEGA,ALPHA UNDERBAR",
      "EPSILON UNDERBAR,IOTA UNDERBAR,OMEGA UNDERBAR,ALPHA,,,,,,,,,,,,,,,,,,,,,,,,,,,QUAD"]⟩,
    ⟨0x2338, "APL FUNCTIONAL SYMBOL QUAD ", ["EQUAL,DIVIDE,DIAMOND,JOT,CIRCLE,,,,,SLASH",
      "BACKSLASH,LESS-THAN,GREATER-THAN,,,LEFTWARDS ARROW,RIGHTWARDS ARROW,,,,DOWN CARET,DELTA,",
      ",UPWARDS ARROW,,,UP CARET,DEL,,,DOWNWARDS ARROW,,,,,,,,,COLON,,,,,,,,,,,,,,,NOT EQUAL",
      "QUESTION"]⟩,
    ⟨0x237B, "", ["NOT CHECK MARK,RIGHT ANGLE WITH DOWNWARDS ZIGZAG ARROW,SHOULDERED OPEN BOX",
      "BELL SYMBOL,VERTICAL LINE WITH MIDDLE DOT,INSERTION SYMBOL,CONTINUOUS UNDERLINE SYMBOL",
      "DISCONTINUOUS UNDERLINE SYMBOL,EMPHASIS SYMBOL,COMPOSITION SYMBOL",
      "WHITE SQUARE WITH CENTRE VERTICAL LINE,ENTER SYMBOL,ALTERNATIVE KEY SYMBOL,HELM SYMBOL",
      "CIRCLED HORIZONTAL BAR WITH NOTCH,CIRCLED TRIANGLE DOWN",
      "BROKEN CIRCLE WITH NORTHWEST ARROW,UNDO SYMBOL,MONOSTABLE SYMBOL,HYSTERESIS SYMBOL",
      "OPEN-CIRCUIT-OUTPUT H-TYPE SYMBOL,OPEN-CIRCUIT-OUTPUT L-TYPE SYMBOL",
      "PASSIVE-PULL-DOWN-OUTPUT SYMBOL,PASSIVE-PULL-UP-OUTPUT SYMBOL",
      "DIRECT CURRENT SYMBOL FORM TWO,SOFTWARE-FUNCTION SYMBOL,,DECIMAL SEPARATOR KEY SYMBOL",
      "PREVIOUS PAGE,NEXT PAGE,PRINT SCREEN SYMBOL,CLEAR SCREEN SYMBOL",
      "LEFT PARENTHESIS UPPER HOOK,LEFT PARENTHESIS EXTENSION,LEFT PARENTHESIS LOWER HOOK,,,",
      "LEFT SQUARE BRACKET UPPER CORNER,LEFT SQUARE BRACKET EXTENSION",
      "LEFT SQUARE BRACKET LOWER CORNER,,,,LEFT CURLY BRACKET UPPER HOOK",
      "LEFT CURLY BRACKET MIDDLE PIECE,LEFT CURLY BRACKET LOWER HOOK,CURLY BRACKET EXTENSION,,,",
      "INTEGRAL EXTENSION,,UPPER LEFT OR LOWER RIGHT CURLY BRACKET SECTION",
      "UPPER RIGHT OR LOWER LEFT CURLY BRACKET SECTION,SUMMATION TOP,SUMMATION BOTTOM",
      "TOP SQUARE BRACKET,BOTTOM SQUARE BRACKET,BOTTOM SQUARE BRACKET OVER TOP SQUARE BRACKET",
      "RADICAL SYMBOL BOTTOM,LEFT VERTICAL BOX LINE,,,,,,,,,,,,,,,,,,,,,SQUARE FOOT",
      "RETURN SYMBOL,EJECT SYMBOL,VERTICAL LINE EXTENSION,,,,,,,,,,EARTH GROUND,FUSE",
      "TOP PARENTHESIS,BOTTOM PARENTHESIS,TOP CURLY BRACKET,BOTTOM CURLY BRACKET",
      "TOP TORTOISE SHELL BRACKET,BOTTOM TORTOISE SHELL BRACKET,WHITE TRAPEZIUM",
      "BENZENE RING WITH CIRCLE,STRAIGHTNESS,FLATNESS,AC CURRENT,ELECTRICAL INTERSECTION",
      "DECIMAL EXPONENT SYMBOL,,,,,,,,ALARM CLOCK,STOPWATCH,TIMER CLOCK",
      "HOURGLASS WITH FLOWING SAND,,,,,DOUBLE VERTICAL BAR,,,POWER SYMBOL,POWER ON-OFF SYMBOL",
      "POWER ON SYMBOL,POWER SLEEP SYMBOL,OBSERVER EYE SYMBOL"]⟩,
    ⟨0x239E, "RIGHT ", ["PARENTHESIS UPPER HOOK,PARENTHESIS EXTENSION,PARENTHESIS LOWER HOOK,,,",
      "SQUARE BRACKET UPPER CORNER,SQUARE BRACKET EXTENSION,SQUARE BRACKET LOWER CORNER,,,,",
      "CURLY BRACKET UPPER HOOK,CURLY BRACKET MIDDLE PIECE,CURLY BRACKET LOWER HOOK,,,,,,,,,,,",
      "VERTICAL BOX LINE"]⟩,
    ⟨0x23AF, "HORIZONTAL ", ["LINE EXTENSION,,,,,,,,,,,SCAN LINE-1,SCAN LINE-3,SCAN LINE-7",
      "SCAN LINE-9"]⟩,
    ⟨0x23BE, "DENTISTRY SYMBOL LIGHT ", ["VERTICAL AND TOP RIGHT,VERTICAL AND BOTTOM RIGHT",
      "VERTICAL WITH CIRCLE,DOWN AND HORIZONTAL WITH CIRCLE,UP AND HORIZONTAL WITH CIRCLE",
      "VERTICAL WITH TRIANGLE,DOWN AND HORIZONTAL WITH TRIANGLE,UP AND HORIZONTAL WITH TRIANGLE",
      "VERTICAL AND WAVE,DOWN AND HORIZONTAL WITH WAVE,UP AND HORIZONTAL WITH WAVE",
      "DOWN AND HORIZONTAL,UP AND HORIZONTAL,VERTICAL AND TOP LEFT,VERTICAL AND BOTTOM LEFT"]⟩,
    ⟨0x23D1, "METRICAL ", ["BREVE,LONG OVER SHORT,SHORT OVER LONG,LONG OVER TWO SHORTS",
      "TWO SHORTS OVER LONG,TWO SHORTS JOINED,TRISEME,TETRASEME,PENTASEME"]⟩,
    ⟨0x23E9, "BLACK ", ["RIGHT-POINTING DOUBLE TRIANGLE,LEFT-POINTING DOUBLE TRIANGLE",
      "UP-POINTING DOUBLE TRIANGLE,DOWN-POINTING DOUBLE TRIANGLE",
      "RIGHT-POINTING DOUBLE TRIANGLE WITH VERTICAL BAR",
      "LEFT-POINTING DOUBLE TRIANGLE WITH VERTICAL BAR",
      "RIGHT-POINTING TRIANGLE WITH DOUBLE VERTICAL BAR,,,,,MEDIUM LEFT-POINTING TRIANGLE",
      "MEDIUM RIGHT-POINTING TRIANGLE,MEDIUM UP-POINTING TRIANGLE,MEDIUM DOWN-POINTING TRIANGLE",
      ",SQUARE FOR STOP,CIRCLE FOR RECORD"]⟩,
    ⟨0x2400, "SYMBOL FOR ", ["NULL,START OF HEADING,START OF TEXT,END OF TEXT",
      "END OF TRANSMISSION,ENQUIRY,ACKNOWLEDGE,BELL,BACKSPACE,HORIZONTAL TABULATION,LINE FEED",
      "VERTICAL TABULATION,FORM FEED,CARRIAGE RETURN,SHIFT OUT,SHIFT IN,DATA LINK ESCAPE",
      "DEVICE CONTROL ONE,DEVICE CONTROL TWO,DEVICE CONTROL THREE,DEVICE CONTROL FOUR",
      "NEGATIVE ACKNOWLEDGE,SYNCHRONOUS IDLE,END OF TRANSMISSION BLOCK,CANCEL,END OF MEDIUM",
      "SUBSTITUTE,ESCAPE,FILE SEPARATOR,GROUP SEPARATOR,RECORD SEPARATOR,UNIT SEPARATOR,SPACE",
      "DELETE,,,NEWLINE,DELETE FORM TWO,SUBSTITUTE FORM TWO"]⟩,
    ⟨0x2422, "", ["BLANK SYMBOL,OPEN BOX"]⟩,
    ⟨0x2440, "OCR ", ["HOOK,CHAIR,FORK,INVERTED FORK,BELT BUCKLE,BOW TIE",
      "BRANCH BANK IDENTIFICATION,AMOUNT OF CHECK,DASH,CUSTOMER ACCOUNT NUMBER,DOUBLE BACKSLASH"]⟩,
    ⟨0x2460, "CIRCLED DIGIT ", ["ONE,TWO,THREE,FOUR,FIVE,SIX,SEVEN,EIGHT,NINE"]⟩,
    ⟨0x2469, "CIRCLED NUMBER ", ["TEN,ELEVEN,TWELVE,THIRTEEN,FOURTEEN,FIFTEEN,SIXTEEN,SEVENTEEN",
      "EIGHTEEN,NINETEEN,TWENTY"]⟩,
    ⟨0x2474, "PARENTHESIZED DIGIT ", ["ONE,TWO,THREE,FOUR,FIVE,SIX,SEVEN,EIGHT,NINE"]⟩,
    ⟨0x247D, "PARENTHESIZED NUMBER ", ["TEN,ELEVEN,TWELVE,THIRTEEN,FOURTEEN,FIFTEEN,SIXTEEN",
      "SEVENTEEN,EIGHTEEN,NINETEEN,TWENTY"]⟩,
    ⟨0x2488, "DIGIT ", ["ONE FULL STOP,TWO FULL STOP,THREE FULL STOP,FOUR FULL STOP",
      "FIVE FULL STOP,SIX FULL STOP,SEVEN FULL STOP,EIGHT FULL STOP,NINE FULL STOP"]⟩,
    ⟨0x2491, "NUMBER ", ["TEN FULL STOP,ELEVEN FULL STOP,TWELVE FULL STOP,THIRTEEN FULL STOP",
      "FOURTEEN FULL STOP,FIFTEEN FULL STOP,SIXTEEN FULL STOP,SEVENTEEN FULL STOP",
      "EIGHTEEN FULL STOP,NINETEEN FULL STOP,TWENTY FULL STOP"]⟩,
    ⟨0x249C, "PARENTHESIZED LATIN SMALL LETTER ", ["A,B,C,D,E,F,G,H,I,J,K,L,M,N,O,P,Q,R,S,T,U,V",
      "W,X,Y,Z"]⟩,
    ⟨0x24B6, "CIRCLED LATIN CAPITAL LETTER ", ["A,B,C,D,E,F,G,H,I,J,K,L,M,N,O,P,Q,R,S,T,U,V,W,X",
      "Y,Z"]⟩,
    ⟨0x24D0, "CIRCLED LATIN SMALL LETTER ", ["A,B,C,D,E,F,G,H,I,J,K,L,M,N,O,P,Q,R,S,T,U,V,W,X,Y",
      "Z"]⟩,
    ⟨0x24EA, "", ["CIRCLED DIGIT ZERO,,,,,,,,,,,,,,,,,,,,DOUBLE CIRCLED NUMBER TEN",
      "NEGATIVE CIRCLED DIGIT ZERO"]⟩,
    ⟨0x24EB, "NEGATIVE CIRCLED NUMBER ", ["ELEVEN,TWELVE,THIRTEEN,FOURTEEN,FIFTEEN,SIXTEEN",
      "SEVENTEEN,EIGHTEEN,NINETEEN,TWENTY"]⟩,
    ⟨0x24F5, "DOUBLE CIRCLED DIGIT ", ["ONE,TWO,THREE,FOUR,FIVE,SIX,SEVEN,EIGHT,NINE"]⟩,
    ⟨0x2500, "BOX DRAWINGS LIGHT ", ["HORIZONTAL,,VERTICAL,,TRIPLE DASH HORIZONTAL,",
      "TRIPLE DASH VERTICAL,,QUADRUPLE DASH HORIZONTAL,,QUADRUPLE DASH VERTICAL,,DOWN AND RIGHT",
      ",,,DOWN AND LEFT,,,,UP AND RIGHT,,,,UP AND LEFT,,,,VERTICAL AND RIGHT,,,,,,,",
      "VERTICAL AND LEFT,,,,,,,,DOWN AND HORIZONTAL,,,,,,,,UP AND HORIZONTAL,,,,,,,",
      "VERTICAL AND HORIZONTAL,,,,,,,,,,,,,,,,DOUBLE DASH HORIZONTAL,,DOUBLE DASH VERTICAL,,,,,",
      ",,,,,,,,,,,,,,,,,,,,,,,,,ARC DOWN AND RIGHT,ARC DOWN AND LEFT,ARC UP AND LEFT",
      "ARC UP AND RIGHT,DIAGONAL UPPER RIGHT TO LOWER LEFT,DIAGONAL UPPER LEFT TO LOWER RIGHT",
      "DIAGONAL CROSS,LEFT,UP,RIGHT,DOWN,,,,,LEFT AND HEAVY RIGHT,UP AND HEAVY DOWN"]⟩,
    ⟨0x2501, "BOX DRAWINGS ", ["HEAVY HORIZONTAL,,HEAVY VERTICAL,,HEAVY TRIPLE DASH HORIZONTAL,",
      "HEAVY TRIPLE DASH VERTICAL,,HEAVY QUADRUPLE DASH HORIZONTAL,",
      "HEAVY QUADRUPLE DASH VERTICAL,,DOWN LIGHT AND RIGHT HEAVY,DOWN HEAVY AND RIGHT LIGHT",
      "HEAVY DOWN AND RIGHT,,DOWN LIGHT AND LEFT HEAVY,DOWN HEAVY AND LEFT LIGHT",
      "HEAVY DOWN AND LEFT,,UP LIGHT AND RIGHT HEAVY,UP HEAVY AND RIGHT LIGHT",
      "HEAVY UP AND RIGHT,,UP LIGHT AND LEFT HEAVY,UP HEAVY AND LEFT LIGHT,HEAVY UP AND LEFT,",
      "VERTICAL LIGHT AND RIGHT HEAVY,UP HEAVY AND RIGHT DOWN LIGHT",
      "DOWN HEAVY AND RIGHT UP LIGHT,VERTICAL HEAVY AND RIGHT LIGHT",
      "DOWN LIGHT AND RIGHT UP HEAVY,UP LIGHT AND RIGHT DOWN HEAVY,HEAVY VERTICAL AND RIGHT,",
      "VERTICAL LIGHT AND LEFT HEAVY,UP HEAVY AND LEFT DOWN LIGHT,DOWN HEAVY AND LEFT UP LIGHT",
      "VERTICAL HEAVY AND LEFT LIGHT,DOWN LIGHT AND LEFT UP HEAVY,UP LIGHT AND LEFT DOWN HEAVY",
      "HEAVY VERTICAL AND LEFT,,LEFT HEAVY AND RIGHT DOWN LIGHT,RIGHT HEAVY AND LEFT DOWN LIGHT",
      "DOWN LIGHT AND HORIZONTAL HEAVY,DOWN HEAVY AND HORIZONTAL LIGHT",
      "RIGHT LIGHT AND LEFT DOWN HEAVY,LEFT LIGHT AND RIGHT DOWN HEAVY",
      "HEAVY DOWN AND HORIZONTAL,,LEFT HEAVY AND RIGHT UP LIGHT,RIGHT HEAVY AND LEFT UP LIGHT",
      "UP LIGHT AND HORIZONTAL HEAVY,UP HEAVY AND HORIZONTAL LIGHT",
      "RIGHT LIGHT AND LEFT UP HEAVY,LEFT LIGHT AND RIGHT UP HEAVY,HEAVY UP AND HORIZONTAL,",
      "LEFT HEAVY AND RIGHT VERTICAL LIGHT,RIGHT HEAVY AND LEFT VERTICAL LIGHT",
      "VERTICAL LIGHT AND HORIZONTAL HEAVY,UP HEAVY AND DOWN HORIZONTAL LIGHT",
      "DOWN HEAVY AND UP HORIZONTAL LIGHT,VERTICAL HEAVY AND HORIZONTAL LIGHT",
      "LEFT UP HEAVY AND RIGHT DOWN LIGHT,RIGHT UP HEAVY AND LEFT DOWN LIGHT",
      "LEFT DOWN HEAVY AND RIGHT UP LIGHT,RIGHT DOWN HEAVY AND LEFT UP LIGHT",
      "DOWN LIGHT AND UP HORIZONTAL HEAVY,UP LIGHT AND DOWN HORIZONTAL HEAVY",
      "RIGHT LIGHT AND LEFT VERTICAL HEAVY,LEFT LIGHT AND RIGHT VERTICAL HEAVY",
      "HEAVY VERTICAL AND HORIZONTAL,,HEAVY DOUBLE DASH HORIZONTAL,,HEAVY DOUBLE DASH VERTICAL,",
      ",DOWN SINGLE AND RIGHT DOUBLE,DOWN DOUBLE AND RIGHT SINGLE,,DOWN SINGLE AND LEFT DOUBLE",
      "DOWN DOUBLE AND LEFT SINGLE,,UP SINGLE AND RIGHT DOUBLE,UP DOUBLE AND RIGHT SINGLE,",
      "UP SINGLE AND LEFT DOUBLE,UP DOUBLE AND LEFT SINGLE,,VERTICAL SINGLE AND RIGHT DOUBLE",
      "VERTICAL DOUBLE AND RIGHT SINGLE,,VERTICAL SINGLE AND LEFT DOUBLE",
      "VERTICAL DOUBLE AND LEFT SINGLE,,DOWN SINGLE AND HORIZONTAL DOUBLE",
      "DOWN DOUBLE AND HORIZONTAL SINGLE,,UP SINGLE AND HORIZONTAL DOUBLE",
      "UP DOUBLE AND HORIZONTAL SINGLE,,VERTICAL SINGLE AND HORIZONTAL DOUBLE",
      "VERTICAL DOUBLE AND HORIZONTAL SINGLE,,,,,,,,,,,,,HEAVY LEFT,HEAVY UP,HEAVY RIGHT",
      "HEAVY DOWN,,,HEAVY LEFT AND LIGHT RIGHT,HEAVY UP AND LIGHT DOWN"]⟩,
    ⟨0x2550, "BOX DRAWINGS DOUBLE ", ["HORIZONTAL,VERTICAL,,,DOWN AND RIGHT,,,DOWN AND LEFT,,",
      "UP AND RIGHT,,,UP AND LEFT,,,VERTICAL AND RIGHT,,,VERTICAL AND LEFT,,",
      "DOWN AND HORIZONTAL,,,UP AND HORIZONTAL,,,VERTICAL AND HORIZONTAL"]⟩,
    ⟨0x2580, "", ["UPPER HALF BLOCK,,,,,,,,FULL BLOCK,,,,,,,,RIGHT HALF BLOCK,LIGHT SHADE",
      "MEDIUM SHADE,DARK SHADE,UPPER ONE EIGHTH BLOCK,RIGHT ONE EIGHTH BLOCK",
      "QUADRANT LOWER LEFT,QUADRANT LOWER RIGHT"]⟩,
    ⟨0x2581, "LOWER ", ["ONE EIGHTH BLOCK,ONE QUARTER BLOCK,THREE EIGHTHS BLOCK,HALF BLOCK",
      "FIVE EIGHTHS BLOCK,THREE QUARTERS BLOCK,SEVEN EIGHTHS BLOCK"]⟩,
    ⟨0x2589, "LEFT ", ["SEVEN EIGHTHS BLOCK,THREE QUARTERS BLOCK,FIVE EIGHTHS BLOCK,HALF BLOCK",
      "THREE EIGHTHS BLOCK,ONE QUARTER BLOCK,ONE EIGHTH BLOCK"]⟩,
    ⟨0x2598, "QUADRANT UPPER ", ["LEFT,LEFT AND LOWER LEFT AND LOWER RIGHT,LEFT AND LOWER RIGHT",
      "LEFT AND UPPER RIGHT AND LOWER LEFT,LEFT AND UPPER RIGHT AND LOWER RIGHT,RIGHT",
      "RIGHT AND LOWER LEFT,RIGHT AND LOWER LEFT AND LOWER RIGHT"]⟩,
    ⟨0x25A0, "BLACK ", ["SQUARE,,,,,,,,,,SMALL SQUARE,,RECTANGLE,,VERTICAL RECTANGLE,",
      "PARALLELOGRAM,,UP-POINTING TRIANGLE,,UP-POINTING SMALL TRIANGLE,,RIGHT-POINTING TRIANGLE",
      ",RIGHT-POINTING SMALL TRIANGLE,,RIGHT-POINTING POINTER,,DOWN-POINTING TRIANGLE,",
      "DOWN-POINTING SMALL TRIANGLE,,LEFT-POINTING TRIANGLE,,LEFT-POINTING SMALL TRIANGLE,",
      "LEFT-POINTING POINTER,,DIAMOND,,,,,,,,,CIRCLE,,,,,,,,,,,,,,,,,,,LOWER RIGHT TRIANGLE",
      "LOWER LEFT TRIANGLE,UPPER LEFT TRIANGLE,UPPER RIGHT TRIANGLE,,,,,,,,,,,,,,,,,,,,,,",
      "MEDIUM SQUARE,,MEDIUM SMALL SQUARE,,SUN WITH RAYS,,,,,STAR,,,,,,,,,TELEPHONE,,,,,,,,",
      "SHOGI PIECE,,,LEFT POINTING INDEX,RIGHT POINTING INDEX,,,,,,,,,,,,,,,,,,,,,,,,,,,,,,,",
      "SMILING FACE,,,,,,,,,,,,,,,,,,,,,,,,,,,,,,,CHESS KING,CHESS QUEEN,CHESS ROOK",
      "CHESS BISHOP,CHESS KNIGHT,CHESS PAWN,SPADE SUIT,,,CLUB SUIT,,HEART SUIT,DIAMOND SUIT,,,,",
      ",,,,,,,,,,,,,,,,UNIVERSAL RECYCLING SYMBOL,,,,,,,,,,,,,CIRCLE WITH WHITE DOT RIGHT",
      "CIRCLE WITH TWO WHITE DOTS,,,,,,,,FLAG"]⟩,
    ⟨0x25A1, "WHITE ", ["SQUARE,SQUARE WITH ROUNDED CORNERS",
      "SQUARE CONTAINING BLACK SMALL SQUARE,,,,,,,,SMALL SQUARE,,RECTANGLE,,VERTICAL RECTANGLE,",
      "PARALLELOGRAM,,UP-POINTING TRIANGLE,,UP-POINTING SMALL TRIANGLE,,RIGHT-POINTING TRIANGLE",
      ",RIGHT-POINTING SMALL TRIANGLE,,RIGHT-POINTING POINTER,,DOWN-POINTING TRIANGLE,",
      "DOWN-POINTING SMALL TRIANGLE,,LEFT-POINTING TRIANGLE,,LEFT-POINTING SMALL TRIANGLE,",
      "LEFT-POINTING POINTER,,DIAMOND,DIAMOND CONTAINING BLACK SMALL DIAMOND,,,CIRCLE,,,,,,,,,,",
      ",,,,,,,,,,,,,,,,BULLET,,,,,SQUARE WITH VERTICAL BISECTING LINE",
      "UP-POINTING TRIANGLE WITH DOT,,,,SQUARE WITH UPPER LEFT QUADRANT",
      "SQUARE WITH LOWER LEFT QUADRANT,SQUARE WITH LOWER RIGHT QUADRANT",
      "SQUARE WITH UPPER RIGHT QUADRANT,CIRCLE WITH UPPER LEFT QUADRANT",
      "CIRCLE WITH LOWER LEFT QUADRANT,CIRCLE WITH LOWER RIGHT QUADRANT",
      "CIRCLE WITH UPPER RIGHT QUADRANT,,,,MEDIUM SQUARE,,MEDIUM SMALL SQUARE,,,,,,,,,STAR,,,,,",
      ",,,TELEPHONE,,,,,,,SHOGI PIECE,,,,,,LEFT POINTING INDEX,UP POINTING INDEX",
      "RIGHT POINTING INDEX,DOWN POINTING INDEX,,,,,,,,,,,,,,,,,,,,,,,,,,FROWNING FACE",
      "SMILING FACE,,SUN WITH RAYS,,,,,,,,,,,,,,,,,,,,,,,,CHESS KING,CHESS QUEEN,CHESS ROOK",
      "CHESS BISHOP,CHESS KNIGHT,CHESS PAWN,,,,,,,,HEART SUIT,DIAMOND SUIT,,SPADE SUIT,,",
      "CLUB SUIT,,,,,,,,,,,,,,,,,,,,,,,,,,,,,,,CIRCLE WITH DOT RIGHT,CIRCLE WITH TWO DOTS,,,,,,",
      ",,FLAG"]⟩,
    ⟨0x25A4, "SQUARE ", ["WITH HORIZONTAL FILL,WITH VERTICAL FILL",
      "WITH ORTHOGONAL CROSSHATCH FILL,WITH UPPER LEFT TO LOWER RIGHT FILL",
      "WITH UPPER RIGHT TO LOWER LEFT FILL,WITH DIAGONAL CROSSHATCH FILL"]⟩,
    ⟨0x25C9, "", ["FISHEYE,LOZENGE,,DOTTED CIRCLE,,BULLSEYE,,,,,,,,LEFT HALF BLACK CIRCLE",
      "RIGHT HALF BLACK CIRCLE,INVERSE BULLET,INVERSE WHITE CIRCLE",
      "UPPER HALF INVERSE WHITE CIRCLE,LOWER HALF INVERSE WHITE CIRCLE",
      "UPPER LEFT QUADRANT CIRCULAR ARC,UPPER RIGHT QUADRANT CIRCULAR ARC",
      "LOWER RIGHT QUADRANT CIRCULAR ARC,LOWER LEFT QUADRANT CIRCULAR ARC,UPPER HALF CIRCLE",
      "LOWER HALF CIRCLE,,,,,,SQUARE WITH LEFT HALF BLACK,SQUARE WITH RIGHT HALF BLACK",
      "SQUARE WITH UPPER LEFT DIAGONAL HALF BLACK,SQUARE WITH LOWER RIGHT DIAGONAL HALF BLACK,,",
      "UP-POINTING TRIANGLE WITH LEFT HALF BLACK,UP-POINTING TRIANGLE WITH RIGHT HALF BLACK",
      "LARGE CIRCLE,,,,,,,,,UPPER LEFT TRIANGLE,UPPER RIGHT TRIANGLE,LOWER LEFT TRIANGLE,,,,",
      "LOWER RIGHT TRIANGLE,,CLOUD,UMBRELLA,SNOWMAN,COMET,,,LIGHTNING,THUNDERSTORM,SUN",
      "ASCENDING NODE,DESCENDING NODE,CONJUNCTION,OPPOSITION,,,BALLOT BOX,BALLOT BOX WITH CHECK",
      "BALLOT BOX WITH X,SALTIRE,UMBRELLA WITH RAIN DROPS,HOT BEVERAGE,,,SHAMROCK",
      "REVERSED ROTATED FLORAL HEART BULLET,,,,,,,SKULL AND CROSSBONES,CAUTION SIGN",
      "RADIOACTIVE SIGN,BIOHAZARD SIGN,CADUCEUS,ANKH,ORTHODOX CROSS,CHI RHO,CROSS OF LORRAINE",
      "CROSS OF JERUSALEM,STAR AND CRESCENT,FARSI SYMBOL,ADI SHAKTI,HAMMER AND SICKLE",
      "PEACE SYMBOL,YIN YANG,,,,,,,,,WHEEL OF DHARMA,,,,,FIRST QUARTER MOON,LAST QUARTER MOON",
      "MERCURY,FEMALE SIGN,EARTH,MALE SIGN,JUPITER,SATURN,URANUS,NEPTUNE,PLUTO,ARIES,TAURUS",
      "GEMINI,CANCER,LEO,VIRGO,LIBRA,SCORPIUS,SAGITTARIUS,CAPRICORN,AQUARIUS,PISCES,,,,,,,,,,,,",
      ",,,,,,,,HOT SPRINGS,QUARTER NOTE,EIGHTH NOTE,BEAMED EIGHTH NOTES,BEAMED SIXTEENTH NOTES",
      "MUSIC FLAT SIGN,MUSIC NATURAL SIGN,MUSIC SHARP SIGN,WEST SYRIAC CROSS,EAST SYRIAC CROSS",
      "UNIVERSAL RECYCLING SYMBOL,,,,,,,,,,RECYCLED PAPER SYMBOL",
      "PARTIALLY-RECYCLED PAPER SYMBOL,PERMANENT PAPER SIGN,WHEELCHAIR SYMBOL,DIE FACE-1",
      "DIE FACE-2,DIE FACE-3,DIE FACE-4,DIE FACE-5,DIE FACE-6,,,,,MONOGRAM FOR YANG",
      "MONOGRAM FOR YIN,DIGRAM FOR GREATER YANG,DIGRAM FOR LESSER YIN,DIGRAM FOR LESSER YANG",
      "DIGRAM FOR GREATER YIN,,,HAMMER AND PICK,ANCHOR,CROSSED SWORDS,STAFF OF AESCULAPIUS",
      "SCALES,ALEMBIC,FLOWER,GEAR,STAFF OF HERMES,ATOM SYMBOL,FLEUR-DE-LIS,OUTLINED WHITE STAR",
      "THREE LINES CONVERGING RIGHT,THREE LINES CONVERGING LEFT,WARNING SIGN,HIGH VOLTAGE SIGN",
      "DOUBLED FEMALE SIGN,DOUBLED MALE SIGN,INTERLOCKED FEMALE AND MALE SIGN",
      "MALE AND FEMALE SIGN,MALE WITH STROKE SIGN,MALE WITH STROKE AND MALE AND FEMALE SIGN",
      "VERTICAL MALE WITH STROKE SIGN,HORIZONTAL MALE WITH STROKE SIGN,MEDIUM WHITE CIRCLE",
      "MEDIUM BLACK CIRCLE,MEDIUM SMALL WHITE CIRCLE,MARRIAGE SYMBOL,DIVORCE SYMBOL",
      "UNMARRIED PARTNERSHIP SYMBOL,COFFIN,FUNERAL URN,NEUTER,CERES,PALLAS,JUNO,VESTA,CHIRON",
      "BLACK MOON LILITH,SEXTILE,SEMISEXTILE,QUINCUNX,SESQUIQUADRATE,SOCCER BALL,BASEBALL",
      "SQUARED KEY,WHITE DRAUGHTS MAN,WHITE DRAUGHTS KING,BLACK DRAUGHTS MAN",
      "BLACK DRAUGHTS KING,SNOWMAN WITHOUT SNOW,SUN BEHIND CLOUD,RAIN,BLACK SNOWMAN",
      "THUNDER CLOUD AND RAIN,TURNED WHITE SHOGI PIECE,TURNED BLACK SHOGI PIECE",
      "WHITE DIAMOND IN SQUARE,CROSSING LANES,DISABLED CAR,OPHIUCHUS,PICK,CAR SLIDING",
      "HELMET WITH WHITE CROSS,CIRCLED CROSSING LANES,CHAINS,NO ENTRY",
      "ALTERNATE ONE-WAY LEFT WAY TRAFFIC,BLACK TWO-WAY LEFT WAY TRAFFIC",
      "WHITE TWO-WAY LEFT WAY TRAFFIC,BLACK LEFT LANE MERGE,WHITE LEFT LANE MERGE",
      "DRIVE SLOW SIGN,HEAVY WHITE DOWN-POINTING TRIANGLE,LEFT CLOSED ENTRY,SQUARED SALTIRE",
      "FALLING DIAGONAL IN WHITE CIRCLE IN BLACK SQUARE,BLACK TRUCK,RESTRICTED LEFT ENTRY-1",
      "RESTRICTED LEFT ENTRY-2,ASTRONOMICAL SYMBOL FOR URANUS",
      "HEAVY CIRCLE WITH STROKE AND TWO DOTS ABOVE,PENTAGRAM,RIGHT-HANDED INTERLACED PENTAGRAM",
      "LEFT-HANDED INTERLACED PENTAGRAM,INVERTED PENTAGRAM,BLACK CROSS ON SHIELD,SHINTO SHRINE",
      "CHURCH,CASTLE,HISTORIC SITE,GEAR WITHOUT HUB,GEAR WITH HANDLES,MAP SYMBOL FOR LIGHTHOUSE",
      "MOUNTAIN,UMBRELLA ON GROUND,FOUNTAIN,FLAG IN HOLE,FERRY,SAILBOAT,SQUARE FOUR CORNERS",
      "SKIER,ICE SKATE,PERSON WITH BALL,TENT,JAPANESE BANK SYMBOL,HEADSTONE GRAVEYARD SYMBOL",
      "FUEL PUMP,CUP ON BLACK SQUARE,WHITE FLAG WITH HORIZONTAL MIDDLE BLACK STRIPE",
      "BLACK SAFETY SCISSORS,UPPER BLADE SCISSORS,BLACK SCISSORS,LOWER BLADE SCISSORS",
      "WHITE SCISSORS,WHITE HEAVY CHECK MARK,TELEPHONE LOCATION SIGN,TAPE DRIVE,AIRPLANE",
      "ENVELOPE,RAISED FIST,RAISED HAND,VICTORY HAND,WRITING HAND,LOWER RIGHT PENCIL,PENCIL",
      "UPPER RIGHT PENCIL,WHITE NIB,BLACK NIB,CHECK MARK,,MULTIPLICATION X,,BALLOT X,",
      "OUTLINED GREEK CROSS,,OPEN CENTRE CROSS,,LATIN CROSS,SHADOWED WHITE LATIN CROSS",
      "OUTLINED LATIN CROSS,MALTESE CROSS,STAR OF DAVID,FOUR TEARDROP-SPOKED ASTERISK",
      "FOUR BALLOON-SPOKED ASTERISK,,FOUR CLUB-SPOKED ASTERISK,BLACK FOUR POINTED STAR",
      "WHITE FOUR POINTED STAR,SPARKLES,STRESS OUTLINED WHITE STAR,CIRCLED WHITE STAR",
      "OPEN CENTRE BLACK STAR,BLACK CENTRE WHITE STAR,OUTLINED BLACK STAR,,PINWHEEL STAR",
      "SHADOWED WHITE STAR,,OPEN CENTRE ASTERISK,EIGHT SPOKED ASTERISK,EIGHT POINTED BLACK STAR",
      "EIGHT POINTED PINWHEEL STAR,SIX POINTED BLACK STAR,EIGHT POINTED RECTILINEAR BLACK STAR,",
      "TWELVE POINTED BLACK STAR,SIXTEEN POINTED ASTERISK,TEARDROP-SPOKED ASTERISK",
      "OPEN CENTRE TEARDROP-SPOKED ASTERISK,,SIX PETALLED BLACK AND WHITE FLORETTE",
      "BLACK FLORETTE,WHITE FLORETTE,EIGHT PETALLED OUTLINED BLACK FLORETTE",
      "CIRCLED OPEN CENTRE EIGHT POINTED STAR,,SNOWFLAKE,TIGHT TRIFOLIATE SNOWFLAKE,,SPARKLE,",
      "BALLOON-SPOKED ASTERISK,EIGHT TEARDROP-SPOKED PROPELLER ASTERISK,,CROSS MARK",
      "SHADOWED WHITE CIRCLE,NEGATIVE SQUARED CROSS MARK,LOWER RIGHT DROP-SHADOWED WHITE SQUARE",
      "UPPER RIGHT DROP-SHADOWED WHITE SQUARE,LOWER RIGHT SHADOWED WHITE SQUARE",
      "UPPER RIGHT SHADOWED WHITE SQUARE,BLACK QUESTION MARK ORNAMENT",
      "WHITE QUESTION MARK ORNAMENT,WHITE EXCLAMATION MARK ORNAMENT,BLACK DIAMOND MINUS WHITE X",
      ",LIGHT VERTICAL BAR,,,,,,,,,CURVED STEM PARAGRAPH SIGN ORNAMENT,,,",
      "ROTATED HEAVY BLACK HEART BULLET,FLORAL HEART,ROTATED FLORAL HEART BULLET,,,,,,,,,,",
      "LIGHT LEFT TORTOISE SHELL BRACKET ORNAMENT,LIGHT RIGHT TORTOISE SHELL BRACKET ORNAMENT"]⟩,
    ⟨0x25CD, "CIRCLE ", ["WITH VERTICAL FILL,,,WITH LEFT HALF BLACK,WITH RIGHT HALF BLACK",
      "WITH LOWER HALF BLACK,WITH UPPER HALF BLACK,WITH UPPER RIGHT QUADRANT BLACK",
      "WITH ALL BUT UPPER LEFT QUADRANT BLACK"]⟩,
    ⟨0x2630, "TRIGRAM ", ["FOR HEAVEN,FOR LAKE,FOR FIRE,FOR THUNDER,FOR WIND,FOR WATER",
      "FOR MOUNTAIN,FOR EARTH"]⟩,
    ⟨0x2673, "RECYCLING SYMBOL ", ["FOR TYPE-1 PLASTICS,FOR TYPE-2 PLASTICS,FOR TYPE-3 PLASTICS",
      "FOR TYPE-4 PLASTICS,FOR TYPE-5 PLASTICS,FOR TYPE-6 PLASTICS,FOR TYPE-7 PLASTICS",
      "FOR GENERIC MATERIALS"]⟩,
    ⟨0x2714, "HEAVY ", ["CHECK MARK,,MULTIPLICATION X,,BALLOT X,,GREEK CROSS,,OPEN CENTRE CROSS",
      ",,,,,,,FOUR BALLOON-SPOKED ASTERISK,,,,,,,,,,OUTLINED BLACK STAR,,,ASTERISK,,,,,,",
      "EIGHT POINTED RECTILINEAR BLACK STAR,,,,,TEARDROP-SPOKED ASTERISK,,,,,",
      "TEARDROP-SPOKED PINWHEEL ASTERISK,,,CHEVRON SNOWFLAKE,,SPARKLE,,",
      "EIGHT TEARDROP-SPOKED PROPELLER ASTERISK,,,,,,,,,,,,EXCLAMATION MARK SYMBOL,,",
      "VERTICAL BAR,SINGLE TURNED COMMA QUOTATION MARK ORNAMENT",
      "SINGLE COMMA QUOTATION MARK ORNAMENT,DOUBLE TURNED COMMA QUOTATION MARK ORNAMENT",
      "DOUBLE COMMA QUOTATION MARK ORNAMENT,LOW SINGLE COMMA QUOTATION MARK ORNAMENT",
      "LOW DOUBLE COMMA QUOTATION MARK ORNAMENT,,EXCLAMATION MARK ORNAMENT",
      "HEART EXCLAMATION MARK ORNAMENT,BLACK HEART,,,,,,,,,",
      "LEFT-POINTING ANGLE QUOTATION MARK ORNAMENT,RIGHT-POINTING ANGLE QUOTATION MARK ORNAMENT",
      "LEFT-POINTING ANGLE BRACKET ORNAMENT,RIGHT-POINTING ANGLE BRACKET ORNAMENT"]⟩,
    ⟨0x2759, "MEDIUM ", ["VERTICAL BAR,,,,,,,,,,,,,,,LEFT PARENTHESIS ORNAMENT",
      "RIGHT PARENTHESIS ORNAMENT,FLATTENED LEFT PARENTHESIS ORNAMENT",
      "FLATTENED RIGHT PARENTHESIS ORNAMENT,LEFT-POINTING ANGLE BRACKET ORNAMENT",
      "RIGHT-POINTING ANGLE BRACKET ORNAMENT,,,,,,,LEFT CURLY BRACKET ORNAMENT",
      "RIGHT CURLY BRACKET ORNAMENT"]⟩,
    ⟨0x2776, "DINGBAT NEGATIVE CIRCLED ", ["DIGIT ONE,DIGIT TWO,DIGIT THREE,DIGIT FOUR",
      "DIGIT FIVE,DIGIT SIX,DIGIT SEVEN,DIGIT EIGHT,DIGIT NINE,NUMBER TEN,,,,,,,,,,",
      "SANS-SERIF DIGIT ONE,SANS-SERIF DIGIT TWO,SANS-SERIF DIGIT THREE,SANS-SERIF DIGIT FOUR",
      "SANS-SERIF DIGIT FIVE,SANS-SERIF DIGIT SIX,SANS-SERIF DIGIT SEVEN,SANS-SERIF DIGIT EIGHT",
      "SANS-SERIF DIGIT NINE,SANS-SERIF NUMBER TEN"]⟩,
    ⟨0x2780, "DINGBAT CIRCLED SANS-SERIF ", ["DIGIT ONE,DIGIT TWO,DIGIT THREE,DIGIT FOUR",
      "DIGIT FIVE,DIGIT SIX,DIGIT SEVEN,DIGIT EIGHT,DIGIT NINE,NUMBER TEN"]⟩,
    ⟨0x2794, "HEAVY ", ["WIDE-HEADED RIGHTWARDS ARROW,PLUS SIGN,MINUS SIGN,DIVISION SIGN",
      "SOUTH EAST ARROW,RIGHTWARDS ARROW,NORTH EAST ARROW,,ROUND-TIPPED RIGHTWARDS ARROW,",
      "TRIANGLE-HEADED RIGHTWARDS ARROW,,DASHED TRIANGLE-HEADED RIGHTWARDS ARROW,,,,",
      "BLACK CURVED DOWNWARDS AND RIGHTWARDS ARROW,BLACK CURVED UPWARDS AND RIGHTWARDS ARROW,",
      "CONCAVE-POINTED BLACK RIGHTWARDS ARROW,,,,,LOWER RIGHT-SHADOWED WHITE RIGHTWARDS ARROW",
      "UPPER RIGHT-SHADOWED WHITE RIGHTWARDS ARROW,,,,,,,,,BLACK-FEATHERED SOUTH EAST ARROW",
      "BLACK-FEATHERED RIGHTWARDS ARROW,BLACK-FEATHERED NORTH EAST ARROW,",
      "TEARDROP-SHANKED RIGHTWARDS ARROW,,WEDGE-TAILED RIGHTWARDS ARROW"]⟩,
    ⟨0x279B, "", ["DRAFTING POINT RIGHTWARDS ARROW,,TRIANGLE-HEADED RIGHTWARDS ARROW,",
      "DASHED TRIANGLE-HEADED RIGHTWARDS ARROW,,BLACK RIGHTWARDS ARROW",
      "THREE-D TOP-LIGHTED RIGHTWARDS ARROWHEAD,THREE-D BOTTOM-LIGHTED RIGHTWARDS ARROWHEAD",
      "BLACK RIGHTWARDS ARROWHEAD,,,SQUAT BLACK RIGHTWARDS ARROW,",
      "RIGHT-SHADED WHITE RIGHTWARDS ARROW,LEFT-SHADED WHITE RIGHTWARDS ARROW",
      "BACK-TILTED SHADOWED WHITE RIGHTWARDS ARROW,FRONT-TILTED SHADOWED WHITE RIGHTWARDS ARROW",
      ",,NOTCHED LOWER RIGHT-SHADOWED WHITE RIGHTWARDS ARROW,CURLY LOOP",
      "NOTCHED UPPER RIGHT-SHADOWED WHITE RIGHTWARDS ARROW,CIRCLED HEAVY WHITE RIGHTWARDS ARROW",
      "WHITE-FEATHERED RIGHTWARDS ARROW,BLACK-FEATHERED SOUTH EAST ARROW",
      "BLACK-FEATHERED RIGHTWARDS ARROW,BLACK-FEATHERED NORTH EAST ARROW,,,",
      "TEARDROP-BARBED RIGHTWARDS ARROW,,WEDGE-TAILED RIGHTWARDS ARROW,",
      "OPEN-OUTLINED RIGHTWARDS ARROW,DOUBLE CURLY LOOP,THREE DIMENSIONAL ANGLE",
      "WHITE TRIANGLE CONTAINING SMALL WHITE TRIANGLE,PERPENDICULAR,OPEN SUBSET,OPEN SUPERSET",
      "LEFT S-SHAPED BAG DELIMITER,RIGHT S-SHAPED BAG DELIMITER,OR WITH DOT INSIDE",
      "REVERSE SOLIDUS PRECEDING SUBSET,SUPERSET PRECEDING SOLIDUS",
      "VERTICAL BAR WITH HORIZONTAL STROKE,,LONG DIVISION,,SQUARED LOGICAL AND",
      "SQUARED LOGICAL OR,WHITE DIAMOND WITH CENTRED DOT,AND WITH DOT",
      "ELEMENT OF OPENING UPWARDS,LOWER RIGHT CORNER WITH DOT,UPPER LEFT CORNER WITH DOT",
      "LEFT OUTER JOIN,RIGHT OUTER JOIN,FULL OUTER JOIN,LARGE UP TACK,LARGE DOWN TACK",
      "LEFT AND RIGHT DOUBLE TURNSTILE,LEFT AND RIGHT TACK,LEFT MULTIMAP,LONG RIGHT TACK",
      "LONG LEFT TACK,UP TACK WITH CIRCLE ABOVE,LOZENGE DIVIDED BY HORIZONTAL RULE",
      "WHITE CONCAVE-SIDED DIAMOND,WHITE CONCAVE-SIDED DIAMOND WITH LEFTWARDS TICK",
      "WHITE CONCAVE-SIDED DIAMOND WITH RIGHTWARDS TICK,WHITE SQUARE WITH LEFTWARDS TICK",
      "WHITE SQUARE WITH RIGHTWARDS TICK,,,,,,,,,,,UPWARDS QUADRUPLE ARROW",
      "DOWNWARDS QUADRUPLE ARROW,ANTICLOCKWISE GAPPED CIRCLE ARROW",
      "CLOCKWISE GAPPED CIRCLE ARROW,RIGHT ARROW WITH CIRCLED PLUS,LONG LEFTWARDS ARROW,",
      "LONG LEFT RIGHT ARROW,LONG LEFTWARDS DOUBLE ARROW,,LONG LEFT RIGHT DOUBLE ARROW",
      "LONG LEFTWARDS ARROW FROM BAR,,LONG LEFTWARDS DOUBLE ARROW FROM BAR,,",
      "BRAILLE PATTERN BLANK"]⟩,
    ⟨0x27CB, "MATHEMATICAL ", ["RISING DIAGONAL,,FALLING DIAGONAL,,,,,,,,,,,,,,,,,,,,,,,,",
      "LEFT WHITE SQUARE BRACKET,RIGHT WHITE SQUARE BRACKET,LEFT ANGLE BRACKET",
      "RIGHT ANGLE BRACKET,LEFT DOUBLE ANGLE BRACKET,RIGHT DOUBLE ANGLE BRACKET",
      "LEFT WHITE TORTOISE SHELL BRACKET,RIGHT WHITE TORTOISE SHELL BRACKET",
      "LEFT FLATTENED PARENTHESIS,RIGHT FLATTENED PARENTHESIS"]⟩,
    ⟨0x27F6, "LONG RIGHTWARDS ", ["ARROW,,,DOUBLE ARROW,,,ARROW FROM BAR,,DOUBLE ARROW FROM BAR",
      "SQUIGGLE ARROW"]⟩,
    ⟨0x2801, "BRAILLE PATTERN DOTS-", ["1,2,12,3,13,23,123,4,14,24,124,34,134,234,1234,5,15,25",
      "125,35,135,235,1235,45,145,245,1245,345,1345,2345,12345,6,16,26,126,36,136,236,1236,46",
      "146,246,1246,346,1346,2346,12346,56,156,256,1256,356,1356,2356,12356,456,1456,2456,12456",
      "3456,13456,23456,123456,7,17,27,127,37,137,237,1237,47,147,247,1247,347,1347,2347,12347",
      "57,157,257,1257,357,1357,2357,12357,457,1457,2457,12457,3457,13457,23457,123457,67,167",
      "267,1267,367,1367,2367,12367,467,1467,2467,12467,3467,13467,23467,123467,567,1567,2567",
      "12567,3567,13567,23567,123567,4567,14567,24567,124567,34567,134567,234567,1234567,8,18",
      "28,128,38,138,238,1238,48,148,248,1248,348,1348,2348,12348,58,158,258,1258,358,1358,2358",
      "12358,458,1458,2458,12458,3458,13458,23458,123458,68,168,268,1268,368,1368,2368,12368",
      "468,1468,2468,12468,3468,13468,23468,123468,568,1568,2568,12568,3568,13568,23568,123568",
      "4568,14568,24568,124568,34568,134568,234568,1234568,78,178,278,1278,378,1378,2378,12378",
      "478,1478,2478,12478,3478,13478,23478,123478,578,1578,2578,12578,3578,13578,23578,123578",
      "4578,14578,24578,124578,34578,134578,234578,1234578,678,1678,2678,12678,3678,13678,23678",
      "123678,4678,14678,24678,124678,34678,134678,234678,1234678,5678,15678,25678,125678,35678",
      "135678,235678,1235678,45678,145678,245678,1245678,345678,1345678,2345678,12345678"]⟩,
    ⟨0x2900, "RIGHTWARDS ", ["TWO-HEADED ARROW WITH VERTICAL STROKE",
      "TWO-HEADED ARROW WITH DOUBLE VERTICAL STROKE,,DOUBLE ARROW WITH VERTICAL STROKE,",
      "TWO-HEADED ARROW FROM BAR,,DOUBLE ARROW FROM BAR,,,,,,DOUBLE DASH ARROW,",
      "TRIPLE DASH ARROW,TWO-HEADED TRIPLE DASH ARROW,ARROW WITH DOTTED STEM,,",
      "ARROW WITH TAIL WITH VERTICAL STROKE,ARROW WITH TAIL WITH DOUBLE VERTICAL STROKE",
      "TWO-HEADED ARROW WITH TAIL,TWO-HEADED ARROW WITH TAIL WITH VERTICAL STROKE",
      "TWO-HEADED ARROW WITH TAIL WITH DOUBLE VERTICAL STROKE,,ARROW-TAIL,,DOUBLE ARROW-TAIL,",
      "ARROW TO BLACK DIAMOND,,ARROW FROM BAR TO BLACK DIAMOND,,,,,,,,,,,,,,,,,,,,,,,,,,,,,,,,,",
      "ARROW ABOVE SHORT LEFTWARDS ARROW,,,ARROW WITH PLUS BELOW,,ARROW THROUGH X"]⟩,
    ⟨0x2902, "LEFTWARDS ", ["DOUBLE ARROW WITH VERTICAL STROKE,,,,DOUBLE ARROW FROM BAR,,,,,",
      "DOUBLE DASH ARROW,,TRIPLE DASH ARROW,,,,,,,,,,,ARROW-TAIL,,DOUBLE ARROW-TAIL,",
      "ARROW TO BLACK DIAMOND,,ARROW FROM BAR TO BLACK DIAMOND,,,,,,,,,,,,,,,,,,,,,,,,,,,,,,,,,",
      ",,ARROW ABOVE SHORT RIGHTWARDS ARROW,,,ARROW WITH PLUS BELOW"]⟩,
    ⟨0x2904, "", ["LEFT RIGHT DOUBLE ARROW WITH VERTICAL STROKE,,,",
      "DOWNWARDS ARROW WITH HORIZONTAL STROKE,UPWARDS ARROW WITH HORIZONTAL STROKE",
      "UPWARDS TRIPLE ARROW,DOWNWARDS TRIPLE ARROW,,,,,,,UPWARDS ARROW TO BAR",
      "DOWNWARDS ARROW TO BAR,,,,,,,,,,,,,,,,,,SOUTH EAST ARROW WITH HOOK",
      "SOUTH WEST ARROW WITH HOOK,,,SOUTH EAST ARROW AND SOUTH WEST ARROW",
      "SOUTH WEST ARROW AND NORTH WEST ARROW,RISING DIAGONAL CROSSING FALLING DIAGONAL",
      "FALLING DIAGONAL CROSSING RISING DIAGONAL,SOUTH EAST ARROW CROSSING NORTH EAST ARROW,",
      "FALLING DIAGONAL CROSSING NORTH EAST ARROW,RISING DIAGONAL CROSSING SOUTH EAST ARROW,,",
      "WAVE ARROW POINTING DIRECTLY RIGHT,ARROW POINTING RIGHTWARDS THEN CURVING UPWARDS",
      "ARROW POINTING RIGHTWARDS THEN CURVING DOWNWARDS",
      "ARROW POINTING DOWNWARDS THEN CURVING LEFTWARDS",
      "ARROW POINTING DOWNWARDS THEN CURVING RIGHTWARDS,RIGHT-SIDE ARC CLOCKWISE ARROW",
      "LEFT-SIDE ARC ANTICLOCKWISE ARROW,TOP ARC ANTICLOCKWISE ARROW",
      "BOTTOM ARC ANTICLOCKWISE ARROW,TOP ARC CLOCKWISE ARROW WITH MINUS",
      "TOP ARC ANTICLOCKWISE ARROW WITH PLUS,LOWER RIGHT SEMICIRCULAR CLOCKWISE ARROW",
      "LOWER LEFT SEMICIRCULAR ANTICLOCKWISE ARROW,ANTICLOCKWISE CLOSED CIRCLE ARROW",
      "CLOCKWISE CLOSED CIRCLE ARROW,,,SHORT RIGHTWARDS ARROW ABOVE LEFTWARDS ARROW,,,",
      "LEFT RIGHT ARROW THROUGH SMALL CIRCLE,UPWARDS TWO-HEADED ARROW FROM SMALL CIRCLE",
      "LEFT BARB UP RIGHT BARB DOWN HARPOON,LEFT BARB DOWN RIGHT BARB UP HARPOON",
      "UP BARB RIGHT DOWN BARB LEFT HARPOON,UP BARB LEFT DOWN BARB RIGHT HARPOON",
      "LEFT BARB UP RIGHT BARB UP HARPOON,UP BARB RIGHT DOWN BARB RIGHT HARPOON",
      "LEFT BARB DOWN RIGHT BARB DOWN HARPOON,UP BARB LEFT DOWN BARB LEFT HARPOON,,",
      "UPWARDS HARPOON WITH BARB RIGHT TO BAR,DOWNWARDS HARPOON WITH BARB RIGHT TO BAR,,",
      "UPWARDS HARPOON WITH BARB LEFT TO BAR,DOWNWARDS HARPOON WITH BARB LEFT TO BAR,,",
      "UPWARDS HARPOON WITH BARB RIGHT FROM BAR,DOWNWARDS HARPOON WITH BARB RIGHT FROM BAR,,",
      "UPWARDS HARPOON WITH BARB LEFT FROM BAR,DOWNWARDS HARPOON WITH BARB LEFT FROM BAR,",
      "UPWARDS HARPOON WITH BARB LEFT BESIDE UPWARDS HARPOON WITH BARB RIGHT,",
      "DOWNWARDS HARPOON WITH BARB LEFT BESIDE DOWNWARDS HARPOON WITH BARB RIGHT,,,,,,,,",
      "UPWARDS HARPOON WITH BARB LEFT BESIDE DOWNWARDS HARPOON WITH BARB RIGHT",
      "DOWNWARDS HARPOON WITH BARB LEFT BESIDE UPWARDS HARPOON WITH BARB RIGHT",
      "RIGHT DOUBLE ARROW WITH ROUNDED HEAD,EQUALS SIGN ABOVE RIGHTWARDS ARROW",
      "TILDE OPERATOR ABOVE RIGHTWARDS ARROW,LEFTWARDS ARROW ABOVE TILDE OPERATOR",
      "RIGHTWARDS ARROW ABOVE TILDE OPERATOR,RIGHTWARDS ARROW ABOVE ALMOST EQUAL TO",
      "LESS-THAN ABOVE LEFTWARDS ARROW,LEFTWARDS ARROW THROUGH LESS-THAN",
      "GREATER-THAN ABOVE RIGHTWARDS ARROW,SUBSET ABOVE RIGHTWARDS ARROW",
      "LEFTWARDS ARROW THROUGH SUBSET,SUPERSET ABOVE LEFTWARDS ARROW,LEFT FISH TAIL",
      "RIGHT FISH TAIL,UP FISH TAIL,DOWN FISH TAIL,TRIPLE VERTICAL BAR DELIMITER,,",
      "LEFT WHITE CURLY BRACKET,RIGHT WHITE CURLY BRACKET,LEFT WHITE PARENTHESIS",
      "RIGHT WHITE PARENTHESIS,,,,,LEFT SQUARE BRACKET WITH UNDERBAR",
      "RIGHT SQUARE BRACKET WITH UNDERBAR,LEFT SQUARE BRACKET WITH TICK IN TOP CORNER",
      "RIGHT SQUARE BRACKET WITH TICK IN BOTTOM CORNER",
      "LEFT SQUARE BRACKET WITH TICK IN BOTTOM CORNER",
      "RIGHT SQUARE BRACKET WITH TICK IN TOP CORNER,LEFT ANGLE BRACKET WITH DOT",
      "RIGHT ANGLE BRACKET WITH DOT,LEFT ARC LESS-THAN BRACKET,RIGHT ARC GREATER-THAN BRACKET",
      "DOUBLE LEFT ARC GREATER-THAN BRACKET,DOUBLE RIGHT ARC LESS-THAN BRACKET",
      "LEFT BLACK TORTOISE SHELL BRACKET,RIGHT BLACK TORTOISE SHELL BRACKET,DOTTED FENCE",
      "VERTICAL ZIGZAG LINE,,RIGHT ANGLE VARIANT WITH SQUARE,MEASURED RIGHT ANGLE WITH DOT",
      "ANGLE WITH S INSIDE,ACUTE ANGLE,SPHERICAL ANGLE OPENING LEFT,SPHERICAL ANGLE OPENING UP",
      "TURNED ANGLE,REVERSED ANGLE,ANGLE WITH UNDERBAR,REVERSED ANGLE WITH UNDERBAR",
      "OBLIQUE ANGLE OPENING UP,OBLIQUE ANGLE OPENING DOWN,,,,,,,,,REVERSED EMPTY SET",
      "EMPTY SET WITH OVERBAR,EMPTY SET WITH SMALL CIRCLE ABOVE",
      "EMPTY SET WITH RIGHT ARROW ABOVE,EMPTY SET WITH LEFT ARROW ABOVE",
      "CIRCLE WITH HORIZONTAL BAR,,,,",
      "CIRCLE DIVIDED BY HORIZONTAL BAR AND TOP HALF DIVIDED BY VERTICAL BAR",
      "CIRCLE WITH SUPERIMPOSED X,,UP ARROW THROUGH CIRCLE,,,,",
      "CIRCLE WITH SMALL CIRCLE TO THE RIGHT,CIRCLE WITH TWO HORIZONTAL STROKES TO THE RIGHT,,,",
      ",,TWO JOINED SQUARES,TRIANGLE WITH DOT ABOVE,TRIANGLE WITH UNDERBAR,S IN TRIANGLE",
      "TRIANGLE WITH SERIFS AT BOTTOM,RIGHT TRIANGLE ABOVE LEFT TRIANGLE",
      "LEFT TRIANGLE BESIDE VERTICAL BAR,VERTICAL BAR BESIDE RIGHT TRIANGLE",
      "BOWTIE WITH LEFT HALF BLACK,BOWTIE WITH RIGHT HALF BLACK,BLACK BOWTIE",
      "TIMES WITH LEFT HALF BLACK,TIMES WITH RIGHT HALF BLACK,WHITE HOURGLASS,BLACK HOURGLASS",
      "LEFT WIGGLY FENCE,RIGHT WIGGLY FENCE,LEFT DOUBLE WIGGLY FENCE,RIGHT DOUBLE WIGGLY FENCE",
      "INCOMPLETE INFINITY,TIE OVER INFINITY,INFINITY NEGATED WITH VERTICAL BAR",
      "DOUBLE-ENDED MULTIMAP,SQUARE WITH CONTOURED OUTLINE,INCREASES AS,SHUFFLE PRODUCT",
      "EQUALS SIGN AND SLANTED PARALLEL,EQUALS SIGN AND SLANTED PARALLEL WITH TILDE ABOVE",
      "IDENTICAL TO AND SLANTED PARALLEL,GLEICH STARK,THERMODYNAMIC",
      "DOWN-POINTING TRIANGLE WITH LEFT HALF BLACK,DOWN-POINTING TRIANGLE WITH RIGHT HALF BLACK",
      "BLACK DIAMOND WITH DOWN ARROW,BLACK LOZENGE,WHITE CIRCLE WITH DOWN ARROW",
      "BLACK CIRCLE WITH DOWN ARROW,,,,,,,RULE-DELAYED,REVERSE SOLIDUS OPERATOR",
      "SOLIDUS WITH OVERBAR,REVERSE SOLIDUS WITH HORIZONTAL STROKE,BIG SOLIDUS",
      "BIG REVERSE SOLIDUS,DOUBLE PLUS,TRIPLE PLUS,LEFT-POINTING CURVED ANGLE BRACKET",
      "RIGHT-POINTING CURVED ANGLE BRACKET,TINY,MINY,N-ARY CIRCLED DOT OPERATOR",
      "N-ARY CIRCLED PLUS OPERATOR,N-ARY CIRCLED TIMES OPERATOR,N-ARY UNION OPERATOR WITH DOT",
      "N-ARY UNION OPERATOR WITH PLUS,N-ARY SQUARE INTERSECTION OPERATOR",
      "N-ARY SQUARE UNION OPERATOR,TWO LOGICAL AND OPERATOR,TWO LOGICAL OR OPERATOR",
      "N-ARY TIMES OPERATOR,MODULO TWO SUM,SUMMATION WITH INTEGRAL,QUADRUPLE INTEGRAL OPERATOR",
      "FINITE PART INTEGRAL,,,CIRCULATION FUNCTION,ANTICLOCKWISE INTEGRATION",
      "LINE INTEGRATION WITH RECTANGULAR PATH AROUND POLE",
      "LINE INTEGRATION WITH SEMICIRCULAR PATH AROUND POLE",
      "LINE INTEGRATION NOT INCLUDING THE POLE,,QUATERNION INTEGRAL OPERATOR,,,,,,,JOIN",
      "LARGE LEFT TRIANGLE OPERATOR,Z NOTATION SCHEMA COMPOSITION,Z NOTATION SCHEMA PIPING",
      "Z NOTATION SCHEMA PROJECTION,,,,,,,,MINUS SIGN WITH COMMA ABOVE",
      "MINUS SIGN WITH DOT BELOW,MINUS SIGN WITH FALLING DOTS,MINUS SIGN WITH RISING DOTS,,",
      "VECTOR OR CROSS PRODUCT,,,SEMIDIRECT PRODUCT WITH BOTTOM CLOSED,SMASH PRODUCT,,",
      "CIRCLED MULTIPLICATION SIGN WITH CIRCUMFLEX ACCENT,,CIRCLED DIVISION SIGN,",
      "MINUS SIGN IN TRIANGLE,,INTERIOR PRODUCT,RIGHTHAND INTERIOR PRODUCT",
      "Z NOTATION RELATIONAL COMPOSITION,AMALGAMATION OR COPRODUCT,,UNION WITH MINUS SIGN",
      "UNION WITH OVERBAR,,,UNION WITH LOGICAL OR,UNION ABOVE INTERSECTION,",
      "UNION ABOVE BAR ABOVE INTERSECTION,,UNION BESIDE AND JOINED WITH UNION,",
      "CLOSED UNION WITH SERIFS,CLOSED INTERSECTION WITH SERIFS,DOUBLE SQUARE INTERSECTION",
      "DOUBLE SQUARE UNION,CLOSED UNION WITH SERIFS AND SMASH PRODUCT,,,DOUBLE LOGICAL AND",
      "DOUBLE LOGICAL OR,TWO INTERSECTING LOGICAL AND,TWO INTERSECTING LOGICAL OR",
      "SLOPING LARGE OR,SLOPING LARGE AND,,,,,,,,,SMALL VEE WITH UNDERBAR,,",
      "Z NOTATION DOMAIN ANTIRESTRICTION,Z NOTATION RANGE ANTIRESTRICTION",
      "EQUALS SIGN WITH DOT BELOW,IDENTICAL WITH DOT ABOVE",
      "TRIPLE HORIZONTAL BAR WITH DOUBLE VERTICAL STROKE",
      "TRIPLE HORIZONTAL BAR WITH TRIPLE VERTICAL STROKE,TILDE OPERATOR WITH DOT ABOVE",
      "TILDE OPERATOR WITH RISING DOTS,SIMILAR MINUS SIMILAR,CONGRUENT WITH DOT ABOVE",
      "EQUALS WITH ASTERISK,ALMOST EQUAL TO WITH CIRCUMFLEX ACCENT",
      "APPROXIMATELY EQUAL OR EQUAL TO,EQUALS SIGN ABOVE PLUS SIGN,PLUS SIGN ABOVE EQUALS SIGN",
      "EQUALS SIGN ABOVE TILDE OPERATOR,DOUBLE COLON EQUAL,TWO CONSECUTIVE EQUALS SIGNS",
      "THREE CONSECUTIVE EQUALS SIGNS,EQUALS SIGN WITH TWO DOTS ABOVE AND TWO DOTS BELOW",
      "EQUIVALENT WITH FOUR DOTS ABOVE"]⟩,
    ⟨0x2921, "NORTH ", ["WEST AND SOUTH EAST ARROW,EAST AND SOUTH WEST ARROW",
      "WEST ARROW WITH HOOK,EAST ARROW WITH HOOK,,,WEST ARROW AND NORTH EAST ARROW",
      "EAST ARROW AND SOUTH EAST ARROW,,,,,,EAST ARROW CROSSING SOUTH EAST ARROW,,",
      "EAST ARROW CROSSING NORTH WEST ARROW,WEST ARROW CROSSING NORTH EAST ARROW"]⟩,
    ⟨0x2952, "LEFTWARDS HARPOON ", ["WITH BARB UP TO BAR,,,,WITH BARB DOWN TO BAR,,,",
      "WITH BARB UP FROM BAR,,,,WITH BARB DOWN FROM BAR,,,",
      "WITH BARB UP ABOVE LEFTWARDS HARPOON WITH BARB DOWN,,,",
      "WITH BARB UP ABOVE RIGHTWARDS HARPOON WITH BARB UP",
      "WITH BARB DOWN ABOVE RIGHTWARDS HARPOON WITH BARB DOWN,,,WITH BARB UP ABOVE LONG DASH",
      "WITH BARB DOWN BELOW LONG DASH"]⟩,
    ⟨0x2953, "RIGHTWARDS HARPOON ", ["WITH BARB UP TO BAR,,,,WITH BARB DOWN TO BAR,,,",
      "WITH BARB UP FROM BAR,,,,WITH BARB DOWN FROM BAR,,,,",
      "WITH BARB UP ABOVE RIGHTWARDS HARPOON WITH BARB DOWN,,,",
      "WITH BARB UP ABOVE LEFTWARDS HARPOON WITH BARB UP",
      "WITH BARB DOWN ABOVE LEFTWARDS HARPOON WITH BARB DOWN,,,WITH BARB UP ABOVE LONG DASH",
      "WITH BARB DOWN BELOW LONG DASH"]⟩,
    ⟨0x2981, "Z NOTATION ", ["SPOT,TYPE COLON,,,,,LEFT IMAGE BRACKET,RIGHT IMAGE BRACKET",
      "LEFT BINDING BRACKET,RIGHT BINDING BRACKET"]⟩,
    ⟨0x299B, "MEASURED ANGLE ", ["OPENING LEFT,,,,,,,,,,,,",
      "WITH OPEN ARM ENDING IN ARROW POINTING UP AND RIGHT",
      "WITH OPEN ARM ENDING IN ARROW POINTING UP AND LEFT",
      "WITH OPEN ARM ENDING IN ARROW POINTING DOWN AND RIGHT",
      "WITH OPEN ARM ENDING IN ARROW POINTING DOWN AND LEFT",
      "WITH OPEN ARM ENDING IN ARROW POINTING RIGHT AND UP",
      "WITH OPEN ARM ENDING IN ARROW POINTING LEFT AND UP",
      "WITH OPEN ARM ENDING IN ARROW POINTING RIGHT AND DOWN",
      "WITH OPEN ARM ENDING IN ARROW POINTING LEFT AND DOWN"]⟩,
    ⟨0x29B6, "CIRCLED ", ["VERTICAL BAR,PARALLEL,REVERSE SOLIDUS,PERPENDICULAR,,",
      "ANTICLOCKWISE-ROTATED DIVISION SIGN,,WHITE BULLET,BULLET,LESS-THAN,GREATER-THAN"]⟩,
    ⟨0x29C4, "SQUARED ", ["RISING DIAGONAL SLASH,FALLING DIAGONAL SLASH,ASTERISK,SMALL CIRCLE",
      "SQUARE"]⟩,
    ⟨0x29EE, "ERROR-BARRED ", ["WHITE SQUARE,BLACK SQUARE,WHITE DIAMOND,BLACK DIAMOND",
      "WHITE CIRCLE,BLACK CIRCLE"]⟩,
    ⟨0x2A0E, "INTEGRAL ", ["WITH DOUBLE STROKE,AVERAGE WITH SLASH,,,,,,AROUND A POINT OPERATOR,",
      "WITH LEFTWARDS ARROW WITH HOOK,WITH TIMES SIGN,WITH INTERSECTION,WITH UNION,WITH OVERBAR",
      "WITH UNDERBAR"]⟩,
    ⟨0x2A22, "PLUS ", ["SIGN WITH SMALL CIRCLE ABOVE,SIGN WITH CIRCUMFLEX ACCENT ABOVE",
      "SIGN WITH TILDE ABOVE,SIGN WITH DOT BELOW,SIGN WITH TILDE BELOW,SIGN WITH SUBSCRIPT TWO",
      "SIGN WITH BLACK TRIANGLE,,,,,SIGN IN LEFT HALF CIRCLE,SIGN IN RIGHT HALF CIRCLE,,,,,,,,,",
      ",SIGN IN TRIANGLE"]⟩,
    ⟨0x2A30, "MULTIPLICATION ", ["SIGN WITH DOT ABOVE,SIGN WITH UNDERBAR,,",
      "SIGN IN LEFT HALF CIRCLE,SIGN IN RIGHT HALF CIRCLE,,SIGN IN DOUBLE CIRCLE,,,",
      "SIGN IN TRIANGLE"]⟩,
    ⟨0x2A40, "INTERSECTION ", ["WITH DOT,,,WITH OVERBAR,WITH LOGICAL AND,,,ABOVE UNION,",
      "ABOVE BAR ABOVE UNION,,BESIDE AND JOINED WITH INTERSECTION"]⟩,
    ⟨0x2A51, "LOGICAL ", ["AND WITH DOT ABOVE,OR WITH DOT ABOVE,,,,,,",
      "OR OVERLAPPING LOGICAL AND,AND WITH MIDDLE STEM,OR WITH MIDDLE STEM",
      "AND WITH HORIZONTAL DASH,OR WITH HORIZONTAL DASH,AND WITH DOUBLE OVERBAR",
      "AND WITH UNDERBAR,AND WITH DOUBLE UNDERBAR,,OR WITH DOUBLE OVERBAR",
      "OR WITH DOUBLE UNDERBAR"]⟩,
    ⟨0x2A79, "LESS-THAN ", ["WITH CIRCLE INSIDE,,WITH QUESTION MARK ABOVE,,OR SLANTED EQUAL TO,",
      "OR SLANTED EQUAL TO WITH DOT INSIDE,,OR SLANTED EQUAL TO WITH DOT ABOVE,",
      "OR SLANTED EQUAL TO WITH DOT ABOVE RIGHT,,OR APPROXIMATE,,AND SINGLE-LINE NOT EQUAL TO,",
      "AND NOT APPROXIMATE,,ABOVE DOUBLE-LINE EQUAL ABOVE GREATER-THAN,,ABOVE SIMILAR OR EQUAL,",
      "ABOVE SIMILAR ABOVE GREATER-THAN,,ABOVE GREATER-THAN ABOVE DOUBLE-LINE EQUAL,",
      "ABOVE SLANTED EQUAL ABOVE GREATER-THAN ABOVE SLANTED EQUAL,,,,,,,,,,,,,,,,,,",
      "CLOSED BY CURVE,,CLOSED BY CURVE ABOVE SLANTED EQUAL"]⟩,
    ⟨0x2A7A, "GREATER-THAN ", ["WITH CIRCLE INSIDE,,WITH QUESTION MARK ABOVE,",
      "OR SLANTED EQUAL TO,,OR SLANTED EQUAL TO WITH DOT INSIDE,",
      "OR SLANTED EQUAL TO WITH DOT ABOVE,,OR SLANTED EQUAL TO WITH DOT ABOVE LEFT,",
      "OR APPROXIMATE,,AND SINGLE-LINE NOT EQUAL TO,,AND NOT APPROXIMATE,",
      "ABOVE DOUBLE-LINE EQUAL ABOVE LESS-THAN,,ABOVE SIMILAR OR EQUAL,",
      "ABOVE SIMILAR ABOVE LESS-THAN,,ABOVE LESS-THAN ABOVE DOUBLE-LINE EQUAL,",
      "ABOVE SLANTED EQUAL ABOVE LESS-THAN ABOVE SLANTED EQUAL,,,,,,,,,,,,,,,",
      "OVERLAPPING LESS-THAN,BESIDE LESS-THAN,,CLOSED BY CURVE,",
      "CLOSED BY CURVE ABOVE SLANTED EQUAL"]⟩,
    ⟨0x2A95, "", ["SLANTED EQUAL TO OR LESS-THAN,SLANTED EQUAL TO OR GREATER-THAN",
      "SLANTED EQUAL TO OR LESS-THAN WITH DOT INSIDE",
      "SLANTED EQUAL TO OR GREATER-THAN WITH DOT INSIDE,DOUBLE-LINE EQUAL TO OR LESS-THAN",
      "DOUBLE-LINE EQUAL TO OR GREATER-THAN,DOUBLE-LINE SLANTED EQUAL TO OR LESS-THAN",
      "DOUBLE-LINE SLANTED EQUAL TO OR GREATER-THAN,SIMILAR OR LESS-THAN",
      "SIMILAR OR GREATER-THAN,SIMILAR ABOVE LESS-THAN ABOVE EQUALS SIGN",
      "SIMILAR ABOVE GREATER-THAN ABOVE EQUALS SIGN,DOUBLE NESTED LESS-THAN",
      "DOUBLE NESTED GREATER-THAN,DOUBLE NESTED LESS-THAN WITH UNDERBAR,,,,,,,SMALLER THAN",
      "LARGER THAN,SMALLER THAN OR EQUAL TO,LARGER THAN OR EQUAL TO",
      "EQUALS SIGN WITH BUMPY ABOVE,,,,,,,,,,,,,DOUBLE PRECEDES,DOUBLE SUCCEEDS,,,,,,,,,,,,,,,,",
      "SQUARE LEFT OPEN BOX OPERATOR,SQUARE RIGHT OPEN BOX OPERATOR,CLOSED SUBSET",
      "CLOSED SUPERSET,CLOSED SUBSET OR EQUAL TO,CLOSED SUPERSET OR EQUAL TO,,,,,,",
      "ELEMENT OF OPENING DOWNWARDS,PITCHFORK WITH TEE TOP,TRANSVERSAL INTERSECTION,FORKING",
      "NONFORKING,SHORT LEFT TACK,SHORT DOWN TACK,SHORT UP TACK,PERPENDICULAR WITH S",
      "VERTICAL BAR TRIPLE RIGHT TURNSTILE,DOUBLE VERTICAL BAR LEFT TURNSTILE",
      "VERTICAL BAR DOUBLE LEFT TURNSTILE,DOUBLE VERTICAL BAR DOUBLE LEFT TURNSTILE",
      "LONG DASH FROM LEFT MEMBER OF DOUBLE VERTICAL,SHORT DOWN TACK WITH OVERBAR",
      "SHORT UP TACK WITH UNDERBAR,SHORT UP TACK ABOVE SHORT DOWN TACK,DOUBLE DOWN TACK",
      "DOUBLE UP TACK,DOUBLE STROKE NOT SIGN,REVERSED DOUBLE STROKE NOT SIGN",
      "DOES NOT DIVIDE WITH REVERSED NEGATION SLASH,VERTICAL LINE WITH CIRCLE ABOVE",
      "VERTICAL LINE WITH CIRCLE BELOW,DOWN TACK WITH CIRCLE BELOW",
      "PARALLEL WITH HORIZONTAL STROKE,PARALLEL WITH TILDE OPERATOR,,,,,",
      "DOUBLE-LINE SLANTED LESS-THAN OR EQUAL TO,DOUBLE-LINE SLANTED GREATER-THAN OR EQUAL TO,",
      "LARGE TRIPLE VERTICAL BAR OPERATOR,DOUBLE SOLIDUS OPERATOR,WHITE VERTICAL BAR",
      "N-ARY WHITE VERTICAL BAR,NORTH EAST WHITE ARROW,NORTH WEST WHITE ARROW",
      "SOUTH EAST WHITE ARROW,SOUTH WEST WHITE ARROW,LEFT RIGHT WHITE ARROW,",
      "UPWARDS BLACK ARROW,DOWNWARDS BLACK ARROW,NORTH EAST BLACK ARROW,NORTH WEST BLACK ARROW",
      "SOUTH EAST BLACK ARROW,SOUTH WEST BLACK ARROW,LEFT RIGHT BLACK ARROW,UP DOWN BLACK ARROW",
      "RIGHTWARDS ARROW WITH TIP DOWNWARDS,RIGHTWARDS ARROW WITH TIP UPWARDS,,",
      "SQUARE WITH TOP HALF BLACK,SQUARE WITH BOTTOM HALF BLACK",
      "SQUARE WITH UPPER RIGHT DIAGONAL HALF BLACK,SQUARE WITH LOWER LEFT DIAGONAL HALF BLACK",
      "DIAMOND WITH LEFT HALF BLACK,DIAMOND WITH RIGHT HALF BLACK,DIAMOND WITH TOP HALF BLACK",
      "DIAMOND WITH BOTTOM HALF BLACK,DOTTED SQUARE,,WHITE LARGE SQUARE,",
      "WHITE VERY SMALL SQUARE,,WHITE PENTAGON,WHITE HEXAGON,,HORIZONTAL BLACK HEXAGON,,",
      "WHITE MEDIUM DIAMOND,,WHITE MEDIUM LOZENGE,,,WHITE SMALL LOZENGE,",
      "WHITE HORIZONTAL ELLIPSE,,WHITE VERTICAL ELLIPSE,LEFT ARROW WITH SMALL CIRCLE",
      "THREE LEFTWARDS ARROWS,LEFT ARROW WITH CIRCLED PLUS,LONG LEFTWARDS SQUIGGLE ARROW,,,,,,,",
      ",,,,WAVE ARROW POINTING DIRECTLY LEFT,EQUALS SIGN ABOVE LEFTWARDS ARROW",
      "REVERSE TILDE OPERATOR ABOVE LEFTWARDS ARROW,,,,,",
      "REVERSE TILDE OPERATOR ABOVE RIGHTWARDS ARROW,,TILDE OPERATOR ABOVE LEFTWARDS ARROW,,,",
      "DOWNWARDS TRIANGLE-HEADED ZIGZAG ARROW,SHORT SLANTED NORTH ARROW",
      "SHORT BACKSLANTED SOUTH ARROW,WHITE MEDIUM STAR,BLACK SMALL STAR,WHITE SMALL STAR",
      "BLACK RIGHT-POINTING PENTAGON,WHITE RIGHT-POINTING PENTAGON,HEAVY LARGE CIRCLE",
      "HEAVY OVAL WITH OVAL INSIDE,HEAVY CIRCLE WITH CIRCLE INSIDE,HEAVY CIRCLE",
      "HEAVY CIRCLED SALTIRE,SLANTED NORTH ARROW WITH HOOKED HEAD",
      "BACKSLANTED SOUTH ARROW WITH HOOKED TAIL,SLANTED NORTH ARROW WITH HORIZONTAL TAIL",
      "BACKSLANTED SOUTH ARROW WITH HORIZONTAL TAIL",
      "BENT ARROW POINTING DOWNWARDS THEN NORTH EAST",
      "SHORT BENT ARROW POINTING DOWNWARDS THEN NORTH EAST,,UPWARDS TRIANGLE-HEADED ARROW,",
      "DOWNWARDS TRIANGLE-HEADED ARROW,LEFT RIGHT TRIANGLE-HEADED ARROW",
      "UP DOWN TRIANGLE-HEADED ARROW,NORTH WEST TRIANGLE-HEADED ARROW",
      "NORTH EAST TRIANGLE-HEADED ARROW,SOUTH EAST TRIANGLE-HEADED ARROW",
      "SOUTH WEST TRIANGLE-HEADED ARROW,,UPWARDS TRIANGLE-HEADED DASHED ARROW,",
      "DOWNWARDS TRIANGLE-HEADED DASHED ARROW,CLOCKWISE TRIANGLE-HEADED OPEN CIRCLE ARROW",
      "ANTICLOCKWISE TRIANGLE-HEADED OPEN CIRCLE ARROW,,UPWARDS TRIANGLE-HEADED ARROW TO BAR,",
      "DOWNWARDS TRIANGLE-HEADED ARROW TO BAR,,,NORTH WEST TRIANGLE-HEADED ARROW TO BAR",
      "NORTH EAST TRIANGLE-HEADED ARROW TO BAR,SOUTH EAST TRIANGLE-HEADED ARROW TO BAR",
      "SOUTH WEST TRIANGLE-HEADED ARROW TO BAR,",
      "UPWARDS TRIANGLE-HEADED ARROW WITH DOUBLE HORIZONTAL STROKE,",
      "DOWNWARDS TRIANGLE-HEADED ARROW WITH DOUBLE HORIZONTAL STROKE,HORIZONTAL TAB KEY",
      "VERTICAL TAB KEY,",
      "UPWARDS TRIANGLE-HEADED ARROW LEFTWARDS OF DOWNWARDS TRIANGLE-HEADED ARROW,",
      "DOWNWARDS TRIANGLE-HEADED ARROW LEFTWARDS OF UPWARDS TRIANGLE-HEADED ARROW,",
      "UPWARDS TRIANGLE-HEADED PAIRED ARROWS,,DOWNWARDS TRIANGLE-HEADED PAIRED ARROWS,",
      "UPWARDS BLACK CIRCLED WHITE ARROW,,DOWNWARDS BLACK CIRCLED WHITE ARROW",
      "ANTICLOCKWISE TRIANGLE-HEADED RIGHT U-SHAPED ARROW",
      "ANTICLOCKWISE TRIANGLE-HEADED BOTTOM U-SHAPED ARROW",
      "ANTICLOCKWISE TRIANGLE-HEADED LEFT U-SHAPED ARROW",
      "ANTICLOCKWISE TRIANGLE-HEADED TOP U-SHAPED ARROW,RETURN LEFT,RETURN RIGHT,NEWLINE LEFT",
      "NEWLINE RIGHT,FOUR CORNER ARROWS CIRCLING ANTICLOCKWISE,,,SYMBOL FOR TYPE A ELECTRONICS",
      "THREE-D TOP-LIGHTED LEFTWARDS EQUILATERAL ARROWHEAD",
      "THREE-D RIGHT-LIGHTED UPWARDS EQUILATERAL ARROWHEAD",
      "THREE-D TOP-LIGHTED RIGHTWARDS EQUILATERAL ARROWHEAD",
      "THREE-D LEFT-LIGHTED DOWNWARDS EQUILATERAL ARROWHEAD",
      "BLACK LEFTWARDS EQUILATERAL ARROWHEAD,BLACK UPWARDS EQUILATERAL ARROWHEAD",
      "BLACK RIGHTWARDS EQUILATERAL ARROWHEAD,BLACK DOWNWARDS EQUILATERAL ARROWHEAD",
      "DOWNWARDS TRIANGLE-HEADED ARROW WITH LONG TIP LEFTWARDS",
      "DOWNWARDS TRIANGLE-HEADED ARROW WITH LONG TIP RIGHTWARDS",
      "UPWARDS TRIANGLE-HEADED ARROW WITH LONG TIP LEFTWARDS",
      "UPWARDS TRIANGLE-HEADED ARROW WITH LONG TIP RIGHTWARDS,,,,,,,,,,,,,,,,,,,,",
      "UPWARDS WHITE ARROW FROM BAR WITH HORIZONTAL BAR,UP ARROWHEAD IN A RECTANGLE BOX",
      "OVERLAPPING WHITE SQUARES,OVERLAPPING WHITE AND BLACK SQUARES,OVERLAPPING BLACK SQUARES",
      "BALLOT BOX WITH LIGHT X,CIRCLED X,CIRCLED BOLD X,BLACK SQUARE CENTRED",
      "BLACK DIAMOND CENTRED,TURNED BLACK PENTAGON,HORIZONTAL BLACK OCTAGON,BLACK OCTAGON",
      "BLACK MEDIUM UP-POINTING TRIANGLE CENTRED,BLACK MEDIUM DOWN-POINTING TRIANGLE CENTRED",
      "BLACK MEDIUM LEFT-POINTING TRIANGLE CENTRED,BLACK MEDIUM RIGHT-POINTING TRIANGLE CENTRED",
      "NEPTUNE FORM TWO,TOP HALF BLACK CIRCLE,BOTTOM HALF BLACK CIRCLE",
      "LIGHT FOUR POINTED BLACK CUSP,ROTATED LIGHT FOUR POINTED BLACK CUSP",
      "WHITE FOUR POINTED CUSP,ROTATED WHITE FOUR POINTED CUSP,SQUARE POSITION INDICATOR",
      "UNCERTAINTY SIGN,GROUP MARK,PLUTO FORM TWO,PLUTO FORM THREE,PLUTO FORM FOUR",
      "PLUTO FORM FIVE,TRANSPLUTO,PROSERPINA,ASTRAEA,HYGIEA,PHOLUS,NESSUS,WHITE MOON SELENA",
      "BLACK DIAMOND ON CROSS,TRUE LIGHT MOON ARTA,CUPIDO,HADES,ZEUS,KRONOS,APOLLON,ADMETOS",
      "VULCANUS,POSEIDON,LEFT HALF BLACK STAR,RIGHT HALF BLACK STAR,STAR WITH LEFT HALF BLACK",
      "STAR WITH RIGHT HALF BLACK,LEFTWARDS TWO-HEADED ARROW WITH TRIANGLE ARROWHEADS",
      "UPWARDS TWO-HEADED ARROW WITH TRIANGLE ARROWHEADS",
      "RIGHTWARDS TWO-HEADED ARROW WITH TRIANGLE ARROWHEADS",
      "DOWNWARDS TWO-HEADED ARROW WITH TRIANGLE ARROWHEADS,ERIS FORM ONE,ERIS FORM TWO,SEDNA,,,",
      ",,,EQUALS SIGN WITH INFINITY BELOW,UNITED SYMBOL,SEPARATED SYMBOL,DOUBLED SYMBOL",
      "PASSED SYMBOL,REVERSED RIGHT ANGLE,HELLSCHREIBER PAUSE SYMBOL"]⟩,
    ⟨0x2AAF, "PRECEDES ", ["ABOVE SINGLE-LINE EQUALS SIGN,,ABOVE SINGLE-LINE NOT EQUAL TO,",
      "ABOVE EQUALS SIGN,,ABOVE NOT EQUAL TO,,ABOVE ALMOST EQUAL TO,,ABOVE NOT ALMOST EQUAL TO"]⟩,
    ⟨0x2AB0, "SUCCEEDS ", ["ABOVE SINGLE-LINE EQUALS SIGN,,ABOVE SINGLE-LINE NOT EQUAL TO,",
      "ABOVE EQUALS SIGN,,ABOVE NOT EQUAL TO,,ABOVE ALMOST EQUAL TO,,ABOVE NOT ALMOST EQUAL TO"]⟩,
    ⟨0x2ABD, "SUBSET ", ["WITH DOT,,WITH PLUS SIGN BELOW,,WITH MULTIPLICATION SIGN BELOW,",
      "OF OR EQUAL TO WITH DOT ABOVE,,OF ABOVE EQUALS SIGN,,OF ABOVE TILDE OPERATOR,",
      "OF ABOVE ALMOST EQUAL TO,,OF ABOVE NOT EQUAL TO,,,,,,,,ABOVE SUPERSET,,ABOVE SUBSET"]⟩,
    ⟨0x2ABE, "SUPERSET ", ["WITH DOT,,WITH PLUS SIGN BELOW,,WITH MULTIPLICATION SIGN BELOW,",
      "OF OR EQUAL TO WITH DOT ABOVE,,OF ABOVE EQUALS SIGN,,OF ABOVE TILDE OPERATOR,",
      "OF ABOVE ALMOST EQUAL TO,,OF ABOVE NOT EQUAL TO,,,,,,,,ABOVE SUBSET,,ABOVE SUPERSET",
      "BESIDE SUBSET,BESIDE AND JOINED BY DASH WITH SUBSET"]⟩,
    ⟨0x2AF4, "TRIPLE ", ["VERTICAL BAR BINARY RELATION,VERTICAL BAR WITH HORIZONTAL STROKE",
      "COLON OPERATOR,NESTED LESS-THAN,NESTED GREATER-THAN,,,SOLIDUS BINARY RELATION"]⟩,
    ⟨0x2B05, "LEFTWARDS ", ["BLACK ARROW,,,,,,,,,,,ARROW WITH TIP DOWNWARDS",
      "ARROW WITH TIP UPWARDS,,,,,,,,,,,,,,,,,,,,,,,,,,,,,,,,,,",
      "TWO-HEADED ARROW WITH VERTICAL STROKE,TWO-HEADED ARROW WITH DOUBLE VERTICAL STROKE",
      "TWO-HEADED ARROW FROM BAR,TWO-HEADED TRIPLE DASH ARROW,ARROW WITH DOTTED STEM",
      "ARROW WITH TAIL WITH VERTICAL STROKE,ARROW WITH TAIL WITH DOUBLE VERTICAL STROKE",
      "TWO-HEADED ARROW WITH TAIL,TWO-HEADED ARROW WITH TAIL WITH VERTICAL STROKE",
      "TWO-HEADED ARROW WITH TAIL WITH DOUBLE VERTICAL STROKE,ARROW THROUGH X,,,",
      "ARROW ABOVE REVERSE ALMOST EQUAL TO,,,QUADRUPLE ARROW,,,,,ARROW ABOVE ALMOST EQUAL TO",
      "ARROW ABOVE REVERSE TILDE OPERATOR,,,,,,,,,,,,,,,,,,,,,TRIANGLE-HEADED ARROW,,,,,,,,,",
      "TRIANGLE-HEADED DASHED ARROW,,,,,,TRIANGLE-HEADED ARROW TO BAR,,,,,,,,,",
      "TRIANGLE-HEADED ARROW WITH DOUBLE HORIZONTAL STROKE,,,,,",
      "TRIANGLE-HEADED ARROW OVER RIGHTWARDS TRIANGLE-HEADED ARROW,,,",
      "TRIANGLE-HEADED PAIRED ARROWS,,,,BLACK CIRCLED WHITE ARROW,,,,,,,,,,,,,,,,,,,,,,,,,,,",
      "TRIANGLE-HEADED ARROW WITH LONG TIP UPWARDS,",
      "TRIANGLE-HEADED ARROW WITH LONG TIP DOWNWARDS"]⟩,
    ⟨0x2B1B, "BLACK ", ["LARGE SQUARE,,VERY SMALL SQUARE,,PENTAGON,,,HEXAGON,,LARGE CIRCLE",
      "MEDIUM DIAMOND,,MEDIUM LOZENGE,,SMALL DIAMOND,SMALL LOZENGE,,HORIZONTAL ELLIPSE,",
      "VERTICAL ELLIPSE"]⟩,
    ⟨0x2B43, "RIGHTWARDS ", ["ARROW THROUGH GREATER-THAN,ARROW THROUGH SUPERSET,",
      "QUADRUPLE ARROW,,ARROW ABOVE REVERSE ALMOST EQUAL TO,,,",
      "ARROW ABOVE REVERSE TILDE OPERATOR,,,,,,,,,,,,,,,,,,,,,,TRIANGLE-HEADED ARROW,,,,,,,,,",
      "TRIANGLE-HEADED DASHED ARROW,,,,,,TRIANGLE-HEADED ARROW TO BAR,,,,,,,,,",
      "TRIANGLE-HEADED ARROW WITH DOUBLE HORIZONTAL STROKE,,,,,",
      "TRIANGLE-HEADED ARROW OVER LEFTWARDS TRIANGLE-HEADED ARROW,,,",
      "TRIANGLE-HEADED PAIRED ARROWS,,,,BLACK CIRCLED WHITE ARROW,,,,,,,,,,,BLACK ARROW,,,,,,,,",
      ",,,,,,,TRIANGLE-HEADED ARROW WITH LONG TIP UPWARDS,",
      "TRIANGLE-HEADED ARROW WITH LONG TIP DOWNWARDS"]⟩,
    ⟨0x2BA8, "BLACK CURVED ", ["DOWNWARDS AND LEFTWARDS ARROW,DOWNWARDS AND RIGHTWARDS ARROW",
      "UPWARDS AND LEFTWARDS ARROW,UPWARDS AND RIGHTWARDS ARROW,LEFTWARDS AND UPWARDS ARROW",
      "RIGHTWARDS AND UPWARDS ARROW,LEFTWARDS AND DOWNWARDS ARROW",
      "RIGHTWARDS AND DOWNWARDS ARROW"]⟩,
    ⟨0x2BB0, "RIBBON ARROW ", ["DOWN LEFT,DOWN RIGHT,UP LEFT,UP RIGHT,LEFT UP,RIGHT UP",
      "LEFT DOWN,RIGHT DOWN"]⟩,
    ⟨0x2BF3, "RUSSIAN ASTROLOGICAL ", ["SYMBOL VIGINTILE,SYMBOL NOVILE,SYMBOL QUINTILE",
      "SYMBOL BINOVILE,SYMBOL SENTAGON,SYMBOL TREDECILE"]⟩,
    ⟨0x2C00, "GLAGOLITIC CAPITAL LETTER ", ["AZU,BUKY,VEDE,GLAGOLI,DOBRO,YESTU,ZHIVETE,DZELO",
      "ZEMLJA,IZHE,INITIAL IZHE,I,DJERVI,KAKO,LJUDIJE,MYSLITE,NASHI,ONU,POKOJI,RITSI,SLOVO",
      "TVRIDO,UKU,FRITU,HERU,OTU,PE,SHTA,TSI,CHRIVI,SHA,YERU,YERI,YATI,SPIDERY HA,YU,SMALL YUS",
      "SMALL YUS WITH TAIL,YO,IOTATED SMALL YUS,BIG YUS,IOTATED BIG YUS,FITA,IZHITSA,SHTAPIC",
      "TROKUTASTI A,LATINATE MYSLITE,CAUDATE CHRIVI"]⟩,
    ⟨0x2C30, "GLAGOLITIC SMALL LETTER ", ["AZU,BUKY,VEDE,GLAGOLI,DOBRO,YESTU,ZHIVETE,DZELO",
      "ZEMLJA,IZHE,INITIAL IZHE,I,DJERVI,KAKO,LJUDIJE,MYSLITE,NASHI,ONU,POKOJI,RITSI,SLOVO",
      "TVRIDO,UKU,FRITU,HERU,OTU,PE,SHTA,TSI,CHRIVI,SHA,YERU,YERI,YATI,SPIDERY HA,YU,SMALL YUS",
      "SMALL YUS WITH TAIL,YO,IOTATED SMALL YUS,BIG YUS,IOTATED BIG YUS,FITA,IZHITSA,SHTAPIC",
      "TROKUTASTI A,LATINATE MYSLITE,CAUDATE CHRIVI"]⟩,
    ⟨0x2C60, "LATIN CAPITAL LETTER ", ["L WITH DOUBLE BAR,,L WITH MIDDLE TILDE,P WITH STROKE",
      "R WITH TAIL,,,H WITH DESCENDER,,K WITH DESCENDER,,Z WITH DESCENDER,,ALPHA,M WITH HOOK",
      "TURNED A,TURNED ALPHA,,W WITH HOOK,,,HALF H,,,,,,,,,S WITH SWASH TAIL,Z WITH SWASH TAIL"]⟩,
    ⟨0x2C61, "LATIN SMALL LETTER ", ["L WITH DOUBLE BAR,,,,A WITH STROKE,T WITH DIAGONAL STROKE",
      ",H WITH DESCENDER,,K WITH DESCENDER,,Z WITH DESCENDER,,,,,V WITH RIGHT HOOK,,W WITH HOOK",
      "V WITH CURL,,HALF H,TAILLESS PHI,E WITH NOTCH,TURNED R WITH TAIL,O WITH LOW RING INSIDE"]⟩,
    ⟨0x2C7B, "", ["LATIN LETTER SMALL CAPITAL TURNED E,LATIN SUBSCRIPT SMALL LETTER J",
      "MODIFIER LETTER CAPITAL V"]⟩,
    ⟨0x2C80, "COPTIC CAPITAL LETTER ", ["ALFA,,VIDA,,GAMMA,,DALDA,,EIE,,SOU,,ZATA,,HATE,,THETHE",
      ",IAUDA,,KAPA,,LAULA,,MI,,NI,,KSI,,O,,PI,,RO,,SIMA,,TAU,,UA,,FI,,KHI,,PSI,,OOU,",
      "DIALECT-P ALEF,,OLD COPTIC AIN,,CRYPTOGRAMMIC EIE,,DIALECT-P KAPA,,DIALECT-P NI,",
      "CRYPTOGRAMMIC NI,,OLD COPTIC OOU,,SAMPI,,CROSSED SHEI,,OLD COPTIC SHEI,,OLD COPTIC ESH,",
      "AKHMIMIC KHEI,,DIALECT-P HORI,,OLD COPTIC HORI,,OLD COPTIC HA,,L-SHAPED HA,",
      "OLD COPTIC HEI,,OLD COPTIC HAT,,OLD COPTIC GANGIA,,OLD COPTIC DJA,,OLD COPTIC SHIMA,",
      "OLD NUBIAN SHIMA,,OLD NUBIAN NGI,,OLD NUBIAN NYI,,OLD NUBIAN WAU,,,,,,,,",
      "CRYPTOGRAMMIC SHEI,,CRYPTOGRAMMIC GANGIA,,,,,BOHAIRIC KHEI"]⟩,
    ⟨0x2C81, "COPTIC SMALL LETTER ", ["ALFA,,VIDA,,GAMMA,,DALDA,,EIE,,SOU,,ZATA,,HATE,,THETHE,",
      "IAUDA,,KAPA,,LAULA,,MI,,NI,,KSI,,O,,PI,,RO,,SIMA,,TAU,,UA,,FI,,KHI,,PSI,,OOU,",
      "DIALECT-P ALEF,,OLD COPTIC AIN,,CRYPTOGRAMMIC EIE,,DIALECT-P KAPA,,DIALECT-P NI,",
      "CRYPTOGRAMMIC NI,,OLD COPTIC OOU,,SAMPI,,CROSSED SHEI,,OLD COPTIC SHEI,,OLD COPTIC ESH,",
      "AKHMIMIC KHEI,,DIALECT-P HORI,,OLD COPTIC HORI,,OLD COPTIC HA,,L-SHAPED HA,",
      "OLD COPTIC HEI,,OLD COPTIC HAT,,OLD COPTIC GANGIA,,OLD COPTIC DJA,,OLD COPTIC SHIMA,",
      "OLD NUBIAN SHIMA,,OLD NUBIAN NGI,,OLD NUBIAN NYI,,OLD NUBIAN WAU,,,,,,,,",
      "CRYPTOGRAMMIC SHEI,,CRYPTOGRAMMIC GANGIA,,,,,BOHAIRIC KHEI"]⟩,
    ⟨0x2CE4, "COPTIC SYMBOL ", ["KAI,MI RO,PI RO,STAUROS,TAU RO,KHI RO,SHIMA SIMA"]⟩,
    ⟨0x2CEF, "COPTIC ", ["COMBINING NI ABOVE,COMBINING SPIRITUS ASPER,COMBINING SPIRITUS LENIS,",
      ",,,,,,OLD NUBIAN FULL STOP,OLD NUBIAN DIRECT QUESTION MARK",
      "OLD NUBIAN INDIRECT QUESTION MARK,OLD NUBIAN VERSE DIVIDER,FRACTION ONE HALF,FULL STOP",
      "MORPHOLOGICAL DIVIDER"]⟩,
    ⟨0x2D00, "GEORGIAN SMALL LETTER ", ["AN,BAN,GAN,DON,EN,VIN,ZEN,TAN,IN,KAN,LAS,MAN,NAR,ON",
      "PAR,ZHAR,RAE,SAN,TAR,UN,PHAR,KHAR,GHAN,QAR,SHIN,CHIN,CAN,JIL,CIL,CHAR,XAN,JHAN,HAE,HE",
      "HIE,WE,HAR,HOE,,YN,,,,,,AEN"]⟩,
    ⟨0x2D30, "TIFINAGH LETTER ", ["YA,YAB,YABH,YAG,YAGHH,BERBER ACADEMY YAJ,YAJ,YAD,YADH,YADD",
      "YADDH,YEY,YAF,YAK,TUAREG YAK,YAKHH,YAH,BERBER ACADEMY YAH,TUAREG YAH,YAHH,YAA,YAKH",
      "TUAREG YAKH,YAQ,TUAREG YAQ,YI,YAZH,AHAGGAR YAZH,TUAREG YAZH,YAL,YAM,YAN,TUAREG YAGN",
      "TUAREG YANG,YAP,YU,YAR,YARR,YAGH,TUAREG YAGH,AYER YAGH,YAS,YASS,YASH,YAT,YATH,YACH,YATT",
      "YAV,YAW,YAY,YAZ,TAWELLEMET YAZ,YAZZ,YE,YO"]⟩,
    ⟨0x2D6F, "", ["TIFINAGH MODIFIER LETTER LABIALIZATION MARK,TIFINAGH SEPARATOR MARK,,,,,,,,,",
      ",,,,,TIFINAGH CONSONANT JOINER"]⟩,
    ⟨0x2D80, "ETHIOPIC SYLLABLE ", ["LOA,MOA,ROA,SOA,SHOA,BOA,TOA,COA,NOA,NYOA,GLOTTAL OA,ZOA",
      "DOA,DDOA,JOA,THOA,CHOA,PHOA,POA,GGWA,GGWI,GGWEE,GGWE,,,,,,,,,,SSA,SSU,SSI,SSAA,SSEE,SSE",
      "SSO,,CCA,CCU,CCI,CCAA,CCEE,CCE,CCO,,ZZA,ZZU,ZZI,ZZAA,ZZEE,ZZE,ZZO,,CCHA,CCHU,CCHI,CCHAA",
      "CCHEE,CCHE,CCHO,,QYA,QYU,QYI,QYAA,QYEE,QYE,QYO,,KYA,KYU,KYI,KYAA,KYEE,KYE,KYO,,XYA,XYU",
      "XYI,XYAA,XYEE,XYE,XYO,,GYA,GYU,GYI,GYAA,GYEE,GYE,GYO"]⟩,
    ⟨0x2DE0, "COMBINING CYRILLIC LETTER ", ["BE,VE,GHE,DE,ZHE,ZE,KA,EL,EM,EN,O,PE,ER,ES,TE,HA",
      "TSE,CHE,SHA,SHCHA,FITA,ES-TE,A,IE,DJERV,MONOGRAPH UK,YAT,YU,IOTIFIED A,LITTLE YUS",
      "BIG YUS,IOTIFIED BIG YUS"]⟩,
    ⟨0x2E00, "", ["RIGHT ANGLE SUBSTITUTION MARKER,RIGHT ANGLE DOTTED SUBSTITUTION MARKER",
      "LEFT SUBSTITUTION BRACKET,RIGHT SUBSTITUTION BRACKET,LEFT DOTTED SUBSTITUTION BRACKET",
      "RIGHT DOTTED SUBSTITUTION BRACKET,RAISED INTERPOLATION MARKER",
      "RAISED DOTTED INTERPOLATION MARKER,DOTTED TRANSPOSITION MARKER",
      "LEFT TRANSPOSITION BRACKET,RIGHT TRANSPOSITION BRACKET,RAISED SQUARE",
      "LEFT RAISED OMISSION BRACKET,RIGHT RAISED OMISSION BRACKET,EDITORIAL CORONIS,PARAGRAPHOS",
      "FORKED PARAGRAPHOS,REVERSED FORKED PARAGRAPHOS,HYPODIASTOLE,DOTTED OBELOS",
      "DOWNWARDS ANCORA,UPWARDS ANCORA,DOTTED RIGHT-POINTING ANGLE,DOUBLE OBLIQUE HYPHEN",
      "INVERTED INTERROBANG,PALM BRANCH,HYPHEN WITH DIAERESIS,TILDE WITH RING ABOVE",
      "LEFT LOW PARAPHRASE BRACKET,RIGHT LOW PARAPHRASE BRACKET,TILDE WITH DOT ABOVE",
      "TILDE WITH DOT BELOW,LEFT VERTICAL BAR WITH QUILL,RIGHT VERTICAL BAR WITH QUILL",
      "TOP LEFT HALF BRACKET,TOP RIGHT HALF BRACKET,BOTTOM LEFT HALF BRACKET",
      "BOTTOM RIGHT HALF BRACKET,LEFT SIDEWAYS U BRACKET,RIGHT SIDEWAYS U BRACKET",
      "LEFT DOUBLE PARENTHESIS,RIGHT DOUBLE PARENTHESIS,TWO DOTS OVER ONE DOT PUNCTUATION",
      "ONE DOT OVER TWO DOTS PUNCTUATION,SQUARED FOUR DOT PUNCTUATION,FIVE DOT MARK",
      "REVERSED QUESTION MARK,VERTICAL TILDE,RING POINT,WORD SEPARATOR MIDDLE DOT,TURNED COMMA",
      "RAISED DOT,RAISED COMMA,TURNED SEMICOLON,DAGGER WITH LEFT GUARD,DAGGER WITH RIGHT GUARD",
      "TURNED DAGGER,TOP HALF SECTION SIGN,TWO-EM DASH,THREE-EM DASH,STENOGRAPHIC FULL STOP",
      "VERTICAL SIX DOTS,WIGGLY VERTICAL LINE,CAPITULUM,DOUBLE HYPHEN,REVERSED COMMA",
      "DOUBLE LOW-REVERSED-9 QUOTATION MARK,DASH WITH LEFT UPTURN,DOUBLE SUSPENSION MARK",
      "INVERTED LOW KAVYKA,INVERTED LOW KAVYKA WITH KAVYKA ABOVE,LOW KAVYKA,LOW KAVYKA WITH DOT",
      "DOUBLE STACKED COMMA,DOTTED SOLIDUS,TRIPLE DAGGER,MEDIEVAL COMMA,PARAGRAPHUS MARK",
      "PUNCTUS ELEVATUS MARK,CORNISH VERSE DIVIDER,CROSS PATTY WITH RIGHT CROSSBAR",
      "CROSS PATTY WITH LEFT CROSSBAR,TIRONIAN SIGN CAPITAL ET,MEDIEVAL EXCLAMATION MARK",
      "MEDIEVAL QUESTION MARK,LEFT SQUARE BRACKET WITH STROKE,RIGHT SQUARE BRACKET WITH STROKE",
      "LEFT SQUARE BRACKET WITH DOUBLE STROKE,RIGHT SQUARE BRACKET WITH DOUBLE STROKE",
      "TOP HALF LEFT PARENTHESIS,TOP HALF RIGHT PARENTHESIS,BOTTOM HALF LEFT PARENTHESIS",
      "BOTTOM HALF RIGHT PARENTHESIS,OBLIQUE HYPHEN"]⟩,
    ⟨0x2E80, "CJK RADICAL ", ["REPEAT,CLIFF,SECOND ONE,SECOND TWO,SECOND THREE,PERSON,BOX,TABLE",
      "KNIFE ONE,KNIFE TWO,DIVINATION,SEAL,SMALL ONE,SMALL TWO,LAME ONE,LAME TWO,LAME THREE",
      "LAME FOUR,SNAKE,THREAD,SNOUT ONE,SNOUT TWO,HEART ONE,HEART TWO,HAND,RAP,,CHOKE,SUN,MOON",
      "DEATH,MOTHER,CIVILIAN,WATER ONE,WATER TWO,FIRE,PAW ONE,PAW TWO",
      "SIMPLIFIED HALF TREE TRUNK,COW,DOG,JADE,BOLT OF CLOTH,EYE,SPIRIT ONE,SPIRIT TWO,BAMBOO",
      "SILK,,NET ONE,NET TWO,NET THREE,NET FOUR,MESH,SHEEP,RAM,EWE,OLD,BRUSH ONE,BRUSH TWO,MEAT",
      "MORTAR,GRASS ONE,GRASS TWO,GRASS THREE,TIGER,CLOTHES,WEST ONE,WEST TWO,,SIMPLIFIED HORN",
      "HORN,,,FOOT,,SIMPLIFIED WALK,WALK ONE,WALK TWO,CITY,,LONG ONE,LONG TWO,,,MOUND ONE",
      "MOUND TWO,RAIN,BLUE,,,,,EAT ONE,EAT TWO,EAT THREE,,HEAD,,BONE,GHOST,,,,SIMPLIFIED WHEAT",
      "SIMPLIFIED YELLOW,,J-SIMPLIFIED EVEN,,J-SIMPLIFIED TOOTH,,J-SIMPLIFIED DRAGON,,TURTLE",
      "J-SIMPLIFIED TURTLE"]⟩,
    ⟨0x2EB0, "CJK RADICAL C-SIMPLIFIED ", ["SILK,,,,,,,,,,,,,,,,,,,,,SEE,,,SPEECH,SHELL,,CART,,",
      ",,GOLD,,,LONG,GATE,,,,,TANNED LEATHER,LEAF,WIND,FLY,,,,EAT,,HORSE,,,FISH,BIRD,SALT,,",
      "FROG,,EVEN,,TOOTH,,DRAGON,,,TURTLE"]⟩,
    ⟨0x2F00, "KANGXI RADICAL ", ["ONE,LINE,DOT,SLASH,SECOND,HOOK,TWO,LID,MAN,LEGS,ENTER,EIGHT",
      "DOWN BOX,COVER,ICE,TABLE,OPEN BOX,KNIFE,POWER,WRAP,SPOON,RIGHT OPEN BOX,HIDING ENCLOSURE",
      "TEN,DIVINATION,SEAL,CLIFF,PRIVATE,AGAIN,MOUTH,ENCLOSURE,EARTH,SCHOLAR,GO,GO SLOWLY",
      "EVENING,BIG,WOMAN,CHILD,ROOF,INCH,SMALL,LAME,CORPSE,SPROUT,MOUNTAIN,RIVER,WORK,ONESELF",
      "TURBAN,DRY,SHORT THREAD,DOTTED CLIFF,LONG STRIDE,TWO HANDS,SHOOT,BOW,SNOUT,BRISTLE,STEP",
      "HEART,HALBERD,DOOR,HAND,BRANCH,RAP,SCRIPT,DIPPER,AXE,SQUARE,NOT,SUN,SAY,MOON,TREE,LACK",
      "STOP,DEATH,WEAPON,DO NOT,COMPARE,FUR,CLAN,STEAM,WATER,FIRE,CLAW,FATHER,DOUBLE X",
      "HALF TREE TRUNK,SLICE,FANG,COW,DOG,PROFOUND,JADE,MELON,TILE,SWEET,LIFE,USE,FIELD",
      "BOLT OF CLOTH,SICKNESS,DOTTED TENT,WHITE,SKIN,DISH,EYE,SPEAR,ARROW,STONE,SPIRIT,TRACK",
      "GRAIN,CAVE,STAND,BAMBOO,RICE,SILK,JAR,NET,SHEEP,FEATHER,OLD,AND,PLOW,EAR,BRUSH,MEAT",
      "MINISTER,SELF,ARRIVE,MORTAR,TONGUE,OPPOSE,BOAT,STOPPING,COLOR,GRASS,TIGER,INSECT,BLOOD",
      "WALK ENCLOSURE,CLOTHES,WEST,SEE,HORN,SPEECH,VALLEY,BEAN,PIG,BADGER,SHELL,RED,RUN,FOOT",
      "BODY,CART,BITTER,MORNING,WALK,CITY,WINE,DISTINGUISH,VILLAGE,GOLD,LONG,GATE,MOUND,SLAVE",
      "SHORT TAILED BIRD,RAIN,BLUE,WRONG,FACE,LEATHER,TANNED LEATHER,LEEK,SOUND,LEAF,WIND,FLY",
      "EAT,HEAD,FRAGRANT,HORSE,BONE,TALL,HAIR,FIGHT,SACRIFICIAL WINE,CAULDRON,GHOST,FISH,BIRD",
      "SALT,DEER,WHEAT,HEMP,YELLOW,MILLET,BLACK,EMBROIDERY,FROG,TRIPOD,DRUM,RAT,NOSE,EVEN,TOOTH",
      "DRAGON,TURTLE,FLUTE"]⟩,
    ⟨0x2FF0, "IDEOGRAPHIC DESCRIPTION CHARACTER ", ["LEFT TO RIGHT,ABOVE TO BELOW",
      "LEFT TO MIDDLE AND RIGHT,ABOVE TO MIDDLE AND BELOW,FULL SURROUND,SURROUND FROM ABOVE",
      "SURROUND FROM BELOW,SURROUND FROM LEFT,SURROUND FROM UPPER LEFT",
      "SURROUND FROM UPPER RIGHT,SURROUND FROM LOWER LEFT,OVERLAID"]⟩]

end RelayClient.CharacterName
