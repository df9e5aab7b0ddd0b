import RelayClient.NamedRun

/-! # Names of the characters U+0000 to U+0FFF -/
namespace RelayClient.CharacterName

def from0000 : List NamedRun :=
  [⟨0x0020, "", ["SPACE,EXCLAMATION MARK,QUOTATION MARK,NUMBER SIGN,DOLLAR SIGN,PERCENT SIGN",
      "AMPERSAND,APOSTROPHE,LEFT PARENTHESIS,RIGHT PARENTHESIS,ASTERISK,PLUS SIGN,COMMA",
      "HYPHEN-MINUS,FULL STOP,SOLIDUS,,,,,,,,,,,COLON,SEMICOLON,LESS-THAN SIGN,EQUALS SIGN",
      "GREATER-THAN SIGN,QUESTION MARK,COMMERCIAL AT"]⟩,
    ⟨0x0030, "DIGIT ", ["ZERO,ONE,TWO,THREE,FOUR,FIVE,SIX,SEVEN,EIGHT,NINE"]⟩,
    ⟨0x0041, "LATIN CAPITAL LETTER ", ["A,B,C,D,E,F,G,H,I,J,K,L,M,N,O,P,Q,R,S,T,U,V,W,X,Y,Z"]⟩,
    ⟨0x005B, "", ["LEFT SQUARE BRACKET,REVERSE SOLIDUS,RIGHT SQUARE BRACKET,CIRCUMFLEX ACCENT",
      "LOW LINE,GRAVE ACCENT"]⟩,
    ⟨0x0061, "LATIN SMALL LETTER ", ["A,B,C,D,E,F,G,H,I,J,K,L,M,N,O,P,Q,R,S,T,U,V,W,X,Y,Z"]⟩,
    ⟨0x007B, "", ["LEFT CURLY BRACKET,VERTICAL LINE,RIGHT CURLY BRACKET,TILDE"]⟩,
    ⟨0x00A0, "", ["NO-BREAK SPACE,INVERTED EXCLAMATION MARK,CENT SIGN,POUND SIGN,CURRENCY SIGN",
      "YEN SIGN,BROKEN BAR,SECTION SIGN,DIAERESIS,COPYRIGHT SIGN,FEMININE ORDINAL INDICATOR",
      "LEFT-POINTING DOUBLE ANGLE QUOTATION MARK,NOT SIGN,SOFT HYPHEN,REGISTERED SIGN,MACRON",
      "DEGREE SIGN,PLUS-MINUS SIGN,SUPERSCRIPT TWO,SUPERSCRIPT THREE,ACUTE ACCENT,MICRO SIGN",
      "PILCROW SIGN,MIDDLE DOT,CEDILLA,SUPERSCRIPT ONE,MASCULINE ORDINAL INDICATOR",
      "RIGHT-POINTING DOUBLE ANGLE QUOTATION MARK,VULGAR FRACTION ONE QUARTER",
      "VULGAR FRACTION ONE HALF,VULGAR FRACTION THREE QUARTERS,INVERTED QUESTION MARK,,,,,,,,,,",
      ",,,,,,,,,,,,,MULTIPLICATION SIGN"]⟩,
    ⟨0x00C0, "LATIN CAPITAL LETTER ", ["A WITH GRAVE,A WITH ACUTE,A WITH CIRCUMFLEX",
      "A WITH TILDE,A WITH DIAERESIS,A WITH RING ABOVE,AE,C WITH CEDILLA,E WITH GRAVE",
      "E WITH ACUTE,E WITH CIRCUMFLEX,E WITH DIAERESIS,I WITH GRAVE,I WITH ACUTE",
      "I WITH CIRCUMFLEX,I WITH DIAERESIS,ETH,N WITH TILDE,O WITH GRAVE,O WITH ACUTE",
      "O WITH CIRCUMFLEX,O WITH TILDE,O WITH DIAERESIS,,O WITH STROKE,U WITH GRAVE,U WITH ACUTE",
      "U WITH CIRCUMFLEX,U WITH DIAERESIS,Y WITH ACUTE,THORN,,,,,,,,,,,,,,,,,,,,,,,,,,,,,,,,,",
      "A WITH MACRON,,A WITH BREVE,,A WITH OGONEK,,C WITH ACUTE,,C WITH CIRCUMFLEX,",
      "C WITH DOT ABOVE,,C WITH CARON,,D WITH CARON,,D WITH STROKE,,E WITH MACRON,,E WITH BREVE",
      ",E WITH DOT ABOVE,,E WITH OGONEK,,E WITH CARON,,G WITH CIRCUMFLEX,,G WITH BREVE,",
      "G WITH DOT ABOVE,,G WITH CEDILLA,,H WITH CIRCUMFLEX,,H WITH STROKE,,I WITH TILDE,",
      "I WITH MACRON,,I WITH BREVE,,I WITH OGONEK,,I WITH DOT ABOVE,,,,J WITH CIRCUMFLEX,",
      "K WITH CEDILLA,,,L WITH ACUTE,,L WITH CEDILLA,,L WITH CARON,,L WITH MIDDLE DOT,",
      "L WITH STROKE,,N WITH ACUTE,,N WITH CEDILLA,,N WITH CARON,,,ENG,,O WITH MACRON,",
      "O WITH BREVE,,O WITH DOUBLE ACUTE,,,,R WITH ACUTE,,R WITH CEDILLA,,R WITH CARON,",
      "S WITH ACUTE,,S WITH CIRCUMFLEX,,S WITH CEDILLA,,S WITH CARON,,T WITH CEDILLA,",
      "T WITH CARON,,T WITH STROKE,,U WITH TILDE,,U WITH MACRON,,U WITH BREVE,",
      "U WITH RING ABOVE,,U WITH DOUBLE ACUTE,,U WITH OGONEK,,W WITH CIRCUMFLEX,",
      "Y WITH CIRCUMFLEX,,Y WITH DIAERESIS,Z WITH ACUTE,,Z WITH DOT ABOVE,,Z WITH CARON,,,",
      "B WITH HOOK,B WITH TOPBAR,,TONE SIX,,OPEN O,C WITH HOOK,,AFRICAN D,D WITH HOOK",
      "D WITH TOPBAR,,,REVERSED E,SCHWA,OPEN E,F WITH HOOK,,G WITH HOOK,GAMMA,,IOTA",
      "I WITH STROKE,K WITH HOOK,,,,TURNED M,N WITH LEFT HOOK,,O WITH MIDDLE TILDE,O WITH HORN,",
      "OI,,P WITH HOOK,,,TONE TWO,,ESH,,,T WITH HOOK,,T WITH RETROFLEX HOOK,U WITH HORN,",
      "UPSILON,V WITH HOOK,Y WITH HOOK,,Z WITH STROKE,,EZH,EZH REVERSED,,,,TONE FIVE,,,,,,,",
      "DZ WITH CARON,D WITH SMALL LETTER Z WITH CARON,,LJ,L WITH SMALL LETTER J,,NJ",
      "N WITH SMALL LETTER J,,A WITH CARON,,I WITH CARON,,O WITH CARON,,U WITH CARON,",
      "U WITH DIAERESIS AND MACRON,,U WITH DIAERESIS AND ACUTE,,U WITH DIAERESIS AND CARON,",
      "U WITH DIAERESIS AND GRAVE,,,A WITH DIAERESIS AND MACRON,,A WITH DOT ABOVE AND MACRON,",
      "AE WITH MACRON,,G WITH STROKE,,G WITH CARON,,K WITH CARON,,O WITH OGONEK,",
      "O WITH OGONEK AND MACRON,,EZH WITH CARON,,,DZ,D WITH SMALL LETTER Z,,G WITH ACUTE,,HWAIR",
      "WYNN,N WITH GRAVE,,A WITH RING ABOVE AND ACUTE,,AE WITH ACUTE,,O WITH STROKE AND ACUTE,",
      "A WITH DOUBLE GRAVE,,A WITH INVERTED BREVE,,E WITH DOUBLE GRAVE,,E WITH INVERTED BREVE,",
      "I WITH DOUBLE GRAVE,,I WITH INVERTED BREVE,,O WITH DOUBLE GRAVE,,O WITH INVERTED BREVE,",
      "R WITH DOUBLE GRAVE,,R WITH INVERTED BREVE,,U WITH DOUBLE GRAVE,,U WITH INVERTED BREVE,",
      "S WITH COMMA BELOW,,T WITH COMMA BELOW,,YOGH,,H WITH CARON,,N WITH LONG RIGHT LEG,,OU,",
      "Z WITH HOOK,,A WITH DOT ABOVE,,E WITH CEDILLA,,O WITH DIAERESIS AND MACRON,",
      "O WITH TILDE AND MACRON,,O WITH DOT ABOVE,,O WITH DOT ABOVE AND MACRON,,Y WITH MACRON,,,",
      ",,,,A WITH STROKE,C WITH STROKE,,L WITH BAR,T WITH DIAGONAL STROKE,,,GLOTTAL STOP,",
      "B WITH STROKE,U BAR,TURNED V,E WITH STROKE,,J WITH STROKE,,SMALL Q WITH HOOK TAIL,",
      "R WITH STROKE,,Y WITH STROKE"]⟩,
    ⟨0x00DF, "LATIN SMALL LETTER ", ["SHARP S,A WITH GRAVE,A WITH ACUTE,A WITH CIRCUMFLEX",
      "A WITH TILDE,A WITH DIAERESIS,A WITH RING ABOVE,AE,C WITH CEDILLA,E WITH GRAVE",
      "E WITH ACUTE,E WITH CIRCUMFLEX,E WITH DIAERESIS,I WITH GRAVE,I WITH ACUTE",
      "I WITH CIRCUMFLEX,I WITH DIAERESIS,ETH,N WITH TILDE,O WITH GRAVE,O WITH ACUTE",
      "O WITH CIRCUMFLEX,O WITH TILDE,O WITH DIAERESIS,,O WITH STROKE,U WITH GRAVE,U WITH ACUTE",
      "U WITH CIRCUMFLEX,U WITH DIAERESIS,Y WITH ACUTE,THORN,Y WITH DIAERESIS,,A WITH MACRON,",
      "A WITH BREVE,,A WITH OGONEK,,C WITH ACUTE,,C WITH CIRCUMFLEX,,C WITH DOT ABOVE,",
      "C WITH CARON,,D WITH CARON,,D WITH STROKE,,E WITH MACRON,,E WITH BREVE,,E WITH DOT ABOVE",
      ",E WITH OGONEK,,E WITH CARON,,G WITH CIRCUMFLEX,,G WITH BREVE,,G WITH DOT ABOVE,",
      "G WITH CEDILLA,,H WITH CIRCUMFLEX,,H WITH STROKE,,I WITH TILDE,,I WITH MACRON,",
      "I WITH BREVE,,I WITH OGONEK,,DOTLESS I,,,,J WITH CIRCUMFLEX,,K WITH CEDILLA,KRA,",
      "L WITH ACUTE,,L WITH CEDILLA,,L WITH CARON,,L WITH MIDDLE DOT,,L WITH STROKE,",
      "N WITH ACUTE,,N WITH CEDILLA,,N WITH CARON,N PRECEDED BY APOSTROPHE,,ENG,,O WITH MACRON,",
      "O WITH BREVE,,O WITH DOUBLE ACUTE,,,,R WITH ACUTE,,R WITH CEDILLA,,R WITH CARON,",
      "S WITH ACUTE,,S WITH CIRCUMFLEX,,S WITH CEDILLA,,S WITH CARON,,T WITH CEDILLA,",
      "T WITH CARON,,T WITH STROKE,,U WITH TILDE,,U WITH MACRON,,U WITH BREVE,",
      "U WITH RING ABOVE,,U WITH DOUBLE ACUTE,,U WITH OGONEK,,W WITH CIRCUMFLEX,",
      "Y WITH CIRCUMFLEX,,,Z WITH ACUTE,,Z WITH DOT ABOVE,,Z WITH CARON,LONG S,B WITH STROKE,,",
      "B WITH TOPBAR,,TONE SIX,,,C WITH HOOK,,,,D WITH TOPBAR,TURNED DELTA,,,,,F WITH HOOK,,,HV",
      ",,,K WITH HOOK,L WITH BAR,LAMBDA WITH STROKE,,,N WITH LONG RIGHT LEG,,,O WITH HORN,,OI,",
      "P WITH HOOK,,,TONE TWO,,,T WITH PALATAL HOOK,,T WITH HOOK,,,U WITH HORN,,,,Y WITH HOOK,",
      "Z WITH STROKE,,,EZH REVERSED,EZH WITH TAIL,,,TONE FIVE,,,,,,,,,DZ WITH CARON,,,LJ,,,NJ,",
      "A WITH CARON,,I WITH CARON,,O WITH CARON,,U WITH CARON,,U WITH DIAERESIS AND MACRON,",
      "U WITH DIAERESIS AND ACUTE,,U WITH DIAERESIS AND CARON,,U WITH DIAERESIS AND GRAVE",
      "TURNED E,,A WITH DIAERESIS AND MACRON,,A WITH DOT ABOVE AND MACRON,,AE WITH MACRON,",
      "G WITH STROKE,,G WITH CARON,,K WITH CARON,,O WITH OGONEK,,O WITH OGONEK AND MACRON,",
      "EZH WITH CARON,J WITH CARON,,,DZ,,G WITH ACUTE,,,,N WITH GRAVE,",
      "A WITH RING ABOVE AND ACUTE,,AE WITH ACUTE,,O WITH STROKE AND ACUTE,,A WITH DOUBLE GRAVE",
      ",A WITH INVERTED BREVE,,E WITH DOUBLE GRAVE,,E WITH INVERTED BREVE,,I WITH DOUBLE GRAVE,",
      "I WITH INVERTED BREVE,,O WITH DOUBLE GRAVE,,O WITH INVERTED BREVE,,R WITH DOUBLE GRAVE,",
      "R WITH INVERTED BREVE,,U WITH DOUBLE GRAVE,,U WITH INVERTED BREVE,,S WITH COMMA BELOW,",
      "T WITH COMMA BELOW,,YOGH,,H WITH CARON,,D WITH CURL,,OU,,Z WITH HOOK,,A WITH DOT ABOVE,",
      "E WITH CEDILLA,,O WITH DIAERESIS AND MACRON,,O WITH TILDE AND MACRON,,O WITH DOT ABOVE,",
      "O WITH DOT ABOVE AND MACRON,,Y WITH MACRON,L WITH CURL,N WITH CURL,T WITH CURL,DOTLESS J",
      "DB DIGRAPH,QP DIGRAPH,,,C WITH STROKE,,,S WITH SWASH TAIL,Z WITH SWASH TAIL,",
      "GLOTTAL STOP,,,,,E WITH STROKE,,J WITH STROKE,,Q WITH HOOK TAIL,,R WITH STROKE,",
      "Y WITH STROKE,TURNED A,ALPHA,TURNED ALPHA,B WITH HOOK,OPEN O,C WITH CURL,D WITH TAIL",
      "D WITH HOOK,REVERSED E,SCHWA,SCHWA WITH HOOK,OPEN E,REVERSED OPEN E",
      "REVERSED OPEN E WITH HOOK,CLOSED REVERSED OPEN E,DOTLESS J WITH STROKE,G WITH HOOK",
      "SCRIPT G,,GAMMA,RAMS HORN,TURNED H,H WITH HOOK,HENG WITH HOOK,I WITH STROKE,IOTA,",
      "L WITH MIDDLE TILDE,L WITH BELT,L WITH RETROFLEX HOOK,LEZH,TURNED M",
      "TURNED M WITH LONG LEG,M WITH HOOK,N WITH LEFT HOOK,N WITH RETROFLEX HOOK,,BARRED O,",
      "CLOSED OMEGA,PHI,TURNED R,TURNED R WITH LONG LEG,TURNED R WITH HOOK,R WITH LONG LEG",
      "R WITH TAIL,R WITH FISHHOOK,REVERSED R WITH FISHHOOK,,,S WITH HOOK,ESH",
      "DOTLESS J WITH STROKE AND HOOK,SQUAT REVERSED ESH,ESH WITH CURL,TURNED T",
      "T WITH RETROFLEX HOOK,U BAR,UPSILON,V WITH HOOK,TURNED V,TURNED W,TURNED Y,",
      "Z WITH RETROFLEX HOOK,Z WITH CURL,EZH,EZH WITH CURL,,,,,,,CLOSED OPEN E,,",
      "J WITH CROSSED-TAIL,TURNED K,,Q WITH HOOK,,,DZ DIGRAPH,DEZH DIGRAPH,DZ DIGRAPH WITH CURL",
      "TS DIGRAPH,TESH DIGRAPH,TC DIGRAPH WITH CURL,FENG DIGRAPH,LS DIGRAPH,LZ DIGRAPH,,",
      "TURNED H WITH FISHHOOK,TURNED H WITH FISHHOOK AND TAIL"]⟩,
    ⟨0x00F7, "", ["DIVISION SIGN"]⟩,
    ⟨0x0132, "", ["LATIN CAPITAL LIGATURE IJ,LATIN SMALL LIGATURE IJ"]⟩,
    ⟨0x0152, "", ["LATIN CAPITAL LIGATURE OE,LATIN SMALL LIGATURE OE"]⟩,
    ⟨0x01A6, "LATIN LETTER ", ["YR,,,,REVERSED ESH LOOP,,,,,,,,,,,,,,,,,TWO WITH STROKE,,",
      "INVERTED GLOTTAL STOP WITH STROKE,WYNN,DENTAL CLICK,LATERAL CLICK,ALVEOLAR CLICK",
      "RETROFLEX CLICK"]⟩,
    ⟨0x0262, "LATIN LETTER ", ["SMALL CAPITAL G,,,,,,,,SMALL CAPITAL I,,,,,,,,,,SMALL CAPITAL N",
      ",SMALL CAPITAL OE,,,,,,,,,,SMALL CAPITAL R,SMALL CAPITAL INVERTED R,,,,,,,,,,,,,",
      "SMALL CAPITAL Y,,,,,GLOTTAL STOP,PHARYNGEAL VOICED FRICATIVE,INVERTED GLOTTAL STOP",
      "STRETCHED C,BILABIAL CLICK,SMALL CAPITAL B,,SMALL CAPITAL G WITH HOOK,SMALL CAPITAL H,,",
      "SMALL CAPITAL L,,GLOTTAL STOP WITH STROKE,REVERSED GLOTTAL STOP WITH STROKE,,,,,,,,,",
      "BILABIAL PERCUSSIVE,BIDENTAL PERCUSSIVE"]⟩,
    ⟨0x02B0, "MODIFIER LETTER ", ["SMALL H,SMALL H WITH HOOK,SMALL J,SMALL R,SMALL TURNED R",
      "SMALL TURNED R WITH HOOK,SMALL CAPITAL INVERTED R,SMALL W,SMALL Y,PRIME,DOUBLE PRIME",
      "TURNED COMMA,APOSTROPHE,REVERSED COMMA,RIGHT HALF RING,LEFT HALF RING,GLOTTAL STOP",
      "REVERSED GLOTTAL STOP,LEFT ARROWHEAD,RIGHT ARROWHEAD,UP ARROWHEAD,DOWN ARROWHEAD",
      "CIRCUMFLEX ACCENT,,VERTICAL LINE,MACRON,ACUTE ACCENT,GRAVE ACCENT,LOW VERTICAL LINE",
      "LOW MACRON,LOW GRAVE ACCENT,LOW ACUTE ACCENT,TRIANGULAR COLON,HALF TRIANGULAR COLON",
      "CENTRED RIGHT HALF RING,CENTRED LEFT HALF RING,UP TACK,DOWN TACK,PLUS SIGN,MINUS SIGN,,,",
      ",,,RHOTIC HOOK,CROSS ACCENT,SMALL GAMMA,SMALL L,SMALL S,SMALL X",
      "SMALL REVERSED GLOTTAL STOP,EXTRA-HIGH TONE BAR,HIGH TONE BAR,MID TONE BAR,LOW TONE BAR",
      "EXTRA-LOW TONE BAR,YIN DEPARTING TONE MARK,YANG DEPARTING TONE MARK,VOICING,UNASPIRATED",
      "DOUBLE APOSTROPHE,LOW DOWN ARROWHEAD,LOW UP ARROWHEAD,LOW LEFT ARROWHEAD",
      "LOW RIGHT ARROWHEAD,LOW RING,MIDDLE GRAVE ACCENT,MIDDLE DOUBLE GRAVE ACCENT",
      "MIDDLE DOUBLE ACUTE ACCENT,LOW TILDE,RAISED COLON,BEGIN HIGH TONE,END HIGH TONE",
      "BEGIN LOW TONE,END LOW TONE,SHELF,OPEN SHELF,LOW LEFT ARROW"]⟩,
    ⟨0x02C7, "", ["CARON,,,,,,,,,,,,,,,,,BREVE,DOT ABOVE,RING ABOVE,OGONEK,SMALL TILDE",
      "DOUBLE ACUTE ACCENT"]⟩,
    ⟨0x0300, "COMBINING ", ["GRAVE ACCENT,ACUTE ACCENT,CIRCUMFLEX ACCENT,TILDE,MACRON,OVERLINE",
      "BREVE,DOT ABOVE,DIAERESIS,HOOK ABOVE,RING ABOVE,DOUBLE ACUTE ACCENT,CARON",
      "VERTICAL LINE ABOVE,DOUBLE VERTICAL LINE ABOVE,DOUBLE GRAVE ACCENT,CANDRABINDU",
      "INVERTED BREVE,TURNED COMMA ABOVE,COMMA ABOVE,REVERSED COMMA ABOVE,COMMA ABOVE RIGHT",
      "GRAVE ACCENT BELOW,ACUTE ACCENT BELOW,LEFT TACK BELOW,RIGHT TACK BELOW,LEFT ANGLE ABOVE",
      "HORN,LEFT HALF RING BELOW,UP TACK BELOW,DOWN TACK BELOW,PLUS SIGN BELOW,MINUS SIGN BELOW",
      "PALATALIZED HOOK BELOW,RETROFLEX HOOK BELOW,DOT BELOW,DIAERESIS BELOW,RING BELOW",
      "COMMA BELOW,CEDILLA,OGONEK,VERTICAL LINE BELOW,BRIDGE BELOW,INVERTED DOUBLE ARCH BELOW",
      "CARON BELOW,CIRCUMFLEX ACCENT BELOW,BREVE BELOW,INVERTED BREVE BELOW,TILDE BELOW",
      "MACRON BELOW,LOW LINE,DOUBLE LOW LINE,TILDE OVERLAY,SHORT STROKE OVERLAY",
      "LONG STROKE OVERLAY,SHORT SOLIDUS OVERLAY,LONG SOLIDUS OVERLAY,RIGHT HALF RING BELOW",
      "INVERTED BRIDGE BELOW,SQUARE BELOW,SEAGULL BELOW,X ABOVE,VERTICAL TILDE,DOUBLE OVERLINE",
      "GRAVE TONE MARK,ACUTE TONE MARK,GREEK PERISPOMENI,GREEK KORONIS,GREEK DIALYTIKA TONOS",
      "GREEK YPOGEGRAMMENI,BRIDGE ABOVE,EQUALS SIGN BELOW,DOUBLE VERTICAL LINE BELOW",
      "LEFT ANGLE BELOW,NOT TILDE ABOVE,HOMOTHETIC ABOVE,ALMOST EQUAL TO ABOVE",
      "LEFT RIGHT ARROW BELOW,UPWARDS ARROW BELOW,GRAPHEME JOINER,RIGHT ARROWHEAD ABOVE",
      "LEFT HALF RING ABOVE,FERMATA,X BELOW,LEFT ARROWHEAD BELOW,RIGHT ARROWHEAD BELOW",
      "RIGHT ARROWHEAD AND UP ARROWHEAD BELOW,RIGHT HALF RING ABOVE,DOT ABOVE RIGHT",
      "ASTERISK BELOW,DOUBLE RING BELOW,ZIGZAG ABOVE,DOUBLE BREVE BELOW,DOUBLE BREVE",
      "DOUBLE MACRON,DOUBLE MACRON BELOW,DOUBLE TILDE,DOUBLE INVERTED BREVE",
      "DOUBLE RIGHTWARDS ARROW BELOW"]⟩,
    ⟨0x0363, "COMBINING LATIN SMALL LETTER ", ["A,E,I,O,U,C,D,H,M,R,T,V,X"]⟩,
    ⟨0x0370, "GREEK CAPITAL LETTER ", ["HETA,,ARCHAIC SAMPI,,,,PAMPHYLIAN DIGAMMA,,,,,,,,,YOT,,",
      ",,,,ALPHA WITH TONOS,,EPSILON WITH TONOS,ETA WITH TONOS,IOTA WITH TONOS,",
      "OMICRON WITH TONOS,,UPSILON WITH TONOS,OMEGA WITH TONOS,,ALPHA,BETA,GAMMA,DELTA,EPSILON",
      "ZETA,ETA,THETA,IOTA,KAPPA,LAMDA,MU,NU,XI,OMICRON,PI,RHO,,SIGMA,TAU,UPSILON,PHI,CHI,PSI",
      "OMEGA,IOTA WITH DIALYTIKA,UPSILON WITH DIALYTIKA"]⟩,
    ⟨0x0371, "GREEK SMALL LETTER ", ["HETA,,ARCHAIC SAMPI,,,,PAMPHYLIAN DIGAMMA,,,,,,,,,,,,,,,,",
      ",,,,,,,,IOTA WITH DIALYTIKA AND TONOS,,,,,,,,,,,,,,,,,,,,,,,,,,,,ALPHA WITH TONOS",
      "EPSILON WITH TONOS,ETA WITH TONOS,IOTA WITH TONOS,UPSILON WITH DIALYTIKA AND TONOS,ALPHA",
      "BETA,GAMMA,DELTA,EPSILON,ZETA,ETA,THETA,IOTA,KAPPA,LAMDA,MU,NU,XI,OMICRON,PI,RHO",
      "FINAL SIGMA,SIGMA,TAU,UPSILON,PHI,CHI,PSI,OMEGA,IOTA WITH DIALYTIKA",
      "UPSILON WITH DIALYTIKA,OMICRON WITH TONOS,UPSILON WITH TONOS,OMEGA WITH TONOS,,,,,,,,,,",
      "ARCHAIC KOPPA,,STIGMA,,DIGAMMA,,KOPPA,,SAMPI,,,,,,,,,,,,,,,,,,,,,,,SHO,,,SAN"]⟩,
    ⟨0x0374, "GREEK ", ["NUMERAL SIGN,LOWER NUMERAL SIGN,,,,,YPOGEGRAMMENI",
      "SMALL REVERSED LUNATE SIGMA SYMBOL,SMALL DOTTED LUNATE SIGMA SYMBOL",
      "SMALL REVERSED DOTTED LUNATE SIGMA SYMBOL,QUESTION MARK,,,,,,TONOS,DIALYTIKA TONOS,",
      "ANO TELEIA"]⟩,
    ⟨0x03CF, "GREEK ", ["CAPITAL KAI SYMBOL,BETA SYMBOL,THETA SYMBOL,UPSILON WITH HOOK SYMBOL",
      "UPSILON WITH ACUTE AND HOOK SYMBOL,UPSILON WITH DIAERESIS AND HOOK SYMBOL,PHI SYMBOL",
      "PI SYMBOL,KAI SYMBOL,LETTER ARCHAIC KOPPA,,LETTER STIGMA,,LETTER DIGAMMA,,LETTER KOPPA,",
      "LETTER SAMPI,,,,,,,,,,,,,,,,KAPPA SYMBOL,RHO SYMBOL,LUNATE SIGMA SYMBOL,LETTER YOT",
      "CAPITAL THETA SYMBOL,LUNATE EPSILON SYMBOL,REVERSED LUNATE EPSILON SYMBOL",
      "CAPITAL LETTER SHO,,CAPITAL LUNATE SIGMA SYMBOL,CAPITAL LETTER SAN,",
      "RHO WITH STROKE SYMBOL,CAPITAL REVERSED LUNATE SIGMA SYMBOL",
      "CAPITAL DOTTED LUNATE SIGMA SYMBOL,CAPITAL REVERSED DOTTED LUNATE SIGMA SYMBOL"]⟩,
    ⟨0x03E2, "COPTIC CAPITAL ", ["LETTER SHEI,,LETTER FEI,,LETTER KHEI,,LETTER HORI,",
      "LETTER GANGIA,,LETTER SHIMA,,LETTER DEI"]⟩,
    ⟨0x03E3, "COPTIC ", ["SMALL LETTER SHEI,,SMALL LETTER FEI,,SMALL LETTER KHEI,",
      "SMALL LETTER HORI,,SMALL LETTER GANGIA,,SMALL LETTER SHIMA,,SMALL LETTER DEI"]⟩,
    ⟨0x0400, "CYRILLIC CAPITAL LETTER ", ["IE WITH GRAVE,IO,DJE,GJE,UKRAINIAN IE,DZE",
      "BYELORUSSIAN-UKRAINIAN I,YI,JE,LJE,NJE,TSHE,KJE,I WITH GRAVE,SHORT U,DZHE,A,BE,VE,GHE,DE",
      "IE,ZHE,ZE,I,SHORT I,KA,EL,EM,EN,O,PE,ER,ES,TE,U,EF,HA,TSE,CHE,SHA,SHCHA,HARD SIGN,YERU",
      "SOFT SIGN,E,YU,YA,,,,,,,,,,,,,,,,,,,,,,,,,,,,,,,,,,,,,,,,,,,,,,,,,OMEGA,,YAT,,IOTIFIED E",
      ",LITTLE YUS,,IOTIFIED LITTLE YUS,,BIG YUS,,IOTIFIED BIG YUS,,KSI,,PSI,,FITA,,IZHITSA,",
      "IZHITSA WITH DOUBLE GRAVE ACCENT,,UK,,ROUND OMEGA,,OMEGA WITH TITLO,,OT,,KOPPA,,,,,,,,,",
      "SHORT I WITH TAIL,,SEMISOFT SIGN,,ER WITH TICK,,GHE WITH UPTURN,,GHE WITH STROKE,",
      "GHE WITH MIDDLE HOOK,,ZHE WITH DESCENDER,,ZE WITH DESCENDER,,KA WITH DESCENDER,",
      "KA WITH VERTICAL STROKE,,KA WITH STROKE,,BASHKIR KA,,EN WITH DESCENDER,,,",
      "PE WITH MIDDLE HOOK,,ABKHASIAN HA,,ES WITH DESCENDER,,TE WITH DESCENDER,,STRAIGHT U,",
      "STRAIGHT U WITH STROKE,,HA WITH DESCENDER,,,,CHE WITH DESCENDER,",
      "CHE WITH VERTICAL STROKE,,SHHA,,ABKHASIAN CHE,,ABKHASIAN CHE WITH DESCENDER,,",
      "ZHE WITH BREVE,,KA WITH HOOK,,EL WITH TAIL,,EN WITH HOOK,,EN WITH TAIL,,KHAKASSIAN CHE,",
      "EM WITH TAIL,,,A WITH BREVE,,A WITH DIAERESIS,,,,IE WITH BREVE,,SCHWA,",
      "SCHWA WITH DIAERESIS,,ZHE WITH DIAERESIS,,ZE WITH DIAERESIS,,ABKHASIAN DZE,",
      "I WITH MACRON,,I WITH DIAERESIS,,O WITH DIAERESIS,,BARRED O,,BARRED O WITH DIAERESIS,",
      "E WITH DIAERESIS,,U WITH MACRON,,U WITH DIAERESIS,,U WITH DOUBLE ACUTE,",
      "CHE WITH DIAERESIS,,GHE WITH DESCENDER,,YERU WITH DIAERESIS,,GHE WITH STROKE AND HOOK,",
      "HA WITH HOOK,,HA WITH STROKE,,KOMI DE,,KOMI DJE,,KOMI ZJE,,KOMI DZJE,,KOMI LJE,,KOMI NJE",
      ",KOMI SJE,,KOMI TJE,,REVERSED ZE,,EL WITH HOOK,,LHA,,RHA,,YAE,,QA,,WE,,ALEUT KA,",
      "EL WITH MIDDLE HOOK,,EN WITH MIDDLE HOOK,,PE WITH DESCENDER,,SHHA WITH DESCENDER,",
      "EN WITH LEFT HOOK,,DZZHE,,DCHE,,EL WITH DESCENDER"]⟩,
    ⟨0x0430, "CYRILLIC SMALL LETTER ", ["A,BE,VE,GHE,DE,IE,ZHE,ZE,I,SHORT I,KA,EL,EM,EN,O,PE,ER",
      "ES,TE,U,EF,HA,TSE,CHE,SHA,SHCHA,HARD SIGN,YERU,SOFT SIGN,E,YU,YA,IE WITH GRAVE,IO,DJE",
      "GJE,UKRAINIAN IE,DZE,BYELORUSSIAN-UKRAINIAN I,YI,JE,LJE,NJE,TSHE,KJE,I WITH GRAVE",
      "SHORT U,DZHE,,OMEGA,,YAT,,IOTIFIED E,,LITTLE YUS,,IOTIFIED LITTLE YUS,,BIG YUS,",
      "IOTIFIED BIG YUS,,KSI,,PSI,,FITA,,IZHITSA,,IZHITSA WITH DOUBLE GRAVE ACCENT,,UK,",
      "ROUND OMEGA,,OMEGA WITH TITLO,,OT,,KOPPA,,,,,,,,,,SHORT I WITH TAIL,,SEMISOFT SIGN,",
      "ER WITH TICK,,GHE WITH UPTURN,,GHE WITH STROKE,,GHE WITH MIDDLE HOOK,,ZHE WITH DESCENDER",
      ",ZE WITH DESCENDER,,KA WITH DESCENDER,,KA WITH VERTICAL STROKE,,KA WITH STROKE,",
      "BASHKIR KA,,EN WITH DESCENDER,,,,PE WITH MIDDLE HOOK,,ABKHASIAN HA,,ES WITH DESCENDER,",
      "TE WITH DESCENDER,,STRAIGHT U,,STRAIGHT U WITH STROKE,,HA WITH DESCENDER,,,",
      "CHE WITH DESCENDER,,CHE WITH VERTICAL STROKE,,SHHA,,ABKHASIAN CHE,",
      "ABKHASIAN CHE WITH DESCENDER,,,ZHE WITH BREVE,,KA WITH HOOK,,EL WITH TAIL,,EN WITH HOOK,",
      "EN WITH TAIL,,KHAKASSIAN CHE,,EM WITH TAIL,PALOCHKA,,A WITH BREVE,,A WITH DIAERESIS,,,",
      "IE WITH BREVE,,SCHWA,,SCHWA WITH DIAERESIS,,ZHE WITH DIAERESIS,,ZE WITH DIAERESIS,",
      "ABKHASIAN DZE,,I WITH MACRON,,I WITH DIAERESIS,,O WITH DIAERESIS,,BARRED O,",
      "BARRED O WITH DIAERESIS,,E WITH DIAERESIS,,U WITH MACRON,,U WITH DIAERESIS,",
      "U WITH DOUBLE ACUTE,,CHE WITH DIAERESIS,,GHE WITH DESCENDER,,YERU WITH DIAERESIS,",
      "GHE WITH STROKE AND HOOK,,HA WITH HOOK,,HA WITH STROKE,,KOMI DE,,KOMI DJE,,KOMI ZJE,",
      "KOMI DZJE,,KOMI LJE,,KOMI NJE,,KOMI SJE,,KOMI TJE,,REVERSED ZE,,EL WITH HOOK,,LHA,,RHA,",
      "YAE,,QA,,WE,,ALEUT KA,,EL WITH MIDDLE HOOK,,EN WITH MIDDLE HOOK,,PE WITH DESCENDER,",
      "SHHA WITH DESCENDER,,EN WITH LEFT HOOK,,DZZHE,,DCHE,,EL WITH DESCENDER"]⟩,
    ⟨0x0482, "", ["CYRILLIC THOUSANDS SIGN"]⟩,
    ⟨0x0483, "COMBINING CYRILLIC ", ["TITLO,PALATALIZATION,DASIA PNEUMATA,PSILI PNEUMATA",
      "POKRYTIE,HUNDRED THOUSANDS SIGN,MILLIONS SIGN"]⟩,
    ⟨0x04A4, "", ["CYRILLIC CAPITAL LIGATURE EN GHE,CYRILLIC SMALL LIGATURE EN GHE,,,,,,,,,,,,,",
      ",CYRILLIC CAPITAL LIGATURE TE TSE,CYRILLIC SMALL LIGATURE TE TSE,,,,,,,,,,",
      "CYRILLIC LETTER PALOCHKA,,,,,,,,,,,,,,,,,,,,CYRILLIC CAPITAL LIGATURE A IE",
      "CYRILLIC SMALL LIGATURE A IE"]⟩,
    ⟨0x0531, "ARMENIAN CAPITAL LETTER ", ["AYB,BEN,GIM,DA,ECH,ZA,EH,ET,TO,ZHE,INI,LIWN,XEH,CA",
      "KEN,HO,JA,GHAD,CHEH,MEN,YI,NOW,SHA,VO,CHA,PEH,JHEH,RA,SEH,VEW,TIWN,REH,CO,YIWN,PIWR,KEH",
      "OH,FEH"]⟩,
    ⟨0x0559, "ARMENIAN ", ["MODIFIER LETTER LEFT HALF RING,APOSTROPHE,EMPHASIS MARK",
      "EXCLAMATION MARK,COMMA,QUESTION MARK,ABBREVIATION MARK"]⟩,
    ⟨0x0560, "ARMENIAN SMALL LETTER ", ["TURNED AYB,AYB,BEN,GIM,DA,ECH,ZA,EH,ET,TO,ZHE,INI,LIWN",
      "XEH,CA,KEN,HO,JA,GHAD,CHEH,MEN,YI,NOW,SHA,VO,CHA,PEH,JHEH,RA,SEH,VEW,TIWN,REH,CO,YIWN",
      "PIWR,KEH,OH,FEH,,YI WITH STROKE"]⟩,
    ⟨0x0587, "", ["ARMENIAN SMALL LIGATURE ECH YIWN,,ARMENIAN FULL STOP,ARMENIAN HYPHEN,,",
      "RIGHT-FACING ARMENIAN ETERNITY SIGN,LEFT-FACING ARMENIAN ETERNITY SIGN",
      "ARMENIAN DRAM SIGN"]⟩,
    ⟨0x0591, "HEBREW ACCENT ", ["ETNAHTA,SEGOL,SHALSHELET,ZAQEF QATAN,ZAQEF GADOL,TIPEHA,REVIA",
      "ZARQA,PASHTA,YETIV,TEVIR,GERESH,GERESH MUQDAM,GERSHAYIM,QARNEY PARA,TELISHA GEDOLA,PAZER",
      "ATNAH HAFUKH,MUNAH,MAHAPAKH,MERKHA,MERKHA KEFULA,DARGA,QADMA,TELISHA QETANA",
      "YERAH BEN YOMO,OLE,ILUY,DEHI,ZINOR"]⟩,
    ⟨0x05AF, "", ["HEBREW MARK MASORA CIRCLE,,,,,,,,,,,,,,,HEBREW PUNCTUATION MAQAF,",
      "HEBREW PUNCTUATION PASEQ,,,HEBREW PUNCTUATION SOF PASUQ,HEBREW MARK UPPER DOT",
      "HEBREW MARK LOWER DOT,HEBREW PUNCTUATION NUN HAFUKHA"]⟩,
    ⟨0x05B0, "HEBREW POINT ", ["SHEVA,HATAF SEGOL,HATAF PATAH,HATAF QAMATS,HIRIQ,TSERE,SEGOL",
      "PATAH,QAMATS,HOLAM,HOLAM HASER FOR VAV,QUBUTS,DAGESH OR MAPIQ,METEG,,RAFE,,SHIN DOT",
      "SIN DOT,,,,,QAMATS QATAN"]⟩,
    ⟨0x05D0, "HEBREW LETTER ", ["ALEF,BET,GIMEL,DALET,HE,VAV,ZAYIN,HET,TET,YOD,FINAL KAF,KAF",
      "LAMED,FINAL MEM,MEM,FINAL NUN,NUN,SAMEKH,AYIN,FINAL PE,PE,FINAL TSADI,TSADI,QOF,RESH",
      "SHIN,TAV"]⟩,
    ⟨0x05EF, "HEBREW ", ["YOD TRIANGLE,LIGATURE YIDDISH DOUBLE VAV,LIGATURE YIDDISH VAV YOD",
      "LIGATURE YIDDISH DOUBLE YOD,PUNCTUATION GERESH,PUNCTUATION GERSHAYIM"]⟩,
    ⟨0x0600, "ARABIC ", ["NUMBER SIGN,SIGN SANAH,FOOTNOTE MARKER,SIGN SAFHA,SIGN SAMVAT",
      "NUMBER MARK ABOVE,,,RAY,,,,COMMA,DATE SEPARATOR,POETIC VERSE SIGN,SIGN MISRA",
      "SIGN SALLALLAHOU ALAYHE WASSALLAM,SIGN ALAYHE ASSALLAM,SIGN RAHMATULLAH ALAYHE",
      "SIGN RADI ALLAHOU ANHU,SIGN TAKHALLUS,SMALL HIGH TAH",
      "SMALL HIGH LIGATURE ALEF WITH LAM WITH YEH,SMALL HIGH ZAIN,SMALL FATHA,SMALL DAMMA",
      "SMALL KASRA,SEMICOLON,,END OF TEXT MARK,TRIPLE DOT PUNCTUATION MARK,QUESTION MARK,,,,,,,",
      ",,,,,,,,,,,,,,,,,,,,,,,,,TATWEEL,,,,,,,,,,,FATHATAN,DAMMATAN,KASRATAN,FATHA,DAMMA,KASRA",
      "SHADDA,SUKUN,MADDAH ABOVE,HAMZA ABOVE,HAMZA BELOW,SUBSCRIPT ALEF,INVERTED DAMMA",
      "MARK NOON GHUNNA,ZWARAKAY,VOWEL SIGN SMALL V ABOVE,VOWEL SIGN INVERTED SMALL V ABOVE",
      "VOWEL SIGN DOT BELOW,REVERSED DAMMA,FATHA WITH TWO DOTS,WAVY HAMZA BELOW,,,,,,,,,,",
      "PERCENT SIGN,DECIMAL SEPARATOR,THOUSANDS SEPARATOR,FIVE POINTED STAR"]⟩,
    ⟨0x0606, "", ["ARABIC-INDIC CUBE ROOT,ARABIC-INDIC FOURTH ROOT,,ARABIC-INDIC PER MILLE SIGN",
      "ARABIC-INDIC PER TEN THOUSAND SIGN,AFGHANI SIGN"]⟩,
    ⟨0x061C, "ARABIC LETTER ", ["MARK,,,,KASHMIRI YEH,HAMZA,ALEF WITH MADDA ABOVE",
      "ALEF WITH HAMZA ABOVE,WAW WITH HAMZA ABOVE,ALEF WITH HAMZA BELOW,YEH WITH HAMZA ABOVE",
      "ALEF,BEH,TEH MARBUTA,TEH,THEH,JEEM,HAH,KHAH,DAL,THAL,REH,ZAIN,SEEN,SHEEN,SAD,DAD,TAH,ZAH",
      "AIN,GHAIN,KEHEH WITH TWO DOTS ABOVE,KEHEH WITH THREE DOTS BELOW",
      "FARSI YEH WITH INVERTED V,FARSI YEH WITH TWO DOTS ABOVE,FARSI YEH WITH THREE DOTS ABOVE,",
      "FEH,QAF,KAF,LAM,MEEM,NOON,HEH,WAW,ALEF MAKSURA,YEH,,,,,,,,,,,,,,,,,,,,,,,,,,,,,,,,,,,",
      "DOTLESS BEH,DOTLESS QAF,SUPERSCRIPT ALEF,ALEF WASLA,ALEF WITH WAVY HAMZA ABOVE",
      "ALEF WITH WAVY HAMZA BELOW,HIGH HAMZA,HIGH HAMZA ALEF,HIGH HAMZA WAW,U WITH HAMZA ABOVE",
      "HIGH HAMZA YEH,TTEH,TTEHEH,BEEH,TEH WITH RING,TEH WITH THREE DOTS ABOVE DOWNWARDS,PEH",
      "TEHEH,BEHEH,HAH WITH HAMZA ABOVE,HAH WITH TWO DOTS VERTICAL ABOVE,NYEH,DYEH",
      "HAH WITH THREE DOTS ABOVE,TCHEH,TCHEHEH,DDAL,DAL WITH RING,DAL WITH DOT BELOW",
      "DAL WITH DOT BELOW AND SMALL TAH,DAHAL,DDAHAL,DUL,DAL WITH THREE DOTS ABOVE DOWNWARDS",
      "DAL WITH FOUR DOTS ABOVE,RREH,REH WITH SMALL V,REH WITH RING,REH WITH DOT BELOW",
      "REH WITH SMALL V BELOW,REH WITH DOT BELOW AND DOT ABOVE,REH WITH TWO DOTS ABOVE,JEH",
      "REH WITH FOUR DOTS ABOVE,SEEN WITH DOT BELOW AND DOT ABOVE,SEEN WITH THREE DOTS BELOW",
      "SEEN WITH THREE DOTS BELOW AND THREE DOTS ABOVE,SAD WITH TWO DOTS BELOW",
      "SAD WITH THREE DOTS ABOVE,TAH WITH THREE DOTS ABOVE,AIN WITH THREE DOTS ABOVE",
      "DOTLESS FEH,FEH WITH DOT MOVED BELOW,FEH WITH DOT BELOW,VEH,FEH WITH THREE DOTS BELOW",
      "PEHEH,QAF WITH DOT ABOVE,QAF WITH THREE DOTS ABOVE,KEHEH,SWASH KAF,KAF WITH RING",
      "KAF WITH DOT ABOVE,NG,KAF WITH THREE DOTS BELOW,GAF,GAF WITH RING,NGOEH",
      "GAF WITH TWO DOTS BELOW,GUEH,GAF WITH THREE DOTS ABOVE,LAM WITH SMALL V",
      "LAM WITH DOT ABOVE,LAM WITH THREE DOTS ABOVE,LAM WITH THREE DOTS BELOW",
      "NOON WITH DOT BELOW,NOON GHUNNA,RNOON,NOON WITH RING,NOON WITH THREE DOTS ABOVE",
      "HEH DOACHASHMEE,TCHEH WITH DOT ABOVE,HEH WITH YEH ABOVE,HEH GOAL",
      "HEH GOAL WITH HAMZA ABOVE,TEH MARBUTA GOAL,WAW WITH RING,KIRGHIZ OE,OE,U,YU,KIRGHIZ YU",
      "WAW WITH TWO DOTS ABOVE,VE,FARSI YEH,YEH WITH TAIL,YEH WITH SMALL V,WAW WITH DOT ABOVE,E",
      "YEH WITH THREE DOTS BELOW,YEH BARREE,YEH BARREE WITH HAMZA ABOVE,,AE,,,,,,,,,,,,,,,,,,,,",
      ",,,,DAL WITH INVERTED V,REH WITH INVERTED V,,,,,,,,,,,SHEEN WITH DOT BELOW",
      "DAD WITH DOT BELOW,GHAIN WITH DOT BELOW,,,HEH WITH INVERTED V"]⟩,
    ⟨0x0660, "ARABIC-INDIC DIGIT ", ["ZERO,ONE,TWO,THREE,FOUR,FIVE,SIX,SEVEN,EIGHT,NINE"]⟩,
    ⟨0x06D4, "ARABIC ", ["FULL STOP,,,,,,,,,END OF AYAH,START OF RUB EL HIZB,,,,,SMALL LOW SEEN",
      ",SMALL WAW,SMALL YEH,,,PLACE OF SAJDAH,EMPTY CENTRE LOW STOP,EMPTY CENTRE HIGH STOP",
      "ROUNDED HIGH STOP WITH FILLED CENTRE,SMALL LOW MEEM,,,,,,,,,,,,,,,,SIGN SINDHI AMPERSAND",
      "SIGN SINDHI POSTPOSITION MEN"]⟩,
    ⟨0x06D6, "ARABIC SMALL HIGH ", ["LIGATURE SAD WITH LAM WITH ALEF MAKSURA",
      "LIGATURE QAF WITH LAM WITH ALEF MAKSURA,MEEM INITIAL FORM,LAM ALEF,JEEM,THREE DOTS,SEEN,",
      ",ROUNDED ZERO,UPRIGHT RECTANGULAR ZERO,DOTLESS HEAD OF KHAH,MEEM ISOLATED FORM,,MADDA,,",
      "YEH,NOON"]⟩,
    ⟨0x06F0, "EXTENDED ARABIC-INDIC DIGIT ", ["ZERO,ONE,TWO,THREE,FOUR,FIVE,SIX,SEVEN,EIGHT",
      "NINE"]⟩,
    ⟨0x0700, "SYRIAC ", ["END OF PARAGRAPH,SUPRALINEAR FULL STOP,SUBLINEAR FULL STOP",
      "SUPRALINEAR COLON,SUBLINEAR COLON,HORIZONTAL COLON,COLON SKEWED LEFT,COLON SKEWED RIGHT",
      "SUPRALINEAR COLON SKEWED LEFT,SUBLINEAR COLON SKEWED RIGHT,CONTRACTION,HARKLEAN OBELUS",
      "HARKLEAN METOBELUS,HARKLEAN ASTERISCUS,,ABBREVIATION MARK,,,,,,,,,,,,,,,,,,,,,,,,,,,,,,,",
      ",PTHAHA ABOVE,PTHAHA BELOW,PTHAHA DOTTED,ZQAPHA ABOVE,ZQAPHA BELOW,ZQAPHA DOTTED",
      "RBASA ABOVE,RBASA BELOW,DOTTED ZLAMA HORIZONTAL,DOTTED ZLAMA ANGULAR,HBASA ABOVE",
      "HBASA BELOW,HBASA-ESASA DOTTED,ESASA ABOVE,ESASA BELOW,RWAHA,FEMININE DOT,QUSHSHAYA",
      "RUKKAKHA,TWO VERTICAL DOTS ABOVE,TWO VERTICAL DOTS BELOW,THREE DOTS ABOVE",
      "THREE DOTS BELOW,OBLIQUE LINE ABOVE,OBLIQUE LINE BELOW,MUSIC,BARREKH"]⟩,
    ⟨0x0710, "SYRIAC LETTER ", ["ALAPH,SUPERSCRIPT ALAPH,BETH,GAMAL,GAMAL GARSHUNI,DALATH",
      "DOTLESS DALATH RISH,HE,WAW,ZAIN,HETH,TETH,TETH GARSHUNI,YUDH,YUDH HE,KAPH,LAMADH,MIM,NUN",
      "SEMKATH,FINAL SEMKATH,E,PE,REVERSED PE,SADHE,QAPH,RISH,SHIN,TAW,PERSIAN BHETH",
      "PERSIAN GHAMAL,PERSIAN DHALATH,,,,,,,,,,,,,,,,,,,,,,,,,,,,,,SOGDIAN ZHAIN,SOGDIAN KHAPH",
      "SOGDIAN FE"]⟩,
    ⟨0x0750, "ARABIC LETTER ", ["BEH WITH THREE DOTS HORIZONTALLY BELOW",
      "BEH WITH DOT BELOW AND THREE DOTS ABOVE,BEH WITH THREE DOTS POINTING UPWARDS BELOW",
      "BEH WITH THREE DOTS POINTING UPWARDS BELOW AND TWO DOTS ABOVE",
      "BEH WITH TWO DOTS BELOW AND DOT ABOVE,BEH WITH INVERTED SMALL V BELOW,BEH WITH SMALL V",
      "HAH WITH TWO DOTS ABOVE,HAH WITH THREE DOTS POINTING UPWARDS BELOW",
      "DAL WITH TWO DOTS VERTICALLY BELOW AND SMALL TAH,DAL WITH INVERTED SMALL V BELOW",
      "REH WITH STROKE,SEEN WITH FOUR DOTS ABOVE,AIN WITH TWO DOTS ABOVE",
      "AIN WITH THREE DOTS POINTING DOWNWARDS ABOVE,AIN WITH TWO DOTS VERTICALLY ABOVE",
      "FEH WITH TWO DOTS BELOW,FEH WITH THREE DOTS POINTING UPWARDS BELOW,KEHEH WITH DOT ABOVE",
      "KEHEH WITH THREE DOTS ABOVE,KEHEH WITH THREE DOTS POINTING UPWARDS BELOW",
      "MEEM WITH DOT ABOVE,MEEM WITH DOT BELOW,NOON WITH TWO DOTS BELOW,NOON WITH SMALL TAH",
      "NOON WITH SMALL V,LAM WITH BAR,REH WITH TWO DOTS VERTICALLY ABOVE,REH WITH HAMZA ABOVE",
      "SEEN WITH TWO DOTS VERTICALLY ABOVE,HAH WITH SMALL ARABIC LETTER TAH BELOW",
      "HAH WITH SMALL ARABIC LETTER TAH AND TWO DOTS",
      "SEEN WITH SMALL ARABIC LETTER TAH AND TWO DOTS",
      "REH WITH SMALL ARABIC LETTER TAH AND TWO DOTS,HAH WITH SMALL ARABIC LETTER TAH ABOVE",
      "ALEF WITH EXTENDED ARABIC-INDIC DIGIT TWO ABOVE",
      "ALEF WITH EXTENDED ARABIC-INDIC DIGIT THREE ABOVE",
      "FARSI YEH WITH EXTENDED ARABIC-INDIC DIGIT TWO ABOVE",
      "FARSI YEH WITH EXTENDED ARABIC-INDIC DIGIT THREE ABOVE",
      "FARSI YEH WITH EXTENDED ARABIC-INDIC DIGIT FOUR BELOW",
      "WAW WITH EXTENDED ARABIC-INDIC DIGIT TWO ABOVE",
      "WAW WITH EXTENDED ARABIC-INDIC DIGIT THREE ABOVE",
      "YEH BARREE WITH EXTENDED ARABIC-INDIC DIGIT TWO ABOVE",
      "YEH BARREE WITH EXTENDED ARABIC-INDIC DIGIT THREE ABOVE",
      "HAH WITH EXTENDED ARABIC-INDIC DIGIT FOUR BELOW",
      "SEEN WITH EXTENDED ARABIC-INDIC DIGIT FOUR ABOVE,SEEN WITH INVERTED V",
      "KAF WITH TWO DOTS ABOVE"]⟩,
    ⟨0x0780, "THAANA LETTER ", ["HAA,SHAVIYANI,NOONU,RAA,BAA,LHAVIYANI,KAAFU,ALIFU,VAAVU,MEEMU",
      "FAAFU,DHAALU,THAA,LAAMU,GAAFU,GNAVIYANI,SEENU,DAVIYANI,ZAVIYANI,TAVIYANI,YAA,PAVIYANI",
      "JAVIYANI,CHAVIYANI,TTAA,HHAA,KHAA,THAALU,ZAA,SHEENU,SAADHU,DAADHU,TO,ZO,AINU,GHAINU",
      "QAAFU,WAAVU,,,,,,,,,,,,NAA"]⟩,
    ⟨0x07A6, "THAANA ", ["ABAFILI,AABAAFILI,IBIFILI,EEBEEFILI,UBUFILI,OOBOOFILI,EBEFILI",
      "EYBEYFILI,OBOFILI,OABOAFILI,SUKUN"]⟩,
    ⟨0x07C0, "NKO DIGIT ", ["ZERO,ONE,TWO,THREE,FOUR,FIVE,SIX,SEVEN,EIGHT,NINE"]⟩,
    ⟨0x07CA, "NKO LETTER ", ["A,EE,I,E,U,OO,O,DAGBASINNA,N,BA,PA,TA,JA,CHA,DA,RA,RRA,SA,GBA,FA",
      "KA,LA,NA WOLOSO,MA,NYA,NA,HA,WA,YA,NYA WOLOSO,JONA JA,JONA CHA,JONA RA"]⟩,
    ⟨0x07EB, "NKO COMBINING ", ["SHORT HIGH TONE,SHORT LOW TONE,SHORT RISING TONE",
      "LONG DESCENDING TONE,LONG HIGH TONE,LONG LOW TONE,LONG RISING TONE,NASALIZATION MARK",
      "DOUBLE DOT ABOVE"]⟩,
    ⟨0x07F4, "NKO ", ["HIGH TONE APOSTROPHE,LOW TONE APOSTROPHE,SYMBOL OO DENNEN",
      "SYMBOL GBAKURUNEN,COMMA,EXCLAMATION MARK,LAJANYALAN,,,DANTAYALAN,DOROME SIGN,TAMAN SIGN"]⟩,
    ⟨0x0800, "SAMARITAN LETTER ", ["ALAF,BIT,GAMAN,DALAT,IY,BAA,ZEN,IT,TIT,YUT,KAAF,LABAT,MIM",
      "NUN,SINGAAT,IN,FI,TSAADIY,QUF,RISH,SHAN,TAAF"]⟩,
    ⟨0x0816, "SAMARITAN ", ["MARK IN,MARK IN-ALAF,MARK OCCLUSION,MARK DAGESH",
      "MODIFIER LETTER EPENTHETIC YUT,MARK EPENTHETIC YUT,,,,,,,,,MODIFIER LETTER SHORT A,,,",
      "MODIFIER LETTER I,,,,,MARK NEQUDAA,,,,,,,,,ABBREVIATION MARK"]⟩,
    ⟨0x081C, "SAMARITAN VOWEL SIGN ", ["LONG E,E,OVERLONG AA,LONG AA,AA,OVERLONG A,LONG A,A,",
      "SHORT A,LONG U,U,,LONG I,I,O,SUKUN"]⟩,
    ⟨0x0830, "SAMARITAN PUNCTUATION ", ["NEQUDAA,AFSAAQ,ANGED,BAU,ATMAAU,SHIYYAALAA,",
      "MELODIC QITSA,ZIQAA,QITSA,ZAEF,TURU,ARKAANU,SOF MASHFAAT,ANNAAU"]⟩,
    ⟨0x0840, "MANDAIC LETTER ", ["HALQA,AB,AG,AD,AH,USHENNA,AZ,IT,ATT,AKSA,AK,AL,AM,AN,AS,IN,AP",
      "ASZ,AQ,AR,ASH,AT,DUSHENNA,KAD,AIN"]⟩,
    ⟨0x0859, "", ["MANDAIC AFFRICATION MARK,MANDAIC VOCALIZATION MARK,MANDAIC GEMINATION MARK,,",
      "MANDAIC PUNCTUATION"]⟩,
    ⟨0x0860, "SYRIAC LETTER MALAYALAM ", ["NGA,JA,NYA,TTA,NNA,NNNA,BHA,RA,LLA,LLLA,SSA"]⟩,
    ⟨0x0870, "ARABIC LETTER ALEF WITH ATTACHED ", ["FATHA,TOP RIGHT FATHA,,,KASRA",
      "BOTTOM RIGHT KASRA,ROUND DOT ABOVE,RIGHT ROUND DOT,LEFT ROUND DOT,ROUND DOT BELOW,",
      "TOP RIGHT FATHA AND DOT ABOVE,,BOTTOM RIGHT KASRA AND DOT ABOVE",
      "TOP RIGHT FATHA AND LEFT RING,,BOTTOM RIGHT KASRA AND LEFT RING,RIGHT HAMZA,LEFT HAMZA"]⟩,
    ⟨0x0872, "ARABIC LETTER ", ["ALEF WITH RIGHT MIDDLE STROKE,ALEF WITH LEFT MIDDLE STROKE,,,,",
      ",,ALEF WITH DOT ABOVE,,ALEF WITH RIGHT MIDDLE STROKE AND DOT ABOVE,,",
      "ALEF WITH RIGHT MIDDLE STROKE AND LEFT RING,,,,,,,THIN YEH,,,NOON WITH INVERTED SMALL V",
      "HAH WITH INVERTED SMALL V BELOW,TAH WITH DOT BELOW,TAH WITH THREE DOTS BELOW",
      "KEHEH WITH TWO DOTS VERTICALLY BELOW,,,,,,,,,,,,,,,,,,,BEH WITH SMALL V BELOW",
      "BEH WITH HAMZA ABOVE,JEEM WITH TWO DOTS ABOVE,TAH WITH TWO DOTS ABOVE",
      "FEH WITH DOT BELOW AND THREE DOTS ABOVE,QAF WITH DOT BELOW,LAM WITH DOUBLE BAR",
      "MEEM WITH THREE DOTS ABOVE,YEH WITH TWO DOTS BELOW AND HAMZA ABOVE",
      "YEH WITH TWO DOTS BELOW AND DOT ABOVE,REH WITH LOOP,WAW WITH DOT WITHIN,ROHINGYA YEH",
      "LOW ALEF,DAL WITH THREE DOTS BELOW,SAD WITH THREE DOTS BELOW,GAF WITH INVERTED STROKE",
      "STRAIGHT WAW,ZAIN WITH INVERTED V ABOVE,AIN WITH THREE DOTS BELOW,KAF WITH DOT BELOW",
      "QAF WITH DOT BELOW AND NO DOTS ABOVE,BEH WITH SMALL MEEM ABOVE,PEH WITH SMALL MEEM ABOVE",
      "TEH WITH SMALL TEH ABOVE,REH WITH SMALL NOON ABOVE",
      "YEH WITH TWO DOTS BELOW AND SMALL NOON ABOVE,AFRICAN FEH,AFRICAN QAF,AFRICAN NOON",
      "PEH WITH SMALL V,TEH WITH SMALL V,TTEH WITH SMALL V,TCHEH WITH SMALL V",
      "KEHEH WITH SMALL V,GHAIN WITH THREE DOTS ABOVE,AFRICAN QAF WITH THREE DOTS ABOVE",
      "JEEM WITH THREE DOTS ABOVE,JEEM WITH THREE DOTS BELOW",
      "LAM WITH SMALL ARABIC LETTER TAH ABOVE,GRAF"]⟩,
    ⟨0x0883, "ARABIC ", ["TATWEEL WITH OVERSTRUCK HAMZA,TATWEEL WITH OVERSTRUCK WAW",
      "TATWEEL WITH TWO DOTS BELOW,,BASELINE ROUND DOT,RAISED ROUND DOT,,,,,,VERTICAL TAIL,",
      "POUND MARK ABOVE,PIASTRE MARK ABOVE,,,,,,,SMALL HIGH WORD AL-JUZ,SMALL LOW WORD ISHMAAM",
      "SMALL LOW WORD IMAALA,SMALL LOW WORD TASHEEL,MADDA WAAJIB,SUPERSCRIPT ALEF MOKHASSAS",
      "DOUBLED MADDA,HALF MADDA OVER MADDA"]⟩,
    ⟨0x08C9, "ARABIC ", ["SMALL FARSI YEH,,,,,LARGE ROUND DOT ABOVE,LARGE ROUND DOT BELOW",
      "SUKUN BELOW,LARGE CIRCLE BELOW,LARGE ROUND DOT INSIDE CIRCLE BELOW,SMALL LOW WAW,,,,,",
      "SMALL LOW NOON WITH KASRA,,,,,,,,,DISPUTED END OF AYAH,TURNED DAMMA BELOW,CURLY FATHA",
      "CURLY DAMMA,CURLY KASRA,CURLY FATHATAN,CURLY DAMMATAN,CURLY KASRATAN,TONE ONE DOT ABOVE",
      "TONE TWO DOTS ABOVE,TONE LOOP ABOVE,TONE ONE DOT BELOW,TONE TWO DOTS BELOW",
      "TONE LOOP BELOW,OPEN FATHATAN,OPEN DAMMATAN,OPEN KASRATAN,,FATHA WITH RING",
      "FATHA WITH DOT ABOVE,KASRA WITH DOT BELOW,LEFT ARROWHEAD ABOVE,RIGHT ARROWHEAD ABOVE",
      "LEFT ARROWHEAD BELOW,RIGHT ARROWHEAD BELOW,DOUBLE RIGHT ARROWHEAD ABOVE",
      "DOUBLE RIGHT ARROWHEAD ABOVE WITH DOT,RIGHT ARROWHEAD ABOVE WITH DOT,DAMMA WITH DOT",
      "MARK SIDEWAYS NOON GHUNNA"]⟩,
    ⟨0x08CA, "ARABIC SMALL HIGH ", ["FARSI YEH,YEH BARREE WITH TWO DOTS BELOW,WORD SAH,ZAH,,,,,",
      ",WORD AR-RUB,SAD,AIN,QAF,NOON WITH KASRA,,WORD ATH-THALATHA,WORD AS-SAJDA,WORD AN-NISF",
      "WORD SAKTA,WORD QIF,WORD WAQFA,FOOTNOTE MARKER,SIGN SAFHA,,,,,,,,,,,,,,,,,,WAW"]⟩,
    ⟨0x0900, "DEVANAGARI ", ["SIGN INVERTED CANDRABINDU,SIGN CANDRABINDU,SIGN ANUSVARA",
      "SIGN VISARGA"]⟩,
    ⟨0x0904, "DEVANAGARI LETTER ", ["SHORT A,A,AA,I,II,U,UU,VOCALIC R,VOCALIC L,CANDRA E",
      "SHORT E,E,AI,CANDRA O,SHORT O,O,AU,KA,KHA,GA,GHA,NGA,CA,CHA,JA,JHA,NYA,TTA,TTHA,DDA,DDHA",
      "NNA,TA,THA,DA,DHA,NA,NNNA,PA,PHA,BA,BHA,MA,YA,RA,RRA,LA,LLA,LLLA,VA,SHA,SSA,SA,HA,,,,,,,",
      ",,,,,,,,,,,,,,,,,,,,,,,QA,KHHA,GHHA,ZA,DDDHA,RHA,FA,YYA,VOCALIC RR,VOCALIC LL,,,,,,,,,,,",
      ",,,,,CANDRA A,OE,OOE,AW,UE,UUE,MARWARI DDA,ZHA,HEAVY YA,GGA,JJA,GLOTTAL STOP,DDDA,BBA"]⟩,
    ⟨0x093A, "DEVANAGARI VOWEL SIGN ", ["OE,OOE,,,AA,I,II,U,UU,VOCALIC R,VOCALIC RR,CANDRA E",
      "SHORT E,E,AI,CANDRA O,SHORT O,O,AU,,PRISHTHAMATRA E,AW,,,,,,CANDRA LONG E,UE,UUE,,,,,,,,",
      ",,VOCALIC L,VOCALIC LL"]⟩,
    ⟨0x093C, "DEVANAGARI ", ["SIGN NUKTA,SIGN AVAGRAHA,,,,,,,,,,,,,,,,SIGN VIRAMA,,,OM",
      "STRESS SIGN UDATTA,STRESS SIGN ANUDATTA,GRAVE ACCENT,ACUTE ACCENT,,,,,,,,,,,,,,,,DANDA",
      "DOUBLE DANDA,,,,,,,,,,,ABBREVIATION SIGN,SIGN HIGH SPACING DOT"]⟩,
    ⟨0x0966, "DEVANAGARI DIGIT ", ["ZERO,ONE,TWO,THREE,FOUR,FIVE,SIX,SEVEN,EIGHT,NINE"]⟩,
    ⟨0x0980, "", ["BENGALI ANJI,BENGALI SIGN CANDRABINDU,BENGALI SIGN ANUSVARA",
      "BENGALI SIGN VISARGA"]⟩,
    ⟨0x0985, "BENGALI LETTER ", ["A,AA,I,II,U,UU,VOCALIC R,VOCALIC L,,,E,AI,,,O,AU,KA,KHA,GA",
      "GHA,NGA,CA,CHA,JA,JHA,NYA,TTA,TTHA,DDA,DDHA,NNA,TA,THA,DA,DHA,NA,,PA,PHA,BA,BHA,MA,YA,RA",
      ",LA,,,,SHA,SSA,SA,HA,,,,,,,,,,,,,,,,,,,,,KHANDA TA,,,,,,,,,,,,,,RRA,RHA,,YYA,VOCALIC RR",
      "VOCALIC LL,,,,,,,,,,,,,,,RA WITH MIDDLE DIAGONAL,RA WITH LOWER DIAGONAL,,,,,,,,,,",
      "VEDIC ANUSVARA"]⟩,
    ⟨0x09BC, "", ["BENGALI SIGN NUKTA,BENGALI SIGN AVAGRAHA,,,,,,,,,,,,,,,,BENGALI SIGN VIRAMA,",
      ",,,,,,,,BENGALI AU LENGTH MARK"]⟩,
    ⟨0x09BE, "BENGALI VOWEL ", ["SIGN AA,SIGN I,SIGN II,SIGN U,SIGN UU,SIGN VOCALIC R",
      "SIGN VOCALIC RR,,,SIGN E,SIGN AI,,,SIGN O,SIGN AU,,,,,,,,,,,,,,,,,,,,,,SIGN VOCALIC L",
      "SIGN VOCALIC LL"]⟩,
    ⟨0x09E6, "BENGALI DIGIT ", ["ZERO,ONE,TWO,THREE,FOUR,FIVE,SIX,SEVEN,EIGHT,NINE"]⟩,
    ⟨0x09F2, "", ["BENGALI RUPEE MARK,BENGALI RUPEE SIGN,,,,,,,BENGALI ISSHAR",
      "BENGALI GANDA MARK,,BENGALI ABBREVIATION SIGN,BENGALI SANDHI MARK,,",
      "GURMUKHI SIGN ADAK BINDI,GURMUKHI SIGN BINDI,GURMUKHI SIGN VISARGA"]⟩,
    ⟨0x09F4, "BENGALI CURRENCY ", ["NUMERATOR ONE,NUMERATOR TWO,NUMERATOR THREE,NUMERATOR FOUR",
      "NUMERATOR ONE LESS THAN THE DENOMINATOR,DENOMINATOR SIXTEEN"]⟩,
    ⟨0x0A05, "GURMUKHI LETTER ", ["A,AA,I,II,U,UU,,,,,EE,AI,,,OO,AU,KA,KHA,GA,GHA,NGA,CA,CHA,JA",
      "JHA,NYA,TTA,TTHA,DDA,DDHA,NNA,TA,THA,DA,DHA,NA,,PA,PHA,BA,BHA,MA,YA,RA,,LA,LLA,,VA,SHA,",
      "SA,HA,,,,,,,,,,,,,,,,,,,,,,,,,,,,,,,,KHHA,GHHA,ZA,RRA,,FA"]⟩,
    ⟨0x0A3C, "GURMUKHI ", ["SIGN NUKTA,,,,,,,,,,,,,,,,,SIGN VIRAMA,,,,SIGN UDAAT,,,,,,,,,,,,,,,",
      ",,,,,,,,,,,,,,,TIPPI,ADDAK,IRI,URA,EK ONKAR,SIGN YAKASH,ABBREVIATION SIGN"]⟩,
    ⟨0x0A3E, "GURMUKHI VOWEL ", ["SIGN AA,SIGN I,SIGN II,SIGN U,SIGN UU,,,,,SIGN EE,SIGN AI,,",
      "SIGN OO,SIGN AU"]⟩,
    ⟨0x0A66, "GURMUKHI DIGIT ", ["ZERO,ONE,TWO,THREE,FOUR,FIVE,SIX,SEVEN,EIGHT,NINE"]⟩,
    ⟨0x0A81, "", ["GUJARATI SIGN CANDRABINDU,GUJARATI SIGN ANUSVARA,GUJARATI SIGN VISARGA,,,,,,",
      ",,,GUJARATI VOWEL CANDRA E,,,,GUJARATI VOWEL CANDRA O"]⟩,
    ⟨0x0A85, "GUJARATI LETTER ", ["A,AA,I,II,U,UU,VOCALIC R,VOCALIC L,,,E,AI,,,O,AU,KA,KHA,GA",
      "GHA,NGA,CA,CHA,JA,JHA,NYA,TTA,TTHA,DDA,DDHA,NNA,TA,THA,DA,DHA,NA,,PA,PHA,BA,BHA,MA,YA,RA",
      ",LA,LLA,,VA,SHA,SSA,SA,HA,,,,,,,,,,,,,,,,,,,,,,,,,,,,,,,,,,,,,,,VOCALIC RR,VOCALIC LL,,,",
      ",,,,,,,,,,,,,,,,,,,,ZHA"]⟩,
    ⟨0x0ABC, "GUJARATI ", ["SIGN NUKTA,SIGN AVAGRAHA,,,,,,,,,,,,,,,,SIGN VIRAMA,,,OM,,,,,,,,,,,",
      ",,,,,,,,,,,,,,,,,,,,ABBREVIATION SIGN,RUPEE SIGN,,,,,,,,,SIGN SUKUN,SIGN SHADDA",
      "SIGN MADDAH,SIGN THREE-DOT NUKTA ABOVE,SIGN CIRCLE NUKTA ABOVE",
      "SIGN TWO-CIRCLE NUKTA ABOVE"]⟩,
    ⟨0x0ABE, "GUJARATI VOWEL SIGN ", ["AA,I,II,U,UU,VOCALIC R,VOCALIC RR,CANDRA E,,E,AI",
      "CANDRA O,,O,AU,,,,,,,,,,,,,,,,,,,,,,VOCALIC L,VOCALIC LL"]⟩,
    ⟨0x0AE6, "GUJARATI DIGIT ", ["ZERO,ONE,TWO,THREE,FOUR,FIVE,SIX,SEVEN,EIGHT,NINE"]⟩,
    ⟨0x0B01, "", ["ORIYA SIGN CANDRABINDU,ORIYA SIGN ANUSVARA,ORIYA SIGN VISARGA"]⟩,
    ⟨0x0B05, "ORIYA LETTER ", ["A,AA,I,II,U,UU,VOCALIC R,VOCALIC L,,,E,AI,,,O,AU,KA,KHA,GA,GHA",
      "NGA,CA,CHA,JA,JHA,NYA,TTA,TTHA,DDA,DDHA,NNA,TA,THA,DA,DHA,NA,,PA,PHA,BA,BHA,MA,YA,RA,,LA",
      "LLA,,VA,SHA,SSA,SA,HA,,,,,,,,,,,,,,,,,,,,,,,,,,,,,,,,,,,RRA,RHA,,YYA,VOCALIC RR",
      "VOCALIC LL,,,,,,,,,,,,,,,,WA"]⟩,
    ⟨0x0B3C, "", ["ORIYA SIGN NUKTA,ORIYA SIGN AVAGRAHA,,,,,,,,,,,,,,,,ORIYA SIGN VIRAMA,,,,,,,",
      "ORIYA SIGN OVERLINE,ORIYA AI LENGTH MARK,ORIYA AU LENGTH MARK,,,,,,,,,,,,,,,,,,,,,,,,",
      "ORIYA ISSHAR,,,,,,,,,,,,,,,,,,TAMIL SIGN ANUSVARA,TAMIL SIGN VISARGA"]⟩,
    ⟨0x0B3E, "ORIYA VOWEL ", ["SIGN AA,SIGN I,SIGN II,SIGN U,SIGN UU,SIGN VOCALIC R",
      "SIGN VOCALIC RR,,,SIGN E,SIGN AI,,,SIGN O,SIGN AU,,,,,,,,,,,,,,,,,,,,,,SIGN VOCALIC L",
      "SIGN VOCALIC LL"]⟩,
    ⟨0x0B66, "ORIYA DIGIT ", ["ZERO,ONE,TWO,THREE,FOUR,FIVE,SIX,SEVEN,EIGHT,NINE"]⟩,
    ⟨0x0B72, "ORIYA FRACTION ", ["ONE QUARTER,ONE HALF,THREE QUARTERS,ONE SIXTEENTH,ONE EIGHTH",
      "THREE SIXTEENTHS"]⟩,
    ⟨0x0B85, "TAMIL LETTER ", ["A,AA,I,II,U,UU,,,,E,EE,AI,,O,OO,AU,KA,,,,NGA,CA,,JA,,NYA,TTA,,,",
      "NNA,TA,,,,NA,NNNA,PA,,,,MA,YA,RA,RRA,LA,LLA,LLLA,VA,SHA,SSA,SA,HA"]⟩,
    ⟨0x0BBE, "TAMIL VOWEL SIGN ", ["AA,I,II,U,UU,,,,E,EE,AI,,O,OO,AU"]⟩,
    ⟨0x0BCD, "TAMIL ", ["SIGN VIRAMA,,,OM,,,,,,,AU LENGTH MARK,,,,,,,,,,,,,,,,,,,,,,,,",
      "NUMBER TEN,NUMBER ONE HUNDRED,NUMBER ONE THOUSAND,DAY SIGN,MONTH SIGN,YEAR SIGN",
      "DEBIT SIGN,CREDIT SIGN,AS ABOVE SIGN,RUPEE SIGN,NUMBER SIGN"]⟩,
    ⟨0x0BE6, "TAMIL DIGIT ", ["ZERO,ONE,TWO,THREE,FOUR,FIVE,SIX,SEVEN,EIGHT,NINE"]⟩,
    ⟨0x0C00, "TELUGU ", ["SIGN COMBINING CANDRABINDU ABOVE,SIGN CANDRABINDU,SIGN ANUSVARA",
      "SIGN VISARGA,SIGN COMBINING ANUSVARA ABOVE"]⟩,
    ⟨0x0C05, "TELUGU LETTER ", ["A,AA,I,II,U,UU,VOCALIC R,VOCALIC L,,E,EE,AI,,O,OO,AU,KA,KHA,GA",
      "GHA,NGA,CA,CHA,JA,JHA,NYA,TTA,TTHA,DDA,DDHA,NNA,TA,THA,DA,DHA,NA,,PA,PHA,BA,BHA,MA,YA,RA",
      "RRA,LA,LLA,LLLA,VA,SHA,SSA,SA,HA,,,,,,,,,,,,,,,,,,,,,,,,,,,,,,,TSA,DZA,RRRA,,",
      "NAKAARA POLLU,,,VOCALIC RR,VOCALIC LL"]⟩,
    ⟨0x0C3C, "", ["TELUGU SIGN NUKTA,TELUGU SIGN AVAGRAHA,,,,,,,,,,,,,,,,TELUGU SIGN VIRAMA,,,,",
      ",,,TELUGU LENGTH MARK,TELUGU AI LENGTH MARK"]⟩,
    ⟨0x0C3E, "TELUGU VOWEL SIGN ", ["AA,I,II,U,UU,VOCALIC R,VOCALIC RR,,E,EE,AI,,O,OO,AU,,,,,,,",
      ",,,,,,,,,,,,,,VOCALIC L,VOCALIC LL"]⟩,
    ⟨0x0C66, "TELUGU DIGIT ", ["ZERO,ONE,TWO,THREE,FOUR,FIVE,SIX,SEVEN,EIGHT,NINE"]⟩,
    ⟨0x0C77, "", ["TELUGU SIGN SIDDHAM,,,,,,,,TELUGU SIGN TUUMU"]⟩,
    ⟨0x0C78, "TELUGU FRACTION ", ["DIGIT ZERO FOR ODD POWERS OF FOUR",
      "DIGIT ONE FOR ODD POWERS OF FOUR,DIGIT TWO FOR ODD POWERS OF FOUR",
      "DIGIT THREE FOR ODD POWERS OF FOUR,DIGIT ONE FOR EVEN POWERS OF FOUR",
      "DIGIT TWO FOR EVEN POWERS OF FOUR,DIGIT THREE FOR EVEN POWERS OF FOUR"]⟩,
    ⟨0x0C80, "KANNADA ", ["SIGN SPACING CANDRABINDU,SIGN CANDRABINDU,SIGN ANUSVARA,SIGN VISARGA",
      "SIGN SIDDHAM"]⟩,
    ⟨0x0C85, "KANNADA LETTER ", ["A,AA,I,II,U,UU,VOCALIC R,VOCALIC L,,E,EE,AI,,O,OO,AU,KA,KHA",
      "GA,GHA,NGA,CA,CHA,JA,JHA,NYA,TTA,TTHA,DDA,DDHA,NNA,TA,THA,DA,DHA,NA,,PA,PHA,BA,BHA,MA,YA",
      "RA,RRA,LA,LLA,,VA,SHA,SSA,SA,HA,,,,,,,,,,,,,,,,,,,,,,,,,,,,,,,,,,,,NAKAARA POLLU,FA,",
      "VOCALIC RR,VOCALIC LL"]⟩,
    ⟨0x0CBC, "", ["KANNADA SIGN NUKTA,KANNADA SIGN AVAGRAHA,,,,,,,,,,,,,,,,KANNADA SIGN VIRAMA,",
      ",,,,,,KANNADA LENGTH MARK,KANNADA AI LENGTH MARK"]⟩,
    ⟨0x0CBE, "KANNADA VOWEL SIGN ", ["AA,I,II,U,UU,VOCALIC R,VOCALIC RR,,E,EE,AI,,O,OO,AU,,,,,,",
      ",,,,,,,,,,,,,,,VOCALIC L,VOCALIC LL"]⟩,
    ⟨0x0CE6, "KANNADA DIGIT ", ["ZERO,ONE,TWO,THREE,FOUR,FIVE,SIX,SEVEN,EIGHT,NINE"]⟩,
    ⟨0x0CF1, "", ["KANNADA SIGN JIHVAMULIYA,KANNADA SIGN UPADHMANIYA"]⟩,
    ⟨0x0D00, "MALAYALAM ", ["SIGN COMBINING ANUSVARA ABOVE,SIGN CANDRABINDU,SIGN ANUSVARA",
      "SIGN VISARGA"]⟩,
    ⟨0x0D04, "MALAYALAM LETTER ", ["VEDIC ANUSVARA,A,AA,I,II,U,UU,VOCALIC R,VOCALIC L,,E,EE,AI,",
      "O,OO,AU,KA,KHA,GA,GHA,NGA,CA,CHA,JA,JHA,NYA,TTA,TTHA,DDA,DDHA,NNA,TA,THA,DA,DHA,NA,NNNA",
      "PA,PHA,BA,BHA,MA,YA,RA,RRA,LA,LLA,LLLA,VA,SHA,SSA,SA,HA,TTTA,,,,,,,,,,,,,,,,,,,,DOT REPH",
      ",,,,,CHILLU M,CHILLU Y,CHILLU LLL,,,,,,,,,ARCHAIC II,VOCALIC RR,VOCALIC LL,,,,,,,,,,,,,,",
      ",,,,,,,,,,CHILLU NN,CHILLU N,CHILLU RR,CHILLU L,CHILLU LL,CHILLU K"]⟩,
    ⟨0x0D3B, "MALAYALAM ", ["SIGN VERTICAL BAR VIRAMA,SIGN CIRCULAR VIRAMA,SIGN AVAGRAHA,,,,,,,",
      ",,,,,,,,SIGN VIRAMA,,SIGN PARA,,,,,,,,AU LENGTH MARK,,,,,,,,,,,,,,,,,,,,,,,,,NUMBER TEN",
      "NUMBER ONE HUNDRED,NUMBER ONE THOUSAND,,,,,,,DATE MARK"]⟩,
    ⟨0x0D3E, "MALAYALAM VOWEL SIGN ", ["AA,I,II,U,UU,VOCALIC R,VOCALIC RR,,E,EE,AI,,O,OO,AU,,,,",
      ",,,,,,,,,,,,,,,,,VOCALIC L,VOCALIC LL"]⟩,
    ⟨0x0D58, "MALAYALAM FRACTION ", ["ONE ONE-HUNDRED-AND-SIXTIETH,ONE FORTIETH",
      "THREE EIGHTIETHS,ONE TWENTIETH,ONE TENTH,THREE TWENTIETHS,ONE FIFTH,,,,,,,,,,,,,,,,,,,,",
      "ONE QUARTER,ONE HALF,THREE QUARTERS,ONE SIXTEENTH,ONE EIGHTH,THREE SIXTEENTHS"]⟩,
    ⟨0x0D66, "MALAYALAM DIGIT ", ["ZERO,ONE,TWO,THREE,FOUR,FIVE,SIX,SEVEN,EIGHT,NINE"]⟩,
    ⟨0x0D81, "", ["SINHALA SIGN CANDRABINDU,SINHALA SIGN ANUSVARAYA,SINHALA SIGN VISARGAYA"]⟩,
    ⟨0x0D85, "SINHALA LETTER ", ["AYANNA,AAYANNA,AEYANNA,AEEYANNA,IYANNA,IIYANNA,UYANNA,UUYANNA",
      "IRUYANNA,IRUUYANNA,ILUYANNA,ILUUYANNA,EYANNA,EEYANNA,AIYANNA,OYANNA,OOYANNA,AUYANNA,,,,,",
      ",,KANTAJA NAASIKYAYA,SANYAKA GAYANNA,,,,,TAALUJA NAASIKYAYA,TAALUJA SANYOOGA NAAKSIKYAYA",
      "SANYAKA JAYANNA,,,,,MUURDHAJA NAYANNA,SANYAKA DDAYANNA,,,,,DANTAJA NAYANNA,",
      "SANYAKA DAYANNA,,,,,MAYANNA,AMBA BAYANNA,YAYANNA,RAYANNA,,DANTAJA LAYANNA,,,VAYANNA",
      "TAALUJA SAYANNA,MUURDHAJA SAYANNA,DANTAJA SAYANNA,HAYANNA,MUURDHAJA LAYANNA,FAYANNA"]⟩,
    ⟨0x0D9A, "SINHALA LETTER ALPAPRAANA ", ["KAYANNA,,GAYANNA,,,,CAYANNA,,JAYANNA,,,,,TTAYANNA,",
      "DDAYANNA,,,,TAYANNA,,DAYANNA,,,,,PAYANNA,,BAYANNA"]⟩,
    ⟨0x0D9B, "SINHALA LETTER MAHAAPRAANA ", ["KAYANNA,,GAYANNA,,,,CAYANNA,,JAYANNA,,,,,TTAYANNA",
      ",DDAYANNA,,,,TAYANNA,,DAYANNA,,,,,PAYANNA,,BAYANNA"]⟩,
    ⟨0x0DCA, "", ["SINHALA SIGN AL-LAKUNA"]⟩,
    ⟨0x0DCF, "SINHALA VOWEL SIGN ", ["AELA-PILLA,KETTI AEDA-PILLA,DIGA AEDA-PILLA",
      "KETTI IS-PILLA,DIGA IS-PILLA,KETTI PAA-PILLA,,DIGA PAA-PILLA,,GAETTA-PILLA,KOMBUVA",
      "DIGA KOMBUVA,KOMBU DEKA,KOMBUVA HAA AELA-PILLA,KOMBUVA HAA DIGA AELA-PILLA",
      "KOMBUVA HAA GAYANUKITTA,GAYANUKITTA,,,,,,,,,,,,,,,,,,,DIGA GAETTA-PILLA,DIGA GAYANUKITTA"]⟩,
    ⟨0x0DE6, "SINHALA LITH DIGIT ", ["ZERO,ONE,TWO,THREE,FOUR,FIVE,SIX,SEVEN,EIGHT,NINE"]⟩,
    ⟨0x0DF4, "", ["SINHALA PUNCTUATION KUNDDALIYA"]⟩,
    ⟨0x0E01, "THAI CHARACTER ", ["KO KAI,KHO KHAI,KHO KHUAT,KHO KHWAI,KHO KHON,KHO RAKHANG",
      "NGO NGU,CHO CHAN,CHO CHING,CHO CHANG,SO SO,CHO CHOE,YO YING,DO CHADA,TO PATAK,THO THAN",
      "THO NANGMONTHO,THO PHUTHAO,NO NEN,DO DEK,TO TAO,THO THUNG,THO THAHAN,THO THONG,NO NU",
      "BO BAIMAI,PO PLA,PHO PHUNG,FO FA,PHO PHAN,FO FAN,PHO SAMPHAO,MO MA,YO YAK,RO RUA,RU",
      "LO LING,LU,WO WAEN,SO SALA,SO RUSI,SO SUA,HO HIP,LO CHULA,O ANG,HO NOKHUK,PAIYANNOI,",
      "MAI HAN-AKAT,,,,,,,,,PHINTHU,,,,,,,,,,,LAKKHANGYAO,MAIYAMOK,MAITAIKHU,MAI EK,MAI THO",
      "MAI TRI,MAI CHATTAWA,THANTHAKHAT,NIKHAHIT,YAMAKKAN,FONGMAN,,,,,,,,,,,ANGKHANKHU,KHOMUT"]⟩,
    ⟨0x0E30, "THAI CHARACTER SARA ", ["A,,AA,AM,I,II,UE,UEE,U,UU,,,,,,,E,AE,O,AI MAIMUAN",
      "AI MAIMALAI"]⟩,
    ⟨0x0E3F, "", ["THAI CURRENCY SYMBOL BAHT"]⟩,
    ⟨0x0E50, "THAI DIGIT ", ["ZERO,ONE,TWO,THREE,FOUR,FIVE,SIX,SEVEN,EIGHT,NINE"]⟩,
    ⟨0x0E81, "LAO LETTER ", ["KO,KHO SUNG,,KHO TAM,,PALI GHA,NGO,CO,PALI CHA,SO TAM,,PALI JHA",
      "NYO,PALI NYA,PALI TTA,PALI TTHA,PALI DDA,PALI DDHA,PALI NNA,DO,TO,THO SUNG,THO TAM",
      "PALI DHA,NO,BO,PO,PHO SUNG,FO TAM,PHO TAM,FO SUNG,PALI BHA,MO,YO,LO LING,,LO LOOT,,WO",
      "SANSKRIT SHA,SANSKRIT SSA,SO SUNG,HO SUNG,PALI LLA,O,HO TAM"]⟩,
    ⟨0x0EAF, "", ["LAO ELLIPSIS,,,,,,,,,,,LAO SIGN PALI VIRAMA,,LAO SEMIVOWEL SIGN LO",
      "LAO SEMIVOWEL SIGN NYO,,,,,,,,,LAO KO LA,,LAO TONE MAI EK,LAO TONE MAI THO",
      "LAO TONE MAI TI,LAO TONE MAI CATAWA,LAO CANCELLATION MARK,LAO NIGGAHITA,,,,,,,,,,,,,,",
      "LAO HO NO,LAO HO MO,LAO LETTER KHMU GO,LAO LETTER KHMU NYO"]⟩,
    ⟨0x0EB0, "LAO VOWEL SIGN ", ["A,MAI KAN,AA,AM,I,II,Y,YY,U,UU,,MAI KON,,,,,E,EI,O,AY,AI"]⟩,
    ⟨0x0ED0, "LAO DIGIT ", ["ZERO,ONE,TWO,THREE,FOUR,FIVE,SIX,SEVEN,EIGHT,NINE"]⟩,
    ⟨0x0F00, "TIBETAN ", ["SYLLABLE OM,,,,,,,,,,,,,,,,,,,,,LOGOTYPE SIGN CHAD RTAGS",
      "LOGOTYPE SIGN LHAG RTAGS,ASTROLOGICAL SIGN SGRA GCAN -CHAR RTAGS",
      "ASTROLOGICAL SIGN -KHYUD PA,ASTROLOGICAL SIGN SDONG TSHUGS,SIGN RDEL DKAR GCIG",
      "SIGN RDEL DKAR GNYIS,SIGN RDEL DKAR GSUM,SIGN RDEL NAG GCIG,SIGN RDEL NAG GNYIS",
      "SIGN RDEL DKAR RDEL NAG,,,,,,,,,,,,,,,,,,,,,,,,,,,,,,,SIGN YAR TSHES,SIGN MAR TSHES"]⟩,
    ⟨0x0F01, "TIBETAN MARK ", ["GTER YIG MGO TRUNCATED A,GTER YIG MGO -UM RNAM BCAD MA",
      "GTER YIG MGO -UM GTER TSHEG MA,INITIAL YIG MGO MDUN MA,CLOSING YIG MGO SGAB MA",
      "CARET YIG MGO PHUR SHAD MA,YIG MGO TSHEG SHAD MA,SBRUL SHAD,BSKUR YIG MGO",
      "BKA- SHOG YIG MGO,INTERSYLLABIC TSHEG,DELIMITER TSHEG BSTAR,SHAD,NYIS SHAD,TSHEG SHAD",
      "NYIS TSHEG SHAD,RIN CHEN SPUNGS SHAD,RGYA GRAM SHAD,CARET -DZUD RTAGS ME LONG CAN",
      "GTER TSHEG,,,,,,,,,,,,,,,,,,,,,,,,,,,,,,,,BSDUS RTAGS,NGAS BZUNG NYI ZLA",
      "CARET -DZUD RTAGS BZHI MIG CAN,NGAS BZUNG SGOR RTAGS,CHE MGO,TSA -PHRU,GUG RTAGS GYON",
      "GUG RTAGS GYAS,ANG KHANG GYON,ANG KHANG GYAS"]⟩,
    ⟨0x0F20, "TIBETAN DIGIT ", ["ZERO,ONE,TWO,THREE,FOUR,FIVE,SIX,SEVEN,EIGHT,NINE"]⟩,
    ⟨0x0F2A, "TIBETAN DIGIT HALF ", ["ONE,TWO,THREE,FOUR,FIVE,SIX,SEVEN,EIGHT,NINE,ZERO"]⟩,
    ⟨0x0F40, "TIBETAN LETTER ", ["KA,KHA,GA,GHA,NGA,CA,CHA,JA,,NYA,TTA,TTHA,DDA,DDHA,NNA,TA,THA",
      "DA,DHA,NA,PA,PHA,BA,BHA,MA,TSA,TSHA,DZA,DZHA,WA,ZHA,ZA,-A,YA,RA,LA,SHA,SSA,SA,HA,A,KSSA",
      "FIXED-FORM RA,KKA,RRA"]⟩,
    ⟨0x0F71, "TIBETAN VOWEL SIGN ", ["AA,I,II,U,UU,VOCALIC R,VOCALIC RR,VOCALIC L,VOCALIC LL,E",
      "EE,O,OO,,,REVERSED I,REVERSED II"]⟩,
    ⟨0x0F7E, "TIBETAN SIGN ", ["RJES SU NGA RO,RNAM BCAD,,,NYI ZLA NAA DA,SNA LDAN,,,LCI RTAGS",
      "YANG RTAGS,LCE TSA CAN,MCHU CAN,GRU CAN RGYINGS,GRU MED RGYINGS,INVERTED MCHU CAN"]⟩,
    ⟨0x0F84, "", ["TIBETAN MARK HALANTA,TIBETAN MARK PALUTA,,,,,,,",
      "TIBETAN SUBJOINED SIGN LCE TSA CAN,TIBETAN SUBJOINED SIGN MCHU CAN",
      "TIBETAN SUBJOINED SIGN INVERTED MCHU CAN"]⟩,
    ⟨0x0F90, "TIBETAN SUBJOINED LETTER ", ["KA,KHA,GA,GHA,NGA,CA,CHA,JA,,NYA,TTA,TTHA,DDA,DDHA",
      "NNA,TA,THA,DA,DHA,NA,PA,PHA,BA,BHA,MA,TSA,TSHA,DZA,DZHA,WA,ZHA,ZA,-A,YA,RA,LA,SHA,SSA,SA",
      "HA,A,KSSA,FIXED-FORM WA,FIXED-FORM YA,FIXED-FORM RA"]⟩,
    ⟨0x0FBE, "TIBETAN ", ["KU RU KHA,KU RU KHA BZHI MIG CAN,,,,,,,,,,,,,,",
      "SIGN RDEL NAG RDEL DKAR,SIGN RDEL NAG GSUM,MARK BSKA- SHOG GI MGO RGYAN",
      "MARK MNYAM YIG GI MGO RGYAN,MARK NYIS TSHEG,MARK INITIAL BRDA RNYING YIG MGO MDUN MA",
      "MARK CLOSING BRDA RNYING YIG MGO SGAB MA,,,,,MARK LEADING MCHAN RTAGS",
      "MARK TRAILING MCHAN RTAGS"]⟩,
    ⟨0x0FC0, "TIBETAN CANTILLATION ", ["SIGN HEAVY BEAT,SIGN LIGHT BEAT,SIGN CANG TE-U",
      "SIGN SBUB -CHAL"]⟩,
    ⟨0x0FC4, "TIBETAN SYMBOL ", ["DRIL BU,RDO RJE,PADMA GDAN,RDO RJE RGYA GRAM,PHUR PA,NOR BU",
      "NOR BU NYIS -KHYIL,NOR BU GSUM -KHYIL,NOR BU BZHI -KHYIL"]⟩,
    ⟨0x0FD5, "", ["RIGHT-FACING SVASTI SIGN,LEFT-FACING SVASTI SIGN",
      "RIGHT-FACING SVASTI SIGN WITH DOTS,LEFT-FACING SVASTI SIGN WITH DOTS"]⟩]

end RelayClient.CharacterName
