import RelayClient.NamedRun

/-! # Names of the characters U+3000 to U+FFFF -/
namespace RelayClient.CharacterName

def from3000 : List NamedRun :=
  [⟨0x3000, "IDEOGRAPHIC ", ["SPACE,COMMA,FULL STOP,,,ITERATION MARK,CLOSING MARK,NUMBER ZERO,,",
      ",,,,,,,,,,,,,,,,,,,,,,,,,,,,,,,,LEVEL TONE MARK,RISING TONE MARK,DEPARTING TONE MARK",
      "ENTERING TONE MARK,,,,,,,,,,TELEGRAPH LINE FEED SEPARATOR SYMBOL,,,,,,",
      "VARIATION INDICATOR,HALF FILL SPACE"]⟩,
    ⟨0x3003, "", ["DITTO MARK,JAPANESE INDUSTRIAL STANDARD SYMBOL,,,,,,,,,,,,,,POSTAL MARK",
      "GETA MARK,,,,,,,,,WAVE DASH,REVERSED DOUBLE PRIME QUOTATION MARK",
      "DOUBLE PRIME QUOTATION MARK,LOW DOUBLE PRIME QUOTATION MARK,POSTAL MARK FACE,,,,,,,,,,,,",
      ",HANGUL SINGLE DOT TONE MARK,HANGUL DOUBLE DOT TONE MARK,WAVY DASH,,,,,",
      "CIRCLED POSTAL MARK,,,,,,MASU MARK,PART ALTERNATION MARK"]⟩,
    ⟨0x3008, "LEFT ", ["ANGLE BRACKET,,DOUBLE ANGLE BRACKET,,CORNER BRACKET,",
      "WHITE CORNER BRACKET,,BLACK LENTICULAR BRACKET,,,,TORTOISE SHELL BRACKET,",
      "WHITE LENTICULAR BRACKET,,WHITE TORTOISE SHELL BRACKET,,WHITE SQUARE BRACKET"]⟩,
    ⟨0x3009, "RIGHT ", ["ANGLE BRACKET,,DOUBLE ANGLE BRACKET,,CORNER BRACKET,",
      "WHITE CORNER BRACKET,,BLACK LENTICULAR BRACKET,,,,TORTOISE SHELL BRACKET,",
      "WHITE LENTICULAR BRACKET,,WHITE TORTOISE SHELL BRACKET,,WHITE SQUARE BRACKET"]⟩,
    ⟨0x3021, "HANGZHOU NUMERAL ", ["ONE,TWO,THREE,FOUR,FIVE,SIX,SEVEN,EIGHT,NINE,,,,,,,,,,,,,,",
      "TEN,TWENTY,THIRTY"]⟩,
    ⟨0x3031, "VERTICAL ", ["KANA REPEAT MARK,KANA REPEAT WITH VOICED SOUND MARK",
      "KANA REPEAT MARK UPPER HALF,KANA REPEAT WITH VOICED SOUND MARK UPPER HALF",
      "KANA REPEAT MARK LOWER HALF,,,,,,IDEOGRAPHIC ITERATION MARK"]⟩,
    ⟨0x3041, "HIRAGANA LETTER ", ["SMALL A,A,SMALL I,I,SMALL U,U,SMALL E,E,SMALL O,O,KA,GA,KI",
      "GI,KU,GU,KE,GE,KO,GO,SA,ZA,SI,ZI,SU,ZU,SE,ZE,SO,ZO,TA,DA,TI,DI,SMALL TU,TU,DU,TE,DE,TO",
      "DO,NA,NI,NU,NE,NO,HA,BA,PA,HI,BI,PI,HU,BU,PU,HE,BE,PE,HO,BO,PO,MA,MI,MU,ME,MO,SMALL YA",
      "YA,SMALL YU,YU,SMALL YO,YO,RA,RI,RU,RE,RO,SMALL WA,WA,WI,WE,WO,N,VU,SMALL KA,SMALL KE"]⟩,
    ⟨0x3099, "", ["COMBINING KATAKANA-HIRAGANA VOICED SOUND MARK",
      "COMBINING KATAKANA-HIRAGANA SEMI-VOICED SOUND MARK,KATAKANA-HIRAGANA VOICED SOUND MARK",
      "KATAKANA-HIRAGANA SEMI-VOICED SOUND MARK,HIRAGANA ITERATION MARK",
      "HIRAGANA VOICED ITERATION MARK,HIRAGANA DIGRAPH YORI,KATAKANA-HIRAGANA DOUBLE HYPHEN"]⟩,
    ⟨0x30A1, "KATAKANA LETTER ", ["SMALL A,A,SMALL I,I,SMALL U,U,SMALL E,E,SMALL O,O,KA,GA,KI",
      "GI,KU,GU,KE,GE,KO,GO,SA,ZA,SI,ZI,SU,ZU,SE,ZE,SO,ZO,TA,DA,TI,DI,SMALL TU,TU,DU,TE,DE,TO",
      "DO,NA,NI,NU,NE,NO,HA,BA,PA,HI,BI,PI,HU,BU,PU,HE,BE,PE,HO,BO,PO,MA,MI,MU,ME,MO,SMALL YA",
      "YA,SMALL YU,YU,SMALL YO,YO,RA,RI,RU,RE,RO,SMALL WA,WA,WI,WE,WO,N,VU,SMALL KA,SMALL KE,VA",
      "VI,VE,VO"]⟩,
    ⟨0x30FB, "", ["KATAKANA MIDDLE DOT,KATAKANA-HIRAGANA PROLONGED SOUND MARK",
      "KATAKANA ITERATION MARK,KATAKANA VOICED ITERATION MARK,KATAKANA DIGRAPH KOTO"]⟩,
    ⟨0x3105, "BOPOMOFO LETTER ", ["B,P,M,F,D,T,N,L,G,K,H,J,Q,X,ZH,CH,SH,R,Z,C,S,A,O,E,EH,AI,EI",
      "AU,OU,AN,EN,ANG,ENG,ER,I,U,IU,V,NG,GN,IH,O WITH DOT ABOVE,NN"]⟩,
    ⟨0x3131, "HANGUL LETTER ", ["KIYEOK,SSANGKIYEOK,KIYEOK-SIOS,NIEUN,NIEUN-CIEUC,NIEUN-HIEUH",
      "TIKEUT,SSANGTIKEUT,RIEUL,RIEUL-KIYEOK,RIEUL-MIEUM,RIEUL-PIEUP,RIEUL-SIOS,RIEUL-THIEUTH",
      "RIEUL-PHIEUPH,RIEUL-HIEUH,MIEUM,PIEUP,SSANGPIEUP,PIEUP-SIOS,SIOS,SSANGSIOS,IEUNG,CIEUC",
      "SSANGCIEUC,CHIEUCH,KHIEUKH,THIEUTH,PHIEUPH,HIEUH,A,AE,YA,YAE,EO,E,YEO,YE,O,WA,WAE,OE,YO",
      "U,WEO,WE,WI,YU,EU,YI,I,,SSANGNIEUN,NIEUN-TIKEUT,NIEUN-SIOS,NIEUN-PANSIOS",
      "RIEUL-KIYEOK-SIOS,RIEUL-TIKEUT,RIEUL-PIEUP-SIOS,RIEUL-PANSIOS,RIEUL-YEORINHIEUH",
      "MIEUM-PIEUP,MIEUM-SIOS,MIEUM-PANSIOS,KAPYEOUNMIEUM,PIEUP-KIYEOK,PIEUP-TIKEUT",
      "PIEUP-SIOS-KIYEOK,PIEUP-SIOS-TIKEUT,PIEUP-CIEUC,PIEUP-THIEUTH,KAPYEOUNPIEUP",
      "KAPYEOUNSSANGPIEUP,SIOS-KIYEOK,SIOS-NIEUN,SIOS-TIKEUT,SIOS-PIEUP,SIOS-CIEUC,PANSIOS",
      "SSANGIEUNG,YESIEUNG,YESIEUNG-SIOS,YESIEUNG-PANSIOS,KAPYEOUNPHIEUPH,SSANGHIEUH",
      "YEORINHIEUH,YO-YA,YO-YAE,YO-I,YU-YEO,YU-YE,YU-I,ARAEA,ARAEAE"]⟩,
    ⟨0x3164, "", ["HANGUL FILLER"]⟩,
    ⟨0x3190, "IDEOGRAPHIC ANNOTATION ", ["LINKING MARK,REVERSE MARK,ONE MARK,TWO MARK",
      "THREE MARK,FOUR MARK,TOP MARK,MIDDLE MARK,BOTTOM MARK,FIRST MARK,SECOND MARK,THIRD MARK",
      "FOURTH MARK,HEAVEN MARK,EARTH MARK,MAN MARK"]⟩,
    ⟨0x31A0, "BOPOMOFO LETTER ", ["BU,ZI,JI,GU,EE,ENN,OO,ONN,IR,ANN,INN,UNN,IM,NGG,AINN,AUNN,AM",
      "OM,ONG,INNN,,,,,GH,LH,ZY,,GW,KW,OE,AH"]⟩,
    ⟨0x31B4, "BOPOMOFO ", ["FINAL LETTER P,FINAL LETTER T,FINAL LETTER K,FINAL LETTER H,,,",
      "FINAL LETTER G"]⟩,
    ⟨0x31C0, "CJK STROKE ", ["T,WG,XG,BXG,SW,HZZ,HZG,HP,HZWG,SZWG,HZT,HZZP,HPWG,HZW,HZZZ,N,H,S",
      "P,SP,D,HZ,HG,SZ,SWZ,ST,SG,PD,PZ,TN,SZZ,SWG,HXWG,HZZZG,PG,Q"]⟩,
    ⟨0x31F0, "KATAKANA LETTER SMALL ", ["KU,SI,SU,TO,NU,HA,HI,HU,HE,HO,MU,RA,RI,RU,RE,RO"]⟩,
    ⟨0x3200, "PARENTHESIZED HANGUL ", ["KIYEOK,NIEUN,TIKEUT,RIEUL,MIEUM,PIEUP,SIOS,IEUNG,CIEUC",
      "CHIEUCH,KHIEUKH,THIEUTH,PHIEUPH,HIEUH,KIYEOK A,NIEUN A,TIKEUT A,RIEUL A,MIEUM A,PIEUP A",
      "SIOS A,IEUNG A,CIEUC A,CHIEUCH A,KHIEUKH A,THIEUTH A,PHIEUPH A,HIEUH A,CIEUC U"]⟩,
    ⟨0x321D, "", ["PARENTHESIZED KOREAN CHARACTER OJEON,PARENTHESIZED KOREAN CHARACTER O HU"]⟩,
    ⟨0x3220, "PARENTHESIZED IDEOGRAPH ", ["ONE,TWO,THREE,FOUR,FIVE,SIX,SEVEN,EIGHT,NINE,TEN",
      "MOON,FIRE,WATER,WOOD,METAL,EARTH,SUN,STOCK,HAVE,SOCIETY,NAME,SPECIAL,FINANCIAL",
      "CONGRATULATION,LABOR,REPRESENT,CALL,STUDY,SUPERVISE,ENTERPRISE,RESOURCE,ALLIANCE",
      "FESTIVAL,REST,SELF,REACH"]⟩,
    ⟨0x3244, "", ["CIRCLED IDEOGRAPH QUESTION,CIRCLED IDEOGRAPH KINDERGARTEN",
      "CIRCLED IDEOGRAPH SCHOOL,CIRCLED IDEOGRAPH KOTO,,,,,,,,,PARTNERSHIP SIGN"]⟩,
    ⟨0x3248, "CIRCLED NUMBER ", ["TEN ON BLACK SQUARE,,THIRTY ON BLACK SQUARE",
      "FORTY ON BLACK SQUARE,FIFTY ON BLACK SQUARE,SIXTY ON BLACK SQUARE",
      "SEVENTY ON BLACK SQUARE,EIGHTY ON BLACK SQUARE,,,,,,,,,,,THIRTY,THIRTY ONE,THIRTY TWO",
      "THIRTY THREE,THIRTY FOUR,THIRTY FIVE"]⟩,
    ⟨0x3249, "CIRCLED NUMBER TWENTY ", ["ON BLACK SQUARE,,,,,,,,ONE,TWO,THREE,FOUR,FIVE,SIX",
      "SEVEN,EIGHT,NINE"]⟩,
    ⟨0x3260, "CIRCLED HANGUL ", ["KIYEOK,NIEUN,TIKEUT,RIEUL,MIEUM,PIEUP,SIOS,IEUNG,CIEUC",
      "CHIEUCH,KHIEUKH,THIEUTH,PHIEUPH,HIEUH,KIYEOK A,NIEUN A,TIKEUT A,RIEUL A,MIEUM A,PIEUP A",
      "SIOS A,IEUNG A,CIEUC A,CHIEUCH A,KHIEUKH A,THIEUTH A,PHIEUPH A,HIEUH A,,,IEUNG U"]⟩,
    ⟨0x327C, "", ["CIRCLED KOREAN CHARACTER CHAMKO,CIRCLED KOREAN CHARACTER JUEUI,",
      "KOREAN STANDARD SYMBOL"]⟩,
    ⟨0x3280, "CIRCLED IDEOGRAPH ", ["ONE,TWO,THREE,FOUR,FIVE,SIX,SEVEN,EIGHT,NINE,TEN,MOON,FIRE",
      "WATER,WOOD,METAL,EARTH,SUN,STOCK,HAVE,SOCIETY,NAME,SPECIAL,FINANCIAL,CONGRATULATION",
      "LABOR,SECRET,MALE,FEMALE,SUITABLE,EXCELLENT,PRINT,ATTENTION,ITEM,REST,COPY,CORRECT,HIGH",
      "CENTRE,LOW,LEFT,RIGHT,MEDICINE,RELIGION,STUDY,SUPERVISE,ENTERPRISE,RESOURCE,ALLIANCE",
      "NIGHT"]⟩,
    ⟨0x32B1, "CIRCLED ", ["NUMBER THIRTY SIX,NUMBER THIRTY SEVEN,NUMBER THIRTY EIGHT",
      "NUMBER THIRTY NINE,NUMBER FORTY,,,,,,,,,,NUMBER FIFTY"]⟩,
    ⟨0x32B6, "CIRCLED NUMBER FORTY ", ["ONE,TWO,THREE,FOUR,FIVE,SIX,SEVEN,EIGHT,NINE"]⟩,
    ⟨0x32C0, "IDEOGRAPHIC TELEGRAPH SYMBOL ", ["FOR JANUARY,FOR FEBRUARY,FOR MARCH,FOR APRIL",
      "FOR MAY,FOR JUNE,FOR JULY,FOR AUGUST,FOR SEPTEMBER,FOR OCTOBER,FOR NOVEMBER,FOR DECEMBER"]⟩,
    ⟨0x32CC, "", ["SQUARE HG,SQUARE ERG,SQUARE EV,LIMITED LIABILITY SIGN"]⟩,
    ⟨0x32D0, "CIRCLED KATAKANA ", ["A,I,U,E,O,KA,KI,KU,KE,KO,SA,SI,SU,SE,SO,TA,TI,TU,TE,TO,NA",
      "NI,NU,NE,NO,HA,HI,HU,HE,HO,MA,MI,MU,ME,MO,YA,YU,YO,RA,RI,RU,RE,RO,WA,WI,WE,WO"]⟩,
    ⟨0x32FF, "SQUARE ", ["ERA NAME REIWA,APAATO,ARUHUA,ANPEA,AARU,ININGU,INTI,UON,ESUKUUDO",
      "EEKAA,ONSU,OOMU,KAIRI,KARATTO,KARORII,GARON,GANMA,GIGA,GINII,KYURII,GIRUDAA,KIRO",
      "KIROGURAMU,KIROMEETORU,KIROWATTO,GURAMU,GURAMUTON,KURUZEIRO,KUROONE,KEESU,KORUNA,KOOPO",
      "SAIKURU,SANTIIMU,SIRINGU,SENTI,SENTO,DAASU,DESI,DORU,TON,NANO,NOTTO,HAITU,PAASENTO,PAATU",
      "BAARERU,PIASUTORU,PIKURU,PIKO,BIRU,HUARADDO,HUIITO,BUSSYERU,HURAN,HEKUTAARU,PESO,PENIHI",
      "HERUTU,PENSU,PEEZI,BEETA,POINTO,BORUTO,HON,PONDO,HOORU,HOON,MAIKURO,MAIRU,MAHHA,MARUKU",
      "MANSYON,MIKURON,MIRI,MIRIBAARU,MEGA,MEGATON,MEETORU,YAADO,YAARU,YUAN,RITTORU,RIRA,RUPII",
      "RUUBURU,REMU,RENTOGEN,WATTO,,,,,,,,,,,,,,,,,,,,,,,,,,HPA,DA,AU,BAR,OV,PC,DM,DM SQUARED",
      "DM CUBED,IU,ERA NAME HEISEI,ERA NAME SYOUWA,ERA NAME TAISYOU,ERA NAME MEIZI,CORPORATION",
      "PA AMPS,NA,MU A,MA,KA,KB,MB,GB,CAL,KCAL,PF,NF,MU F,MU G,MG,KG,HZ,KHZ,MHZ,GHZ,THZ,MU L,ML",
      "DL,KL,FM,NM,MU M,MM,CM,KM,MM SQUARED,CM SQUARED,M SQUARED,KM SQUARED,MM CUBED,CM CUBED",
      "M CUBED,KM CUBED,M OVER S,M OVER S SQUARED,PA,KPA,MPA,GPA,RAD,RAD OVER S",
      "RAD OVER S SQUARED,PS,NS,MU S,MS,PV,NV,MU V,MV,KV,MV MEGA,PW,NW,MU W,MW,KW,MW MEGA,K OHM",
      "M OHM,AM,BQ,CC,CD,C OVER KG,CO,DB,GY,HA,HP,IN,KK,KM CAPITAL,KT,LM,LN,LOG,LX,MB SMALL,MIL",
      "MOL,PH,PM,PPM,PR,SR,SV,WB,V OVER M,A OVER M,,,,,,,,,,,,,,,,,,,,,,,,,,,,,,,,GAL"]⟩,
    ⟨0x3358, "IDEOGRAPHIC TELEGRAPH SYMBOL FOR HOUR ", ["ZERO,ONE,TWO,THREE,FOUR,FIVE,SIX,SEVEN",
      "EIGHT,NINE,TEN,ELEVEN,TWELVE,THIRTEEN,FOURTEEN,FIFTEEN,SIXTEEN,SEVENTEEN,EIGHTEEN",
      "NINETEEN,TWENTY,TWENTY-ONE,TWENTY-TWO,TWENTY-THREE,TWENTY-FOUR"]⟩,
    ⟨0x33E0, "IDEOGRAPHIC TELEGRAPH SYMBOL FOR DAY ", ["ONE,TWO,THREE,FOUR,FIVE,SIX,SEVEN,EIGHT",
      "NINE,TEN,ELEVEN,TWELVE,THIRTEEN,FOURTEEN,FIFTEEN,SIXTEEN,SEVENTEEN,EIGHTEEN,NINETEEN",
      "TWENTY,TWENTY-ONE,TWENTY-TWO,TWENTY-THREE,TWENTY-FOUR,TWENTY-FIVE,TWENTY-SIX",
      "TWENTY-SEVEN,TWENTY-EIGHT,TWENTY-NINE,THIRTY,THIRTY-ONE"]⟩,
    ⟨0x4DC0, "HEXAGRAM FOR ", ["THE CREATIVE HEAVEN,THE RECEPTIVE EARTH",
      "DIFFICULTY AT THE BEGINNING,YOUTHFUL FOLLY,WAITING,CONFLICT,THE ARMY,HOLDING TOGETHER",
      "SMALL TAMING,TREADING,PEACE,STANDSTILL,FELLOWSHIP,GREAT POSSESSION,MODESTY,ENTHUSIASM",
      "FOLLOWING,WORK ON THE DECAYED,APPROACH,CONTEMPLATION,BITING THROUGH,GRACE",
      "SPLITTING APART,RETURN,INNOCENCE,GREAT TAMING,MOUTH CORNERS,GREAT PREPONDERANCE",
      "THE ABYSMAL WATER,THE CLINGING FIRE,INFLUENCE,DURATION,RETREAT,GREAT POWER,PROGRESS",
      "DARKENING OF THE LIGHT,THE FAMILY,OPPOSITION,OBSTRUCTION,DELIVERANCE,DECREASE,INCREASE",
      "BREAKTHROUGH,COMING TO MEET,GATHERING TOGETHER,PUSHING UPWARD,OPPRESSION,THE WELL",
      "REVOLUTION,THE CAULDRON,THE AROUSING THUNDER,THE KEEPING STILL MOUNTAIN,DEVELOPMENT",
      "THE MARRYING MAIDEN,ABUNDANCE,THE WANDERER,THE GENTLE WIND,THE JOYOUS LAKE,DISPERSION",
      "LIMITATION,INNER TRUTH,SMALL PREPONDERANCE,AFTER COMPLETION,BEFORE COMPLETION"]⟩,
    ⟨0xA000, "YI SYLLABLE ", ["IT,IX,I,IP,IET,IEX,IE,IEP,AT,AX,A,AP,UOX,UO,UOP,OT,OX,O,OP,EX,E",
      "WU,BIT,BIX,BI,BIP,BIET,BIEX,BIE,BIEP,BAT,BAX,BA,BAP,BUOX,BUO,BUOP,BOT,BOX,BO,BOP,BEX,BE",
      "BEP,BUT,BUX,BU,BUP,BURX,BUR,BYT,BYX,BY,BYP,BYRX,BYR,PIT,PIX,PI,PIP,PIEX,PIE,PIEP,PAT,PAX",
      "PA,PAP,PUOX,PUO,PUOP,POT,POX,PO,POP,PUT,PUX,PU,PUP,PURX,PUR,PYT,PYX,PY,PYP,PYRX,PYR,BBIT",
      "BBIX,BBI,BBIP,BBIET,BBIEX,BBIE,BBIEP,BBAT,BBAX,BBA,BBAP,BBUOX,BBUO,BBUOP,BBOT,BBOX,BBO",
      "BBOP,BBEX,BBE,BBEP,BBUT,BBUX,BBU,BBUP,BBURX,BBUR,BBYT,BBYX,BBY,BBYP,NBIT,NBIX,NBI,NBIP",
      "NBIEX,NBIE,NBIEP,NBAT,NBAX,NBA,NBAP,NBOT,NBOX,NBO,NBOP,NBUT,NBUX,NBU,NBUP,NBURX,NBUR",
      "NBYT,NBYX,NBY,NBYP,NBYRX,NBYR,HMIT,HMIX,HMI,HMIP,HMIEX,HMIE,HMIEP,HMAT,HMAX,HMA,HMAP",
      "HMUOX,HMUO,HMUOP,HMOT,HMOX,HMO,HMOP,HMUT,HMUX,HMU,HMUP,HMURX,HMUR,HMYX,HMY,HMYP,HMYRX",
      "HMYR,MIT,MIX,MI,MIP,MIEX,MIE,MIEP,MAT,MAX,MA,MAP,MUOT,MUOX,MUO,MUOP,MOT,MOX,MO,MOP,MEX",
      "ME,MUT,MUX,MU,MUP,MURX,MUR,MYT,MYX,MY,MYP,FIT,FIX,FI,FIP,FAT,FAX,FA,FAP,FOX,FO,FOP,FUT",
      "FUX,FU,FUP,FURX,FUR,FYT,FYX,FY,FYP,VIT,VIX,VI,VIP,VIET,VIEX,VIE,VIEP,VAT,VAX,VA,VAP,VOT",
      "VOX,VO,VOP,VEX,VEP,VUT,VUX,VU,VUP,VURX,VUR,VYT,VYX,VY,VYP,VYRX,VYR,DIT,DIX,DI,DIP,DIEX",
      "DIE,DIEP,DAT,DAX,DA,DAP,DUOX,DUO,DOT,DOX,DO,DOP,DEX,DE,DEP,DUT,DUX,DU,DUP,DURX,DUR,TIT",
      "TIX,TI,TIP,TIEX,TIE,TIEP,TAT,TAX,TA,TAP,TUOT,TUOX,TUO,TUOP,TOT,TOX,TO,TOP,TEX,TE,TEP,TUT",
      "TUX,TU,TUP,TURX,TUR,DDIT,DDIX,DDI,DDIP,DDIEX,DDIE,DDIEP,DDAT,DDAX,DDA,DDAP,DDUOX,DDUO",
      "DDUOP,DDOT,DDOX,DDO,DDOP,DDEX,DDE,DDEP,DDUT,DDUX,DDU,DDUP,DDURX,DDUR,NDIT,NDIX,NDI,NDIP",
      "NDIEX,NDIE,NDAT,NDAX,NDA,NDAP,NDOT,NDOX,NDO,NDOP,NDEX,NDE,NDEP,NDUT,NDUX,NDU,NDUP,NDURX",
      "NDUR,HNIT,HNIX,HNI,HNIP,HNIET,HNIEX,HNIE,HNIEP,HNAT,HNAX,HNA,HNAP,HNUOX,HNUO,HNOT,HNOX",
      "HNOP,HNEX,HNE,HNEP,HNUT,NIT,NIX,NI,NIP,NIEX,NIE,NIEP,NAX,NA,NAP,NUOX,NUO,NUOP,NOT,NOX,NO",
      "NOP,NEX,NE,NEP,NUT,NUX,NU,NUP,NURX,NUR,HLIT,HLIX,HLI,HLIP,HLIEX,HLIE,HLIEP,HLAT,HLAX,HLA",
      "HLAP,HLUOX,HLUO,HLUOP,HLOX,HLO,HLOP,HLEX,HLE,HLEP,HLUT,HLUX,HLU,HLUP,HLURX,HLUR,HLYT",
      "HLYX,HLY,HLYP,HLYRX,HLYR,LIT,LIX,LI,LIP,LIET,LIEX,LIE,LIEP,LAT,LAX,LA,LAP,LUOT,LUOX,LUO",
      "LUOP,LOT,LOX,LO,LOP,LEX,LE,LEP,LUT,LUX,LU,LUP,LURX,LUR,LYT,LYX,LY,LYP,LYRX,LYR,GIT,GIX",
      "GI,GIP,GIET,GIEX,GIE,GIEP,GAT,GAX,GA,GAP,GUOT,GUOX,GUO,GUOP,GOT,GOX,GO,GOP,GET,GEX,GE",
      "GEP,GUT,GUX,GU,GUP,GURX,GUR,KIT,KIX,KI,KIP,KIEX,KIE,KIEP,KAT,KAX,KA,KAP,KUOX,KUO,KUOP",
      "KOT,KOX,KO,KOP,KET,KEX,KE,KEP,KUT,KUX,KU,KUP,KURX,KUR,GGIT,GGIX,GGI,GGIEX,GGIE,GGIEP",
      "GGAT,GGAX,GGA,GGAP,GGUOT,GGUOX,GGUO,GGUOP,GGOT,GGOX,GGO,GGOP,GGET,GGEX,GGE,GGEP,GGUT",
      "GGUX,GGU,GGUP,GGURX,GGUR,MGIEX,MGIE,MGAT,MGAX,MGA,MGAP,MGUOX,MGUO,MGUOP,MGOT,MGOX,MGO",
      "MGOP,MGEX,MGE,MGEP,MGUT,MGUX,MGU,MGUP,MGURX,MGUR,HXIT,HXIX,HXI,HXIP,HXIET,HXIEX,HXIE",
      "HXIEP,HXAT,HXAX,HXA,HXAP,HXUOT,HXUOX,HXUO,HXUOP,HXOT,HXOX,HXO,HXOP,HXEX,HXE,HXEP,NGIEX",
      "NGIE,NGIEP,NGAT,NGAX,NGA,NGAP,NGUOT,NGUOX,NGUO,NGOT,NGOX,NGO,NGOP,NGEX,NGE,NGEP,HIT,HIEX",
      "HIE,HAT,HAX,HA,HAP,HUOT,HUOX,HUO,HUOP,HOT,HOX,HO,HOP,HEX,HE,HEP,WAT,WAX,WA,WAP,WUOX,WUO",
      "WUOP,WOX,WO,WOP,WEX,WE,WEP,ZIT,ZIX,ZI,ZIP,ZIEX,ZIE,ZIEP,ZAT,ZAX,ZA,ZAP,ZUOX,ZUO,ZUOP,ZOT",
      "ZOX,ZO,ZOP,ZEX,ZE,ZEP,ZUT,ZUX,ZU,ZUP,ZURX,ZUR,ZYT,ZYX,ZY,ZYP,ZYRX,ZYR,CIT,CIX,CI,CIP",
      "CIET,CIEX,CIE,CIEP,CAT,CAX,CA,CAP,CUOX,CUO,CUOP,COT,COX,CO,COP,CEX,CE,CEP,CUT,CUX,CU,CUP",
      "CURX,CUR,CYT,CYX,CY,CYP,CYRX,CYR,ZZIT,ZZIX,ZZI,ZZIP,ZZIET,ZZIEX,ZZIE,ZZIEP,ZZAT,ZZAX,ZZA",
      "ZZAP,ZZOX,ZZO,ZZOP,ZZEX,ZZE,ZZEP,ZZUX,ZZU,ZZUP,ZZURX,ZZUR,ZZYT,ZZYX,ZZY,ZZYP,ZZYRX,ZZYR",
      "NZIT,NZIX,NZI,NZIP,NZIEX,NZIE,NZIEP,NZAT,NZAX,NZA,NZAP,NZUOX,NZUO,NZOX,NZOP,NZEX,NZE",
      "NZUX,NZU,NZUP,NZURX,NZUR,NZYT,NZYX,NZY,NZYP,NZYRX,NZYR,SIT,SIX,SI,SIP,SIEX,SIE,SIEP,SAT",
      "SAX,SA,SAP,SUOX,SUO,SUOP,SOT,SOX,SO,SOP,SEX,SE,SEP,SUT,SUX,SU,SUP,SURX,SUR,SYT,SYX,SY",
      "SYP,SYRX,SYR,SSIT,SSIX,SSI,SSIP,SSIEX,SSIE,SSIEP,SSAT,SSAX,SSA,SSAP,SSOT,SSOX,SSO,SSOP",
      "SSEX,SSE,SSEP,SSUT,SSUX,SSU,SSUP,SSYT,SSYX,SSY,SSYP,SSYRX,SSYR,ZHAT,ZHAX,ZHA,ZHAP,ZHUOX",
      "ZHUO,ZHUOP,ZHOT,ZHOX,ZHO,ZHOP,ZHET,ZHEX,ZHE,ZHEP,ZHUT,ZHUX,ZHU,ZHUP,ZHURX,ZHUR,ZHYT,ZHYX",
      "ZHY,ZHYP,ZHYRX,ZHYR,CHAT,CHAX,CHA,CHAP,CHUOT,CHUOX,CHUO,CHUOP,CHOT,CHOX,CHO,CHOP,CHET",
      "CHEX,CHE,CHEP,CHUX,CHU,CHUP,CHURX,CHUR,CHYT,CHYX,CHY,CHYP,CHYRX,CHYR,RRAX,RRA,RRUOX,RRUO",
      "RROT,RROX,RRO,RROP,RRET,RREX,RRE,RREP,RRUT,RRUX,RRU,RRUP,RRURX,RRUR,RRYT,RRYX,RRY,RRYP",
      "RRYRX,RRYR,NRAT,NRAX,NRA,NRAP,NROX,NRO,NROP,NRET,NREX,NRE,NREP,NRUT,NRUX,NRU,NRUP,NRURX",
      "NRUR,NRYT,NRYX,NRY,NRYP,NRYRX,NRYR,SHAT,SHAX,SHA,SHAP,SHUOX,SHUO,SHUOP,SHOT,SHOX,SHO",
      "SHOP,SHET,SHEX,SHE,SHEP,SHUT,SHUX,SHU,SHUP,SHURX,SHUR,SHYT,SHYX,SHY,SHYP,SHYRX,SHYR,RAT",
      "RAX,RA,RAP,RUOX,RUO,RUOP,ROT,ROX,RO,ROP,REX,RE,REP,RUT,RUX,RU,RUP,RURX,RUR,RYT,RYX,RY",
      "RYP,RYRX,RYR,JIT,JIX,JI,JIP,JIET,JIEX,JIE,JIEP,JUOT,JUOX,JUO,JUOP,JOT,JOX,JO,JOP,JUT,JUX",
      "JU,JUP,JURX,JUR,JYT,JYX,JY,JYP,JYRX,JYR,QIT,QIX,QI,QIP,QIET,QIEX,QIE,QIEP,QUOT,QUOX,QUO",
      "QUOP,QOT,QOX,QO,QOP,QUT,QUX,QU,QUP,QURX,QUR,QYT,QYX,QY,QYP,QYRX,QYR,JJIT,JJIX,JJI,JJIP",
      "JJIET,JJIEX,JJIE,JJIEP,JJUOX,JJUO,JJUOP,JJOT,JJOX,JJO,JJOP,JJUT,JJUX,JJU,JJUP,JJURX,JJUR",
      "JJYT,JJYX,JJY,JJYP,NJIT,NJIX,NJI,NJIP,NJIET,NJIEX,NJIE,NJIEP,NJUOX,NJUO,NJOT,NJOX,NJO",
      "NJOP,NJUX,NJU,NJUP,NJURX,NJUR,NJYT,NJYX,NJY,NJYP,NJYRX,NJYR,NYIT,NYIX,NYI,NYIP,NYIET",
      "NYIEX,NYIE,NYIEP,NYUOX,NYUO,NYUOP,NYOT,NYOX,NYO,NYOP,NYUT,NYUX,NYU,NYUP,XIT,XIX,XI,XIP",
      "XIET,XIEX,XIE,XIEP,XUOX,XUO,XOT,XOX,XO,XOP,XYT,XYX,XY,XYP,XYRX,XYR,YIT,YIX,YI,YIP,YIET",
      "YIEX,YIE,YIEP,YUOT,YUOX,YUO,YUOP,YOT,YOX,YO,YOP,YUT,YUX,YU,YUP,YURX,YUR,YYT,YYX,YY,YYP",
      "YYRX,YYR"]⟩,
    ⟨0xA490, "YI RADICAL ", ["QOT,LI,KIT,NYIP,CYP,SSI,GGOP,GEP,MI,HXIT,LYR,BBUT,MOP,YO,PUT,HXUO",
      "TAT,GA,ZUP,CYT,DDUR,BUR,GGUO,NYOP,TU,OP,JJUT,ZOT,PYT,HMO,YIT,VUR,SHY,VEP,ZA,JO,NZUP,JJY",
      "GOT,JJIE,WO,DU,SHUR,LIE,CY,CUOP,CIP,HXOP,SHAT,ZUR,SHOP,CHE,ZZIET,NBIE,KE"]⟩,
    ⟨0xA4D0, "LISU LETTER ", ["BA,PA,PHA,DA,TA,THA,GA,KA,KHA,JA,CA,CHA,DZA,TSA,TSHA,MA,NA,LA,SA",
      "ZHA,ZA,NGA,HA,XA,HHA,FA,WA,SHA,YA,GHA,A,AE,E,EU,I,O,U,UE,UH,OE,TONE MYA TI,TONE NA PO",
      "TONE MYA CYA,TONE MYA BO,TONE MYA NA,TONE MYA JEU"]⟩,
    ⟨0xA4FE, "", ["LISU PUNCTUATION COMMA,LISU PUNCTUATION FULL STOP"]⟩,
    ⟨0xA500, "VAI SYLLABLE ", ["EE,EEN,HEE,WEE,WEEN,PEE,BHEE,BEE,MBEE,KPEE,MGBEE,GBEE,FEE,VEE",
      "TEE,THEE,DHEE,DHHEE,LEE,REE,DEE,NDEE,SEE,SHEE,ZEE,ZHEE,CEE,JEE,NJEE,YEE,KEE,NGGEE,GEE",
      "MEE,NEE,NYEE,I,IN,HI,HIN,WI,WIN,PI,BHI,BI,MBI,KPI,MGBI,GBI,FI,VI,TI,THI,DHI,DHHI,LI,RI",
      "DI,NDI,SI,SHI,ZI,ZHI,CI,JI,NJI,YI,KI,NGGI,GI,MI,NI,NYI,A,AN,NGAN,HA,HAN,WA,WAN,PA,BHA,BA",
      "MBA,KPA,KPAN,MGBA,GBA,FA,VA,TA,THA,DHA,DHHA,LA,RA,DA,NDA,SA,SHA,ZA,ZHA,CA,JA,NJA,YA,KA",
      "KAN,NGGA,GA,MA,NA,NYA,OO,OON,HOO,WOO,WOON,POO,BHOO,BOO,MBOO,KPOO,MGBOO,GBOO,FOO,VOO,TOO",
      "THOO,DHOO,DHHOO,LOO,ROO,DOO,NDOO,SOO,SHOO,ZOO,ZHOO,COO,JOO,NJOO,YOO,KOO,NGGOO,GOO,MOO",
      "NOO,NYOO,U,UN,HU,HUN,WU,WUN,PU,BHU,BU,MBU,KPU,MGBU,GBU,FU,VU,TU,THU,DHU,DHHU,LU,RU,DU",
      "NDU,SU,SHU,ZU,ZHU,CU,JU,NJU,YU,KU,NGGU,GU,MU,NU,NYU,O,ON,NGON,HO,HON,WO,WON,PO,BHO,BO",
      "MBO,KPO,MGBO,GBO,GBON,FO,VO,TO,THO,DHO,DHHO,LO,RO,DO,NDO,SO,SHO,ZO,ZHO,CO,JO,NJO,YO,KO",
      "NGGO,GO,MO,NO,NYO,E,EN,NGEN,HE,HEN,WE,WEN,PE,BHE,BE,MBE,KPE,KPEN,MGBE,GBE,GBEN,FE,VE,TE",
      "THE,DHE,DHHE,LE,RE,DE,NDE,SE,SHE,ZE,ZHE,CE,JE,NJE,YE,KE,NGGE,NGGEN,GE,GEN,ME,NE,NYE,NG",
      "LENGTHENER,,,,NDOLE FA,NDOLE KA,NDOLE SOO,,,,,,,,,,,,,,,,,,,,,,,,NDOLE MA,NDOLE DO"]⟩,
    ⟨0xA60D, "", ["VAI COMMA,VAI FULL STOP,VAI QUESTION MARK"]⟩,
    ⟨0xA613, "VAI SYMBOL ", ["FEENG,KEENG,TING,NII,BANG,FAA,TAA,DANG,DOONG,KUNG,TONG,DO-O,JONG"]⟩,
    ⟨0xA620, "VAI DIGIT ", ["ZERO,ONE,TWO,THREE,FOUR,FIVE,SIX,SEVEN,EIGHT,NINE"]⟩,
    ⟨0xA640, "CYRILLIC CAPITAL LETTER ", ["ZEMLYA,,DZELO,,REVERSED DZE,,IOTA,,DJERV,",
      "MONOGRAPH UK,,BROAD OMEGA,,NEUTRAL YER,,YERU WITH BACK YER,,IOTIFIED YAT,,REVERSED YU,",
      "IOTIFIED A,,CLOSED LITTLE YUS,,BLENDED YUS,,IOTIFIED CLOSED LITTLE YUS,,YN,,REVERSED TSE",
      ",SOFT DE,,SOFT EL,,SOFT EM,,MONOCULAR O,,BINOCULAR O,,DOUBLE MONOCULAR O,,,,,,,,,,,,,,,,",
      ",,,DWE,,DZWE,,ZHWE,,CCHE,,DZZE,,TE WITH MIDDLE HOOK,,TWE,,TSWE,,TSSE,,TCHE,,HWE,,SHWE,",
      "DOUBLE O,,CROSSED O"]⟩,
    ⟨0xA641, "CYRILLIC SMALL LETTER ", ["ZEMLYA,,DZELO,,REVERSED DZE,,IOTA,,DJERV,,MONOGRAPH UK",
      ",BROAD OMEGA,,NEUTRAL YER,,YERU WITH BACK YER,,IOTIFIED YAT,,REVERSED YU,,IOTIFIED A,",
      "CLOSED LITTLE YUS,,BLENDED YUS,,IOTIFIED CLOSED LITTLE YUS,,YN,,REVERSED TSE,,SOFT DE,",
      "SOFT EL,,SOFT EM,,MONOCULAR O,,BINOCULAR O,,DOUBLE MONOCULAR O,,,,,,,,,,,,,,,,,,,,DWE,",
      "DZWE,,ZHWE,,CCHE,,DZZE,,TE WITH MIDDLE HOOK,,TWE,,TSWE,,TSSE,,TCHE,,HWE,,SHWE,,DOUBLE O,",
      "CROSSED O"]⟩,
    ⟨0xA66E, "", ["CYRILLIC LETTER MULTIOCULAR O,,,,,SLAVONIC ASTERISK,,,,,,,,,,",
      "CYRILLIC KAVYKA,CYRILLIC PAYEROK"]⟩,
    ⟨0xA66F, "COMBINING CYRILLIC ", ["VZMET,TEN MILLIONS SIGN,HUNDRED MILLIONS SIGN",
      "THOUSAND MILLIONS SIGN,,LETTER UKRAINIAN IE,LETTER I,LETTER YI,LETTER U,LETTER HARD SIGN",
      "LETTER YERU,LETTER SOFT SIGN,LETTER OMEGA,KAVYKA,PAYEROK,,,,,,,,,,,,,,,,,,,,,,,,,,,,,,,,",
      "LETTER EF,LETTER IOTIFIED E"]⟩,
    ⟨0xA69C, "", ["MODIFIER LETTER CYRILLIC HARD SIGN,MODIFIER LETTER CYRILLIC SOFT SIGN"]⟩,
    ⟨0xA6A0, "BAMUM LETTER ", ["A,KA,U,KU,EE,REE,TAE,O,NYI,I,LA,PA,RII,RIEE,LEEEE,MEEEE,TAA",
      "NDAA,NJAEM,M,SUU,MU,SHII,SI,SHEUX,SEUX,KYEE,KET,NUAE,NU,NJUAE,YOQ,SHU,YUQ,YA,NSHA,KEUX",
      "PEUX,NJEE,NTEE,PUE,WUE,PEE,FEE,RU,LU,MI,NI,REUX,RAE,KEN,NGKWAEN,NGGA,NGA,SHO,PUAE,FU,FOM",
      "WA,NA,LI,PI,LOQ,KO,MBEN,REN,MEN,MA,TI,KI,MO,MBAA,TET,KPA,TEN,NTUU,SAMBA,FAAMAE,KOVUU",
      "KOGHOM"]⟩,
    ⟨0xA6F0, "BAMUM ", ["COMBINING MARK KOQNDON,COMBINING MARK TUKWENTIS,NJAEMLI,FULL STOP",
      "COLON,COMMA,SEMICOLON,QUESTION MARK"]⟩,
    ⟨0xA700, "MODIFIER LETTER CHINESE ", ["TONE YIN PING,TONE YANG PING,TONE YIN SHANG",
      "TONE YANG SHANG,TONE YIN QU,TONE YANG QU,TONE YIN RU,TONE YANG RU"]⟩,
    ⟨0xA708, "MODIFIER LETTER ", ["EXTRA-HIGH DOTTED TONE BAR,HIGH DOTTED TONE BAR",
      "MID DOTTED TONE BAR,LOW DOTTED TONE BAR,EXTRA-LOW DOTTED TONE BAR",
      "EXTRA-HIGH DOTTED LEFT-STEM TONE BAR,HIGH DOTTED LEFT-STEM TONE BAR",
      "MID DOTTED LEFT-STEM TONE BAR,LOW DOTTED LEFT-STEM TONE BAR",
      "EXTRA-LOW DOTTED LEFT-STEM TONE BAR,EXTRA-HIGH LEFT-STEM TONE BAR",
      "HIGH LEFT-STEM TONE BAR,MID LEFT-STEM TONE BAR,LOW LEFT-STEM TONE BAR",
      "EXTRA-LOW LEFT-STEM TONE BAR,DOT VERTICAL BAR,DOT SLASH,DOT HORIZONTAL BAR",
      "LOWER RIGHT CORNER ANGLE,RAISED UP ARROW,RAISED DOWN ARROW,RAISED EXCLAMATION MARK",
      "RAISED INVERTED EXCLAMATION MARK,LOW INVERTED EXCLAMATION MARK,STRESS AND HIGH TONE",
      "STRESS AND LOW TONE"]⟩,
    ⟨0xA722, "LATIN CAPITAL LETTER ", ["EGYPTOLOGICAL ALEF,,EGYPTOLOGICAL AIN,,HENG,,TZ,",
      "TRESILLO,,CUATRILLO,,CUATRILLO WITH COMMA,,,,AA,,AO,,AU,,AV,,AV WITH HORIZONTAL BAR,,AY,",
      "REVERSED C WITH DOT,,K WITH STROKE,,K WITH DIAGONAL STROKE,",
      "K WITH STROKE AND DIAGONAL STROKE,,BROKEN L,,L WITH HIGH STROKE,",
      "O WITH LONG STROKE OVERLAY,,O WITH LOOP,,OO,,P WITH STROKE THROUGH DESCENDER,",
      "P WITH FLOURISH,,P WITH SQUIRREL TAIL,,Q WITH STROKE THROUGH DESCENDER,",
      "Q WITH DIAGONAL STROKE,,R ROTUNDA,,RUM ROTUNDA,,V WITH DIAGONAL STROKE,,VY,,VISIGOTHIC Z",
      ",THORN WITH STROKE,,THORN WITH STROKE THROUGH DESCENDER,,VEND,,ET,,IS,,CON,,,,,,,,,,",
      "INSULAR D,,INSULAR F,,INSULAR G,TURNED INSULAR G,,TURNED L,,INSULAR R,,INSULAR S,",
      "INSULAR T,,,,,SALTILLO,,TURNED H,,,N WITH DESCENDER,,C WITH BAR,,,,B WITH FLOURISH,",
      "F WITH STROKE,,VOLAPUK AE,,VOLAPUK OE,,VOLAPUK UE,,G WITH OBLIQUE STROKE,",
      "K WITH OBLIQUE STROKE,,N WITH OBLIQUE STROKE,,R WITH OBLIQUE STROKE,",
      "S WITH OBLIQUE STROKE,,H WITH HOOK,REVERSED OPEN E,SCRIPT G,L WITH BELT,SMALL CAPITAL I,",
      "TURNED K,TURNED T,J WITH CROSSED-TAIL,CHI,BETA,,OMEGA,,U WITH STROKE,,GLOTTAL A,",
      "GLOTTAL I,,GLOTTAL U,,OLD POLISH O,,ANGLICANA W,,C WITH PALATAL HOOK,S WITH HOOK",
      "Z WITH PALATAL HOOK,D WITH SHORT STROKE OVERLAY,,S WITH SHORT STROKE OVERLAY,,,,,,",
      "CLOSED INSULAR G,,,,,,MIDDLE SCOTS S,,SIGMOID S,,,,,,,,,,,,,,,,,,,,,,,,,,,,",
      "REVERSED HALF H"]⟩,
    ⟨0xA723, "LATIN SMALL LETTER ", ["EGYPTOLOGICAL ALEF,,EGYPTOLOGICAL AIN,,HENG,,TZ,,TRESILLO",
      ",CUATRILLO,,CUATRILLO WITH COMMA,,,,AA,,AO,,AU,,AV,,AV WITH HORIZONTAL BAR,,AY,",
      "REVERSED C WITH DOT,,K WITH STROKE,,K WITH DIAGONAL STROKE,",
      "K WITH STROKE AND DIAGONAL STROKE,,BROKEN L,,L WITH HIGH STROKE,",
      "O WITH LONG STROKE OVERLAY,,O WITH LOOP,,OO,,P WITH STROKE THROUGH DESCENDER,",
      "P WITH FLOURISH,,P WITH SQUIRREL TAIL,,Q WITH STROKE THROUGH DESCENDER,",
      "Q WITH DIAGONAL STROKE,,R ROTUNDA,,RUM ROTUNDA,,V WITH DIAGONAL STROKE,,VY,,VISIGOTHIC Z",
      ",THORN WITH STROKE,,THORN WITH STROKE THROUGH DESCENDER,,VEND,,ET,,IS,,CON,,DUM,LUM,MUM",
      "NUM,RUM,,TUM,UM,,INSULAR D,,INSULAR F,,,TURNED INSULAR G,,TURNED L,,INSULAR R,,INSULAR S",
      ",INSULAR T,,,,,SALTILLO,,L WITH RETROFLEX HOOK AND BELT,,,N WITH DESCENDER,,C WITH BAR",
      "C WITH PALATAL HOOK,H WITH PALATAL HOOK,,B WITH FLOURISH,,F WITH STROKE,,VOLAPUK AE,",
      "VOLAPUK OE,,VOLAPUK UE,,G WITH OBLIQUE STROKE,,K WITH OBLIQUE STROKE,",
      "N WITH OBLIQUE STROKE,,R WITH OBLIQUE STROKE,,S WITH OBLIQUE STROKE,,,,,,,,,,,,BETA,",
      "OMEGA,,U WITH STROKE,,GLOTTAL A,,GLOTTAL I,,GLOTTAL U,,OLD POLISH O,,ANGLICANA W,,,,",
      "D WITH SHORT STROKE OVERLAY,,S WITH SHORT STROKE OVERLAY,,,,,,,CLOSED INSULAR G,",
      "DOUBLE THORN,,DOUBLE WYNN,,MIDDLE SCOTS S,,SIGMOID S,,,,,,,,,,,,,,,,,,,,,,,,,,,,",
      "REVERSED HALF H"]⟩,
    ⟨0xA730, "", ["LATIN LETTER SMALL CAPITAL F,LATIN LETTER SMALL CAPITAL S"]⟩,
    ⟨0xA770, "", ["MODIFIER LETTER US,,,,,,LATIN LETTER SMALL CAPITAL RUM,,,,,,,,,,,,,,,,,",
      "MODIFIER LETTER LOW CIRCUMFLEX ACCENT,MODIFIER LETTER COLON",
      "MODIFIER LETTER SHORT EQUALS SIGN,,,,,LATIN LETTER SINOLOGICAL DOT"]⟩,
    ⟨0xA7AF, "", ["LATIN LETTER SMALL CAPITAL Q"]⟩,
    ⟨0xA7F2, "MODIFIER ", ["LETTER CAPITAL C,LETTER CAPITAL F,LETTER CAPITAL Q,,,",
      "LETTER CAPITAL H WITH STROKE,LETTER SMALL LIGATURE OE"]⟩,
    ⟨0xA7F7, "LATIN EPIGRAPHIC ", ["LETTER SIDEWAYS I,,,,LETTER REVERSED F,LETTER REVERSED P",
      "LETTER INVERTED M,LETTER I LONGA,LETTER ARCHAIC M"]⟩,
    ⟨0xA7FA, "", ["LATIN LETTER SMALL CAPITAL TURNED M"]⟩,
    ⟨0xA800, "SYLOTI NAGRI LETTER ", ["A,I,,U,E,O,,KO,KHO,GO,GHO,,CO,CHO,JO,JHO,TTO,TTHO,DDO",
      "DDHO,TO,THO,DO,DHO,NO,PO,PHO,BO,BHO,MO,RO,LO,RRO,SO,HO"]⟩,
    ⟨0xA802, "SYLOTI NAGRI ", ["SIGN DVISVARA,,,,SIGN HASANTA,,,,,SIGN ANUSVARA,,,,,,,,,,,,,,,,",
      ",,,,,,,VOWEL SIGN A,VOWEL SIGN I,VOWEL SIGN U,VOWEL SIGN E,VOWEL SIGN OO,POETRY MARK-1",
      "POETRY MARK-2,POETRY MARK-3,POETRY MARK-4,SIGN ALTERNATE HASANTA"]⟩,
    ⟨0xA830, "NORTH INDIC FRACTION ", ["ONE QUARTER,ONE HALF,THREE QUARTERS,ONE SIXTEENTH",
      "ONE EIGHTH,THREE SIXTEENTHS"]⟩,
    ⟨0xA836, "", ["NORTH INDIC QUARTER MARK,NORTH INDIC PLACEHOLDER MARK,NORTH INDIC RUPEE MARK",
      "NORTH INDIC QUANTITY MARK"]⟩,
    ⟨0xA840, "PHAGS-PA LETTER ", ["KA,KHA,GA,NGA,CA,CHA,JA,NYA,TA,THA,DA,NA,PA,PHA,BA,MA,TSA",
      "TSHA,DZA,WA,ZHA,ZA,SMALL A,YA,RA,LA,SHA,SA,HA,A,I,U,E,O,QA,XA,FA,GGA,EE,,,TTA,TTHA,DDA",
      "NNA,ALTERNATE YA,VOICELESS SHA,VOICED HA,ASPIRATED FA,,,CANDRABINDU"]⟩,
    ⟨0xA867, "PHAGS-", ["PA SUBJOINED LETTER WA,PA SUBJOINED LETTER YA,,,,,,,,",
      "PA SUBJOINED LETTER RA,PA SUPERFIXED LETTER RA,,PA SINGLE HEAD MARK,PA DOUBLE HEAD MARK",
      "PA MARK SHAD,PA MARK DOUBLE SHAD"]⟩,
    ⟨0xA880, "", ["SAURASHTRA SIGN ANUSVARA,SAURASHTRA SIGN VISARGA"]⟩,
    ⟨0xA882, "SAURASHTRA LETTER ", ["A,AA,I,II,U,UU,VOCALIC R,VOCALIC RR,VOCALIC L,VOCALIC LL,E",
      "EE,AI,O,OO,AU,KA,KHA,GA,GHA,NGA,CA,CHA,JA,JHA,NYA,TTA,TTHA,DDA,DDHA,NNA,TA,THA,DA,DHA,NA",
      "PA,PHA,BA,BHA,MA,YA,RA,LA,VA,SHA,SSA,SA,HA,LLA"]⟩,
    ⟨0xA8B4, "", ["SAURASHTRA CONSONANT SIGN HAARU,,,,,,,,,,,,,,,,SAURASHTRA SIGN VIRAMA",
      "SAURASHTRA SIGN CANDRABINDU,,,,,,,,,SAURASHTRA DANDA,SAURASHTRA DOUBLE DANDA"]⟩,
    ⟨0xA8B5, "SAURASHTRA VOWEL SIGN ", ["AA,I,II,U,UU,VOCALIC R,VOCALIC RR,VOCALIC L,VOCALIC LL",
      "E,EE,AI,O,OO,AU"]⟩,
    ⟨0xA8D0, "SAURASHTRA DIGIT ", ["ZERO,ONE,TWO,THREE,FOUR,FIVE,SIX,SEVEN,EIGHT,NINE"]⟩,
    ⟨0xA8E0, "COMBINING DEVANAGARI DIGIT ", ["ZERO,ONE,TWO,THREE,FOUR,FIVE,SIX,SEVEN,EIGHT,NINE"]⟩,
    ⟨0xA8EA, "COMBINING DEVANAGARI ", ["LETTER A,LETTER U,LETTER KA,LETTER NA,LETTER PA",
      "LETTER RA,LETTER VI,SIGN AVAGRAHA"]⟩,
    ⟨0xA8F2, "DEVANAGARI ", ["SIGN SPACING CANDRABINDU,SIGN CANDRABINDU VIRAMA",
      "SIGN DOUBLE CANDRABINDU VIRAMA,SIGN CANDRABINDU TWO,SIGN CANDRABINDU THREE",
      "SIGN CANDRABINDU AVAGRAHA,SIGN PUSHPIKA,GAP FILLER,CARET,HEADSTROKE,SIGN SIDDHAM,JAIN OM",
      "LETTER AY,VOWEL SIGN AY"]⟩,
    ⟨0xA900, "KAYAH LI DIGIT ", ["ZERO,ONE,TWO,THREE,FOUR,FIVE,SIX,SEVEN,EIGHT,NINE"]⟩,
    ⟨0xA90A, "KAYAH LI LETTER ", ["KA,KHA,GA,NGA,SA,SHA,ZA,NYA,TA,HTA,NA,PA,PHA,MA,DA,BA,RA,YA",
      "LA,WA,THA,HA,VA,CA,A,OE,I,OO"]⟩,
    ⟨0xA926, "KAYAH ", ["LI VOWEL UE,LI VOWEL E,LI VOWEL U,LI VOWEL EE,LI VOWEL O",
      "LI TONE PLOPHU,LI TONE CALYA,LI TONE CALYA PLOPHU,LI SIGN CWI,LI SIGN SHYA"]⟩,
    ⟨0xA930, "REJANG LETTER ", ["KA,GA,NGA,TA,DA,NA,PA,BA,MA,CA,JA,NYA,SA,RA,LA,YA,WA,HA,MBA",
      "NGGA,NDA,NYJA,A"]⟩,
    ⟨0xA947, "REJANG VOWEL ", ["SIGN I,SIGN U,SIGN E,SIGN AI,SIGN O,SIGN AU,SIGN EU,SIGN EA"]⟩,
    ⟨0xA94F, "", ["REJANG CONSONANT SIGN NG,REJANG CONSONANT SIGN N,REJANG CONSONANT SIGN R",
      "REJANG CONSONANT SIGN H,REJANG VIRAMA,,,,,,,,,,,,REJANG SECTION MARK"]⟩,
    ⟨0xA960, "HANGUL CHOSEONG ", ["TIKEUT-MIEUM,TIKEUT-PIEUP,TIKEUT-SIOS,TIKEUT-CIEUC,,,,,,,,,,",
      ",MIEUM-KIYEOK,MIEUM-TIKEUT,MIEUM-SIOS,PIEUP-SIOS-THIEUTH,PIEUP-KHIEUKH,PIEUP-HIEUH",
      "SSANGSIOS-PIEUP,IEUNG-RIEUL,IEUNG-HIEUH,SSANGCIEUC-HIEUH,SSANGTHIEUTH,PHIEUPH-HIEUH",
      "HIEUH-SIOS,SSANGYEORINHIEUH"]⟩,
    ⟨0xA964, "HANGUL CHOSEONG RIEUL-", ["KIYEOK,SSANGKIYEOK,TIKEUT,SSANGTIKEUT,MIEUM,PIEUP",
      "SSANGPIEUP,KAPYEOUNPIEUP,SIOS,CIEUC,KHIEUKH"]⟩,
    ⟨0xA980, "JAVANESE ", ["SIGN PANYANGGA,SIGN CECAK,SIGN LAYAR,SIGN WIGNYAN"]⟩,
    ⟨0xA984, "JAVANESE LETTER ", ["A,I KAWI,I,II,U,PA CEREK,NGA LELET,NGA LELET RASWADI,E,AI,O",
      "KA,KA SASAK,KA MURDA,GA,GA MURDA,NGA,CA,CA MURDA,JA,NYA MURDA,JA MAHAPRANA,NYA,TTA",
      "TTA MAHAPRANA,DDA,DDA MAHAPRANA,NA MURDA,TA,TA MURDA,DA,DA MAHAPRANA,NA,PA,PA MURDA,BA",
      "BA MURDA,MA,YA,RA,RA AGUNG,LA,WA,SA MURDA,SA MAHAPRANA,SA,HA"]⟩,
    ⟨0xA9B3, "JAVANESE ", ["SIGN CECAK TELU,,,,,,,,,,CONSONANT SIGN KERET",
      "CONSONANT SIGN PENGKAL,CONSONANT SIGN CAKRA,PANGKON,LEFT RERENGGAN,RIGHT RERENGGAN,,,,,,",
      ",,,,TURNED PADA PISELEH,,PANGRANGKEP"]⟩,
    ⟨0xA9B4, "JAVANESE VOWEL ", ["SIGN TARUNG,SIGN TOLONG,SIGN WULU,SIGN WULU MELIK,SIGN SUKU",
      "SIGN SUKU MENDUT,SIGN TALING,SIGN DIRGA MURE,SIGN PEPET"]⟩,
    ⟨0xA9C3, "JAVANESE PADA ", ["ANDAP,MADYA,LUHUR,WINDU,PANGKAT,LINGSA,LUNGSI,ADEG,ADEG ADEG",
      "PISELEH,,,,,,,,,,,,,,,,,,TIRTA TUMETES,ISEN-ISEN"]⟩,
    ⟨0xA9D0, "JAVANESE DIGIT ", ["ZERO,ONE,TWO,THREE,FOUR,FIVE,SIX,SEVEN,EIGHT,NINE"]⟩,
    ⟨0xA9E0, "MYANMAR ", ["LETTER SHAN GHA,LETTER SHAN CHA,LETTER SHAN JHA,LETTER SHAN NNA",
      "LETTER SHAN BHA,SIGN SHAN SAW,MODIFIER LETTER SHAN REDUPLICATION"]⟩,
    ⟨0xA9E7, "MYANMAR LETTER TAI LAING ", ["NYA,FA,GA,GHA,JA,JHA,DDA,DDHA,NNA,,,,,,,,,,,LLA,DA",
      "DHA,BA,BHA"]⟩,
    ⟨0xA9F0, "MYANMAR TAI LAING DIGIT ", ["ZERO,ONE,TWO,THREE,FOUR,FIVE,SIX,SEVEN,EIGHT,NINE"]⟩,
    ⟨0xAA00, "CHAM LETTER ", ["A,I,U,E,AI,O,KA,KHA,GA,GHA,NGUE,NGA,CHA,CHHA,JA,JHA,NHUE,NHA",
      "NHJA,TA,THA,DA,DHA,NUE,NA,DDA,PA,PPA,PHA,BA,BHA,MUE,MA,BBA,YA,RA,LA,VA,SSA,SA,HA"]⟩,
    ⟨0xAA29, "CHAM VOWEL SIGN ", ["AA,I,II,EI,U,OE,O,AI,AU,UE"]⟩,
    ⟨0xAA33, "CHAM CONSONANT ", ["SIGN YA,SIGN RA,SIGN LA,SIGN WA,,,,,,,,,,,,,SIGN FINAL NG,,,,",
      ",,,,SIGN FINAL M,SIGN FINAL H"]⟩,
    ⟨0xAA40, "CHAM LETTER FINAL ", ["K,G,NG,,CH,T,N,P,Y,R,L,SS"]⟩,
    ⟨0xAA50, "CHAM DIGIT ", ["ZERO,ONE,TWO,THREE,FOUR,FIVE,SIX,SEVEN,EIGHT,NINE"]⟩,
    ⟨0xAA5C, "CHAM PUNCTUATION ", ["SPIRAL,DANDA,DOUBLE DANDA,TRIPLE DANDA"]⟩,
    ⟨0xAA60, "MYANMAR LETTER KHAMTI ", ["GA,CA,CHA,JA,JHA,NYA,TTA,TTHA,DDA,DDHA,DHA,NA,SA,HA",
      "HHA,FA,,XA,ZA,RA"]⟩,
    ⟨0xAA70, "MYANMAR ", ["MODIFIER LETTER KHAMTI REDUPLICATION,,,,LOGOGRAM KHAMTI OAY",
      "LOGOGRAM KHAMTI QN,LOGOGRAM KHAMTI HM,SYMBOL AITON EXCLAMATION,SYMBOL AITON ONE",
      "SYMBOL AITON TWO,LETTER AITON RA,SIGN PAO KAREN TONE,SIGN TAI LAING TONE-2",
      "SIGN TAI LAING TONE-5,LETTER SHWE PALAUNG CHA,LETTER SHWE PALAUNG SHA"]⟩,
    ⟨0xAA80, "TAI VIET LETTER LOW ", ["KO,,KHO,,KHHO,,GO,,NGO,,CO,,CHO,,SO,,NYO,,DO,,TO,,THO,",
      "NO,,BO,,PO,,PHO,,FO,,MO,,YO,,RO,,LO,,VO,,HO,,O"]⟩,
    ⟨0xAA81, "TAI VIET LETTER HIGH ", ["KO,,KHO,,KHHO,,GO,,NGO,,CO,,CHO,,SO,,NYO,,DO,,TO,,THO,",
      "NO,,BO,,PO,,PHO,,FO,,MO,,YO,,RO,,LO,,VO,,HO,,O"]⟩,
    ⟨0xAAB0, "", ["TAI VIET MAI KANG,,,,,,,TAI VIET MAI KHIT,,,,,,,,TAI VIET TONE MAI EK",
      "TAI VIET TONE MAI NUENG,TAI VIET TONE MAI THO,TAI VIET TONE MAI SONG,,,,,,,,,,,,,,,,,,,,",
      ",,,,TAI VIET SYMBOL KON,TAI VIET SYMBOL NUENG,TAI VIET SYMBOL SAM,TAI VIET SYMBOL HO HOI",
      "TAI VIET SYMBOL KOI KOI"]⟩,
    ⟨0xAAB1, "TAI VIET VOWEL ", ["AA,I,UE,U,E,O,,IA,UEA,UA,AUE,AY,AN,AM"]⟩,
    ⟨0xAAE0, "MEETEI MAYEK LETTER ", ["E,O,CHA,NYA,TTA,TTHA,DDA,DDHA,NNA,SHA,SSA"]⟩,
    ⟨0xAAEB, "MEETEI MAYEK ", ["VOWEL SIGN II,VOWEL SIGN UU,VOWEL SIGN AAI,VOWEL SIGN AU",
      "VOWEL SIGN AAU,CHEIKHAN,AHANG KHUDAM,ANJI,SYLLABLE REPETITION MARK,WORD REPETITION MARK",
      "VOWEL SIGN VISARGA,VIRAMA"]⟩,
    ⟨0xAB01, "ETHIOPIC SYLLABLE ", ["TTHU,TTHI,TTHAA,TTHEE,TTHE,TTHO,,,DDHU,DDHI,DDHAA,DDHEE",
      "DDHE,DDHO,,,DZU,DZI,DZAA,DZEE,DZE,DZO,,,,,,,,,,CCHHA,CCHHU,CCHHI,CCHHAA,CCHHEE,CCHHE",
      "CCHHO,,BBA,BBU,BBI,BBAA,BBEE,BBE,BBO"]⟩,
    ⟨0xAB30, "LATIN SMALL LETTER ", ["BARRED ALPHA,A REVERSED-SCHWA,BLACKLETTER E,BARRED E",
      "E WITH FLOURISH,LENIS F,SCRIPT G WITH CROSSED-TAIL,L WITH INVERTED LAZY S",
      "L WITH DOUBLE MIDDLE TILDE,L WITH MIDDLE RING,M WITH CROSSED-TAIL,N WITH CROSSED-TAIL",
      "ENG WITH CROSSED-TAIL,BLACKLETTER O,BLACKLETTER O WITH STROKE,OPEN O WITH STROKE",
      "INVERTED OE,TURNED OE WITH STROKE,TURNED OE WITH HORIZONTAL STROKE,TURNED O OPEN-O",
      "TURNED O OPEN-O WITH STROKE,STIRRUP R,,R WITHOUT HANDLE,DOUBLE R,R WITH CROSSED-TAIL",
      "DOUBLE R WITH CROSSED-TAIL,SCRIPT R,SCRIPT R WITH RING,BASELINE ESH",
      "U WITH SHORT RIGHT LEG,U BAR WITH SHORT RIGHT LEG,UI,TURNED UI,U WITH LEFT HOOK,CHI",
      "CHI WITH LOW RIGHT RING,CHI WITH LOW LEFT SERIF,X WITH LOW RIGHT RING",
      "X WITH LONG LEFT LEG,X WITH LONG LEFT LEG AND LOW RIGHT RING",
      "X WITH LONG LEFT LEG WITH SERIF,Y WITH SHORT RIGHT LEG,,,,,,SAKHA YAT,IOTIFIED E,OPEN OE",
      "UO,INVERTED ALPHA,,DZ DIGRAPH WITH RETROFLEX HOOK,TS DIGRAPH WITH RETROFLEX HOOK",
      "TURNED R WITH MIDDLE TILDE"]⟩,
    ⟨0xAB46, "", ["LATIN LETTER SMALL CAPITAL R WITH RIGHT LEG"]⟩,
    ⟨0xAB5B, "MODIFIER ", ["BREVE WITH INVERTED BREVE,LETTER SMALL HENG",
      "LETTER SMALL L WITH INVERTED LAZY S,LETTER SMALL L WITH MIDDLE TILDE",
      "LETTER SMALL U WITH LEFT HOOK,,,,,,,,,,LETTER SMALL TURNED W,LETTER LEFT TACK",
      "LETTER RIGHT TACK"]⟩,
    ⟨0xAB65, "", ["GREEK LETTER SMALL CAPITAL OMEGA"]⟩,
    ⟨0xAB70, "CHEROKEE SMALL LETTER ", ["A,E,I,O,U,V,GA,KA,GE,GI,GO,GU,GV,HA,HE,HI,HO,HU,HV,LA",
      "LE,LI,LO,LU,LV,MA,ME,MI,MO,MU,NA,HNA,NAH,NE,NI,NO,NU,NV,QUA,QUE,QUI,QUO,QUU,QUV,SA,S,SE",
      "SI,SO,SU,SV,DA,TA,DE,TE,DI,TI,DO,DU,DV,DLA,TLA,TLE,TLI,TLO,TLU,TLV,TSA,TSE,TSI,TSO,TSU",
      "TSV,WA,WE,WI,WO,WU,WV,YA"]⟩,
    ⟨0xABC0, "MEETEI MAYEK LETTER ", ["KOK,SAM,LAI,MIT,PA,NA,CHIL,TIL,KHOU,NGOU,THOU,WAI,YANG",
      "HUK,UN,I,PHAM,ATIYA,GOK,JHAM,RAI,BA,JIL,DIL,GHOU,DHOU,BHAM,KOK LONSUM,LAI LONSUM",
      "MIT LONSUM,PA LONSUM,NA LONSUM,TIL LONSUM,NGOU LONSUM,I LONSUM"]⟩,
    ⟨0xABE3, "MEETEI MAYEK VOWEL ", ["SIGN ONAP,SIGN INAP,SIGN ANAP,SIGN YENAP,SIGN SOUNAP",
      "SIGN UNAP,SIGN CHEINAP,SIGN NUNG"]⟩,
    ⟨0xABEB, "", ["MEETEI MAYEK CHEIKHEI,MEETEI MAYEK LUM IYEK,MEETEI MAYEK APUN IYEK"]⟩,
    ⟨0xABF0, "MEETEI MAYEK DIGIT ", ["ZERO,ONE,TWO,THREE,FOUR,FIVE,SIX,SEVEN,EIGHT,NINE"]⟩,
    ⟨0xD7B0, "HANGUL JUNGSEONG ", ["O-YEO,O-O-I,YO-A,YO-AE,YO-EO,U-YEO,U-I-I,YU-AE,YU-O,EU-A",
      "EU-EO,EU-E,EU-O,I-YA-O,I-YAE,I-YEO,I-YE,I-O-I,I-YO,I-YU,I-I,ARAEA-A,ARAEA-E"]⟩,
    ⟨0xD7CB, "HANGUL JONGSEONG ", ["NIEUN-RIEUL,NIEUN-CHIEUCH,SSANGTIKEUT,SSANGTIKEUT-PIEUP",
      "TIKEUT-PIEUP,TIKEUT-SIOS,TIKEUT-SIOS-KIYEOK,TIKEUT-CIEUC,TIKEUT-CHIEUCH,TIKEUT-THIEUTH",
      "RIEUL-SSANGKIYEOK,RIEUL-KIYEOK-HIEUH,SSANGRIEUL-KHIEUKH,RIEUL-MIEUM-HIEUH",
      "RIEUL-PIEUP-TIKEUT,RIEUL-PIEUP-PHIEUPH,RIEUL-YESIEUNG,RIEUL-YEORINHIEUH-HIEUH",
      "KAPYEOUNRIEUL,MIEUM-NIEUN,MIEUM-SSANGNIEUN,SSANGMIEUM,MIEUM-PIEUP-SIOS,MIEUM-CIEUC",
      "PIEUP-TIKEUT,PIEUP-RIEUL-PHIEUPH,PIEUP-MIEUM,SSANGPIEUP,PIEUP-SIOS-TIKEUT,PIEUP-CIEUC",
      "PIEUP-CHIEUCH,SIOS-MIEUM,SIOS-KAPYEOUNPIEUP,SSANGSIOS-KIYEOK,SSANGSIOS-TIKEUT",
      "SIOS-PANSIOS,SIOS-CIEUC,SIOS-CHIEUCH,SIOS-THIEUTH,SIOS-HIEUH,PANSIOS-PIEUP",
      "PANSIOS-KAPYEOUNPIEUP,YESIEUNG-MIEUM,YESIEUNG-HIEUH,CIEUC-PIEUP,CIEUC-SSANGPIEUP",
      "SSANGCIEUC,PHIEUPH-SIOS,PHIEUPH-THIEUTH"]⟩,
    ⟨0xFB00, "LATIN SMALL LIGATURE ", ["FF,FI,FL,FFI,FFL,LONG S T,ST"]⟩,
    ⟨0xFB13, "ARMENIAN ", ["SMALL LIGATURE MEN NOW,SMALL LIGATURE MEN ECH",
      "SMALL LIGATURE MEN INI,SMALL LIGATURE VEW NOW,SMALL LIGATURE MEN XEH"]⟩,
    ⟨0xFB1D, "HEBREW LETTER ", ["YOD WITH HIRIQ,,,ALTERNATIVE AYIN,WIDE ALEF,WIDE DALET,WIDE HE",
      "WIDE KAF,WIDE LAMED,WIDE FINAL MEM,WIDE RESH,WIDE TAV,ALTERNATIVE PLUS SIGN",
      "SHIN WITH SHIN DOT,SHIN WITH SIN DOT,SHIN WITH DAGESH AND SHIN DOT",
      "SHIN WITH DAGESH AND SIN DOT,ALEF WITH PATAH,ALEF WITH QAMATS,ALEF WITH MAPIQ",
      "BET WITH DAGESH,GIMEL WITH DAGESH,DALET WITH DAGESH,HE WITH MAPIQ,VAV WITH DAGESH",
      "ZAYIN WITH DAGESH,,TET WITH DAGESH,YOD WITH DAGESH,FINAL KAF WITH DAGESH,KAF WITH DAGESH",
      "LAMED WITH DAGESH,,MEM WITH DAGESH,,NUN WITH DAGESH,SAMEKH WITH DAGESH,",
      "FINAL PE WITH DAGESH,PE WITH DAGESH,,TSADI WITH DAGESH,QOF WITH DAGESH,RESH WITH DAGESH",
      "SHIN WITH DAGESH,TAV WITH DAGESH,VAV WITH HOLAM,BET WITH RAFE,KAF WITH RAFE,PE WITH RAFE"]⟩,
    ⟨0xFB1E, "", ["HEBREW POINT JUDEO-SPANISH VARIKA,HEBREW LIGATURE YIDDISH YOD YOD PATAH"]⟩,
    ⟨0xFB4F, "", ["HEBREW LIGATURE ALEF LAMED"]⟩,
    ⟨0xFB50, "ARABIC LETTER ", ["ALEF WASLA ISOLATED FORM,ALEF WASLA FINAL FORM",
      "BEEH ISOLATED FORM,BEEH FINAL FORM,BEEH INITIAL FORM,BEEH MEDIAL FORM,PEH ISOLATED FORM",
      "PEH FINAL FORM,PEH INITIAL FORM,PEH MEDIAL FORM,BEHEH ISOLATED FORM,BEHEH FINAL FORM",
      "BEHEH INITIAL FORM,BEHEH MEDIAL FORM,TTEHEH ISOLATED FORM,TTEHEH FINAL FORM",
      "TTEHEH INITIAL FORM,TTEHEH MEDIAL FORM,TEHEH ISOLATED FORM,TEHEH FINAL FORM",
      "TEHEH INITIAL FORM,TEHEH MEDIAL FORM,TTEH ISOLATED FORM,TTEH FINAL FORM",
      "TTEH INITIAL FORM,TTEH MEDIAL FORM,VEH ISOLATED FORM,VEH FINAL FORM,VEH INITIAL FORM",
      "VEH MEDIAL FORM,PEHEH ISOLATED FORM,PEHEH FINAL FORM,PEHEH INITIAL FORM",
      "PEHEH MEDIAL FORM,DYEH ISOLATED FORM,DYEH FINAL FORM,DYEH INITIAL FORM,DYEH MEDIAL FORM",
      "NYEH ISOLATED FORM,NYEH FINAL FORM,NYEH INITIAL FORM,NYEH MEDIAL FORM",
      "TCHEH ISOLATED FORM,TCHEH FINAL FORM,TCHEH INITIAL FORM,TCHEH MEDIAL FORM",
      "TCHEHEH ISOLATED FORM,TCHEHEH FINAL FORM,TCHEHEH INITIAL FORM,TCHEHEH MEDIAL FORM",
      "DDAHAL ISOLATED FORM,DDAHAL FINAL FORM,DAHAL ISOLATED FORM,DAHAL FINAL FORM",
      "DUL ISOLATED FORM,DUL FINAL FORM,DDAL ISOLATED FORM,DDAL FINAL FORM,JEH ISOLATED FORM",
      "JEH FINAL FORM,RREH ISOLATED FORM,RREH FINAL FORM,KEHEH ISOLATED FORM,KEHEH FINAL FORM",
      "KEHEH INITIAL FORM,KEHEH MEDIAL FORM,GAF ISOLATED FORM,GAF FINAL FORM,GAF INITIAL FORM",
      "GAF MEDIAL FORM,GUEH ISOLATED FORM,GUEH FINAL FORM,GUEH INITIAL FORM,GUEH MEDIAL FORM",
      "NGOEH ISOLATED FORM,NGOEH FINAL FORM,NGOEH INITIAL FORM,NGOEH MEDIAL FORM",
      "NOON GHUNNA ISOLATED FORM,NOON GHUNNA FINAL FORM,RNOON ISOLATED FORM,RNOON FINAL FORM",
      "RNOON INITIAL FORM,RNOON MEDIAL FORM,HEH WITH YEH ABOVE ISOLATED FORM",
      "HEH WITH YEH ABOVE FINAL FORM,HEH GOAL ISOLATED FORM,HEH GOAL FINAL FORM",
      "HEH GOAL INITIAL FORM,HEH GOAL MEDIAL FORM,HEH DOACHASHMEE ISOLATED FORM",
      "HEH DOACHASHMEE FINAL FORM,HEH DOACHASHMEE INITIAL FORM,HEH DOACHASHMEE MEDIAL FORM",
      "YEH BARREE ISOLATED FORM,YEH BARREE FINAL FORM,YEH BARREE WITH HAMZA ABOVE ISOLATED FORM",
      "YEH BARREE WITH HAMZA ABOVE FINAL FORM,,,,,,,,,,,,,,,,,,,,,,,,,,,,,,,,,,NG ISOLATED FORM",
      "NG FINAL FORM,NG INITIAL FORM,NG MEDIAL FORM,U ISOLATED FORM,U FINAL FORM",
      "OE ISOLATED FORM,OE FINAL FORM,YU ISOLATED FORM,YU FINAL FORM",
      "U WITH HAMZA ABOVE ISOLATED FORM,VE ISOLATED FORM,VE FINAL FORM,KIRGHIZ OE ISOLATED FORM",
      "KIRGHIZ OE FINAL FORM,KIRGHIZ YU ISOLATED FORM,KIRGHIZ YU FINAL FORM,E ISOLATED FORM",
      "E FINAL FORM,E INITIAL FORM,E MEDIAL FORM",
      "UIGHUR KAZAKH KIRGHIZ ALEF MAKSURA INITIAL FORM",
      "UIGHUR KAZAKH KIRGHIZ ALEF MAKSURA MEDIAL FORM,,,,,,,,,,,,,,,,,,,FARSI YEH ISOLATED FORM",
      "FARSI YEH FINAL FORM,FARSI YEH INITIAL FORM,FARSI YEH MEDIAL FORM"]⟩,
    ⟨0xFBB2, "ARABIC SYMBOL ", ["DOT ABOVE,DOT BELOW,TWO DOTS ABOVE,TWO DOTS BELOW",
      "THREE DOTS ABOVE,THREE DOTS BELOW,THREE DOTS POINTING DOWNWARDS ABOVE",
      "THREE DOTS POINTING DOWNWARDS BELOW,FOUR DOTS ABOVE,FOUR DOTS BELOW",
      "DOUBLE VERTICAL BAR BELOW,TWO DOTS VERTICALLY ABOVE,TWO DOTS VERTICALLY BELOW,RING",
      "SMALL TAH ABOVE,SMALL TAH BELOW,WASLA ABOVE"]⟩,
    ⟨0xFBEA, "ARABIC LIGATURE YEH WITH HAMZA ABOVE WITH ", ["ALEF ISOLATED FORM,ALEF FINAL FORM",
      "AE ISOLATED FORM,AE FINAL FORM,WAW ISOLATED FORM,WAW FINAL FORM,U ISOLATED FORM",
      "U FINAL FORM,OE ISOLATED FORM,OE FINAL FORM,YU ISOLATED FORM,YU FINAL FORM",
      "E ISOLATED FORM,E FINAL FORM,E INITIAL FORM,,,,,,,,JEEM ISOLATED FORM,HAH ISOLATED FORM",
      "MEEM ISOLATED FORM,ALEF MAKSURA ISOLATED FORM,YEH ISOLATED FORM"]⟩,
    ⟨0xFBF9, "ARABIC LIGATURE ", ["UIGHUR KIRGHIZ YEH WITH HAMZA ABOVE WITH ALEF MAKSURA ISOLATED FORM",
      "UIGHUR KIRGHIZ YEH WITH HAMZA ABOVE WITH ALEF MAKSURA FINAL FORM",
      "UIGHUR KIRGHIZ YEH WITH HAMZA ABOVE WITH ALEF MAKSURA INITIAL FORM,,,,,,,,,",
      "BEH WITH JEEM ISOLATED FORM,BEH WITH HAH ISOLATED FORM,BEH WITH KHAH ISOLATED FORM",
      "BEH WITH MEEM ISOLATED FORM,BEH WITH ALEF MAKSURA ISOLATED FORM",
      "BEH WITH YEH ISOLATED FORM,TEH WITH JEEM ISOLATED FORM,TEH WITH HAH ISOLATED FORM",
      "TEH WITH KHAH ISOLATED FORM,TEH WITH MEEM ISOLATED FORM",
      "TEH WITH ALEF MAKSURA ISOLATED FORM,TEH WITH YEH ISOLATED FORM",
      "THEH WITH JEEM ISOLATED FORM,THEH WITH MEEM ISOLATED FORM",
      "THEH WITH ALEF MAKSURA ISOLATED FORM,THEH WITH YEH ISOLATED FORM",
      "JEEM WITH HAH ISOLATED FORM,JEEM WITH MEEM ISOLATED FORM,HAH WITH JEEM ISOLATED FORM",
      "HAH WITH MEEM ISOLATED FORM,KHAH WITH JEEM ISOLATED FORM,KHAH WITH HAH ISOLATED FORM",
      "KHAH WITH MEEM ISOLATED FORM,SEEN WITH JEEM ISOLATED FORM,SEEN WITH HAH ISOLATED FORM",
      "SEEN WITH KHAH ISOLATED FORM,SEEN WITH MEEM ISOLATED FORM,SAD WITH HAH ISOLATED FORM",
      "SAD WITH MEEM ISOLATED FORM,DAD WITH JEEM ISOLATED FORM,DAD WITH HAH ISOLATED FORM",
      "DAD WITH KHAH ISOLATED FORM,DAD WITH MEEM ISOLATED FORM,TAH WITH HAH ISOLATED FORM",
      "TAH WITH MEEM ISOLATED FORM,ZAH WITH MEEM ISOLATED FORM,AIN WITH JEEM ISOLATED FORM",
      "AIN WITH MEEM ISOLATED FORM,GHAIN WITH JEEM ISOLATED FORM,GHAIN WITH MEEM ISOLATED FORM",
      "FEH WITH JEEM ISOLATED FORM,FEH WITH HAH ISOLATED FORM,FEH WITH KHAH ISOLATED FORM",
      "FEH WITH MEEM ISOLATED FORM,FEH WITH ALEF MAKSURA ISOLATED FORM",
      "FEH WITH YEH ISOLATED FORM,QAF WITH HAH ISOLATED FORM,QAF WITH MEEM ISOLATED FORM",
      "QAF WITH ALEF MAKSURA ISOLATED FORM,QAF WITH YEH ISOLATED FORM",
      "KAF WITH ALEF ISOLATED FORM,KAF WITH JEEM ISOLATED FORM,KAF WITH HAH ISOLATED FORM",
      "KAF WITH KHAH ISOLATED FORM,KAF WITH LAM ISOLATED FORM,KAF WITH MEEM ISOLATED FORM",
      "KAF WITH ALEF MAKSURA ISOLATED FORM,KAF WITH YEH ISOLATED FORM",
      "LAM WITH JEEM ISOLATED FORM,LAM WITH HAH ISOLATED FORM,LAM WITH KHAH ISOLATED FORM",
      "LAM WITH MEEM ISOLATED FORM,LAM WITH ALEF MAKSURA ISOLATED FORM",
      "LAM WITH YEH ISOLATED FORM,MEEM WITH JEEM ISOLATED FORM,MEEM WITH HAH ISOLATED FORM",
      "MEEM WITH KHAH ISOLATED FORM,MEEM WITH MEEM ISOLATED FORM",
      "MEEM WITH ALEF MAKSURA ISOLATED FORM,MEEM WITH YEH ISOLATED FORM",
      "NOON WITH JEEM ISOLATED FORM,NOON WITH HAH ISOLATED FORM,NOON WITH KHAH ISOLATED FORM",
      "NOON WITH MEEM ISOLATED FORM,NOON WITH ALEF MAKSURA ISOLATED FORM",
      "NOON WITH YEH ISOLATED FORM,HEH WITH JEEM ISOLATED FORM,HEH WITH MEEM ISOLATED FORM",
      "HEH WITH ALEF MAKSURA ISOLATED FORM,HEH WITH YEH ISOLATED FORM,,,,,,",
      "THAL WITH SUPERSCRIPT ALEF ISOLATED FORM,REH WITH SUPERSCRIPT ALEF ISOLATED FORM",
      "ALEF MAKSURA WITH SUPERSCRIPT ALEF ISOLATED FORM,SHADDA WITH DAMMATAN ISOLATED FORM",
      "SHADDA WITH KASRATAN ISOLATED FORM,SHADDA WITH FATHA ISOLATED FORM",
      "SHADDA WITH DAMMA ISOLATED FORM,SHADDA WITH KASRA ISOLATED FORM",
      "SHADDA WITH SUPERSCRIPT ALEF ISOLATED FORM,,,,,,,BEH WITH REH FINAL FORM",
      "BEH WITH ZAIN FINAL FORM,BEH WITH MEEM FINAL FORM,BEH WITH NOON FINAL FORM",
      "BEH WITH ALEF MAKSURA FINAL FORM,BEH WITH YEH FINAL FORM,TEH WITH REH FINAL FORM",
      "TEH WITH ZAIN FINAL FORM,TEH WITH MEEM FINAL FORM,TEH WITH NOON FINAL FORM",
      "TEH WITH ALEF MAKSURA FINAL FORM,TEH WITH YEH FINAL FORM,THEH WITH REH FINAL FORM",
      "THEH WITH ZAIN FINAL FORM,THEH WITH MEEM FINAL FORM,THEH WITH NOON FINAL FORM",
      "THEH WITH ALEF MAKSURA FINAL FORM,THEH WITH YEH FINAL FORM",
      "FEH WITH ALEF MAKSURA FINAL FORM,FEH WITH YEH FINAL FORM",
      "QAF WITH ALEF MAKSURA FINAL FORM,QAF WITH YEH FINAL FORM,KAF WITH ALEF FINAL FORM",
      "KAF WITH LAM FINAL FORM,KAF WITH MEEM FINAL FORM,KAF WITH ALEF MAKSURA FINAL FORM",
      "KAF WITH YEH FINAL FORM,LAM WITH MEEM FINAL FORM,LAM WITH ALEF MAKSURA FINAL FORM",
      "LAM WITH YEH FINAL FORM,MEEM WITH ALEF FINAL FORM,MEEM WITH MEEM FINAL FORM",
      "NOON WITH REH FINAL FORM,NOON WITH ZAIN FINAL FORM,NOON WITH MEEM FINAL FORM",
      "NOON WITH NOON FINAL FORM,NOON WITH ALEF MAKSURA FINAL FORM,NOON WITH YEH FINAL FORM",
      "ALEF MAKSURA WITH SUPERSCRIPT ALEF FINAL FORM,,,,,,,,,,,,BEH WITH JEEM INITIAL FORM",
      "BEH WITH HAH INITIAL FORM,BEH WITH KHAH INITIAL FORM,BEH WITH MEEM INITIAL FORM",
      "BEH WITH HEH INITIAL FORM,TEH WITH JEEM INITIAL FORM,TEH WITH HAH INITIAL FORM",
      "TEH WITH KHAH INITIAL FORM,TEH WITH MEEM INITIAL FORM,TEH WITH HEH INITIAL FORM",
      "THEH WITH MEEM INITIAL FORM,JEEM WITH HAH INITIAL FORM,JEEM WITH MEEM INITIAL FORM",
      "HAH WITH JEEM INITIAL FORM,HAH WITH MEEM INITIAL FORM,KHAH WITH JEEM INITIAL FORM",
      "KHAH WITH MEEM INITIAL FORM,SEEN WITH JEEM INITIAL FORM,SEEN WITH HAH INITIAL FORM",
      "SEEN WITH KHAH INITIAL FORM,SEEN WITH MEEM INITIAL FORM,SAD WITH HAH INITIAL FORM",
      "SAD WITH KHAH INITIAL FORM,SAD WITH MEEM INITIAL FORM,DAD WITH JEEM INITIAL FORM",
      "DAD WITH HAH INITIAL FORM,DAD WITH KHAH INITIAL FORM,DAD WITH MEEM INITIAL FORM",
      "TAH WITH HAH INITIAL FORM,ZAH WITH MEEM INITIAL FORM,AIN WITH JEEM INITIAL FORM",
      "AIN WITH MEEM INITIAL FORM,GHAIN WITH JEEM INITIAL FORM,GHAIN WITH MEEM INITIAL FORM",
      "FEH WITH JEEM INITIAL FORM,FEH WITH HAH INITIAL FORM,FEH WITH KHAH INITIAL FORM",
      "FEH WITH MEEM INITIAL FORM,QAF WITH HAH INITIAL FORM,QAF WITH MEEM INITIAL FORM",
      "KAF WITH JEEM INITIAL FORM,KAF WITH HAH INITIAL FORM,KAF WITH KHAH INITIAL FORM",
      "KAF WITH LAM INITIAL FORM,KAF WITH MEEM INITIAL FORM,LAM WITH JEEM INITIAL FORM",
      "LAM WITH HAH INITIAL FORM,LAM WITH KHAH INITIAL FORM,LAM WITH MEEM INITIAL FORM",
      "LAM WITH HEH INITIAL FORM,MEEM WITH JEEM INITIAL FORM,MEEM WITH HAH INITIAL FORM",
      "MEEM WITH KHAH INITIAL FORM,MEEM WITH MEEM INITIAL FORM,NOON WITH JEEM INITIAL FORM",
      "NOON WITH HAH INITIAL FORM,NOON WITH KHAH INITIAL FORM,NOON WITH MEEM INITIAL FORM",
      "NOON WITH HEH INITIAL FORM,HEH WITH JEEM INITIAL FORM,HEH WITH MEEM INITIAL FORM",
      "HEH WITH SUPERSCRIPT ALEF INITIAL FORM,YEH WITH JEEM INITIAL FORM",
      "YEH WITH HAH INITIAL FORM,YEH WITH KHAH INITIAL FORM,YEH WITH MEEM INITIAL FORM",
      "YEH WITH HEH INITIAL FORM,YEH WITH HAMZA ABOVE WITH MEEM MEDIAL FORM",
      "YEH WITH HAMZA ABOVE WITH HEH MEDIAL FORM,BEH WITH MEEM MEDIAL FORM",
      "BEH WITH HEH MEDIAL FORM,TEH WITH MEEM MEDIAL FORM,TEH WITH HEH MEDIAL FORM",
      "THEH WITH MEEM MEDIAL FORM,THEH WITH HEH MEDIAL FORM,SEEN WITH MEEM MEDIAL FORM",
      "SEEN WITH HEH MEDIAL FORM,,,KAF WITH LAM MEDIAL FORM,KAF WITH MEEM MEDIAL FORM",
      "LAM WITH MEEM MEDIAL FORM,NOON WITH MEEM MEDIAL FORM,NOON WITH HEH MEDIAL FORM",
      "YEH WITH MEEM MEDIAL FORM,YEH WITH HEH MEDIAL FORM,SHADDA WITH FATHA MEDIAL FORM",
      "SHADDA WITH DAMMA MEDIAL FORM,SHADDA WITH KASRA MEDIAL FORM",
      "TAH WITH ALEF MAKSURA ISOLATED FORM,TAH WITH YEH ISOLATED FORM",
      "AIN WITH ALEF MAKSURA ISOLATED FORM,AIN WITH YEH ISOLATED FORM",
      "GHAIN WITH ALEF MAKSURA ISOLATED FORM,GHAIN WITH YEH ISOLATED FORM",
      "SEEN WITH ALEF MAKSURA ISOLATED FORM,SEEN WITH YEH ISOLATED FORM,,",
      "HAH WITH ALEF MAKSURA ISOLATED FORM,HAH WITH YEH ISOLATED FORM",
      "JEEM WITH ALEF MAKSURA ISOLATED FORM,JEEM WITH YEH ISOLATED FORM",
      "KHAH WITH ALEF MAKSURA ISOLATED FORM,KHAH WITH YEH ISOLATED FORM",
      "SAD WITH ALEF MAKSURA ISOLATED FORM,SAD WITH YEH ISOLATED FORM",
      "DAD WITH ALEF MAKSURA ISOLATED FORM,DAD WITH YEH ISOLATED FORM,,,,,",
      "SEEN WITH REH ISOLATED FORM,SAD WITH REH ISOLATED FORM,DAD WITH REH ISOLATED FORM",
      "TAH WITH ALEF MAKSURA FINAL FORM,TAH WITH YEH FINAL FORM",
      "AIN WITH ALEF MAKSURA FINAL FORM,AIN WITH YEH FINAL FORM",
      "GHAIN WITH ALEF MAKSURA FINAL FORM,GHAIN WITH YEH FINAL FORM",
      "SEEN WITH ALEF MAKSURA FINAL FORM,SEEN WITH YEH FINAL FORM,,",
      "HAH WITH ALEF MAKSURA FINAL FORM,HAH WITH YEH FINAL FORM",
      "JEEM WITH ALEF MAKSURA FINAL FORM,JEEM WITH YEH FINAL FORM",
      "KHAH WITH ALEF MAKSURA FINAL FORM,KHAH WITH YEH FINAL FORM",
      "SAD WITH ALEF MAKSURA FINAL FORM,SAD WITH YEH FINAL FORM",
      "DAD WITH ALEF MAKSURA FINAL FORM,DAD WITH YEH FINAL FORM,,,,,,SEEN WITH REH FINAL FORM",
      "SAD WITH REH FINAL FORM,DAD WITH REH FINAL FORM,,,,,SEEN WITH HEH INITIAL FORM,",
      "TAH WITH MEEM INITIAL FORM,SEEN WITH JEEM MEDIAL FORM,SEEN WITH HAH MEDIAL FORM",
      "SEEN WITH KHAH MEDIAL FORM,,,,TAH WITH MEEM MEDIAL FORM,ZAH WITH MEEM MEDIAL FORM",
      "ALEF WITH FATHATAN FINAL FORM,ALEF WITH FATHATAN ISOLATED FORM,,,RAHIMAHU ALLAAH",
      "RADI ALLAAHU ANH,RADI ALLAAHU ANHAA,RADI ALLAAHU ANHUM,RADI ALLAAHU ANHUMAA",
      "RADI ALLAAHU ANHUNNA,SALLALLAAHU ALAYHI WA-AALIH,ALAYHI AS-SALAAM,ALAYHIM AS-SALAAM",
      "ALAYHIMAA AS-SALAAM,ALAYHI AS-SALAATU WAS-SALAAM,QUDDISA SIRRAH",
      "SALLALLAHU ALAYHI WAAALIHEE WA-SALLAM,ALAYHAA AS-SALAAM,TABAARAKA WA-TAAALAA",
      "RAHIMAHUM ALLAAH,TEH WITH JEEM WITH MEEM INITIAL FORM,TEH WITH HAH WITH JEEM FINAL FORM",
      "TEH WITH HAH WITH JEEM INITIAL FORM,TEH WITH HAH WITH MEEM INITIAL FORM",
      "TEH WITH KHAH WITH MEEM INITIAL FORM,TEH WITH MEEM WITH JEEM INITIAL FORM",
      "TEH WITH MEEM WITH HAH INITIAL FORM,TEH WITH MEEM WITH KHAH INITIAL FORM",
      "JEEM WITH MEEM WITH HAH FINAL FORM,JEEM WITH MEEM WITH HAH INITIAL FORM",
      "HAH WITH MEEM WITH YEH FINAL FORM,HAH WITH MEEM WITH ALEF MAKSURA FINAL FORM",
      "SEEN WITH HAH WITH JEEM INITIAL FORM,SEEN WITH JEEM WITH HAH INITIAL FORM",
      "SEEN WITH JEEM WITH ALEF MAKSURA FINAL FORM,SEEN WITH MEEM WITH HAH FINAL FORM",
      "SEEN WITH MEEM WITH HAH INITIAL FORM,SEEN WITH MEEM WITH JEEM INITIAL FORM",
      "SEEN WITH MEEM WITH MEEM FINAL FORM,SEEN WITH MEEM WITH MEEM INITIAL FORM",
      "SAD WITH HAH WITH HAH FINAL FORM,SAD WITH HAH WITH HAH INITIAL FORM",
      "SAD WITH MEEM WITH MEEM FINAL FORM,,,,,,,,DAD WITH HAH WITH ALEF MAKSURA FINAL FORM",
      "DAD WITH KHAH WITH MEEM FINAL FORM,DAD WITH KHAH WITH MEEM INITIAL FORM",
      "TAH WITH MEEM WITH HAH FINAL FORM,TAH WITH MEEM WITH HAH INITIAL FORM",
      "TAH WITH MEEM WITH MEEM INITIAL FORM,TAH WITH MEEM WITH YEH FINAL FORM",
      "AIN WITH JEEM WITH MEEM FINAL FORM,AIN WITH MEEM WITH MEEM FINAL FORM",
      "AIN WITH MEEM WITH MEEM INITIAL FORM,AIN WITH MEEM WITH ALEF MAKSURA FINAL FORM",
      "GHAIN WITH MEEM WITH MEEM FINAL FORM,GHAIN WITH MEEM WITH YEH FINAL FORM",
      "GHAIN WITH MEEM WITH ALEF MAKSURA FINAL FORM,FEH WITH KHAH WITH MEEM FINAL FORM",
      "FEH WITH KHAH WITH MEEM INITIAL FORM,QAF WITH MEEM WITH HAH FINAL FORM",
      "QAF WITH MEEM WITH MEEM FINAL FORM,LAM WITH HAH WITH MEEM FINAL FORM",
      "LAM WITH HAH WITH YEH FINAL FORM,LAM WITH HAH WITH ALEF MAKSURA FINAL FORM",
      "LAM WITH JEEM WITH JEEM INITIAL FORM,LAM WITH JEEM WITH JEEM FINAL FORM",
      "LAM WITH KHAH WITH MEEM FINAL FORM,LAM WITH KHAH WITH MEEM INITIAL FORM",
      "LAM WITH MEEM WITH HAH FINAL FORM,LAM WITH MEEM WITH HAH INITIAL FORM",
      "MEEM WITH HAH WITH JEEM INITIAL FORM,MEEM WITH HAH WITH MEEM INITIAL FORM",
      "MEEM WITH HAH WITH YEH FINAL FORM,MEEM WITH JEEM WITH HAH INITIAL FORM",
      "MEEM WITH JEEM WITH MEEM INITIAL FORM,MEEM WITH KHAH WITH JEEM INITIAL FORM",
      "MEEM WITH KHAH WITH MEEM INITIAL FORM,,,MEEM WITH JEEM WITH KHAH INITIAL FORM",
      "HEH WITH MEEM WITH JEEM INITIAL FORM,HEH WITH MEEM WITH MEEM INITIAL FORM",
      "NOON WITH HAH WITH MEEM INITIAL FORM,NOON WITH HAH WITH ALEF MAKSURA FINAL FORM",
      "NOON WITH JEEM WITH MEEM FINAL FORM,NOON WITH JEEM WITH MEEM INITIAL FORM",
      "NOON WITH JEEM WITH ALEF MAKSURA FINAL FORM,NOON WITH MEEM WITH YEH FINAL FORM",
      "NOON WITH MEEM WITH ALEF MAKSURA FINAL FORM,YEH WITH MEEM WITH MEEM FINAL FORM",
      "YEH WITH MEEM WITH MEEM INITIAL FORM,BEH WITH KHAH WITH YEH FINAL FORM",
      "TEH WITH JEEM WITH YEH FINAL FORM,TEH WITH JEEM WITH ALEF MAKSURA FINAL FORM",
      "TEH WITH KHAH WITH YEH FINAL FORM,TEH WITH KHAH WITH ALEF MAKSURA FINAL FORM",
      "TEH WITH MEEM WITH YEH FINAL FORM,TEH WITH MEEM WITH ALEF MAKSURA FINAL FORM",
      "JEEM WITH MEEM WITH YEH FINAL FORM,JEEM WITH HAH WITH ALEF MAKSURA FINAL FORM",
      "JEEM WITH MEEM WITH ALEF MAKSURA FINAL FORM,SEEN WITH KHAH WITH ALEF MAKSURA FINAL FORM",
      "SAD WITH HAH WITH YEH FINAL FORM,SHEEN WITH HAH WITH YEH FINAL FORM",
      "DAD WITH HAH WITH YEH FINAL FORM,LAM WITH JEEM WITH YEH FINAL FORM",
      "LAM WITH MEEM WITH YEH FINAL FORM,YEH WITH HAH WITH YEH FINAL FORM",
      "YEH WITH JEEM WITH YEH FINAL FORM,YEH WITH MEEM WITH YEH FINAL FORM",
      "MEEM WITH MEEM WITH YEH FINAL FORM,QAF WITH MEEM WITH YEH FINAL FORM",
      "NOON WITH HAH WITH YEH FINAL FORM,QAF WITH MEEM WITH HAH INITIAL FORM",
      "LAM WITH HAH WITH MEEM INITIAL FORM,AIN WITH MEEM WITH YEH FINAL FORM",
      "KAF WITH MEEM WITH YEH FINAL FORM,NOON WITH JEEM WITH HAH INITIAL FORM",
      "MEEM WITH KHAH WITH YEH FINAL FORM,LAM WITH JEEM WITH MEEM INITIAL FORM",
      "KAF WITH MEEM WITH MEEM FINAL FORM,LAM WITH JEEM WITH MEEM FINAL FORM",
      "NOON WITH JEEM WITH HAH FINAL FORM,JEEM WITH HAH WITH YEH FINAL FORM",
      "HAH WITH JEEM WITH YEH FINAL FORM,MEEM WITH JEEM WITH YEH FINAL FORM",
      "FEH WITH MEEM WITH YEH FINAL FORM,BEH WITH HAH WITH YEH FINAL FORM",
      "KAF WITH MEEM WITH MEEM INITIAL FORM,AIN WITH JEEM WITH MEEM INITIAL FORM",
      "SAD WITH MEEM WITH MEEM INITIAL FORM,SEEN WITH KHAH WITH YEH FINAL FORM",
      "NOON WITH JEEM WITH YEH FINAL FORM,,,,,,,,SALAAMUHU ALAYNAA,,,,,,,,,,,,,,,,,,,,,,,,,,,,,",
      ",,,SALLA USED AS KORANIC STOP SIGN ISOLATED FORM",
      "QALA USED AS KORANIC STOP SIGN ISOLATED FORM,ALLAH ISOLATED FORM,AKBAR ISOLATED FORM",
      "MOHAMMAD ISOLATED FORM,SALAM ISOLATED FORM,RASOUL ISOLATED FORM,ALAYHE ISOLATED FORM",
      "WASALLAM ISOLATED FORM,SALLA ISOLATED FORM,SALLALLAHOU ALAYHE WASALLAM,JALLAJALALOUHOU,",
      "BISMILLAH AR-RAHMAN AR-RAHEEM,SUBHAANAHU WA TAAALAA,AZZA WA JALL"]⟩,
    ⟨0xFC55, "ARABIC LIGATURE YEH WITH ", ["JEEM ISOLATED FORM,HAH ISOLATED FORM",
      "KHAH ISOLATED FORM,MEEM ISOLATED FORM,ALEF MAKSURA ISOLATED FORM,YEH ISOLATED FORM,,,,,,",
      ",,,HAMZA ABOVE WITH REH FINAL FORM,HAMZA ABOVE WITH ZAIN FINAL FORM",
      "HAMZA ABOVE WITH MEEM FINAL FORM,HAMZA ABOVE WITH NOON FINAL FORM",
      "HAMZA ABOVE WITH ALEF MAKSURA FINAL FORM,HAMZA ABOVE WITH YEH FINAL FORM,,,,,,,,,,,,,,,,",
      ",,,,,,,,,,,,,,,,,,,,,,,REH FINAL FORM,ZAIN FINAL FORM,MEEM FINAL FORM,NOON FINAL FORM",
      "ALEF MAKSURA FINAL FORM,YEH FINAL FORM,HAMZA ABOVE WITH JEEM INITIAL FORM",
      "HAMZA ABOVE WITH HAH INITIAL FORM,HAMZA ABOVE WITH KHAH INITIAL FORM",
      "HAMZA ABOVE WITH MEEM INITIAL FORM,HAMZA ABOVE WITH HEH INITIAL FORM"]⟩,
    ⟨0xFCE9, "ARABIC LIGATURE SHEEN ", ["WITH MEEM MEDIAL FORM,WITH HEH MEDIAL FORM,,,,,,,,,,,,",
      ",,,,,,WITH ALEF MAKSURA ISOLATED FORM,WITH YEH ISOLATED FORM,,,,,,,,,,",
      "WITH JEEM ISOLATED FORM,WITH HAH ISOLATED FORM,WITH KHAH ISOLATED FORM",
      "WITH MEEM ISOLATED FORM,WITH REH ISOLATED FORM,,,,,,,,,,,,WITH ALEF MAKSURA FINAL FORM",
      "WITH YEH FINAL FORM,,,,,,,,,,,WITH JEEM FINAL FORM,WITH HAH FINAL FORM",
      "WITH KHAH FINAL FORM,WITH MEEM FINAL FORM,WITH REH FINAL FORM,,,,WITH JEEM INITIAL FORM",
      "WITH HAH INITIAL FORM,WITH KHAH INITIAL FORM,WITH MEEM INITIAL FORM,",
      "WITH HEH INITIAL FORM,,,,,WITH JEEM MEDIAL FORM,WITH HAH MEDIAL FORM",
      "WITH KHAH MEDIAL FORM,,,,,,,,,,,,,,,,,,,,,,,,,,,,,,,,,,,,,,,,,,,,,",
      "WITH HAH WITH MEEM FINAL FORM,WITH HAH WITH MEEM INITIAL FORM",
      "WITH JEEM WITH YEH FINAL FORM,WITH MEEM WITH KHAH FINAL FORM",
      "WITH MEEM WITH KHAH INITIAL FORM,WITH MEEM WITH MEEM FINAL FORM",
      "WITH MEEM WITH MEEM INITIAL FORM"]⟩,
    ⟨0xFD3E, "", ["ORNATE LEFT PARENTHESIS,ORNATE RIGHT PARENTHESIS"]⟩,
    ⟨0xFDFC, "", ["RIAL SIGN"]⟩,
    ⟨0xFE00, "VARIATION SELECTOR-", ["1,2,3,4,5,6,7,8,9,10,11,12,13,14,15,16"]⟩,
    ⟨0xFE10, "PRESENTATION FORM FOR VERTICAL ", ["COMMA,IDEOGRAPHIC COMMA,IDEOGRAPHIC FULL STOP",
      "COLON,SEMICOLON,EXCLAMATION MARK,QUESTION MARK,LEFT WHITE LENTICULAR BRACKET",
      "RIGHT WHITE LENTICULAR BRAKCET,HORIZONTAL ELLIPSIS,,,,,,,,,,,,,,,,,,,,,,,TWO DOT LEADER",
      "EM DASH,EN DASH,LOW LINE,WAVY LOW LINE,LEFT PARENTHESIS,RIGHT PARENTHESIS",
      "LEFT CURLY BRACKET,RIGHT CURLY BRACKET,LEFT TORTOISE SHELL BRACKET",
      "RIGHT TORTOISE SHELL BRACKET,LEFT BLACK LENTICULAR BRACKET",
      "RIGHT BLACK LENTICULAR BRACKET,LEFT DOUBLE ANGLE BRACKET,RIGHT DOUBLE ANGLE BRACKET",
      "LEFT ANGLE BRACKET,RIGHT ANGLE BRACKET,LEFT CORNER BRACKET,RIGHT CORNER BRACKET",
      "LEFT WHITE CORNER BRACKET,RIGHT WHITE CORNER BRACKET,,,LEFT SQUARE BRACKET",
      "RIGHT SQUARE BRACKET"]⟩,
    ⟨0xFE20, "COMBINING ", ["LIGATURE LEFT HALF,LIGATURE RIGHT HALF,DOUBLE TILDE LEFT HALF",
      "DOUBLE TILDE RIGHT HALF,MACRON LEFT HALF,MACRON RIGHT HALF,CONJOINING MACRON",
      "LIGATURE LEFT HALF BELOW,LIGATURE RIGHT HALF BELOW,TILDE LEFT HALF BELOW",
      "TILDE RIGHT HALF BELOW,MACRON LEFT HALF BELOW,MACRON RIGHT HALF BELOW",
      "CONJOINING MACRON BELOW,CYRILLIC TITLO LEFT HALF,CYRILLIC TITLO RIGHT HALF"]⟩,
    ⟨0xFE45, "", ["SESAME DOT,WHITE SESAME DOT,,,DASHED OVERLINE,CENTRELINE OVERLINE",
      "WAVY OVERLINE,DOUBLE WAVY OVERLINE,DASHED LOW LINE,CENTRELINE LOW LINE,WAVY LOW LINE"]⟩,
    ⟨0xFE50, "SMALL ", ["COMMA,IDEOGRAPHIC COMMA,FULL STOP,,SEMICOLON,COLON,QUESTION MARK",
      "EXCLAMATION MARK,EM DASH,LEFT PARENTHESIS,RIGHT PARENTHESIS,LEFT CURLY BRACKET",
      "RIGHT CURLY BRACKET,LEFT TORTOISE SHELL BRACKET,RIGHT TORTOISE SHELL BRACKET,NUMBER SIGN",
      "AMPERSAND,ASTERISK,PLUS SIGN,HYPHEN-MINUS,LESS-THAN SIGN,GREATER-THAN SIGN,EQUALS SIGN,",
      "REVERSE SOLIDUS,DOLLAR SIGN,PERCENT SIGN,COMMERCIAL AT"]⟩,
    ⟨0xFE70, "ARABIC ", ["FATHATAN ISOLATED FORM,TATWEEL WITH FATHATAN ABOVE",
      "DAMMATAN ISOLATED FORM,TAIL FRAGMENT,KASRATAN ISOLATED FORM,,FATHA ISOLATED FORM",
      "FATHA MEDIAL FORM,DAMMA ISOLATED FORM,DAMMA MEDIAL FORM,KASRA ISOLATED FORM",
      "KASRA MEDIAL FORM,SHADDA ISOLATED FORM,SHADDA MEDIAL FORM,SUKUN ISOLATED FORM",
      "SUKUN MEDIAL FORM"]⟩,
    ⟨0xFE80, "ARABIC LETTER ", ["HAMZA ISOLATED FORM,ALEF WITH MADDA ABOVE ISOLATED FORM",
      "ALEF WITH MADDA ABOVE FINAL FORM,ALEF WITH HAMZA ABOVE ISOLATED FORM",
      "ALEF WITH HAMZA ABOVE FINAL FORM,WAW WITH HAMZA ABOVE ISOLATED FORM",
      "WAW WITH HAMZA ABOVE FINAL FORM,ALEF WITH HAMZA BELOW ISOLATED FORM",
      "ALEF WITH HAMZA BELOW FINAL FORM,YEH WITH HAMZA ABOVE ISOLATED FORM",
      "YEH WITH HAMZA ABOVE FINAL FORM,YEH WITH HAMZA ABOVE INITIAL FORM",
      "YEH WITH HAMZA ABOVE MEDIAL FORM,ALEF ISOLATED FORM,ALEF FINAL FORM,BEH ISOLATED FORM",
      "BEH FINAL FORM,BEH INITIAL FORM,BEH MEDIAL FORM,TEH MARBUTA ISOLATED FORM",
      "TEH MARBUTA FINAL FORM,TEH ISOLATED FORM,TEH FINAL FORM,TEH INITIAL FORM,TEH MEDIAL FORM",
      "THEH ISOLATED FORM,THEH FINAL FORM,THEH INITIAL FORM,THEH MEDIAL FORM,JEEM ISOLATED FORM",
      "JEEM FINAL FORM,JEEM INITIAL FORM,JEEM MEDIAL FORM,HAH ISOLATED FORM,HAH FINAL FORM",
      "HAH INITIAL FORM,HAH MEDIAL FORM,KHAH ISOLATED FORM,KHAH FINAL FORM,KHAH INITIAL FORM",
      "KHAH MEDIAL FORM,DAL ISOLATED FORM,DAL FINAL FORM,THAL ISOLATED FORM,THAL FINAL FORM",
      "REH ISOLATED FORM,REH FINAL FORM,ZAIN ISOLATED FORM,ZAIN FINAL FORM,SEEN ISOLATED FORM",
      "SEEN FINAL FORM,SEEN INITIAL FORM,SEEN MEDIAL FORM,SHEEN ISOLATED FORM,SHEEN FINAL FORM",
      "SHEEN INITIAL FORM,SHEEN MEDIAL FORM,SAD ISOLATED FORM,SAD FINAL FORM,SAD INITIAL FORM",
      "SAD MEDIAL FORM,DAD ISOLATED FORM,DAD FINAL FORM,DAD INITIAL FORM,DAD MEDIAL FORM",
      "TAH ISOLATED FORM,TAH FINAL FORM,TAH INITIAL FORM,TAH MEDIAL FORM,ZAH ISOLATED FORM",
      "ZAH FINAL FORM,ZAH INITIAL FORM,ZAH MEDIAL FORM,AIN ISOLATED FORM,AIN FINAL FORM",
      "AIN INITIAL FORM,AIN MEDIAL FORM,GHAIN ISOLATED FORM,GHAIN FINAL FORM,GHAIN INITIAL FORM",
      "GHAIN MEDIAL FORM,FEH ISOLATED FORM,FEH FINAL FORM,FEH INITIAL FORM,FEH MEDIAL FORM",
      "QAF ISOLATED FORM,QAF FINAL FORM,QAF INITIAL FORM,QAF MEDIAL FORM,KAF ISOLATED FORM",
      "KAF FINAL FORM,KAF INITIAL FORM,KAF MEDIAL FORM,LAM ISOLATED FORM,LAM FINAL FORM",
      "LAM INITIAL FORM,LAM MEDIAL FORM,MEEM ISOLATED FORM,MEEM FINAL FORM,MEEM INITIAL FORM",
      "MEEM MEDIAL FORM,NOON ISOLATED FORM,NOON FINAL FORM,NOON INITIAL FORM,NOON MEDIAL FORM",
      "HEH ISOLATED FORM,HEH FINAL FORM,HEH INITIAL FORM,HEH MEDIAL FORM,WAW ISOLATED FORM",
      "WAW FINAL FORM,ALEF MAKSURA ISOLATED FORM,ALEF MAKSURA FINAL FORM,YEH ISOLATED FORM",
      "YEH FINAL FORM,YEH INITIAL FORM,YEH MEDIAL FORM"]⟩,
    ⟨0xFEF5, "ARABIC LIGATURE ", ["LAM WITH ALEF WITH MADDA ABOVE ISOLATED FORM",
      "LAM WITH ALEF WITH MADDA ABOVE FINAL FORM,LAM WITH ALEF WITH HAMZA ABOVE ISOLATED FORM",
      "LAM WITH ALEF WITH HAMZA ABOVE FINAL FORM,LAM WITH ALEF WITH HAMZA BELOW ISOLATED FORM",
      "LAM WITH ALEF WITH HAMZA BELOW FINAL FORM,LAM WITH ALEF ISOLATED FORM",
      "LAM WITH ALEF FINAL FORM"]⟩,
    ⟨0xFEFF, "", ["ZERO WIDTH NO-BREAK SPACE"]⟩,
    ⟨0xFF01, "FULLWIDTH ", ["EXCLAMATION MARK,QUOTATION MARK,NUMBER SIGN,DOLLAR SIGN",
      "PERCENT SIGN,AMPERSAND,APOSTROPHE,LEFT PARENTHESIS,RIGHT PARENTHESIS,ASTERISK,PLUS SIGN",
      "COMMA,HYPHEN-MINUS,FULL STOP,SOLIDUS,,,,,,,,,,,COLON,SEMICOLON,LESS-THAN SIGN",
      "EQUALS SIGN,GREATER-THAN SIGN,QUESTION MARK,COMMERCIAL AT,,,,,,,,,,,,,,,,,,,,,,,,,,",
      "LEFT SQUARE BRACKET,REVERSE SOLIDUS,RIGHT SQUARE BRACKET,CIRCUMFLEX ACCENT,LOW LINE",
      "GRAVE ACCENT,,,,,,,,,,,,,,,,,,,,,,,,,,,LEFT CURLY BRACKET,VERTICAL LINE",
      "RIGHT CURLY BRACKET,TILDE,LEFT WHITE PARENTHESIS,RIGHT WHITE PARENTHESIS"]⟩,
    ⟨0xFF10, "FULLWIDTH DIGIT ", ["ZERO,ONE,TWO,THREE,FOUR,FIVE,SIX,SEVEN,EIGHT,NINE"]⟩,
    ⟨0xFF21, "FULLWIDTH LATIN CAPITAL LETTER ", ["A,B,C,D,E,F,G,H,I,J,K,L,M,N,O,P,Q,R,S,T,U,V,W",
      "X,Y,Z"]⟩,
    ⟨0xFF41, "FULLWIDTH LATIN SMALL LETTER ", ["A,B,C,D,E,F,G,H,I,J,K,L,M,N,O,P,Q,R,S,T,U,V,W,X",
      "Y,Z"]⟩,
    ⟨0xFF61, "HALFWIDTH ", ["IDEOGRAPHIC FULL STOP,LEFT CORNER BRACKET,RIGHT CORNER BRACKET",
      "IDEOGRAPHIC COMMA,KATAKANA MIDDLE DOT,,,,,,,,,,,KATAKANA-HIRAGANA PROLONGED SOUND MARK"]⟩,
    ⟨0xFF66, "HALFWIDTH KATAKANA LETTER ", ["WO,SMALL A,SMALL I,SMALL U,SMALL E,SMALL O",
      "SMALL YA,SMALL YU,SMALL YO,SMALL TU,,A,I,U,E,O,KA,KI,KU,KE,KO,SA,SI,SU,SE,SO,TA,TI,TU,TE",
      "TO,NA,NI,NU,NE,NO,HA,HI,HU,HE,HO,MA,MI,MU,ME,MO,YA,YU,YO,RA,RI,RU,RE,RO,WA,N"]⟩,
    ⟨0xFF9E, "", ["HALFWIDTH KATAKANA VOICED SOUND MARK",
      "HALFWIDTH KATAKANA SEMI-VOICED SOUND MARK,HALFWIDTH HANGUL FILLER"]⟩,
    ⟨0xFFA1, "HALFWIDTH HANGUL LETTER ", ["KIYEOK,SSANGKIYEOK,KIYEOK-SIOS,NIEUN,NIEUN-CIEUC",
      "NIEUN-HIEUH,TIKEUT,SSANGTIKEUT,RIEUL,RIEUL-KIYEOK,RIEUL-MIEUM,RIEUL-PIEUP,RIEUL-SIOS",
      "RIEUL-THIEUTH,RIEUL-PHIEUPH,RIEUL-HIEUH,MIEUM,PIEUP,SSANGPIEUP,PIEUP-SIOS,SIOS,SSANGSIOS",
      "IEUNG,CIEUC,SSANGCIEUC,CHIEUCH,KHIEUKH,THIEUTH,PHIEUPH,HIEUH,,,,A,AE,YA,YAE,EO,E,,,YEO",
      "YE,O,WA,WAE,OE,,,YO,U,WEO,WE,WI,YU,,,EU,YI,I"]⟩,
    ⟨0xFFE0, "FULLWIDTH ", ["CENT SIGN,POUND SIGN,NOT SIGN,MACRON,BROKEN BAR,YEN SIGN,WON SIGN"]⟩,
    ⟨0xFFE8, "HALFWIDTH ", ["FORMS LIGHT VERTICAL,LEFTWARDS ARROW,UPWARDS ARROW",
      "RIGHTWARDS ARROW,DOWNWARDS ARROW,BLACK SQUARE,WHITE CIRCLE"]⟩,
    ⟨0xFFF9, "", ["INTERLINEAR ANNOTATION ANCHOR,INTERLINEAR ANNOTATION SEPARATOR",
      "INTERLINEAR ANNOTATION TERMINATOR,OBJECT REPLACEMENT CHARACTER,REPLACEMENT CHARACTER"]⟩]

end RelayClient.CharacterName
