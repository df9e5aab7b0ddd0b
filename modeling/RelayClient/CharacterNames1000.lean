import RelayClient.NamedRun

/-! # Names of the characters U+1000 to U+1FFF -/
namespace RelayClient.CharacterName

def from1000 : List NamedRun :=
  [⟨0x1000, "MYANMAR LETTER ", ["KA,KHA,GA,GHA,NGA,CA,CHA,JA,JHA,NYA,NNYA,TTA,TTHA,DDA,DDHA,NNA",
      "TA,THA,DA,DHA,NA,PA,PHA,BA,BHA,MA,YA,RA,LA,WA,SA,HA,LLA,A,SHAN A,I,II,U,UU,E,MON E,O,AU,",
      ",,,,,,,,,,,,,,,,,,,GREAT SA,,,,,,,,,,,,,,,,,SHA,SSA,VOCALIC R,VOCALIC RR,VOCALIC L",
      "VOCALIC LL,,,,,MON NGA,MON JHA,MON BBA,MON BBE,,,,SGAW KAREN SHA,,,",
      "WESTERN PWO KAREN THA,WESTERN PWO KAREN PWA,,,,,,,,EASTERN PWO KAREN NNA",
      "EASTERN PWO KAREN YWA,EASTERN PWO KAREN GHWA,,,,,,,,,,,,,,,,,,,,,,,,,,,,,",
      "RUMAI PALAUNG FA"]⟩,
    ⟨0x102B, "MYANMAR VOWEL SIGN ", ["TALL AA,AA,I,II,U,UU,E,AI,MON II,MON O,E ABOVE,,,,,,,,,,,",
      ",,,,,,,,,,,,,,,,,,,,,VOCALIC R,VOCALIC RR,VOCALIC L,VOCALIC LL,,,,,,,,,SGAW KAREN EU,,,,",
      "WESTERN PWO KAREN EU,WESTERN PWO KAREN UE,,,,,,,,,GEBA KAREN I,KAYAH OE,KAYAH U,KAYAH EE",
      ",,,,,,,,,,,,,,SHAN AA,SHAN E,SHAN E ABOVE,SHAN FINAL Y,,,,,,,,,,,,,,,,,,,,,,AITON A",
      "AITON AI"]⟩,
    ⟨0x1036, "MYANMAR ", ["SIGN ANUSVARA,SIGN DOT BELOW,SIGN VISARGA,SIGN VIRAMA,SIGN ASAT",
      "CONSONANT SIGN MEDIAL YA,CONSONANT SIGN MEDIAL RA,CONSONANT SIGN MEDIAL WA",
      "CONSONANT SIGN MEDIAL HA,,,,,,,,,,,,SIGN LITTLE SECTION,SIGN SECTION,SYMBOL LOCATIVE",
      "SYMBOL COMPLETED,SYMBOL AFOREMENTIONED,SYMBOL GENITIVE,,,,,,,,,,,,,,",
      "CONSONANT SIGN MON MEDIAL NA,CONSONANT SIGN MON MEDIAL MA,CONSONANT SIGN MON MEDIAL LA,,",
      "TONE MARK SGAW KAREN HATHI,TONE MARK SGAW KAREN KE PHO,,,,,SIGN WESTERN PWO KAREN TONE-1",
      "SIGN WESTERN PWO KAREN TONE-2,SIGN WESTERN PWO KAREN TONE-3",
      "SIGN WESTERN PWO KAREN TONE-4,SIGN WESTERN PWO KAREN TONE-5,,,,,,,,,,,,,,,,,,,,",
      "CONSONANT SIGN SHAN MEDIAL WA,,,,,SIGN SHAN TONE-2,SIGN SHAN TONE-3,SIGN SHAN TONE-5",
      "SIGN SHAN TONE-6,SIGN SHAN COUNCIL TONE-2,SIGN SHAN COUNCIL TONE-3",
      "SIGN SHAN COUNCIL EMPHATIC TONE,,SIGN RUMAI PALAUNG TONE-5,,,,,,,,,,,SIGN KHAMTI TONE-1",
      "SIGN KHAMTI TONE-3,,,SYMBOL SHAN ONE,SYMBOL SHAN EXCLAMATION"]⟩,
    ⟨0x1040, "MYANMAR DIGIT ", ["ZERO,ONE,TWO,THREE,FOUR,FIVE,SIX,SEVEN,EIGHT,NINE"]⟩,
    ⟨0x1075, "MYANMAR LETTER SHAN ", ["KA,KHA,GA,CA,ZA,NYA,DA,NA,PHA,FA,BA,THA,HA"]⟩,
    ⟨0x1090, "MYANMAR SHAN DIGIT ", ["ZERO,ONE,TWO,THREE,FOUR,FIVE,SIX,SEVEN,EIGHT,NINE"]⟩,
    ⟨0x10A0, "GEORGIAN CAPITAL LETTER ", ["AN,BAN,GAN,DON,EN,VIN,ZEN,TAN,IN,KAN,LAS,MAN,NAR,ON",
      "PAR,ZHAR,RAE,SAN,TAR,UN,PHAR,KHAR,GHAN,QAR,SHIN,CHIN,CAN,JIL,CIL,CHAR,XAN,JHAN,HAE,HE",
      "HIE,WE,HAR,HOE,,YN,,,,,,AEN"]⟩,
    ⟨0x10D0, "GEORGIAN LETTER ", ["AN,BAN,GAN,DON,EN,VIN,ZEN,TAN,IN,KAN,LAS,MAN,NAR,ON,PAR,ZHAR",
      "RAE,SAN,TAR,UN,PHAR,KHAR,GHAN,QAR,SHIN,CHIN,CAN,JIL,CIL,CHAR,XAN,JHAN,HAE,HE,HIE,WE,HAR",
      "HOE,FI,YN,ELIFI,TURNED GAN,AIN,,,AEN,HARD SIGN,LABIAL SIGN"]⟩,
    ⟨0x10FB, "", ["GEORGIAN PARAGRAPH SEPARATOR,MODIFIER LETTER GEORGIAN NAR"]⟩,
    ⟨0x1100, "HANGUL CHOSEONG ", ["KIYEOK,SSANGKIYEOK,NIEUN,TIKEUT,SSANGTIKEUT,RIEUL,MIEUM",
      "PIEUP,SSANGPIEUP,SIOS,SSANGSIOS,IEUNG,CIEUC,SSANGCIEUC,CHIEUCH,KHIEUKH,THIEUTH,PHIEUPH",
      "HIEUH,NIEUN-KIYEOK,SSANGNIEUN,NIEUN-TIKEUT,NIEUN-PIEUP,TIKEUT-KIYEOK,RIEUL-NIEUN",
      "SSANGRIEUL,RIEUL-HIEUH,KAPYEOUNRIEUL,MIEUM-PIEUP,KAPYEOUNMIEUM,,,,,,,,,,,,,",
      "KAPYEOUNPIEUP,KAPYEOUNSSANGPIEUP,,,,,,,,,,,,,,,,CHITUEUMSIOS,CHITUEUMSSANGSIOS",
      "CEONGCHIEUMSIOS,CEONGCHIEUMSSANGSIOS,PANSIOS,,,,,,,SSANGIEUNG,,,,,YESIEUNG,CIEUC-IEUNG",
      "CHITUEUMCIEUC,CHITUEUMSSANGCIEUC,CEONGCHIEUMCIEUC,CEONGCHIEUMSSANGCIEUC,CHIEUCH-KHIEUKH",
      "CHIEUCH-HIEUH,CHITUEUMCHIEUCH,CEONGCHIEUMCHIEUCH,PHIEUPH-PIEUP,KAPYEOUNPHIEUPH",
      "SSANGHIEUH,YEORINHIEUH,KIYEOK-TIKEUT,NIEUN-SIOS,NIEUN-CIEUC,NIEUN-HIEUH,TIKEUT-RIEUL",
      "FILLER"]⟩,
    ⟨0x111E, "HANGUL CHOSEONG PIEUP-", ["KIYEOK,NIEUN,TIKEUT,SIOS,SIOS-KIYEOK,SIOS-TIKEUT",
      "SIOS-PIEUP,SSANGSIOS,SIOS-CIEUC,CIEUC,CHIEUCH,THIEUTH,PHIEUPH"]⟩,
    ⟨0x112D, "HANGUL CHOSEONG SIOS-", ["KIYEOK,NIEUN,TIKEUT,RIEUL,MIEUM,PIEUP,PIEUP-KIYEOK",
      "SSANGSIOS,IEUNG,CIEUC,CHIEUCH,KHIEUKH,THIEUTH,PHIEUPH,HIEUH"]⟩,
    ⟨0x1141, "HANGUL CHOSEONG IEUNG-", ["KIYEOK,TIKEUT,MIEUM,PIEUP,SIOS,PANSIOS,,CIEUC,CHIEUCH",
      "THIEUTH,PHIEUPH"]⟩,
    ⟨0x1160, "HANGUL JUNGSEONG ", ["FILLER,A,AE,YA,YAE,EO,E,YEO,YE,O,WA,WAE,OE,YO,U,WEO,WE,WI",
      "YU,EU,YI,I,A-O,A-U,YA-O,YA-YO,EO-O,EO-U,EO-EU,YEO-O,YEO-U,O-EO,O-E,O-YE,O-O,O-U,YO-YA",
      "YO-YAE,YO-YEO,YO-O,YO-I,U-A,U-AE,U-EO-EU,U-YE,U-U,YU-A,YU-EO,YU-E,YU-YEO,YU-YE,YU-U,YU-I",
      "EU-U,EU-EU,YI-U,I-A,I-YA,I-O,I-U,I-EU,I-ARAEA,ARAEA,ARAEA-EO,ARAEA-U,ARAEA-I,SSANGARAEA",
      "A-EU,YA-U,YEO-YA,O-YA,O-YAE"]⟩,
    ⟨0x11A8, "HANGUL JONGSEONG ", ["KIYEOK,SSANGKIYEOK,KIYEOK-SIOS,NIEUN,NIEUN-CIEUC",
      "NIEUN-HIEUH,TIKEUT,RIEUL,,,,,,,,MIEUM,PIEUP,PIEUP-SIOS,SIOS,SSANGSIOS,IEUNG,CIEUC",
      "CHIEUCH,KHIEUKH,THIEUTH,PHIEUPH,HIEUH,KIYEOK-RIEUL,KIYEOK-SIOS-KIYEOK,NIEUN-KIYEOK",
      "NIEUN-TIKEUT,NIEUN-SIOS,NIEUN-PANSIOS,NIEUN-THIEUTH,TIKEUT-KIYEOK,TIKEUT-RIEUL,,,,",
      "SSANGRIEUL,,,,,,,,,,MIEUM-KIYEOK,MIEUM-RIEUL,MIEUM-PIEUP,MIEUM-SIOS,MIEUM-SSANGSIOS",
      "MIEUM-PANSIOS,MIEUM-CHIEUCH,MIEUM-HIEUH,KAPYEOUNMIEUM,PIEUP-RIEUL,PIEUP-PHIEUPH",
      "PIEUP-HIEUH,KAPYEOUNPIEUP,SIOS-KIYEOK,SIOS-TIKEUT,SIOS-RIEUL,SIOS-PIEUP,PANSIOS",
      "IEUNG-KIYEOK,IEUNG-SSANGKIYEOK,SSANGIEUNG,IEUNG-KHIEUKH,YESIEUNG,YESIEUNG-SIOS",
      "YESIEUNG-PANSIOS,PHIEUPH-PIEUP,KAPYEOUNPHIEUPH,HIEUH-NIEUN,HIEUH-RIEUL,HIEUH-MIEUM",
      "HIEUH-PIEUP,YEORINHIEUH,KIYEOK-NIEUN,KIYEOK-PIEUP,KIYEOK-CHIEUCH,KIYEOK-KHIEUKH",
      "KIYEOK-HIEUH,SSANGNIEUN"]⟩,
    ⟨0x11B0, "HANGUL JONGSEONG RIEUL-", ["KIYEOK,MIEUM,PIEUP,SIOS,THIEUTH,PHIEUPH,HIEUH,,,,,,,,",
      ",,,,,,,,,,,,,KIYEOK-SIOS,NIEUN,TIKEUT,TIKEUT-HIEUH,,MIEUM-KIYEOK,MIEUM-SIOS,PIEUP-SIOS",
      "PIEUP-HIEUH,KAPYEOUNPIEUP,SSANGSIOS,PANSIOS,KHIEUKH,YEORINHIEUH"]⟩,
    ⟨0x1200, "ETHIOPIC SYLLABLE ", ["HA,HU,HI,HAA,HEE,HE,HO,HOA,LA,LU,LI,LAA,LEE,LE,LO,LWA,HHA",
      "HHU,HHI,HHAA,HHEE,HHE,HHO,HHWA,MA,MU,MI,MAA,MEE,ME,MO,MWA,SZA,SZU,SZI,SZAA,SZEE,SZE,SZO",
      "SZWA,RA,RU,RI,RAA,REE,RE,RO,RWA,SA,SU,SI,SAA,SEE,SE,SO,SWA,SHA,SHU,SHI,SHAA,SHEE,SHE,SHO",
      "SHWA,QA,QU,QI,QAA,QEE,QE,QO,QOA,QWA,,QWI,QWAA,QWEE,QWE,,,QHA,QHU,QHI,QHAA,QHEE,QHE,QHO,",
      "QHWA,,QHWI,QHWAA,QHWEE,QHWE,,,BA,BU,BI,BAA,BEE,BE,BO,BWA,VA,VU,VI,VAA,VEE,VE,VO,VWA,TA",
      "TU,TI,TAA,TEE,TE,TO,TWA,CA,CU,CI,CAA,CEE,CE,CO,CWA,XA,XU,XI,XAA,XEE,XE,XO,XOA,XWA,,XWI",
      "XWAA,XWEE,XWE,,,NA,NU,NI,NAA,NEE,NE,NO,NWA,NYA,NYU,NYI,NYAA,NYEE,NYE,NYO,NYWA,,,,,,,,,KA",
      "KU,KI,KAA,KEE,KE,KO,KOA,KWA,,KWI,KWAA,KWEE,KWE,,,KXA,KXU,KXI,KXAA,KXEE,KXE,KXO,,KXWA,",
      "KXWI,KXWAA,KXWEE,KXWE,,,WA,WU,WI,WAA,WEE,WE,WO,WOA,,,,,,,,,ZA,ZU,ZI,ZAA,ZEE,ZE,ZO,ZWA",
      "ZHA,ZHU,ZHI,ZHAA,ZHEE,ZHE,ZHO,ZHWA,YA,YU,YI,YAA,YEE,YE,YO,YOA,DA,DU,DI,DAA,DEE,DE,DO,DWA",
      "DDA,DDU,DDI,DDAA,DDEE,DDE,DDO,DDWA,JA,JU,JI,JAA,JEE,JE,JO,JWA,GA,GU,GI,GAA,GEE,GE,GO,GOA",
      "GWA,,GWI,GWAA,GWEE,GWE,,,GGA,GGU,GGI,GGAA,GGEE,GGE,GGO,GGWAA,THA,THU,THI,THAA,THEE,THE",
      "THO,THWA,CHA,CHU,CHI,CHAA,CHEE,CHE,CHO,CHWA,PHA,PHU,PHI,PHAA,PHEE,PHE,PHO,PHWA,TSA,TSU",
      "TSI,TSAA,TSEE,TSE,TSO,TSWA,TZA,TZU,TZI,TZAA,TZEE,TZE,TZO,TZOA,FA,FU,FI,FAA,FEE,FE,FO,FWA",
      "PA,PU,PI,PAA,PEE,PE,PO,PWA,RYA,MYA,FYA,,,,,,,,,,,,,,,,,,,,,,,,,,,,,,,,,,,,,",
      "SEBATBEIT MWA,MWI,MWEE,MWE,SEBATBEIT BWA,BWI,BWEE,BWE,SEBATBEIT FWA,FWI,FWEE,FWE",
      "SEBATBEIT PWA,PWI,PWEE,PWE"]⟩,
    ⟨0x12A0, "ETHIOPIC SYLLABLE GLOTTAL ", ["A,U,I,AA,EE,E,O,WA"]⟩,
    ⟨0x12D0, "ETHIOPIC SYLLABLE PHARYNGEAL ", ["A,U,I,AA,EE,E,O"]⟩,
    ⟨0x135D, "ETHIOPIC ", ["COMBINING GEMINATION AND VOWEL LENGTH MARK",
      "COMBINING VOWEL LENGTH MARK,COMBINING GEMINATION MARK,SECTION MARK,WORDSPACE,FULL STOP",
      "COMMA,SEMICOLON,COLON,PREFACE COLON,QUESTION MARK,PARAGRAPH SEPARATOR"]⟩,
    ⟨0x1369, "ETHIOPIC DIGIT ", ["ONE,TWO,THREE,FOUR,FIVE,SIX,SEVEN,EIGHT,NINE"]⟩,
    ⟨0x1372, "ETHIOPIC NUMBER ", ["TEN,TWENTY,THIRTY,FORTY,FIFTY,SIXTY,SEVENTY,EIGHTY,NINETY",
      "HUNDRED,TEN THOUSAND"]⟩,
    ⟨0x1390, "ETHIOPIC TONAL MARK ", ["YIZET,DERET,RIKRIK,SHORT RIKRIK,DIFAT,KENAT,CHIRET,HIDET",
      "DERET-HIDET,KURT"]⟩,
    ⟨0x13A0, "CHEROKEE LETTER ", ["A,E,I,O,U,V,GA,KA,GE,GI,GO,GU,GV,HA,HE,HI,HO,HU,HV,LA,LE,LI",
      "LO,LU,LV,MA,ME,MI,MO,MU,NA,HNA,NAH,NE,NI,NO,NU,NV,QUA,QUE,QUI,QUO,QUU,QUV,SA,S,SE,SI,SO",
      "SU,SV,DA,TA,DE,TE,DI,TI,DO,DU,DV,DLA,TLA,TLE,TLI,TLO,TLU,TLV,TSA,TSE,TSI,TSO,TSU,TSV,WA",
      "WE,WI,WO,WU,WV,YA,YE,YI,YO,YU,YV,MV"]⟩,
    ⟨0x13F8, "CHEROKEE ", ["SMALL LETTER YE,SMALL LETTER YI,SMALL LETTER YO,SMALL LETTER YU",
      "SMALL LETTER YV,SMALL LETTER MV"]⟩,
    ⟨0x1400, "CANADIAN SYLLABICS ", ["HYPHEN,E,AAI,I,II,O,OO,Y-CREE OO,CARRIER EE,CARRIER I,A",
      "AA,WE,,WI,,WII,,WO,,WOO,,NASKAPI WOO,WA,,WAA,,NASKAPI WAA,AI,Y-CREE W,GLOTTAL STOP,,,,,,",
      ",,,,,,EN,IN,ON,AN,PE,PAAI,PI,PII,PO,POO,Y-CREE POO,CARRIER HEE,CARRIER HI,PA,PAA,PWE,",
      "PWI,,PWII,,PWO,,PWOO,,PWA,,PWAA,,Y-CREE PWAA,P,,CARRIER H,TE,TAAI,TI,TII,TO,TOO",
      "Y-CREE TOO,CARRIER DEE,CARRIER DI,TA,TAA,TWE,,TWI,,TWII,,TWO,,TWOO,,TWA,,TWAA,",
      "NASKAPI TWAA,T,TTE,TTI,TTO,TTA,KE,KAAI,KI,KII,KO,KOO,Y-CREE KOO,KA,KAA,KWE,,KWI,,KWII,",
      "KWO,,KWOO,,KWA,,KWAA,,NASKAPI KWAA,K,KW,SOUTH-SLAVEY KEH,SOUTH-SLAVEY KIH",
      "SOUTH-SLAVEY KOH,SOUTH-SLAVEY KAH,CE,CAAI,CI,CII,CO,COO,Y-CREE COO,CA,CAA,CWE,,CWI,,CWII",
      ",CWO,,CWOO,,CWA,,CWAA,,NASKAPI CWAA,C,SAYISI TH,ME,MAAI,MI,MII,MO,MOO,Y-CREE MOO,MA,MAA",
      "MWE,,MWI,,MWII,,MWO,,MWOO,,MWA,,MWAA,,NASKAPI MWAA,M,,MH,ATHAPASCAN M,SAYISI M,NE,NAAI",
      "NI,NII,NO,NOO,Y-CREE NOO,NA,NAA,NWE,,NWA,,NWAA,,NASKAPI NWAA,N,CARRIER NG,NH,LE,LAAI,LI",
      "LII,LO,LOO,Y-CREE LOO,LA,LAA,LWE,,LWI,,LWII,,LWO,,LWOO,,LWA,,LWAA,,L,,MEDIAL L,SE,SAAI",
      "SI,SII,SO,SOO,Y-CREE SOO,SA,SAA,SWE,,SWI,,SWII,,SWO,,SWOO,,SWA,,SWAA,,NASKAPI SWAA,S",
      "ATHAPASCAN S,SW,BLACKFOOT S,MOOSE-CREE SK,NASKAPI SKW,NASKAPI S-W,NASKAPI SPWA",
      "NASKAPI STWA,NASKAPI SKWA,NASKAPI SCWA,SHE,SHI,SHII,SHO,SHOO,SHA,SHAA,SHWE,,SHWI,,SHWII,",
      "SHWO,,SHWOO,,SHWA,,SHWAA,,SH,YE,YAAI,YI,YII,YO,YOO,Y-CREE YOO,YA,YAA,YWE,,YWI,,YWII,,YWO",
      ",YWOO,,YWA,,YWAA,,NASKAPI YWAA,Y,BIBLE-CREE Y,,SAYISI YI,RE,R-CREE RE,,RAAI,RI,RII,RO",
      "ROO,,RA,RAA,,RWAA,,R,,MEDIAL R,FE,FAAI,FI,FII,FO,FOO,FA,FAA,FWAA,,F,THE,N-CREE THE,THI",
      "N-CREE THI,THII,N-CREE THII,THO,THOO,THA,THAA,THWAA,,TH,TTHE,TTHI,TTHO,TTHA,TTH,TYE,TYI",
      "TYO,TYA,,,,,,,,,NUNAVUT H,HK,QAAI,QI,QII,QO,QOO,QA,QAA,Q,TLHE,TLHI,TLHO,TLHA,,,,,NGAAI",
      "NGI,NGII,NGO,NGOO,NGA,NGAA,NG,NNG,SAYISI SHE,SAYISI SHI,SAYISI SHO,SAYISI SHA",
      "WOODS-CREE THE,WOODS-CREE THI,WOODS-CREE THO,WOODS-CREE THA,WOODS-CREE TH,LHI,LHII,LHO",
      "LHOO,LHA,LHAA,LH,TH-CREE THE,TH-CREE THI,TH-CREE THII,TH-CREE THO,TH-CREE THOO",
      "TH-CREE THA,TH-CREE THAA,TH-CREE TH,AIVILIK B,,,,,,,,,,,,,,,,,SAYISI HE,SAYISI HI",
      "SAYISI HO,SAYISI HA"]⟩,
    ⟨0x140D, "CANADIAN SYLLABICS WEST-CREE ", ["WE,,WI,,WII,,WO,,WOO,,,WA,,WAA,,,,,,,,,,,,,,,,,",
      ",,,,,,,,,,,,,,,PWE,,PWI,,PWII,,PWO,,PWOO,,PWA,,PWAA,,,P,,,,,,,,,,,,,,TWE,,TWI,,TWII,,TWO",
      ",TWOO,,TWA,,TWAA,,,,,,,,,,,,,,,,,KWE,,KWI,,KWII,,KWO,,KWOO,,KWA,,KWAA,,,,,,,,,,,,,,,,,",
      "CWE,,CWI,,CWII,,CWO,,CWOO,,CWA,,CWAA,,,,,,,,,,,,,,MWE,,MWI,,MWII,,MWO,,MWOO,,MWA,,MWAA,,",
      "M,,,,,,,,,,,,,,NWE,,NWA,,NWAA,,,,,,,,,,,,,,,LWE,,LWI,,LWII,,LWO,,LWOO,,LWA,,LWAA,,L,,,,,",
      ",,,,,,SWE,,SWI,,SWII,,SWO,,SWOO,,SWA,,SWAA,,,,,,,,,,,,,,,,,,,,,SHWE,,SHWI,,SHWII,,SHWO,",
      "SHWOO,,SHWA,,SHWAA,,,,,,,,,,,,YWE,,YWI,,YWII,,YWO,,YWOO,,YWA,,YWAA,,,,Y,,,,LE,,,,,,LO,,",
      "LA,,RWAA,,R,,,,,,,,,,,FWAA,,,,,,,,,,,,,THWAA,,,,,,,,,,,,,,,,,,,,,,,,,,,,,,,,,RE,RI,RO,RA"]⟩,
    ⟨0x141F, "CANADIAN SYLLABICS FINAL ", ["ACUTE,GRAVE,BOTTOM HALF RING,TOP HALF RING",
      "RIGHT HALF RING,RING,DOUBLE ACUTE,DOUBLE SHORT VERTICAL STROKES,MIDDLE DOT",
      "SHORT HORIZONTAL STROKE,PLUS,DOWN TACK"]⟩,
    ⟨0x1574, "CANADIAN SYLLABICS NUNAVIK ", ["HE,HI,HII,HO,HOO,HA,HAA,H"]⟩,
    ⟨0x15B0, "CANADIAN SYLLABICS BLACKFOOT ", ["E,I,O,A,WE,WI,WO,WA,NE,NI,NO,NA,KE,KI,KO,KA"]⟩,
    ⟨0x15C4, "CANADIAN SYLLABICS CARRIER ", ["GHU,GHO,GHE,GHEE,GHI,GHA,RU,RO,RE,REE,RI,RA,WU,WO",
      "WE,WEE,WI,WA,HWU,HWO,HWE,HWEE,HWI,HWA,THU,THO,THE,THEE,THI,THA,TTU,TTO,TTE,TTEE,TTI,TTA",
      "PU,PO,PE,PEE,PI,PA,P,GU,GO,GE,GEE,GI,GA,KHU,KHO,KHE,KHEE,KHI,KHA,KKU,KKO,KKE,KKEE,KKI",
      "KKA,KK,NU,NO,NE,NEE,NI,NA,MU,MO,ME,MEE,MI,MA,YU,YO,YE,YEE,YI,YA,JU,,JO,JE,JEE,JI,,JA,JJU",
      "JJO,JJE,JJEE,JJI,JJA,LU,LO,LE,LEE,LI,LA,DLU,DLO,DLE,DLEE,DLI,DLA,LHU,LHO,LHE,LHEE,LHI",
      "LHA,TLHU,TLHO,TLHE,TLHEE,TLHI,TLHA,TLU,TLO,TLE,TLEE,TLI,TLA,ZU,ZO,ZE,ZEE,ZI,ZA,Z",
      "INITIAL Z,DZU,DZO,DZE,DZEE,DZI,DZA,SU,SO,SE,SEE,SI,SA,SHU,SHO,SHE,SHEE,SHI,SHA,SH,TSU",
      "TSO,TSE,TSEE,TSI,TSA,CHU,CHO,CHE,CHEE,CHI,CHA,TTSU,TTSO,TTSE,TTSEE,TTSI,TTSA"]⟩,
    ⟨0x1615, "", ["CANADIAN SYLLABICS SAYISI JU,,,,,CANADIAN SYLLABICS SAYISI JI"]⟩,
    ⟨0x166D, "CANADIAN SYLLABICS ", ["CHI SIGN,FULL STOP,QAI,NGAI,NNGI,NNGII,NNGO,NNGOO,NNGA",
      "NNGAA,WOODS-CREE THWEE,WOODS-CREE THWI,WOODS-CREE THWII,WOODS-CREE THWO,WOODS-CREE THWOO",
      "WOODS-CREE THWA,WOODS-CREE THWAA,WOODS-CREE FINAL TH,BLACKFOOT W"]⟩,
    ⟨0x1680, "", ["OGHAM SPACE MARK"]⟩,
    ⟨0x1681, "OGHAM LETTER ", ["BEITH,LUIS,FEARN,SAIL,NION,UATH,DAIR,TINNE,COLL,CEIRT,MUIN,GORT",
      "NGEADAL,STRAIF,RUIS,AILM,ONN,UR,EADHADH,IODHADH,EABHADH,OR,UILLEANN,IFIN,EAMHANCHOLL",
      "PEITH"]⟩,
    ⟨0x169B, "", ["OGHAM FEATHER MARK,OGHAM REVERSED FEATHER MARK"]⟩,
    ⟨0x16A0, "RUNIC LETTER ", ["FEHU FEOH FE F,V,URUZ UR U,YR,Y,W,THURISAZ THURS THORN,ETH",
      "ANSUZ A,OS O,AC A,AESC,LONG-BRANCH-OSS O,SHORT-TWIG-OSS O,O,OE,ON,RAIDO RAD REID R,KAUNA",
      "CEN,KAUN K,G,ENG,GEBO GYFU G,GAR,WUNJO WYNN W,HAGLAZ H,HAEGL H,LONG-BRANCH-HAGALL H",
      "SHORT-TWIG-HAGALL H,NAUDIZ NYD NAUD N,SHORT-TWIG-NAUD N,DOTTED-N,ISAZ IS ISS I,E,JERAN J",
      "GER,LONG-BRANCH-AR AE,SHORT-TWIG-AR A,IWAZ EOH,PERTHO PEORTH P,ALGIZ EOLHX,SOWILO S",
      "SIGEL LONG-BRANCH-SOL S,SHORT-TWIG-SOL S,C,Z,TIWAZ TIR TYR T,SHORT-TWIG-TYR T,D",
      "BERKANAN BEORC BJARKAN B,SHORT-TWIG-BJARKAN B,DOTTED-P,OPEN-P,EHWAZ EH E,MANNAZ MAN M",
      "LONG-BRANCH-MADR M,SHORT-TWIG-MADR M,LAUKAZ LAGU LOGR L,DOTTED-L,INGWAZ,ING,DAGAZ DAEG D",
      "OTHALAN ETHEL O,EAR,IOR,CWEORTH,CALC,CEALC,STAN,LONG-BRANCH-YR,SHORT-TWIG-YR",
      "ICELANDIC-YR,Q,X,,,,,,,K,SH,OO,FRANKS CASKET OS,FRANKS CASKET IS,FRANKS CASKET EH",
      "FRANKS CASKET AC,FRANKS CASKET AESC"]⟩,
    ⟨0x16EB, "RUNIC ", ["SINGLE PUNCTUATION,MULTIPLE PUNCTUATION,CROSS PUNCTUATION",
      "ARLAUG SYMBOL,TVIMADUR SYMBOL,BELGTHOR SYMBOL"]⟩,
    ⟨0x1700, "TAGALOG LETTER ", ["A,I,U,KA,GA,NGA,TA,DA,NA,PA,BA,MA,YA,RA,LA,WA,SA,HA,,,,,,,,,,",
      ",,,ARCHAIC RA"]⟩,
    ⟨0x1712, "", ["TAGALOG VOWEL SIGN I,TAGALOG VOWEL SIGN U,TAGALOG SIGN VIRAMA",
      "TAGALOG SIGN PAMUDPOD"]⟩,
    ⟨0x1720, "HANUNOO LETTER ", ["A,I,U,KA,GA,NGA,TA,DA,NA,PA,BA,MA,YA,RA,LA,WA,SA,HA"]⟩,
    ⟨0x1732, "", ["HANUNOO VOWEL SIGN I,HANUNOO VOWEL SIGN U,HANUNOO SIGN PAMUDPOD",
      "PHILIPPINE SINGLE PUNCTUATION,PHILIPPINE DOUBLE PUNCTUATION"]⟩,
    ⟨0x1740, "BUHID LETTER ", ["A,I,U,KA,GA,NGA,TA,DA,NA,PA,BA,MA,YA,RA,LA,WA,SA,HA"]⟩,
    ⟨0x1752, "", ["BUHID VOWEL SIGN I,BUHID VOWEL SIGN U"]⟩,
    ⟨0x1760, "TAGBANWA LETTER ", ["A,I,U,KA,GA,NGA,TA,DA,NA,PA,BA,MA,YA,,LA,WA,SA"]⟩,
    ⟨0x1772, "", ["TAGBANWA VOWEL SIGN I,TAGBANWA VOWEL SIGN U"]⟩,
    ⟨0x1780, "KHMER LETTER ", ["KA,KHA,KO,KHO,NGO,CA,CHA,CO,CHO,NYO,DA,TTHA,DO,TTHO,NNO,TA,THA",
      "TO,THO,NO,BA,PHA,PO,PHO,MO,YO,RO,LO,VO,SHA,SSO,SA,HA,LA,QA"]⟩,
    ⟨0x17A3, "KHMER INDEPENDENT VOWEL ", ["QAQ,QAA,QI,QII,QU,QUK,QUU,QUUV,RY,RYY,LY,LYY,QE,QAI",
      "QOO TYPE ONE,QOO TYPE TWO,QAU"]⟩,
    ⟨0x17B4, "", ["KHMER VOWEL INHERENT AQ,KHMER VOWEL INHERENT AA"]⟩,
    ⟨0x17B6, "KHMER VOWEL SIGN ", ["AA,I,II,Y,YY,U,UU,UA,OE,YA,IE,E,AE,AI,OO,AU"]⟩,
    ⟨0x17C6, "KHMER SIGN ", ["NIKAHIT,REAHMUK,YUUKALEAPINTU,MUUSIKATOAN,TRIISAP,BANTOC,ROBAT",
      "TOANDAKHIAT,KAKABAT,AHSDA,SAMYOK SANNYA,VIRIAM,COENG,BATHAMASAT,KHAN,BARIYOOSAN",
      "CAMNUC PII KUUH,LEK TOO,BEYYAL,PHNAEK MUAN,KOOMUUT,,AVAKRAHASANYA,ATTHACAN"]⟩,
    ⟨0x17DB, "", ["KHMER CURRENCY SYMBOL RIEL"]⟩,
    ⟨0x17E0, "KHMER DIGIT ", ["ZERO,ONE,TWO,THREE,FOUR,FIVE,SIX,SEVEN,EIGHT,NINE"]⟩,
    ⟨0x17F0, "KHMER SYMBOL LEK ATTAK ", ["SON,MUOY,PII,BEI,BUON,PRAM,PRAM-MUOY,PRAM-PII",
      "PRAM-BEI,PRAM-BUON"]⟩,
    ⟨0x1800, "MONGOLIAN ", ["BIRGA,ELLIPSIS,COMMA,FULL STOP,COLON,FOUR DOTS,TODO SOFT HYPHEN",
      "SIBE SYLLABLE BOUNDARY MARKER,MANCHU COMMA,MANCHU FULL STOP,NIRUGU",
      "FREE VARIATION SELECTOR ONE,FREE VARIATION SELECTOR TWO,FREE VARIATION SELECTOR THREE",
      "VOWEL SEPARATOR,FREE VARIATION SELECTOR FOUR"]⟩,
    ⟨0x1810, "MONGOLIAN DIGIT ", ["ZERO,ONE,TWO,THREE,FOUR,FIVE,SIX,SEVEN,EIGHT,NINE"]⟩,
    ⟨0x1820, "MONGOLIAN LETTER ", ["A,E,I,O,U,OE,UE,EE,NA,ANG,BA,PA,QA,GA,MA,LA,SA,SHA,TA,DA",
      "CHA,JA,YA,RA,WA,FA,KA,KHA,TSA,ZA,HAA,ZRA,LHA,ZHI,CHI"]⟩,
    ⟨0x1843, "MONGOLIAN LETTER TODO ", ["LONG VOWEL SIGN,E,I,O,U,OE,UE,ANG,BA,PA,QA,GA,MA,TA,DA",
      "CHA,JA,TSA,YA,WA,KA,GAA,HAA,JIA,NIA,DZA"]⟩,
    ⟨0x185D, "MONGOLIAN LETTER SIBE ", ["E,I,IY,UE,U,ANG,KA,GA,HA,PA,SHA,TA,DA,JA,FA,GAA,HAA",
      "TSA,ZA,RAA,CHA,ZHA"]⟩,
    ⟨0x1873, "MONGOLIAN ", ["LETTER MANCHU I,LETTER MANCHU KA,LETTER MANCHU RA,LETTER MANCHU FA",
      "LETTER MANCHU ZHA,LETTER CHA WITH TWO DOTS,,,,,,,,,,,,,,,,,,,,,,,,,,,,,,,",
      "LETTER TODO ALI GALI TA,LETTER TODO ALI GALI ZHA"]⟩,
    ⟨0x1880, "MONGOLIAN LETTER ALI GALI ", ["ANUSVARA ONE,VISARGA ONE,DAMARU,UBADAMA",
      "INVERTED UBADAMA,BALUDA,THREE BALUDA,A,I,KA,NGA,CA,TTA,TTHA,DDA,NNA,TA,DA,PA,PHA,SSA,ZHA",
      "ZA,AH,,,,,,,,,,,,,,,HALF U,HALF YA,,DAGALGA"]⟩,
    ⟨0x189A, "MONGOLIAN LETTER MANCHU ALI GALI ", ["GHA,NGA,CA,JHA,TTA,DDHA,TA,DHA,SSA,CYA,ZHA",
      "ZA,,,BHA,,LHA"]⟩,
    ⟨0x18B0, "CANADIAN SYLLABICS ", ["OY,AY,AAY,WAY,POY,PAY,PWOY,TAY,KAY,KWAY,MAY,NOY,NAY,LAY",
      "SOY,SAY,SHOY,SHAY,SHWOY,YOY,YAY,RAY,NWI,,NWII,,NWO,,NWOO,,RWEE,RWI,RWII,RWO,RWOO,RWA,,,,",
      ",,,,EASTERN W,WESTERN W,FINAL SMALL RING,FINAL RAISED DOT,R-CREE RWE,WEST-CREE LOO",
      "WEST-CREE LAA,THWE,THWA,TTHWE,TTHOO,TTHAA,TLHWE,TLHOO,SAYISI SHWE,SAYISI SHOO,SAYISI HOO",
      "CARRIER GWU,CARRIER DENE GEE,CARRIER GAA,CARRIER GWA,SAYISI JUU,CARRIER JWA",
      "BEAVER DENE L,BEAVER DENE R,CARRIER DENTAL S"]⟩,
    ⟨0x18C7, "CANADIAN SYLLABICS OJIBWAY ", ["NWI,,NWII,,NWO,,NWOO,,,,,,,P,T,K,C,M,N,S,SH"]⟩,
    ⟨0x1900, "", ["LIMBU VOWEL-CARRIER LETTER"]⟩,
    ⟨0x1901, "LIMBU LETTER ", ["KA,KHA,GA,GHA,NGA,CA,CHA,JA,JHA,YAN,TA,THA,DA,DHA,NA,PA,PHA,BA",
      "BHA,MA,YA,RA,LA,WA,SHA,SSA,SA,HA,GYAN,TRA"]⟩,
    ⟨0x1920, "LIMBU VOWEL SIGN ", ["A,I,U,EE,AI,OO,AU,E,O"]⟩,
    ⟨0x1929, "LIMBU ", ["SUBJOINED LETTER YA,SUBJOINED LETTER RA,SUBJOINED LETTER WA,,,,,,,,,,,",
      ",,SIGN MUKPHRENG,SIGN KEMPHRENG,SIGN SA-I,,,,,SIGN LOO,,,,EXCLAMATION MARK,QUESTION MARK"]⟩,
    ⟨0x1930, "LIMBU SMALL LETTER ", ["KA,NGA,ANUSVARA,TA,NA,PA,MA,RA,LA"]⟩,
    ⟨0x1946, "LIMBU DIGIT ", ["ZERO,ONE,TWO,THREE,FOUR,FIVE,SIX,SEVEN,EIGHT,NINE"]⟩,
    ⟨0x1950, "TAI LE LETTER ", ["KA,XA,NGA,TSA,SA,YA,TA,THA,LA,PA,PHA,MA,FA,VA,HA,QA,KHA,TSHA",
      "NA,A,I,EE,EH,U,OO,O,UE,E,AUE,AI,,,TONE-2,TONE-3,TONE-4,TONE-5,TONE-6"]⟩,
    ⟨0x1980, "NEW TAI LUE LETTER HIGH ", ["QA,,KA,XA,NGA,,,,TSA,SA,YA,,,,TA,THA,NA,,,,PA,PHA,MA",
      ",,,FA,VA,LA,,,,HA,DA,BA,,,,KVA,XVA,,,SUA"]⟩,
    ⟨0x1981, "NEW TAI LUE LETTER LOW ", ["QA,,,,KA,XA,NGA,,,,TSA,SA,YA,,,,TA,THA,NA,,,,PA,PHA",
      "MA,,,,FA,VA,LA,,,,HA,DA,BA,,,KVA,XVA,,SUA"]⟩,
    ⟨0x19B0, "NEW TAI LUE VOWEL SIGN ", ["VOWEL SHORTENER,AA,II,U,UU,E,AE,O,OA,UE,AY,AAY,UY,OY",
      "OAY,UEY,IY"]⟩,
    ⟨0x19C1, "NEW TAI LUE LETTER ", ["FINAL V,FINAL NG,FINAL N,FINAL M,FINAL K,FINAL D,FINAL B"]⟩,
    ⟨0x19C8, "", ["NEW TAI LUE TONE MARK-1,NEW TAI LUE TONE MARK-2,,,,,,,,,,,,,,,,",
      "NEW TAI LUE THAM DIGIT ONE,,,,NEW TAI LUE SIGN LAE,NEW TAI LUE SIGN LAEV"]⟩,
    ⟨0x19D0, "NEW TAI LUE DIGIT ", ["ZERO,ONE,TWO,THREE,FOUR,FIVE,SIX,SEVEN,EIGHT,NINE"]⟩,
    ⟨0x19E0, "KHMER SYMBOL ", ["PATHAMASAT,MUOY KOET,PII KOET,BEI KOET,BUON KOET,PRAM KOET",
      "PRAM-MUOY KOET,PRAM-PII KOET,PRAM-BEI KOET,PRAM-BUON KOET,DAP KOET,DAP-MUOY KOET",
      "DAP-PII KOET,DAP-BEI KOET,DAP-BUON KOET,DAP-PRAM KOET,TUTEYASAT,MUOY ROC,PII ROC,BEI ROC",
      "BUON ROC,PRAM ROC,PRAM-MUOY ROC,PRAM-PII ROC,PRAM-BEI ROC,PRAM-BUON ROC,DAP ROC",
      "DAP-MUOY ROC,DAP-PII ROC,DAP-BEI ROC,DAP-BUON ROC,DAP-PRAM ROC"]⟩,
    ⟨0x1A00, "BUGINESE LETTER ", ["KA,GA,NGA,NGKA,PA,BA,MA,MPA,TA,DA,NA,NRA,CA,JA,NYA,NYCA,YA",
      "RA,LA,VA,SA,A,HA"]⟩,
    ⟨0x1A17, "BUGINESE ", ["VOWEL SIGN I,VOWEL SIGN U,VOWEL SIGN E,VOWEL SIGN O,VOWEL SIGN AE,,",
      "PALLAWA,END OF SECTION"]⟩,
    ⟨0x1A20, "TAI THAM LETTER HIGH ", ["KA,KHA,KXA,,,,,CA,CHA,,,,,,RATHA,,,,TA,THA,,,,,PA,PHA",
      "FA,,,,,,YA,,,,,,SHA,SSA,SA,HA"]⟩,
    ⟨0x1A23, "TAI THAM LETTER ", ["LOW KA,LOW KXA,LOW KHA,NGA,,,LOW CA,LOW SA,LOW CHA,NYA,RATA,",
      "DA,LOW RATHA,RANA,,,LOW TA,LOW THA,NA,BA,,,,LOW PA,LOW FA,LOW PHA,MA,LOW YA,,RA,RUE,LA",
      "LUE,WA,,,,,LLA,A,LOW HA,I,II,U,UU,EE,OO,LAE,GREAT SA"]⟩,
    ⟨0x1A55, "TAI THAM CONSONANT ", ["SIGN MEDIAL RA,SIGN MEDIAL LA,SIGN LA TANG LAI,",
      "SIGN FINAL NGA,SIGN LOW PA,SIGN HIGH RATHA OR LOW PA,SIGN MA,SIGN BA,SIGN SA"]⟩,
    ⟨0x1A58, "TAI THAM SIGN ", ["MAI KANG LAI,,,,,,,,SAKOT,,,,,,,,,,,,,,,,,,,,MAI KANG,TONE-1",
      "TONE-2,KHUEN TONE-3,KHUEN TONE-4,KHUEN TONE-5,RA HAAM,MAI SAM,KHUEN-LUE KARAN,,,,,,,,,,,",
      ",,,,,,,,,,,,,,,,,,,,,,,,WIANG,WIANGWAAK,SAWAN,KEOW,HOY,DOKMAI,REVERSED ROTATED RANA",
      "MAI YAMOK,KAAN,KAANKUU,SATKAAN,SATKAANKUU,HANG,CAANG"]⟩,
    ⟨0x1A61, "TAI THAM VOWEL SIGN ", ["A,MAI SAT,AA,TALL AA,I,II,UE,UUE,U,UU,O,OA BELOW,OY,E,AE",
      "OO,AI,THAM AI,OA ABOVE"]⟩,
    ⟨0x1A7F, "", ["TAI THAM COMBINING CRYPTOGRAMMIC DOT"]⟩,
    ⟨0x1A80, "TAI THAM HORA DIGIT ", ["ZERO,ONE,TWO,THREE,FOUR,FIVE,SIX,SEVEN,EIGHT,NINE"]⟩,
    ⟨0x1A90, "TAI THAM THAM DIGIT ", ["ZERO,ONE,TWO,THREE,FOUR,FIVE,SIX,SEVEN,EIGHT,NINE"]⟩,
    ⟨0x1AB0, "COMBINING ", ["DOUBLED CIRCUMFLEX ACCENT,DIAERESIS-RING,INFINITY,DOWNWARDS ARROW",
      "TRIPLE DOT,X-X BELOW,WIGGLY LINE BELOW,OPEN MARK BELOW,DOUBLE OPEN MARK BELOW",
      "LIGHT CENTRALIZATION STROKE BELOW,STRONG CENTRALIZATION STROKE BELOW,PARENTHESES ABOVE",
      "DOUBLE PARENTHESES ABOVE,PARENTHESES BELOW,PARENTHESES OVERLAY",
      "LATIN SMALL LETTER W BELOW,LATIN SMALL LETTER TURNED W BELOW,LEFT PARENTHESIS ABOVE LEFT",
      "RIGHT PARENTHESIS ABOVE RIGHT,LEFT PARENTHESIS BELOW LEFT,RIGHT PARENTHESIS BELOW RIGHT",
      "SQUARE BRACKETS ABOVE,NUMBER SIGN ABOVE,INVERTED DOUBLE ARCH ABOVE,PLUS SIGN ABOVE",
      "DOUBLE PLUS SIGN ABOVE,DOUBLE PLUS SIGN BELOW,TRIPLE ACUTE ACCENT",
      "LATIN SMALL LETTER INSULAR G,LATIN SMALL LETTER INSULAR R,LATIN SMALL LETTER INSULAR T"]⟩,
    ⟨0x1B00, "BALINESE ", ["SIGN ULU RICEM,SIGN ULU CANDRA,SIGN CECEK,SIGN SURANG,SIGN BISAH"]⟩,
    ⟨0x1B05, "BALINESE LETTER ", ["AKARA,AKARA TEDUNG,IKARA,IKARA TEDUNG,UKARA,UKARA TEDUNG",
      "RA REPA,RA REPA TEDUNG,LA LENGA,LA LENGA TEDUNG,EKARA,AIKARA,OKARA,OKARA TEDUNG,KA",
      "KA MAHAPRANA,GA,GA GORA,NGA,CA,CA LACA,JA,JA JERA,NYA,TA LATIK,TA MURDA MAHAPRANA",
      "DA MURDA ALPAPRANA,DA MURDA MAHAPRANA,NA RAMBAT,TA,TA TAWA,DA,DA MADU,NA,PA,PA KAPAL,BA",
      "BA KEMBANG,MA,YA,RA,LA,WA,SA SAGA,SA SAPA,SA,HA,,,,,,,,,,,,,,,,,,KAF SASAK,KHOT SASAK",
      "TZIR SASAK,EF SASAK,VE SASAK,ZAL SASAK,ASYURA SASAK,ARCHAIC JNYA"]⟩,
    ⟨0x1B34, "", ["BALINESE SIGN REREKAN,,,,,,,,,,,,,,,,BALINESE ADEG ADEG,,,,,,,,,,,,,,,,,,,,,",
      "BALINESE PANTI,BALINESE PAMADA,BALINESE WINDU,BALINESE CARIK PAMUNGKAH",
      "BALINESE CARIK SIKI,BALINESE CARIK PAREREN,BALINESE PAMENENG"]⟩,
    ⟨0x1B35, "BALINESE VOWEL SIGN ", ["TEDUNG,ULU,ULU SARI,SUKU,SUKU ILUT,RA REPA",
      "RA REPA TEDUNG,LA LENGA,LA LENGA TEDUNG,TALING,TALING REPA,TALING TEDUNG",
      "TALING REPA TEDUNG,PEPET,PEPET TEDUNG"]⟩,
    ⟨0x1B50, "BALINESE DIGIT ", ["ZERO,ONE,TWO,THREE,FOUR,FIVE,SIX,SEVEN,EIGHT,NINE"]⟩,
    ⟨0x1B61, "BALINESE MUSICAL SYMBOL ", ["DONG,DENG,DUNG,DANG,DANG SURANG,DING,DAENG,DEUNG",
      "DAING,DANG GEDE,,,,,,,,,,RIGHT-HAND OPEN DUG,RIGHT-HAND OPEN DAG,RIGHT-HAND CLOSED TUK",
      "RIGHT-HAND CLOSED TAK,LEFT-HAND OPEN PANG,LEFT-HAND OPEN PUNG,LEFT-HAND CLOSED PLAK",
      "LEFT-HAND CLOSED PLUK,LEFT-HAND OPEN PING"]⟩,
    ⟨0x1B6B, "BALINESE MUSICAL SYMBOL COMBINING ", ["TEGEH,ENDEP,KEMPUL,KEMPLI,JEGOGAN",
      "KEMPUL WITH JEGOGAN,KEMPLI WITH JEGOGAN,BENDE,GONG"]⟩,
    ⟨0x1B7D, "", ["BALINESE PANTI LANTANG,BALINESE PAMADA LANTANG"]⟩,
    ⟨0x1B80, "SUNDANESE ", ["SIGN PANYECEK,SIGN PANGLAYAR,SIGN PANGWISAD,,,,,,,,,,,,,,,,,,,,,,,",
      ",,,,,,,CONSONANT SIGN PAMINGKAL,CONSONANT SIGN PANYAKRA,CONSONANT SIGN PANYIKU",
      "VOWEL SIGN PANGHULU,VOWEL SIGN PANYUKU,VOWEL SIGN PANAELAENG,VOWEL SIGN PANOLONG",
      "VOWEL SIGN PAMEPET,VOWEL SIGN PANEULEUNG,SIGN PAMAAEH,SIGN VIRAMA",
      "CONSONANT SIGN PASANGAN MA,CONSONANT SIGN PASANGAN WA,,,,,,,,,,,,,AVAGRAHA"]⟩,
    ⟨0x1B83, "SUNDANESE LETTER ", ["A,I,U,AE,O,E,EU,KA,QA,GA,NGA,CA,JA,ZA,NYA,TA,DA,NA,PA,FA,VA",
      "BA,MA,YA,RA,LA,WA,SA,XA,HA,,,,,,,,,,,,,,KHA,SYA,,,,,,,,,,,,REU,LEU,BHA,FINAL K,FINAL M"]⟩,
    ⟨0x1BB0, "SUNDANESE DIGIT ", ["ZERO,ONE,TWO,THREE,FOUR,FIVE,SIX,SEVEN,EIGHT,NINE"]⟩,
    ⟨0x1BC0, "BATAK LETTER ", ["A,,HA,,MANDAILING HA,BA,KARO BA,PA,,NA,MANDAILING NA,WA,",
      "PAKPAK WA,GA,,JA,DA,RA,,MA,,SOUTHERN TA,NORTHERN TA,SA,,MANDAILING SA,YA,,NGA,LA,,NYA,CA",
      "NDA,MBA,I,U"]⟩,
    ⟨0x1BC1, "BATAK LETTER SIMALUNGUN ", ["A,,HA,,,,,PA,,,,WA,,,GA,,,,RA,,MA,,,,SA,,,YA,,,LA"]⟩,
    ⟨0x1BE6, "BATAK ", ["SIGN TOMPI,,,,,,,,,,CONSONANT SIGN NG,CONSONANT SIGN H,PANGOLAT",
      "PANONGONAN,,,,,,,,,SYMBOL BINDU NA METEK,SYMBOL BINDU PINARBORAS,SYMBOL BINDU JUDUL",
      "SYMBOL BINDU PANGOLAT"]⟩,
    ⟨0x1BE7, "BATAK VOWEL SIGN ", ["E,PAKPAK E,EE,I,KARO I,O,KARO O,U,U FOR SIMALUNGUN SA"]⟩,
    ⟨0x1C00, "LEPCHA LETTER ", ["KA,KLA,KHA,GA,GLA,NGA,CA,CHA,JA,NYA,TA,THA,DA,NA,PA,PLA,PHA,FA",
      "FLA,BA,BLA,MA,MLA,TSA,TSHA,DZA,YA,RA,LA,HA,HLA,VA,SA,SHA,WA,A"]⟩,
    ⟨0x1C24, "", ["LEPCHA SUBJOINED LETTER YA,LEPCHA SUBJOINED LETTER RA,,,,,,,,,,,,,,,,",
      "LEPCHA SIGN RAN,LEPCHA SIGN NUKTA,,,,,,,,,,,,,,,,,,,,,,LEPCHA LETTER TTA",
      "LEPCHA LETTER TTHA,LEPCHA LETTER DDA"]⟩,
    ⟨0x1C26, "LEPCHA VOWEL ", ["SIGN AA,SIGN I,SIGN O,SIGN OO,SIGN U,SIGN UU,SIGN E"]⟩,
    ⟨0x1C2D, "LEPCHA CONSONANT ", ["SIGN K,SIGN M,SIGN L,SIGN N,SIGN P,SIGN R,SIGN T",
      "SIGN NYIN-DO,SIGN KANG"]⟩,
    ⟨0x1C3B, "LEPCHA PUNCTUATION ", ["TA-ROL,NYET THYOOM TA-ROL,CER-WA,TSHOOK CER-WA,TSHOOK"]⟩,
    ⟨0x1C40, "LEPCHA DIGIT ", ["ZERO,ONE,TWO,THREE,FOUR,FIVE,SIX,SEVEN,EIGHT,NINE"]⟩,
    ⟨0x1C50, "OL CHIKI DIGIT ", ["ZERO,ONE,TWO,THREE,FOUR,FIVE,SIX,SEVEN,EIGHT,NINE"]⟩,
    ⟨0x1C5A, "OL CHIKI LETTER ", ["LA,AT,AG,ANG,AL,LAA,AAK,AAJ,AAM,AAW,LI,IS,IH,INY,IR,LU,UC,UD",
      "UNN,UY,LE,EP,EDD,EN,ERR,LO,OTT,OB,OV,OH"]⟩,
    ⟨0x1C78, "OL CHIKI ", ["MU TTUDDAG,GAAHLAA TTUDDAAG,MU-GAAHLAA TTUDDAAG,RELAA,PHAARKAA,AHAD",
      "PUNCTUATION MUCAAD,PUNCTUATION DOUBLE MUCAAD"]⟩,
    ⟨0x1C80, "CYRILLIC SMALL LETTER ", ["ROUNDED VE,LONG-LEGGED DE,NARROW O,WIDE ES,TALL TE",
      "THREE-LEGGED TE,TALL HARD SIGN,TALL YAT,UNBLENDED UK"]⟩,
    ⟨0x1C90, "GEORGIAN MTAVRULI CAPITAL LETTER ", ["AN,BAN,GAN,DON,EN,VIN,ZEN,TAN,IN,KAN,LAS",
      "MAN,NAR,ON,PAR,ZHAR,RAE,SAN,TAR,UN,PHAR,KHAR,GHAN,QAR,SHIN,CHIN,CAN,JIL,CIL,CHAR,XAN",
      "JHAN,HAE,HE,HIE,WE,HAR,HOE,FI,YN,ELIFI,TURNED GAN,AIN,,,AEN,HARD SIGN,LABIAL SIGN"]⟩,
    ⟨0x1CC0, "SUNDANESE PUNCTUATION ", ["BINDU SURYA,BINDU PANGLONG,BINDU PURNAMA,BINDU CAKRA",
      "BINDU LEU SATANGA,BINDU KA SATANGA,BINDU DA SATANGA,BINDU BA SATANGA"]⟩,
    ⟨0x1CD0, "VEDIC TONE ", ["KARSHANA,SHARA,PRENKHA,,",
      "YAJURVEDIC AGGRAVATED INDEPENDENT SVARITA,YAJURVEDIC INDEPENDENT SVARITA",
      "YAJURVEDIC KATHAKA INDEPENDENT SVARITA,CANDRA BELOW",
      "YAJURVEDIC KATHAKA INDEPENDENT SVARITA SCHROEDER,DOUBLE SVARITA,TRIPLE SVARITA",
      "KATHAKA ANUDATTA,DOT BELOW,TWO DOTS BELOW,THREE DOTS BELOW",
      "RIGVEDIC KASHMIRI INDEPENDENT SVARITA,ATHARVAVEDIC INDEPENDENT SVARITA,,,,,,,,,,,,,,,,,,",
      "CANDRA ABOVE,,,,RING ABOVE,DOUBLE RING ABOVE"]⟩,
    ⟨0x1CD3, "VEDIC SIGN ", ["NIHSHVASA,YAJURVEDIC MIDLINE SVARITA,,,,,,,,,,,,,,VISARGA SVARITA",
      "VISARGA UDATTA,REVERSED VISARGA UDATTA,VISARGA ANUDATTA,REVERSED VISARGA ANUDATTA",
      "VISARGA UDATTA WITH TAIL,VISARGA ANUDATTA WITH TAIL,ANUSVARA ANTARGOMUKHA",
      "ANUSVARA BAHIRGOMUKHA,ANUSVARA VAMAGOMUKHA,ANUSVARA VAMAGOMUKHA WITH TAIL,TIRYAK",
      "HEXIFORM LONG ANUSVARA,LONG ANUSVARA,RTHANG LONG ANUSVARA,ANUSVARA UBHAYATO MUKHA",
      "ARDHAVISARGA,ROTATED ARDHAVISARGA,,JIHVAMULIYA,UPADHMANIYA,ATIKRAMA,,",
      "DOUBLE ANUSVARA ANTARGOMUKHA"]⟩,
    ⟨0x1D00, "LATIN LETTER SMALL CAPITAL ", ["A,AE,,BARRED B,C,D,ETH,E,,,J,K,L WITH STROKE,M",
      "REVERSED N,O,OPEN O,,,,,OU,,,P,REVERSED R,TURNED R,T,U,,,,V,W,Z,EZH"]⟩,
    ⟨0x1D02, "LATIN SMALL LETTER ", ["TURNED AE,,,,,,TURNED OPEN E,TURNED I,,,,,,,,SIDEWAYS O",
      "SIDEWAYS OPEN O,SIDEWAYS O WITH STROKE,TURNED OE,,TOP HALF O,BOTTOM HALF O,,,,,",
      "SIDEWAYS U,SIDEWAYS DIAERESIZED U,SIDEWAYS TURNED M"]⟩,
    ⟨0x1D24, "", ["LATIN LETTER VOICED LARYNGEAL SPIRANT,LATIN LETTER AIN",
      "GREEK LETTER SMALL CAPITAL GAMMA,GREEK LETTER SMALL CAPITAL LAMDA",
      "GREEK LETTER SMALL CAPITAL PI,GREEK LETTER SMALL CAPITAL RHO",
      "GREEK LETTER SMALL CAPITAL PSI,CYRILLIC LETTER SMALL CAPITAL EL"]⟩,
    ⟨0x1D2C, "MODIFIER LETTER CAPITAL ", ["A,AE,B,BARRED B,D,E,REVERSED E,G,H,I,J,K,L,M,N",
      "REVERSED N,O,OU,P,R,T,U,W"]⟩,
    ⟨0x1D43, "MODIFIER LETTER SMALL ", ["A,TURNED A,ALPHA,TURNED AE,B,D,E,SCHWA,OPEN E",
      "TURNED OPEN E,G,TURNED I,K,M,ENG,O,OPEN O,TOP HALF O,BOTTOM HALF O,P,T,U,SIDEWAYS U",
      "TURNED M,V,AIN,BETA,GREEK GAMMA,DELTA,GREEK PHI,CHI"]⟩,
    ⟨0x1D62, "", ["LATIN SUBSCRIPT SMALL LETTER I,LATIN SUBSCRIPT SMALL LETTER R",
      "LATIN SUBSCRIPT SMALL LETTER U,LATIN SUBSCRIPT SMALL LETTER V,,,,,,,,,,,,,,,,,,",
      "MODIFIER LETTER CYRILLIC EN,,,LATIN SMALL CAPITAL LETTER I WITH STROKE,,",
      "LATIN SMALL CAPITAL LETTER U WITH STROKE"]⟩,
    ⟨0x1D66, "GREEK SUBSCRIPT ", ["SMALL LETTER BETA,SMALL LETTER GAMMA,SMALL LETTER RHO",
      "SMALL LETTER PHI,SMALL LETTER CHI"]⟩,
    ⟨0x1D6B, "LATIN SMALL LETTER ", ["UE,B WITH MIDDLE TILDE,D WITH MIDDLE TILDE",
      "F WITH MIDDLE TILDE,M WITH MIDDLE TILDE,N WITH MIDDLE TILDE,P WITH MIDDLE TILDE",
      "R WITH MIDDLE TILDE,R WITH FISHHOOK AND MIDDLE TILDE,S WITH MIDDLE TILDE",
      "T WITH MIDDLE TILDE,Z WITH MIDDLE TILDE,TURNED G,,INSULAR G,TH WITH STRIKETHROUGH,",
      "IOTA WITH STROKE,P WITH STROKE,,UPSILON WITH STROKE,B WITH PALATAL HOOK",
      "D WITH PALATAL HOOK,F WITH PALATAL HOOK,G WITH PALATAL HOOK,K WITH PALATAL HOOK",
      "L WITH PALATAL HOOK,M WITH PALATAL HOOK,N WITH PALATAL HOOK,P WITH PALATAL HOOK",
      "R WITH PALATAL HOOK,S WITH PALATAL HOOK,ESH WITH PALATAL HOOK,V WITH PALATAL HOOK",
      "X WITH PALATAL HOOK,Z WITH PALATAL HOOK,A WITH RETROFLEX HOOK,ALPHA WITH RETROFLEX HOOK",
      "D WITH HOOK AND TAIL,E WITH RETROFLEX HOOK,OPEN E WITH RETROFLEX HOOK",
      "REVERSED OPEN E WITH RETROFLEX HOOK,SCHWA WITH RETROFLEX HOOK,I WITH RETROFLEX HOOK",
      "OPEN O WITH RETROFLEX HOOK,ESH WITH RETROFLEX HOOK,U WITH RETROFLEX HOOK",
      "EZH WITH RETROFLEX HOOK"]⟩,
    ⟨0x1D9B, "MODIFIER LETTER SMALL ", ["TURNED ALPHA,C,C WITH CURL,ETH,REVERSED OPEN E,F",
      "DOTLESS J WITH STROKE,SCRIPT G,TURNED H,I WITH STROKE,IOTA,CAPITAL I",
      "CAPITAL I WITH STROKE,J WITH CROSSED-TAIL,L WITH RETROFLEX HOOK,L WITH PALATAL HOOK",
      "CAPITAL L,M WITH HOOK,TURNED M WITH LONG LEG,N WITH LEFT HOOK,N WITH RETROFLEX HOOK",
      "CAPITAL N,BARRED O,PHI,S WITH HOOK,ESH,T WITH PALATAL HOOK,U BAR,UPSILON,CAPITAL U",
      "V WITH HOOK,TURNED V,Z,Z WITH RETROFLEX HOOK,Z WITH CURL,EZH,THETA"]⟩,
    ⟨0x1DC0, "COMBINING ", ["DOTTED GRAVE ACCENT,DOTTED ACUTE ACCENT,SNAKE BELOW",
      "SUSPENSION MARK,MACRON-ACUTE,GRAVE-MACRON,MACRON-GRAVE,ACUTE-MACRON,GRAVE-ACUTE-GRAVE",
      "ACUTE-GRAVE-ACUTE,,BREVE-MACRON,MACRON-BREVE,DOUBLE CIRCUMFLEX ABOVE,OGONEK ABOVE",
      "ZIGZAG BELOW,IS BELOW,UR ABOVE,US ABOVE,,,,,,,,,LATIN LETTER SMALL CAPITAL G,,",
      "LATIN LETTER SMALL CAPITAL L,LATIN LETTER SMALL CAPITAL M,,LATIN LETTER SMALL CAPITAL N",
      "LATIN LETTER SMALL CAPITAL R,,,,,,,,,,,,,,,,,,,UP TACK ABOVE,KAVYKA ABOVE RIGHT",
      "KAVYKA ABOVE LEFT,DOT ABOVE LEFT,WIDE INVERTED BRIDGE BELOW,DOT BELOW LEFT,DELETION MARK",
      "DOUBLE INVERTED BREVE BELOW,ALMOST EQUAL TO BELOW,LEFT ARROWHEAD ABOVE",
      "RIGHT ARROWHEAD AND DOWN ARROWHEAD BELOW"]⟩,
    ⟨0x1DCA, "COMBINING LATIN SMALL LETTER ", ["R BELOW,,,,,,,,,FLATTENED OPEN A ABOVE,AE,AO,AV",
      "C CEDILLA,INSULAR D,ETH,G,,K,L,,,N,,,R ROTUNDA,S,LONG S,Z,ALPHA,B,BETA,SCHWA,F",
      "L WITH DOUBLE MIDDLE TILDE,O WITH LIGHT CENTRALIZATION STROKE,P,ESH",
      "U WITH LIGHT CENTRALIZATION STROKE,W,A WITH DIAERESIS,O WITH DIAERESIS,U WITH DIAERESIS"]⟩,
    ⟨0x1E00, "LATIN CAPITAL LETTER ", ["A WITH RING BELOW,,B WITH DOT ABOVE,,B WITH DOT BELOW,",
      "B WITH LINE BELOW,,C WITH CEDILLA AND ACUTE,,D WITH DOT ABOVE,,D WITH DOT BELOW,",
      "D WITH LINE BELOW,,D WITH CEDILLA,,D WITH CIRCUMFLEX BELOW,,E WITH MACRON AND GRAVE,",
      "E WITH MACRON AND ACUTE,,E WITH CIRCUMFLEX BELOW,,E WITH TILDE BELOW,",
      "E WITH CEDILLA AND BREVE,,F WITH DOT ABOVE,,G WITH MACRON,,H WITH DOT ABOVE,",
      "H WITH DOT BELOW,,H WITH DIAERESIS,,H WITH CEDILLA,,H WITH BREVE BELOW,",
      "I WITH TILDE BELOW,,I WITH DIAERESIS AND ACUTE,,K WITH ACUTE,,K WITH DOT BELOW,",
      "K WITH LINE BELOW,,L WITH DOT BELOW,,L WITH DOT BELOW AND MACRON,,L WITH LINE BELOW,",
      "L WITH CIRCUMFLEX BELOW,,M WITH ACUTE,,M WITH DOT ABOVE,,M WITH DOT BELOW,",
      "N WITH DOT ABOVE,,N WITH DOT BELOW,,N WITH LINE BELOW,,N WITH CIRCUMFLEX BELOW,",
      "O WITH TILDE AND ACUTE,,O WITH TILDE AND DIAERESIS,,O WITH MACRON AND GRAVE,",
      "O WITH MACRON AND ACUTE,,P WITH ACUTE,,P WITH DOT ABOVE,,R WITH DOT ABOVE,",
      "R WITH DOT BELOW,,R WITH DOT BELOW AND MACRON,,R WITH LINE BELOW,,S WITH DOT ABOVE,",
      "S WITH DOT BELOW,,S WITH ACUTE AND DOT ABOVE,,S WITH CARON AND DOT ABOVE,",
      "S WITH DOT BELOW AND DOT ABOVE,,T WITH DOT ABOVE,,T WITH DOT BELOW,,T WITH LINE BELOW,",
      "T WITH CIRCUMFLEX BELOW,,U WITH DIAERESIS BELOW,,U WITH TILDE BELOW,",
      "U WITH CIRCUMFLEX BELOW,,U WITH TILDE AND ACUTE,,U WITH MACRON AND DIAERESIS,",
      "V WITH TILDE,,V WITH DOT BELOW,,W WITH GRAVE,,W WITH ACUTE,,W WITH DIAERESIS,",
      "W WITH DOT ABOVE,,W WITH DOT BELOW,,X WITH DOT ABOVE,,X WITH DIAERESIS,,Y WITH DOT ABOVE",
      ",Z WITH CIRCUMFLEX,,Z WITH DOT BELOW,,Z WITH LINE BELOW,,,,,,,,,,SHARP S,",
      "A WITH DOT BELOW,,A WITH HOOK ABOVE,,A WITH CIRCUMFLEX AND ACUTE,",
      "A WITH CIRCUMFLEX AND GRAVE,,A WITH CIRCUMFLEX AND HOOK ABOVE,",
      "A WITH CIRCUMFLEX AND TILDE,,A WITH CIRCUMFLEX AND DOT BELOW,,A WITH BREVE AND ACUTE,",
      "A WITH BREVE AND GRAVE,,A WITH BREVE AND HOOK ABOVE,,A WITH BREVE AND TILDE,",
      "A WITH BREVE AND DOT BELOW,,E WITH DOT BELOW,,E WITH HOOK ABOVE,,E WITH TILDE,",
      "E WITH CIRCUMFLEX AND ACUTE,,E WITH CIRCUMFLEX AND GRAVE,",
      "E WITH CIRCUMFLEX AND HOOK ABOVE,,E WITH CIRCUMFLEX AND TILDE,",
      "E WITH CIRCUMFLEX AND DOT BELOW,,I WITH HOOK ABOVE,,I WITH DOT BELOW,,O WITH DOT BELOW,",
      "O WITH HOOK ABOVE,,O WITH CIRCUMFLEX AND ACUTE,,O WITH CIRCUMFLEX AND GRAVE,",
      "O WITH CIRCUMFLEX AND HOOK ABOVE,,O WITH CIRCUMFLEX AND TILDE,",
      "O WITH CIRCUMFLEX AND DOT BELOW,,O WITH HORN AND ACUTE,,O WITH HORN AND GRAVE,",
      "O WITH HORN AND HOOK ABOVE,,O WITH HORN AND TILDE,,O WITH HORN AND DOT BELOW,",
      "U WITH DOT BELOW,,U WITH HOOK ABOVE,,U WITH HORN AND ACUTE,,U WITH HORN AND GRAVE,",
      "U WITH HORN AND HOOK ABOVE,,U WITH HORN AND TILDE,,U WITH HORN AND DOT BELOW,",
      "Y WITH GRAVE,,Y WITH DOT BELOW,,Y WITH HOOK ABOVE,,Y WITH TILDE,,MIDDLE-WELSH LL,",
      "MIDDLE-WELSH V,,Y WITH LOOP"]⟩,
    ⟨0x1E01, "LATIN SMALL LETTER ", ["A WITH RING BELOW,,B WITH DOT ABOVE,,B WITH DOT BELOW,",
      "B WITH LINE BELOW,,C WITH CEDILLA AND ACUTE,,D WITH DOT ABOVE,,D WITH DOT BELOW,",
      "D WITH LINE BELOW,,D WITH CEDILLA,,D WITH CIRCUMFLEX BELOW,,E WITH MACRON AND GRAVE,",
      "E WITH MACRON AND ACUTE,,E WITH CIRCUMFLEX BELOW,,E WITH TILDE BELOW,",
      "E WITH CEDILLA AND BREVE,,F WITH DOT ABOVE,,G WITH MACRON,,H WITH DOT ABOVE,",
      "H WITH DOT BELOW,,H WITH DIAERESIS,,H WITH CEDILLA,,H WITH BREVE BELOW,",
      "I WITH TILDE BELOW,,I WITH DIAERESIS AND ACUTE,,K WITH ACUTE,,K WITH DOT BELOW,",
      "K WITH LINE BELOW,,L WITH DOT BELOW,,L WITH DOT BELOW AND MACRON,,L WITH LINE BELOW,",
      "L WITH CIRCUMFLEX BELOW,,M WITH ACUTE,,M WITH DOT ABOVE,,M WITH DOT BELOW,",
      "N WITH DOT ABOVE,,N WITH DOT BELOW,,N WITH LINE BELOW,,N WITH CIRCUMFLEX BELOW,",
      "O WITH TILDE AND ACUTE,,O WITH TILDE AND DIAERESIS,,O WITH MACRON AND GRAVE,",
      "O WITH MACRON AND ACUTE,,P WITH ACUTE,,P WITH DOT ABOVE,,R WITH DOT ABOVE,",
      "R WITH DOT BELOW,,R WITH DOT BELOW AND MACRON,,R WITH LINE BELOW,,S WITH DOT ABOVE,",
      "S WITH DOT BELOW,,S WITH ACUTE AND DOT ABOVE,,S WITH CARON AND DOT ABOVE,",
      "S WITH DOT BELOW AND DOT ABOVE,,T WITH DOT ABOVE,,T WITH DOT BELOW,,T WITH LINE BELOW,",
      "T WITH CIRCUMFLEX BELOW,,U WITH DIAERESIS BELOW,,U WITH TILDE BELOW,",
      "U WITH CIRCUMFLEX BELOW,,U WITH TILDE AND ACUTE,,U WITH MACRON AND DIAERESIS,",
      "V WITH TILDE,,V WITH DOT BELOW,,W WITH GRAVE,,W WITH ACUTE,,W WITH DIAERESIS,",
      "W WITH DOT ABOVE,,W WITH DOT BELOW,,X WITH DOT ABOVE,,X WITH DIAERESIS,,Y WITH DOT ABOVE",
      ",Z WITH CIRCUMFLEX,,Z WITH DOT BELOW,,Z WITH LINE BELOW,H WITH LINE BELOW",
      "T WITH DIAERESIS,W WITH RING ABOVE,Y WITH RING ABOVE,A WITH RIGHT HALF RING",
      "LONG S WITH DOT ABOVE,LONG S WITH DIAGONAL STROKE,LONG S WITH HIGH STROKE,,DELTA,",
      "A WITH DOT BELOW,,A WITH HOOK ABOVE,,A WITH CIRCUMFLEX AND ACUTE,",
      "A WITH CIRCUMFLEX AND GRAVE,,A WITH CIRCUMFLEX AND HOOK ABOVE,",
      "A WITH CIRCUMFLEX AND TILDE,,A WITH CIRCUMFLEX AND DOT BELOW,,A WITH BREVE AND ACUTE,",
      "A WITH BREVE AND GRAVE,,A WITH BREVE AND HOOK ABOVE,,A WITH BREVE AND TILDE,",
      "A WITH BREVE AND DOT BELOW,,E WITH DOT BELOW,,E WITH HOOK ABOVE,,E WITH TILDE,",
      "E WITH CIRCUMFLEX AND ACUTE,,E WITH CIRCUMFLEX AND GRAVE,",
      "E WITH CIRCUMFLEX AND HOOK ABOVE,,E WITH CIRCUMFLEX AND TILDE,",
      "E WITH CIRCUMFLEX AND DOT BELOW,,I WITH HOOK ABOVE,,I WITH DOT BELOW,,O WITH DOT BELOW,",
      "O WITH HOOK ABOVE,,O WITH CIRCUMFLEX AND ACUTE,,O WITH CIRCUMFLEX AND GRAVE,",
      "O WITH CIRCUMFLEX AND HOOK ABOVE,,O WITH CIRCUMFLEX AND TILDE,",
      "O WITH CIRCUMFLEX AND DOT BELOW,,O WITH HORN AND ACUTE,,O WITH HORN AND GRAVE,",
      "O WITH HORN AND HOOK ABOVE,,O WITH HORN AND TILDE,,O WITH HORN AND DOT BELOW,",
      "U WITH DOT BELOW,,U WITH HOOK ABOVE,,U WITH HORN AND ACUTE,,U WITH HORN AND GRAVE,",
      "U WITH HORN AND HOOK ABOVE,,U WITH HORN AND TILDE,,U WITH HORN AND DOT BELOW,",
      "Y WITH GRAVE,,Y WITH DOT BELOW,,Y WITH HOOK ABOVE,,Y WITH TILDE,,MIDDLE-WELSH LL,",
      "MIDDLE-WELSH V,,Y WITH LOOP"]⟩,
    ⟨0x1F00, "GREEK SMALL LETTER ", ["ALPHA WITH PSILI,ALPHA WITH DASIA",
      "ALPHA WITH PSILI AND VARIA,ALPHA WITH DASIA AND VARIA,ALPHA WITH PSILI AND OXIA",
      "ALPHA WITH DASIA AND OXIA,ALPHA WITH PSILI AND PERISPOMENI",
      "ALPHA WITH DASIA AND PERISPOMENI,,,,,,,,,EPSILON WITH PSILI,EPSILON WITH DASIA",
      "EPSILON WITH PSILI AND VARIA,EPSILON WITH DASIA AND VARIA,EPSILON WITH PSILI AND OXIA",
      "EPSILON WITH DASIA AND OXIA,,,,,,,,,,,ETA WITH PSILI,ETA WITH DASIA",
      "ETA WITH PSILI AND VARIA,ETA WITH DASIA AND VARIA,ETA WITH PSILI AND OXIA",
      "ETA WITH DASIA AND OXIA,ETA WITH PSILI AND PERISPOMENI,ETA WITH DASIA AND PERISPOMENI,,,",
      ",,,,,IOTA WITH PSILI,IOTA WITH DASIA,IOTA WITH PSILI AND VARIA,IOTA WITH DASIA AND VARIA",
      "IOTA WITH PSILI AND OXIA,IOTA WITH DASIA AND OXIA,IOTA WITH PSILI AND PERISPOMENI",
      "IOTA WITH DASIA AND PERISPOMENI,,,,,,,,,OMICRON WITH PSILI,OMICRON WITH DASIA",
      "OMICRON WITH PSILI AND VARIA,OMICRON WITH DASIA AND VARIA,OMICRON WITH PSILI AND OXIA",
      "OMICRON WITH DASIA AND OXIA,,,,,,,,,,,UPSILON WITH PSILI,UPSILON WITH DASIA",
      "UPSILON WITH PSILI AND VARIA,UPSILON WITH DASIA AND VARIA,UPSILON WITH PSILI AND OXIA",
      "UPSILON WITH DASIA AND OXIA,UPSILON WITH PSILI AND PERISPOMENI",
      "UPSILON WITH DASIA AND PERISPOMENI,,,,,,,,,,,,,,,,,,,,,,,,,ALPHA WITH VARIA",
      "ALPHA WITH OXIA,EPSILON WITH VARIA,EPSILON WITH OXIA,ETA WITH VARIA,ETA WITH OXIA",
      "IOTA WITH VARIA,IOTA WITH OXIA,OMICRON WITH VARIA,OMICRON WITH OXIA,UPSILON WITH VARIA",
      "UPSILON WITH OXIA,,,,,ALPHA WITH PSILI AND YPOGEGRAMMENI",
      "ALPHA WITH DASIA AND YPOGEGRAMMENI,ALPHA WITH PSILI AND VARIA AND YPOGEGRAMMENI",
      "ALPHA WITH DASIA AND VARIA AND YPOGEGRAMMENI,ALPHA WITH PSILI AND OXIA AND YPOGEGRAMMENI",
      "ALPHA WITH DASIA AND OXIA AND YPOGEGRAMMENI",
      "ALPHA WITH PSILI AND PERISPOMENI AND YPOGEGRAMMENI",
      "ALPHA WITH DASIA AND PERISPOMENI AND YPOGEGRAMMENI,,,,,,,,",
      "ETA WITH PSILI AND YPOGEGRAMMENI,ETA WITH DASIA AND YPOGEGRAMMENI",
      "ETA WITH PSILI AND VARIA AND YPOGEGRAMMENI,ETA WITH DASIA AND VARIA AND YPOGEGRAMMENI",
      "ETA WITH PSILI AND OXIA AND YPOGEGRAMMENI,ETA WITH DASIA AND OXIA AND YPOGEGRAMMENI",
      "ETA WITH PSILI AND PERISPOMENI AND YPOGEGRAMMENI",
      "ETA WITH DASIA AND PERISPOMENI AND YPOGEGRAMMENI,,,,,,,,,,,,,,,,,,,,,,,,",
      "ALPHA WITH VRACHY,ALPHA WITH MACRON,ALPHA WITH VARIA AND YPOGEGRAMMENI",
      "ALPHA WITH YPOGEGRAMMENI,ALPHA WITH OXIA AND YPOGEGRAMMENI,,ALPHA WITH PERISPOMENI",
      "ALPHA WITH PERISPOMENI AND YPOGEGRAMMENI,,,,,,,,,,,ETA WITH VARIA AND YPOGEGRAMMENI",
      "ETA WITH YPOGEGRAMMENI,ETA WITH OXIA AND YPOGEGRAMMENI,,ETA WITH PERISPOMENI",
      "ETA WITH PERISPOMENI AND YPOGEGRAMMENI,,,,,,,,,IOTA WITH VRACHY,IOTA WITH MACRON",
      "IOTA WITH DIALYTIKA AND VARIA,IOTA WITH DIALYTIKA AND OXIA,,,IOTA WITH PERISPOMENI",
      "IOTA WITH DIALYTIKA AND PERISPOMENI,,,,,,,,,UPSILON WITH VRACHY,UPSILON WITH MACRON",
      "UPSILON WITH DIALYTIKA AND VARIA,UPSILON WITH DIALYTIKA AND OXIA,RHO WITH PSILI",
      "RHO WITH DASIA,UPSILON WITH PERISPOMENI,UPSILON WITH DIALYTIKA AND PERISPOMENI,,,,,,,,,,",
      "OMEGA WITH VARIA AND YPOGEGRAMMENI,OMEGA WITH YPOGEGRAMMENI",
      "OMEGA WITH OXIA AND YPOGEGRAMMENI,,OMEGA WITH PERISPOMENI",
      "OMEGA WITH PERISPOMENI AND YPOGEGRAMMENI"]⟩,
    ⟨0x1F08, "GREEK CAPITAL LETTER ", ["ALPHA WITH PSILI,ALPHA WITH DASIA",
      "ALPHA WITH PSILI AND VARIA,ALPHA WITH DASIA AND VARIA,ALPHA WITH PSILI AND OXIA",
      "ALPHA WITH DASIA AND OXIA,ALPHA WITH PSILI AND PERISPOMENI",
      "ALPHA WITH DASIA AND PERISPOMENI,,,,,,,,,EPSILON WITH PSILI,EPSILON WITH DASIA",
      "EPSILON WITH PSILI AND VARIA,EPSILON WITH DASIA AND VARIA,EPSILON WITH PSILI AND OXIA",
      "EPSILON WITH DASIA AND OXIA,,,,,,,,,,,ETA WITH PSILI,ETA WITH DASIA",
      "ETA WITH PSILI AND VARIA,ETA WITH DASIA AND VARIA,ETA WITH PSILI AND OXIA",
      "ETA WITH DASIA AND OXIA,ETA WITH PSILI AND PERISPOMENI,ETA WITH DASIA AND PERISPOMENI,,,",
      ",,,,,IOTA WITH PSILI,IOTA WITH DASIA,IOTA WITH PSILI AND VARIA,IOTA WITH DASIA AND VARIA",
      "IOTA WITH PSILI AND OXIA,IOTA WITH DASIA AND OXIA,IOTA WITH PSILI AND PERISPOMENI",
      "IOTA WITH DASIA AND PERISPOMENI,,,,,,,,,OMICRON WITH PSILI,OMICRON WITH DASIA",
      "OMICRON WITH PSILI AND VARIA,OMICRON WITH DASIA AND VARIA,OMICRON WITH PSILI AND OXIA",
      "OMICRON WITH DASIA AND OXIA,,,,,,,,,,,,UPSILON WITH DASIA,,UPSILON WITH DASIA AND VARIA,",
      "UPSILON WITH DASIA AND OXIA,,UPSILON WITH DASIA AND PERISPOMENI,,,,,,,,,OMEGA WITH PSILI",
      "OMEGA WITH DASIA,OMEGA WITH PSILI AND VARIA,OMEGA WITH DASIA AND VARIA",
      "OMEGA WITH PSILI AND OXIA,OMEGA WITH DASIA AND OXIA,OMEGA WITH PSILI AND PERISPOMENI",
      "OMEGA WITH DASIA AND PERISPOMENI,,,,,,,,,,,,,,,,,,,,,,,,",
      "ALPHA WITH PSILI AND PROSGEGRAMMENI,ALPHA WITH DASIA AND PROSGEGRAMMENI",
      "ALPHA WITH PSILI AND VARIA AND PROSGEGRAMMENI",
      "ALPHA WITH DASIA AND VARIA AND PROSGEGRAMMENI",
      "ALPHA WITH PSILI AND OXIA AND PROSGEGRAMMENI",
      "ALPHA WITH DASIA AND OXIA AND PROSGEGRAMMENI",
      "ALPHA WITH PSILI AND PERISPOMENI AND PROSGEGRAMMENI",
      "ALPHA WITH DASIA AND PERISPOMENI AND PROSGEGRAMMENI,,,,,,,,",
      "ETA WITH PSILI AND PROSGEGRAMMENI,ETA WITH DASIA AND PROSGEGRAMMENI",
      "ETA WITH PSILI AND VARIA AND PROSGEGRAMMENI,ETA WITH DASIA AND VARIA AND PROSGEGRAMMENI",
      "ETA WITH PSILI AND OXIA AND PROSGEGRAMMENI,ETA WITH DASIA AND OXIA AND PROSGEGRAMMENI",
      "ETA WITH PSILI AND PERISPOMENI AND PROSGEGRAMMENI",
      "ETA WITH DASIA AND PERISPOMENI AND PROSGEGRAMMENI,,,,,,,,",
      "OMEGA WITH PSILI AND PROSGEGRAMMENI,OMEGA WITH DASIA AND PROSGEGRAMMENI",
      "OMEGA WITH PSILI AND VARIA AND PROSGEGRAMMENI",
      "OMEGA WITH DASIA AND VARIA AND PROSGEGRAMMENI",
      "OMEGA WITH PSILI AND OXIA AND PROSGEGRAMMENI",
      "OMEGA WITH DASIA AND OXIA AND PROSGEGRAMMENI",
      "OMEGA WITH PSILI AND PERISPOMENI AND PROSGEGRAMMENI",
      "OMEGA WITH DASIA AND PERISPOMENI AND PROSGEGRAMMENI,,,,,,,,,ALPHA WITH VRACHY",
      "ALPHA WITH MACRON,ALPHA WITH VARIA,ALPHA WITH OXIA,ALPHA WITH PROSGEGRAMMENI,,,,,,,,,,,",
      "EPSILON WITH VARIA,EPSILON WITH OXIA,ETA WITH VARIA,ETA WITH OXIA",
      "ETA WITH PROSGEGRAMMENI,,,,,,,,,,,,IOTA WITH VRACHY,IOTA WITH MACRON,IOTA WITH VARIA",
      "IOTA WITH OXIA,,,,,,,,,,,,,UPSILON WITH VRACHY,UPSILON WITH MACRON,UPSILON WITH VARIA",
      "UPSILON WITH OXIA,RHO WITH DASIA,,,,,,,,,,,,OMICRON WITH VARIA,OMICRON WITH OXIA",
      "OMEGA WITH VARIA,OMEGA WITH OXIA,OMEGA WITH PROSGEGRAMMENI"]⟩,
    ⟨0x1F60, "GREEK SMALL LETTER OMEGA ", ["WITH PSILI,WITH DASIA,WITH PSILI AND VARIA",
      "WITH DASIA AND VARIA,WITH PSILI AND OXIA,WITH DASIA AND OXIA,WITH PSILI AND PERISPOMENI",
      "WITH DASIA AND PERISPOMENI,,,,,,,,,,,,,,,,,,,,,WITH VARIA,WITH OXIA,,,,,,,,,,,,,,,,,,,,,",
      ",,,,,,,,,,,,,WITH PSILI AND YPOGEGRAMMENI,WITH DASIA AND YPOGEGRAMMENI",
      "WITH PSILI AND VARIA AND YPOGEGRAMMENI,WITH DASIA AND VARIA AND YPOGEGRAMMENI",
      "WITH PSILI AND OXIA AND YPOGEGRAMMENI,WITH DASIA AND OXIA AND YPOGEGRAMMENI",
      "WITH PSILI AND PERISPOMENI AND YPOGEGRAMMENI",
      "WITH DASIA AND PERISPOMENI AND YPOGEGRAMMENI"]⟩,
    ⟨0x1FBD, "GREEK ", ["KORONIS,PROSGEGRAMMENI,PSILI,PERISPOMENI,DIALYTIKA AND PERISPOMENI,,,,",
      ",,,,,,,PSILI AND VARIA,PSILI AND OXIA,PSILI AND PERISPOMENI,,,,,,,,,,,,,,DASIA AND VARIA",
      "DASIA AND OXIA,DASIA AND PERISPOMENI,,,,,,,,,,,,,,DIALYTIKA AND VARIA,DIALYTIKA AND OXIA",
      "VARIA,,,,,,,,,,,,,,OXIA,DASIA"]⟩]

end RelayClient.CharacterName
