import RelayClient.NamedRun

/-! # Names of the characters U+1D400 to U+1EFFF -/
namespace RelayClient.CharacterName

def from1D400 : List NamedRun :=
  [⟨0x1D400, "MATHEMATICAL BOLD CAPITAL ", ["A,B,C,D,E,F,G,H,I,J,K,L,M,N,O,P,Q,R,S,T,U,V,W,X,Y",
      "Z"]⟩,
    ⟨0x1D41A, "MATHEMATICAL BOLD SMALL ", ["A,B,C,D,E,F,G,H,I,J,K,L,M,N,O,P,Q,R,S,T,U,V,W,X,Y,Z"]⟩,
    ⟨0x1D434, "MATHEMATICAL ITALIC CAPITAL ", ["A,B,C,D,E,F,G,H,I,J,K,L,M,N,O,P,Q,R,S,T,U,V,W,X",
      "Y,Z"]⟩,
    ⟨0x1D44E, "MATHEMATICAL ITALIC SMALL ", ["A,B,C,D,E,F,G,,I,J,K,L,M,N,O,P,Q,R,S,T,U,V,W,X,Y",
      "Z"]⟩,
    ⟨0x1D468, "MATHEMATICAL BOLD ITALIC CAPITAL ", ["A,B,C,D,E,F,G,H,I,J,K,L,M,N,O,P,Q,R,S,T,U",
      "V,W,X,Y,Z"]⟩,
    ⟨0x1D482, "MATHEMATICAL BOLD ITALIC SMALL ", ["A,B,C,D,E,F,G,H,I,J,K,L,M,N,O,P,Q,R,S,T,U,V",
      "W,X,Y,Z"]⟩,
    ⟨0x1D49C, "MATHEMATICAL SCRIPT CAPITAL ", ["A,,C,D,,,G,,,J,K,,,N,O,P,Q,,S,T,U,V,W,X,Y,Z"]⟩,
    ⟨0x1D4B6, "MATHEMATICAL SCRIPT SMALL ", ["A,B,C,D,,F,,H,I,J,K,L,M,N,,P,Q,R,S,T,U,V,W,X,Y,Z"]⟩,
    ⟨0x1D4D0, "MATHEMATICAL BOLD SCRIPT CAPITAL ", ["A,B,C,D,E,F,G,H,I,J,K,L,M,N,O,P,Q,R,S,T,U",
      "V,W,X,Y,Z"]⟩,
    ⟨0x1D4EA, "MATHEMATICAL BOLD SCRIPT SMALL ", ["A,B,C,D,E,F,G,H,I,J,K,L,M,N,O,P,Q,R,S,T,U,V",
      "W,X,Y,Z"]⟩,
    ⟨0x1D504, "MATHEMATICAL FRAKTUR CAPITAL ", ["A,B,,D,E,F,G,,,J,K,L,M,N,O,P,Q,,S,T,U,V,W,X,Y"]⟩,
    ⟨0x1D51E, "MATHEMATICAL FRAKTUR SMALL ", ["A,B,C,D,E,F,G,H,I,J,K,L,M,N,O,P,Q,R,S,T,U,V,W,X",
      "Y,Z"]⟩,
    ⟨0x1D538, "MATHEMATICAL DOUBLE-STRUCK CAPITAL ", ["A,B,,D,E,F,G,,I,J,K,L,M,,O,,,,S,T,U,V,W",
      "X,Y"]⟩,
    ⟨0x1D552, "MATHEMATICAL DOUBLE-STRUCK SMALL ", ["A,B,C,D,E,F,G,H,I,J,K,L,M,N,O,P,Q,R,S,T,U",
      "V,W,X,Y,Z"]⟩,
    ⟨0x1D56C, "MATHEMATICAL BOLD FRAKTUR CAPITAL ", ["A,B,C,D,E,F,G,H,I,J,K,L,M,N,O,P,Q,R,S,T,U",
      "V,W,X,Y,Z"]⟩,
    ⟨0x1D586, "MATHEMATICAL BOLD FRAKTUR SMALL ", ["A,B,C,D,E,F,G,H,I,J,K,L,M,N,O,P,Q,R,S,T,U,V",
      "W,X,Y,Z"]⟩,
    ⟨0x1D5A0, "MATHEMATICAL SANS-SERIF CAPITAL ", ["A,B,C,D,E,F,G,H,I,J,K,L,M,N,O,P,Q,R,S,T,U,V",
      "W,X,Y,Z"]⟩,
    ⟨0x1D5BA, "MATHEMATICAL SANS-SERIF SMALL ", ["A,B,C,D,E,F,G,H,I,J,K,L,M,N,O,P,Q,R,S,T,U,V,W",
      "X,Y,Z"]⟩,
    ⟨0x1D5D4, "MATHEMATICAL SANS-SERIF BOLD CAPITAL ", ["A,B,C,D,E,F,G,H,I,J,K,L,M,N,O,P,Q,R,S",
      "T,U,V,W,X,Y,Z"]⟩,
    ⟨0x1D5EE, "MATHEMATICAL SANS-SERIF BOLD SMALL ", ["A,B,C,D,E,F,G,H,I,J,K,L,M,N,O,P,Q,R,S,T",
      "U,V,W,X,Y,Z"]⟩,
    ⟨0x1D608, "MATHEMATICAL SANS-SERIF ITALIC CAPITAL ", ["A,B,C,D,E,F,G,H,I,J,K,L,M,N,O,P,Q,R",
      "S,T,U,V,W,X,Y,Z"]⟩,
    ⟨0x1D622, "MATHEMATICAL SANS-SERIF ITALIC SMALL ", ["A,B,C,D,E,F,G,H,I,J,K,L,M,N,O,P,Q,R,S",
      "T,U,V,W,X,Y,Z"]⟩,
    ⟨0x1D63C, "MATHEMATICAL SANS-SERIF BOLD ITALIC CAPITAL ", ["A,B,C,D,E,F,G,H,I,J,K,L,M,N,O,P",
      "Q,R,S,T,U,V,W,X,Y,Z"]⟩,
    ⟨0x1D656, "MATHEMATICAL SANS-SERIF BOLD ITALIC SMALL ", ["A,B,C,D,E,F,G,H,I,J,K,L,M,N,O,P,Q",
      "R,S,T,U,V,W,X,Y,Z"]⟩,
    ⟨0x1D670, "MATHEMATICAL MONOSPACE CAPITAL ", ["A,B,C,D,E,F,G,H,I,J,K,L,M,N,O,P,Q,R,S,T,U,V",
      "W,X,Y,Z"]⟩,
    ⟨0x1D68A, "MATHEMATICAL MONOSPACE SMALL ", ["A,B,C,D,E,F,G,H,I,J,K,L,M,N,O,P,Q,R,S,T,U,V,W",
      "X,Y,Z"]⟩,
    ⟨0x1D6A4, "MATHEMATICAL ", ["ITALIC SMALL DOTLESS I,ITALIC SMALL DOTLESS J,,,,,,,,,,,,,,,,,",
      ",,,,,,,,,,BOLD NABLA,,,,,,,,,,,,,,,,,,,,,,,,,,BOLD PARTIAL DIFFERENTIAL",
      "BOLD EPSILON SYMBOL,BOLD THETA SYMBOL,BOLD KAPPA SYMBOL,BOLD PHI SYMBOL,BOLD RHO SYMBOL",
      "BOLD PI SYMBOL,,,,,,,,,,,,,,,,,,,,,,,,,,ITALIC NABLA,,,,,,,,,,,,,,,,,,,,,,,,,",
      "ITALIC PARTIAL DIFFERENTIAL,ITALIC EPSILON SYMBOL,ITALIC THETA SYMBOL",
      "ITALIC KAPPA SYMBOL,ITALIC PHI SYMBOL,ITALIC RHO SYMBOL,ITALIC PI SYMBOL,,,,,,,,,,,,,,,,",
      ",,,,,,,,,BOLD ITALIC NABLA,,,,,,,,,,,,,,,,,,,,,,,,,,BOLD ITALIC PARTIAL DIFFERENTIAL",
      "BOLD ITALIC EPSILON SYMBOL,BOLD ITALIC THETA SYMBOL,BOLD ITALIC KAPPA SYMBOL",
      "BOLD ITALIC PHI SYMBOL,BOLD ITALIC RHO SYMBOL,BOLD ITALIC PI SYMBOL,,,,,,,,,,,,,,,,,,,,,",
      ",,,,SANS-SERIF BOLD NABLA,,,,,,,,,,,,,,,,,,,,,,,,,,SANS-SERIF BOLD PARTIAL DIFFERENTIAL",
      "SANS-SERIF BOLD EPSILON SYMBOL,SANS-SERIF BOLD THETA SYMBOL,SANS-SERIF BOLD KAPPA SYMBOL",
      "SANS-SERIF BOLD PHI SYMBOL,SANS-SERIF BOLD RHO SYMBOL,SANS-SERIF BOLD PI SYMBOL,,,,,,,,,",
      ",,,,,,,,,,,,,,,,SANS-SERIF BOLD ITALIC NABLA,,,,,,,,,,,,,,,,,,,,,,,,,",
      "SANS-SERIF BOLD ITALIC PARTIAL DIFFERENTIAL,SANS-SERIF BOLD ITALIC EPSILON SYMBOL",
      "SANS-SERIF BOLD ITALIC THETA SYMBOL,SANS-SERIF BOLD ITALIC KAPPA SYMBOL",
      "SANS-SERIF BOLD ITALIC PHI SYMBOL,SANS-SERIF BOLD ITALIC RHO SYMBOL",
      "SANS-SERIF BOLD ITALIC PI SYMBOL,BOLD CAPITAL DIGAMMA,BOLD SMALL DIGAMMA,,,,,,,,,,,,,,,,",
      ",,,,,,,,,,,,,,,,SANS-SERIF BOLD DIGIT ZERO,SANS-SERIF BOLD DIGIT ONE",
      "SANS-SERIF BOLD DIGIT TWO,SANS-SERIF BOLD DIGIT THREE,SANS-SERIF BOLD DIGIT FOUR",
      "SANS-SERIF BOLD DIGIT FIVE,SANS-SERIF BOLD DIGIT SIX,SANS-SERIF BOLD DIGIT SEVEN",
      "SANS-SERIF BOLD DIGIT EIGHT,SANS-SERIF BOLD DIGIT NINE"]⟩,
    ⟨0x1D6A8, "MATHEMATICAL BOLD CAPITAL ", ["ALPHA,BETA,GAMMA,DELTA,EPSILON,ZETA,ETA,THETA",
      "IOTA,KAPPA,LAMDA,MU,NU,XI,OMICRON,PI,RHO,THETA SYMBOL,SIGMA,TAU,UPSILON,PHI,CHI,PSI",
      "OMEGA"]⟩,
    ⟨0x1D6C2, "MATHEMATICAL BOLD SMALL ", ["ALPHA,BETA,GAMMA,DELTA,EPSILON,ZETA,ETA,THETA,IOTA",
      "KAPPA,LAMDA,MU,NU,XI,OMICRON,PI,RHO,FINAL SIGMA,SIGMA,TAU,UPSILON,PHI,CHI,PSI,OMEGA"]⟩,
    ⟨0x1D6E2, "MATHEMATICAL ITALIC CAPITAL ", ["ALPHA,BETA,GAMMA,DELTA,EPSILON,ZETA,ETA,THETA",
      "IOTA,KAPPA,LAMDA,MU,NU,XI,OMICRON,PI,RHO,THETA SYMBOL,SIGMA,TAU,UPSILON,PHI,CHI,PSI",
      "OMEGA"]⟩,
    ⟨0x1D6FC, "MATHEMATICAL ITALIC SMALL ", ["ALPHA,BETA,GAMMA,DELTA,EPSILON,ZETA,ETA,THETA",
      "IOTA,KAPPA,LAMDA,MU,NU,XI,OMICRON,PI,RHO,FINAL SIGMA,SIGMA,TAU,UPSILON,PHI,CHI,PSI,OMEGA"]⟩,
    ⟨0x1D71C, "MATHEMATICAL BOLD ITALIC CAPITAL ", ["ALPHA,BETA,GAMMA,DELTA,EPSILON,ZETA,ETA",
      "THETA,IOTA,KAPPA,LAMDA,MU,NU,XI,OMICRON,PI,RHO,THETA SYMBOL,SIGMA,TAU,UPSILON,PHI,CHI",
      "PSI,OMEGA"]⟩,
    ⟨0x1D736, "MATHEMATICAL BOLD ITALIC SMALL ", ["ALPHA,BETA,GAMMA,DELTA,EPSILON,ZETA,ETA",
      "THETA,IOTA,KAPPA,LAMDA,MU,NU,XI,OMICRON,PI,RHO,FINAL SIGMA,SIGMA,TAU,UPSILON,PHI,CHI,PSI",
      "OMEGA"]⟩,
    ⟨0x1D756, "MATHEMATICAL SANS-SERIF BOLD CAPITAL ", ["ALPHA,BETA,GAMMA,DELTA,EPSILON,ZETA",
      "ETA,THETA,IOTA,KAPPA,LAMDA,MU,NU,XI,OMICRON,PI,RHO,THETA SYMBOL,SIGMA,TAU,UPSILON,PHI",
      "CHI,PSI,OMEGA"]⟩,
    ⟨0x1D770, "MATHEMATICAL SANS-SERIF BOLD SMALL ", ["ALPHA,BETA,GAMMA,DELTA,EPSILON,ZETA,ETA",
      "THETA,IOTA,KAPPA,LAMDA,MU,NU,XI,OMICRON,PI,RHO,FINAL SIGMA,SIGMA,TAU,UPSILON,PHI,CHI,PSI",
      "OMEGA"]⟩,
    ⟨0x1D790, "MATHEMATICAL SANS-SERIF BOLD ITALIC CAPITAL ", ["ALPHA,BETA,GAMMA,DELTA,EPSILON",
      "ZETA,ETA,THETA,IOTA,KAPPA,LAMDA,MU,NU,XI,OMICRON,PI,RHO,THETA SYMBOL,SIGMA,TAU,UPSILON",
      "PHI,CHI,PSI,OMEGA"]⟩,
    ⟨0x1D7AA, "MATHEMATICAL SANS-SERIF BOLD ITALIC SMALL ", ["ALPHA,BETA,GAMMA,DELTA,EPSILON",
      "ZETA,ETA,THETA,IOTA,KAPPA,LAMDA,MU,NU,XI,OMICRON,PI,RHO,FINAL SIGMA,SIGMA,TAU,UPSILON",
      "PHI,CHI,PSI,OMEGA"]⟩,
    ⟨0x1D7CE, "MATHEMATICAL BOLD DIGIT ", ["ZERO,ONE,TWO,THREE,FOUR,FIVE,SIX,SEVEN,EIGHT,NINE"]⟩,
    ⟨0x1D7D8, "MATHEMATICAL DOUBLE-STRUCK DIGIT ", ["ZERO,ONE,TWO,THREE,FOUR,FIVE,SIX,SEVEN",
      "EIGHT,NINE"]⟩,
    ⟨0x1D7E2, "MATHEMATICAL SANS-SERIF DIGIT ", ["ZERO,ONE,TWO,THREE,FOUR,FIVE,SIX,SEVEN,EIGHT",
      "NINE"]⟩,
    ⟨0x1D7F6, "MATHEMATICAL MONOSPACE DIGIT ", ["ZERO,ONE,TWO,THREE,FOUR,FIVE,SIX,SEVEN,EIGHT",
      "NINE"]⟩,
    ⟨0x1D800, "SIGNWRITING HAND-", ["FIST INDEX,CIRCLE INDEX,CUP INDEX,OVAL INDEX,HINGE INDEX",
      "ANGLE INDEX,,CIRCLE INDEX BENT,FIST THUMB UNDER INDEX BENT,,,,,CIRCLE INDEX HINGE,",
      "CIRCLE INDEX MIDDLE,,,,,,,,,,,,CIRCLE INDEX MIDDLE CROSSED,FIST MIDDLE BENT OVER INDEX,,",
      "CIRCLE INDEX MIDDLE THUMB,,,,,,,,,,,,,FIST THUMB BETWEEN INDEX MIDDLE STRAIGHT,,,",
      "FIST MIDDLE THUMB HOOKED INDEX UP,,,,,,FIST MIDDLE THUMB CUPPED INDEX UP,",
      "FIST MIDDLE THUMB CIRCLED INDEX UP,FIST MIDDLE THUMB CIRCLED INDEX HINGED,,,,,,",
      "FIST MIDDLE THUMB ANGLED OUT INDEX UP,FIST MIDDLE THUMB ANGLED OUT INDEX CROSSED",
      "FIST MIDDLE THUMB ANGLED INDEX UP,,,,,,,CLAW FOUR FINGERS CONJOINED",
      "FIST FOUR FINGERS CONJOINED BENT,HINGE FOUR FINGERS CONJOINED,,,,,,,",
      "CUP FIVE FINGERS SPREAD,CUP FIVE FINGERS SPREAD OPEN,HINGE FIVE FINGERS SPREAD OPEN",
      "OVAL FIVE FINGERS SPREAD,,,,FLAT,,,,,,,,,,,,CLAW,CLAW THUMB SIDE,CLAW NO THUMB",
      "CLAW THUMB FORWARD,HOOK CURLICUE,HOOK,CUP OPEN,CUP,CUP OPEN THUMB SIDE,CUP THUMB SIDE",
      "CUP OPEN NO THUMB,CUP NO THUMB,CUP OPEN THUMB FORWARD,CUP THUMB FORWARD,CURLICUE OPEN",
      "CURLICUE,CIRCLE,OVAL,OVAL THUMB SIDE,OVAL NO THUMB,OVAL THUMB FORWARD,HINGE OPEN",
      "HINGE OPEN THUMB FORWARD,HINGE,HINGE SMALL,HINGE OPEN THUMB SIDE,HINGE THUMB SIDE",
      "HINGE OPEN NO THUMB,HINGE NO THUMB,HINGE THUMB SIDE TOUCHING INDEX",
      "HINGE THUMB BETWEEN MIDDLE RING,ANGLE,FIST INDEX MIDDLE RING,CIRCLE INDEX MIDDLE RING",
      "HINGE INDEX MIDDLE RING,ANGLE INDEX MIDDLE RING,HINGE LITTLE,FIST INDEX MIDDLE RING BENT",
      "FIST INDEX MIDDLE RING CONJOINED,HINGE INDEX MIDDLE RING CONJOINED,,,,,",
      "FIST THUMB UNDER LITTLE UP,CIRCLE LITTLE UP,OVAL LITTLE UP,ANGLE LITTLE UP,,,,",
      "HINGE LITTLE THUMB,,HINGE LITTLE INDEX THUMB,ANGLE LITTLE INDEX THUMB INDEX THUMB OUT",
      "ANGLE LITTLE INDEX THUMB INDEX THUMB,,CIRCLE LITTLE INDEX,HINGE LITTLE INDEX",
      "ANGLE LITTLE INDEX,FIST INDEX MIDDLE LITTLE,CIRCLE INDEX MIDDLE LITTLE",
      "HINGE INDEX MIDDLE LITTLE,HINGE RING,ANGLE INDEX MIDDLE LITTLE",
      "FIST INDEX MIDDLE CROSS LITTLE,CIRCLE INDEX MIDDLE CROSS LITTLE,FIST RING DOWN",
      "HINGE RING DOWN INDEX THUMB HOOK MIDDLE,ANGLE RING DOWN MIDDLE THUMB INDEX CROSS",
      "FIST RING UP,FIST RING RAISED KNUCKLE,FIST RING LITTLE,CIRCLE RING LITTLE",
      "OVAL RING LITTLE,ANGLE RING LITTLE,FIST RING MIDDLE,FIST RING MIDDLE CONJOINED",
      "FIST RING MIDDLE RAISED KNUCKLES,FIST RING INDEX,FIST RING THUMB,HOOK RING THUMB",
      "FIST INDEX RING LITTLE,CIRCLE INDEX RING LITTLE,CURLICUE INDEX RING LITTLE ON",
      "HOOK INDEX RING LITTLE OUT,HOOK INDEX RING LITTLE IN,HOOK INDEX RING LITTLE UNDER",
      "CUP INDEX RING LITTLE,HINGE INDEX RING LITTLE,ANGLE INDEX RING LITTLE OUT",
      "ANGLE INDEX RING LITTLE,FIST MIDDLE DOWN,HINGE MIDDLE,FIST MIDDLE UP,CIRCLE MIDDLE UP",
      "FIST MIDDLE RAISED KNUCKLE,FIST MIDDLE UP THUMB SIDE,HOOK MIDDLE THUMB",
      "FIST MIDDLE THUMB LITTLE,FIST MIDDLE LITTLE,FIST MIDDLE RING LITTLE",
      "CIRCLE MIDDLE RING LITTLE,CURLICUE MIDDLE RING LITTLE ON,CUP MIDDLE RING LITTLE",
      "HINGE MIDDLE RING LITTLE,ANGLE MIDDLE RING LITTLE OUT,ANGLE MIDDLE RING LITTLE IN",
      "ANGLE MIDDLE RING LITTLE,CIRCLE MIDDLE RING LITTLE BENT",
      "CLAW MIDDLE RING LITTLE CONJOINED,CLAW MIDDLE RING LITTLE CONJOINED SIDE",
      "HOOK MIDDLE RING LITTLE CONJOINED OUT,HOOK MIDDLE RING LITTLE CONJOINED IN",
      "HOOK MIDDLE RING LITTLE CONJOINED,HINGE INDEX HINGED,,HINGE INDEX THUMB SIDE,,,,,,,,,,,",
      "CLAW INDEX THUMB CURVE THUMB INSIDE,,,CUP INDEX THUMB,CUP INDEX THUMB OPEN",
      "HINGE INDEX THUMB OPEN,HINGE INDEX THUMB LARGE,HINGE INDEX THUMB,HINGE INDEX THUMB SMALL",
      "ANGLE INDEX THUMB OUT,ANGLE INDEX THUMB IN,ANGLE INDEX THUMB,FIST THUMB,,,,,,,,,,,,,",
      "FIST,FIST HEEL"]⟩,
    ⟨0x1D806, "SIGNWRITING HAND-FIST INDEX ", ["BENT,,,RAISED KNUCKLE,CUPPED,HINGED,HINGED LOW,",
      "MIDDLE,,,,,UP MIDDLE HINGED,HINGED MIDDLE UP,,,,,,,,,BENT OVER MIDDLE,,,,,,",
      "UP MIDDLE HINGED THUMB SIDE,UP MIDDLE HINGED THUMB CONJOINED,HINGED MIDDLE UP THUMB SIDE",
      ",,,,,,,,,,THUMB HOOKED MIDDLE UP,,,,,,THUMB CUPPED MIDDLE UP,,",
      "THUMB ANGLED OUT MIDDLE UP,THUMB ANGLED IN MIDDLE UP,THUMB CIRCLED MIDDLE UP,,,,,,",
      "THUMB HOOKED MIDDLE HINGED"]⟩,
    ⟨0x1D810, "SIGNWRITING HAND-FIST INDEX MIDDLE ", ["BENT,RAISED KNUCKLES,HINGED,,,CONJOINED,",
      ",,,CROSSED,,,,THUMB,,STRAIGHT THUMB BENT,BENT THUMB STRAIGHT,THUMB BENT",
      "HINGED SPREAD THUMB SIDE,,,,UP SPREAD THUMB FORWARD,THUMB CUPPED,THUMB CIRCLED",
      "THUMB HOOKED,THUMB HINGED,,,,,,,,CROSSED THUMB SIDE,,,,,,,,,,THUMB CONJOINED HINGED",
      "THUMB ANGLED OUT,THUMB ANGLED"]⟩,
    ⟨0x1D816, "SIGNWRITING HAND-FIST INDEX MIDDLE CONJOINED ", ["INDEX BENT,MIDDLE BENT,CUPPED",
      "HINGED,,,,,,,,,,,,,,,,,,,,THUMB SIDE,THUMB SIDE CONJOINED,THUMB SIDE BENT,,",
      "HINGED THUMB SIDE,,THUMB FORWARD,CUPPED THUMB FORWARD"]⟩,
    ⟨0x1D844, "SIGNWRITING HAND-FLAT ", ["FOUR FINGERS,FOUR FINGERS BENT,FOUR FINGERS HINGED",
      "FOUR FINGERS CONJOINED,FOUR FINGERS CONJOINED SPLIT,,,,FIVE FINGERS SPREAD",
      "HEEL FIVE FINGERS SPREAD,FIVE FINGERS SPREAD FOUR BENT",
      "HEEL FIVE FINGERS SPREAD FOUR BENT,FIVE FINGERS SPREAD BENT",
      "HEEL FIVE FINGERS SPREAD BENT,FIVE FINGERS SPREAD THUMB FORWARD,,,,",
      "FIVE FINGERS SPREAD HINGED,FIVE FINGERS SPREAD HINGED THUMB SIDE",
      "FIVE FINGERS SPREAD HINGED NO THUMB,,BETWEEN PALM FACINGS,HEEL,THUMB SIDE",
      "HEEL THUMB SIDE,THUMB BENT,THUMB FORWARD,SPLIT INDEX THUMB SIDE,SPLIT CENTRE",
      "SPLIT CENTRE THUMB SIDE,SPLIT CENTRE THUMB SIDE BENT,SPLIT LITTLE"]⟩,
    ⟨0x1D88E, "SIGNWRITING HAND-FIST LITTLE ", ["DOWN,DOWN RIPPLE STRAIGHT,DOWN RIPPLE CURVED",
      "DOWN OTHERS CIRCLED,UP,,,,,RAISED KNUCKLE,BENT,TOUCHES THUMB,THUMB,,INDEX THUMB,,,,INDEX"]⟩,
    ⟨0x1D8DC, "SIGNWRITING HAND-FIST INDEX THUMB ", ["SIDE,,SIDE THUMB DIAGONAL",
      "SIDE THUMB CONJOINED,SIDE THUMB BENT,SIDE INDEX BENT,SIDE BOTH BENT,SIDE INDEX HINGE",
      "FORWARD INDEX STRAIGHT,FORWARD INDEX BENT,HOOK,CURLICUE,CURVE THUMB INSIDE,",
      "CURVE THUMB UNDER,CIRCLE"]⟩,
    ⟨0x1D8F6, "SIGNWRITING HAND-FIST THUMB ", ["HEEL,SIDE DIAGONAL,SIDE CONJOINED,SIDE BENT",
      "FORWARD,BETWEEN INDEX MIDDLE,BETWEEN MIDDLE RING,BETWEEN RING LITTLE,UNDER TWO FINGERS",
      "OVER TWO FINGERS,UNDER THREE FINGERS,UNDER FOUR FINGERS,OVER FOUR RAISED KNUCKLES"]⟩,
    ⟨0x1D905, "SIGNWRITING ", ["TOUCH SINGLE,TOUCH MULTIPLE,TOUCH BETWEEN,GRASP SINGLE",
      "GRASP MULTIPLE,GRASP BETWEEN,STRIKE SINGLE,STRIKE MULTIPLE,STRIKE BETWEEN,BRUSH SINGLE",
      "BRUSH MULTIPLE,BRUSH BETWEEN,RUB SINGLE,RUB MULTIPLE,RUB BETWEEN,SURFACE SYMBOLS",
      "SURFACE BETWEEN,SQUEEZE LARGE SINGLE,SQUEEZE SMALL SINGLE,SQUEEZE LARGE MULTIPLE",
      "SQUEEZE SMALL MULTIPLE,SQUEEZE SEQUENTIAL,FLICK LARGE SINGLE,FLICK SMALL SINGLE",
      "FLICK LARGE MULTIPLE,FLICK SMALL MULTIPLE,FLICK SEQUENTIAL,SQUEEZE FLICK ALTERNATING"]⟩,
    ⟨0x1D921, "SIGNWRITING MOVEMENT-", ["HINGE UP DOWN LARGE,HINGE UP DOWN SMALL",
      "HINGE UP SEQUENTIAL,HINGE DOWN SEQUENTIAL,HINGE UP DOWN ALTERNATING LARGE",
      "HINGE UP DOWN ALTERNATING SMALL,HINGE SIDE TO SIDE SCISSORS,,FLOORPLANE FINGER CONTACT"]⟩,
    ⟨0x1D928, "SIGNWRITING MOVEMENT-WALLPLANE ", ["FINGER CONTACT,,SINGLE STRAIGHT SMALL",
      "SINGLE STRAIGHT MEDIUM,SINGLE STRAIGHT LARGE,SINGLE STRAIGHT LARGEST,SINGLE WRIST FLEX",
      "DOUBLE STRAIGHT,DOUBLE WRIST FLEX,DOUBLE ALTERNATING,DOUBLE ALTERNATING WRIST FLEX,CROSS",
      "TRIPLE STRAIGHT MOVEMENT,TRIPLE WRIST FLEX,TRIPLE ALTERNATING",
      "TRIPLE ALTERNATING WRIST FLEX,BEND SMALL,BEND MEDIUM,BEND LARGE,CORNER SMALL",
      "CORNER MEDIUM,CORNER LARGE,CORNER ROTATION,CHECK SMALL,CHECK MEDIUM,CHECK LARGE",
      "BOX SMALL,BOX MEDIUM,BOX LARGE,ZIGZAG SMALL,ZIGZAG MEDIUM,ZIGZAG LARGE,PEAKS SMALL",
      "PEAKS MEDIUM,PEAKS LARGE"]⟩,
    ⟨0x1D94B, "SIGNWRITING TRAVEL-WALLPLANE ", ["ROTATION-WALLPLANE SINGLE",
      "ROTATION-WALLPLANE DOUBLE,ROTATION-WALLPLANE ALTERNATING,ROTATION-FLOORPLANE SINGLE",
      "ROTATION-FLOORPLANE DOUBLE,ROTATION-FLOORPLANE ALTERNATING,SHAKING,ARM SPIRAL SINGLE",
      "ARM SPIRAL DOUBLE,ARM SPIRAL TRIPLE"]⟩,
    ⟨0x1D955, "SIGNWRITING MOVEMENT-DIAGONAL ", ["AWAY SMALL,AWAY MEDIUM,AWAY LARGE",
      "AWAY LARGEST,TOWARDS SMALL,TOWARDS MEDIUM,TOWARDS LARGE,TOWARDS LARGEST",
      "BETWEEN AWAY SMALL,BETWEEN AWAY MEDIUM,BETWEEN AWAY LARGE,BETWEEN AWAY LARGEST",
      "BETWEEN TOWARDS SMALL,BETWEEN TOWARDS MEDIUM,BETWEEN TOWARDS LARGE",
      "BETWEEN TOWARDS LARGEST"]⟩,
    ⟨0x1D965, "SIGNWRITING MOVEMENT-FLOORPLANE ", ["SINGLE STRAIGHT SMALL",
      "SINGLE STRAIGHT MEDIUM,SINGLE STRAIGHT LARGE,SINGLE STRAIGHT LARGEST,SINGLE WRIST FLEX",
      "DOUBLE STRAIGHT,DOUBLE WRIST FLEX,DOUBLE ALTERNATING,DOUBLE ALTERNATING WRIST FLEX,CROSS",
      "TRIPLE STRAIGHT MOVEMENT,TRIPLE WRIST FLEX,TRIPLE ALTERNATING MOVEMENT",
      "TRIPLE ALTERNATING WRIST FLEX,BEND,CORNER SMALL,CORNER MEDIUM,CORNER LARGE,CHECK",
      "BOX SMALL,BOX MEDIUM,BOX LARGE,ZIGZAG SMALL,ZIGZAG MEDIUM,ZIGZAG LARGE,PEAKS SMALL",
      "PEAKS MEDIUM,PEAKS LARGE,,,,,,,,,,,,,,,,,,,,,,,,,,,,,,,,,,,,,,,,,,,,,,,,,,,,,,",
      "CURVE HITTING CEILING SMALL,CURVE HITTING CEILING LARGE",
      "HUMP HITTING CEILING SMALL DOUBLE,HUMP HITTING CEILING LARGE DOUBLE",
      "HUMP HITTING CEILING SMALL TRIPLE,HUMP HITTING CEILING LARGE TRIPLE",
      "LOOP HITTING CEILING SMALL SINGLE,LOOP HITTING CEILING LARGE SINGLE",
      "LOOP HITTING CEILING SMALL DOUBLE,LOOP HITTING CEILING LARGE DOUBLE",
      "WAVE HITTING CEILING SMALL,WAVE HITTING CEILING LARGE,,,,CURVE HITTING FLOOR SMALL",
      "CURVE HITTING FLOOR LARGE,HUMP HITTING FLOOR SMALL DOUBLE",
      "HUMP HITTING FLOOR LARGE DOUBLE,HUMP HITTING FLOOR TRIPLE SMALL TRIPLE",
      "HUMP HITTING FLOOR TRIPLE LARGE TRIPLE,LOOP HITTING FLOOR SMALL SINGLE",
      "LOOP HITTING FLOOR LARGE SINGLE,LOOP HITTING FLOOR SMALL DOUBLE",
      "LOOP HITTING FLOOR LARGE DOUBLE,WAVE HITTING FLOOR SMALL,WAVE HITTING FLOOR LARGE,,,",
      "CURVE SMALL,CURVE MEDIUM,CURVE LARGE,CURVE LARGEST,CURVE COMBINED,HUMP SMALL,LOOP SMALL",
      "WAVE SNAKE,WAVE SMALL,WAVE LARGE,,,,SHAKING PARALLEL,,,,",
      "ARM CIRCLE HITTING WALL SMALL SINGLE,ARM CIRCLE HITTING WALL MEDIUM SINGLE",
      "ARM CIRCLE HITTING WALL LARGE SINGLE,ARM CIRCLE HITTING WALL SMALL DOUBLE",
      "ARM CIRCLE HITTING WALL MEDIUM DOUBLE,ARM CIRCLE HITTING WALL LARGE DOUBLE,,",
      "WRIST CIRCLE HITTING WALL SINGLE,WRIST CIRCLE HITTING WALL DOUBLE,,",
      "FINGER CIRCLES HITTING WALL SINGLE,FINGER CIRCLES HITTING WALL DOUBLE"]⟩,
    ⟨0x1D981, "SIGNWRITING TRAVEL-FLOORPLANE ", ["ROTATION-FLOORPLANE SINGLE",
      "ROTATION-FLOORPLANE DOUBLE,ROTATION-FLOORPLANE ALTERNATING,ROTATION-WALLPLANE SINGLE",
      "ROTATION-WALLPLANE DOUBLE,ROTATION-WALLPLANE ALTERNATING,SHAKING"]⟩,
    ⟨0x1D988, "SIGNWRITING MOVEMENT-WALLPLANE ", ["CURVE QUARTER SMALL,CURVE QUARTER MEDIUM",
      "CURVE QUARTER LARGE,CURVE QUARTER LARGEST,CURVE HALF-CIRCLE SMALL",
      "CURVE HALF-CIRCLE MEDIUM,CURVE HALF-CIRCLE LARGE,CURVE HALF-CIRCLE LARGEST",
      "CURVE THREE-QUARTER CIRCLE SMALL,CURVE THREE-QUARTER CIRCLE MEDIUM,HUMP SMALL",
      "HUMP MEDIUM,HUMP LARGE,LOOP SMALL,LOOP MEDIUM,LOOP LARGE,LOOP SMALL DOUBLE",
      "WAVE CURVE DOUBLE SMALL,WAVE CURVE DOUBLE MEDIUM,WAVE CURVE DOUBLE LARGE",
      "WAVE CURVE TRIPLE SMALL,WAVE CURVE TRIPLE MEDIUM,WAVE CURVE TRIPLE LARGE",
      "CURVE THEN STRAIGHT,CURVED CROSS SMALL,CURVED CROSS MEDIUM,,,,SHAKING",
      "CURVE HITTING FRONT WALL,HUMP HITTING FRONT WALL,LOOP HITTING FRONT WALL",
      "WAVE HITTING FRONT WALL,,,,CURVE HITTING CHEST,HUMP HITTING CHEST,LOOP HITTING CHEST",
      "WAVE HITTING CHEST,,,,WAVE DIAGONAL PATH SMALL,WAVE DIAGONAL PATH MEDIUM",
      "WAVE DIAGONAL PATH LARGE,,,,,,,,,,,,,,,,,,,,,,,,,,,,,,,,,,,,,,,,,,,,",
      "ARM CIRCLE SMALL SINGLE,ARM CIRCLE MEDIUM SINGLE,ARM CIRCLE SMALL DOUBLE",
      "ARM CIRCLE MEDIUM DOUBLE,,,,,,,WRIST CIRCLE FRONT SINGLE,WRIST CIRCLE FRONT DOUBLE,,",
      "FINGER CIRCLES SINGLE,FINGER CIRCLES DOUBLE"]⟩,
    ⟨0x1D9A2, "SIGNWRITING ROTATION-WALLPLANE ", ["SINGLE,DOUBLE,ALTERNATE,,,,,",
      "SINGLE HITTING FRONT WALL,DOUBLE HITTING FRONT WALL,ALTERNATING HITTING FRONT WALL,,,,",
      "SINGLE HITTING CHEST,DOUBLE HITTING CHEST,ALTERNATING HITTING CHEST"]⟩,
    ⟨0x1D9C3, "SIGNWRITING ROTATION-FLOORPLANE ", ["SINGLE HITTING CEILING",
      "DOUBLE HITTING CEILING,ALTERNATING HITTING CEILING,,,,,,,,,,,,,SINGLE HITTING FLOOR",
      "DOUBLE HITTING FLOOR,ALTERNATING HITTING FLOOR,,,,,,,,,,,SINGLE,DOUBLE,ALTERNATING"]⟩,
    ⟨0x1D9F5, "SIGNWRITING DYNAMIC ", ["ARROWHEAD SMALL,ARROWHEAD LARGE,FAST,SLOW,TENSE,RELAXED",
      "SIMULTANEOUS,SIMULTANEOUS ALTERNATING,EVERY OTHER TIME,GRADUAL"]⟩,
    ⟨0x1D9FF, "SIGNWRITING ", ["HEAD,HEAD RIM,HEAD MOVEMENT-WALLPLANE STRAIGHT",
      "HEAD MOVEMENT-WALLPLANE TILT,HEAD MOVEMENT-FLOORPLANE STRAIGHT",
      "HEAD MOVEMENT-WALLPLANE CURVE,HEAD MOVEMENT-FLOORPLANE CURVE,HEAD MOVEMENT CIRCLE",
      "FACE DIRECTION POSITION NOSE FORWARD TILTING,FACE DIRECTION POSITION NOSE UP OR DOWN",
      "FACE DIRECTION POSITION NOSE UP OR DOWN TILTING,EYEBROWS STRAIGHT UP",
      "EYEBROWS STRAIGHT NEUTRAL,EYEBROWS STRAIGHT DOWN,DREAMY EYEBROWS NEUTRAL DOWN",
      "DREAMY EYEBROWS DOWN NEUTRAL,DREAMY EYEBROWS UP NEUTRAL,DREAMY EYEBROWS NEUTRAL UP",
      "FOREHEAD NEUTRAL,FOREHEAD CONTACT,FOREHEAD WRINKLED,EYES OPEN,EYES SQUEEZED,EYES CLOSED",
      "EYE BLINK SINGLE,EYE BLINK MULTIPLE,EYES HALF OPEN,EYES WIDE OPEN,EYES HALF CLOSED",
      "EYES WIDENING MOVEMENT,EYE WINK,EYELASHES UP,EYELASHES DOWN,EYELASHES FLUTTERING,,,,,,,,",
      ",CHEEKS PUFFED,CHEEKS NEUTRAL,CHEEKS SUCKED,TENSE CHEEKS HIGH,TENSE CHEEKS MIDDLE",
      "TENSE CHEEKS LOW,EARS,NOSE NEUTRAL,NOSE CONTACT,NOSE WRINKLES,NOSE WIGGLES",
      "AIR BLOWING OUT,AIR SUCKING IN,AIR BLOW SMALL ROTATIONS,AIR SUCK SMALL ROTATIONS",
      "BREATH INHALE,BREATH EXHALE,,,,,,,,,,,,,,,,,,,,,,,,,LIPS PRESSED TOGETHER",
      "LIP LOWER OVER UPPER,LIP UPPER OVER LOWER,,,,,,,,,,,,TEETH,TEETH MOVEMENT",
      "TEETH ON TONGUE,TEETH ON TONGUE MOVEMENT,TEETH ON LIPS,TEETH ON LIPS MOVEMENT",
      "TEETH BITE LIPS,MOVEMENT-WALLPLANE JAW,MOVEMENT-FLOORPLANE JAW,NECK,HAIR,EXCITEMENT",
      "SHOULDER HIP SPINE,SHOULDER HIP POSITIONS,WALLPLANE SHOULDER HIP MOVE",
      "FLOORPLANE SHOULDER HIP MOVE,SHOULDER TILTING FROM WAIST",
      "TORSO-WALLPLANE STRAIGHT STRETCH,TORSO-WALLPLANE CURVED BEND,TORSO-FLOORPLANE TWISTING",
      "UPPER BODY TILTING FROM HIP JOINTS,LIMB COMBINATION,LIMB LENGTH-1,LIMB LENGTH-2",
      "LIMB LENGTH-3,LIMB LENGTH-4,LIMB LENGTH-5,LIMB LENGTH-6,LIMB LENGTH-7,FINGER",
      "LOCATION-WALLPLANE SPACE,LOCATION-FLOORPLANE SPACE,,,,,,,COMMA,FULL STOP,SEMICOLON,COLON",
      "PARENTHESIS,,,,,,,,,,,,,,,,FILL MODIFIER-2,FILL MODIFIER-3,FILL MODIFIER-4",
      "FILL MODIFIER-5,FILL MODIFIER-6"]⟩,
    ⟨0x1DA21, "SIGNWRITING EYEGAZE-", ["WALLPLANE STRAIGHT,WALLPLANE STRAIGHT DOUBLE",
      "WALLPLANE STRAIGHT ALTERNATING,FLOORPLANE STRAIGHT,FLOORPLANE STRAIGHT DOUBLE",
      "FLOORPLANE STRAIGHT ALTERNATING,WALLPLANE CURVED,FLOORPLANE CURVED,WALLPLANE CIRCLING"]⟩,
    ⟨0x1DA3B, "SIGNWRITING MOUTH ", ["CLOSED NEUTRAL,CLOSED FORWARD,CLOSED CONTACT,SMILE",
      "SMILE WRINKLED,SMILE OPEN,FROWN,FROWN WRINKLED,FROWN OPEN,OPEN CIRCLE,OPEN FORWARD",
      "OPEN WRINKLED,OPEN OVAL,OPEN OVAL WRINKLED,OPEN OVAL YAWN,OPEN RECTANGLE",
      "OPEN RECTANGLE WRINKLED,OPEN RECTANGLE YAWN,KISS,KISS FORWARD,KISS WRINKLED,TENSE",
      "TENSE FORWARD,TENSE SUCKED,,,,CORNERS,WRINKLES SINGLE,WRINKLES DOUBLE"]⟩,
    ⟨0x1DA59, "SIGNWRITING TONGUE ", ["STICKING OUT FAR,LICKING LIPS,TIP BETWEEN LIPS",
      "TIP TOUCHING INSIDE MOUTH,INSIDE MOUTH RELAXED,MOVES AGAINST CHEEK,CENTRE STICKING OUT",
      "CENTRE INSIDE MOUTH"]⟩,
    ⟨0x1DA81, "SIGNWRITING LOCATION ", ["HEIGHT,WIDTH,DEPTH,HEAD NECK,TORSO,LIMBS DIGITS"]⟩,
    ⟨0x1DAA1, "SIGNWRITING ROTATION MODIFIER-", ["2,3,4,5,6,7,8,9,10,11,12,13,14,15,16"]⟩,
    ⟨0x1DF00, "LATIN SMALL LETTER ", ["FENG DIGRAPH WITH TRILL,REVERSED SCRIPT G,,REVERSED K,",
      "LEZH WITH RETROFLEX HOOK,TURNED Y WITH BELT,REVERSED ENG",
      "TURNED R WITH LONG LEG AND RETROFLEX HOOK,T WITH HOOK AND RETROFLEX HOOK,",
      "ESH WITH DOUBLE BAR,ESH WITH DOUBLE BAR AND CURL,TURNED T WITH CURL,,,,L WITH FISHHOOK",
      "DEZH DIGRAPH WITH PALATAL HOOK,L WITH BELT AND PALATAL HOOK,ENG WITH PALATAL HOOK",
      "TURNED R WITH PALATAL HOOK,R WITH FISHHOOK AND PALATAL HOOK",
      "TESH DIGRAPH WITH PALATAL HOOK,EZH WITH PALATAL HOOK,DEZH DIGRAPH WITH RETROFLEX HOOK",
      "I WITH STROKE AND RETROFLEX HOOK,O WITH RETROFLEX HOOK,TESH DIGRAPH WITH RETROFLEX HOOK",
      "C WITH RETROFLEX HOOK,S WITH CURL"]⟩,
    ⟨0x1DF02, "", ["LATIN LETTER SMALL CAPITAL TURNED G,,LATIN LETTER SMALL CAPITAL L WITH BELT",
      ",,,,,LATIN LETTER RETROFLEX CLICK WITH RETROFLEX HOOK,,,",
      "LATIN LETTER INVERTED GLOTTAL STOP WITH CURL,LATIN LETTER STRETCHED C WITH CURL",
      "LATIN LETTER SMALL CAPITAL TURNED K"]⟩,
    ⟨0x1E000, "COMBINING GLAGOLITIC LETTER ", ["AZU,BUKY,VEDE,GLAGOLI,DOBRO,YESTU,ZHIVETE,",
      "ZEMLJA,IZHE,INITIAL IZHE,I,DJERVI,KAKO,LJUDIJE,MYSLITE,NASHI,ONU,POKOJI,RITSI,SLOVO",
      "TVRIDO,UKU,FRITU,HERU,,,SHTA,TSI,CHRIVI,SHA,YERU,YERI,YATI,,YU,SMALL YUS,,YO",
      "IOTATED SMALL YUS,BIG YUS,IOTATED BIG YUS,FITA"]⟩,
    ⟨0x1E100, "NYIAKENG PUACHUE HMONG LETTER ", ["MA,TSA,NTA,TA,HA,NA,XA,NKA,CA,LA,SA,ZA,NCA",
      "NTSA,KA,DA,NYA,NRA,VA,NTXA,TXA,FA,RA,QA,YA,NQA,PA,XYA,NPA,DLA,NPLA,HAH,MLA,PLA,GA,RRA,A",
      "AA,I,U,O,OO,E,EE,W"]⟩,
    ⟨0x1E130, "NYIAKENG PUACHUE HMONG ", ["TONE-B,TONE-M,TONE-J,TONE-V,TONE-S,TONE-G,TONE-D",
      "SIGN FOR PERSON,SIGN FOR THING,SIGN FOR LOCATION,SIGN FOR ANIMAL,SIGN FOR INVERTEBRATE",
      "SIGN XW XW,SYLLABLE LENGTHENER,,,,,,,,,,,,,,,,,LOGOGRAM NYAJ,CIRCLED CA"]⟩,
    ⟨0x1E140, "NYIAKENG PUACHUE HMONG DIGIT ", ["ZERO,ONE,TWO,THREE,FOUR,FIVE,SIX,SEVEN,EIGHT",
      "NINE"]⟩,
    ⟨0x1E290, "TOTO LETTER ", ["PA,BA,TA,DA,KA,GA,MA,NA,NGA,SA,CHA,YA,WA,JA,HA,RA,LA,I",
      "BREATHY I,IU,BREATHY IU,U,E,BREATHY E,EO,BREATHY EO,O,AE,BREATHY AE,A"]⟩,
    ⟨0x1E2AE, "", ["TOTO SIGN RISING TONE"]⟩,
    ⟨0x1E2C0, "WANCHO LETTER ", ["AA,A,BA,CA,DA,GA,YA,PHA,LA,NA,PA,TA,THA,FA,SA,SHA,JA,ZA,WA,VA",
      "KA,O,AU,RA,MA,KHA,HA,E,I,NGA,U,LLHA,TSA,TRA,ONG,AANG,ANG,ING,ON,EN,AAN,NYA,UEN,YIH"]⟩,
    ⟨0x1E2EC, "", ["WANCHO TONE TUP,WANCHO TONE TUPNI,WANCHO TONE KOI,WANCHO TONE KOINI,,,,,,,,",
      ",,,,,,,WANCHO NGUN SIGN"]⟩,
    ⟨0x1E2F0, "WANCHO DIGIT ", ["ZERO,ONE,TWO,THREE,FOUR,FIVE,SIX,SEVEN,EIGHT,NINE"]⟩,
    ⟨0x1E7E0, "ETHIOPIC SYLLABLE ", ["HHYA,HHYU,HHYI,HHYAA,HHYEE,HHYE,HHYO,,,HHWI,HHWEE,HHWE"]⟩,
    ⟨0x1E7E8, "ETHIOPIC SYLLABLE GURAGE ", ["HHWA,,,,,MWI,MWEE,,QWI,QWEE,QWE,BWI,BWEE,KWI,KWEE",
      "KWE,GWI,GWEE,GWE,FWI,FWEE,PWI,PWEE"]⟩,
    ⟨0x1E800, "MENDE KIKAKUI SYLLABLE ", ["M001 KI,M002 KA,M003 KU,M065 KEE,M095 KE,M076 KOO",
      "M048 KO,M179 KUA,M004 WI,M005 WA,M006 WU,M126 WEE,M118 WE,M114 WOO,M045 WO,M194 WUI",
      "M143 WEI,M061 WVI,M049 WVA,M139 WVE,M007 MIN,M008 MAN,M009 MUN,M059 MEN,M094 MON",
      "M154 MUAN,M189 MUEN,M010 BI,M011 BA,M012 BU,M150 BEE,M097 BE,M103 BOO,M138 BO,M013 I",
      "M014 A,M015 U,M163 EE,M100 E,M165 OO,M147 O,M137 EI,M131 IN,M135 IN,M195 AN,M178 EN",
      "M019 SI,M020 SA,M021 SU,M162 SEE,M116 SE,M136 SOO,M079 SO,M196 SIA,M025 LI,M026 LA",
      "M027 LU,M084 LEE,M073 LE,M054 LOO,M153 LO,M110 LONG LE,M016 DI,M017 DA,M018 DU,M089 DEE",
      "M180 DOO,M181 DO,M022 TI,M023 TA,M024 TU,M091 TEE,M055 TE,M104 TOO,M069 TO,M028 JI",
      "M029 JA,M030 JU,M157 JEE,M113 JE,M160 JOO,M063 JO,M175 LONG JO,M031 YI,M032 YA,M033 YU",
      "M109 YEE,M080 YE,M141 YOO,M121 YO,M034 FI,M035 FA,M036 FU,M078 FEE,M075 FE,M133 FOO",
      "M088 FO,M197 FUA,M101 FAN,M037 NIN,M038 NAN,M039 NUN,M117 NEN,M169 NON,M176 HI,M041 HA",
      "M186 HU,M040 HEE,M096 HE,M042 HOO,M140 HO,M083 HEEI,M128 HOOU,M053 HIN,M130 HAN,M087 HUN",
      "M052 HEN,M193 HON,M046 HUAN,M090 NGGI,M043 NGGA,M082 NGGU,M115 NGGEE,M146 NGGE",
      "M156 NGGOO,M120 NGGO,M159 NGGAA,M127 NGGUA,M086 LONG NGGE,M106 LONG NGGOO,M183 LONG NGGO",
      "M155 GI,M111 GA,M168 GU,M190 GEE,M166 GUEI,M167 GUAN,M184 NGEN,M057 NGON,M177 NGUAN",
      "M068 PI,M099 PA,M050 PU,M081 PEE,M051 PE,M102 POO,M066 PO,M145 MBI,M062 MBA,M122 MBU",
      "M047 MBEE,M188 MBEE,M072 MBE,M172 MBOO,M174 MBO,M187 MBUU,M161 LONG MBE,M105 LONG MBOO",
      "M142 LONG MBO,M132 KPI,M092 KPA,M074 KPU,M044 KPEE,M108 KPE,M112 KPOO,M158 KPO,M124 GBI",
      "M056 GBA,M148 GBU,M093 GBEE,M107 GBE,M071 GBOO,M070 GBO,M171 RA,M123 NDI,M129 NDA",
      "M125 NDU,M191 NDEE,M119 NDE,M067 NDOO,M064 NDO,M152 NJA,M192 NJU,M149 NJEE,M134 NJOO",
      "M182 VI,M185 VA,M151 VU,M173 VEE,M085 VE,M144 VOO,M077 VO,M164 NYIN,M058 NYAN,M170 NYUN",
      "M098 NYEN,M060 NYON"]⟩,
    ⟨0x1E8C7, "MENDE KIKAKUI DIGIT ", ["ONE,TWO,THREE,FOUR,FIVE,SIX,SEVEN,EIGHT,NINE"]⟩,
    ⟨0x1E8D0, "MENDE KIKAKUI COMBINING ", ["NUMBER TEENS,NUMBER TENS,NUMBER HUNDREDS",
      "NUMBER THOUSANDS,NUMBER TEN THOUSANDS,NUMBER HUNDRED THOUSANDS,NUMBER MILLIONS"]⟩,
    ⟨0x1E900, "ADLAM CAPITAL LETTER ", ["ALIF,DAALI,LAAM,MIIM,BA,SINNYIIYHE,PE,BHE,RA,E,FA,I,O",
      "DHA,YHE,WAW,NUN,KAF,YA,U,JIIM,CHI,HA,QAAF,GA,NYA,TU,NHA,VA,KHA,GBE,ZAL,KPO,SHA"]⟩,
    ⟨0x1E922, "ADLAM SMALL LETTER ", ["ALIF,DAALI,LAAM,MIIM,BA,SINNYIIYHE,PE,BHE,RA,E,FA,I,O",
      "DHA,YHE,WAW,NUN,KAF,YA,U,JIIM,CHI,HA,QAAF,GA,NYA,TU,NHA,VA,KHA,GBE,ZAL,KPO,SHA"]⟩,
    ⟨0x1E944, "ADLAM ", ["ALIF LENGTHENER,VOWEL LENGTHENER,GEMINATION MARK,HAMZA",
      "CONSONANT MODIFIER,GEMINATE CONSONANT MODIFIER,NUKTA,NASALIZATION MARK,,,,,,,,,,,,,,,,,,",
      "INITIAL EXCLAMATION MARK,INITIAL QUESTION MARK"]⟩,
    ⟨0x1E950, "ADLAM DIGIT ", ["ZERO,ONE,TWO,THREE,FOUR,FIVE,SIX,SEVEN,EIGHT,NINE"]⟩,
    ⟨0x1EC71, "INDIC SIYAQ NUMBER ", ["ONE,TWO,THREE,FOUR,FIVE,SIX,SEVEN,EIGHT,NINE,TEN,TWENTY",
      "THIRTY,FORTY,FIFTY,SIXTY,SEVENTY,EIGHTY,NINETY,ONE HUNDRED,TWO HUNDRED,THREE HUNDRED",
      "FOUR HUNDRED,FIVE HUNDRED,SIX HUNDRED,SEVEN HUNDRED,EIGHT HUNDRED,NINE HUNDRED",
      "ONE THOUSAND,TWO THOUSAND,THREE THOUSAND,FOUR THOUSAND,FIVE THOUSAND,SIX THOUSAND",
      "SEVEN THOUSAND,EIGHT THOUSAND,NINE THOUSAND,TEN THOUSAND,TWENTY THOUSAND,THIRTY THOUSAND",
      "FORTY THOUSAND,FIFTY THOUSAND,SIXTY THOUSAND,SEVENTY THOUSAND,EIGHTY THOUSAND",
      "NINETY THOUSAND,LAKH,LAKHAN,,KAROR,KARORAN,,,,,,,,,,,,,,,ALTERNATE ONE,ALTERNATE TWO",
      "ALTERNATE TEN THOUSAND"]⟩,
    ⟨0x1ECA0, "", ["INDIC SIYAQ LAKH MARK,,,,,,,,,,,,INDIC SIYAQ PLACEHOLDER",
      "INDIC SIYAQ FRACTION ONE QUARTER,INDIC SIYAQ FRACTION ONE HALF",
      "INDIC SIYAQ FRACTION THREE QUARTERS,INDIC SIYAQ RUPEE MARK,,,",
      "INDIC SIYAQ ALTERNATE LAKH MARK"]⟩,
    ⟨0x1ECA3, "INDIC SIYAQ NUMBER PREFIXED ", ["ONE,TWO,THREE,FOUR,FIVE,SIX,SEVEN,EIGHT,NINE"]⟩,
    ⟨0x1ED01, "OTTOMAN SIYAQ NUMBER ", ["ONE,TWO,THREE,FOUR,FIVE,SIX,SEVEN,EIGHT,NINE,TEN",
      "TWENTY,THIRTY,FORTY,FIFTY,SIXTY,SEVENTY,EIGHTY,NINETY,ONE HUNDRED,TWO HUNDRED",
      "THREE HUNDRED,FOUR HUNDRED,FIVE HUNDRED,SIX HUNDRED,SEVEN HUNDRED,EIGHT HUNDRED",
      "NINE HUNDRED,ONE THOUSAND,TWO THOUSAND,THREE THOUSAND,FOUR THOUSAND,FIVE THOUSAND",
      "SIX THOUSAND,SEVEN THOUSAND,EIGHT THOUSAND,NINE THOUSAND,TEN THOUSAND,TWENTY THOUSAND",
      "THIRTY THOUSAND,FORTY THOUSAND,FIFTY THOUSAND,SIXTY THOUSAND,SEVENTY THOUSAND",
      "EIGHTY THOUSAND,NINETY THOUSAND"]⟩,
    ⟨0x1ED2E, "", ["OTTOMAN SIYAQ MARRATAN,,,,,,,,,,,,,,OTTOMAN SIYAQ FRACTION ONE HALF",
      "OTTOMAN SIYAQ FRACTION ONE SIXTH"]⟩,
    ⟨0x1ED2F, "OTTOMAN SIYAQ ALTERNATE NUMBER ", ["TWO,THREE,FOUR,FIVE,SIX,SEVEN,EIGHT,NINE,TEN",
      "FOUR HUNDRED,SIX HUNDRED,TWO THOUSAND,TEN THOUSAND"]⟩,
    ⟨0x1EE00, "ARABIC MATHEMATICAL ", ["ALEF,BEH,JEEM,DAL,,WAW,ZAIN,HAH,TAH,YEH,KAF,LAM,MEEM",
      "NOON,SEEN,AIN,FEH,SAD,QAF,REH,SHEEN,TEH,THEH,KHAH,THAL,DAD,ZAH,GHAIN,DOTLESS BEH",
      "DOTLESS NOON,DOTLESS FEH,DOTLESS QAF"]⟩,
    ⟨0x1EE21, "ARABIC MATHEMATICAL INITIAL ", ["BEH,JEEM,,HEH,,,HAH,,YEH,KAF,LAM,MEEM,NOON,SEEN",
      "AIN,FEH,SAD,QAF,,SHEEN,TEH,THEH,KHAH,,DAD,,GHAIN"]⟩,
    ⟨0x1EE42, "ARABIC MATHEMATICAL TAILED ", ["JEEM,,,,,HAH,,YEH,,LAM,,NOON,SEEN,AIN,,SAD,QAF,",
      "SHEEN,,,KHAH,,DAD,,GHAIN,,DOTLESS NOON,,DOTLESS QAF"]⟩,
    ⟨0x1EE61, "ARABIC MATHEMATICAL STRETCHED ", ["BEH,JEEM,,HEH,,,HAH,TAH,YEH,KAF,,MEEM,NOON",
      "SEEN,AIN,FEH,SAD,QAF,,SHEEN,TEH,THEH,KHAH,,DAD,ZAH,GHAIN,DOTLESS BEH,,DOTLESS FEH"]⟩,
    ⟨0x1EE80, "ARABIC MATHEMATICAL LOOPED ", ["ALEF,BEH,JEEM,DAL,HEH,WAW,ZAIN,HAH,TAH,YEH,,LAM",
      "MEEM,NOON,SEEN,AIN,FEH,SAD,QAF,REH,SHEEN,TEH,THEH,KHAH,THAL,DAD,ZAH,GHAIN"]⟩,
    ⟨0x1EEA1, "ARABIC MATHEMATICAL DOUBLE-STRUCK ", ["BEH,JEEM,DAL,,WAW,ZAIN,HAH,TAH,YEH,,LAM",
      "MEEM,NOON,SEEN,AIN,FEH,SAD,QAF,REH,SHEEN,TEH,THEH,KHAH,THAL,DAD,ZAH,GHAIN"]⟩,
    ⟨0x1EEF0, "", ["ARABIC MATHEMATICAL OPERATOR MEEM WITH HAH WITH TATWEEL",
      "ARABIC MATHEMATICAL OPERATOR HAH WITH DAL"]⟩]

end RelayClient.CharacterName
