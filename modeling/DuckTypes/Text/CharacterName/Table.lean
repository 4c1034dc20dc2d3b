namespace DuckTypes.Text.CharacterName

def lines : List String :=
  ["A(BACUS,C( CURRENT,CO(RDION,UNT OF),TIVATE (ARABIC FORM SHAPING,SYMMETRIC SWAPPING),UTE A(",
    "CCENT,NGLE)),D(DRESSED TO THE SUBJECT,HESIVE BANDAGE,I SHAKTI,LAM (ALIF LENGTHENER,C(",
    "APITAL LETTER (ALIF,B(A,HE),CHI,D(AALI,HA),E,FA,G(A,BE),HA,I,JIIM,K(AF,HA,PO),LAAM,MIIM,N(HA,",
    "UN,YA),O,PE,QAAF,RA,S(HA,INNYIIYHE),TU,U,VA,WAW,Y(A,HE),ZAL),ONSONANT MODIFIER),DIGIT (EIGHT,",
    "F(IVE,OUR),NINE,ONE,S(EVEN,IX),T(HREE,WO),ZERO),GEMINAT(E CONSONANT MODIFIER,ION MARK),HAMZA,",
    "INITIAL (EXCLAMATION MARK,QUESTION MARK),N(ASALIZATION MARK,UKTA),SMALL LETTER (ALIF,B(A,HE),",
    "CHI,D(AALI,HA),E,FA,G(A,BE),HA,I,JIIM,K(AF,HA,PO),LAAM,MIIM,N(HA,UN,YA),O,PE,QAAF,RA,S(HA,",
    "INNYIIYHE),TU,U,VA,WAW,Y(A,HE),ZAL),VOWEL LENGTHENER),M(ETOS,ISSION TICKETS),ULT),E(GEAN (",
    "CHECK MARK,DRY MEASURE FIRST SUBUNIT,LIQUID MEASURE FIRST SUBUNIT,MEASURE (SECOND SUBUNIT,",
    "THIRD SUBUNIT),NUMBER (EIGHT.( (HUNDRED,THOUSAND),Y.( THOUSAND)),F(I(FTY.( THOUSAND),VE.( (",
    "HUNDRED,THOUSAND))),O(RTY.( THOUSAND),UR.( (HUNDRED,THOUSAND)))),NINE.( (HUNDRED,THOUSAND),",
    "TY.( THOUSAND)),ONE.( (HUNDRED,THOUSAND)),S(EVEN.( (HUNDRED,THOUSAND),TY.( THOUSAND)),IX.( (",
    "HUNDRED,THOUSAND),TY.( THOUSAND))),T(EN.( THOUSAND),H(IRTY.( THOUSAND),REE.( (HUNDRED,",
    "THOUSAND))),W(ENTY.( THOUSAND),O.( (HUNDRED,THOUSAND))))),W(EIGHT (BASE UNIT,F(IRST SUBUNIT,",
    "OURTH SUBUNIT),SECOND SUBUNIT,THIRD SUBUNIT),ORD SEPARATOR (DOT,LINE))),RIAL TRAMWAY),",
    "FGHANI SIGN,HOM (CONSONANT SIGN MEDIAL (L(A,IGATING RA),RA),DIGIT (EIGHT,F(IVE,OUR),NINE,ONE,",
    "S(EVEN,IX),T(HREE,WO),ZERO),LETTER (A.(LTERNATE (BA,GA,TA)),B(A,HA),C(A,HA),D(A,D(A,HA),HA),",
    "G(A,HA),HA,J(A,HA),K(A,HA),L(A,LA),MA,N(A,GA,NA,YA),P(A,HA),RA,SA,T(A,HA,T(A,HA))),NUMBER T(",
    "EN,WENTY),S(IGN (KILLER,RULAI,S(ECTION,MALL SECTION)),YMBOL VI),VOWEL SIGN (A.(A,I,M,W),E,I.(",
    "I),O,U.(U))),IRPLANE.( (ARRIVING,DEPARTURE)),KTIESELSKAB,L(ARM CLOCK,CHEMICAL SYMBOL FOR (A(",
    "IR,L(EMBIC,KALI.(-2),UM),MALGAM,NTIMONY ORE,QUA( (REGIA.(-2),VITAE.(-2)),FORTIS),RSENIC,SHES,",
    "URIPIGMENT),B(ATH OF (MARY,VAPOURS),ISMUTH ORE,LACK SULFUR,ORAX.(-(2,3)),RICK),C(A(DUCEUS,LX,",
    "PUT MORTUUM),INNABAR,OPPER (ANTIMONIATE,ORE),R(OCUS OF (COPPER.(-2),IRON),UCIBLE.(-(2,3,4,",
    "5)))),D(AY-NIGHT,IS(SOLVE.(-2),TILL)),EARTH,FIRE,G(OLD,UM),H(ALF (DRAM,OUNCE),O(RSE DUNG,",
    "UR)),IRON( ORE.(-2),-COPPER ORE),L(EAD ORE,ODESTONE),M(ARCASITE,ERCURY SUBLIMATE.(-(2,3)),",
    "ONTH),NI(GHT,TRE),OIL,P(HILOSOPHERS SULFUR,O(T ASHES,WDER.(ED BRICK)),RECIPITATE,U(RIFY,",
    "TREFACTION)),QUI(CK LIME,NTESSENCE),R(E(ALGAR.(-2),GULUS.( OF (ANTIMONY.(-2),IRON),-(2,3,4)),",
    "TORT),OCK SALT.(-2)),S(AL(-AMMONIAC,T.( OF (ANTIMONY,COPPER ANTIMONIATE))),CEPTER OF JOVE,",
    "ILVER,OAP,PIRIT,T(ARRED TRIDENT,RATUM SUPER STRATUM.(-2)),U(BLIMAT(E OF (ANTIMONY,COPPER,",
    "SALT OF (ANTIMONY,COPPER)),ION),LFUR)),T(ARTAR.(-2),IN( ORE,CTURE),RIDENT,UTTY),URINE,V(",
    "ERDIGRIS,I(NEGAR.( OF ANTIMONY,-(2,3)),TRIOL.(-2))),WA(TER,X)),E(F SYMBOL,MBIC),IEN (",
    "CRAB STEPPING (LEFT,RIGHT),MONSTER.( (CLOSED JAWS,OPEN JAWS,STEP-(1,2))),S(PIDER (CROUCHING,",
    "SPREAD),QUID (CLOSED TENTACLES,OPEN TENTACLES))),L (AROUND-PROFILE,EQUAL TO),MOST EQUAL (",
    "OR EQUAL TO,TO.( WITH CIRCUMFLEX ACCENT)),TERNAT(E ONE-WAY LEFT WAY TRAFFIC,IVE KEY SYMBOL)),",
    "M(ALGAMATION OR COPRODUCT,BULANCE,ERICAN FOOTBALL,P(ERSAND,HORA)),N(ATO(LIAN HIEROGLYPH A(0(",
    "0(1,2,3,4,5,6,7,8,9),1(0.(A),1,2,3,4,5,6,7,8,9),2(0,1,2,3,4,5,6.(A),7,8,9),3(0,1,2,3,4,5,6,7,",
    "8,9.(A)),4(0,1.(A),2,3,4,5.(A),6.(A,B),7,8,9),5(0,1,2,3,4,5,6,7,8,9),6(0,1,2,3,4,5,6.(A,B,C),",
    "7,8,9),7(0,1,2,3,4,5,6,7,8,9),8(0,1,2,3,4,5,6,7,8,9),9(0,1,2,3,4,5,6,7.(A),8.(A),9)),1(0(0.(",
    "A),1.(A),2.(A),3,4.(A,B,C),5.(A,B),6,7.(A,B,C),8,9),1(0.(A,B),1,2,3,4,5.(A),6,7,8,9),2(0,1,2,",
    "3,4,5.(A),6,7,8,9),3(0,1,2,3,4,5.(A),6,7,8,9),4(0,1,2,3,4,5,6,7,8,9),5(0,1,2,3,4,5,6,7,8,9),",
    "6(0,1,2,3,4,5,6,7,8,9),7(0,1,2,3,4,5,6,7,8,9),8(0,1,2,3,4,5,6,7,8,9),9(0,1,2,3,4,5,6,7,8,9)),",
    "2(0(0,1,2.(A,B),3,4,5,6,7.(A),8,9.(A)),1(0,1,2,3,4,5.(A),6.(A),7,8,9),2(0,1,2,3,4,5,6,7.(A),",
    "8,9),3(0,1,2,3,4,5,6,7,8,9),4(0,1,2,3,4,5,6,7,8,9),5(0,1,2,3,4,5,6,7,8,9),6(0,1,2,3,4,5,6,7.(",
    "A),8,9),7(0,1,2,3,4,5,6,7,8,9),8(0,1,2,3,4,5,6,7,8,9.(A)),9(0,1,2,3,4.(A),5,6,7,8,9.(A))),3(",
    "0(0,1,2,3,4,5,6,7,8,9.(A)),1(0,1,2,3,4,5,6,7,8,9),2(0,1,2,3,4,5,6,7,8,9.(A)),3(0,1,2(A,B,C),",
    "3,4,5,6.(A,B,C),7,8,9),4(0,1,2,3,4,5,6,7,8,9),5(0,1,2,3,4,5,6,7,8,9.(A)),6(0,1,2,3,4.(A),5,6,",
    "7,8.(A),9),7(0,1.(A),2,3,4,5,6,7,8,9),8(0,1.(A),2,3( RA OR RI,A),4,5,6.(A),7,8,9),9(0,1,2,",
    "3 EIGHT,4,5,6,7,8,9)),4(0(0,1,2,3,4,5,6,7,8,9),1(0( BEGIN LOGOGRAM MARK,A END LOGOGRAM MARK),",
    "1,2,3,4,5,6,7,8,9),2(0,1,2,3,4,5,6,7,8,9),3(0,1,2,3,4,5,6,7,8,9),4(0,1,2,3,4,5,6,7,8,9),5(0.(",
    "A),1,2,3,4,5,6,7.(A),8,9),6(0,1,2,3,4,5,6,7,8,9),7(0,1,2,3,4,5,6,7,8,9),8(0,1,2,3,4,5,6,7,8,",
    "9),9(0,1,2,3,4,5,6,7)),5(0(1,2,3,4,5,6,7,8,9),1(0,1,2,3,4,5,6,7,8,9),2(0,1,2,3,4,5,6,7,8,9),",
    "30)),MICAL HEART),CHOR,D WITH DOT,G(ER SYMBOL,LE.( WITH (S INSIDE,UNDERBAR)),RY FACE,",
    "STROM SIGN,UISHED FACE),KH,T.(ENNA.( WITH BARS),ICLOCKWISE (C(LOSED CIRCLE ARROW,",
    "ONTOUR INTEGRAL),DOWNWARDS AND UPWARDS OPEN CIRCLE ARROWS,GAPPED CIRCLE ARROW,INTEGRATION,",
    "OPEN CIRCLE ARROW,T(OP SEMICIRCLE ARROW,RIANGLE-HEADED (BOTTOM U-SHAPED ARROW,",
    "LEFT U-SHAPED ARROW,OPEN CIRCLE ARROW,RIGHT U-SHAPED ARROW,TOP U-SHAPED ARROW))))),P(",
    "L FUNCTIONAL SYMBOL (ALPHA.( UNDERBAR),BACKSLASH BAR,C(IRCLE (BACKSLASH,DIAERESIS,JOT,ST(AR,",
    "ILE),UNDERBAR),OMMA BAR),D(EL( (DIAERESIS,STILE,TILDE),TA (STILE,UNDERBAR)),IAMOND UNDERBAR,",
    "OWN( (CARET TILDE,SHOE STILE,TACK (JOT,UNDERBAR)),WARDS VANE)),EPSILON UNDERBAR,",
    "GREATER-THAN DIAERESIS,I(-BEAM,OTA.( UNDERBAR)),JOT (DIAERESIS,UNDERBAR),LEFT( SHOE STILE,",
    "WARDS VANE),OMEGA.( UNDERBAR),QU(AD.( (BACKSLASH,C(IRCLE,OLON),D(EL.(TA),I(AMOND,VIDE),OWN(",
    " CARET,WARDS ARROW)),EQUAL,GREATER-THAN,JOT,LE(FTWARDS ARROW,SS-THAN),NOT EQUAL,QUESTION,",
    "RIGHTWARDS ARROW,SLASH,UP( CARET,WARDS ARROW))),OTE (QUAD,UNDERBAR)),R(HO,IGHTWARDS VANE),S(",
    "EMICOLON UNDERBAR,LASH BAR,QUISH QUAD,T(AR DIAERESIS,ILE TILDE)),TILDE DIAERESIS,UP( (",
    "CARET TILDE,SHOE JOT,TACK (DIAERESIS,JOT,OVERBAR)),WARDS VANE),ZILDE),O(LLON,STROPHE),PRO(",
    "ACHES THE LIMIT,XIMATELY (BUT NOT ACTUALLY EQUAL TO,EQUAL (OR EQUAL TO,TO.(",
    " OR THE IMAGE OF))))),QUARIUS,R(ABIC( (BASELINE ROUND DOT,C(OM(BINING ALEF OVERLAY,MA),URLY (",
    "DAMMA.(TAN),FATHA.(TAN),KASRA.(TAN))),D(A(MMA.( (ISOLATED FORM,MEDIAL FORM,WITH DOT),TAN.(",
    " ISOLATED FORM)),TE SEPARATOR),ECIMAL SEPARATOR,ISPUTED END OF AYAH,OUBLE(",
    " RIGHT ARROWHEAD ABOVE.( WITH DOT),D MADDA)),E(MPTY CENTRE (HIGH STOP,LOW STOP),ND OF (AYAH,",
    "TEXT MARK)),F(ATHA.( (ISOLATED FORM,MEDIAL FORM,WITH (DOT ABOVE,RING,TWO DOTS)),TAN.(",
    " ISOLATED FORM)),IVE POINTED STAR,OOTNOTE MARKER,ULL STOP),HA(LF MADDA OVER MADDA,MZA (ABOVE,",
    "BELOW)),INVERTED DAMMA,KASRA.( (ISOLATED FORM,MEDIAL FORM,WITH DOT BELOW),TAN.(",
    " ISOLATED FORM)),L(ARGE (CIRCLE BELOW,ROUND DOT (ABOVE,BELOW,INSIDE CIRCLE BELOW)),E(",
    "FT ARROWHEAD (ABOVE,BELOW),TTER (A(E,FRICAN (FEH,NOON,QAF.( WITH THREE DOTS ABOVE)),IN.( (",
    "FINAL FORM,I(NITIAL FORM,SOLATED FORM),MEDIAL FORM,WITH T(HREE DOTS (ABOVE,BELOW,",
    "POINTING DOWNWARDS ABOVE),WO DOTS (ABOVE,VERTICALLY ABOVE)))),LEF.( (FINAL FORM,",
    "ISOLATED FORM,MAKSURA.( (FINAL FORM,ISOLATED FORM)),W(ASLA.( (FINAL FORM,ISOLATED FORM)),",
    "ITH (ATTACHED (BOTTOM RIGHT KASRA.( AND (DOT ABOVE,LEFT RING)),FATHA,KASRA,LEFT (HAMZA,",
    "ROUND DOT),R(IGHT (HAMZA,ROUND DOT),OUND DOT (ABOVE,BELOW)),TOP RIGHT FATHA.( AND (DOT ABOVE,",
    "LEFT RING))),DOT ABOVE,EXTENDED ARABIC-INDIC DIGIT T(HREE ABOVE,WO ABOVE),HAMZA (ABOVE.( (",
    "FINAL FORM,ISOLATED FORM)),BELOW.( (FINAL FORM,ISOLATED FORM))),LEFT MIDDLE STROKE,",
    "MADDA ABOVE.( (FINAL FORM,ISOLATED FORM)),RIGHT MIDDLE STROKE.( AND (DOT ABOVE,LEFT RING)),",
    "WAVY HAMZA (ABOVE,BELOW)))))),BE(EH.( (FINAL FORM,I(NITIAL FORM,SOLATED FORM),MEDIAL FORM)),",
    "H.( (FINAL FORM,I(NITIAL FORM,SOLATED FORM),MEDIAL FORM,WITH (DOT BELOW AND THREE DOTS ABOVE,",
    "HAMZA ABOVE,INVERTED SMALL V BELOW,SMALL (MEEM ABOVE,V.( BELOW)),T(HREE DOTS (",
    "HORIZONTALLY BELOW,POINTING UPWARDS BELOW.( AND TWO DOTS ABOVE)),",
    "WO DOTS BELOW AND DOT ABOVE))),EH.( (FINAL FORM,I(NITIAL FORM,SOLATED FORM),MEDIAL FORM)))),",
    "D(A(D.( (FINAL FORM,I(NITIAL FORM,SOLATED FORM),MEDIAL FORM,WITH DOT BELOW)),HAL.( (",
    "FINAL FORM,ISOLATED FORM)),L.( (FINAL FORM,ISOLATED FORM,WITH (DOT BELOW.( AND SMALL TAH),",
    "FOUR DOTS ABOVE,INVERTED (SMALL V BELOW,V),RING,T(HREE DOTS (ABOVE DOWNWARDS,BELOW),",
    "WO DOTS VERTICALLY BELOW.( AND SMALL TAH)))))),DA(HAL.( (FINAL FORM,ISOLATED FORM)),L.( (",
    "FINAL FORM,ISOLATED FORM))),OTLESS (BEH,FEH,QAF),UL.( (FINAL FORM,ISOLATED FORM)),YEH.( (",
    "FINAL FORM,I(NITIAL FORM,SOLATED FORM),MEDIAL FORM))),E.( (FINAL FORM,I(NITIAL FORM,",
    "SOLATED FORM),MEDIAL FORM)),F(ARSI YEH.( (FINAL FORM,I(NITIAL FORM,SOLATED FORM),MEDIAL FORM,",
    "WITH (EXTENDED ARABIC-INDIC DIGIT (FOUR BELOW,T(HREE ABOVE,WO ABOVE)),INVERTED V,T(",
    "HREE DOTS ABOVE,WO DOTS ABOVE)))),EH.( (FINAL FORM,I(NITIAL FORM,SOLATED FORM),MEDIAL FORM,",
    "WITH (DOT (BELOW.( AND THREE DOTS ABOVE),MOVED BELOW),T(HREE DOTS (BELOW,",
    "POINTING UPWARDS BELOW),WO DOTS BELOW))))),G(AF.( (FINAL FORM,I(NITIAL FORM,SOLATED FORM),",
    "MEDIAL FORM,WITH (INVERTED STROKE,RING,T(HREE DOTS ABOVE,WO DOTS BELOW)))),HAIN.( (",
    "FINAL FORM,I(NITIAL FORM,SOLATED FORM),MEDIAL FORM,WITH (DOT BELOW,THREE DOTS ABOVE))),RAF,",
    "UEH.( (FINAL FORM,I(NITIAL FORM,SOLATED FORM),MEDIAL FORM))),H(A(H.( (FINAL FORM,I(",
    "NITIAL FORM,SOLATED FORM),MEDIAL FORM,WITH (EXTENDED ARABIC-INDIC DIGIT FOUR BELOW,",
    "HAMZA ABOVE,INVERTED SMALL V BELOW,SMALL ARABIC LETTER TAH (A(BOVE,ND TWO DOTS),BELOW),T(",
    "HREE DOTS (ABOVE,POINTING UPWARDS BELOW),WO DOTS (ABOVE,VERTICAL ABOVE))))),MZA.(",
    " ISOLATED FORM)),EH.( (DOACHASHMEE.( (FINAL FORM,I(NITIAL FORM,SOLATED FORM),MEDIAL FORM)),",
    "FINAL FORM,GOAL.( (FINAL FORM,I(NITIAL FORM,SOLATED FORM),MEDIAL FORM,WITH HAMZA ABOVE)),I(",
    "NITIAL FORM,SOLATED FORM),MEDIAL FORM,WITH (INVERTED V,YEH ABOVE.( (FINAL FORM,",
    "ISOLATED FORM))))),IGH HAMZA.( (ALEF,WAW,YEH))),JE(EM.( (FINAL FORM,I(NITIAL FORM,",
    "SOLATED FORM),MEDIAL FORM,WITH T(HREE DOTS (ABOVE,BELOW),WO DOTS ABOVE))),H.( (FINAL FORM,",
    "ISOLATED FORM))),K(A(F.( (FINAL FORM,I(NITIAL FORM,SOLATED FORM),MEDIAL FORM,WITH (DOT (",
    "ABOVE,BELOW),RING,T(HREE DOTS BELOW,WO DOTS (ABOVE,VERTICALLY BELOW))))),SHMIRI YEH),EHEH.( (",
    "FINAL FORM,I(NITIAL FORM,SOLATED FORM),MEDIAL FORM,WITH (DOT ABOVE,SMALL V,T(HREE DOTS (",
    "ABOVE,BELOW,POINTING UPWARDS BELOW),WO DOTS (ABOVE,VERTICALLY BELOW))))),HAH.( (FINAL FORM,I(",
    "NITIAL FORM,SOLATED FORM),MEDIAL FORM)),IRGHIZ (OE.( (FINAL FORM,ISOLATED FORM)),YU.( (",
    "FINAL FORM,ISOLATED FORM)))),L(AM.( (FINAL FORM,I(NITIAL FORM,SOLATED FORM),MEDIAL FORM,",
    "WITH (BAR,DO(T ABOVE,UBLE BAR),SMALL (ARABIC LETTER TAH ABOVE,V),THREE DOTS (ABOVE,BELOW)))),",
    "OW ALEF),M(ARK,EEM.( (FINAL FORM,I(NITIAL FORM,SOLATED FORM),MEDIAL FORM,WITH (DOT (ABOVE,",
    "BELOW),THREE DOTS ABOVE)))),N(G.( (FINAL FORM,I(NITIAL FORM,SOLATED FORM),MEDIAL FORM),OEH.(",
    " (FINAL FORM,I(NITIAL FORM,SOLATED FORM),MEDIAL FORM))),OON.( (FINAL FORM,GHUNNA.( (",
    "FINAL FORM,ISOLATED FORM)),I(NITIAL FORM,SOLATED FORM),MEDIAL FORM,WITH (DOT BELOW,",
    "INVERTED SMALL V,RING,SMALL (TAH,V),T(HREE DOTS ABOVE,WO DOTS BELOW)))),YEH.( (FINAL FORM,I(",
    "NITIAL FORM,SOLATED FORM),MEDIAL FORM))),OE.( (FINAL FORM,ISOLATED FORM)),PEH.( (FINAL FORM,",
    "I(NITIAL FORM,SOLATED FORM),MEDIAL FORM,WITH SMALL (MEEM ABOVE,V)),EH.( (FINAL FORM,I(",
    "NITIAL FORM,SOLATED FORM),MEDIAL FORM))),QAF.( (FINAL FORM,I(NITIAL FORM,SOLATED FORM),",
    "MEDIAL FORM,WITH (DOT (ABOVE,BELOW.( AND NO DOTS ABOVE)),THREE DOTS ABOVE))),R(EH.( (",
    "FINAL FORM,ISOLATED FORM,WITH (DOT BELOW.( AND DOT ABOVE),FOUR DOTS ABOVE,HAMZA ABOVE,",
    "INVERTED V,LOOP,RING,S(MALL (ARABIC LETTER TAH AND TWO DOTS,NOON ABOVE,V.( BELOW)),TROKE),",
    "TWO DOTS (ABOVE,VERTICALLY ABOVE)))),NOON.( (FINAL FORM,I(NITIAL FORM,SOLATED FORM),",
    "MEDIAL FORM)),OHINGYA YEH,REH.( (FINAL FORM,ISOLATED FORM))),S(AD.( (FINAL FORM,I(",
    "NITIAL FORM,SOLATED FORM),MEDIAL FORM,WITH T(HREE DOTS (ABOVE,BELOW),WO DOTS BELOW))),EEN.( (",
    "FINAL FORM,I(NITIAL FORM,SOLATED FORM),MEDIAL FORM,WITH (DOT BELOW AND DOT ABOVE,",
    "EXTENDED ARABIC-INDIC DIGIT FOUR ABOVE,FOUR DOTS ABOVE,INVERTED V,",
    "SMALL ARABIC LETTER TAH AND TWO DOTS,T(HREE DOTS BELOW.( AND THREE DOTS ABOVE),",
    "WO DOTS VERTICALLY ABOVE)))),HEEN.( (FINAL FORM,I(NITIAL FORM,SOLATED FORM),MEDIAL FORM,",
    "WITH DOT BELOW)),TRAIGHT WAW,UPERSCRIPT ALEF,WASH KAF),T(AH.( (FINAL FORM,I(NITIAL FORM,",
    "SOLATED FORM),MEDIAL FORM,WITH (DOT BELOW,T(HREE DOTS (ABOVE,BELOW),WO DOTS (ABOVE,",
    "VERTICALLY BELOW))))),CHEH.( (FINAL FORM,I(NITIAL FORM,SOLATED FORM),MEDIAL FORM,WITH (",
    "DOT ABOVE,SMALL V)),EH.( (FINAL FORM,I(NITIAL FORM,SOLATED FORM),MEDIAL FORM))),EH.( (",
    "FINAL FORM,I(NITIAL FORM,SOLATED FORM),M(ARBUTA.( (FINAL FORM,GOAL,ISOLATED FORM)),",
    "EDIAL FORM),WITH (RING,SMALL (TEH ABOVE,V),THREE DOTS ABOVE DOWNWARDS)),EH.( (FINAL FORM,I(",
    "NITIAL FORM,SOLATED FORM),MEDIAL FORM))),H(AL.( (FINAL FORM,ISOLATED FORM)),EH.( (FINAL FORM,",
    "I(NITIAL FORM,SOLATED FORM),MEDIAL FORM)),IN YEH),TEH.( (FINAL FORM,I(NITIAL FORM,",
    "SOLATED FORM),MEDIAL FORM,WITH SMALL V),EH.( (FINAL FORM,I(NITIAL FORM,SOLATED FORM),",
    "MEDIAL FORM)))),U.( (FINAL FORM,ISOLATED FORM,WITH HAMZA ABOVE.( ISOLATED FORM)),",
    "IGHUR KAZAKH KIRGHIZ ALEF MAKSURA (INITIAL FORM,MEDIAL FORM)),VE.( (FINAL FORM,",
    "ISOLATED FORM),H.( (FINAL FORM,I(NITIAL FORM,SOLATED FORM),MEDIAL FORM))),WAW.( (FINAL FORM,",
    "ISOLATED FORM,WITH (DOT (ABOVE,WITHIN),EXTENDED ARABIC-INDIC DIGIT T(HREE ABOVE,WO ABOVE),",
    "HAMZA ABOVE.( (FINAL FORM,ISOLATED FORM)),RING,TWO DOTS ABOVE))),Y(EH.( (BARREE.( (",
    "FINAL FORM,ISOLATED FORM,WITH (EXTENDED ARABIC-INDIC DIGIT T(HREE ABOVE,WO ABOVE),",
    "HAMZA ABOVE.( (FINAL FORM,ISOLATED FORM))))),FINAL FORM,I(NITIAL FORM,SOLATED FORM),",
    "MEDIAL FORM,WITH (HAMZA ABOVE.( (FINAL FORM,I(NITIAL FORM,SOLATED FORM),MEDIAL FORM)),",
    "SMALL V,T(AIL,HREE DOTS BELOW,WO DOTS BELOW AND (DOT ABOVE,HAMZA ABOVE,SMALL NOON ABOVE))))),",
    "U.( (FINAL FORM,ISOLATED FORM))),ZA(H.( (FINAL FORM,I(NITIAL FORM,SOLATED FORM),",
    "MEDIAL FORM)),IN.( (FINAL FORM,ISOLATED FORM,WITH INVERTED V ABOVE))))),IGATURE (A(IN WITH (",
    "ALEF MAKSURA (FINAL FORM,ISOLATED FORM),JEEM (I(NITIAL FORM,SOLATED FORM),WITH MEEM (",
    "FINAL FORM,INITIAL FORM)),MEEM (I(NITIAL FORM,SOLATED FORM),WITH (ALEF MAKSURA FINAL FORM,",
    "MEEM (FINAL FORM,INITIAL FORM),YEH FINAL FORM)),YEH (FINAL FORM,ISOLATED FORM)),",
    "KBAR ISOLATED FORM,L(AYH(AA AS-SALAAM,E ISOLATED FORM,I( AS-SALAA(M,TU WAS-SALAAM),M(",
    " AS-SALAAM,AA AS-SALAAM))),EF (MAKSURA WITH SUPERSCRIPT ALEF (FINAL FORM,ISOLATED FORM),",
    "WITH FATHATAN (FINAL FORM,ISOLATED FORM)),LAH ISOLATED FORM),ZZA WA JALL),B(EH WITH (",
    "ALEF MAKSURA (FINAL FORM,ISOLATED FORM),H(AH (I(NITIAL FORM,SOLATED FORM),",
    "WITH YEH FINAL FORM),EH (INITIAL FORM,MEDIAL FORM)),JEEM I(NITIAL FORM,SOLATED FORM),KHAH (I(",
    "NITIAL FORM,SOLATED FORM),WITH YEH FINAL FORM),MEEM (FINAL FORM,I(NITIAL FORM,SOLATED FORM),",
    "MEDIAL FORM),NOON FINAL FORM,REH FINAL FORM,YEH (FINAL FORM,ISOLATED FORM),ZAIN FINAL FORM),",
    "ISMILLAH AR-RAHMAN AR-RAHEEM),DAD WITH (ALEF MAKSURA (FINAL FORM,ISOLATED FORM),HAH (I(",
    "NITIAL FORM,SOLATED FORM),WITH (ALEF MAKSURA FINAL FORM,YEH FINAL FORM)),JEEM I(NITIAL FORM,",
    "SOLATED FORM),KHAH (I(NITIAL FORM,SOLATED FORM),WITH MEEM (FINAL FORM,INITIAL FORM)),MEEM I(",
    "NITIAL FORM,SOLATED FORM),REH (FINAL FORM,ISOLATED FORM),YEH (FINAL FORM,ISOLATED FORM)),",
    "FEH WITH (ALEF MAKSURA (FINAL FORM,ISOLATED FORM),HAH I(NITIAL FORM,SOLATED FORM),JEEM I(",
    "NITIAL FORM,SOLATED FORM),KHAH (I(NITIAL FORM,SOLATED FORM),WITH MEEM (FINAL FORM,",
    "INITIAL FORM)),MEEM (I(NITIAL FORM,SOLATED FORM),WITH YEH FINAL FORM),YEH (FINAL FORM,",
    "ISOLATED FORM)),GHAIN WITH (ALEF MAKSURA (FINAL FORM,ISOLATED FORM),JEEM I(NITIAL FORM,",
    "SOLATED FORM),MEEM (I(NITIAL FORM,SOLATED FORM),WITH (ALEF MAKSURA FINAL FORM,",
    "MEEM FINAL FORM,YEH FINAL FORM)),YEH (FINAL FORM,ISOLATED FORM)),H(AH WITH (ALEF MAKSURA (",
    "FINAL FORM,ISOLATED FORM),JEEM (I(NITIAL FORM,SOLATED FORM),WITH YEH FINAL FORM),MEEM (I(",
    "NITIAL FORM,SOLATED FORM),WITH (ALEF MAKSURA FINAL FORM,YEH FINAL FORM)),YEH (FINAL FORM,",
    "ISOLATED FORM)),EH WITH (ALEF MAKSURA ISOLATED FORM,JEEM I(NITIAL FORM,SOLATED FORM),MEEM (I(",
    "NITIAL FORM,SOLATED FORM),WITH (JEEM INITIAL FORM,MEEM INITIAL FORM)),",
    "SUPERSCRIPT ALEF INITIAL FORM,YEH ISOLATED FORM)),J(ALLAJALALOUHOU,EEM WITH (ALEF MAKSURA (",
    "FINAL FORM,ISOLATED FORM),HAH (I(NITIAL FORM,SOLATED FORM),WITH (ALEF MAKSURA FINAL FORM,",
    "YEH FINAL FORM)),MEEM (I(NITIAL FORM,SOLATED FORM),WITH (ALEF MAKSURA FINAL FORM,HAH (",
    "FINAL FORM,INITIAL FORM),YEH FINAL FORM)),YEH (FINAL FORM,ISOLATED FORM))),K(AF WITH (ALEF (",
    "FINAL FORM,ISOLATED FORM,MAKSURA (FINAL FORM,ISOLATED FORM)),HAH I(NITIAL FORM,SOLATED FORM),",
    "JEEM I(NITIAL FORM,SOLATED FORM),KHAH I(NITIAL FORM,SOLATED FORM),LAM (FINAL FORM,I(",
    "NITIAL FORM,SOLATED FORM),MEDIAL FORM),MEEM (FINAL FORM,I(NITIAL FORM,SOLATED FORM),",
    "MEDIAL FORM,WITH (MEEM (FINAL FORM,INITIAL FORM),YEH FINAL FORM)),YEH (FINAL FORM,",
    "ISOLATED FORM)),HAH WITH (ALEF MAKSURA (FINAL FORM,ISOLATED FORM),HAH ISOLATED FORM,JEEM I(",
    "NITIAL FORM,SOLATED FORM),MEEM I(NITIAL FORM,SOLATED FORM),YEH (FINAL FORM,ISOLATED FORM))),",
    "LAM WITH (ALEF (FINAL FORM,ISOLATED FORM,MAKSURA (FINAL FORM,ISOLATED FORM),WITH (HAMZA (",
    "ABOVE (FINAL FORM,ISOLATED FORM),BELOW (FINAL FORM,ISOLATED FORM)),MADDA ABOVE (FINAL FORM,",
    "ISOLATED FORM))),H(AH (I(NITIAL FORM,SOLATED FORM),WITH (ALEF MAKSURA FINAL FORM,MEEM (",
    "FINAL FORM,INITIAL FORM),YEH FINAL FORM)),EH INITIAL FORM),JEEM (I(NITIAL FORM,SOLATED FORM),",
    "WITH (JEEM (FINAL FORM,INITIAL FORM),MEEM (FINAL FORM,INITIAL FORM),YEH FINAL FORM)),KHAH (I(",
    "NITIAL FORM,SOLATED FORM),WITH MEEM (FINAL FORM,INITIAL FORM)),MEEM (FINAL FORM,I(",
    "NITIAL FORM,SOLATED FORM),MEDIAL FORM,WITH (HAH (FINAL FORM,INITIAL FORM),YEH FINAL FORM)),",
    "YEH (FINAL FORM,ISOLATED FORM)),M(EEM WITH (ALEF (FINAL FORM,MAKSURA ISOLATED FORM),HAH (I(",
    "NITIAL FORM,SOLATED FORM),WITH (JEEM INITIAL FORM,MEEM INITIAL FORM,YEH FINAL FORM)),JEEM (I(",
    "NITIAL FORM,SOLATED FORM),WITH (HAH INITIAL FORM,KHAH INITIAL FORM,MEEM INITIAL FORM,",
    "YEH FINAL FORM)),KHAH (I(NITIAL FORM,SOLATED FORM),WITH (JEEM INITIAL FORM,MEEM INITIAL FORM,",
    "YEH FINAL FORM)),MEEM (FINAL FORM,I(NITIAL FORM,SOLATED FORM),WITH YEH FINAL FORM),",
    "YEH ISOLATED FORM),OHAMMAD ISOLATED FORM),NOON WITH (ALEF MAKSURA (FINAL FORM,ISOLATED FORM),",
    "H(AH (I(NITIAL FORM,SOLATED FORM),WITH (ALEF MAKSURA FINAL FORM,MEEM INITIAL FORM,",
    "YEH FINAL FORM)),EH (INITIAL FORM,MEDIAL FORM)),JEEM (I(NITIAL FORM,SOLATED FORM),WITH (",
    "ALEF MAKSURA FINAL FORM,HAH (FINAL FORM,INITIAL FORM),MEEM (FINAL FORM,INITIAL FORM),",
    "YEH FINAL FORM)),KHAH I(NITIAL FORM,SOLATED FORM),MEEM (FINAL FORM,I(NITIAL FORM,",
    "SOLATED FORM),MEDIAL FORM,WITH (ALEF MAKSURA FINAL FORM,YEH FINAL FORM)),NOON FINAL FORM,",
    "REH FINAL FORM,YEH (FINAL FORM,ISOLATED FORM),ZAIN FINAL FORM),Q(A(F WITH (ALEF MAKSURA (",
    "FINAL FORM,ISOLATED FORM),HAH I(NITIAL FORM,SOLATED FORM),MEEM (I(NITIAL FORM,SOLATED FORM),",
    "WITH (HAH (FINAL FORM,INITIAL FORM),MEEM FINAL FORM,YEH FINAL FORM)),YEH (FINAL FORM,",
    "ISOLATED FORM)),LA USED AS KORANIC STOP SIGN ISOLATED FORM),UDDISA SIRRAH),R(A(",
    "DI ALLAAHU ANH.(AA,U(M.(AA),NNA)),HIMAHU( ALLAAH,M ALLAAH),SOUL ISOLATED FORM),",
    "EH WITH SUPERSCRIPT ALEF ISOLATED FORM),S(A(D WITH (ALEF MAKSURA (FINAL FORM,ISOLATED FORM),",
    "HAH (I(NITIAL FORM,SOLATED FORM),WITH (HAH (FINAL FORM,INITIAL FORM),YEH FINAL FORM)),",
    "KHAH INITIAL FORM,MEEM (I(NITIAL FORM,SOLATED FORM),WITH MEEM (FINAL FORM,INITIAL FORM)),",
    "REH (FINAL FORM,ISOLATED FORM),YEH (FINAL FORM,ISOLATED FORM)),L(A(AMUHU ALAYNAA,",
    "M ISOLATED FORM),LA( (ISOLATED FORM,USED AS KORANIC STOP SIGN ISOLATED FORM),LLA(",
    "AHU ALAYHI WA-AALIH,H(OU ALAYHE WASALLAM,U ALAYHI WAAALIHEE WA-SALLAM))))),EEN WITH (",
    "ALEF MAKSURA (FINAL FORM,ISOLATED FORM),H(AH (I(NITIAL FORM,SOLATED FORM),MEDIAL FORM,",
    "WITH JEEM INITIAL FORM),EH (INITIAL FORM,MEDIAL FORM)),JEEM (I(NITIAL FORM,SOLATED FORM),",
    "MEDIAL FORM,WITH (ALEF MAKSURA FINAL FORM,HAH INITIAL FORM)),KHAH (I(NITIAL FORM,",
    "SOLATED FORM),MEDIAL FORM,WITH (ALEF MAKSURA FINAL FORM,YEH FINAL FORM)),MEEM (I(NITIAL FORM,",
    "SOLATED FORM),MEDIAL FORM,WITH (HAH (FINAL FORM,INITIAL FORM),JEEM INITIAL FORM,MEEM (",
    "FINAL FORM,INITIAL FORM))),REH (FINAL FORM,ISOLATED FORM),YEH (FINAL FORM,ISOLATED FORM)),H(",
    "ADDA WITH (DAMMA( (ISOLATED FORM,MEDIAL FORM),TAN ISOLATED FORM),FATHA (ISOLATED FORM,",
    "MEDIAL FORM),KASRA( (ISOLATED FORM,MEDIAL FORM),TAN ISOLATED FORM),",
    "SUPERSCRIPT ALEF ISOLATED FORM),EEN WITH (ALEF MAKSURA (FINAL FORM,ISOLATED FORM),H(AH (",
    "FINAL FORM,I(NITIAL FORM,SOLATED FORM),MEDIAL FORM,WITH (MEEM (FINAL FORM,INITIAL FORM),",
    "YEH FINAL FORM)),EH (INITIAL FORM,MEDIAL FORM)),JEEM (FINAL FORM,I(NITIAL FORM,SOLATED FORM),",
    "MEDIAL FORM,WITH YEH FINAL FORM),KHAH (FINAL FORM,I(NITIAL FORM,SOLATED FORM),MEDIAL FORM),",
    "MEEM (FINAL FORM,I(NITIAL FORM,SOLATED FORM),MEDIAL FORM,WITH (KHAH (FINAL FORM,",
    "INITIAL FORM),MEEM (FINAL FORM,INITIAL FORM))),REH (FINAL FORM,ISOLATED FORM),YEH (",
    "FINAL FORM,ISOLATED FORM))),UBHAANAHU WA TAAALAA),T(A(BAARAKA WA-TAAALAA,H WITH (",
    "ALEF MAKSURA (FINAL FORM,ISOLATED FORM),HAH I(NITIAL FORM,SOLATED FORM),MEEM (I(NITIAL FORM,",
    "SOLATED FORM),MEDIAL FORM,WITH (HAH (FINAL FORM,INITIAL FORM),MEEM INITIAL FORM,",
    "YEH FINAL FORM)),YEH (FINAL FORM,ISOLATED FORM))),EH WITH (ALEF MAKSURA (FINAL FORM,",
    "ISOLATED FORM),H(AH (I(NITIAL FORM,SOLATED FORM),WITH (JEEM (FINAL FORM,INITIAL FORM),",
    "MEEM INITIAL FORM)),EH (INITIAL FORM,MEDIAL FORM)),JEEM (I(NITIAL FORM,SOLATED FORM),WITH (",
    "ALEF MAKSURA FINAL FORM,MEEM INITIAL FORM,YEH FINAL FORM)),KHAH (I(NITIAL FORM,SOLATED FORM),",
    "WITH (ALEF MAKSURA FINAL FORM,MEEM INITIAL FORM,YEH FINAL FORM)),MEEM (FINAL FORM,I(",
    "NITIAL FORM,SOLATED FORM),MEDIAL FORM,WITH (ALEF MAKSURA FINAL FORM,HAH INITIAL FORM,",
    "JEEM INITIAL FORM,KHAH INITIAL FORM,YEH FINAL FORM)),NOON FINAL FORM,REH FINAL FORM,YEH (",
    "FINAL FORM,ISOLATED FORM),ZAIN FINAL FORM),H(AL WITH SUPERSCRIPT ALEF ISOLATED FORM,EH WITH (",
    "ALEF MAKSURA (FINAL FORM,ISOLATED FORM),HEH MEDIAL FORM,JEEM ISOLATED FORM,MEEM (FINAL FORM,",
    "I(NITIAL FORM,SOLATED FORM),MEDIAL FORM),NOON FINAL FORM,REH FINAL FORM,YEH (FINAL FORM,",
    "ISOLATED FORM),ZAIN FINAL FORM))),UIGHUR KIRGHIZ YEH WITH HAMZA ABOVE WITH ALEF MAKSURA (",
    "FINAL FORM,I(NITIAL FORM,SOLATED FORM)),WASALLAM ISOLATED FORM,YEH WITH (ALEF MAKSURA (",
    "FINAL FORM,ISOLATED FORM),H(A(H (I(NITIAL FORM,SOLATED FORM),WITH YEH FINAL FORM),",
    "MZA ABOVE WITH (A(E (FINAL FORM,ISOLATED FORM),LEF (FINAL FORM,ISOLATED FORM,MAKSURA (",
    "FINAL FORM,ISOLATED FORM))),E (FINAL FORM,I(NITIAL FORM,SOLATED FORM)),H(AH I(NITIAL FORM,",
    "SOLATED FORM),EH (INITIAL FORM,MEDIAL FORM)),JEEM I(NITIAL FORM,SOLATED FORM),",
    "KHAH INITIAL FORM,MEEM (FINAL FORM,I(NITIAL FORM,SOLATED FORM),MEDIAL FORM),NOON FINAL FORM,",
    "OE (FINAL FORM,ISOLATED FORM),REH FINAL FORM,U (FINAL FORM,ISOLATED FORM),WAW (FINAL FORM,",
    "ISOLATED FORM),Y(EH (FINAL FORM,ISOLATED FORM),U (FINAL FORM,ISOLATED FORM)),",
    "ZAIN FINAL FORM)),EH (INITIAL FORM,MEDIAL FORM)),JEEM (I(NITIAL FORM,SOLATED FORM),",
    "WITH YEH FINAL FORM),KHAH I(NITIAL FORM,SOLATED FORM),MEEM (FINAL FORM,I(NITIAL FORM,",
    "SOLATED FORM),MEDIAL FORM,WITH (MEEM (FINAL FORM,INITIAL FORM),YEH FINAL FORM)),",
    "NOON FINAL FORM,REH FINAL FORM,YEH (FINAL FORM,ISOLATED FORM),ZAIN FINAL FORM),",
    "ZAH WITH MEEM (I(NITIAL FORM,SOLATED FORM),MEDIAL FORM))),MA(DDA( WAAJIB,H ABOVE),RK (",
    "NOON GHUNNA,SIDEWAYS NOON GHUNNA),THEMATICAL (A(IN,LEF),BEH,D(A(D,L),O(TLESS (BEH,FEH,NOON,",
    "QAF),UBLE-STRUCK (AIN,BEH,DA(D,L),FEH,GHAIN,HAH,JEEM,KHAH,LAM,MEEM,NOON,QAF,REH,S(AD,EEN,",
    "HEEN),T(AH,EH,H(AL,EH)),WAW,YEH,ZA(H,IN)))),FEH,GHAIN,HAH,INITIAL (AIN,BEH,DAD,FEH,GHAIN,H(",
    "AH,EH),JEEM,K(AF,HAH),LAM,MEEM,NOON,QAF,S(AD,EEN,HEEN),T(EH,HEH),YEH),JEEM,K(AF,HAH),L(AM,",
    "OOPED (A(IN,LEF),BEH,DA(D,L),FEH,GHAIN,H(AH,EH),JEEM,KHAH,LAM,MEEM,NOON,QAF,REH,S(AD,EEN,",
    "HEEN),T(AH,EH,H(AL,EH)),WAW,YEH,ZA(H,IN))),MEEM,NOON,OPERATOR (HAH WITH DAL,",
    "MEEM WITH HAH WITH TATWEEL),QAF,REH,S(AD,EEN,HEEN,TRETCHED (AIN,BEH,D(AD,OTLESS (BEH,FEH)),",
    "FEH,GHAIN,H(AH,EH),JEEM,K(AF,HAH),MEEM,NOON,QAF,S(AD,EEN,HEEN),T(AH,EH,HEH),YEH,ZAH)),T(A(H,",
    "ILED (AIN,D(AD,OTLESS (NOON,QAF)),GHAIN,HAH,JEEM,KHAH,LAM,NOON,QAF,S(AD,EEN,HEEN),YEH)),EH,H(",
    "AL,EH)),WAW,YEH,ZA(H,IN))),NUMBER (MARK ABOVE,SIGN),OPEN (DAMMATAN,FATHATAN,KASRATAN),P(E(",
    "PET,RCENT SIGN),IASTRE MARK ABOVE,LACE OF SAJDAH,O(ETIC VERSE SIGN,UND MARK ABOVE)),",
    "QUESTION MARK,R(A(ISED ROUND DOT,Y),EVERSED DAMMA,IGHT ARROWHEAD (ABOVE.( WITH DOT),BELOW),",
    "OUNDED HIGH STOP WITH FILLED CENTRE),S(EMICOLON,HADDA.( (ISOLATED FORM,MEDIAL FORM)),IGN (",
    "ALAYHE ASSALLAM,MISRA,RA(DI ALLAHOU ANHU,HMATULLAH ALAYHE),S(A(FHA,",
    "LLALLAHOU ALAYHE WASSALLAM,MVAT,NAH),INDHI (AMPERSAND,POSTPOSITION MEN)),TAKHALLUS),MALL (",
    "DAMMA,FA(RSI YEH,THA),HIGH (AIN,DOTLESS HEAD OF KHAH,F(ARSI YEH,OOTNOTE MARKER),JEEM,L(",
    "AM ALEF,IGATURE (ALEF WITH LAM WITH YEH,QAF WITH LAM WITH ALEF MAKSURA,",
    "SAD WITH LAM WITH ALEF MAKSURA)),M(ADDA,EEM I(NITIAL FORM,SOLATED FORM)),NOON.( WITH KASRA),",
    "QAF,ROUNDED ZERO,S(AD,EEN,IGN SAFHA),T(AH,HREE DOTS),UPRIGHT RECTANGULAR ZERO,W(AW,ORD (A(",
    "L-JUZ,N-NISF,R-RUB,S-SAJDA,TH-THALATHA),QIF,SA(H,KTA),WAQFA)),YEH.(",
    " BARREE WITH TWO DOTS BELOW),ZA(H,IN)),KASRA,LOW (MEEM,NOON WITH KASRA,SEEN,W(AW,ORD (I(",
    "MAALA,SHMAAM),MADDA,QASR,SAKTA,TASHEEL))),WAW,YEH),TART OF RUB EL HIZB,U(BSCRIPT ALEF,KUN.( (",
    "BELOW,ISOLATED FORM,MEDIAL FORM)),PERSCRIPT ALEF MOKHASSAS),YMBOL (DO(T (ABOVE,BELOW),",
    "UBLE VERTICAL BAR BELOW),FOUR DOTS (ABOVE,BELOW),RING,SMALL TAH (ABOVE,BELOW),T(HREE DOTS (",
    "ABOVE,BELOW,POINTING DOWNWARDS (ABOVE,BELOW)),WO DOTS (ABOVE,BELOW,VERTICALLY (ABOVE,",
    "BELOW))),WASLA ABOVE)),T(A(IL FRAGMENT,TWEEL.( WITH (FATHATAN ABOVE,OVERSTRUCK (HAMZA,WAW),",
    "TWO DOTS BELOW))),HOUSANDS SEPARATOR,ONE (LOOP (ABOVE,BELOW),ONE DOT (ABOVE,BELOW),TWO DOTS (",
    "ABOVE,BELOW)),RIPLE DOT PUNCTUATION MARK,URNED DAMMA BELOW),V(ERTICAL TAIL,OWEL SIGN (",
    "DOT BELOW,INVERTED SMALL V ABOVE,SMALL V ABOVE)),WAVY HAMZA BELOW,ZWARAKAY),-INDIC (",
    "CUBE ROOT,DIGIT (EIGHT,F(IVE,OUR),NINE,ONE,S(EVEN,IX),T(HREE,WO),ZERO),FOURTH ROOT,PER (",
    "MILLE SIGN,TEN THOUSAND SIGN))),C,IES,MENIAN (A(BBREVIATION MARK,POSTROPHE),C(APITAL LETTER (",
    "AYB,BEN,C(A,H(A,EH),O),DA,E(CH,H,T),FEH,G(HAD,IM),HO,INI,J(A,HEH),KE(H,N),LIWN,MEN,NOW,OH,P(",
    "EH,IWR),R(A,EH),S(EH,HA),T(IWN,O),V(EW,O),XEH,YI.(WN),Z(A,HE)),OMMA),DRAM SIGN,E(",
    "MPHASIS MARK,XCLAMATION MARK),FULL STOP,HYPHEN,MODIFIER LETTER LEFT HALF RING,QUESTION MARK,",
    "SMALL L(ETTER (AYB,BEN,C(A,H(A,EH),O),DA,E(CH,H,T),FEH,G(HAD,IM),HO,INI,J(A,HEH),KE(H,N),",
    "LIWN,MEN,NOW,OH,P(EH,IWR),R(A,EH),S(EH,HA),T(IWN,O,URNED AYB),V(EW,O),XEH,YI.( WITH STROKE,",
    "WN),Z(A,HE)),IGATURE (ECH YIWN,MEN (ECH,INI,NOW,XEH),VEW NOW))),ROW( POINTING (",
    "DOWNWARDS THEN CURVING (LEFTWARDS,RIGHTWARDS),RIGHTWARDS THEN CURVING (DOWNWARDS,SOUTH WEST,",
    "UPWARDS),UPWARDS THEN NORTH WEST),HEAD-SHAPED POINTER),TI(CULATED LORRY,ST PALETTE)),S(C(",
    "ENDING NODE,IA SYMBOL),SERTION,T(ERIS(K.( OPERATOR),M),ONISHED FACE,R(AEA,",
    "ONOMICAL SYMBOL FOR URANUS)),YMPTOTICALLY EQUAL TO),T(HLETIC SHOE,OM SYMBOL),U(BERGINE,",
    "STRAL SIGN,TO( RICKSHAW,M(ATED TELLER MACHINE,OBILE))),V(ESTAN (ABBREVIATION MARK,LETTER (A.(",
    "A.(N,O),E.(E),N,O),B(E,HE),CE,D(E,HE),E.(E),FE,G(E,GE,HE),H(E,ME),I.(I),JE,KE,LE,ME,N(E,G(E,",
    "VE,YE),NE,YE),O.(O),PE,RE,S(E,H(E,YE),SHE),T(E,HE,TE),U.(U),VE,X(E,VE,YE),Y(E,YE),Z(E,HE))),",
    "OCADO),XE),B(A(BY.( (ANGEL,BOTTLE,CHICK,SYMBOL)),C(K( (OF ENVELOPE,",
    "WITH LEFTWARDS ARROW ABOVE),-TILTED SHADOWED WHITE RIGHTWARDS ARROW,",
    "SLANTED SOUTH ARROW WITH HO(OKED TAIL,RIZONTAL TAIL)),ON,TRIAN CAMEL),D(GER,",
    "MINTON RACQUET AND SHUTTLECOCK),G(EL,GAGE CLAIM,UETTE BREAD),L(INESE (ADEG ADEG,CARIK (PA(",
    "MUNGKAH,REREN),SIKI),DIGIT (EIGHT,F(IVE,OUR),NINE,ONE,S(EVEN,IX),T(HREE,WO),ZERO),",
    "INVERTED CARIK (PAREREN,SIKI),LETTER (A(IKARA,KARA.( TEDUNG),RCHAIC JNYA,SYURA SASAK),BA.(",
    " KEMBANG),CA.( LACA),DA.( M(ADU,URDA (ALPAPRANA,MAHAPRANA))),E(F SASAK,KARA),GA.( GORA),HA,",
    "IKARA.( TEDUNG),JA.( JERA),K(A.( MAHAPRANA,F SASAK),HOT SASAK),LA.( LENGA.( TEDUNG)),MA,N(A.(",
    " RAMBAT),GA,YA),OKARA.( TEDUNG),PA.( KAPAL),RA.( REPA.( TEDUNG)),SA.( SA(GA,PA)),T(A.( (",
    "LATIK,MURDA MAHAPRANA,TAWA)),ZIR SASAK),UKARA.( TEDUNG),VE SASAK,WA,YA,ZAL SASAK),",
    "MUSICAL SYMBOL (COMBINING (BENDE,ENDEP,GONG,JEGOGAN,KEMP(LI.( WITH JEGOGAN),UL.(",
    " WITH JEGOGAN)),TEGEH),D(A(ENG,ING,NG.( (GEDE,SURANG))),E(NG,UNG),ING,ONG,UNG),LEFT-HAND (",
    "CLOSED PL(AK,UK),OPEN P(ANG,ING,UNG)),RIGHT-HAND (CLOSED T(AK,UK),OPEN D(AG,UG))),PA(M(ADA.(",
    " LANTANG),ENENG),NTI.( (BAWAK,LANTANG))),SIGN (BISAH,CECEK,REREKAN,SURANG,ULU (CANDRA,",
    "RICEM)),VOWEL SIGN (LA LENGA.( TEDUNG),PEPET.( TEDUNG),RA REPA.( TEDUNG),SUKU.( ILUT),T(",
    "ALING.( (REPA.( TEDUNG),TEDUNG)),EDUNG),ULU.( SARI)),WINDU),L( OF YARN,ET SHOES,O(ON.(",
    "-SPOKED ASTERISK),T (BO(LD SCRIPT X,X.( WITH (B(ALLOT,OLD (CHECK,SCRIPT X)),CHECK,LIGHT X,",
    "SCRIPT X,X))),SCRIPT X,X)))),MUM (CO(LON,M(BINING MARK (KOQNDON,TUKWENTIS),MA)),FULL STOP,",
    "LETTER (A,EE,F(AAMAE,EE,OM,U),I,K(A,E(N,T,UX),I,O.(GHOM,VUU),PA,U,YEE),L(A,EEEE,I,OQ,U),M.(A,",
    "B(AA,EN),E(EEE,N),I,O,U),N(A,DAA,G(A,GA,KWAEN),I,J(AEM,EE,UAE),SHA,T(EE,UU),U.(AE),YI),O,P(A,",
    "E(E,UX),HASE-(A (FIRI,G(BIEE FON,HEUAE(GHEUAE,RAE)),K(A(FA,Q),E(T,UKEUTNDA),POQ,UOQ),L(APAQ,",
    "ET KUT,OMMAE,U.(AEP)),M(A(E(KEUP,M.(BGBIEE,KPEN,VEUX),NYI,SI),NSUAE,P PIEET),BA(NYI,Q),",
    "EUNJOMNDEUQ,GBASA,O(N NGGEUAET,OM(EUT,PUQ)),VEUAENGAM),N(A(A MFON,Q),DA( LEERAEWA,ANGGEUAET),",
    "EN,G(ANGU,GEN,KUE( MFON,NZEUM)),IKA,JAM,K(AARAE,INDI),SH(A,IEE),T(AP.( (MFAA,NTAA)),OQPEN),Y(",
    "ET,I.(T MONGKEUAEQ)),Z(A MFON,UN MEUT)),P(A( LEERAEWA,A(M,RAE),MSHAE,SHAE),ET,ON (",
    "MFON PIPAEM(BA,GBIEE),PA NJI PIPAEM(BA,GBIEE)),UP),ROM,S(EUNYAM,H(I(NDA PA NJI,RAE),",
    "OQ NSHUT YUM,U(ENSHUET,M)),ISA,O(NJAM,Q,T),UU),T(EU(AEN,TEUWEN),ITA MFON,U( MAEMBA,AEP)),U(",
    " YUQ NAE,NKNOWN),VEE),B (FE(E,UX),GHEUGHE(N,UAEM),K(AM,EU(AEM,PUQ,YEUX),I(EEM,Q)),L(A(ANAE,",
    "M NSHUT NYAM),ET,OM NTEUM),M(A.( NJ(EUAENA,UQA)),B(A( MAELEE,ARAE),EURI,IT MBAAKET,UOQ),EU(Q,",
    "T NGGEET),F(IYAQ,ON TEUAEQ),ONTIEEN),N(DU NJAA,G(G(AAM,EU MBU,UOQ.( LARGE)),KINDI MVOP,OM),S(",
    "EN,HUET),TIEE SHEUOQ,Y(AEMAE,I NTEUM)),P(ARUM,EESHI,IT,UNGAAM),S(AKEUAE,ET TU,HE(T NJAQ,",
    "UAEQTU),IEE,UE),T(AAM,U (MAEMGBIEE,NSIEE)),VEUM,WUAET,Y(AFU LEERAEWA,EURAE)),C (BUNG,FUE,G(",
    "BAYI,HA(P,RAE)),K(AA,E(N (FATIGUE,LAW),T,U(KAQ,M,S(EUX,HEUAEP))),PARAQ,U(OP NKAARAE,T)),L(A(",
    "M,P),IQ,U),M(A( (KEUAERI,NSIEE),E(MBA,SI)),B(A(A (CABBAGE-TREE,PICKET),NYI),E(EKEET,RAE,U(M,",
    "X)),I.(RIEEN,T),U(AEM,E)),GBASAQ,IEE,UAE),N(A(NSANAQ,Q),D(A(M,P),EU(AEREE,T),IDA,OMBU),G(AQ,",
    "G(EN,U.(AEN NYAM,EET,M,ON)),K(AQ,UE MAEMBA),OM),J(A(EM,M),E(EEE,UX),UEQ),S(A,EUAEN,HAQ,OM,U(",
    "N,OT NGOM)),T(AA,E(N,UNGBA),U MBIT),YIR MKPARAQ MEUN,Z(A,EUM)),P(EN,I(N,RIEEN)),RU,S(E(TFON,",
    "UX),H(IQ,UEQ),UAET),T(AASHAE,E(T,UTEUX),IT(A YUE,UAEP)),VEU(AEPEN,X),W(ANGKUOQ,UP),Y(AA,EUQ,",
    "U( MUOMAE,M,WOQ))),D (F(AA,EUFEUAET),GH(AA,EUAE),K(E(T,U(AETMEUN,M,OT MBUAE,P)),U.(N,OM,Q),",
    "WAET,YEE),L(E(EEE,T,U(AEP,M)),IEE,OQ,UM),M.(A(ENJET,LEERI),B(AA.( SEVEN),UO),E(EEE,U(N,T)),F(",
    "EU(AE,T),IEE,O.(N)),GB(EUN,IEE,OFUM),ONI,U,VOP),N(D(AM,E(E,UX),ON),G(G(A(AM.(AE),P),EUX,UOM,",
    "WAEN),K(AP,EU(AEQ,RI),IEE,UN,YEE)),I,J(AP,EU(AEM,T),I.(EE),UEQ),S(H(EE,UT),IEE(P,T),UM),T(E(",
    "E,UM),UU),U,Y(AM,ET,I,UE)),P(AP,E(E,UTAE),IP,U(Q,UT)),R(AEM,EN (MUCH,OLD),II),S(A(P,Q),EUAEQ,",
    "H(E(E,U(AE,X)),II,OQ,U),OT,U(AE,E,U)),T(AE,E(EEE,U(AEN,N,T)),I,OQ,U.(OT)),W(AP,UAEN),Y(",
    "AEMMAE,EN,U(O(M,P),WOQ))),E (A,F(A.(Q),EE,OM,U( (CALL,I,REMEDY),E.(T))),G(BE(T,UX),H(AAMAE,E(",
    "T,U(AE,N,X)),OM)),I,K(E(T,U(AE,X)),I,O,PEUX,U(ET,OP,T)),L(A(AM,P,Q),EUAEM,O(M,O(N,T),Q),U),M(",
    "A.(E.(M),P,Q),BE(E,UM),EN,FEUQ,GB(A,EN),I.(EE),ON,UAE,VI),N(A.(E),D(A(A (MY HOUSE,SOFTNESS),",
    "P),I(AQ,Q),UN),G(A,EUREUT,G(E(EEE,UAE.(T)),U(AESHAE NYAM,P,RAE)),K(A.(AMI),EU(AEM,X),U(M,P)),",
    "O(P,Q),UAE.(T)),J(AEMLI,E(E.( EPOCH),UX)),KOM,SH(IEE,U(E,OP)),T(AP,UM),YI (BETWEEN,CLEAVER),",
    "Z(AQ,UQ)),O,P(A( P(EOPLE,LURAL),A.(M)),E(EM,U(T,X)),I.(E(EQ,T)),O.(ON),U.(A(E,Q),E,M)),R(A(E,",
    "Q),EUX,IMGBA),S(AA,E(E,T),H(EUAEQ,IQ,O.(Q)),OM,UAEN),T(A(A.(Q),EN NTEUM,M,Q),E(N,U.(AEQ)),O(",
    "O.(N),Q),U(AE,M.(AE))),V(E(E,UAE),OM),W(EUX,U(E,O)),Y(AP,EU(AE.(T),M,X),I(EE,T),OQ (COVER,",
    "SWIMMING),U(AEN,EQ,N,Q))),F (EE,FOM,K(A,E(N,T),O,PA,U,YEE),L(A,I,OQ),M.(A,B(AA,EN),EEEE,O),N(",
    "DAA,G(GA,KWAEN),I,J(AEM,UAE),SHA,TEE,U.(AE),YI),P(E(E,UX),UAE),R(E(E,N,UX),I(EE,I),U),S(AMBA,",
    "EUX,H(II,O,U),I,UU),T(A(A,E),ET),U,VUEQ,W(A,UE),Y(A,OQ))),I,U(AE,E)),R(AE,E(E,N,UX),I(EE,I),",
    "U),S(AMBA,EUX,H(EUX,II,O,U),I,UU),T(A(A,E),E(N,T),I),U,W(A,UE),Y(A,OQ,UQ)),NJAEMLI,",
    "QUESTION MARK,SEMICOLON),N(ANA,JO,K.(NOTE WITH (DOLLAR SIGN,EURO SIGN,POUND SIGN,YEN SIGN))),",
    "R( (CHART,OF SOAP),BER POLE),S(EBALL,KET.(BALL AND HOOP),SA VAH (COMBINING (HIGH( TONE,",
    "-LOW TONE),LOW( TONE,-MID TONE),MID TONE),FULL STOP,LETTER (A,BA,CE,D(HII,O),E.(E,NNI),FA,G(",
    "AH,BU),HWAH,I,JO,K(A,PAH),MBE,O.(O),PA,SE,TO,U.(WU),VU,WA.(DDA),Y(EIN,IE),ZO))),T.(AK (",
    "CONSONANT SIGN (H,NG),LETTER (A,BA,CA,DA,GA,HA,I,JA,KARO BA,LA,M(A.(NDAILING (HA,NA,SA)),BA),",
    "N(A,DA,GA,ORTHERN TA,YA),PA.(KPAK WA),RA,S(A,IMALUNGUN (A,GA,HA,LA,MA,PA,RA,SA,WA,YA),",
    "OUTHERN TA),U,WA,YA),PAN(GOLAT,ONGONAN),S(IGN TOMPI,YMBOL BINDU (JUDUL,NA METEK,P(ANGOLAT,",
    "INARBORAS))),VOWEL SIGN (E.(E),I,KARO (I,O),O,PAKPAK E,U.( FOR SIMALUNGUN SA))),H.(TUB),",
    "TERY)),E(A(CH WITH UMBRELLA,MED (ASCENDING MUSICAL NOTES,DESCENDING MUSICAL NOTES,",
    "EIGHTH NOTES,SIXTEENTH NOTES),NS,R( FACE,DED PERSON),TING HEART,VER),CAUSE,D,E(R MUG,TLE),",
    "LL.( (PEPPER,SYMBOL,WITH CANCELLATION STROKE),HOP BELL),N(GALI (A(BBREVIATION SIGN,NJI,",
    "U LENGTH MARK),CURRENCY (DENOMINATOR SIXTEEN,NUMERATOR (FOUR,ONE.(",
    " LESS THAN THE DENOMINATOR),T(HREE,WO))),DIGIT (EIGHT,F(IVE,OUR),NINE,ONE,S(EVEN,IX),T(HREE,",
    "WO),ZERO),GANDA MARK,ISSHAR,LETTER (A.(A,I,U),B(A,HA),C(A,HA),D(A,D(A,HA),HA),E,G(A,HA),HA,",
    "I.(I),J(A,HA),K(A,HA.(NDA TA)),LA,MA,N(A,GA,NA,YA),O,P(A,HA),R(A.( WITH (LOWER DIAGONAL,",
    "MIDDLE DIAGONAL)),HA,RA),S(A,HA,SA),T(A,HA,T(A,HA)),U.(U),V(EDIC ANUSVARA,OCALIC (L.(L),R.(",
    "R))),Y(A,YA)),RUPEE (MARK,SIGN),S(ANDHI MARK,IGN (A(NUSVARA,VAGRAHA),CANDRABINDU,NUKTA,VI(",
    "RAMA,SARGA))),VOWEL SIGN (A(A,I,U),E,I.(I),O,U.(U),VOCALIC (L.(L),R.(R)))),T(",
    " ARROW POINTING DOWNWARDS THEN NORTH EAST,O BOX),ZENE RING.( WITH CIRCLE)),T( SYMBOL,WEEN),",
    "VERAGE BOX),HAIKSUKI (D(ANDA,IGIT (EIGHT,F(IVE,OUR),NINE,ONE,S(EVEN,IX),T(HREE,WO),ZERO),",
    "OUBLE DANDA),GAP FILLER-(1,2),HUNDREDS UNIT MARK,LETTER (A.(A,I,U),B(A,HA),C(A,HA),D(A,D(A,",
    "HA),HA),E,G(A,HA),HA,I.(I),J(A,HA),K(A,HA),LA,MA,N(A,GA,NA,YA),O,P(A,HA),RA,S(A,HA,SA),T(A,",
    "HA,T(A,HA)),U.(U),V(A,OCALIC (L,R.(R))),YA),NUMBER (EIGHT.(Y),F(I(FTY,VE),O(RTY,UR)),NINE.(",
    "TY),ONE,S(EVEN.(TY),IX.(TY)),T(EN,H(IRTY,REE),W(ENTY,O))),SIGN (A(NUSVARA,VAGRAHA),",
    "CANDRABINDU,VI(RAMA,SARGA)),VOWEL SIGN (A(A,I,U),E,I.(I),O,U.(U),VOCALIC (L,R.(R))),",
    "WORD SEPARATOR),I(CYCL(E,IST),G (REVERSE SOLIDUS,SOLIDUS),KINI,LL(ED CAP,IARDS),OHAZARD SIGN,",
    "R(D,THDAY CAKE),SON,T(COIN SIGN,ING LIP)),L(A(CK( (BOWTIE,C(ENTRE WHITE STAR,HESS (BISHOP.(",
    " ROTATED (NINETY DEGREES,TWO HUNDRED SEVENTY DEGREES)),EQUIHOPPER.( ROTATED NINETY DEGREES),",
    "K(ING.( ROTATED (NINETY DEGREES,TWO HUNDRED SEVENTY DEGREES)),NIGHT.( ROTATED (",
    "FORTY-FIVE DEGREES,NINETY DEGREES,ONE HUNDRED THIRTY-FIVE DEGREES,T(",
    "HREE HUNDRED FIFTEEN DEGREES,WO HUNDRED (SEVENTY DEGREES,TWENTY-FIVE DEGREES))),-(BISHOP,",
    "QUEEN,ROOK))),PAWN.( ROTATED (NINETY DEGREES,TWO HUNDRED SEVENTY DEGREES)),QUEEN.( ROTATED (",
    "NINETY DEGREES,TWO HUNDRED SEVENTY DEGREES)),ROOK.( ROTATED (NINETY DEGREES,",
    "TWO HUNDRED SEVENTY DEGREES)),TURNED (BISHOP,K(ING,NIGHT),PAWN,QUEEN,ROOK)),IRCLE.( (",
    "FOR RECORD,WITH (DOWN ARROW,TWO WHITE DOTS,WHITE DOT RIGHT))),LUB SUIT,ROSS ON SHIELD,URVED (",
    "DOWNWARDS AND (LEFTWARDS ARROW,RIGHTWARDS ARROW),LEFTWARDS AND (DOWNWARDS ARROW,",
    "UPWARDS ARROW),RIGHTWARDS AND (DOWNWARDS ARROW,UPWARDS ARROW),UPWARDS AND (LEFTWARDS ARROW,",
    "RIGHTWARDS ARROW))),D(IAMOND.( (CENTRED,MINUS WHITE X,ON CROSS,SUIT,WITH DOWN ARROW)),OWN(",
    " POINTING BACKHAND INDEX,-POINTING (DOUBLE TRIANGLE,ISOSCELES RIGHT TRIANGLE,SMALL TRIANGLE,",
    "TRIANGLE),WARDS EQUILATERAL ARROWHEAD),R(AUGHTS (KING,MAN),OPLET)),F(L(AG,ORETTE),O(LDER,",
    "UR POINTED STAR)),H(ARD SHELL FLOPPY DISK,E(ART.( SUIT),XAGON),O(RIZONTAL ELLIPSE,URGLASS)),",
    "L(ARGE (CIRCLE.( MINUS (L(EFT QUARTER SECTION,OWER QUARTER SECTION),RIGHT QUARTER SECTION,",
    "UPPER QUARTER SECTION)),SQUARE),EFT( (LANE MERGE,POINTING (BACKHAND INDEX,INDEX)),-POINTING (",
    "DOUBLE TRIANGLE.( WITH VERTICAL BAR),ISOSCELES RIGHT TRIANGLE,POINTER,SMALL TRIANGLE,",
    "TRIANGLE),WARDS (BULLET,EQUILATERAL ARROWHEAD)),O(WER (LEFT TRIANGLE,RIGHT TRIANGLE),ZENGE)),",
    "M(EDIUM (D(IAMOND,OWN-POINTING TRIANGLE.( CENTRED)),L(EFT-POINTING TRIANGLE.( CENTRED),",
    "OZENGE),RIGHT-POINTING TRIANGLE.( CENTRED),S(MALL (DIAMOND,LOZENGE,SQUARE),QUARE),",
    "UP-POINTING TRIANGLE.( CENTRED)),OON LILITH),N(EUTRAL FACE,IB),OCTAGON,P(ARALLELOGRAM,EN(",
    "NANT,TAGON),USHPIN),QUESTION MARK ORNAMENT,R(ECTANGLE,IGHT( (POINTING (BACKHAND INDEX,INDEX),",
    "TRIANGLE CARET),-POINTING (DOUBLE TRIANGLE.( WITH VERTICAL BAR),ISOSCELES RIGHT TRIANGLE,P(",
    "ENTAGON,OINTER),SMALL TRIANGLE,TRIANGLE.( WITH DOUBLE VERTICAL BAR)),WARDS (ARROW.(HEAD),",
    "BULLET,EQUILATERAL ARROWHEAD)),OSETTE),S(AFETY SCISSORS,CISSORS,HOGI PIECE,",
    "KULL AND CROSSBONES,LIGHTLY SMALL (CIRCLE,SQUARE),M(ALL (DIAMOND,LOZENGE,S(QUARE,TAR),",
    "UP-POINTING CHEVRON),ILING FACE),NOWMAN,PADE SUIT,QUARE.( (BUTTON,CENTRED,FOR STOP)),TAR,",
    "UN WITH RAYS),T(ELEPHONE,INY (DIAMOND,LOZENGE,SQUARE),OUCHTONE TELEPHONE,RUCK,",
    "WO-WAY LEFT WAY TRAFFIC),U(NIVERSAL RECYCLING SYMBOL,P( POINTING BACKHAND INDEX,-POINTING (",
    "DOUBLE TRIANGLE,ISOSCELES RIGHT TRIANGLE,SMALL TRIANGLE,TRIANGLE),PER (LEFT TRIANGLE,",
    "RIGHT TRIANGLE),WARDS EQUILATERAL ARROWHEAD)),VER(TICAL (ELLIPSE,RECTANGLE),Y SMALL (DIAMOND,",
    "LOZENGE,SQUARE))),-(FEATHERED (NORTH EAST ARROW,RIGHTWARDS ARROW,SOUTH EAST ARROW),",
    "LETTER CAPITAL (C,H,I,R,Z))),NK SYMBOL),O(CK (OCTANT-(1(2(3.(4(5.(6(7,8),78,8),6.(7.(8)),7.(",
    "8),8),5.(6.(7.(8),8),7.(8),8),6.(7.(8),8),7.(8),8),4.(5.(6.(7.(8),8),7.(8),8),6.(7.(8),8),7.(",
    "8),8),5.(6.(7.(8),8),7.(8),8),6.(7.(8),8),7.(8),8),3(4.(5.(6.(7.(8),8),7.(8),8),6.(7.(8),8),",
    "7.(8),8),5.(6.(7,8),78,8),6.(7.(8)),7.(8),8),4.(5.(6.(7.(8),8),7.(8),8),6.(7.(8),8),7.(8),8),",
    "5.(6.(7.(8),8),7.(8),8),6.(7.(8),8),7.(8),8),2(3.(4.(5.(6.(7.(8),8),7.(8),8),6.(7.(8),8),7.(",
    "8),8),5.(6.(7.(8),8),7.(8),8),6.(7.(8),8),7.(8),8),4(5.(6.(7,8),78,8),6.(7.(8)),7.(8),8),5.(",
    "6.(7.(8),8),7.(8),8),6.(7.(8),8),7.(8),8),3.(4.(5.(6.(7,8),7.(8),8),6.(7.(8),8),7.(8),8),5(",
    "6.(7.(8),8),7.(8),8),6.(7.(8),8),7.(8),8),4.(5.(6.(7.(8),8),7.(8),8),6(7.(8),8),7.(8),8),5.(",
    "6.(7,8),78,8),6.(7.(8))),SEXTANT-(1.(2.(3.(4.(5,6),5.(6),6),4.(5.(6),6),5.(6),6),3.(4.(5.(6),",
    "6),56,6),4.(5.(6),6),5.(6),6),2.(3.(4.(5.(6),6),5.(6),6),4.(5.(6)),5.(6),6),3.(4.(5.(6),6),",
    "5.(6),6),4.(5.(6),6),5.(6),6)),SSOM,WFISH),UE( (BOOK,HEART),BERRIES)),O(AR,LD (",
    "EIGHT SPOKED ASTERISK,FIVE SPOKED ASTERISK,GREEK CROSS,S(ALTIRE,IX SPOKED ASTERISK),WHITE (",
    "CIRCLE,SQUARE)),MB,NE,O(K.(MARK.( TABS),S),MERANG),POMOFO (FINAL LETTER (G,H,K,P,T),LETTER (",
    "A.(H,I.(NN),M,N.(G,N),U.(NN)),B.(U),C.(H),D,E.(E,H,I,N.(G,N),R),F,G.(H,N,U,W),H,I.(H,M,NN.(",
    "N),R,U),J.(I),K.(W),L.(H),M,N.(G.(G),N),O.( WITH DOT ABOVE,E,M,N(G,N),O,U),P,Q,R,S.(H),T,U.(",
    "NN),V,X,Z.(H,I,Y))),TT(LE WITH POPPING CORK,OM (ARC ANTICLOCKWISE ARROW,CURLY BRACKET,HALF (",
    "BLACK CIRCLE,FORWARD-FACING R(OBOT,UNNER FRAME-(1,2,3,4)),INTEGRAL,LEFT( PARENTHESIS,",
    "-FACING R(OBOT,UNNER FRAME-(1,2))),RIGHT( PARENTHESIS,-FACING R(OBOT,UNNER FRAME-(1,2))),",
    "STANDING PERSON),JUSTIFIED UPPER HALF (BLACK CIRCLE,WHITE CIRCLE),LEFT (C(ORNER,ROP),",
    "HALF BRACKET,JUSTIFIED UPPER RIGHT QUARTER BLACK CIRCLE),PARENTHESIS,RIGHT (C(ORNER,ROP),",
    "HALF BRACKET,JUSTIFIED UPPER LEFT QUARTER BLACK CIRCLE),SQUARE BRACKET.(",
    " OVER TOP SQUARE BRACKET),TORTOISE SHELL BRACKET)),UQUET.( OF FLOWERS),W( AND ARROW,L( (",
    "OF HYGIEIA,WITH SPOON),ING),TIE.( WITH (LEFT HALF BLACK,RIGHT HALF BLACK))),X( DRAWINGS (DO(",
    "UBLE (D(IAGONAL (LOWER LEFT TO MIDDLE CENTRE TO LOWER RIGHT,UPPER (LEFT TO (LOWER RIGHT,",
    "MIDDLE CENTRE TO UPPER RIGHT),RIGHT TO LOWER LEFT)),OWN AND (HORIZONTAL,LEFT,RIGHT)),",
    "HORIZONTAL,UP AND (HORIZONTAL,LEFT,RIGHT),VERTICAL.( AND (HORIZONTAL,LEFT,RIGHT))),WN (",
    "DOUBLE AND (HORIZONTAL SINGLE,LEFT SINGLE,RIGHT SINGLE),HEAVY AND (HORIZONTAL LIGHT,LEFT (",
    "LIGHT,UP LIGHT),RIGHT (LIGHT,UP LIGHT),UP HORIZONTAL LIGHT),LIGHT AND (HORIZONTAL HEAVY,",
    "LEFT (HEAVY,UP HEAVY),RIGHT (HEAVY,UP HEAVY),UP HORIZONTAL HEAVY),SINGLE AND (",
    "HORIZONTAL DOUBLE,LEFT DOUBLE,RIGHT DOUBLE))),HEAVY (DO(UBLE DASH (HORIZONTAL,VERTICAL),WN.(",
    " AND (HORIZONTAL,LEFT,RIGHT))),HORIZONTAL,LEFT.( AND LIGHT RIGHT),QUADRUPLE DASH (HORIZONTAL,",
    "VERTICAL),RIGHT,TRIPLE DASH (HORIZONTAL,VERTICAL),UP.( AND (HORIZONTAL,L(EFT,IGHT DOWN),",
    "RIGHT)),VERTICAL.( AND (HORIZONTAL,LEFT,RIGHT))),L(EFT (DOWN HEAVY AND RIGHT UP LIGHT,",
    "HEAVY AND RIGHT (DOWN LIGHT,UP LIGHT,VERTICAL LIGHT),LIGHT AND RIGHT (DOWN HEAVY,UP HEAVY,",
    "VERTICAL HEAVY),UP HEAVY AND RIGHT DOWN LIGHT),IGHT (ARC (DOWN AND (LEFT,RIGHT),UP AND (LEFT,",
    "RIGHT)),BOTTOM AND LOWER LEFT,D(IAGONAL (CROSS,DIAMOND,LOWER LEFT TO (",
    "MIDDLE CENTRE TO LOWER RIGHT,UPPER CENTRE TO LOWER RIGHT),MIDDLE (LEFT TO (LOWER (CENTRE.(",
    " TO MIDDLE RIGHT),RIGHT),UPPER CENTRE TO MIDDLE RIGHT.( TO LOWER CENTRE)),RIGHT TO (LOWER (",
    "CENTRE,LEFT),UPPER CENTRE TO MIDDLE LEFT TO LOWER CENTRE)),UPPER (CENTRE TO (LOWER (LEFT,",
    "RIGHT),MIDDLE (LEFT.( (AND MIDDLE RIGHT TO LOWER CENTRE,TO LOWER CENTRE.( TO MIDDLE RIGHT))),",
    "RIGHT.( (AND MIDDLE LEFT TO LOWER CENTRE,TO LOWER CENTRE.( TO MIDDLE LEFT))))),LEFT TO (",
    "LOWER (CENTRE.( TO UPPER RIGHT),RIGHT),MIDDLE (CENTRE TO (LOWER LEFT,UPPER RIGHT),RIGHT.(",
    " TO LOWER LEFT))),RIGHT TO (LOWER (CENTRE,LEFT),MIDDLE (CENTRE TO LOWER RIGHT,LEFT.(",
    " TO LOWER RIGHT))))),O(UBLE DASH (HORIZONTAL,VERTICAL),WN.( AND (HORIZONTAL,LEFT,RIGHT)))),",
    "HORIZONTAL.( (AND (LOWER RIGHT,UPPER RIGHT),WITH VERTICAL STROKE)),LEFT.( AND HEAVY RIGHT),",
    "QUADRUPLE DASH (HORIZONTAL,VERTICAL),RIGHT,T(OP AND UPPER LEFT,RIPLE DASH (HORIZONTAL,",
    "VERTICAL)),UP.( AND (H(EAVY DOWN,ORIZONTAL),LEFT,RIGHT)),VERTICAL.( AND (BOTTOM (LEFT,RIGHT),",
    "HORIZONTAL,LEFT,RIGHT,TOP (LEFT,RIGHT))))),RIGHT (DOWN HEAVY AND LEFT UP LIGHT,",
    "HEAVY AND LEFT (DOWN LIGHT,UP LIGHT,VERTICAL LIGHT),LIGHT AND LEFT (DOWN HEAVY,UP HEAVY,",
    "VERTICAL HEAVY),UP HEAVY AND LEFT DOWN LIGHT),UP (DOUBLE AND (HORIZONTAL SINGLE,LEFT SINGLE,",
    "RIGHT SINGLE),HEAVY AND (DOWN HORIZONTAL LIGHT,HORIZONTAL LIGHT,LEFT (DOWN LIGHT,LIGHT),",
    "RIGHT (DOWN LIGHT,LIGHT)),LIGHT AND (DOWN HORIZONTAL HEAVY,HORIZONTAL HEAVY,LEFT (DOWN HEAVY,",
    "HEAVY),RIGHT (DOWN HEAVY,HEAVY)),SINGLE AND (HORIZONTAL DOUBLE,LEFT DOUBLE,RIGHT DOUBLE)),",
    "VERTICAL (DOUBLE AND (HORIZONTAL SINGLE,LEFT SINGLE,RIGHT SINGLE),HEAVY AND (",
    "HORIZONTAL LIGHT,LEFT LIGHT,RIGHT LIGHT),LIGHT AND (HORIZONTAL HEAVY,LEFT HEAVY,RIGHT HEAVY),",
    "SINGLE AND (HORIZONTAL DOUBLE,LEFT DOUBLE,RIGHT DOUBLE))),ING GLOVE),Y.(S SYMBOL)),R(A(HMI (",
    "D(ANDA,IGIT (EIGHT,F(IVE,OUR),NINE,ONE,S(EVEN,IX),T(HREE,WO),ZERO),OUBLE DANDA),LETTER (A.(A,",
    "I,U),B(A,HA),C(A,HA),D(A,D(A,HA),HA),E,G(A,HA),HA,I.(I),J(A,HA),K(A,HA),L(A,LA),MA,N(A,GA,NA,",
    "YA),O.(LD TAMIL (LL(A,LA),NNNA,RRA,SHORT (E,O))),P(A,HA),RA,S(A,HA,SA),T(A,HA,T(A,HA)),U.(U),",
    "V(A,OCALIC (L.(L),R.(R))),YA),NUMBER (EIGHT.(Y),F(I(FTY,VE),O(RTY,UR)),JOINER,NINE.(TY),ONE.(",
    " (HUNDRED,THOUSAND)),S(EVEN.(TY),IX.(TY)),T(EN,H(IRTY,REE),W(ENTY,O))),PUNCTUATION (",
    "CRESCENT BAR,DO(T,UBLE DOT),L(INE,OTUS)),SIGN (ANUSVARA,CANDRABINDU,JIHVAMULIYA,",
    "OLD TAMIL VIRAMA,UPADHMANIYA,VISARGA),V(IRAMA,OWEL SIGN (A(A,I,U),BHATTIPROLU AA,E,I.(I),O.(",
    "LD TAMIL SHORT (E,O)),U.(U),VOCALIC (L.(L),R.(R))))),I(LLE PATTERN (BLANK,DOTS-(1.(2.(3.(4.(",
    "5.(6.(7.(8),8),7.(8),8),6.(7.(8),8),7.(8),8),5.(6.(7.(8),8),7.(8),8),6.(7.(8),8),7.(8),8),4.(",
    "5.(6.(7.(8),8),7.(8),8),6.(7.(8),8),7.(8),8),5.(6.(7.(8),8),7.(8),8),6.(7.(8),8),7.(8),8),3.(",
    "4.(5.(6.(7.(8),8),7.(8),8),6.(7.(8),8),7.(8),8),5.(6.(7.(8),8),7.(8),8),6.(7.(8),8),7.(8),8),",
    "4.(5.(6.(7.(8),8),7.(8),8),6.(7.(8),8),7.(8),8),5.(6.(7.(8),8),7.(8),8),6.(7.(8),8),7.(8),8),",
    "2.(3.(4.(5.(6.(7.(8),8),7.(8),8),6.(7.(8),8),7.(8),8),5.(6.(7.(8),8),7.(8),8),6.(7.(8),8),7.(",
    "8),8),4.(5.(6.(7.(8),8),7.(8),8),6.(7.(8),8),7.(8),8),5.(6.(7.(8),8),7.(8),8),6.(7.(8),8),7.(",
    "8),8),3.(4.(5.(6.(7.(8),8),7.(8),8),6.(7.(8),8),7.(8),8),5.(6.(7.(8),8),7.(8),8),6.(7.(8),8),",
    "7.(8),8),4.(5.(6.(7.(8),8),7.(8),8),6.(7.(8),8),7.(8),8),5.(6.(7.(8),8),7.(8),8),6.(7.(8),8),",
    "7.(8),8)),N)),E(A(D,ST-FEEDING),VE),I(CK,D(E WITH VEIL,GE AT NIGHT),EF(CASE,S)),O(CCOLI,KEN (",
    "BAR,CIRCLE WITH NORTHWEST ARROW,HEART),OM,WN HEART)),U(BBLE( TEA,S),CKET,G.(INESE (",
    "END OF SECTION,LETTER (A,BA,CA,DA,GA,HA,JA,KA,LA,M(A,PA),N(A,G(A,KA),RA,Y(A,CA)),PA,RA,SA,TA,",
    "VA,YA),PALLAWA,VOWEL SIGN (AE,E,I,O,U))),HID (LETTER (A,BA,DA,GA,HA,I,KA,LA,MA,N(A,GA),PA,RA,",
    "SA,TA,U,WA,YA),VOWEL SIGN (I,U)),ILDING CONSTRUCTION,LL(ET.( OPERATOR),HORN.(",
    " WITH SOUND WAVES),SEYE),RRITO,S.( STOP,T( IN SILHOUETTE,S IN SILHOUETTE)),TTER.(FLY)),",
    "YZANTINE MUSICAL SYMBOL (A(GOGI (ARG(I,OTERI),GORG(I,OTERI),ME(SI,TRIA),POLI (ARGI,GORGI)),N(",
    "ATRICHISMA,TIKENO(KYLISMA,MA)),P(ESO E(KFONITIKON,XO NEO),LI,O(DERMA (ARCHAION,NEO),STROFO(",
    "I (SYNDESMOS NEO,TELOUS ICHIMATOS),S.( (DIPLI,NEO))),THEMA)),R(GO(N,SYNTHETON),KTIKO (DI,GA,",
    "KE,NI,PA,VOU,ZO))),CH(AMIL(I,ON),OREVMA (ARCHAION,NEO),ROA (KLITON,SPATHI,ZYGOS)),D(ASEIA,I(",
    "A(RGON,STOLI (APLI M(EGALI,IKRI),DIPLI,THESEOS)),ESIS (APLI DYO DODEKATA,",
    "DIGRAMMOS EX DODEKATA,MONOGRAMMOS TESSERA DODEKATA,T(ETARTIMORION,RI(GRAMMOS OKTO DODEKATA,",
    "TIMORION))),FTOGGOS OU,G(ORGON.( PARESTIGMENON (ARISTERA (ANO,KATO),DEXIA)),RAMMA GG),PLI.(",
    " ARCHAION)),YO),E(KSTREPTON,LAFRON,N(ARXIS KAI FTHORA VOU,DOFONON),PEGERMA,TERON (",
    "ARGOSYNTHETON,PARAKALESMA),XO EKFONITIKON),F(ANEROSIS (DIFONIAS,MONOFONIAS,TETRAFONIAS),",
    "HTORA SKLIRON CHROMA VASIS,THORA (ARCHAION.( DEYTEROU ICHOU),DIATONIKI (DI,KE,N(ANA,I (ANO,",
    "KATO)),PA,ZO),ENARMONIOS ANTIFONIA,I YFESIS TETARTIMORION,MALAKON CHROMA (DIFONIAS,",
    "MONOFONIAS),N(AOS ICHOS,ENANO),SKLIRON (CHROMA SYNAFI,DIATONON DI))),G(ENIKI (DIESIS,YFESIS),",
    "OR(GO(N (ARCHAION,NEO (ANO,KATO),PARESTIGMENON (ARISTERA,DEXIA)),SYNTHETON),THMIKON N (",
    "APLOUN,DIPLOUN)),RONTHISMATA),I(CHADIN,MI(DIARGON,F(ONON,THOR(A,ON))),S(",
    "AKIA TELOUS ICHIMATOS,ON (ARCHAION,NEO))),K(AT(AVA( TROMIKON,SMA),HISTI),ENTIMA( (ARCHAION,",
    "NEO (ANO,KATO,MESO)),TA.( (ARCHAION,NEO (ANO,KATO,MESO)))),LASMA.( (ANO,KATO)),O(NTEVMA.(",
    " ALLO),RONIS,UFISMA),R(ATIM(A( (A(LLO,RCHAION),NEO),TA),O(KOUFISMA,YPORROON)),EMASTI),",
    "YLISMA),L(E(IMMA (DYO CHRONON,ENOS CHRONOU,IMISEOS CHRONOU,T(ESSARON CHRONON,RION CHRONON)),",
    "MOI),YGISMA),M(ARTYRIA (ALLI (DEYTEROS ICHOS,PROTOS ICHOS),DEYTEROS ICHOS,LEGETOS ICHOS,P(",
    "LAGIOS (ICHOS,TETARTOS ICHOS),ROTO(S ICHOS,VARYS ICHOS)),T(ETARTOS (ICHOS,LEGETOS ICHOS),RI(",
    "FONIAS,TOS ICHOS)),VARYS ICHOS),IKRON ISON),NANA,O(LIGON (ARCHAION,NEO),MALON,XEIA( (DIPLI,",
    "EKFONITIKON,NEO),I ARCHAION),YRANISMA (ARCHAION,NEO)),P(AR(AK(ALESMA (ARCHAION,NEO),LITIKI.(",
    " (ARCHAION,NEO))),ICHON),E(LASTON.( NEO),RISPOMENI,TAS(MA,T(I,OKOUFISMA))),IASMA (ARCHAION,",
    "NEO),SI(FISTO(LYGISMA,N.( NEO),PARAKALESMA,SYNAGMA),L(I,ON))),R(APISMA,EVMA),S(AXIMATA,",
    "EISMA.( NEO),IMANSIS (ARSEOS.( (DISIMOU,T(ETRASIMOU,RISIMOU))),THESEOS.( (DISIMOU,T(",
    "ETRASIMOU,RISIMOU)))),T(AVROS.( APODEXIA),IGMA,RAGGISMATA),Y(N(AGMA (ARCHAION,META STAVROU,",
    "NEO),EVMA),RMA.(TIKI))),T(E(LEIA,SSERA,TRAPLI),H(E(MA.( APLOUN,TISMOS E(SO,XO)),",
    "S KAI APOTHES),ITA),INAGMA,R(I(A,GORGON,PLI),OMIKO(LYGISMA,N (A(LLO,RCHAION),NEO),P(",
    "ARAKALESMA,SIFISTON),SYNAGMA))),VA(REIA( (DIPLI,EKFONITIKON,NEO),I ARCHAION),THY),",
    "XIRON KLASMA,Y(FE(N (ANO,KATO),SIS (APLI DYO DODEKATA,DIGRAMMOS EX DODEKATA,",
    "MONOGRAMMOS TESSERA DODEKATA,TRI(GRAMMOS OKTO DODEKATA,TIMORION))),P(O(KRISIS.( DIPLI),RROI),",
    "SILI)))),C(A(CTUS,D(A UNA,UCEUS),L(ENDAR,L ME HAND),M(ERA.( WITH FLASH),PING),N(",
    "ADIAN SYLLABICS (A.(A.(I,Y),I.(VILIK B),N,THAPASCAN (M,S),Y),B(EAVER DENE (L,R),IBLE-CREE Y,",
    "LACKFOOT (A,E,I,K(A,E,I,O),N(A,E,I,O),O,S,W.(A,E,I,O))),C.(A.(A.(I),RRIER (CH(A,E.(E),I,O,U),",
    "D(E(E,N(E GEE,TAL S)),I,L(A,E.(E),I,O,U),Z(A,E.(E),I,O,U)),EE,G(A.(A),E.(E),H(A,E.(E),I,O,U),",
    "I,O,U,W(A,U)),H.(EE,I,W(A,E.(E),I,O,U)),I.(NITIAL Z),J(A,E.(E),I,J(A,E.(E),I,O,U),O,U,WA),K(",
    "H(A,E.(E),I,O,U),K.(A,E.(E),I,O,U)),L(A,E.(E),H(A,E.(E),I,O,U),I,O,U),M(A,E.(E),I,O,U),N(A,",
    "E.(E),G,I,O,U),P.(A,E.(E),I,O,U),R(A,E.(E),I,O,U),S(A,E.(E),H.(A,E.(E),I,O,U),I,O,U),T(H(A,",
    "E.(E),I,O,U),L(A,E.(E),H(A,E.(E),I,O,U),I,O,U),S(A,E.(E),I,O,U),T(A,E.(E),I,O,S(A,E.(E),I,O,",
    "U),U)),W(A,E.(E),I,O,U),Y(A,E.(E),I,O,U),Z.(A,E.(E),I,O,U))),E,HI SIGN,I.(I),O.(O),W(A.(A),E,",
    "I.(I),O.(O))),E.(ASTERN W,N),F.(A.(A.(I)),E,I.(I,NAL (ACUTE,BOTTOM HALF RING,DO(UBLE (ACUTE,",
    "SHORT VERTICAL STROKES),WN TACK),GRAVE,MIDDLE DOT,PLUS,R(AISED DOT,I(GHT HALF RING,NG)),S(",
    "HORT HORIZONTAL STROKE,MALL RING),TOP HALF RING)),O.(O),ULL STOP,WAA),GLOTTAL STOP,H(K,",
    "YPHEN),I.(I,N),K.(A.(A.(I),Y),E,I.(I),O.(O),W.(A.(A,Y),E,I.(I),O.(O))),L.(A.(A.(I),Y),E,H.(",
    "A.(A),I.(I),O.(O)),I.(I),O.(O),W(A.(A),E,I.(I),O.(O))),M.(A.(A.(I),Y),E.(DIAL (L,R)),H,I.(I),",
    "O.(O.(SE-CREE SK)),W(A.(A),E,I.(I),O.(O))),N.(-CREE TH(E,I.(I)),A.(A.(I),SKAPI (CWAA,KWAA,",
    "MWAA,NWAA,S(-W,CWA,KW.(A),PWA,TWA,WAA),TWAA,W(AA,OO),YWAA),TTILIK (H(A.(A),I.(I),O.(O)),SHR(",
    "A.(A),I.(I),O.(O))),Y),E,G.(A.(A.(I),I),I.(I),O.(O)),H,I.(I),NG.(A.(A),I.(I),O.(O)),O.(O,Y),",
    "UNAV(IK H.(A.(A),E,I.(I),O.(O)),UT H),W(A.(A),E,I.(I),O.(O))),O.(JIBWAY (C,K,M,N.(W(I.(I),O.(",
    "O))),P,S.(H),T),N,O,Y),P.(A.(A.(I),Y),E,I.(I),O.(O,Y),W(A.(A),E,I.(I),O.(O,Y))),Q.(A.(A.(I),",
    "I),I.(I),O.(O)),R.(-CREE R(E,WE),A.(A.(I),Y),E,I.(I),O.(O),W(A.(A),EE,I.(I),O.(O))),S.(A.(A.(",
    "I),Y.(ISI (H(A,E,I,O.(O)),J(I,U.(U)),M,SH(A,E,I,O.(O),WE),TH,YI))),E,H.(A.(A,Y),E,I.(I),O.(O,",
    "Y),W(A.(A),E,I.(I),O.(O,Y))),I.(I),O.(O,UTH-SLAVEY K(AH,EH,IH,OH),Y),P(A,E,I,O),W.(A.(A),E,",
    "I.(I),O.(O))),T.(A.(A.(I),Y),E,H.(-CREE TH.(A.(A),E,I.(I),O.(O)),A.(A),E,I.(I),O.(O),W(A.(A),",
    "E)),I.(I),LH(A,E,I,O.(O),WE),O.(O),T(A,E,H.(A.(A),E,I,O.(O),WE),I,O),W(A.(A),E,I.(I),O.(O)),",
    "Y(A,E,I,O)),W(A.(A,Y),E.(ST(-CREE (CW(A.(A),E,I.(I),O.(O)),FWAA,KW(A.(A),E,I.(I),O.(O)),L.(",
    "A.(A),E,O.(O),W(A.(A),E,I.(I),O.(O))),M.(W(A.(A),E,I.(I),O.(O))),NW(A.(A),E),P.(W(A.(A),E,I.(",
    "I),O.(O))),R.(A,E,I,O,WAA),S(HW(A.(A),E,I.(I),O.(O)),W(A.(A),E,I.(I),O.(O))),T(HWAA,W(A.(A),",
    "E,I.(I),O.(O))),W(A.(A),E,I.(I),O.(O)),Y.(W(A.(A),E,I.(I),O.(O)))),ERN W)),I.(I),O.(O.(",
    "DS-CREE (FINAL TH,TH.(A,E,I,O,W(A.(A),EE,I.(I),O.(O))))))),Y.(-CREE (COO,KOO,LOO,MOO,NOO,OO,",
    "P(OO,WAA),SOO,TOO,W,YOO),A.(A.(I),Y),E,I.(I),O.(O,Y),W(A.(A),E,I.(I),O.(O)))),CE(L( TAG,",
    "LATION X),R),D(LE,Y),NED FOOD,OE),P(ITULUM,RICORN),R( SLIDING,D (FILE BOX,INDEX.( DIVIDERS)),",
    "E( OF,T.( INSERTION POINT)),IAN LETTER (A.(2),B,C-(18,39),D.(2),E.(2),G.(2),I.(I),K.(2),L.(",
    "D.(2)),M.(B.(2,3,4)),N.(D,G,N),O,P.(2),Q,R.(R),S.(H.(2),S,T.(2)),T.(T.(2)),U.(U.(U.(2,3,U))),",
    "X),O(N,USEL HORSE),P( STREAMER,ENTRY SAW),ROT),STLE,T.( FACE.( WITH (TEARS OF JOY,",
    "WRY SMILE))),U(CASIAN ALBANIAN (CITATION MARK,LETTER (A(LT,OR),BET,C(A(R,YN),H(A.(T),I,OY),",
    "YA(W,Y)),D(AT,YAN,Z(AY,YAY)),E(B,YN),FAM,G(HEYS,IM),HEYT,I(NYA,RB,WN),J(AYN,HOX),K(AR,IW),L(",
    "AN,YIT),MAQ,NOWC,ON,P(EN,IWR),QA(R,Y),RAT,S(EYK,H(A.(K),OY)),T(AS,IWR,YAY),VEYZ,XEYN,Y(AYD,",
    "OWD),Z(ARL,H(A,IL)))),TION SIGN)),E(DI( SIGN,LLA),LTIC CROSS,NT( SIGN,RE( LINE SYMBOL,LINE (",
    "LOW LINE,OVERLINE))),RES),H(A(I(NS,R),KMA (AU MARK,D(ANDA,IGIT (EIGHT,F(IVE,OUR),NINE,ONE,S(",
    "EVEN,IX),T(HREE,WO),ZERO),OUBLE DANDA),LETTER (AA,B(AA,HAA),C(AA,HAA),D(AA,D(AA,HAA),HAA),E,",
    "G(AA,HAA),HAA,I,J(AA,HAA),K(AA,HAA),L(AA,HAA),MAA,N(AA,GAA,NAA,YAA),P(AA,HAA),RAA,SAA,T(AA,",
    "HAA,T(AA,HAA)),U,VAA,WAA,Y(AA,YAA)),MAAYYAA,O MARK,QUESTION MARK,S(ECTION MARK,IGN (ANUSVARA,",
    "CANDRABINDU,VISARGA)),V(IRAMA,OWEL SIGN (A.(A,I,U),E.(I),I.(I),O.(I),U.(U)))),M (",
    "CONSONANT SIGN (FINAL (H,M,NG),LA,RA,WA,YA),DIGIT (EIGHT,F(IVE,OUR),NINE,ONE,S(EVEN,IX),T(",
    "HREE,WO),ZERO),LETTER (A.(I),B(A,BA,HA),CH(A,HA),D(A,DA,HA),E,FINAL (CH,G,K,L,N.(G),P,R,SS,T,",
    "Y),G(A,HA),HA,I,J(A,HA),K(A,HA),LA,M(A,UE),N(A,G(A,UE),H(A,JA,UE),UE),O,P(A,HA,PA),RA,S(A,",
    "SA),T(A,HA),U,VA,YA),PUNCTUATION (D(ANDA,OUBLE DANDA),SPIRAL,TRIPLE DANDA),VOWEL SIGN (A(A,I,",
    "U),EI,I.(I),O.(E),U.(E))),R(ACTER TIE,T WITH (DOWNWARDS TREND,UPWARDS TREND.(",
    " AND YEN SIGN)))),E(CK( MARK,ER BOARD.( FILL)),E(RING MEGAPHONE,SE WEDGE),QUERED FLAG,R(",
    "OKEE (LETTER (A,D(A,E,I,LA,O,U,V),E,G(A,E,I,O,U,V),H(A,E,I,NA,O,U,V),I,KA,L(A,E,I,O,U,V),M(A,",
    "E,I,O,U,V),N(A.(H),E,I,O,U,V),O,QU(A,E,I,O,U,V),S.(A,E,I,O,U,V),T(A,E,I,L(A,E,I,O,U,V),S(A,E,",
    "I,O,U,V)),U,V,W(A,E,I,O,U,V),Y(A,E,I,O,U,V)),SMALL LETTER (A,D(A,E,I,LA,O,U,V),E,G(A,E,I,O,U,",
    "V),H(A,E,I,NA,O,U,V),I,KA,L(A,E,I,O,U,V),M(A,E,I,O,U,V),N(A.(H),E,I,O,U,V),O,QU(A,E,I,O,U,V),",
    "S.(A,E,I,O,U,V),T(A,E,I,L(A,E,I,O,U,V),S(A,E,I,O,U,V)),U,V,W(A,E,I,O,U,V),Y(A,E,I,O,U,V))),R(",
    "IES,Y BLOSSOM)),STNUT),I( RHO,CKEN,LD.(REN CROSSING),PMUNK,RON),O(COLATE BAR,PSTICKS,",
    "RASMIAN (LETTER (A(LEPH,YIN),BETH,CURLED WAW,DALETH,GIMEL,HE.(TH),KAPH,LAMEDH,MEM,NUN,PE,",
    "RESH,S(AMEKH,HIN,MALL ALEPH),TAW,WAW,YODH,ZAYIN),NUMBER (FOUR,ONE.( HUNDRED),T(EN,HREE,W(",
    "ENTY,O))))),RISTMAS TREE,URCH),I(NEMA,RC(LE( (",
    "DIVIDED BY HORIZONTAL BAR AND TOP HALF DIVIDED BY VERTICAL BAR,WITH (",
    "ALL BUT UPPER LEFT QUADRANT BLACK,HORIZONTAL BAR,L(EFT HALF BLACK,OWER HALF BLACK),",
    "RIGHT HALF BLACK,S(MALL CIRCLE TO THE RIGHT,UPERIMPOSED X),",
    "TWO HORIZONTAL STROKES TO THE RIGHT,UPPER (HALF BLACK,RIGHT QUADRANT BLACK),VERTICAL FILL)),",
    "D (A(NTICLOCKWISE( ARROW,-ROTATED DIVISION SIGN),STERISK OPERATOR),B(OLD X,ULLET),C(",
    " WITH OVERLAID BACKSLASH,C,D,ROSS( (FORMEE.( WITH (FOUR DOTS,TWO DOTS)),POMMEE),ING LANES)),",
    "D(ASH,I(GIT (EIGHT,F(IVE,OUR),NINE,ONE,S(EVEN,IX),T(HREE,WO),ZERO),VISION S(IGN,LASH)),O(",
    "LLAR SIGN WITH OVERLAID BACKSLASH,T OPERATOR)),EQUALS,GREATER-THAN,H(ANGUL (C(HIEUCH.( A),",
    "IEUC.( A)),HIEUH.( A),IEUNG.( (A,U)),K(HIEUKH.( A),IYEOK.( A)),MIEUM.( A),NIEUN.( A),P(",
    "HIEUPH.( A),IEUP.( A)),RIEUL.( A),SIOS.( A),T(HIEUTH.( A),IKEUT.( A))),",
    "EAVY WHITE RIGHTWARDS ARROW,ORIZONTAL BAR WITH NOTCH,UMAN FIGURE),I(DEOGRAPH (A(CCEPT,",
    "DVANTAGE,LLIANCE,TTENTION),C(ENTRE,O(NGRATULATION,PY,RRECT)),E(ARTH,IGHT,NTERPRISE,XCELLENT),",
    "F(EMALE,I(NANCIAL,RE,VE),OUR),H(AVE,IGH),ITEM,K(INDERGARTEN,OTO),L(ABOR,EFT,OW),M(ALE,E(",
    "DICINE,TAL),OON),N(AME,I(GHT,NE)),ONE,PRINT,QUESTION,R(E(LIGION,S(OURCE,T)),IGHT),S(CHOOL,E(",
    "CRET,VEN),IX,OCIETY,PECIAL,T(OCK,UDY),U(ITABLE,N,PERVISE)),T(EN,HREE,WO),W(ATER,OOD)),",
    "NFORMATION SOURCE,TALIC LATIN CAPITAL LETTER (C,R)),K(ATAKANA (A,E,H(A,E,I,O,U),I,K(A,E,I,O,",
    "U),M(A,E,I,O,U),N(A,E,I,O,U),O,R(A,E,I,O,U),S(A,E,I,O,U),T(A,E,I,O,U),U,W(A,E,I,O),Y(A,O,U)),",
    "OREAN CHARACTER (CHAMKO,JUEUI)),L(ATIN (CAPITAL LETTER (A,B,C,D,E,F,G,H,I,J,K,L,M,N,O,P,Q,R,",
    "S,T,U,V,W,X,Y,Z),SMALL LETTER (A,B,C,D,E,F,G,H,I,J,K,L,M,N,O,P,Q,R,S,T,U,V,W,X,Y,Z)),",
    "ESS-THAN),M(INUS,ULTIPLICATION SIGN WITH CIRCUMFLEX ACCENT),NUMBER (E(IGHT(EEN,",
    "Y ON BLACK SQUARE),LEVEN),F(IFT(EEN,Y.( ON BLACK SQUARE)),O(RTY.( (EIGHT,F(IVE,OUR),NINE,ON(",
    " BLACK SQUARE,E),S(EVEN,IX),T(HREE,WO))),URTEEN)),NINETEEN,S(EVENT(EEN,Y ON BLACK SQUARE),",
    "IXT(EEN,Y ON BLACK SQUARE)),T(EN.( ON BLACK SQUARE),HIRT(EEN,Y.( (EIGHT,F(IVE,OUR),NINE,ON(",
    " BLACK SQUARE,E),S(EVEN,IX),T(HREE,WO)))),WE(LVE,NTY.( (EIGHT,F(IVE,OUR),NINE,ON(",
    " BLACK SQUARE,E),S(EVEN,IX),T(HREE,WO)))))),OPEN CENTRE EIGHT POINTED STAR,P(ARALLEL,",
    "ERPENDICULAR,LUS,OSTAL MARK),R(EVERSE SOLIDUS,ING OPERATOR),SQUARE,T(IMES,RIANGLE.( DOWN)),",
    "VERTICAL BAR,W(HITE (BULLET,STAR),Z),X,ZERO WITH SLASH)),U(LATION FUNCTION,MFLEX ACCENT,",
    "S TENT)),TYSCAPE.( AT DUSK)),JK (RADICAL (B(AMBOO,LUE,O(LT OF CLOTH,NE,X),RUSH (ONE,TWO)),C(",
    "-SIMPLIFIED (BIRD,CART,DRAGON,E(AT,VEN),F(ISH,LY,ROG),G(ATE,OLD),HORSE,L(EAF,ONG),S(ALT,EE,",
    "HELL,ILK,PEECH),T(ANNED LEATHER,OOTH,URTLE),WIND),HOKE,I(TY,VILIAN),L(IFF,OTHES),OW),D(EATH,",
    "IVINATION,OG),E(AT (ONE,T(HREE,WO)),WE,YE),F(IRE,OOT),G(HOST,RASS (ONE,T(HREE,WO))),H(AND,EA(",
    "D,RT (ONE,TWO)),ORN),J(-SIMPLIFIED (DRAGON,EVEN,T(OOTH,URTLE)),ADE),KNIFE (ONE,TWO),L(AME (",
    "FOUR,ONE,T(HREE,WO)),ONG (ONE,TWO)),M(E(AT,SH),O(ON,RTAR,THER,UND (ONE,TWO))),NET (FOUR,ONE,",
    "T(HREE,WO)),OLD,P(AW (ONE,TWO),ERSON),R(A(IN,M,P),EPEAT),S(E(AL,COND (ONE,T(HREE,WO))),HEEP,",
    "I(LK,MPLIFIED (H(ALF TREE TRUNK,ORN),W(ALK,HEAT),YELLOW)),MALL (ONE,TWO),N(AKE,OUT (ONE,",
    "TWO)),PIRIT (ONE,TWO),UN),T(ABLE,HREAD,IGER,URTLE),W(A(LK (ONE,TWO),TER (ONE,TWO)),EST (ONE,",
    "TWO))),STROKE (BXG,D,H.(G,P.(WG),X(G,WG),Z.(G,T,W.(G),Z.(P,Z.(G)))),N,P.(D,G,Z),Q,S.(G,P,T,",
    "W.(G,Z),Z.(P,WG,Z)),T.(N),WG,XG)),L(A(MSHELL MOBILE PHONE,PP(ER BOARD,ING HANDS SIGN),",
    "SSICAL BUILDING),EAR SCREEN SYMBOL,I(NKING (BEER MUGS,GLASSES),PBOARD),O(CK( FACE (E(IGHT(",
    " OCLOCK,-THIRTY),LEVEN( OCLOCK,-THIRTY)),F(IVE( OCLOCK,-THIRTY),OUR( OCLOCK,-THIRTY)),NINE(",
    " OCLOCK,-THIRTY),ONE( OCLOCK,-THIRTY),S(EVEN( OCLOCK,-THIRTY),IX( OCLOCK,-THIRTY)),T(EN(",
    " OCLOCK,-THIRTY),HREE( OCLOCK,-THIRTY),W(ELVE( OCLOCK,-THIRTY),O( OCLOCK,-THIRTY)))),WISE (C(",
    "LOSED CIRCLE ARROW,ONTOUR INTEGRAL),DOWNWARDS AND UPWARDS OPEN CIRCLE ARROWS,",
    "GAPPED CIRCLE ARROW,INTEGRAL,OPEN CIRCLE ARROW,RIGHT( AND LEFT SEMICIRCLE ARROWS,",
    "WARDS AND LEFTWARDS OPEN CIRCLE ARROWS.( WITH CIRCLED ONE OVERLAY)),T(OP SEMICIRCLE ARROW,",
    "RIANGLE-HEADED OPEN CIRCLE ARROW))),SE( UP,D (BOOK,INTERSECTION WITH SERIFS,LOCK WITH KEY,",
    "MAILBOX WITH (LOWERED FLAG,RAISED FLAG),SU(BSET.( OR EQUAL TO),PERSET.( OR EQUAL TO)),U(",
    "MBRELLA,NION WITH SERIFS.( AND SMASH PRODUCT)))),UD.( WITH (LIGHTNING,RAIN,SNOW,TORNADO)),",
    "WN FACE)),O(AT,C(K(ROACH,TAIL GLASS),ONUT),FFIN,IN,L(LISION SYMBOL,ON.( (EQUALS,SIGN))),M(",
    "BINING (A(CUTE( (ACCENT.( BELOW),TONE MARK),-(GRAVE-ACUTE,MACRON)),LMOST EQUAL TO (ABOVE,",
    "BELOW),N(NUITY SYMBOL,TICLOCKWISE (ARROW ABOVE,RING OVERLAY)),STERISK (ABOVE,BELOW)),B(",
    "INDU BELOW,R(EVE.( BELOW,-MACRON),IDGE (ABOVE,BELOW))),C(A(NDRABINDU,RON.( BELOW)),EDILLA,",
    "IRCUMFLEX ACCENT.( BELOW),LOCKWISE (ARROW ABOVE,RING OVERLAY),O(MMA (ABOVE.( RIGHT),BELOW),",
    "NJOINING MACRON.( BELOW)),YRILLIC (DASIA PNEUMATA,HUNDRED (MILLIONS SIGN,THOUSANDS SIGN),",
    "KAVYKA,LETTER (A,B(E,IG YUS),CHE,D(E,JERV),E(F,L,M,N,R,S.(-TE)),FITA,GHE,HA.(RD SIGN),I.(E,",
    "OTIFIED (A,BIG YUS,E)),KA,LITTLE YUS,MONOGRAPH UK,O.(MEGA),PE,S(H(A,CHA),OFT SIGN),T(E,SE),",
    "U.(KRAINIAN IE),VE,Y(AT,ERU,I,U),Z(E,HE)),MILLIONS SIGN,P(A(LATALIZATION,YEROK),OKRYTIE,",
    "SILI PNEUMATA),SMALL LETTER BYELORUSSIAN-UKRAINIAN I,T(EN MILLIONS SIGN,",
    "HOUSAND MILLIONS SIGN,ITLO.( (LEFT HALF,RIGHT HALF))),VZMET)),D(E(LETION MARK,VANAGARI (",
    "DIGIT (EIGHT,F(IVE,OUR),NINE,ONE,S(EVEN,IX),T(HREE,WO),ZERO),LETTER (A,KA,NA,PA,RA,U,VI),",
    "SIGN AVAGRAHA)),IAERESIS.( BELOW,-RING),O(T( (ABOVE.( (LEFT,RIGHT)),BELOW.( LEFT)),TED (",
    "ACUTE ACCENT,GRAVE ACCENT)),UBLE( (ACUTE ACCENT,BREVE.( BELOW),CIRCUMFLEX ABOVE,GRAVE ACCENT,",
    "INVERTED BREVE.( BELOW),LOW LINE,MACRON.( BELOW),O(PEN MARK BELOW,VERLINE),P(",
    "ARENTHESES ABOVE,LUS SIGN (ABOVE,BELOW)),RI(GHTWARDS ARROW BELOW,NG BELOW),TILDE.( (",
    "LEFT HALF,RIGHT HALF)),VERTICAL (LINE (ABOVE,BELOW),STROKE OVERLAY)),D CIRCUMFLEX ACCENT),WN(",
    " TACK BELOW,WARDS ARROW))),E(NCLOSING (CIRCLE.( BACKSLASH),DIAMOND,KEYCAP,S(CREEN,QUARE),",
    "UPWARD POINTING TRIANGLE),QUALS SIGN BELOW),F(ERMATA,OUR DOTS ABOVE),G(LAGOLITIC LETTER (AZU,",
    "B(IG YUS,UKY),CHRIVI,D(JERVI,OBRO),F(ITA,RITU),GLAGOLI,HERU,I.(NITIAL IZHE,OTATED (BIG YUS,",
    "SMALL YUS),ZHE),KAKO,LJUDIJE,MYSLITE,NASHI,ONU,POKOJI,RITSI,S(H(A,TA),LOVO,MALL YUS),T(SI,",
    "VRIDO),UKU,VEDE,Y(ATI,E(R(I,U),STU),O,U),Z(EMLJA,HIVETE)),R(A(NTHA (DIGIT (F(IVE,OUR),ONE,",
    "SIX,T(HREE,WO),ZERO),LETTER (A,KA,NA,PA,VI)),PHEME JOINER,VE( (ACCENT.( BELOW),TONE MARK),-(",
    "ACUTE-GRAVE,MACRON))),EEK (DIALYTIKA TONOS,KORONIS,MUSICAL (PENTASEME,T(ETRASEME,RISEME)),",
    "PERISPOMENI,YPOGEGRAMMENI))),HO(MOTHETIC ABOVE,OK ABOVE,RN),I(N(FINITY,VERTED (BR(EVE.(",
    " BELOW),IDGE BELOW),DOUBLE ARCH (ABOVE,BELOW))),S BELOW),KA(TAKANA-HIRAGANA (",
    "SEMI-VOICED SOUND MARK,VOICED SOUND MARK),VYKA ABOVE (LEFT,RIGHT)),L(ATIN (",
    "LETTER SMALL CAPITAL (G,L,M,N,R),SMALL LETTER (A.( WITH DIAERESIS,E,LPHA,O,V),B.(ETA),C.(",
    " CEDILLA),D,E.(SH,TH),F.(LATTENED OPEN A ABOVE),G,H,I.(NSULAR (D,G,R,T)),K,L.(",
    " WITH DOUBLE MIDDLE TILDE,ONG S),M,N,O.( WITH (DIAERESIS,LIGHT CENTRALIZATION STROKE)),P,R.(",
    " (BELOW,ROTUNDA)),S.(CHWA),T.(URNED W BELOW),U.( WITH (DIAERESIS,",
    "LIGHT CENTRALIZATION STROKE)),V,W.( BELOW),X,Z)),EFT( (A(NGLE (ABOVE,BELOW),RROW( (ABOVE,",
    "BELOW),HEAD (ABOVE,BELOW))),HA(LF RING (ABOVE,BELOW),RPOON ABOVE),PARENTHESIS (ABOVE LEFT,",
    "BELOW LEFT),RIGHT ARROW (ABOVE,BELOW),TACK BELOW),WARDS (ARROW OVERLAY,",
    "HARPOON WITH BARB DOWNWARDS)),IG(ATURE (LEFT HALF.( BELOW),RIGHT HALF.( BELOW)),",
    "HT CENTRALIZATION STROKE BELOW),O(NG (DOUBLE SOLIDUS OVERLAY,S(OLIDUS OVERLAY,TROKE OVERLAY),",
    "VERTICAL LINE OVERLAY),W LINE)),M(ACRON.( (BELOW,LEFT HALF.( BELOW),RIGHT HALF.( BELOW)),-(",
    "ACUTE,BREVE,GRAVE)),INUS SIGN BELOW),N(OT TILDE ABOVE,UMBER SIGN ABOVE),O(GONEK.( ABOVE),",
    "LD PERMIC LETTER (AN,DOI,NENOE,SII,ZATA),PEN MARK BELOW,VERLINE),P(A(LATALIZED HOOK BELOW,",
    "RENTHESES (ABOVE,BELOW,OVERLAY)),LUS SIGN (ABOVE,BELOW)),R(E(TROFLEX HOOK BELOW,VERSE(",
    " SOLIDUS OVERLAY,D COMMA ABOVE)),I(GHT( (ARROW( (ABOVE,BELOW),HEAD (A(BOVE,ND (",
    "DOWN ARROWHEAD BELOW,UP ARROWHEAD BELOW)),BELOW)),HA(LF RING (ABOVE,BELOW),RPOON ABOVE),",
    "PARENTHESIS (ABOVE RIGHT,BELOW RIGHT),TACK BELOW),WARDS HARPOON WITH BARB DOWNWARDS),NG (",
    "ABOVE,BELOW,OVERLAY))),S(EAGULL BELOW,HORT (S(OLIDUS OVERLAY,TROKE OVERLAY),",
    "VERTICAL LINE OVERLAY),NAKE BELOW,QUARE B(ELOW,RACKETS ABOVE),",
    "TRONG CENTRALIZATION STROKE BELOW,USPENSION MARK),T(HREE DOTS ABOVE,ILDE.( (BELOW,",
    "LEFT HALF BELOW,OVERLAY,RIGHT HALF BELOW)),RIPLE (ACUTE ACCENT,DOT,UNDERDOT),",
    "URNED COMMA ABOVE),U(P( TACK (ABOVE,BELOW),WARDS ARROW BELOW),R ABOVE,S ABOVE),VERTICAL (",
    "LINE (ABOVE,BELOW),TILDE),WI(DE (BRIDGE ABOVE,INVERTED BRIDGE BELOW),GGLY LINE BELOW),X( (",
    "ABOVE,BELOW),-X BELOW),ZIGZAG (ABOVE,BELOW)),ET,M(A,ERCIAL (AT,MINUS SIGN)),P(ASS,LEMENT,",
    "OSITION SYMBOL,RESSION)),N(F(ETTI BALL,OUNDED FACE,USED FACE),GRUENT WITH DOT ABOVE,",
    "ICAL TAPER,JUNCTION,STRUCTION (SIGN,WORKER),T(AINS (AS (MEMBER,NORMAL SUBGROUP.(",
    " OR EQUAL TO)),WITH (LONG HORIZONTAL STROKE,OVERBAR,",
    "VERTICAL BAR AT END OF HORIZONTAL STROKE)),INUOUS UNDERLINE SYMBOL,OUR INTEGRAL,ROL KNOBS),",
    "VENIENCE STORE),OK(ED RICE,I(E,NG)),P(TIC (C(APITAL LETTER (A(KHMIMIC KHEI,LFA),",
    "BOHAIRIC KHEI,CR(OSSED SHEI,YPTOGRAMMIC (EIE,GANGIA,NI,SHEI)),D(ALDA,EI,IALECT-P (ALEF,HORI,",
    "KAPA,NI)),EIE,F(EI,I),GA(MMA,NGIA),H(ATE,ORI),IAUDA,K(APA,H(EI,I),SI),L(-SHAPED HA,AULA),MI,",
    "NI,O.(LD (COPTIC (AIN,DJA,ESH,GANGIA,H(A.(T),EI,ORI),OOU,SH(EI,IMA)),NUBIAN (N(GI,YI),SHIMA,",
    "WAU)),OU),P(I,SI),RO,S(AMPI,H(EI,IMA),IMA,OU),T(AU,HETHE),UA,VIDA,ZATA),OMBINING (NI ABOVE,",
    "SPIRITUS (ASPER,LENIS))),EPACT (DIGIT (EIGHT,F(IVE,OUR),NINE,ONE,S(EVEN,IX),T(HREE,WO)),",
    "NUMBER (EIGHT( HUNDRED,Y),F(I(FTY,VE HUNDRED),O(RTY,UR HUNDRED)),NINE( HUNDRED,TY),",
    "ONE HUNDRED,S(EVEN( HUNDRED,TY),IX( HUNDRED,TY)),T(EN,H(IRTY,REE HUNDRED),W(ENTY,",
    "O HUNDRED))),THOUSANDS MARK),F(RACTION ONE HALF,ULL STOP),MORPHOLOGICAL DIVIDER,OLD NUBIAN (",
    "DIRECT QUESTION MARK,FULL STOP,INDIRECT QUESTION MARK,VERSE DIVIDER),S(MALL LETTER (A(",
    "KHMIMIC KHEI,LFA),BOHAIRIC KHEI,CR(OSSED SHEI,YPTOGRAMMIC (EIE,GANGIA,NI,SHEI)),D(ALDA,EI,",
    "IALECT-P (ALEF,HORI,KAPA,NI)),EIE,F(EI,I),GA(MMA,NGIA),H(ATE,ORI),IAUDA,K(APA,H(EI,I),SI),L(",
    "-SHAPED HA,AULA),MI,NI,O.(LD (COPTIC (AIN,DJA,ESH,GANGIA,H(A.(T),EI,ORI),OOU,SH(EI,IMA)),",
    "NUBIAN (N(GI,YI),SHIMA,WAU)),OU),P(I,SI),RO,S(AMPI,H(EI,IMA),IMA,OU),T(AU,HETHE),UA,VIDA,",
    "ZATA),YMBOL (K(AI,HI RO),MI RO,PI RO,S(HIMA SIMA,TAUROS),TAU RO))),Y(LEFT SYMBOL,",
    "RIGHT SIGN)),R(AL,NISH VERSE DIVIDER,RESPONDS TO),U(CH AND LAMP,NT(ER(BORE,SINK),ING ROD (",
    "TENS DIGIT (EIGHT,F(IVE,OUR),NINE,ONE,S(EVEN,IX),T(HREE,WO)),UNIT DIGIT (EIGHT,F(IVE,OUR),",
    "NINE,ONE,S(EVEN,IX),T(HREE,WO)))),PLE WITH HEART),W.( FACE)),R(AB,E(DIT CARD,SCENT MOON),",
    "ICKET.( BAT AND BALL),O(CODILE,ISSANT,SS( (MARK,OF (JERUSALEM,LORRAINE),P(ATTY WITH (",
    "LEFT CROSSBAR,RIGHT CROSSBAR),OMMEE.( WITH HALF-CIRCLE BELOW))),ED (FLAGS,",
    "NEGATIVE SQUARED LATIN CAPITAL LETTER P,SWORDS),ING LANES),WN),U(TCH,ZEIRO SIGN),Y(ING (",
    "CAT FACE,FACE),STAL BALL)),U(BE ROOT,CUMBER,NEIFORM (NUMERIC SIGN (E(IGHT (ASH,DISH,GESH2,",
    "SHAR2,U.( VARIANT FORM),VARIANT FORM USSU.(3)),LAMITE (F(IFTY,ORTY),ONE THIRD,TWO THIRDS)),F(",
    "IVE (ASH.( TENU),B(AN2.( VARIANT FORM),URU),DISH,GESH(2,U),S(HAR(2,U),IXTHS DISH),U.(",
    " VARIANT FORM)),OUR (ASH.( TENU),B(AN2.( VARIANT FORM),URU),DISH,GESH(2,U),SHAR(2,U),U.(",
    " VARIANT FORM),VARIANT FORM LIMMU.( (A,B),4))),NI(GIDA(ESH,MIN),NE (ASH,DISH,GESH2,SHAR2,U.(",
    " VARIANT FORM),VARIANT FORM ILIMMU.( A,3,4))),O(LD ASSYRIAN ONE (QUARTER,SIXTH),NE (B(AN2,",
    "URU),E(IGHTH ASH,SHE3),GESH(2,U),HALF GUR,QUARTER (ASH,GUR),SHARU,THIRD (DISH,",
    "VARIANT FORM A))),S(EVEN (ASH,DISH,GESH2,SHAR2,U.( VARIANT FORM),VARIANT FORM IMIN( (A,B),",
    "3)),HAR2 TIMES GAL PLUS (DISH,MIN),IX (ASH.( TENU),DISH,GESH2,SHAR2,U.( VARIANT FORM),",
    "VARIANT FORM ASH9)),T(HREE (ASH.( TENU),B(AN2,URU.( VARIANT FORM)),DISH,GESH(2,U),SHAR(2.(",
    " VARIANT FORM),U.( VARIANT FORM)),VARIANT FORM ESH(16,21)),WO (ASH.( TENU),B(AN2,URU),ESHE3,",
    "GESH(2,U),SHAR(2,U),THIRDS (DISH,VARIANT FORM A)))),PUNCTUATION SIGN (DIAGONAL (COLON,",
    "QUADCOLON,TRICOLON),OLD ASSYRIAN WORD DIVIDER,VERTICAL COLON),SIGN (A.( TIMES (A,BAD,",
    "GAN2 TENU,HA,IGI,LAGAR GUNU,MUSH,SAG),2,B.( (GUNU,TIMES (ASH2,DUN3 GUNU,GA(L,N2 TENU),HA,I(",
    "GI GUNU,MIN),LAGAB,NUN.( TENU),SH(ESH,U2),U PLUS U PLUS U)),2.( TIMES (A,BALAG,GAN2 TENU,",
    "ME PLUS EN,SHA3,TAK4))),D.( TIMES ESH2),K.( TIMES (ERIN2,SHITA PLUS GISH)),L.( TIMES (AL,",
    "DIM2,GISH,HA,K(AD3,I),SHE,USH),AN,EPH),MAR.( TIMES (KUG,SHE)),N.( (OVER AN,PLUS NAGA (",
    "OPPOSING AN PLUS NAGA,SQUARED),THREE TIMES),SHE),PIN,R(AD.( TIMES KUR),KAB),S(AL2,H.( (",
    "KABA TENU,OVER ASH (OVER ASH.( CROSSING ASH OVER ASH OVER ASH),",
    "TUG2 OVER TUG2 TUG2 OVER TUG2 PAP),ZIDA TENU),2,GAB))),B(A.(D.( TIMES DISH TENU),G3,HAR2.(",
    " TIMES (AB2,NI,ZA)),L.( OVER BAL,AG),R.(A2)),I.( TIMES (A,GAR,IGI GUNU)),U.( (CROSSING BU,",
    "OVER BU (AB,TIMES NA2,UN)),LUG.( OVER BULUG),R.(2))),D(A.( TIMES TAK4,G.( (KISIM5 TIMES (A(",
    " PLUS MASH,MAR),B(ALAG,I),G(A.( PLUS MASH),I.(R2),UD),HA,IR.( PLUS LU),KAK,L(A,U.(",
    " PLUS MASH2,M)),NE,PAP PLUS PAP,SI,TAK4,U(2 PLUS (GIR2,MASH),SH)),TIMES KUR),3),M,R.(A(3,",
    "4))),I.(B,M.( TIMES (IGI,SHE,U U U),2.( TIMES UD)),N.( KASKAL U GUNU DISH),SH.( PLUS SHU)),",
    "U.( (GUNU,OVER DU,SHESHIG),B.( TIMES (ESH2,SHE),2),G.( TIMES (A(NSHE,SH.( AT LEFT)),D(IN,UN),",
    "ERIN2,G(A,I.(R2 GUNU,SH)),H(A,I),IGI GUNU,K(ASKAL,U(R,SHU2.( PLUS KASKAL))),L(A(K-020,M.(",
    " TIMES KUR)),UH PLUS GISH),M(ASH,ES,I),NI,PI,S(HE,I GUNU)),UD),H,N.(3.( GUNU.( GUNU)),4),",
    "R2)),E.( (OVER E NUN OVER NUN,TIMES PAP),2.( TIMES (A PLUS HA PLUS DA,GAR,KUR,MI,PAP,S(AL,",
    "HE),U)),DIN,GIR,L,N.( (CROSSING EN,OPPOSING EN,SQUARED,TIMES (GAN2.( TENU),ME))),R(EN,IN2.(",
    " X)),SH2.( CROSSING ESH2),ZEN.( (SHESHIG TIMES (ASH,HI,IGI GUNU,LA.(L),ME.(S),SU),TIMES (A.(",
    " PLUS LAL.( TIMES LAL),N),BAD,DUN3 GUNU.( GUNU),GUD,HA.( GUNU),IGI GUNU,K(ASKAL.( SQUARED),",
    "U3),L(A.(L TIMES LAL),I,U),S(HE,U),U(2,D))))),G(A.( GUNU,2.( (OVER GA2,TIMES (A( PLUS (",
    "DA PLUS HA,HA,IGI),B2 TENU PLUS TAB,N.( PLUS KAK PLUS A),SH.(2.( PLUS GAL))),B(A(D,HAR2,",
    "R PLUS RA),UR.( PLUS RA)),D(A,I.(M (GUNU,TIMES SHE)),U(B,G TIMES (IGI GUNU,KASKAL))),E(L.(",
    " PLUS LA),N.( TIMES GAN2 TENU),REN),G(A.(N2 TENU,R.( PLUS (DI,NE))),I.(4.( PLUS A),",
    "R2 PLUS SU)),H(A( PLUS (A,LU PLUS ESH2),L.( PLUS LA)),I PLUS LI,UB2),I(GI GUNU,",
    "SH PLUS HU PLUS ASH),K(A(K,SKAL),ID.( PLUS LAL),U(3 PLUS AN,SHU2 PLUS KASKAL)),L(A.(M.(",
    " TIMES KUR)),UH),M(E PLUS EN,I,USH),N(E.( PLUS (E2,GI)),UN.( OVER NUN)),PA,S(A(L,R),H(E.(",
    " PLUS TUR),I(D,M)),UM),TAK4,U.(D.( PLUS DU)),ZIZ2))),BA.( (CROSSING GABA,",
    "ROTATED NINETY DEGREES)),D.( OVER GAD GAR OVER GAR),L.( GAD OVER GAD GAR OVER GAR,AM),M,N.(",
    "2.( (CROSSING GAN2,OVER GAN2,TENU))),R.(3),SHAN),E(22,SHTIN.( TIMES (KUR,U))),I.( (",
    "CROSSING GI,TIMES (E,U)),4.( (CROSSING GI4,OVER GI4)),DIM,G,R(2.( GUNU),3.( TIMES (",
    "A PLUS IGI,GAN2 TENU,IGI,LU PLUS IGI,PA))),S(AL,H.( (CROSSING GISH,T(ENU,IMES (BAD,",
    "GISH CROSSING GISH,TAK4)))))),U.( CROSSING GU,2.( (GUNU,TIMES (IGI GUNU,KAK.(",
    " TIMES IGI GUNU),NUN,SAL PLUS TUG2))),D.( (OVER GUD LUGAL,PLUS GISH TIMES TAK4,TIMES (",
    "A PLUS KUR,KUR))),L,M.( TIMES SHE),R.(7,U(N,SH)))),H(A.( (GUNU,TENU.( GUNU)),L),I.( TIMES (",
    "ASH.( OVER HI TIMES ASH,2),BAD,DISH,GAD,KIN,NUN,SHE,U)),U.(B2.( TIMES (AN,HAL,KASKAL,LISH,",
    "UD)),L2,SH)),I.( A,B,DIM.( OVER IDIM (BUR,SQUARED)),G.(I.( (DIB,GUNU,",
    "OVER IGI SHIR OVER SHIR UD OVER UD,RI))),L.( TIMES GAN2 TENU,2),M.( (CROSSING IM,OPPOSING IM,",
    "SQUARED,TIMES TAK4),IN),N,R,SH),K(A.( TIMES (A.(D.( PLUS KU3),NSHE,SH(2,3)),B(A(D,LAG,R),I,",
    "U),E(RIN2,SH2),G(A.(L,N2 TENU,R.( PLUS SHA3 PLUS A)),I.(R2,SH.( (CROSSING GISH,PLUS SAR))),",
    "U.(D,R7)),HI TIMES ASH2,I(GI,M),K(A.(K),I.(D)),L(I,U.(M)),M(E.( PLUS (DU,GI,TE)),I.(",
    " PLUS NUNUZ)),N(E,UN),P(A,I),RU,S(A.(R),H(A,E,ID,U.(L)),IG,UHUR),T(AR,U),U.( U U,2,D,",
    "MUM TIMES PA,R.(2),SH),ZI),2.( CROSSING KA2),B,D(2,3,4,5.( OVER KAD5)),K.( TIMES IGI GUNU),",
    "L.( (CROSSING KAL,TIMES BAD)),M(2,4),P ELAMITE,SKAL.( (LAGAB TIMES U OVER LAGAB TIMES U,",
    "OVER KASKAL LAGAB TIMES U OVER LAGAB TIMES U))),ESH2,I.( TIMES (BAD,U.(D)),D,N,S(AL,H,IM5.(",
    " OVER KISIM5))),U.( OVER HI TIMES ASH2 KU OVER HI TIMES ASH2,3,4.( VARIANT FORM),7,L.( GUNU),",
    "N,R.( OPPOSING KUR),SHU2),WU318),L(A.(GA(B.( (SQUARED,TIMES (A.( PLUS (DA PLUS HA,GAR,LAL),L,",
    "N,SH ZIDA TENU),B(AD,I),DAR,EN,G(A.(R),I,UD.( PLUS GUD)),H(A.(L),I TIMES NUN),I(GI GUNU,M.(",
    " PLUS (HA,LU))),K(I.(N),U(3,L.( PLUS HI PLUS A))),L(AGAB,ISH,U.(L)),M(E.( PLUS EN),USH),NE,S(",
    "H(E PLUS SUM,ITA PLUS GISH (PLUS ERIN2,TENU),U2.( PLUS SHU2)),UM),T(A(G,K4),",
    "E PLUS A PLUS SU PLUS NA),U.( PLUS (A,U PLUS U),2 PLUS ASH,D,SH),ZU OVER ZU))),R.( (GUNU.(",
    " OVER LAGAR GUNU SHE),TIMES SHE.( PLUS SUM)))),HSHU,K-(0(03,2(1,5),30,5(0,1),62,",
    "79 OVER LAK-079 GUNU,8(0,1 OVER LAK-081),92),1(30,42),2(1(0,9),2(0,5,8),38,6(5,6)),3(4(3,7,",
    "8),8(3,4),90),4(4(1,9.( TIMES (GU,IGI,PAP PLUS (LU3,PAP PLUS LU3),U2 PLUS BA))),5(0,7),70,83,",
    "9(0,2,3,5)),550,6(08,17.( TIMES (ASH,BAD,DUN3 GUNU GUNU,KU3,LA,T(AR,E),U(2,D,RUDA))),36,48.(",
    " TIMES (DUB,GA,IGI.( GUNU),NI,PAP PLUS PAP PLUS LU3,SHESH PLUS KI,U(D,RUDA)))),7(24,49)),L.(",
    " TIMES LAL),M.( TIMES KUR.( PLUS RU))),I.(L,MMU2,SH),U.( TIMES BAD,2.( (CROSSING LU2,",
    "GUNU TIMES ASH,OPPOSING LU2,S(HESHIG.( TIMES BAD),QUARED),T(ENU,IMES (AL,BAD,DISH,ESH2.( (",
    "PLUS LAL,TENU)),GAN2 TENU,H(AL,I TIMES BAD),IM,K(AD(2,3.( PLUS ASH)),I),LA( PLUS ASH,GAB),",
    "ME PLUS EN,N(E,U),PAP.( PLUS PAP PLUS LU3),S(HU,I( PLUS ASH,K2 PLUS BU)),T(AK4,UG2))))),3,",
    "GAL.( (O(PPOSING LUGAL,VER LUGAL),SHESHIG)),H,L,M.( OVER LUM.( GAR OVER GAR)))),M(A.( (GUNU,",
    "TIMES TAK4),2,H,R,SH.(2)),E.(S.(H)),I.( PLUS ZA7,N),U.( OVER MU,G.( GUNU),NSUB,RGU2,SH.( (",
    "CROSSING MUSH,OVER MUSH.( TIMES (A PLUS NA,GA,KAK)),TIMES (A,KUR,ZA)),3.( (GUNU,TIMES (A.(",
    " PLUS DI),DI,ZA)))))),N(A.(2,4,GA.( (INVERTED,OPPOSING NAGA,TIMES SHU TENU),R),M.( NUTILLU,",
    "2)),E.( (SHESHIG,TIMES (A,UD))),I.( TIMES E,2,M.( TIMES GA(N2 TENU,R PLUS GAN2 TENU)),N.(9,",
    "DA2.( TIMES (A(N,SH.( PLUS ASH)),BAL,DIM GUNU,G(I.(SH),U(D,L)),HI,KESH2,LAK-050,M(ASH,",
    "E PLUS GAN2 TENU),N(E,UN),PAP PLUS PAP,SHE.( PLUS A( AN,SH.( PLUS ASH))),U.( PLUS U,",
    "2 PLUS ASH,RUDA,SH)))),SAG),U.(11.( ROTATED NINETY DEGREES),N.( (CROSSING NUN.(",
    " LAGAR OVER LAGAR),LAGAR TIMES (GAR,MASH,SAL.( OVER NUN LAGAR TIMES SAL),USH),OVER NUN,TENU),",
    "UZ.( (AB2 TIMES (ASHGAB,BI,DUG,GUD,IGI GUNU,KAD3,LA,NE,SILA3,U2),KISIM5 TIMES BI.( U)))))),P(",
    "A.(D,N,P),ESH2.( ASTERISK),I.( (CROSSING PI,TIMES (A.(B),B(I,U),E,I.(B),U.(2))),R(2,IG.( (",
    "OPPOSING PIRIG,TIMES (KAL,UD,ZA)))))),R(A.(B),I,U),S(A.(G.( (GUNU.( TIMES HA),NUTILLU,",
    "OVER SAG,TIMES (A,DU.(B),EN,HA,IGI GUNU,K(AK,UR),LUM,MI,NUN,S(AL,H(E AT LEFT,ID)),TA(B,K4),U(",
    "2,B,M,R,SH)))),L.( LAGAB TIMES ASH2),NGA2,R),H(A.(3.( TIMES (A,BAD,GISH,NE,SHU2,TUR,U.(",
    " PLUS A))),6.( TENU),B6,R2),E.( (HU,OVER SHE.( (GAD OVER GAD GAR OVER GAR,",
    "TAB OVER TAB GAR OVER GAR)),PLUS (HUB2,NAM2,SAR)),G9,N,SH.(2,LAM)),I(D.( TIMES (A,IM)),M.(",
    " TIMES (A,B(AL,ULUG),DIN,GAR,IGI.( GUNU),KUSHU2,LUL,MUG,SAL)),NIG,R.( (",
    "OVER SHIR BUR OVER BUR,TENU)),TA),U.( OVER INVERTED SHU,2.( PLUS (DUG TIMES NI,E2 TIMES AN)),",
    "BUR)),I.( (GUNU,TIMES TAK4),G.(4.( OVER SIG4 SHU2)),K2,LA3),U.( OVER SU,D.(2),HUR,M.(ASH),R.(",
    "9))),T(A.( (ASTERISK,GUNU,TIMES (HI,MI)),B.( (OVER TAB NI OVER NI DISH OVER DISH,SQUARED)),",
    "G.( TIMES (BI,GUD,SH(E,U),TUG2,UD)),K4.( PLUS SAG),R),E.( GUNU),I.( TENU,2,L,R.( (OVER TIR.(",
    " GAD OVER GAD GAR OVER GAR),TIMES TAK4))),U.(G2,K,M.( TIMES (GAN2 TENU,THREE DISH)),R.(",
    " OVER TUR ZA OVER ZA))),U.( (GUD,OVER U (PA OVER PA GAR OVER GAR,SUR OVER SUR,",
    "U REVERSED OVER U REVERSED),U.( U)),2,B,D.( (GUNU,KUSHU2,SHESHIG.( TIMES BAD),TIMES (BAD,MI,",
    "U PLUS U PLUS U.( GUNU))),UG),M.( TIMES (LAGAB,ME.( PLUS DA),SHA3,U),BIN,UM.( TIMES (KASKAL,",
    "PA))),N.( GUNU),R.( (CROSSING UR,SHESHIG),2.( (INVERTED,TIMES (A( PLUS (HA,NA),L),HA,NUN,U(",
    "2.( PLUS (ASH,BI)),D)))),4,I.(3),U.( TIMES (A.(SHGAB),BAR,D(ARA3,UN),G(A.(L,N2 TENU,R),U),HA,",
    "I(GI,M,SH),KI,L(AK-668,U(3,M)),MIN,PA,S(HE,IG4),TU,U( PLUS GUD,D,RUDA)),DA.( TIMES U))),SH.(",
    " TIMES (A,KU.(R),TAK4),2,UMX,X),TUKI,Z(3.( TIMES KASKAL),U)),Z(A.( (SQUARED TIMES KUR,TENU),",
    "7,G,MX),E2,I.( OVER ZI,3,B.( KABA TENU),G,Z2),U.( OVER ZU PLUS SAR,5.( TIMES (A,",
    "THREE DISH TENU)),BUR,M)))),P( (ON BLACK SQUARE,WITH STRAW),CAKE,IDO),R(L(ING STONE,Y (",
    "BRACKET EXTENSION,LO(GICAL (AND,OR),OP))),R(ENCY (EXCHANGE,SIGN),Y AND RICE),",
    "VED STEM PARAGRAPH SIGN ORNAMENT),ST(ARD,OMS),T OF MEAT),Y(CLONE,LINDRICITY,PR(IOT SYLLABLE (",
    "A,E,I,J(A,O),K(A,E,I,O,U),L(A,E,I,O,U),M(A,E,I,O,U),N(A,E,I,O,U),O,P(A,E,I,O,U),R(A,E,I,O,U),",
    "S(A,E,I,O,U),T(A,E,I,O,U),U,W(A,E,I,O),X(A,E),Z(A,O)),O-MINOAN SIGN CM(0(0(1,2,4,5,6,7,8,9),",
    "1(0,1,2.(B),3,5,7,9),2(1,3,4,5,6,7,8,9),3(0,3,4,5,6,7,8,9),4(0,1,4,6,7,9),5(0,1,2,3,4,5,6,8,",
    "9),6(0,1,2,3,4,6,7,8,9),7(0,1,2,3,4,5.(B),6,8,9),8(0,1,2,3,4,5,6,7,8,9),9(0,1,2,4,5,6,7,8,",
    "9)),1(0(0,1,2,3,4,5,7,8,9),1(0,2,4)),30(1,2))),RILLIC (CAPITAL L(ETTER (A.( WITH (BREVE,",
    "DIAERESIS),BKHASIAN (CHE.( WITH DESCENDER),DZE,HA),LEUT KA),B(A(RRED O.( WITH DIAERESIS),",
    "SHKIR KA),E,I(G YUS,NOCULAR O),LENDED YUS,ROAD OMEGA,YELORUSSIAN-UKRAINIAN I),C(CHE,HE.(",
    " WITH (D(ESCENDER,IAERESIS),VERTICAL STROKE)),LOSED LITTLE YUS,ROSSED O),D(CHE,E,JE.(RV),",
    "OUBLE (MONOCULAR O,O),WE,Z(E.(LO),HE,WE,Z(E,HE))),E.( WITH DIAERESIS,F,L.( WITH (DESCENDER,",
    "HOOK,MIDDLE HOOK,TAIL)),M.( WITH TAIL),N.( WITH (DESCENDER,HOOK,LEFT HOOK,MIDDLE HOOK,TAIL)),",
    "R.( WITH TICK),S.( WITH DESCENDER)),FITA,G(HE.( WITH (DESCENDER,MIDDLE HOOK,STROKE.(",
    " AND HOOK),UPTURN)),JE),H(A.( WITH (DESCENDER,HOOK,STROKE),RD SIGN),WE),I.( WITH (DIAERESIS,",
    "GRAVE,MACRON),E.( WITH (BREVE,GRAVE)),O.(T(A,IFIED (A,BIG YUS,CLOSED LITTLE YUS,E,LITTLE YUS,",
    "YAT))),ZHITSA.( WITH DOUBLE GRAVE ACCENT)),JE,K(A.( WITH (DESCENDER,HOOK,STROKE,",
    "VERTICAL STROKE)),HAKASSIAN CHE,JE,O(MI (D(E,JE,ZJE),LJE,NJE,SJE,TJE,ZJE),PPA),SI),L(HA,",
    "ITTLE YUS,JE),MONO(CULAR O,GRAPH UK),N(EUTRAL YER,JE),O.( WITH DIAERESIS,MEGA.( WITH TITLO),",
    "T),P(E.( WITH (DESCENDER,MIDDLE HOOK)),SI),QA,R(EVERSED (DZE,TSE,YU,ZE),HA,OUND OMEGA),S(",
    "CHWA.( WITH DIAERESIS),EMISOFT SIGN,H(A,CHA,HA.( WITH DESCENDER),ORT (I.( WITH TAIL),U),WE),",
    "OFT (DE,E(L,M),SIGN),TRAIGHT U.( WITH STROKE)),T(CHE,E.( WITH (DESCENDER,MIDDLE HOOK)),JE,S(",
    "E,HE,SE,WE),WE),U.( WITH (D(IAERESIS,OUBLE ACUTE),MACRON),K.(RAINIAN IE)),VE,WE,Y(A.(E,T),",
    "ERU.( WITH (BACK YER,DIAERESIS)),I,N,U),Z(E.( WITH D(ESCENDER,IAERESIS),MLYA),H(E.( WITH (",
    "BREVE,D(ESCENDER,IAERESIS))),WE))),IGATURE (A IE,EN GHE,TE TSE)),KAVYKA,LETTER (",
    "MULTIOCULAR O,PALOCHKA,SMALL CAPITAL EL),PAYEROK,S(MALL L(ETTER (A.( WITH (BREVE,DIAERESIS),",
    "BKHASIAN (CHE.( WITH DESCENDER),DZE,HA),LEUT KA),B(A(RRED O.( WITH DIAERESIS),SHKIR KA),E,I(",
    "G YUS,NOCULAR O),LENDED YUS,ROAD OMEGA,YELORUSSIAN-UKRAINIAN I),C(CHE,HE.( WITH (D(ESCENDER,",
    "IAERESIS),VERTICAL STROKE)),LOSED LITTLE YUS,ROSSED O),D(CHE,E,JE.(RV),OUBLE (MONOCULAR O,O),",
    "WE,Z(E.(LO),HE,WE,Z(E,HE))),E.( WITH DIAERESIS,F,L.( WITH (DESCENDER,HOOK,MIDDLE HOOK,TAIL)),",
    "M.( WITH TAIL),N.( WITH (DESCENDER,HOOK,LEFT HOOK,MIDDLE HOOK,TAIL)),R.( WITH TICK),S.(",
    " WITH DESCENDER)),FITA,G(HE.( WITH (DESCENDER,MIDDLE HOOK,STROKE.( AND HOOK),UPTURN)),JE),H(",
    "A.( WITH (DESCENDER,HOOK,STROKE),RD SIGN),WE),I.( WITH (DIAERESIS,GRAVE,MACRON),E.( WITH (",
    "BREVE,GRAVE)),O.(T(A,IFIED (A,BIG YUS,CLOSED LITTLE YUS,E,LITTLE YUS,YAT))),ZHITSA.(",
    " WITH DOUBLE GRAVE ACCENT)),JE,K(A.( WITH (DESCENDER,HOOK,STROKE,VERTICAL STROKE)),",
    "HAKASSIAN CHE,JE,O(MI (D(E,JE,ZJE),LJE,NJE,SJE,TJE,ZJE),PPA),SI),L(HA,ITTLE YUS,JE,",
    "ONG-LEGGED DE),MONO(CULAR O,GRAPH UK),N(ARROW O,EUTRAL YER,JE),O.( WITH DIAERESIS,MEGA.(",
    " WITH TITLO),T),P(ALOCHKA,E.( WITH (DESCENDER,MIDDLE HOOK)),SI),QA,R(EVERSED (DZE,TSE,YU,ZE),",
    "HA,OUND( OMEGA,ED VE)),S(CHWA.( WITH DIAERESIS),EMISOFT SIGN,H(A,CHA,HA.( WITH DESCENDER),",
    "ORT (I.( WITH TAIL),U),WE),OFT (DE,E(L,M),SIGN),TRAIGHT U.( WITH STROKE)),T(ALL (HARD SIGN,",
    "TE,YAT),CHE,E.( WITH (DESCENDER,MIDDLE HOOK)),HREE-LEGGED TE,JE,S(E,HE,SE,WE),WE),U.( WITH (",
    "D(IAERESIS,OUBLE ACUTE),MACRON),K.(RAINIAN IE),NBLENDED UK),VE,W(E,IDE ES),Y(A.(E,T),ERU.(",
    " WITH (BACK YER,DIAERESIS)),I,N,U),Z(E.( WITH D(ESCENDER,IAERESIS),MLYA),H(E.( WITH (BREVE,D(",
    "ESCENDER,IAERESIS))),WE))),IGATURE (A IE,EN GHE,TE TSE)),UBSCRIPT SMALL LETTER (A,B(E,",
    "YELORUSSIAN-UKRAINIAN I),CHE,D(E,Z(E,HE)),E(F,L,S),GHE.( WITH UPTURN),HA.(RD SIGN),I.(E),KA,",
    "O,PE,SHA,TSE,U,VE,YERU,Z(E,HE))),THOUSANDS SIGN))),D(A(GGER.( (KNIFE,WITH (LEFT GUARD,",
    "RIGHT GUARD))),LET SYMBOL,N(CER,GO),RK S(HADE,UNGLASSES),SH( (SYMBOL,WITH LEFT UPTURN),ED (",
    "LOW LINE,OVERLINE,TRIANGLE-HEADED RIGHTWARDS ARROW))),E(AF PERSON,C(I(DUOUS TREE,MAL (",
    "EXPONENT SYMBOL,SEPARATOR KEY SYMBOL)),REASE FONT SIZE SYMBOL),ER,GREE (CELSIUS,FAHRENHEIT,",
    "SIGN),L(IVERY TRUCK,TA EQUAL TO),N(SE (HORIZONTAL FILL,VERTICAL FILL),TISTRY SYMBOL LIGHT (",
    "DOWN AND HORIZONTAL.( WITH (CIRCLE,TRIANGLE,WAVE)),UP AND HORIZONTAL.( WITH (CIRCLE,TRIANGLE,",
    "WAVE)),VERTICAL (AND (BOTTOM (LEFT,RIGHT),TOP (LEFT,RIGHT),WAVE),WITH (CIRCLE,TRIANGLE)))),",
    "PARTMENT STORE,RELICT HOUSE BUILDING,S(CENDING NODE,ER(ET (CAPITAL LETTER (AY,BEE,CHEE,DEE,E(",
    "F,L,M,N.(G),R,S.(H),TH,W),GAY,H,JEE,KAY,LONG (A.(H),E,I,O.(O)),O(I,W),PEE,SHORT (A.(H),E,I,",
    "O.(O)),T(EE,HEE),VEE,WU,YEE,Z(EE,HEE)),SMALL LETTER (AY,BEE,CHEE,DEE,E(F,L,M,N.(G),R,S.(H),",
    "TH,W),GAY,H,JEE,KAY,LONG (A.(H),E,I,O.(O)),O(I,W),PEE,SHORT (A.(H),E,I,O.(O)),T(EE,HEE),VEE,",
    "WU,YEE,Z(EE,HEE))),T.( ISLAND)),KTOP (COMPUTER,WINDOW)),VANAGARI (A(BBREVIATION SIGN,",
    "CUTE ACCENT),CARET,D(ANDA,IGIT (EIGHT,F(IVE,OUR),NINE,ONE,S(EVEN,IX),T(HREE,WO),ZERO),",
    "OUBLE DANDA),G(AP FILLER,RAVE ACCENT),HEAD( MARK.( WITH HEADSTROKE),STROKE),JAIN OM,LETTER (",
    "A.(A,I,U,W,Y),B(A,BA,HA),C(A.(NDRA (A,E,O)),HA),D(A,D(A,D(A,HA),HA),HA),E,FA,G(A,GA,H(A,HA),",
    "LOTTAL STOP),H(A,EAVY YA),I.(I),J(A,HA,JA),K(A,H(A,HA)),L(A,L(A,LA)),MA.(RWARI DDA),N(A,GA,N(",
    "A,NA),YA),O.(E,OE),P(A,HA),QA,R(A,HA,RA),S(A,H(A,ORT (A,E,O)),SA),T(A,HA,T(A,HA)),U.(E,U.(",
    "E)),V(A,OCALIC (L.(L),R.(R))),Y(A,YA),Z(A,HA)),OM,S(IGN (A(NUSVARA,VAGRAHA),BHALE.(",
    " WITH HOOK),CANDRABINDU.( (AVAGRAHA,T(HREE,WO),VIRAMA)),DOUBLE CANDRABINDU VIRAMA,",
    "EXTENDED BHALE.( WITH HOOK),HIGH SPACING DOT,INVERTED CANDRABINDU,MINDU,NUKTA,PUSHPIKA,",
    "REVERSED NINE-LIKE BHALE,S(IDDHAM,PACING CANDRABINDU),VI(RAMA,SARGA),WESTERN (",
    "FIVE-LIKE BHALE,NINE-LIKE BHALE)),TRESS SIGN (ANUDATTA,UDATTA)),VOWEL SIGN (A(A,I,U,W,Y),",
    "CANDRA (E,LONG E,O),E,I.(I),O.(E,OE),PRISHTHAMATRA E,SHORT (E,O),U.(E,U.(E)),VOCALIC (L.(L),",
    "R.(R))))),I(A(ERESIS,GONAL CROSSHATCH FILL,M(ETER SIGN,OND (OPERATOR,SHAPE WITH A DOT INSIDE,",
    "TARGET,WITH (BOTTOM HALF BLACK,LEFT HALF BLACK,RIGHT HALF BLACK,TOP HALF BLACK)))),E( FACE-(",
    "1,2,3,4,5,6),SEL LOCOMOTIVE),FFERENCE BETWEEN,G(IT (EIGHT.( (COMMA,FULL STOP)),F(IVE.( (",
    "COMMA,FULL STOP)),OUR.( (COMMA,FULL STOP))),NINE.( (COMMA,FULL STOP)),ONE.( (COMMA,",
    "FULL STOP)),S(EVEN.( (COMMA,FULL STOP)),IX.( (COMMA,FULL STOP))),T(HREE.( (COMMA,FULL STOP)),",
    "WO.( (COMMA,FULL STOP))),ZERO.( (COMMA,FULL STOP))),RAM FOR (EARTH.(LY H(EAVEN,UMAN)),",
    "GREATER Y(ANG,IN),H(EAVENLY EARTH,UMAN EARTH),LESSER Y(ANG,IN))),MENSION ORIGIN,NGBAT (",
    "CIRCLED SANS-SERIF (DIGIT (EIGHT,F(IVE,OUR),NINE,ONE,S(EVEN,IX),T(HREE,WO),ZERO),NUMBER TEN),",
    "NEGATIVE CIRCLED (DIGIT (EIGHT,F(IVE,OUR),NINE,ONE,S(EVEN,IX),T(HREE,WO)),NUMBER TEN,",
    "SANS-SERIF (DIGIT (EIGHT,F(IVE,OUR),NINE,ONE,S(EVEN,IX),T(HREE,WO),ZERO),NUMBER TEN))),RECT (",
    "CURRENT SYMBOL FORM TWO,HIT),S(A(BLED CAR,PPOINTED (BUT RELIEVED FACE,FACE)),",
    "CONTINUOUS UNDERLINE SYMBOL,GUISED FACE),TTO MARK,V(ES AKURU (D(IGIT (EIGHT,F(IVE,OUR),NINE,",
    "ONE,S(EVEN,IX),T(HREE,WO),ZERO),OUBLE DANDA),END OF TEXT MARK,GAP FILLER,INITIAL RA,LETTER (",
    "A.(A),B(A,HA),C(A,HA),D(A,D(A,HA),HA),E,G(A,HA),HA,I.(I),JA,K(A,HA),L(A,LA),MA,N(A,GA,NA,YA),",
    "O,P(A,HA),RA,S(A,HA,SA),T(A,HA,TA),U.(U),VA,Y(A,YA),ZA),MEDIAL (RA,YA),PREFIXED NASAL SIGN,",
    "SIGN (ANUSVARA,CANDRABINDU,HALANTA,NUKTA),V(IRAMA,OWEL SIGN (A(A,I),E,I.(I),O,U.(U)))),I(DES,",
    "NG MASK,SION (S(IGN,LASH),TIMES)),ORCE SYMBOL),YA LAMP,ZZY (FACE,SYMBOL)),NA DOUBLE HELIX,O(",
    " NOT LITTER SYMBOL,CUMENT.( WITH (PICTURE,TEXT.( AND PICTURE))),DO,ES NOT (CONTAIN AS (",
    "MEMBER,NORMAL SUBGROUP.( OR EQUAL)),DIVIDE.( WITH REVERSED NEGATION SLASH),FORCE,PR(ECEDE.(",
    " OR EQUAL),OVE),SUCCEED.( OR EQUAL)),G.( FACE,RA (ABBREVIATION SIGN,LETTER (A.(A,I,U),B(A,",
    "HA),C(A,HA),D(A,D(A,HA),HA),E,G(A,HA),HA,I.(I),J(A,HA),K(A,HA),LA,MA,N(A,GA,NA,YA),O,P(A,HA),",
    "R(A,RA),S(A,HA,SA),T(A,HA,T(A,HA)),U.(U),VA,YA),SIGN (ANUSVARA,NUKTA,VI(RAMA,SARGA)),",
    "VOWEL SIGN (A(A,I,U),E,I.(I),O,U.(U),VOCALIC R.(R)))),L(LAR SIGN,PHIN),MINO TILE (HORIZONTAL(",
    " BACK,-0(0-0(0,1,2,3,4,5,6),1-0(0,1,2,3,4,5,6),2-0(0,1,2,3,4,5,6),3-0(0,1,2,3,4,5,6),4-0(0,1,",
    "2,3,4,5,6),5-0(0,1,2,3,4,5,6),6-0(0,1,2,3,4,5,6))),VERTICAL( BACK,-0(0-0(0,1,2,3,4,5,6),1-0(",
    "0,1,2,3,4,5,6),2-0(0,1,2,3,4,5,6),3-0(0,1,2,3,4,5,6),4-0(0,1,2,3,4,5,6),5-0(0,1,2,3,4,5,6),",
    "6-0(0,1,2,3,4,5,6)))),N(G SIGN,KEY),OR,T( (ABOVE,MINUS,OPERATOR,PLUS),TED (C(IRCLE,ROSS),",
    "FENCE,LINE FACE,OBELOS,RIGHT-POINTING ANGLE,S(OLIDUS,QUARE),TRANSPOSITION MARKER)),U(BLE( (",
    "ACUTE ACCENT,C(IRCLED (DIGIT (EIGHT,F(IVE,OUR),NINE,ONE,S(EVEN,IX),T(HREE,WO)),NUMBER TEN),",
    "OLON EQUAL,URLY LOOP),D(AGGER,OWN TACK),EXCLAMATION MARK,H(IGH-REVERSED-9 QUOTATION MARK,",
    "YPHEN),INTE(GRAL,RSECTION),L(EFT ARC GREATER-THAN BRACKET,O(GICAL (AND,OR),W( LINE,-(",
    "9 QUOTATION MARK,REVERSED-9 QUOTATION MARK)))),NESTED (GREATER-THAN,LESS-THAN.(",
    " WITH UNDERBAR)),OBLIQUE HYPHEN,P(LUS,R(ECEDES,IME.( QUOTATION MARK))),QUESTION MARK,",
    "RIGHT ARC LESS-THAN BRACKET,S(OLIDUS OPERATOR,QUARE (INTERSECTION,UNION),T(ACKED COMMA,",
    "ROKE NOT SIGN),U(BSET,CCEEDS,PERSET,SPENSION MARK)),U(NION,P TACK),VERTICAL (BAR.( (DOUBLE (",
    "LEFT TURNSTILE,RIGHT TURNSTILE),LEFT TURNSTILE)),LINE),WAVY OVERLINE),-(ENDED MULTIMAP,LINE (",
    "EQUAL TO OR (GREATER-THAN,LESS-THAN),SLANTED (EQUAL TO OR (GREATER-THAN,LESS-THAN),",
    "GREATER-THAN OR EQUAL TO,LESS-THAN OR EQUAL TO)),STRUCK (CAPITAL (C,GAMMA,H,N,P.(I),Q,R,Z),",
    "ITALIC (CAPITAL D,SMALL (D,E,I,J)),N-ARY SUMMATION,SMALL (GAMMA,PI))),D (FEMALE SIGN,",
    "MALE SIGN,SYMBOL)),GHNUT),VE OF PEACE,WN( (ARROWHEAD,FISH TAIL,RIGHT DIAGONAL ELLIPSIS,TACK.(",
    " WITH CIRCLE BELOW)),-(FACING SNAKE HEAD WITH (CLOSED MOUTH,OPEN MOUTH),POINTING (A(IRPLANE,",
    "TOMIC BOMB),ENERGY WAVE,FROG,R(ACING CAR,ED TRIANGLE,IFLE,OCKET SHIP),S(MALL RED TRIANGLE,",
    "TICK FIGURE),TRIANGLE WITH (LEFT HALF BLACK,RIGHT HALF BLACK))),WARD( FACING (HOOK.(",
    " WITH DOT),NOTCHED HOOK.( WITH DOT)),S (A(NCORA,RROW.( (AND RIGHT ONE EIGHTH BLOCK,FROM BAR,",
    "LEFTWARDS OF UPWARDS ARROW,TO BAR,WITH (CORNER LEFTWARDS,DOUBLE STROKE,EQUILATERAL ARROWHEAD,",
    "HORIZONTAL STROKE,LARGE TRIANGLE ARROWHEAD,MEDIUM TRIANGLE ARROWHEAD,NOTCHED TAIL,SMALL (",
    "EQUILATERAL ARROWHEAD,TRIANGLE ARROWHEAD),TIP (LEFTWARDS,RIGHTWARDS))))),BLACK (ARROW.(",
    " TO BAR),CIRCLED WHITE ARROW),COMPRESSED ARROW,D(ASHED ARROW,OUBLE ARROW),FINGER-POST ARROW,",
    "H(ARPOON WITH BARB (LEFT( (BESIDE (DOWNWARDS HARPOON WITH BARB RIGHT,",
    "UPWARDS HARPOON WITH BARB RIGHT),FROM BAR,TO BAR),WARDS),RIGHT( (FROM BAR,TO BAR),WARDS)),",
    "EAVY (ARROW,COMPRESSED ARROW)),PAIRED ARROWS,QUADRUPLE ARROW,ROCKET,S(ANS-SERIF ARROW,",
    "QUARED ARROW),T(RI(ANGLE( ARROWHEAD,-HEADED (ARROW.( (",
    "LEFTWARDS OF UPWARDS TRIANGLE-HEADED ARROW,TO BAR,WITH (BOLD SHAFT,DOUBLE HORIZONTAL STROKE,",
    "HEAVY SHAFT,LONG TIP (LEFTWARDS,RIGHTWARDS),MEDIUM SHAFT,NARROW SHAFT,VERY HEAVY SHAFT))),",
    "DASHED ARROW,PAIRED ARROWS,ZIGZAG ARROW)),PLE ARROW),WO( HEADED ARROW,",
    "-HEADED ARROW WITH TRIANGLE ARROWHEADS)),WHITE ARROW.( WITHIN TRIANGLE ARROWHEAD),",
    "ZIGZAG ARROW)))),R(A(CHMA SIGN,FTING POINT RIGHTWARDS ARROW,GON.( FACE)),ESS,IVE SLOW SIGN,O(",
    "MEDARY CAMEL,OLING FACE,P( OF BLOOD,LET)),UM WITH DRUMSTICKS),U(CK,MPLING,PLOYAN (AFFIX (",
    "ATTACHED (E HOOK,I HOOK,LEFT-TO-RIGHT SECANT,SECANT,TA(IL,NGENT.( HOOK))),HIGH (ACUTE,CIRCLE,",
    "DOT,GRAVE,L(INE,ONG GRAVE),TIGHT ACUTE,VERTICAL.( SECANT),WAVE),L(EFT HORIZONTAL SECANT,OW (",
    "A(CUTE,RROW),CIRCLE,DOT,GRAVE,L(INE,ONG GRAVE),TIGHT ACUTE,VERTICAL.( SECANT),WAVE)),MID (",
    "HORIZONTAL SECANT,VERTICAL SECANT),RIGHT HORIZONTAL SECANT),DOUBLE MARK,LETTER (A.(OU),B,D.(",
    " S,H),E.(E,U),F.( N),G.( R S),H.(L),I.(E),J.( (M.( S),N.( S),S.( WITH DOT),WITH DOT.(",
    "S INSIDE AND ABOVE))),K.( (M,R S),K),L.(H,ONG (I,U)),M.( (N.( S),S,WITH DOT)),N.( (M.( S),S,",
    "WITH DOT),ASAL (A,I,O,U)),O.(A,OH,U,W),P.( N,ERNIN A(M,N)),R.( S,H,OMANIAN (I,U)),S.( (J.(",
    " S),K.( R),M,N,P.( R),S,T.( R),WITH DOT.( BELOW)),HORT I,LOAN (AN,DH,E(E,H,N),J,O(N,W),U)),",
    "T.( (R S,S),H),U.( N,H,I),V.(OCALIC M),W.( R,A,EI,H,I,O.(W)),X.(W),YE),",
    "PUNCTUATION CHINOOK FULL STOP,SIGN O WITH CROSS,THICK LETTER SELECTOR)),VD),E(-MAIL SYMBOL,A(",
    "GLE,R.( (OF (MAIZE,RICE),WITH HEARING AID),TH.( G(LOBE (A(MERICAS,SIA-AUSTRALIA),",
    "EUROPE-AFRICA),ROUND))),ST SYRIAC CROSS),DITORIAL CORONIS,G(G,YPTIAN HIEROGLYPH (A(0(0(1,2,3,",
    "4,5.(A),6.(A,B),7,8,9),1(0,1,2,3,4.(A),5,6,7.(A),8,9),2(0,1,2,3,4,5,6,7,8,9),3(0,1,2.(A),3,4,",
    "5,6,7,8,9),4(0.(A),1,2.(A),3.(A),4,5.(A),6,7,8,9),5(0,1,2,3,4,5,6,7,8,9),6(0,1,2,3,4,5,6,7,8,",
    "9),70),A0(0(1,2,3,4,5,6,7.(A,B),8,9),1(0,1,2,3,4,5,6,7,8,9),2(0,1,2,3,4,5,6,7,8,9),3(0,1,",
    "2))),B(00(1,2,3,4,5.(A),6,7,8,9),EGIN (ENCLOSURE,SEGMENT,WALLED ENCLOSURE)),C0(0(1,2.(A,B,C),",
    "3,4,5,6,7,8,9),1(0.(A),1,2,3,4,5,6,7,8,9),2(0,1,2,3,4)),D0(0(1,2,3,4,5,6,7,8.(A),9),1(0,1,2,",
    "3,4,5,6,7,8,9),2(0,1,2,3,4,5,6,7.(A),8,9),3(0,1.(A),2,3,4.(A),5,6,7,8,9),4(0,1,2,3,4,5,6.(A),",
    "7,8.(A),9),5(0.(A,B,C,D,E,F,G,H,I),1,2.(A),3,4.(A),5,6,7,8,9),6(0,1,2,3,4,5,6,7.(A,B,C,D,E,F,",
    "G,H))),E(0(0(1,2,3,4,5,6,7,8.(A),9.(A)),1(0,1,2,3,4,5,6.(A),7.(A),8,9),2(0.(A),1,2,3,4,5,6,7,",
    "8.(A),9),3(0,1,2,3,4.(A),6,7,8)),ND (ENCLOSURE,SEGMENT,WALLED ENCLOSURE)),F(0(0(1.(A),2,3,4,",
    "5,6,7,8,9),1(0,1,2,3.(A),4,5,6,7,8,9),2(0,1.(A),2,3,4,5,6,7,8,9),3(0,1.(A),2,3,4,5,6,7.(A),",
    "8.(A),9),4(0,1,2,3,4,5.(A),6.(A),7.(A),8,9),5(0,1.(A,B,C),2,3)),ULL BLANK),G0(0(1,2,3,4,5,6.(",
    "A),7.(A,B),8,9),1(0,1.(A),2,3,4,5,6,7,8,9),2(0.(A),1,2,3,4,5,6.(A),7,8,9),3(0,1,2,3,4,5,6.(",
    "A),7.(A),8,9),4(0,1,2,3.(A),4,5.(A),6,7,8,9),5(0,1,2,3,4)),H(00(1,2,3,4,5,6.(A),7,8),ALF (",
    "BLANK,LOST SIGN),ORIZONTAL JOINER),I(0(0(1,2,3,4,5.(A),6,7,8,9.(A)),1(0.(A),1.(A),2,3,4,5)),",
    "NSERT AT (BOTTOM.( (END,START)),MIDDLE,TOP.( (END,START)))),K00(1,2,3,4,5,6,7,8),L(00(1,2.(",
    "A),3,4,5,6.(A),7,8),OST SIGN),M(0(0(1.(A,B),2,3.(A),4,5,6,7,8,9),1(0.(A),1,2.(A,B,C,D,E,F,G,",
    "H),3,4,5.(A),6.(A),7.(A),8,9),2(0,1,2.(A),3,4.(A),5,6,7,8.(A),9),3(0,1.(A),2,3.(A,B),4,5,6,7,",
    "8,9),4(0.(A),1,2,3,4)),IRROR HORIZONTALLY,ODIFIER DAMAGED.( AT (BOTTOM.( (AND END,END,START.(",
    " AND TOP END))),END,START.( AND (BOTTOM,TOP)),TOP.( (AND END,END,START.(",
    " AND BOTTOM END)))))),N(0(0(1,2,3,4,5,6,7,8,9),1(0,1,2,3,4,5,6,7,8.(A,B),9),2(0,1,2,3,4,5.(",
    "A),6,7,8,9),3(0,1,2,3.(A),4.(A),5.(A),6,7.(A),8,9),4(0,1,2)),L0(0(1,2,3,4,5.(A),6,7,8,9),1(0,",
    "1,2,3,4,5,6,7.(A),8,9),20),U0(0(1,2,3,4,5,6,7,8,9),1(0.(A),1.(A),2,3,4,5,6,7,8.(A),9),2(0,1,",
    "2.(A)))),O(0(0(1.(A),2,3,4,5.(A),6.(A,B,C,D,E,F),7,8,9),1(0.(A,B,C),1,2,3,4,5,6,7,8,9.(A)),2(",
    "0.(A),1,2,3,4.(A),5.(A),6,7,8,9.(A)),3(0.(A),1,2,3.(A),4,5,6.(A,B,C,D),7,8,9),4(0,1,2,3,4,5,",
    "6,7,8,9),5(0.(A,B),1)),VERLAY MIDDLE),P0(0(1.(A),2,3.(A),4,5,6,7,8,9),1(0,1)),Q00(1,2,3,4,5,",
    "6,7),R0(0(1,2.(A),3.(A,B),4,5,6,7,8,9),1(0.(A),1,2,3,4,5,6.(A),7,8,9),2(0,1,2,3,4,5,6,7,8,",
    "9)),S0(0(1,2.(A),3,4,5,6.(A),7,8,9),1(0,1,2,3,4.(A,B),5,6,7.(A),8,9),2(0,1,2,3,4,5,6.(A,B),7,",
    "8,9),3(0,1,2,3,4,5.(A),6,7,8,9),4(0,1,2,3,4,5,6)),T(0(0(1,2,3.(A),4,5,6,7.(A),8.(A),9.(A)),1(",
    "0,1.(A),2,3,4,5,6.(A),7,8,9),2(0,1,2,3,4,5,6,7,8,9),3(0,1,2.(A),3.(A),4,5,6)),ALL LOST SIGN),",
    "U0(0(1,2,3,4,5,6.(A,B),7,8,9),1(0,1,2,3,4,5,6,7,8,9),2(0,1,2,3.(A),4,5,6,7,8,9.(A)),3(0,1,2.(",
    "A),3,4,5,6,7,8,9),4(0,1,2)),V(0(0(1.(A,B,C,D,E,F,G,H,I),2.(A),3,4,5,6,7.(A,B),8,9),1(0,1.(A,",
    "B,C,D),2.(A,B),3,4,5,6,7,8,9),2(0.(A,B,C,D,E,F,G,H,I,J,K,L),1,2,3.(A),4,5,6,7,8.(A),9.(A)),3(",
    "0.(A),1.(A),2,3.(A),4,5,6,7.(A),8,9),40.(A)),ERTICAL JOINER),W(0(0(1,2,3.(A),4,5,6,7,8,9.(",
    "A)),1(0.(A),1,2,3,4.(A),5,6,7.(A),8.(A),9),2(0,1,2,3,4.(A),5)),IDE LOST SIGN),X00(1,2,3,4.(A,",
    "B),5,6.(A),7,8.(A)),Y00(1.(A),2,3,4,5,6,7,8),Z0(0(1,2.(A,B,C,D),3.(A,B),4.(A),5.(A),6,7,8,9),",
    "1(0,1,2,3,4,5.(A,B,C,D,E,F,G,H,I),6.(A,B,C,D,E,F,G,H))))),IGHT( (P(",
    "ETALLED OUTLINED BLACK FLORETTE,OINTED (BLACK STAR,PINWHEEL STAR,RECTILINEAR BLACK STAR)),",
    "RAYS (INWARD,OUTWARD),SPOKED ASTERISK,TEARDROP-SPOKED PROPELLER ASTERISK),H NOTE),",
    "JECT SYMBOL,L(BASAN LETTER (A,BE,C(E,HE),D(E,HE),E.(I),FE,G(E,H(AMMA,E),JE),HE,I,JE,K(E,HE),",
    "L(E,LE),ME,N(A,DE,E,JE),O,PE,QE,R(E,RE),S(E,HE),T(E,HE),U,VE,XE,Y,Z(E,HE)),E(CTRIC( (ARROW,",
    "LIGHT BULB,PLUG,TORCH),AL INTERSECTION),MENT OF.( (OPENING (DOWNWARDS,UPWARDS),WITH (",
    "DOT ABOVE,LONG HORIZONTAL STROKE,OVERBAR,TWO HORIZONTAL STROKES,UNDERBAR,",
    "VERTICAL BAR AT END OF HORIZONTAL STROKE))),PHANT,VATOR),F,YMAIC L(ETTER (A(LEPH,YIN),BETH,",
    "DALETH,GIMEL,HE.(TH),KAPH,LAMEDH,MEM,NUN,PE,QOPH,RESH,S(A(DHE,MEKH),HIN),T(AW,ETH),WAW,YODH,",
    "ZAYIN),IGATURE ZAYIN-YODH)),M( (DASH,QUAD,SPACE),OJI (COMPONENT (BALD,CURLY HAIR,RED HAIR,",
    "WHITE HAIR),MODIFIER FITZPATRICK TYPE-(1-2,3,4,5,6)),P(HASIS SYMBOL,TY (DOCUMENT,N(EST,OTE.(",
    " PA(D,GE))),PAGE.(S),SET.( WITH (LEFT ARROW ABOVE,OVERBAR,RIGHT ARROW ABOVE,",
    "SMALL CIRCLE ABOVE))))),N( (DASH,QUAD,SPACE),D (OF PROOF,WITH LEFTWARDS ARROW ABOVE),",
    "TER SYMBOL,VELOPE.( WITH (DOWNWARDS ARROW ABOVE,LIGHTNING))),QU(AL( (AND PARALLEL TO,TO (",
    "BY DEFINITION,OR (GREATER-THAN,LESS-THAN,PRECEDES,SUCCEEDS))),S (COLON,SIGN.( (A(BOVE (",
    "LEFTWARDS ARROW,PLUS SIGN,RIGHTWARDS ARROW,TILDE OPERATOR),ND SLANTED PARALLEL.(",
    " WITH TILDE ABOVE)),WITH (BUMPY ABOVE,DOT BELOW,INFINITY BELOW,",
    "TWO DOTS ABOVE AND TWO DOTS BELOW))),WITH ASTERISK)),I(ANGULAR TO,VALENT (TO,",
    "WITH FOUR DOTS ABOVE))),R(ASE TO THE (LEFT,RIGHT),IS FORM (ONE,TWO),ROR-BARRED (BLACK (",
    "CIRCLE,DIAMOND,SQUARE),WHITE (CIRCLE,DIAMOND,SQUARE))),STIMATE(D SYMBOL,S),THIOPIC (CO(LON,M(",
    "BINING (GEMINATION (AND VOWEL LENGTH MARK,MARK),VOWEL LENGTH MARK),MA)),DIGIT (EIGHT,F(IVE,",
    "OUR),NINE,ONE,S(EVEN,IX),T(HREE,WO)),FULL STOP,NUMBER (EIGHTY,F(IFTY,ORTY),HUNDRED,NINETY,S(",
    "EVENTY,IXTY),T(EN.( THOUSAND),HIRTY,WENTY)),P(ARAGRAPH SEPARATOR,REFACE COLON),QUESTION MARK,",
    "S(E(CTION MARK,MICOLON),YLLABLE (B(A.(A),B(A.(A),E.(E),I,O,U),E.(E),I,O.(A),U,W(A,E.(E),I)),",
    "C(A.(A),C(A.(A),E.(E),H(A.(A),E.(E),H(A.(A),E.(E),I,O,U),I,O,U),I,O,U),E.(E),H(A.(A),E.(E),I,",
    "O.(A),U,WA),I,O.(A),U,WA),D(A.(A),D(A.(A),E.(E),H(AA,E.(E),I,O,U),I,O.(A),U,WA),E.(E),I,O.(",
    "A),U,WA,Z(AA,E.(E),I,O,U)),F(A.(A),E.(E),I,O,U,W(A,E.(E),I),YA),G(A.(A),E.(E),G(A.(A),E.(E),",
    "I,O,U,W(A.(A),E.(E),I)),I,LOTTAL (A.(A),E.(E),I,O.(A),U,WA),O.(A),U.(RAGE (BW(EE,I),FW(EE,I),",
    "GW(E.(E),I),HHWA,KW(E.(E),I),MW(EE,I),PW(EE,I),QW(E.(E),I))),W(A.(A),E.(E),I),Y(A.(A),E.(E),",
    "I,O,U)),H(A.(A),E.(E),H(A.(A),E.(E),I,O,U,W(A,E.(E),I),Y(A.(A),E.(E),I,O,U)),I,O.(A),U),J(A.(",
    "A),E.(E),I,O.(A),U,WA),K(A.(A),E.(E),I,O.(A),U,W(A.(A),E.(E),I),X(A.(A),E.(E),I,O,U,W(A.(A),",
    "E.(E),I)),Y(A.(A),E.(E),I,O,U)),L(A.(A),E.(E),I,O.(A),U,WA),M(A.(A),E.(E),I,O.(A),U,W(A,E.(",
    "E),I),YA),N(A.(A),E.(E),I,O.(A),U,WA,Y(A.(A),E.(E),I,O.(A),U,WA)),P(A.(A),E.(E),H(A.(A,",
    "RYNGEAL (A.(A),E.(E),I,O,U)),E.(E),I,O.(A),U,WA),I,O.(A),U,W(A,E.(E),I)),Q(A.(A),E.(E),H(A.(",
    "A),E.(E),I,O,U,W(A.(A),E.(E),I)),I,O.(A),U,W(A.(A),E.(E),I),Y(A.(A),E.(E),I,O,U)),R(A.(A),E.(",
    "E),I,O.(A),U,WA,YA),S(A.(A),E.(BATBEIT (BWA,FWA,MWA,PWA),E),H(A.(A),E.(E),I,O.(A),U,WA),I,O.(",
    "A),S(A.(A),E.(E),I,O,U),U,WA,Z(A.(A),E.(E),I,O,U,WA)),T(A.(A),E.(E),H(A.(A),E.(E),I,O.(A),U,",
    "WA),I,O.(A),S(A.(A),E.(E),I,O,U,WA),TH(AA,E.(E),I,O,U),U,WA,Z(A.(A),E.(E),I,O.(A),U)),V(A.(",
    "A),E.(E),I,O,U,WA),W(A.(A),E.(E),I,O.(A),U),X(A.(A),E.(E),I,O.(A),U,W(A.(A),E.(E),I),Y(A.(A),",
    "E.(E),I,O,U)),Y(A.(A),E.(E),I,O.(A),U),Z(A.(A),E.(E),H(A.(A),E.(E),I,O,U,WA),I,O.(A),U,WA,Z(",
    "A.(A),E.(E),I,O,U)))),TONAL MARK (CHIRET,D(ERET.(-HIDET),IFAT),HIDET,K(ENAT,URT),RIKRIK,",
    "SHORT RIKRIK,YIZET),WORDSPACE),U(LER CONSTANT,RO( SIGN,-CURRENCY SIGN,PEAN (CASTLE,",
    "POST OFFICE))),VERGREEN TREE,X(C(ESS,LAMATION (MARK,QUESTION MARK)),P(LOSION (AT HORIZON,",
    "FRAME-(1,2,3)),RESSIONLESS FACE),T(ENDED ARABIC-INDIC DIGIT (EIGHT,F(IVE,OUR),NINE,ONE,S(",
    "EVEN,IX),T(HREE,WO),ZERO),R(ATERRESTRIAL ALIEN,EMELY HEAVY (FIVE SPOKED ASTERISK,GREEK CROSS,",
    "S(ALTIRE,IX SPOKED ASTERISK),WHITE (CIRCLE,SQUARE))))),YE.(GLASSES,S)),F(A(C(E (",
    "HOLDING BACK TEARS,MASSAGE,PALM,S(AVOURING DELICIOUS FOOD,CREAMING IN FEAR),THROWING A KISS,",
    "WITH( (BAGS UNDER EYES,CO(LD SWEAT,WBOY HAT),DIAGONAL MOUTH,FINGER COVERING CLOSED LIPS,",
    "HEAD-BANDAGE,LOOK OF TRIUMPH,M(EDICAL MASK,ONOCLE),NO GOOD GESTURE,O(K GESTURE,",
    "NE EYEBROW RAISED,PEN (EYES AND HAND OVER MOUTH,MOUTH.( (AND COLD SWEAT,VOMITING)))),P(",
    "ARTY HORN AND PARTY HAT,EEKING EYE,LEADING EYES),ROLLING EYES,STUCK-OUT TONGUE.( AND (",
    "TIGHTLY-CLOSED EYES,WINKING EYE)),T(EARS OF JOY,HERMOMETER),UNEVEN EYES AND WAVY MOUTH),",
    "OUT MOUTH)),SIMILE SIGN,TORY),IRY,L(AFEL,L(EN LEAF,ING DIAGONAL (CROSSING (NORTH EAST ARROW,",
    "RISING DIAGONAL),IN WHITE CIRCLE IN BLACK SQUARE))),MILY,RSI SYMBOL,THER CHRISTMAS,X (ICON,",
    "MACHINE)),E(A(RFUL FACE,THER),M(ALE SIGN,ININE ORDINAL INDICATOR),NCER,RR(IS WHEEL,Y)),I(",
    "ELD HOCKEY STICK AND BALL,GURE (DASH,SPACE),L(E (CABINET,FOLDER),M (FRAMES,PROJECTOR)),N(",
    "GERPRINT,ITE PART INTEGRAL),R(E.( E(NGINE,XTINGUISHER),CRACKER,WORK( SPARKLER,S)),ST (",
    "PLACE MEDAL,QUARTER MOON.( (SYMBOL,WITH FACE)),STRONG ISOLATE)),S(H.( CAKE WITH SWIRL DESIGN,",
    "EYE,ING POLE AND FISH),TED HAND SIGN),VE DOT (MARK,PUNCTUATION)),L(A(G IN HOLE,MINGO,",
    "PPING BIRD,T( SHOE,BREAD,NESS)),E(UR-DE-LIS,XED BICEPS),O(PPY DISK,RAL HEART,WER.( P(",
    "LAYING CARDS,UNCTUATION MARK))),U(SHED FACE,TE),Y.(ING (DISC,ENVELOPE,SAUCER.( WITH( BEAMS,",
    "OUT BEAMS))))),O(G.(GY),LD(ER,ING HAND FAN),NDUE,OT.(PRINTS),R( ALL,CES,K( AND KNIFE.(",
    " WITH PLATE),ED PARAGRAPHOS,ING),TUNE COOKIE),U(NTAIN,R( (BALLOON-SPOKED ASTERISK,C(",
    "LUB-SPOKED ASTERISK,ORNER ARROWS CIRCLING ANTICLOCKWISE),DOT (MARK,PUNCTUATION),LEAF CLOVER,",
    "POINTED BLACK STAR,TEARDROP-SPOKED ASTERISK),-PER-EM SPACE,TH ROOT)),X FACE),R(A(CTION (",
    "NUMERATOR ONE,SLASH),ME WITH (AN X,PICTURE,TILES)),E(EZING FACE,NCH FR(ANC SIGN,IES)),",
    "IED SHRIMP,O(G FACE,NT-(FACING BABY CHICK,TILTED SHADOWED WHITE RIGHTWARDS ARROW),WN.(",
    "ING FACE WITH OPEN MOUTH))),U(EL PUMP,LL( (BLOCK,MOON (SYMBOL,WITH FACE),OUTER JOIN,STOP),",
    "WIDTH (A(MPERSAND,POSTROPHE,STERISK),BROKEN BAR,C(ENT SIGN,IRCUMFLEX ACCENT,O(LON,MM(A,",
    "ERCIAL AT))),D(IGIT (EIGHT,F(IVE,OUR),NINE,ONE,S(EVEN,IX),T(HREE,WO),ZERO),OLLAR SIGN),E(",
    "QUALS SIGN,XCLAMATION MARK),FULL STOP,GR(AVE ACCENT,EATER-THAN SIGN),HYPHEN-MINUS,L(ATIN (",
    "CAPITAL LETTER (A,B,C,D,E,F,G,H,I,J,K,L,M,N,O,P,Q,R,S,T,U,V,W,X,Y,Z),SMALL LETTER (A,B,C,D,E,",
    "F,G,H,I,J,K,L,M,N,O,P,Q,R,S,T,U,V,W,X,Y,Z)),E(FT (CURLY BRACKET,PARENTHESIS,SQUARE BRACKET,",
    "WHITE PARENTHESIS),SS-THAN SIGN),OW LINE),MACRON,N(OT SIGN,UMBER SIGN),P(ERCENT SIGN,",
    "LUS SIGN,OUND SIGN),QU(ESTION MARK,OTATION MARK),R(EVERSE SOLIDUS,IGHT (CURLY BRACKET,",
    "PARENTHESIS,SQUARE BRACKET,WHITE PARENTHESIS)),S(EMICOLON,OLIDUS),TILDE,VERTICAL LINE,",
    "WON SIGN,YEN SIGN)),N(CTION APPLICATION,ERAL URN,NEL),SE)),G(A(ME DIE,R(AY (C(APITAL LETTER (",
    "A,BA,CA,DA,FA,GA,HA,JA,KA,LA,MA,N(A,YA),OLD (KA,NA),PA,RA,SA,TA,WA,XA,YA),O(MBINING DO(",
    "T ABOVE,UBLE DOT ABOVE),NSONANT (GEMINATION MARK,NASALIZATION MARK))),DIGIT (EIGHT,F(IVE,",
    "OUR),NINE,ONE,S(EVEN,IX),T(HREE,WO),ZERO),HYPHEN,MINUS SIGN,PLUS SIGN,REDUPLICATION MARK,S(",
    "MALL LETTER (A,BA,CA,DA,FA,GA,HA,JA,KA,LA,MA,N(A,YA),OLD (KA,NA),PA,RA,SA,TA,WA,XA,YA),UKUN),",
    "VOWEL (LENGTH MARK,SIGN (A,E.(E),I,O))),LIC)),E(AR.( WITH( HANDLES,OUT HUB)),M( STONE,INI),",
    "NIE,O(METRIC( PROPORTION,ALLY EQU(AL TO,IVALENT TO)),RGIAN (CAPITAL LETTER (A(EN,N),BAN,C(AN,",
    "H(AR,IN),IL),DON,EN,G(AN,HAN),H(A(E,R),E,IE,OE),IN,J(HAN,IL),K(AN,HAR),LAS,MAN,NAR,ON,P(AR,",
    "HAR),QAR,RAE,S(AN,HIN),TA(N,R),UN,VIN,WE,XAN,YN,Z(EN,HAR)),LETTER (A(EN,IN,N),BAN,C(AN,H(AR,",
    "IN),IL),DON,E(LIFI,N),FI,G(AN,HAN),H(A(E,R.(D SIGN)),E,IE,OE),IN,J(HAN,IL),K(AN,HAR),LA(",
    "BIAL SIGN,S),MAN,NAR,ON,P(AR,HAR),QAR,RAE,S(AN,HIN),T(A(N,R),URNED GAN),UN,VIN,WE,XAN,YN,Z(",
    "EN,HAR)),MTAVRULI CAPITAL LETTER (A(EN,IN,N),BAN,C(AN,H(AR,IN),IL),DON,E(LIFI,N),FI,G(AN,",
    "HAN),H(A(E,R.(D SIGN)),E,IE,OE),IN,J(HAN,IL),K(AN,HAR),LA(BIAL SIGN,S),MAN,NAR,ON,P(AR,HAR),",
    "QAR,RAE,S(AN,HIN),T(A(N,R),URNED GAN),UN,VIN,WE,XAN,YN,Z(EN,HAR)),PARAGRAPH SEPARATOR,",
    "SMALL LETTER (A(EN,N),BAN,C(AN,H(AR,IN),IL),DON,EN,G(AN,HAN),H(A(E,R),E,IE,OE),IN,J(HAN,IL),",
    "K(AN,HAR),LAS,MAN,NAR,ON,P(AR,HAR),QAR,RAE,S(AN,HIN),TA(N,R),UN,VIN,WE,XAN,YN,Z(EN,HAR)))),",
    "RMAN PENNY SIGN,TA MARK),HOST,I(MEL SYMBOL,NGER ROOT,R(AFFE FACE,L.(S SYMBOL))),L(A(GOLITIC (",
    "CAPITAL LETTER (AZU,B(IG YUS,UKY),C(AUDATE CHRIVI,HRIVI),D(JERVI,OBRO,ZELO),F(ITA,RITU),",
    "GLAGOLI,HERU,I.(NITIAL IZHE,OTATED (BIG YUS,SMALL YUS),ZH(E,ITSA)),KAKO,L(ATINATE MYSLITE,",
    "JUDIJE),MYSLITE,NASHI,O(NU,TU),P(E,OKOJI),RITSI,S(H(A,TA.(PIC)),LOVO,MALL YUS.( WITH TAIL),",
    "PIDERY HA),T(ROKUTASTI A,SI,VRIDO),UKU,VEDE,Y(ATI,E(R(I,U),STU),O,U),Z(EMLJA,HIVETE)),",
    "SMALL LETTER (AZU,B(IG YUS,UKY),C(AUDATE CHRIVI,HRIVI),D(JERVI,OBRO,ZELO),F(ITA,RITU),",
    "GLAGOLI,HERU,I.(NITIAL IZHE,OTATED (BIG YUS,SMALL YUS),ZH(E,ITSA)),KAKO,L(ATINATE MYSLITE,",
    "JUDIJE),MYSLITE,NASHI,O(NU,TU),P(E,OKOJI),RITSI,S(H(A,TA.(PIC)),LOVO,MALL YUS.( WITH TAIL),",
    "PIDERY HA),T(ROKUTASTI A,SI,VRIDO),UKU,VEDE,Y(ATI,E(R(I,U),STU),O,U),Z(EMLJA,HIVETE))),",
    "SS OF MILK),EICH STARK,O(BE WITH MERIDIANS,VES,WING STAR)),O(A(L NET,T),GGLES,LFER,NGGONG,",
    "OSE,RILLA,THIC LETTER (A(HSA,IHVUS),BAIRKAN,DAGS,EIS,FAIHU,GIBA,H(AGL,WAIR),I(GGWS,UJA),JER,",
    "KUSMA,LAGUS,MANNA,N(AUTHS,INE( HUNDRED,TY)),OTHAL,PAIRTHRA,QAIRTHRA,RAIDA,SAUIL,T(EIWS,",
    "HIUTH),URUS,WINJA)),R(A(DUATION CAP,NTHA (AU LENGTH MARK,LETTER (A.(A,I,U),B(A,HA),C(A,HA),D(",
    "A,D(A,HA),HA),EE,G(A,HA),HA,I.(I),J(A,HA),K(A,HA),L(A,LA),MA,N(A,GA,NA,YA),OO,P(A,HA),RA,S(A,",
    "HA,SA),T(A,HA,T(A,HA)),U.(U),V(A,EDIC (ANUSVARA,DOUBLE ANUSVARA),OCALIC (L.(L),R.(R))),YA),",
    "OM,SIGN (A(NUSVARA,VAGRAHA),C(ANDRABINDU,OMBINING ANUSVARA ABOVE),NUKTA,PLUTA,VI(RAMA,",
    "SARGA)),VOWEL SIGN (A(A,I,U),EE,I.(I),OO,U.(U),VOCALIC (L.(L),R.(R)))),PES,VE ACCENT),E(",
    "ATER-THAN (A(BOVE (DOUBLE-LINE EQUAL ABOVE LESS-THAN,LESS-THAN ABOVE DOUBLE-LINE EQUAL,",
    "RIGHTWARDS ARROW,S(IMILAR (ABOVE LESS-THAN,OR EQUAL),",
    "LANTED EQUAL ABOVE LESS-THAN ABOVE SLANTED EQUAL)),ND (NOT APPROXIMATE,",
    "SINGLE-LINE NOT EQUAL TO)),B(ESIDE LESS-THAN,UT NOT EQU(AL TO,IVALENT TO)),CLOSED BY CURVE.(",
    " ABOVE SLANTED EQUAL),EQUAL TO OR LESS-THAN,O(R (APPROXIMATE,EQU(AL TO,IVALENT TO),LESS-THAN,",
    "SLANTED EQUAL TO.( WITH DOT (ABOVE.( LEFT),INSIDE))),VER( EQUAL TO,LAPPING LESS-THAN)),SIGN,",
    "WITH (CIRCLE INSIDE,DOT,QUESTION MARK ABOVE)),E(K (A(CROPHONIC (ATTIC (FI(FTY.( (STATERS,T(",
    "ALENTS,HOUSAND.( STATERS)))),VE.( (HUNDRED.( (STATERS,TALENTS)),STATERS,T(ALENTS,HOUSAND.(",
    " TALENTS))))),ONE (DRACHMA,H(ALF,UNDRED (STATERS,TALENTS)),QUARTER,THOUSAND (STATERS,",
    "TALENTS)),TEN (MNAS,STATERS,T(ALENTS,HOUSAND STATERS))),C(ARYSTIAN FIVE HUNDRED,",
    "YRENAIC TWO DRACHMAS),DELPHIC FIVE MNAS,EPIDAUREAN (FIVE HUNDRED,TWO.( DRACHMAS)),HER(",
    "AEUM ONE PLETHRON,MIONIAN (FIFTY,ONE,TEN)),MESSENIAN TEN,NAXIAN FIVE HUNDRED,",
    "STRATIAN FIFTY MNAS,T(HESPIAN (FI(FTY,VE (HUNDRED,THOUSAND)),ONE.( (HUNDRED,THOUSAND)),T(EN,",
    "H(IRTY,REE HUNDRED),WO)),ROEZENIAN (FI(FTY.( ALTERNATE FORM),VE.( HUNDRED)),TEN.(",
    " ALTERNATE FORM)))),NO TELEIA,R(OURA SIGN,TABE SIGN)),BETA SYMBOL,CAPITAL (",
    "DOTTED LUNATE SIGMA SYMBOL,KAI SYMBOL,L(ETTER (A(LPHA.( WITH (DASIA.( AND (OXIA.(",
    " AND PROSGEGRAMMENI),P(ERISPOMENI.( AND PROSGEGRAMMENI),ROSGEGRAMMENI),VARIA.(",
    " AND PROSGEGRAMMENI))),MACRON,OXIA,P(ROSGEGRAMMENI,SILI.( AND (OXIA.( AND PROSGEGRAMMENI),P(",
    "ERISPOMENI.( AND PROSGEGRAMMENI),ROSGEGRAMMENI),VARIA.( AND PROSGEGRAMMENI)))),TONOS,V(ARIA,",
    "RACHY))),RCHAIC SAMPI),BETA,CHI,DELTA,E(PSILON.( WITH (DASIA.( AND (OXIA,VARIA)),OXIA,PSILI.(",
    " AND (OXIA,VARIA)),TONOS,VARIA)),TA.( WITH (DASIA.( AND (OXIA.( AND PROSGEGRAMMENI),P(",
    "ERISPOMENI.( AND PROSGEGRAMMENI),ROSGEGRAMMENI),VARIA.( AND PROSGEGRAMMENI))),OXIA,P(",
    "ROSGEGRAMMENI,SILI.( AND (OXIA.( AND PROSGEGRAMMENI),P(ERISPOMENI.( AND PROSGEGRAMMENI),",
    "ROSGEGRAMMENI),VARIA.( AND PROSGEGRAMMENI)))),TONOS,VARIA))),GAMMA,HETA,IOTA.( WITH (D(ASIA.(",
    " AND (OXIA,PERISPOMENI,VARIA)),IALYTIKA),MACRON,OXIA,PSILI.( AND (OXIA,PERISPOMENI,VARIA)),",
    "TONOS,V(ARIA,RACHY))),KAPPA,LAMDA,MU,NU,OM(EGA.( WITH (DASIA.( AND (OXIA.(",
    " AND PROSGEGRAMMENI),P(ERISPOMENI.( AND PROSGEGRAMMENI),ROSGEGRAMMENI),VARIA.(",
    " AND PROSGEGRAMMENI))),OXIA,P(ROSGEGRAMMENI,SILI.( AND (OXIA.( AND PROSGEGRAMMENI),P(",
    "ERISPOMENI.( AND PROSGEGRAMMENI),ROSGEGRAMMENI),VARIA.( AND PROSGEGRAMMENI)))),TONOS,VARIA)),",
    "ICRON.( WITH (DASIA.( AND (OXIA,VARIA)),OXIA,PSILI.( AND (OXIA,VARIA)),TONOS,VARIA))),P(",
    "AMPHYLIAN DIGAMMA,HI,I,SI),RHO.( WITH DASIA),S(AN,HO,IGMA),T(AU,HETA),UPSILON.( WITH (D(",
    "ASIA.( AND (OXIA,PERISPOMENI,VARIA)),IALYTIKA),MACRON,OXIA,TONOS,V(ARIA,RACHY))),XI,YOT,",
    "ZETA),UNATE SIGMA SYMBOL),REVERSED (DOTTED LUNATE SIGMA SYMBOL,LUNATE SIGMA SYMBOL),",
    "THETA SYMBOL),D(ASIA.( AND (OXIA,PERISPOMENI,VARIA)),IALYTIKA (AND (OXIA,PERISPOMENI,VARIA),",
    "TONOS),RACHMA SIGN),F(IVE OBOLS SIGN,OUR OBOLS SIGN),GRAMMA SIGN,IN(DICTION SIGN,",
    "STRUMENTAL NOTATION SYMBOL-(1.(1,2,3,4,7,8,9),2.(3,4,5,6,7,9),3(0,2,6,7,8,9),4.(0,2,3,5,7,8,",
    "9),5.(0,1,2,3,4),7,8)),K(A(I SYMBOL,PPA SYMBOL),ORONIS,YATHOS BASE SIGN),L(ETTER (",
    "ARCHAIC KOPPA,DIGAMMA,KOPPA,S(AMPI,MALL CAPITAL (GAMMA,LAMDA,OMEGA,P(I,SI),RHO),TIGMA),YOT),",
    "ITRA SIGN,OWER NUMERAL SIGN,UNATE (EPSILON SYMBOL,SIGMA SYMBOL)),M(ETRETES SIGN,",
    "USICAL LEIMMA),NUMERAL SIGN,O(BOL SIGN,NE (HALF SIGN.( ALTERNATE FORM),QUARTER SIGN),",
    "UNKIA SIGN,XIA),P(ERISPOMENI,HI SYMBOL,I SYMBOL,ROSGEGRAMMENI,SILI.( AND (OXIA,PERISPOMENI,",
    "VARIA))),QUESTION MARK,R(EVERSED LUNATE EPSILON SYMBOL,HO (SYMBOL,WITH STROKE SYMBOL)),S(",
    "INUSOID SIGN,MALL (DOTTED LUNATE SIGMA SYMBOL,LETTER (A(LPHA.( WITH (DASIA.( AND (OXIA.(",
    " AND YPOGEGRAMMENI),PERISPOMENI.( AND YPOGEGRAMMENI),VARIA.( AND YPOGEGRAMMENI),",
    "YPOGEGRAMMENI)),MACRON,OXIA.( AND YPOGEGRAMMENI),P(ERISPOMENI.( AND YPOGEGRAMMENI),SILI.(",
    " AND (OXIA.( AND YPOGEGRAMMENI),PERISPOMENI.( AND YPOGEGRAMMENI),VARIA.( AND YPOGEGRAMMENI),",
    "YPOGEGRAMMENI))),TONOS,V(ARIA.( AND YPOGEGRAMMENI),RACHY),YPOGEGRAMMENI)),RCHAIC (KOPPA,",
    "SAMPI)),BETA,CHI,D(ELTA,IGAMMA),E(PSILON.( WITH (DASIA.( AND (OXIA,VARIA)),OXIA,PSILI.( AND (",
    "OXIA,VARIA)),TONOS,VARIA)),TA.( WITH (DASIA.( AND (OXIA.( AND YPOGEGRAMMENI),PERISPOMENI.(",
    " AND YPOGEGRAMMENI),VARIA.( AND YPOGEGRAMMENI),YPOGEGRAMMENI)),OXIA.( AND YPOGEGRAMMENI),P(",
    "ERISPOMENI.( AND YPOGEGRAMMENI),SILI.( AND (OXIA.( AND YPOGEGRAMMENI),PERISPOMENI.(",
    " AND YPOGEGRAMMENI),VARIA.( AND YPOGEGRAMMENI),YPOGEGRAMMENI))),TONOS,VARIA.(",
    " AND YPOGEGRAMMENI),YPOGEGRAMMENI))),FINAL SIGMA,GAMMA,HETA,IOTA.( WITH (D(ASIA.( AND (OXIA,",
    "PERISPOMENI,VARIA)),IALYTIKA.( AND (OXIA,PERISPOMENI,TONOS,VARIA))),MACRON,OXIA,P(ERISPOMENI,",
    "SILI.( AND (OXIA,PERISPOMENI,VARIA))),TONOS,V(ARIA,RACHY))),K(APPA,OPPA),LAMDA,MU,NU,OM(EGA.(",
    " WITH (DASIA.( AND (OXIA.( AND YPOGEGRAMMENI),PERISPOMENI.( AND YPOGEGRAMMENI),VARIA.(",
    " AND YPOGEGRAMMENI),YPOGEGRAMMENI)),OXIA.( AND YPOGEGRAMMENI),P(ERISPOMENI.(",
    " AND YPOGEGRAMMENI),SILI.( AND (OXIA.( AND YPOGEGRAMMENI),PERISPOMENI.( AND YPOGEGRAMMENI),",
    "VARIA.( AND YPOGEGRAMMENI),YPOGEGRAMMENI))),TONOS,VARIA.( AND YPOGEGRAMMENI),YPOGEGRAMMENI)),",
    "ICRON.( WITH (DASIA.( AND (OXIA,VARIA)),OXIA,PSILI.( AND (OXIA,VARIA)),TONOS,VARIA))),P(",
    "AMPHYLIAN DIGAMMA,HI,I,SI),RHO.( WITH (DASIA,PSILI)),S(A(MPI,N),HO,IGMA,TIGMA),T(AU,HETA),",
    "UPSILON.( WITH (D(ASIA.( AND (OXIA,PERISPOMENI,VARIA)),IALYTIKA.( AND (OXIA,PERISPOMENI,",
    "TONOS,VARIA))),MACRON,OXIA,P(ERISPOMENI,SILI.( AND (OXIA,PERISPOMENI,VARIA))),TONOS,V(ARIA,",
    "RACHY))),XI,ZETA),REVERSED (DOTTED LUNATE SIGMA SYMBOL,LUNATE SIGMA SYMBOL)),",
    "UBSCRIPT SMALL LETTER (BETA,CHI,GAMMA,PHI,RHO),YMBOL TAU RHO),T(ALENT SIGN,H(ETA SYMBOL,REE (",
    "OBOLS SIGN,QUARTERS SIGN)),ONOS,RYBLION BASE SIGN,WO (OBOLS SIGN,THIRDS SIGN)),UPSILON WITH (",
    "ACUTE AND HOOK SYMBOL,DIAERESIS AND HOOK SYMBOL,HOOK SYMBOL),V(ARIA,OCAL NOTATION SYMBOL-(1.(",
    "0,1,2,3,4,5,6,7,8,9),2.(0,1,2,3,4),3,4,5.(0,1,2,3,4),6,7,8,9)),XESTES SIGN,Y(EAR SIGN,",
    "POGEGRAMMENI),ZERO SIGN),N (APPLE,BOOK,HEART,SALAD)),Y HEART),I(MACING FACE,NNING (",
    "CAT FACE WITH SMILING EYES,FACE.( WITH (ONE LARGE AND ONE SMALL EYE,S(MILING EYES,",
    "TAR EYES))))),O(UP MARK,WING HEART)),U(AR(ANI SIGN,DSMAN),I(DE DOG,TAR),JARATI (",
    "ABBREVIATION SIGN,DIGIT (EIGHT,F(IVE,OUR),NINE,ONE,S(EVEN,IX),T(HREE,WO),ZERO),LETTER (A.(A,",
    "I,U),B(A,HA),C(A,HA),D(A,D(A,HA),HA),E,G(A,HA),HA,I.(I),J(A,HA),K(A,HA),L(A,LA),MA,N(A,GA,NA,",
    "YA),O,P(A,HA),RA,S(A,HA,SA),T(A,HA,T(A,HA)),U.(U),V(A,OCALIC (L.(L),R.(R))),YA,ZHA),OM,",
    "RUPEE SIGN,SIGN (A(NUSVARA,VAGRAHA),C(ANDRABINDU,IRCLE NUKTA ABOVE),MADDAH,NUKTA,S(HADDA,",
    "UKUN),T(HREE-DOT NUKTA ABOVE,WO-CIRCLE NUKTA ABOVE),VI(RAMA,SARGA)),VOWEL (CANDRA (E,O),",
    "SIGN (A(A,I,U),CANDRA (E,O),E,I.(I),O,U.(U),VOCALIC (L.(L),R.(R))))),NJALA GONDI (DIGIT (",
    "EIGHT,F(IVE,OUR),NINE,ONE,S(EVEN,IX),T(HREE,WO),ZERO),LETTER (A.(A,I,U),B(A,HA),C(A,HA),D(A,",
    "D(A,HA),HA),EE,G(A,HA),HA,I.(I),J(A,HA),K(A,HA),L(A,LA),MA,N(A,GA),OO,P(A,HA),RA,SA,T(A,HA,T(",
    "A,HA)),U.(U),VA,YA),OM,SIGN (ANUSVARA,VISARGA),V(IRAMA,OWEL SIGN (A(A,I,U),EE,I.(I),OO,U.(",
    "U)))),R(MUKHI (A(BBREVIATION SIGN,DDAK),DIGIT (EIGHT,F(IVE,OUR),NINE,ONE,S(EVEN,IX),T(HREE,",
    "WO),ZERO),EK ONKAR,IRI,LETTER (A.(A,I,U),B(A,HA),C(A,HA),D(A,D(A,HA),HA),EE,FA,G(A,H(A,HA)),",
    "HA,I.(I),J(A,HA),K(A,H(A,HA)),L(A,LA),MA,N(A,GA,NA,YA),OO,P(A,HA),R(A,RA),S(A,HA),T(A,HA,T(A,",
    "HA)),U.(U),VA,YA,ZA),SIGN (ADAK BINDI,BINDI,NUKTA,UDAAT,VI(RAMA,SARGA),YAKASH),TIPPI,URA,",
    "VOWEL SIGN (A(A,I,U),EE,I.(I),OO,U.(U))),UNG KHEMA (CONSONANT SIGN MEDIAL (HA,RA,VA,YA),",
    "DIGIT (EIGHT,F(IVE,OUR),NINE,ONE,S(EVEN,IX),T(HREE,WO),ZERO),LETTER (A,B(A,HA),C(A,HA),D(A,D(",
    "A,HA),HA),G(A,HA),HA,J(A,HA),K(A,HA),LA,MA,N(A,GA),P(A,HA),RA,SA,T(A,HA,T(A,HA)),VA,YA),",
    "SIGN (ANUSVARA,THOLHOMA),VOWEL (LENGTH MARK,SIGN (A(A,I,U),E.(E),I.(I),O.(O),U.(U))))))),H(A(",
    "DES,IR( (PICK,SPACE),CUT),LFWIDTH (BLACK SQUARE,DOWNWARDS ARROW,FORMS LIGHT VERTICAL,HANGUL (",
    "FILLER,LETTER (A.(E),C(HIEUCH,IEUC),E.(O,U),HIEUH,I.(EUNG),K(HIEUKH,IYEOK.(-SIOS)),MIEUM,",
    "NIEUN.(-(CIEUC,HIEUH)),O.(E),P(HIEUPH,IEUP.(-SIOS)),RIEUL.(-(HIEUH,KIYEOK,MIEUM,P(HIEUPH,",
    "IEUP),SIOS,THIEUTH)),S(IOS,SANG(CIEUC,KIYEOK,PIEUP,SIOS,TIKEUT)),T(HIEUTH,IKEUT),U,W(A.(E),",
    "E.(O),I),Y(A.(E),E.(O),I,O,U))),IDEOGRAPHIC (COMMA,FULL STOP),KATAKANA( (LETTER (A,E,H(A,E,I,",
    "O,U),I,K(A,E,I,O,U),M(A,E,I,O,U),N.(A,E,I,O,U),O,R(A,E,I,O,U),S(A,E,I,MALL (A,E,I,O,TU,U,Y(A,",
    "O,U)),O,U),T(A,E,I,O,U),U,W(A,O),Y(A,O,U)),MIDDLE DOT,SEMI-VOICED SOUND MARK,",
    "VOICED SOUND MARK),-HIRAGANA PROLONGED SOUND MARK),LEFT( CORNER BRACKET,WARDS ARROW),RIGHT(",
    " CORNER BRACKET,WARDS ARROW),UPWARDS ARROW,WHITE CIRCLE),M(BURGER,MER.( AND (PICK,SICKLE,",
    "WRENCH)),S(A,TER FACE)),N(D( WITH INDEX (AND MIDDLE FINGERS CROSSED,",
    "FINGER AND THUMB CROSSED),BA(G,LL),SHAKE),G(UL (CHOSEONG (C(EONGCHIEUM(C(HIEUCH,IEUC),S(IOS,",
    "SANG(CIEUC,SIOS))),HI(EUCH.(-(HIEUH,KHIEUKH)),TUEUM(C(HIEUCH,IEUC),S(IOS,SANG(CIEUC,SIOS)))),",
    "IEUC.(-IEUNG)),FILLER,HIEUH.(-SIOS),IEUNG.(-(C(HIEUCH,IEUC),HIEUH,KIYEOK,MIEUM,P(ANSIOS,",
    "HIEUPH,IEUP),RIEUL,SIOS,T(HIEUTH,IKEUT))),K(APYEOUN(MIEUM,P(HIEUPH,IEUP),RIEUL,SSANGPIEUP),",
    "HIEUKH,IYEOK.(-TIKEUT)),MIEUM.(-(KIYEOK,PIEUP,SIOS,TIKEUT)),NIEUN.(-(CIEUC,HIEUH,KIYEOK,",
    "PIEUP,SIOS,TIKEUT)),P(ANSIOS,HIEUPH.(-(HIEUH,PIEUP)),IEUP.(-(C(HIEUCH,IEUC),HIEUH,K(HIEUKH,",
    "IYEOK),NIEUN,PHIEUPH,S(IOS.(-(CIEUC,KIYEOK,PIEUP,T(HIEUTH,IKEUT))),SANGSIOS),T(HIEUTH,",
    "IKEUT)))),RIEUL.(-(CIEUC,HIEUH,K(APYEOUNPIEUP,HIEUKH,IYEOK),MIEUM,NIEUN,PIEUP,S(IOS,SANG(",
    "KIYEOK,PIEUP,TIKEUT)),TIKEUT)),S(IOS.(-(C(HIEUCH,IEUC),HIEUH,IEUNG,K(HIEUKH,IYEOK),MIEUM,",
    "NIEUN,P(HIEUPH,IEUP.(-KIYEOK)),RIEUL,SSANGSIOS,T(HIEUTH,IKEUT))),SANG(CIEUC.(-HIEUH),HIEUH,",
    "IEUNG,KIYEOK,NIEUN,PIEUP,RIEUL,SIOS.(-PIEUP),T(HIEUTH,IKEUT),YEORINHIEUH)),T(HIEUTH,IKEUT.(-(",
    "CIEUC,KIYEOK,MIEUM,PIEUP,RIEUL,SIOS))),YE(ORINHIEUH,SIEUNG)),DOUBLE DOT TONE MARK,FILLER,J(",
    "ONGSEONG (C(HIEUCH,IEUC.(-(PIEUP,SSANGPIEUP))),HIEUH.(-(MIEUM,NIEUN,PIEUP,RIEUL)),IEUNG.(-(K(",
    "HIEUKH,IYEOK),SSANGKIYEOK)),K(APYEOUN(MIEUM,P(HIEUPH,IEUP),RIEUL),HIEUKH,IYEOK.(-(CHIEUCH,",
    "HIEUH,KHIEUKH,NIEUN,PIEUP,RIEUL,SIOS.(-KIYEOK)))),MIEUM.(-(C(HIEUCH,IEUC),HIEUH,KIYEOK,NIEUN,",
    "P(ANSIOS,IEUP.(-SIOS)),RIEUL,S(IOS,SANG(NIEUN,SIOS)))),NIEUN.(-(C(HIEUCH,IEUC),HIEUH,KIYEOK,",
    "PANSIOS,RIEUL,SIOS,T(HIEUTH,IKEUT))),P(ANSIOS.(-(KAPYEOUNPIEUP,PIEUP)),HIEUPH.(-(PIEUP,SIOS,",
    "THIEUTH)),IEUP.(-(C(HIEUCH,IEUC),HIEUH,MIEUM,PHIEUPH,RIEUL.(-PHIEUPH),SIOS.(-TIKEUT),",
    "TIKEUT))),RIEUL.(-(HIEUH,K(APYEOUNPIEUP,HIEUKH,IYEOK.(-(HIEUH,SIOS))),MIEUM.(-(HIEUH,KIYEOK,",
    "SIOS)),NIEUN,P(ANSIOS,HIEUPH,IEUP.(-(HIEUH,PHIEUPH,SIOS,TIKEUT))),S(IOS,SANG(KIYEOK,SIOS)),T(",
    "HIEUTH,IKEUT.(-HIEUH)),YE(ORINHIEUH.(-HIEUH),SIEUNG))),S(IOS.(-(C(HIEUCH,IEUC),HIEUH,K(",
    "APYEOUNPIEUP,IYEOK),MIEUM,P(ANSIOS,IEUP),RIEUL,T(HIEUTH,IKEUT))),SANG(CIEUC,IEUNG,KIYEOK,",
    "MIEUM,NIEUN,PIEUP,RIEUL.(-KHIEUKH),SIOS.(-(KIYEOK,TIKEUT)),TIKEUT.(-PIEUP))),T(HIEUTH,IKEUT.(",
    "-(C(HIEUCH,IEUC),KIYEOK,PIEUP,RIEUL,SIOS.(-KIYEOK),THIEUTH))),YE(ORINHIEUH,SIEUNG.(-(HIEUH,",
    "MIEUM,PANSIOS,SIOS)))),UNGSEONG (A.(-(EU,O,U),E,RAEA.(-(A,E.(O),I,U))),E.(O.(-(EU,O,U)),U.(-(",
    "A,E.(O,U),O,U))),FILLER,I.(-(A.(RAEA),EU,I,O.(-I),U,Y(A.(-O,E),E.(O),O,U))),O.(-(E.(O),O.(",
    "-I),U,Y(A.(E),E.(O))),E),SSANGARAEA,U.(-(A.(E),EO-EU,I-I,U,YE.(O))),W(A.(E),E.(O),I),Y(A.(-(",
    "O,U,YO),E),E.(O.(-(O,U,YA))),I.(-U),O.(-(A.(E),EO,I,O,Y(A.(E),EO))),U.(-(A.(E),E.(O),I,O,U,",
    "YE.(O)))))),LETTER (A.(E,RAEA.(E)),C(HIEUCH,IEUC),E.(O,U),HIEUH,I.(EUNG),K(APYEOUN(MIEUM,P(",
    "HIEUPH,IEUP),SSANGPIEUP),HIEUKH,IYEOK.(-SIOS)),MIEUM.(-(P(ANSIOS,IEUP),SIOS)),NIEUN.(-(CIEUC,",
    "HIEUH,PANSIOS,SIOS,TIKEUT)),O.(E),P(ANSIOS,HIEUPH,IEUP.(-(CIEUC,KIYEOK,SIOS.(-(KIYEOK,",
    "TIKEUT)),T(HIEUTH,IKEUT)))),RIEUL.(-(HIEUH,KIYEOK.(-SIOS),MIEUM,P(ANSIOS,HIEUPH,IEUP.(",
    "-SIOS)),SIOS,T(HIEUTH,IKEUT),YEORINHIEUH)),S(IOS.(-(CIEUC,KIYEOK,NIEUN,PIEUP,TIKEUT)),SANG(",
    "CIEUC,HIEUH,IEUNG,KIYEOK,NIEUN,PIEUP,SIOS,TIKEUT)),T(HIEUTH,IKEUT),U,W(A.(E),E.(O),I),Y(A.(",
    "E),E.(O.(RINHIEUH),SIEUNG.(-(PANSIOS,SIOS))),I,O.(-(I,YA.(E))),U.(-(I,YE.(O))))),",
    "SINGLE DOT TONE MARK),ZHOU NUMERAL (EIGHT,F(IVE,OUR),NINE,ONE,S(EVEN,IX),T(EN,H(IRTY,REE),W(",
    "ENTY,O)))),IFI ROHINGYA (DIGIT (EIGHT,F(IVE,OUR),NINE,ONE,S(EVEN,IX),T(HREE,WO),ZERO),",
    "LETTER (A,BA,CA,D(A,DA),FA,GA,HA,JA,K(A,HA,INNA (WA,YA)),LA,MA,N(A,GA,YA),PA,R(A,RA),S(A,HA),",
    "T(A,TA),VA,WA,YA,ZA),MARK (NA KHONNA,SAKIN),SIGN (HARBAHAY,TA(HALA,NA,SSI)),VOWEL (A,E,I,O,",
    "U)),UNOO (LETTER (A,BA,DA,GA,HA,I,KA,LA,MA,N(A,GA),PA,RA,SA,TA,U,WA,YA),SIGN PAMUDPOD,",
    "VOWEL SIGN (I,U))),PPY PERSON RAISING ONE HAND,R(D DISK,P),T(CHING CHICK,RAN (LETTER (A(LEPH,",
    "YN),BETH,DALETH-RESH,GIMEL,HE.(TH),KAPH,LAMEDH,MEM,NUN,PE,QOPH,S(A(DHE,MEKH),HIN),T(AW,ETH),",
    "WAW,YODH,ZAYN),NUMBER (FIVE,ONE.( HUNDRED),T(EN,WENTY)))),UMEA),E(A(D(PHONE,STONE.(",
    " GRAVEYARD SYMBOL)),R(-NO-EVIL MONKEY,T (DECORATION,HANDS,WITH (ARROW,RIBBON,",
    "TIP ON THE LEFT))),VY (A(MPERSAND ORNAMENT,RROW SHAFT WIDTH (ONE.( (HALF,THIRD)),TWO THIRDS),",
    "STERISK),B(ALLOT X,LACK( (CURVED (DOWNWARDS AND RIGHTWARDS ARROW,",
    "UPWARDS AND RIGHTWARDS ARROW),HEART),-FEATHERED (NORTH EAST ARROW,RIGHTWARDS ARROW,",
    "SOUTH EAST ARROW))),C(HE(CK MARK,VRON SNOWFLAKE),IRCLE.( WITH (CIRCLE INSIDE,",
    "STROKE AND TWO DOTS ABOVE),D SALTIRE),ONCAVE-POINTED BLACK RIGHTWARDS ARROW),D(",
    "ASHED TRIANGLE-HEADED RIGHTWARDS ARROW,IVISION SIGN,O(LLAR SIGN,UBLE (",
    "COMMA QUOTATION MARK ORNAMENT,TURNED COMMA QUOTATION MARK ORNAMENT),WNWARDS ARROW WITH (",
    "EQUILATERAL ARROWHEAD,LARGE EQUILATERAL ARROWHEAD))),E(IGHT (POINTED (BLACK STAR,",
    "PINWHEEL STAR,RECTILINEAR BLACK STAR),SPOKED ASTERISK,TEARDROP-SPOKED PROPELLER ASTERISK),",
    "QUALS SIGN,XCLAMATION MARK (ORNAMENT,SYMBOL)),F(IVE (POINTED BLACK STAR,SPOKED ASTERISK),",
    "OUR BALLOON-SPOKED ASTERISK),GREEK CROSS,H(EART EXCLAMATION MARK ORNAMENT,ORIZONTAL FILL),",
    "INTERROBANG ORNAMENT,L(A(RGE CIRCLE,TIN CROSS),EFT(-POINTING ANGLE (BRACKET ORNAMENT,",
    "QUOTATION MARK ORNAMENT),WARDS ARROW WITH (EQUILATERAL ARROWHEAD,",
    "LARGE EQUILATERAL ARROWHEAD)),IGATURE OPEN ET ORNAMENT,OW( (",
    "DOUBLE COMMA QUOTATION MARK ORNAMENT,SINGLE COMMA QUOTATION MARK ORNAMENT),",
    "ER RIGHT-SHADOWED WHITE RIGHTWARDS ARROW)),M(INUS SIGN,ULTIPLICATION X),NORTH (EAST (ARROW,",
    "POINTING (BUD,VINE LEAF)),WEST POINTING (BUD,VINE LEAF)),O(PEN CENTRE CROSS,",
    "UTLINED BLACK STAR,VAL WITH OVAL INSIDE),PLUS SIGN,R(IGHT(-POINTING ANGLE (BRACKET ORNAMENT,",
    "QUOTATION MARK ORNAMENT),WARDS ARROW.( WITH (EQUILATERAL ARROWHEAD,",
    "LARGE EQUILATERAL ARROWHEAD))),OUND-TIPPED RIGHTWARDS ARROW),S(A(LTIRE,",
    "NS-SERIF INTERROBANG ORNAMENT),CRIPT LIGATURE ET ORNAMENT,I(NGLE (",
    "COMMA QUOTATION MARK ORNAMENT,TURNED COMMA QUOTATION MARK ORNAMENT),X (POINTED BLACK STAR,",
    "SPOKED ASTERISK)),OUTH (EAST (ARROW,POINTING (BUD,VINE LEAF)),WEST POINTING (BUD,VINE LEAF)),",
    "PARKLE),T(EARDROP-S(HANKED RIGHTWARDS ARROW,POKED (ASTERISK,PINWHEEL ASTERISK)),",
    "RIANGLE-HEADED RIGHTWARDS ARROW,WELVE POINTED (BLACK STAR,PINWHEEL STAR)),UP(",
    "PER RIGHT-SHADOWED WHITE RIGHTWARDS ARROW,WARDS ARROW WITH (EQUILATERAL ARROWHEAD,",
    "LARGE EQUILATERAL ARROWHEAD)),VERTICAL BAR,W(EDGE-TAILED RIGHTWARDS ARROW,HITE (CIRCLE,",
    "DOWN-POINTING TRIANGLE,SQUARE.( CONTAINING BLACK VERY SMALL SQUARE)),",
    "IDE-HEADED RIGHTWARDS ARROW))),BREW (ACCENT (ATNAH HAFUKH,D(ARGA,EHI),ETNAHTA,GER(ESH.(",
    " MUQDAM),SHAYIM),ILUY,M(AHAPAKH,ERKHA.( KEFULA),UNAH),OLE,PA(SHTA,ZER),QA(DMA,RNEY PARA),",
    "REVIA,S(EGOL,HALSHELET),T(E(LISHA (GEDOLA,QETANA),VIR),IPEHA),YE(RAH BEN YOMO,TIV),Z(A(QEF (",
    "GADOL,QATAN),RQA),INOR)),L(ETTER (A(L(EF.( WITH (MAPIQ,PATAH,QAMATS)),TERNATIVE (AYIN,",
    "PLUS SIGN)),YIN),BET.( WITH (DAGESH,RAFE)),DALET.( WITH DAGESH),FINAL (KAF.( WITH DAGESH),",
    "MEM,NUN,PE.( WITH DAGESH),TSADI),GIMEL.( WITH DAGESH),HE.( WITH MAPIQ,T),KAF.( WITH (DAGESH,",
    "RAFE)),LAMED.( WITH DAGESH),MEM.( WITH DAGESH),NUN.( WITH DAGESH),PE.( WITH (DAGESH,RAFE)),",
    "QOF.( WITH DAGESH),RESH.( WITH DAGESH),S(AMEKH.( WITH DAGESH),HIN.( WITH (DAGESH.( AND S(",
    "HIN DOT,IN DOT)),S(HIN DOT,IN DOT)))),T(AV.( WITH DAGESH),ET.( WITH DAGESH),SADI.(",
    " WITH DAGESH)),VAV.( WITH (DAGESH,HOLAM)),WIDE (ALEF,DALET,FINAL MEM,HE,KAF,LAMED,RESH,TAV),",
    "YOD.( WITH (DAGESH,HIRIQ)),ZAYIN.( WITH DAGESH)),IGATURE (ALEF LAMED,YIDDISH (DOUBLE (VAV,",
    "YOD),VAV YOD,YOD YOD PATAH))),MARK (LOWER DOT,MASORA CIRCLE,UPPER DOT),P(OINT (",
    "DAGESH OR MAPIQ,H(ATAF (PATAH,QAMATS,SEGOL),IRIQ,OLAM.( HASER FOR VAV)),JUDEO-SPANISH VARIKA,",
    "METEG,PATAH,Q(AMATS.( QATAN),UBUTS),RAFE,S(EGOL,H(EVA,IN DOT),IN DOT),TSERE),UNCTUATION (GER(",
    "ESH,SHAYIM),MAQAF,NUN HAFUKHA,PASEQ,SOF PASUQ)),YOD TRIANGLE),DGEHOG,L(ICOPTER,",
    "LSCHREIBER PAUSE SYMBOL,M( SYMBOL,ET WITH WHITE CROSS)),NTAIGANA LETTER (A-(1,2,3,WO),E-(2,3,",
    "4,5,6),H(A-(1.(0,1),2,3,4,5,6,7,8,9),E-(1,2,3,4,5,6,7),I-(1,2,3,4,5,6,7),O-(1,2,3,4,5,6,7,8),",
    "U-(1,2,3)),I-(1,2,3,4),K(A-(1.(0,1),2,3,4,5,6,7,8,9,KE),E-(1,2,3,4,5,6),I-(1,2,3,4,5,6,7,8),",
    "O-(1,2,3,KI),U-(1,2,3,4,5,6,7)),M(A-(1,2,3,4,5,6,7),E-(1,2,MA),I-(1,2,3,4,5,6,7),O-(1,2,3,4,",
    "5,6),U-(1,2,3,4)),N(-MU-MO-(1,2),A-(1,2,3,4,5,6,7,8,9),E-(1,2,3,4,5,6,KO),I-(1,2,3,4,5,6,7,",
    "TE),O-(1,2,3,4,5),U-(1,2,3)),O-(1,2,3),R(A-(1,2,3,4),E-(1,2,3,4),I-(1,2,3,4,5,6,7),O-(1,2,3,",
    "4,5,6),U-(1,2,3,4,5,6)),S(A-(1,2,3,4,5,6,7,8),E-(1,2,3,4,5),I-(1,2,3,4,5,6),O-(1,2,3,4,5,6,",
    "7),U-(1,2,3,4,5,6,7,8)),T(A-(1,2,3,4),E-(1,2,3,4,5,6,7,8,9),I-(1,2,3,4,5,6,7),O-(1,2,3,4,5,6,",
    "RA),U-(1,2,3,4,TO)),U-(1,2,3,4,5),W(A-(1,2,3,4,5),E-(1,2,3,4),I-(1,2,3,4,5),O-(1,2,3,4,5,6,",
    "7)),Y(A-(1,2,3,4,5,YO),O-(1,2,3,4,5,6),U-(1,2,3,4))),R(B,MITIAN CONJUGATE MATRIX),",
    "XAGRAM FOR (A(BUNDANCE,FTER COMPLETION,PPROACH),B(EFORE COMPLETION,ITING THROUGH,",
    "REAKTHROUGH),CO(MING TO MEET,N(FLICT,TEMPLATION)),D(ARKENING OF THE LIGHT,E(CREASE,LIVERANCE,",
    "VELOPMENT),I(FFICULTY AT THE BEGINNING,SPERSION),URATION),ENTHUSIASM,F(ELLOWSHIP,OLLOWING),G(",
    "ATHERING TOGETHER,R(ACE,EAT (P(O(SSESSION,WER),REPONDERANCE),TAMING))),HOLDING TOGETHER,IN(",
    "CREASE,FLUENCE,N(ER TRUTH,OCENCE)),LIMITATION,MO(DESTY,UTH CORNERS),O(BSTRUCTION,PP(OSITION,",
    "RESSION)),P(EACE,ROGRESS,USHING UPWARD),RE(T(REAT,URN),VOLUTION),S(MALL (PREPONDERANCE,",
    "TAMING),PLITTING APART,TANDSTILL),T(HE (A(BYSMAL WATER,R(MY,OUSING THUNDER)),C(AULDRON,",
    "LINGING FIRE,REATIVE HEAVEN),FAMILY,GENTLE WIND,JOYOUS LAKE,KEEPING STILL MOUNTAIN,",
    "MARRYING MAIDEN,RECEPTIVE EARTH,W(ANDERER,ELL)),READING),W(AITING,ORK ON THE DECAYED),",
    "YOUTHFUL FOLLY)),I(BISCUS,GH( (BRIGHTNESS SYMBOL,VOLTAGE SIGN),-(HEELED SHOE,SPEED TRAIN.(",
    " WITH BULLET NOSE))),KING BOOT,NDU TEMPLE,PPOPOTAMUS,RAGANA (DIGRAPH YORI,ITERATION MARK,",
    "LETTER (A.(RCHAIC (WU,YE)),B(A,E,I,O,U),D(A,E,I,O,U),E,G(A,E,I,O,U),H(A,E,I,O,U),I,K(A,E,I,O,",
    "U),M(A,E,I,O,U),N.(A,E,I,O,U),O,P(A,E,I,O,U),R(A,E,I,O,U),S(A,E,I,MALL (A,E,I,K(A,E,O),O,TU,",
    "U,W(A,E,I,O),Y(A,O,U)),O,U),T(A,E,I,O,U),U,VU,W(A,E,I,O),Y(A,O,U),Z(A,E,I,O,U)),",
    "VOICED ITERATION MARK),STORIC SITE),O(CHO,L(E,LOW QUILT SQUARE ORNAMENT.( IN BLACK SQUARE)),",
    "MOTHETIC,NEY( POT,BEE),OK,R(IZONTAL (B(AR,LACK (HEXAGON,OCTAGON)),CAPACITOR,ELLIPSIS,L(ADDER,",
    "INE (EXTENSION,WITH (FOUR TICK MARKS,T(HREE TICK MARKS,ICK MARK)))),MALE WITH STROKE SIGN,",
    "ONE EIGHTH BLOCK-(1358,2,3,4,5,6,7),R(ACING CAR,ESISTOR SEGMENT),SCAN LINE-(1,3,7,9),T(",
    "AB KEY,RAFFIC LIGHT),ZIGZAG LINE),SE.( (FACE,RACING))),SPITAL,T( (BEVERAGE,DOG,PEPPER,",
    "SPRINGS),EL),U(RGLASS.( WITH FLOWING SAND),SE.( (BUILDING.(S),WITH GARDEN)))),RYVNIA SIGN,U(",
    "GGING FACE,NDRED POINTS SYMBOL,SHED FACE,T),Y(ACINTH,GIEA,P(HEN.( (BULLET,WITH DIAERESIS),",
    "-MINUS,ATION POINT),ODIASTOLE),STERESIS SYMBOL)),I( LOVE YOU HAND SIGN,CE (C(REAM,UBE),",
    "HOCKEY STICK AND PUCK,SKATE),DE(NTI(CAL (TO.( AND SLANTED PARALLEL),WITH DOT ABOVE),",
    "FICATION CARD),OGRAPHIC (ANNOTATION (BOTTOM MARK,EARTH MARK,F(IRST MARK,OUR( MARK,TH MARK)),",
    "HEAVEN MARK,LINKING MARK,M(AN MARK,IDDLE MARK),ONE MARK,REVERSE MARK,SECOND MARK,T(H(",
    "IRD MARK,REE MARK),OP MARK,WO MARK)),C(LOSING MARK,OMMA),DE(PARTING TONE MARK,",
    "SCRIPTION CHARACTER (ABOVE TO (BELOW,MIDDLE AND BELOW),FULL SURROUND,HORIZONTAL REFLECTION,",
    "LEFT TO (MIDDLE AND RIGHT,RIGHT),OVERLAID,ROTATION,SU(BTRACTION,RROUND FROM (ABOVE,BELOW,L(",
    "EFT,OWER (LEFT,RIGHT)),RIGHT,UPPER (LEFT,RIGHT))))),ENTERING TONE MARK,FULL STOP,",
    "HALF FILL SPACE,ITERATION MARK,LEVEL TONE MARK,NUMBER ZERO,RISING TONE MARK,SPACE,T(",
    "ALLY MARK (F(IVE,OUR),ONE,T(HREE,WO)),ELEGRAPH (LINE FEED SEPARATOR SYMBOL,SYMBOL FOR (A(",
    "PRIL,UGUST),D(AY (E(IGHT.(EEN),LEVEN),F(I(FTEEN,VE),OUR.(TEEN)),NINE.(TEEN),ONE,S(EVEN.(",
    "TEEN),IX.(TEEN)),T(EN,H(IRT(EEN,Y.(-ONE)),REE),W(E(LVE,NTY.(-(EIGHT,F(IVE,OUR),NINE,ONE,S(",
    "EVEN,IX),T(HREE,WO)))),O))),ECEMBER),FEBRUARY,HOUR (E(IGHT.(EEN),LEVEN),F(I(FTEEN,VE),OUR.(",
    "TEEN)),NINE.(TEEN),ONE,S(EVEN.(TEEN),IX.(TEEN)),T(EN,H(IRTEEN,REE),W(E(LVE,NTY.(-(FOUR,ONE,T(",
    "HREE,WO)))),O)),ZERO),J(ANUARY,U(LY,NE)),MA(RCH,Y),NOVEMBER,OCTOBER,SEPTEMBER))),",
    "VARIATION INDICATOR)),M(AGE OF.( OR APPROXIMATELY EQUAL TO),P.(ERIAL ARAMAIC (LETTER (A(LEPH,",
    "YIN),BETH,DALETH,GIMEL,HE.(TH),KAPH,LAMEDH,MEM,NUN,PE,QOPH,RESH,S(A(DHE,MEKH),HIN),T(AW,ETH),",
    "WAW,YODH,ZAYIN),NUMBER (ONE.( (HUNDRED,THOUSAND)),T(EN.( THOUSAND),HREE,W(ENTY,O))),",
    "SECTION SIGN))),N(BOX TRAY,C(OM(ING ENVELOPE,PLETE INFINITY),RE(ASE( FONT SIZE SYMBOL,S AS),",
    "MENT)),D(EX POINTING AT THE VIEWER,I(AN RUPEE SIGN,C SIYAQ (ALTERNATE LAKH MARK,FRACTION (",
    "ONE (HALF,QUARTER),THREE QUARTERS),LAKH MARK,NUMBER (ALTERNATE (ONE,T(EN THOUSAND,WO)),",
    "EIGHT.( (HUNDRED,THOUSAND),Y.( THOUSAND)),F(I(FTY.( THOUSAND),VE.( (HUNDRED,THOUSAND))),O(",
    "RTY.( THOUSAND),UR.( (HUNDRED,THOUSAND)))),KAROR.(AN),LAKH.(AN),NINE.( (HUNDRED,THOUSAND),",
    "TY.( THOUSAND)),ONE.( (HUNDRED,THOUSAND)),PREFIXED (EIGHT,F(IVE,OUR),NINE,ONE,S(EVEN,IX),T(",
    "HREE,WO)),S(EVEN.( (HUNDRED,THOUSAND),TY.( THOUSAND)),IX.( (HUNDRED,THOUSAND),TY.(",
    " THOUSAND))),T(EN.( THOUSAND),H(IRTY.( THOUSAND),REE.( (HUNDRED,THOUSAND))),W(ENTY.(",
    " THOUSAND),O.( (HUNDRED,THOUSAND))))),PLACEHOLDER,RUPEE MARK))),F(INITY.(",
    " NEGATED WITH VERTICAL BAR),ORMATION (DESK PERSON,SOURCE)),HIBIT (ARABIC FORM SHAPING,",
    "SYMMETRIC SWAPPING),PUT SYMBOL FOR (LATIN (CAPITAL LETTERS,LETTERS,SMALL LETTERS),NUMBERS,",
    "SYMBOLS),S(CRIPTIONAL PA(HLAVI (LETTER (ALEPH,BETH,DALETH,GIMEL,HE.(TH),KAPH,LAMEDH,MEM-QOPH,",
    "NUN,PE,S(A(DHE,MEKH),HIN),T(AW,ETH),WAW-AYIN-RESH,YODH,ZAYIN),NUMBER (FOUR,ONE.( (HUNDRED,",
    "THOUSAND)),T(EN,HREE,W(ENTY,O)))),RTHIAN (LETTER (A(LEPH,YIN),BETH,DALETH,GIMEL,HE.(TH),KAPH,",
    "LAMEDH,MEM,NUN,PE,QOPH,RESH,S(A(DHE,MEKH),HIN),T(AW,ETH),WAW,YODH,ZAYIN),NUMBER (FOUR,ONE.( (",
    "HUNDRED,THOUSAND)),T(EN,HREE,W(ENTY,O))))),ERTION SYMBOL),TE(GRAL.( (A(",
    "ROUND A POINT OPERATOR,VERAGE WITH SLASH),EXTENSION,WITH (DOUBLE STROKE,INTERSECTION,",
    "LEFTWARDS ARROW WITH HOOK,OVERBAR,TIMES SIGN,UN(DERBAR,ION)))),R(CALATE,IOR PRODUCT,L(",
    "INEAR ANNOTATION (ANCHOR,SEPARATOR,TERMINATOR),OCKED FEMALE AND MALE SIGN),ROBANG,SECTION.( (",
    "ABOVE (BAR ABOVE UNION,UNION),BESIDE AND JOINED WITH INTERSECTION,WITH (DOT,LOGICAL AND,",
    "OVERBAR))))),V(ER(SE (B(LACK (DIAMOND,SMALL SQUARE),ULLET),CHECK( MARK,ER BOARD FILL),",
    "DOWNWARDS ARROW WITH TIP LEFTWARDS,MEDIUM SHADE,WHITE CIRCLE),TED (EXCLAMATION MARK,",
    "INTERROBANG,L(AZY S,OW KAVYKA.( WITH KAVYKA ABOVE)),OHM SIGN,PENTAGRAM,QUESTION MARK,",
    "UNDERTIE)),ISIBLE (PLUS,SEPARATOR,TIMES))),ZAKAYA LANTERN),J(A(CK-O-LANTERN,PANESE (",
    "BANK SYMBOL,CASTLE,DOLLS,GOBLIN,INDUSTRIAL STANDARD SYMBOL,OGRE,POST OFFICE,",
    "SYMBOL FOR BEGINNER),R,VANESE (CONSONANT SIGN (CAKRA,KERET,PENGKAL),DIGIT (EIGHT,F(IVE,OUR),",
    "NINE,ONE,S(EVEN,IX),T(HREE,WO),ZERO),LE(FT RERENGGAN,TTER (A.(I),BA.( MURDA),CA.( MURDA),D(",
    "A.( MAHAPRANA),DA.( MAHAPRANA)),E,GA.( MURDA),HA,I.( KAWI,I),JA.( MAHAPRANA),KA.( (MURDA,",
    "SASAK)),LA,MA,N(A.( MURDA),GA.( LELET.( RASWADI)),YA.( MURDA)),O,PA.( (CEREK,MURDA)),RA.(",
    " AGUNG),SA.( M(AHAPRANA,URDA)),T(A.( MURDA),TA.( MAHAPRANA)),U,WA,YA)),PA(DA (A(DEG.( ADEG),",
    "NDAP),ISEN-ISEN,L(INGSA,U(HUR,NGSI)),MADYA,P(ANGKAT,ISELEH),TIRTA TUMETES,WINDU),NG(KON,",
    "RANGKEP)),RIGHT RERENGGAN,SIGN (CECAK.( TELU),LAYAR,PANYANGGA,WIGNYAN),TURNED PADA PISELEH,",
    "VOWEL SIGN (DIRGA MURE,PEPET,SUKU.( MENDUT),T(A(LING,RUNG),OLONG),WULU.( MELIK)))),E(ANS,",
    "LLYFISH),IGSAW PUZZLE PIECE,O(IN,YSTICK),U(GGLING,NO,PITER)),K(A(ABA,ITHI (ABBREVIATION SIGN,",
    "D(ANDA,OUBLE (DANDA,SECTION MARK)),ENUMERATION SIGN,LETTER (A.(A,I,U),B(A,HA),C(A,HA),D(A,D(",
    "A,DHA,HA),HA),E,G(A,HA),HA,I.(I),J(A,HA),K(A,HA),LA,MA,N(A,GA,NA,YA),O,P(A,HA),R(A,HA),S(A,",
    "HA,SA),T(A,HA,T(A,HA)),U.(U),VA,YA),NUMBER SIGN.( ABOVE),S(ECTION MARK,IGN (ANUSVARA,",
    "CANDRABINDU,NUKTA,VI(RAMA,SARGA))),VOWEL SIGN (A(A,I,U),E,I.(I),O,U.(U),VOCALIC R)),",
    "KTOVIK NUMERAL (E(IGHT.(EEN),LEVEN),F(I(FTEEN,VE),OUR.(TEEN)),NINE.(TEEN),ONE,S(EVEN.(TEEN),",
    "IX.(TEEN)),T(EN,H(IRTEEN,REE),W(ELVE,O)),ZERO),N(G(AROO,XI RADICAL (A(GAIN,ND,RR(IVE,OW),XE),",
    "B(A(DGER,MBOO),EAN,I(G,RD,TTER),L(ACK,OOD,UE),O(AT,DY,LT OF CLOTH,NE,W),R(ANCH,ISTLE,USH)),C(",
    "A(RT,ULDRON,VE),HILD,ITY,L(A(N,W),IFF,OTHES),O(LOR,MPARE,RPSE,VER,W)),D(E(ATH,ER),I(PPER,S(H,",
    "TINGUISH),VINATION),O( NOT,G,OR,T.(TED (CLIFF,TENT)),UBLE X,WN BOX),R(AGON,UM,Y)),E(A(R.(TH),",
    "T),IGHT,MBROIDERY,N(CLOSURE,TER),VEN.(ING),YE),F(A(CE,NG,THER),EATHER,I(ELD,GHT,RE,SH),L(UTE,",
    "Y),OOT,R(AGRANT,OG),UR),G(ATE,HOST,O.( SLOWLY,LD),RA(IN,SS)),H(A(IR,L(BERD,F TREE TRUNK),ND),",
    "E(A(D,RT),MP),IDING ENCLOSURE,O(OK,R(N,SE))),I(CE,N(CH,SECT)),JA(DE,R),KNIFE,L(A(CK,ME),E(A(",
    "F,THER),EK,GS),I(D,FE,NE),ONG.( STRIDE)),M(AN,E(AT,LON),I(LLET,NISTER),O(ON,R(NING,TAR),U(N(",
    "D,TAIN),TH))),N(ET,O(SE,T)),O(LD,NE.(SELF),P(EN BOX,POSE)),P(IG,LOW,OWER,R(IVATE,OFOUND)),R(",
    "A(IN,P,T),ED,I(CE,GHT OPEN BOX,VER),OOF,UN),S(A(CRIFICIAL WINE,LT,Y),C(HOLAR,RIPT),E(AL,COND,",
    "E,LF),H(E(EP,LL),O(OT,RT T(AILED BIRD,HREAD))),I(CKNESS,LK),KIN,L(A(SH,VE),ICE),MALL,NOUT,",
    "OUND,P(E(AR,ECH),IRIT,OON,ROUT),QUARE,T(AND,E(AM,P),O(NE,P.(PING))),UN,WEET),T(A(BLE,LL,",
    "NNED LEATHER),EN,I(GER,LE),O(NGUE,OTH),R(ACK,EE,IPOD),UR(BAN,TLE),WO.( HANDS)),USE,V(ALLEY,",
    "ILLAGE),W(A(LK.( ENCLOSURE),TER),E(APON,ST),H(EAT,ITE),IN(D,E),O(MAN,RK),R(AP,ONG)),YELLOW)),",
    "NADA (AI LENGTH MARK,DIGIT (EIGHT,F(IVE,OUR),NINE,ONE,S(EVEN,IX),T(HREE,WO),ZERO),LE(",
    "NGTH MARK,TTER (A.(A,I,U),B(A,HA),C(A,HA),D(A,D(A,HA),HA),E.(E),FA,G(A,HA),HA,I.(I),J(A,HA),",
    "K(A,HA),L(A,LA),MA,N(A.(KAARA POLLU),GA,NA,YA),O.(O),P(A,HA),R(A,RA),S(A,HA,SA),T(A,HA,T(A,",
    "HA)),U.(U),V(A,OCALIC (L.(L),R.(R))),YA)),SIGN (A(NUSVARA,VAGRAHA),C(ANDRABINDU,",
    "OMBINING ANUSVARA ABOVE RIGHT),JIHVAMULIYA,NUKTA,S(IDDHAM,PACING CANDRABINDU),UPADHMANIYA,VI(",
    "RAMA,SARGA)),VOWEL SIGN (A(A,I,U),E.(E),I.(I),O.(O),U.(U),VOCALIC (L.(L),R.(R))))),TAKANA( (",
    "DIGRAPH KOTO,ITERATION MARK,LETTER (A.(RCHAIC (E,WU,Y(E,I))),B(A,E,I,O,U),D(A,E,I,O,U),E,G(A,",
    "E,I,O,U),H(A,E,I,O,U),I,K(A,E,I,O,U),M(A,E,I.(NNAN (NASALIZED TONE-(1,2,3,4,5,7,8),TONE-(2,3,",
    "4,5,7,8))),O,U),N.(A,E,I,O,U),O,P(A,E,I,O,U),R(A,E,I,O,U),S(A,E,I,MALL (A,E,H(A,E,I,O,U),I,K(",
    "A,E,O,U),MU,N.(U),O,R(A,E,I,O,U),S(I,U),T(O,U),U,W(A,E,I,O),Y(A,O,U)),O,U),T(A,E,I,O,U),U,V(",
    "A,E,I,O,U),W(A,E,I,O),Y(A,O,U),Z(A,E,I,O,U)),MIDDLE DOT,VOICED ITERATION MARK),-HIRAGANA (",
    "DOUBLE HYPHEN,PROLONGED SOUND MARK,SEMI-VOICED SOUND MARK,VOICED SOUND MARK)),WI (CONJOINER,",
    "D(ANDA,IGIT (EIGHT,F(IVE,OUR),NINE,ONE,S(EVEN,IX),T(HREE,WO),ZERO),OUBLE DANDA),LETTER (A.(A,",
    "I),B(A,HA),C(A,HA),D(A,D(A,HA),HA),E,G(A,HA),HA,I.(I),J(A,HA,NYA),K(A,HA),LA,MA,N(A,GA,NA,",
    "YA),O,P(A,HA),RA,S(A,HA,SA),T(A,HA,T(A,HA)),U.(U),VOCALIC (L.(L),R.(R)),WA,YA),PUNCTUATION (",
    "ALTERNATE SECTION MARKER,C(IRCLE,LOSING SPIRAL),DO(T,UBLE DOT),F(ILLED CIRCLE,LOWER),S(",
    "ECTION MARKER,P(ACE FILLER,IRAL)),TRIPLE DOT),SIGN (ANUSVARA,CANDRABINDU,KILLER,NUKTA,REPHA,",
    "VISARGA),VOWEL SIGN (A(A,I,LTERNATE AA),E.(U),I.(I),U.(U),VOCALIC R)),YAH LI (DIGIT (EIGHT,F(",
    "IVE,OUR),NINE,ONE,S(EVEN,IX),T(HREE,WO),ZERO),LETTER (A,BA,CA,DA,GA,H(A,TA),I,K(A,HA),LA,MA,",
    "N(A,GA,YA),O(E,O),P(A,HA),RA,S(A,HA),T(A,HA),VA,WA,YA,ZA),SIGN (CWI,SHYA),TONE (CALYA.(",
    " PLOPHU),PLOPHU),VOWEL (E.(E),O,U.(E)))),E(LVIN SIGN,Y.(BOARD.( AND MOUSE),CAP TEN,HOLE)),H(",
    "A(NDA,ROSHTHI (DIGIT (FOUR,ONE,T(HREE,WO)),FRACTION ONE HALF,LETTER (A,B(A,HA),C(A,HA),D(A,D(",
    "A,HA),HA),G(A,HA),HA,JA,K(A,HA,KA),LA,MA,N(A,NA,YA),P(A,HA),RA,S(A,HA,SA),T(A,HA,T(A,HA,T(A,",
    "HA))),V(A,HA),YA,ZA),NUMBER (ONE (HUNDRED,THOUSAND),T(EN,WENTY)),PUNCTUATION (C(IRCLE,",
    "RESCENT BAR),D(ANDA,O(T,UBLE DANDA)),L(INES,OTUS),MANGALAM,SMALL CIRCLE),SIGN (ANUSVARA,",
    "BAR ABOVE,CAUDA,DO(T BELOW,UBLE RING BELOW),VISARGA),V(IRAMA,OWEL (LENGTH MARK,SIGN (E,I,O,U,",
    "VOCALIC R))))),ITAN SMALL SCRIPT FILLER,MER (CURRENCY SYMBOL RIEL,DIGIT (EIGHT,F(IVE,OUR),",
    "NINE,ONE,S(EVEN,IX),T(HREE,WO),ZERO),INDEPENDENT VOWEL (LY.(Y),Q(A(A,I,Q,U),E,I.(I),OO TYPE (",
    "ONE,TWO),U.(K,U.(V))),RY.(Y)),LETTER (BA,C(A,H(A,O),O),D(A,O),HA,K(A,H(A,O),O),L(A,O),MO,N(",
    "GO,NO,O,YO),P(H(A,O),O),QA,RO,S(A,HA,SO),T(A,H(A,O),O,TH(A,O)),VO,YO),S(IGN (A(HSDA,TTHACAN,",
    "VAKRAHASANYA),B(A(NTOC,RIYOOSAN,THAMASAT),EYYAL),C(AMNUC PII KUUH,OENG),K(AKABAT,HAN,OOMUUT),",
    "LEK TOO,MUUSIKATOAN,NIKAHIT,PHNAEK MUAN,R(EAHMUK,OBAT),SAMYOK SANNYA,T(OANDAKHIAT,RIISAP),",
    "VIRIAM,YUUKALEAPINTU),YMBOL (B(EI (KOET,ROC),UON (KOET,ROC)),DAP( (KOET,ROC),-(B(EI (KOET,",
    "ROC),UON (KOET,ROC)),MUOY (KOET,ROC),P(II (KOET,ROC),RAM (KOET,ROC)))),LEK ATTAK (B(EI,UON),",
    "MUOY,P(II,RAM.(-(B(EI,UON),MUOY,PII))),SON),MUOY (KOET,ROC),P(ATHAMASAT,II (KOET,ROC),RAM( (",
    "KOET,ROC),-(B(EI (KOET,ROC),UON (KOET,ROC)),MUOY (KOET,ROC),PII (KOET,ROC)))),TUTEYASAT)),",
    "VOWEL (INHERENT A(A,Q),SIGN (A(A,E,I,U),E,I.(E,I),O(E,O),U.(A,U),Y.(A,Y)))),OJKI (",
    "ABBREVIATION SIGN,D(ANDA,OUBLE (DANDA,SECTION MARK)),LETTER (A.(A,I,U),B(A,BA,HA),C(A,HA),D(",
    "A,D(A,DA,HA),HA),E,G(A,GA,HA),HA,I,J(A,JA),K(A,HA),L(A,LA),MA,N(A,GA,NA,YA),O,P(A,HA),QA,RA,",
    "S(A,HORT I),T(A,HA,T(A,HA)),U,VA,YA),S(ECTION MARK,IGN (ANUSVARA,NUKTA,S(HADDA,UKUN),",
    "VIRAMA)),VOWEL SIGN (A(A,I,U),E,I.(I),O,U,VOCALIC R),WORD SEPARATOR),UDAWADI (DIGIT (EIGHT,F(",
    "IVE,OUR),NINE,ONE,S(EVEN,IX),T(HREE,WO),ZERO),LETTER (A.(A,I,U),B(A,BA,HA),C(A,HA),D(A,D(A,",
    "DA,HA),HA),E,G(A,GA,HA),HA,I.(I),J(A,HA,JA),K(A,HA),LA,MA,N(A,GA,NA,YA),O,P(A,HA),R(A,RA),S(",
    "A,HA),T(A,HA,T(A,HA)),U.(U),VA,YA),SIGN (ANUSVARA,NUKTA,VIRAMA),VOWEL SIGN (A(A,I,U),E,I.(I),",
    "O,U.(U)))),I(MONO,P SIGN,RAT RAI (D(ANDA,IGIT (EIGHT,F(IVE,OUR),NINE,ONE,S(EVEN,IX),T(HREE,",
    "WO),ZERO),OUBLE DANDA),LETTER (A,B(A,HA),C(A,HA),D(A,D(A,HA),HA),G(A,HA),HA,J(A,HA),K(A,HA),",
    "LA,MA,N(A,GA,YA),P(A,HA),RA,S(A,HA),T(A,HA,T(A,HA)),VA,YA),SIGN (ANUSVARA,SAAT,TONPI,VI(RAMA,",
    "SARGA),YUPI),VOWEL SIGN (A(A,I,U),E,I,O,U.(E))),SS.( MARK,ING (CAT FACE WITH CLOSED EYES,",
    "FACE.( WITH (CLOSED EYES,SMILING EYES)))),TE,WIFRUIT),N(EELING PERSON,OT),O(ALA,",
    "REAN STANDARD SYMBOL),RONOS),L( B BAR SYMBOL,A(B( COAT,EL),CROSSE STICK AND BALL,D(DER,",
    "Y BEETLE),NGUAGE TAG,O (CANCELLATION MARK,DIGIT (EIGHT,F(IVE,OUR),NINE,ONE,S(EVEN,IX),T(HREE,",
    "WO),ZERO),ELLIPSIS,HO (MO,NO),KO LA,LETTER (BO,CO,DO,FO (SUNG,TAM),HO (SUNG,TAM),K(H(MU (GO,",
    "NYO),O (SUNG,TAM)),O),LO L(ING,OOT),MO,N(GO,O,YO),O,P(ALI (BHA,CHA,D(D(A,HA),HA),GHA,JHA,LLA,",
    "N(NA,YA),TT(A,HA)),HO (SUNG,TAM),O),S(ANSKRIT S(HA,SA),O (SUNG,TAM)),T(HO (SUNG,TAM),O),WO,",
    "YO),NIGGAHITA,S(EMIVOWEL SIGN (LO,NYO),IGN PALI VIRAMA),TONE MAI (CATAWA,EK,T(HO,I)),",
    "VOWEL SIGN (A.(A,I,M,Y),E.(I),I.(I),MAI K(AN,ON),O,U.(U),Y.(Y)),YAMAKKAN),R(GE( (B(LUE (",
    "CIRCLE,DIAMOND,SQUARE),ROWN (CIRCLE,SQUARE)),CIRCLE,DOWN TACK,GREEN (CIRCLE,SQUARE),",
    "LEFT TRIANGLE OPERATOR,O(NE (DOT OVER TWO DOTS PUNCTUATION,RING OVER TWO RINGS PUNCTUATION),",
    "RANGE (CIRCLE,DIAMOND,SQUARE)),PURPLE (CIRCLE,SQUARE),RED (CIRCLE,SQUARE),T(",
    "RIPLE VERTICAL BAR OPERATOR,WO (DOTS OVER ONE DOT PUNCTUATION,",
    "RINGS OVER ONE RING PUNCTUATION),YPE PIECE (C(ENTRE OF (K,X,Y,Z WITH CROSSBAR),ROSSBAR.(",
    " WITH (LOWER STEM,UPPER STEM))),DIAGONAL (LOWER (LEFT,RIGHT),UPPER (LEFT.( AND LOWER LEFT),",
    "RIGHT.( AND LOWER RIGHT))),L(EFT ARM,OWER (HALF VERTEX OF (M,W),LEFT (A(ND UPPER LEFT ARC,",
    "RC),C(ORNER,ROTCH)),RIGHT (A(ND UPPER RIGHT ARC,RC.( WITH TAIL)),C(ORNER,ROTCH)),TERMINAL)),",
    "R(AISED UPPER LEFT ARC,IGHT ARM),S(HORT (LOWER TERMINAL,UPPER TERMINAL),TEM.( WITH (CROSSBAR,",
    "LEFT (CROSSBAR,JOINT),RIGHT CROSSBAR),-(12.(34),2.(3.(4.(5))),3.(4),4.(5)))),UPPER (",
    "HALF VERTEX OF (M,W),LEFT (ARC,C(ORNER,ROTCH)),RIGHT (ARC,C(ORNER,ROTCH)),TERMINAL),",
    "VERTEX OF V)),UP TACK,YELLOW (CIRCLE,SQUARE)),R THAN.( OR EQUAL TO)),I SIGN),",
    "ST QUARTER MOON.( (SYMBOL,WITH FACE)),TIN (C(APITAL L(ETTER (A.( WITH (ACUTE,BREVE.( AND (",
    "ACUTE,DOT BELOW,GRAVE,HOOK ABOVE,TILDE)),C(ARON,IRCUMFLEX.( AND (ACUTE,DOT BELOW,GRAVE,",
    "HOOK ABOVE,TILDE))),D(IAERESIS.( AND MACRON),O(T (ABOVE.( AND MACRON),BELOW),UBLE GRAVE)),",
    "GRAVE,HOOK ABOVE,INVERTED BREVE,MACRON,OGONEK,RING (ABOVE.( AND ACUTE),BELOW),STROKE,TILDE),",
    "A,E.( WITH (ACUTE,MACRON)),FRICAN D,LPHA,NGLICANA W,O,U,V.( WITH HORIZONTAL BAR),Y),B.(",
    " WITH (DOT (ABOVE,BELOW),FLOURISH,HOOK,LINE BELOW,STROKE,TOPBAR),ETA,ROKEN L),C.( WITH (",
    "ACUTE,BAR,C(ARON,EDILLA.( AND ACUTE),IRCUMFLEX),DOT ABOVE,HOOK,PALATAL HOOK,STROKE),HI,",
    "LOSED INSULAR G,ON,UATRILLO.( WITH COMMA)),D.( WITH (C(ARON,EDILLA,IRCUMFLEX BELOW),DOT (",
    "ABOVE,BELOW),HOOK,LINE BELOW,S(HORT STROKE OVERLAY,MALL LETTER Z.( WITH CARON),TROKE),",
    "TOPBAR),Z.( WITH CARON)),E.( WITH (ACUTE,BREVE,C(ARON,EDILLA.( AND BREVE),IRCUMFLEX.( (AND (",
    "ACUTE,DOT BELOW,GRAVE,HOOK ABOVE,TILDE),BELOW))),D(IAERESIS,O(T (ABOVE,BELOW),UBLE GRAVE)),",
    "GRAVE,HOOK ABOVE,INVERTED BREVE,MACRON.( AND (ACUTE,GRAVE)),OGONEK,STROKE,TILDE.( BELOW)),",
    "GYPTOLOGICAL A(IN,LEF),NG,SH,T.(H),ZH.( (REVERSED,WITH CARON))),F.( WITH (DOT ABOVE,HOOK,",
    "STROKE)),G.( WITH (ACUTE,BREVE,C(ARON,EDILLA,IRCUMFLEX),DOT ABOVE,HOOK,MACRON,OBLIQUE STROKE,",
    "STROKE),AMMA,LOTTAL (A,I,STOP,U)),H.( WITH (BREVE BELOW,C(ARON,EDILLA,IRCUMFLEX),D(ESCENDER,",
    "IAERESIS,OT (ABOVE,BELOW)),HOOK,STROKE),ALF H,ENG,WAIR),I.( WITH (ACUTE,BREVE,C(ARON,",
    "IRCUMFLEX),D(IAERESIS.( AND ACUTE),O(T (ABOVE,BELOW),UBLE GRAVE)),GRAVE,HOOK ABOVE,",
    "INVERTED BREVE,MACRON,OGONEK,STROKE,TILDE.( BELOW)),NSULAR (D,F,G,R,S,T),OTA,S),J.( WITH (C(",
    "IRCUMFLEX,ROSSED-TAIL),STROKE)),K.( WITH (ACUTE,C(ARON,EDILLA),D(ESCENDER,IAGONAL STROKE,",
    "OT BELOW),HOOK,LINE BELOW,OBLIQUE STROKE,STROKE.( AND DIAGONAL STROKE))),L.( WITH (ACUTE,B(",
    "AR,ELT),C(ARON,EDILLA,IRCUMFLEX BELOW),DO(T BELOW.( AND MACRON),UBLE BAR),HIGH STROKE,",
    "LINE BELOW,MIDDLE (DOT,TILDE),S(MALL LETTER J,TROKE)),AMBDA.( WITH STROKE),J),M.( WITH (",
    "ACUTE,DOT (ABOVE,BELOW),HOOK),IDDLE( SCOTS S,-WELSH (LL,V))),N.( WITH (ACUTE,C(ARON,EDILLA,",
    "IRCUMFLEX BELOW),D(ESCENDER,OT (ABOVE,BELOW)),GRAVE,L(EFT HOOK,INE BELOW,ONG RIGHT LEG),",
    "OBLIQUE STROKE,SMALL LETTER J,TILDE),J),O.( WITH (ACUTE,BREVE,C(ARON,IRCUMFLEX.( AND (ACUTE,",
    "DOT BELOW,GRAVE,HOOK ABOVE,TILDE))),D(IAERESIS.( AND MACRON),O(T (ABOVE.( AND MACRON),BELOW),",
    "UBLE (ACUTE,GRAVE))),GRAVE,HO(OK ABOVE,RN.( AND (ACUTE,DOT BELOW,GRAVE,HOOK ABOVE,TILDE))),",
    "INVERTED BREVE,LO(NG STROKE OVERLAY,OP),M(ACRON.( AND (ACUTE,GRAVE)),IDDLE TILDE),OGONEK.(",
    " AND MACRON),STROKE.( AND ACUTE),TILDE.( AND (ACUTE,DIAERESIS,MACRON))),I,LD POLISH O,MEGA,O,",
    "PEN (E,O),U),P.( WITH (ACUTE,DOT ABOVE,FLOURISH,HOOK,S(QUIRREL TAIL,TROKE.(",
    " THROUGH DESCENDER)))),Q.( WITH (DIAGONAL STROKE,STROKE THROUGH DESCENDER)),R.( (ROTUNDA,",
    "WITH (ACUTE,C(ARON,EDILLA),DO(T (ABOVE,BELOW.( AND MACRON)),UBLE GRAVE),INVERTED BREVE,",
    "LINE BELOW,OBLIQUE STROKE,STROKE,TAIL)),AMS HORN,EVERSED (C WITH DOT,E,HALF H,OPEN E),",
    "UM ROTUNDA),S.( WITH (ACUTE.( AND DOT ABOVE),C(ARON.( AND DOT ABOVE),EDILLA,IRCUMFLEX,",
    "OMMA BELOW),D(IAGONAL STROKE,OT (ABOVE,BELOW.( AND DOT ABOVE))),HOOK,OBLIQUE STROKE,S(",
    "HORT STROKE OVERLAY,WASH TAIL)),ALTILLO,C(HWA,RIPT G),HARP S,IGMOID S,MALL (CAPITAL I,",
    "Q WITH HOOK TAIL)),T.( WITH (C(ARON,EDILLA,IRCUMFLEX BELOW,OMMA BELOW),D(IAGONAL STROKE,OT (",
    "ABOVE,BELOW)),HOOK,LINE BELOW,RETROFLEX HOOK,STROKE),HORN.( WITH STROKE.(",
    " THROUGH DESCENDER)),ONE (FIVE,SIX,TWO),RESILLO,URNED (A.(LPHA),H,INSULAR G,K,L,M,T,V),Z),U.(",
    " (BAR,WITH (ACUTE,BREVE,C(ARON,IRCUMFLEX.( BELOW)),D(IAERESIS.( (AND (ACUTE,CARON,GRAVE,",
    "MACRON),BELOW)),O(T BELOW,UBLE (ACUTE,GRAVE))),GRAVE,HO(OK ABOVE,RN.( AND (ACUTE,DOT BELOW,",
    "GRAVE,HOOK ABOVE,TILDE))),INVERTED BREVE,MACRON.( AND DIAERESIS),OGONEK,RING ABOVE,STROKE,",
    "TILDE.( (AND ACUTE,BELOW)))),PSILON),V.( WITH (D(IAGONAL STROKE,OT BELOW),HOOK,TILDE),END,",
    "ISIGOTHIC Z,OLAPUK (AE,OE,UE),Y),W.( WITH (ACUTE,CIRCUMFLEX,D(IAERESIS,OT (ABOVE,BELOW)),",
    "GRAVE,HOOK),YNN),X.( WITH D(IAERESIS,OT ABOVE)),Y.( WITH (ACUTE,CIRCUMFLEX,D(IAERESIS,OT (",
    "ABOVE,BELOW)),GRAVE,HOOK.( ABOVE),LOOP,MACRON,STROKE,TILDE),OGH),Z.( WITH (ACUTE,C(ARON,",
    "IRCUMFLEX),D(ESCENDER,OT (ABOVE,BELOW)),HOOK,LINE BELOW,PALATAL HOOK,S(TROKE,WASH TAIL)))),",
    "IGATURE (IJ,OE)),ROSS),EPIGRAPHIC LETTER (ARCHAIC M,I( LONGA,NVERTED M),REVERSED (F,P),",
    "SIDEWAYS I),LETTER (A(IN,LVEOLAR CLICK),BI(DENTAL PERCUSSIVE,LABIAL (CLICK,PERCUSSIVE)),",
    "DENTAL CLICK,GLOTTAL STOP.( WITH STROKE),INVERTED GLOTTAL STOP.( WITH (CURL,STROKE)),",
    "LATERAL CLICK,PHARYNGEAL VOICED FRICATIVE,RE(TROFLEX CLICK.( WITH RETROFLEX HOOK),VERSED (",
    "ESH LOOP,GLOTTAL STOP WITH STROKE)),S(INOLOGICAL DOT,MALL CAPITAL (A.(E),B.(ARRED B),C,D,E.(",
    "TH,ZH),F,G.( WITH HOOK),H,I.(NVERTED R),J,K,L.( WITH (BELT,STROKE)),M,N,O.(E,PEN O,U),P,Q,R.(",
    " WITH RIGHT LEG,EVERSED (N,R),UM),S,T.(URNED (E,G,K,M,R)),U,V,W,Y,Z),TRETCHED C.(",
    " WITH CURL)),TWO WITH STROKE,VOICED LARYNGEAL SPIRANT,WYNN,YR),S(MALL (CAPITAL LETTER (",
    "I WITH STROKE,U WITH STROKE),L(ETTER (A.( (REVERSED-SCHWA,WITH (ACUTE,BREVE.( AND (ACUTE,",
    "DOT BELOW,GRAVE,HOOK ABOVE,TILDE)),C(ARON,IRCUMFLEX.( AND (ACUTE,DOT BELOW,GRAVE,HOOK ABOVE,",
    "TILDE))),D(IAERESIS.( AND MACRON),O(T (ABOVE.( AND MACRON),BELOW),UBLE GRAVE)),GRAVE,",
    "HOOK ABOVE,INVERTED BREVE,MACRON,OGONEK,R(ETROFLEX HOOK,I(GHT HALF RING,NG (ABOVE.(",
    " AND ACUTE),BELOW))),STROKE,TILDE)),A,E.( WITH (ACUTE,MACRON)),LPHA.( WITH RETROFLEX HOOK),",
    "NGLICANA W,O,U,V.( WITH HORIZONTAL BAR),Y),B.( WITH (DOT (ABOVE,BELOW),FLOURISH,HOOK,",
    "LINE BELOW,MIDDLE TILDE,PALATAL HOOK,STROKE,TOPBAR),A(RRED (ALPHA,E,O),SELINE ESH),ETA,",
    "LACKLETTER (E,O.( WITH STROKE)),OTTOM HALF O,ROKEN L),C.( WITH (ACUTE,BAR,C(ARON,EDILLA.(",
    " AND ACUTE),IRCUMFLEX,URL),DOT ABOVE,HOOK,PALATAL HOOK,RETROFLEX HOOK,STROKE),HI.( WITH LOW (",
    "LEFT SERIF,RIGHT RING)),LOSED (INSULAR G,O(MEGA,PEN E),REVERSED OPEN E),ON,UATRILLO.(",
    " WITH COMMA)),D.( WITH (C(ARON,EDILLA,IRCUMFLEX BELOW,URL),DOT (ABOVE,BELOW),HOOK.(",
    " AND TAIL),LINE BELOW,MID(-HEIGHT LEFT HOOK,DLE TILDE),PALATAL HOOK,S(HORT STROKE OVERLAY,",
    "TROKE),T(AIL,OPBAR)),B DIGRAPH,E(LTA,ZH DIGRAPH.( WITH (PALATAL HOOK,RETROFLEX HOOK))),O(",
    "TLESS (I,J.( WITH STROKE.( AND HOOK))),UBLE (R.( WITH CROSSED-TAIL),THORN,WYNN)),UM,Z.( (",
    "DIGRAPH.( WITH (CURL,RETROFLEX HOOK)),WITH CARON))),E.( WITH (ACUTE,BREVE,C(ARON,EDILLA.(",
    " AND BREVE),IRCUMFLEX.( (AND (ACUTE,DOT BELOW,GRAVE,HOOK ABOVE,TILDE),BELOW))),D(IAERESIS,O(",
    "T (ABOVE,BELOW),UBLE GRAVE)),FLOURISH,GRAVE,HOOK ABOVE,INVERTED BREVE,MACRON.( AND (ACUTE,",
    "GRAVE)),NOTCH,OGONEK,RETROFLEX HOOK,STROKE,TILDE.( BELOW)),GYPTOLOGICAL A(IN,LEF),NG.( WITH (",
    "CROSSED-TAIL,PALATAL HOOK)),SH.( WITH (CURL,DOUBLE BAR.( AND CURL),PALATAL HOOK,",
    "RETROFLEX HOOK)),T.(H),ZH.( (REVERSED,WITH (C(ARON,URL),PALATAL HOOK,RETROFLEX HOOK,TAIL)))),",
    "F.( WITH (DOT ABOVE,HOOK,MIDDLE TILDE,PALATAL HOOK,STROKE),ENG DIGRAPH.( WITH TRILL)),G.(",
    " WITH (ACUTE,BREVE,C(ARON,EDILLA,IRCUMFLEX),DOT ABOVE,HOOK,MACRON,OBLIQUE STROKE,",
    "PALATAL HOOK,STROKE),AMMA,LOTTAL (A,I,STOP,U)),H.( WITH (BREVE BELOW,C(ARON,EDILLA,",
    "IRCUMFLEX),D(ESCENDER,IAERESIS,OT (ABOVE,BELOW)),HOOK,LINE BELOW,PALATAL HOOK,STROKE),ALF H,",
    "ENG.( WITH HOOK),V),I.( WITH (ACUTE,BREVE,C(ARON,IRCUMFLEX),D(IAERESIS.( AND ACUTE),O(",
    "T BELOW,UBLE GRAVE)),GRAVE,HOOK ABOVE,INVERTED BREVE,MACRON,OGONEK,RETROFLEX HOOK,STROKE.(",
    " AND RETROFLEX HOOK),TILDE.( BELOW)),N(SULAR (D,F,G,R,S,T),VERTED (ALPHA,OE)),OT(A.(",
    " WITH STROKE),IFIED E),S),J.( WITH (C(ARON,IRCUMFLEX,ROSSED-TAIL),STROKE)),K.( WITH (ACUTE,C(",
    "ARON,EDILLA),D(ESCENDER,IAGONAL STROKE,OT BELOW),HOOK,LINE BELOW,OBLIQUE STROKE,PALATAL HOOK,",
    "STROKE.( AND DIAGONAL STROKE)),RA),L.( WITH (ACUTE,B(AR,ELT.( AND PALATAL HOOK)),C(ARON,",
    "EDILLA,IRCUMFLEX BELOW,URL),DO(T BELOW.( AND MACRON),UBLE (BAR,MIDDLE TILDE)),FISHHOOK,",
    "HIGH STROKE,INVERTED LAZY S,LINE BELOW,MID(-HEIGHT LEFT HOOK,DLE (DOT,RING,TILDE)),",
    "PALATAL HOOK,RETROFLEX HOOK.( AND BELT),STROKE),AMBDA.( WITH STROKE),E(NIS F,ZH.(",
    " WITH RETROFLEX HOOK)),J,ONG S.( WITH (D(IAGONAL STROKE,OT ABOVE),HIGH STROKE)),S DIGRAPH,UM,",
    "Z DIGRAPH),M.( WITH (ACUTE,CROSSED-TAIL,DOT (ABOVE,BELOW),HOOK,MIDDLE TILDE,PALATAL HOOK),",
    "IDDLE( SCOTS S,-WELSH (LL,V)),UM),N.( (PRECEDED BY APOSTROPHE,WITH (ACUTE,C(ARON,EDILLA,",
    "IRCUMFLEX BELOW,ROSSED-TAIL,URL),D(ESCENDER,OT (ABOVE,BELOW)),GRAVE,L(EFT HOOK,INE BELOW,",
    "ONG RIGHT LEG),MID(-HEIGHT LEFT HOOK,DLE TILDE),OBLIQUE STROKE,PALATAL HOOK,RETROFLEX HOOK,",
    "TILDE)),J,UM),O.( WITH (ACUTE,BREVE,C(ARON,IRCUMFLEX.( AND (ACUTE,DOT BELOW,GRAVE,HOOK ABOVE,",
    "TILDE))),D(IAERESIS.( AND MACRON),O(T (ABOVE.( AND MACRON),BELOW),UBLE (ACUTE,GRAVE))),GRAVE,",
    "HO(OK ABOVE,RN.( AND (ACUTE,DOT BELOW,GRAVE,HOOK ABOVE,TILDE))),INVERTED BREVE,LO(",
    "NG STROKE OVERLAY,OP,W RING INSIDE),MACRON.( AND (ACUTE,GRAVE)),OGONEK.( AND MACRON),",
    "RETROFLEX HOOK,STROKE.( AND ACUTE),TILDE.( AND (ACUTE,DIAERESIS,MACRON))),I,LD POLISH O,MEGA,",
    "O,PEN (E.( WITH RETROFLEX HOOK),O.( WITH (RETROFLEX HOOK,STROKE),E)),U),P.( WITH (ACUTE,",
    "DOT ABOVE,FLOURISH,HOOK,MIDDLE TILDE,PALATAL HOOK,S(QUIRREL TAIL,TROKE.(",
    " THROUGH DESCENDER))),HI),Q.( WITH (DIAGONAL STROKE,HOOK.( TAIL),STROKE THROUGH DESCENDER),",
    "P DIGRAPH),R.( (ROTUNDA,WITH( (ACUTE,C(ARON,EDILLA,ROSSED-TAIL),DO(T (ABOVE,BELOW.(",
    " AND MACRON)),UBLE GRAVE),FISHHOOK.( AND (MIDDLE TILDE,PALATAL HOOK)),INVERTED BREVE,L(",
    "INE BELOW,ONG LEG),MID(-HEIGHT LEFT HOOK,DLE TILDE),OBLIQUE STROKE,PALATAL HOOK,STROKE,TAIL),",
    "OUT HANDLE)),AMS HORN,EVERSED (C.( WITH DOT),E.(NG),HALF H,K,OPEN E.( WITH (HOOK,",
    "RETROFLEX HOOK)),R WITH FISHHOOK,SCRIPT G),UM.( ROTUNDA)),S.( WITH (ACUTE.( AND DOT ABOVE),C(",
    "ARON.( AND DOT ABOVE),EDILLA,IRCUMFLEX,OMMA BELOW,URL),D(IAGONAL STROKE,OT (ABOVE,BELOW.(",
    " AND DOT ABOVE))),HOOK,MID(-HEIGHT LEFT HOOK,DLE TILDE),OBLIQUE STROKE,PALATAL HOOK,S(",
    "HORT STROKE OVERLAY,WASH TAIL)),A(KHA YAT,LTILLO),C(HWA.( WITH (HOOK,RETROFLEX HOOK)),RIPT (",
    "G.( WITH CROSSED-TAIL),R.( WITH RING))),HARP S,I(DEWAYS (DIAERESIZED U,O.( WITH STROKE,",
    "PEN O),TURNED M,U),GMOID S),QUAT REVERSED ESH,TIRRUP R),T.( WITH (C(ARON,EDILLA,",
    "IRCUMFLEX BELOW,OMMA BELOW,URL),D(IA(ERESIS,GONAL STROKE),OT (ABOVE,BELOW)),HOOK.(",
    " AND RETROFLEX HOOK),LINE BELOW,MID(-HEIGHT LEFT HOOK,DLE TILDE),PALATAL HOOK,RETROFLEX HOOK,",
    "STROKE),AILLESS PHI,C DIGRAPH WITH CURL,ESH DIGRAPH.( WITH (PALATAL HOOK,RETROFLEX HOOK)),H(",
    " WITH STRIKETHROUGH,ORN.( WITH STROKE.( THROUGH DESCENDER))),O(NE (FIVE,SIX,TWO),P HALF O),",
    "RESILLO,S DIGRAPH.( WITH RETROFLEX HOOK),U(M,RNED (A.(E,LPHA),DELTA,E,G,H.( WITH FISHHOOK.(",
    " AND TAIL)),I.(NSULAR G),K,L,M.( WITH LONG LEG),O( OPEN-O.( WITH STROKE),E.( WITH (",
    "HORIZONTAL STROKE,STROKE)),PEN E),R.( WITH (HOOK,LONG LEG.( AND RETROFLEX HOOK),MIDDLE TILDE,",
    "PALATAL HOOK,TAIL)),T.( WITH CURL),UI,V,W,Y.( WITH BELT))),Z),U.( (BAR.(",
    " WITH SHORT RIGHT LEG),WITH (ACUTE,BREVE,C(ARON,IRCUMFLEX.( BELOW)),D(IAERESIS.( (AND (ACUTE,",
    "CARON,GRAVE,MACRON),BELOW)),O(T BELOW,UBLE (ACUTE,GRAVE))),GRAVE,HO(OK ABOVE,RN.( AND (ACUTE,",
    "DOT BELOW,GRAVE,HOOK ABOVE,TILDE))),INVERTED BREVE,LEFT HOOK,MACRON.( AND DIAERESIS),OGONEK,",
    "R(ETROFLEX HOOK,ING ABOVE),S(HORT RIGHT LEG,TROKE),TILDE.( (AND ACUTE,BELOW)))),E,I,M,O,",
    "PSILON.( WITH STROKE)),V.( WITH (CURL,D(IAGONAL STROKE,OT BELOW),HOOK,PALATAL HOOK,",
    "RIGHT HOOK,TILDE),END,ISIGOTHIC Z,OLAPUK (AE,OE,UE),Y),W.( WITH (ACUTE,CIRCUMFLEX,D(IAERESIS,",
    "OT (ABOVE,BELOW)),GRAVE,HOOK,RING ABOVE)),X.( WITH (D(IAERESIS,OT ABOVE),LO(NG LEFT LEG.( (",
    "AND LOW RIGHT RING,WITH SERIF)),W RIGHT RING),PALATAL HOOK)),Y.( WITH (ACUTE,CIRCUMFLEX,D(",
    "IAERESIS,OT (ABOVE,BELOW)),GRAVE,HOOK.( ABOVE),LOOP,MACRON,RING ABOVE,S(HORT RIGHT LEG,",
    "TROKE),TILDE),OGH),Z.( WITH (ACUTE,C(ARON,IRCUMFLEX,URL),D(ESCENDER,OT (ABOVE,BELOW)),HOOK,",
    "LINE BELOW,MIDDLE TILDE,PALATAL HOOK,RETROFLEX HOOK,S(TROKE,WASH TAIL)))),IGATURE (F(F.(I,L),",
    "I,L),IJ,LONG S T,OE,ST))),UBSCRIPT SMALL LETTER (A,E,H,I,J,K,L,M,N,O,P,R,S.(CHWA),T,U,V,",
    "X)))),E(AF( FLUTTERING IN WIND,LESS TREE,Y GREEN),DGER,FT( (A(N(D (LOWER (",
    "AND RIGHT TRIANGULAR THREE QUARTERS BLOCK,ONE EIGHTH BLOCK),RIGHT (DOUBLE TURNSTILE,T(ACK,",
    "RIANGULAR HALF BLOCK)),UPPER (AND RIGHT TRIANGULAR THREE QUARTERS BLOCK,ONE EIGHTH BLOCK.(",
    " CONTAINING BLACK SMALL SQUARE))),G(ER BUBBLE,LE BRACKET.( WITH DOT))),R(C LESS-THAN BRACKET,",
    "ROW WITH (CIRCLED PLUS,SMALL CIRCLE))),B(ARB (DOWN RIGHT BARB (DOWN HARPOON,UP HARPOON),",
    "UP RIGHT BARB (DOWN HARPOON,UP HARPOON)),LACK (LENTICULAR BRACKET,TORTOISE SHELL BRACKET)),C(",
    "EILING,LOSED ENTRY,ORNER BRACKET,URLY BRACKET.( (LOWER HOOK,MIDDLE PIECE,UPPER HOOK))),DO(",
    "TTED SUBSTITUTION BRACKET,UBLE (ANGLE BRACKET,PARENTHESIS,QUOTATION MARK,WIGGLY FENCE)),F(I(",
    "SH TAIL,VE EIGHTHS BLOCK),LOOR),HA(LF (BL(ACK (CIRCLE,STAR),OCK),CIRCLE.( WITH (DOT,",
    "FOUR DOTS,T(HREE DOTS,WO DOTS))),F(LYING SAUCER,OLDER),HORIZONTAL LINE WITH THREE TICK MARKS,",
    "INVERSE MEDIUM SHADE AND RIGHT HALF BLOCK,LOWER ONE QUARTER BLOCK,MEDIUM SHADE,RUNNING MAN,",
    "TRIPLE DASH HORIZONTAL,UPPER ONE QUARTER BLOCK,WHITE ELLIPSE),ND TELEPHONE RECEIVER),",
    "JUSTIFIED RIGHT HALF (BLACK CIRCLE,WHITE CIRCLE),L(OW PARAPHRASE BRACKET,UGGAGE),MULTIMAP,",
    "NORMAL FACTOR SEMIDIRECT PRODUCT,O(NE (EIGHTH BLOCK,QUARTER BLOCK,THIRD BLOCK),UTER JOIN),",
    "PARENTHESIS.( (EXTENSION,LOWER HOOK,UPPER HOOK)),R(AISED OMISSION BRACKET,IGHT (ARROW.( (",
    "THROUGH SMALL CIRCLE,WITH (DOUBLE VERTICAL STROKE,STROKE,VERTICAL STROKE))),BLACK ARROW,",
    "DOUBLE ARROW.( WITH (STROKE,VERTICAL STROKE)),OPEN-HEADED ARROW,SANS-SERIF ARROW,",
    "TRIANGLE-HEADED ARROW,W(AVE ARROW,HITE ARROW))),S(-SHAPED BAG DELIMITER,E(MIDIRECT PRODUCT,",
    "VEN EIGHTHS BLOCK),I(DEWAYS U BRACKET,NGLE QUOTATION MARK),PEECH BUBBLE,QUARE BRACKET.( (",
    "EXTENSION,LOWER CORNER,UPPER CORNER,WITH (DOUBLE STROKE,QUILL,STROKE,TICK IN (BOTTOM CORNER,",
    "TOP CORNER),UNDERBAR))),UBSTITUTION BRACKET),T(ACK,H(IRD (INDUCTOR,",
    "WHITE RIGHT POINTING INDEX),OUGHT BUBBLE,REE (EIGHTHS BLOCK,QUARTERS (BLOCK,",
    "LOWER ONE QUARTER BLOCK,UPPER ONE QUARTER BLOCK))),ORTOISE SHELL BRACKET,R(",
    "ANSPOSITION BRACKET,IANG(LE BESIDE VERTICAL BAR,ULAR ONE QUARTER BLOCK)),WO THIRDS BLOCK),",
    "VERTICAL B(AR WITH QUILL,OX LINE),W(HITE (C(ORNER BRACKET,URLY BRACKET),LENTICULAR BRACKET,",
    "PARENTHESIS,SQUARE BRACKET,TORTOISE SHELL BRACKET),IGGLY FENCE,RITING HAND)),-(FACING (",
    "ARMENIAN ETERNITY SIGN,BASSINET,FIS(H.( WITH OPEN MOUTH),T),S(NAKE HEAD WITH (CLOSED MOUTH,",
    "OPEN MOUTH),VASTI SIGN.( WITH DOTS))),HANDED INTERLACED PENTAGRAM,POINTING (A(IRPLANE,",
    "NGLE BRACKET,TOMIC BOMB),CURVED ANGLE BRACKET,D(IODE,OUBLE ANGLE QUOTATION MARK),ENERGY WAVE,",
    "MAGNIFYING GLASS,R(ACING CAR,IFLE,O(CKET (BOOSTER,SHIP),LLER COASTER CAR)),STICK FIGURE,",
    "TANK),S(HADED WHITE RIGHTWARDS ARROW,IDE ARC ANTICLOCKWISE ARROW),TO-RIGHT (EMBEDDING,",
    "ISOLATE,MARK,OVERRIDE)),WARDS (ARROW.( (A(BOVE (ALMOST EQUAL TO,REVERSE (ALMOST EQUAL TO,",
    "TILDE OPERATOR),SHORT RIGHTWARDS ARROW,TILDE OPERATOR),ND UPPER AND LOWER ONE EIGHTH BLOCK),",
    "FROM (BAR.( TO BLACK DIAMOND),DOWNWARDS ARROW),OVER RIGHTWARDS ARROW,T(HROUGH (LESS-THAN,",
    "SUBSET,X),O B(AR.( OVER RIGHTWARDS ARROW TO BAR),LACK DIAMOND)),WITH (DO(TTED STEM,",
    "UBLE VERTICAL STROKE),EQUILATERAL ARROWHEAD,HOOK,L(ARGE TRIANGLE ARROWHEAD,OOP),",
    "MEDIUM TRIANGLE ARROWHEAD,NOTCHED TAIL,PLUS BELOW,S(MALL (EQUILATERAL ARROWHEAD,",
    "TRIANGLE ARROWHEAD),TROKE),T(AIL.( WITH (DOUBLE VERTICAL STROKE,VERTICAL STROKE)),IP (",
    "DOWNWARDS,UPWARDS)),VERTICAL STROKE)),-TAIL),B(ACK-TILTED SHADOWED WHITE ARROW,LACK (ARROW,",
    "CIRCLED WHITE ARROW),OTTOM-SHADED WHITE ARROW),COMPRESSED ARROW,D(ASHED ARROW,OUBLE (ARROW.(",
    " (FROM BAR,WITH (STROKE,VERTICAL STROKE)),-TAIL),DASH ARROW)),F(INGER-POST ARROW,",
    "RONT-TILTED SHADOWED WHITE ARROW),H(A(ND,RPOON (OVER RIGHTWARDS HARPOON,WITH BARB (DOWN( (",
    "ABOVE RIGHTWARDS HARPOON WITH BARB DOWN,BELOW LONG DASH,FROM BAR,TO BAR),WARDS),UP( (ABOVE (",
    "L(EFTWARDS HARPOON WITH BARB DOWN,ONG DASH),RIGHTWARDS HARPOON WITH BARB UP),FROM BAR,",
    "TO BAR),WARDS)))),EAVY (ARROW,COMPRESSED ARROW)),LEFT-SHADED WHITE ARROW,OPEN-HEADED ARROW,P(",
    "AIRED ARROWS,USHING HAND),QUADRUPLE ARROW,R(IGHT-SHADED WHITE ARROW,OCKET),S(ANS-SERIF ARROW,",
    "QU(ARED ARROW,IGGLE ARROW)),T(OP SHADED WHITE ARROW,RI(ANGLE( ARROWHEAD,-HEADED (ARROW.( (",
    "OVER RIGHTWARDS TRIANGLE-HEADED ARROW,TO BAR,WITH (BOLD SHAFT,DOUBLE HORIZONTAL STROKE,",
    "HEAVY SHAFT,LONG TIP (DOWNWARDS,UPWARDS),MEDIUM SHAFT,NARROW SHAFT,VERY HEAVY SHAFT))),",
    "DASHED ARROW,PAIRED ARROWS)),PLE (ARROW,DASH ARROW)),WO( HEADED ARROW,-HEADED (ARROW (",
    "FROM BAR,WITH (DOUBLE VERTICAL STROKE,T(AIL.( WITH (DOUBLE VERTICAL STROKE,VERTICAL STROKE)),",
    "RIANGLE ARROWHEADS),VERTICAL STROKE)),TRIPLE DASH ARROW))),W(AVE ARROW,HITE ARROW.(",
    " WITHIN TRIANGLE ARROWHEAD)))),G,MON,O.(PARD),PCHA (CONSONANT SIGN (K.(ANG),L,M,N.(YIN-DO),P,",
    "R,T),DIGIT (EIGHT,F(IVE,OUR),NINE,ONE,S(EVEN,IX),T(HREE,WO),ZERO),LETTER (A,B(A,LA),C(A,HA),",
    "D(A,DA,ZA),F(A,LA),G(A,LA),H(A,LA),JA,K(A,HA,LA),LA,M(A,LA),N(A,GA,YA),P(A,HA,LA),RA,S(A,HA),",
    "T(A,HA,S(A,HA),T(A,HA)),VA,WA,YA),PUNCTUATION (CER-WA,NYET THYOOM TA-ROL,T(A-ROL,SHOOK.(",
    " CER-WA))),S(IGN (NUKTA,RAN),UBJOINED LETTER (RA,YA)),VOWEL SIGN (AA,E,I,O.(O),U.(U))),",
    "SS-THAN (A(BOVE (DOUBLE-LINE EQUAL ABOVE GREATER-THAN,GREATER-THAN ABOVE DOUBLE-LINE EQUAL,",
    "LEFTWARDS ARROW,S(IMILAR (ABOVE GREATER-THAN,OR EQUAL),",
    "LANTED EQUAL ABOVE GREATER-THAN ABOVE SLANTED EQUAL)),ND (NOT APPROXIMATE,",
    "SINGLE-LINE NOT EQUAL TO)),BUT NOT EQU(AL TO,IVALENT TO),CLOSED BY CURVE.(",
    " ABOVE SLANTED EQUAL),EQUAL TO OR GREATER-THAN,O(R (APPROXIMATE,EQU(AL TO,IVALENT TO),",
    "GREATER-THAN,SLANTED EQUAL TO.( WITH DOT (ABOVE.( RIGHT),INSIDE))),VER EQUAL TO),SIGN,WITH (",
    "CIRCLE INSIDE,DOT,QUESTION MARK ABOVE)),VEL SLIDER),I(BRA,G(ATURE OPEN ET ORNAMENT,HT( (",
    "BLUE HEART,CHECK MARK,EIGHT SPOKED ASTERISK,F(IVE (POINTED BLACK STAR,SPOKED ASTERISK),",
    "OUR POINTED BLACK (CUSP,STAR)),GREEK CROSS,LEFT TORTOISE SHELL BRACKET ORNAMENT,R(AIL,",
    "IGHT TORTOISE SHELL BRACKET ORNAMENT),S(ALTIRE,HADE,IX SPOKED ASTERISK),T(",
    "HREE POINTED BLACK STAR,WELVE POINTED BLACK STAR),VERTICAL BAR,WHITE SQUARE),NING.( MOOD.(",
    " BUBBLE)))),M(BU (DIGIT (EIGHT,F(IVE,OUR),NINE,ONE,S(EVEN,IX),T(HREE,WO),ZERO),",
    "EXCLAMATION MARK,LETTER (B(A,HA),C(A,HA),D(A,HA),G(A,HA,YAN),HA,J(A,HA),K(A,HA),LA,MA,N(A,",
    "GA),P(A,HA),RA,S(A,HA,SA),T(A,HA,RA),WA,YA.(N)),QUESTION MARK,S(IGN (KEMPHRENG,LOO,MUKPHRENG,",
    "SA-I),MALL LETTER (ANUSVARA,KA,LA,MA,N(A,GA),PA,RA,TA),UBJOINED LETTER (RA,WA,YA)),VOWEL(",
    " SIGN (A.(I,U),E.(E),I,O.(O),U),-CARRIER LETTER)),ITED LIABILITY SIGN),N(E( (INTEGRATION (",
    "NOT INCLUDING THE POLE,WITH (RECTANGULAR PATH AROUND POLE,SEMICIRCULAR PATH AROUND POLE)),",
    "SEPARATOR),AR (A SIGN A(028B,1(00-102,20B,31C),3(0(1,2,3,4,5,6,7,8,9(A,B,C)),1(0,1,2,3(A,B,",
    "C),4,5,6,7,8,9),2(0,1,2,3,4,5,6,7,8,9),3(0,1,2,3,4,5,6,7,8,9),4(0,1,2,3,4,5,6,7,8,9),5(0,1,2,",
    "3,4,5,6,7,8,9),6(0,1,2,3,4,5,6,7,8,9),7(0,1)),4(0(0-VAS,1-VAS,2-VAS,3-VAS,4-VAS,5-VAS,6-VAS,",
    "7-VAS,8-VAS,9-VAS),1(0-VAS,1-VAS,2-VAS,3-VAS,4-VAS,5-VAS,6-VAS,7-VAS,8-VAS)),5(0(1,2,3,4,5,6,",
    "8,9),1(0,1,2,3,5,6),2(0,1,3,4,5,6,7,8,9),3(0,1,2,4,5,6,7,8,9),4(0,1,2,5,7,8,9),5(0,1,2,3,4,5,",
    "6,7,9),6(3,4,5,6,8,9),7(0,1,2,3,4,5,6,7,8,9),8(0,1,2,3,4,5,6,7,8,9),9(1,2,4,5,6,8)),6(0(0,1,",
    "2,3,4,6,8,9),1(0,1,2,3,4,5,6,7,8,9),2(0,1,2,3,4,6,7,8,9),3(4,7,8),4(0,2,3,4,5,6,8,9),5(1,2,3,",
    "4,5,6,7,8,9),6(0,1,2,3,4)),7(0(1 A,2 B,3 D,4 E,5 F,6 H,7 J,8 K,9( L,-(2 L2,3 L3,4 L4,6 L6))),",
    "1(0 W,1 X,2 Y,3 OMEGA,4 ABB,5 BB,7 DD),26 EYYY,32 JE),80(0,1,2,3,4,5,6,7),B(0(0(1,2,3,4,5,6,",
    "7,8,9),1(0,1,3,6,7),2(0,1.(F,M),2.(F,M),3.(M),4,6,7,8,9),3(0,1,4,7,8,9),4(0,1,4,5,6,7,8,9),5(",
    "0,1,3,4,5,6,7,8,9),6(0,1,5,6,7,9),7(0,3,4,6,7,8,9),8(0,1,2,5,6,7)),1(18,2(0,2,3),31(A,B),64,",
    "71,8(0,8),91))),B (IDEOGRAM (B(1(0(0 MAN,2 WOMAN,4 DEER,5( EQUID,F MARE,M STALLION),6(F EWE,",
    "M RAM),7(F SHE-GOAT,M HE-GOAT),8(F SOW,M BOAR),9(F COW,M BULL)),2(0 WHEAT,1 BARLEY,2 OLIVE,",
    "3 SPICE,5 CYPERUS),3(0 OIL,1 WINE,2),4(0 BRONZE,1 GOLD,2,5 WOOL,6),5(0,1 HORN,2,3,4,7,8,",
    "9 CLOTH),6(0,1,2 GARMENT,3 ARMOUR,4,5,6,7,8,9),7(0,1,2,3 MONTH,4,6 TREE,7,8,9),8(0,1,2,3,4,5,",
    "9),9(0,1 HELMET)),2(2(0 FOOTSTOOL,5 BATHTUB),3(0 SPEAR,1 ARROW,2,3 SWORD,4,6),4(",
    "0 WHEELED CHARIOT,1 CHARIOT,2 CHARIOT FRAME,3 WHEEL,5,6,8,9),5(1,2,3,4 DART,5,6,7,8,9))),",
    "VESSEL B(155,2(0(0,1,2,3,4,5,6,7,8,9),1(0,1,2,3,4,5,6,7,8,9),2(1,2,6,7,8,9),50),305)),",
    "MONOGRAM B(1(2(7 KAPO,8 KANAKO),3(3 AREPA,5 MERI),56 TURO2),247 DIPTE),SY(LLABLE B0(0(1 DA,",
    "2 RO,3 PA,4 TE,5 TO,6 NA,7 DI,8 A,9 SE),1(0 U,1 PO,2 SO,3 ME,4 DO,5 MO,6 QA,7 ZA),2(0 ZO,",
    "1 QI,3 MU,4 NE,5 A2,6 RU,7 RE,8 I,9 PU2),3(0 NI,1 SA,2 QO,3 RA3,6 JO,7 TI,8 E,9 PI),4(0 WI,",
    "1 SI,2 WO,3 A3,4 KE,5 DE,6 JE,8 NWA),5(0 PU,1 DU,2 NO,3 RI,4 WA,5 NU,7 JA,8 SU,9 TA),6(0 RA,",
    "1 O,2 PTE,5 JU,6 TA2,7 KI,8 RO2,9 TU),7(0 KO,1 DWE,2 PE,3 MI,4 ZE,5 WE,6 RA2,7 KA,8 QE),8(",
    "0 MA,1 KU,5 AU,7 TWE),9(0 DWO,1 TWO)),MBOL B0(1(8,9),22,34,4(7,9),56,6(3,4),79,8(2,3,6,",
    "9)))))),K( SYMBOL,ED PAPERCLIPS)),ON FACE,PS.(TICK),RA SIGN,SU (LETTER (A.(E),BA,C(A,HA),D(A,",
    "ZA),E.(U),FA,G(A,HA),H(A,HA),I,JA,K(A,HA),LA,MA,N(A,GA),O.(E),P(A,HA),S(A,HA),T(A,HA,ONE (",
    "MYA (BO,CYA,JEU,NA,TI),NA PO),S(A,HA)),U.(E,H),WA,XA,Y(A,HA),Z(A,HA)),PUNCTUATION (COMMA,",
    "FULL STOP)),VRE TOURNOIS SIGN,ZARD),LAMA,O(BSTER,CK.( WITH INK PEN),GIC( GATE (AND,BUFFER.(",
    " WITH INVERTED INPUT),INVERTED (INPUTS,OUTPUT),OR),AL (AND.( WITH (DO(T ABOVE,UBLE (OVERBAR,",
    "UNDERBAR)),HORIZONTAL DASH,MIDDLE STEM,UNDERBAR)),OR.( (OVERLAPPING LOGICAL AND,WITH (DO(",
    "T ABOVE,UBLE (OVERBAR,UNDERBAR)),HORIZONTAL DASH,MIDDLE STEM))))),LLIPOP,NG (D(",
    "ASH FROM LEFT MEMBER OF DOUBLE VERTICAL,IVISION,RUM),LEFT( (RIGHT (ARROW,DOUBLE ARROW),TACK),",
    "WARDS (ARROW.( FROM BAR),DOUBLE ARROW.( FROM BAR),SQUIGGLE ARROW)),RIGHT( TACK,WARDS (ARROW.(",
    " FROM BAR),DOUBLE ARROW.( FROM BAR),SQUIGGLE ARROW))),T( OF FORTUNE,ION BOTTLE,US),",
    "UDLY CRYING FACE,VE (HOTEL,LETTER),W( (ASTERISK,B(ATTERY,RIGHTNESS SYMBOL),",
    "DOUBLE PRIME QUOTATION MARK,KAVYKA.( WITH DOT),LINE),ER (BLADE SCISSORS,CENTRE (LEFT (",
    "ONE SIXTEENTH BLOCK,TWELFTH CIRCLE),ONE QUARTER BLOCK,RIGHT (ONE SIXTEENTH BLOCK,",
    "TWELFTH CIRCLE)),FIVE EIGHTHS BLOCK,H(ALF (AND UPPER HALF WHITE CIRCLE,BLOCK,CIRCLE,",
    "HEAVY WHITE SQUARE,INVERSE WHITE CIRCLE,LEFT ONE QUARTER BLOCK,MEDIUM SHADE,",
    "RIGHT ONE QUARTER BLOCK,VERTICAL LINE WITH THREE TICK MARKS),ORIZONTAL RULER SEGMENT),LEFT (",
    "B(ALLPOINT PEN,LOCK DIAGONAL (LOWER MIDDLE LEFT TO LOWER (CENTRE,RIGHT),UPPER (CENTRE TO (",
    "LOWER (MIDDLE RIGHT,RIGHT),UPPER MIDDLE RIGHT),LEFT TO (LOWER (CENTRE,MIDDLE RIGHT),",
    "UPPER MIDDLE RIGHT),MIDDLE LEFT TO LOWER (CENTRE,MIDDLE RIGHT,RIGHT)))),CRAYON,FOUNTAIN PEN,",
    "ONE SIXTEENTH BLOCK,P(AINTBRUSH,ENCIL),QUA(DRANT (C(HESS (BISHOP,K(ING,NIGHT),PAWN,QUEEN,",
    "ROOK),IRCULAR ARC),F(ACE WITH OPEN MOUTH,ROWNING FACE),MICROCOMPUTER,NEUTRAL FACE,S(",
    "MILING FACE,TANDING KNIGHT),TELEVISION),RTER CIRCLE),SEMICIRCULAR ANTICLOCKWISE ARROW,T(",
    "RIANG(LE,ULAR MEDIUM SHADE),WELFTH CIRCLE)),MIDDLE (CENTRE (LEFT ONE SIXTEENTH BLOCK,",
    "RIGHT ONE SIXTEENTH BLOCK),LEFT (ONE SIXTEENTH BLOCK,TWELFTH CIRCLE),RIGHT (",
    "ONE SIXTEENTH BLOCK,TWELFTH CIRCLE)),ONE (EIGHTH BLOCK,QUARTER BLOCK),RIGHT (BLOCK DIAGONAL (",
    "LOWER (CENTRE TO (LOWER MIDDLE RIGHT,UPPER (MIDDLE RIGHT,RIGHT)),LEFT TO (LOWER MIDDLE RIGHT,",
    "UPPER (CENTRE,MIDDLE RIGHT)),MIDDLE LEFT TO UPPER (CENTRE,MIDDLE RIGHT,RIGHT)),",
    "UPPER MIDDLE LEFT TO UPPER (CENTRE,RIGHT)),CORNER WITH DOT,DROP-SHADOWED WHITE SQUARE,",
    "ONE SIXTEENTH BLOCK,PENCIL,QUA(DRANT (C(HESS (BISHOP,K(ING,NIGHT),PAWN,QUEEN,ROOK),",
    "IRCULAR ARC),F(ACE WITH OPEN MOUTH,ROWNING FACE),MICROCOMPUTER,NEUTRAL FACE,S(MILING FACE,",
    "TANDING KNIGHT),TELEVISION),RTER CIRCLE),RULER SEGMENT,S(EMICIRCULAR CLOCKWISE ARROW,",
    "HADOWED WHITE (CIRCLE,SQUARE)),T(RIANG(LE,ULAR MEDIUM SHADE),WELFTH CIRCLE)),",
    "SEVEN EIGHTHS BLOCK,T(HREE (EIGHTHS BLOCK,QUARTERS (BLOCK,LEFT ONE QUARTER BLOCK,",
    "RIGHT ONE QUARTER BLOCK)),RIANGULAR ONE QUARTER BLOCK))),ZENGE.(",
    " DIVIDED BY HORIZONTAL RULE)),U(GGAGE,N(AR ECLIPSE,GS)),Y(CIAN LETTER (A.(N),B.(H),D,E.(N),G,",
    "H,I,J,K.(K),L,M.(M),N.(N),P,Q,R,S,T.(H,T),U,W,X,Z),DIAN (LETTER (A.(N),B,C,D,E.(N),F,G,I,K,",
    "L.(Y),M,N.(N),O,Q,R,S.(S),T.(T),U,V,Y),TRIANGULAR MARK),ING FACE)),M(A(CRON,G(E,IC WAND,NET),",
    "H(AJANI (ABBREVIATION SIGN,L(ETTER (A,B(A,HA),C(A,HA),D(A,D(A,HA),HA),E,G(A,HA),HA,I,J(A,HA),",
    "K(A,HA),LA,MA,N(A,NA,YA),O,P(A,HA),R(A,RA),SA,T(A,HA,T(A,HA)),U,VA),IGATURE SHRI),S(",
    "ECTION MARK,IGN NUKTA)),JONG TILE (AUTUMN,BA(CK,MBOO),CHRYSANTHEMUM,E(AST WIND,IGHT OF (",
    "BAMBOOS,C(HARACTERS,IRCLES))),F(IVE OF (BAMBOOS,C(HARACTERS,IRCLES)),OUR OF (BAMBOOS,C(",
    "HARACTERS,IRCLES))),GREEN DRAGON,JOKER,N(INE OF (BAMBOOS,C(HARACTERS,IRCLES)),ORTH WIND),O(",
    "NE OF (BAMBOOS,C(HARACTERS,IRCLES)),RCHID),PLUM,RED DRAGON,S(EVEN OF (BAMBOOS,C(HARACTERS,",
    "IRCLES)),IX OF (BAMBOOS,C(HARACTERS,IRCLES)),OUTH WIND,PRING,UMMER),T(HREE OF (BAMBOOS,C(",
    "HARACTERS,IRCLES)),WO OF (BAMBOOS,C(HARACTERS,IRCLES))),W(EST WIND,HITE DRAGON,INTER))),K(",
    "ASAR (ANGKA,END OF SECTION,LETTER (A,BA,CA,DA,GA,JA,KA,LA,MA,N(A,GA,YA),PA,RA,SA,TA,VA,YA),",
    "PASSIMBANG,VOWEL SIGN (E,I,O,U)),EMAKE),L(AYALAM (AU LENGTH MARK,D(ATE MARK,IGIT (EIGHT,F(",
    "IVE,OUR),NINE,ONE,S(EVEN,IX),T(HREE,WO),ZERO)),FRACTION (ONE (EIGHTH,F(IFTH,ORTIETH),HALF,",
    "ONE-HUNDRED-AND-SIXTIETH,QUARTER,SIXTEENTH,T(ENTH,WENTIETH)),THREE (EIGHTIETHS,QUARTERS,",
    "SIXTEENTHS,TWENTIETHS)),LETTER (A.(A,I,RCHAIC II,U),B(A,HA),C(A,H(A,ILLU (K,L.(L.(L)),M,N.(",
    "N),RR,Y))),D(A,D(A,HA),HA,OT REPH),E.(E),G(A,HA),HA,I.(I),J(A,HA),K(A,HA),L(A,L(A,LA)),MA,N(",
    "A,GA,N(A,NA),YA),O.(O),P(A,HA),R(A,RA),S(A,HA,SA),T(A,HA,T(A,HA,TA)),U.(U),V(A,EDIC ANUSVARA,",
    "OCALIC (L.(L),R.(R))),YA),NUMBER (ONE (HUNDRED,THOUSAND),TEN),SIGN (A(NUSVARA,VAGRAHA),C(",
    "ANDRABINDU,IRCULAR VIRAMA,OMBINING ANUSVARA ABOVE),PARA,V(ERTICAL BAR VIRAMA,I(RAMA,SARGA))),",
    "VOWEL SIGN (A(A,I,U),E.(E),I.(I),O.(O),U.(U),VOCALIC (L.(L),R.(R)))),E (AND FEMALE SIGN,SIGN,",
    "WITH STROKE (AND MALE AND FEMALE SIGN,SIGN)),TESE CROSS),MMOTH,N.( (AND WOMAN HOLDING HANDS,",
    "DANCING,IN (BUSINESS SUIT LEVITATING,TUXEDO),WITH (GUA PI MAO,TURBAN)),AT SIGN,DAIC (",
    "AFFRICATION MARK,GEMINATION MARK,LETTER (A(B,D,G,H,IN,K.(SA),L,M,N,P,Q,R,S.(H,Z),T.(T),Z),",
    "DUSHENNA,HALQA,I(N,T),KAD,USHENNA),PUNCTUATION,VOCALIZATION MARK),GO,ICHAEAN (",
    "ABBREVIATION MARK (ABOVE,BELOW),LETTER (A(AYIN,LEPH,YIN),B(ETH,HETH),D(ALETH,HAMEDH),FE,G(",
    "HIMEL,IMEL),HE.(TH),J(AYIN,HAYIN),K(APH,HAPH),LAMEDH,MEM,NUN,PE,Q(HOPH,OPH),RESH,S(A(DHE,",
    "MEKH),HIN,SHIN),T(AW,ETH,HAMEDH),WAW,X(APH,OPH),YODH,Z(AYIN,HAYIN)),NUMBER (FIVE,ONE.(",
    " HUNDRED),T(EN,WENTY)),PUNCTUATION (DO(T.( WITHIN DOT),UBLE DOT WITHIN DOT),FLEURON,",
    "LINE FILLER,STAR,TWO DOTS),SIGN UD),S SHOE,TELPIECE CLOCK,UAL WHEELCHAIR),P(",
    " SYMBOL FOR LIGHTHOUSE,LE LEAF),R(ACAS,CHEN (HEAD MARK,LETTER (-A,A,BA,C(A,HA),D(A,ZA),GA,HA,",
    "JA,K(A,HA),LA,MA,N(A,GA,YA),P(A,HA),RA,S(A,HA),T(A,HA,S(A,HA)),WA,YA,Z(A,HA)),MARK SHAD,S(",
    "IGN (ANUSVARA,CANDRABINDU),UBJOINED LETTER (A,BA,C(A,HA),D(A,ZA),GA,HA,JA,K(A,HA),LA,MA,N(A,",
    "GA,YA),P(A,HA),RA,S(A,HA),T(A,HA,S(A,HA)),WA,YA,Z(A,HA))),VOWEL SIGN (AA,E,I,O,U)),",
    "RIAGE SYMBOL,TIAL ARTS UNIFORM),S(ARAM GONDI (DIGIT (EIGHT,F(IVE,OUR),NINE,ONE,S(EVEN,IX),T(",
    "HREE,WO),ZERO),LETTER (A.(A,I,U),B(A,HA),C(A,HA),D(A,D(A,HA),HA),E,G(A,HA),HA,I.(I),J(A,HA,",
    "NYA),K(A,HA,SSA),L(A,LA),MA,N(A,GA,NA,YA),O,P(A,HA),RA,S(A,HA,SA),T(A,HA,RA,T(A,HA)),U.(U),",
    "VA,YA),R(A-KARA,EPHA),SIGN (ANUSVARA,CANDRA,HALANTA,NUKTA,VISARGA),V(IRAMA,OWEL SIGN (A(A,I,",
    "U),E,I.(I),O,U.(U),VOCALIC R))),CULINE ORDINAL INDICATOR,K WORK SYMBOL,U MARK),T(E DRINK,",
    "HEMATICAL (BOLD (CAPITAL (A.(LPHA),B.(ETA),C.(HI),D.(ELTA,IGAMMA),E.(PSILON,TA),F,G.(AMMA),H,",
    "I.(OTA),J,K.(APPA),L.(AMDA),M.(U),N.(U),O.(M(EGA,ICRON)),P.(HI,I,SI),Q,R.(HO),S.(IGMA),T.(AU,",
    "HETA.( SYMBOL)),U.(PSILON),V,W,X.(I),Y,Z.(ETA)),DIGIT (EIGHT,F(IVE,OUR),NINE,ONE,S(EVEN,IX),",
    "T(HREE,WO),ZERO),EPSILON SYMBOL,FRAKTUR (CAPITAL (A,B,C,D,E,F,G,H,I,J,K,L,M,N,O,P,Q,R,S,T,U,",
    "V,W,X,Y,Z),SMALL (A,B,C,D,E,F,G,H,I,J,K,L,M,N,O,P,Q,R,S,T,U,V,W,X,Y,Z)),ITALIC (CAPITAL (A.(",
    "LPHA),B.(ETA),C.(HI),D.(ELTA),E.(PSILON,TA),F,G.(AMMA),H,I.(OTA),J,K.(APPA),L.(AMDA),M.(U),",
    "N.(U),O.(M(EGA,ICRON)),P.(HI,I,SI),Q,R.(HO),S.(IGMA),T.(AU,HETA.( SYMBOL)),U.(PSILON),V,W,X.(",
    "I),Y,Z.(ETA)),EPSILON SYMBOL,KAPPA SYMBOL,NABLA,P(ARTIAL DIFFERENTIAL,HI SYMBOL,I SYMBOL),",
    "RHO SYMBOL,SMALL (A.(LPHA),B.(ETA),C.(HI),D.(ELTA),E.(PSILON,TA),F.(INAL SIGMA),G.(AMMA),H,",
    "I.(OTA),J,K.(APPA),L.(AMDA),M.(U),N.(U),O.(M(EGA,ICRON)),P.(HI,I,SI),Q,R.(HO),S.(IGMA),T.(AU,",
    "HETA),U.(PSILON),V,W,X.(I),Y,Z.(ETA)),THETA SYMBOL),KAPPA SYMBOL,NABLA,P(ARTIAL DIFFERENTIAL,",
    "HI SYMBOL,I SYMBOL),RHO SYMBOL,S(CRIPT (CAPITAL (A,B,C,D,E,F,G,H,I,J,K,L,M,N,O,P,Q,R,S,T,U,V,",
    "W,X,Y,Z),SMALL (A,B,C,D,E,F,G,H,I,J,K,L,M,N,O,P,Q,R,S,T,U,V,W,X,Y,Z)),MALL (A.(LPHA),B.(ETA),",
    "C.(HI),D.(ELTA,IGAMMA),E.(PSILON,TA),F.(INAL SIGMA),G.(AMMA),H,I.(OTA),J,K.(APPA),L.(AMDA),",
    "M.(U),N.(U),O.(M(EGA,ICRON)),P.(HI,I,SI),Q,R.(HO),S.(IGMA),T.(AU,HETA),U.(PSILON),V,W,X.(I),",
    "Y,Z.(ETA))),THETA SYMBOL),DOUBLE-STRUCK (CAPITAL (A,B,D,E,F,G,I,J,K,L,M,O,S,T,U,V,W,X,Y),",
    "DIGIT (EIGHT,F(IVE,OUR),NINE,ONE,S(EVEN,IX),T(HREE,WO),ZERO),SMALL (A,B,C,D,E,F,G,H,I,J,K,L,",
    "M,N,O,P,Q,R,S,T,U,V,W,X,Y,Z)),F(ALLING DIAGONAL,RAKTUR (CAPITAL (A,B,D,E,F,G,J,K,L,M,N,O,P,Q,",
    "S,T,U,V,W,X,Y),SMALL (A,B,C,D,E,F,G,H,I,J,K,L,M,N,O,P,Q,R,S,T,U,V,W,X,Y,Z))),ITALIC (",
    "CAPITAL (A.(LPHA),B.(ETA),C.(HI),D.(ELTA),E.(PSILON,TA),F,G.(AMMA),H,I.(OTA),J,K.(APPA),L.(",
    "AMDA),M.(U),N.(U),O.(M(EGA,ICRON)),P.(HI,I,SI),Q,R.(HO),S.(IGMA),T.(AU,HETA.( SYMBOL)),U.(",
    "PSILON),V,W,X.(I),Y,Z.(ETA)),EPSILON SYMBOL,KAPPA SYMBOL,NABLA,P(ARTIAL DIFFERENTIAL,",
    "HI SYMBOL,I SYMBOL),RHO SYMBOL,SMALL (A.(LPHA),B.(ETA),C.(HI),D.(ELTA,OTLESS (I,J)),E.(",
    "PSILON,TA),F.(INAL SIGMA),G.(AMMA),I.(OTA),J,K.(APPA),L.(AMDA),M.(U),N.(U),O.(M(EGA,ICRON)),",
    "P.(HI,I,SI),Q,R.(HO),S.(IGMA),T.(AU,HETA),U.(PSILON),V,W,X.(I),Y,Z.(ETA)),THETA SYMBOL),",
    "LEFT (ANGLE BRACKET,DOUBLE ANGLE BRACKET,FLATTENED PARENTHESIS,WHITE (SQUARE BRACKET,",
    "TORTOISE SHELL BRACKET)),MONOSPACE (CAPITAL (A,B,C,D,E,F,G,H,I,J,K,L,M,N,O,P,Q,R,S,T,U,V,W,X,",
    "Y,Z),DIGIT (EIGHT,F(IVE,OUR),NINE,ONE,S(EVEN,IX),T(HREE,WO),ZERO),SMALL (A,B,C,D,E,F,G,H,I,J,",
    "K,L,M,N,O,P,Q,R,S,T,U,V,W,X,Y,Z)),RI(GHT (ANGLE BRACKET,DOUBLE ANGLE BRACKET,",
    "FLATTENED PARENTHESIS,WHITE (SQUARE BRACKET,TORTOISE SHELL BRACKET)),SING DIAGONAL),S(",
    "ANS-SERIF (BOLD (CAPITAL (A.(LPHA),B.(ETA),C.(HI),D.(ELTA),E.(PSILON,TA),F,G.(AMMA),H,I.(",
    "OTA),J,K.(APPA),L.(AMDA),M.(U),N.(U),O.(M(EGA,ICRON)),P.(HI,I,SI),Q,R.(HO),S.(IGMA),T.(AU,",
    "HETA.( SYMBOL)),U.(PSILON),V,W,X.(I),Y,Z.(ETA)),DIGIT (EIGHT,F(IVE,OUR),NINE,ONE,S(EVEN,IX),",
    "T(HREE,WO),ZERO),EPSILON SYMBOL,ITALIC (CAPITAL (A.(LPHA),B.(ETA),C.(HI),D.(ELTA),E.(PSILON,",
    "TA),F,G.(AMMA),H,I.(OTA),J,K.(APPA),L.(AMDA),M.(U),N.(U),O.(M(EGA,ICRON)),P.(HI,I,SI),Q,R.(",
    "HO),S.(IGMA),T.(AU,HETA.( SYMBOL)),U.(PSILON),V,W,X.(I),Y,Z.(ETA)),EPSILON SYMBOL,",
    "KAPPA SYMBOL,NABLA,P(ARTIAL DIFFERENTIAL,HI SYMBOL,I SYMBOL),RHO SYMBOL,SMALL (A.(LPHA),B.(",
    "ETA),C.(HI),D.(ELTA),E.(PSILON,TA),F.(INAL SIGMA),G.(AMMA),H,I.(OTA),J,K.(APPA),L.(AMDA),M.(",
    "U),N.(U),O.(M(EGA,ICRON)),P.(HI,I,SI),Q,R.(HO),S.(IGMA),T.(AU,HETA),U.(PSILON),V,W,X.(I),Y,",
    "Z.(ETA)),THETA SYMBOL),KAPPA SYMBOL,NABLA,P(ARTIAL DIFFERENTIAL,HI SYMBOL,I SYMBOL),",
    "RHO SYMBOL,SMALL (A.(LPHA),B.(ETA),C.(HI),D.(ELTA),E.(PSILON,TA),F.(INAL SIGMA),G.(AMMA),H,",
    "I.(OTA),J,K.(APPA),L.(AMDA),M.(U),N.(U),O.(M(EGA,ICRON)),P.(HI,I,SI),Q,R.(HO),S.(IGMA),T.(AU,",
    "HETA),U.(PSILON),V,W,X.(I),Y,Z.(ETA)),THETA SYMBOL),CAPITAL (A,B,C,D,E,F,G,H,I,J,K,L,M,N,O,P,",
    "Q,R,S,T,U,V,W,X,Y,Z),DIGIT (EIGHT,F(IVE,OUR),NINE,ONE,S(EVEN,IX),T(HREE,WO),ZERO),ITALIC (",
    "CAPITAL (A,B,C,D,E,F,G,H,I,J,K,L,M,N,O,P,Q,R,S,T,U,V,W,X,Y,Z),SMALL (A,B,C,D,E,F,G,H,I,J,K,L,",
    "M,N,O,P,Q,R,S,T,U,V,W,X,Y,Z)),SMALL (A,B,C,D,E,F,G,H,I,J,K,L,M,N,O,P,Q,R,S,T,U,V,W,X,Y,Z)),",
    "CRIPT (CAPITAL (A,C,D,G,J,K,N,O,P,Q,S,T,U,V,W,X,Y,Z),SMALL (A,B,C,D,F,H,I,J,K,L,M,N,P,Q,R,S,",
    "T,U,V,W,X,Y,Z))))),XIMIZE,YAN NUMERAL (E(IGHT.(EEN),LEVEN),F(I(FTEEN,VE),OUR.(TEEN)),NINE.(",
    "TEEN),ONE,S(EVEN.(TEEN),IX.(TEEN)),T(EN,H(IRTEEN,REE),W(ELVE,O)),ZERO)),E(A(SURED (ANGLE.( (",
    "OPENING LEFT,WITH OPEN ARM ENDING IN ARROW POINTING (DOWN AND (LEFT,RIGHT),LEFT AND (DOWN,",
    "UP),RIGHT AND (DOWN,UP),UP AND (LEFT,RIGHT)))),BY,RIGHT ANGLE WITH DOT),T ON BONE),CHANICAL (",
    "ARM,LEG),D(EFAIDRIN (C(APITAL LETTER (A.(I,TIU),B,C,D,E,F,G,HP,I,J,K.(P),L,M,N.(Y),O.(E),P,Q,",
    "R,S,T,U,V,W,X,Y.(U),Z),OMMA),DIGIT (EIGHT,F(IVE,OUR),NINE,ONE.( ALTERNATE FORM),S(EVEN,IX),T(",
    "HREE.( ALTERNATE FORM),WO.( ALTERNATE FORM)),ZERO),EXCLAMATION OH,FULL STOP,NUMBER (E(",
    "IGHTEEN,LEVEN),F(IFTEEN,OURTEEN),NINETEEN,S(EVENTEEN,IXTEEN),T(EN,HIRTEEN,WELVE)),S(",
    "MALL LETTER (A.(I,TIU),B,C,D,E,F,G,HP,I,J,K.(P),L,M,N.(Y),O.(E),P,Q,R,S,T,U,V,W,X,Y.(U),Z),",
    "YMBOL AIVA)),I(EVAL (COMMA,EXCLAMATION MARK,QUESTION MARK),UM (B(LACK CIRCLE,",
    "OLD WHITE CIRCLE),EIGHT (POINTED BLACK STAR,SPOKED ASTERISK),F(IVE SPOKED ASTERISK,LATTENED (",
    "LEFT PARENTHESIS ORNAMENT,RIGHT PARENTHESIS ORNAMENT),OUR POINTED (BLACK STAR,",
    "PINWHEEL STAR)),GREEK CROSS,LEFT( (CURLY BRACKET ORNAMENT,PARENTHESIS ORNAMENT),",
    "-POINTING ANGLE BRACKET ORNAMENT),MATHEMATICAL SPACE,RIGHT( (CURLY BRACKET ORNAMENT,",
    "PARENTHESIS ORNAMENT),-POINTING ANGLE BRACKET ORNAMENT),S(ALTIRE,HADE,IX (POINTED BLACK STAR,",
    "SPOKED ASTERISK),MALL WHITE CIRCLE),THREE POINTED (BLACK STAR,PINWHEEL STAR),VERTICAL BAR,",
    "WHITE (CIRCLE,SQUARE)))),ETEI MAYEK (A(HANG KHUDAM,NJI,PUN IYEK),CHEIKH(AN,EI),DIGIT (EIGHT,",
    "F(IVE,OUR),NINE,ONE,S(EVEN,IX),T(HREE,WO),ZERO),L(ETTER (ATIYA,B(A,HAM),CH(A,IL),D(D(A,HA),",
    "HOU,IL),E,G(HOU,OK),HUK,I.( LONSUM),J(HAM,IL),K(HOU,OK.( LONSUM)),LAI.( LONSUM),MIT.(",
    " LONSUM),N(A.( LONSUM),GOU.( LONSUM),NA,YA),O,P(A.( LONSUM),HAM),RAI,S(AM,HA,SA),T(HOU,IL.(",
    " LONSUM),T(A,HA)),UN,WAI,YANG),UM IYEK),SYLLABLE REPETITION MARK,V(IRAMA,OWEL SIGN (A(A(I,U),",
    "NAP,U),CHEINAP,I(I,NAP),NUNG,ONAP,SOUNAP,U(NAP,U),VISARGA,YENAP)),WORD REPETITION MARK),L(ON,",
    "TING FACE),MO,N(DE KIKAKUI (COMBINING NUMBER (HUNDRED( THOUSANDS,S),MILLIONS,T(E(ENS,N(",
    " THOUSANDS,S)),HOUSANDS)),DIGIT (EIGHT,F(IVE,OUR),NINE,ONE,S(EVEN,IX),T(HREE,WO)),SYLLABLE M(",
    "0(0(1 KI,2 KA,3 KU,4 WI,5 WA,6 WU,7 MIN,8 MAN,9 MUN),1(0 BI,1 BA,2 BU,3 I,4 A,5 U,6 DI,7 DA,",
    "8 DU,9 SI),2(0 SA,1 SU,2 TI,3 TA,4 TU,5 LI,6 LA,7 LU,8 JI,9 JA),3(0 JU,1 YI,2 YA,3 YU,4 FI,",
    "5 FA,6 FU,7 NIN,8 NAN,9 NUN),4(0 HEE,1 HA,2 HOO,3 NGGA,4 KPEE,5 WO,6 HUAN,7 MBEE,8 KO,9 WVA),",
    "5(0 PU,1 PE,2 HEN,3 HIN,4 LOO,5 TE,6 GBA,7 NGON,8 NYAN,9 MEN),6(0 NYON,1 WVI,2 MBA,3 JO,",
    "4 NDO,5 KEE,6 PO,7 NDOO,8 PI,9 TO),7(0 GBO,1 GBOO,2 MBE,3 LE,4 KPU,5 FE,6 KOO,7 VO,8 FEE,",
    "9 SO),8(0 YE,1 PEE,2 NGGU,3 HEEI,4 LEE,5 VE,6 LONG NGGE,7 HUN,8 FO,9 DEE),9(0 NGGI,1 TEE,",
    "2 KPA,3 GBEE,4 MON,5 KE,6 HE,7 BE,8 NYEN,9 PA)),1(0(0 E,1 FAN,2 POO,3 BOO,4 TOO,5 LONG MBOO,",
    "6 LONG NGGOO,7 GBE,8 KPE,9 YEE),1(0 LONG LE,1 GA,2 KPOO,3 JE,4 WOO,5 NGGEE,6 SE,7 NEN,8 WE,",
    "9 NDE),2(0 NGGO,1 YO,2 MBU,3 NDI,4 GBI,5 NDU,6 WEE,7 NGGUA,8 HOOU,9 NDA),3(0 HAN,1 IN,2 KPI,",
    "3 FOO,4 NJOO,5 IN,6 SOO,7 EI,8 BO,9 WVE),4(0 HO,1 YOO,2 LONG MBO,3 WEI,4 VOO,5 MBI,6 NGGE,",
    "7 O,8 GBU,9 NJEE),5(0 BEE,1 VU,2 NJA,3 LO,4 MUAN,5 GI,6 NGGOO,7 JEE,8 KPO,9 NGGAA),6(0 JOO,",
    "1 LONG MBE,2 SEE,3 EE,4 NYIN,5 OO,6 GUEI,7 GUAN,8 GU,9 NON),7(0 NYUN,1 RA,2 MBOO,3 VEE,4 MBO,",
    "5 LONG JO,6 HI,7 NGUAN,8 EN,9 KUA),8(0 DOO,1 DO,2 VI,3 LONG NGGO,4 NGEN,5 VA,6 HU,7 MBUU,",
    "8 MBEE,9 MUEN),9(0 GEE,1 NDEE,2 NJU,3 HON,4 WUI,5 AN,6 SIA,7 FUA)))),ORAH WITH NINE BRANCHES,",
    "S SYMBOL),R(CURY,OITIC (CURSIVE (FRACTION (E(IGHT TWELFTHS,LEVEN TWELFTHS),F(IVE TWELFTHS,",
    "OUR TWELFTHS),NINE TWELFTHS,ONE (HALF,TWELFTH),S(EVEN TWELFTHS,IX TWELFTHS),T(EN TWELFTHS,",
    "HREE TWELFTHS,WO TWELFTHS)),L(ETTER (A.(RCHAIC SA),BA,DA,E,HHA,I,K(A,HA),LA,MA,N(A,E),O,PA,",
    "QA,RA,S(A,E),T(A,E,O),WA,YA),OGOGRAM (IMN,RMT)),NUMBER (EIGHT.( (HUNDRED.( THOUSAND),",
    "THOUSAND),Y THOUSAND),F(I(FTY.( THOUSAND),VE.( (HUNDRED.( THOUSAND),THOUSAND))),O(RTY.(",
    " THOUSAND),UR.( (HUNDRED.( THOUSAND),THOUSAND)))),NINE.( (HUNDRED.( THOUSAND),THOUSAND),",
    "TY THOUSAND),ONE.( (HUNDRED.( THOUSAND),THOUSAND)),S(EVEN.( (HUNDRED.( THOUSAND),THOUSAND),",
    "TY.( THOUSAND)),IX.( (HUNDRED.( THOUSAND),THOUSAND),TY.( THOUSAND))),T(EN.( THOUSAND),H(",
    "IRTY.( THOUSAND),REE.( (HUNDRED.( THOUSAND),THOUSAND))),W(ENTY.( THOUSAND),O.( (HUNDRED.(",
    " THOUSAND),THOUSAND)))))),HIEROGLYPHIC (LETTER (A,BA.(-2),DA,E,HHA,I,K(A,HA),LA,MA,N(A.(-2),",
    "E.(-2)),O,PA,QA,RA.(-2),S(A.(-2),E),T(A.(-2),E.(-2),O),WA,YA),SYMBOL VIDJ.(-2))),PERSON),TR(",
    "ICAL (BREVE,LONG OVER (SHORT,TWO SHORTS),PENTASEME,SHORT OVER LONG,T(ETRASEME,RISEME,",
    "WO SHORTS (JOINED,OVER LONG))),O)),I(AO (LETTER (A(H,RCHAIC (MA,N(A,GA),ZZA)),B(A,RI),D(A,DA,",
    "LH(A,YA),Z(A,HA,YI,ZA)),FA,G(A,H(A,HA)),H(A,HA),KA,L(A,H(A,YA),YA),M(A,HA),N(A.(SALIZATION),",
    "G(A,HA),HA,N(A,HA),Y(A,HA)),P(A,LA),Q(A,GA),R(EFORMED T(ONE-(1,2,4,5,6,8),SHA),TE),S(A,HA,SA,",
    "YI),T(A,E,LH(A,YA),ONE-(2,3,4,5,6,7,8),S(A,E,HA,SA),TA),V(A,FA),WA,XA,YI (DZHA,KA,NNA,PA,T(A,",
    "S(A,HA),TA)),Z(A,HA,S(A,HA),Z(A,S(A,YA),YA))),SIGN (ASPIRATION,CONSONANT MODIFIER BAR,",
    "REFORMED (ASPIRATION,VOICING)),TONE (ABOVE,BELOW,RIGHT,TOP RIGHT),VOWEL SIGN (A.(A,E.(E),HH,",
    "I,N.(G),U),E.(A,I,N.(G),R.(R)),I.(A.(N.(G)),E,G,I,NG,O.(NG),U),N.(G),O.(E(R,Y),G,O,U),",
    "ROUNDED ER.(R),U.(A.(N.(G)),EI,I,NG,OG,U),VW,W.(O),Y.(I,UI))),CRO( SIGN,BE,PHONE,SCOPE),D(",
    "DLE (DOT,LEFT ONE QUARTER BLOCK,RIGHT ONE QUARTER BLOCK,THIRD (INDUCTOR,",
    "WHITE RIGHT POINTING INDEX)),LINE HORIZONTAL ELLIPSIS),L(ITARY (HELMET,MEDAL),KY WAY,L SIGN),",
    "N(I(BUS,DISC,MIZE),US( (SIGN.( (IN TRIANGLE,WITH (COMMA ABOVE,DOT BELOW,FALLING DOTS,",
    "RISING DOTS))),TILDE),-OR-PLUS SIGN),Y),RROR.( BALL)),O(BILE PHONE.( (OFF,",
    "WITH RIGHTWARDS ARROW AT LEFT)),D(E(LS,RN PENTATHLON),I( (ABBREVIATION SIGN,D(ANDA,IGIT (",
    "EIGHT,F(IVE,OUR),NINE,ONE,S(EVEN,IX),T(HREE,WO),ZERO),OUBLE DANDA),LETTER (A.(A,I,U),B(A,HA),",
    "C(A,HA),D(A,D(A,HA),HA),E,G(A,HA),HA,I.(I),J(A,HA),K(A,HA),L(A,LA),MA,N(A,GA,NA,YA),O,P(A,",
    "HA),RA,S(A,HA,SA),T(A,HA,T(A,HA)),U.(U),V(A,OCALIC (L.(L),R.(R))),YA),SIGN (A(NUSVARA,",
    "RDHACANDRA),HUVA,VI(RAMA,SARGA)),VOWEL SIGN (A(A,I,U),E,I.(I),O,U.(U),VOCALIC (L.(L),R.(",
    "R)))),FIER (BREVE WITH INVERTED BREVE,LETTER (A(CUTE ACCENT,LVEOLAR CLICK,POSTROPHE),B(EGIN (",
    "HIGH TONE,LOW TONE),ILABIAL CLICK),C(APITAL (A.(E),B.(ARRED B),C,D,E,F,G,H.( WITH STROKE),I,",
    "J,K,L,M,N,O.(U),P,Q,R.(EVERSED (E,N)),T,U,V,W),ENTRED (LEFT HALF RING,RIGHT HALF RING),",
    "HINESE TONE Y(ANG (PING,QU,RU,SHANG),IN (PING,QU,RU,SHANG)),IRCUMFLEX ACCENT,OLON,",
    "ROSS ACCENT,YRILLIC (EN,HARD SIGN,S(MALL (A,B(ARRED O,E,YELORUSSIAN-UKRAINIAN I),CHE,D(E,",
    "ZZE),E.(F,L,M,R,S.( WITH DESCENDER)),GHE,HA,I.(E),JE,KA,O,P(ALOCHKA,E),S(CHWA,HA,TRAIGHT U.(",
    " WITH STROKE)),T(E,SE),U,VE,Y(ERU.( WITH BACK YER),U),Z(E,HE)),OFT SIGN))),D(ENTAL CLICK,O(",
    "T (HORIZONTAL BAR,SLASH,VERTICAL BAR),UBLE (APOSTROPHE,PRIME),WN (ARROWHEAD,TACK))),E(ND (",
    "HIGH TONE,LOW TONE),XTRA-(HIGH (DOTTED (LEFT-STEM TONE BAR,TONE BAR),LEFT-STEM TONE BAR,",
    "TONE BAR),LOW (DOTTED (LEFT-STEM TONE BAR,TONE BAR),LEFT-STEM TONE BAR,TONE BAR))),G(",
    "EORGIAN NAR,LOTTAL STOP.( WITH STROKE),RAVE ACCENT),H(ALF TRIANGULAR COLON,IGH (DOTTED (",
    "LEFT-STEM TONE BAR,TONE BAR),LEFT-STEM TONE BAR,TONE BAR)),L(ATERAL CLICK,EFT (ARROWHEAD,",
    "HALF RING,TACK),OW( (ACUTE ACCENT,CIRCUMFLEX ACCENT,DO(TTED (LEFT-STEM TONE BAR,TONE BAR),",
    "WN ARROWHEAD),GRAVE ACCENT,INVERTED EXCLAMATION MARK,LEFT( ARROW.(HEAD),-STEM TONE BAR),",
    "MACRON,RI(GHT ARROWHEAD,NG),T(ILDE,ONE BAR),UP ARROWHEAD,VERTICAL LINE),",
    "ER RIGHT CORNER ANGLE)),M(ACRON,I(D( (DOTTED (LEFT-STEM TONE BAR,TONE BAR),",
    "LEFT-STEM TONE BAR,TONE BAR),DLE (DOUBLE (ACUTE ACCENT,GRAVE ACCENT),GRAVE ACCENT)),",
    "NUS SIGN)),OPEN SHELF,P(LUS SIGN,RIME),R(AISED (COLON,DOWN ARROW,EXCLAMATION MARK,",
    "INVERTED EXCLAMATION MARK,UP ARROW),E(TROFLEX CLICK WITH RETROFLEX HOOK,VERSED (COMMA,",
    "GLOTTAL STOP.( WITH STROKE))),HOTIC HOOK,IGHT (ARROWHEAD,HALF RING,TACK)),S(H(ELF,",
    "ORT EQUALS SIGN),MALL (A.(E,IN,LPHA),B.( WITH HOOK,ARRED O,ETA,OTTOM HALF O),C.( WITH CURL,",
    "APITAL (AA,B,G.( WITH HOOK),H,I.( WITH STROKE,NVERTED R),L.( WITH BELT),N,OE,R,U,Y),HI,",
    "LOSED (OMEGA,REVERSED OPEN E)),D.( WITH (HOOK.( AND TAIL),TAIL),E(LTA,ZH DIGRAPH),",
    "OTLESS J WITH STROKE.( AND HOOK),Z DIGRAPH.( WITH (CURL,RETROFLEX HOOK))),E.(NG,SH,TH,ZH),F.(",
    "ENG DIGRAPH),G.( WITH HOOK,AMMA,REEK (GAMMA,PHI)),H.( WITH (HOOK,STROKE),ENG.( WITH HOOK)),I(",
    " WITH STROKE,OTA),J.( WITH CROSSED-TAIL),K,L.( WITH (BELT,INVERTED LAZY S,MIDDLE TILDE,",
    "PALATAL HOOK,RETROFLEX HOOK.( AND BELT)),EZH.( WITH RETROFLEX HOOK),IGATURE OE,S DIGRAPH,",
    "Z DIGRAPH),M.( WITH HOOK),N WITH (LEFT HOOK,RETROFLEX HOOK),O.( WITH STROKE,PEN (E,O)),P.(",
    "HI),Q,R.( WITH (FISHHOOK,TAIL),AMS HORN,EVERSED (E,GLOTTAL STOP,OPEN E)),S.( WITH (CURL,",
    "HOOK),C(HWA,RIPT G),IDEWAYS U),T.( WITH (PALATAL HOOK,RETROFLEX HOOK),C DIGRAPH WITH CURL,",
    "ESH DIGRAPH,HETA,OP HALF O,S DIGRAPH.( WITH RETROFLEX HOOK),URNED (A.(E,LPHA),H,I,M.(",
    " WITH LONG LEG),OPEN E,R.( WITH (HOOK,LONG LEG.( AND RETROFLEX HOOK))),V,W,Y.( WITH BELT))),",
    "U.( (BAR,WITH LEFT HOOK),PSILON),V.( WITH (HOOK,RIGHT HOOK)),W,X,Y,Z.( WITH (CURL,",
    "RETROFLEX HOOK))),TRESS AND (HIGH TONE,LOW TONE),UPERSCRIPT (HALF TRIANGULAR COLON,",
    "TRIANGULAR COLON)),T(RIANGULAR COLON,URNED COMMA),U(NASPIRATED,P (ARROWHEAD,TACK),S),V(",
    "ERTICAL LINE,OICING),Y(ANG DEPARTING TONE MARK,IN DEPARTING TONE MARK)))),ULO TWO SUM),N(EY(",
    " (BAG,WITH WINGS),-MOUTH FACE),GOLIAN (BIRGA.( WITH (DOUBLE ORNAMENT,ORNAMENT)),CO(LON,MMA),",
    "D(IGIT (EIGHT,F(IVE,OUR),NINE,ONE,S(EVEN,IX),T(HREE,WO),ZERO),OUBLE BIRGA WITH ORNAMENT),",
    "ELLIPSIS,F(OUR DOTS,REE VARIATION SELECTOR (FOUR,ONE,T(HREE,WO)),ULL STOP),INVERTED BIRGA.(",
    " WITH DOUBLE ORNAMENT),LETTER (A.(LI GALI (A.(H,NUSVARA ONE),BALUDA,CA,D(A.(GALGA,MARU),DA),",
    "HALF (U,YA),I.(NVERTED UBADAMA),KA,N(GA,NA),P(A,HA),SSA,T(A,HREE BALUDA,T(A,HA)),UBADAMA,",
    "VISARGA ONE,Z(A,HA)),NG),BA,CH(A.( WITH TWO DOTS),I),DA,E.(E),FA,GA,HAA,I,JA,K(A,HA),L(A,HA),",
    "MA.(NCHU (ALI GALI (BHA,C(A,YA),D(DHA,HA),GHA,JHA,LHA,NGA,SSA,T(A,TA),Z(A,HA)),FA,I,KA,RA,",
    "ZHA)),NA,O.(E),PA,QA,RA,S(A,HA,IBE (ANG,CHA,DA,E,FA,GA.(A),HA.(A),I.(Y),JA,KA,PA,RAA,SHA,T(A,",
    "SA),U.(E),Z(A,HA))),T(A,ODO (A(LI GALI (TA,ZHA),NG),BA,CHA,D(A,ZA),E,GA.(A),HAA,I,J(A,IA),KA,",
    "LONG VOWEL SIGN,MA,NIA,O.(E),PA,QA,T(A,SA),U.(E),WA,YA),SA),U.(E),WA,YA,Z(A,HI,RA)),MANCHU (",
    "COMMA,FULL STOP),NIRUGU,ROTATED BIRGA.( WITH (DOUBLE ORNAMENT,ORNAMENT)),S(",
    "IBE SYLLABLE BOUNDARY MARKER,WIRL BIRGA.( WITH (DOUBLE ORNAMENT,ORNAMENT))),T(",
    "ODO SOFT HYPHEN,RIPLE BIRGA WITH ORNAMENT,URNED SWIRL BIRGA WITH DOUBLE ORNAMENT),",
    "VOWEL SEPARATOR),KEY.( FACE),O(GRAM FOR (EARTH,Y(ANG,IN)),RAIL,STABLE SYMBOL)),O(D BUBBLE,N (",
    "CAKE,LANDER,VIEWING CEREMONY),SE),SQU(E,ITO),T(HER CHRISTMAS,OR( (BOAT,SCOOTER),",
    "IZED WHEELCHAIR,WAY)),U(NT( FUJI,AIN.( (BICYCLIST,CABLEWAY,RAILWAY))),SE.( (FACE,TRAP)),TH),",
    "VIE CAMERA,YAI),RO (D(ANDA,IGIT (EIGHT,F(IVE,OUR),NINE,ONE,S(EVEN,IX),T(HREE,WO),ZERO),",
    "OUBLE DANDA),LETTER (A,BA,CHU,DA.(I),E.(A),HA(I,O),K(EAAE,HAI,O),LA.(N),M(AEM,IM),N(GI,IN),",
    "O.(L,O),P(A,HI),R(I,O),SHI,T(A,EK,HEA),WA,YO)),U(CH (GREATER-THAN,LESS-THAN),LT(ANI (LETTER (",
    "A,B(A,HA),C(A,HA),D(A,D(A,DA,HA),HA),E,G(A,HA),HA,I,J(A,JA),K(A,HA),LA,MA,N(A,NA,YA),P(A,HA),",
    "R(A,HA,RA),SA,T(A,HA,T(A,HA)),U,VA,YA),SECTION MARK),I(MAP,PL(E MUSICAL NOTES,ICATION (SIGN.(",
    " (IN (DOUBLE CIRCLE,LEFT HALF CIRCLE,RIGHT HALF CIRCLE,TRIANGLE),WITH (DOT ABOVE,UNDERBAR))),",
    "X)),SET.( (MULTIPLICATION,UNION)))),S(HROOM.( CLOUD),IC( (FLAT SIGN,NATURAL SIGN,SHARP SIGN),",
    "AL (KEYBOARD.( WITH JACKS),NOTE,S(CORE,YMBOL (ARPEGGIATO (DOWN,UP),B(EGIN (BEAM,PHRASE,SLUR,",
    "TIE),R(AC(E,KET),E(ATH MARK,V(E,IS.( REST))))),C( CLEF,AESURA,IRCLE X NOTEHEAD,L(I(MACUS,",
    "VIS),USTER NOTEHEAD (BLACK,WHITE)),O(DA,M(BINING (A(CCENT.(-STACCATO),UGMENTATION DOT),BEND,",
    "DO(IT,UBLE TONGUE,WN BOW),FL(AG-(1,2,3,4,5),IP),HARMONIC,LOURE,MARCATO.(-STACCATO),RIP,S(",
    "MEAR,NAP PIZZICATO,PRECHGESANG STEM,T(ACCAT(ISSIMO,O),EM)),T(ENUTO,R(EMOLO-(1,2,3),",
    "IPLE TONGUE)),UP BOW),MON TIME)),R(ESCENDO,OIX),UT TIME),D(A( CAPO,L SEGNO,MP.( ALL),",
    "SHED BARLINE),E(CRESCENDO,GREE SLASH),OUBLE (BARLINE,FLAT,SHARP),RUM CLEF-(1,2)),E(IGHTH (",
    "NOTE,REST),ND (BEAM,OF STIMME,PHRASE,SLUR,TIE)),F( CLEF.( OTTAVA (ALTA,BASSA)),ERMATA.(",
    " BELOW),I(N(AL BARLINE,GERED TREMOLO-(1,2,3)),VE-LINE STAFF),LAT (DOWN,UP),O(RTE,UR-(",
    "LINE STAFF,STRING FRETBOARD)),USA (BLACK,WHITE)),G( CLEF.( OTTAVA (ALTA,BASSA)),LISSANDO (",
    "DOWN,UP),R(ACE NOTE (NO SLASH,SLASH),EGORIAN (C CLEF,F CLEF))),HA(LF (NOTE,PEDAL MARK,REST),",
    "UPTSTIMME),INVERTED TURN,K(IEVAN (C CLEF,E(IGHTH NOTE STEM (DOWN,UP),ND OF PIECE),F(",
    "INAL NOTE,LAT SIGN),HALF NOTE,QUARTER NOTE STEM (DOWN,UP),RECITATIVE MARK,WHOLE NOTE),ORON),",
    "L(EFT REPEAT SIGN,ONGA.( (IMPERFECTA REST,PERFECTA REST))),M(AXIMA,EZZO,INIMA.( (BLACK,",
    "REST)),OON NOTEHEAD (BLACK,WHITE),ULTI( REST,PLE MEASURE REST)),N(ATURAL (DOWN,UP),",
    "EBENSTIMME,OTEHEAD BLACK,ULL NOTEHEAD),O(NE( HUNDRED TWENTY-EIGHTH (NOTE,REST),-LINE STAFF),",
    "RNAMENT STROKE-(1.(0,1),2,3,4,5,6,7,8,9),TTAVA (ALTA,BASSA)),P(ARENTHESIS NOTEHEAD,E(DAL (",
    "MARK,UP MARK),S SUBPUNCTIS),IANO,LUS NOTEHEAD,O(DATUS,RRECTUS.( FLEXUS))),QU(ARTER (NOTE,",
    "REST,TONE (FLAT,SHARP)),INDICESIMA (ALTA,BASSA)),R(E(PEAT( DOTS,ED FIGURE-(1,2,3)),",
    "VERSE FINAL BARLINE),I(GHT REPEAT SIGN,NFORZANDO)),S(CANDICUS.( FLEXUS),E(GNO,MI(BREVIS (",
    "BLACK,REST,WHITE),MINIMA (BLACK,REST,WHITE))),H(ARP (DOWN,UP),ORT BARLINE),I(NGLE BARLINE,X(",
    "-(LINE STAFF,STRING FRETBOARD),T(EENTH (NOTE,REST),Y-FOURTH (NOTE,REST)))),ORI,QUARE (B,",
    "NOTEHEAD (BLACK,WHITE)),UBITO),T(EMPUS (IMPERFECTUM CUM PROLATIONE (IMPERFECTA.( DIMINUTION-(",
    "1,2,3)),PERFECTA),PERFECTUM CUM PROLATIONE (IMPERFECTA,PERFECTA.( DIMINUTION-1))),H(",
    "IRTY-SECOND (NOTE,REST),REE-LINE STAFF),ORCULUS.( RESUPINUS),R.(IANGLE( NOTEHEAD (DOWN (",
    "BLACK,WHITE),LEFT (BLACK,WHITE),RIGHT (BLACK,WHITE),UP (BLACK,RIGHT (BLACK,WHITE),WHITE)),",
    "-ROUND NOTEHEAD DOWN (BLACK,WHITE))),URN.( (SLASH,UP)),WO-LINE STAFF),V(IRGA,OID NOTEHEAD),W(",
    "HOLE (NOTE,REST),ITH FINGERNAILS),X NOTEHEAD,Z)))))),YANMAR (CONSONANT SIGN (M(EDIAL (HA,RA,",
    "WA,YA),ON MEDIAL (LA,MA,NA)),SHAN MEDIAL WA),DIGIT (EIGHT,F(IVE,OUR),NINE,ONE,S(EVEN,IX),T(",
    "HREE,WO),ZERO),EASTERN PWO KAREN DIGIT (EIGHT,F(IVE,OUR),NINE,ONE,S(EVEN,IX),T(HREE,WO),",
    "ZERO),L(ETTER (A.(ITON RA,U),B(A,HA),C(A,HA),D(A,D(A,HA),HA),E.(ASTERN PWO KAREN (GHWA,NNA,",
    "YWA)),G(A,HA,REAT SA),HA,I.(I),J(A,HA),K(A,HA.(MTI (C(A,HA),D(D(A,HA),HA),FA,GA,H(A,HA),J(A,",
    "HA),N(A,YA),RA,SA,TT(A,HA),XA,ZA))),L(A,LA),M(A,ON (BB(A,E),E,JHA,NGA)),N(A,GA,N(A,YA),YA),O,",
    "P(A,HA),R(A,UMAI PALAUNG FA),S(A,GAW KAREN SHA,H(A.(N (A,B(A,HA),C(A,HA),DA,FA,G(A,HA),HA,",
    "JHA,K(A,HA),N(A,NA,YA),PHA,THA,ZA)),WE PALAUNG (CHA,SHA)),SA),T(A.(I LAING (B(A,HA),D(A,D(A,",
    "HA),HA),FA,G(A,HA),J(A,HA),LLA,N(NA,YA))),HA,T(A,HA)),U.(U),VOCALIC (L.(L),R.(R)),W(A,",
    "ESTERN PWO KAREN (PWA,THA)),YA),OGOGRAM KHAMTI (HM,OAY,QN)),MODIFIER LETTER (",
    "KHAMTI REDUPLICATION,SHAN REDUPLICATION),PAO DIGIT (EIGHT,F(IVE,OUR),NINE,ONE,S(EVEN,IX),T(",
    "HREE,WO),ZERO),S(HAN DIGIT (EIGHT,F(IVE,OUR),NINE,ONE,S(EVEN,IX),T(HREE,WO),ZERO),IGN (A(",
    "NUSVARA,SAT),DOT BELOW,KHAMTI TONE-(1,3),LITTLE SECTION,PAO KAREN TONE,RUMAI PALAUNG TONE-5,",
    "S(ECTION,HAN (COUNCIL (EMPHATIC TONE,TONE-(2,3)),SAW,TONE-(2,3,5,6))),TAI LAING TONE-(2,5),",
    "VI(RAMA,SARGA),WESTERN PWO KAREN TONE-(1,2,3,4,5)),YMBOL (A(FOREMENTIONED,ITON (EXCLAMATION,",
    "ONE,TWO)),COMPLETED,GENITIVE,LOCATIVE,SHAN (EXCLAMATION,ONE))),T(AI LAING DIGIT (EIGHT,F(IVE,",
    "OUR),NINE,ONE,S(EVEN,IX),T(HREE,WO),ZERO),ONE MARK SGAW KAREN (HATHI,KE PHO)),VOWEL SIGN (A(",
    "A,I.(TON A.(I))),E.( ABOVE),GEBA KAREN I,I.(I),KAYAH (EE,OE,U),MON (II,O),S(GAW KAREN EU,",
    "HAN (AA,E.( ABOVE),FINAL Y)),TALL AA,U.(U),VOCALIC (L.(L),R.(R)),WESTERN PWO KAREN (EU,",
    "UE)))),N(-ARY (C(IRCLED (DOT OPERATOR,PLUS OPERATOR,TIMES OPERATOR),OPRODUCT),INTERSECTION,",
    "LOGICAL (AND,OR),PRODUCT,S(QUARE (INTERSECTION OPERATOR,UNION OPERATOR),UMMATION),",
    "TIMES OPERATOR,UNION.( OPERATOR WITH (DOT,PLUS)),WHITE VERTICAL BAR),A(B(ATAEAN (",
    "CRUCIFORM NUMBER FOUR,LETTER (A(LEPH,YIN),BETH,DALETH,FINAL (ALEPH,BETH,HE,KAPH,LAMEDH,MEM,",
    "NUN,SHIN,YODH),GIMEL,HE.(TH),KAPH,LAMEDH,MEM,NUN,PE,QOPH,RESH,S(A(DHE,MEKH),HIN),T(AW,ETH),",
    "WAW,YODH,ZAYIN),NUMBER (F(IVE,OUR),ONE.( HUNDRED),T(EN,HREE,W(ENTY,O)))),LA),G MUNDARI (",
    "DIGIT (EIGHT,F(IVE,OUR),NINE,ONE,S(EVEN,IX),T(HREE,WO),ZERO),LETTER (A.(B,H,J,NY),E.(G,LL,M,",
    "N.(N),TT),I.(DD,H,S,T),O.(L,NG,P,Y),U.(C,D,K,R)),SIGN (IKIR,MUHOR,OJOD,SUTUH,TOYOR)),I(",
    "L POLISH,RA SIGN),ME BADGE,ND.(INAGARI (HEADSTROKE,LETTER (A.(A,I,U),B(A,HA),C(A,HA),D(A,D(A,",
    "HA),HA),E,G(A,HA),HA,I.(I),J(A,HA),K(A,HA),L(A,LA),MA,N(A,GA,NA,YA),O,P(A,HA),R(A,RA),S(A,HA,",
    "SA),T(A,HA,T(A,HA)),U.(U),V(A,OCALIC R.(R)),YA),SIGN (A(NUSVARA,VAGRAHA),SIDDHAM,VI(RAMA,",
    "SARGA)),VOWEL SIGN (A(A,I,U),E,I.(I),O,PRISHTHAMATRA E,U.(U),VOCALIC R.(R)))),",
    "RROW NO-BREAK SPACE,TIONAL (DIGIT SHAPES,PARK),USEATED FACE,ZAR AMULET),E(CKTIE,GAT(",
    "ED DOUBLE VERTICAL BAR DOUBLE RIGHT TURNSTILE,IVE (CIRCLED (DIGIT ZERO,LATIN CAPITAL LETTER (",
    "A,B,C,D,E,F,G,H,I,J,K,L,M,N,O,P,Q,R,S,T,U,V,W,X,Y,Z),NUMBER (E(IGHTEEN,LEVEN),F(IFTEEN,",
    "OURTEEN),NINETEEN,S(EVENTEEN,IXTEEN),T(HIRTEEN,WE(LVE,NTY))),SQUARE,TRIANGLE),DIAGONAL (",
    "CROSS,DIAMOND,MIDDLE RIGHT TO LOWER CENTRE),SQUARED (AB,CROSS MARK,DOWNWARDS ARROW,IC,L(",
    "ATIN CAPITAL LETTER (A,B,C,D,E,F,G,H,I,J,K,L,M,N,O,P,Q,R,S,T,U,V,W,X,Y,Z),EFTWARDS ARROW),PA,",
    "QUESTION MARK,RIGHTWARDS ARROW,SA,UPWARDS ARROW,WC))),ITHER (A( SU(BSET OF NOR EQUAL TO,",
    "PERSET OF NOR EQUAL TO),PPROXIMATELY NOR ACTUALLY EQUAL TO),GREATER-THAN NOR (EQU(AL TO,",
    "IVALENT TO),LESS-THAN),LESS-THAN NOR (EQU(AL TO,IVALENT TO),GREATER-THAN)),PTUNE.( FORM TWO),",
    "RD FACE,S(SUS,T( WITH EGGS,ING DOLLS)),UT(ER,RAL (CHESS (BISHOP.( ROTATED (NINETY DEGREES,",
    "TWO HUNDRED SEVENTY DEGREES)),EQUIHOPPER.( ROTATED NINETY DEGREES),K(ING.( ROTATED (",
    "NINETY DEGREES,TWO HUNDRED SEVENTY DEGREES)),NIGHT.( ROTATED (FORTY-FIVE DEGREES,",
    "NINETY DEGREES,ONE HUNDRED THIRTY-FIVE DEGREES,T(HREE HUNDRED FIFTEEN DEGREES,WO HUNDRED (",
    "SEVENTY DEGREES,TWENTY-FIVE DEGREES))))),PAWN.( ROTATED (NINETY DEGREES,",
    "TWO HUNDRED SEVENTY DEGREES)),QUEEN.( ROTATED (NINETY DEGREES,TWO HUNDRED SEVENTY DEGREES)),",
    "ROOK.( ROTATED (NINETY DEGREES,TWO HUNDRED SEVENTY DEGREES)),TURNED (BISHOP,K(ING,NIGHT),",
    "PAWN,QUEEN,ROOK)),FACE)),W( (MOON (SYMBOL,WITH FACE),SHEQEL SIGN,TAI LUE (DIGIT (EIGHT,F(IVE,",
    "OUR),NINE,ONE,S(EVEN,IX),T(HREE,WO),ZERO),LETTER (FINAL (B,D,K,M,N.(G),V),HIGH (BA,DA,FA,HA,",
    "K(A,VA),LA,MA,N(A,GA),P(A,HA),QA,S(A,UA),T(A,HA,SA),VA,X(A,VA),YA),LOW (BA,DA,FA,HA,K(A,VA),",
    "LA,MA,N(A,GA),P(A,HA),QA,S(A,UA),T(A,HA,SA),VA,X(A,VA),YA)),SIGN LAE.(V),T(HAM DIGIT ONE,",
    "ONE MARK-(1,2)),VOWEL SIGN (A(A.(Y),E,Y),E,I(I,Y),O.(A.(Y),Y),U.(E.(Y),U,Y),",
    "VOWEL SHORTENER))),A (ABBREVIATION SIGN,COMMA,D(ANDA,IGIT (EIGHT,F(IVE,OUR),NINE,ONE,S(EVEN,",
    "IX),T(HREE,WO),ZERO),OUBLE (COMMA,DANDA)),GAP FILLER,INSERTION SIGN,LETTER (A.(A,I,U),B(A,",
    "HA),C(A,HA),D(A,D(A,HA),HA),E,G(A,HA),HA,I.(I),J(A,HA),K(A,HA),L(A,HA),M(A,HA),N(A,G(A,HA),",
    "HA,NA,Y(A,HA)),O,P(A,HA),R(A,HA),S(A,HA,SA),T(A,HA,T(A,HA)),U.(U),V(EDIC ANUSVARA,OCALIC (L.(",
    "L),R.(R))),WA,YA),OM,PLACEHOLDER MARK,S(ANDHI MARK,I(DDHI,GN (A(NUSVARA,VAGRAHA),CANDRABINDU,",
    "FINAL ANUSVARA,JIHVAMULIYA,NUKTA,UPADHMANIYA,VI(RAMA,SARGA)))),VOWEL SIGN (A(A,I,U),E,I.(I),",
    "O,U.(U),VOCALIC (L.(L),R.(R)))),LINE (LEFT,RIGHT),SPAPER),XT PAGE),I(GHT WITH STARS,N(",
    "E POINTED WHITE STAR,JA)),KO (COM(BINING (DOUBLE DOT ABOVE,LONG (DESCENDING TONE,HIGH TONE,",
    "LOW TONE,RISING TONE),NASALIZATION MARK,SHORT (HIGH TONE,LOW TONE,RISING TONE)),MA),D(",
    "ANTAYALAN,IGIT (EIGHT,F(IVE,OUR),NINE,ONE,S(EVEN,IX),T(HREE,WO),ZERO),OROME SIGN),",
    "EXCLAMATION MARK,HIGH TONE APOSTROPHE,L(AJANYALAN,ETTER (A,BA,CHA,DA.(GBASINNA),E.(E),FA,GBA,",
    "HA,I,J(A,ONA (CHA,JA,RA)),KA,LA,MA,N.(A.( WOLOSO),YA.( WOLOSO)),O.(O),PA,R(A,RA),SA,TA,U,WA,",
    "YA),OW TONE APOSTROPHE),SYMBOL (GBAKURUNEN,OO DENNEN),TAMAN SIGN),O( (BICYCLES,ENTRY.( SIGN),",
    "MOBILE PHONES,ONE UNDER EIGHTEEN SYMBOL,P(EDESTRIANS,IRACY),SMOKING SYMBOL),-BREAK SPACE,MI(",
    "NAL DIGIT SHAPES,SMA SIGN),N(-(BREAKING HYPHEN,POTABLE WATER SYMBOL),FORKING),R.(",
    "DIC MARK SIGN,MAL SUBGROUP OF.( OR EQUAL TO),TH( (EAST (A(ND SOUTH WEST ARROW,RROW.( (",
    "AND SOUTH EAST ARROW,CROSSING (NORTH WEST ARROW,SOUTH EAST ARROW),FROM BAR,WITH HOOK))),",
    "BLACK ARROW,DOUBLE ARROW,POINTING (BUD,LEAF,VINE LEAF),SANS-SERIF ARROW,",
    "TRIANGLE-HEADED ARROW.( TO BAR),WHITE ARROW),INDIC (FRACTION (ONE (EIGHTH,HALF,QUARTER,",
    "SIXTEENTH),THREE (QUARTERS,SIXTEENTHS)),PLACEHOLDER MARK,QUA(NTITY MARK,RTER MARK),",
    "RUPEE MARK),WEST (A(ND SOUTH EAST ARROW,RROW.( (AND NORTH EAST ARROW,",
    "CROSSING NORTH EAST ARROW,FROM BAR,TO (CORNER,LONG BAR),WITH HOOK))),BLACK ARROW,",
    "DOUBLE ARROW,POINTING (BUD,LEAF,VINE LEAF),SANS-SERIF ARROW,TRIANGLE-HEADED ARROW.( TO BAR),",
    "WHITE ARROW)),EAST-POINTING AIRPLANE)),SE,T( (A( SU(BSET OF,PERSET OF),LMOST EQUAL TO,",
    "N ELEMENT OF,SYMPTOTICALLY EQUAL TO),CHECK MARK,EQU(AL TO,IVALENT TO),GREATER-THAN,",
    "IDENTICAL TO,LESS-THAN,NORMAL SUBGROUP OF.( OR EQUAL TO),PARALLEL TO,S(IGN,QUARE (",
    "IMAGE OF OR EQUAL TO,ORIGINAL OF OR EQUAL TO)),T(ILDE,RUE)),CHED (L(",
    "EFT SEMICIRCLE WITH THREE DOTS,OWER RIGHT-SHADOWED WHITE RIGHTWARDS ARROW),",
    "RIGHT SEMICIRCLE WITH THREE DOTS,UPPER RIGHT-SHADOWED WHITE RIGHTWARDS ARROW),E.( PA(D,GE),",
    "BOOK.( WITH DECORATIVE COVER)))),PN TRANSISTOR,U(M(BER (E(IGHTEEN FULL STOP,LEVEN FULL STOP),",
    "F(IFTEEN FULL STOP,OURTEEN FULL STOP),NINETEEN FULL STOP,S(EVENTEEN FULL STOP,I(GN,",
    "XTEEN FULL STOP)),T(EN FULL STOP,HIRTEEN FULL STOP,WE(LVE FULL STOP,NTY FULL STOP))),",
    "ERO SIGN),SHU ITERATION MARK,T AND BOLT),YIAKENG PUACHUE HMONG (CIRCLED CA,DIGIT (EIGHT,F(",
    "IVE,OUR),NINE,ONE,S(EVEN,IX),T(HREE,WO),ZERO),L(ETTER (A.(A),CA,D(A,LA),E.(E),FA,GA,HA.(H),I,",
    "KA,LA,M(A,LA),N(A,CA,KA,P(A,LA),QA,RA,T(A,SA,XA),YA),O.(O),P(A,LA),QA,R(A,RA),SA,T(A,SA,XA),",
    "U,VA,W,X(A,YA),YA,ZA),OGOGRAM NYAJ),S(IGN (FOR (ANIMAL,INVERTEBRATE,LOCATION,PERSON,THING),",
    "XW XW),YLLABLE LENGTHENER),TONE-(B,D,G,J,M,S,V))),O(B(JECT REPLACEMENT CHARACTER,LIQUE (",
    "ANGLE OPENING (DOWN,UP),HYPHEN),SERVER EYE SYMBOL),C(CULTATION,R (AMOUNT OF CHECK,B(",
    "ELT BUCKLE,OW TIE,RANCH BANK IDENTIFICATION),C(HAIR,USTOMER ACCOUNT NUMBER),D(ASH,",
    "OUBLE BACKSLASH),FORK,HOOK,INVERTED FORK),T(AGONAL SIGN,OPUS)),DEN,FFICE BUILDING,G(HAM (",
    "FEATHER MARK,LETTER (AILM,BEITH,C(EIRT,OLL),DAIR,EA(BHADH,DHADH,MHANCHOLL),FEARN,GORT,I(FIN,",
    "ODHADH),LUIS,MUIN,N(GEADAL,ION),O(NN,R),PEITH,RUIS,S(AIL,TRAIF),TINNE,U(ATH,ILLEANN,R)),",
    "REVERSED FEATHER MARK,SPACE MARK),ONEK),HM SIGN,IL DRUM,K HAND SIGN,L( (CHIKI (AHAD,DIGIT (",
    "EIGHT,F(IVE,OUR),NINE,ONE,S(EVEN,IX),T(HREE,WO),ZERO),GAAHLAA TTUDDAAG,LETTER (A(A(J,K,M,W),",
    "G,L,NG,T),E(DD,N,P,RR),I(H,NY,R,S),L(A.(A),E,I,O,U),O(B,H,TT,V),U(C,D,NN,Y)),MU( TTUDDAG,",
    "-GAAHLAA TTUDDAAG),P(HAARKAA,UNCTUATION (DOUBLE MUCAAD,MUCAAD)),RELAA),ONAL (",
    "ABBREVIATION SIGN,DIGIT (EIGHT,F(IVE,OUR),NINE,ONE,S(EVEN,IX),T(HREE,WO),ZERO),LETTER (A.(B,",
    "D,H,L,W),E.(C,G,H,NN,S),I.(D,N,P,T.(T)),O.(M,NG,O,RR,Y),U.(DD,J,K,NY,R)),SIGN (HODDOND,IKIR,",
    "MU))),D( (CHINESE (HOOK MARK,ITERATION MARK),HUNGARIAN (CAPITAL LETTER (A.(A,K,MB,ND),",
    "CLOSE E,E.(B,C.(H,S),D,E,F,G.(Y),H,J,K,L.(Y),M.(P),N.(C,T.(-SHAPED SIGN),Y),P,R,S.(Z),T.(Y),",
    "V,Z.(S)),I.(I),NIKOLSBURG (OE,UE),O.(EE,O),RUDIMENTA (OE,UE),SHORT ER,U.(NK,S,U)),NUMBER (FI(",
    "FTY,VE),ONE.( (HUNDRED,THOUSAND)),TEN),SMALL LETTER (A.(A,K,MB,ND),CLOSE E,E.(B,C.(H,S),D,E,",
    "F,G.(Y),H,J,K,L.(Y),M.(P),N.(C,T.(-SHAPED SIGN),Y),P,R,S.(Z),T.(Y),V,Z.(S)),I.(I),",
    "NIKOLSBURG (OE,UE),O.(EE,O),RUDIMENTA (OE,UE),SHORT ER,U.(NK,S,U))),ITALIC (LETTER (A,BE,CHE,",
    "DE,E.(F,KS,L,M,N,R.(S),S.(H,S)),HE,I.(I),K(A,E,HE,U),NORTHERN TSE,O,P(E,HE),S(HE,",
    "OUTHERN TSE),T(E,HE),U.(U),VE,YE,ZE),NUMERAL (FI(FTY,VE),ONE,TEN)),KEY,NORTH ARABIAN (",
    "LETTER (A(IN,LEF),BEH,DA(D,L),ES-(1,2,3),FEH,G(EEM,HAIN),H(AH,EH),K(AF,HAH),LAM,MEEM,NOON,",
    "QAF,REH,SAD,T(AH,EH,H(AL,EH)),WAW,YEH,ZA(H,IN)),NUMBER (ONE,T(EN,WENTY))),PER(MIC LETTER (AN,",
    "BUR,CHERY,D(OI,Z(HOI,ITA)),E.(F),GAI,HA,I.(A,E),KOKE,LEI,MENOE,NENOE,O.(O),PEEI,REI,S(H(",
    "CHOOI,OOI),II),T(AI,SIU),U,V(ER,OOI),Y(A.(T),ER.(I,U),RY,U),Z(ATA,HOI)),S(IAN (NUMBER (",
    "HUNDRED,ONE,T(EN,W(ENTY,O))),SIGN (A.(URAMAZDAA.(-2,HA)),B(A.(GA),UUMISH),CA,D(A.(HYAAUSH.(",
    "-2)),I,U),FA,G(A,U),HA,I,J(A,I),K(A,U),LA,M(A,I,U),N(A,U),PA,R(A,U),S(A,HA,SA),T(A,HA,U),U,V(",
    "A,I),X(A,SHAAYATHIYA),YA,ZA),WORD DIVIDER),ONAL COMPUTER.(",
    " WITH MONITOR IN PORTRAIT ORIENTATION))),SO(GDIAN (FRACTION ONE HALF,L(ETTER (A(L(EPH,",
    "TERNATE AYIN),YIN),BETH,FINAL (ALEPH,BETH,HE,NUN.( WITH VERTICAL TAIL),SADHE.(",
    " WITH VERTICAL TAIL),TAW.( WITH VERTICAL TAIL)),GIMEL,HE.(TH),KAPH,LAMEDH,MEM,NUN,PE,",
    "RESH-AYIN-DALETH,S(A(DHE,MEKH),HIN),TAW,WAW,YODH,ZAYIN),IGATURE AYIN-DALETH),NUMBER (F(IVE,",
    "OUR),ONE.( HUNDRED),T(EN,H(IRTY,REE),W(ENTY,O)))),UTH ARABIAN (LETTER (A(LEF,YN),BETH,D(",
    "ALETH,HA(DHE,LETH)),FE,G(HAYN,IMEL),HE.(TH),K(APH,HETH),LAMEDH,MEM,NUN,QOPH,RESH,S(A(DHE,",
    "MEKH,T),HIN),T(AW,ETH,H(AW,ETH)),WAW,YODH,ZAYN),NUM(BER (FIFTY,ONE),ERIC INDICATOR))),",
    "TURKIC LETTER (ORKHON (A.(B,D,E(B,D,G,K,L,N,R,S,T,Y),G,L,N,Q,R,S.(H),T,Y),BASH,E(C,LT,M,N(C,",
    "G,T,Y),P,SH,Z),I.(C,Q),O.(E.(K),P,Q,T)),YENISEI (A.(B,D,E.(B,G,K,N.(G),T,Y),G,L,NG,Q,R,SH,T,",
    "Y),E.(C,N(C,T,Y),SH,Z),I.(Q),O(E.(K),Q))),UYGHUR (COMBINING (DOT (ABOVE,BELOW),TWO DOTS (",
    "ABOVE,BELOW)),LETTER (ALEPH,BETH,FINAL HETH,GIMEL-HETH,KAPH,L(AMEDH,ESH),MEM,NUN,PE,RESH,S(A(",
    "DHE,MEKH),HIN),TAW,WAW,YODH,ZAYIN),PUNCTUATION (BAR,FOUR DOTS,TWO (BARS,DOTS)))),ER (ADULT,",
    "MAN,WOMAN)),IVE),M SYMBOL,N( WITH EXCLAMATION MARK WITH LEFT RIGHT ARROW ABOVE,COMING (",
    "AUTOMOBILE,BUS,FIRE ENGINE,POLICE CAR,TAXI),E( (BUTTON MOUSE,DOT (LEADER,",
    "OVER TWO DOTS PUNCTUATION)),-PIECE SWIMSUIT),ION),P(EN( (BO(OK,X),CENTRE (ASTERISK,",
    "BLACK STAR,CROSS,TEARDROP-SPOKED ASTERISK),F(ILE FOLDER,OLDER),HANDS SIGN,LOCK,MAILBOX WITH (",
    "LOWERED FLAG,RAISED FLAG),SU(BSET,PERSET)),-(CIRCUIT-OUTPUT (H-TYPE SYMBOL,L-TYPE SYMBOL),",
    "OUTLINED RIGHTWARDS ARROW)),HIUCHUS,POSITION,TI(CAL DISC.( ICON),ON KEY)),R( WITH DOT INSIDE,",
    "ANG(E (BOOK,HEART),UTAN),CUS,I(GINAL OF,YA (A(I LENGTH MARK,U LENGTH MARK),DIGIT (EIGHT,F(",
    "IVE,OUR),NINE,ONE,S(EVEN,IX),T(HREE,WO),ZERO),FRACTION (ONE (EIGHTH,HALF,QUARTER,SIXTEENTH),",
    "THREE (QUARTERS,SIXTEENTHS)),ISSHAR,LETTER (A.(A,I,U),B(A,HA),C(A,HA),D(A,D(A,HA),HA),E,G(A,",
    "HA),HA,I.(I),J(A,HA),K(A,HA),L(A,LA),MA,N(A,GA,NA,YA),O,P(A,HA),R(A,HA,RA),S(A,HA,SA),T(A,HA,",
    "T(A,HA)),U.(U),V(A,OCALIC (L.(L),R.(R))),WA,Y(A,YA)),SIGN (A(NUSVARA,VAGRAHA),CANDRABINDU,",
    "NUKTA,OVERLINE,VI(RAMA,SARGA)),VOWEL SIGN (A(A,I,U),E,I.(I),O,U.(U),VOCALIC (L.(L),R.(R))))),",
    "NATE (LEFT PARENTHESIS,RIGHT PARENTHESIS),THO(DOX CROSS,GONAL CROSSHATCH FILL)),S(AGE (",
    "CAPITAL LETTER (A.(H,I.(N)),BRA,CHA,DHA,E.(H(CHA,KA,PA,T(A,SA)),IN),GHA,H(A,YA),I,K(A,HA,YA),",
    "LA,MA,NA,O.(IN),PA,S(A,HA),T(A,S(A,HA)),U,WA,Z(A,HA)),SMALL LETTER (A.(H,I.(N)),BRA,CHA,DHA,",
    "E.(H(CHA,KA,PA,T(A,SA)),IN),GHA,H(A,YA),I,K(A,HA,YA),LA,MA,NA,O.(IN),PA,S(A,HA),T(A,S(A,HA)),",
    "U,WA,Z(A,HA))),MANYA (DIGIT (EIGHT,F(IVE,OUR),NINE,ONE,S(EVEN,IX),T(HREE,WO),ZERO),LETTER (",
    "A.(A,LEF),BA,CAYN,D(EEL,HA),E.(E),FA,GA,HA,I,JA,K(AAF,HA),LAAN,MIIN,NUUN,O.(O),QAAF,RA,S(A,",
    "HIIN),TA,U,WAW,XA,YA))),TT(ER,OMAN SIYAQ (ALTERNATE NUMBER (EIGHT,F(IVE,OUR.( HUNDRED)),NINE,",
    "S(EVEN,IX.( HUNDRED)),T(EN.( THOUSAND),HREE,WO.( THOUSAND))),FRACTION ONE (HALF,SIXTH),",
    "MARRATAN,NUMBER (EIGHT.( (HUNDRED,THOUSAND),Y.( THOUSAND)),F(I(FTY.( THOUSAND),VE.( (HUNDRED,",
    "THOUSAND))),O(RTY.( THOUSAND),UR.( (HUNDRED,THOUSAND)))),NINE.( (HUNDRED,THOUSAND),TY.(",
    " THOUSAND)),ONE.( (HUNDRED,THOUSAND)),S(EVEN.( (HUNDRED,THOUSAND),TY.( THOUSAND)),IX.( (",
    "HUNDRED,THOUSAND),TY.( THOUSAND))),T(EN.( THOUSAND),H(IRTY.( THOUSAND),REE.( (HUNDRED,",
    "THOUSAND))),W(ENTY.( THOUSAND),O.( (HUNDRED,THOUSAND))))))),U(NCE SIGN,T(BOX TRAY,LINED (",
    "BLACK STAR,DIGIT (EIGHT,F(IVE,OUR),NINE,ONE,S(EVEN,IX),T(HREE,WO),ZERO),GREEK CROSS,LATIN C(",
    "APITAL LETTER (A,B,C,D,E,F,G,H,I,J,K,L,M,N,O,P,Q,R,S,T,U,V,W,X,Y,Z),ROSS),WHITE STAR))),VER(",
    "HEATED FACE,L(AP.(PING (BLACK SQUARES,WHITE (AND BLACK SQUARES,SQUARES))),INE)),WL,X,YSTER),",
    "P(A(CKAGE,G(E.( (FACING UP,WITH C(IRCLED TEXT,URL)),R,S),ODA),HAWH HMONG (C(LAN SIGN (FAJ,HA(",
    "M,WJ),K(HAB,OO,WM),L(AUJ,IS),MUAS,PHAB,T(HOJ,S(AB,HEEJ,WB)),V(AJ,WJ),XYOOJ,Y(AJ,EEG)),",
    "ONSONANT (AU,C(AU,HAU),H(AU,LAU,NAU),LAU,MAU,N(AU,CHAU,KAU,LAU,T(HAU,SAU)),PLHAU,QHAU,RAU,",
    "VAU,XAU,YAU)),DIGIT (EIGHT,F(IVE,OUR),NINE,ONE,S(EVEN,IX),T(HREE,WO),ZERO),MARK CIM (HOM,K(",
    "ES,HAV),S(O,UAM),T(AUM,UB)),NUMBER (HUNDRED( MILLIONS,S),MILLIONS,T(EN( (BILLIONS,THOUSANDS),",
    "S),RILLIONS)),SIGN (AV,CIM (C(HEEM,UAM TSHOOJ),HAIS LUS NTOG NTOG,NRES TOS,PUB DAWB,T(",
    "SOV ROG,XWV.( CHWV))),H(LI,NUB),IB YAM,LOS,M(EEJ (SUAB,TSEEB),US),N(QIG,TUJ),T(AU,",
    "HIRD-STAGE HLI,XHEEJ CEEV),VOS (FEEM,LUB,NRUA,SEEV,T(H(IAB,OM),SHAB CEEB)),X(AUS,IAB,Y(EEM (",
    "FAIB,NTXIV,RHO,TOV),OO)),ZWJ THAJ),VOWEL K(A(A(B,V),B,I(B,V),U(B,V),V,W(B,V)),E(B,E(B,V),V),",
    "I(A(B,V),B,V),O(B,O(B,V),V),U(A(B,V),B,V),W(B,V))),L(LAS,M( (BRANCH,DOWN HAND,TREE,UP HAND),",
    "S UP TOGETHER,YRENE (LE(FT-POINTING FLEURON,TTER (A(LEPH,YIN),BETH,DALETH,FINAL NUN,GIMEL,",
    "HE.(TH),KAPH,LAMEDH,MEM,NUN,PE,QOPH,RESH,S(A(DHE,MEKH),HIN),T(AW,ETH),WAW,YODH,ZAYIN)),",
    "NUMBER (F(IVE,OUR),ONE,T(EN,HREE,W(ENTY,O))),RIGHT-POINTING FLEURON))),N(CAKES,DA FACE),",
    "PERCLIP,R(A(CHUTE,GRAPH( SEPARATOR,OS,US MARK),LLEL (TO,WITH (HORIZONTAL STROKE,",
    "TILDE OPERATOR))),ENTHESIZED (DIGIT (EIGHT,F(IVE,OUR),NINE,ONE,S(EVEN,IX),T(HREE,WO)),",
    "HANGUL (C(HIEUCH.( A),IEUC.( (A,U))),HIEUH.( A),IEUNG.( A),K(HIEUKH.( A),IYEOK.( A)),MIEUM.(",
    " A),NIEUN.( A),P(HIEUPH.( A),IEUP.( A)),RIEUL.( A),SIOS.( A),T(HIEUTH.( A),IKEUT.( A))),",
    "IDEOGRAPH (ALLIANCE,C(ALL,ONGRATULATION),E(ARTH,IGHT,NTERPRISE),F(ESTIVAL,I(NANCIAL,RE,VE),",
    "OUR),HAVE,LABOR,M(ETAL,OON),N(AME,INE),ONE,RE(ACH,PRESENT,S(OURCE,T)),S(E(LF,VEN),IX,OCIETY,",
    "PECIAL,T(OCK,UDY),U(N,PERVISE)),T(EN,HREE,WO),W(ATER,OOD)),KOREAN CHARACTER O( HU,JEON),",
    "LATIN (CAPITAL LETTER (A,B,C,D,E,F,G,H,I,J,K,L,M,N,O,P,Q,R,S,T,U,V,W,X,Y,Z),SMALL LETTER (A,",
    "B,C,D,E,F,G,H,I,J,K,L,M,N,O,P,Q,R,S,T,U,V,W,X,Y,Z)),NUMBER (E(IGHTEEN,LEVEN),F(IFTEEN,",
    "OURTEEN),NINETEEN,S(EVENTEEN,IXTEEN),T(EN,HIRTEEN,WE(LVE,NTY)))),ROT,T( ALTERNATION MARK,IAL(",
    " DIFFERENTIAL,LY-RECYCLED PAPER SYMBOL),NERSHIP SIGN,Y POPPER)),SS(E(D SYMBOL,NGER SHIP),",
    "IVE-PULL-(DOWN-OUTPUT SYMBOL,UP-OUTPUT SYMBOL),PORT CONTROL),U CIN HAU (GLOTTAL STOP.( (",
    "FINAL,VARIANT)),L(ETTER (A,BA,C(A,HA),DA,E,F(A,INAL (K,L,M,N.(G),P,T,W,Y)),GA,HA,I.(A),K(A,",
    "HA),LA,MA,N(A,GA),O,P(A,HA),RA,SA,T(A,HA),U.(A),VA,ZA),OW-FALLING TONE.( (FINAL,LONG.(",
    " FINAL)))),MID-LEVEL TONE.( (FINAL,LONG FINAL)),RISING TONE.( (FINAL,LONG.( FINAL))),SANDHI (",
    "GLOTTAL STOP.( FINAL),TONE.( (FINAL,LONG.( FINAL))))),W PRINTS),E(A( POD,C(E SYMBOL,H,OCK),",
    "NUTS,R),DESTRIAN,N( OVER STAMPED ENVELOPE,CIL,GUIN,SIVE FACE,TAGRAM),OPLE HUGGING,R( (",
    "MILLE SIGN,SIGN,TEN THOUSAND SIGN),CENT SIGN,FORMING ARTS,MANENT PAPER SIGN,PENDICULAR.(",
    " WITH S),S(EVERING FACE,ON( (BOWING DEEPLY,CLIMBING,DOING CARTWHEEL,FROWNING,IN (",
    "LOTUS POSITION,STEAMY ROOM),RAISING BOTH HANDS IN CELEBRATION,WITH (B(ALL,LOND HAIR),CROWN,",
    "FOLDED HANDS,HEADSCARF,POUTING FACE)),AL COMPUTER),PECTIVE)),S(ETA SIGN,O SIGN),TRI DISH),H(",
    "A(GS-PA (DOUBLE HEAD MARK,LETTER (A.(LTERNATE YA,SPIRATED FA),BA,C(A.(NDRABINDU),HA),D(A,DA,",
    "ZA),E.(E),FA,G(A,GA),HA,I,JA,K(A,HA),LA,MA,N(A,GA,NA,YA),O,P(A,HA),QA,RA,S(A,HA,MALL A),T(A,",
    "HA,S(A,HA),T(A,HA)),U,VOICE(D HA,LESS SHA),WA,XA,YA,Z(A,HA)),MARK (DOUBLE SHAD,SHAD),S(",
    "INGLE HEAD MARK,U(BJOINED LETTER (RA,WA,YA),PERFIXED LETTER RA))),ISTOS DISC SIGN (ARROW,B(",
    "EE.(HIVE),O(OMERANG,W),ULLS LEG),C(A(PTIVE,RPENTRY PLANE,T),HILD,LUB,O(LUMN,MB.(",
    "INING OBLIQUE STROKE))),DO(LIUM,VE),EAGLE,FLUTE,G(AUNTLET,RATER),H(ELMET,IDE,ORN),LI(D,LY),",
    "MA(NACLES,TTOCK),OX BACK,P(APYRUS,EDESTRIAN,L(ANE TREE,UMED HEAD)),R(AM,OSETTE),S(AW,HI(ELD,",
    "P),LING,MALL AXE,TRAINER),T(ATTOOED HEAD,IARA,UNNY),VINE,W(AVY BAND,OMAN))),ILIPPINE (",
    "DOUBLE PUNCTUATION,SINGLE PUNCTUATION),O(ENICIAN (LETTER (A(IN,LF),BET,DELT,GAML,HE.(T),KAF,",
    "LAMD,MEM,NUN,PE,QOF,ROSH,S(ADE,EMK,HIN),T(AU,ET),WAU,YOD,ZAI),NUMBER (ONE.( HUNDRED),T(EN,",
    "HREE,W(ENTY,O))),WORD SEPARATOR),LUS)),I(CK.(UP TRUCK),E,G.( (FACE,NOSE)),L(CROW SIGN,",
    "E OF POO,L),N(ATA,CH(ED FINGERS,ING HAND),E( DECORATION,APPLE),K HEART,WHEEL STAR),S(CES,",
    "TOL),TCHFORK.( WITH TEE TOP)),L(A(C(ARD,E OF (INTEREST SIGN,WORSHIP)),NCK CONSTANT.(",
    " OVER TWO PI),Y(GROUND SLIDE,ING CARD (ACE OF (CLUBS,DIAMONDS,HEARTS,SPADES),B(ACK,",
    "LACK JOKER),EIGHT OF (CLUBS,DIAMONDS,HEARTS,SPADES),F(IVE OF (CLUBS,DIAMONDS,HEARTS,SPADES),",
    "O(OL,UR OF (CLUBS,DIAMONDS,HEARTS,SPADES))),JACK OF (CLUBS,DIAMONDS,HEARTS,SPADES),K(ING OF (",
    "CLUBS,DIAMONDS,HEARTS,SPADES),NIGHT OF (CLUBS,DIAMONDS,HEARTS,SPADES)),NINE OF (CLUBS,",
    "DIAMONDS,HEARTS,SPADES),QUEEN OF (CLUBS,DIAMONDS,HEARTS,SPADES),RED JOKER,S(EVEN OF (CLUBS,",
    "DIAMONDS,HEARTS,SPADES),IX OF (CLUBS,DIAMONDS,HEARTS,SPADES)),T(EN OF (CLUBS,DIAMONDS,HEARTS,",
    "SPADES),HREE OF (CLUBS,DIAMONDS,HEARTS,SPADES),RUMP-(1.(0,1,2,3,4,5,6,7,8,9),2.(0,1),3,4,5,6,",
    "7,8,9),WO OF (CLUBS,DIAMONDS,HEARTS,SPADES)),WHITE JOKER))),U(NGER,S( SIGN.( (",
    "ABOVE EQUALS SIGN,IN (LEFT HALF CIRCLE,RIGHT HALF CIRCLE,TRIANGLE),WITH (BLACK TRIANGLE,",
    "CIRCUMFLEX ACCENT ABOVE,DOT BELOW,S(MALL CIRCLE ABOVE,UBSCRIPT TWO),TILDE (ABOVE,BELOW)))),",
    "-MINUS SIGN),TO.( FORM (F(IVE,OUR),T(HREE,WO))))),NP TRANSISTOR,O(CKET CALCULATOR,LICE (CAR.(",
    "S REVOLVING LIGHT),OFFICER),ODLE,P( DIRECTIONAL (FORMATTING,ISOLATE),CORN),RTABLE STEREO,S(",
    "EIDON,ITION INDICATOR,T(AL (HORN,MARK.( FACE)),BOX)),T( OF FOOD,A(BLE WATER SYMBOL,TO),",
    "TED PLANT),U(CH,LTRY LEG,ND SIGN,RING LIQUID,TING (CAT FACE,FACE)),WER (ON( SYMBOL,",
    "-OFF SYMBOL),S(LEEP SYMBOL,YMBOL))),R(AYER BEADS,E(CEDES.( (ABOVE (ALMOST EQUAL TO,",
    "EQUALS SIGN,NOT (ALMOST EQUAL TO,EQUAL TO),SINGLE-LINE (EQUALS SIGN,NOT EQUAL TO)),",
    "BUT NOT EQUIVALENT TO,OR EQU(AL TO,IVALENT TO),UNDER RELATION)),GNANT (MAN,PERSON,WOMAN),S(",
    "CRIPTION TAKE,ENTATION FORM FOR VERTICAL (CO(LON,MMA),E(M DASH,N DASH,XCLAMATION MARK),",
    "HORIZONTAL ELLIPSIS,IDEOGRAPHIC (COMMA,FULL STOP),L(EFT (ANGLE BRACKET,",
    "BLACK LENTICULAR BRACKET,C(ORNER BRACKET,URLY BRACKET),DOUBLE ANGLE BRACKET,PARENTHESIS,",
    "SQUARE BRACKET,TORTOISE SHELL BRACKET,WHITE (CORNER BRACKET,LENTICULAR BRACKET)),OW LINE),",
    "QUESTION MARK,RIGHT (ANGLE BRACKET,BLACK LENTICULAR BRACKET,C(ORNER BRACKET,URLY BRACKET),",
    "DOUBLE ANGLE BRACKET,PARENTHESIS,SQUARE BRACKET,TORTOISE SHELL BRACKET,WHITE (CORNER BRACKET,",
    "LENTICULAR BRAKCET)),SEMICOLON,TWO DOT LEADER,WAVY LOW LINE)),TZEL,VIOUS PAGE),I(ME,N(CE.(",
    "SS),T( SCREEN SYMBOL,ER.( ICON)))),O(BING CANE,HIBITED SIGN,JECTIVE,P(ERTY LINE,ORTION.(",
    "AL TO)),SERPINA)),SALTER PAHLAVI (FOUR DOTS WITH (CROSS,DOT),LETTER (ALEPH,BETH,DALETH,GIMEL,",
    "HE.(TH),KAPH,LAMEDH,MEM-QOPH,NUN,PE,S(A(DHE,MEKH),HIN),TAW,WAW-AYIN-RESH,YODH,ZAYIN),NUMBER (",
    "FOUR,ONE.( HUNDRED),T(EN,HREE,W(ENTY,O))),SECTION MARK,TURNED SECTION MARK),U(",
    "BLIC ADDRESS LOUDSPEAKER,NCTU(ATION SPACE,S ELEVATUS MARK),R(PLE HEART,SE),SHPIN,",
    "T LITTER IN ITS PLACE SYMBOL)),QU(A(DR(ANT (LOWER (LEFT,RIGHT),UPPER (LEFT.( AND (LOWER (",
    "LEFT AND LOWER RIGHT,RIGHT),UPPER RIGHT AND LOWER (LEFT,RIGHT))),RIGHT.( AND LOWER LEFT.(",
    " AND LOWER RIGHT)))),UPLE (INTEGRAL OPERATOR,PRIME)),OAR,RTER NOTE,",
    "TERNION INTEGRAL OPERATOR),ESTION( (EXCLAMATION MARK,MARK),ED EQUAL TO),INCUNX,OTATION MARK),",
    "R(A(BBIT.( FACE),C(COON,ING (CAR,MOTORCYCLE)),DI(CAL SYMBOL BOTTOM,O.( BUTTON,ACTIVE SIGN)),",
    "I(LWAY (CAR,TRACK),N.(BOW),SED (BACK OF HAND,COMMA,DOT.(TED INTERPOLATION MARKER),FIST,HAND.(",
    " WITH (FINGERS SPLAYED,PART BETWEEN MIDDLE AND RING FINGERS)),INTERPOLATION MARKER,M(C SIGN,",
    "D SIGN,R SIGN),S(MALL LEFT SQUARE BRACKET,QUARE))),M,T.(IO),ZOR),E(C(E(IPT,PTACLE),",
    "REATIONAL VEHICLE,YCL(ED PAPER SYMBOL,ING SYMBOL FOR (GENERIC MATERIALS,TYPE-(1 PLASTICS,",
    "2 PLASTICS,3 PLASTICS,4 PLASTICS,5 PLASTICS,6 PLASTICS,7 PLASTICS)))),D (APPLE,",
    "GIFT ENVELOPE),FERENCE MARK,GI(ONAL INDICATOR SYMBOL LETTER (A,B,C,D,E,F,G,H,I,J,K,L,M,N,O,P,",
    "Q,R,S,T,U,V,W,X,Y,Z),STERED SIGN),JANG (CONSONANT SIGN (H,N.(G),R),LETTER (A,BA,CA,DA,GA,HA,",
    "JA,KA,LA,M(A,BA),N(A,DA,G(A,GA),Y(A,JA)),PA,RA,SA,TA,WA,YA),SECTION MARK,V(IRAMA,OWEL SIGN (",
    "A(I,U),E.(A,U),I,O,U))),LIEVED FACE,MINDER RIBBON,PLACEMENT CHARACTER,S(PONSE,TR(",
    "ICTED LEFT ENTRY-(1,2),OOM)),TURN (LEFT,RIGHT,SYMBOL),V(ERSE( (CHECKER BOARD,",
    "LIGHT FOUR POINTED PINWHEEL STAR,SOLIDUS.( (OPERATOR,PRECEDING SUBSET,",
    "WITH HORIZONTAL STROKE)),TILDE OPERATOR ABOVE (LEFTWARDS ARROW,RIGHTWARDS ARROW)),D (ANGLE.(",
    " WITH UNDERBAR),COMMA,DOUBLE (PRIME.( QUOTATION MARK),STROKE NOT SIGN),EMPTY SET,",
    "FORKED PARAGRAPHOS,HAND WITH MIDDLE FINGER EXTENDED,NOT SIGN,P(ILCROW SIGN,RIME),",
    "QUESTION MARK,R(AISED HAND WITH FINGERS SPLAYED,IGHT ANGLE,OTATED FLORAL HEART BULLET),S(",
    "ANS-SERIF CAPITAL L,EMICOLON),T(HUMBS (DOWN SIGN,UP SIGN),ILDE.( EQUALS),RIPLE PRIME),",
    "VICTORY HAND)),OLVING HEARTS)),HINOCEROS,I(AL SIGN,BBON.( ARROW (DOWN (LEFT,RIGHT),LEFT (",
    "DOWN,UP),RIGHT (DOWN,UP),UP (LEFT,RIGHT))),CE (BALL,CRACKER),FLE,GHT( (A(N(D (",
    "LOWER ONE EIGHTH BLOCK,UPPER ONE EIGHTH BLOCK),G(ER BUBBLE,LE.( (BRACKET.( WITH DOT),",
    "DOTTED SUBSTITUTION MARKER,SUBSTITUTION MARKER,VARIANT WITH SQUARE,WITH (ARC,",
    "DOWNWARDS ZIGZAG ARROW))))),R(C GREATER-THAN BRACKET,ROW WITH (CIRCLED PLUS,SMALL CIRCLE))),",
    "BLACK (LENTICULAR BRACKET,TORTOISE SHELL BRACKET),C(EILING,ORNER BRACKET,URLY BRACKET.( (",
    "LOWER HOOK,MIDDLE PIECE,UPPER HOOK))),DO(TTED SUBSTITUTION BRACKET,UBLE (A(NGLE BRACKET,",
    "RROW WITH ROUNDED HEAD),PARENTHESIS,QUOTATION MARK,WIGGLY FENCE)),F(I(SH TAIL,",
    "VE EIGHTHS BLOCK),LOOR),HA(LF (AND LEFT HALF WHITE CIRCLE,BL(ACK (CIRCLE,STAR),OCK),F(",
    "LYING SAUCER,OLDER),HORIZONTAL LINE WITH THREE TICK MARKS,LOWER ONE QUARTER BLOCK,",
    "MEDIUM SHADE,RUNNING MAN,TRIPLE DASH HORIZONTAL,UPPER ONE QUARTER BLOCK,WHITE ELLIPSE),",
    "ND TELEPHONE RECEIVER),JUSTIFIED LEFT HALF (BLACK CIRCLE,WHITE CIRCLE),",
    "LOW PARAPHRASE BRACKET,NORMAL FACTOR SEMIDIRECT PRODUCT,O(NE (EIGHTH BLOCK,QUARTER BLOCK),",
    "PEN SQUARED DOT,UTER JOIN),PARENTHESIS.( (EXTENSION,LOWER HOOK,UPPER HOOK)),",
    "RAISED OMISSION BRACKET,S(-SHAPED BAG DELIMITER,E(MIDIRECT PRODUCT,VEN EIGHTHS BLOCK),I(",
    "DEWAYS U BRACKET,NGLE QUOTATION MARK),PE(AKER.( WITH (ONE SOUND WAVE,THREE SOUND WAVES)),",
    "ECH BUBBLE),QUARE BRACKET.( (EXTENSION,LOWER CORNER,UPPER CORNER,WITH (DOUBLE STROKE,QUILL,",
    "STROKE,TICK IN (BOTTOM CORNER,TOP CORNER),UNDERBAR))),UBSTITUTION BRACKET),T(ACK,H(IRD (",
    "INDUCTOR,WHITE RIGHT POINTING INDEX),OUGHT BUBBLE,REE (EIGHTHS BLOCK,QUARTERS (BLOCK,",
    "LOWER ONE QUARTER BLOCK,UPPER ONE QUARTER BLOCK))),ORTOISE SHELL BRACKET,R(",
    "ANSPOSITION BRACKET,IANG(LE.( ABOVE LEFT TRIANGLE),ULAR ONE QUARTER BLOCK))),VERTICAL (B(",
    "AR WITH QUILL,OX LINE),RULER SEGMENT),W(HITE (C(ORNER BRACKET,URLY BRACKET),",
    "LENTICULAR BRACKET,PARENTHESIS,SQUARE BRACKET,TORTOISE SHELL BRACKET),IGGLY FENCE)),-(",
    "FACING (ARMENIAN ETERNITY SIGN,BASSINET,FIS(H.( WITH OPEN MOUTH),T),S(NAKE HEAD WITH (",
    "CLOSED MOUTH,OPEN MOUTH),VASTI SIGN.( WITH DOTS))),HANDED INTERLACED PENTAGRAM,POINTING (A(",
    "NGLE BRACKET,TOMIC BOMB),CURVED ANGLE BRACKET,D(IODE,OUBLE ANGLE QUOTATION MARK),ENERGY WAVE,",
    "GO-KART,MAGNIFYING GLASS,R(ACING CAR,IFLE,O(CKET (BOOSTER,SHIP),LLER COASTER CAR)),",
    "STICK FIGURE,TANK),S(HADED WHITE RIGHTWARDS ARROW,IDE ARC CLOCKWISE ARROW),TO-LEFT (",
    "EMBEDDING,ISOLATE,MARK,OVERRIDE)),HAND INTERIOR PRODUCT,WARDS (ARROW.( (A(BOVE (",
    "ALMOST EQUAL TO,REVERSE (ALMOST EQUAL TO,TILDE OPERATOR),SHORT LEFTWARDS ARROW,",
    "TILDE OPERATOR),ND UPPER AND LOWER ONE EIGHTH BLOCK),FROM (BAR.( TO BLACK DIAMOND),",
    "DOWNWARDS ARROW),OVER LEFTWARDS ARROW,T(HROUGH (GREATER-THAN,SUPERSET,X),O B(AR,",
    "LACK DIAMOND)),WITH (CORNER DOWNWARDS,DO(TTED STEM,UBLE VERTICAL STROKE),",
    "EQUILATERAL ARROWHEAD,HOOK,L(ARGE TRIANGLE ARROWHEAD,O(OP,WER HOOK)),",
    "MEDIUM TRIANGLE ARROWHEAD,NOTCHED TAIL,PLUS BELOW,S(MALL (EQUILATERAL ARROWHEAD,",
    "TRIANGLE ARROWHEAD),TROKE),T(AIL.( WITH (DOUBLE VERTICAL STROKE,VERTICAL STROKE)),IP (",
    "DOWNWARDS,UPWARDS)),VERTICAL STROKE)),-TAIL),B(ACK-TILTED SHADOWED WHITE ARROW,LACK (ARROW,",
    "CIRCLED WHITE ARROW),OTTOM SHADED WHITE ARROW),COMPRESSED ARROW,D(ASHED ARROW,OUBLE (ARROW.(",
    " (FROM BAR,WITH (STROKE,VERTICAL STROKE)),-TAIL),DASH ARROW)),F(INGER-POST ARROW,",
    "RONT-TILTED SHADOWED WHITE ARROW),H(A(ND,RPOON (OVER LEFTWARDS HARPOON,WITH BARB (DOWN( (",
    "ABOVE LEFTWARDS HARPOON WITH BARB DOWN,BELOW LONG DASH,FROM BAR,TO BAR),WARDS),UP( (ABOVE (L(",
    "EFTWARDS HARPOON WITH BARB UP,ONG DASH),RIGHTWARDS HARPOON WITH BARB DOWN),FROM BAR,TO BAR),",
    "WARDS)))),EAVY (ARROW,COMPRESSED ARROW)),LEFT-SHADED WHITE ARROW,OPEN-HEADED ARROW,P(",
    "AIRED ARROWS,USHING HAND),QUADRUPLE ARROW,R(IGHT-SHADED WHITE ARROW,OCKET),S(ANS-SERIF ARROW,",
    "QU(ARED ARROW,IGGLE ARROW)),T(OP SHADED WHITE ARROW,RI(ANGLE( ARROWHEAD,-HEADED (ARROW.( (",
    "OVER LEFTWARDS TRIANGLE-HEADED ARROW,TO BAR,WITH (BOLD SHAFT,DOUBLE HORIZONTAL STROKE,",
    "HEAVY SHAFT,LONG TIP (DOWNWARDS,UPWARDS),MEDIUM SHAFT,NARROW SHAFT,VERY HEAVY SHAFT))),",
    "DASHED ARROW,PAIRED ARROWS)),PLE (ARROW,DASH ARROW)),WO( HEADED ARROW,-HEADED (ARROW (",
    "FROM BAR,WITH (DOUBLE VERTICAL STROKE,T(AIL.( WITH (DOUBLE VERTICAL STROKE,VERTICAL STROKE)),",
    "RIANGLE ARROWHEADS),VERTICAL STROKE)),TRIPLE DASH ARROW))),W(AVE ARROW,HITE ARROW.( (",
    "FROM WALL,WITHIN TRIANGLE ARROWHEAD))))),NG.( (ABOVE,BUOY,EQUAL TO,IN EQUAL TO,OPERATOR,",
    "POINT),ED PLANET,ING BELL),SING DIAGONAL CROSSING (FALLING DIAGONAL,SOUTH EAST ARROW)),O(",
    "ASTED SWEET POTATO,BOT FACE,CK.(ET),LL( OF PAPER,E(D-UP NEWSPAPER,R (COASTER,SKATE)),",
    "ING ON THE FLOOR LAUGHING),MAN (AS SIGN,CENTURIAL SIGN,D(ENARIUS SIGN,IMIDIA SEXTULA SIGN,",
    "UPONDIUS SIGN),NUMERAL (E(IGHT,LEVEN),F(I(FTY.( (EARLY FORM,THOUSAND)),VE.( (HUNDRED,",
    "THOUSAND))),OUR),NINE,ONE.( (HUNDRED.( THOUSAND),THOUSAND.( C D))),REVERSED ONE HUNDRED,S(",
    "EVEN,IX.( LATE FORM)),T(EN.( THOUSAND),HREE,W(ELVE,O))),QUINARIUS SIGN,S(E(MUNCIA SIGN,",
    "STERTIUS SIGN,XT(ANS SIGN,ULA SIGN)),ILIQUA SIGN),UNCIA SIGN),O(STER,T VEGETABLE),SE.(TTE),",
    "TATED (CAPITAL Q,FLORAL HEART BULLET,HEAVY BLACK HEART BULLET,LIGHT FOUR POINTED BLACK CUSP,",
    "WHITE FOUR POINTED CUSP),UND( (PUSHPIN,TARGET),ED SYMBOL FOR (CAI,FU,LU,SH(OU,UANGXI),XI)),",
    "WBOAT),U(BLE SIGN,GBY FOOTBALL,LE-DELAYED,MI (DIGIT (EIGHT,F(IVE,OUR),NINE,ONE,S(EVEN,IX),T(",
    "HREE,WO)),FRACTION (ONE (HALF,QUARTER,THIRD),TWO THIRDS),NUMBER (EIGHT( HUNDRED,Y),F(I(FTY,",
    "VE HUNDRED),O(RTY,UR HUNDRED)),NINE( HUNDRED,TY),ONE HUNDRED,S(EVEN( HUNDRED,TY),IX( HUNDRED,",
    "TY)),T(EN,H(IRTY,REE HUNDRED),W(ENTY,O HUNDRED)))),N(IC (ARLAUG SYMBOL,BELGTHOR SYMBOL,",
    "CROSS PUNCTUATION,LETTER (A(C A,ESC,LGIZ EOLHX,NSUZ A),BERKANAN BEORC BJARKAN B,C.(ALC,E(ALC,",
    "N),WEORTH),D.(AGAZ DAEG D,OTTED-(L,N,P)),E.(AR,HWAZ EH E,NG,TH),F(EHU FEOH FE F,",
    "RANKS CASKET (A(C,ESC),EH,IS,OS)),G.(AR,E(BO GYFU G,R)),HA(EGL H,GLAZ H),I(CELANDIC-YR,NG.(",
    "WAZ),OR,SAZ IS ISS I,WAZ EOH),JERAN J,K.(AUN( K,A)),L(AUKAZ LAGU LOGR L,ONG-BRANCH-(AR AE,",
    "HAGALL H,MADR M,OSS O,YR)),MANNAZ MAN M,NAUDIZ NYD NAUD N,O.(E,N,O,PEN-P,S O,THALAN ETHEL O),",
    "PERTHO PEORTH P,Q,RAIDO RAD REID R,S(H.(ORT-TWIG-(AR A,BJARKAN B,HAGALL H,MADR M,NAUD N,",
    "OSS O,SOL S,TYR T,YR)),IGEL LONG-BRANCH-SOL S,OWILO S,TAN),T(HURISAZ THURS THORN,",
    "IWAZ TIR TYR T),URUZ UR U,V,W.(UNJO WYNN W),X,Y.(R),Z),MULTIPLE PUNCTUATION,",
    "SINGLE PUNCTUATION,TVIMADUR SYMBOL),N(ER,ING SHIRT WITH SASH)),PEE SIGN,",
    "SSIAN ASTROLOGICAL SYMBOL (BINOVILE,NOVILE,QUINTILE,SENTAGON,TREDECILE,VIGINTILE))),S(",
    " IN TRIANGLE,A(FETY (PIN,VEST),GITTARIUS,ILBOAT,KE BOTTLE AND CUP,L(T( SHAKER,IRE),",
    "UTING FACE),MARITAN (ABBREVIATION MARK,LETTER (ALAF,B(AA,IT),DALAT,FI,GAMAN,I(N,T,Y),KAAF,",
    "LABAT,MIM,NUN,QUF,RISH,S(HAN,INGAAT),T(AAF,IT,SAADIY),YUT,ZEN),M(ARK (DAGESH,EPENTHETIC YUT,",
    "IN.(-ALAF),NEQUDAA,OCCLUSION),ODIFIER LETTER (EPENTHETIC YUT,I,SHORT A)),PUNCTUATION (A(",
    "FSAAQ,N(GED,NAAU),RKAANU,TMAAU),BAU,MELODIC QITSA,NEQUDAA,QITSA,S(HIYYAALAA,OF MASHFAAT),",
    "TURU,Z(AEF,IQAA)),VOWEL SIGN (A.(A),E,I,LONG (A.(A),E,I,U),O.(VERLONG A.(A)),S(HORT A,UKUN),",
    "U)),N(DWICH,S-SERIF (HEAVY (DOUBLE (COMMA QUOTATION MARK ORNAMENT,",
    "TURNED COMMA QUOTATION MARK ORNAMENT),LOW DOUBLE COMMA QUOTATION MARK ORNAMENT),",
    "INTERROBANG ORNAMENT)),RI,T(ELLITE.( ANTENNA),URN),UR(ASHTRA (CONSONANT SIGN HAARU,D(ANDA,",
    "IGIT (EIGHT,F(IVE,OUR),NINE,ONE,S(EVEN,IX),T(HREE,WO),ZERO),OUBLE DANDA),LETTER (A.(A,I,U),B(",
    "A,HA),C(A,HA),D(A,D(A,HA),HA),E.(E),G(A,HA),HA,I.(I),J(A,HA),K(A,HA),L(A,LA),MA,N(A,GA,NA,",
    "YA),O.(O),P(A,HA),RA,S(A,HA,SA),T(A,HA,T(A,HA)),U.(U),V(A,OCALIC (L.(L),R.(R))),YA),SIGN (",
    "ANUSVARA,CANDRABINDU,VI(RAMA,SARGA)),VOWEL SIGN (A(A,I,U),E.(E),I.(I),O.(O),U.(U),VOCALIC (",
    "L.(L),R.(R)))),OPOD),XOPHONE),C(A(LES,RF),HOOL.( SATCHEL),O(OTER,RPI(ON,US)),R(E(EN,WDRIVER),",
    "IPT (CAPITAL (B,E,F,H,I,L,M,P,R),LIGATURE ET ORNAMENT,SMALL (E,G,L,O)),OLL,UPLE)),E(A(L,T),C(",
    "OND PLACE MEDAL,T(ION SIGN,OR)),DNA,E(-NO-EVIL MONKEY,DLING),GMENT.(ED DIGIT (EIGHT,F(IVE,",
    "OUR),NINE,ONE,S(EVEN,IX),T(HREE,WO),ZERO)),LFIE,MI(COLON,DIRECT PRODUCT WITH BOTTOM CLOSED,",
    "SEXTILE),PARATED (BLOCK (QUADRANT-(1.(2.(3.(4),4),3.(4),4),2.(3.(4),4),3.(4),4),SEXTANT-(1.(",
    "2.(3.(4.(5.(6),6),5.(6),6),4.(5.(6),6),5.(6),6),3.(4.(5.(6),6),5.(6),6),4.(5.(6),6),5.(6),6),",
    "2.(3.(4.(5.(6),6),5.(6),6),4.(5.(6),6),5.(6),6),3.(4.(5.(6),6),5.(6),6),4.(5.(6),6),5.(6),",
    "6)),SYMBOL),R(IOUS FACE WITH SYMBOLS COVERING MOUTH,VICE MARK),S(AME DOT,QUIQUADRATE),",
    "T MINUS,WING NEEDLE,XTILE),H(A(DOWED WHITE (CIRCLE,LATIN CROSS,STAR),KING FACE,",
    "LLOW PAN OF FOOD,MROCK,R(ADA (ABBREVIATION SIGN,CONTINUATION SIGN,D(ANDA,IGIT (EIGHT,F(IVE,",
    "OUR),NINE,ONE,S(EVEN,IX),T(HREE,WO),ZERO),OUBLE DANDA),E(KAM,XTRA SHORT VOWEL MARK),",
    "HEADSTROKE,LETTER (A.(A,I,U),B(A,HA),C(A,HA),D(A,D(A,HA),HA),E,G(A,HA),HA,I.(I),J(A,HA),K(A,",
    "HA),L(A,LA),MA,N(A,GA,NA,YA),O,P(A,HA),RA,S(A,HA,SA),T(A,HA,T(A,HA)),U.(U),V(A,OCALIC (L.(L),",
    "R.(R))),YA),OM,S(ANDHI MARK,E(CTION MARK-(1,2),PARATOR),IGN (A(NUSVARA,VAGRAHA),CANDRABINDU,",
    "INVERTED CANDRABINDU,JIHVAMULIYA,NUKTA,SIDDHAM,UPADHMANIYA,VI(RAMA,SARGA)),UTRA MARK),VOWEL (",
    "MODIFIER MARK,SIGN (A(A,I,U),E,I.(I),O,PRISHTHAMATRA E,U.(U),VOCALIC (L.(L),R.(R))))),K),V(",
    "ED ICE,IAN LETTER (A(DO,GE,H,IR,R(E,RAY),SH,WE),BIB,CHURCH,DEAD,E(A(R,T),GG,RR),FEE,GAG,H(",
    "A-HA,UNG),I(AN,CE,F),JUDGE,KICK,LOLL,M(EASURE,IME),NUN,O(AK,IL,N,OZE,R,UT),PEEP,ROAR,S(O,",
    "URE),T(H(EY,IGH),OT),UP,VOW,WO(E,OL),YE(A,W),ZOO))),EEP,I(ELD,NTO SHRINE,P),O(",
    "CKED FACE WITH EXPLODING HEAD,OTING STAR,PPING (BAGS,TROLLEY),RT( (B(ACKSLANTED SOUTH ARROW,",
    "ENT ARROW POINTING DOWNWARDS THEN NORTH EAST),DOWN TACK.( WITH OVERBAR),LEFT TACK,",
    "RIGHTWARDS ARROW ABOVE LEFTWARDS ARROW,SLANTED NORTH ARROW,UP TACK.( (ABOVE SHORT DOWN TACK,",
    "WITH UNDERBAR))),CAKE,HAND FORMAT (CONTINUING OVERLAP,DOWN STEP,LETTER OVERLAP,UP STEP),S),",
    "ULDERED OPEN BOX,VEL,WER),R(IMP,UG),UFFLE PRODUCT),I(D(DHAM (D(ANDA,OUBLE DANDA),",
    "END OF TEXT MARK,LETTER (A.(A,I,LTERNATE U,U),B(A,HA),C(A,HA),D(A,D(A,HA),HA),E,G(A,HA),HA,",
    "I.(I),J(A,HA),K(A,HA),LA,MA,N(A,GA,NA,YA),O,P(A,HA),RA,S(A,HA,SA),T(A,H(A,",
    "REE-CIRCLE ALTERNATE I),T(A,HA),WO-CIRCLE ALTERNATE I.(I)),U.(U),V(A,OCALIC (L.(L),R.(R))),",
    "YA),REPETITION MARK-(1,2,3),S(E(CTION MARK (DOUBLE RING.( WITH RAYS),WITH (CIRCLES AND (",
    "FOUR ENCLOSURES,RAYS,TWO ENCLOSURES),DOUBLE CRESCENTS,QUADRUPLE CRESCENTS,RAYS AND DOTTED (",
    "CRESCENTS,DOUBLE CRESCENTS,TRIPLE CRESCENTS),SEPTUPLE CRESCENTS,TRI(DENT AND (",
    "DOTTED CRESCENTS,U-SHAPED ORNAMENTS),PLE CRESCENTS))),PARATOR (BAR,DOT)),IGN (ANUSVARA,",
    "CANDRABINDU,NUKTA,SIDDHAM,VI(RAMA,SARGA))),VOWEL SIGN (A(A,I,LTERNATE U.(U),U),E,I.(I),O,U.(",
    "U),VOCALIC R.(R))),EWAYS (BLACK (DOWN POINTING INDEX,LEFT POINTING INDEX,",
    "RIGHT POINTING INDEX,UP POINTING INDEX),WHITE (DOWN POINTING INDEX,LEFT POINTING INDEX,",
    "RIGHT POINTING INDEX,UP POINTING INDEX))),GN( OF THE HORNS,WRITING (AIR (BLOW(",
    " SMALL ROTATIONS,ING OUT),SUCK( SMALL ROTATIONS,ING IN)),BR(EATH (EXHALE,INHALE),USH (",
    "BETWEEN,MULTIPLE,SINGLE)),C(HEEKS (NEUTRAL,PUFFED,SUCKED),O(LON,MMA)),D(REAMY EYEBROWS (",
    "DOWN NEUTRAL,NEUTRAL (DOWN,UP),UP NEUTRAL),YNAMIC (ARROWHEAD (LARGE,SMALL),EVERY OTHER TIME,",
    "FAST,GRADUAL,RELAXED,S(IMULTANEOUS.( ALTERNATING),LOW),TENSE)),E(ARS,XCITEMENT,YE( (BLINK (",
    "MULTIPLE,SINGLE),WINK),BROWS STRAIGHT (DOWN,NEUTRAL,UP),GAZE-(FLOORPLANE (CURVED,STRAIGHT.( (",
    "ALTERNATING,DOUBLE))),WALLPLANE (C(IRCLING,URVED),STRAIGHT.( (ALTERNATING,DOUBLE)))),LASHES (",
    "DOWN,FLUTTERING,UP),S (CLOSED,HALF (CLOSED,OPEN),OPEN,SQUEEZED,WIDE( OPEN,NING MOVEMENT)))),",
    "F(ACE DIRECTION POSITION NOSE (FORWARD TILTING,UP OR DOWN.( TILTING)),I(LL MODIFIER-(2,3,4,5,",
    "6),NGER),L(ICK (LARGE (MULTIPLE,SINGLE),S(EQUENTIAL,MALL (MULTIPLE,SINGLE))),",
    "OORPLANE SHOULDER HIP MOVE),OREHEAD (CONTACT,NEUTRAL,WRINKLED),ULL STOP),GRASP (BETWEEN,",
    "MULTIPLE,SINGLE),H(A(IR,ND-(ANGLE.( (INDEX.( (MIDDLE (LITTLE,RING),RING LITTLE.( OUT),THUMB.(",
    " (IN,OUT)))),LITTLE (INDEX.( THUMB INDEX THUMB.( OUT)),UP),MIDDLE RING LITTLE.( (IN,OUT)),",
    "RING (DOWN MIDDLE THUMB INDEX CROSS,LITTLE))),C(IRCLE.( (INDEX.( (BENT,HINGE,MIDDLE.( (CROSS(",
    " LITTLE,ED),LITTLE,RING,THUMB)),RING LITTLE)),LITTLE (INDEX,UP),MIDDLE (RING LITTLE.( BENT),",
    "UP),RING LITTLE)),LAW.( (FOUR FINGERS CONJOINED,INDEX THUMB CURVE THUMB INSIDE,",
    "MIDDLE RING LITTLE CONJOINED.( SIDE),NO THUMB,THUMB (FORWARD,SIDE))),U(P.( (",
    "FIVE FINGERS SPREAD.( OPEN),INDEX.( (RING LITTLE,THUMB.( OPEN))),MIDDLE RING LITTLE,NO THUMB,",
    "OPEN.( (NO THUMB,THUMB (FORWARD,SIDE))),THUMB (FORWARD,SIDE))),RLICUE.( (",
    "INDEX RING LITTLE ON,MIDDLE RING LITTLE ON,OPEN)))),F(IST.( (FOUR FINGERS CONJOINED BENT,",
    "HEEL,INDEX.( (BENT.( OVER MIDDLE),CUPPED,HINGED.( (LOW,MIDDLE UP.( THUMB SIDE))),MIDDLE.( (",
    "BENT.( THUMB STRAIGHT),C(ONJOINED.( (CUPPED.( THUMB FORWARD),HINGED.( THUMB SIDE),INDEX BENT,",
    "MIDDLE BENT,THUMB (FORWARD,SIDE.( (BENT,CONJOINED))))),ROSS( LITTLE,ED.( THUMB SIDE))),",
    "HINGED.( SPREAD THUMB SIDE),LITTLE,R(AISED KNUCKLES,ING.( (BENT,CONJOINED))),",
    "STRAIGHT THUMB BENT,THUMB.( (ANGLED.( OUT),BENT,C(IRCLED,ONJOINED HINGED,UPPED),H(INGED,",
    "OOKED))),UP SPREAD THUMB FORWARD)),R(AISED KNUCKLE,ING LITTLE),THUMB (ANGLED (IN MIDDLE UP,",
    "OUT MIDDLE UP),C(IRCLE.(D MIDDLE UP),U(PPED MIDDLE UP,R(LICUE,VE THUMB (INSIDE,UNDER)))),",
    "FORWARD INDEX (BENT,STRAIGHT),HOOK.(ED MIDDLE (HINGED,UP)),SIDE.( (BOTH BENT,INDEX (BENT,",
    "HINGE),THUMB (BENT,CONJOINED,DIAGONAL)))),UP MIDDLE HINGED.( THUMB (CONJOINED,SIDE)))),",
    "LITTLE (BENT,DOWN.( (OTHERS CIRCLED,RIPPLE (CURVED,STRAIGHT))),INDEX.( THUMB),RAISED KNUCKLE,",
    "T(HUMB,OUCHES THUMB),UP),MIDDLE (BENT OVER INDEX,DOWN,LITTLE,R(AISED KNUCKLE,ING LITTLE),",
    "THUMB (ANGLED (INDEX UP,OUT INDEX (CROSSED,UP)),C(IRCLED INDEX (HINGED,UP),UPPED INDEX UP),",
    "HOOKED INDEX UP,LITTLE),UP.( THUMB SIDE)),RING (DOWN,INDEX,LITTLE,MIDDLE.( (CONJOINED,",
    "RAISED KNUCKLES)),RAISED KNUCKLE,THUMB,UP),THUMB.( (BETWEEN (INDEX MIDDLE.( STRAIGHT),",
    "MIDDLE RING,RING LITTLE),FORWARD,HEEL,OVER (FOUR RAISED KNUCKLES,TWO FINGERS),SIDE (BENT,",
    "CONJOINED,DIAGONAL),UNDER (FOUR FINGERS,INDEX BENT,LITTLE UP,T(HREE FINGERS,WO FINGERS)))))),",
    "LAT.( (BETWEEN PALM FACINGS,F(IVE FINGERS SPREAD.( (BENT,FOUR BENT,HINGED.( (NO THUMB,",
    "THUMB SIDE)),THUMB FORWARD)),OUR FINGERS.( (BENT,CONJOINED.( SPLIT),HINGED))),HEEL.( (",
    "FIVE FINGERS SPREAD.( (BENT,FOUR BENT)),THUMB SIDE)),SPLIT (CENTRE.( THUMB SIDE.( BENT)),",
    "INDEX THUMB SIDE,LITTLE),THUMB (BENT,FORWARD,SIDE)))),H(INGE.( (F(IVE FINGERS SPREAD OPEN,",
    "OUR FINGERS CONJOINED),INDEX.( (HINGED,MIDDLE (LITTLE,RING.( CONJOINED)),RING LITTLE,THUMB.(",
    " (LARGE,OPEN,S(IDE,MALL))))),LITTLE.( (INDEX.( THUMB),THUMB)),MIDDLE.( RING LITTLE),NO THUMB,",
    "OPEN.( (NO THUMB,THUMB (FORWARD,SIDE))),RING.( DOWN INDEX THUMB HOOK MIDDLE),SMALL,THUMB (",
    "BETWEEN MIDDLE RING,SIDE.( TOUCHING INDEX)))),OOK.( (CURLICUE,INDEX RING LITTLE (IN,OUT,",
    "UNDER),MIDDLE (RING LITTLE CONJOINED.( (IN,OUT)),THUMB),RING THUMB))),OVAL.( (",
    "FIVE FINGERS SPREAD,INDEX,LITTLE UP,NO THUMB,RING LITTLE,THUMB (FORWARD,SIDE))))),EAD.( (",
    "MOVEMENT( CIRCLE,-(FLOORPLANE (CURVE,STRAIGHT),WALLPLANE (CURVE,STRAIGHT,TILT))),RIM))),L(I(",
    "MB (COMBINATION,LENGTH-(1,2,3,4,5,6,7)),P( (LOWER OVER UPPER,UPPER OVER LOWER),",
    "S PRESSED TOGETHER)),OCATION( (DEPTH,HE(AD NECK,IGHT),LIMBS DIGITS,TORSO,WIDTH),-(",
    "FLOORPLANE SPACE,WALLPLANE SPACE))),MO(UTH (C(LOSED (CONTACT,FORWARD,NEUTRAL),ORNERS),FROWN.(",
    " (OPEN,WRINKLED)),KISS.( (FORWARD,WRINKLED)),OPEN (CIRCLE,FORWARD,OVAL.( (WRINKLED,YAWN)),",
    "RECTANGLE.( (WRINKLED,YAWN)),WRINKLED),SMILE.( (OPEN,WRINKLED)),TENSE.( (FORWARD,SUCKED)),",
    "WRINKLES (DOUBLE,SINGLE)),VEMENT-(DIAGONAL (AWAY (LARGE.(ST),MEDIUM,SMALL),BETWEEN (AWAY (",
    "LARGE.(ST),MEDIUM,SMALL),TOWARDS (LARGE.(ST),MEDIUM,SMALL)),TOWARDS (LARGE.(ST),MEDIUM,",
    "SMALL)),FLOORPLANE (ARM CIRCLE HITTING WALL (LARGE (DOUBLE,SINGLE),MEDIUM (DOUBLE,SINGLE),",
    "SMALL (DOUBLE,SINGLE)),B(END,OX (LARGE,MEDIUM,SMALL)),C(HECK,ORNER (LARGE,MEDIUM,SMALL),ROSS,",
    "URVE (COMBINED,HITTING (CEILING (LARGE,SMALL),FLOOR (LARGE,SMALL)),LARGE.(ST),MEDIUM,SMALL)),",
    "DOUBLE (ALTERNATING.( WRIST FLEX),STRAIGHT,WRIST FLEX),FINGER C(IRCLES HITTING WALL (DOUBLE,",
    "SINGLE),ONTACT),HUMP (HITTING (CEILING (LARGE (DOUBLE,TRIPLE),SMALL (DOUBLE,TRIPLE)),FLOOR (",
    "LARGE DOUBLE,SMALL DOUBLE,TRIPLE (LARGE TRIPLE,SMALL TRIPLE))),SMALL),JAW,LOOP (HITTING (",
    "CEILING (LARGE (DOUBLE,SINGLE),SMALL (DOUBLE,SINGLE)),FLOOR (LARGE (DOUBLE,SINGLE),SMALL (",
    "DOUBLE,SINGLE))),SMALL),PEAKS (LARGE,MEDIUM,SMALL),S(HAKING PARALLEL,INGLE (STRAIGHT (LARGE.(",
    "ST),MEDIUM,SMALL),WRIST FLEX)),TRIPLE (ALTERNATING (MOVEMENT,WRIST FLEX),STRAIGHT MOVEMENT,",
    "WRIST FLEX),W(AVE (HITTING (CEILING (LARGE,SMALL),FLOOR (LARGE,SMALL)),LARGE,S(MALL,NAKE)),",
    "RIST CIRCLE HITTING WALL (DOUBLE,SINGLE)),ZIGZAG (LARGE,MEDIUM,SMALL)),HINGE (",
    "DOWN SEQUENTIAL,SIDE TO SIDE SCISSORS,UP (DOWN (ALTERNATING (LARGE,SMALL),LARGE,SMALL),",
    "SEQUENTIAL)),WALLPLANE (ARM CIRCLE (MEDIUM (DOUBLE,SINGLE),SMALL (DOUBLE,SINGLE)),B(END (",
    "LARGE,MEDIUM,SMALL),OX (LARGE,MEDIUM,SMALL)),C(HECK (LARGE,MEDIUM,SMALL),ORNER (LARGE,MEDIUM,",
    "ROTATION,SMALL),ROSS,URVE( (H(ALF-CIRCLE (LARGE.(ST),MEDIUM,SMALL),ITTING (CHEST,",
    "FRONT WALL)),QUARTER (LARGE.(ST),MEDIUM,SMALL),TH(EN STRAIGHT,REE-QUARTER CIRCLE (MEDIUM,",
    "SMALL))),D CROSS (MEDIUM,SMALL))),DOUBLE (ALTERNATING.( WRIST FLEX),STRAIGHT,WRIST FLEX),",
    "FINGER C(IRCLES (DOUBLE,SINGLE),ONTACT),HUMP (HITTING (CHEST,FRONT WALL),LARGE,MEDIUM,SMALL),",
    "JAW,LOOP (HITTING (CHEST,FRONT WALL),LARGE,MEDIUM,SMALL.( DOUBLE)),PEAKS (LARGE,MEDIUM,",
    "SMALL),S(HAKING,INGLE (STRAIGHT (LARGE.(ST),MEDIUM,SMALL),WRIST FLEX)),TRIPLE (ALTERNATING.(",
    " WRIST FLEX),STRAIGHT MOVEMENT,WRIST FLEX),W(AVE (CURVE (DOUBLE (LARGE,MEDIUM,SMALL),TRIPLE (",
    "LARGE,MEDIUM,SMALL)),DIAGONAL PATH (LARGE,MEDIUM,SMALL),HITTING (CHEST,FRONT WALL)),",
    "RIST CIRCLE FRONT (DOUBLE,SINGLE)),ZIGZAG (LARGE,MEDIUM,SMALL)))),N(ECK,OSE (CONTACT,NEUTRAL,",
    "W(IGGLES,RINKLES))),PARENTHESIS,R(OTATION( MODIFIER-(1(0,1,2,3,4,5,6),2,3,4,5,6,7,8,9),-(",
    "FLOORPLANE (ALTERNATING.( HITTING (CEILING,FLOOR)),DOUBLE.( HITTING (CEILING,FLOOR)),SINGLE.(",
    " HITTING (CEILING,FLOOR))),WALLPLANE (ALTERNAT(E,ING HITTING (CHEST,FRONT WALL)),DOUBLE.(",
    " HITTING (CHEST,FRONT WALL)),SINGLE.( HITTING (CHEST,FRONT WALL))))),UB (BETWEEN,MULTIPLE,",
    "SINGLE)),S(EMICOLON,HOULDER (HIP (POSITIONS,SPINE),TILTING FROM WAIST),QUEEZE (",
    "FLICK ALTERNATING,LARGE (MULTIPLE,SINGLE),S(EQUENTIAL,MALL (MULTIPLE,SINGLE))),TRIKE (",
    "BETWEEN,MULTIPLE,SINGLE),URFACE (BETWEEN,SYMBOLS)),T(E(ETH.( (BITE LIPS,MOVEMENT,ON (LIPS.(",
    " MOVEMENT),TONGUE.( MOVEMENT)))),NSE CHEEKS (HIGH,LOW,MIDDLE)),O(NGUE (CENTRE (INSIDE MOUTH,",
    "STICKING OUT),INSIDE MOUTH RELAXED,LICKING LIPS,MOVES AGAINST CHEEK,STICKING OUT FAR,TIP (",
    "BETWEEN LIPS,TOUCHING INSIDE MOUTH)),RSO-(FLOORPLANE TWISTING,WALLPLANE (CURVED BEND,",
    "STRAIGHT STRETCH)),UCH (BETWEEN,MULTIPLE,SINGLE)),RAVEL-(FLOORPLANE (ROTATION-(FLOORPLANE (",
    "ALTERNATING,DOUBLE,SINGLE),WALLPLANE (ALTERNATING,DOUBLE,SINGLE)),SHAKING),WALLPLANE (",
    "ARM SPIRAL (DOUBLE,SINGLE,TRIPLE),ROTATION-(FLOORPLANE (ALTERNATING,DOUBLE,SINGLE),",
    "WALLPLANE (ALTERNATING,DOUBLE,SINGLE)),SHAKING))),UPPER BODY TILTING FROM HIP JOINTS,",
    "WALLPLANE SHOULDER HIP MOVE)),LHOUETTE OF JAPAN,MILAR (ABOVE (GREATER-THAN ABOVE EQUALS SIGN,",
    "LESS-THAN ABOVE EQUALS SIGN),MINUS SIMILAR,OR (GREATER-THAN,LESS-THAN)),N(E WAVE,GLE (",
    "HIGH-REVERSED-9 QUOTATION MARK,L(EFT-POINTING ANGLE QUOTATION MARK,OW-9 QUOTATION MARK),",
    "RIGHT-POINTING ANGLE QUOTATION MARK),HALA (ARCHAIC (DIGIT (EIGHT,F(IVE,OUR),NINE,ONE,S(EVEN,",
    "IX),T(HREE,WO)),NUMBER (EIGHTY,F(IFTY,ORTY),NINETY,ONE (HUNDRED,THOUSAND),S(EVENTY,IXTY),T(",
    "EN,HIRTY,WENTY))),L(ETTER (A(AYANNA,E(EYANNA,YANNA),IYANNA,LPAPRAANA (BAYANNA,CAYANNA,D(",
    "AYANNA,DAYANNA),GAYANNA,JAYANNA,KAYANNA,PAYANNA,T(AYANNA,TAYANNA)),MBA BAYANNA,UYANNA,YANNA),",
    "DANTAJA (LAYANNA,NAYANNA,SAYANNA),E(EYANNA,YANNA),FAYANNA,HAYANNA,I(IYANNA,LU(UYANNA,YANNA),",
    "RU(UYANNA,YANNA),YANNA),KANTAJA NAASIKYAYA,M(A(HAAPRAANA (BAYANNA,CAYANNA,D(AYANNA,DAYANNA),",
    "GAYANNA,JAYANNA,KAYANNA,PAYANNA,T(AYANNA,TAYANNA)),YANNA),UURDHAJA (LAYANNA,NAYANNA,",
    "SAYANNA)),O(OYANNA,YANNA),RAYANNA,SANYAKA (D(AYANNA,DAYANNA),GAYANNA,JAYANNA),TAALUJA (",
    "NAASIKYAYA,SA(NYOOGA NAAKSIKYAYA,YANNA)),U(UYANNA,YANNA),VAYANNA,YAYANNA),ITH DIGIT (EIGHT,F(",
    "IVE,OUR),NINE,ONE,S(EVEN,IX),T(HREE,WO),ZERO)),PUNCTUATION KUNDDALIYA,SIGN (A(L-LAKUNA,",
    "NUSVARAYA),CANDRABINDU,VISARGAYA),VOWEL SIGN (AELA-PILLA,DIGA (AEDA-PILLA,GA(ETTA-PILLA,",
    "YANUKITTA),IS-PILLA,KOMBUVA,PAA-PILLA),GA(ETTA-PILLA,YANUKITTA),K(ETTI (AEDA-PILLA,IS-PILLA,",
    "PAA-PILLA),OMBU( DEKA,VA.( HAA (AELA-PILLA,DIGA AELA-PILLA,GAYANUKITTA))))))),X( P(",
    "ETALLED BLACK AND WHITE FLORETTE,OINTED (BLACK STAR,PINWHEEL STAR,STAR WITH MIDDLE DOT)),",
    "-PER-EM SPACE,TEEN POINTED ASTERISK)),K(ATEBOARD,I( AND SKI BOOT,ER),U(LL.( AND CROSSBONES),",
    "NK)),L(A(NTED (EQUAL TO OR (GREATER-THAN.( WITH DOT INSIDE),LESS-THAN.( WITH DOT INSIDE)),",
    "NORTH ARROW WITH HO(OKED HEAD,RIZONTAL TAIL)),VONIC ASTERISK),E(D,EP(ING (ACCOMMODATION,FACE,",
    "SYMBOL),Y FACE),UTH OR SPY),I(CE OF PIZZA,GHTLY (FROWNING FACE,SMILING FACE)),O(P(E,",
    "ING LARGE (AND,OR)),T( MACHINE,H))),M(A(LL( (A(IRPLANE,MPERSAND,STERISK),BLUE DIAMOND,CO(LON,",
    "MM(A,ERCIAL AT),NTAINS (AS MEMBER,WITH (OVERBAR,VERTICAL BAR AT END OF HORIZONTAL STROKE))),",
    "DOLLAR SIGN,E(LEMENT OF.( WITH (OVERBAR,VERTICAL BAR AT END OF HORIZONTAL STROKE)),M DASH,",
    "QUALS SIGN,XCLAMATION MARK),FULL STOP,GREATER-THAN SIGN,HYPHEN-MINUS,IDEOGRAPHIC COMMA,LE(",
    "FT (CURLY BRACKET,PARENTHESIS,TORTOISE SHELL BRACKET),SS-THAN SIGN),NUMBER SIGN,",
    "ORANGE DIAMOND,P(ERCENT SIGN,LUS SIGN),QUESTION MARK,R(EVERSE SOLIDUS,IGHT (CURLY BRACKET,",
    "PARENTHESIS,TORTOISE SHELL BRACKET),OMAN NUMERAL (E(IGHT,LEVEN),F(I(FTY,VE.( HUNDRED)),OUR),",
    "NINE,ONE.( (HUNDRED,THOUSAND)),S(EVEN,IX),T(EN,HREE,W(ELVE,O)))),SEMICOLON,T(ILDE,",
    "WO DOTS OVER ONE DOT PUNCTUATION),UP-POINTING AIRPLANE,VEE WITH UNDERBAR),ER THAN.(",
    " OR EQUAL TO)),SH PRODUCT),I(L(E,ING (CAT FACE WITH (HEART-SHAPED EYES,OPEN MOUTH),",
    "FACE WITH (H(ALO,EART-SHAPED EYES,ORNS),OPEN MOUTH.( AND (COLD SWEAT,SMILING EYES,",
    "TIGHTLY-CLOSED EYES)),S(MILING EYES.( AND (HAND COVERING MOUTH,THREE HEARTS)),UNGLASSES),",
    "TEAR))),RKING FACE),OKING SYMBOL),N(A(IL,KE),EEZING FACE,OW( CAPPED MOUNTAIN,BOARDER,FLAKE,",
    "MAN.( WITHOUT SNOW))),O(C(CER BALL,KS),FT( (HYPHEN,ICE CREAM,SHELL FLOPPY DISK),BALL,",
    "WARE-FUNCTION SYMBOL),GDIAN (COMBINING (CURVE (ABOVE,BELOW),DOT (ABOVE,BELOW),HOOK (ABOVE,",
    "BELOW),LONG HOOK BELOW,RESH BELOW,STROKE BELOW,TWO DOTS (ABOVE,BELOW)),INDEPENDENT SHIN,",
    "LETTER (A(LEPH,YIN),BETH,FETH,GIMEL,HE.(TH),KAPH,L(AMEDH,ESH),MEM,NUN,PE,RESH-AYIN,S(A(DHE,",
    "MEKH),HIN),TAW,WAW,YODH,ZAYIN),NUMBER (ONE.( HUNDRED),T(EN,WENTY)),PUNCTUATION (",
    "CIRCLE WITH DOT,HALF CIRCLE WITH DOT,TWO (CIRCLES WITH DOTS,VERTICAL BARS.( WITH DOTS)))),",
    "LID( QUILT SQUARE ORNAMENT.( IN BLACK SQUARE),US.( WITH OVERBAR)),M SIGN,",
    "ON WITH RIGHTWARDS ARROW ABOVE,RA SOMPENG (DIGIT (EIGHT,F(IVE,OUR),NINE,ONE,S(EVEN,IX),T(",
    "HREE,WO),ZERO),LETTER (AH,BAH,CAH,DAH,E(EH,H),GAH,HAH,IH,JAH,KAH,LAH,MA(E,H),N(AH,GAH,YAH),",
    "OH,PAH,RAH,SAH,TAH,UH,VAH,YAH)),U(ND RECORDING COPYRIGHT,TH (EAST (ARROW.( (",
    "AND SOUTH WEST ARROW,CROSSING NORTH EAST ARROW,FROM BAR,TO CORNER,WITH HOOK)),BLACK ARROW,",
    "DOUBLE ARROW,POINTING (BUD,LEAF,VINE LEAF),SANS-SERIF ARROW,TRIANGLE-HEADED ARROW.( TO BAR),",
    "WHITE ARROW),WEST (ARROW.( (AND NORTH WEST ARROW,FROM BAR,WITH HOOK)),BLACK ARROW,",
    "DOUBLE ARROW,POINTING (BUD,LEAF,VINE LEAF),SANS-SERIF ARROW,TRIANGLE-HEADED ARROW.( TO BAR),",
    "WHITE ARROW))),YOMBO (CLUSTER-INITIAL LETTER (LA,RA,S(A,HA)),FINAL CONSONANT SIGN (-A,B,D,G,",
    "K,L,M,N.(G),R,S.(H)),GEMINATION MARK,HEAD MARK WITH MOON AND SUN.( AND (FLAME,TRIPLE FLAME)),",
    "LETTER (-A,A,B(A,HA),C(A,HA),D(A,D(A,HA),HA,ZA),G(A,HA),HA,J(A,HA),K(A,HA,SSA),LA,MA,N(A,GA,",
    "NA,YA),P(A,HA),RA,S(A,HA,SA),T(A,HA,S(A,HA),T(A,HA)),VA,YA,Z(A,HA)),MARK (DOUBLE SHAD,PLUTA,",
    "SHAD,TSHEG),S(IGN (ANUSVARA,JIHVAMULIYA,UPADHMANIYA,VISARGA),UBJOINER),TERMINAL MARK-(1,2),",
    "VOWEL (LENGTH MARK,SIGN (A(I,U),E,I,O.(E),U.(E),VOCALIC (L,R))))),P(A(CE,GHETTI,R(KL(E.(S),",
    "ING HEART),SE (HORIZONTAL FILL,VERTICAL FILL))),E(AK(-NO-EVIL MONKEY,ER.( WITH (",
    "CANCELLATION STROKE,ONE SOUND WAVE,THREE SOUND WAVES)),ING HEAD IN SILHOUETTE),",
    "CKLE FILL FRAME-(1,2),E(CH BALLOON,DBOAT),SMILO SIGN),HERICAL ANGLE.( OPENING (LEFT,UP)),I(",
    "DER.( WEB),RAL (CALENDAR PAD,NOTE PAD,SHELL)),LA(SHING SWEAT SYMBOL,TTER),O(NGE,O(",
    "L OF THREAD,N),RTS MEDAL,UTING WHALE)),QU(A(RE( (A( OVER M,ARU,M,NPEA,P(AATO,ERTURE),RUHUA,",
    "U),B(A(ARERU,R),EETA,IRU,ORUTO,Q,USSYERU),C( OVER KG,A(L,P),C,D,M.( (CUBED,SQUARED)),O.(",
    "RPORATION),UP),D(A.(ASU),B,ESI,J,L,M.( (CUBED,SQUARED)),ORU),E(EKAA,R(A NAME (HEISEI,MEIZI,",
    "REIWA,SYOUWA,TAISYOU),G),SUKUUDO,V),F(M,O(OT,UR CORNER( (BLACK TRIANGLES,DIAGONALS,SALTIRES),",
    "S))),G(A(L,NMA,RON),B,HZ,I(GA,NII,RUDAA),PA,URAMU.(TON),Y),H(A.(ITU),E(KUTAARU,RUTU),G,",
    "IRAGANA HOKA,O(N,O(N,RU)),P.(A),U(ARADDO,IITO,RAN),Z),I(MAGE OF.( OR (EQUAL TO,",
    "NOT EQUAL TO)),N.(INGU,TI),U),K( OHM,A.(IRI,R(ATTO,ORII)),B,CAL,EESU,G,HZ,IRO.(GURAMU,",
    "MEETORU,WATTO),K,L,M.( (C(APITAL,UBED),SQUARED)),O(OPO,RUNA),PA,T,UR(OONE,UZEIRO),V,W,YURII),",
    "L(EFT OPEN BOX OPERATOR,M,N,O(G,ZENGE),X),M( (CUBED,O(HM,VER S.( SQUARED)),SQUARED),A.(HHA,I(",
    "KURO,RU),NSYON,RUKU),B.( SMALL),E(ETORU,GA.(TON)),G,HZ,I(KURON,L,RI.(BAARU)),L,M.( (CUBED,",
    "SQUARED)),OL,PA,S,U (A,F,G,L,M,S,V,W),V.( MEGA),W.( MEGA)),N(A.(NO),F,M,OTTO,S,V,W),O(NSU,",
    "OMU,RIGINAL OF.( OR (EQUAL TO,NOT EQUAL TO)),V),P(A.( AMPS,A(SENTO,TU)),C,E(EZI,N(IHI,SU),",
    "SO),F,H,I(ASUTORU,K(O,URU)),M,O(INTO,NDO,SITION INDICATOR),PM,R,S,V,W),R(AD.( OVER S.(",
    " SQUARED)),E(MU,NTOGEN),I(GHT OPEN BOX OPERATOR,RA,TTORU),OOT,U(PII,UBURU)),S(A(IKURU,",
    "NTIIMU),ENT(I,O),IRINGU,PIRAL FROM (BOTTOM (LEFT,RIGHT),TOP (LEFT,RIGHT)),R,V),T(ARGET,HZ,",
    "ON),UON,V OVER M,W(ATTO,B,ITH (BOTTOM HALF BLACK,CONTOURED OUTLINE,DIAGONAL CROSSHATCH FILL,",
    "HORIZONTAL FILL,L(EFT HALF BLACK,OWER (LEFT DIAGONAL HALF BLACK,RIGHT DIAGONAL HALF BLACK)),",
    "ORTHOGONAL CROSSHATCH FILL,RIGHT HALF BLACK,TOP HALF BLACK,UPPER (LEFT (DIAGONAL HALF BLACK,",
    "TO LOWER RIGHT FILL),RIGHT (DIAGONAL HALF BLACK,TO LOWER LEFT FILL)),VERTICAL FILL)),Y(AA(DO,",
    "RU),UAN)),D (ASTERISK,C(JK UNIFIED IDEOGRAPH-(4E(0(0,9),2D,8C,A4),5(18D,2(1D,4D,72),3(CC,F3),",
    "4(08,39),5B6,8F0,9(1A,29),B57,DE6,F8C),6(2(4B,53,95),3(07,55),5(99,B0),620,70(8,9),E80,F14),",
    "7(121,5(1F,33),981,A7A,D42),8(9E3,CA9,D70),9(04A,14D)),L,OOL),DOT OPERATOR,EIGHT K,F(",
    "ALLING DIAGONAL SLASH,IVE POINT ONE,OUR (DOT PUNCTUATION,K),REE),H(C,DR,I-RES,V),ID,K(",
    "ATAKANA (DE,KOKO,SA),EY),L(ATIN (CAPITAL LETTER (A,B,C,D,E,F,G,H,I,J,K,L,M,N,O,P,Q,R,S,T,U,V,",
    "W,X,Y,Z),SMALL LETTER D),O(GICAL (AND,OR),SSLESS)),M(INUS,V),N(EW,G),O(K,",
    "NE HUNDRED TWENTY P),P(LUS,PV),RISING DIAGONAL SLASH,S(ALTIRE,D,E(COND SCREEN,VEN POINT ONE),",
    "HV,IXTY P,MALL CIRCLE,OS,QUARE,S),T(HREE D,IMES,W(ENTY-TWO POINT TWO,O K)),U(HD,",
    "P WITH EXCLAMATION MARK),V(OD,S),WC)),T BLACK RIGHTWARDS ARROW),ID),T(A(DIUM,FF OF (",
    "AESCULAPIUS,HERMES),MPED ENVELOPE,NDING PERSON,R (AND CRESCENT,EQUALS,O(F DAVID,PERATOR),",
    "WITH (LEFT HALF BLACK,RIGHT HALF BLACK)),T(ION,UE OF LIBERTY)),E(AM( LOCOMOTIVE,ING BOWL),",
    "NOGRAPHIC FULL STOP,THOSCOPE),ICK FIGURE.( (LEANING (LEFT,RIGHT),WITH (ARMS RAISED,DRESS))),",
    "O(CK CHART,PWATCH),R(A(IGHT( RULER,NESS),WBERRY),ESS OUTLINED WHITE STAR,I(",
    "CTLY EQUIVALENT TO,PED (DOWN-POINTING TRIANGLE,LEFT-POINTING TRIANGLE,",
    "RIGHT-POINTING TRIANGLE,UP-POINTING TRIANGLE))),U(DIO MICROPHONE,FFED FLATBREAD,PA)),U(BS(",
    "CRIPT (E(IGHT,QUALS SIGN),F(IVE,OUR),LEFT PARENTHESIS,MINUS,NINE,ONE,PLUS SIGN,",
    "RIGHT PARENTHESIS,S(EVEN,IX),T(HREE,WO),ZERO),ET (ABOVE (RIGHTWARDS ARROW,SU(BSET,PERSET)),",
    "OF.( (ABOVE (ALMOST EQUAL TO,EQUALS SIGN,NOT EQUAL TO,TILDE OPERATOR),OR EQUAL TO.(",
    " WITH DOT ABOVE),WITH NOT EQUAL TO)),WITH (DOT,MULTIPLICATION SIGN BELOW,PLUS SIGN BELOW))),",
    "CCEEDS.( (ABOVE (ALMOST EQUAL TO,EQUALS SIGN,NOT (ALMOST EQUAL TO,EQUAL TO),SINGLE-LINE (",
    "EQUALS SIGN,NOT EQUAL TO)),BUT NOT EQUIVALENT TO,OR EQU(AL TO,IVALENT TO),UNDER RELATION)),",
    "MMATION (BOTTOM,TOP,WITH INTEGRAL),N.( (BEHIND CLOUD,WITH FACE),DANESE (AVAGRAHA,",
    "CONSONANT SIGN PA(MINGKAL,NY(AKRA,IKU),SANGAN (MA,WA)),DIGIT (EIGHT,F(IVE,OUR),NINE,ONE,S(",
    "EVEN,IX),T(HREE,WO),ZERO),LETTER (A.(E),B(A,HA),CA,DA,E.(U),F(A,INAL (K,M)),GA,HA,I,JA,K(A,",
    "HA),L(A,EU),MA,N(A,GA,YA),O,PA,QA,R(A,EU),S(A,YA),TA,U,VA,WA,XA,YA,ZA),PUNCTUATION BINDU (",
    "BA SATANGA,CAKRA,DA SATANGA,KA SATANGA,LEU SATANGA,P(ANGLONG,URNAMA),SURYA),SIGN (PA(MAAEH,N(",
    "G(LAYAR,WISAD),YECEK)),VIRAMA),VOWEL SIGN PA(MEPET,N(AELAENG,EULEUNG,GHULU,OLONG,YUKU))),",
    "FLOWER,RISE.( OVER MOUNTAINS),SET OVER BUILDINGS,UWAR (DIGIT (EIGHT,F(IVE,OUR),NINE,ONE,S(",
    "EVEN,IX),T(HREE,WO),ZERO),LETTER (A(AL,PPHO,VA),BUR,C(ARMI,HELAP),D(EVI,ONGA),EKO,GIL,HAMSO,",
    "IMAR,JYAH,K(HA,IK,LOKO),LOACHA,MA,N(AH,GAR),OTTHI,P(HAR,IP),REU,SHYE(LE,R),T(ASLA,ENTU,H(ARI,",
    "ELE)),UTTHI,VARCA,YAT),SIGN PVO)),PER(HERO,S(CRIPT (E(IGHT,QUALS SIGN),F(IVE,OUR),L(",
    "ATIN SMALL LETTER (I,N),EFT PARENTHESIS),MINUS,NINE,ONE,PLUS SIGN,RIGHT PARENTHESIS,S(EVEN,",
    "IX),T(HREE,WO),ZERO),ET (ABOVE (LEFTWARDS ARROW,SU(BSET,PERSET)),BESIDE (",
    "AND JOINED BY DASH WITH SUBSET,SUBSET),OF.( (ABOVE (ALMOST EQUAL TO,EQUALS SIGN,NOT EQUAL TO,",
    "TILDE OPERATOR),OR EQUAL TO.( WITH DOT ABOVE),WITH NOT EQUAL TO)),PRECEDING SOLIDUS,WITH (",
    "DOT,MULTIPLICATION SIGN BELOW,PLUS SIGN BELOW))),VILLAIN),RF(ACE INTEGRAL,ER),S(HI,",
    "PENSION RAILWAY)),W(A(N,SH AMPERSAND ORNAMENT),IMMER,UNG DASH),Y(LOTI NAGRI (LETTER (A,B(HO,",
    "O),C(HO,O),D(D(HO,O),HO,O),E,G(HO,O),HO,I,J(HO,O),K(HO,O),LO,MO,NO,O,P(HO,O),R(O,RO),SO,T(HO,",
    "O,T(HO,O)),U),POETRY MARK-(1,2,3,4),SIGN (A(LTERNATE HASANTA,NUSVARA),DVISVARA,HASANTA),",
    "VOWEL SIGN (A,E,I,OO,U)),M(BOL FOR (ACKNOWLEDGE,B(ACKSPACE,ELL),CA(NCEL,RRIAGE RETURN),D(",
    "ATA LINK ESCAPE,E(LETE.( (FORM TWO,MEDIUM SHADE FORM,RECTANGULAR CHECKER BOARD FORM,",
    "SQUARE CHECKER BOARD FORM)),VICE CONTROL (FOUR,ONE,T(HREE,WO)))),E(N(D OF (MEDIUM,T(EXT,",
    "RANSMISSION.( BLOCK))),QUIRY),SCAPE),F(ILE SEPARATOR,ORM FEED),GROUP SEPARATOR,",
    "HORIZONTAL TABULATION,LINE FEED,MARKS CHAPTER,N(E(GATIVE ACKNOWLEDGE,WLINE),ULL),",
    "RECORD SEPARATOR,S(AMARITAN SOURCE,HIFT (IN,OUT),PACE,TART OF (HEADING,TEXT),UBSTITUTE.(",
    " FORM TWO),YNCHRONOUS IDLE),TYPE A ELECTRONICS,UNIT SEPARATOR,VERTICAL TABULATION),METRY),",
    "NAGOGUE,RI(AC (ABBREVIATION MARK,BARREKH,CO(LON SKEWED (LEFT,RIGHT),NTRACTION),DOTTED ZLAMA (",
    "ANGULAR,HORIZONTAL),E(ND OF PARAGRAPH,SASA (ABOVE,BELOW)),FEMININE DOT,H(ARKLEAN (ASTERISCUS,",
    "METOBELUS,OBELUS),BASA( (ABOVE,BELOW),-ESASA DOTTED),ORIZONTAL COLON),LETTER (ALAPH,BETH,D(",
    "ALATH,OTLESS DALATH RISH),E,FINAL SEMKATH,GAMAL.( GARSHUNI),HE.(TH),KAPH,LAMADH,M(ALAYALAM (",
    "BHA,JA,LL(A,LA),N(GA,N(A,NA),YA),RA,SSA,TTA),IM),NUN,PE.(RSIAN (BHETH,DHALATH,GHAMAL)),QAPH,",
    "R(EVERSED PE,ISH),S(ADHE,EMKATH,HIN,OGDIAN (FE,KHAPH,ZHAIN),UPERSCRIPT ALAPH),T(AW,ETH.(",
    " GARSHUNI)),WAW,YUDH.( HE),ZAIN),MUSIC,OBLIQUE LINE (ABOVE,BELOW),PTHAHA (ABOVE,BELOW,",
    "DOTTED),QUSHSHAYA,R(BASA (ABOVE,BELOW),UKKAKHA,WAHA),SU(BLINEAR (COLON.( SKEWED RIGHT),",
    "FULL STOP),PRALINEAR (COLON.( SKEWED LEFT),FULL STOP)),T(HREE DOTS (ABOVE,BELOW),",
    "WO VERTICAL DOTS (ABOVE,BELOW)),ZQAPHA (ABOVE,BELOW,DOTTED)),NGE))),T(-(REX,SHIRT),A(",
    "BLE TENNIS PADDLE AND BALL,CO,G( (A(MPERSAND,POSTROPHE,STERISK),C(IRCUMFLEX ACCENT,O(LON,MM(",
    "A,ERCIAL AT))),D(IGIT (EIGHT,F(IVE,OUR),NINE,ONE,S(EVEN,IX),T(HREE,WO),ZERO),OLLAR SIGN),E(",
    "QUALS SIGN,XCLAMATION MARK),FULL STOP,GR(AVE ACCENT,EATER-THAN SIGN),HYPHEN-MINUS,L(ATIN (",
    "CAPITAL LETTER (A,B,C,D,E,F,G,H,I,J,K,L,M,N,O,P,Q,R,S,T,U,V,W,X,Y,Z),SMALL LETTER (A,B,C,D,E,",
    "F,G,H,I,J,K,L,M,N,O,P,Q,R,S,T,U,V,W,X,Y,Z)),E(FT (CURLY BRACKET,PARENTHESIS,SQUARE BRACKET),",
    "SS-THAN SIGN),OW LINE),NUMBER SIGN,P(ERCENT SIGN,LUS SIGN),QU(ESTION MARK,OTATION MARK),R(",
    "EVERSE SOLIDUS,IGHT (CURLY BRACKET,PARENTHESIS,SQUARE BRACKET)),S(EMICOLON,OLIDUS,PACE),",
    "TILDE,VERTICAL LINE),ALOG (LETTER (A.(RCHAIC RA),BA,DA,GA,HA,I,KA,LA,MA,N(A,GA),PA,RA,SA,TA,",
    "U,WA,YA),SIGN (PAMUDPOD,VIRAMA),VOWEL SIGN (I,U)),BANWA (LETTER (A,BA,DA,GA,I,KA,LA,MA,N(A,",
    "GA),PA,SA,TA,U,WA,YA),VOWEL SIGN (I,U))),I (LE LETTER (A.(I,UE),E.(E,H),FA,HA,I,K(A,HA),LA,",
    "MA,N(A,GA),O.(O),P(A,HA),QA,SA,T(A,HA,ONE-(2,3,4,5,6),S(A,HA)),U.(E),VA,XA,YA),THAM (CO(",
    "MBINING CRYPTOGRAMMIC DOT,NSONANT SIGN (BA,FINAL NGA,HIGH RATHA OR LOW PA,L(A TANG LAI,",
    "OW PA),M(A,EDIAL (LA,RA)),SA)),HORA DIGIT (EIGHT,F(IVE,OUR),NINE,ONE,S(EVEN,IX),T(HREE,WO),",
    "ZERO),LETTER (A,BA,DA,EE,GREAT SA,HIGH (C(A,HA),FA,HA,K(A,HA,XA),P(A,HA),RATHA,S(A,HA,SA),T(",
    "A,HA),YA),I.(I),L(A.(E),LA,OW (C(A,HA),FA,HA,K(A,HA,XA),P(A,HA),RATHA,SA,T(A,HA),YA),UE),MA,",
    "N(A,GA,YA),OO,R(A.(NA,TA),UE),U.(U),WA),SIGN (CAANG,DOKMAI,H(ANG,OY),K(AAN.(KUU),EOW,HUEN(",
    " TONE-(3,4,5),-LUE KARAN)),MAI (KANG.( LAI),SAM,YAMOK),R(A HAAM,EVERSED ROTATED RANA),SA(KOT,",
    "TKAAN.(KUU),WAN),TONE-(1,2),WIANG.(WAAK)),THAM DIGIT (EIGHT,F(IVE,OUR),NINE,ONE,S(EVEN,IX),T(",
    "HREE,WO),ZERO),VOWEL SIGN (A.(A,E,I),E,I.(I),MAI SAT,O.(A (ABOVE,BELOW),O,Y),T(ALL AA,",
    "HAM AI),U.(E,U.(E)))),VIET (LETTER (HIGH (BO,C(HO,O),DO,FO,GO,HO,K(H(HO,O),O),LO,MO,N(GO,O,",
    "YO),O,P(HO,O),RO,SO,T(HO,O),VO,YO),LOW (BO,C(HO,O),DO,FO,GO,HO,K(H(HO,O),O),LO,MO,N(GO,O,YO),",
    "O,P(HO,O),RO,SO,T(HO,O),VO,YO)),MAI K(ANG,HIT),SYMBOL (HO HOI,KO(I KOI,N),NUENG,SAM),",
    "TONE MAI (EK,NUENG,SONG,THO),VOWEL (A(A,M,N,UE,Y),E,I.(A),O,U.(A,E.(A))))),K(EOUT BOX,RI (",
    "ABBREVIATION SIGN,DIGIT (EIGHT,F(IVE,OUR),NINE,ONE,S(EVEN,IX),T(HREE,WO),ZERO),LETTER (A.(A,",
    "I,RCHAIC KHA,U),B(A,HA),C(A,HA),D(A,D(A,HA),HA),E,G(A,HA),HA,I.(I),J(A,HA),K(A,HA),LA,MA,N(A,",
    "GA,NA,YA),O,P(A,HA),R(A,RA),S(A,HA),T(A,HA,T(A,HA)),U.(U),VA,YA),SIGN (ANUSVARA,NUKTA,VI(",
    "RAMA,SARGA)),VOWEL SIGN (A(A,I,U),E,I.(I),O,U.(U)))),LLY MARK (FIVE,ONE),M(ALE,IL (A(",
    "ND ODD SIGN,S ABOVE SIGN,U LENGTH MARK),C(REDIT SIGN,URRENT SIGN),D(AY SIGN,EBIT SIGN,IGIT (",
    "EIGHT,F(IVE,OUR),NINE,ONE,S(EVEN,IX),T(HREE,WO),ZERO),RY CULTIVATION SIGN),FRACTION (",
    "DOWNSCALING FACTOR KIIZH,ONE (EIGHT(H,IETH),F(IFTH,ORTIETH),HALF-(1,2),",
    "ONE-HUNDRED-AND-SIXTIETH,QUARTER,SIXT(EENTH-(1,2),Y-FOURTH),T(ENTH,H(IRTY-SECOND,",
    "REE-HUNDRED-AND-TWENTIETH),WENTIETH)),THREE (EIGHTIETHS,QUARTERS,SIXT(EENTHS,Y-FOURTHS),",
    "TWENTIETHS)),IN POSSESSION SIGN,L(AND SIGN,ETTER (A.(A,I,U),CA,E.(E),HA,I.(I),JA,KA,L(A,L(A,",
    "LA)),MA,N(A,GA,N(A,NA),YA),O.(O),PA,R(A,RA),S(A,HA,SA),T(A,TA),U.(U),VA,YA)),MONTH SIGN,",
    "NUMBER (ONE (HUNDRED,THOUSAND),SIGN,TEN),OM,PUNCTUATION END OF TEXT,RUPEE SIGN,S(",
    "ALT PAN SIGN,IGN (A(AZHAAKKU,NUSVARA),CEVITU,K(AACU,U(RUNI,ZHI)),MU(KKURUNI,THALIYA,",
    "UVUZHAKKU),NEL,P(A(ARAM,NAM,THAKKU),ON),UZHAKKU,V(A(KAIYARAA,RAAKAN),ELI,I(RAMA,SARGA))),",
    "PENT SIGN,TARTING FROM SIGN),T(OTAL SIGN,RADITIONAL (CREDIT SIGN,NUMBER SIGN)),VOWEL SIGN (A(",
    "A,I,U),E.(E),I.(I),O.(O),U.(U)),WET CULTIVATION SIGN,YEAR SIGN)),N(ABATA TREE,G(ERINE,SA (",
    "DIGIT (EIGHT,F(IVE,OUR),NINE,ONE,S(EVEN,IX),T(HREE,WO),ZERO),LETTER (A(C,Q,W(C,Q,X,Z),X,Z),",
    "BA,C(A,HA),D(A,HA),E(C,Q,X,Z),F(A,INAL NG),G(A,HA),H(A,T(A,TA)),I(C,Q,X,Z),K(A,HA),L(A,",
    "ONG UEX),M(A,C,Q,X,Z),N(A,GA,HA,YA),O(C,Q,X,Z),P(A,HA),RA,S(A,H(A,ORT (AWX,UEZ))),T(A,HA,SA),",
    "U(C,E(C,Q,X,Z),I(C,Q,U(C,Q,X,Z),X,Z),Q,X,Z),V(C,Q,X,Z),WA,XA,YA,ZA)),UT (COMPONENT-(0(0(1,2,",
    "3,4,5,6,7,8,9),1(0,1,2,3,4,5,6,7,8,9),2(0,1,2,3,4,5,6,7,8,9),3(0,1,2,3,4,5,6,7,8,9),4(0,1,2,",
    "3,4,5,6,7,8,9),5(0,1,2,3,4,5,6,7,8,9),6(0,1,2,3,4,5,6,7,8,9),7(0,1,2,3,4,5,6,7,8,9),8(0,1,2,",
    "3,4,5,6,7,8,9),9(0,1,2,3,4,5,6,7,8,9)),1(0(0,1,2,3,4,5,6,7,8,9),1(0,1,2,3,4,5,6,7,8,9),2(0,1,",
    "2,3,4,5,6,7,8,9),3(0,1,2,3,4,5,6,7,8,9),4(0,1,2,3,4,5,6,7,8,9),5(0,1,2,3,4,5,6,7,8,9),6(0,1,",
    "2,3,4,5,6,7,8,9),7(0,1,2,3,4,5,6,7,8,9),8(0,1,2,3,4,5,6,7,8,9),9(0,1,2,3,4,5,6,7,8,9)),2(0(0,",
    "1,2,3,4,5,6,7,8,9),1(0,1,2,3,4,5,6,7,8,9),2(0,1,2,3,4,5,6,7,8,9),3(0,1,2,3,4,5,6,7,8,9),4(0,",
    "1,2,3,4,5,6,7,8,9),5(0,1,2,3,4,5,6,7,8,9),6(0,1,2,3,4,5,6,7,8,9),7(0,1,2,3,4,5,6,7,8,9),8(0,",
    "1,2,3,4,5,6,7,8,9),9(0,1,2,3,4,5,6,7,8,9)),3(0(0,1,2,3,4,5,6,7,8,9),1(0,1,2,3,4,5,6,7,8,9),2(",
    "0,1,2,3,4,5,6,7,8,9),3(0,1,2,3,4,5,6,7,8,9),4(0,1,2,3,4,5,6,7,8,9),5(0,1,2,3,4,5,6,7,8,9),6(",
    "0,1,2,3,4,5,6,7,8,9),7(0,1,2,3,4,5,6,7,8,9),8(0,1,2,3,4,5,6,7,8,9),9(0,1,2,3,4,5,6,7,8,9)),4(",
    "0(0,1,2,3,4,5,6,7,8,9),1(0,1,2,3,4,5,6,7,8,9),2(0,1,2,3,4,5,6,7,8,9),3(0,1,2,3,4,5,6,7,8,9),",
    "4(0,1,2,3,4,5,6,7,8,9),5(0,1,2,3,4,5,6,7,8,9),6(0,1,2,3,4,5,6,7,8,9),7(0,1,2,3,4,5,6,7,8,9),",
    "8(0,1,2,3,4,5,6,7,8,9),9(0,1,2,3,4,5,6,7,8,9)),5(0(0,1,2,3,4,5,6,7,8,9),1(0,1,2,3,4,5,6,7,8,",
    "9),2(0,1,2,3,4,5,6,7,8,9),3(0,1,2,3,4,5,6,7,8,9),4(0,1,2,3,4,5,6,7,8,9),5(0,1,2,3,4,5,6,7,8,",
    "9),6(0,1,2,3,4,5,6,7,8,9),7(0,1,2,3,4,5,6,7,8,9),8(0,1,2,3,4,5,6,7,8,9),9(0,1,2,3,4,5,6,7,8,",
    "9)),6(0(0,1,2,3,4,5,6,7,8,9),1(0,1,2,3,4,5,6,7,8,9),2(0,1,2,3,4,5,6,7,8,9),3(0,1,2,3,4,5,6,7,",
    "8,9),4(0,1,2,3,4,5,6,7,8,9),5(0,1,2,3,4,5,6,7,8,9),6(0,1,2,3,4,5,6,7,8,9),7(0,1,2,3,4,5,6,7,",
    "8,9),8(0,1,2,3,4,5,6,7,8,9),9(0,1,2,3,4,5,6,7,8,9)),7(0(0,1,2,3,4,5,6,7,8,9),1(0,1,2,3,4,5,6,",
    "7,8,9),2(0,1,2,3,4,5,6,7,8,9),3(0,1,2,3,4,5,6,7,8,9),4(0,1,2,3,4,5,6,7,8,9),5(0,1,2,3,4,5,6,",
    "7,8,9),6(0,1,2,3,4,5,6,7,8))),ITERATION MARK))),PE (CARTRIDGE,DRIVE),URUS,XI),E(A(",
    "CUP WITHOUT HANDLE,POT,R(-OFF CALENDAR,DROP-(BARBED RIGHTWARDS ARROW,SPOKED ASTERISK))),",
    "DDY BEAR,L(E(PHONE (LOCATION SIGN,ON TOP OF MODEM,REC(EIVER.( WITH PAGE),ORDER),SIGN),SCOPE,",
    "VISION),UGU (AI LENGTH MARK,DIGIT (EIGHT,F(IVE,OUR),NINE,ONE,S(EVEN,IX),T(HREE,WO),ZERO),",
    "FRACTION DIGIT (ONE FOR (EVEN POWERS OF FOUR,ODD POWERS OF FOUR),T(HREE FOR (",
    "EVEN POWERS OF FOUR,ODD POWERS OF FOUR),WO FOR (EVEN POWERS OF FOUR,ODD POWERS OF FOUR)),",
    "ZERO FOR ODD POWERS OF FOUR),LE(NGTH MARK,TTER (A.(A,I,U),B(A,HA),C(A,HA),D(A,D(A,HA),HA,ZA),",
    "E.(E),G(A,HA),HA,I.(I),J(A,HA),K(A,HA),L(A,L(A,LA)),MA,N(A.(KAARA POLLU),GA,NA,YA),O.(O),P(A,",
    "HA),R(A,R(A,RA)),S(A,HA,SA),T(A,HA,SA,T(A,HA)),U.(U),V(A,OCALIC (L.(L),R.(R))),YA)),SIGN (A(",
    "NUSVARA,VAGRAHA),C(ANDRABINDU,OMBINING (ANUSVARA ABOVE,CANDRABINDU ABOVE)),NUKTA,SIDDHAM,",
    "TUUMU,VI(RAMA,SARGA)),VOWEL SIGN (A(A,I,U),E.(E),I.(I),O.(O),U.(U),VOCALIC (L.(L),R.(R))))),",
    "N(GE SIGN,NIS RACQUET AND BALL,T),ST TUBE,TRAGRAM FOR (A(CCUMULATION,DVANCE,GGRAVATION,",
    "SCENT),B(ARRIER,OLD RESOLUTION,RANCHING OUT),C(ENTRE,HANGE,LOS(E(D MOUTH,NESS),URE),O(MPL(",
    "ETION,IANCE),N(STANCY,T(ACT,ENTION,RARIETY)))),D(ARKENING,E(CISIVENESS,",
    "FECTIVENESS OR DISTORTION,PARTURE),I(FFICULTIES,M(INISHMENT,MING),VERGENCE),OUBT,UTIES),E(",
    "ASE,MBELLISHMENT,N(COUNTERS,DEAVOUR,LARGEMENT),TERNITY,XHAUSTION),F(AILURE,LIGHT,O(LLOWING,",
    "STERING),ULL( CIRCLE,NESS)),G(ATHERING.( IN),OING TO MEET,REATNESS,UARDEDNESS),H(ARDNESS,",
    "OLDING BACK),IN(CREASE,NER),JOY,K(EEPING SMALL,INSHIP),L(A(BOURING,W OR MODEL),EGION),M(",
    "ASSING,EASURE,IRED),O(N THE VERGE,PPOSITION),P(A(CKING,TTERN),ENETRATION,URITY),R(E(ACH,",
    "LEASE,S(I(DENCE,STANCE),PONSE)),ITUAL),S(EVERANCE,INKING,T(O(PPAGE,VE),RENGTH)),UNITY,",
    "VASTNESS OR WASTING,WA(ITING,TCH),YOUTHFULNESS)),H(A(ANA (A(ABAAFILI,BAFILI),E(BEFILI,",
    "EBEEFILI,YBEYFILI),IBIFILI,LETTER (A(INU,LIFU),BAA,CHAVIYANI,D(A(ADHU,VIYANI),HAALU),FAAFU,G(",
    "AAFU,HAINU,NAVIYANI),H(AA,HAA),JAVIYANI,K(AAFU,HAA),L(AAMU,HAVIYANI),MEEMU,N(AA,OONU),",
    "PAVIYANI,QAAFU,RAA,S(AADHU,EENU,H(AVIYANI,EENU)),T(AVIYANI,HAA.(LU),O,TAA),VAAVU,WAAVU,YAA,Z(",
    "A(A,VIYANI),O)),O(ABOAFILI,BOFILI,OBOOFILI),SUKUN,UBUFILI),I (C(HARACTER (ANGKHANKHU,",
    "BO BAIMAI,CHO CH(AN.(G),ING,OE),DO (CHADA,DEK),FO( FA.(N),NGMAN),HO (HIP,NOKHUK),K(HO( (KH(",
    "AI,ON,UAT,WAI),RAKHANG),MUT),O KAI),L(AKKHANGYAO,O (CHULA,LING),U),M(AI( (CHATTAWA,EK,",
    "HAN-AKAT,T(HO,RI)),TAIKHU,YAMOK),O MA),N(GO NGU,IKHAHIT,O N(EN,U)),O ANG,P(AIYANNOI,H(INTHU,",
    "O (PH(AN,UNG),SAMPHAO)),O PLA),R(O RUA,U),S(ARA (A.(A,E,I MAIM(ALAI,UAN),M),E,I.(I),O,U.(E.(",
    "E),U)),O (RUSI,S(ALA,O,UA))),T(H(ANTHAKHAT,O (NANGMONTHO,PHUTHAO,TH(A(HAN,N),ONG,UNG))),O (",
    "PATAK,TAO)),WO WAEN,Y(AMAKKAN,O Y(AK,ING))),URRENCY SYMBOL BAHT),DIGIT (EIGHT,F(IVE,OUR),",
    "NINE,ONE,S(EVEN,IX),T(HREE,WO),ZERO))),ER(E( (DOES NOT EXIST,EXISTS),FORE),MO(DYNAMIC,",
    "METER)),I(N( (GREEK CROSS,S(ALTIRE,PACE)),KING FACE),RD PLACE MEDAL),O(NG SANDAL,",
    "UGHT BALLOON),REE( (BUTTON MOUSE,CONSECUTIVE EQUALS SIGNS,D(IMENSIONAL ANGLE,OT PUNCTUATION),",
    "L(EFTWARDS ARROWS,INES CONVERGING (LEFT,RIGHT)),NETWORKED COMPUTERS,POINTED BLACK STAR,R(",
    "AYS (ABOVE,BELOW,LEFT,RIGHT),IGHTWARDS ARROWS),SPEECH BUBBLES),-(D (",
    "BOTTOM-LIGHTED RIGHTWARDS ARROWHEAD,LEFT-LIGHTED DOWNWARDS EQUILATERAL ARROWHEAD,",
    "RIGHT-LIGHTED UPWARDS EQUILATERAL ARROWHEAD,TOP-LIGHTED (LEFTWARDS EQUILATERAL ARROWHEAD,",
    "RIGHTWARDS (ARROWHEAD,EQUILATERAL ARROWHEAD))),EM DASH,PER-EM SPACE)),U(MBS (DOWN SIGN,",
    "UP SIGN),NDER( CLOUD AND RAIN,STORM))),I(BETAN (ASTROLOGICAL SIGN (-KHYUD PA,S(DONG TSHUGS,",
    "GRA GCAN -CHAR RTAGS)),CANTILLATION SIGN (CANG TE-U,HEAVY BEAT,LIGHT BEAT,SBUB -CHAL),DIGIT (",
    "EIGHT,F(IVE,OUR),HALF (EIGHT,F(IVE,OUR),NINE,ONE,S(EVEN,IX),T(HREE,WO),ZERO),NINE,ONE,S(EVEN,",
    "IX),T(HREE,WO),ZERO),KU RU KHA.( BZHI MIG CAN),L(ETTER (-A,A,B(A,HA),C(A,HA),D(A,D(A,HA),HA,",
    "Z(A,HA)),FIXED-FORM RA,G(A,HA),HA,JA,K(A,HA,KA,SSA),LA,MA,N(A,GA,NA,YA),P(A,HA),R(A,RA),S(A,",
    "HA,SA),T(A,HA,S(A,HA),T(A,HA)),WA,YA,Z(A,HA)),OGOTYPE SIGN (CHAD RTAGS,LHAG RTAGS)),MARK (",
    "ANG KHANG GY(AS,ON),B(KA- SHOG YIG MGO,S(DUS RTAGS,K(A- SHOG GI MGO RGYAN,UR YIG MGO))),C(",
    "ARET (-DZUD RTAGS (BZHI MIG CAN,ME LONG CAN),YIG MGO PHUR SHAD MA),HE MGO,LOSING (",
    "BRDA RNYING YIG MGO SGAB MA,YIG MGO SGAB MA)),DELIMITER TSHEG BSTAR,G(TER (TSHEG,YIG MGO (",
    "-UM (GTER TSHEG MA,RNAM BCAD MA),TRUNCATED A)),UG RTAGS GY(AS,ON)),HALANTA,IN(ITIAL (",
    "BRDA RNYING YIG MGO MDUN MA,YIG MGO MDUN MA),TERSYLLABIC TSHEG),LEADING MCHAN RTAGS,",
    "MNYAM YIG GI MGO RGYAN,N(GAS BZUNG (NYI ZLA,SGOR RTAGS),YIS (SHAD,TSHEG.( SHAD))),PALUTA,R(",
    "GYA GRAM SHAD,IN CHEN SPUNGS SHAD),S(BRUL SHAD,HAD),T(RAILING MCHAN RTAGS,S(A -PHRU,",
    "HEG SHAD)),YIG MGO TSHEG SHAD MA),S(IGN (GRU (CAN RGYINGS,MED RGYINGS),INVERTED MCHU CAN,LC(",
    "E TSA CAN,I RTAGS),M(AR TSHES,CHU CAN),NYI ZLA NAA DA,R(DEL (DKAR (G(CIG,NYIS,SUM),RDEL NAG),",
    "NAG (G(CIG,NYIS,SUM),RDEL DKAR)),JES SU NGA RO,NAM BCAD),SNA LDAN,YA(NG RTAGS,R TSHES)),",
    "UBJOINED (LETTER (-A,A,B(A,HA),C(A,HA),D(A,D(A,HA),HA,Z(A,HA)),FIXED-FORM (RA,WA,YA),G(A,HA),",
    "HA,JA,K(A,HA,SSA),LA,MA,N(A,GA,NA,YA),P(A,HA),RA,S(A,HA,SA),T(A,HA,S(A,HA),T(A,HA)),WA,YA,Z(",
    "A,HA)),SIGN (INVERTED MCHU CAN,LCE TSA CAN,MCHU CAN)),Y(LLABLE OM,MBOL (DRIL BU,NOR BU.( (",
    "BZHI -KHYIL,GSUM -KHYIL,NYIS -KHYIL)),P(ADMA GDAN,HUR PA),RDO RJE.( RGYA GRAM)))),",
    "VOWEL SIGN (AA,E.(E),I.(I),O.(O),REVERSED I.(I),U.(U),VOCALIC (L.(L),R.(R)))),CKET,",
    "E OVER INFINITY,FINAGH (CONSONANT JOINER,LETTER (A(HAGGAR YAZH,YER YAGH),BERBER ACADEMY YA(H,",
    "J),T(AWELLEMET YAZ,UAREG YA(G(H,N),H,K.(H),NG,Q,ZH)),Y(A.(A,B.(H),CH,D.(D.(H),H),F,G.(H.(H)),",
    "H.(H),J,K.(H.(H)),L,M,N,P,Q,R.(R),S.(H,S),T.(H,T),V,W,Y,Z.(H,Z)),E.(Y),I,O,U)),",
    "MODIFIER LETTER LABIALIZATION MARK,SEPARATOR MARK),G(ER.( FACE),HT TRIFOLIATE SNOWFLAKE),",
    "LDE.( (OPERATOR.( (ABOVE (LEFTWARDS ARROW,RIGHTWARDS ARROW),WITH (DOT ABOVE,RISING DOTS))),",
    "WITH (DOT (ABOVE,BELOW),RING ABOVE))),ME(R CLOCK,S WITH (LEFT HALF BLACK,RIGHT HALF BLACK)),",
    "NY.( TWO DOTS OVER ONE DOT PUNCTUATION),R(ED FACE,HUTA (A(BBREVIATION SIGN,NJI),DIGIT (EIGHT,",
    "F(IVE,OUR),NINE,ONE,S(EVEN,IX),T(HREE,WO),ZERO),GVANG,LETTER (A.(A,I,U),B(A,HA),C(A,HA),D(A,",
    "D(A,HA),HA),E,G(A,HA),HA,I.(I),J(A,HA),K(A,HA),LA,MA,N(A,GA,NA,YA),O,P(A,HA),RA,S(A,HA,SA),T(",
    "A,HA,T(A,HA)),U.(U),V(A,OCALIC (L.(L),R.(R))),YA),OM,SIGN (A(NUSVARA,VAGRAHA),CANDRABINDU,",
    "NUKTA,VI(RAMA,SARGA)),VOWEL SIGN (A(A,I,U),E,I.(I),O,SHORT (E,O),U.(U),VOCALIC (L.(L),R.(",
    "R)))),ONIAN SIGN (CAPITAL ET,ET))),O(DHRI LETTER (A.(S),BA,C(A,HA),D(A,HA),E.(I),FA,G(A,HA,",
    "JA),H(A,JA),I,J(A,Y),K(A,HA),L(A,LA),M(A,BA),N(A,DA,G(A,JA),JAN,X(A,HA)),O.(O),P(A,SA),QA,R(",
    "A,RA),S(A,H(A,TA),KAN,TA),T(A,HA),U,VA,X(A,HA),Y,Z(A,HA)),ILET,KYO TOWER,MATO,NGUE,O(LBOX,",
    "TH.(BRUSH)),P (ARC (ANTICLOCKWISE ARROW.( WITH PLUS),CLOCKWISE ARROW WITH MINUS),",
    "CURLY BRACKET,HA(LF (BLACK CIRCLE,F(LAILING ROBOT FRAME-(1,2),ORWARD-FACING R(OBOT,UNNER)),",
    "INTEGRAL,LEFT( PARENTHESIS,-FACING R(OBOT,UNNER FRAME-(1,2))),RIGHT( PARENTHESIS,-FACING R(",
    "OBOT,UNNER FRAME-(1,2))),S(ECTION SIGN,TANDING PERSON)),T),JUSTIFIED LOWER HALF (",
    "BLACK CIRCLE,WHITE CIRCLE),LEFT (BLACK LEFT-POINTING SMALL TRIANGLE,C(ORNER,ROP),",
    "HALF BRACKET,JUSTIFIED LOWER RIGHT QUARTER BLACK CIRCLE),PARENTHESIS,RIGHT (C(ORNER,ROP),",
    "HALF BRACKET,JUSTIFIED LOWER LEFT QUARTER BLACK CIRCLE),SQUARE BRACKET,",
    "TORTOISE SHELL BRACKET,WITH UPWARDS ARROW ABOVE),RTOISE SHELL BRACKETED (",
    "CJK UNIFIED IDEOGRAPH-(4E(09,8C),5(2DD,B89),6(253,557,72C),7(0B9,6D7)),",
    "LATIN CAPITAL LETTER S),T(AL RUNOUT,O (LETTER (A.(E),B(A,REATHY (AE,E.(O),I.(U))),CHA,DA,E.(",
    "O),GA,HA,I.(U),JA,KA,LA,MA,N(A,GA),O,PA,RA,SA,TA,U,WA,YA),SIGN RISING TONE))),R(A(C(KBALL,",
    "TOR),DE MARK SIGN,IN,M.( CAR),NS(PLUTO,VERSAL INTERSECTION)),I(ANG(LE( WITH (DOT ABOVE,",
    "ROUNDED CORNERS,SERIFS AT BOTTOM,UNDERBAR),-HEADED RIGHTWARDS ARROW),ULAR (BULLET,",
    "FLAG ON POST,RULER)),COLON,DENT EMBLEM,GRAM FOR (EARTH,FIRE,HEAVEN,LAKE,MOUNTAIN,THUNDER,W(",
    "ATER,IND)),PLE (COLON OPERATOR,DAGGER,HORIZONTAL BAR WITH (DOUBLE VERTICAL STROKE,",
    "TRIPLE VERTICAL STROKE),INTEGRAL,NESTED (GREATER-THAN,LESS-THAN),P(LUS,RIME),",
    "SOLIDUS BINARY RELATION,TILDE,VERTICAL BAR (BINARY RELATION,DELIMITER,RIGHT TURNSTILE,",
    "WITH HORIZONTAL STROKE))),O(LL.(EYBUS),P(HY,ICAL (DRINK,FISH))),U(E.( LIGHT MOON ARTA),",
    "MPET)),U(GRIK SIGN,L(IP,U-TIGALARI (AU LENGTH MARK,CONJOINER,D(ANDA,OUBLE DANDA),",
    "GEMINATION MARK,LETTER (A.(A,I,U),B(A,HA),C(A,HA),D(A,D(A,HA),HA),EE,G(A,HA),HA,I.(I),J(A,",
    "HA),K(A,HA),L(A,L(A,LA)),MA,N(A,GA,NA,YA),OO,P(A,HA),R(A,RA),S(A,HA,SA),T(A,HA,T(A,HA)),U.(",
    "U),V(A,OCALIC (L.(L),R.(R))),YA),REPHA,SIGN (A(NUSVARA,VAGRAHA),CANDRA ANUNASIKA,",
    "LOOPED VIRAMA,OM PUSHPIKA,PLUTA,SHRII PUSHPIKA,VI(RAMA,SARGA)),V(EDIC TONE (ANUDATTA,",
    "SVARITA),OWEL SIGN (A(A,I,U),EE,I.(I),OO,U.(U),VOCALIC (L.(L),R.(R)))))),MBLER GLASS,R(K(EY,",
    "ISH LIRA SIGN),NED (A(MPERSAND,NGLE),BLACK (PENTAGON,SHOGI PIECE),C(APITAL F,OMMA),D(AGGER,",
    "IGIT T(HREE,WO)),GREEK SMALL LETTER IOTA,NO(RTH (EAST POINTING LEAF,WEST POINTING LEAF),",
    "T SIGN),OK HAND SIGN,S(ANS-SERIF CAPITAL (G,L,Y),EMICOLON,MALL F,OUTH (EAST POINTING LEAF,",
    "WEST POINTING LEAF)),WHITE SHOGI PIECE),TLE)),W(ELVE POINTED BLACK STAR,",
    "ISTED RIGHTWARDS ARROWS,O( (ASTERISKS ALIGNED VERTICALLY,BUTTON MOUSE,",
    "CONSECUTIVE EQUALS SIGNS,DOT( (LEADER,PUNCTUATION),S OVER ONE DOT PUNCTUATION),HEARTS,",
    "INTERSECTING LOGICAL (AND,OR),JOINED SQUARES,LOGICAL (AND OPERATOR,OR OPERATOR),",
    "MEN HOLDING HANDS,RINGS ALIGNED HORIZONTALLY,SPEECH BUBBLES,WOMEN HOLDING HANDS),-EM DASH))),",
    "U(GARITIC (LETTER (A(IN,LPA),BETA,D(ELTA,HAL),G(AMLA,HAIN),HO.(TA),I,K(AF,HA),LAMDA,MEM,NUN,",
    "PU,QOPA,RASHA,S(A(DE,MKA),HIN,SU),T(ET,HANNA,O),U,WO,YOD,Z(ETA,U)),WORD DIVIDER),MBRELLA.( (",
    "ON GROUND,WITH RAIN DROPS)),N(AMUSED FACE,CERTAINTY SIGN,D(ERTIE,O SYMBOL),I(CORN FACE,ON.( (",
    "ABOVE (BAR ABOVE INTERSECTION,INTERSECTION),BESIDE AND JOINED WITH UNION,WITH (LOGICAL OR,",
    "MINUS SIGN,OVERBAR))),TED SYMBOL,VERSAL RECYCLING SYMBOL),MARRIED PARTNERSHIP SYMBOL),P( (",
    "ARROW( THROUGH CIRCLE,HEAD.( (BETWEEN TWO HORIZONTAL BARS,IN A RECTANGLE BOX))),BARB (",
    "LEFT DOWN BARB (LEFT HARPOON,RIGHT HARPOON),RIGHT DOWN BARB (LEFT HARPOON,RIGHT HARPOON)),",
    "DOWN (ARROW.( WITH BASE),BLACK ARROW,DOUBLE ARROW,SANS-SERIF ARROW,TRIANGLE-HEADED ARROW,",
    "WHITE ARROW),FISH TAIL,RIGHT DIAGONAL ELLIPSIS,TACK.( WITH CIRCLE ABOVE)),-(",
    "FACING SNAKE HEAD WITH (CLOSED MOUTH,OPEN MOUTH),POINTING (A(IRPLANE,TOMIC BOMB),ENERGY WAVE,",
    "FROG,GO-KART,MILITARY AIRPLANE,R(ACING CAR,ED TRIANGLE,IFLE,OCKET SHIP),SMALL (AIRPLANE,",
    "RED TRIANGLE),TRIANGLE WITH (LEFT HALF BLACK,RIGHT HALF BLACK))),PER (AND (L(",
    "EFT AND LOWER TRIANGULAR THREE QUARTERS BLOCK,OWER (ONE EIGHTH BLOCK,TRIANGULAR HALF BLOCK)),",
    "RIGHT AND LOWER TRIANGULAR THREE QUARTERS BLOCK),BLADE SCISSORS,CENTRE (LEFT (",
    "ONE SIXTEENTH BLOCK,TWELFTH CIRCLE),ONE QUARTER BLOCK,RIGHT (ONE SIXTEENTH BLOCK,",
    "TWELFTH CIRCLE)),FIVE EIGHTHS BLOCK,HALF (BLOCK.( AND LOWER HALF INVERSE MEDIUM SHADE),",
    "CIRCLE,HEAVY WHITE SQUARE,INVERSE (MEDIUM SHADE AND LOWER HALF BLOCK,WHITE CIRCLE),",
    "LEFT ONE QUARTER BLOCK,MEDIUM SHADE,RIGHT ONE QUARTER BLOCK,",
    "VERTICAL LINE WITH THREE TICK MARKS),LEFT (BLOCK DIAGONAL (LOWER (CENTRE TO (",
    "LOWER MIDDLE RIGHT,UPPER (MIDDLE RIGHT,RIGHT)),LEFT TO (LOWER MIDDLE RIGHT,UPPER (CENTRE,",
    "MIDDLE RIGHT)),MIDDLE LEFT TO UPPER (CENTRE,MIDDLE RIGHT,RIGHT)),UPPER MIDDLE LEFT TO UPPER (",
    "CENTRE,RIGHT)),CORNER WITH DOT,O(NE SIXTEENTH BLOCK,R LOWER RIGHT CURLY BRACKET SECTION),QUA(",
    "DRANT (C(HESS (BISHOP,K(ING,NIGHT),PAWN,QUEEN,ROOK),IRCULAR ARC),FACE WITH (CLOSED EYES,",
    "OPEN EYES),MICROCOMPUTER,STANDING KNIGHT,TELEVISION),RTER CIRCLE),T(O LOWER RIGHT FILL,RIANG(",
    "LE,ULAR MEDIUM SHADE),WELFTH CIRCLE)),MIDDLE (CENTRE (LEFT ONE SIXTEENTH BLOCK,",
    "RIGHT ONE SIXTEENTH BLOCK),LEFT (ONE SIXTEENTH BLOCK,TWELFTH CIRCLE),RIGHT (",
    "ONE SIXTEENTH BLOCK,TWELFTH CIRCLE)),ONE (EIGHTH BLOCK,QUARTER BLOCK),RIGHT (BLOCK DIAGONAL (",
    "LOWER MIDDLE LEFT TO LOWER (CENTRE,RIGHT),UPPER (CENTRE TO (LOWER (MIDDLE RIGHT,RIGHT),",
    "UPPER MIDDLE RIGHT),LEFT TO (LOWER (CENTRE,MIDDLE RIGHT),UPPER MIDDLE RIGHT),",
    "MIDDLE LEFT TO LOWER (CENTRE,MIDDLE RIGHT,RIGHT))),DROP-SHADOWED WHITE SQUARE,O(",
    "NE SIXTEENTH BLOCK,R LOWER LEFT CURLY BRACKET SECTION),PENCIL,QUA(DRANT (C(HESS (BISHOP,K(",
    "ING,NIGHT),PAWN,QUEEN,ROOK),IRCULAR ARC),FACE WITH (CLOSED EYES,OPEN EYES),MICROCOMPUTER,",
    "STANDING KNIGHT,TELEVISION),RTER CIRCLE),SHADOWED WHITE (CIRCLE,SQUARE),T(O LOWER LEFT FILL,",
    "RIANG(LE,ULAR MEDIUM SHADE),WELFTH CIRCLE)),SEVEN EIGHTHS BLOCK,T(HREE (EIGHTHS BLOCK,",
    "QUARTERS (BLOCK,LEFT ONE QUARTER BLOCK,RIGHT ONE QUARTER BLOCK)),",
    "RIANGULAR ONE QUARTER BLOCK)),SIDE-DOWN FACE,WARDS (A(NCORA,RROW.( (",
    "AND RIGHT ONE EIGHTH BLOCK,FROM BAR,LEFTWARDS OF DOWNWARDS ARROW,TO BAR,WITH (DOUBLE STROKE,",
    "EQUILATERAL ARROWHEAD,HORIZONTAL STROKE,LARGE TRIANGLE ARROWHEAD,MEDIUM TRIANGLE ARROWHEAD,",
    "NOTCHED TAIL,SMALL (EQUILATERAL ARROWHEAD,TRIANGLE ARROWHEAD),TIP (LEFTWARDS,RIGHTWARDS))))),",
    "BLACK (ARROW,CIRCLED WHITE ARROW),COMPRESSED ARROW,D(ASHED ARROW,OUBLE ARROW),",
    "FINGER-POST ARROW,H(ARPOON WITH BARB (LEFT( (BESIDE (DOWNWARDS HARPOON WITH BARB RIGHT,",
    "UPWARDS HARPOON WITH BARB RIGHT),FROM BAR,TO BAR),WARDS),RIGHT( (FROM BAR,TO BAR),WARDS)),",
    "EAVY (ARROW,COMPRESSED ARROW)),PAIRED ARROWS,QUADRUPLE ARROW,ROCKET,S(ANS-SERIF ARROW,",
    "QUARED ARROW),T(RI(ANGLE( ARROWHEAD,-HEADED (ARROW.( (",
    "LEFTWARDS OF DOWNWARDS TRIANGLE-HEADED ARROW,TO BAR,WITH (BOLD SHAFT,",
    "DOUBLE HORIZONTAL STROKE,HEAVY SHAFT,LONG TIP (LEFTWARDS,RIGHTWARDS),MEDIUM SHAFT,",
    "NARROW SHAFT,VERY HEAVY SHAFT))),DASHED ARROW,PAIRED ARROWS)),PLE ARROW),WO( HEADED ARROW,",
    "-HEADED ARROW (FROM SMALL CIRCLE,WITH TRIANGLE ARROWHEADS))),WHITE (ARROW.( (FROM BAR.(",
    " WITH HORIZONTAL BAR),ON PEDESTAL.( WITH (HORIZONTAL BAR,VERTICAL BAR)),",
    "WITHIN TRIANGLE ARROWHEAD)),DOUBLE ARROW.( ON PEDESTAL)))),RANUS),V(A(I (COMMA,DIGIT (EIGHT,",
    "F(IVE,OUR),NINE,ONE,S(EVEN,IX),T(HREE,WO),ZERO),FULL STOP,QUESTION MARK,SY(LLABLE (A.(N),B(A,",
    "E.(E),H(A,E.(E),I,O.(O),U),I,O.(O),U),C(A,E.(E),I,O.(O),U),D(A,E.(E),H(A,E.(E),H(A,E.(E),I,",
    "O.(O),U),I,O.(O),U),I,O.(O),U),E.(E.(N),N),F(A,E.(E),I,O.(O),U),G(A,B(A,E.(E,N),I,O.(N,O),U),",
    "E.(E,N),I,O.(O),U),H(A.(N),E.(E,N),I.(N),O.(N,O),U.(N)),I.(N),J(A,E.(E),I,O.(O),U),K(A.(N),",
    "E.(E),I,O.(O),P(A.(N),E.(E,N),I,O.(O),U),U),L(A,E.(E,NGTHENER),I,O.(O),U),M(A,B(A,E.(E),I,O.(",
    "O),U),E.(E),GB(A,E.(E),I,O.(O),U),I,O.(O),U),N(A,D(A,E.(E),I,O.(LE (DO,FA,KA,MA,SOO),O),U),",
    "E.(E),G.(AN,EN,G(A,E.(E,N),I,O.(O),U),ON),I,J(A,E.(E),I,O.(O),U),O.(O),U,Y(A,E.(E),I,O.(O),",
    "U)),O.(N,O.(N)),P(A,E.(E),I,O.(O),U),R(A,E.(E),I,O.(O),U),S(A,E.(E),H(A,E.(E),I,O.(O),U),I,",
    "O.(O),U),T(A,E.(E),H(A,E.(E),I,O.(O),U),I,O.(O),U),U.(N),V(A,E.(E),I,O.(O),U),W(A.(N),E.(E.(",
    "N),N),I.(N),O.(N,O.(N)),U.(N)),Y(A,E.(E),I,O.(O),U),Z(A,E.(E),H(A,E.(E),I,O.(O),U),I,O.(O),",
    "U)),MBOL (BANG,D(ANG,O(-O,ONG)),F(AA,EENG),JONG,K(EENG,UNG),NII,T(AA,ING,ONG)))),MPIRE,",
    "RIATION SELECTOR-(1.(0.(0,1,2,3,4,5,6,7,8,9),1.(0,1,2,3,4,5,6,7,8,9),2.(0,1,2,3,4,5,6,7,8,9),",
    "3.(0,1,2,3,4,5,6,7,8,9),4.(0,1,2,3,4,5,6,7,8,9),5.(0,1,2,3,4,5,6,7,8,9),6.(0,1,2,3,4,5,6,7,8,",
    "9),7.(0,1,2,3,4,5,6,7,8,9),8.(0,1,2,3,4,5,6,7,8,9),9.(0,1,2,3,4,5,6,7,8,9)),2.(0.(0,1,2,3,4,",
    "5,6,7,8,9),1.(0,1,2,3,4,5,6,7,8,9),2.(0,1,2,3,4,5,6,7,8,9),3.(0,1,2,3,4,5,6,7,8,9),4.(0,1,2,",
    "3,4,5,6,7,8,9),5.(0,1,2,3,4,5,6),6,7,8,9),3.(0,1,2,3,4,5,6,7,8,9),4.(0,1,2,3,4,5,6,7,8,9),5.(",
    "0,1,2,3,4,5,6,7,8,9),6.(0,1,2,3,4,5,6,7,8,9),7.(0,1,2,3,4,5,6,7,8,9),8.(0,1,2,3,4,5,6,7,8,9),",
    "9.(0,1,2,3,4,5,6,7,8,9))),E(CTOR OR CROSS PRODUCT,DIC (SIGN (A(NUSVARA (ANTARGOMUKHA,",
    "BAHIRGOMUKHA,UBHAYATO MUKHA,VAMAGOMUKHA.( WITH TAIL)),RDHAVISARGA,TIKRAMA),",
    "DOUBLE ANUSVARA ANTARGOMUKHA,HEXIFORM LONG ANUSVARA,JIHVAMULIYA,LONG ANUSVARA,NIHSHVASA,R(",
    "EVERSED VISARGA (ANUDATTA,UDATTA),OTATED ARDHAVISARGA,THANG LONG ANUSVARA),TIRYAK,",
    "UPADHMANIYA,VISARGA (ANUDATTA.( WITH TAIL),SVARITA,UDATTA.( WITH TAIL)),",
    "YAJURVEDIC MIDLINE SVARITA),TONE (ATHARVAVEDIC INDEPENDENT SVARITA,CANDRA (ABOVE,BELOW),DO(",
    "T BELOW,UBLE (RING ABOVE,SVARITA)),KA(RSHANA,THAKA ANUDATTA),PRENKHA,RI(",
    "GVEDIC KASHMIRI INDEPENDENT SVARITA,NG ABOVE),SHARA,T(HREE DOTS BELOW,RIPLE SVARITA,",
    "WO DOTS BELOW),YAJURVEDIC (AGGRAVATED INDEPENDENT SVARITA,INDEPENDENT SVARITA,",
    "KATHAKA INDEPENDENT SVARITA.( SCHROEDER)))),R(SICLE,TICAL (BAR (BESIDE RIGHT TRIANGLE,",
    "DOUBLE LEFT TURNSTILE,TRIPLE RIGHT TURNSTILE,WITH HORIZONTAL STROKE),CAPACITOR,ELLIPSIS,",
    "FOUR DOTS,GO-KART,IDEOGRAPHIC ITERATION MARK,KANA REPEAT (MARK.( (LOWER HALF,UPPER HALF)),",
    "WITH VOICED SOUND MARK.( UPPER HALF)),L(ADDER,INE.( (EXTENSION,WITH (CIRCLE (ABOVE,BELOW),",
    "FOUR TICK MARKS,MIDDLE DOT,THREE TICK MARKS)))),MALE WITH STROKE SIGN,ONE EIGHTH BLOCK-(2,3,",
    "4,5,6,7),R(ACING CAR,ESISTOR SEGMENT),SIX DOTS,T(AB KEY,ILDE,RAFFIC LIGHT),ZIGZAG LINE),Y (",
    "BOLD GREEK CROSS,HEAVY (EIGHT (POINTED BLACK STAR,SPOKED ASTERISK),FIVE SPOKED ASTERISK,",
    "GREEK CROSS,REVERSE SOLIDUS,S(ALTIRE,IX SPOKED ASTERISK,OLIDUS),WHITE (CIRCLE,SQUARE)),MUCH (",
    "GREATER-THAN,LESS-THAN))),STA),I(BRATION MODE,CTORY HAND,DEO( (CAMERA,GAME),CASSETTE),E(",
    "TNAMESE ALTERNATE READING MARK (CA,NHAY),WDATA SQUARE),OLIN,RGO,THKUQI (CAPITAL LETTER (A,B(",
    "BE,E),C(E,HE),D(E,HE),E.(I),FE,GA,H(A,HA),I.(JE),JE,KA,L(A,LA),ME,N(E,JE),O,PE,QA,RE,S(E,HE),",
    "T(E,HE),U,VE,XE,Y,ZE),SMALL LETTER (A,B(BE,E),C(E,HE),D(E,HE),E.(I),FE,GA,H(A,HA),I.(JE),JE,",
    "KA,L(A,LA),ME,N(E,JE),O,PE,QA,RE,S(E,HE),T(E,HE),U,VE,XE,Y,ZE))),O(IDED GREEK CROSS,L(CANO,",
    "LEYBALL,UME INTEGRAL)),UL(CANUS,GAR FRACTION (F(IVE (EIGHTHS,SIXTHS),OUR FIFTHS),ONE (EIGHTH,",
    "FIFTH,HALF,NINTH,QUARTER,S(EVENTH,IXTH),T(ENTH,HIRD)),SEVEN EIGHTHS,T(HREE (EIGHTHS,FIFTHS,",
    "QUARTERS),WO (FIFTHS,THIRDS)),ZERO THIRDS))),W(A(FFLE,N(CHO (DIGIT (EIGHT,F(IVE,OUR),NINE,",
    "ONE,S(EVEN,IX),T(HREE,WO),ZERO),LETTER (A.(A.(N.(G)),NG,U),BA,CA,DA,E.(N),FA,GA,HA,I.(NG),JA,",
    "K(A,HA),L(A,LHA),MA,N(A,GA,YA),O.(N.(G)),P(A,HA),RA,S(A,HA),T(A,HA,RA,SA),U.(EN),VA,WA,Y(A,",
    "IH),ZA),NGUN SIGN,TONE (KOI.(NI),TUP.(NI))),ING (CRESCENT MOON SYMBOL,GIBBOUS MOON SYMBOL)),",
    "R(ANG CITI (CAPITAL LETTER (A.(M,NG,T),BU,DA,E.(N(N,Y)),GA,H(AR,IYO,O(LO,RR)),II,KO,N(GAA,",
    "UNG),O.(DD),PU,S(II,SUU),TTE,U(C,U),VIYO,WI,Y(A,O,U.(J))),DIGIT (EIGHT,F(IVE,OUR),NINE,ONE,S(",
    "EVEN,IX),T(HREE,WO),ZERO),NUMBER (EIGHTY,F(IFTY,ORTY),NINETY,S(EVENTY,IXTY),T(EN,HIRTY,",
    "WENTY)),OM,SMALL LETTER (A.(M,NG,T),BU,DA,E.(N(N,Y)),GA,H(AR,IYO,O(LO,RR)),II,KO,N(GAA,UNG),",
    "O.(DD),PU,S(II,SUU),TTE,U(C,U),VIYO,WI,Y(A,O,U.(J)))),NING SIGN),STEBASKET,T(CH,ER( (BUFFALO,",
    "CLOSET,POLO,WAVE),MELON)),V(E (ARROW POINTING DIRECTLY (LEFT,RIGHT),DASH),ING (BLACK FLAG,",
    "HAND SIGN,WHITE FLAG),Y (DASH,L(INE,OW LINE),OVERLINE)),XING (CRESCENT MOON SYMBOL,",
    "GIBBOUS MOON SYMBOL)),E(ARY (CAT FACE,FACE),D(DING,GE-TAILED RIGHTWARDS ARROW),IGHT LIFTER,",
    "ST SYRIAC CROSS),H(ALE,EEL.( OF DHARMA,CHAIR SYMBOL),ITE( (ARROW SHAFT WIDTH (ONE,",
    "TWO THIRDS),BULLET,C(HESS (BISHOP.( ROTATED (NINETY DEGREES,TWO HUNDRED SEVENTY DEGREES)),",
    "EQUIHOPPER.( ROTATED NINETY DEGREES),K(ING.( ROTATED (NINETY DEGREES,",
    "TWO HUNDRED SEVENTY DEGREES)),NIGHT.( ROTATED (FORTY-FIVE DEGREES,NINETY DEGREES,",
    "ONE HUNDRED THIRTY-FIVE DEGREES,T(HREE HUNDRED FIFTEEN DEGREES,WO HUNDRED (SEVENTY DEGREES,",
    "TWENTY-FIVE DEGREES))),-(BISHOP,QUEEN,ROOK))),PAWN.( ROTATED (NINETY DEGREES,",
    "TWO HUNDRED SEVENTY DEGREES)),QUEEN.( ROTATED (NINETY DEGREES,TWO HUNDRED SEVENTY DEGREES)),",
    "ROOK.( ROTATED (NINETY DEGREES,TWO HUNDRED SEVENTY DEGREES)),TURNED (BISHOP,K(ING,NIGHT),",
    "PAWN,QUEEN,ROOK)),IRCLE.( (CONTAINING BLACK SMALL CIRCLE,WITH (DO(T RIGHT,WN ARROW),LOWER (",
    "LEFT QUADRANT,RIGHT QUADRANT),TWO DOTS,UPPER (LEFT QUADRANT,RIGHT QUADRANT)))),LUB SUIT,",
    "ONCAVE-SIDED DIAMOND.( WITH (LEFTWARDS TICK,RIGHTWARDS TICK)),ROSS MARK),D(IAMOND.( (",
    "CONTAINING BLACK (MEDIUM DIAMOND,SMALL DIAMOND,VERY SMALL DIAMOND),IN SQUARE,SUIT,",
    "WITH CENTRED DOT)),OWN( POINTING (BACKHAND INDEX,INDEX,LEFT HAND INDEX),-POINTING (",
    "SMALL TRIANGLE,TRIANGLE)),RAUGHTS (KING,MAN)),EXCLAMATION MARK ORNAMENT,F(L(AG.(",
    " WITH HORIZONTAL MIDDLE BLACK STRIPE),O(RETTE,WER)),OUR POINTED (CUSP,STAR),ROWNING FACE),H(",
    "ARD SHELL FLOPPY DISK,E(A(RT.( SUIT),VY (CHECK MARK,SALTIRE WITH ROUNDED CORNERS)),XAGON),O(",
    "RIZONTAL ELLIPSE,URGLASS)),L(A(RGE SQUARE,TIN CROSS),EFT( (LANE MERGE,POINTING (",
    "BACKHAND INDEX,INDEX)),-POINTING (POINTER,SMALL TRIANGLE,TRIANGLE)),O(WER (LEFT POINTER,",
    "RIGHT POINTER),ZENGE CONTAINING BLACK SMALL LOZENGE)),M(EDIUM (DIAMOND,LOZENGE,S(MALL SQUARE,",
    "QUARE,TAR)),OON SELENA),NIB,P(ARALLELOGRAM,EN(NANT,TAGON)),QUESTION MARK ORNAMENT,R(ECTANGLE,",
    "IGHT( POINTING (BACKHAND INDEX,INDEX),-POINTING (P(ENTAGON,OINTER),SMALL TRIANGLE,",
    "TRIANGLE))),S(CISSORS,ESAME DOT,HOGI PIECE,M(ALL (LOZENGE,S(QUARE,TAR)),ILING FACE),",
    "PADE SUIT,QUARE.( (BUTTON,CONTAINING BLACK (MEDIUM SQUARE,SMALL SQUARE,VERY SMALL SQUARE),",
    "WITH (CENTRE VERTICAL LINE,L(EFTWARDS TICK,OWER (LEFT QUADRANT,RIGHT QUADRANT)),R(",
    "IGHTWARDS TICK,OUNDED CORNERS),UPPER (LEFT QUADRANT,RIGHT QUADRANT),",
    "VERTICAL BISECTING LINE))),TAR,UN.( (BEHIND CLOUD.( WITH RAIN),WITH (RAYS,SMALL CLOUD)))),T(",
    "ELEPHONE,OUCHTONE TELEPHONE,R(APEZIUM,IANGLE CONTAINING SMALL WHITE TRIANGLE),",
    "WO-WAY LEFT WAY TRAFFIC),UP( POINTING (BACKHAND INDEX,INDEX),-POINTING (CHEVRON,",
    "SMALL TRIANGLE,TRIANGLE.( WITH DOT))),VER(TICAL (BAR,ELLIPSE,RECTANGLE.(",
    " WITH HORIZONTAL BAR)),Y SMALL SQUARE)),-FEATHERED RIGHTWARDS ARROW)),I(DE-HEADED (",
    "DOWNWARDS (BARB ARROW,HEAVY BARB ARROW,LIGHT BARB ARROW,MEDIUM BARB ARROW,",
    "VERY HEAVY BARB ARROW),LEFTWARDS (BARB ARROW,HEAVY BARB ARROW,LIGHT BARB ARROW,",
    "MEDIUM BARB ARROW,VERY HEAVY BARB ARROW),NORTH (EAST (BARB ARROW,HEAVY BARB ARROW,",
    "LIGHT BARB ARROW,MEDIUM BARB ARROW,VERY HEAVY BARB ARROW),WEST (BARB ARROW,HEAVY BARB ARROW,",
    "LIGHT BARB ARROW,MEDIUM BARB ARROW,VERY HEAVY BARB ARROW)),RIGHTWARDS (BARB ARROW,",
    "HEAVY BARB ARROW,LIGHT BARB ARROW,MEDIUM BARB ARROW,VERY HEAVY BARB ARROW),SOUTH (EAST (",
    "BARB ARROW,HEAVY BARB ARROW,LIGHT BARB ARROW,MEDIUM BARB ARROW,VERY HEAVY BARB ARROW),WEST (",
    "BARB ARROW,HEAVY BARB ARROW,LIGHT BARB ARROW,MEDIUM BARB ARROW,VERY HEAVY BARB ARROW)),",
    "UPWARDS (BARB ARROW,HEAVY BARB ARROW,LIGHT BARB ARROW,MEDIUM BARB ARROW,",
    "VERY HEAVY BARB ARROW)),GGLY VERTICAL LINE,LTED FLOWER,N(D( (BLOWING FACE,CHIME),OW),E GLASS,",
    "G,KING FACE),RE(D KEYBOARD,LESS)),O(LF FACE,M(AN.( WITH BUNNY EARS,S (BOOTS,CLOTHES,HAT,",
    "SANDAL)),ENS SYMBOL),N SIGN,OD,R(D (JOINER,SEPARATOR MIDDLE DOT),LD MAP,M,RIED FACE)),R(",
    "APPED PRESENT,E(ATH PRODUCT,NCH,STLERS),ITING HAND)),X( IN A RECTANGLE BOX,-RAY,IANGQI (",
    "BLACK (C(ANNON,HARIOT),ELEPHANT,GENERAL,HORSE,MANDARIN,SOLDIER),RED (C(ANNON,HARIOT),",
    "ELEPHANT,GENERAL,HORSE,MANDARIN,SOLDIER)),OR),Y(AWNING FACE,E(LLOW HEART,N SIGN,ZIDI (",
    "COMBINING (HAMZA MARK,MADDA MARK),HYPHENATION MARK,LETTER (BE,C(H(HIM,IM),IM),DA(D,L),E(LIF,",
    "T,W,YN),FA,GAF,H(AY,HA),JA,K(AF,HAF),LAM.( WITH DOT ABOVE),MIM,NUN,OW,P(E,HE),QAF,R(A,HA),S(",
    "AD,E,HIN,IN),T(A,HE),UM,VA.( ALTERNATE FORM),WAW,X(A,HEYN),YOT.( WITH CIRCUMFLEX ABOVE),Z(A.(",
    "L),E)))),I( (RADICAL (B(BUT,UR),C(HE,IP,UOP,Y.(P,T)),D(DUR,U),G(A,EP,G(OP,UO),OT),H(MO,X(IT,",
    "OP,UO)),J(J(IE,UT,Y),O),K(E,IT),L(I.(E),YR),M(I,OP),N(BIE,Y(IP,OP),ZUP),OP,P(UT,YT),QOT,S(H(",
    "AT,OP,UR,Y),SI),T(AT,U),V(EP,UR),WO,Y(IT,O),Z(A,OT,U(P,R),ZIET)),SYLLABLE (A.(P,T,X),B(A.(P,",
    "T,X),B(A.(P,T,X),E.(P,X),I.(E.(P,T,X),P,T,X),O.(P,T,X),U.(O.(P,X),P,R.(X),T,X),Y.(P,T,X)),E.(",
    "P,X),I.(E.(P,T,X),P,T,X),O.(P,T,X),U.(O.(P,X),P,R.(X),T,X),Y.(P,R.(X),T,X)),C(A.(P,T,X),E.(P,",
    "X),H(A.(P,T,X),E.(P,T,X),O.(P,T,X),U.(O.(P,T,X),P,R.(X),X),Y.(P,R.(X),T,X)),I.(E.(P,T,X),P,T,",
    "X),O.(P,T,X),U.(O.(P,X),P,R.(X),T,X),Y.(P,R.(X),T,X)),D(A.(P,T,X),D(A.(P,T,X),E.(P,X),I.(E.(",
    "P,X),P,T,X),O.(P,T,X),U.(O.(P,X),P,R.(X),T,X)),E.(P,X),I.(E.(P,X),P,T,X),O.(P,T,X),U.(O.(X),",
    "P,R.(X),T,X)),E.(X),F(A.(P,T,X),I.(P,T,X),O.(P,X),U.(P,R.(X),T,X),Y.(P,T,X)),G(A.(P,T,X),E.(",
    "P,T,X),G(A.(P,T,X),E.(P,T,X),I.(E.(P,X),T,X),O.(P,T,X),U.(O.(P,T,X),P,R.(X),T,X)),I.(E.(P,T,",
    "X),P,T,X),O.(P,T,X),U.(O.(P,T,X),P,R.(X),T,X)),H(A.(P,T,X),E.(P,X),I(E.(X),T),L(A.(P,T,X),E.(",
    "P,X),I.(E.(P,X),P,T,X),O.(P,X),U.(O.(P,X),P,R.(X),T,X),Y.(P,R.(X),T,X)),M(A.(P,T,X),I.(E.(P,",
    "X),P,T,X),O.(P,T,X),U.(O.(P,X),P,R.(X),T,X),Y.(P,R.(X),X)),N(A.(P,T,X),E.(P,X),I.(E.(P,T,X),",
    "P,T,X),O(P,T,X),U(O.(X),T)),O.(P,T,X),UO.(P,T,X),X(A.(P,T,X),E.(P,X),I.(E.(P,T,X),P,T,X),O.(",
    "P,T,X),UO.(P,T,X))),I.(E.(P,T,X),P,T,X),J(I.(E.(P,T,X),P,T,X),J(I.(E.(P,T,X),P,T,X),O.(P,T,",
    "X),U.(O.(P,X),P,R.(X),T,X),Y.(P,T,X)),O.(P,T,X),U.(O.(P,T,X),P,R.(X),T,X),Y.(P,R.(X),T,X)),K(",
    "A.(P,T,X),E.(P,T,X),I.(E.(P,X),P,T,X),O.(P,T,X),U.(O.(P,X),P,R.(X),T,X)),L(A.(P,T,X),E.(P,X),",
    "I.(E.(P,T,X),P,T,X),O.(P,T,X),U.(O.(P,T,X),P,R.(X),T,X),Y.(P,R.(X),T,X)),M(A.(P,T,X),E.(X),G(",
    "A.(P,T,X),E.(P,X),IE.(X),O.(P,T,X),U.(O.(P,X),P,R.(X),T,X)),I.(E.(P,X),P,T,X),O.(P,T,X),U.(",
    "O.(P,T,X),P,R.(X),T,X),Y.(P,T,X)),N(A.(P,X),B(A.(P,T,X),I.(E.(P,X),P,T,X),O.(P,T,X),U.(P,R.(",
    "X),T,X),Y.(P,R.(X),T,X)),D(A.(P,T,X),E.(P,X),I.(E.(X),P,T,X),O.(P,T,X),U.(P,R.(X),T,X)),E.(P,",
    "X),G(A.(P,T,X),E.(P,X),IE.(P,X),O.(P,T,X),UO.(T,X)),I.(E.(P,X),P,T,X),J(I.(E.(P,T,X),P,T,X),",
    "O.(P,T,X),U.(O.(X),P,R.(X),X),Y.(P,R.(X),T,X)),O.(P,T,X),R(A.(P,T,X),E.(P,T,X),O.(P,X),U.(P,",
    "R.(X),T,X),Y.(P,R.(X),T,X)),U.(O.(P,X),P,R.(X),T,X),Y(I.(E.(P,T,X),P,T,X),O.(P,T,X),U.(O.(P,",
    "X),P,T,X)),Z(A.(P,T,X),E.(X),I.(E.(P,X),P,T,X),O(P,X),U.(O.(X),P,R.(X),X),Y.(P,R.(X),T,X))),",
    "O.(P,T,X),P(A.(P,T,X),I.(E.(P,X),P,T,X),O.(P,T,X),U.(O.(P,X),P,R.(X),T,X),Y.(P,R.(X),T,X)),Q(",
    "I.(E.(P,T,X),P,T,X),O.(P,T,X),U.(O.(P,T,X),P,R.(X),T,X),Y.(P,R.(X),T,X)),R(A.(P,T,X),E.(P,X),",
    "O.(P,T,X),R(A.(X),E.(P,T,X),O.(P,T,X),U.(O.(X),P,R.(X),T,X),Y.(P,R.(X),T,X)),U.(O.(P,X),P,R.(",
    "X),T,X),Y.(P,R.(X),T,X)),S(A.(P,T,X),E.(P,X),H(A.(P,T,X),E.(P,T,X),O.(P,T,X),U.(O.(P,X),P,R.(",
    "X),T,X),Y.(P,R.(X),T,X)),I.(E.(P,X),P,T,X),O.(P,T,X),S(A.(P,T,X),E.(P,X),I.(E.(P,X),P,T,X),",
    "O.(P,T,X),U.(P,T,X),Y.(P,R.(X),T,X)),U.(O.(P,X),P,R.(X),T,X),Y.(P,R.(X),T,X)),T(A.(P,T,X),E.(",
    "P,X),I.(E.(P,X),P,T,X),O.(P,T,X),U.(O.(P,T,X),P,R.(X),T,X)),UO.(P,X),V(A.(P,T,X),E(P,X),I.(",
    "E.(P,T,X),P,T,X),O.(P,T,X),U.(P,R.(X),T,X),Y.(P,R.(X),T,X)),W(A.(P,T,X),E.(P,X),O.(P,X),U.(",
    "O.(P,X))),X(I.(E.(P,T,X),P,T,X),O.(P,T,X),UO.(X),Y.(P,R.(X),T,X)),Y(I.(E.(P,T,X),P,T,X),O.(P,",
    "T,X),U.(O.(P,T,X),P,R.(X),T,X),Y.(P,R.(X),T,X)),Z(A.(P,T,X),E.(P,X),H(A.(P,T,X),E.(P,T,X),O.(",
    "P,T,X),U.(O.(P,X),P,R.(X),T,X),Y.(P,R.(X),T,X)),I.(E.(P,X),P,T,X),O.(P,T,X),U.(O.(P,X),P,R.(",
    "X),T,X),Y.(P,R.(X),T,X),Z(A.(P,T,X),E.(P,X),I.(E.(P,T,X),P,T,X),O.(P,X),U.(P,R.(X),X),Y.(P,",
    "R.(X),T,X))))),N YANG),O-YO),Z( NOTATION (BAG MEMBERSHIP,DOMAIN ANTIRESTRICTION,LEFT (",
    "BINDING BRACKET,IMAGE BRACKET),R(ANGE ANTIRESTRICTION,ELATIONAL COMPOSITION,IGHT (",
    "BINDING BRACKET,IMAGE BRACKET)),S(CHEMA (COMPOSITION,P(IPING,ROJECTION)),POT),TYPE COLON),",
    "ANABAZAR SQUARE (CL(OSING (DOUBLE-LINED HEAD MARK,HEAD MARK),USTER-(FINAL LETTER (LA,RA,VA,",
    "YA),INITIAL LETTER RA)),FINAL CONSONANT MARK,INITIAL (DOUBLE-LINED HEAD MARK,HEAD MARK),",
    "LETTER (-A,A,B(A,HA),C(A,HA),D(A,D(A,HA),HA,Z(A,HA)),G(A,HA),HA,JA,K(A,HA,SSA),LA,MA,N(A,GA,",
    "NA,YA),P(A,HA),RA,S(A,HA,SA),T(A,HA,S(A,HA),T(A,HA)),VA,YA,Z(A,HA)),MARK (DOUBLE SHAD,",
    "LONG TSHEG,SHAD,TSHEG),S(IGN (ANUSVARA,CANDRA( WITH ORNAMENT,BINDU.( WITH ORNAMENT)),VI(RAMA,",
    "SARGA)),UBJOINER),VOWEL (LENGTH MARK,SIGN (A(I,U),E,I,O.(E),REVERSED I,U.(E)))),E(BRA FACE,",
    "RO WIDTH (JOINER,NO(-BREAK SPACE,N-JOINER),SPACE),US),IPPER-MOUTH FACE,NAMENNY (COMBINING (",
    "ATTACHING VERTICAL OMET,LOWER TONAL RANGE INDICATOR,MARK (BORZAYA,C(HASHKA.( POLNAYA),",
    "URVED OMET),D(EMESTVENNY ZADERZHKA,VOETOCHIE),GORAZDO (NIZKO (ON (LEFT,RIGHT),S KRYZHEM ON (",
    "LEFT,RIGHT)),VYSOKO),K(ACHKA,RYZH.( ON LEFT),UPNAYA),LOMKA,MALO POVYSHE (ON (LEFT,RIGHT),S(",
    " K(HOKHLOM ON (LEFT,RIGHT),RYZHEM),TRANNO)),NIZKO (ON (LEFT,RIGHT),S KRYZHEM ON (LEFT,",
    "RIGHT)),O(BLACHKO,N,TSECHKA),PO(D(CHASHIE.( WITH VERTICAL STROKE),VERTKA),VYSHE (ON (LEFT,",
    "RIGHT),S( K(HOKHLOM ON (LEFT,RIGHT),RYZHEM),TRANNO))),RA(VNO,ZSEKA),S(KOBA,OROCHYA NOZHKA,",
    "REDNE ON (LEFT,RIGHT),TRANNO MALO POVYSHE),T(IKHAYA,OCHKA,SATA (ON (LEFT,RIGHT),S KRYZHEM)),",
    "UDARKA,VYSOKO (ON (LEFT,RIGHT),S K(HOKHLOM ON (LEFT,RIGHT),RYZHEM)),Z(ADERZHKA,E(LO,VOK))),",
    "TONAL RANGE MARK (MRACHNO,SVETLO,TRESVETLO)),NEUME (CH(ASHKA,ELYUSTKA),D(E(MESTVENNY KLYUCH,",
    "RBITSA),OUBLE ZAPYATAYA,UDA,VA V CHELNU),FITA,GOLUBCHIK (BORZY,MRACHNY,SVETLY,T(IKHY,",
    "RESVETLY)),K(HAMILO,LYUCH,OBYLA,RY(UK.( TIKHY),ZH),UFISMA),MECHIK.( (KLYUCHE(NEPOSTOYANNY,",
    "POVODNY,VOY),POVODNY)),NEMKA,O(BLAKO,SOKA.( (K(LYUCHEVAYA (NEPOSTOYANNAYA,SVETLAYA),",
    "RYUKOVAYA SVETLAYA),SVETLAYA,TRESVETLAYA))),P(A(LKA,RAKLIT,UK),EREVODKA.( NEPOSTOYANNAYA),O(",
    "DCHASHIE,LKULIZMY)),R(EVERSED CHELYUSTKA,OG),S(KAMEYTSA (DVOECHELNAYA (KLYUCHEVAYA,",
    "NEPOSTOYANNAYA,PROSTAYA,SVETLAYA),KLYUCHE(NEPOSTOYANNAYA,VAYA (SVETLAYA,TIKHAYA)),MRACHNAYA,",
    "SVETLAYA,T(IKHAYA,RESVETLAYA)),LOZHITIE.( (S (KRYZHEM,ZAPYATOY),ZAKRYTOE)),T(ATYA.( (",
    "NEPOSTOYANNAYA,S (DVUMYA ZAPYATYMI,KRYZHEM.( I ZAPYATOY),ROGOM,ZAPYATOY.( I (KRYZHEM,",
    "PODCHASHIEM))),ZAKRYTAYA.( S ZAPYATOY))),OPITSA.( (S OCHKOM,WITH SOROCHYA NOZHKA)),RELA (",
    "DVOECHELN(AYA.( KLYUCHEVAYA),O(KRYZHEVAYA,POVODNAYA.( KLYUCHEVAYA))),GROM(NAYA.(",
    " WITH SINGLE ZAPYATAYA),O(KRYZHEVAYA.( POVODNAYA),POVODNAYA.( WITH (DOUBLE ZAPYATAYA,",
    "SINGLE ZAPYATAYA)))),K(LYUCHE(NEPOSTOYANNAYA,POVODNAYA),RY(UKOVAYA.( (GROM(NAYA.(",
    " WITH SINGLE ZAPYATAYA),O(KRYZHEVAYA.( POVODNAYA),POVODNAYA.( WITH (DOUBLE ZAPYATAYA,",
    "SINGLE ZAPYATAYA)))),POVODNAYA,TRYASKA)),ZHEVAYA)),MRACHNOTIKHAYA,NEPOSTOYANNAYA,P(O(",
    "LUPOVODNAYA,VODNAYA),ROSTAYA),T(IKHAYA PUTNAYA,RYASO(GLASNAYA,POVODNAYA,STRELNAYA))))),",
    "VRAKHIYA (KLYUCHEVAYA (MRACHNAYA,PROSTAYA,SVETLAYA,TRESVETLAYA),MRACHNAYA,PROSTAYA,SVETLAYA,",
    "TRESVETLAYA),Z(A(NOZHEK,PYATAYA),MEYTSA)),PRIZNAK MODIFIER (DIRECTION FLIP,KRYZH,LEVEL-(2,3),",
    "ROG)),OMBIE)"]

/-- The names of the characters of Unicode 16 as a tree. Names are separated by commas; what stands
in round brackets are the ways in which the part before the brackets goes on, and after a point a
name may also end there. Names that follow from a rule, those with the number of the character in
them and those of Hangul syllables, are not in the tree. -/
def tree : String := String.join lines

end DuckTypes.Text.CharacterName
