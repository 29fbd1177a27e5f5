/-!
# Names of European letters

Latin, Greek and Cyrillic letters and the marks that go with them, Armenian letters, and the signs
of the basic block.
-/

namespace PhraseStructure.Text.CharacterName

/-- The names of characters from U+0000 on, below U+0590. -/
def europeanNames : List String := [
  "@20,0SPACE,0EXCLAMATIONo,0QUOTATIONo,0NUMBERr,0DOLLARr,0PERCENTr,0AMPERSAND,0APOSTROPHE",
  "0lPARENTHESIS,0pPARENTHESIS,0ASTERISK,0PLUSr,0COMMA,0HYPHEN-MINUS,0FULL STOP,0SOLIDUS",
  "0DIGIT ZERO,1ONE,1TWO,1v,1FOUR,1FIVE,1SIX,1SEVEN,1EIGHT,1NINE,0COLON,0SEMICOLON,0LESS-THANr",
  "0EQUALSr,0GREATER-THANr,0QUESTIONo,0COMMERCIAL AT,0LATINfnA,3B,3C,3D,3E,3F,3G,3H,3I,3J,3K,3L",
  "3M,3N,3O,3P,3Q,3R,3S,3T,3U,3V,3W,3X,3Y,3Z,0lSQUARE BRACKET,0REVERSE SOLIDUS,0pSQUARE BRACKET",
  "0CIRCUMFLEX ACCENT,0LOW LINE,0GRAVE ACCENT,0LATINsnA,3B,3C,3D,3E,3F,3G,3H,3I,3J,3K,3L,3M,3N,3O",
  "3P,3Q,3R,3S,3T,3U,3V,3W,3X,3Y,3Z,0lCURLY BRACKET,0xLINE,0pCURLY BRACKET,0TILDE,@A0",
  "0NO-BREAK SPACE,0INVERTED EXCLAMATIONo,0CENTr,0POUNDr,0CURRENCYr,0YENr,0BROKEN BAR,0SECTIONr",
  "0DIAERESIS,0COPYRIGHTr,0FEMININE ORDINAL INDICATOR,0LEFT-POINTINGgANGLE QUOTATIONo,0NOTr",
  "0SOFT HYPHEN,0REGISTEREDr,0MACRON,0DEGREEr,0PLUS-MINUSr,0SUPERSCRIPT TWO,1v,0ACUTE ACCENT",
  "0MICROr,0PILCROWr,0MIDDLE DOT,0CEDILLA,0SUPERSCRIPT ONE,0MASCULINE ORDINAL INDICATOR",
  "0RIGHT-POINTINGgANGLE QUOTATIONo,0VULGAR FRACTION ONE QUARTER,3HALF,2vQUARTERS",
  "0INVERTED QUESTIONo,0LATINfnAzGRAVE,5ACUTE,5CIRCUMFLEX,5TILDE,5DIAERESIS,5RINGa,3AE,3CzCEDILLA",
  "3EzGRAVE,5ACUTE,5CIRCUMFLEX,5DIAERESIS,3IzGRAVE,5ACUTE,5CIRCUMFLEX,5DIAERESIS,3ETH,3NzTILDE",
  "3OzGRAVE,5ACUTE,5CIRCUMFLEX,5TILDE,5DIAERESIS,0MULTIPLICATIONr,0LATINfnOzt,3UzGRAVE,5ACUTE",
  "5CIRCUMFLEX,5DIAERESIS,3YzACUTE,3THORN,1snSHARP S,3AzGRAVE,5ACUTE,5CIRCUMFLEX,5TILDE",
  "5DIAERESIS,5RINGa,3AE,3CzCEDILLA,3EzGRAVE,5ACUTE,5CIRCUMFLEX,5DIAERESIS,3IzGRAVE,5ACUTE",
  "5CIRCUMFLEX,5DIAERESIS,3ETH,3NzTILDE,3OzGRAVE,5ACUTE,5CIRCUMFLEX,5TILDE,5DIAERESIS,0DIVISIONr",
  "0LATINsnOzt,3UzGRAVE,5ACUTE,5CIRCUMFLEX,5DIAERESIS,3YzACUTE,3THORN,3YzDIAERESIS,1fnAzMACRON",
  "1snAzMACRON,1fnAzBREVE,1snAzBREVE,1fnAzOGONEK,1snAzOGONEK,1fnCzACUTE,1snCzACUTE",
  "1fnCzCIRCUMFLEX,1snCzCIRCUMFLEX,1fnCzDOTa,1snCzDOTa,1fnCzCARON,1snCzCARON,1fnDzCARON",
  "1snDzCARON,1fnDzt,1snDzt,1fnEzMACRON,1snEzMACRON,1fnEzBREVE,1snEzBREVE,1fnEzDOTa,1snEzDOTa",
  "1fnEzOGONEK,1snEzOGONEK,1fnEzCARON,1snEzCARON,1fnGzCIRCUMFLEX,1snGzCIRCUMFLEX,1fnGzBREVE",
  "1snGzBREVE,1fnGzDOTa,1snGzDOTa,1fnGzCEDILLA,1snGzCEDILLA,1fnHzCIRCUMFLEX,1snHzCIRCUMFLEX",
  "1fnHzt,1snHzt,1fnIzTILDE,1snIzTILDE,1fnIzMACRON,1snIzMACRON,1fnIzBREVE,1snIzBREVE,1fnIzOGONEK",
  "1snIzOGONEK,1fnIzDOTa,1snDOTLESS I,1fLIGATURE IJ,1sLIGATURE IJ,1fnJzCIRCUMFLEX,1snJzCIRCUMFLEX",
  "1fnKzCEDILLA,1snKzCEDILLA,3KRA,1fnLzACUTE,1snLzACUTE,1fnLzCEDILLA,1snLzCEDILLA,1fnLzCARON",
  "1snLzCARON,1fnLzMIDDLE DOT,1snLzMIDDLE DOT,1fnLzt,1snLzt,1fnNzACUTE,1snNzACUTE,1fnNzCEDILLA",
  "1snNzCEDILLA,1fnNzCARON,1snNzCARON,4PRECEDED BY APOSTROPHE,1fnENG,1snENG,1fnOzMACRON",
  "1snOzMACRON,1fnOzBREVE,1snOzBREVE,1fnOzgACUTE,1snOzgACUTE,1fLIGATURE OE,1sLIGATURE OE",
  "1fnRzACUTE,1snRzACUTE,1fnRzCEDILLA,1snRzCEDILLA,1fnRzCARON,1snRzCARON,1fnSzACUTE,1snSzACUTE",
  "1fnSzCIRCUMFLEX,1snSzCIRCUMFLEX,1fnSzCEDILLA,1snSzCEDILLA,1fnSzCARON,1snSzCARON,1fnTzCEDILLA",
  "1snTzCEDILLA,1fnTzCARON,1snTzCARON,1fnTzt,1snTzt,1fnUzTILDE,1snUzTILDE,1fnUzMACRON,1snUzMACRON",
  "1fnUzBREVE,1snUzBREVE,1fnUzRINGa,1snUzRINGa,1fnUzgACUTE,1snUzgACUTE,1fnUzOGONEK,1snUzOGONEK",
  "1fnWzCIRCUMFLEX,1snWzCIRCUMFLEX,1fnYzCIRCUMFLEX,1snYzCIRCUMFLEX,1fnYzDIAERESIS,3ZzACUTE",
  "1snZzACUTE,1fnZzDOTa,1snZzDOTa,1fnZzCARON,1snZzCARON,3LONG S,3Bzt,1fnBzHOOK,5TOPBAR",
  "1snBzTOPBAR,1fnTONE SIX,1snTONE SIX,1fnOPEN O,3CzHOOK,1snCzHOOK,1fnAFRICAN D,3DzHOOK,5TOPBAR",
  "1snDzTOPBAR,3TURNED DELTA,1fnREVERSED E,3SCHWA,3OPEN E,3FzHOOK,1snFzHOOK,1fnGzHOOK,3GAMMA",
  "1snHV,1fnIOTA,3Izt,3KzHOOK,1snKzHOOK,3LzBAR,3LAMBDAzt,1fnTURNED M,3NzlHOOK,1snNzLONGpLEG",
  "1fnOzMIDDLE TILDE,5HORN,1snOzHORN,1fnOI,1snOI,1fnPzHOOK,1snPzHOOK,1nYR,1fnTONE TWO,1snTONE TWO",
  "1fnESH,1nREVERSED ESH LOOP,1snTzPALATAL HOOK,1fnTzHOOK,1snTzHOOK,1fnTzRETROFLEX HOOK,3UzHORN",
  "1snUzHORN,1fnUPSILON,3VzHOOK,3YzHOOK,1snYzHOOK,1fnZzt,1snZzt,1fnEZH,4REVERSED,1snEZH REVERSED",
  "4zTAIL,1nTWOzt,1fnTONE FIVE,1snTONE FIVE,1nINVERTED GLOTTAL STOPzt,2WYNN,2DENTAL CLICK",
  "2LATERAL CLICK,2ALVEOLAR CLICK,2RETROFLEX CLICK,1fnDZzCARON,3DzsnZzCARON,1snDZzCARON,1fnLJ",
  "3LzsnJ,1snLJ,1fnNJ,3NzsnJ,1snNJ,1fnAzCARON,1snAzCARON,1fnIzCARON,1snIzCARON,1fnOzCARON",
  "1snOzCARON,1fnUzCARON,1snUzCARON,1fnUzDIAERESISbMACRON,1snUzDIAERESISbMACRON",
  "1fnUzDIAERESISbACUTE,1snUzDIAERESISbACUTE,1fnUzDIAERESISbCARON,1snUzDIAERESISbCARON",
  "1fnUzDIAERESISbGRAVE,1snUzDIAERESISbGRAVE,3TURNED E,1fnAzDIAERESISbMACRON",
  "1snAzDIAERESISbMACRON,1fnAzDOTabMACRON,1snAzDOTabMACRON,1fnAEzMACRON,1snAEzMACRON,1fnGzt",
  "1snGzt,1fnGzCARON,1snGzCARON,1fnKzCARON,1snKzCARON,1fnOzOGONEK,1snOzOGONEK,1fnOzOGONEKbMACRON",
  "1snOzOGONEKbMACRON,1fnEZHzCARON,1snEZHzCARON,3JzCARON,1fnDZ,3DzsnZ,1snDZ,1fnGzACUTE,1snGzACUTE",
  "1fnHWAIR,3WYNN,3NzGRAVE,1snNzGRAVE,1fnAzRINGabACUTE,1snAzRINGabACUTE,1fnAEzACUTE,1snAEzACUTE",
  "1fnOztbACUTE,1snOztbACUTE,1fnAzgGRAVE,1snAzgGRAVE,1fnAzINVERTED BREVE,1snAzINVERTED BREVE",
  "1fnEzgGRAVE,1snEzgGRAVE,1fnEzINVERTED BREVE,1snEzINVERTED BREVE,1fnIzgGRAVE,1snIzgGRAVE",
  "1fnIzINVERTED BREVE,1snIzINVERTED BREVE,1fnOzgGRAVE,1snOzgGRAVE,1fnOzINVERTED BREVE",
  "1snOzINVERTED BREVE,1fnRzgGRAVE,1snRzgGRAVE,1fnRzINVERTED BREVE,1snRzINVERTED BREVE",
  "1fnUzgGRAVE,1snUzgGRAVE,1fnUzINVERTED BREVE,1snUzINVERTED BREVE,1fnSzCOMMAd,1snSzCOMMAd",
  "1fnTzCOMMAd,1snTzCOMMAd,1fnYOGH,1snYOGH,1fnHzCARON,1snHzCARON,1fnNzLONGpLEG,1snDzCURL,1fnOU",
  "1snOU,1fnZzHOOK,1snZzHOOK,1fnAzDOTa,1snAzDOTa,1fnEzCEDILLA,1snEzCEDILLA,1fnOzDIAERESISbMACRON",
  "1snOzDIAERESISbMACRON,1fnOzTILDEbMACRON,1snOzTILDEbMACRON,1fnOzDOTa,1snOzDOTa,1fnOzDOTabMACRON",
  "1snOzDOTabMACRON,1fnYzMACRON,1snYzMACRON,3LzCURL,3NzCURL,3TzCURL,3DOTLESS J,3DB DIGRAPH",
  "3QP DIGRAPH,1fnAzt,3Czt,1snCzt,1fnLzBAR,3TzDIAGONALt,1snSzSWASH TAIL,3ZzSWASH TAIL",
  "1fnGLOTTAL STOP,1snGLOTTAL STOP,1fnBzt,3U BAR,3TURNED V,3Ezt,1snEzt,1fnJzt,1snJzt",
  "1fnsQzHOOK TAIL,1snQzHOOK TAIL,1fnRzt,1snRzt,1fnYzt,1snYzt,3TURNED A,3ALPHA,3TURNED ALPHA",
  "3BzHOOK,3OPEN O,3CzCURL,3DzTAIL,5HOOK,3REVERSED E,3SCHWA,4zHOOK,3OPEN E,3REVERSED OPEN E",
  "6zHOOK,3CLOSED REVERSED OPEN E,3DOTLESS Jzt,3GzHOOK,3SCRIPT G,1nsfG,1snGAMMA,3RAMS HORN",
  "3TURNED H,3HzHOOK,3HENGzHOOK,3Izt,3IOTA,1nsfI,1snLzMIDDLE TILDE,5BELT,5RETROFLEX HOOK,3LEZH",
  "3TURNED M,5zLONG LEG,3MzHOOK,3NzlHOOK,5RETROFLEX HOOK,1nsfN,1snBARRED O,1nsfOE,1snCLOSED OMEGA",
  "3PHI,3TURNED R,5zLONG LEG,6HOOK,3RzLONG LEG,5TAIL,5FISHHOOK,3REVERSED RzFISHHOOK,1nsfR",
  "4INVERTED R,1snSzHOOK,3ESH,3DOTLESS JztbHOOK,3SQUAT REVERSED ESH,3ESHzCURL,3TURNED T",
  "3TzRETROFLEX HOOK,3U BAR,3UPSILON,3VzHOOK,3TURNED V,4W,4Y,1nsfY,1snZzRETROFLEX HOOK,5CURL,3EZH",
  "4zCURL,1nGLOTTAL STOP,2PHARYNGEAL VOICED FRICATIVE,2INVERTED GLOTTAL STOP,2STRETCHED C",
  "2BILABIAL CLICK,2sfB,1snCLOSED OPEN E,1nsfGzHOOK,4H,1snJzCROSSED-TAIL,3TURNED K,1nsfL",
  "1snQzHOOK,1nGLOTTAL STOPzt,2REVERSED GLOTTAL STOPzt,1snDZ DIGRAPH,3DEZH DIGRAPH",
  "3DZ DIGRAPHzCURL,3TS DIGRAPH,3TESH DIGRAPH,3TC DIGRAPHzCURL,3FENG DIGRAPH,3LS DIGRAPH",
  "3LZ DIGRAPH,1nBILABIAL PERCUSSIVE,2BIDENTAL PERCUSSIVE,1snTURNED HzFISHHOOK,7bTAIL",
  "0MODIFIERnsH,4zHOOK,3J,3R,3TURNED R,5zHOOK,3fINVERTED R,3W,3Y,2PRIME,2gPRIME,2TURNED COMMA",
  "2APOSTROPHE,2REVERSED COMMA,2pHALF RING,2lHALF RING,2GLOTTAL STOP,2REVERSED GLOTTAL STOP",
  "2lARROWHEAD,2pARROWHEAD,2UP ARROWHEAD,2DOWN ARROWHEAD,2CIRCUMFLEX ACCENT,0CARON",
  "0MODIFIERnxLINE,2MACRON,2ACUTE ACCENT,2GRAVE ACCENT,2LOWxLINE,3MACRON,3GRAVE ACCENT",
  "3ACUTE ACCENT,2TRIANGULAR COLON,2HALF TRIANGULAR COLON,2CENTREDpHALF RING,3lHALF RING,2UP TACK",
  "2DOWN TACK,2PLUSr,2MINUSr,0BREVE,0DOTa,0RINGa,0OGONEK,0sTILDE,0gACUTE ACCENT",
  "0MODIFIERnRHOTIC HOOK,2CROSS ACCENT,2sGAMMA,3L,3S,3X,3REVERSED GLOTTAL STOP",
  "2EXTRA-HIGH TONE BAR,2HIGH TONE BAR,2MID TONE BAR,2LOW TONE BAR,2EXTRA-LOW TONE BAR",
  "2YIN DEPARTING TONEo,2YANG DEPARTING TONEo,2VOICING,2UNASPIRATED,2gAPOSTROPHE",
  "2LOW DOWN ARROWHEAD,3UP ARROWHEAD,3lARROWHEAD,3pARROWHEAD,3RING,2MIDDLE GRAVE ACCENT",
  "3gGRAVE ACCENT,4ACUTE ACCENT,2LOW TILDE,2RAISED COLON,2BEGIN HIGH TONE,2END HIGH TONE",
  "2BEGIN LOW TONE,2END LOW TONE,2SHELF,2OPEN SHELF,2LOWlc,0COMBINING GRAVE ACCENT,1ACUTE ACCENT",
  "1CIRCUMFLEX ACCENT,1TILDE,1MACRON,1OVERLINE,1BREVE,1DOTa,1DIAERESIS,1HOOKa,1RINGa",
  "1gACUTE ACCENT,1CARON,1xLINEa,1gxLINEa,2GRAVE ACCENT,1CANDRABINDU,1INVERTED BREVE",
  "1TURNED COMMAa,1COMMAa,1REVERSED COMMAa,1COMMAap,1GRAVE ACCENTd,1ACUTE ACCENTd,1lTACKd,1pTACKd",
  "1lANGLEa,1HORN,1lHALF RINGd,1UP TACKd,1DOWN TACKd,1PLUSrd,1MINUSrd,1PALATALIZED HOOKd",
  "1RETROFLEX HOOKd,1DOTd,1DIAERESISd,1RINGd,1COMMAd,1CEDILLA,1OGONEK,1xLINEd,1BRIDGEd",
  "1INVERTEDgARCHd,1CARONd,1CIRCUMFLEX ACCENTd,1BREVEd,1INVERTED BREVEd,1TILDEd,1MACRONd",
  "1LOW LINE,1gLOW LINE,1TILDE OVERLAY,1SHORTtOVERLAY,1LONGtOVERLAY,1SHORT SOLIDUS OVERLAY",
  "1LONG SOLIDUS OVERLAY,1pHALF RINGd,1INVERTED BRIDGEd,1SQUAREd,1SEAGULLd,1Xa,1xTILDE,1gOVERLINE",
  "1GRAVE TONEo,1ACUTE TONEo,1GREEK PERISPOMENI,2KORONIS,2DIALYTIKA TONOS,2YPOGEGRAMMENI,1BRIDGEa",
  "1EQUALSrd,1gxLINEd,1lANGLEd,1NOT TILDEa,1HOMOTHETICa,1ALMOST EQUAL TOa,1lpcd,1UPWARDScd",
  "1GRAPHEME JOINER,1pARROWHEADa,1lHALF RINGa,1FERMATA,1Xd,1lARROWHEADd,1pARROWHEADd",
  "3bUP ARROWHEADd,2HALF RINGa,1DOTap,1ASTERISKd,1gRINGd,1ZIGZAGa,1gBREVEd,3,2MACRON,3d,2TILDE",
  "2INVERTED BREVE,2qcd,1LATINsnA,4E,4I,4O,4U,4C,4D,4H,4M,4R,4T,4V,4X,0GREEKfnHETA,1snHETA",
  "1fnARCHAIC SAMPI,1snARCHAIC SAMPI,1NUMERALr,1LOWER NUMERALr,1fnPAMPHYLIAN DIGAMMA",
  "1snPAMPHYLIAN DIGAMMA,@37A,0GREEK YPOGEGRAMMENI,1sREVERSED LUNATE SIGMAu,2DOTTED LUNATE SIGMAu",
  "2REVERSED DOTTED LUNATE SIGMAu,1QUESTIONo,1fnYOT,@384,0GREEK TONOS,1DIALYTIKA TONOS",
  "1fnALPHAzTONOS,1ANO TELEIA,1fnEPSILONzTONOS,3ETAzTONOS,3IOTAzTONOS,@38C,0GREEKfnOMICRONzTONOS",
  "@38E,0GREEKfnUPSILONzTONOS,3OMEGAzTONOS,1snIOTAzDIALYTIKAbTONOS,1fnALPHA,3BETA,3GAMMA,3DELTA",
  "3EPSILON,3ZETA,3ETA,3THETA,3IOTA,3KAPPA,3LAMDA,3MU,3NU,3XI,3OMICRON,3PI,3RHO,@3A3",
  "0GREEKfnSIGMA,3TAU,3UPSILON,3PHI,3CHI,3PSI,3OMEGA,3IOTAzDIALYTIKA,3UPSILONzDIALYTIKA",
  "1snALPHAzTONOS,3EPSILONzTONOS,3ETAzTONOS,3IOTAzTONOS,3UPSILONzDIALYTIKAbTONOS,3ALPHA,3BETA",
  "3GAMMA,3DELTA,3EPSILON,3ZETA,3ETA,3THETA,3IOTA,3KAPPA,3LAMDA,3MU,3NU,3XI,3OMICRON,3PI,3RHO",
  "3hSIGMA,3SIGMA,3TAU,3UPSILON,3PHI,3CHI,3PSI,3OMEGA,3IOTAzDIALYTIKA,3UPSILONzDIALYTIKA",
  "3OMICRONzTONOS,3UPSILONzTONOS,3OMEGAzTONOS,1fKAIu,1BETAu,1THETAu,1UPSILONzHOOKu,3ACUTEbHOOKu",
  "3DIAERESISbHOOKu,1PHIu,1PIu,1KAIu,1nARCHAIC KOPPA,1snARCHAIC KOPPA,1nSTIGMA,1snSTIGMA",
  "1nDIGAMMA,1snDIGAMMA,1nKOPPA,1snKOPPA,1nSAMPI,1snSAMPI,0COPTICfnSHEI,1snSHEI,1fnFEI,1snFEI",
  "1fnKHEI,1snKHEI,1fnHORI,1snHORI,1fnGANGIA,1snGANGIA,1fnSHIMA,1snSHIMA,1fnDEI,1snDEI",
  "0GREEK KAPPAu,1RHOu,1LUNATE SIGMAu,1nYOT,1fTHETAu,1LUNATE EPSILONu,1REVERSED LUNATE EPSILONu",
  "1fnSHO,1snSHO,1fLUNATE SIGMAu,2nSAN,1snSAN,1RHOztu,1fREVERSED LUNATE SIGMAu",
  "2DOTTED LUNATE SIGMAu,2REVERSED DOTTED LUNATE SIGMAu,0CYRILLICfnIEzGRAVE,3IO,3DJE,3GJE",
  "3UKRAINIAN IE,3DZE,3BYELORUSSIAN-UKRAINIAN I,3YI,3JE,3LJE,3NJE,3TSHE,3KJE,3IzGRAVE,3SHORT U",
  "3DZHE,3A,3BE,3VE,3GHE,3DE,3IE,3ZHE,3ZE,3I,3SHORT I,3KA,3EL,3EM,3EN,3O,3PE,3ER,3ES,3TE,3U,3EF",
  "3HA,3TSE,3CHE,3SHA,3SHCHA,3HARDr,3YERU,3SOFTr,3E,3YU,3YA,1snA,3BE,3VE,3GHE,3DE,3IE,3ZHE,3ZE,3I",
  "3SHORT I,3KA,3EL,3EM,3EN,3O,3PE,3ER,3ES,3TE,3U,3EF,3HA,3TSE,3CHE,3SHA,3SHCHA,3HARDr,3YERU",
  "3SOFTr,3E,3YU,3YA,3IEzGRAVE,3IO,3DJE,3GJE,3UKRAINIAN IE,3DZE,3BYELORUSSIAN-UKRAINIAN I,3YI,3JE",
  "3LJE,3NJE,3TSHE,3KJE,3IzGRAVE,3SHORT U,3DZHE,1fnOMEGA,1snOMEGA,1fnYAT,1snYAT,1fnIOTIFIED E",
  "1snIOTIFIED E,1fnLITTLE YUS,1snLITTLE YUS,1fnIOTIFIED LITTLE YUS,1snIOTIFIED LITTLE YUS",
  "1fnBIG YUS,1snBIG YUS,1fnIOTIFIED BIG YUS,1snIOTIFIED BIG YUS,1fnKSI,1snKSI,1fnPSI,1snPSI",
  "1fnFITA,1snFITA,1fnIZHITSA,1snIZHITSA,1fnIZHITSAzgGRAVE ACCENT,1snIZHITSAzgGRAVE ACCENT,1fnUK",
  "1snUK,1fnROUND OMEGA,1snROUND OMEGA,1fnOMEGAzTITLO,1snOMEGAzTITLO,1fnOT,1snOT,1fnKOPPA",
  "1snKOPPA,1THOUSANDSr,0COMBINING CYRILLIC TITLO,2PALATALIZATION,2DASIA PNEUMATA,2PSILI PNEUMATA",
  "2POKRYTIE,2HUNDRED THOUSANDSr,2MILLIONSr,0CYRILLICfnSHORT IzTAIL,1snSHORT IzTAIL,1fnSEMISOFTr",
  "1snSEMISOFTr,1fnERzTICK,1snERzTICK,1fnGHEzUPTURN,1snGHEzUPTURN,1fnGHEzt,1snGHEzt",
  "1fnGHEzMIDDLE HOOK,1snGHEzMIDDLE HOOK,1fnZHEzDESCENDER,1snZHEzDESCENDER,1fnZEzDESCENDER",
  "1snZEzDESCENDER,1fnKAzDESCENDER,1snKAzDESCENDER,1fnKAzxt,1snKAzxt,1fnKAzt,1snKAzt",
  "1fnBASHKIR KA,1snBASHKIR KA,1fnENzDESCENDER,1snENzDESCENDER,1fLIGATURE EN GHE",
  "1sLIGATURE EN GHE,1fnPEzMIDDLE HOOK,1snPEzMIDDLE HOOK,1fnABKHASIAN HA,1snABKHASIAN HA",
  "1fnESzDESCENDER,1snESzDESCENDER,1fnTEzDESCENDER,1snTEzDESCENDER,1fnSTRAIGHT U,1snSTRAIGHT U",
  "1fnSTRAIGHT Uzt,1snSTRAIGHT Uzt,1fnHAzDESCENDER,1snHAzDESCENDER,1fLIGATURE TE TSE",
  "1sLIGATURE TE TSE,1fnCHEzDESCENDER,1snCHEzDESCENDER,1fnCHEzxt,1snCHEzxt,1fnSHHA,1snSHHA",
  "1fnABKHASIAN CHE,1snABKHASIAN CHE,1fnABKHASIAN CHEzDESCENDER,1snABKHASIAN CHEzDESCENDER",
  "1nPALOCHKA,1fnZHEzBREVE,1snZHEzBREVE,1fnKAzHOOK,1snKAzHOOK,1fnELzTAIL,1snELzTAIL,1fnENzHOOK",
  "1snENzHOOK,1fnENzTAIL,1snENzTAIL,1fnKHAKASSIAN CHE,1snKHAKASSIAN CHE,1fnEMzTAIL,1snEMzTAIL",
  "3PALOCHKA,1fnAzBREVE,1snAzBREVE,1fnAzDIAERESIS,1snAzDIAERESIS,1fLIGATURE A IE,1sLIGATURE A IE",
  "1fnIEzBREVE,1snIEzBREVE,1fnSCHWA,1snSCHWA,1fnSCHWAzDIAERESIS,1snSCHWAzDIAERESIS",
  "1fnZHEzDIAERESIS,1snZHEzDIAERESIS,1fnZEzDIAERESIS,1snZEzDIAERESIS,1fnABKHASIAN DZE",
  "1snABKHASIAN DZE,1fnIzMACRON,1snIzMACRON,1fnIzDIAERESIS,1snIzDIAERESIS,1fnOzDIAERESIS",
  "1snOzDIAERESIS,1fnBARRED O,1snBARRED O,1fnBARRED OzDIAERESIS,1snBARRED OzDIAERESIS",
  "1fnEzDIAERESIS,1snEzDIAERESIS,1fnUzMACRON,1snUzMACRON,1fnUzDIAERESIS,1snUzDIAERESIS",
  "1fnUzgACUTE,1snUzgACUTE,1fnCHEzDIAERESIS,1snCHEzDIAERESIS,1fnGHEzDESCENDER,1snGHEzDESCENDER",
  "1fnYERUzDIAERESIS,1snYERUzDIAERESIS,1fnGHEztbHOOK,1snGHEztbHOOK,1fnHAzHOOK,1snHAzHOOK,1fnHAzt",
  "1snHAzt,1fnKOMI DE,1snKOMI DE,1fnKOMI DJE,1snKOMI DJE,1fnKOMI ZJE,1snKOMI ZJE,1fnKOMI DZJE",
  "1snKOMI DZJE,1fnKOMI LJE,1snKOMI LJE,1fnKOMI NJE,1snKOMI NJE,1fnKOMI SJE,1snKOMI SJE",
  "1fnKOMI TJE,1snKOMI TJE,1fnREVERSED ZE,1snREVERSED ZE,1fnELzHOOK,1snELzHOOK,1fnLHA,1snLHA",
  "1fnRHA,1snRHA,1fnYAE,1snYAE,1fnQA,1snQA,1fnWE,1snWE,1fnALEUT KA,1snALEUT KA,1fnELzMIDDLE HOOK",
  "1snELzMIDDLE HOOK,1fnENzMIDDLE HOOK,1snENzMIDDLE HOOK,1fnPEzDESCENDER,1snPEzDESCENDER",
  "1fnSHHAzDESCENDER,1snSHHAzDESCENDER,1fnENzlHOOK,1snENzlHOOK,1fnDZZHE,1snDZZHE,1fnDCHE,1snDCHE",
  "1fnELzDESCENDER,1snELzDESCENDER,@531,0ARMENIANfnAYB,3BEN,3GIM,3DA,3ECH,3ZA,3EH,3ET,3TO,3ZHE",
  "3INI,3LIWN,3XEH,3CA,3KEN,3HO,3JA,3GHAD,3CHEH,3MEN,3YI,3NOW,3SHA,3VO,3CHA,3PEH,3JHEH,3RA,3SEH",
  "3VEW,3TIWN,3REH,3CO,3YIWN,3PIWR,3KEH,3OH,3FEH,@559,0ARMENIAN MODIFIERnlHALF RING,1APOSTROPHE",
  "1EMPHASISo,1EXCLAMATIONo,1COMMA,1QUESTIONo,1ABBREVIATIONo,1snTURNED AYB,3AYB,3BEN,3GIM,3DA",
  "3ECH,3ZA,3EH,3ET,3TO,3ZHE,3INI,3LIWN,3XEH,3CA,3KEN,3HO,3JA,3GHAD,3CHEH,3MEN,3YI,3NOW,3SHA,3VO",
  "3CHA,3PEH,3JHEH,3RA,3SEH,3VEW,3TIWN,3REH,3CO,3YIWN,3PIWR,3KEH,3OH,3FEH,2LIGATURE ECH YIWN",
  "2nYIzt,1FULL STOP,1HYPHEN,@58D,0RIGHT-FACING ARMENIAN ETERNITYr",
  "0LEFT-FACING ARMENIAN ETERNITYr,0ARMENIAN DRAMr"]

end PhraseStructure.Text.CharacterName
