/-!
# Names of technical signs

Signs of engineering, boxes and blocks, dingbats, patterns of dots, and further arrows.
-/

namespace PhraseStructure.Text.CharacterName

/-- The names of characters from U+2300 on, below U+2C00. -/
def technicalNames : List String := [
  "@2300,0DIAMETERr,0ELECTRICc,0HOUSE,0UP ARROWHEAD,0DOWN ARROWHEAD,0PROJECTIVE,0PERSPECTIVE",
  "0WAVY LINE,0lCEILING,0pCEILING,0lFLOOR,0pFLOOR,0BOTTOMpCROP,1lCROP,0TOPpCROP,1lCROP",
  "0REVERSED NOTr,0SQUARE LOZENGE,0ARC,0SEGMENT,0SECTOR,0TELEPHONE RECORDER,0POSITION INDICATOR",
  "0VIEWDATA SQUARE,0PLACE OF INTERESTr,0TURNED NOTr,0WATCH,0HOURGLASS,0TOPlCORNER,1pCORNER",
  "0BOTTOMlCORNER,1pCORNER,0TOP HALF INTEGRAL,0BOTTOM HALF INTEGRAL,0FROWN,0SMILE",
  "0UP ARROWHEAD BETWEEN TWO HORIZONTAL BARS,0OPTION KEY,0ERASE TO THEp,0X IN A RECTANGLE BOX",
  "0KEYBOARD,0LEFT-POINTING ANGLE BRACKET,0RIGHT-POINTING ANGLE BRACKET,0ERASE TO THEl",
  "0BENZENE RING,0CYLINDRICITY,0ALL AROUND-PROFILE,0SYMMETRY,0TOTAL RUNOUT,0DIMENSION ORIGIN",
  "0CONICAL TAPER,0SLOPE,0COUNTERBORE,0COUNTERSINK,0APL FUNCTIONALuI-BEAM,3SQUISH QUAD",
  "3QUAD EQUAL,4DIVIDE,4DIAMOND,4JOT,4CIRCLE,3CIRCLE STILE,4JOT,3SLASH BAR,3BACKSLASH BAR",
  "3QUAD SLASH,4BACKSLASH,4LESS-THAN,4GREATER-THAN,3mVANE,3qVANE,3QUADmc,4qc,3CIRCLE BACKSLASH",
  "3DOWN TACK UNDERBAR,3DELTA STILE,3QUAD DOWN CARET,4DELTA,3DOWN TACK JOT,3UPWARDS VANE",
  "3QUAD UPWARDSc,3UP TACK OVERBAR,3DEL STILE,3QUAD UP CARET,4DEL,3UP TACK JOT,3DOWNWARDS VANE",
  "3QUAD DOWNWARDSc,3QUOTE UNDERBAR,3DELTA UNDERBAR,3DIAMOND UNDERBAR,3JOT UNDERBAR",
  "3CIRCLE UNDERBAR,3UP SHOE JOT,3QUOTE QUAD,3CIRCLE STAR,3QUAD COLON,3UP TACK DIAERESIS",
  "3DEL DIAERESIS,3STAR DIAERESIS,3JOT DIAERESIS,3CIRCLE DIAERESIS,3DOWN SHOE STILE,3lSHOE STILE",
  "3TILDE DIAERESIS,3GREATER-THAN DIAERESIS,3COMMA BAR,3DEL TILDE,3ZILDE,3STILE TILDE",
  "3SEMICOLON UNDERBAR,3QUAD NOT EQUAL,4QUESTION,3DOWN CARET TILDE,3UP CARET TILDE,3IOTA,3RHO",
  "3OMEGA,3ALPHA UNDERBAR,3EPSILON UNDERBAR,3IOTA UNDERBAR,3OMEGA UNDERBAR,3ALPHA,0NOT CHECKo",
  "0pANGLEzDOWNWARDS ZIGZAGc,0SHOULDERED OPEN BOX,0BELLu,0xLINEzMIDDLE DOT,0INSERTIONu",
  "0CONTINUOUS UNDERLINEu,0DISCONTINUOUS UNDERLINEu,0EMPHASISu,0COMPOSITIONu,0ySQUAREzCENTRExLINE",
  "0ENTERu,0ALTERNATIVE KEYu,0HELMu,0CIRCLED HORIZONTAL BARzNOTCH,1TRIANGLE DOWN",
  "0BROKEN CIRCLEzNORTHWESTc,0UNDOu,0MONOSTABLEu,0HYSTERESISu,0OPEN-CIRCUIT-OUTPUT H-TYPEu",
  "1L-TYPEu,0PASSIVE-PULL-DOWN-OUTPUTu,0PASSIVE-PULL-UP-OUTPUTu,0DIRECT CURRENTuiTWO",
  "0SOFTWARE-FUNCTIONu,0APL FUNCTIONALuQUAD,0DECIMAL SEPARATOR KEYu,0PREVIOUS PAGE,0NEXT PAGE",
  "0PRINT SCREENu,0CLEAR SCREENu,0lPARENTHESIS UPPER HOOK,2EXTENSION,2LOWER HOOK",
  "0pPARENTHESIS UPPER HOOK,2EXTENSION,2LOWER HOOK,0lSQUARE BRACKET UPPER CORNER,3EXTENSION",
  "3LOWER CORNER,0pSQUARE BRACKET UPPER CORNER,3EXTENSION,3LOWER CORNER",
  "0lCURLY BRACKET UPPER HOOK,3MIDDLE PIECE,3LOWER HOOK,0CURLY BRACKET EXTENSION",
  "0pCURLY BRACKET UPPER HOOK,3MIDDLE PIECE,3LOWER HOOK,0INTEGRAL EXTENSION",
  "0HORIZONTAL LINE EXTENSION,0UPPERlOR LOWERpCURLY BRACKET SECTION",
  "1pOR LOWERlCURLY BRACKET SECTION,0SUMMATION TOP,1BOTTOM,0TOP SQUARE BRACKET",
  "0BOTTOM SQUARE BRACKET,3OVER TOP SQUARE BRACKET,0RADICALuBOTTOM,0lxBOX LINE,0pxBOX LINE",
  "0HORIZONTAL SCAN LINE-1,2LINE-3,2LINE-7,2LINE-9,0DENTISTRYuLIGHTxbTOPp,5BOTTOMp,4zCIRCLE",
  "3DOWNbHORIZONTALzCIRCLE,3UPbHORIZONTALzCIRCLE,3xzTRIANGLE,3DOWNbHORIZONTALzTRIANGLE",
  "3UPbHORIZONTALzTRIANGLE,3xbWAVE,3DOWNbHORIZONTALzWAVE,3UPbHORIZONTALzWAVE,3DOWNbHORIZONTAL",
  "3UPbHORIZONTAL,3xbTOPl,5BOTTOMl,0SQUARE FOOT,0RETURNu,0EJECTu,0xLINE EXTENSION,0METRICAL BREVE",
  "1LONG OVER SHORT,1SHORT OVER LONG,1LONG OVER TWO SHORTS,1TWO SHORTS OVER LONG,3JOINED,1TRISEME",
  "1TETRASEME,1PENTASEME,0EARTH GROUND,0FUSE,0TOP PARENTHESIS,0BOTTOM PARENTHESIS",
  "0TOP CURLY BRACKET,0BOTTOM CURLY BRACKET,0TOP TORTOISE SHELL BRACKET",
  "0BOTTOM TORTOISE SHELL BRACKET,0yTRAPEZIUM,0BENZENE RINGzCIRCLE,0STRAIGHTNESS,0FLATNESS",
  "0AC CURRENT,0ELECTRICAL INTERSECTION,0DECIMAL EXPONENTu,0eRIGHT-POINTINGgTRIANGLE",
  "1LEFT-POINTINGgTRIANGLE,1UP-POINTINGgTRIANGLE,1DOWN-POINTINGgTRIANGLE",
  "1RIGHT-POINTINGgTRIANGLEzxBAR,1LEFT-POINTINGgTRIANGLEzxBAR,1RIGHT-POINTING TRIANGLEzgxBAR",
  "0ALARM CLOCK,0STOPWATCH,0TIMER CLOCK,0HOURGLASSzFLOWING SAND,0eMEDIUM LEFT-POINTING TRIANGLE",
  "2RIGHT-POINTING TRIANGLE,2UP-POINTING TRIANGLE,2DOWN-POINTING TRIANGLE,0gxBAR",
  "0eSQUARE FOR STOP,1CIRCLE FOR RECORD,0POWERu,1ON-OFFu,1ONu,1SLEEPu,0OBSERVER EYEu,0uFOR NULL",
  "2START OF HEADING,4TEXT,2END OF TEXT,4TRANSMISSION,2ENQUIRY,2ACKNOWLEDGE,2BELL,2BACKSPACE",
  "2HORIZONTAL TABULATION,2LINE FEED,2xTABULATION,2iFEED,2CARRIAGE RETURN,2SHIFT OUT,3IN",
  "2DATA LINK ESCAPE,2DEVICE CONTROL ONE,4TWO,4v,4FOUR,2NEGATIVE ACKNOWLEDGE,2SYNCHRONOUS IDLE",
  "2END OF TRANSMISSION BLOCK,2CANCEL,2END OF MEDIUM,2SUBSTITUTE,2ESCAPE,2FILE SEPARATOR",
  "2GROUP SEPARATOR,2RECORD SEPARATOR,2UNIT SEPARATOR,2SPACE,2DELETE,0BLANKu,0OPEN BOX",
  "0uFOR NEWLINE,2DELETEiTWO,2SUBSTITUTEiTWO,@2440,0OCR HOOK,1CHAIR,1FORK,1INVERTED FORK",
  "1BELT BUCKLE,1BOW TIE,1BRANCH BANK IDENTIFICATION,1AMOUNT OF CHECK,1DASH",
  "1CUSTOMER ACCOUNT NUMBER,1gBACKSLASH,@2460,0CIRCLED DIGIT ONE,2TWO,2v,2FOUR,2FIVE,2SIX,2SEVEN",
  "2EIGHT,2NINE,1NUMBER TEN,2ELEVEN,2TWELVE,2THIRTEEN,2FOURTEEN,2FIFTEEN,2SIXTEEN,2SEVENTEEN",
  "2EIGHTEEN,2NINETEEN,2TWENTY,0PARENTHESIZED DIGIT ONE,2TWO,2v,2FOUR,2FIVE,2SIX,2SEVEN,2EIGHT",
  "2NINE,1NUMBER TEN,2ELEVEN,2TWELVE,2THIRTEEN,2FOURTEEN,2FIFTEEN,2SIXTEEN,2SEVENTEEN,2EIGHTEEN",
  "2NINETEEN,2TWENTY,0DIGIT ONE FULL STOP,1TWO FULL STOP,1vFULL STOP,1FOUR FULL STOP",
  "1FIVE FULL STOP,1SIX FULL STOP,1SEVEN FULL STOP,1EIGHT FULL STOP,1NINE FULL STOP",
  "0NUMBER TEN FULL STOP,1ELEVEN FULL STOP,1TWELVE FULL STOP,1THIRTEEN FULL STOP",
  "1FOURTEEN FULL STOP,1FIFTEEN FULL STOP,1SIXTEEN FULL STOP,1SEVENTEEN FULL STOP",
  "1EIGHTEEN FULL STOP,1NINETEEN FULL STOP,1TWENTY FULL STOP,0PARENTHESIZED LATINsnA,4B,4C,4D,4E",
  "4F,4G,4H,4I,4J,4K,4L,4M,4N,4O,4P,4Q,4R,4S,4T,4U,4V,4W,4X,4Y,4Z,0CIRCLED LATINfnA,4B,4C,4D,4E",
  "4F,4G,4H,4I,4J,4K,4L,4M,4N,4O,4P,4Q,4R,4S,4T,4U,4V,4W,4X,4Y,4Z,2snA,4B,4C,4D,4E,4F,4G,4H,4I,4J",
  "4K,4L,4M,4N,4O,4P,4Q,4R,4S,4T,4U,4V,4W,4X,4Y,4Z,1DIGIT ZERO,0NEGATIVE CIRCLED NUMBER ELEVEN",
  "3TWELVE,3THIRTEEN,3FOURTEEN,3FIFTEEN,3SIXTEEN,3SEVENTEEN,3EIGHTEEN,3NINETEEN,3TWENTY",
  "0gCIRCLED DIGIT ONE,3TWO,3v,3FOUR,3FIVE,3SIX,3SEVEN,3EIGHT,3NINE,2NUMBER TEN",
  "0NEGATIVE CIRCLED DIGIT ZERO,0BOX DRAWINGS LIGHT HORIZONTAL,2HEAVY HORIZONTAL,2LIGHTx,2HEAVYx",
  "2LIGHT TRIPLE DASH HORIZONTAL,2HEAVY TRIPLE DASH HORIZONTAL,2LIGHT TRIPLE DASHx",
  "2HEAVY TRIPLE DASHx,2LIGHT QUADRUPLE DASH HORIZONTAL,2HEAVY QUADRUPLE DASH HORIZONTAL",
  "2LIGHT QUADRUPLE DASHx,2HEAVY QUADRUPLE DASHx,2LIGHT DOWNbp,2DOWN LIGHTbpHEAVY,3HEAVYbpLIGHT",
  "2HEAVY DOWNbp,2LIGHT DOWNbl,2DOWN LIGHTblHEAVY,3HEAVYblLIGHT,2HEAVY DOWNbl,2LIGHT UPbp",
  "2UP LIGHTbpHEAVY,3HEAVYbpLIGHT,2HEAVY UPbp,2LIGHT UPbl,2UP LIGHTblHEAVY,3HEAVYblLIGHT",
  "2HEAVY UPbl,2LIGHTxbp,2xLIGHTbpHEAVY,2UP HEAVYbpDOWN LIGHT,2DOWN HEAVYbpUP LIGHT",
  "2xHEAVYbpLIGHT,2DOWN LIGHTbpUP HEAVY,2UP LIGHTbpDOWN HEAVY,2HEAVYxbp,2LIGHTxbl,2xLIGHTblHEAVY",
  "2UP HEAVYblDOWN LIGHT,2DOWN HEAVYblUP LIGHT,2xHEAVYblLIGHT,2DOWN LIGHTblUP HEAVY",
  "2UP LIGHTblDOWN HEAVY,2HEAVYxbl,2LIGHT DOWNbHORIZONTAL,2lHEAVYbpDOWN LIGHT,2pHEAVYblDOWN LIGHT",
  "2DOWN LIGHTbHORIZONTAL HEAVY,3HEAVYbHORIZONTAL LIGHT,2pLIGHTblDOWN HEAVY,2lLIGHTbpDOWN HEAVY",
  "2HEAVY DOWNbHORIZONTAL,2LIGHT UPbHORIZONTAL,2lHEAVYbpUP LIGHT,2pHEAVYblUP LIGHT",
  "2UP LIGHTbHORIZONTAL HEAVY,3HEAVYbHORIZONTAL LIGHT,2pLIGHTblUP HEAVY,2lLIGHTbpUP HEAVY",
  "2HEAVY UPbHORIZONTAL,2LIGHTxbHORIZONTAL,2lHEAVYbpxLIGHT,2pHEAVYblxLIGHT",
  "2xLIGHTbHORIZONTAL HEAVY,2UP HEAVYbDOWN HORIZONTAL LIGHT,2DOWN HEAVYbUP HORIZONTAL LIGHT",
  "2xHEAVYbHORIZONTAL LIGHT,2lUP HEAVYbpDOWN LIGHT,2pUP HEAVYblDOWN LIGHT,2lDOWN HEAVYbpUP LIGHT",
  "2pDOWN HEAVYblUP LIGHT,2DOWN LIGHTbUP HORIZONTAL HEAVY,2UP LIGHTbDOWN HORIZONTAL HEAVY",
  "2pLIGHTblxHEAVY,2lLIGHTbpxHEAVY,2HEAVYxbHORIZONTAL,2LIGHTgDASH HORIZONTAL",
  "2HEAVYgDASH HORIZONTAL,2LIGHTgDASHx,2HEAVYgDASHx,2gHORIZONTAL,3x,2DOWN SINGLEbpg,3gbpSINGLE",
  "2gDOWNbp,2DOWN SINGLEblg,3gblSINGLE,2gDOWNbl,2UP SINGLEbpg,3gbpSINGLE,2gUPbp,2UP SINGLEblg",
  "3gblSINGLE,2gUPbl,2xSINGLEbpg,3gbpSINGLE,2gxbp,2xSINGLEblg,3gblSINGLE,2gxbl",
  "2DOWN SINGLEbHORIZONTALg,3gbHORIZONTAL SINGLE,2gDOWNbHORIZONTAL,2UP SINGLEbHORIZONTALg",
  "3gbHORIZONTAL SINGLE,2gUPbHORIZONTAL,2xSINGLEbHORIZONTALg,3gbHORIZONTAL SINGLE,2gxbHORIZONTAL",
  "2LIGHT ARC DOWNbp,6l,4UPbl,6p,3DIAGONAL UPPERpTO LOWERl,5lTO LOWERp,4CROSS,3l,3UP,3p,3DOWN",
  "2HEAVYl,3UP,3p,3DOWN,2LIGHTlbHEAVYp,3UPbHEAVY DOWN,2HEAVYlbLIGHTp,3UPbLIGHT DOWN",
  "0UPPER HALF BLOCK,0LOWER ONE EIGHTH BLOCK,2QUARTER BLOCK,1vEIGHTHS BLOCK,1HALF BLOCK",
  "1FIVE EIGHTHS BLOCK,1vQUARTERS BLOCK,1SEVEN EIGHTHS BLOCK,0FULL BLOCK,0lSEVEN EIGHTHS BLOCK",
  "1vQUARTERS BLOCK,1FIVE EIGHTHS BLOCK,1HALF BLOCK,1vEIGHTHS BLOCK,1ONE QUARTER BLOCK",
  "2EIGHTH BLOCK,0pHALF BLOCK,0LIGHT SHADE,0MEDIUM SHADE,0DARK SHADE,0UPPER ONE EIGHTH BLOCK",
  "0pONE EIGHTH BLOCK,0QUADRANT LOWERl,2p,1UPPERl,3bLOWERlbLOWERp,5p,4UPPERpbLOWERl,8p,2p",
  "3bLOWERl,6bLOWERp,0eSQUARE,0ySQUARE,2zROUNDED CORNERS,2CONTAININGesSQUARE",
  "0SQUAREzHORIZONTAL FILL,2xFILL,2ORTHOGONAL CROSSHATCH FILL,2UPPERlTO LOWERpFILL",
  "3pTO LOWERlFILL,2DIAGONAL CROSSHATCH FILL,0esSQUARE,0ysSQUARE,0eRECTANGLE,0yRECTANGLE",
  "0exRECTANGLE,0yxRECTANGLE,0ePARALLELOGRAM,0yPARALLELOGRAM,0eUP-POINTING TRIANGLE",
  "0yUP-POINTING TRIANGLE,0eUP-POINTINGsTRIANGLE,0yUP-POINTINGsTRIANGLE,0eRIGHT-POINTING TRIANGLE",
  "0yRIGHT-POINTING TRIANGLE,0eRIGHT-POINTINGsTRIANGLE,0yRIGHT-POINTINGsTRIANGLE",
  "0eRIGHT-POINTING POINTER,0yRIGHT-POINTING POINTER,0eDOWN-POINTING TRIANGLE",
  "0yDOWN-POINTING TRIANGLE,0eDOWN-POINTINGsTRIANGLE,0yDOWN-POINTINGsTRIANGLE",
  "0eLEFT-POINTING TRIANGLE,0yLEFT-POINTING TRIANGLE,0eLEFT-POINTINGsTRIANGLE",
  "0yLEFT-POINTINGsTRIANGLE,0eLEFT-POINTING POINTER,0yLEFT-POINTING POINTER,0eDIAMOND,0yDIAMOND",
  "2CONTAININGesDIAMOND,0FISHEYE,0LOZENGE,0yCIRCLE,0DOTTED CIRCLE,0CIRCLEzxFILL,0BULLSEYE",
  "0eCIRCLE,0CIRCLEzlHALFe,2pHALFe,2LOWER HALFe,2UPPER HALFe,3pQUADRANTe,2ALL BUT UPPERlQUADRANTe",
  "0lHALFeCIRCLE,0pHALFeCIRCLE,0INVERSE BULLET,1yCIRCLE,0UPPER HALF INVERSEyCIRCLE",
  "0LOWER HALF INVERSEyCIRCLE,0UPPERlQUADRANT CIRCULAR ARC,1pQUADRANT CIRCULAR ARC",
  "0LOWERpQUADRANT CIRCULAR ARC,1lQUADRANT CIRCULAR ARC,0UPPER HALF CIRCLE,0LOWER HALF CIRCLE",
  "0eLOWERpTRIANGLE,2lTRIANGLE,1UPPERlTRIANGLE,2pTRIANGLE,0yBULLET,0SQUAREzlHALFe,2pHALFe",
  "2UPPERlDIAGONAL HALFe,2LOWERpDIAGONAL HALFe,0ySQUAREzxBISECTING LINE,1UP-POINTING TRIANGLEzDOT",
  "0UP-POINTING TRIANGLEzlHALFe,3pHALFe,0LARGE CIRCLE,0ySQUAREzUPPERlQUADRANT,3LOWERlQUADRANT",
  "4pQUADRANT,3UPPERpQUADRANT,1CIRCLEzUPPERlQUADRANT,3LOWERlQUADRANT,4pQUADRANT,3UPPERpQUADRANT",
  "0UPPERlTRIANGLE,1pTRIANGLE,0LOWERlTRIANGLE,0yMEDIUM SQUARE,0eMEDIUM SQUARE,0yMEDIUMsSQUARE",
  "0eMEDIUMsSQUARE,0LOWERpTRIANGLE,0eSUNzRAYS,0CLOUD,0UMBRELLA,0SNOWMAN,0COMET,0eSTAR,0ySTAR",
  "0LIGHTNING,0THUNDERSTORM,0SUN,0ASCENDING NODE,0DESCENDING NODE,0CONJUNCTION,0OPPOSITION",
  "0eTELEPHONE,0yTELEPHONE,0BALLOT BOX,2zCHECK,3X,0SALTIRE,0UMBRELLAzRAIN DROPS,0HOT BEVERAGE",
  "0ySHOGI PIECE,0eSHOGI PIECE,0SHAMROCK,0REVERSED ROTATED FLORAL HEART BULLET,0elPOINTING INDEX",
  "1pPOINTING INDEX,0ylPOINTING INDEX,1UP POINTING INDEX,1pPOINTING INDEX,1DOWN POINTING INDEX",
  "0SKULLbCROSSBONES,0CAUTIONr,0RADIOACTIVEr,0BIOHAZARDr,0CADUCEUS,0ANKH,0ORTHODOX CROSS,0CHI RHO",
  "0CROSS OF LORRAINE,2JERUSALEM,0STARbCRESCENT,0FARSIu,0ADI SHAKTI,0HAMMERbSICKLE,0PEACEu",
  "0YIN YANG,0TRIGRAM FOR HEAVEN,2LAKE,2FIRE,2THUNDER,2WIND,2WATER,2MOUNTAIN,2EARTH",
  "0WHEEL OF DHARMA,0yFROWNING FACE,1SMILING FACE,0eSMILING FACE,0ySUNzRAYS,0FIRST QUARTER MOON",
  "0LAST QUARTER MOON,0MERCURY,0FEMALEr,0EARTH,0MALEr,0JUPITER,0SATURN,0URANUS,0NEPTUNE,0PLUTO",
  "0ARIES,0TAURUS,0GEMINI,0CANCER,0LEO,0VIRGO,0LIBRA,0SCORPIUS,0SAGITTARIUS,0CAPRICORN,0AQUARIUS",
  "0PISCES,0yCHESS KING,2QUEEN,2ROOK,2BISHOP,2KNIGHT,2PAWN,0eCHESS KING,2QUEEN,2ROOK,2BISHOP",
  "2KNIGHT,2PAWN,1SPADE SUIT,0yHEART SUIT,1DIAMOND SUIT,0eCLUB SUIT,0ySPADE SUIT,0eHEART SUIT",
  "1DIAMOND SUIT,0yCLUB SUIT,0HOT SPRINGS,0QUARTER NOTE,0EIGHTH NOTE,0BEAMED EIGHTH NOTES",
  "1SIXTEENTH NOTES,0MUSIC FLATr,1NATURALr,1SHARPr,0WEST SYRIAC CROSS,0EAST SYRIAC CROSS",
  "0UNIVERSAL RECYCLINGu,0RECYCLINGuFOR TYPE-1 PLASTICS,3TYPE-2 PLASTICS,3TYPE-3 PLASTICS",
  "3TYPE-4 PLASTICS,3TYPE-5 PLASTICS,3TYPE-6 PLASTICS,3TYPE-7 PLASTICS,3GENERIC MATERIALS",
  "0eUNIVERSAL RECYCLINGu,0RECYCLED PAPERu,0PARTIALLY-RECYCLED PAPERu,0PERMANENT PAPERr",
  "0WHEELCHAIRu,0DIE FACE-1,1FACE-2,1FACE-3,1FACE-4,1FACE-5,1FACE-6,0yCIRCLEzDOTp,3TWO DOTS",
  "0eCIRCLEzyDOTp,3TWOyDOTS,0MONOGRAM FOR YANG,2YIN,0DIGRAM FOR GREATER YANG,2LESSER YIN,3YANG",
  "2GREATER YIN,0yFLAG,0eFLAG,0HAMMERbPICK,0ANCHOR,0CROSSED SWORDS,0STAFF OF AESCULAPIUS,0SCALES",
  "0ALEMBIC,0FLOWER,0GEAR,0STAFF OF HERMES,0ATOMu,0FLEUR-DE-LIS,0OUTLINEDySTAR",
  "0vLINES CONVERGINGp,3l,0WARNINGr,0HIGH VOLTAGEr,0DOUBLED FEMALEr,1MALEr",
  "0INTERLOCKED FEMALEbMALEr,0MALEbFEMALEr,1ztr,3bMALEbFEMALEr,0xMALEztr,0HORIZONTAL MALEztr",
  "0MEDIUMyCIRCLE,1eCIRCLE,1syCIRCLE,0MARRIAGEu,0DIVORCEu,0UNMARRIED PARTNERSHIPu,0COFFIN",
  "0FUNERAL URN,0NEUTER,0CERES,0PALLAS,0JUNO,0VESTA,0CHIRON,0eMOON LILITH,0SEXTILE,0SEMISEXTILE",
  "0QUINCUNX,0SESQUIQUADRATE,0SOCCER BALL,0BASEBALL,0SQUARED KEY,0yDRAUGHTS MAN,2KING",
  "0eDRAUGHTS MAN,2KING,0SNOWMAN WITHOUT SNOW,0SUN BEHIND CLOUD,0RAIN,0eSNOWMAN",
  "0THUNDER CLOUDbRAIN,0TURNEDySHOGI PIECE,1eSHOGI PIECE,0yDIAMOND IN SQUARE,0CROSSING LANES",
  "0DISABLED CAR,0OPHIUCHUS,0PICK,0CAR SLIDING,0HELMETzyCROSS,0CIRCLED CROSSING LANES,0CHAINS",
  "0NO ENTRY,0ALTERNATE ONE-WAYlWAY TRAFFIC,0eTWO-WAYlWAY TRAFFIC,0yTWO-WAYlWAY TRAFFIC",
  "0elLANE MERGE,0ylLANE MERGE,0DRIVE SLOWr,0HEAVYyDOWN-POINTING TRIANGLE,0lCLOSED ENTRY",
  "0SQUARED SALTIRE,0FALLING DIAGONAL INyCIRCLE INeSQUARE,0eTRUCK,0RESTRICTEDlENTRY-1,2ENTRY-2",
  "0ASTRONOMICALuFOR URANUS,0HEAVY CIRCLEztbTWO DOTSa,0PENTAGRAM",
  "0RIGHT-HANDED INTERLACED PENTAGRAM,0LEFT-HANDED INTERLACED PENTAGRAM,0INVERTED PENTAGRAM",
  "0eCROSS ON SHIELD,0SHINTO SHRINE,0CHURCH,0CASTLE,0HISTORIC SITE,0GEAR WITHOUT HUB,1zHANDLES",
  "0MAPuFOR LIGHTHOUSE,0MOUNTAIN,0UMBRELLA ON GROUND,0FOUNTAIN,0FLAG IN HOLE,0FERRY,0SAILBOAT",
  "0SQUARE FOUR CORNERS,0SKIER,0ICE SKATE,0PERSONzBALL,0TENT,0JAPANESE BANKu",
  "0HEADSTONE GRAVEYARDu,0FUEL PUMP,0CUP ONeSQUARE,0yFLAGzHORIZONTAL MIDDLEeSTRIPE",
  "0eSAFETY SCISSORS,0UPPER BLADE SCISSORS,0eSCISSORS,0LOWER BLADE SCISSORS,0ySCISSORS",
  "1HEAVY CHECKo,0TELEPHONE LOCATIONr,0TAPE DRIVE,0AIRPLANE,0ENVELOPE,0RAISED FIST,1HAND",
  "0VICTORY HAND,0WRITING HAND,0LOWERpPENCIL,0PENCIL,0UPPERpPENCIL,0yNIB,0eNIB,0CHECKo",
  "0HEAVY CHECKo,0MULTIPLICATION X,0HEAVY MULTIPLICATION X,0BALLOT X,0HEAVY BALLOT X",
  "0OUTLINED GREEK CROSS,0HEAVY GREEK CROSS,0OPEN CENTRE CROSS,0HEAVY OPEN CENTRE CROSS",
  "0LATIN CROSS,0SHADOWEDyLATIN CROSS,0OUTLINED LATIN CROSS,0MALTESE CROSS,0STAR OF DAVID",
  "0FOUR TEARDROP-SPOKED ASTERISK,1BALLOON-SPOKED ASTERISK,0HEAVY FOUR BALLOON-SPOKED ASTERISK",
  "0FOUR CLUB-SPOKED ASTERISK,0eFOUR POINTED STAR,0yFOUR POINTED STAR,0SPARKLES",
  "0STRESS OUTLINEDySTAR,0CIRCLEDySTAR,0OPEN CENTREeSTAR,0eCENTREySTAR,0OUTLINEDeSTAR",
  "0HEAVY OUTLINEDeSTAR,0PINWHEEL STAR,0SHADOWEDySTAR,0HEAVY ASTERISK,0OPEN CENTRE ASTERISK",
  "0EIGHT SPOKED ASTERISK,1POINTEDeSTAR,2PINWHEEL STAR,0SIX POINTEDeSTAR",
  "0EIGHT POINTED RECTILINEAReSTAR,0HEAVY EIGHT POINTED RECTILINEAReSTAR,0TWELVE POINTEDeSTAR",
  "0SIXTEEN POINTED ASTERISK,0TEARDROP-SPOKED ASTERISK,0OPEN CENTRE TEARDROP-SPOKED ASTERISK",
  "0HEAVY TEARDROP-SPOKED ASTERISK,0SIX PETALLEDebyFLORETTE,0eFLORETTE,0yFLORETTE",
  "0EIGHT PETALLED OUTLINEDeFLORETTE,0CIRCLED OPEN CENTRE EIGHT POINTED STAR",
  "0HEAVY TEARDROP-SPOKED PINWHEEL ASTERISK,0SNOWFLAKE,0TIGHT TRIFOLIATE SNOWFLAKE",
  "0HEAVY CHEVRON SNOWFLAKE,0SPARKLE,0HEAVY SPARKLE,0BALLOON-SPOKED ASTERISK",
  "0EIGHT TEARDROP-SPOKED PROPELLER ASTERISK,0HEAVY EIGHT TEARDROP-SPOKED PROPELLER ASTERISK",
  "0CROSSo,0SHADOWEDyCIRCLE,0NEGATIVE SQUARED CROSSo,0LOWERpDROP-SHADOWEDySQUARE",
  "0UPPERpDROP-SHADOWEDySQUARE,0LOWERpSHADOWEDySQUARE,0UPPERpSHADOWEDySQUARE,0eQUESTIONoORNAMENT",
  "0yQUESTIONoORNAMENT,1EXCLAMATIONoORNAMENT,0eDIAMOND MINUSyX,0HEAVY EXCLAMATIONou,0LIGHTxBAR",
  "0MEDIUMxBAR,0HEAVYxBAR,1SINGLE TURNED COMMA QUOTATIONoORNAMENT,2COMMA QUOTATIONoORNAMENT",
  "1gTURNED COMMA QUOTATIONoORNAMENT,2COMMA QUOTATIONoORNAMENT",
  "1LOW SINGLE COMMA QUOTATIONoORNAMENT,2gCOMMA QUOTATIONoORNAMENT",
  "0CURVED STEM PARAGRAPHrORNAMENT,0HEAVY EXCLAMATIONoORNAMENT,1HEART EXCLAMATIONoORNAMENT",
  "1eHEART,0ROTATED HEAVYeHEART BULLET,0FLORAL HEART,0ROTATED FLORAL HEART BULLET",
  "0MEDIUMlPARENTHESIS ORNAMENT,1pPARENTHESIS ORNAMENT,1FLATTENEDlPARENTHESIS ORNAMENT",
  "2pPARENTHESIS ORNAMENT,1LEFT-POINTING ANGLE BRACKET ORNAMENT",
  "1RIGHT-POINTING ANGLE BRACKET ORNAMENT,0HEAVY LEFT-POINTING ANGLE QUOTATIONoORNAMENT",
  "1RIGHT-POINTING ANGLE QUOTATIONoORNAMENT,1LEFT-POINTING ANGLE BRACKET ORNAMENT",
  "1RIGHT-POINTING ANGLE BRACKET ORNAMENT,0LIGHTlTORTOISE SHELL BRACKET ORNAMENT",
  "1pTORTOISE SHELL BRACKET ORNAMENT,0MEDIUMlCURLY BRACKET ORNAMENT,1pCURLY BRACKET ORNAMENT",
  "0DINGBAT NEGATIVE CIRCLED DIGIT ONE,4TWO,4v,4FOUR,4FIVE,4SIX,4SEVEN,4EIGHT,4NINE,3NUMBER TEN",
  "1CIRCLED SANS-SERIF DIGIT ONE,4TWO,4v,4FOUR,4FIVE,4SIX,4SEVEN,4EIGHT,4NINE,3NUMBER TEN",
  "1NEGATIVE CIRCLED SANS-SERIF DIGIT ONE,5TWO,5v,5FOUR,5FIVE,5SIX,5SEVEN,5EIGHT,5NINE",
  "4NUMBER TEN,0HEAVY WIDE-HEADEDqc,1PLUSr,1MINUSr,1DIVISIONr,1SOUTH EASTc,1qc,1NORTH EASTc",
  "0DRAFTING POINTqc,0HEAVY ROUND-TIPPEDqc,0wqc,0HEAVYwqc,0DASHEDwqc,0HEAVY DASHEDwqc,0eqc",
  "0THREE-D TOP-LIGHTEDqARROWHEAD,1BOTTOM-LIGHTEDqARROWHEAD,0eqARROWHEAD",
  "0HEAVYeCURVED DOWNWARDSbqc,3UPWARDSbqc,0SQUATeqc,0HEAVY CONCAVE-POINTEDeqc,0RIGHT-SHADEDyqc",
  "0LEFT-SHADEDyqc,0BACK-TILTED SHADOWEDyqc,0FRONT-TILTED SHADOWEDyqc",
  "0HEAVY LOWER RIGHT-SHADOWEDyqc,1UPPER RIGHT-SHADOWEDyqc,0NOTCHED LOWER RIGHT-SHADOWEDyqc",
  "0CURLY LOOP,0NOTCHED UPPER RIGHT-SHADOWEDyqc,0CIRCLED HEAVYyqc,0WHITE-FEATHEREDqc",
  "0BLACK-FEATHERED SOUTH EASTc,1qc,1NORTH EASTc,0HEAVY BLACK-FEATHERED SOUTH EASTc,2qc",
  "2NORTH EASTc,0TEARDROP-BARBEDqc,0HEAVY TEARDROP-SHANKEDqc,0WEDGE-TAILEDqc",
  "0HEAVY WEDGE-TAILEDqc,0OPEN-OUTLINEDqc,0gCURLY LOOP,0vDIMENSIONAL ANGLE",
  "0yTRIANGLE CONTAININGsyTRIANGLE,0PERPENDICULAR,0OPEN SUBSET,1SUPERSET,0lS-SHAPED BAG DELIMITER",
  "0pS-SHAPED BAG DELIMITER,0ORzDOT INSIDE,0REVERSE SOLIDUS PRECEDING SUBSET",
  "0SUPERSET PRECEDING SOLIDUS,0xBARzHORIZONTALt,0MATHEMATICAL RISING DIAGONAL,0LONG DIVISION",
  "0MATHEMATICAL FALLING DIAGONAL,0SQUARED LOGICALb,2OR,0yDIAMONDzCENTRED DOT,0bzDOT",
  "0ELEMENT OF OPENING UPWARDS,0LOWERpCORNERzDOT,0UPPERlCORNERzDOT,0lOUTER JOIN,0pOUTER JOIN",
  "0FULL OUTER JOIN,0LARGE UP TACK,1DOWN TACK,0lbpgTURNSTILE,3TACK,1MULTIMAP,0LONGpTACK,1lTACK",
  "0UP TACKzCIRCLEa,0LOZENGE DIVIDED BY HORIZONTAL RULE,0yCONCAVE-SIDED DIAMOND,3zmTICK,4qTICK",
  "1SQUAREzmTICK,3qTICK,0MATHEMATICALlySQUARE BRACKET,1pySQUARE BRACKET,1lANGLE BRACKET",
  "1pANGLE BRACKET,1lgANGLE BRACKET,1pgANGLE BRACKET,1lyTORTOISE SHELL BRACKET",
  "1pyTORTOISE SHELL BRACKET,1lFLATTENED PARENTHESIS,1pFLATTENED PARENTHESIS,0UPWARDS QUADRUPLEc",
  "0DOWNWARDS QUADRUPLEc,0ANTICLOCKWISE GAPPED CIRCLEc,0CLOCKWISE GAPPED CIRCLEc,0pczCIRCLED PLUS",
  "0LONGmc,1qc,1lpc,1mgc,1qgc,1lpgc,1mcFROM BAR,1qcFROM BAR,1mgcFROM BAR,1qgcFROM BAR,2SQUIGGLEc",
  "0BRAILLE PATTERN BLANK,2DOTS-1,2DOTS-2,2DOTS-12,2DOTS-3,2DOTS-13,2DOTS-23,2DOTS-123,2DOTS-4",
  "2DOTS-14,2DOTS-24,2DOTS-124,2DOTS-34,2DOTS-134,2DOTS-234,2DOTS-1234,2DOTS-5,2DOTS-15,2DOTS-25",
  "2DOTS-125,2DOTS-35,2DOTS-135,2DOTS-235,2DOTS-1235,2DOTS-45,2DOTS-145,2DOTS-245,2DOTS-1245",
  "2DOTS-345,2DOTS-1345,2DOTS-2345,2DOTS-12345,2DOTS-6,2DOTS-16,2DOTS-26,2DOTS-126,2DOTS-36",
  "2DOTS-136,2DOTS-236,2DOTS-1236,2DOTS-46,2DOTS-146,2DOTS-246,2DOTS-1246,2DOTS-346,2DOTS-1346",
  "2DOTS-2346,2DOTS-12346,2DOTS-56,2DOTS-156,2DOTS-256,2DOTS-1256,2DOTS-356,2DOTS-1356,2DOTS-2356",
  "2DOTS-12356,2DOTS-456,2DOTS-1456,2DOTS-2456,2DOTS-12456,2DOTS-3456,2DOTS-13456,2DOTS-23456",
  "2DOTS-123456,2DOTS-7,2DOTS-17,2DOTS-27,2DOTS-127,2DOTS-37,2DOTS-137,2DOTS-237,2DOTS-1237",
  "2DOTS-47,2DOTS-147,2DOTS-247,2DOTS-1247,2DOTS-347,2DOTS-1347,2DOTS-2347,2DOTS-12347,2DOTS-57",
  "2DOTS-157,2DOTS-257,2DOTS-1257,2DOTS-357,2DOTS-1357,2DOTS-2357,2DOTS-12357,2DOTS-457",
  "2DOTS-1457,2DOTS-2457,2DOTS-12457,2DOTS-3457,2DOTS-13457,2DOTS-23457,2DOTS-123457,2DOTS-67",
  "2DOTS-167,2DOTS-267,2DOTS-1267,2DOTS-367,2DOTS-1367,2DOTS-2367,2DOTS-12367,2DOTS-467",
  "2DOTS-1467,2DOTS-2467,2DOTS-12467,2DOTS-3467,2DOTS-13467,2DOTS-23467,2DOTS-123467,2DOTS-567",
  "2DOTS-1567,2DOTS-2567,2DOTS-12567,2DOTS-3567,2DOTS-13567,2DOTS-23567,2DOTS-123567,2DOTS-4567",
  "2DOTS-14567,2DOTS-24567,2DOTS-124567,2DOTS-34567,2DOTS-134567,2DOTS-234567,2DOTS-1234567",
  "2DOTS-8,2DOTS-18,2DOTS-28,2DOTS-128,2DOTS-38,2DOTS-138,2DOTS-238,2DOTS-1238,2DOTS-48,2DOTS-148",
  "2DOTS-248,2DOTS-1248,2DOTS-348,2DOTS-1348,2DOTS-2348,2DOTS-12348,2DOTS-58,2DOTS-158,2DOTS-258",
  "2DOTS-1258,2DOTS-358,2DOTS-1358,2DOTS-2358,2DOTS-12358,2DOTS-458,2DOTS-1458,2DOTS-2458",
  "2DOTS-12458,2DOTS-3458,2DOTS-13458,2DOTS-23458,2DOTS-123458,2DOTS-68,2DOTS-168,2DOTS-268",
  "2DOTS-1268,2DOTS-368,2DOTS-1368,2DOTS-2368,2DOTS-12368,2DOTS-468,2DOTS-1468,2DOTS-2468",
  "2DOTS-12468,2DOTS-3468,2DOTS-13468,2DOTS-23468,2DOTS-123468,2DOTS-568,2DOTS-1568,2DOTS-2568",
  "2DOTS-12568,2DOTS-3568,2DOTS-13568,2DOTS-23568,2DOTS-123568,2DOTS-4568,2DOTS-14568,2DOTS-24568",
  "2DOTS-124568,2DOTS-34568,2DOTS-134568,2DOTS-234568,2DOTS-1234568,2DOTS-78,2DOTS-178,2DOTS-278",
  "2DOTS-1278,2DOTS-378,2DOTS-1378,2DOTS-2378,2DOTS-12378,2DOTS-478,2DOTS-1478,2DOTS-2478",
  "2DOTS-12478,2DOTS-3478,2DOTS-13478,2DOTS-23478,2DOTS-123478,2DOTS-578,2DOTS-1578,2DOTS-2578",
  "2DOTS-12578,2DOTS-3578,2DOTS-13578,2DOTS-23578,2DOTS-123578,2DOTS-4578,2DOTS-14578,2DOTS-24578",
  "2DOTS-124578,2DOTS-34578,2DOTS-134578,2DOTS-234578,2DOTS-1234578,2DOTS-678,2DOTS-1678",
  "2DOTS-2678,2DOTS-12678,2DOTS-3678,2DOTS-13678,2DOTS-23678,2DOTS-123678,2DOTS-4678,2DOTS-14678",
  "2DOTS-24678,2DOTS-124678,2DOTS-34678,2DOTS-134678,2DOTS-234678,2DOTS-1234678,2DOTS-5678",
  "2DOTS-15678,2DOTS-25678,2DOTS-125678,2DOTS-35678,2DOTS-135678,2DOTS-235678,2DOTS-1235678",
  "2DOTS-45678,2DOTS-145678,2DOTS-245678,2DOTS-1245678,2DOTS-345678,2DOTS-1345678,2DOTS-2345678",
  "2DOTS-12345678,0qTWO-HEADEDczxt,4gxt,0mgczxt,0qgczxt,0lpgczxt,0qTWO-HEADEDcFROM BAR",
  "0mgcFROM BAR,0qgcFROM BAR,0DOWNWARDSczHORIZONTALt,0UPWARDSczHORIZONTALt,1TRIPLEc",
  "0DOWNWARDS TRIPLEc,0mgDASHc,0qgDASHc,0mTRIPLE DASHc,0qTRIPLE DASHc,1TWO-HEADED TRIPLE DASHc",
  "1czDOTTED STEM,0UPWARDScTO BAR,0DOWNWARDScTO BAR,0qczTAILzxt,5gxt,1TWO-HEADEDczTAIL,5zxt,6gxt",
  "0mARROW-TAIL,0qARROW-TAIL,0mgARROW-TAIL,0qgARROW-TAIL,0mcTOeDIAMOND,0qcTOeDIAMOND",
  "0mcFROM BAR TOeDIAMOND,0qcFROM BAR TOeDIAMOND,0NORTH WESTbSOUTH EASTc,1EASTbSOUTH WESTc",
  "1WESTczHOOK,1EASTczHOOK,0SOUTH EASTczHOOK,1WESTczHOOK,0NORTH WESTcbNORTH EASTc",
  "1EASTcbSOUTH EASTc,0SOUTH EASTcbSOUTH WESTc,1WESTcbNORTH WESTc",
  "0RISING DIAGONAL CROSSING FALLING DIAGONAL,0FALLING DIAGONAL CROSSING RISING DIAGONAL",
  "0SOUTH EASTcCROSSING NORTH EASTc,0NORTH EASTcCROSSING SOUTH EASTc",
  "0FALLING DIAGONAL CROSSING NORTH EASTc,0RISING DIAGONAL CROSSING SOUTH EASTc",
  "0NORTH EASTcCROSSING NORTH WESTc,1WESTcCROSSING NORTH EASTc,0WAVEcPOINTING DIRECTLYp",
  "0cPOINTINGqTHEN CURVING UPWARDS,5DOWNWARDS,2DOWNWARDS THEN CURVINGm,5q",
  "0RIGHT-SIDE ARC CLOCKWISEc,0LEFT-SIDE ARC ANTICLOCKWISEc,0TOP ARC ANTICLOCKWISEc",
  "0BOTTOM ARC ANTICLOCKWISEc,0TOP ARC CLOCKWISEczMINUS,2ANTICLOCKWISEczPLUS",
  "0LOWERpSEMICIRCULAR CLOCKWISEc,1lSEMICIRCULAR ANTICLOCKWISEc,0ANTICLOCKWISE CLOSED CIRCLEc",
  "0CLOCKWISE CLOSED CIRCLEc,0qcaSHORTmc,0mcaSHORTqc,0SHORTqcamc,0qczPLUSd,0mczPLUSd,0qcTHROUGH X",
  "0lpcTHROUGHsCIRCLE,0UPWARDS TWO-HEADEDcFROMsCIRCLE,0lBARB UPpBARB DOWN HARPOON",
  "2DOWNpBARB UP HARPOON,0UP BARBpDOWN BARBlHARPOON,2lDOWN BARBpHARPOON,0lBARB UPpBARB UP HARPOON",
  "0UP BARBpDOWN BARBpHARPOON,0lBARB DOWNpBARB DOWN HARPOON,0UP BARBlDOWN BARBlHARPOON",
  "0mHARPOONzBARB UP TO BAR,0qHARPOONzBARB UP TO BAR,0UPWARDS HARPOONzBARBpTO BAR",
  "0DOWNWARDS HARPOONzBARBpTO BAR,0mHARPOONzBARB DOWN TO BAR,0qHARPOONzBARB DOWN TO BAR",
  "0UPWARDS HARPOONzBARBlTO BAR,0DOWNWARDS HARPOONzBARBlTO BAR,0mHARPOONzBARB UP FROM BAR",
  "0qHARPOONzBARB UP FROM BAR,0UPWARDS HARPOONzBARBpFROM BAR,0DOWNWARDS HARPOONzBARBpFROM BAR",
  "0mHARPOONzBARB DOWN FROM BAR,0qHARPOONzBARB DOWN FROM BAR,0UPWARDS HARPOONzBARBlFROM BAR",
  "0DOWNWARDS HARPOONzBARBlFROM BAR,0mHARPOONzBARB UPamHARPOONzBARB DOWN",
  "0UPWARDS HARPOONzBARBlBESIDE UPWARDS HARPOONzBARBp,0qHARPOONzBARB UPaqHARPOONzBARB DOWN",
  "0DOWNWARDS HARPOONzBARBlBESIDE DOWNWARDS HARPOONzBARBp,0mHARPOONzBARB UPaqHARPOONzBARB UP",
  "4DOWNaqHARPOONzBARB DOWN,0qHARPOONzBARB UPamHARPOONzBARB UP,4DOWNamHARPOONzBARB DOWN",
  "0mHARPOONzBARB UPaLONG DASH,4DOWNdLONG DASH,0qHARPOONzBARB UPaLONG DASH,4DOWNdLONG DASH",
  "0UPWARDS HARPOONzBARBlBESIDE DOWNWARDS HARPOONzBARBp",
  "0DOWNWARDS HARPOONzBARBlBESIDE UPWARDS HARPOONzBARBp,0pgczROUNDED HEAD,0EQUALSraqc",
  "0TILDE OPERATORaqc,0mcaTILDE OPERATOR,0qcaTILDE OPERATOR,3ALMOST EQUAL TO,0LESS-THANamc",
  "0mcTHROUGH LESS-THAN,0GREATER-THANaqc,0SUBSETaqc,0mcTHROUGH SUBSET,0SUPERSETamc,0lFISH TAIL",
  "0pFISH TAIL,0UP FISH TAIL,0DOWN FISH TAIL,0TRIPLExBAR DELIMITER,0Z NOTATION SPOT,2TYPE COLON",
  "0lyCURLY BRACKET,0pyCURLY BRACKET,0lyPARENTHESIS,0pyPARENTHESIS,0Z NOTATIONlIMAGE BRACKET",
  "2pIMAGE BRACKET,2lBINDING BRACKET,2pBINDING BRACKET,0lSQUARE BRACKETzUNDERBAR",
  "0pSQUARE BRACKETzUNDERBAR,0lSQUARE BRACKETzTICK IN TOP CORNER",
  "0pSQUARE BRACKETzTICK IN BOTTOM CORNER,0lSQUARE BRACKETzTICK IN BOTTOM CORNER",
  "0pSQUARE BRACKETzTICK IN TOP CORNER,0lANGLE BRACKETzDOT,0pANGLE BRACKETzDOT",
  "0lARC LESS-THAN BRACKET,0pARC GREATER-THAN BRACKET,0glARC GREATER-THAN BRACKET",
  "1pARC LESS-THAN BRACKET,0leTORTOISE SHELL BRACKET,0peTORTOISE SHELL BRACKET,0DOTTED FENCE",
  "0xZIGZAG LINE,0MEASURED ANGLE OPENINGl,0pANGLE VARIANTzSQUARE,0MEASUREDpANGLEzDOT",
  "0ANGLEzS INSIDE,0ACUTE ANGLE,0SPHERICAL ANGLE OPENINGl,3UP,0TURNED ANGLE,0REVERSED ANGLE",
  "0ANGLEzUNDERBAR,0REVERSED ANGLEzUNDERBAR,0OBLIQUE ANGLE OPENING UP,3DOWN",
  "0MEASURED ANGLEzOPEN ARM ENDING INcPOINTING UPbp,9UPbl,9DOWNbp,9DOWNbl,9pbUP,9lbUP,9pbDOWN",
  "9lbDOWN,0REVERSED EMPTY SET,0EMPTY SETzOVERBAR,3sCIRCLEa,3pca,3lca,0CIRCLEzHORIZONTAL BAR",
  "0CIRCLEDxBAR,1PARALLEL,1REVERSE SOLIDUS,1PERPENDICULAR",
  "0CIRCLE DIVIDED BY HORIZONTAL BARbTOP HALF DIVIDED BYxBAR,1zSUPERIMPOSED X",
  "0CIRCLED ANTICLOCKWISE-ROTATED DIVISIONr,0UPcTHROUGH CIRCLE,0CIRCLEDyBULLET,1BULLET,1LESS-THAN",
  "1GREATER-THAN,0CIRCLEzsCIRCLE TO THEp,2TWO HORIZONTAL STROKES TO THEp",
  "0SQUARED RISING DIAGONAL SLASH,1FALLING DIAGONAL SLASH,1ASTERISK,1sCIRCLE,1SQUARE",
  "0TWO JOINED SQUARES,0TRIANGLEzDOTa,2UNDERBAR,0S IN TRIANGLE,0TRIANGLEzSERIFS AT BOTTOM",
  "0pTRIANGLEalTRIANGLE,0lTRIANGLE BESIDExBAR,0xBAR BESIDEpTRIANGLE,0BOWTIEzlHALFe,2pHALFe",
  "0eBOWTIE,0TIMESzlHALFe,2pHALFe,0yHOURGLASS,0eHOURGLASS,0lWIGGLY FENCE,0pWIGGLY FENCE",
  "0lgWIGGLY FENCE,0pgWIGGLY FENCE,0INCOMPLETE INFINITY,0TIE OVER INFINITY,0INFINITY NEGATEDzxBAR",
  "0DOUBLE-ENDED MULTIMAP,0SQUAREzCONTOURED OUTLINE,0INCREASES AS,0SHUFFLE PRODUCT",
  "0EQUALSrbSLANTED PARALLEL,5zTILDEa,0IDENTICAL TObSLANTED PARALLEL,0GLEICH STARK,0THERMODYNAMIC",
  "0DOWN-POINTING TRIANGLEzlHALFe,3pHALFe,0eDIAMONDzDOWNc,1LOZENGE,0yCIRCLEzDOWNc,0eCIRCLEzDOWNc",
  "0ERROR-BARREDySQUARE,1eSQUARE,1yDIAMOND,1eDIAMOND,1yCIRCLE,1eCIRCLE,0RULE-DELAYED",
  "0REVERSE SOLIDUS OPERATOR,0SOLIDUSzOVERBAR,0REVERSE SOLIDUSzHORIZONTALt,0BIG SOLIDUS",
  "1REVERSE SOLIDUS,0gPLUS,0TRIPLE PLUS,0LEFT-POINTING CURVED ANGLE BRACKET",
  "0RIGHT-POINTING CURVED ANGLE BRACKET,0TINY,0MINY,0N-ARY CIRCLED DOT OPERATOR,2PLUS OPERATOR",
  "2TIMES OPERATOR,1UNION OPERATORzDOT,4PLUS,1SQUARE INTERSECTION OPERATOR,2UNION OPERATOR",
  "0TWO LOGICALbOPERATOR,2OR OPERATOR,0N-ARY TIMES OPERATOR,0MODULO TWO SUM,0SUMMATIONzINTEGRAL",
  "0QUADRUPLE INTEGRAL OPERATOR,0FINITE PART INTEGRAL,0INTEGRALzgt,1AVERAGEzSLASH",
  "0CIRCULATION FUNCTION,0ANTICLOCKWISE INTEGRATION",
  "0LINE INTEGRATIONzRECTANGULAR PATH AROUND POLE,3SEMICIRCULAR PATH AROUND POLE",
  "2NOT INCLUDING THE POLE,0INTEGRAL AROUND A POINT OPERATOR,0QUATERNION INTEGRAL OPERATOR",
  "0INTEGRALzmczHOOK,2TIMESr,2INTERSECTION,2UNION,2OVERBAR,2UNDERBAR,0JOIN",
  "0LARGElTRIANGLE OPERATOR,0Z NOTATION SCHEMA COMPOSITION,3PIPING,3PROJECTION,0PLUSrzsCIRCLEa",
  "3CIRCUMFLEX ACCENTa,3TILDEa,3DOTd,3TILDEd,3SUBSCRIPT TWO,3eTRIANGLE,0MINUSrzCOMMAa,3DOTd",
  "3FALLING DOTS,3RISING DOTS,0PLUSrINlHALF CIRCLE,3pHALF CIRCLE,0VECTOR OR CROSS PRODUCT",
  "0MULTIPLICATIONrzDOTa,3UNDERBAR,0SEMIDIRECT PRODUCTzBOTTOM CLOSED,0SMASH PRODUCT",
  "0MULTIPLICATIONrINlHALF CIRCLE,3pHALF CIRCLE,0CIRCLED MULTIPLICATIONrzCIRCUMFLEX ACCENT",
  "0MULTIPLICATIONrINgCIRCLE,0CIRCLED DIVISIONr,0PLUSrIN TRIANGLE,0MINUSrIN TRIANGLE",
  "0MULTIPLICATIONrIN TRIANGLE,0INTERIOR PRODUCT,0RIGHTHAND INTERIOR PRODUCT",
  "0Z NOTATION RELATIONAL COMPOSITION,0AMALGAMATION OR COPRODUCT,0INTERSECTIONzDOT,0UNIONzMINUSr",
  "2OVERBAR,0INTERSECTIONzOVERBAR,2LOGICALb,0UNIONzLOGICAL OR,1aINTERSECTION,0INTERSECTIONaUNION",
  "0UNIONaBARaINTERSECTION,0INTERSECTIONaBARaUNION,0UNION BESIDEbJOINEDzUNION",
  "0INTERSECTION BESIDEbJOINEDzINTERSECTION,0CLOSED UNIONzSERIFS,1INTERSECTIONzSERIFS",
  "0gSQUARE INTERSECTION,2UNION,0CLOSED UNIONzSERIFSbSMASH PRODUCT,0LOGICALbzDOTa,1ORzDOTa",
  "0gLOGICALb,2OR,0TWO INTERSECTING LOGICALb,3OR,0SLOPING LARGE OR,2b",
  "0LOGICAL OR OVERLAPPING LOGICALb,1bzMIDDLE STEM,1ORzMIDDLE STEM,1bzHORIZONTAL DASH",
  "1ORzHORIZONTAL DASH,1bzgOVERBAR,3UNDERBAR,3gUNDERBAR,0sVEEzUNDERBAR,0LOGICAL ORzgOVERBAR",
  "4UNDERBAR,0Z NOTATION DOMAIN ANTIRESTRICTION,2RANGE ANTIRESTRICTION,0EQUALSrzDOTd",
  "0IDENTICALzDOTa,0TRIPLE HORIZONTAL BARzgxt,4TRIPLExt,0TILDE OPERATORzDOTa,3RISING DOTS",
  "0SIMILAR MINUS SIMILAR,0CONGRUENTzDOTa,0EQUALSzASTERISK,0ALMOST EQUAL TOzCIRCUMFLEX ACCENT",
  "0APPROXIMATELY EQUAL OR EQUAL TO,0EQUALSraPLUSr,0PLUSraEQUALSr,0EQUALSraTILDE OPERATOR",
  "0gCOLON EQUAL,0TWO CONSECUTIVE EQUALS SIGNS,0vCONSECUTIVE EQUALS SIGNS",
  "0EQUALSrzTWO DOTSabTWO DOTSd,0EQUIVALENTzFOUR DOTSa,0LESS-THANzCIRCLE INSIDE",
  "0GREATER-THANzCIRCLE INSIDE,0LESS-THANzQUESTIONoa,0GREATER-THANzQUESTIONoa",
  "0LESS-THAN OR SLANTED EQUAL TO,0GREATER-THAN OR SLANTED EQUAL TO",
  "0LESS-THAN OR SLANTED EQUAL TOzDOT INSIDE,0GREATER-THAN OR SLANTED EQUAL TOzDOT INSIDE",
  "0LESS-THAN OR SLANTED EQUAL TOzDOTa,0GREATER-THAN OR SLANTED EQUAL TOzDOTa",
  "0LESS-THAN OR SLANTED EQUAL TOzDOTap,0GREATER-THAN OR SLANTED EQUAL TOzDOTal",
  "0LESS-THAN OR APPROXIMATE,0GREATER-THAN OR APPROXIMATE,0LESS-THANbSINGLE-LINE NOT EQUAL TO",
  "0GREATER-THANbSINGLE-LINE NOT EQUAL TO,0LESS-THANbNOT APPROXIMATE",
  "0GREATER-THANbNOT APPROXIMATE,0LESS-THANaDOUBLE-LINE EQUALaGREATER-THAN",
  "0GREATER-THANaDOUBLE-LINE EQUALaLESS-THAN,0LESS-THANaSIMILAR OR EQUAL",
  "0GREATER-THANaSIMILAR OR EQUAL,0LESS-THANaSIMILARaGREATER-THAN,0GREATER-THANaSIMILARaLESS-THAN",
  "0LESS-THANaGREATER-THANaDOUBLE-LINE EQUAL,0GREATER-THANaLESS-THANaDOUBLE-LINE EQUAL",
  "0LESS-THANaSLANTED EQUALaGREATER-THANaSLANTED EQUAL",
  "0GREATER-THANaSLANTED EQUALaLESS-THANaSLANTED EQUAL,0SLANTED EQUAL TO OR LESS-THAN",
  "4GREATER-THAN,4LESS-THANzDOT INSIDE,4GREATER-THANzDOT INSIDE",
  "0DOUBLE-LINE EQUAL TO OR LESS-THAN,4GREATER-THAN,1SLANTED EQUAL TO OR LESS-THAN,5GREATER-THAN",
  "0SIMILAR OR LESS-THAN,2GREATER-THAN,1aLESS-THANaEQUALSr,2GREATER-THANaEQUALSr",
  "0gNESTED LESS-THAN,2GREATER-THAN,2LESS-THANzUNDERBAR,0GREATER-THAN OVERLAPPING LESS-THAN",
  "1BESIDE LESS-THAN,0LESS-THAN CLOSED BY CURVE,0GREATER-THAN CLOSED BY CURVE",
  "0LESS-THAN CLOSED BY CURVEaSLANTED EQUAL,0GREATER-THAN CLOSED BY CURVEaSLANTED EQUAL",
  "0SMALLER THAN,0LARGER THAN,0SMALLER THAN OR EQUAL TO,0LARGER THAN OR EQUAL TO,0EQUALSrzBUMPYa",
  "0PRECEDESaSINGLE-LINE EQUALSr,0SUCCEEDSaSINGLE-LINE EQUALSr,0PRECEDESaSINGLE-LINE NOT EQUAL TO",
  "0SUCCEEDSaSINGLE-LINE NOT EQUAL TO,0PRECEDESaEQUALSr,0SUCCEEDSaEQUALSr,0PRECEDESaNOT EQUAL TO",
  "0SUCCEEDSaNOT EQUAL TO,0PRECEDESaALMOST EQUAL TO,0SUCCEEDSaALMOST EQUAL TO",
  "0PRECEDESaNOT ALMOST EQUAL TO,0SUCCEEDSaNOT ALMOST EQUAL TO,0gPRECEDES,1SUCCEEDS,0SUBSETzDOT",
  "0SUPERSETzDOT,0SUBSETzPLUSrd,0SUPERSETzPLUSrd,0SUBSETzMULTIPLICATIONrd",
  "0SUPERSETzMULTIPLICATIONrd,0SUBSET OF OR EQUAL TOzDOTa,0SUPERSET OF OR EQUAL TOzDOTa",
  "0SUBSET OFaEQUALSr,0SUPERSET OFaEQUALSr,0SUBSET OFaTILDE OPERATOR,0SUPERSET OFaTILDE OPERATOR",
  "0SUBSET OFaALMOST EQUAL TO,0SUPERSET OFaALMOST EQUAL TO,0SUBSET OFaNOT EQUAL TO",
  "0SUPERSET OFaNOT EQUAL TO,0SQUARElOPEN BOX OPERATOR,1pOPEN BOX OPERATOR,0CLOSED SUBSET",
  "1SUPERSET,1SUBSET OR EQUAL TO,1SUPERSET OR EQUAL TO,0SUBSETaSUPERSET,0SUPERSETaSUBSET",
  "0SUBSETaSUBSET,0SUPERSETaSUPERSET,1BESIDE SUBSET,2bJOINED BY DASHzSUBSET",
  "0ELEMENT OF OPENING DOWNWARDS,0PITCHFORKzTEE TOP,0TRANSVERSAL INTERSECTION,0FORKING",
  "0NONFORKING,0SHORTlTACK,1DOWN TACK,1UP TACK,0PERPENDICULARzS,0xBAR TRIPLEpTURNSTILE",
  "0gxBARlTURNSTILE,0xBARglTURNSTILE,0gxBARglTURNSTILE,0LONG DASH FROMlMEMBER OFgx",
  "0SHORT DOWN TACKzOVERBAR,1UP TACKzUNDERBAR,3aSHORT DOWN TACK,0gDOWN TACK,1UP TACK,1tNOTr",
  "0REVERSEDgtNOTr,0DOES NOT DIVIDEzREVERSED NEGATION SLASH,0xLINEzCIRCLEa,4d,0DOWN TACKzCIRCLEd",
  "0PARALLELzHORIZONTALt,2TILDE OPERATOR,0TRIPLExBAR BINARY RELATION,3zHORIZONTALt",
  "1COLON OPERATOR,1NESTED LESS-THAN,2GREATER-THAN,0DOUBLE-LINE SLANTED LESS-THAN OR EQUAL TO",
  "2GREATER-THAN OR EQUAL TO,0TRIPLE SOLIDUS BINARY RELATION,0LARGE TRIPLExBAR OPERATOR",
  "0gSOLIDUS OPERATOR,0yxBAR,0N-ARYyxBAR,0NORTH EASTyc,1WESTyc,0SOUTH EASTyc,1WESTyc,0lpyc,0mec",
  "0UPWARDSec,0DOWNWARDSec,0NORTH EASTec,1WESTec,0SOUTH EASTec,1WESTec,0lpec,0UP DOWNec",
  "0qczTIP DOWNWARDS,4UPWARDS,0mczTIP DOWNWARDS,4UPWARDS,0SQUAREzTOP HALFe,2BOTTOM HALFe",
  "2UPPERpDIAGONAL HALFe,2LOWERlDIAGONAL HALFe,0DIAMONDzlHALFe,2pHALFe,2TOP HALFe,2BOTTOM HALFe",
  "0DOTTED SQUARE,0eLARGE SQUARE,0yLARGE SQUARE,0eVERYsSQUARE,0yVERYsSQUARE,0ePENTAGON,0yPENTAGON",
  "1HEXAGON,0eHEXAGON,0HORIZONTALeHEXAGON,0eLARGE CIRCLE,1MEDIUM DIAMOND,0yMEDIUM DIAMOND",
  "0eMEDIUM LOZENGE,0yMEDIUM LOZENGE,0esDIAMOND,2LOZENGE,0ysLOZENGE,0eHORIZONTAL ELLIPSE",
  "0yHORIZONTAL ELLIPSE,0exELLIPSE,0yxELLIPSE,0lczsCIRCLE,0vmARROWS,0lczCIRCLED PLUS",
  "0LONGmSQUIGGLEc,0mTWO-HEADEDczxt,4gxt,3FROM BAR,2TRIPLE DASHc,1czDOTTED STEM,3TAILzxt,5gxt",
  "1TWO-HEADEDczTAIL,5zxt,6gxt,1cTHROUGH X,0WAVEcPOINTING DIRECTLYl,0EQUALSramc",
  "0REVERSE TILDE OPERATORamc,0mcaREVERSE ALMOST EQUAL TO,0qcTHROUGH GREATER-THAN,3SUPERSET",
  "0mQUADRUPLEc,0qQUADRUPLEc,0REVERSE TILDE OPERATORaqc,0qcaREVERSE ALMOST EQUAL TO",
  "0TILDE OPERATORamc,0mcaALMOST EQUAL TO,3REVERSE TILDE OPERATOR,0qcaREVERSE TILDE OPERATOR",
  "0DOWNWARDSwZIGZAGc,0SHORT SLANTED NORTHc,1BACKSLANTED SOUTHc,0yMEDIUM STAR,0esSTAR,0ysSTAR",
  "0eRIGHT-POINTING PENTAGON,0yRIGHT-POINTING PENTAGON,0HEAVY LARGE CIRCLE,1OVALzOVAL INSIDE",
  "1CIRCLEzCIRCLE INSIDE,2,1CIRCLED SALTIRE,0SLANTED NORTHczHOOKED HEAD",
  "0BACKSLANTED SOUTHczHOOKED TAIL,0SLANTED NORTHczHORIZONTAL TAIL",
  "0BACKSLANTED SOUTHczHORIZONTAL TAIL,0BENTcPOINTING DOWNWARDS THEN NORTH EAST",
  "0SHORT BENTcPOINTING DOWNWARDS THEN NORTH EAST,0mwc,0UPWARDSwc,0qwc,0DOWNWARDSwc,0lpwc",
  "0UP DOWNwc,0NORTH WESTwc,1EASTwc,0SOUTH EASTwc,1WESTwc,0mwDASHEDc,0UPWARDSwDASHEDc,0qwDASHEDc",
  "0DOWNWARDSwDASHEDc,0CLOCKWISEwOPEN CIRCLEc,0ANTICLOCKWISEwOPEN CIRCLEc,0mwcTO BAR",
  "0UPWARDSwcTO BAR,0qwcTO BAR,0DOWNWARDSwcTO BAR,@2B76,0NORTH WESTwcTO BAR,1EASTwcTO BAR",
  "0SOUTH EASTwcTO BAR,1WESTwcTO BAR,0mwczgHORIZONTALt,0UPWARDSwczgHORIZONTALt,0qwczgHORIZONTALt",
  "0DOWNWARDSwczgHORIZONTALt,0HORIZONTAL TAB KEY,0xTAB KEY,0mwcOVERqwc,0UPWARDSwcmOF DOWNWARDSwc",
  "0qwcOVERmwc,0DOWNWARDSwcmOF UPWARDSwc,0mwPAIRED ARROWS,0UPWARDSwPAIRED ARROWS,0qwPAIRED ARROWS",
  "0DOWNWARDSwPAIRED ARROWS,0meCIRCLEDyc,0UPWARDSeCIRCLEDyc,0qeCIRCLEDyc,0DOWNWARDSeCIRCLEDyc",
  "0ANTICLOCKWISEwpU-SHAPEDc,2BOTTOM U-SHAPEDc,2lU-SHAPEDc,2TOP U-SHAPEDc,0RETURNl,1p,0NEWLINEl",
  "1p,0FOUR CORNER ARROWS CIRCLING ANTICLOCKWISE,0qec,@2B97,0uFOR TYPE A ELECTRONICS",
  "0THREE-D TOP-LIGHTEDmEQUILATERAL ARROWHEAD,1RIGHT-LIGHTED UPWARDS EQUILATERAL ARROWHEAD",
  "1TOP-LIGHTEDqEQUILATERAL ARROWHEAD,1LEFT-LIGHTED DOWNWARDS EQUILATERAL ARROWHEAD",
  "0emEQUILATERAL ARROWHEAD,1UPWARDS EQUILATERAL ARROWHEAD,1qEQUILATERAL ARROWHEAD",
  "1DOWNWARDS EQUILATERAL ARROWHEAD,0DOWNWARDSwczLONG TIPm,6q,0UPWARDSwczLONG TIPm,6q",
  "0mwczLONG TIP UPWARDS,0qwczLONG TIP UPWARDS,0mwczLONG TIP DOWNWARDS,0qwczLONG TIP DOWNWARDS",
  "0eCURVED DOWNWARDSbmc,4qc,2UPWARDSbmc,4qc,2mbUPWARDSc,2qbUPWARDSc,2mbDOWNWARDSc,2qbDOWNWARDSc",
  "0RIBBONcDOWNl,3p,2UPl,3p,2lUP,2pUP,2lDOWN,2pDOWN,0UPWARDSycFROM BARzHORIZONTAL BAR",
  "0UP ARROWHEAD IN A RECTANGLE BOX,0OVERLAPPINGySQUARES,2beSQUARES,1eSQUARES,0BALLOT BOXzLIGHT X",
  "0CIRCLED X,1BOLD X,0eSQUARE CENTRED,1DIAMOND CENTRED,0TURNEDePENTAGON,0HORIZONTALeOCTAGON",
  "0eOCTAGON,1MEDIUM UP-POINTING TRIANGLE CENTRED,2DOWN-POINTING TRIANGLE CENTRED",
  "2LEFT-POINTING TRIANGLE CENTRED,2RIGHT-POINTING TRIANGLE CENTRED,0NEPTUNEiTWO,0TOP HALFeCIRCLE",
  "0BOTTOM HALFeCIRCLE,0LIGHT FOUR POINTEDeCUSP,0ROTATED LIGHT FOUR POINTEDeCUSP",
  "0yFOUR POINTED CUSP,0ROTATEDyFOUR POINTED CUSP,0SQUARE POSITION INDICATOR,0UNCERTAINTYr",
  "0GROUPo,0PLUTOiTWO,2v,2FOUR,2FIVE,0TRANSPLUTO,0PROSERPINA,0ASTRAEA,0HYGIEA,0PHOLUS,0NESSUS",
  "0yMOON SELENA,0eDIAMOND ON CROSS,0TRUE LIGHT MOON ARTA,0CUPIDO,0HADES,0ZEUS,0KRONOS,0APOLLON",
  "0ADMETOS,0VULCANUS,0POSEIDON,0lHALFeSTAR,0pHALFeSTAR,0STARzlHALFe,2pHALFe",
  "0mTWO-HEADEDczTRIANGLE ARROWHEADS,0UPWARDS TWO-HEADEDczTRIANGLE ARROWHEADS",
  "0qTWO-HEADEDczTRIANGLE ARROWHEADS,0DOWNWARDS TWO-HEADEDczTRIANGLE ARROWHEADS,0ERISiONE,2TWO",
  "0SEDNA,0RUSSIAN ASTROLOGICALuVIGINTILE,3NOVILE,3QUINTILE,3BINOVILE,3SENTAGON,3TREDECILE",
  "0EQUALSrzINFINITYd,0UNITEDu,0SEPARATEDu,0DOUBLEDu,0PASSEDu,0REVERSEDpANGLE",
  "0HELLSCHREIBER PAUSEu"]

end PhraseStructure.Text.CharacterName
