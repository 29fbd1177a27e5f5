/-!
# Names of East Asian letters

Further European letters, the parts of ideographs, the syllables of Japanese, and what stands in
circles.
-/

namespace PhraseStructure.Text.CharacterName

/-- The names of characters from U+2C00 on, below U+A000. -/
def eastAsianNames : List String := [
  "@2C00,0GLAGOLITICfnAZU,3BUKY,3VEDE,3GLAGOLI,3DOBRO,3YESTU,3ZHIVETE,3DZELO,3ZEMLJA,3IZHE,3jIZHE",
  "3I,3DJERVI,3KAKO,3LJUDIJE,3MYSLITE,3NASHI,3ONU,3POKOJI,3RITSI,3SLOVO,3TVRIDO,3UKU,3FRITU,3HERU",
  "3OTU,3PE,3SHTA,3TSI,3CHRIVI,3SHA,3YERU,3YERI,3YATI,3SPIDERY HA,3YU,3sYUS,5zTAIL,3YO",
  "3IOTATEDsYUS,3BIG YUS,3IOTATED BIG YUS,3FITA,3IZHITSA,3SHTAPIC,3TROKUTASTI A,3LATINATE MYSLITE",
  "3CAUDATE CHRIVI,1snAZU,3BUKY,3VEDE,3GLAGOLI,3DOBRO,3YESTU,3ZHIVETE,3DZELO,3ZEMLJA,3IZHE,3jIZHE",
  "3I,3DJERVI,3KAKO,3LJUDIJE,3MYSLITE,3NASHI,3ONU,3POKOJI,3RITSI,3SLOVO,3TVRIDO,3UKU,3FRITU,3HERU",
  "3OTU,3PE,3SHTA,3TSI,3CHRIVI,3SHA,3YERU,3YERI,3YATI,3SPIDERY HA,3YU,3sYUS,5zTAIL,3YO",
  "3IOTATEDsYUS,3BIG YUS,3IOTATED BIG YUS,3FITA,3IZHITSA,3SHTAPIC,3TROKUTASTI A,3LATINATE MYSLITE",
  "3CAUDATE CHRIVI,0LATINfnLzgBAR,1snLzgBAR,1fnLzMIDDLE TILDE,3Pzt,3RzTAIL,1snAzt,3TzDIAGONALt",
  "1fnHzDESCENDER,1snHzDESCENDER,1fnKzDESCENDER,1snKzDESCENDER,1fnZzDESCENDER,1snZzDESCENDER",
  "1fnALPHA,3MzHOOK,3TURNED A,4ALPHA,1snVzpHOOK,1fnWzHOOK,1snWzHOOK,3VzCURL,1fnHALF H,1snHALF H",
  "3TAILLESS PHI,3EzNOTCH,3TURNED RzTAIL,3OzLOW RING INSIDE,1nsfTURNED E,1SUBSCRIPTsnJ",
  "0MODIFIERnfV,0LATINfnSzSWASH TAIL,3ZzSWASH TAIL,0COPTICfnALFA,1snALFA,1fnVIDA,1snVIDA,1fnGAMMA",
  "1snGAMMA,1fnDALDA,1snDALDA,1fnEIE,1snEIE,1fnSOU,1snSOU,1fnZATA,1snZATA,1fnHATE,1snHATE",
  "1fnTHETHE,1snTHETHE,1fnIAUDA,1snIAUDA,1fnKAPA,1snKAPA,1fnLAULA,1snLAULA,1fnMI,1snMI,1fnNI",
  "1snNI,1fnKSI,1snKSI,1fnO,1snO,1fnPI,1snPI,1fnRO,1snRO,1fnSIMA,1snSIMA,1fnTAU,1snTAU,1fnUA",
  "1snUA,1fnFI,1snFI,1fnKHI,1snKHI,1fnPSI,1snPSI,1fnOOU,1snOOU,1fnDIALECT-P ALEF",
  "1snDIALECT-P ALEF,1fnOLD COPTIC AIN,1snOLD COPTIC AIN,1fnCRYPTOGRAMMIC EIE",
  "1snCRYPTOGRAMMIC EIE,1fnDIALECT-P KAPA,1snDIALECT-P KAPA,1fnDIALECT-P NI,1snDIALECT-P NI",
  "1fnCRYPTOGRAMMIC NI,1snCRYPTOGRAMMIC NI,1fnOLD COPTIC OOU,1snOLD COPTIC OOU,1fnSAMPI,1snSAMPI",
  "1fnCROSSED SHEI,1snCROSSED SHEI,1fnOLD COPTIC SHEI,1snOLD COPTIC SHEI,1fnOLD COPTIC ESH",
  "1snOLD COPTIC ESH,1fnAKHMIMIC KHEI,1snAKHMIMIC KHEI,1fnDIALECT-P HORI,1snDIALECT-P HORI",
  "1fnOLD COPTIC HORI,1snOLD COPTIC HORI,1fnOLD COPTIC HA,1snOLD COPTIC HA,1fnL-SHAPED HA",
  "1snL-SHAPED HA,1fnOLD COPTIC HEI,1snOLD COPTIC HEI,1fnOLD COPTIC HAT,1snOLD COPTIC HAT",
  "1fnOLD COPTIC GANGIA,1snOLD COPTIC GANGIA,1fnOLD COPTIC DJA,1snOLD COPTIC DJA",
  "1fnOLD COPTIC SHIMA,1snOLD COPTIC SHIMA,1fnOLD NUBIAN SHIMA,1snOLD NUBIAN SHIMA",
  "1fnOLD NUBIAN NGI,1snOLD NUBIAN NGI,1fnOLD NUBIAN NYI,1snOLD NUBIAN NYI,1fnOLD NUBIAN WAU",
  "1snOLD NUBIAN WAU,1uKAI,2MI RO,2PI RO,2STAUROS,2TAU RO,2KHI RO,2SHIMA SIMA",
  "1fnCRYPTOGRAMMIC SHEI,1snCRYPTOGRAMMIC SHEI,1fnCRYPTOGRAMMIC GANGIA,1snCRYPTOGRAMMIC GANGIA",
  "1COMBINING NIa,2SPIRITUS ASPER,3LENIS,1fnBOHAIRIC KHEI,1snBOHAIRIC KHEI,@2CF9",
  "0COPTIC OLD NUBIAN FULL STOP,3DIRECT QUESTIONo,3INDIRECT QUESTIONo,3VERSE DIVIDER",
  "1FRACTION ONE HALF,1FULL STOP,1MORPHOLOGICAL DIVIDER,0GEORGIANsnAN,3BAN,3GAN,3DON,3EN,3VIN",
  "3ZEN,3TAN,3IN,3KAN,3LAS,3MAN,3NAR,3ON,3PAR,3ZHAR,3RAE,3SAN,3TAR,3UN,3PHAR,3KHAR,3GHAN,3QAR",
  "3SHIN,3CHIN,3CAN,3JIL,3CIL,3CHAR,3XAN,3JHAN,3HAE,3HE,3HIE,3WE,3HAR,3HOE,@2D27,0GEORGIANsnYN",
  "@2D2D,0GEORGIANsnAEN,@2D30,0TIFINAGHnYA,2YAB,2YABH,2YAG,2YAGHH,2BERBER ACADEMY YAJ,2YAJ,2YAD",
  "2YADH,2YADD,2YADDH,2YEY,2YAF,2YAK,2TUAREG YAK,2YAKHH,2YAH,2BERBER ACADEMY YAH,2TUAREG YAH",
  "2YAHH,2YAA,2YAKH,2TUAREG YAKH,2YAQ,2TUAREG YAQ,2YI,2YAZH,2AHAGGAR YAZH,2TUAREG YAZH,2YAL,2YAM",
  "2YAN,2TUAREG YAGN,3YANG,2YAP,2YU,2YAR,2YARR,2YAGH,2TUAREG YAGH,2AYER YAGH,2YAS,2YASS,2YASH",
  "2YAT,2YATH,2YACH,2YATT,2YAV,2YAW,2YAY,2YAZ,2TAWELLEMET YAZ,2YAZZ,2YE,2YO,@2D6F",
  "0TIFINAGH MODIFIERnLABIALIZATIONo,1SEPARATORo,@2D7F,0TIFINAGH CONSONANT JOINER",
  "0ETHIOPIC SYLLABLE LOA,2MOA,2ROA,2SOA,2SHOA,2BOA,2TOA,2COA,2NOA,2NYOA,2GLOTTAL OA,2ZOA,2DOA",
  "2DDOA,2JOA,2THOA,2CHOA,2PHOA,2POA,2GGWA,2GGWI,2GGWEE,2GGWE,@2DA0,0ETHIOPIC SYLLABLE SSA,2SSU",
  "2SSI,2SSAA,2SSEE,2SSE,2SSO,@2DA8,0ETHIOPIC SYLLABLE CCA,2CCU,2CCI,2CCAA,2CCEE,2CCE,2CCO,@2DB0",
  "0ETHIOPIC SYLLABLE ZZA,2ZZU,2ZZI,2ZZAA,2ZZEE,2ZZE,2ZZO,@2DB8,0ETHIOPIC SYLLABLE CCHA,2CCHU",
  "2CCHI,2CCHAA,2CCHEE,2CCHE,2CCHO,@2DC0,0ETHIOPIC SYLLABLE QYA,2QYU,2QYI,2QYAA,2QYEE,2QYE,2QYO",
  "@2DC8,0ETHIOPIC SYLLABLE KYA,2KYU,2KYI,2KYAA,2KYEE,2KYE,2KYO,@2DD0,0ETHIOPIC SYLLABLE XYA,2XYU",
  "2XYI,2XYAA,2XYEE,2XYE,2XYO,@2DD8,0ETHIOPIC SYLLABLE GYA,2GYU,2GYI,2GYAA,2GYEE,2GYE,2GYO,@2DE0",
  "0COMBINING CYRILLICnBE,3VE,3GHE,3DE,3ZHE,3ZE,3KA,3EL,3EM,3EN,3O,3PE,3ER,3ES,3TE,3HA,3TSE,3CHE",
  "3SHA,3SHCHA,3FITA,3ES-TE,3A,3IE,3DJERV,3MONOGRAPH UK,3YAT,3YU,3IOTIFIED A,3LITTLE YUS,3BIG YUS",
  "3IOTIFIED BIG YUS,0pANGLE SUBSTITUTION MARKER,2DOTTED SUBSTITUTION MARKER",
  "0lSUBSTITUTION BRACKET,0pSUBSTITUTION BRACKET,0lDOTTED SUBSTITUTION BRACKET",
  "0pDOTTED SUBSTITUTION BRACKET,0RAISED INTERPOLATION MARKER,1DOTTED INTERPOLATION MARKER",
  "0DOTTED TRANSPOSITION MARKER,0lTRANSPOSITION BRACKET,0pTRANSPOSITION BRACKET,0RAISED SQUARE",
  "0lRAISED OMISSION BRACKET,0pRAISED OMISSION BRACKET,0EDITORIAL CORONIS,0PARAGRAPHOS",
  "0FORKED PARAGRAPHOS,0REVERSED FORKED PARAGRAPHOS,0HYPODIASTOLE,0DOTTED OBELOS",
  "0DOWNWARDS ANCORA,0UPWARDS ANCORA,0DOTTED RIGHT-POINTING ANGLE,0gOBLIQUE HYPHEN",
  "0INVERTED INTERROBANG,0PALM BRANCH,0HYPHENzDIAERESIS,0TILDEzRINGa,0lLOW PARAPHRASE BRACKET",
  "0pLOW PARAPHRASE BRACKET,0TILDEzDOTa,3d,0lxBARzQUILL,0pxBARzQUILL,0TOPlHALF BRACKET",
  "1pHALF BRACKET,0BOTTOMlHALF BRACKET,1pHALF BRACKET,0lSIDEWAYS U BRACKET,0pSIDEWAYS U BRACKET",
  "0lgPARENTHESIS,0pgPARENTHESIS,0TWO DOTS OVER ONE DOT PUNCTUATION",
  "0ONE DOT OVER TWO DOTS PUNCTUATION,0SQUARED FOUR DOT PUNCTUATION,0FIVE DOTo",
  "0REVERSED QUESTIONo,0xTILDE,0RING POINT,0WORD SEPARATOR MIDDLE DOT,0TURNED COMMA,0RAISED DOT",
  "1COMMA,0TURNED SEMICOLON,0DAGGERzlGUARD,2pGUARD,0TURNED DAGGER,0TOP HALF SECTIONr,0TWO-EM DASH",
  "0THREE-EM DASH,0STENOGRAPHIC FULL STOP,0xSIX DOTS,0WIGGLYxLINE,0CAPITULUM,0gHYPHEN",
  "0REVERSED COMMA,0gLOW-REVERSED-9 QUOTATIONo,0DASHzlUPTURN,0gSUSPENSIONo,0INVERTED LOW KAVYKA",
  "3zKAVYKAa,0LOW KAVYKA,2zDOT,0gSTACKED COMMA,0DOTTED SOLIDUS,0TRIPLE DAGGER,0MEDIEVAL COMMA",
  "0PARAGRAPHUSo,0PUNCTUS ELEVATUSo,0CORNISH VERSE DIVIDER,0CROSS PATTYzpCROSSBAR,3lCROSSBAR",
  "0TIRONIANrfET,0MEDIEVAL EXCLAMATIONo,1QUESTIONo,0lSQUARE BRACKETzt,0pSQUARE BRACKETzt",
  "0lSQUARE BRACKETzgt,0pSQUARE BRACKETzgt,0TOP HALFlPARENTHESIS,2pPARENTHESIS",
  "0BOTTOM HALFlPARENTHESIS,2pPARENTHESIS,0OBLIQUE HYPHEN,@2E80,0CJK RADICAL REPEAT,2CLIFF",
  "2SECOND ONE,3TWO,3v,2PERSON,2BOX,2TABLE,2KNIFE ONE,3TWO,2DIVINATION,2SEAL,2sONE,3TWO,2LAME ONE",
  "3TWO,3v,3FOUR,2SNAKE,2THREAD,2SNOUT ONE,3TWO,2HEART ONE,3TWO,2HAND,2RAP,@2E9B",
  "0CJK RADICAL CHOKE,2SUN,2MOON,2DEATH,2MOTHER,2CIVILIAN,2WATER ONE,3TWO,2FIRE,2PAW ONE,3TWO",
  "2SIMPLIFIED HALF TREE TRUNK,2COW,2DOG,2JADE,2BOLT OF CLOTH,2EYE,2SPIRIT ONE,3TWO,2BAMBOO,2SILK",
  "2C-SIMPLIFIED SILK,2NET ONE,3TWO,3v,3FOUR,2MESH,2SHEEP,2RAM,2EWE,2OLD,2BRUSH ONE,3TWO,2MEAT",
  "2MORTAR,2GRASS ONE,3TWO,3v,2TIGER,2CLOTHES,2WEST ONE,3TWO,2C-SIMPLIFIED SEE,2SIMPLIFIED HORN",
  "2HORN,2C-SIMPLIFIED SPEECH,3SHELL,2FOOT,2C-SIMPLIFIED CART,2SIMPLIFIED WALK,2WALK ONE,3TWO",
  "2CITY,2C-SIMPLIFIED GOLD,2LONG ONE,3TWO,2C-SIMPLIFIED LONG,3GATE,2MOUND ONE,3TWO,2RAIN,2BLUE",
  "2C-SIMPLIFIED TANNED LEATHER,3LEAF,3WIND,3FLY,2EAT ONE,3TWO,3v,2C-SIMPLIFIED EAT,2HEAD",
  "2C-SIMPLIFIED HORSE,2BONE,2GHOST,2C-SIMPLIFIED FISH,3BIRD,3SALT,2SIMPLIFIED WHEAT,3YELLOW",
  "2C-SIMPLIFIED FROG,2J-SIMPLIFIED EVEN,2C-SIMPLIFIED EVEN,2J-SIMPLIFIED TOOTH",
  "2C-SIMPLIFIED TOOTH,2J-SIMPLIFIED DRAGON,2C-SIMPLIFIED DRAGON,2TURTLE,2J-SIMPLIFIED TURTLE",
  "2C-SIMPLIFIED TURTLE,@2F00,0KANGXI RADICAL ONE,2LINE,2DOT,2SLASH,2SECOND,2HOOK,2TWO,2LID,2MAN",
  "2LEGS,2ENTER,2EIGHT,2DOWN BOX,2COVER,2ICE,2TABLE,2OPEN BOX,2KNIFE,2POWER,2WRAP,2SPOON",
  "2pOPEN BOX,2HIDING ENCLOSURE,2TEN,2DIVINATION,2SEAL,2CLIFF,2PRIVATE,2AGAIN,2MOUTH,2ENCLOSURE",
  "2EARTH,2SCHOLAR,2GO,3SLOWLY,2EVENING,2BIG,2WOMAN,2CHILD,2ROOF,2INCH,2s,2LAME,2CORPSE,2SPROUT",
  "2MOUNTAIN,2RIVER,2WORK,2ONESELF,2TURBAN,2DRY,2SHORT THREAD,2DOTTED CLIFF,2LONG STRIDE",
  "2TWO HANDS,2SHOOT,2BOW,2SNOUT,2BRISTLE,2STEP,2HEART,2HALBERD,2DOOR,2HAND,2BRANCH,2RAP,2SCRIPT",
  "2DIPPER,2AXE,2SQUARE,2NOT,2SUN,2SAY,2MOON,2TREE,2LACK,2STOP,2DEATH,2WEAPON,2DO NOT,2COMPARE",
  "2FUR,2CLAN,2STEAM,2WATER,2FIRE,2CLAW,2FATHER,2gX,2HALF TREE TRUNK,2SLICE,2FANG,2COW,2DOG",
  "2PROFOUND,2JADE,2MELON,2TILE,2SWEET,2LIFE,2USE,2FIELD,2BOLT OF CLOTH,2SICKNESS,2DOTTED TENT,2y",
  "2SKIN,2DISH,2EYE,2SPEAR,2c,2STONE,2SPIRIT,2TRACK,2GRAIN,2CAVE,2STAND,2BAMBOO,2RICE,2SILK,2JAR",
  "2NET,2SHEEP,2FEATHER,2OLD,2b,2PLOW,2EAR,2BRUSH,2MEAT,2MINISTER,2SELF,2ARRIVE,2MORTAR,2TONGUE",
  "2OPPOSE,2BOAT,2STOPPING,2COLOR,2GRASS,2TIGER,2INSECT,2BLOOD,2WALK ENCLOSURE,2CLOTHES,2WEST",
  "2SEE,2HORN,2SPEECH,2VALLEY,2BEAN,2PIG,2BADGER,2SHELL,2RED,2RUN,2FOOT,2BODY,2CART,2BITTER",
  "2MORNING,2WALK,2CITY,2WINE,2DISTINGUISH,2VILLAGE,2GOLD,2LONG,2GATE,2MOUND,2SLAVE",
  "2SHORT TAILED BIRD,2RAIN,2BLUE,2WRONG,2FACE,2LEATHER,2TANNED LEATHER,2LEEK,2SOUND,2LEAF,2WIND",
  "2FLY,2EAT,2HEAD,2FRAGRANT,2HORSE,2BONE,2TALL,2HAIR,2FIGHT,2SACRIFICIAL WINE,2CAULDRON,2GHOST",
  "2FISH,2BIRD,2SALT,2DEER,2WHEAT,2HEMP,2YELLOW,2MILLET,2e,2EMBROIDERY,2FROG,2TRIPOD,2DRUM,2RAT",
  "2NOSE,2EVEN,2TOOTH,2DRAGON,2TURTLE,2FLUTE,@2FF0,0IDEOGRAPHIC DESCRIPTION CHARACTERlTOp,3aTOd",
  "3lTO MIDDLEbp,3aTO MIDDLEbd,3FULL SURROUND,3SURROUND FROMa,5d,5l,5UPPERl,6p,5LOWERl,3OVERLAID",
  "@3000,0IDEOGRAPHIC SPACE,1COMMA,1FULL STOP,0DITTOo,0JAPANESE INDUSTRIAL STANDARDu",
  "0IDEOGRAPHIC ITERATIONo,1CLOSINGo,1NUMBER ZERO,0lANGLE BRACKET,0pANGLE BRACKET",
  "0lgANGLE BRACKET,0pgANGLE BRACKET,0lCORNER BRACKET,0pCORNER BRACKET,0lyCORNER BRACKET",
  "0pyCORNER BRACKET,0leLENTICULAR BRACKET,0peLENTICULAR BRACKET,0POSTALo,0GETAo",
  "0lTORTOISE SHELL BRACKET,0pTORTOISE SHELL BRACKET,0lyLENTICULAR BRACKET,0pyLENTICULAR BRACKET",
  "0lyTORTOISE SHELL BRACKET,0pyTORTOISE SHELL BRACKET,0lySQUARE BRACKET,0pySQUARE BRACKET",
  "0WAVE DASH,0REVERSEDgPRIME QUOTATIONo,0gPRIME QUOTATIONo,0LOWgPRIME QUOTATIONo,0POSTALoFACE",
  "0HANGZHOU NUMERAL ONE,2TWO,2v,2FOUR,2FIVE,2SIX,2SEVEN,2EIGHT,2NINE,0IDEOGRAPHIC LEVEL TONEo",
  "1RISING TONEo,1DEPARTING TONEo,1ENTERING TONEo,0HANGUL SINGLE DOT TONEo,1gDOT TONEo,0WAVY DASH",
  "0xKANA REPEATo,3zVOICED SOUNDo,3oUPPER HALF,3zVOICED SOUNDoUPPER HALF,3oLOWER HALF",
  "0CIRCLED POSTALo,0IDEOGRAPHIC TELEGRAPH LINE FEED SEPARATORu,0HANGZHOU NUMERAL TEN,2TWENTY",
  "2THIRTY,0xIDEOGRAPHIC ITERATIONo,0MASUo,0PART ALTERNATIONo,0IDEOGRAPHIC VARIATION INDICATOR",
  "1HALF FILL SPACE,@3041,0HIRAGANAnsA,2A,2sI,2I,2sU,2U,2sE,2E,2sO,2O,2KA,2GA,2KI,2GI,2KU,2GU,2KE",
  "2GE,2KO,2GO,2SA,2ZA,2SI,2ZI,2SU,2ZU,2SE,2ZE,2SO,2ZO,2TA,2DA,2TI,2DI,2sTU,2TU,2DU,2TE,2DE,2TO",
  "2DO,2NA,2NI,2NU,2NE,2NO,2HA,2BA,2PA,2HI,2BI,2PI,2HU,2BU,2PU,2HE,2BE,2PE,2HO,2BO,2PO,2MA,2MI",
  "2MU,2ME,2MO,2sYA,2YA,2sYU,2YU,2sYO,2YO,2RA,2RI,2RU,2RE,2RO,2sWA,2WA,2WI,2WE,2WO,2N,2VU,2sKA",
  "3KE,@3099,0COMBINING KATAKANA-HIRAGANA VOICED SOUNDo,2SEMI-VOICED SOUNDo",
  "0KATAKANA-HIRAGANA VOICED SOUNDo,1SEMI-VOICED SOUNDo,0HIRAGANA ITERATIONo,1VOICED ITERATIONo",
  "1DIGRAPH YORI,0KATAKANA-HIRAGANAgHYPHEN,0KATAKANAnsA,2A,2sI,2I,2sU,2U,2sE,2E,2sO,2O,2KA,2GA",
  "2KI,2GI,2KU,2GU,2KE,2GE,2KO,2GO,2SA,2ZA,2SI,2ZI,2SU,2ZU,2SE,2ZE,2SO,2ZO,2TA,2DA,2TI,2DI,2sTU",
  "2TU,2DU,2TE,2DE,2TO,2DO,2NA,2NI,2NU,2NE,2NO,2HA,2BA,2PA,2HI,2BI,2PI,2HU,2BU,2PU,2HE,2BE,2PE",
  "2HO,2BO,2PO,2MA,2MI,2MU,2ME,2MO,2sYA,2YA,2sYU,2YU,2sYO,2YO,2RA,2RI,2RU,2RE,2RO,2sWA,2WA,2WI",
  "2WE,2WO,2N,2VU,2sKA,3KE,2VA,2VI,2VE,2VO,1MIDDLE DOT,0KATAKANA-HIRAGANA PROLONGED SOUNDo",
  "0KATAKANA ITERATIONo,1VOICED ITERATIONo,1DIGRAPH KOTO,@3105,0BOPOMOFOnB,2P,2M,2F,2D,2T,2N,2L",
  "2G,2K,2H,2J,2Q,2X,2ZH,2CH,2SH,2R,2Z,2C,2S,2A,2O,2E,2EH,2AI,2EI,2AU,2OU,2AN,2EN,2ANG,2ENG,2ER",
  "2I,2U,2IU,2V,2NG,2GN,2IH,2OzDOTa,2NN,@3131,0HANGULnKIYEOK,2SSANGKIYEOK,2KIYEOK-SIOS,2NIEUN",
  "2NIEUN-CIEUC,2NIEUN-HIEUH,2TIKEUT,2SSANGTIKEUT,2RIEUL,2RIEUL-KIYEOK,2RIEUL-MIEUM,2RIEUL-PIEUP",
  "2RIEUL-SIOS,2RIEUL-THIEUTH,2RIEUL-PHIEUPH,2RIEUL-HIEUH,2MIEUM,2PIEUP,2SSANGPIEUP,2PIEUP-SIOS",
  "2SIOS,2SSANGSIOS,2IEUNG,2CIEUC,2SSANGCIEUC,2CHIEUCH,2KHIEUKH,2THIEUTH,2PHIEUPH,2HIEUH,2A,2AE",
  "2YA,2YAE,2EO,2E,2YEO,2YE,2O,2WA,2WAE,2OE,2YO,2U,2WEO,2WE,2WI,2YU,2EU,2YI,2I,1FILLER",
  "1nSSANGNIEUN,2NIEUN-TIKEUT,2NIEUN-SIOS,2NIEUN-PANSIOS,2RIEUL-KIYEOK-SIOS,2RIEUL-TIKEUT",
  "2RIEUL-PIEUP-SIOS,2RIEUL-PANSIOS,2RIEUL-YEORINHIEUH,2MIEUM-PIEUP,2MIEUM-SIOS,2MIEUM-PANSIOS",
  "2KAPYEOUNMIEUM,2PIEUP-KIYEOK,2PIEUP-TIKEUT,2PIEUP-SIOS-KIYEOK,2PIEUP-SIOS-TIKEUT,2PIEUP-CIEUC",
  "2PIEUP-THIEUTH,2KAPYEOUNPIEUP,2KAPYEOUNSSANGPIEUP,2SIOS-KIYEOK,2SIOS-NIEUN,2SIOS-TIKEUT",
  "2SIOS-PIEUP,2SIOS-CIEUC,2PANSIOS,2SSANGIEUNG,2YESIEUNG,2YESIEUNG-SIOS,2YESIEUNG-PANSIOS",
  "2KAPYEOUNPHIEUPH,2SSANGHIEUH,2YEORINHIEUH,2YO-YA,2YO-YAE,2YO-I,2YU-YEO,2YU-YE,2YU-I,2ARAEA",
  "2ARAEAE,@3190,0IDEOGRAPHIC ANNOTATION LINKINGo,2REVERSEo,2ONEo,2TWOo,2vo,2FOURo,2TOPo,2MIDDLEo",
  "2BOTTOMo,2FIRSTo,2SECONDo,2THIRDo,2FOURTHo,2HEAVENo,2EARTHo,2MANo,0BOPOMOFOnBU,2ZI,2JI,2GU,2EE",
  "2ENN,2OO,2ONN,2IR,2ANN,2INN,2UNN,2IM,2NGG,2AINN,2AUNN,2AM,2OM,2ONG,2INNN,1hnP,3T,3K,3H,1nGH",
  "2LH,2ZY,1hnG,1nGW,2KW,2OE,2AH,0CJKtT,2WG,2XG,2BXG,2SW,2HZZ,2HZG,2HP,2HZWG,2SZWG,2HZT,2HZZP",
  "2HPWG,2HZW,2HZZZ,2N,2H,2S,2P,2SP,2D,2HZ,2HG,2SZ,2SWZ,2ST,2SG,2PD,2PZ,2TN,2SZZ,2SWG,2HXWG",
  "2HZZZG,2PG,2Q,@31F0,0KATAKANAnsKU,3SI,3SU,3TO,3NU,3HA,3HI,3HU,3HE,3HO,3MU,3RA,3RI,3RU,3RE,3RO",
  "0PARENTHESIZED HANGUL KIYEOK,2NIEUN,2TIKEUT,2RIEUL,2MIEUM,2PIEUP,2SIOS,2IEUNG,2CIEUC,2CHIEUCH",
  "2KHIEUKH,2THIEUTH,2PHIEUPH,2HIEUH,2KIYEOK A,2NIEUN A,2TIKEUT A,2RIEUL A,2MIEUM A,2PIEUP A",
  "2SIOS A,2IEUNG A,2CIEUC A,2CHIEUCH A,2KHIEUKH A,2THIEUTH A,2PHIEUPH A,2HIEUH A,2CIEUC U",
  "1KOREAN CHARACTER OJEON,3O HU,@3220,0PARENTHESIZED IDEOGRAPH ONE,2TWO,2v,2FOUR,2FIVE,2SIX",
  "2SEVEN,2EIGHT,2NINE,2TEN,2MOON,2FIRE,2WATER,2WOOD,2METAL,2EARTH,2SUN,2STOCK,2HAVE,2SOCIETY",
  "2NAME,2SPECIAL,2FINANCIAL,2CONGRATULATION,2LABOR,2REPRESENT,2CALL,2STUDY,2SUPERVISE",
  "2ENTERPRISE,2RESOURCE,2ALLIANCE,2FESTIVAL,2REST,2SELF,2REACH,0CIRCLED IDEOGRAPH QUESTION",
  "2KINDERGARTEN,2SCHOOL,2KOTO,1NUMBER TEN ONeSQUARE,2TWENTY ONeSQUARE,2THIRTY ONeSQUARE",
  "2FORTY ONeSQUARE,2FIFTY ONeSQUARE,2SIXTY ONeSQUARE,2SEVENTY ONeSQUARE,2EIGHTY ONeSQUARE",
  "0PARTNERSHIPr,0CIRCLED NUMBER TWENTY ONE,3TWO,3v,3FOUR,3FIVE,3SIX,3SEVEN,3EIGHT,3NINE,2THIRTY",
  "3ONE,3TWO,3v,3FOUR,3FIVE,1HANGUL KIYEOK,2NIEUN,2TIKEUT,2RIEUL,2MIEUM,2PIEUP,2SIOS,2IEUNG",
  "2CIEUC,2CHIEUCH,2KHIEUKH,2THIEUTH,2PHIEUPH,2HIEUH,2KIYEOK A,2NIEUN A,2TIKEUT A,2RIEUL A",
  "2MIEUM A,2PIEUP A,2SIOS A,2IEUNG A,2CIEUC A,2CHIEUCH A,2KHIEUKH A,2THIEUTH A,2PHIEUPH A",
  "2HIEUH A,1KOREAN CHARACTER CHAMKO,3JUEUI,1HANGUL IEUNG U,0KOREAN STANDARDu",
  "0CIRCLED IDEOGRAPH ONE,2TWO,2v,2FOUR,2FIVE,2SIX,2SEVEN,2EIGHT,2NINE,2TEN,2MOON,2FIRE,2WATER",
  "2WOOD,2METAL,2EARTH,2SUN,2STOCK,2HAVE,2SOCIETY,2NAME,2SPECIAL,2FINANCIAL,2CONGRATULATION",
  "2LABOR,2SECRET,2MALE,2FEMALE,2SUITABLE,2EXCELLENT,2PRINT,2ATTENTION,2ITEM,2REST,2COPY,2CORRECT",
  "2HIGH,2CENTRE,2LOW,2l,2p,2MEDICINE,2RELIGION,2STUDY,2SUPERVISE,2ENTERPRISE,2RESOURCE,2ALLIANCE",
  "2NIGHT,1NUMBER THIRTY SIX,3SEVEN,3EIGHT,3NINE,2FORTY,3ONE,3TWO,3v,3FOUR,3FIVE,3SIX,3SEVEN",
  "3EIGHT,3NINE,2FIFTY,0IDEOGRAPHIC TELEGRAPHuFOR JANUARY,4FEBRUARY,4MARCH,4APRIL,4MAY,4JUNE",
  "4JULY,4AUGUST,4SEPTEMBER,4OCTOBER,4NOVEMBER,4DECEMBER,0SQUARE HG,1ERG,1EV,0LIMITED LIABILITYr",
  "0CIRCLED KATAKANA A,2I,2U,2E,2O,2KA,2KI,2KU,2KE,2KO,2SA,2SI,2SU,2SE,2SO,2TA,2TI,2TU,2TE,2TO",
  "2NA,2NI,2NU,2NE,2NO,2HA,2HI,2HU,2HE,2HO,2MA,2MI,2MU,2ME,2MO,2YA,2YU,2YO,2RA,2RI,2RU,2RE,2RO",
  "2WA,2WI,2WE,2WO,0SQUARE ERA NAME REIWA,1APAATO,1ARUHUA,1ANPEA,1AARU,1ININGU,1INTI,1UON",
  "1ESUKUUDO,1EEKAA,1ONSU,1OOMU,1KAIRI,1KARATTO,1KARORII,1GARON,1GANMA,1GIGA,1GINII,1KYURII",
  "1GIRUDAA,1KIRO,1KIROGURAMU,1KIROMEETORU,1KIROWATTO,1GURAMU,1GURAMUTON,1KURUZEIRO,1KUROONE",
  "1KEESU,1KORUNA,1KOOPO,1SAIKURU,1SANTIIMU,1SIRINGU,1SENTI,1SENTO,1DAASU,1DESI,1DORU,1TON,1NANO",
  "1NOTTO,1HAITU,1PAASENTO,1PAATU,1BAARERU,1PIASUTORU,1PIKURU,1PIKO,1BIRU,1HUARADDO,1HUIITO",
  "1BUSSYERU,1HURAN,1HEKUTAARU,1PESO,1PENIHI,1HERUTU,1PENSU,1PEEZI,1BEETA,1POINTO,1BORUTO,1HON",
  "1PONDO,1HOORU,1HOON,1MAIKURO,1MAIRU,1MAHHA,1MARUKU,1MANSYON,1MIKURON,1MIRI,1MIRIBAARU,1MEGA",
  "1MEGATON,1MEETORU,1YAADO,1YAARU,1YUAN,1RITTORU,1RIRA,1RUPII,1RUUBURU,1REMU,1RENTOGEN,1WATTO",
  "0IDEOGRAPHIC TELEGRAPHuFOR HOUR ZERO,5ONE,5TWO,5v,5FOUR,5FIVE,5SIX,5SEVEN,5EIGHT,5NINE,5TEN",
  "5ELEVEN,5TWELVE,5THIRTEEN,5FOURTEEN,5FIFTEEN,5SIXTEEN,5SEVENTEEN,5EIGHTEEN,5NINETEEN,5TWENTY",
  "5TWENTY-ONE,5TWENTY-TWO,5TWENTY-THREE,5TWENTY-FOUR,0SQUARE HPA,1DA,1AU,1BAR,1OV,1PC,1DM",
  "2SQUARED,2CUBED,1IU,1ERA NAME HEISEI,3SYOUWA,3TAISYOU,3MEIZI,1CORPORATION,1PA AMPS,1NA,1MU A",
  "1MA,1KA,1KB,1MB,1GB,1CAL,1KCAL,1PF,1NF,1MU F,2G,1MG,1KG,1HZ,1KHZ,1MHZ,1GHZ,1THZ,1MU L,1ML,1DL",
  "1KL,1FM,1NM,1MU M,1MM,1CM,1KM,1MM SQUARED,1CM SQUARED,1M SQUARED,1KM SQUARED,1MM CUBED",
  "1CM CUBED,1M CUBED,1KM CUBED,1M OVER S,4SQUARED,1PA,1KPA,1MPA,1GPA,1RAD,2OVER S,4SQUARED,1PS",
  "1NS,1MU S,1MS,1PV,1NV,1MU V,1MV,1KV,1MV MEGA,1PW,1NW,1MU W,1MW,1KW,1MW MEGA,1K OHM,1M OHM,1AM",
  "1BQ,1CC,1CD,1C OVER KG,1CO,1DB,1GY,1HA,1HP,1IN,1KK,1KMf,1KT,1LM,1LN,1LOG,1LX,1MBs,1MIL,1MOL",
  "1PH,1PM,1PPM,1PR,1SR,1SV,1WB,1V OVER M,1A OVER M,0IDEOGRAPHIC TELEGRAPHuFOR DAY ONE,5TWO,5v",
  "5FOUR,5FIVE,5SIX,5SEVEN,5EIGHT,5NINE,5TEN,5ELEVEN,5TWELVE,5THIRTEEN,5FOURTEEN,5FIFTEEN",
  "5SIXTEEN,5SEVENTEEN,5EIGHTEEN,5NINETEEN,5TWENTY,5TWENTY-ONE,5TWENTY-TWO,5TWENTY-THREE",
  "5TWENTY-FOUR,5TWENTY-FIVE,5TWENTY-SIX,5TWENTY-SEVEN,5TWENTY-EIGHT,5TWENTY-NINE,5THIRTY",
  "5THIRTY-ONE,0SQUARE GAL,@4DC0,0HEXAGRAM FOR THE CREATIVE HEAVEN,3RECEPTIVE EARTH",
  "2DIFFICULTY AT THE BEGINNING,2YOUTHFUL FOLLY,2WAITING,2CONFLICT,2THE ARMY,2HOLDING TOGETHER",
  "2sTAMING,2TREADING,2PEACE,2STANDSTILL,2FELLOWSHIP,2GREAT POSSESSION,2MODESTY,2ENTHUSIASM",
  "2FOLLOWING,2WORK ON THE DECAYED,2APPROACH,2CONTEMPLATION,2BITING THROUGH,2GRACE",
  "2SPLITTING APART,2RETURN,2INNOCENCE,2GREAT TAMING,2MOUTH CORNERS,2GREAT PREPONDERANCE",
  "2THE ABYSMAL WATER,3CLINGING FIRE,2INFLUENCE,2DURATION,2RETREAT,2GREAT POWER,2PROGRESS",
  "2DARKENING OF THE LIGHT,2THE FAMILY,2OPPOSITION,2OBSTRUCTION,2DELIVERANCE,2DECREASE,2INCREASE",
  "2BREAKTHROUGH,2COMING TO MEET,2GATHERING TOGETHER,2PUSHING UPWARD,2OPPRESSION,2THE WELL",
  "2REVOLUTION,2THE CAULDRON,3AROUSING THUNDER,3KEEPING STILL MOUNTAIN,2DEVELOPMENT",
  "2THE MARRYING MAIDEN,2ABUNDANCE,2THE WANDERER,3GENTLE WIND,3JOYOUS LAKE,2DISPERSION",
  "2LIMITATION,2INNER TRUTH,2sPREPONDERANCE,2AFTER COMPLETION,2BEFORE COMPLETION"]

end PhraseStructure.Text.CharacterName
