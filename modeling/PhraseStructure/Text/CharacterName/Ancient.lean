/-!
# Names of ancient letters

The scripts of the ancient Mediterranean and of the East beside it.
-/

namespace PhraseStructure.Text.CharacterName

/-- The names of characters from U+10000 on, below U+11000. -/
def ancientNames : List String := [
  "@10000,0LINEAR B SYLLABLE B008 A,3B038 E,3B028 I,3B061 O,3B010 U,3B001 DA,3B045 DE,3B007 DI",
  "3B014 DO,3B051 DU,3B057 JA,3B046 JE,@1000D,0LINEAR B SYLLABLE B036 JO,3B065 JU,3B077 KA",
  "3B044 KE,3B067 KI,3B070 KO,3B081 KU,3B080 MA,3B013 ME,3B073 MI,3B015 MO,3B023 MU,3B006 NA",
  "3B024 NE,3B030 NI,3B052 NO,3B055 NU,3B003 PA,3B072 PE,3B039 PI,3B011 PO,3B050 PU,3B016 QA",
  "3B078 QE,3B021 QI,3B032 QO,@10028,0LINEAR B SYLLABLE B060 RA,3B027 RE,3B053 RI,3B002 RO",
  "3B026 RU,3B031 SA,3B009 SE,3B041 SI,3B012 SO,3B058 SU,3B059 TA,3B004 TE,3B037 TI,3B005 TO",
  "3B069 TU,3B054 WA,3B075 WE,3B040 WI,3B042 WO,@1003C,0LINEAR B SYLLABLE B017 ZA,3B074 ZE,@1003F",
  "0LINEAR B SYLLABLE B020 ZO,3B025 A2,3B043 A3,3B085 AU,3B071 DWE,3B090 DWO,3B048 NWA,3B029 PU2",
  "3B062 PTE,3B076 RA2,3B033 RA3,3B068 RO2,3B066 TA2,3B087 TWE,3B091 TWO,@10050,0LINEAR BuB018",
  "3B019,3B022,3B034,3B047,3B049,3B056,3B063,3B064,3B079,3B082,3B083,3B086,3B089,@10080",
  "0LINEAR B IDEOGRAM B100 MAN,3B102 WOMAN,3B104 DEER,3B105 EQUID,3B105F MARE,3B105M STALLION",
  "3B106F EWE,3B106M RAM,3B107F SHE-GOAT,3B107M HE-GOAT,3B108F SOW,3B108M BOAR,3B109F COW",
  "3B109M BULL,3B120 WHEAT,3B121 BARLEY,3B122 OLIVE,3B123 SPICE,3B125 CYPERUS,2MONOGRAM B127 KAPO",
  "3B128 KANAKO,2IDEOGRAM B130 OIL,3B131 WINE,3B132,2MONOGRAM B133 AREPA,3B135 MERI",
  "2IDEOGRAM B140 BRONZE,3B141 GOLD,3B142,3B145 WOOL,3B146,3B150,3B151 HORN,3B152,3B153,3B154",
  "2MONOGRAM B156 TURO2,2IDEOGRAM B157,3B158,3B159 CLOTH,3B160,3B161,3B162 GARMENT,3B163 ARMOUR",
  "3B164,3B165,3B166,3B167,3B168,3B169,3B170,3B171,3B172,3B173 MONTH,3B174,3B176 TREE,3B177,3B178",
  "3B179,3B180,3B181,3B182,3B183,3B184,3B185,3B189,3B190,3B191 HELMET,3B220 FOOTSTOOL",
  "3B225 BATHTUB,3B230 SPEAR,3B231c,3B232,3B233 SWORD,3B234,3B236,3B240 WHEELED CHARIOT",
  "3B241 CHARIOT,3B242 CHARIOT FRAME,3B243 WHEEL,3B245,3B246,2MONOGRAM B247 DIPTE,2IDEOGRAM B248",
  "3B249,3B251,3B252,3B253,3B254 DART,3B255,3B256,3B257,3B258,3B259,3VESSEL B155,4B200,4B201",
  "4B202,4B203,4B204,4B205,4B206,4B207,4B208,4B209,4B210,4B211,4B212,4B213,4B214,4B215,4B216",
  "4B217,4B218,4B219,4B221,4B222,4B226,4B227,4B228,4B229,4B250,4B305,@10100",
  "0AEGEAN WORD SEPARATOR LINE,3DOT,1CHECKo,@10107,0AEGEAN NUMBER ONE,2TWO,2v,2FOUR,2FIVE,2SIX",
  "2SEVEN,2EIGHT,2NINE,2TEN,2TWENTY,2THIRTY,2FORTY,2FIFTY,2SIXTY,2SEVENTY,2EIGHTY,2NINETY",
  "2ONE HUNDRED,2TWO HUNDRED,2vHUNDRED,2FOUR HUNDRED,2FIVE HUNDRED,2SIX HUNDRED,2SEVEN HUNDRED",
  "2EIGHT HUNDRED,2NINE HUNDRED,2ONE THOUSAND,2TWO THOUSAND,2vTHOUSAND,2FOUR THOUSAND",
  "2FIVE THOUSAND,2SIX THOUSAND,2SEVEN THOUSAND,2EIGHT THOUSAND,2NINE THOUSAND,2TEN THOUSAND",
  "2TWENTY THOUSAND,2THIRTY THOUSAND,2FORTY THOUSAND,2FIFTY THOUSAND,2SIXTY THOUSAND",
  "2SEVENTY THOUSAND,2EIGHTY THOUSAND,2NINETY THOUSAND,@10137,0AEGEAN WEIGHT BASE UNIT",
  "2FIRST SUBUNIT,2SECOND SUBUNIT,2THIRD SUBUNIT,2FOURTH SUBUNIT,1DRY MEASURE FIRST SUBUNIT",
  "1LIQUID MEASURE FIRST SUBUNIT,1MEASURE SECOND SUBUNIT,2THIRD SUBUNIT",
  "0GREEK ACROPHONIC ATTIC ONE QUARTER,4HALF,4DRACHMA,3FIVE,3FIFTY,3FIVE HUNDRED,4THOUSAND",
  "3FIFTY THOUSAND,3FIVE TALENTS,3TEN TALENTS,3FIFTY TALENTS,3ONE HUNDRED TALENTS",
  "3FIVE HUNDRED TALENTS,3ONE THOUSAND TALENTS,3FIVE THOUSAND TALENTS,4STATERS,3TEN STATERS",
  "3FIFTY STATERS,3ONE HUNDRED STATERS,3FIVE HUNDRED STATERS,3ONE THOUSAND STATERS",
  "3TEN THOUSAND STATERS,3FIFTY THOUSAND STATERS,3TEN MNAS,2HERAEUM ONE PLETHRON,2THESPIAN ONE",
  "2HERMIONIAN ONE,2EPIDAUREAN TWO,2THESPIAN TWO,2CYRENAIC TWO DRACHMAS,2EPIDAUREAN TWO DRACHMAS",
  "2TROEZENIAN FIVE,3TEN,4ALTERNATEi,2HERMIONIAN TEN,2MESSENIAN TEN,2THESPIAN TEN,3THIRTY",
  "2TROEZENIAN FIFTY,4ALTERNATEi,2HERMIONIAN FIFTY,2THESPIAN FIFTY,3ONE HUNDRED,3vHUNDRED",
  "2EPIDAUREAN FIVE HUNDRED,2TROEZENIAN FIVE HUNDRED,2THESPIAN FIVE HUNDRED",
  "2CARYSTIAN FIVE HUNDRED,2NAXIAN FIVE HUNDRED,2THESPIAN ONE THOUSAND,3FIVE THOUSAND",
  "2DELPHIC FIVE MNAS,2STRATIAN FIFTY MNAS,1ONE HALFr,4ALTERNATEi,1TWO THIRDSr,1vQUARTERSr,1YEARr",
  "1TALENTr,1DRACHMAr,1OBOLr,1TWO OBOLSr,1vOBOLSr,1FOUR OBOLSr,1FIVE OBOLSr,1METRETESr",
  "1KYATHOS BASEr,1LITRAr,1OUNKIAr,1XESTESr,1ARTABEr,1AROURAr,1GRAMMAr,1TRYBLION BASEr,1ZEROr",
  "1ONE QUARTERr,1SINUSOIDr,1INDICTIONr,0NOMISMAr,@10190,0ROMAN SEXTANSr,1UNCIAr,1SEMUNCIAr",
  "1SEXTULAr,1DIMIDIA SEXTULAr,1SILIQUAr,1DENARIUSr,1QUINARIUSr,1SESTERTIUSr,1DUPONDIUSr,1ASr",
  "1CENTURIALr,0ASCIAu,@101A0,0GREEKuTAU RHO,@101D0,0PHAISTOS DISCrPEDESTRIAN,3PLUMED HEAD",
  "3TATTOOED HEAD,3CAPTIVE,3CHILD,3WOMAN,3HELMET,3GAUNTLET,3TIARA,3c,3BOW,3SHIELD,3CLUB,3MANACLES",
  "3MATTOCK,3SAW,3LID,3BOOMERANG,3CARPENTRY PLANE,3DOLIUM,3COMB,3SLING,3COLUMN,3BEEHIVE,3SHIP",
  "3HORN,3HIDE,3BULLS LEG,3CAT,3RAM,3EAGLE,3DOVE,3TUNNY,3BEE,3PLANE TREE,3VINE,3PAPYRUS,3ROSETTE",
  "3LILY,3OX BACK,3FLUTE,3GRATER,3STRAINER,3sAXE,3WAVY BAND,3COMBINING OBLIQUEt,@10280,0LYCIANnA",
  "2E,2B,2BH,2G,2D,2I,2W,2Z,2TH,2J,2K,2Q,2L,2M,2N,2MM,2NN,2U,2P,2KK,2R,2S,2T,2TT,2AN,2EN,2H,2X",
  "@102A0,0CARIANnA,2P2,2D,2L,2UUU,2R,2LD,2A2,2Q,2B,2M,2O,2D2,2T,2SH,2SH2,2S,2C-18,2U,2NN,2X,2N",
  "2TT2,2P,2SS,2I,2E,2UUUU,2K,2K2,2ND,2UU,2G,2G2,2ST,2ST2,2NG,2II,2C-39,2TT,2UUU2,2RR,2MB,2MB2",
  "2MB3,2MB4,2LD2,2E2,2UUU3,@102E0,0COPTIC EPACT THOUSANDSo,2DIGIT ONE,3TWO,3v,3FOUR,3FIVE,3SIX",
  "3SEVEN,3EIGHT,3NINE,2NUMBER TEN,3TWENTY,3THIRTY,3FORTY,3FIFTY,3SIXTY,3SEVENTY,3EIGHTY,3NINETY",
  "3ONE HUNDRED,3TWO HUNDRED,3vHUNDRED,3FOUR HUNDRED,3FIVE HUNDRED,3SIX HUNDRED,3SEVEN HUNDRED",
  "3EIGHT HUNDRED,3NINE HUNDRED,@10300,0OLD ITALICnA,3BE,3KE,3DE,3E,3VE,3ZE,3HE,3THE,3I,3KA,3EL",
  "3EM,3EN,3ESH,3O,3PE,3SHE,3KU,3ER,3ES,3TE,3U,3EKS,3PHE,3KHE,3EF,3ERS,3CHE,3II,3UU,3ESS",
  "2NUMERAL ONE,3FIVE,3TEN,3FIFTY,@1032D,0OLD ITALICnYE,3NORTHERN TSE,3SOUTHERN TSE,0GOTHICnAHSA",
  "2BAIRKAN,2GIBA,2DAGS,2AIHVUS,2QAIRTHRA,2IUJA,2HAGL,2THIUTH,2EIS,2KUSMA,2LAGUS,2MANNA,2NAUTHS",
  "2JER,2URUS,2PAIRTHRA,2NINETY,2RAIDA,2SAUIL,2TEIWS,2WINJA,2FAIHU,2IGGWS,2HWAIR,2OTHAL",
  "2NINE HUNDRED,@10350,0OLD PERMICnAN,3BUR,3GAI,3DOI,3E,3ZHOI,3DZHOI,3ZATA,3DZITA,3I,3KOKE,3LEI",
  "3MENOE,3NENOE,3VOOI,3PEEI,3REI,3SII,3TAI,3U,3CHERY,3SHOOI,3SHCHOOI,3YRY,3YERU,3O,3OO,3EF,3HA",
  "3TSIU,3VER,3YER,3YERI,3YAT,3IE,3YU,3YA,3IA,0COMBINING OLD PERMICnAN,4DOI,4ZATA,4NENOE,4SII",
  "@10380,0UGARITICnALPA,2BETA,2GAMLA,2KHA,2DELTA,2HO,2WO,2ZETA,2HOTA,2TET,2YOD,2KAF,2SHIN,2LAMDA",
  "2MEM,2DHAL,2NUN,2ZU,2SAMKA,2AIN,2PU,2SADE,2QOPA,2RASHA,2THANNA,2GHAIN,2TO,2I,2U,2SSU,@1039F",
  "0UGARITIC WORD DIVIDER,0OLD PERSIANrA,3I,3U,3KA,3KU,3GA,3GU,3XA,3CA,3JA,3JI,3TA,3TU,3DA,3DI",
  "3DU,3THA,3PA,3BA,3FA,3NA,3NU,3MA,3MI,3MU,3YA,3VA,3VI,3RA,3RU,3LA,3SA,3ZA,3SHA,3SSA,3HA,@103C8",
  "0OLD PERSIANrAURAMAZDAA,3AURAMAZDAA-2,3AURAMAZDAAHA,3XSHAAYATHIYA,3DAHYAAUSH,3DAHYAAUSH-2",
  "3BAGA,3BUUMISH,2WORD DIVIDER,2NUMBER ONE,3TWO,3TEN,3TWENTY,3HUNDRED,@10400,0DESERETfnLONG I,4E",
  "4A,4AH,4O,4OO,3SHORT I,4E,4A,4AH,4O,4OO,3AY,3OW,3WU,3YEE,3H,3PEE,3BEE,3TEE,3DEE,3CHEE,3JEE",
  "3KAY,3GAY,3EF,3VEE,3ETH,3THEE,3ES,3ZEE,3ESH,3ZHEE,3ER,3EL,3EM,3EN,3ENG,3OI,3EW,1snLONG I,4E,4A",
  "4AH,4O,4OO,3SHORT I,4E,4A,4AH,4O,4OO,3AY,3OW,3WU,3YEE,3H,3PEE,3BEE,3TEE,3DEE,3CHEE,3JEE,3KAY",
  "3GAY,3EF,3VEE,3ETH,3THEE,3ES,3ZEE,3ESH,3ZHEE,3ER,3EL,3EM,3EN,3ENG,3OI,3EW,0SHAVIANnPEEP,2TOT",
  "2KICK,2FEE,2THIGH,2SO,2SURE,2CHURCH,2YEA,2HUNG,2BIB,2DEAD,2GAG,2VOW,2THEY,2ZOO,2MEASURE,2JUDGE",
  "2WOE,2HA-HA,2LOLL,2MIME,2IF,2EGG,2ASH,2ADO,2ON,2WOOL,2OUT,2AH,2ROAR,2NUN,2EAT,2AGE,2ICE,2UP",
  "2OAK,2OOZE,2OIL,2AWE,2ARE,2OR,2AIR,2ERR,2ARRAY,2EAR,2IAN,2YEW,0OSMANYAnALEF,2BA,2TA,2JA,2XA",
  "2KHA,2DEEL,2RA,2SA,2SHIIN,2DHA,2CAYN,2GA,2FA,2QAAF,2KAAF,2LAAN,2MIIN,2NUUN,2WAW,2HA,2YA,2A,2E",
  "2I,2O,2U,2AA,2EE,2OO,@104A0,0OSMANYA DIGIT ZERO,2ONE,2TWO,2v,2FOUR,2FIVE,2SIX,2SEVEN,2EIGHT",
  "2NINE,@104B0,0OSAGEfnA,3AI,3AIN,3AH,3BRA,3CHA,3EHCHA,3E,3EIN,3HA,3HYA,3I,3KA,3EHKA,3KYA,3LA",
  "3MA,3NA,3O,3OIN,3PA,3EHPA,3SA,3SHA,3TA,3EHTA,3TSA,3EHTSA,3TSHA,3DHA,3U,3WA,3KHA,3GHA,3ZA,3ZHA",
  "@104D8,0OSAGEsnA,3AI,3AIN,3AH,3BRA,3CHA,3EHCHA,3E,3EIN,3HA,3HYA,3I,3KA,3EHKA,3KYA,3LA,3MA,3NA",
  "3O,3OIN,3PA,3EHPA,3SA,3SHA,3TA,3EHTA,3TSA,3EHTSA,3TSHA,3DHA,3U,3WA,3KHA,3GHA,3ZA,3ZHA,@10500",
  "0ELBASANnA,2BE,2CE,2CHE,2DE,2NDE,2DHE,2EI,2E,2FE,2GE,2GJE,2HE,2I,2JE,2KE,2LE,2LLE,2ME,2NE,2NA",
  "2NJE,2O,2PE,2QE,2RE,2RRE,2SE,2SHE,2TE,2THE,2U,2VE,2XE,2Y,2ZE,2ZHE,2GHE,2GHAMMA,2KHE,@10530",
  "0CAUCASIAN ALBANIANnALT,3BET,3GIM,3DAT,3EB,3ZARL,3EYN,3ZHIL,3TAS,3CHA,3YOWD,3ZHA,3IRB,3SHA",
  "3LAN,3INYA,3XEYN,3DYAN,3CAR,3JHOX,3KAR,3LYIT,3HEYT,3QAY,3AOR,3CHOY,3CHI,3CYAY,3MAQ,3QAR,3NOWC",
  "3DZYAY,3SHAK,3JAYN,3ON,3TYAY,3FAM,3DZAY,3CHAT,3PEN,3GHEYS,3RAT,3SEYK,3VEYZ,3TIWR,3SHOY,3IWN",
  "3CYAW,3CAYN,3YAYD,3PIWR,3KIW,@1056F,0CAUCASIAN ALBANIAN CITATIONo,0VITHKUQIfnA,3BBE,3BE,3CE",
  "3CHE,3DE,3DHE,3EI,3E,3FE,3GA,@1057C,0VITHKUQIfnHA,3HHA,3I,3IJE,3JE,3KA,3LA,3LLA,3ME,3NE,3NJE",
  "3O,3PE,3QA,3RE,@1058C,0VITHKUQIfnSE,3SHE,3TE,3THE,3U,3VE,3XE,@10594,0VITHKUQIfnY,3ZE,@10597",
  "0VITHKUQIsnA,3BBE,3BE,3CE,3CHE,3DE,3DHE,3EI,3E,3FE,3GA,@105A3,0VITHKUQIsnHA,3HHA,3I,3IJE,3JE",
  "3KA,3LA,3LLA,3ME,3NE,3NJE,3O,3PE,3QA,3RE,@105B3,0VITHKUQIsnSE,3SHE,3TE,3THE,3U,3VE,3XE,@105BB",
  "0VITHKUQIsnY,3ZE,@10600,0LINEAR ArAB001,3AB002,3AB003,3AB004,3AB005,3AB006,3AB007,3AB008",
  "3AB009,3AB010,3AB011,3AB013,3AB016,3AB017,3AB020,3AB021,3AB021F,3AB021M,3AB022,3AB022F,3AB022M",
  "3AB023,3AB023M,3AB024,3AB026,3AB027,3AB028,3A028B,3AB029,3AB030,3AB031,3AB034,3AB037,3AB038",
  "3AB039,3AB040,3AB041,3AB044,3AB045,3AB046,3AB047,3AB048,3AB049,3AB050,3AB051,3AB053,3AB054",
  "3AB055,3AB056,3AB057,3AB058,3AB059,3AB060,3AB061,3AB065,3AB066,3AB067,3AB069,3AB070,3AB073",
  "3AB074,3AB076,3AB077,3AB078,3AB079,3AB080,3AB081,3AB082,3AB085,3AB086,3AB087,3A100-102,3AB118",
  "3AB120,3A120B,3AB122,3AB123,3AB131A,3AB131B,3A131C,3AB164,3AB171,3AB180,3AB188,3AB191,3A301",
  "3A302,3A303,3A304,3A305,3A306,3A307,3A308,3A309A,3A309B,3A309C,3A310,3A311,3A312,3A313A,3A313B",
  "3A313C,3A314,3A315,3A316,3A317,3A318,3A319,3A320,3A321,3A322,3A323,3A324,3A325,3A326,3A327",
  "3A328,3A329,3A330,3A331,3A332,3A333,3A334,3A335,3A336,3A337,3A338,3A339,3A340,3A341,3A342",
  "3A343,3A344,3A345,3A346,3A347,3A348,3A349,3A350,3A351,3A352,3A353,3A354,3A355,3A356,3A357",
  "3A358,3A359,3A360,3A361,3A362,3A363,3A364,3A365,3A366,3A367,3A368,3A369,3A370,3A371,3A400-VAS",
  "3A401-VAS,3A402-VAS,3A403-VAS,3A404-VAS,3A405-VAS,3A406-VAS,3A407-VAS,3A408-VAS,3A409-VAS",
  "3A410-VAS,3A411-VAS,3A412-VAS,3A413-VAS,3A414-VAS,3A415-VAS,3A416-VAS,3A417-VAS,3A418-VAS",
  "3A501,3A502,3A503,3A504,3A505,3A506,3A508,3A509,3A510,3A511,3A512,3A513,3A515,3A516,3A520",
  "3A521,3A523,3A524,3A525,3A526,3A527,3A528,3A529,3A530,3A531,3A532,3A534,3A535,3A536,3A537",
  "3A538,3A539,3A540,3A541,3A542,3A545,3A547,3A548,3A549,3A550,3A551,3A552,3A553,3A554,3A555",
  "3A556,3A557,3A559,3A563,3A564,3A565,3A566,3A568,3A569,3A570,3A571,3A572,3A573,3A574,3A575",
  "3A576,3A577,3A578,3A579,3A580,3A581,3A582,3A583,3A584,3A585,3A586,3A587,3A588,3A589,3A591",
  "3A592,3A594,3A595,3A596,3A598,3A600,3A601,3A602,3A603,3A604,3A606,3A608,3A609,3A610,3A611",
  "3A612,3A613,3A614,3A615,3A616,3A617,3A618,3A619,3A620,3A621,3A622,3A623,3A624,3A626,3A627",
  "3A628,3A629,3A634,3A637,3A638,3A640,3A642,3A643,3A644,3A645,3A646,3A648,3A649,3A651,3A652",
  "3A653,3A654,3A655,3A656,3A657,3A658,3A659,3A660,3A661,3A662,3A663,3A664,@10740",
  "0LINEAR ArA701 A,3A702 B,3A703 D,3A704 E,3A705 F,3A706 H,3A707 J,3A708 K,3A709 L,3A709-2 L2",
  "3A709-3 L3,3A709-4 L4,3A709-6 L6,3A710 W,3A711 X,3A712 Y,3A713 OMEGA,3A714 ABB,3A715 BB",
  "3A717 DD,3A726 EYYY,3A732 JE,@10760,0LINEAR ArA800,3A801,3A802,3A803,3A804,3A805,3A806,3A807",
  "@10780,0MODIFIERnsfAA,2SUPERSCRIPT TRIANGULAR COLON,3HALF TRIANGULAR COLON,2sAE,3fB,3BzHOOK",
  "@10787,0MODIFIERnsDZ DIGRAPH,5zRETROFLEX HOOK,6CURL,3DEZH DIGRAPH,3DzTAIL,5HOOK,6bTAIL",
  "3REVERSED E,3CLOSED REVERSED OPEN E,3FENG DIGRAPH,3RAMS HORN,3fG,3GzHOOK,3fGzHOOK,3Hzt,3fH",
  "3HENGzHOOK,3DOTLESS JztbHOOK,3LS DIGRAPH,3LZ DIGRAPH,3LzBELT,3fLzBELT,3LzRETROFLEX HOOKbBELT",
  "3LEZH,4zRETROFLEX HOOK,3TURNED Y,5zBELT,3Ozt,3fOE,3CLOSED OMEGA,3Q,3TURNED RzLONG LEG",
  "8bRETROFLEX HOOK,3RzTAIL,5FISHHOOK,3fR,3TC DIGRAPHzCURL,3TS DIGRAPH,5zRETROFLEX HOOK",
  "3TESH DIGRAPH,3TzRETROFLEX HOOK,3VzpHOOK,@107B2,0MODIFIERnsfY,2GLOTTAL STOPzt",
  "2REVERSED GLOTTAL STOPzt,2BILABIAL CLICK,2DENTAL CLICK,2LATERAL CLICK,2ALVEOLAR CLICK",
  "2RETROFLEX CLICKzRETROFLEX HOOK,2sSzCURL,@10800,0CYPRIOT SYLLABLE A,2E,2I,2O,2U,2JA,@10808",
  "0CYPRIOT SYLLABLE JO,@1080A,0CYPRIOT SYLLABLE KA,2KE,2KI,2KO,2KU,2LA,2LE,2LI,2LO,2LU,2MA,2ME",
  "2MI,2MO,2MU,2NA,2NE,2NI,2NO,2NU,2PA,2PE,2PI,2PO,2PU,2RA,2RE,2RI,2RO,2RU,2SA,2SE,2SI,2SO,2SU",
  "2TA,2TE,2TI,2TO,2TU,2WA,2WE,2WI,2WO,@10837,0CYPRIOT SYLLABLE XA,2XE,@1083C",
  "0CYPRIOT SYLLABLE ZA,@1083F,0CYPRIOT SYLLABLE ZO,0IMPERIAL ARAMAICnALEPH,3BETH,3GIMEL,3DALETH",
  "3HE,3WAW,3ZAYIN,3HETH,3TETH,3YODH,3KAPH,3LAMEDH,3MEM,3NUN,3SAMEKH,3AYIN,3PE,3SADHE,3QOPH,3RESH",
  "3SHIN,3TAW,@10857,0IMPERIAL ARAMAIC SECTIONr,2NUMBER ONE,3TWO,3v,3TEN,3TWENTY,3ONE HUNDRED",
  "4THOUSAND,3TEN THOUSAND,0PALMYRENEnALEPH,2BETH,2GIMEL,2DALETH,2HE,2WAW,2ZAYIN,2HETH,2TETH",
  "2YODH,2KAPH,2LAMEDH,2MEM,2hNUN,2NUN,2SAMEKH,2AYIN,2PE,2SADHE,2QOPH,2RESH,2SHIN,2TAW",
  "1LEFT-POINTING FLEURON,1RIGHT-POINTING FLEURON,1NUMBER ONE,2TWO,2v,2FOUR,2FIVE,2TEN,2TWENTY",
  "0NABATAEANnhALEPH,2ALEPH,2hBETH,2BETH,2GIMEL,2DALETH,2hHE,2HE,2WAW,2ZAYIN,2HETH,2TETH,2hYODH",
  "2YODH,2hKAPH,2KAPH,2hLAMEDH,2LAMEDH,2hMEM,2MEM,2hNUN,2NUN,2SAMEKH,2AYIN,2PE,2SADHE,2QOPH,2RESH",
  "2hSHIN,2SHIN,2TAW,@108A7,0NABATAEAN NUMBER ONE,2TWO,2v,2FOUR,1CRUCIFORM NUMBER FOUR",
  "1NUMBER FIVE,2TEN,2TWENTY,2ONE HUNDRED,@108E0,0HATRANnALEPH,2BETH,2GIMEL,2DALETH-RESH,2HE,2WAW",
  "2ZAYN,2HETH,2TETH,2YODH,2KAPH,2LAMEDH,2MEM,2NUN,2SAMEKH,2AYN,2PE,2SADHE,2QOPH,@108F4",
  "0HATRANnSHIN,2TAW,@108FB,0HATRAN NUMBER ONE,2FIVE,2TEN,2TWENTY,2ONE HUNDRED,0PHOENICIANnALF",
  "2BET,2GAML,2DELT,2HE,2WAU,2ZAI,2HET,2TET,2YOD,2KAF,2LAMD,2MEM,2NUN,2SEMK,2AIN,2PE,2SADE,2QOF",
  "2ROSH,2SHIN,2TAU,1NUMBER ONE,2TEN,2TWENTY,2ONE HUNDRED,2TWO,2v,@1091F",
  "0PHOENICIAN WORD SEPARATOR,0LYDIANnA,2B,2G,2D,2E,2V,2I,2Y,2K,2L,2M,2N,2O,2R,2SS,2T,2U,2F,2Q,2S",
  "2TT,2AN,2EN,2LY,2NN,2C,@1093F,0LYDIAN TRIANGULARo,@10980,0MEROITIC HIEROGLYPHICnA,3E,3I,3O,3YA",
  "3WA,3BA,3BA-2,3PA,3MA,3NA,3NA-2,3NE,3NE-2,3RA,3RA-2,3LA,3KHA,3HHA,3SA,3SA-2,3SE,3KA,3QA,3TA",
  "3TA-2,3TE,3TE-2,3TO,3DA,2uVIDJ,3VIDJ-2,1CURSIVEnA,3E,3I,3O,3YA,3WA,3BA,3PA,3MA,3NA,3NE,3RA,3LA",
  "3KHA,3HHA,3SA,3ARCHAIC SA,3SE,3KA,3QA,3TA,3TE,3TO,3DA,@109BC",
  "0MEROITIC CURSIVE FRACTION ELEVEN TWELFTHS,3ONE HALF,2LOGOGRAM RMT,3IMN,2NUMBER ONE,3TWO,3v",
  "3FOUR,3FIVE,3SIX,3SEVEN,3EIGHT,3NINE,3TEN,3TWENTY,3THIRTY,3FORTY,3FIFTY,3SIXTY,3SEVENTY,@109D2",
  "0MEROITIC CURSIVE NUMBER ONE HUNDRED,3TWO HUNDRED,3vHUNDRED,3FOUR HUNDRED,3FIVE HUNDRED",
  "3SIX HUNDRED,3SEVEN HUNDRED,3EIGHT HUNDRED,3NINE HUNDRED,3ONE THOUSAND,3TWO THOUSAND",
  "3vTHOUSAND,3FOUR THOUSAND,3FIVE THOUSAND,3SIX THOUSAND,3SEVEN THOUSAND,3EIGHT THOUSAND",
  "3NINE THOUSAND,3TEN THOUSAND,3TWENTY THOUSAND,3THIRTY THOUSAND,3FORTY THOUSAND,3FIFTY THOUSAND",
  "3SIXTY THOUSAND,3SEVENTY THOUSAND,3EIGHTY THOUSAND,3NINETY THOUSAND,3ONE HUNDRED THOUSAND",
  "3TWO HUNDRED THOUSAND,3vHUNDRED THOUSAND,3FOUR HUNDRED THOUSAND,3FIVE HUNDRED THOUSAND",
  "3SIX HUNDRED THOUSAND,3SEVEN HUNDRED THOUSAND,3EIGHT HUNDRED THOUSAND,3NINE HUNDRED THOUSAND",
  "2FRACTION ONE TWELFTH,3TWO TWELFTHS,3vTWELFTHS,3FOUR TWELFTHS,3FIVE TWELFTHS,3SIX TWELFTHS",
  "3SEVEN TWELFTHS,3EIGHT TWELFTHS,3NINE TWELFTHS,3TEN TWELFTHS,0KHAROSHTHInA,1VOWELrI,3U",
  "3VOCALIC R,@10A05,0KHAROSHTHI VOWELrE,3O,@10A0C,0KHAROSHTHI VOWEL LENGTHo,1rgRINGd,2ANUSVARA",
  "2VISARGA,1nKA,2KHA,2GA,2GHA,@10A15,0KHAROSHTHInCA,2CHA,2JA,@10A19,0KHAROSHTHInNYA,2TTA,2TTHA",
  "2DDA,2DDHA,2NNA,2TA,2THA,2DA,2DHA,2NA,2PA,2PHA,2BA,2BHA,2MA,2YA,2RA,2LA,2VA,2SHA,2SSA,2SA,2ZA",
  "2HA,2KKA,2TTTHA,2TTTA,2VHA,@10A38,0KHAROSHTHIrBARa,2CAUDA,2DOTd,@10A3F,0KHAROSHTHI VIRAMA",
  "1DIGIT ONE,2TWO,2v,2FOUR,1NUMBER TEN,2TWENTY,2ONE HUNDRED,3THOUSAND,1FRACTION ONE HALF,@10A50",
  "0KHAROSHTHI PUNCTUATION DOT,2sCIRCLE,2CIRCLE,2CRESCENT BAR,2MANGALAM,2LOTUS,2DANDA,2gDANDA",
  "2LINES,@10A60,0OLD SOUTH ARABIANnHE,4LAMEDH,4HETH,4MEM,4QOPH,4WAW,4SHIN,4RESH,4BETH,4TAW,4SAT",
  "4KAPH,4NUN,4KHETH,4SADHE,4SAMEKH,4FE,4ALEF,4AYN,4DHADHE,4GIMEL,4DALETH,4GHAYN,4TETH,4ZAYN",
  "4DHALETH,4YODH,4THAW,4THETH,3NUMBER ONE,4FIFTY,3NUMERIC INDICATOR,1NORTH ARABIANnHEH,4LAM,4HAH",
  "4MEEM,4QAF,4WAW,4ES-2,4REH,4BEH,4TEH,4ES-1,4KAF,4NOON,4KHAH,4SAD,4ES-3,4FEH,4ALEF,4AIN,4DAD",
  "4GEEM,4DAL,4GHAIN,4TAH,4ZAIN,4THAL,4YEH,4THEH,4ZAH,3NUMBER ONE,4TEN,4TWENTY,@10AC0",
  "0MANICHAEANnALEPH,2BETH,2BHETH,2GIMEL,2GHIMEL,2DALETH,2HE,2WAW,1rUD,1nZAYIN,2ZHAYIN,2JAYIN",
  "2JHAYIN,2HETH,2TETH,2YODH,2KAPH,2XAPH,2KHAPH,2LAMEDH,2DHAMEDH,2THAMEDH,2MEM,2NUN,2SAMEKH,2AYIN",
  "2AAYIN,2PE,2FE,2SADHE,2QOPH,2XOPH,2QHOPH,2RESH,2SHIN,2SSHIN,2TAW,1ABBREVIATIONoa,3d,@10AEB",
  "0MANICHAEAN NUMBER ONE,2FIVE,2TEN,2TWENTY,2ONE HUNDRED,1PUNCTUATION STAR,2FLEURON",
  "2gDOT WITHIN DOT,2DOT WITHIN DOT,3,2TWO DOTS,2LINE FILLER,@10B00,0AVESTANnA,2AA,2AO,2AAO,2AN",
  "2AAN,2AE,2AEE,2E,2EE,2O,2OO,2I,2II,2U,2UU,2KE,2XE,2XYE,2XVE,2GE,2GGE,2GHE,2CE,2JE,2TE,2THE,2DE",
  "2DHE,2TTE,2PE,2FE,2BE,2BHE,2NGE,2NGYE,2NGVE,2NE,2NYE,2NNE,2ME,2HME,2YYE,2YE,2VE,2RE,2LE,2SE",
  "2ZE,2SHE,2ZHE,2SHYE,2SSHE,2HE,@10B39,0AVESTAN ABBREVIATIONo",
  "0TINY TWO DOTS OVER ONE DOT PUNCTUATION,0sTWO DOTS OVER ONE DOT PUNCTUATION",
  "0LARGE TWO DOTS OVER ONE DOT PUNCTUATION,1ONE DOT OVER TWO DOTS PUNCTUATION",
  "1TWO RINGS OVER ONE RING PUNCTUATION,1ONE RING OVER TWO RINGS PUNCTUATION",
  "0INSCRIPTIONAL PARTHIANnALEPH,3BETH,3GIMEL,3DALETH,3HE,3WAW,3ZAYIN,3HETH,3TETH,3YODH,3KAPH",
  "3LAMEDH,3MEM,3NUN,3SAMEKH,3AYIN,3PE,3SADHE,3QOPH,3RESH,3SHIN,3TAW,@10B58",
  "0INSCRIPTIONAL PARTHIAN NUMBER ONE,3TWO,3v,3FOUR,3TEN,3TWENTY,3ONE HUNDRED,4THOUSAND",
  "1PAHLAVInALEPH,3BETH,3GIMEL,3DALETH,3HE,3WAW-AYIN-RESH,3ZAYIN,3HETH,3TETH,3YODH,3KAPH,3LAMEDH",
  "3MEM-QOPH,3NUN,3SAMEKH,3PE,3SADHE,3SHIN,3TAW,@10B78,0INSCRIPTIONAL PAHLAVI NUMBER ONE,3TWO,3v",
  "3FOUR,3TEN,3TWENTY,3ONE HUNDRED,4THOUSAND,0PSALTER PAHLAVInALEPH,3BETH,3GIMEL,3DALETH,3HE",
  "3WAW-AYIN-RESH,3ZAYIN,3HETH,3YODH,3KAPH,3LAMEDH,3MEM-QOPH,3NUN,3SAMEKH,3PE,3SADHE,3SHIN,3TAW",
  "@10B99,0PSALTER PAHLAVI SECTIONo,2TURNED SECTIONo,2FOUR DOTSzCROSS,5DOT,@10BA9",
  "0PSALTER PAHLAVI NUMBER ONE,3TWO,3v,3FOUR,3TEN,3TWENTY,3ONE HUNDRED,@10C00",
  "0OLD TURKICnORKHON A,3YENISEI A,4AE,3ORKHON I,3YENISEI I,4E,3ORKHON O,4OE,3YENISEI OE",
  "3ORKHON AB,3YENISEI AB,3ORKHON AEB,3YENISEI AEB,3ORKHON AG,3YENISEI AG,3ORKHON AEG",
  "3YENISEI AEG,3ORKHON AD,3YENISEI AD,3ORKHON AED,4EZ,3YENISEI EZ,3ORKHON AY,3YENISEI AY",
  "3ORKHON AEY,3YENISEI AEY,3ORKHON AEK,3YENISEI AEK,3ORKHON OEK,3YENISEI OEK,3ORKHON AL",
  "3YENISEI AL,3ORKHON AEL,4ELT,4EM,4AN,4AEN,3YENISEI AEN,3ORKHON ENT,3YENISEI ENT,3ORKHON ENC",
  "3YENISEI ENC,3ORKHON ENY,3YENISEI ENY,4ANG,3ORKHON ENG,3YENISEI AENG,3ORKHON EP,4OP,4IC,4EC",
  "3YENISEI EC,3ORKHON AQ,3YENISEI AQ,3ORKHON IQ,3YENISEI IQ,3ORKHON OQ,3YENISEI OQ,3ORKHON AR",
  "3YENISEI AR,3ORKHON AER,4AS,4AES,4ASH,3YENISEI ASH,3ORKHON ESH,3YENISEI ESH,3ORKHON AT",
  "3YENISEI AT,3ORKHON AET,3YENISEI AET,3ORKHON OT,4BASH,@10C80,0OLD HUNGARIANfnA,4AA,4EB,4AMB",
  "4EC,4ENC,4ECS,4ED,4b,4E,4CLOSE E,4EE,4EF,4EG,4EGY,4EH,4I,4II,4EJ,4EK,4AK,4UNK,4EL,4ELY,4EM,4EN",
  "4ENY,4O,4OO,4NIKOLSBURG OE,4RUDIMENTA OE,4OEE,4EP,4EMP,4ER,4SHORT ER,4ES,4ESZ,4ET,4ENT,4ETY",
  "4ECH,4U,4UU,4NIKOLSBURG UE,4RUDIMENTA UE,4EV,4EZ,4EZS,4ENT-SHAPEDr,4US,@10CC0",
  "0OLD HUNGARIANsnA,4AA,4EB,4AMB,4EC,4ENC,4ECS,4ED,4b,4E,4CLOSE E,4EE,4EF,4EG,4EGY,4EH,4I,4II",
  "4EJ,4EK,4AK,4UNK,4EL,4ELY,4EM,4EN,4ENY,4O,4OO,4NIKOLSBURG OE,4RUDIMENTA OE,4OEE,4EP,4EMP,4ER",
  "4SHORT ER,4ES,4ESZ,4ET,4ENT,4ETY,4ECH,4U,4UU,4NIKOLSBURG UE,4RUDIMENTA UE,4EV,4EZ,4EZS",
  "4ENT-SHAPEDr,4US,@10CFA,0OLD HUNGARIAN NUMBER ONE,3FIVE,3TEN,3FIFTY,3ONE HUNDRED,4THOUSAND",
  "0HANIFI ROHINGYAnA,3BA,3PA,3TA,3TTA,3JA,3CA,3HA,3KHA,3FA,3DA,3DDA,3RA,3RRA,3ZA,3SA,3SHA,3KA",
  "3GA,3LA,3MA,3NA,3WA,3KINNA WA,3YA,3KINNA YA,3NGA,3NYA,3VA,2VOWEL A,3I,3U,3E,3O,2oSAKIN",
  "3NA KHONNA,2rHARBAHAY,3TAHALA,3TANA,3TASSI,@10D30,0HANIFI ROHINGYA DIGIT ZERO,3ONE,3TWO,3v",
  "3FOUR,3FIVE,3SIX,3SEVEN,3EIGHT,3NINE,@10E60,0RUMI DIGIT ONE,2TWO,2v,2FOUR,2FIVE,2SIX,2SEVEN",
  "2EIGHT,2NINE,1NUMBER TEN,2TWENTY,2THIRTY,2FORTY,2FIFTY,2SIXTY,2SEVENTY,2EIGHTY,2NINETY",
  "2ONE HUNDRED,2TWO HUNDRED,2vHUNDRED,2FOUR HUNDRED,2FIVE HUNDRED,2SIX HUNDRED,2SEVEN HUNDRED",
  "2EIGHT HUNDRED,2NINE HUNDRED,1FRACTION ONE HALF,3QUARTER,3THIRD,2TWO THIRDS,@10E80",
  "0YEZIDInELIF,2BE,2PE,2PHE,2THE,2SE,2CIM,2CHIM,2CHHIM,2HHA,2XA,2DAL,2ZAL,2RA,2RHA,2ZA,2JA,2SIN",
  "2SHIN,2SAD,2DAD,2TA,2ZE,2EYN,2XHEYN,2FA,2VA,3ALTERNATEi,2QAF,2KAF,2KHAF,2GAF,2LAM,2MIM,2NUN",
  "2UM,2WAW,2OW,2EW,2HAY,2YOT,2ET,@10EAB,0YEZIDI COMBINING HAMZAo,2MADDAo,1HYPHENATIONo,@10EB0",
  "0YEZIDInLAMzDOTa,2YOTzCIRCUMFLEXa,@10F00,0OLD SOGDIANnALEPH,3hALEPH,3BETH,3hBETH,3GIMEL,3HE",
  "3hHE,3WAW,3ZAYIN,3HETH,3YODH,3KAPH,3LAMEDH,3MEM,3NUN,3hNUN,5zxTAIL,3SAMEKH,3AYIN",
  "3ALTERNATE AYIN,3PE,3SADHE,3hSADHE,5zxTAIL,3RESH-AYIN-DALETH,3SHIN,3TAW,3hTAW,5zxTAIL",
  "2NUMBER ONE,3TWO,3v,3FOUR,3FIVE,3TEN,3TWENTY,3THIRTY,3ONE HUNDRED,2FRACTION ONE HALF",
  "2LIGATURE AYIN-DALETH,@10F30,0SOGDIANnALEPH,2BETH,2GIMEL,2HE,2WAW,2ZAYIN,2HETH,2YODH,2KAPH",
  "2LAMEDH,2MEM,2NUN,2SAMEKH,2AYIN,2PE,2SADHE,2RESH-AYIN,2SHIN,2TAW,2FETH,2LESH,1INDEPENDENT SHIN",
  "1COMBINING DOTd,2TWO DOTSd,2DOTa,2TWO DOTSa,2CURVEa,3d,2HOOKa,3d,2LONG HOOKd,2RESHd,2td",
  "1NUMBER ONE,2TEN,2TWENTY,2ONE HUNDRED,1PUNCTUATION TWOxBARS,5zDOTS,2CIRCLEzDOT",
  "2TWO CIRCLESzDOTS,2HALF CIRCLEzDOT,@10F70,0OLD UYGHURnALEPH,3BETH,3GIMEL-HETH,3WAW,3ZAYIN",
  "3hHETH,3YODH,3KAPH,3LAMEDH,3MEM,3NUN,3SAMEKH,3PE,3SADHE,3RESH,3SHIN,3TAW,3LESH,2COMBINING DOTa",
  "4d,3TWO DOTSa,5d,2PUNCTUATION BAR,3TWO BARS,4DOTS,3FOUR DOTS,@10FB0,0CHORASMIANnALEPH,2sALEPH",
  "2BETH,2GIMEL,2DALETH,2HE,2WAW,2CURLED WAW,2ZAYIN,2HETH,2YODH,2KAPH,2LAMEDH,2MEM,2NUN,2SAMEKH",
  "2AYIN,2PE,2RESH,2SHIN,2TAW,1NUMBER ONE,2TWO,2v,2FOUR,2TEN,2TWENTY,2ONE HUNDRED,@10FE0",
  "0ELYMAICnALEPH,2BETH,2GIMEL,2DALETH,2HE,2WAW,2ZAYIN,2HETH,2TETH,2YODH,2KAPH,2LAMEDH,2MEM,2NUN",
  "2SAMEKH,2AYIN,2PE,2SADHE,2QOPH,2RESH,2SHIN,2TAW,1LIGATURE ZAYIN-YODH"]

end PhraseStructure.Text.CharacterName
