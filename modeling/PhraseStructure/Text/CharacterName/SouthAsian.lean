/-!
# Names of letters from Hebrew to Burmese

The scripts of the Near East, of India and of the lands behind it.
-/

namespace PhraseStructure.Text.CharacterName

/-- The names of characters from U+0590 on, below U+10A0. -/
def southAsianNames : List String := [
  "@591,0HEBREW ACCENT ETNAHTA,2SEGOL,2SHALSHELET,2ZAQEF QATAN,3GADOL,2TIPEHA,2REVIA,2ZARQA",
  "2PASHTA,2YETIV,2TEVIR,2GERESH,3MUQDAM,2GERSHAYIM,2QARNEY PARA,2TELISHA GEDOLA,2PAZER",
  "2ATNAH HAFUKH,2MUNAH,2MAHAPAKH,2MERKHA,3KEFULA,2DARGA,2QADMA,2TELISHA QETANA,2YERAH BEN YOMO",
  "2OLE,2ILUY,2DEHI,2ZINOR,1oMASORA CIRCLE,1POINT SHEVA,2HATAF SEGOL,3PATAH,3QAMATS,2HIRIQ,2TSERE",
  "2SEGOL,2PATAH,2QAMATS,2HOLAM,3HASER FOR VAV,2QUBUTS,2DAGESH OR MAPIQ,2METEG,1PUNCTUATION MAQAF",
  "1POINT RAFE,1PUNCTUATION PASEQ,1POINT SHIN DOT,2SIN DOT,1PUNCTUATION SOF PASUQ,1oUPPER DOT",
  "2LOWER DOT,1PUNCTUATION NUN HAFUKHA,1POINT QAMATS QATAN,@5D0,0HEBREWnALEF,2BET,2GIMEL,2DALET",
  "2HE,2VAV,2ZAYIN,2HET,2TET,2YOD,2hKAF,2KAF,2LAMED,2hMEM,2MEM,2hNUN,2NUN,2SAMEKH,2AYIN,2hPE,2PE",
  "2hTSADI,2TSADI,2QOF,2RESH,2SHIN,2TAV,@5EF,0HEBREW YOD TRIANGLE,1LIGATURE YIDDISHgVAV,3VAV YOD",
  "3gYOD,1PUNCTUATION GERESH,2GERSHAYIM,@600,0ARABIC NUMBERr,1rSANAH,1FOOTNOTE MARKER,1rSAFHA",
  "2SAMVAT,1NUMBERoa,0ARABIC-INDIC CUBE ROOT,1FOURTH ROOT,0ARABIC RAY,0ARABIC-INDIC PER MILLEr",
  "2TEN THOUSANDr,0AFGHANIr,0ARABIC COMMA,1DATE SEPARATOR,1POETIC VERSEr,1rMISRA",
  "2SALLALLAHOU ALAYHE WASSALLAM,2ALAYHE ASSALLAM,2RAHMATULLAH ALAYHE,2RADI ALLAHOU ANHU",
  "2TAKHALLUS,1sHIGH TAH,3LIGATURE ALEFzLAMzYEH,3ZAIN,2FATHA,2DAMMA,2KASRA,1SEMICOLON,1no",
  "1END OF TEXTo,1TRIPLE DOT PUNCTUATIONo,1QUESTIONo,1nKASHMIRI YEH,2HAMZA,2ALEFzMADDAa,4HAMZAa",
  "2WAWzHAMZAa,2ALEFzHAMZAd,2YEHzHAMZAa,2ALEF,2BEH,2TEH MARBUTA,3,2THEH,2JEEM,2HAH,2KHAH,2DAL",
  "2THAL,2REH,2ZAIN,2SEEN,2SHEEN,2SAD,2DAD,2TAH,2ZAH,2AIN,2GHAIN,2KEHEHzTWO DOTSa,4vDOTSd",
  "2FARSI YEHzINVERTED V,5TWO DOTSa,5vDOTSa,1TATWEEL,1nFEH,2QAF,2KAF,2LAM,2MEEM,2NOON,2HEH,2WAW",
  "2ALEF MAKSURA,2YEH,1FATHATAN,1DAMMATAN,1KASRATAN,1FATHA,1DAMMA,1KASRA,1SHADDA,1SUKUN,1MADDAHa",
  "1HAMZAa,2d,1SUBSCRIPT ALEF,1INVERTED DAMMA,1oNOON GHUNNA,1ZWARAKAY,1VOWELrsVa,3INVERTEDsVa",
  "3DOTd,1REVERSED DAMMA,1FATHAzTWO DOTS,1WAVY HAMZAd,0ARABIC-INDIC DIGIT ZERO,2ONE,2TWO,2v,2FOUR",
  "2FIVE,2SIX,2SEVEN,2EIGHT,2NINE,0ARABIC PERCENTr,1DECIMAL SEPARATOR,1THOUSANDS SEPARATOR",
  "1FIVE POINTED STAR,1nDOTLESS BEH,3QAF,2SUPERSCRIPT ALEF,2ALEF WASLA,3zWAVY HAMZAa,6d",
  "2HIGH HAMZA,4ALEF,4WAW,2UzHAMZAa,2HIGH HAMZA YEH,2TTEH,2TTEHEH,2BEEH,2TEHzRING",
  "4vDOTSaDOWNWARDS,2PEH,2TEHEH,2BEHEH,2HAHzHAMZAa,4TWO DOTSxa,2NYEH,2DYEH,2HAHzvDOTSa,2TCHEH",
  "2TCHEHEH,2DDAL,2DALzRING,4DOTd,6bsTAH,2DAHAL,2DDAHAL,2DUL,2DALzvDOTSaDOWNWARDS,4FOUR DOTSa",
  "2RREH,2REHzsV,4RING,4DOTd,4sVd,4DOTdbDOTa,4TWO DOTSa,2JEH,2REHzFOUR DOTSa,2SEENzDOTdbDOTa",
  "4vDOTSd,7bvDOTSa,2SADzTWO DOTSd,4vDOTSa,2TAHzvDOTSa,2AINzvDOTSa,2DOTLESS FEH,2FEHzDOT MOVEDd",
  "5d,2VEH,2FEHzvDOTSd,2PEHEH,2QAFzDOTa,4vDOTSa,2KEHEH,2SWASH KAF,2KAFzRING,4DOTa,2NG,2KAFzvDOTSd",
  "2GAF,3zRING,2NGOEH,2GAFzTWO DOTSd,2GUEH,2GAFzvDOTSa,2LAMzsV,4DOTa,4vDOTSa,6d,2NOONzDOTd",
  "3GHUNNA,2RNOON,2NOONzRING,4vDOTSa,2HEH DOACHASHMEE,2TCHEHzDOTa,2HEHzYEHa,3GOAL,4zHAMZAa",
  "2TEH MARBUTA GOAL,2WAWzRING,2KIRGHIZ OE,2OE,2U,2YU,2KIRGHIZ YU,2WAWzTWO DOTSa,2VE,2FARSI YEH",
  "2YEHzTAIL,4sV,2WAWzDOTa,2E,2YEHzvDOTSd,3BARREE,4zHAMZAa,1FULL STOP,1nAE",
  "1sHIGH LIGATURE SADzLAMzALEF MAKSURA,4QAFzLAMzALEF MAKSURA,3MEEMji,3LAM ALEF,3JEEM,3vDOTS",
  "3SEEN,1END OF AYAH,1START OF RUB EL HIZB,1sHIGH ROUNDED ZERO,3UPRIGHT RECTANGULAR ZERO",
  "3DOTLESS HEAD OF KHAH,3MEEMki,2LOW SEEN,2HIGH MADDA,2WAW,2YEH,2HIGH YEH,3NOON,1PLACE OF SAJDAH",
  "1EMPTY CENTRE LOW STOP,3HIGH STOP,1ROUNDED HIGH STOPzFILLED CENTRE,1sLOW MEEM,1nDALzINVERTED V",
  "2REHzINVERTED V,0EXTENDED ARABIC-INDIC DIGIT ZERO,3ONE,3TWO,3v,3FOUR,3FIVE,3SIX,3SEVEN,3EIGHT",
  "3NINE,0ARABICnSHEENzDOTd,2DADzDOTd,2GHAINzDOTd,1rSINDHI AMPERSAND,3POSTPOSITION MEN",
  "1nHEHzINVERTED V,0SYRIAC END OF PARAGRAPH,1SUPRALINEAR FULL STOP,1SUBLINEAR FULL STOP",
  "1SUPRALINEAR COLON,1SUBLINEAR COLON,1HORIZONTAL COLON,1COLON SKEWEDl,3p",
  "1SUPRALINEAR COLON SKEWEDl,1SUBLINEAR COLON SKEWEDp,1CONTRACTION,1HARKLEAN OBELUS,2METOBELUS",
  "2ASTERISCUS,@70F,0SYRIAC ABBREVIATIONo,1nALAPH,2SUPERSCRIPT ALAPH,2BETH,2GAMAL,3GARSHUNI",
  "2DALATH,2DOTLESS DALATH RISH,2HE,2WAW,2ZAIN,2HETH,2TETH,3GARSHUNI,2YUDH,3HE,2KAPH,2LAMADH,2MIM",
  "2NUN,2SEMKATH,2hSEMKATH,2E,2PE,2REVERSED PE,2SADHE,2QAPH,2RISH,2SHIN,2TAW,2PERSIAN BHETH",
  "3GHAMAL,3DHALATH,1PTHAHAa,2d,2DOTTED,1ZQAPHAa,2d,2DOTTED,1RBASAa,2d,1DOTTED ZLAMA HORIZONTAL",
  "3ANGULAR,1HBASAa,2d,1HBASA-ESASA DOTTED,1ESASAa,2d,1RWAHA,1FEMININE DOT,1QUSHSHAYA,1RUKKAKHA",
  "1TWOxDOTSa,4d,1vDOTSa,3d,1OBLIQUE LINEa,3d,1MUSIC,1BARREKH,@74D,0SYRIACnSOGDIAN ZHAIN,3KHAPH",
  "3FE,0ARABICnBEHzvDOTS HORIZONTALLYd,4DOTdbvDOTSa,4vDOTS POINTING UPWARDSd,9bTWO DOTSa",
  "4TWO DOTSdbDOTa,4INVERTEDsVd,4sV,2HAHzTWO DOTSa,4vDOTS POINTING UPWARDSd",
  "2DALzTWO DOTS VERTICALLYdbsTAH,4INVERTEDsVd,2REHzt,2SEENzFOUR DOTSa,2AINzTWO DOTSa",
  "4vDOTS POINTING DOWNWARDSa,4TWO DOTS VERTICALLYa,2FEHzTWO DOTSd,4vDOTS POINTING UPWARDSd",
  "2KEHEHzDOTa,4vDOTSa,6POINTING UPWARDSd,2MEEMzDOTa,5d,2NOONzTWO DOTSd,4sTAH,5V,2LAMzBAR",
  "2REHzTWO DOTS VERTICALLYa,4HAMZAa,2SEENzTWO DOTS VERTICALLYa,2HAHzsARABICnTAHd,8bTWO DOTS",
  "2SEENzsARABICnTAHbTWO DOTS,2REHzsARABICnTAHbTWO DOTS,2HAHzsARABICnTAHa",
  "2ALEFzEXTENDED ARABIC-INDIC DIGIT TWOa,7va,2FARSI YEHzEXTENDED ARABIC-INDIC DIGIT TWOa,8va",
  "8FOURd,2WAWzEXTENDED ARABIC-INDIC DIGIT TWOa,7va,2YEH BARREEzEXTENDED ARABIC-INDIC DIGIT TWOa",
  "8va,2HAHzEXTENDED ARABIC-INDIC DIGIT FOURd,2SEENzEXTENDED ARABIC-INDIC DIGIT FOURa,4INVERTED V",
  "2KAFzTWO DOTSa,0THAANAnHAA,2SHAVIYANI,2NOONU,2RAA,2BAA,2LHAVIYANI,2KAAFU,2ALIFU,2VAAVU,2MEEMU",
  "2FAAFU,2DHAALU,2THAA,2LAAMU,2GAAFU,2GNAVIYANI,2SEENU,2DAVIYANI,2ZAVIYANI,2TAVIYANI,2YAA",
  "2PAVIYANI,2JAVIYANI,2CHAVIYANI,2TTAA,2HHAA,2KHAA,2THAALU,2ZAA,2SHEENU,2SAADHU,2DAADHU,2TO,2ZO",
  "2AINU,2GHAINU,2QAAFU,2WAAVU,1ABAFILI,1AABAAFILI,1IBIFILI,1EEBEEFILI,1UBUFILI,1OOBOOFILI",
  "1EBEFILI,1EYBEYFILI,1OBOFILI,1OABOAFILI,1SUKUN,1nNAA,@7C0,0NKO DIGIT ZERO,2ONE,2TWO,2v,2FOUR",
  "2FIVE,2SIX,2SEVEN,2EIGHT,2NINE,1nA,2EE,2I,2E,2U,2OO,2O,2DAGBASINNA,2N,2BA,2PA,2TA,2JA,2CHA,2DA",
  "2RA,2RRA,2SA,2GBA,2FA,2KA,2LA,2NA WOLOSO,2MA,2NYA,2NA,2HA,2WA,2YA,2NYA WOLOSO,2JONA JA,3CHA",
  "3RA,1COMBINING SHORT HIGH TONE,3LOW TONE,3RISING TONE,2LONG DESCENDING TONE,3HIGH TONE",
  "3LOW TONE,3RISING TONE,2NASALIZATIONo,2gDOTa,1HIGH TONE APOSTROPHE,1LOW TONE APOSTROPHE",
  "1uOO DENNEN,2GBAKURUNEN,1COMMA,1EXCLAMATIONo,1LAJANYALAN,@7FD,0NKO DANTAYALAN,1DOROMEr,1TAMANr",
  "0SAMARITANnALAF,2BIT,2GAMAN,2DALAT,2IY,2BAA,2ZEN,2IT,2TIT,2YUT,2KAAF,2LABAT,2MIM,2NUN,2SINGAAT",
  "2IN,2FI,2TSAADIY,2QUF,2RISH,2SHAN,2TAAF,1oIN,2IN-ALAF,2OCCLUSION,2DAGESH",
  "1MODIFIERnEPENTHETIC YUT,1oEPENTHETIC YUT,1VOWELrLONG E,3E,3OVERLONG AA,3LONG AA,3AA",
  "3OVERLONG A,3LONG A,3A,1MODIFIERnSHORT A,1VOWELrSHORT A,3LONG U,3U,1MODIFIERnI,1VOWELrLONG I",
  "3I,3O,3SUKUN,1oNEQUDAA,@830,0SAMARITAN PUNCTUATION NEQUDAA,2AFSAAQ,2ANGED,2BAU,2ATMAAU",
  "2SHIYYAALAA,1ABBREVIATIONo,1PUNCTUATION MELODIC QITSA,2ZIQAA,2QITSA,2ZAEF,2TURU,2ARKAANU",
  "2SOF MASHFAAT,2ANNAAU,@840,0MANDAICnHALQA,2AB,2AG,2AD,2AH,2USHENNA,2AZ,2IT,2ATT,2AKSA,2AK,2AL",
  "2AM,2AN,2AS,2IN,2AP,2ASZ,2AQ,2AR,2ASH,2AT,2DUSHENNA,2KAD,2AIN,1AFFRICATIONo,1VOCALIZATIONo",
  "1GEMINATIONo,@85E,0MANDAIC PUNCTUATION,@860,0SYRIACnMALAYALAM NGA,3JA,3NYA,3TTA,3NNA,3NNNA",
  "3BHA,3RA,3LLA,3LLLA,3SSA,@870,0ARABICnALEFzATTACHED FATHA,5TOPpFATHA,4pMIDDLEt,4lMIDDLEt",
  "4ATTACHED KASRA,5BOTTOMpKASRA,5ROUND DOTa,5pROUND DOT,5lROUND DOT,5ROUND DOTd,4DOTa",
  "4ATTACHED TOPpFATHAbDOTa,4pMIDDLEtbDOTa,4ATTACHED BOTTOMpKASRAbDOTa,5TOPpFATHAblRING",
  "4pMIDDLEtblRING,4ATTACHED BOTTOMpKASRAblRING,5pHAMZA,5lHAMZA,1TATWEELzOVERSTRUCK HAMZA,4WAW",
  "3TWO DOTSd,1nTHIN YEH,1BASELINE ROUND DOT,1RAISED ROUND DOT,1nNOONzINVERTEDsV,2HAHzINVERTEDsVd",
  "2TAHzDOTd,4vDOTSd,2KEHEHzTWO DOTS VERTICALLYd,1xTAIL,@890,0ARABIC POUNDoa,1PIASTREoa,@898",
  "0ARABICsHIGH WORD AL-JUZ,2LOW WORD ISHMAAM,4IMAALA,4TASHEEL,1MADDA WAAJIB",
  "1SUPERSCRIPT ALEF MOKHASSAS,1DOUBLED MADDA,1HALF MADDA OVER MADDA,1nBEHzsVd,4HAMZAa",
  "2JEEMzTWO DOTSa,2TAHzTWO DOTSa,2FEHzDOTdbvDOTSa,2QAFzDOTd,2LAMzgBAR,2MEEMzvDOTSa",
  "2YEHzTWO DOTSdbHAMZAa,8DOTa,2REHzLOOP,2WAWzDOT WITHIN,2ROHINGYA YEH,2LOW ALEF,2DALzvDOTSd",
  "2SADzvDOTSd,2GAFzINVERTEDt,2STRAIGHT WAW,2ZAINzINVERTED Va,2AINzvDOTSd,2KAFzDOTd",
  "2QAFzDOTdbNO DOTSa,2BEHzsMEEMa,2PEHzsMEEMa,2TEHzsTEHa,2REHzsNOONa,2YEHzTWO DOTSdbsNOONa",
  "2AFRICAN FEH,3QAF,3NOON,2PEHzsV,2TEHzsV,2TTEHzsV,2TCHEHzsV,2KEHEHzsV,2GHAINzvDOTSa",
  "2AFRICAN QAFzvDOTSa,2JEEMzvDOTSa,6d,2LAMzsARABICnTAHa,2GRAF,1sFARSI YEH,2HIGH FARSI YEH",
  "3YEH BARREEzTWO DOTSd,3WORD SAH,3ZAH,1LARGE ROUND DOTa,4d,1SUKUNd,1LARGE CIRCLEd",
  "2ROUND DOT INSIDE CIRCLEd,1sLOW WAW,2HIGH WORD AR-RUB,3SAD,3AIN,3QAF,3NOONzKASRA",
  "2LOW NOONzKASRA,2HIGH WORD ATH-THALATHA,4AS-SAJDA,4AN-NISF,4SAKTA,4QIF,4WAQFA,3FOOTNOTE MARKER",
  "3rSAFHA,1DISPUTED END OF AYAH,1TURNED DAMMAd,1CURLY FATHA,2DAMMA,2KASRA,2FATHATAN,2DAMMATAN",
  "2KASRATAN,1TONE ONE DOTa,2TWO DOTSa,2LOOPa,2ONE DOTd,2TWO DOTSd,2LOOPd,1OPEN FATHATAN",
  "2DAMMATAN,2KASRATAN,1sHIGH WAW,1FATHAzRING,3DOTa,1KASRAzDOTd,1lARROWHEADa,1pARROWHEADa",
  "1lARROWHEADd,1pARROWHEADd,1gpARROWHEADa,5zDOT,1pARROWHEADazDOT,1DAMMAzDOT",
  "1oSIDEWAYS NOON GHUNNA,0DEVANAGARIrINVERTED CANDRABINDU,2CANDRABINDU,2ANUSVARA,2VISARGA",
  "1nSHORT A,2A,2AA,2I,2II,2U,2UU,2VOCALIC R,3L,2CANDRA E,2SHORT E,2E,2AI,2CANDRA O,2SHORT O,2O",
  "2AU,2KA,2KHA,2GA,2GHA,2NGA,2CA,2CHA,2JA,2JHA,2NYA,2TTA,2TTHA,2DDA,2DDHA,2NNA,2TA,2THA,2DA,2DHA",
  "2NA,2NNNA,2PA,2PHA,2BA,2BHA,2MA,2YA,2RA,2RRA,2LA,2LLA,2LLLA,2VA,2SHA,2SSA,2SA,2HA,1VOWELrOE",
  "3OOE,1rNUKTA,2AVAGRAHA,1VOWELrAA,3I,3II,3U,3UU,3VOCALIC R,4RR,3CANDRA E,3SHORT E,3E,3AI",
  "3CANDRA O,3SHORT O,3O,3AU,1rVIRAMA,1VOWELrPRISHTHAMATRA E,3AW,1OM,1STRESSrUDATTA,3ANUDATTA",
  "1GRAVE ACCENT,1ACUTE ACCENT,1VOWELrCANDRA LONG E,3UE,3UUE,1nQA,2KHHA,2GHHA,2ZA,2DDDHA,2RHA,2FA",
  "2YYA,2VOCALIC RR,3LL,1VOWELrVOCALIC L,4LL,1DANDA,1gDANDA,1DIGIT ZERO,2ONE,2TWO,2v,2FOUR,2FIVE",
  "2SIX,2SEVEN,2EIGHT,2NINE,1ABBREVIATIONr,1rHIGH SPACING DOT,1nCANDRA A,2OE,2OOE,2AW,2UE,2UUE",
  "2MARWARI DDA,2ZHA,2HEAVY YA,2GGA,2JJA,2GLOTTAL STOP,2DDDA,2BBA,0BENGALI ANJI,1rCANDRABINDU",
  "2ANUSVARA,2VISARGA,@985,0BENGALInA,2AA,2I,2II,2U,2UU,2VOCALIC R,3L,@98F,0BENGALInE,2AI,@993",
  "0BENGALInO,2AU,2KA,2KHA,2GA,2GHA,2NGA,2CA,2CHA,2JA,2JHA,2NYA,2TTA,2TTHA,2DDA,2DDHA,2NNA,2TA",
  "2THA,2DA,2DHA,2NA,@9AA,0BENGALInPA,2PHA,2BA,2BHA,2MA,2YA,2RA,@9B2,0BENGALInLA,@9B6",
  "0BENGALInSHA,2SSA,2SA,2HA,@9BC,0BENGALIrNUKTA,2AVAGRAHA,1VOWELrAA,3I,3II,3U,3UU,3VOCALIC R,4RR",
  "@9C7,0BENGALI VOWELrE,3AI,@9CB,0BENGALI VOWELrO,3AU,1rVIRAMA,1nKHANDA TA,@9D7",
  "0BENGALI AU LENGTHo,@9DC,0BENGALInRRA,2RHA,@9DF,0BENGALInYYA,2VOCALIC RR,3LL,1VOWELrVOCALIC L",
  "4LL,@9E6,0BENGALI DIGIT ZERO,2ONE,2TWO,2v,2FOUR,2FIVE,2SIX,2SEVEN,2EIGHT,2NINE",
  "1nRAzMIDDLE DIAGONAL,4LOWER DIAGONAL,1RUPEEo,2r,1CURRENCY NUMERATOR ONE,3TWO,3v,3FOUR",
  "3ONE LESS THAN THE DENOMINATOR,2DENOMINATOR SIXTEEN,1ISSHAR,1GANDAo,1nVEDIC ANUSVARA",
  "1ABBREVIATIONr,1SANDHIo,@A01,0GURMUKHIrADAK BINDI,2BINDI,2VISARGA,@A05,0GURMUKHInA,2AA,2I,2II",
  "2U,2UU,@A0F,0GURMUKHInEE,2AI,@A13,0GURMUKHInOO,2AU,2KA,2KHA,2GA,2GHA,2NGA,2CA,2CHA,2JA,2JHA",
  "2NYA,2TTA,2TTHA,2DDA,2DDHA,2NNA,2TA,2THA,2DA,2DHA,2NA,@A2A,0GURMUKHInPA,2PHA,2BA,2BHA,2MA,2YA",
  "2RA,@A32,0GURMUKHInLA,2LLA,@A35,0GURMUKHInVA,2SHA,@A38,0GURMUKHInSA,2HA,@A3C,0GURMUKHIrNUKTA",
  "@A3E,0GURMUKHI VOWELrAA,3I,3II,3U,3UU,@A47,0GURMUKHI VOWELrEE,3AI,@A4B,0GURMUKHI VOWELrOO,3AU",
  "1rVIRAMA,@A51,0GURMUKHIrUDAAT,@A59,0GURMUKHInKHHA,2GHHA,2ZA,2RRA,@A5E,0GURMUKHInFA,@A66",
  "0GURMUKHI DIGIT ZERO,2ONE,2TWO,2v,2FOUR,2FIVE,2SIX,2SEVEN,2EIGHT,2NINE,1TIPPI,1ADDAK,1IRI,1URA",
  "1EK ONKAR,1rYAKASH,1ABBREVIATIONr,@A81,0GUJARATIrCANDRABINDU,2ANUSVARA,2VISARGA,@A85",
  "0GUJARATInA,2AA,2I,2II,2U,2UU,2VOCALIC R,3L,1VOWEL CANDRA E,@A8F,0GUJARATInE,2AI",
  "1VOWEL CANDRA O,@A93,0GUJARATInO,2AU,2KA,2KHA,2GA,2GHA,2NGA,2CA,2CHA,2JA,2JHA,2NYA,2TTA,2TTHA",
  "2DDA,2DDHA,2NNA,2TA,2THA,2DA,2DHA,2NA,@AAA,0GUJARATInPA,2PHA,2BA,2BHA,2MA,2YA,2RA,@AB2",
  "0GUJARATInLA,2LLA,@AB5,0GUJARATInVA,2SHA,2SSA,2SA,2HA,@ABC,0GUJARATIrNUKTA,2AVAGRAHA,1VOWELrAA",
  "3I,3II,3U,3UU,3VOCALIC R,4RR,3CANDRA E,@AC7,0GUJARATI VOWELrE,3AI,3CANDRA O,@ACB",
  "0GUJARATI VOWELrO,3AU,1rVIRAMA,@AD0,0GUJARATI OM,@AE0,0GUJARATInVOCALIC RR,3LL",
  "1VOWELrVOCALIC L,4LL,@AE6,0GUJARATI DIGIT ZERO,2ONE,2TWO,2v,2FOUR,2FIVE,2SIX,2SEVEN,2EIGHT",
  "2NINE,1ABBREVIATIONr,1RUPEEr,@AF9,0GUJARATInZHA,1rSUKUN,2SHADDA,2MADDAH,2THREE-DOT NUKTAa",
  "2CIRCLE NUKTAa,2TWO-CIRCLE NUKTAa,@B01,0ORIYArCANDRABINDU,2ANUSVARA,2VISARGA,@B05,0ORIYAnA,2AA",
  "2I,2II,2U,2UU,2VOCALIC R,3L,@B0F,0ORIYAnE,2AI,@B13,0ORIYAnO,2AU,2KA,2KHA,2GA,2GHA,2NGA,2CA",
  "2CHA,2JA,2JHA,2NYA,2TTA,2TTHA,2DDA,2DDHA,2NNA,2TA,2THA,2DA,2DHA,2NA,@B2A,0ORIYAnPA,2PHA,2BA",
  "2BHA,2MA,2YA,2RA,@B32,0ORIYAnLA,2LLA,@B35,0ORIYAnVA,2SHA,2SSA,2SA,2HA,@B3C,0ORIYArNUKTA",
  "2AVAGRAHA,1VOWELrAA,3I,3II,3U,3UU,3VOCALIC R,4RR,@B47,0ORIYA VOWELrE,3AI,@B4B,0ORIYA VOWELrO",
  "3AU,1rVIRAMA,@B55,0ORIYArOVERLINE,1AI LENGTHo,1AU LENGTHo,@B5C,0ORIYAnRRA,2RHA,@B5F,0ORIYAnYYA",
  "2VOCALIC RR,3LL,1VOWELrVOCALIC L,4LL,@B66,0ORIYA DIGIT ZERO,2ONE,2TWO,2v,2FOUR,2FIVE,2SIX",
  "2SEVEN,2EIGHT,2NINE,1ISSHAR,1nWA,1FRACTION ONE QUARTER,3HALF,2vQUARTERS,2ONE SIXTEENTH,3EIGHTH",
  "2vSIXTEENTHS,@B82,0TAMILrANUSVARA,2VISARGA,@B85,0TAMILnA,2AA,2I,2II,2U,2UU,@B8E,0TAMILnE,2EE",
  "2AI,@B92,0TAMILnO,2OO,2AU,2KA,@B99,0TAMILnNGA,2CA,@B9C,0TAMILnJA,@B9E,0TAMILnNYA,2TTA,@BA3",
  "0TAMILnNNA,2TA,@BA8,0TAMILnNA,2NNNA,2PA,@BAE,0TAMILnMA,2YA,2RA,2RRA,2LA,2LLA,2LLLA,2VA,2SHA",
  "2SSA,2SA,2HA,@BBE,0TAMIL VOWELrAA,3I,3II,3U,3UU,@BC6,0TAMIL VOWELrE,3EE,3AI,@BCA",
  "0TAMIL VOWELrO,3OO,3AU,1rVIRAMA,@BD0,0TAMIL OM,@BD7,0TAMIL AU LENGTHo,@BE6,0TAMIL DIGIT ZERO",
  "2ONE,2TWO,2v,2FOUR,2FIVE,2SIX,2SEVEN,2EIGHT,2NINE,1NUMBER TEN,2ONE HUNDRED,3THOUSAND,1DAYr",
  "1MONTHr,1YEARr,1DEBITr,1CREDITr,1ASar,1RUPEEr,1NUMBERr,@C00,0TELUGUrCOMBINING CANDRABINDUa",
  "2CANDRABINDU,2ANUSVARA,2VISARGA,2COMBINING ANUSVARAa,1nA,2AA,2I,2II,2U,2UU,2VOCALIC R,3L,@C0E",
  "0TELUGUnE,2EE,2AI,@C12,0TELUGUnO,2OO,2AU,2KA,2KHA,2GA,2GHA,2NGA,2CA,2CHA,2JA,2JHA,2NYA,2TTA",
  "2TTHA,2DDA,2DDHA,2NNA,2TA,2THA,2DA,2DHA,2NA,@C2A,0TELUGUnPA,2PHA,2BA,2BHA,2MA,2YA,2RA,2RRA,2LA",
  "2LLA,2LLLA,2VA,2SHA,2SSA,2SA,2HA,@C3C,0TELUGUrNUKTA,2AVAGRAHA,1VOWELrAA,3I,3II,3U,3UU",
  "3VOCALIC R,4RR,@C46,0TELUGU VOWELrE,3EE,3AI,@C4A,0TELUGU VOWELrO,3OO,3AU,1rVIRAMA,@C55",
  "0TELUGU LENGTHo,1AI LENGTHo,@C58,0TELUGUnTSA,2DZA,2RRRA,@C5D,0TELUGUnNAKAARA POLLU,@C60",
  "0TELUGUnVOCALIC RR,3LL,1VOWELrVOCALIC L,4LL,@C66,0TELUGU DIGIT ZERO,2ONE,2TWO,2v,2FOUR,2FIVE",
  "2SIX,2SEVEN,2EIGHT,2NINE,@C77,0TELUGUrSIDDHAM,1FRACTION DIGIT ZERO FOR ODD POWERS OF FOUR",
  "3ONE FOR ODD POWERS OF FOUR,3TWO FOR ODD POWERS OF FOUR,3vFOR ODD POWERS OF FOUR",
  "3ONE FOR EVEN POWERS OF FOUR,3TWO FOR EVEN POWERS OF FOUR,3vFOR EVEN POWERS OF FOUR,1rTUUMU",
  "0KANNADArSPACING CANDRABINDU,2CANDRABINDU,2ANUSVARA,2VISARGA,2SIDDHAM,1nA,2AA,2I,2II,2U,2UU",
  "2VOCALIC R,3L,@C8E,0KANNADAnE,2EE,2AI,@C92,0KANNADAnO,2OO,2AU,2KA,2KHA,2GA,2GHA,2NGA,2CA,2CHA",
  "2JA,2JHA,2NYA,2TTA,2TTHA,2DDA,2DDHA,2NNA,2TA,2THA,2DA,2DHA,2NA,@CAA,0KANNADAnPA,2PHA,2BA,2BHA",
  "2MA,2YA,2RA,2RRA,2LA,2LLA,@CB5,0KANNADAnVA,2SHA,2SSA,2SA,2HA,@CBC,0KANNADArNUKTA,2AVAGRAHA",
  "1VOWELrAA,3I,3II,3U,3UU,3VOCALIC R,4RR,@CC6,0KANNADA VOWELrE,3EE,3AI,@CCA,0KANNADA VOWELrO,3OO",
  "3AU,1rVIRAMA,@CD5,0KANNADA LENGTHo,1AI LENGTHo,@CDD,0KANNADAnNAKAARA POLLU,2FA,@CE0",
  "0KANNADAnVOCALIC RR,3LL,1VOWELrVOCALIC L,4LL,@CE6,0KANNADA DIGIT ZERO,2ONE,2TWO,2v,2FOUR,2FIVE",
  "2SIX,2SEVEN,2EIGHT,2NINE,@CF1,0KANNADArJIHVAMULIYA,2UPADHMANIYA,@D00",
  "0MALAYALAMrCOMBINING ANUSVARAa,2CANDRABINDU,2ANUSVARA,2VISARGA,1nVEDIC ANUSVARA,2A,2AA,2I,2II",
  "2U,2UU,2VOCALIC R,3L,@D0E,0MALAYALAMnE,2EE,2AI,@D12,0MALAYALAMnO,2OO,2AU,2KA,2KHA,2GA,2GHA",
  "2NGA,2CA,2CHA,2JA,2JHA,2NYA,2TTA,2TTHA,2DDA,2DDHA,2NNA,2TA,2THA,2DA,2DHA,2NA,2NNNA,2PA,2PHA",
  "2BA,2BHA,2MA,2YA,2RA,2RRA,2LA,2LLA,2LLLA,2VA,2SHA,2SSA,2SA,2HA,2TTTA,1rxBAR VIRAMA",
  "2CIRCULAR VIRAMA,2AVAGRAHA,1VOWELrAA,3I,3II,3U,3UU,3VOCALIC R,4RR,@D46,0MALAYALAM VOWELrE,3EE",
  "3AI,@D4A,0MALAYALAM VOWELrO,3OO,3AU,1rVIRAMA,1nDOT REPH,1rPARA,@D54,0MALAYALAMnCHILLU M,3Y",
  "3LLL,1AU LENGTHo,1FRACTION ONE ONE-HUNDRED-AND-SIXTIETH,3FORTIETH,2vEIGHTIETHS,2ONE TWENTIETH",
  "3TENTH,2vTWENTIETHS,2ONE FIFTH,1nARCHAIC II,2VOCALIC RR,3LL,1VOWELrVOCALIC L,4LL,@D66",
  "0MALAYALAM DIGIT ZERO,2ONE,2TWO,2v,2FOUR,2FIVE,2SIX,2SEVEN,2EIGHT,2NINE,1NUMBER TEN",
  "2ONE HUNDRED,3THOUSAND,1FRACTION ONE QUARTER,3HALF,2vQUARTERS,2ONE SIXTEENTH,3EIGHTH",
  "2vSIXTEENTHS,1DATEo,1nCHILLU NN,3N,3RR,3L,3LL,3K,@D81,0SINHALArCANDRABINDU,2ANUSVARAYA",
  "2VISARGAYA,@D85,0SINHALAnAYANNA,2AAYANNA,2AEYANNA,2AEEYANNA,2IYANNA,2IIYANNA,2UYANNA,2UUYANNA",
  "2IRUYANNA,2IRUUYANNA,2ILUYANNA,2ILUUYANNA,2EYANNA,2EEYANNA,2AIYANNA,2OYANNA,2OOYANNA,2AUYANNA",
  "@D9A,0SINHALAnALPAPRAANA KAYANNA,2MAHAAPRAANA KAYANNA,2ALPAPRAANA GAYANNA,2MAHAAPRAANA GAYANNA",
  "2KANTAJA NAASIKYAYA,2SANYAKA GAYANNA,2ALPAPRAANA CAYANNA,2MAHAAPRAANA CAYANNA",
  "2ALPAPRAANA JAYANNA,2MAHAAPRAANA JAYANNA,2TAALUJA NAASIKYAYA,3SANYOOGA NAAKSIKYAYA",
  "2SANYAKA JAYANNA,2ALPAPRAANA TTAYANNA,2MAHAAPRAANA TTAYANNA,2ALPAPRAANA DDAYANNA",
  "2MAHAAPRAANA DDAYANNA,2MUURDHAJA NAYANNA,2SANYAKA DDAYANNA,2ALPAPRAANA TAYANNA",
  "2MAHAAPRAANA TAYANNA,2ALPAPRAANA DAYANNA,2MAHAAPRAANA DAYANNA,2DANTAJA NAYANNA,@DB3",
  "0SINHALAnSANYAKA DAYANNA,2ALPAPRAANA PAYANNA,2MAHAAPRAANA PAYANNA,2ALPAPRAANA BAYANNA",
  "2MAHAAPRAANA BAYANNA,2MAYANNA,2AMBA BAYANNA,2YAYANNA,2RAYANNA,@DBD,0SINHALAnDANTAJA LAYANNA",
  "@DC0,0SINHALAnVAYANNA,2TAALUJA SAYANNA,2MUURDHAJA SAYANNA,2DANTAJA SAYANNA,2HAYANNA",
  "2MUURDHAJA LAYANNA,2FAYANNA,@DCA,0SINHALArAL-LAKUNA,@DCF,0SINHALA VOWELrAELA-PILLA",
  "3KETTI AEDA-PILLA,3DIGA AEDA-PILLA,3KETTI IS-PILLA,3DIGA IS-PILLA,3KETTI PAA-PILLA,@DD6",
  "0SINHALA VOWELrDIGA PAA-PILLA,@DD8,0SINHALA VOWELrGAETTA-PILLA,3KOMBUVA,3DIGA KOMBUVA",
  "3KOMBU DEKA,3KOMBUVA HAA AELA-PILLA,5DIGA AELA-PILLA,5GAYANUKITTA,3GAYANUKITTA,@DE6",
  "0SINHALA LITH DIGIT ZERO,3ONE,3TWO,3v,3FOUR,3FIVE,3SIX,3SEVEN,3EIGHT,3NINE,@DF2",
  "0SINHALA VOWELrDIGA GAETTA-PILLA,4GAYANUKITTA,1PUNCTUATION KUNDDALIYA,@E01",
  "0THAI CHARACTER KO KAI,2KHO KHAI,3KHUAT,3KHWAI,3KHON,3RAKHANG,2NGO NGU,2CHO CHAN,3CHING,3CHANG",
  "2SO SO,2CHO CHOE,2YO YING,2DO CHADA,2TO PATAK,2THO THAN,3NANGMONTHO,3PHUTHAO,2NO NEN,2DO DEK",
  "2TO TAO,2THO THUNG,3THAHAN,3THONG,2NO NU,2BO BAIMAI,2PO PLA,2PHO PHUNG,2FO FA,2PHO PHAN",
  "2FO FAN,2PHO SAMPHAO,2MO MA,2YO YAK,2RO RUA,2RU,2LO LING,2LU,2WO WAEN,2SO SALA,3RUSI,3SUA",
  "2HO HIP,2LO CHULA,2O ANG,2HO NOKHUK,2PAIYANNOI,2SARA A,2MAI HAN-AKAT,2SARA AA,3AM,3I,3II,3UE",
  "3UEE,3U,3UU,2PHINTHU,@E3F,0THAI CURRENCYuBAHT,1CHARACTER SARA E,3AE,3O,3AI MAIMUAN,4MAIMALAI",
  "2LAKKHANGYAO,2MAIYAMOK,2MAITAIKHU,2MAI EK,3THO,3TRI,3CHATTAWA,2THANTHAKHAT,2NIKHAHIT,2YAMAKKAN",
  "2FONGMAN,1DIGIT ZERO,2ONE,2TWO,2v,2FOUR,2FIVE,2SIX,2SEVEN,2EIGHT,2NINE,1CHARACTER ANGKHANKHU",
  "2KHOMUT,@E81,0LAOnKO,2KHO SUNG,@E84,0LAOnKHO TAM,@E86,0LAOnPALI GHA,2NGO,2CO,2PALI CHA,2SO TAM",
  "@E8C,0LAOnPALI JHA,2NYO,2PALI NYA,3TTA,3TTHA,3DDA,3DDHA,3NNA,2DO,2TO,2THO SUNG,3TAM,2PALI DHA",
  "2NO,2BO,2PO,2PHO SUNG,2FO TAM,2PHO TAM,2FO SUNG,2PALI BHA,2MO,2YO,2LO LING,@EA5,0LAOnLO LOOT",
  "@EA7,0LAOnWO,2SANSKRIT SHA,3SSA,2SO SUNG,2HO SUNG,2PALI LLA,2O,2HO TAM,1ELLIPSIS,1VOWELrA",
  "3MAI KAN,3AA,3AM,3I,3II,3Y,3YY,3U,3UU,1rPALI VIRAMA,1VOWELrMAI KON,1SEMIVOWELrLO,3NYO,@EC0",
  "0LAO VOWELrE,3EI,3O,3AY,3AI,@EC6,0LAO KO LA,@EC8,0LAO TONE MAI EK,3THO,3TI,3CATAWA",
  "1CANCELLATIONo,1NIGGAHITA,@ED0,0LAO DIGIT ZERO,2ONE,2TWO,2v,2FOUR,2FIVE,2SIX,2SEVEN,2EIGHT",
  "2NINE,@EDC,0LAO HO NO,2MO,1nKHMU GO,3NYO,@F00,0TIBETAN SYLLABLE OM,1oGTER YIG MGO TRUNCATED A",
  "5-UM RNAM BCAD MA,6GTER TSHEG MA,2jYIG MGO MDUN MA,2CLOSING YIG MGO SGAB MA",
  "2CARET YIG MGO PHUR SHAD MA,2YIG MGO TSHEG SHAD MA,2SBRUL SHAD,2BSKUR YIG MGO",
  "2BKA- SHOG YIG MGO,2INTERSYLLABIC TSHEG,2DELIMITER TSHEG BSTAR,2SHAD,2NYIS SHAD,2TSHEG SHAD",
  "2NYIS TSHEG SHAD,2RIN CHEN SPUNGS SHAD,2RGYA GRAM SHAD,2CARET -DZUD RTAGS ME LONG CAN",
  "2GTER TSHEG,1LOGOTYPErCHAD RTAGS,3LHAG RTAGS,1ASTROLOGICALrSGRA GCAN -CHAR RTAGS,3-KHYUD PA",
  "3SDONG TSHUGS,1rRDEL DKAR GCIG,4GNYIS,4GSUM,3NAG GCIG,4GNYIS,3DKAR RDEL NAG,1DIGIT ZERO,2ONE",
  "2TWO,2v,2FOUR,2FIVE,2SIX,2SEVEN,2EIGHT,2NINE,2HALF ONE,3TWO,3v,3FOUR,3FIVE,3SIX,3SEVEN,3EIGHT",
  "3NINE,3ZERO,1oBSDUS RTAGS,2NGAS BZUNG NYI ZLA,2CARET -DZUD RTAGS BZHI MIG CAN",
  "2NGAS BZUNG SGOR RTAGS,2CHE MGO,2TSA -PHRU,2GUG RTAGS GYON,4GYAS,2ANG KHANG GYON,4GYAS",
  "1rYAR TSHES,2MAR TSHES,1nKA,2KHA,2GA,2GHA,2NGA,2CA,2CHA,2JA,@F49,0TIBETANnNYA,2TTA,2TTHA,2DDA",
  "2DDHA,2NNA,2TA,2THA,2DA,2DHA,2NA,2PA,2PHA,2BA,2BHA,2MA,2TSA,2TSHA,2DZA,2DZHA,2WA,2ZHA,2ZA,2-A",
  "2YA,2RA,2LA,2SHA,2SSA,2SA,2HA,2A,2KSSA,2FIXED-FORM RA,2KKA,2RRA,@F71,0TIBETAN VOWELrAA,3I,3II",
  "3U,3UU,3VOCALIC R,4RR,4L,4LL,3E,3EE,3O,3OO,1rRJES SU NGA RO,2RNAM BCAD,1VOWELrREVERSED I,4II",
  "1rNYI ZLA NAA DA,2SNA LDAN,1oHALANTA,2PALUTA,1rLCI RTAGS,2YANG RTAGS,2LCE TSA CAN,2MCHU CAN",
  "2GRU CAN RGYINGS,3MED RGYINGS,2INVERTED MCHU CAN,1SUBJOINEDrLCE TSA CAN,3MCHU CAN",
  "3INVERTED MCHU CAN,2nKA,3KHA,3GA,3GHA,3NGA,3CA,3CHA,3JA,@F99,0TIBETAN SUBJOINEDnNYA,3TTA,3TTHA",
  "3DDA,3DDHA,3NNA,3TA,3THA,3DA,3DHA,3NA,3PA,3PHA,3BA,3BHA,3MA,3TSA,3TSHA,3DZA,3DZHA,3WA,3ZHA,3ZA",
  "3-A,3YA,3RA,3LA,3SHA,3SSA,3SA,3HA,3A,3KSSA,3FIXED-FORM WA,4YA,4RA,@FBE,0TIBETAN KU RU KHA",
  "4BZHI MIG CAN,1CANTILLATIONrHEAVY BEAT,3LIGHT BEAT,3CANG TE-U,3SBUB -CHAL,1uDRIL BU,2RDO RJE",
  "2PADMA GDAN,2RDO RJE RGYA GRAM,2PHUR PA,2NOR BU,4NYIS -KHYIL,4GSUM -KHYIL,4BZHI -KHYIL,@FCE",
  "0TIBETANrRDEL NAG RDEL DKAR,4GSUM,1oBSKA- SHOG GI MGO RGYAN,2MNYAM YIG GI MGO RGYAN",
  "2NYIS TSHEG,2jBRDA RNYING YIG MGO MDUN MA,2CLOSING BRDA RNYING YIG MGO SGAB MA",
  "0RIGHT-FACING SVASTIr,0LEFT-FACING SVASTIr,0RIGHT-FACING SVASTIrzDOTS",
  "0LEFT-FACING SVASTIrzDOTS,0TIBETANoLEADING MCHAN RTAGS,2TRAILING MCHAN RTAGS,@1000,0MYANMARnKA",
  "2KHA,2GA,2GHA,2NGA,2CA,2CHA,2JA,2JHA,2NYA,2NNYA,2TTA,2TTHA,2DDA,2DDHA,2NNA,2TA,2THA,2DA,2DHA",
  "2NA,2PA,2PHA,2BA,2BHA,2MA,2YA,2RA,2LA,2WA,2SA,2HA,2LLA,2A,2SHAN A,2I,2II,2U,2UU,2E,2MON E,2O",
  "2AU,1VOWELrTALL AA,3AA,3I,3II,3U,3UU,3E,3AI,3MON II,4O,3Ea,1rANUSVARA,2DOTd,2VISARGA,2VIRAMA",
  "2ASAT,1CONSONANTrMEDIAL YA,4RA,4WA,4HA,1nGREAT SA,1DIGIT ZERO,2ONE,2TWO,2v,2FOUR,2FIVE,2SIX",
  "2SEVEN,2EIGHT,2NINE,1rLITTLE SECTION,2SECTION,1uLOCATIVE,2COMPLETED,2AFOREMENTIONED,2GENITIVE",
  "1nSHA,2SSA,2VOCALIC R,3RR,3L,3LL,1VOWELrVOCALIC R,4RR,4L,4LL,1nMON NGA,3JHA,3BBA,3BBE",
  "1CONSONANTrMON MEDIAL NA,5MA,5LA,1nSGAW KAREN SHA,1VOWELrSGAW KAREN EU,1TONEoSGAW KAREN HATHI",
  "5KE PHO,1nWESTERN PWO KAREN THA,5PWA,1VOWELrWESTERN PWO KAREN EU,6UE",
  "1rWESTERN PWO KAREN TONE-1,5TONE-2,5TONE-3,5TONE-4,5TONE-5,1nEASTERN PWO KAREN NNA,5YWA,5GHWA",
  "1VOWELrGEBA KAREN I,3KAYAH OE,4U,4EE,1nSHAN KA,3KHA,3GA,3CA,3ZA,3NYA,3DA,3NA,3PHA,3FA,3BA,3THA",
  "3HA,1CONSONANTrSHAN MEDIAL WA,1VOWELrSHAN AA,4E,5a,4hY,1rSHAN TONE-2,3TONE-3,3TONE-5,3TONE-6",
  "3COUNCIL TONE-2,4TONE-3,4EMPHATIC TONE,1nRUMAI PALAUNG FA,1rRUMAI PALAUNG TONE-5",
  "1SHAN DIGIT ZERO,3ONE,3TWO,3v,3FOUR,3FIVE,3SIX,3SEVEN,3EIGHT,3NINE,1rKHAMTI TONE-1,3TONE-3",
  "1VOWELrAITON A,4AI,1uSHAN ONE,3EXCLAMATION"]

end PhraseStructure.Text.CharacterName
