/-!
# Names of presentation forms

Arabic letters as they are joined, and signs of other widths.
-/

namespace PhraseStructure.Text.CharacterName

/-- The names of characters from U+FB50 on, below U+10000. -/
def presentationFormNames : List String := [
  "@FB50,0ARABICnALEF WASLAki,4hi,2BEEHki,3hi,3ji,3MEDIALi,2PEHki,3hi,3ji,3MEDIALi,2BEHEHki,3hi",
  "3ji,3MEDIALi,2TTEHEHki,3hi,3ji,3MEDIALi,2TEHEHki,3hi,3ji,3MEDIALi,2TTEHki,3hi,3ji,3MEDIALi",
  "2VEHki,3hi,3ji,3MEDIALi,2PEHEHki,3hi,3ji,3MEDIALi,2DYEHki,3hi,3ji,3MEDIALi,2NYEHki,3hi,3ji",
  "3MEDIALi,2TCHEHki,3hi,3ji,3MEDIALi,2TCHEHEHki,3hi,3ji,3MEDIALi,2DDAHALki,3hi,2DAHALki,3hi",
  "2DULki,3hi,2DDALki,3hi,2JEHki,3hi,2RREHki,3hi,2KEHEHki,3hi,3ji,3MEDIALi,2GAFki,3hi,3ji",
  "3MEDIALi,2GUEHki,3hi,3ji,3MEDIALi,2NGOEHki,3hi,3ji,3MEDIALi,2NOON GHUNNAki,4hi,2RNOONki,3hi",
  "3ji,3MEDIALi,2HEHzYEHaki,6hi,3GOALki,4hi,4ji,4MEDIALi,3DOACHASHMEEki,4hi,4ji,4MEDIALi",
  "2YEH BARREEki,4hi,4zHAMZAaki,7hi,1uDOTa,3d,2TWO DOTSa,4d,2vDOTSa,4d,4POINTING DOWNWARDSa,6d",
  "2FOUR DOTSa,4d,2gxBARd,2TWO DOTS VERTICALLYa,5d,2RING,2sTAHa,4d,2WASLAa,@FBD3,0ARABICnNGki,3hi",
  "3ji,3MEDIALi,2Uki,3hi,2OEki,3hi,2YUki,3hi,2UzHAMZAaki,2VEki,3hi,2KIRGHIZ OEki,4hi,3YUki,4hi",
  "2Eki,3hi,3ji,3MEDIALi,2UIGHUR KAZAKH KIRGHIZ ALEF MAKSURAji,7MEDIALi",
  "1LIGATURE YEHzHAMZAazALEFki,8hi,7AEki,8hi,7WAWki,8hi,7Uki,8hi,7OEki,8hi,7YUki,8hi,7Eki,8hi,8ji",
  "2UIGHUR KIRGHIZ YEHzHAMZAazALEF MAKSURAki,9ALEF MAKSURAhi,9ALEF MAKSURAji,1nFARSI YEHki,4hi",
  "4ji,4MEDIALi,1LIGATURE YEHzHAMZAazJEEMki,7HAHki,7MEEMki,7ALEF MAKSURAki,7YEHki,2BEHzJEEMki",
  "4HAHki,4KHAHki,4MEEMki,4ALEF MAKSURAki,4YEHki,2TEHzJEEMki,4HAHki,4KHAHki,4MEEMki",
  "4ALEF MAKSURAki,4YEHki,2THEHzJEEMki,4MEEMki,4ALEF MAKSURAki,4YEHki,2JEEMzHAHki,4MEEMki",
  "2HAHzJEEMki,4MEEMki,2KHAHzJEEMki,4HAHki,4MEEMki,2SEENzJEEMki,4HAHki,4KHAHki,4MEEMki,2SADzHAHki",
  "4MEEMki,2DADzJEEMki,4HAHki,4KHAHki,4MEEMki,2TAHzHAHki,4MEEMki,2ZAHzMEEMki,2AINzJEEMki,4MEEMki",
  "2GHAINzJEEMki,4MEEMki,2FEHzJEEMki,4HAHki,4KHAHki,4MEEMki,4ALEF MAKSURAki,4YEHki,2QAFzHAHki",
  "4MEEMki,4ALEF MAKSURAki,4YEHki,2KAFzALEFki,4JEEMki,4HAHki,4KHAHki,4LAMki,4MEEMki",
  "4ALEF MAKSURAki,4YEHki,2LAMzJEEMki,4HAHki,4KHAHki,4MEEMki,4ALEF MAKSURAki,4YEHki,2MEEMzJEEMki",
  "4HAHki,4KHAHki,4MEEMki,4ALEF MAKSURAki,4YEHki,2NOONzJEEMki,4HAHki,4KHAHki,4MEEMki",
  "4ALEF MAKSURAki,4YEHki,2HEHzJEEMki,4MEEMki,4ALEF MAKSURAki,4YEHki,2YEHzJEEMki,4HAHki,4KHAHki",
  "4MEEMki,4ALEF MAKSURAki,4YEHki,2THALzSUPERSCRIPT ALEFki,2REHzSUPERSCRIPT ALEFki",
  "2ALEF MAKSURAzSUPERSCRIPT ALEFki,2SHADDAzDAMMATANki,4KASRATANki,4FATHAki,4DAMMAki,4KASRAki",
  "4SUPERSCRIPT ALEFki,2YEHzHAMZAazREHhi,7ZAINhi,7MEEMhi,7NOONhi,7ALEF MAKSURAhi,7YEHhi",
  "2BEHzREHhi,4ZAINhi,4MEEMhi,4NOONhi,4ALEF MAKSURAhi,4YEHhi,2TEHzREHhi,4ZAINhi,4MEEMhi,4NOONhi",
  "4ALEF MAKSURAhi,4YEHhi,2THEHzREHhi,4ZAINhi,4MEEMhi,4NOONhi,4ALEF MAKSURAhi,4YEHhi",
  "2FEHzALEF MAKSURAhi,4YEHhi,2QAFzALEF MAKSURAhi,4YEHhi,2KAFzALEFhi,4LAMhi,4MEEMhi",
  "4ALEF MAKSURAhi,4YEHhi,2LAMzMEEMhi,4ALEF MAKSURAhi,4YEHhi,2MEEMzALEFhi,4MEEMhi,2NOONzREHhi",
  "4ZAINhi,4MEEMhi,4NOONhi,4ALEF MAKSURAhi,4YEHhi,2ALEF MAKSURAzSUPERSCRIPT ALEFhi,2YEHzREHhi",
  "4ZAINhi,4MEEMhi,4NOONhi,4ALEF MAKSURAhi,4YEHhi,4HAMZAazJEEMji,7HAHji,7KHAHji,7MEEMji,7HEHji",
  "2BEHzJEEMji,4HAHji,4KHAHji,4MEEMji,4HEHji,2TEHzJEEMji,4HAHji,4KHAHji,4MEEMji,4HEHji",
  "2THEHzMEEMji,2JEEMzHAHji,4MEEMji,2HAHzJEEMji,4MEEMji,2KHAHzJEEMji,4MEEMji,2SEENzJEEMji,4HAHji",
  "4KHAHji,4MEEMji,2SADzHAHji,4KHAHji,4MEEMji,2DADzJEEMji,4HAHji,4KHAHji,4MEEMji,2TAHzHAHji",
  "2ZAHzMEEMji,2AINzJEEMji,4MEEMji,2GHAINzJEEMji,4MEEMji,2FEHzJEEMji,4HAHji,4KHAHji,4MEEMji",
  "2QAFzHAHji,4MEEMji,2KAFzJEEMji,4HAHji,4KHAHji,4LAMji,4MEEMji,2LAMzJEEMji,4HAHji,4KHAHji",
  "4MEEMji,4HEHji,2MEEMzJEEMji,4HAHji,4KHAHji,4MEEMji,2NOONzJEEMji,4HAHji,4KHAHji,4MEEMji,4HEHji",
  "2HEHzJEEMji,4MEEMji,4SUPERSCRIPT ALEFji,2YEHzJEEMji,4HAHji,4KHAHji,4MEEMji,4HEHji",
  "4HAMZAazMEEM MEDIALi,7HEH MEDIALi,2BEHzMEEM MEDIALi,4HEH MEDIALi,2TEHzMEEM MEDIALi",
  "4HEH MEDIALi,2THEHzMEEM MEDIALi,4HEH MEDIALi,2SEENzMEEM MEDIALi,4HEH MEDIALi",
  "2SHEENzMEEM MEDIALi,4HEH MEDIALi,2KAFzLAM MEDIALi,4MEEM MEDIALi,2LAMzMEEM MEDIALi",
  "2NOONzMEEM MEDIALi,4HEH MEDIALi,2YEHzMEEM MEDIALi,4HEH MEDIALi,2SHADDAzFATHA MEDIALi",
  "4DAMMA MEDIALi,4KASRA MEDIALi,2TAHzALEF MAKSURAki,4YEHki,2AINzALEF MAKSURAki,4YEHki",
  "2GHAINzALEF MAKSURAki,4YEHki,2SEENzALEF MAKSURAki,4YEHki,2SHEENzALEF MAKSURAki,4YEHki",
  "2HAHzALEF MAKSURAki,4YEHki,2JEEMzALEF MAKSURAki,4YEHki,2KHAHzALEF MAKSURAki,4YEHki",
  "2SADzALEF MAKSURAki,4YEHki,2DADzALEF MAKSURAki,4YEHki,2SHEENzJEEMki,4HAHki,4KHAHki,4MEEMki",
  "4REHki,2SEENzREHki,2SADzREHki,2DADzREHki,2TAHzALEF MAKSURAhi,4YEHhi,2AINzALEF MAKSURAhi,4YEHhi",
  "2GHAINzALEF MAKSURAhi,4YEHhi,2SEENzALEF MAKSURAhi,4YEHhi,2SHEENzALEF MAKSURAhi,4YEHhi",
  "2HAHzALEF MAKSURAhi,4YEHhi,2JEEMzALEF MAKSURAhi,4YEHhi,2KHAHzALEF MAKSURAhi,4YEHhi",
  "2SADzALEF MAKSURAhi,4YEHhi,2DADzALEF MAKSURAhi,4YEHhi,2SHEENzJEEMhi,4HAHhi,4KHAHhi,4MEEMhi",
  "4REHhi,2SEENzREHhi,2SADzREHhi,2DADzREHhi,2SHEENzJEEMji,4HAHji,4KHAHji,4MEEMji,2SEENzHEHji",
  "2SHEENzHEHji,2TAHzMEEMji,2SEENzJEEM MEDIALi,4HAH MEDIALi,4KHAH MEDIALi,2SHEENzJEEM MEDIALi",
  "4HAH MEDIALi,4KHAH MEDIALi,2TAHzMEEM MEDIALi,2ZAHzMEEM MEDIALi,2ALEFzFATHATANhi,5ki",
  "0ORNATElPARENTHESIS,1pPARENTHESIS,0ARABIC LIGATURE RAHIMAHU ALLAAH,2RADI ALLAAHU ANH,4ANHAA",
  "4ANHUM,4ANHUMAA,4ANHUNNA,2SALLALLAAHU ALAYHI WA-AALIH,2ALAYHI AS-SALAAM,2ALAYHIM AS-SALAAM",
  "2ALAYHIMAA AS-SALAAM,2ALAYHI AS-SALAATU WAS-SALAAM,2QUDDISA SIRRAH",
  "2SALLALLAHU ALAYHI WAAALIHEE WA-SALLAM,2ALAYHAA AS-SALAAM,2TABAARAKA WA-TAAALAA",
  "2RAHIMAHUM ALLAAH,2TEHzJEEMzMEEMji,4HAHzJEEMhi,7ji,6MEEMji,4KHAHzMEEMji,4MEEMzJEEMji,6HAHji",
  "6KHAHji,2JEEMzMEEMzHAHhi,7ji,2HAHzMEEMzYEHhi,6ALEF MAKSURAhi,2SEENzHAHzJEEMji,4JEEMzHAHji",
  "6ALEF MAKSURAhi,4MEEMzHAHhi,7ji,6JEEMji,6MEEMhi,7ji,2SADzHAHzHAHhi,7ji,4MEEMzMEEMhi",
  "2SHEENzHAHzMEEMhi,7ji,4JEEMzYEHhi,4MEEMzKHAHhi,7ji,6MEEMhi,7ji,2DADzHAHzALEF MAKSURAhi",
  "4KHAHzMEEMhi,7ji,2TAHzMEEMzHAHhi,7ji,6MEEMji,6YEHhi,2AINzJEEMzMEEMhi,4MEEMzMEEMhi,7ji",
  "6ALEF MAKSURAhi,2GHAINzMEEMzMEEMhi,6YEHhi,6ALEF MAKSURAhi,2FEHzKHAHzMEEMhi,7ji,2QAFzMEEMzHAHhi",
  "6MEEMhi,2LAMzHAHzMEEMhi,6YEHhi,6ALEF MAKSURAhi,4JEEMzJEEMji,7hi,4KHAHzMEEMhi,7ji,4MEEMzHAHhi",
  "7ji,2MEEMzHAHzJEEMji,6MEEMji,6YEHhi,4JEEMzHAHji,6MEEMji,4KHAHzJEEMji,6MEEMji,@FD92",
  "0ARABIC LIGATURE MEEMzJEEMzKHAHji,2HEHzMEEMzJEEMji,6MEEMji,2NOONzHAHzMEEMji,6ALEF MAKSURAhi",
  "4JEEMzMEEMhi,7ji,6ALEF MAKSURAhi,4MEEMzYEHhi,6ALEF MAKSURAhi,2YEHzMEEMzMEEMhi,7ji",
  "2BEHzKHAHzYEHhi,2TEHzJEEMzYEHhi,6ALEF MAKSURAhi,4KHAHzYEHhi,6ALEF MAKSURAhi,4MEEMzYEHhi",
  "6ALEF MAKSURAhi,2JEEMzMEEMzYEHhi,4HAHzALEF MAKSURAhi,4MEEMzALEF MAKSURAhi",
  "2SEENzKHAHzALEF MAKSURAhi,2SADzHAHzYEHhi,2SHEENzHAHzYEHhi,2DADzHAHzYEHhi,2LAMzJEEMzYEHhi",
  "4MEEMzYEHhi,2YEHzHAHzYEHhi,4JEEMzYEHhi,4MEEMzYEHhi,2MEEMzMEEMzYEHhi,2QAFzMEEMzYEHhi",
  "2NOONzHAHzYEHhi,2QAFzMEEMzHAHji,2LAMzHAHzMEEMji,2AINzMEEMzYEHhi,2KAFzMEEMzYEHhi",
  "2NOONzJEEMzHAHji,2MEEMzKHAHzYEHhi,2LAMzJEEMzMEEMji,2KAFzMEEMzMEEMhi,2LAMzJEEMzMEEMhi",
  "2NOONzJEEMzHAHhi,2JEEMzHAHzYEHhi,2HAHzJEEMzYEHhi,2MEEMzJEEMzYEHhi,2FEHzMEEMzYEHhi",
  "2BEHzHAHzYEHhi,2KAFzMEEMzMEEMji,2AINzJEEMzMEEMji,2SADzMEEMzMEEMji,2SEENzKHAHzYEHhi",
  "2NOONzJEEMzYEHhi,@FDCF,0ARABIC LIGATURE SALAAMUHU ALAYNAA,@FDF0",
  "0ARABIC LIGATURE SALLA USED AS KORANIC STOPrki,2QALA USED AS KORANIC STOPrki,2ALLAHki,2AKBARki",
  "2MOHAMMADki,2SALAMki,2RASOULki,2ALAYHEki,2WASALLAMki,2SALLAki,2SALLALLAHOU ALAYHE WASALLAM",
  "2JALLAJALALOUHOU,0RIALr,0ARABIC LIGATURE BISMILLAH AR-RAHMAN AR-RAHEEM,2SUBHAANAHU WA TAAALAA",
  "2AZZA WA JALL,0VARIATION SELECTOR-1,1SELECTOR-2,1SELECTOR-3,1SELECTOR-4,1SELECTOR-5",
  "1SELECTOR-6,1SELECTOR-7,1SELECTOR-8,1SELECTOR-9,1SELECTOR-10,1SELECTOR-11,1SELECTOR-12",
  "1SELECTOR-13,1SELECTOR-14,1SELECTOR-15,1SELECTOR-16,0PRESENTATIONiFORxCOMMA,4IDEOGRAPHIC COMMA",
  "5FULL STOP,4COLON,4SEMICOLON,4EXCLAMATIONo,4QUESTIONo,4lyLENTICULAR BRACKET",
  "4pyLENTICULAR BRAKCET,4HORIZONTAL ELLIPSIS,@FE20,0COMBINING LIGATURElHALF,2pHALF,1gTILDElHALF",
  "3pHALF,1MACRONlHALF,2pHALF,1CONJOINING MACRON,1LIGATURElHALFd,2pHALFd,1TILDElHALFd,2pHALFd",
  "1MACRONlHALFd,2pHALFd,1CONJOINING MACRONd,1CYRILLIC TITLOlHALF,3pHALF",
  "0PRESENTATIONiFORxTWO DOT LEADER,4EM DASH,4EN DASH,4LOW LINE,4WAVY LOW LINE,4lPARENTHESIS",
  "4pPARENTHESIS,4lCURLY BRACKET,4pCURLY BRACKET,4lTORTOISE SHELL BRACKET",
  "4pTORTOISE SHELL BRACKET,4leLENTICULAR BRACKET,4peLENTICULAR BRACKET,4lgANGLE BRACKET",
  "4pgANGLE BRACKET,4lANGLE BRACKET,4pANGLE BRACKET,4lCORNER BRACKET,4pCORNER BRACKET",
  "4lyCORNER BRACKET,4pyCORNER BRACKET,0SESAME DOT,0ySESAME DOT,0PRESENTATIONiFORxlSQUARE BRACKET",
  "4pSQUARE BRACKET,0DASHED OVERLINE,0CENTRELINE OVERLINE,0WAVY OVERLINE,0gWAVY OVERLINE",
  "0DASHED LOW LINE,0CENTRELINE LOW LINE,0WAVY LOW LINE,0sCOMMA,1IDEOGRAPHIC COMMA,1FULL STOP",
  "@FE54,0sSEMICOLON,1COLON,1QUESTIONo,1EXCLAMATIONo,1EM DASH,1lPARENTHESIS,1pPARENTHESIS",
  "1lCURLY BRACKET,1pCURLY BRACKET,1lTORTOISE SHELL BRACKET,1pTORTOISE SHELL BRACKET,1NUMBERr",
  "1AMPERSAND,1ASTERISK,1PLUSr,1HYPHEN-MINUS,1LESS-THANr,1GREATER-THANr,1EQUALSr,@FE68",
  "0sREVERSE SOLIDUS,1DOLLARr,1PERCENTr,1COMMERCIAL AT,@FE70,0ARABIC FATHATANki",
  "1TATWEELzFATHATANa,1DAMMATANki,1TAIL FRAGMENT,1KASRATANki,@FE76,0ARABIC FATHAki,2MEDIALi",
  "1DAMMAki,2MEDIALi,1KASRAki,2MEDIALi,1SHADDAki,2MEDIALi,1SUKUNki,2MEDIALi,1nHAMZAki",
  "2ALEFzMADDAaki,6hi,4HAMZAaki,6hi,2WAWzHAMZAaki,6hi,2ALEFzHAMZAdki,6hi,2YEHzHAMZAaki,6hi,6ji",
  "6MEDIALi,2ALEFki,3hi,2BEHki,3hi,3ji,3MEDIALi,2TEH MARBUTAki,4hi,3ki,3hi,3ji,3MEDIALi,2THEHki",
  "3hi,3ji,3MEDIALi,2JEEMki,3hi,3ji,3MEDIALi,2HAHki,3hi,3ji,3MEDIALi,2KHAHki,3hi,3ji,3MEDIALi",
  "2DALki,3hi,2THALki,3hi,2REHki,3hi,2ZAINki,3hi,2SEENki,3hi,3ji,3MEDIALi,2SHEENki,3hi,3ji",
  "3MEDIALi,2SADki,3hi,3ji,3MEDIALi,2DADki,3hi,3ji,3MEDIALi,2TAHki,3hi,3ji,3MEDIALi,2ZAHki,3hi",
  "3ji,3MEDIALi,2AINki,3hi,3ji,3MEDIALi,2GHAINki,3hi,3ji,3MEDIALi,2FEHki,3hi,3ji,3MEDIALi,2QAFki",
  "3hi,3ji,3MEDIALi,2KAFki,3hi,3ji,3MEDIALi,2LAMki,3hi,3ji,3MEDIALi,2MEEMki,3hi,3ji,3MEDIALi",
  "2NOONki,3hi,3ji,3MEDIALi,2HEHki,3hi,3ji,3MEDIALi,2WAWki,3hi,2ALEF MAKSURAki,4hi,2YEHki,3hi,3ji",
  "3MEDIALi,1LIGATURE LAMzALEFzMADDAaki,8hi,6HAMZAaki,8hi,7dki,8hi,5ki,5hi,@FEFF",
  "0ZERO WIDTH NO-BREAK SPACE,@FF01,0FULLWIDTH EXCLAMATIONo,1QUOTATIONo,1NUMBERr,1DOLLARr",
  "1PERCENTr,1AMPERSAND,1APOSTROPHE,1lPARENTHESIS,1pPARENTHESIS,1ASTERISK,1PLUSr,1COMMA",
  "1HYPHEN-MINUS,1FULL STOP,1SOLIDUS,1DIGIT ZERO,2ONE,2TWO,2v,2FOUR,2FIVE,2SIX,2SEVEN,2EIGHT",
  "2NINE,1COLON,1SEMICOLON,1LESS-THANr,1EQUALSr,1GREATER-THANr,1QUESTIONo,1COMMERCIAL AT",
  "1LATINfnA,4B,4C,4D,4E,4F,4G,4H,4I,4J,4K,4L,4M,4N,4O,4P,4Q,4R,4S,4T,4U,4V,4W,4X,4Y,4Z",
  "1lSQUARE BRACKET,1REVERSE SOLIDUS,1pSQUARE BRACKET,1CIRCUMFLEX ACCENT,1LOW LINE,1GRAVE ACCENT",
  "1LATINsnA,4B,4C,4D,4E,4F,4G,4H,4I,4J,4K,4L,4M,4N,4O,4P,4Q,4R,4S,4T,4U,4V,4W,4X,4Y,4Z",
  "1lCURLY BRACKET,1xLINE,1pCURLY BRACKET,1TILDE,1lyPARENTHESIS,1pyPARENTHESIS",
  "0HALFWIDTH IDEOGRAPHIC FULL STOP,1lCORNER BRACKET,1pCORNER BRACKET,1IDEOGRAPHIC COMMA",
  "1KATAKANA MIDDLE DOT,2nWO,3sA,4I,4U,4E,4O,4YA,4YU,4YO,4TU,1KATAKANA-HIRAGANA PROLONGED SOUNDo",
  "1KATAKANAnA,3I,3U,3E,3O,3KA,3KI,3KU,3KE,3KO,3SA,3SI,3SU,3SE,3SO,3TA,3TI,3TU,3TE,3TO,3NA,3NI",
  "3NU,3NE,3NO,3HA,3HI,3HU,3HE,3HO,3MA,3MI,3MU,3ME,3MO,3YA,3YU,3YO,3RA,3RI,3RU,3RE,3RO,3WA,3N",
  "2VOICED SOUNDo,2SEMI-VOICED SOUNDo,1HANGUL FILLER,2nKIYEOK,3SSANGKIYEOK,3KIYEOK-SIOS,3NIEUN",
  "3NIEUN-CIEUC,3NIEUN-HIEUH,3TIKEUT,3SSANGTIKEUT,3RIEUL,3RIEUL-KIYEOK,3RIEUL-MIEUM,3RIEUL-PIEUP",
  "3RIEUL-SIOS,3RIEUL-THIEUTH,3RIEUL-PHIEUPH,3RIEUL-HIEUH,3MIEUM,3PIEUP,3SSANGPIEUP,3PIEUP-SIOS",
  "3SIOS,3SSANGSIOS,3IEUNG,3CIEUC,3SSANGCIEUC,3CHIEUCH,3KHIEUKH,3THIEUTH,3PHIEUPH,3HIEUH,@FFC2",
  "0HALFWIDTH HANGULnA,3AE,3YA,3YAE,3EO,3E,@FFCA,0HALFWIDTH HANGULnYEO,3YE,3O,3WA,3WAE,3OE,@FFD2",
  "0HALFWIDTH HANGULnYO,3U,3WEO,3WE,3WI,3YU,@FFDA,0HALFWIDTH HANGULnEU,3YI,3I,@FFE0",
  "0FULLWIDTH CENTr,1POUNDr,1NOTr,1MACRON,1BROKEN BAR,1YENr,1WONr,@FFE8,0HALFWIDTH FORMS LIGHTx",
  "1mc,1UPWARDSc,1qc,1DOWNWARDSc,1eSQUARE,1yCIRCLE,@FFF9,0INTERLINEAR ANNOTATION ANCHOR",
  "2SEPARATOR,2TERMINATOR,0OBJECT REPLACEMENT CHARACTER,0REPLACEMENT CHARACTER"]

end PhraseStructure.Text.CharacterName
