/-!
# Names of punctuation and of mathematical signs

Extended Latin and Greek letters, punctuation, currencies, arrows and operators.
-/

namespace PhraseStructure.Text.CharacterName

/-- The names of characters from U+1E00 on, below U+2300. -/
def punctuationNames : List String := [
  "@1E00,0LATINfnAzRINGd,1snAzRINGd,1fnBzDOTa,1snBzDOTa,1fnBzDOTd,1snBzDOTd,1fnBzLINEd,1snBzLINEd",
  "1fnCzCEDILLAbACUTE,1snCzCEDILLAbACUTE,1fnDzDOTa,1snDzDOTa,1fnDzDOTd,1snDzDOTd,1fnDzLINEd",
  "1snDzLINEd,1fnDzCEDILLA,1snDzCEDILLA,1fnDzCIRCUMFLEXd,1snDzCIRCUMFLEXd,1fnEzMACRONbGRAVE",
  "1snEzMACRONbGRAVE,1fnEzMACRONbACUTE,1snEzMACRONbACUTE,1fnEzCIRCUMFLEXd,1snEzCIRCUMFLEXd",
  "1fnEzTILDEd,1snEzTILDEd,1fnEzCEDILLAbBREVE,1snEzCEDILLAbBREVE,1fnFzDOTa,1snFzDOTa,1fnGzMACRON",
  "1snGzMACRON,1fnHzDOTa,1snHzDOTa,1fnHzDOTd,1snHzDOTd,1fnHzDIAERESIS,1snHzDIAERESIS,1fnHzCEDILLA",
  "1snHzCEDILLA,1fnHzBREVEd,1snHzBREVEd,1fnIzTILDEd,1snIzTILDEd,1fnIzDIAERESISbACUTE",
  "1snIzDIAERESISbACUTE,1fnKzACUTE,1snKzACUTE,1fnKzDOTd,1snKzDOTd,1fnKzLINEd,1snKzLINEd,1fnLzDOTd",
  "1snLzDOTd,1fnLzDOTdbMACRON,1snLzDOTdbMACRON,1fnLzLINEd,1snLzLINEd,1fnLzCIRCUMFLEXd",
  "1snLzCIRCUMFLEXd,1fnMzACUTE,1snMzACUTE,1fnMzDOTa,1snMzDOTa,1fnMzDOTd,1snMzDOTd,1fnNzDOTa",
  "1snNzDOTa,1fnNzDOTd,1snNzDOTd,1fnNzLINEd,1snNzLINEd,1fnNzCIRCUMFLEXd,1snNzCIRCUMFLEXd",
  "1fnOzTILDEbACUTE,1snOzTILDEbACUTE,1fnOzTILDEbDIAERESIS,1snOzTILDEbDIAERESIS,1fnOzMACRONbGRAVE",
  "1snOzMACRONbGRAVE,1fnOzMACRONbACUTE,1snOzMACRONbACUTE,1fnPzACUTE,1snPzACUTE,1fnPzDOTa",
  "1snPzDOTa,1fnRzDOTa,1snRzDOTa,1fnRzDOTd,1snRzDOTd,1fnRzDOTdbMACRON,1snRzDOTdbMACRON,1fnRzLINEd",
  "1snRzLINEd,1fnSzDOTa,1snSzDOTa,1fnSzDOTd,1snSzDOTd,1fnSzACUTEbDOTa,1snSzACUTEbDOTa",
  "1fnSzCARONbDOTa,1snSzCARONbDOTa,1fnSzDOTdbDOTa,1snSzDOTdbDOTa,1fnTzDOTa,1snTzDOTa,1fnTzDOTd",
  "1snTzDOTd,1fnTzLINEd,1snTzLINEd,1fnTzCIRCUMFLEXd,1snTzCIRCUMFLEXd,1fnUzDIAERESISd",
  "1snUzDIAERESISd,1fnUzTILDEd,1snUzTILDEd,1fnUzCIRCUMFLEXd,1snUzCIRCUMFLEXd,1fnUzTILDEbACUTE",
  "1snUzTILDEbACUTE,1fnUzMACRONbDIAERESIS,1snUzMACRONbDIAERESIS,1fnVzTILDE,1snVzTILDE,1fnVzDOTd",
  "1snVzDOTd,1fnWzGRAVE,1snWzGRAVE,1fnWzACUTE,1snWzACUTE,1fnWzDIAERESIS,1snWzDIAERESIS,1fnWzDOTa",
  "1snWzDOTa,1fnWzDOTd,1snWzDOTd,1fnXzDOTa,1snXzDOTa,1fnXzDIAERESIS,1snXzDIAERESIS,1fnYzDOTa",
  "1snYzDOTa,1fnZzCIRCUMFLEX,1snZzCIRCUMFLEX,1fnZzDOTd,1snZzDOTd,1fnZzLINEd,1snZzLINEd,3HzLINEd",
  "3TzDIAERESIS,3WzRINGa,3YzRINGa,3AzpHALF RING,3LONG SzDOTa,6DIAGONALt,6HIGHt,1fnSHARP S",
  "1snDELTA,1fnAzDOTd,1snAzDOTd,1fnAzHOOKa,1snAzHOOKa,1fnAzCIRCUMFLEXbACUTE,1snAzCIRCUMFLEXbACUTE",
  "1fnAzCIRCUMFLEXbGRAVE,1snAzCIRCUMFLEXbGRAVE,1fnAzCIRCUMFLEXbHOOKa,1snAzCIRCUMFLEXbHOOKa",
  "1fnAzCIRCUMFLEXbTILDE,1snAzCIRCUMFLEXbTILDE,1fnAzCIRCUMFLEXbDOTd,1snAzCIRCUMFLEXbDOTd",
  "1fnAzBREVEbACUTE,1snAzBREVEbACUTE,1fnAzBREVEbGRAVE,1snAzBREVEbGRAVE,1fnAzBREVEbHOOKa",
  "1snAzBREVEbHOOKa,1fnAzBREVEbTILDE,1snAzBREVEbTILDE,1fnAzBREVEbDOTd,1snAzBREVEbDOTd,1fnEzDOTd",
  "1snEzDOTd,1fnEzHOOKa,1snEzHOOKa,1fnEzTILDE,1snEzTILDE,1fnEzCIRCUMFLEXbACUTE",
  "1snEzCIRCUMFLEXbACUTE,1fnEzCIRCUMFLEXbGRAVE,1snEzCIRCUMFLEXbGRAVE,1fnEzCIRCUMFLEXbHOOKa",
  "1snEzCIRCUMFLEXbHOOKa,1fnEzCIRCUMFLEXbTILDE,1snEzCIRCUMFLEXbTILDE,1fnEzCIRCUMFLEXbDOTd",
  "1snEzCIRCUMFLEXbDOTd,1fnIzHOOKa,1snIzHOOKa,1fnIzDOTd,1snIzDOTd,1fnOzDOTd,1snOzDOTd,1fnOzHOOKa",
  "1snOzHOOKa,1fnOzCIRCUMFLEXbACUTE,1snOzCIRCUMFLEXbACUTE,1fnOzCIRCUMFLEXbGRAVE",
  "1snOzCIRCUMFLEXbGRAVE,1fnOzCIRCUMFLEXbHOOKa,1snOzCIRCUMFLEXbHOOKa,1fnOzCIRCUMFLEXbTILDE",
  "1snOzCIRCUMFLEXbTILDE,1fnOzCIRCUMFLEXbDOTd,1snOzCIRCUMFLEXbDOTd,1fnOzHORNbACUTE",
  "1snOzHORNbACUTE,1fnOzHORNbGRAVE,1snOzHORNbGRAVE,1fnOzHORNbHOOKa,1snOzHORNbHOOKa",
  "1fnOzHORNbTILDE,1snOzHORNbTILDE,1fnOzHORNbDOTd,1snOzHORNbDOTd,1fnUzDOTd,1snUzDOTd,1fnUzHOOKa",
  "1snUzHOOKa,1fnUzHORNbACUTE,1snUzHORNbACUTE,1fnUzHORNbGRAVE,1snUzHORNbGRAVE,1fnUzHORNbHOOKa",
  "1snUzHORNbHOOKa,1fnUzHORNbTILDE,1snUzHORNbTILDE,1fnUzHORNbDOTd,1snUzHORNbDOTd,1fnYzGRAVE",
  "1snYzGRAVE,1fnYzDOTd,1snYzDOTd,1fnYzHOOKa,1snYzHOOKa,1fnYzTILDE,1snYzTILDE,1fnMIDDLE-WELSH LL",
  "1snMIDDLE-WELSH LL,1fnMIDDLE-WELSH V,1snMIDDLE-WELSH V,1fnYzLOOP,1snYzLOOP,0GREEKsnALPHAzPSILI",
  "5DASIA,5PSILIbVARIA,5DASIAbVARIA,5PSILIbOXIA,5DASIAbOXIA,5PSILIbPERISPOMENI,5DASIAbPERISPOMENI",
  "1fnALPHAzPSILI,5DASIA,5PSILIbVARIA,5DASIAbVARIA,5PSILIbOXIA,5DASIAbOXIA,5PSILIbPERISPOMENI",
  "5DASIAbPERISPOMENI,1snEPSILONzPSILI,5DASIA,5PSILIbVARIA,5DASIAbVARIA,5PSILIbOXIA,5DASIAbOXIA",
  "@1F18,0GREEKfnEPSILONzPSILI,5DASIA,5PSILIbVARIA,5DASIAbVARIA,5PSILIbOXIA,5DASIAbOXIA,@1F20",
  "0GREEKsnETAzPSILI,5DASIA,5PSILIbVARIA,5DASIAbVARIA,5PSILIbOXIA,5DASIAbOXIA,5PSILIbPERISPOMENI",
  "5DASIAbPERISPOMENI,1fnETAzPSILI,5DASIA,5PSILIbVARIA,5DASIAbVARIA,5PSILIbOXIA,5DASIAbOXIA",
  "5PSILIbPERISPOMENI,5DASIAbPERISPOMENI,1snIOTAzPSILI,5DASIA,5PSILIbVARIA,5DASIAbVARIA",
  "5PSILIbOXIA,5DASIAbOXIA,5PSILIbPERISPOMENI,5DASIAbPERISPOMENI,1fnIOTAzPSILI,5DASIA",
  "5PSILIbVARIA,5DASIAbVARIA,5PSILIbOXIA,5DASIAbOXIA,5PSILIbPERISPOMENI,5DASIAbPERISPOMENI",
  "1snOMICRONzPSILI,5DASIA,5PSILIbVARIA,5DASIAbVARIA,5PSILIbOXIA,5DASIAbOXIA,@1F48",
  "0GREEKfnOMICRONzPSILI,5DASIA,5PSILIbVARIA,5DASIAbVARIA,5PSILIbOXIA,5DASIAbOXIA,@1F50",
  "0GREEKsnUPSILONzPSILI,5DASIA,5PSILIbVARIA,5DASIAbVARIA,5PSILIbOXIA,5DASIAbOXIA",
  "5PSILIbPERISPOMENI,5DASIAbPERISPOMENI,@1F59,0GREEKfnUPSILONzDASIA,@1F5B",
  "0GREEKfnUPSILONzDASIAbVARIA,@1F5D,0GREEKfnUPSILONzDASIAbOXIA,@1F5F",
  "0GREEKfnUPSILONzDASIAbPERISPOMENI,1snOMEGAzPSILI,5DASIA,5PSILIbVARIA,5DASIAbVARIA,5PSILIbOXIA",
  "5DASIAbOXIA,5PSILIbPERISPOMENI,5DASIAbPERISPOMENI,1fnOMEGAzPSILI,5DASIA,5PSILIbVARIA",
  "5DASIAbVARIA,5PSILIbOXIA,5DASIAbOXIA,5PSILIbPERISPOMENI,5DASIAbPERISPOMENI,1snALPHAzVARIA",
  "5OXIA,3EPSILONzVARIA,5OXIA,3ETAzVARIA,5OXIA,3IOTAzVARIA,5OXIA,3OMICRONzVARIA,5OXIA",
  "3UPSILONzVARIA,5OXIA,3OMEGAzVARIA,5OXIA,@1F80,0GREEKsnALPHAzPSILIbYPOGEGRAMMENI",
  "5DASIAbYPOGEGRAMMENI,5PSILIbVARIAbYPOGEGRAMMENI,5DASIAbVARIAbYPOGEGRAMMENI",
  "5PSILIbOXIAbYPOGEGRAMMENI,5DASIAbOXIAbYPOGEGRAMMENI,5PSILIbPERISPOMENIbYPOGEGRAMMENI",
  "5DASIAbPERISPOMENIbYPOGEGRAMMENI,1fnALPHAzPSILIbPROSGEGRAMMENI,5DASIAbPROSGEGRAMMENI",
  "5PSILIbVARIAbPROSGEGRAMMENI,5DASIAbVARIAbPROSGEGRAMMENI,5PSILIbOXIAbPROSGEGRAMMENI",
  "5DASIAbOXIAbPROSGEGRAMMENI,5PSILIbPERISPOMENIbPROSGEGRAMMENI,5DASIAbPERISPOMENIbPROSGEGRAMMENI",
  "1snETAzPSILIbYPOGEGRAMMENI,5DASIAbYPOGEGRAMMENI,5PSILIbVARIAbYPOGEGRAMMENI",
  "5DASIAbVARIAbYPOGEGRAMMENI,5PSILIbOXIAbYPOGEGRAMMENI,5DASIAbOXIAbYPOGEGRAMMENI",
  "5PSILIbPERISPOMENIbYPOGEGRAMMENI,5DASIAbPERISPOMENIbYPOGEGRAMMENI,1fnETAzPSILIbPROSGEGRAMMENI",
  "5DASIAbPROSGEGRAMMENI,5PSILIbVARIAbPROSGEGRAMMENI,5DASIAbVARIAbPROSGEGRAMMENI",
  "5PSILIbOXIAbPROSGEGRAMMENI,5DASIAbOXIAbPROSGEGRAMMENI,5PSILIbPERISPOMENIbPROSGEGRAMMENI",
  "5DASIAbPERISPOMENIbPROSGEGRAMMENI,1snOMEGAzPSILIbYPOGEGRAMMENI,5DASIAbYPOGEGRAMMENI",
  "5PSILIbVARIAbYPOGEGRAMMENI,5DASIAbVARIAbYPOGEGRAMMENI,5PSILIbOXIAbYPOGEGRAMMENI",
  "5DASIAbOXIAbYPOGEGRAMMENI,5PSILIbPERISPOMENIbYPOGEGRAMMENI,5DASIAbPERISPOMENIbYPOGEGRAMMENI",
  "1fnOMEGAzPSILIbPROSGEGRAMMENI,5DASIAbPROSGEGRAMMENI,5PSILIbVARIAbPROSGEGRAMMENI",
  "5DASIAbVARIAbPROSGEGRAMMENI,5PSILIbOXIAbPROSGEGRAMMENI,5DASIAbOXIAbPROSGEGRAMMENI",
  "5PSILIbPERISPOMENIbPROSGEGRAMMENI,5DASIAbPERISPOMENIbPROSGEGRAMMENI,1snALPHAzVRACHY,5MACRON",
  "5VARIAbYPOGEGRAMMENI,5YPOGEGRAMMENI,5OXIAbYPOGEGRAMMENI,@1FB6,0GREEKsnALPHAzPERISPOMENI",
  "6bYPOGEGRAMMENI,1fnALPHAzVRACHY,5MACRON,5VARIA,5OXIA,5PROSGEGRAMMENI,1KORONIS,1PROSGEGRAMMENI",
  "1PSILI,1PERISPOMENI,1DIALYTIKAbPERISPOMENI,1snETAzVARIAbYPOGEGRAMMENI,5YPOGEGRAMMENI",
  "5OXIAbYPOGEGRAMMENI,@1FC6,0GREEKsnETAzPERISPOMENI,6bYPOGEGRAMMENI,1fnEPSILONzVARIA,5OXIA",
  "3ETAzVARIA,5OXIA,5PROSGEGRAMMENI,1PSILIbVARIA,3OXIA,3PERISPOMENI,1snIOTAzVRACHY,5MACRON",
  "5DIALYTIKAbVARIA,7OXIA,@1FD6,0GREEKsnIOTAzPERISPOMENI,5DIALYTIKAbPERISPOMENI,1fnIOTAzVRACHY",
  "5MACRON,5VARIA,5OXIA,@1FDD,0GREEK DASIAbVARIA,3OXIA,3PERISPOMENI,1snUPSILONzVRACHY,5MACRON",
  "5DIALYTIKAbVARIA,7OXIA,3RHOzPSILI,5DASIA,3UPSILONzPERISPOMENI,5DIALYTIKAbPERISPOMENI",
  "1fnUPSILONzVRACHY,5MACRON,5VARIA,5OXIA,3RHOzDASIA,1DIALYTIKAbVARIA,3OXIA,1VARIA,@1FF2",
  "0GREEKsnOMEGAzVARIAbYPOGEGRAMMENI,5YPOGEGRAMMENI,5OXIAbYPOGEGRAMMENI,@1FF6",
  "0GREEKsnOMEGAzPERISPOMENI,6bYPOGEGRAMMENI,1fnOMICRONzVARIA,5OXIA,3OMEGAzVARIA,5OXIA",
  "5PROSGEGRAMMENI,1OXIA,1DASIA,@2000,0EN QUAD,0EM QUAD,0EN SPACE,0EM SPACE,0THREE-PER-EM SPACE",
  "0FOUR-PER-EM SPACE,0SIX-PER-EM SPACE,0FIGURE SPACE,0PUNCTUATION SPACE,0THIN SPACE,0HAIR SPACE",
  "0ZERO WIDTH SPACE,2NON-JOINER,2JOINER,0LEFT-TO-RIGHTo,0RIGHT-TO-LEFTo,0HYPHEN",
  "0NON-BREAKING HYPHEN,0FIGURE DASH,0EN DASH,0EM DASH,0HORIZONTAL BAR,0gxLINE,1LOW LINE",
  "0lSINGLE QUOTATIONo,0pSINGLE QUOTATIONo,0SINGLE LOW-9 QUOTATIONo,1HIGH-REVERSED-9 QUOTATIONo",
  "0lgQUOTATIONo,0pgQUOTATIONo,0gLOW-9 QUOTATIONo,1HIGH-REVERSED-9 QUOTATIONo,0DAGGER,0gDAGGER",
  "0BULLET,0TRIANGULAR BULLET,0ONE DOT LEADER,0TWO DOT LEADER,0HORIZONTAL ELLIPSIS",
  "0HYPHENATION POINT,0LINE SEPARATOR,0PARAGRAPH SEPARATOR,0LEFT-TO-RIGHT EMBEDDING",
  "0RIGHT-TO-LEFT EMBEDDING,0POP DIRECTIONAL FORMATTING,0LEFT-TO-RIGHT OVERRIDE",
  "0RIGHT-TO-LEFT OVERRIDE,0NARROW NO-BREAK SPACE,0PER MILLEr,1TEN THOUSANDr,0PRIME,0gPRIME",
  "0TRIPLE PRIME,0REVERSED PRIME,1gPRIME,1TRIPLE PRIME,0CARET",
  "0SINGLE LEFT-POINTING ANGLE QUOTATIONo,1RIGHT-POINTING ANGLE QUOTATIONo,0REFERENCEo",
  "0gEXCLAMATIONo,0INTERROBANG,0OVERLINE,0UNDERTIE,0CHARACTER TIE,0CARET INSERTION POINT",
  "0ASTERISM,0HYPHEN BULLET,0FRACTION SLASH,0lSQUARE BRACKETzQUILL,0pSQUARE BRACKETzQUILL",
  "0gQUESTIONo,0QUESTION EXCLAMATIONo,0EXCLAMATION QUESTIONo,0TIRONIANrET,0REVERSED PILCROWr",
  "0emBULLET,1qBULLET,0LOW ASTERISK,0REVERSED SEMICOLON,0CLOSE UP",
  "0TWO ASTERISKS ALIGNED VERTICALLY,0COMMERCIAL MINUSr,0SWUNG DASH,0INVERTED UNDERTIE",
  "0FLOWER PUNCTUATIONo,0vDOT PUNCTUATION,0QUADRUPLE PRIME,0FOUR DOT PUNCTUATION",
  "0FIVE DOT PUNCTUATION,0TWO DOT PUNCTUATION,0FOUR DOTo,0DOTTED CROSS,0TRICOLON,0xFOUR DOTS",
  "0MEDIUM MATHEMATICAL SPACE,0WORD JOINER,0FUNCTION APPLICATION,0INVISIBLE TIMES,1SEPARATOR",
  "1PLUS,@2066,0LEFT-TO-RIGHT ISOLATE,0RIGHT-TO-LEFT ISOLATE,0FIRST STRONG ISOLATE",
  "0POP DIRECTIONAL ISOLATE,0INHIBIT SYMMETRIC SWAPPING,0ACTIVATE SYMMETRIC SWAPPING",
  "0INHIBIT ARABICiSHAPING,0ACTIVATE ARABICiSHAPING,0NATIONAL DIGIT SHAPES,0NOMINAL DIGIT SHAPES",
  "0SUPERSCRIPT ZERO,1LATINsnI,@2074,0SUPERSCRIPT FOUR,1FIVE,1SIX,1SEVEN,1EIGHT,1NINE,1PLUSr",
  "1MINUS,1EQUALSr,1lPARENTHESIS,1pPARENTHESIS,1LATINsnN,0SUBSCRIPT ZERO,1ONE,1TWO,1v,1FOUR,1FIVE",
  "1SIX,1SEVEN,1EIGHT,1NINE,1PLUSr,1MINUS,1EQUALSr,1lPARENTHESIS,1pPARENTHESIS,@2090",
  "0LATIN SUBSCRIPTsnA,4E,4O,4X,4SCHWA,4H,4K,4L,4M,4N,4P,4S,4T,@20A0,0EURO-CURRENCYr,0COLONr",
  "0CRUZEIROr,0FRENCH FRANCr,0LIRAr,0MILLr,0NAIRAr,0PESETAr,0RUPEEr,0WONr,0NEW SHEQELr,0DONGr",
  "0EUROr,0KIPr,0TUGRIKr,0DRACHMAr,0GERMAN PENNYr,0PESOr,0GUARANIr,0AUSTRALr,0HRYVNIAr,0CEDIr",
  "0LIVRE TOURNOISr,0SPESMILOr,0TENGEr,0INDIAN RUPEEr,0TURKISH LIRAr,0NORDICor,0MANATr,0RUBLEr",
  "0LARIr,0BITCOINr,0SOMr,@20D0,0COMBININGlHARPOONa,1pHARPOONa,1LONGxLINE OVERLAY",
  "1SHORTxLINE OVERLAY,1ANTICLOCKWISEca,1CLOCKWISEca,1lca,1pca,1RING OVERLAY",
  "1CLOCKWISE RING OVERLAY,1ANTICLOCKWISE RING OVERLAY,1vDOTSa,1FOUR DOTSa,1ENCLOSING CIRCLE",
  "2SQUARE,2DIAMOND,2CIRCLE BACKSLASH,1lpca,1ENCLOSING SCREEN,2KEYCAP,2UPWARD POINTING TRIANGLE",
  "1REVERSE SOLIDUS OVERLAY,1gxtOVERLAY,1ANNUITYu,1TRIPLE UNDERDOT,1WIDE BRIDGEa,1mcOVERLAY",
  "1LONGgSOLIDUS OVERLAY,1qHARPOONzBARB DOWNWARDS,1mHARPOONzBARB DOWNWARDS,1lcd,1pcd,1ASTERISKa",
  "@2100,0ACCOUNT OF,0ADDRESSED TO THE SUBJECT,0DOUBLE-STRUCKfC,0DEGREE CELSIUS,0CENTRE LINEu",
  "0CARE OF,0CADA UNA,0EULER CONSTANT,0SCRUPLE,0DEGREE FAHRENHEIT,0SCRIPTsG,1fH,0BLACK-LETTERfH",
  "0DOUBLE-STRUCKfH,0PLANCK CONSTANT,2OVER TWO PI,0SCRIPTfI,0BLACK-LETTERfI,0SCRIPTfL,1sL",
  "0L B BARu,0DOUBLE-STRUCKfN,0NUMEROr,0SOUND RECORDING COPYRIGHT,0SCRIPTfP,0DOUBLE-STRUCKfP,2Q",
  "0SCRIPTfR,0BLACK-LETTERfR,0DOUBLE-STRUCKfR,0PRESCRIPTION TAKE,0RESPONSE,0SERVICEo,0TELEPHONEr",
  "0TRADEor,0VERSICLE,0DOUBLE-STRUCKfZ,0OUNCEr,0OHMr,0INVERTED OHMr,0BLACK-LETTERfZ",
  "0TURNED GREEKsnIOTA,0KELVINr,0ANGSTROMr,0SCRIPTfB,0BLACK-LETTERfC,0ESTIMATEDu,0SCRIPTsE,1fE,2F",
  "0TURNEDfF,0SCRIPTfM,1sO,0ALEFu,0BETu,0GIMELu,0DALETu,0INFORMATION SOURCE,0ROTATEDfQ",
  "0FACSIMILEr,0DOUBLE-STRUCKsPI,2GAMMA,1fGAMMA,2PI,1N-ARY SUMMATION,0TURNED SANS-SERIFfG,3L",
  "0REVERSED SANS-SERIFfL,0TURNED SANS-SERIFfY,0DOUBLE-STRUCK ITALICfD,2sD,3E,3I,3J",
  "0PROPERTY LINE,0TURNED AMPERSAND,0PERr,0AKTIESELSKAB,0TURNEDsF,0uFOR SAMARITAN SOURCE",
  "0VULGAR FRACTION ONE SEVENTH,3NINTH,3TENTH,3THIRD,2TWO THIRDS,2ONE FIFTH,2TWO FIFTHS,2vFIFTHS",
  "2FOUR FIFTHS,2ONE SIXTH,2FIVE SIXTHS,2ONE EIGHTH,2vEIGHTHS,2FIVE EIGHTHS,2SEVEN EIGHTHS",
  "0FRACTION NUMERATOR ONE,0ROMAN NUMERAL ONE,2TWO,2v,2FOUR,2FIVE,2SIX,2SEVEN,2EIGHT,2NINE,2TEN",
  "2ELEVEN,2TWELVE,2FIFTY,2ONE HUNDRED,2FIVE HUNDRED,2ONE THOUSAND,0sROMAN NUMERAL ONE,3TWO,3v",
  "3FOUR,3FIVE,3SIX,3SEVEN,3EIGHT,3NINE,3TEN,3ELEVEN,3TWELVE,3FIFTY,3ONE HUNDRED,3FIVE HUNDRED",
  "3ONE THOUSAND,0ROMAN NUMERAL ONE THOUSAND C D,2FIVE THOUSAND,2TEN THOUSAND",
  "2REVERSED ONE HUNDRED,0LATINsnREVERSED C,0ROMAN NUMERAL SIX LATEi,2FIFTY EARLYi,3THOUSAND",
  "2ONE HUNDRED THOUSAND,0VULGAR FRACTION ZERO THIRDS,0TURNED DIGIT TWO,2v,@2190,0mc,0UPWARDSc",
  "0qc,0DOWNWARDSc,0lpc,0UP DOWNc,0NORTH WESTc,1EASTc,0SOUTH EASTc,1WESTc,0mczt,0qczt,0mWAVEc",
  "0qWAVEc,0mTWO HEADEDc,0UPWARDS TWO HEADEDc,0qTWO HEADEDc,0DOWNWARDS TWO HEADEDc,0mczTAIL",
  "0qczTAIL,0mcFROM BAR,0UPWARDScFROM BAR,0qcFROM BAR,0DOWNWARDScFROM BAR,0UP DOWNczBASE,0mczHOOK",
  "0qczHOOK,0mczLOOP,0qczLOOP,0lpWAVEc,2czt,0DOWNWARDS ZIGZAGc,0UPWARDSczTIPm,4q,0DOWNWARDSczTIPm",
  "4q,0qczCORNER DOWNWARDS,0DOWNWARDSczCORNERm,0ANTICLOCKWISE TOP SEMICIRCLEc",
  "0CLOCKWISE TOP SEMICIRCLEc,0NORTH WESTcTO LONG BAR,0mcTO BAR OVERqcTO BAR",
  "0ANTICLOCKWISE OPEN CIRCLEc,0CLOCKWISE OPEN CIRCLEc,0mHARPOONzBARB UPWARDS,4DOWNWARDS",
  "0UPWARDS HARPOONzBARBq,4m,0qHARPOONzBARB UPWARDS,4DOWNWARDS,0DOWNWARDS HARPOONzBARBq,4m",
  "0qcOVERmc,0UPWARDScmOF DOWNWARDSc,0mcOVERqc,1PAIRED ARROWS,0UPWARDS PAIRED ARROWS",
  "0qPAIRED ARROWS,0DOWNWARDS PAIRED ARROWS,0mHARPOON OVERqHARPOON,0qHARPOON OVERmHARPOON,0mgczt",
  "0lpgczt,0qgczt,0mgc,0UPWARDSgc,0qgc,0DOWNWARDSgc,0lpgc,0UP DOWNgc,0NORTH WESTgc,1EASTgc",
  "0SOUTH EASTgc,1WESTgc,0mTRIPLEc,0qTRIPLEc,0mSQUIGGLEc,0qSQUIGGLEc,0UPWARDSczgt,0DOWNWARDSczgt",
  "0mDASHEDc,0UPWARDS DASHEDc,0qDASHEDc,0DOWNWARDS DASHEDc,0mcTO BAR,0qcTO BAR,0myc,0UPWARDSyc",
  "0qyc,0DOWNWARDSyc,0UPWARDSycFROM BAR,3ON PEDESTAL,5zHORIZONTAL BAR,6xBAR,2gc,4ON PEDESTAL",
  "0qycFROM WALL,0NORTH WESTcTO CORNER,0SOUTH EASTcTO CORNER,0UP DOWNyc,0pczsCIRCLE",
  "0DOWNWARDScmOF UPWARDSc,0vqARROWS,0mczxt,0qczxt,0lpczxt,0mczgxt,0qczgxt,0lpczgxt",
  "0mOPEN-HEADEDc,0qOPEN-HEADEDc,0lpOPEN-HEADEDc,0FOR ALL,0COMPLEMENT,0PARTIAL DIFFERENTIAL",
  "0THERE EXISTS,1DOES NOT EXIST,0EMPTY SET,0INCREMENT,0NABLA,0ELEMENT OF,0NOT AN ELEMENT OF",
  "0sELEMENT OF,0CONTAINS AS MEMBER,0DOES NOT CONTAIN AS MEMBER,0sCONTAINS AS MEMBER",
  "0END OF PROOF,0N-ARY PRODUCT,1COPRODUCT,1SUMMATION,0MINUSr,0MINUS-OR-PLUSr,0DOT PLUS",
  "0DIVISION SLASH,0SET MINUS,0ASTERISK OPERATOR,0RING OPERATOR,0BULLET OPERATOR,0SQUARE ROOT",
  "0CUBE ROOT,0FOURTH ROOT,0PROPORTIONAL TO,0INFINITY,0pANGLE,0ANGLE,0MEASURED ANGLE",
  "0SPHERICAL ANGLE,0DIVIDES,0DOES NOT DIVIDE,0PARALLEL TO,0NOT PARALLEL TO,0LOGICALb,1OR",
  "0INTERSECTION,0UNION,0INTEGRAL,0gINTEGRAL,0TRIPLE INTEGRAL,0CONTOUR INTEGRAL,0SURFACE INTEGRAL",
  "0VOLUME INTEGRAL,0CLOCKWISE INTEGRAL,1CONTOUR INTEGRAL,0ANTICLOCKWISE CONTOUR INTEGRAL",
  "0THEREFORE,0BECAUSE,0RATIO,0PROPORTION,0DOT MINUS,0EXCESS,0GEOMETRIC PROPORTION,0HOMOTHETIC",
  "0TILDE OPERATOR,0REVERSED TILDE,0INVERTED LAZY S,0SINE WAVE,0WREATH PRODUCT,0NOT TILDE",
  "0MINUS TILDE,0ASYMPTOTICALLY EQUAL TO,0NOT ASYMPTOTICALLY EQUAL TO,0APPROXIMATELY EQUAL TO",
  "1BUT NOT ACTUALLY EQUAL TO,0NEITHER APPROXIMATELY NOR ACTUALLY EQUAL TO,0ALMOST EQUAL TO",
  "0NOT ALMOST EQUAL TO,0ALMOST EQUAL OR EQUAL TO,0TRIPLE TILDE,0ALL EQUAL TO,0EQUIVALENT TO",
  "0GEOMETRICALLY EQUIVALENT TO,0DIFFERENCE BETWEEN,0APPROACHES THE LIMIT,0GEOMETRICALLY EQUAL TO",
  "0APPROXIMATELY EQUAL TO OR THE IMAGE OF,0IMAGE OF OR APPROXIMATELY EQUAL TO,0COLON EQUALS",
  "0EQUALS COLON,0RING IN EQUAL TO,1EQUAL TO,0CORRESPONDS TO,0ESTIMATES,0EQUIANGULAR TO",
  "0STAR EQUALS,0DELTA EQUAL TO,0EQUAL TO BY DEFINITION,0MEASURED BY,0QUESTIONED EQUAL TO",
  "0NOT EQUAL TO,0IDENTICAL TO,0NOT IDENTICAL TO,0STRICTLY EQUIVALENT TO,0LESS-THAN OR EQUAL TO",
  "0GREATER-THAN OR EQUAL TO,0LESS-THAN OVER EQUAL TO,0GREATER-THAN OVER EQUAL TO",
  "0LESS-THAN BUT NOT EQUAL TO,0GREATER-THAN BUT NOT EQUAL TO,0MUCH LESS-THAN,1GREATER-THAN",
  "0BETWEEN,0NOT EQUIVALENT TO,1LESS-THAN,1GREATER-THAN,0NEITHER LESS-THAN NOR EQUAL TO",
  "1GREATER-THAN NOR EQUAL TO,0LESS-THAN OR EQUIVALENT TO,0GREATER-THAN OR EQUIVALENT TO",
  "0NEITHER LESS-THAN NOR EQUIVALENT TO,1GREATER-THAN NOR EQUIVALENT TO",
  "0LESS-THAN OR GREATER-THAN,0GREATER-THAN OR LESS-THAN,0NEITHER LESS-THAN NOR GREATER-THAN",
  "1GREATER-THAN NOR LESS-THAN,0PRECEDES,0SUCCEEDS,0PRECEDES OR EQUAL TO,0SUCCEEDS OR EQUAL TO",
  "0PRECEDES OR EQUIVALENT TO,0SUCCEEDS OR EQUIVALENT TO,0DOES NOT PRECEDE,2SUCCEED,0SUBSET OF",
  "0SUPERSET OF,0NOT A SUBSET OF,2SUPERSET OF,0SUBSET OF OR EQUAL TO,0SUPERSET OF OR EQUAL TO",
  "0NEITHER A SUBSET OF NOR EQUAL TO,2SUPERSET OF NOR EQUAL TO,0SUBSET OFzNOT EQUAL TO",
  "0SUPERSET OFzNOT EQUAL TO,0MULTISET,1MULTIPLICATION,1UNION,0SQUARE IMAGE OF,1ORIGINAL OF",
  "1IMAGE OF OR EQUAL TO,1ORIGINAL OF OR EQUAL TO,1CAP,1CUP,0CIRCLED PLUS,1MINUS,1TIMES",
  "1DIVISION SLASH,1DOT OPERATOR,1RING OPERATOR,1ASTERISK OPERATOR,1EQUALS,1DASH,0SQUARED PLUS",
  "1MINUS,1TIMES,1DOT OPERATOR,0pTACK,0lTACK,0DOWN TACK,0UP TACK,0ASSERTION,0MODELS,0TRUE,0FORCES",
  "0TRIPLExBARpTURNSTILE,0gxBARgpTURNSTILE,0DOES NOT PROVE,0NOT TRUE,0DOES NOT FORCE",
  "0NEGATEDgxBARgpTURNSTILE,0PRECEDES UNDER RELATION,0SUCCEEDS UNDER RELATION,0NORMAL SUBGROUP OF",
  "0CONTAINS AS NORMAL SUBGROUP,0NORMAL SUBGROUP OF OR EQUAL TO",
  "0CONTAINS AS NORMAL SUBGROUP OR EQUAL TO,0ORIGINAL OF,0IMAGE OF,0MULTIMAP",
  "0HERMITIAN CONJUGATE MATRIX,0INTERCALATE,0XOR,0NAND,0NOR,0pANGLEzARC,1TRIANGLE,0N-ARY LOGICALb",
  "2OR,1INTERSECTION,1UNION,0DIAMOND OPERATOR,0DOT OPERATOR,0STAR OPERATOR,0DIVISION TIMES",
  "0BOWTIE,0lNORMAL FACTOR SEMIDIRECT PRODUCT,0pNORMAL FACTOR SEMIDIRECT PRODUCT",
  "0lSEMIDIRECT PRODUCT,0pSEMIDIRECT PRODUCT,0REVERSED TILDE EQUALS,0CURLY LOGICAL OR,2b,0gSUBSET",
  "1SUPERSET,1INTERSECTION,1UNION,0PITCHFORK,0EQUALbPARALLEL TO,0LESS-THANzDOT,0GREATER-THANzDOT",
  "0VERY MUCH LESS-THAN,2GREATER-THAN,0LESS-THAN EQUAL TO OR GREATER-THAN",
  "0GREATER-THAN EQUAL TO OR LESS-THAN,0EQUAL TO OR LESS-THAN,3GREATER-THAN,3PRECEDES,3SUCCEEDS",
  "0DOES NOT PRECEDE OR EQUAL,2SUCCEED OR EQUAL,0NOT SQUARE IMAGE OF OR EQUAL TO",
  "2ORIGINAL OF OR EQUAL TO,0SQUARE IMAGE OF OR NOT EQUAL TO,1ORIGINAL OF OR NOT EQUAL TO",
  "0LESS-THAN BUT NOT EQUIVALENT TO,0GREATER-THAN BUT NOT EQUIVALENT TO",
  "0PRECEDES BUT NOT EQUIVALENT TO,0SUCCEEDS BUT NOT EQUIVALENT TO,0NOT NORMAL SUBGROUP OF",
  "0DOES NOT CONTAIN AS NORMAL SUBGROUP,0NOT NORMAL SUBGROUP OF OR EQUAL TO",
  "0DOES NOT CONTAIN AS NORMAL SUBGROUP OR EQUAL,0xELLIPSIS,0MIDLINE HORIZONTAL ELLIPSIS",
  "0UPpDIAGONAL ELLIPSIS,0DOWNpDIAGONAL ELLIPSIS,0ELEMENT OFzLONG HORIZONTALt",
  "3xBAR AT END OF HORIZONTALt,0sELEMENT OFzxBAR AT END OF HORIZONTALt,0ELEMENT OFzDOTa,3OVERBAR",
  "0sELEMENT OFzOVERBAR,0ELEMENT OFzUNDERBAR,3TWO HORIZONTAL STROKES,0CONTAINSzLONG HORIZONTALt",
  "2xBAR AT END OF HORIZONTALt,0sCONTAINSzxBAR AT END OF HORIZONTALt,0CONTAINSzOVERBAR",
  "0sCONTAINSzOVERBAR,0Z NOTATION BAG MEMBERSHIP"]

end PhraseStructure.Text.CharacterName
