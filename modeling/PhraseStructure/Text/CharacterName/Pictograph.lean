/-!
# Names of pictographs

Pictures of things and faces, and tags.
-/

namespace PhraseStructure.Text.CharacterName

/-- The names of characters from U+1F000 on, below U+110000. -/
def pictographNames : List String := [
  "@1F000,0MAHJONG TILE EAST WIND,2SOUTH WIND,2WEST WIND,2NORTH WIND,2RED DRAGON,2GREEN DRAGON",
  "2yDRAGON,2ONE OF CHARACTERS,2TWO OF CHARACTERS,2vOF CHARACTERS,2FOUR OF CHARACTERS",
  "2FIVE OF CHARACTERS,2SIX OF CHARACTERS,2SEVEN OF CHARACTERS,2EIGHT OF CHARACTERS",
  "2NINE OF CHARACTERS,2ONE OF BAMBOOS,2TWO OF BAMBOOS,2vOF BAMBOOS,2FOUR OF BAMBOOS",
  "2FIVE OF BAMBOOS,2SIX OF BAMBOOS,2SEVEN OF BAMBOOS,2EIGHT OF BAMBOOS,2NINE OF BAMBOOS",
  "2ONE OF CIRCLES,2TWO OF CIRCLES,2vOF CIRCLES,2FOUR OF CIRCLES,2FIVE OF CIRCLES,2SIX OF CIRCLES",
  "2SEVEN OF CIRCLES,2EIGHT OF CIRCLES,2NINE OF CIRCLES,2PLUM,2ORCHID,2BAMBOO,2CHRYSANTHEMUM",
  "2SPRING,2SUMMER,2AUTUMN,2WINTER,2JOKER,2BACK,@1F030,0DOMINO TILE HORIZONTAL BACK",
  "2HORIZONTAL-00-00,2HORIZONTAL-00-01,2HORIZONTAL-00-02,2HORIZONTAL-00-03,2HORIZONTAL-00-04",
  "2HORIZONTAL-00-05,2HORIZONTAL-00-06,2HORIZONTAL-01-00,2HORIZONTAL-01-01,2HORIZONTAL-01-02",
  "2HORIZONTAL-01-03,2HORIZONTAL-01-04,2HORIZONTAL-01-05,2HORIZONTAL-01-06,2HORIZONTAL-02-00",
  "2HORIZONTAL-02-01,2HORIZONTAL-02-02,2HORIZONTAL-02-03,2HORIZONTAL-02-04,2HORIZONTAL-02-05",
  "2HORIZONTAL-02-06,2HORIZONTAL-03-00,2HORIZONTAL-03-01,2HORIZONTAL-03-02,2HORIZONTAL-03-03",
  "2HORIZONTAL-03-04,2HORIZONTAL-03-05,2HORIZONTAL-03-06,2HORIZONTAL-04-00,2HORIZONTAL-04-01",
  "2HORIZONTAL-04-02,2HORIZONTAL-04-03,2HORIZONTAL-04-04,2HORIZONTAL-04-05,2HORIZONTAL-04-06",
  "2HORIZONTAL-05-00,2HORIZONTAL-05-01,2HORIZONTAL-05-02,2HORIZONTAL-05-03,2HORIZONTAL-05-04",
  "2HORIZONTAL-05-05,2HORIZONTAL-05-06,2HORIZONTAL-06-00,2HORIZONTAL-06-01,2HORIZONTAL-06-02",
  "2HORIZONTAL-06-03,2HORIZONTAL-06-04,2HORIZONTAL-06-05,2HORIZONTAL-06-06,2xBACK,2VERTICAL-00-00",
  "2VERTICAL-00-01,2VERTICAL-00-02,2VERTICAL-00-03,2VERTICAL-00-04,2VERTICAL-00-05",
  "2VERTICAL-00-06,2VERTICAL-01-00,2VERTICAL-01-01,2VERTICAL-01-02,2VERTICAL-01-03",
  "2VERTICAL-01-04,2VERTICAL-01-05,2VERTICAL-01-06,2VERTICAL-02-00,2VERTICAL-02-01",
  "2VERTICAL-02-02,2VERTICAL-02-03,2VERTICAL-02-04,2VERTICAL-02-05,2VERTICAL-02-06",
  "2VERTICAL-03-00,2VERTICAL-03-01,2VERTICAL-03-02,2VERTICAL-03-03,2VERTICAL-03-04",
  "2VERTICAL-03-05,2VERTICAL-03-06,2VERTICAL-04-00,2VERTICAL-04-01,2VERTICAL-04-02",
  "2VERTICAL-04-03,2VERTICAL-04-04,2VERTICAL-04-05,2VERTICAL-04-06,2VERTICAL-05-00",
  "2VERTICAL-05-01,2VERTICAL-05-02,2VERTICAL-05-03,2VERTICAL-05-04,2VERTICAL-05-05",
  "2VERTICAL-05-06,2VERTICAL-06-00,2VERTICAL-06-01,2VERTICAL-06-02,2VERTICAL-06-03",
  "2VERTICAL-06-04,2VERTICAL-06-05,2VERTICAL-06-06,@1F0A0,0PLAYING CARD BACK,2ACE OF SPADES",
  "2TWO OF SPADES,2vOF SPADES,2FOUR OF SPADES,2FIVE OF SPADES,2SIX OF SPADES,2SEVEN OF SPADES",
  "2EIGHT OF SPADES,2NINE OF SPADES,2TEN OF SPADES,2JACK OF SPADES,2KNIGHT OF SPADES",
  "2QUEEN OF SPADES,2KING OF SPADES,@1F0B1,0PLAYING CARD ACE OF HEARTS,2TWO OF HEARTS,2vOF HEARTS",
  "2FOUR OF HEARTS,2FIVE OF HEARTS,2SIX OF HEARTS,2SEVEN OF HEARTS,2EIGHT OF HEARTS",
  "2NINE OF HEARTS,2TEN OF HEARTS,2JACK OF HEARTS,2KNIGHT OF HEARTS,2QUEEN OF HEARTS",
  "2KING OF HEARTS,2RED JOKER,@1F0C1,0PLAYING CARD ACE OF DIAMONDS,2TWO OF DIAMONDS,2vOF DIAMONDS",
  "2FOUR OF DIAMONDS,2FIVE OF DIAMONDS,2SIX OF DIAMONDS,2SEVEN OF DIAMONDS,2EIGHT OF DIAMONDS",
  "2NINE OF DIAMONDS,2TEN OF DIAMONDS,2JACK OF DIAMONDS,2KNIGHT OF DIAMONDS,2QUEEN OF DIAMONDS",
  "2KING OF DIAMONDS,2eJOKER,@1F0D1,0PLAYING CARD ACE OF CLUBS,2TWO OF CLUBS,2vOF CLUBS",
  "2FOUR OF CLUBS,2FIVE OF CLUBS,2SIX OF CLUBS,2SEVEN OF CLUBS,2EIGHT OF CLUBS,2NINE OF CLUBS",
  "2TEN OF CLUBS,2JACK OF CLUBS,2KNIGHT OF CLUBS,2QUEEN OF CLUBS,2KING OF CLUBS,2yJOKER,2FOOL",
  "2TRUMP-1,2TRUMP-2,2TRUMP-3,2TRUMP-4,2TRUMP-5,2TRUMP-6,2TRUMP-7,2TRUMP-8,2TRUMP-9,2TRUMP-10",
  "2TRUMP-11,2TRUMP-12,2TRUMP-13,2TRUMP-14,2TRUMP-15,2TRUMP-16,2TRUMP-17,2TRUMP-18,2TRUMP-19",
  "2TRUMP-20,2TRUMP-21,@1F100,0DIGIT ZERO FULL STOP,2COMMA,1ONE COMMA,1TWO COMMA,1vCOMMA",
  "1FOUR COMMA,1FIVE COMMA,1SIX COMMA,1SEVEN COMMA,1EIGHT COMMA,1NINE COMMA",
  "0DINGBAT CIRCLED SANS-SERIF DIGIT ZERO,1NEGATIVE CIRCLED SANS-SERIF DIGIT ZERO",
  "0CIRCLED ZEROzSLASH,1ANTICLOCKWISEc,1DOLLARrzOVERLAID BACKSLASH,0PARENTHESIZED LATINfnA,4B,4C",
  "4D,4E,4F,4G,4H,4I,4J,4K,4L,4M,4N,4O,4P,4Q,4R,4S,4T,4U,4V,4W,4X,4Y,4Z",
  "0TORTOISE SHELL BRACKETED LATINfnS,0CIRCLED ITALIC LATINfnC,5R,1CD,1WZ,0COPYLEFTu",
  "0SQUARED LATINfnA,4B,4C,4D,4E,4F,4G,4H,4I,4J,4K,4L,4M,4N,4O,4P,4Q,4R,4S,4T,4U,4V,4W,4X,4Y,4Z",
  "1HV,1MV,1SD,1SS,1PPV,1WC,0NEGATIVE CIRCLED LATINfnA,5B,5C,5D,5E,5F,5G,5H,5I,5J,5K,5L,5M,5N,5O",
  "5P,5Q,5R,5S,5T,5U,5V,5W,5X,5Y,5Z,0RAISED MCr,1MDr,1MRr,0CIRCLED CC,1CzOVERLAID BACKSLASH",
  "1HUMAN FIGURE,0NEGATIVE SQUARED LATINfnA,5B,5C,5D,5E,5F,5G,5H,5I,5J,5K,5L,5M,5N,5O,5P,5Q,5R,5S",
  "5T,5U,5V,5W,5X,5Y,5Z,0CROSSED NEGATIVE SQUARED LATINfnP,0NEGATIVE SQUARED IC,2PA,2SA,2AB,2WC",
  "0SQUARE DJ,0SQUARED CL,1COOL,1FREE,1ID,1NEW,1NG,1OK,1SOS,1UPzEXCLAMATIONo,1VS,1vD",
  "1SECOND SCREEN,1TWO K,1FOUR K,1EIGHT K,1FIVE POINT ONE,1SEVEN POINT ONE,1TWENTY-TWO POINT TWO",
  "1SIXTY P,1ONE HUNDRED TWENTY P,1LATINsnD,1HC,1HDR,1HI-RES,1LOSSLESS,1SHV,1UHD,1VOD,0MASK WORKu",
  "@1F1E6,0REGIONAL INDICATORunA,4B,4C,4D,4E,4F,4G,4H,4I,4J,4K,4L,4M,4N,4O,4P,4Q,4R,4S,4T,4U,4V",
  "4W,4X,4Y,4Z,0SQUARE HIRAGANA HOKA,0SQUARED KATAKANA KOKO,2SA,@1F210",
  "0SQUARED CJK UNIFIED IDEOGRAPH-624B,3IDEOGRAPH-5B57,3IDEOGRAPH-53CC,1KATAKANA DE",
  "1CJK UNIFIED IDEOGRAPH-4E8C,3IDEOGRAPH-591A,3IDEOGRAPH-89E3,3IDEOGRAPH-5929,3IDEOGRAPH-4EA4",
  "3IDEOGRAPH-6620,3IDEOGRAPH-7121,3IDEOGRAPH-6599,3IDEOGRAPH-524D,3IDEOGRAPH-5F8C",
  "3IDEOGRAPH-518D,3IDEOGRAPH-65B0,3IDEOGRAPH-521D,3IDEOGRAPH-7D42,3IDEOGRAPH-751F",
  "3IDEOGRAPH-8CA9,3IDEOGRAPH-58F0,3IDEOGRAPH-5439,3IDEOGRAPH-6F14,3IDEOGRAPH-6295",
  "3IDEOGRAPH-6355,3IDEOGRAPH-4E00,3IDEOGRAPH-4E09,3IDEOGRAPH-904A,3IDEOGRAPH-5DE6",
  "3IDEOGRAPH-4E2D,3IDEOGRAPH-53F3,3IDEOGRAPH-6307,3IDEOGRAPH-8D70,3IDEOGRAPH-6253",
  "3IDEOGRAPH-7981,3IDEOGRAPH-7A7A,3IDEOGRAPH-5408,3IDEOGRAPH-6E80,3IDEOGRAPH-6709",
  "3IDEOGRAPH-6708,3IDEOGRAPH-7533,3IDEOGRAPH-5272,3IDEOGRAPH-55B6,3IDEOGRAPH-914D,@1F240",
  "0TORTOISE SHELL BRACKETED CJK UNIFIED IDEOGRAPH-672C,5IDEOGRAPH-4E09,5IDEOGRAPH-4E8C",
  "5IDEOGRAPH-5B89,5IDEOGRAPH-70B9,5IDEOGRAPH-6253,5IDEOGRAPH-76D7,5IDEOGRAPH-52DD",
  "5IDEOGRAPH-6557,@1F250,0CIRCLED IDEOGRAPH ADVANTAGE,2ACCEPT,@1F260,0ROUNDEDuFOR FU,3LU,3SHOU",
  "3XI,3SHUANGXI,3CAI,@1F300,0CYCLONE,0FOGGY,0CLOSED UMBRELLA,0NIGHTzSTARS",
  "0SUNRISE OVER MOUNTAINS,1,0CITYSCAPE AT DUSK,0SUNSET OVER BUILDINGS,0RAINBOW,0BRIDGE AT NIGHT",
  "0WATER WAVE,0VOLCANO,0MILKY WAY,0EARTH GLOBE EUROPE-AFRICA,2AMERICAS,2ASIA-AUSTRALIA",
  "0GLOBEzMERIDIANS,0NEW MOONu,0WAXING CRESCENT MOONu,0FIRST QUARTER MOONu,0WAXING GIBBOUS MOONu",
  "0FULL MOONu,0WANING GIBBOUS MOONu,0LAST QUARTER MOONu,0WANING CRESCENT MOONu,0CRESCENT MOON",
  "0NEW MOONzFACE,0FIRST QUARTER MOONzFACE,0LAST QUARTER MOONzFACE,0FULL MOONzFACE,0SUNzFACE",
  "0GLOWING STAR,0SHOOTING STAR,0THERMOMETER,0eDROPLET,0ySUN,2zsCLOUD,2BEHIND CLOUD,4zRAIN",
  "0CLOUDzRAIN,2SNOW,2LIGHTNING,2TORNADO,0FOG,0WIND BLOWING FACE,0HOT DOG,0TACO,0BURRITO",
  "0CHESTNUT,0SEEDLING,0EVERGREEN TREE,0DECIDUOUS TREE,0PALM TREE,0CACTUS,0HOT PEPPER,0TULIP",
  "0CHERRY BLOSSOM,0ROSE,0HIBISCUS,0SUNFLOWER,0BLOSSOM,0EAR OF MAIZE,2RICE,0HERB",
  "0FOUR LEAF CLOVER,0MAPLE LEAF,0FALLEN LEAF,0LEAF FLUTTERING IN WIND,0MUSHROOM,0TOMATO",
  "0AUBERGINE,0GRAPES,0MELON,0WATERMELON,0TANGERINE,0LEMON,0BANANA,0PINEAPPLE,0RED APPLE",
  "0GREEN APPLE,0PEAR,0PEACH,0CHERRIES,0STRAWBERRY,0HAMBURGER,0SLICE OF PIZZA,0MEAT ON BONE",
  "0POULTRY LEG,0RICE CRACKER,1BALL,0COOKED RICE,0CURRYbRICE,0STEAMING BOWL,0SPAGHETTI,0BREAD",
  "0FRENCH FRIES,0ROASTED SWEET POTATO,0DANGO,0ODEN,0SUSHI,0FRIED SHRIMP,0FISH CAKEzSWIRL DESIGN",
  "0SOFT ICE CREAM,0SHAVED ICE,0ICE CREAM,0DOUGHNUT,0COOKIE,0CHOCOLATE BAR,0CANDY,0LOLLIPOP",
  "0CUSTARD,0HONEY POT,0SHORTCAKE,0BENTO BOX,0POT OF FOOD,0COOKING,0FORKbKNIFE",
  "0TEACUP WITHOUT HANDLE,0SAKE BOTTLEbCUP,0WINE GLASS,0COCKTAIL GLASS,0TROPICAL DRINK,0BEER MUG",
  "0CLINKING BEER MUGS,0BABY BOTTLE,0FORKbKNIFEzPLATE,0BOTTLEzPOPPING CORK,0POPCORN,0RIBBON",
  "0WRAPPED PRESENT,0BIRTHDAY CAKE,0JACK-O-LANTERN,0CHRISTMAS TREE,0FATHER CHRISTMAS,0FIREWORKS",
  "0FIREWORK SPARKLER,0BALLOON,0PARTY POPPER,0CONFETTI BALL,0TANABATA TREE,0CROSSED FLAGS",
  "0PINE DECORATION,0JAPANESE DOLLS,0CARP STREAMER,0WIND CHIME,0MOON VIEWING CEREMONY",
  "0SCHOOL SATCHEL,0GRADUATION CAP,0HEARTzTIP ON THEl,0BOUQUET OF FLOWERS,0MILITARY MEDAL",
  "0REMINDER RIBBON,0MUSICAL KEYBOARDzJACKS,0STUDIO MICROPHONE,0LEVEL SLIDER,0CONTROL KNOBS",
  "0BEAMED ASCENDING MUSICAL NOTES,1DESCENDING MUSICAL NOTES,0FILM FRAMES,0ADMISSION TICKETS",
  "0CAROUSEL HORSE,0FERRIS WHEEL,0ROLLER COASTER,0FISHING POLEbFISH,0MICROPHONE,0MOVIE CAMERA",
  "0CINEMA,0HEADPHONE,0ARTIST PALETTE,0TOP HAT,0CIRCUS TENT,0TICKET,0CLAPPER BOARD",
  "0PERFORMING ARTS,0VIDEO GAME,0DIRECT HIT,0SLOT MACHINE,0BILLIARDS,0GAME DIE,0BOWLING",
  "0FLOWER PLAYING CARDS,0MUSICAL NOTE,0MULTIPLE MUSICAL NOTES,0SAXOPHONE,0GUITAR",
  "0MUSICAL KEYBOARD,0TRUMPET,0VIOLIN,0MUSICAL SCORE,0RUNNING SHIRTzSASH,0TENNIS RACQUETbBALL",
  "0SKIbSKI BOOT,0BASKETBALLbHOOP,0CHEQUERED FLAG,0SNOWBOARDER,0RUNNER,0SURFER,0SPORTS MEDAL",
  "0TROPHY,0HORSE RACING,0AMERICAN FOOTBALL,0RUGBY FOOTBALL,0SWIMMER,0WEIGHT LIFTER,0GOLFER",
  "0RACING MOTORCYCLE,1CAR,0CRICKET BATbBALL,0VOLLEYBALL,0FIELD HOCKEY STICKbBALL",
  "0ICE HOCKEY STICKbPUCK,0TABLE TENNIS PADDLEbBALL,0SNOW CAPPED MOUNTAIN,0CAMPING",
  "0BEACHzUMBRELLA,0BUILDING CONSTRUCTION,0HOUSE BUILDINGS,0CITYSCAPE,0DERELICT HOUSE BUILDING",
  "0CLASSICAL BUILDING,0DESERT,1ISLAND,0NATIONAL PARK,0STADIUM,0HOUSE BUILDING,1zGARDEN",
  "0OFFICE BUILDING,0JAPANESE POST OFFICE,0EUROPEAN POST OFFICE,0HOSPITAL,0BANK",
  "0AUTOMATED TELLER MACHINE,0HOTEL,0LOVE HOTEL,0CONVENIENCE STORE,0SCHOOL,0DEPARTMENT STORE",
  "0FACTORY,0IZAKAYA LANTERN,0JAPANESE CASTLE,0EUROPEAN CASTLE,0yPENNANT,0ePENNANT,0WAVINGyFLAG",
  "1eFLAG,0ROSETTE,0eROSETTE,0LABEL,0BADMINTON RACQUETbSHUTTLECOCK,0BOWbc,0AMPHORA",
  "0EMOJI MODIFIER FITZPATRICK TYPE-1-2,3TYPE-3,3TYPE-4,3TYPE-5,3TYPE-6,0RAT,0MOUSE,0OX",
  "0WATER BUFFALO,0COW,0TIGER,0LEOPARD,0RABBIT,0CAT,0DRAGON,0CROCODILE,0WHALE,0SNAIL,0SNAKE",
  "0HORSE,0RAM,0GOAT,0SHEEP,0MONKEY,0ROOSTER,0CHICKEN,0DOG,0PIG,0BOAR,0ELEPHANT,0OCTOPUS",
  "0SPIRAL SHELL,0BUG,0ANT,0HONEYBEE,0LADY BEETLE,0FISH,0TROPICAL FISH,0BLOWFISH,0TURTLE",
  "0HATCHING CHICK,0BABY CHICK,0FRONT-FACING BABY CHICK,0BIRD,0PENGUIN,0KOALA,0POODLE",
  "0DROMEDARY CAMEL,0BACTRIAN CAMEL,0DOLPHIN,0MOUSE FACE,0COW FACE,0TIGER FACE,0RABBIT FACE",
  "0CAT FACE,0DRAGON FACE,0SPOUTING WHALE,0HORSE FACE,0MONKEY FACE,0DOG FACE,0PIG FACE,0FROG FACE",
  "0HAMSTER FACE,0WOLF FACE,0BEAR FACE,0PANDA FACE,0PIG NOSE,0PAW PRINTS,0CHIPMUNK,0EYES,0EYE",
  "0EAR,0NOSE,0MOUTH,0TONGUE,0yUP POINTING BACKHAND INDEX,1DOWN POINTING BACKHAND INDEX",
  "1lPOINTING BACKHAND INDEX,1pPOINTING BACKHAND INDEX,0FISTED HANDr,0WAVING HANDr,0OK HANDr",
  "0THUMBS UPr,1DOWNr,0CLAPPING HANDSr,0OPEN HANDSr,0CROWN,0WOMANS HAT,0EYEGLASSES,0NECKTIE",
  "0T-SHIRT,0JEANS,0DRESS,0KIMONO,0BIKINI,0WOMANS CLOTHES,0PURSE,0HANDBAG,0POUCH,0MANS SHOE",
  "0ATHLETIC SHOE,0HIGH-HEELED SHOE,0WOMANS SANDAL,1BOOTS,0FOOTPRINTS,0BUST IN SILHOUETTE",
  "0BUSTS IN SILHOUETTE,0BOY,0GIRL,0MAN,0WOMAN,0FAMILY,0MANbWOMAN HOLDING HANDS",
  "0TWO MEN HOLDING HANDS,1WOMEN HOLDING HANDS,0POLICE OFFICER,0WOMANzBUNNY EARS,0BRIDEzVEIL",
  "0PERSONzBLOND HAIR,0MANzGUA PI MAO,2TURBAN,0OLDER MAN,1WOMAN,0BABY,0CONSTRUCTION WORKER",
  "0PRINCESS,0JAPANESE OGRE,1GOBLIN,0GHOST,0BABY ANGEL,0EXTRATERRESTRIAL ALIEN,0ALIEN MONSTER",
  "0IMP,0SKULL,0INFORMATION DESK PERSON,0GUARDSMAN,0DANCER,0LIPSTICK,0NAIL POLISH,0FACE MASSAGE",
  "0HAIRCUT,0BARBER POLE,0SYRINGE,0PILL,0KISSo,0LOVEn,0RING,0GEM STONE,0KISS,0BOUQUET",
  "0COUPLEzHEART,0WEDDING,0BEATING HEART,0BROKEN HEART,0TWO HEARTS,0SPARKLING HEART",
  "0GROWING HEART,0HEARTzc,0BLUE HEART,0GREEN HEART,0YELLOW HEART,0PURPLE HEART,0HEARTzRIBBON",
  "0REVOLVING HEARTS,0HEART DECORATION,0DIAMOND SHAPEzA DOT INSIDE,0ELECTRIC LIGHT BULB,0ANGERu",
  "0BOMB,0SLEEPINGu,0COLLISIONu,0SPLASHING SWEATu,0DROPLET,0DASHu,0PILE OF POO,0FLEXED BICEPS",
  "0DIZZYu,0SPEECH BALLOON,0THOUGHT BALLOON,0yFLOWER,0HUNDRED POINTSu,0MONEY BAG",
  "0CURRENCY EXCHANGE,0HEAVY DOLLARr,0CREDIT CARD,0BANKNOTEzYENr,2DOLLARr,2EUROr,2POUNDr",
  "0MONEYzWINGS,0CHARTzUPWARDS TRENDbYENr,0SEAT,0PERSONAL COMPUTER,0BRIEFCASE,0MINIDISC",
  "0FLOPPY DISK,0OPTICAL DISC,0DVD,0FILE FOLDER,0OPEN FILE FOLDER,0PAGEzCURL,1FACING UP,0CALENDAR",
  "0TEAR-OFF CALENDAR,0CARD INDEX,0CHARTzUPWARDS TREND,2DOWNWARDS TREND,0BAR CHART,0CLIPBOARD",
  "0PUSHPIN,0ROUND PUSHPIN,0PAPERCLIP,0STRAIGHT RULER,0TRIANGULAR RULER,0BOOKMARK TABS,0LEDGER",
  "0NOTEBOOK,1zDECORATIVE COVER,0CLOSED BOOK,0OPEN BOOK,0GREEN BOOK,0BLUE BOOK,0ORANGE BOOK",
  "0BOOKS,0NAME BADGE,0SCROLL,0MEMO,0TELEPHONE RECEIVER,0PAGER,0FAX MACHINE,0SATELLITE ANTENNA",
  "0PUBLIC ADDRESS LOUDSPEAKER,0CHEERING MEGAPHONE,0OUTBOX TRAY,0INBOX TRAY,0PACKAGE,0E-MAILu",
  "0INCOMING ENVELOPE,0ENVELOPEzDOWNWARDSca,0CLOSED MAILBOXzLOWERED FLAG,3RAISED FLAG",
  "0OPEN MAILBOXzRAISED FLAG,3LOWERED FLAG,0POSTBOX,0POSTAL HORN,0NEWSPAPER,0MOBILE PHONE,2zqcATl",
  "0VIBRATION MODE,0MOBILE PHONE OFF,0NO MOBILE PHONES,0ANTENNAzBARS,0CAMERA,1zFLASH",
  "0VIDEO CAMERA,0TELEVISION,0RADIO,0VIDEOCASSETTE,0FILM PROJECTOR,0PORTABLE STEREO,0PRAYER BEADS",
  "0TWISTEDqARROWS,0CLOCKWISEqbmOPEN CIRCLE ARROWS,7zCIRCLED ONE OVERLAY",
  "1DOWNWARDSbUPWARDS OPEN CIRCLE ARROWS,0ANTICLOCKWISE DOWNWARDSbUPWARDS OPEN CIRCLE ARROWS",
  "0LOW BRIGHTNESSu,0HIGH BRIGHTNESSu,0SPEAKERzCANCELLATIONt,1,1zONE SOUND WAVE,2vSOUND WAVES",
  "0BATTERY,0ELECTRIC PLUG,0LEFT-POINTING MAGNIFYING GLASS,0RIGHT-POINTING MAGNIFYING GLASS",
  "0LOCKzINK PEN,0CLOSED LOCKzKEY,0KEY,0LOCK,0OPEN LOCK,0BELL,1zCANCELLATIONt,0BOOKMARK,0LINKu",
  "0RADIO BUTTON,0BACKzmca,0ENDzmca,0ONzEXCLAMATIONozlpca,0SOONzqca,0TOPzUPWARDSca",
  "0NO ONE UNDER EIGHTEENu,0KEYCAP TEN,0INPUTuFOR LATINfLETTERS,4sLETTERS,3NUMBERS,3SYMBOLS",
  "3LATIN LETTERS,0FIRE,0ELECTRIC TORCH,0WRENCH,0HAMMER,0NUTbBOLT,0HOCHO,0PISTOL,0MICROSCOPE",
  "0TELESCOPE,0CRYSTAL BALL,0SIX POINTED STARzMIDDLE DOT,0JAPANESEuFOR BEGINNER,0TRIDENT EMBLEM",
  "0eSQUARE BUTTON,0ySQUARE BUTTON,0LARGE RED CIRCLE,1BLUE CIRCLE,1ORANGE DIAMOND,1BLUE DIAMOND",
  "0sORANGE DIAMOND,1BLUE DIAMOND,0UP-POINTING RED TRIANGLE,0DOWN-POINTING RED TRIANGLE",
  "0UP-POINTINGsRED TRIANGLE,0DOWN-POINTINGsRED TRIANGLE,0LOWERpSHADOWEDyCIRCLE",
  "0UPPERpSHADOWEDyCIRCLE,0CIRCLED CROSS POMMEE,0CROSS POMMEEzHALF-CIRCLEd,2",
  "0NOTCHEDlSEMICIRCLEzvDOTS,1pSEMICIRCLEzvDOTS,0uFOR MARKS CHAPTER,0yLATIN CROSS",
  "0HEAVY LATIN CROSS,0CELTIC CROSS,0OMu,0DOVE OF PEACE,0KAABA,0MOSQUE,0SYNAGOGUE",
  "0MENORAHzNINE BRANCHES,0BOWL OF HYGIEIA,0CLOCK FACE ONE OCLOCK,2TWO OCLOCK,2vOCLOCK",
  "2FOUR OCLOCK,2FIVE OCLOCK,2SIX OCLOCK,2SEVEN OCLOCK,2EIGHT OCLOCK,2NINE OCLOCK,2TEN OCLOCK",
  "2ELEVEN OCLOCK,2TWELVE OCLOCK,2ONE-THIRTY,2TWO-THIRTY,2THREE-THIRTY,2FOUR-THIRTY,2FIVE-THIRTY",
  "2SIX-THIRTY,2SEVEN-THIRTY,2EIGHT-THIRTY,2NINE-THIRTY,2TEN-THIRTY,2ELEVEN-THIRTY,2TWELVE-THIRTY",
  "0pSPEAKER,2zONE SOUND WAVE,3vSOUND WAVES,0BULLHORN,1zSOUND WAVES,0RINGING BELL,0BOOK,0CANDLE",
  "0MANTELPIECE CLOCK,0eSKULLbCROSSBONES,0NO PIRACY,0HOLE,0MAN IN BUSINESS SUIT LEVITATING",
  "0SLEUTH OR SPY,0DARK SUNGLASSES,0SPIDER,1WEB,0JOYSTICK,0MAN DANCING,0lHAND TELEPHONE RECEIVER",
  "0TELEPHONE RECEIVERzPAGE,0pHAND TELEPHONE RECEIVER,0yTOUCHTONE TELEPHONE,0eTOUCHTONE TELEPHONE",
  "0TELEPHONE ON TOP OF MODEM,0CLAMSHELL MOBILE PHONE,0BACK OF ENVELOPE,0STAMPED ENVELOPE",
  "0ENVELOPEzLIGHTNING,0FLYING ENVELOPE,0PEN OVER STAMPED ENVELOPE,0LINKED PAPERCLIPS,0ePUSHPIN",
  "0LOWERlPENCIL,2BALLPOINT PEN,2FOUNTAIN PEN,2PAINTBRUSH,2CRAYON,0lWRITING HAND,0TURNED OK HANDr",
  "0RAISED HANDzFINGERS SPLAYED,0REVERSED RAISED HANDzFINGERS SPLAYED,1THUMBS UPr,2DOWNr",
  "1VICTORY HAND,1HANDzMIDDLE FINGER EXTENDED,0RAISED HANDzPART BETWEEN MIDDLEbRING FINGERS",
  "0yDOWN POINTINGlHAND INDEX,0SIDEWAYSylPOINTING INDEX,2pPOINTING INDEX,1elPOINTING INDEX",
  "2pPOINTING INDEX,0elPOINTING BACKHAND INDEX,1pPOINTING BACKHAND INDEX",
  "0SIDEWAYSyUP POINTING INDEX,2DOWN POINTING INDEX,1eUP POINTING INDEX,2DOWN POINTING INDEX",
  "0eUP POINTING BACKHAND INDEX,1DOWN POINTING BACKHAND INDEX,1HEART,0DESKTOP COMPUTER",
  "0KEYBOARDbMOUSE,0vNETWORKED COMPUTERS,0PRINTER,0POCKET CALCULATOR,0eHARD SHELL FLOPPY DISK",
  "0yHARD SHELL FLOPPY DISK,0SOFT SHELL FLOPPY DISK,0TAPE CARTRIDGE,0WIRED KEYBOARD",
  "0ONE BUTTON MOUSE,0TWO BUTTON MOUSE,0vBUTTON MOUSE,0TRACKBALL,0OLD PERSONAL COMPUTER",
  "0HARD DISK,0SCREEN,0PRINTER ICON,0FAX ICON,0OPTICAL DISC ICON,0DOCUMENTzTEXT,3bPICTURE",
  "2PICTURE,0FRAMEzPICTURE,2TILES,2AN X,0eFOLDER,0FOLDER,0OPEN FOLDER,0CARD INDEX DIVIDERS",
  "1FILE BOX,0FILE CABINET,0EMPTY NOTE,2PAGE,2PAD,0NOTE,1PAGE,1PAD,0EMPTY DOCUMENT,1PAGE,1PAGES",
  "0DOCUMENT,0PAGE,0PAGES,0WASTEBASKET,0SPIRAL NOTE PAD,1CALENDAR PAD,0DESKTOP WINDOW,0MINIMIZE",
  "0MAXIMIZE,0OVERLAP,0CLOCKWISEpblSEMICIRCLE ARROWS,0CANCELLATION X,0INCREASE FONT SIZEu",
  "0DECREASE FONT SIZEu,0COMPRESSION,0OLD KEY,0ROLLED-UP NEWSPAPER,0PAGEzCIRCLED TEXT",
  "0STOCK CHART,0DAGGER KNIFE,0LIPS,0SPEAKING HEAD IN SILHOUETTE,0vRAYSa,2d,2l,2p,0lSPEECH BUBBLE",
  "0pSPEECH BUBBLE,0TWO SPEECH BUBBLES,0vSPEECH BUBBLES,0lTHOUGHT BUBBLE,0pTHOUGHT BUBBLE",
  "0lANGER BUBBLE,0pANGER BUBBLE,0MOOD BUBBLE,0LIGHTNING MOOD BUBBLE,2,0BALLOT BOXzBALLOT",
  "1SCRIPT X,1BOXzSCRIPT X,1BOLD SCRIPT X,1BOXzBOLD SCRIPT X,0LIGHT CHECKo,0BALLOT BOXzBOLD CHECK",
  "0WORLD MAP,0MOUNT FUJI,0TOKYO TOWER,0STATUE OF LIBERTY,0SILHOUETTE OF JAPAN,0MOYAI",
  "0GRINNING FACE,2zSMILING EYES,0FACEzTEARS OF JOY,0SMILING FACEzOPEN MOUTH,5bSMILING EYES",
  "6COLD SWEAT,6TIGHTLY-CLOSED EYES,3HALO,3HORNS,0WINKING FACE,0SMILING FACEzSMILING EYES",
  "0FACE SAVOURING DELICIOUS FOOD,0RELIEVED FACE,0SMILING FACEzHEART-SHAPED EYES,3SUNGLASSES",
  "0SMIRKING FACE,0NEUTRAL FACE,0EXPRESSIONLESS FACE,0UNAMUSED FACE,0FACEzCOLD SWEAT",
  "0PENSIVE FACE,0CONFUSED FACE,0CONFOUNDED FACE,0KISSING FACE,0FACE THROWING A KISS",
  "0KISSING FACEzSMILING EYES,3CLOSED EYES,0FACEzSTUCK-OUT TONGUE,4bWINKING EYE",
  "5TIGHTLY-CLOSED EYES,0DISAPPOINTED FACE,0WORRIED FACE,0ANGRY FACE,0POUTING FACE,0CRYING FACE",
  "0PERSEVERING FACE,0FACEzLOOK OF TRIUMPH,0DISAPPOINTED BUT RELIEVED FACE",
  "0FROWNING FACEzOPEN MOUTH,0ANGUISHED FACE,0FEARFUL FACE,0WEARY FACE,0SLEEPY FACE,0TIRED FACE",
  "0GRIMACING FACE,0LOUDLY CRYING FACE,0FACEzOPEN MOUTH,0HUSHED FACE,0FACEzOPEN MOUTHbCOLD SWEAT",
  "1SCREAMING IN FEAR,0ASTONISHED FACE,0FLUSHED FACE,0SLEEPING FACE,0DIZZY FACE",
  "0FACE WITHOUT MOUTH,1zMEDICAL MASK,0GRINNING CAT FACEzSMILING EYES,0CAT FACEzTEARS OF JOY",
  "0SMILING CAT FACEzOPEN MOUTH,4HEART-SHAPED EYES,0CAT FACEzWRY SMILE",
  "0KISSING CAT FACEzCLOSED EYES,0POUTING CAT FACE,0CRYING CAT FACE,0WEARY CAT FACE",
  "0SLIGHTLY FROWNING FACE,1SMILING FACE,0UPSIDE-DOWN FACE,0FACEzROLLING EYES,2NO GOOD GESTURE",
  "2OK GESTURE,0PERSON BOWING DEEPLY,0SEE-NO-EVIL MONKEY,0HEAR-NO-EVIL MONKEY",
  "0SPEAK-NO-EVIL MONKEY,0HAPPY PERSON RAISING ONE HAND,0PERSON RAISING BOTH HANDS IN CELEBRATION",
  "1FROWNING,1zPOUTING FACE,2FOLDED HANDS,0NORTH WEST POINTING LEAF,0SOUTH WEST POINTING LEAF",
  "0NORTH EAST POINTING LEAF,0SOUTH EAST POINTING LEAF,0TURNED NORTH WEST POINTING LEAF",
  "1SOUTH WEST POINTING LEAF,1NORTH EAST POINTING LEAF,1SOUTH EAST POINTING LEAF",
  "0NORTH WEST POINTING VINE LEAF,0SOUTH WEST POINTING VINE LEAF,0NORTH EAST POINTING VINE LEAF",
  "0SOUTH EAST POINTING VINE LEAF,0HEAVY NORTH WEST POINTING VINE LEAF",
  "1SOUTH WEST POINTING VINE LEAF,1NORTH EAST POINTING VINE LEAF,1SOUTH EAST POINTING VINE LEAF",
  "0NORTH WEST POINTING BUD,0SOUTH WEST POINTING BUD,0NORTH EAST POINTING BUD",
  "0SOUTH EAST POINTING BUD,0HEAVY NORTH WEST POINTING BUD,1SOUTH WEST POINTING BUD",
  "1NORTH EAST POINTING BUD,1SOUTH EAST POINTING BUD,0HOLLOW QUILT SQUARE ORNAMENT,4INeSQUARE",
  "0SOLID QUILT SQUARE ORNAMENT,4INeSQUARE,0mROCKET,0UPWARDS ROCKET,0qROCKET,0DOWNWARDS ROCKET",
  "0SCRIPT LIGATURE ET ORNAMENT,0HEAVY SCRIPT LIGATURE ET ORNAMENT,0LIGATURE OPEN ET ORNAMENT",
  "0HEAVY LIGATURE OPEN ET ORNAMENT,1AMPERSAND ORNAMENT,0SWASH AMPERSAND ORNAMENT",
  "0SANS-SERIF HEAVYgTURNED COMMA QUOTATIONoORNAMENT,3COMMA QUOTATIONoORNAMENT",
  "2LOWgCOMMA QUOTATIONoORNAMENT,0HEAVY INTERROBANG ORNAMENT,0SANS-SERIF INTERROBANG ORNAMENT",
  "0HEAVY SANS-SERIF INTERROBANG ORNAMENT,0VERY HEAVY SOLIDUS,2REVERSE SOLIDUS,0CHECKER BOARD",
  "0REVERSE CHECKER BOARD,0ROCKET,0HELICOPTER,0STEAM LOCOMOTIVE,0RAILWAY CAR,0HIGH-SPEED TRAIN",
  "2zBULLET NOSE,0TRAIN,0METRO,0LIGHT RAIL,0STATION,0TRAM,1CAR,0BUS,0ONCOMING BUS,0TROLLEYBUS",
  "0BUS STOP,0MINIBUS,0AMBULANCE,0FIRE ENGINE,0POLICE CAR,0ONCOMING POLICE CAR,0TAXI",
  "0ONCOMING TAXI,0AUTOMOBILE,0ONCOMING AUTOMOBILE,0RECREATIONAL VEHICLE,0DELIVERY TRUCK",
  "0ARTICULATED LORRY,0TRACTOR,0MONORAIL,0MOUNTAIN RAILWAY,0SUSPENSION RAILWAY,0MOUNTAIN CABLEWAY",
  "0AERIAL TRAMWAY,0SHIP,0ROWBOAT,0SPEEDBOAT,0HORIZONTAL TRAFFIC LIGHT,0xTRAFFIC LIGHT",
  "0CONSTRUCTIONr,0POLICE CARS REVOLVING LIGHT,0TRIANGULAR FLAG ON POST,0DOOR,0NO ENTRYr",
  "0SMOKINGu,0NO SMOKINGu,0PUT LITTER IN ITS PLACEu,0DO NOT LITTERu,0POTABLE WATERu",
  "0NON-POTABLE WATERu,0BICYCLE,0NO BICYCLES,0BICYCLIST,0MOUNTAIN BICYCLIST,0PEDESTRIAN",
  "0NO PEDESTRIANS,0CHILDREN CROSSING,0MENSu,0WOMENSu,0RESTROOM,0BABYu,0TOILET,0WATER CLOSET",
  "0SHOWER,0BATH,0BATHTUB,0PASSPORT CONTROL,0CUSTOMS,0BAGGAGE CLAIM,0lLUGGAGE",
  "0TRIANGLEzROUNDED CORNERS,0PROHIBITEDr,0CIRCLED INFORMATION SOURCE,0BOYSu,0GIRLSu,0COUCHbLAMP",
  "0SLEEPING ACCOMMODATION,0SHOPPING BAGS,0BELLHOP BELL,0BED,0PLACE OF WORSHIP,0OCTAGONALr",
  "0SHOPPING TROLLEY,0STUPA,0PAGODA,0HINDU TEMPLE,0HUT,0ELEVATOR,@1F6DD,0PLAYGROUND SLIDE,0WHEEL",
  "0RING BUOY,0HAMMERbWRENCH,0SHIELD,0OIL DRUM,0MOTORWAY,0RAILWAY TRACK,0MOTOR BOAT",
  "0UP-POINTING MILITARY AIRPLANE,1AIRPLANE,1sAIRPLANE,0sAIRPLANE,0NORTHEAST-POINTING AIRPLANE",
  "0AIRPLANE DEPARTURE,1ARRIVING,@1F6F0,0SATELLITE,0ONCOMING FIRE ENGINE,0DIESEL LOCOMOTIVE",
  "0PASSENGER SHIP,0SCOOTER,0MOTOR SCOOTER,0CANOE,0SLED,0FLYING SAUCER,0SKATEBOARD,0AUTO RICKSHAW",
  "0PICKUP TRUCK,0ROLLER SKATE,@1F700,0ALCHEMICALuFOR QUINTESSENCE,3AIR,3FIRE,3EARTH,3WATER",
  "3AQUAFORTIS,3AQUA REGIA,4REGIA-2,4VITAE,4VITAE-2,3VINEGAR,3VINEGAR-2,3VINEGAR-3,3SULFUR",
  "3PHILOSOPHERS SULFUR,3eSULFUR,3MERCURY SUBLIMATE,4SUBLIMATE-2,4SUBLIMATE-3,3CINNABAR,3SALT",
  "3NITRE,3VITRIOL,3VITRIOL-2,3ROCK SALT,4SALT-2,3GOLD,3SILVER,3IRON ORE,4ORE-2,3CROCUS OF IRON",
  "3REGULUS OF IRON,3COPPER ORE,3IRON-COPPER ORE,3SUBLIMATE OF COPPER,3CROCUS OF COPPER,5COPPER-2",
  "3COPPER ANTIMONIATE,3SALT OF COPPER ANTIMONIATE,3SUBLIMATE OF SALT OF COPPER,3VERDIGRIS",
  "3TIN ORE,3LEAD ORE,3ANTIMONY ORE,3SUBLIMATE OF ANTIMONY,3SALT OF ANTIMONY",
  "3SUBLIMATE OF SALT OF ANTIMONY,3VINEGAR OF ANTIMONY,3REGULUS OF ANTIMONY,5ANTIMONY-2,4",
  "3REGULUS-2,3REGULUS-3,3REGULUS-4,3ALKALI,3ALKALI-2,3MARCASITE,3SAL-AMMONIAC,3ARSENIC,3REALGAR",
  "3REALGAR-2,3AURIPIGMENT,3BISMUTH ORE,3TARTAR,3TARTAR-2,3QUICK LIME,3BORAX,3BORAX-2,3BORAX-3",
  "3ALUM,3OIL,3SPIRIT,3TINCTURE,3GUM,3WAX,3POWDER,3CALX,3TUTTY,3CAPUT MORTUUM,3SCEPTER OF JOVE",
  "3CADUCEUS,3TRIDENT,3STARRED TRIDENT,3LODESTONE,3SOAP,3URINE,3HORSE DUNG,3ASHES,3POT ASHES",
  "3BRICK,3POWDERED BRICK,3AMALGAM,3STRATUM SUPER STRATUM,5STRATUM-2,3SUBLIMATION,3PRECIPITATE",
  "3DISTILL,3DISSOLVE,3DISSOLVE-2,3PURIFY,3PUTREFACTION,3CRUCIBLE,3CRUCIBLE-2,3CRUCIBLE-3",
  "3CRUCIBLE-4,3CRUCIBLE-5,3ALEMBIC,3BATH OF MARY,5VAPOURS,3RETORT,3HOUR,3NIGHT,3DAY-NIGHT,3MONTH",
  "3HALF DRAM,4OUNCE,@1F780,0eLEFT-POINTING ISOSCELESpTRIANGLE,1UP-POINTING ISOSCELESpTRIANGLE",
  "1RIGHT-POINTING ISOSCELESpTRIANGLE,1DOWN-POINTING ISOSCELESpTRIANGLE,1SLIGHTLYsCIRCLE",
  "0MEDIUM BOLDyCIRCLE,0BOLDyCIRCLE,0HEAVYyCIRCLE,0VERY HEAVYyCIRCLE,0EXTREMELY HEAVYyCIRCLE",
  "0yCIRCLE CONTAININGesCIRCLE,0ROUND TARGET,0eTINY SQUARE,1SLIGHTLYsSQUARE,0LIGHTySQUARE",
  "0MEDIUMySQUARE,0BOLDySQUARE,0HEAVYySQUARE,0VERY HEAVYySQUARE,0EXTREMELY HEAVYySQUARE",
  "0ySQUARE CONTAININGeVERYsSQUARE,4MEDIUM SQUARE,0SQUARE TARGET,0eTINY DIAMOND,1VERYsDIAMOND",
  "1MEDIUMsDIAMOND,0yDIAMOND CONTAININGeVERYsDIAMOND,4MEDIUM DIAMOND,0DIAMOND TARGET",
  "0eTINY LOZENGE,1VERYsLOZENGE,1MEDIUMsLOZENGE,0yLOZENGE CONTAININGesLOZENGE,0THIN GREEK CROSS",
  "0LIGHT GREEK CROSS,0MEDIUM GREEK CROSS,0BOLD GREEK CROSS,0VERY BOLD GREEK CROSS",
  "1HEAVY GREEK CROSS,0EXTREMELY HEAVY GREEK CROSS,0THIN SALTIRE,0LIGHT SALTIRE,0MEDIUM SALTIRE",
  "0BOLD SALTIRE,0HEAVY SALTIRE,0VERY HEAVY SALTIRE,0EXTREMELY HEAVY SALTIRE",
  "0LIGHT FIVE SPOKED ASTERISK,0MEDIUM FIVE SPOKED ASTERISK,0BOLD FIVE SPOKED ASTERISK",
  "0HEAVY FIVE SPOKED ASTERISK,0VERY HEAVY FIVE SPOKED ASTERISK",
  "0EXTREMELY HEAVY FIVE SPOKED ASTERISK,0LIGHT SIX SPOKED ASTERISK,0MEDIUM SIX SPOKED ASTERISK",
  "0BOLD SIX SPOKED ASTERISK,0HEAVY SIX SPOKED ASTERISK,0VERY HEAVY SIX SPOKED ASTERISK",
  "0EXTREMELY HEAVY SIX SPOKED ASTERISK,0LIGHT EIGHT SPOKED ASTERISK",
  "0MEDIUM EIGHT SPOKED ASTERISK,0BOLD EIGHT SPOKED ASTERISK,0HEAVY EIGHT SPOKED ASTERISK",
  "0VERY HEAVY EIGHT SPOKED ASTERISK,0LIGHTvPOINTEDeSTAR,0MEDIUMvPOINTEDeSTAR,0vPOINTEDeSTAR",
  "0MEDIUMvPOINTED PINWHEEL STAR,0LIGHT FOUR POINTEDeSTAR,0MEDIUM FOUR POINTEDeSTAR",
  "0FOUR POINTEDeSTAR,0MEDIUM FOUR POINTED PINWHEEL STAR",
  "0REVERSE LIGHT FOUR POINTED PINWHEEL STAR,0LIGHT FIVE POINTEDeSTAR,0HEAVY FIVE POINTEDeSTAR",
  "0MEDIUM SIX POINTEDeSTAR,0HEAVY SIX POINTEDeSTAR,0SIX POINTED PINWHEEL STAR",
  "0MEDIUM EIGHT POINTEDeSTAR,0HEAVY EIGHT POINTEDeSTAR,0VERY HEAVY EIGHT POINTEDeSTAR",
  "0HEAVY EIGHT POINTED PINWHEEL STAR,0LIGHT TWELVE POINTEDeSTAR,0HEAVY TWELVE POINTEDeSTAR",
  "3PINWHEEL STAR,0CIRCLED TRIANGLE,0NEGATIVE CIRCLED TRIANGLE,0CIRCLED SQUARE",
  "0NEGATIVE CIRCLED SQUARE,@1F7E0,0LARGE ORANGE CIRCLE,1YELLOW CIRCLE,1GREEN CIRCLE",
  "1PURPLE CIRCLE,1BROWN CIRCLE,1RED SQUARE,1BLUE SQUARE,1ORANGE SQUARE,1YELLOW SQUARE",
  "1GREEN SQUARE,1PURPLE SQUARE,1BROWN SQUARE,@1F7F0,0HEAVY EQUALSr,@1F800",
  "0mczsTRIANGLE ARROWHEAD,0UPWARDSczsTRIANGLE ARROWHEAD,0qczsTRIANGLE ARROWHEAD",
  "0DOWNWARDSczsTRIANGLE ARROWHEAD,0mczMEDIUM TRIANGLE ARROWHEAD",
  "0UPWARDSczMEDIUM TRIANGLE ARROWHEAD,0qczMEDIUM TRIANGLE ARROWHEAD",
  "0DOWNWARDSczMEDIUM TRIANGLE ARROWHEAD,0mczLARGE TRIANGLE ARROWHEAD",
  "0UPWARDSczLARGE TRIANGLE ARROWHEAD,0qczLARGE TRIANGLE ARROWHEAD",
  "0DOWNWARDSczLARGE TRIANGLE ARROWHEAD,@1F810,0mczsEQUILATERAL ARROWHEAD",
  "0UPWARDSczsEQUILATERAL ARROWHEAD,0qczsEQUILATERAL ARROWHEAD,0DOWNWARDSczsEQUILATERAL ARROWHEAD",
  "0mczEQUILATERAL ARROWHEAD,0UPWARDSczEQUILATERAL ARROWHEAD,0qczEQUILATERAL ARROWHEAD",
  "0DOWNWARDSczEQUILATERAL ARROWHEAD,0HEAVYmczEQUILATERAL ARROWHEAD",
  "1UPWARDSczEQUILATERAL ARROWHEAD,1qczEQUILATERAL ARROWHEAD,1DOWNWARDSczEQUILATERAL ARROWHEAD",
  "1mczLARGE EQUILATERAL ARROWHEAD,1UPWARDSczLARGE EQUILATERAL ARROWHEAD",
  "1qczLARGE EQUILATERAL ARROWHEAD,1DOWNWARDSczLARGE EQUILATERAL ARROWHEAD,0mwczNARROW SHAFT",
  "0UPWARDSwczNARROW SHAFT,0qwczNARROW SHAFT,0DOWNWARDSwczNARROW SHAFT,0mwczMEDIUM SHAFT",
  "0UPWARDSwczMEDIUM SHAFT,0qwczMEDIUM SHAFT,0DOWNWARDSwczMEDIUM SHAFT,0mwczBOLD SHAFT",
  "0UPWARDSwczBOLD SHAFT,0qwczBOLD SHAFT,0DOWNWARDSwczBOLD SHAFT,0mwczHEAVY SHAFT",
  "0UPWARDSwczHEAVY SHAFT,0qwczHEAVY SHAFT,0DOWNWARDSwczHEAVY SHAFT,0mwczVERY HEAVY SHAFT",
  "0UPWARDSwczVERY HEAVY SHAFT,0qwczVERY HEAVY SHAFT,0DOWNWARDSwczVERY HEAVY SHAFT,0mFINGER-POSTc",
  "0UPWARDS FINGER-POSTc,0qFINGER-POSTc,0DOWNWARDS FINGER-POSTc,0mSQUAREDc,0UPWARDS SQUAREDc",
  "0qSQUAREDc,0DOWNWARDS SQUAREDc,0mCOMPRESSEDc,0UPWARDS COMPRESSEDc,0qCOMPRESSEDc",
  "0DOWNWARDS COMPRESSEDc,0mHEAVY COMPRESSEDc,0UPWARDS HEAVY COMPRESSEDc,0qHEAVY COMPRESSEDc",
  "0DOWNWARDS HEAVY COMPRESSEDc,0mHEAVYc,0UPWARDS HEAVYc,0qHEAVYc,0DOWNWARDS HEAVYc,@1F850",
  "0mSANS-SERIFc,0UPWARDS SANS-SERIFc,0qSANS-SERIFc,0DOWNWARDS SANS-SERIFc",
  "0NORTH WEST SANS-SERIFc,1EAST SANS-SERIFc,0SOUTH EAST SANS-SERIFc,1WEST SANS-SERIFc",
  "0lpSANS-SERIFc,0UP DOWN SANS-SERIFc,@1F860,0WIDE-HEADEDmLIGHT BARBc,1UPWARDS LIGHT BARBc",
  "1qLIGHT BARBc,1DOWNWARDS LIGHT BARBc,1NORTH WEST LIGHT BARBc,2EAST LIGHT BARBc",
  "1SOUTH EAST LIGHT BARBc,2WEST LIGHT BARBc,1mBARBc,1UPWARDS BARBc,1qBARBc,1DOWNWARDS BARBc",
  "1NORTH WEST BARBc,2EAST BARBc,1SOUTH EAST BARBc,2WEST BARBc,1mMEDIUM BARBc",
  "1UPWARDS MEDIUM BARBc,1qMEDIUM BARBc,1DOWNWARDS MEDIUM BARBc,1NORTH WEST MEDIUM BARBc",
  "2EAST MEDIUM BARBc,1SOUTH EAST MEDIUM BARBc,2WEST MEDIUM BARBc,1mHEAVY BARBc",
  "1UPWARDS HEAVY BARBc,1qHEAVY BARBc,1DOWNWARDS HEAVY BARBc,1NORTH WEST HEAVY BARBc",
  "2EAST HEAVY BARBc,1SOUTH EAST HEAVY BARBc,2WEST HEAVY BARBc,1mVERY HEAVY BARBc",
  "1UPWARDS VERY HEAVY BARBc,1qVERY HEAVY BARBc,1DOWNWARDS VERY HEAVY BARBc",
  "1NORTH WEST VERY HEAVY BARBc,2EAST VERY HEAVY BARBc,1SOUTH EAST VERY HEAVY BARBc",
  "2WEST VERY HEAVY BARBc,@1F890,0mTRIANGLE ARROWHEAD,0UPWARDS TRIANGLE ARROWHEAD",
  "0qTRIANGLE ARROWHEAD,0DOWNWARDS TRIANGLE ARROWHEAD,0mycWITHIN TRIANGLE ARROWHEAD",
  "0UPWARDSycWITHIN TRIANGLE ARROWHEAD,0qycWITHIN TRIANGLE ARROWHEAD",
  "0DOWNWARDSycWITHIN TRIANGLE ARROWHEAD,0mczNOTCHED TAIL,0UPWARDSczNOTCHED TAIL,0qczNOTCHED TAIL",
  "0DOWNWARDSczNOTCHED TAIL,0HEAVYcSHAFT WIDTH ONE,4TWO THIRDS,4ONE HALF,5THIRD,0mBOTTOM-SHADEDyc",
  "0qBOTTOM SHADEDyc,0mTOP SHADEDyc,0qTOP SHADEDyc,0mLEFT-SHADEDyc,0qRIGHT-SHADEDyc",
  "0mRIGHT-SHADEDyc,0qLEFT-SHADEDyc,0mBACK-TILTED SHADOWEDyc,0qBACK-TILTED SHADOWEDyc",
  "0mFRONT-TILTED SHADOWEDyc,0qFRONT-TILTED SHADOWEDyc,0ycSHAFT WIDTH ONE,4TWO THIRDS,@1F8B0",
  "0cPOINTING UPWARDS THEN NORTH WEST,2qTHEN CURVING SOUTH WEST,@1F900",
  "0CIRCLED CROSS FORMEEzFOUR DOTS,4TWO DOTS,3,0lHALF CIRCLEzFOUR DOTS,4vDOTS,4TWO DOTS,4DOT,3",
  "0DOWNWARD FACING HOOK,2NOTCHED HOOK,2HOOKzDOT,2NOTCHED HOOKzDOT,0PINCHED FINGERS,0yHEART",
  "0BROWN HEART,0PINCHING HAND,0ZIPPER-MOUTH FACE,0MONEY-MOUTH FACE,0FACEzTHERMOMETER,0NERD FACE",
  "0THINKING FACE,0FACEzHEAD-BANDAGE,0ROBOT FACE,0HUGGING FACE,0rOF THE HORNS,0CALL ME HAND",
  "0RAISED BACK OF HAND,0LEFT-FACING FIST,0RIGHT-FACING FIST,0HANDSHAKE",
  "0HANDzINDEXbMIDDLE FINGERS CROSSED,0I LOVE YOU HANDr,0FACEzCOWBOY HAT,0CLOWN FACE",
  "0NAUSEATED FACE,0ROLLING ON THE FLOOR LAUGHING,0DROOLING FACE,0LYING FACE,0FACE PALM",
  "0SNEEZING FACE,0FACEzONE EYEBROW RAISED,0GRINNING FACEzSTAR EYES,3ONE LARGEbONEsEYE",
  "0FACEzFINGER COVERING CLOSED LIPS,0SERIOUS FACEzSYMBOLS COVERING MOUTH",
  "0SMILING FACEzSMILING EYESbHAND COVERING MOUTH,0FACEzOPEN MOUTH VOMITING",
  "0SHOCKED FACEzEXPLODING HEAD,0PREGNANT WOMAN,0BREAST-FEEDING,0PALMS UP TOGETHER,0SELFIE",
  "0PRINCE,0MAN IN TUXEDO,0MOTHER CHRISTMAS,0SHRUG,0PERSON DOING CARTWHEEL,0JUGGLING,0FENCER",
  "0MODERN PENTATHLON,0WRESTLERS,0WATER POLO,0HANDBALL,0DIVING MASK,0WILTED FLOWER",
  "0DRUMzDRUMSTICKS,0CLINKING GLASSES,0TUMBLER GLASS,0SPOON,0GOAL NET,0RIFLE,0FIRST PLACE MEDAL",
  "0SECOND PLACE MEDAL,0THIRD PLACE MEDAL,0BOXING GLOVE,0MARTIAL ARTS UNIFORM,0CURLING STONE",
  "0LACROSSE STICKbBALL,0SOFTBALL,0FLYING DISC,0CROISSANT,0AVOCADO,0CUCUMBER,0BACON,0POTATO",
  "0CARROT,0BAGUETTE BREAD,0GREEN SALAD,0SHALLOW PAN OF FOOD,0STUFFED FLATBREAD,0EGG",
  "0GLASS OF MILK,0PEANUTS,0KIWIFRUIT,0PANCAKES,0DUMPLING,0FORTUNE COOKIE,0TAKEOUT BOX",
  "0CHOPSTICKS,0BOWLzSPOON,0CUPzSTRAW,0COCONUT,0BROCCOLI,0PIE,0PRETZEL,0CUT OF MEAT,0SANDWICH",
  "0CANNED FOOD,0LEAFY GREEN,0MANGO,0MOON CAKE,0BAGEL,0SMILING FACEzSMILING EYESbvHEARTS",
  "0YAWNING FACE,0SMILING FACEzTEAR,0FACEzPARTY HORNbPARTY HAT,2UNEVEN EYESbWAVY MOUTH",
  "0OVERHEATED FACE,0FREEZING FACE,0NINJA,0DISGUISED FACE,0FACE HOLDING BACK TEARS",
  "1zPLEADING EYES,0SARI,0LAB COAT,0GOGGLES,0HIKING BOOT,0FLAT SHOE,0CRAB,0LION FACE,0SCORPION",
  "0TURKEY,0UNICORN FACE,0EAGLE,0DUCK,0BAT,0SHARK,0OWL,0FOX FACE,0BUTTERFLY,0DEER,0GORILLA",
  "0LIZARD,0RHINOCEROS,0SHRIMP,0SQUID,0GIRAFFE FACE,0ZEBRA FACE,0HEDGEHOG,0SAUROPOD,0T-REX",
  "0CRICKET,0KANGAROO,0LLAMA,0PEACOCK,0HIPPOPOTAMUS,0PARROT,0RACCOON,0LOBSTER,0MOSQUITO,0MICROBE",
  "0BADGER,0SWAN,0MAMMOTH,0DODO,0SLOTH,0OTTER,0ORANGUTAN,0SKUNK,0FLAMINGO,0OYSTER,0BEAVER,0BISON",
  "0SEAL,0GUIDE DOG,0PROBING CANE,0EMOJI COMPONENT RED HAIR,2CURLY HAIR,2BALD,2yHAIR,0BONE,0LEG",
  "0FOOT,0TOOTH,0SUPERHERO,0SUPERVILLAIN,0SAFETY VEST,0EARzHEARING AID,0MOTORIZED WHEELCHAIR",
  "0MANUAL WHEELCHAIR,0MECHANICAL ARM,1LEG,0CHEESE WEDGE,0CUPCAKE,0SALT SHAKER,0BEVERAGE BOX",
  "0GARLIC,0ONION,0FALAFEL,0WAFFLE,0BUTTER,0MATE DRINK,0ICE CUBE,0BUBBLE TEA,0TROLL",
  "0STANDING PERSON,0KNEELING PERSON,0DEAF PERSON,0FACEzMONOCLE,0ADULT,0CHILD,0OLDER ADULT",
  "0BEARDED PERSON,0PERSONzHEADSCARF,1IN STEAMY ROOM,1CLIMBING,1IN LOTUS POSITION,0MAGE,0FAIRY",
  "0VAMPIRE,0MERPERSON,0ELF,0GENIE,0ZOMBIE,0BRAIN,0ORANGE HEART,0BILLED CAP,0SCARF,0GLOVES,0COAT",
  "0SOCKS,0RED GIFT ENVELOPE,0FIRECRACKER,0JIGSAW PUZZLE PIECE,0TEST TUBE,0PETRI DISH,0DNAgHELIX",
  "0COMPASS,0ABACUS,0FIRE EXTINGUISHER,0TOOLBOX,0BRICK,0MAGNET,0LUGGAGE,0LOTION BOTTLE",
  "0SPOOL OF THREAD,0BALL OF YARN,0SAFETY PIN,0TEDDY BEAR,0BROOM,0BASKET,0ROLL OF PAPER",
  "0BAR OF SOAP,0SPONGE,0RECEIPT,0NAZAR AMULET,0NEUTRAL CHESS KING,2QUEEN,2ROOK,2BISHOP,2KNIGHT",
  "2PAWN,0yCHESS KNIGHT ROTATED FORTY-FIVE DEGREES,0eCHESS KNIGHT ROTATED FORTY-FIVE DEGREES",
  "0NEUTRAL CHESS KNIGHT ROTATED FORTY-FIVE DEGREES,0yCHESS KING ROTATED NINETY DEGREES",
  "2QUEEN ROTATED NINETY DEGREES,2ROOK ROTATED NINETY DEGREES,2BISHOP ROTATED NINETY DEGREES",
  "2KNIGHT ROTATED NINETY DEGREES,2PAWN ROTATED NINETY DEGREES",
  "0eCHESS KING ROTATED NINETY DEGREES,2QUEEN ROTATED NINETY DEGREES,2ROOK ROTATED NINETY DEGREES",
  "2BISHOP ROTATED NINETY DEGREES,2KNIGHT ROTATED NINETY DEGREES,2PAWN ROTATED NINETY DEGREES",
  "0NEUTRAL CHESS KING ROTATED NINETY DEGREES,2QUEEN ROTATED NINETY DEGREES",
  "2ROOK ROTATED NINETY DEGREES,2BISHOP ROTATED NINETY DEGREES,2KNIGHT ROTATED NINETY DEGREES",
  "2PAWN ROTATED NINETY DEGREES,0yCHESS KNIGHT ROTATED ONE HUNDRED THIRTY-FIVE DEGREES",
  "0eCHESS KNIGHT ROTATED ONE HUNDRED THIRTY-FIVE DEGREES",
  "0NEUTRAL CHESS KNIGHT ROTATED ONE HUNDRED THIRTY-FIVE DEGREES,0yCHESS TURNED KING,3QUEEN,3ROOK",
  "3BISHOP,3KNIGHT,3PAWN,0eCHESS TURNED KING,3QUEEN,3ROOK,3BISHOP,3KNIGHT,3PAWN",
  "0NEUTRAL CHESS TURNED KING,3QUEEN,3ROOK,3BISHOP,3KNIGHT,3PAWN",
  "0yCHESS KNIGHT ROTATED TWO HUNDRED TWENTY-FIVE DEGREES",
  "0eCHESS KNIGHT ROTATED TWO HUNDRED TWENTY-FIVE DEGREES",
  "0NEUTRAL CHESS KNIGHT ROTATED TWO HUNDRED TWENTY-FIVE DEGREES",
  "0yCHESS KING ROTATED TWO HUNDRED SEVENTY DEGREES,2QUEEN ROTATED TWO HUNDRED SEVENTY DEGREES",
  "2ROOK ROTATED TWO HUNDRED SEVENTY DEGREES,2BISHOP ROTATED TWO HUNDRED SEVENTY DEGREES",
  "2KNIGHT ROTATED TWO HUNDRED SEVENTY DEGREES,2PAWN ROTATED TWO HUNDRED SEVENTY DEGREES",
  "0eCHESS KING ROTATED TWO HUNDRED SEVENTY DEGREES,2QUEEN ROTATED TWO HUNDRED SEVENTY DEGREES",
  "2ROOK ROTATED TWO HUNDRED SEVENTY DEGREES,2BISHOP ROTATED TWO HUNDRED SEVENTY DEGREES",
  "2KNIGHT ROTATED TWO HUNDRED SEVENTY DEGREES,2PAWN ROTATED TWO HUNDRED SEVENTY DEGREES",
  "0NEUTRAL CHESS KING ROTATED TWO HUNDRED SEVENTY DEGREES",
  "2QUEEN ROTATED TWO HUNDRED SEVENTY DEGREES,2ROOK ROTATED TWO HUNDRED SEVENTY DEGREES",
  "2BISHOP ROTATED TWO HUNDRED SEVENTY DEGREES,2KNIGHT ROTATED TWO HUNDRED SEVENTY DEGREES",
  "2PAWN ROTATED TWO HUNDRED SEVENTY DEGREES,0yCHESS KNIGHT ROTATEDvHUNDRED FIFTEEN DEGREES",
  "0eCHESS KNIGHT ROTATEDvHUNDRED FIFTEEN DEGREES",
  "0NEUTRAL CHESS KNIGHT ROTATEDvHUNDRED FIFTEEN DEGREES,0yCHESS EQUIHOPPER,0eCHESS EQUIHOPPER",
  "0NEUTRAL CHESS EQUIHOPPER,0yCHESS EQUIHOPPER ROTATED NINETY DEGREES",
  "0eCHESS EQUIHOPPER ROTATED NINETY DEGREES,0NEUTRAL CHESS EQUIHOPPER ROTATED NINETY DEGREES",
  "0yCHESS KNIGHT-QUEEN,2KNIGHT-ROOK,2KNIGHT-BISHOP,0eCHESS KNIGHT-QUEEN,2KNIGHT-ROOK",
  "2KNIGHT-BISHOP,@1FA60,0XIANGQI RED GENERAL,2MANDARIN,2ELEPHANT,2HORSE,2CHARIOT,2CANNON",
  "2SOLDIER,1eGENERAL,2MANDARIN,2ELEPHANT,2HORSE,2CHARIOT,2CANNON,2SOLDIER,@1FA70,0BALLET SHOES",
  "0ONE-PIECE SWIMSUIT,0BRIEFS,0SHORTS,0THONG SANDAL,@1FA78,0DROP OF BLOOD,0ADHESIVE BANDAGE",
  "0STETHOSCOPE,0X-RAY,0CRUTCH,@1FA80,0YO-YO,0KITE,0PARACHUTE,0BOOMERANG,0MAGIC WAND,0PINATA",
  "0NESTING DOLLS,@1FA90,0RINGED PLANET,0CHAIR,0RAZOR,0AXE,0DIYA LAMP,0BANJO,0MILITARY HELMET",
  "0ACCORDION,0LONG DRUM,0COIN,0CARPENTRY SAW,0SCREWDRIVER,0LADDER,0HOOK,0MIRROR,0WINDOW,0PLUNGER",
  "0SEWING NEEDLE,0KNOT,0BUCKET,0MOUSE TRAP,0TOOTHBRUSH,0HEADSTONE,0PLACARD,0ROCK,0MIRROR BALL",
  "0IDENTIFICATION CARD,0LOW BATTERY,0HAMSA,@1FAB0,0FLY,0WORM,0BEETLE,0COCKROACH,0POTTED PLANT",
  "0WOOD,0FEATHER,0LOTUS,0CORAL,0EMPTY NEST,0NESTzEGGS,@1FAC0,0ANATOMICAL HEART,0LUNGS",
  "0PEOPLE HUGGING,0PREGNANT MAN,1PERSON,0PERSONzCROWN,@1FAD0,0BLUEBERRIES,0BELL PEPPER,0OLIVE",
  "0FLATBREAD,0TAMALE,0FONDUE,0TEAPOT,0POURING LIQUID,0BEANS,0JAR,@1FAE0,0MELTING FACE",
  "0SALUTING FACE,0FACEzOPEN EYESbHAND OVER MOUTH,2PEEKING EYE,2DIAGONAL MOUTH,0DOTTED LINE FACE",
  "0BITING LIP,0BUBBLES,@1FAF0,0HANDzINDEX FINGERbTHUMB CROSSED,0qHAND,0mHAND,0PALM DOWN HAND",
  "1UP HAND,0INDEX POINTING AT THE VIEWER,0HEART HANDS,@1FB00,0BLOCK SEXTANT-1,1SEXTANT-2",
  "1SEXTANT-12,1SEXTANT-3,1SEXTANT-13,1SEXTANT-23,1SEXTANT-123,1SEXTANT-4,1SEXTANT-14,1SEXTANT-24",
  "1SEXTANT-124,1SEXTANT-34,1SEXTANT-134,1SEXTANT-234,1SEXTANT-1234,1SEXTANT-5,1SEXTANT-15",
  "1SEXTANT-25,1SEXTANT-125,1SEXTANT-35,1SEXTANT-235,1SEXTANT-1235,1SEXTANT-45,1SEXTANT-145",
  "1SEXTANT-245,1SEXTANT-1245,1SEXTANT-345,1SEXTANT-1345,1SEXTANT-2345,1SEXTANT-12345,1SEXTANT-6",
  "1SEXTANT-16,1SEXTANT-26,1SEXTANT-126,1SEXTANT-36,1SEXTANT-136,1SEXTANT-236,1SEXTANT-1236",
  "1SEXTANT-46,1SEXTANT-146,1SEXTANT-1246,1SEXTANT-346,1SEXTANT-1346,1SEXTANT-2346,1SEXTANT-12346",
  "1SEXTANT-56,1SEXTANT-156,1SEXTANT-256,1SEXTANT-1256,1SEXTANT-356,1SEXTANT-1356,1SEXTANT-2356",
  "1SEXTANT-12356,1SEXTANT-456,1SEXTANT-1456,1SEXTANT-2456,1SEXTANT-12456,1SEXTANT-3456",
  "1SEXTANT-13456,1SEXTANT-23456,0LOWERlBLOCK DIAGONAL LOWER MIDDLElTO LOWER CENTRE,9p",
  "4UPPER MIDDLElTO LOWER CENTRE,9p,5lTO LOWER CENTRE",
  "1pBLOCK DIAGONAL UPPER MIDDLElTO UPPER CENTRE,9p,4LOWER MIDDLElTO UPPER CENTRE,9p",
  "5lTO UPPER CENTRE,5MIDDLElTO UPPER MIDDLEp,5CENTRE TO LOWER MIDDLEp,5lTO LOWER MIDDLEp",
  "5CENTRE TO UPPER MIDDLEp,5lTO UPPER MIDDLEp,5CENTRE TO UPPERp",
  "1lBLOCK DIAGONAL UPPER CENTRE TO UPPER MIDDLEp,5lTO UPPER MIDDLEp,5CENTRE TO LOWER MIDDLEp",
  "5lTO LOWER MIDDLEp,5CENTRE TO LOWERp,5MIDDLElTO LOWER MIDDLEp",
  "0UPPERpBLOCK DIAGONAL LOWER MIDDLElTO LOWER CENTRE,9p,4UPPER MIDDLElTO LOWER CENTRE,9p",
  "5lTO LOWER CENTRE,1lBLOCK DIAGONAL UPPER MIDDLElTO UPPER CENTRE,9p",
  "4LOWER MIDDLElTO UPPER CENTRE,9p,5lTO UPPER CENTRE,5MIDDLElTO UPPER MIDDLEp",
  "5CENTRE TO LOWER MIDDLEp,5lTO LOWER MIDDLEp,5CENTRE TO UPPER MIDDLEp,5lTO UPPER MIDDLEp",
  "5CENTRE TO UPPERp,1pBLOCK DIAGONAL UPPER CENTRE TO UPPER MIDDLEp,5lTO UPPER MIDDLEp",
  "5CENTRE TO LOWER MIDDLEp,5lTO LOWER MIDDLEp,5CENTRE TO LOWERp,5MIDDLElTO LOWER MIDDLEp",
  "1bpbLOWER TRIANGULARvQUARTERS BLOCK,0lbLOWERbpTRIANGULARvQUARTERS BLOCK",
  "0UPPERblbLOWER TRIANGULARvQUARTERS BLOCK,0lbUPPERbpTRIANGULARvQUARTERS BLOCK",
  "1TRIANGULAR ONE QUARTER BLOCK,0UPPER TRIANGULAR ONE QUARTER BLOCK",
  "0pTRIANGULAR ONE QUARTER BLOCK,0LOWER TRIANGULAR ONE QUARTER BLOCK,0xONE EIGHTH BLOCK-2",
  "3BLOCK-3,3BLOCK-4,3BLOCK-5,3BLOCK-6,3BLOCK-7,0HORIZONTAL ONE EIGHTH BLOCK-2,3BLOCK-3,3BLOCK-4",
  "3BLOCK-5,3BLOCK-6,3BLOCK-7,0lbLOWER ONE EIGHTH BLOCK,2UPPER ONE EIGHTH BLOCK",
  "0pbUPPER ONE EIGHTH BLOCK,2LOWER ONE EIGHTH BLOCK,0UPPERbLOWER ONE EIGHTH BLOCK",
  "0HORIZONTAL ONE EIGHTH BLOCK-1358,0UPPER ONE QUARTER BLOCK,1vEIGHTHS BLOCK,1FIVE EIGHTHS BLOCK",
  "1vQUARTERS BLOCK,1SEVEN EIGHTHS BLOCK,0pONE QUARTER BLOCK,1vEIGHTHS BLOCK,1FIVE EIGHTHS BLOCK",
  "1vQUARTERS BLOCK,1SEVEN EIGHTHS BLOCK,0lHALF MEDIUM SHADE,0pHALF MEDIUM SHADE",
  "0UPPER HALF MEDIUM SHADE,0LOWER HALF MEDIUM SHADE,0INVERSE MEDIUM SHADE",
  "0UPPER HALF BLOCKbLOWER HALF INVERSE MEDIUM SHADE,2INVERSE MEDIUM SHADEbLOWER HALF BLOCK",
  "@1FB94,0lHALF INVERSE MEDIUM SHADEbpHALF BLOCK,0CHECKER BOARD FILL,0INVERSE CHECKER BOARD FILL",
  "0HEAVY HORIZONTAL FILL,0UPPERlTO LOWERpFILL,1pTO LOWERlFILL,1bLOWER TRIANGULAR HALF BLOCK",
  "0lbpTRIANGULAR HALF BLOCK,0UPPERlTRIANGULAR MEDIUM SHADE,1pTRIANGULAR MEDIUM SHADE",
  "0LOWERpTRIANGULAR MEDIUM SHADE,1lTRIANGULAR MEDIUM SHADE",
  "0BOX DRAWINGS LIGHT DIAGONAL UPPER CENTRE TO MIDDLEl,8p,4MIDDLElTO LOWER CENTRE",
  "5pTO LOWER CENTRE,4UPPER CENTRE TO MIDDLElTO LOWER CENTRE,8pTO LOWER CENTRE",
  "4MIDDLElTO LOWER CENTRE TO MIDDLEp,7UPPER CENTRE TO MIDDLEp",
  "4UPPER CENTRE TO MIDDLElbMIDDLEpTO LOWER CENTRE,8pbMIDDLElTO LOWER CENTRE",
  "9TO LOWER CENTRE TO MIDDLEl,8lTO LOWER CENTRE TO MIDDLEp",
  "4MIDDLElTO UPPER CENTRE TO MIDDLEpTO LOWER CENTRE,5pTO UPPER CENTRE TO MIDDLElTO LOWER CENTRE",
  "4DIAMOND,3HORIZONTALzxt,0ARROWHEAD-SHAPED POINTER,0INVERSE CHECKo,0lHALF RUNNING MAN",
  "0pHALF RUNNING MAN,0INVERSE DOWNWARDSczTIPm,0mcbUPPERbLOWER ONE EIGHTH BLOCK",
  "0qcbUPPERbLOWER ONE EIGHTH BLOCK,0DOWNWARDScbpONE EIGHTH BLOCK,0UPWARDScbpONE EIGHTH BLOCK",
  "0lHALF FOLDER,0pHALF FOLDER,0VOIDED GREEK CROSS,0pOPEN SQUARED DOT,0NEGATIVE DIAGONAL CROSS",
  "2MIDDLEpTO LOWER CENTRE,2DIAMOND,0yHEAVY SALTIREzROUNDED CORNERS,0lTHIRDypPOINTING INDEX",
  "0MIDDLE THIRDypPOINTING INDEX,0pTHIRDypPOINTING INDEX,0NEGATIVE SQUARED QUESTIONo",
  "0STICK FIGURE,2zARMS RAISED,2LEANINGl,3p,2zDRESS,0yUP-POINTING CHEVRON,@1FBF0",
  "0SEGMENTED DIGIT ZERO,2ONE,2TWO,2v,2FOUR,2FIVE,2SIX,2SEVEN,2EIGHT,2NINE,@E0001,0LANGUAGE TAG",
  "@E0020,0TAG SPACE,1EXCLAMATIONo,1QUOTATIONo,1NUMBERr,1DOLLARr,1PERCENTr,1AMPERSAND,1APOSTROPHE",
  "1lPARENTHESIS,1pPARENTHESIS,1ASTERISK,1PLUSr,1COMMA,1HYPHEN-MINUS,1FULL STOP,1SOLIDUS",
  "1DIGIT ZERO,2ONE,2TWO,2v,2FOUR,2FIVE,2SIX,2SEVEN,2EIGHT,2NINE,1COLON,1SEMICOLON,1LESS-THANr",
  "1EQUALSr,1GREATER-THANr,1QUESTIONo,1COMMERCIAL AT,1LATINfnA,4B,4C,4D,4E,4F,4G,4H,4I,4J,4K,4L",
  "4M,4N,4O,4P,4Q,4R,4S,4T,4U,4V,4W,4X,4Y,4Z,1lSQUARE BRACKET,1REVERSE SOLIDUS,1pSQUARE BRACKET",
  "1CIRCUMFLEX ACCENT,1LOW LINE,1GRAVE ACCENT,1LATINsnA,4B,4C,4D,4E,4F,4G,4H,4I,4J,4K,4L,4M,4N,4O",
  "4P,4Q,4R,4S,4T,4U,4V,4W,4X,4Y,4Z,1lCURLY BRACKET,1xLINE,1pCURLY BRACKET,1TILDE,0CANCEL TAG",
  "@E0100,0VARIATION SELECTOR-17,1SELECTOR-18,1SELECTOR-19,1SELECTOR-20,1SELECTOR-21,1SELECTOR-22",
  "1SELECTOR-23,1SELECTOR-24,1SELECTOR-25,1SELECTOR-26,1SELECTOR-27,1SELECTOR-28,1SELECTOR-29",
  "1SELECTOR-30,1SELECTOR-31,1SELECTOR-32,1SELECTOR-33,1SELECTOR-34,1SELECTOR-35,1SELECTOR-36",
  "1SELECTOR-37,1SELECTOR-38,1SELECTOR-39,1SELECTOR-40,1SELECTOR-41,1SELECTOR-42,1SELECTOR-43",
  "1SELECTOR-44,1SELECTOR-45,1SELECTOR-46,1SELECTOR-47,1SELECTOR-48,1SELECTOR-49,1SELECTOR-50",
  "1SELECTOR-51,1SELECTOR-52,1SELECTOR-53,1SELECTOR-54,1SELECTOR-55,1SELECTOR-56,1SELECTOR-57",
  "1SELECTOR-58,1SELECTOR-59,1SELECTOR-60,1SELECTOR-61,1SELECTOR-62,1SELECTOR-63,1SELECTOR-64",
  "1SELECTOR-65,1SELECTOR-66,1SELECTOR-67,1SELECTOR-68,1SELECTOR-69,1SELECTOR-70,1SELECTOR-71",
  "1SELECTOR-72,1SELECTOR-73,1SELECTOR-74,1SELECTOR-75,1SELECTOR-76,1SELECTOR-77,1SELECTOR-78",
  "1SELECTOR-79,1SELECTOR-80,1SELECTOR-81,1SELECTOR-82,1SELECTOR-83,1SELECTOR-84,1SELECTOR-85",
  "1SELECTOR-86,1SELECTOR-87,1SELECTOR-88,1SELECTOR-89,1SELECTOR-90,1SELECTOR-91,1SELECTOR-92",
  "1SELECTOR-93,1SELECTOR-94,1SELECTOR-95,1SELECTOR-96,1SELECTOR-97,1SELECTOR-98,1SELECTOR-99",
  "1SELECTOR-100,1SELECTOR-101,1SELECTOR-102,1SELECTOR-103,1SELECTOR-104,1SELECTOR-105",
  "1SELECTOR-106,1SELECTOR-107,1SELECTOR-108,1SELECTOR-109,1SELECTOR-110,1SELECTOR-111",
  "1SELECTOR-112,1SELECTOR-113,1SELECTOR-114,1SELECTOR-115,1SELECTOR-116,1SELECTOR-117",
  "1SELECTOR-118,1SELECTOR-119,1SELECTOR-120,1SELECTOR-121,1SELECTOR-122,1SELECTOR-123",
  "1SELECTOR-124,1SELECTOR-125,1SELECTOR-126,1SELECTOR-127,1SELECTOR-128,1SELECTOR-129",
  "1SELECTOR-130,1SELECTOR-131,1SELECTOR-132,1SELECTOR-133,1SELECTOR-134,1SELECTOR-135",
  "1SELECTOR-136,1SELECTOR-137,1SELECTOR-138,1SELECTOR-139,1SELECTOR-140,1SELECTOR-141",
  "1SELECTOR-142,1SELECTOR-143,1SELECTOR-144,1SELECTOR-145,1SELECTOR-146,1SELECTOR-147",
  "1SELECTOR-148,1SELECTOR-149,1SELECTOR-150,1SELECTOR-151,1SELECTOR-152,1SELECTOR-153",
  "1SELECTOR-154,1SELECTOR-155,1SELECTOR-156,1SELECTOR-157,1SELECTOR-158,1SELECTOR-159",
  "1SELECTOR-160,1SELECTOR-161,1SELECTOR-162,1SELECTOR-163,1SELECTOR-164,1SELECTOR-165",
  "1SELECTOR-166,1SELECTOR-167,1SELECTOR-168,1SELECTOR-169,1SELECTOR-170,1SELECTOR-171",
  "1SELECTOR-172,1SELECTOR-173,1SELECTOR-174,1SELECTOR-175,1SELECTOR-176,1SELECTOR-177",
  "1SELECTOR-178,1SELECTOR-179,1SELECTOR-180,1SELECTOR-181,1SELECTOR-182,1SELECTOR-183",
  "1SELECTOR-184,1SELECTOR-185,1SELECTOR-186,1SELECTOR-187,1SELECTOR-188,1SELECTOR-189",
  "1SELECTOR-190,1SELECTOR-191,1SELECTOR-192,1SELECTOR-193,1SELECTOR-194,1SELECTOR-195",
  "1SELECTOR-196,1SELECTOR-197,1SELECTOR-198,1SELECTOR-199,1SELECTOR-200,1SELECTOR-201",
  "1SELECTOR-202,1SELECTOR-203,1SELECTOR-204,1SELECTOR-205,1SELECTOR-206,1SELECTOR-207",
  "1SELECTOR-208,1SELECTOR-209,1SELECTOR-210,1SELECTOR-211,1SELECTOR-212,1SELECTOR-213",
  "1SELECTOR-214,1SELECTOR-215,1SELECTOR-216,1SELECTOR-217,1SELECTOR-218,1SELECTOR-219",
  "1SELECTOR-220,1SELECTOR-221,1SELECTOR-222,1SELECTOR-223,1SELECTOR-224,1SELECTOR-225",
  "1SELECTOR-226,1SELECTOR-227,1SELECTOR-228,1SELECTOR-229,1SELECTOR-230,1SELECTOR-231",
  "1SELECTOR-232,1SELECTOR-233,1SELECTOR-234,1SELECTOR-235,1SELECTOR-236,1SELECTOR-237",
  "1SELECTOR-238,1SELECTOR-239,1SELECTOR-240,1SELECTOR-241,1SELECTOR-242,1SELECTOR-243",
  "1SELECTOR-244,1SELECTOR-245,1SELECTOR-246,1SELECTOR-247,1SELECTOR-248,1SELECTOR-249",
  "1SELECTOR-250,1SELECTOR-251,1SELECTOR-252,1SELECTOR-253,1SELECTOR-254,1SELECTOR-255",
  "1SELECTOR-256"]

end PhraseStructure.Text.CharacterName
