/-!
# Character names — tiles, cards, pictures and geometric shapes, and the tags

The names of the assigned characters from U+1F000 to U+E01EF, written short as
`CharacterName` describes.
-/

set_option autoImplicit false

namespace SqlRunner.Text.CharacterName

/-- The names from U+1F000 on. -/
def pictures : String := "
    MAHJONG TILE EAST WIND;cbSOUTH;cbWEST;cbNORTH;cRED DRAGON;cbGREEN;cbWHITE;cONE OF CHARACTERS;
    ccTWO;ccTHREE;ccFOUR;ccFIVE;ccSIX;ccSEVEN;ccEIGHT;ccNINE;cONE OF BAMBOOS;ccTWO;ccTHREE;ccFOUR;
    ccFIVE;ccSIX;ccSEVEN;ccEIGHT;ccNINE;cONE OF CIRCLES;ccTWO;ccTHREE;ccFOUR;ccFIVE;ccSIX;ccSEVEN;
    ccEIGHT;ccNINE;cPLUM;cORCHID;cBAMBOO;cCHRYSANTHEMUM;cSPRING;cSUMMER;cAUTUMN;cWINTER;cJOKER;
    cBACK;4;abDOMINO TILE HORIZONTAL;cHORIZONTAL-00-00;cHORIZONTAL-00-01;cHORIZONTAL-00-02;
    cHORIZONTAL-00-03;cHORIZONTAL-00-04;cHORIZONTAL-00-05;cHORIZONTAL-00-06;cHORIZONTAL-01-00;
    cHORIZONTAL-01-01;cHORIZONTAL-01-02;cHORIZONTAL-01-03;cHORIZONTAL-01-04;cHORIZONTAL-01-05;
    cHORIZONTAL-01-06;cHORIZONTAL-02-00;cHORIZONTAL-02-01;cHORIZONTAL-02-02;cHORIZONTAL-02-03;
    cHORIZONTAL-02-04;cHORIZONTAL-02-05;cHORIZONTAL-02-06;cHORIZONTAL-03-00;cHORIZONTAL-03-01;
    cHORIZONTAL-03-02;cHORIZONTAL-03-03;cHORIZONTAL-03-04;cHORIZONTAL-03-05;cHORIZONTAL-03-06;
    cHORIZONTAL-04-00;cHORIZONTAL-04-01;cHORIZONTAL-04-02;cHORIZONTAL-04-03;cHORIZONTAL-04-04;
    cHORIZONTAL-04-05;cHORIZONTAL-04-06;cHORIZONTAL-05-00;cHORIZONTAL-05-01;cHORIZONTAL-05-02;
    cHORIZONTAL-05-03;cHORIZONTAL-05-04;cHORIZONTAL-05-05;cHORIZONTAL-05-06;cHORIZONTAL-06-00;
    cHORIZONTAL-06-01;cHORIZONTAL-06-02;cHORIZONTAL-06-03;cHORIZONTAL-06-04;cHORIZONTAL-06-05;
    cHORIZONTAL-06-06;cVERTICAL BACK;cVERTICAL-00-00;cVERTICAL-00-01;cVERTICAL-00-02;
    cVERTICAL-00-03;cVERTICAL-00-04;cVERTICAL-00-05;cVERTICAL-00-06;cVERTICAL-01-00;
    cVERTICAL-01-01;cVERTICAL-01-02;cVERTICAL-01-03;cVERTICAL-01-04;cVERTICAL-01-05;
    cVERTICAL-01-06;cVERTICAL-02-00;cVERTICAL-02-01;cVERTICAL-02-02;cVERTICAL-02-03;
    cVERTICAL-02-04;cVERTICAL-02-05;cVERTICAL-02-06;cVERTICAL-03-00;cVERTICAL-03-01;
    cVERTICAL-03-02;cVERTICAL-03-03;cVERTICAL-03-04;cVERTICAL-03-05;cVERTICAL-03-06;
    cVERTICAL-04-00;cVERTICAL-04-01;cVERTICAL-04-02;cVERTICAL-04-03;cVERTICAL-04-04;
    cVERTICAL-04-05;cVERTICAL-04-06;cVERTICAL-05-00;cVERTICAL-05-01;cVERTICAL-05-02;
    cVERTICAL-05-03;cVERTICAL-05-04;cVERTICAL-05-05;cVERTICAL-05-06;cVERTICAL-06-00;
    cVERTICAL-06-01;cVERTICAL-06-02;cVERTICAL-06-03;cVERTICAL-06-04;cVERTICAL-06-05;
    cVERTICAL-06-06;12;PLAYING CARD BACK;cACE OF SPADES;ccTWO;ccTHREE;ccFOUR;ccFIVE;ccSIX;ccSEVEN;
    ccEIGHT;ccNINE;ccTEN;ccJACK;ccKNIGHT;ccQUEEN;ccKING;2;cACE OF HEARTS;ccTWO;ccTHREE;ccFOUR;
    ccFIVE;ccSIX;ccSEVEN;ccEIGHT;ccNINE;ccTEN;ccJACK;ccKNIGHT;ccQUEEN;ccKING;cRED JOKER;1;
    cACE OF DIAMONDS;ccTWO;ccTHREE;ccFOUR;ccFIVE;ccSIX;ccSEVEN;ccEIGHT;ccNINE;ccTEN;ccJACK;
    ccKNIGHT;ccQUEEN;ccKING;cBLACK JOKER;1;cACE OF CLUBS;ccTWO;ccTHREE;ccFOUR;ccFIVE;ccSIX;ccSEVEN;
    ccEIGHT;ccNINE;ccTEN;ccJACK;ccKNIGHT;ccQUEEN;ccKING;cWHITE JOKER;cFOOL;cTRUMP-1;cTRUMP-2;
    cTRUMP-3;cTRUMP-4;cTRUMP-5;cTRUMP-6;cTRUMP-7;cTRUMP-8;cTRUMP-9;cTRUMP-10;cTRUMP-11;cTRUMP-12;
    cTRUMP-13;cTRUMP-14;cTRUMP-15;cTRUMP-16;cTRUMP-17;cTRUMP-18;cTRUMP-19;cTRUMP-20;cTRUMP-21;10;
    DIGIT ZERO FULL STOP;cCOMMA;bbONE;bbTWO;bbTHREE;bbFOUR;bbFIVE;bbSIX;bbSEVEN;bbEIGHT;bbNINE;
    DINGBAT CIRCLED SANS-SERIF DIGIT ZERO;beNEGATIVE;CIRCLED ZERO WITH SLASH;bANTICLOCKWISE ARROW;
    bDOLLAR SIGN WITH OVERLAID BACKSLASH;PARENTHESIZED LATIN CAPITAL LETTER A;eB;eC;eD;eE;eF;eG;eH;
    eI;eJ;eK;eL;eM;eN;eO;eP;eQ;eR;eS;eT;eU;eV;eW;eX;eY;eZ;
    TORTOISE SHELL BRACKETED LATIN CAPITAL LETTER S;CIRCLED ITALIC LATIN CAPITAL LETTER C;fR;bCD;
    bWZ;COPYLEFT SYMBOL;SQUARED LATIN CAPITAL LETTER A;eB;eC;eD;eE;eF;eG;eH;eI;eJ;eK;eL;eM;eN;eO;
    eP;eQ;eR;eS;eT;eU;eV;eW;eX;eY;eZ;bHV;bMV;bSD;bSS;bPPV;bWC;
    NEGATIVE CIRCLED LATIN CAPITAL LETTER A;fB;fC;fD;fE;fF;fG;fH;fI;fJ;fK;fL;fM;fN;fO;fP;fQ;fR;fS;
    fT;fU;fV;fW;fX;fY;fZ;RAISED MC SIGN;bbMD;bbMR;CIRCLED CC;bC WITH OVERLAID BACKSLASH;
    bHUMAN FIGURE;NEGATIVE SQUARED LATIN CAPITAL LETTER A;fB;fC;fD;fE;fF;fG;fH;fI;fJ;fK;fL;fM;fN;
    fO;fP;fQ;fR;fS;fT;fU;fV;fW;fX;fY;fZ;CROSSED NEGATIVE SQUARED LATIN CAPITAL LETTER P;
    NEGATIVE SQUARED IC;cPA;cSA;cAB;cWC;SQUARE DJ;SQUARED CL;bCOOL;bFREE;bID;bNEW;bNG;bOK;bSOS;
    bUP WITH EXCLAMATION MARK;bVS;bTHREE D;bSECOND SCREEN;bTWO K;bbFOUR;bbEIGHT;bFIVE POINT ONE;
    bcSEVEN;bTWENTY-TWO POINT TWO;bSIXTY P;bbONE HUNDRED TWENTY;bLATIN SMALL LETTER D;bHC;bHDR;
    bHI-RES;bLOSSLESS;bSHV;bUHD;bVOD;MASK WORK SYMBOL;56;REGIONAL INDICATOR SYMBOL LETTER A;eB;eC;
    eD;eE;eF;eG;eH;eI;eJ;eK;eL;eM;eN;eO;eP;eQ;eR;eS;eT;eU;eV;eW;eX;eY;eZ;SQUARE HIRAGANA HOKA;
    SQUARED KATAKANA KOKO;cSA;13;bCJK UNIFIED IDEOGRAPH-624B;dIDEOGRAPH-5B57;dIDEOGRAPH-53CC;
    bKATAKANA DE;bCJK UNIFIED IDEOGRAPH-4E8C;dIDEOGRAPH-591A;dIDEOGRAPH-89E3;dIDEOGRAPH-5929;
    dIDEOGRAPH-4EA4;dIDEOGRAPH-6620;dIDEOGRAPH-7121;dIDEOGRAPH-6599;dIDEOGRAPH-524D;
    dIDEOGRAPH-5F8C;dIDEOGRAPH-518D;dIDEOGRAPH-65B0;dIDEOGRAPH-521D;dIDEOGRAPH-7D42;
    dIDEOGRAPH-751F;dIDEOGRAPH-8CA9;dIDEOGRAPH-58F0;dIDEOGRAPH-5439;dIDEOGRAPH-6F14;
    dIDEOGRAPH-6295;dIDEOGRAPH-6355;dIDEOGRAPH-4E00;dIDEOGRAPH-4E09;dIDEOGRAPH-904A;
    dIDEOGRAPH-5DE6;dIDEOGRAPH-4E2D;dIDEOGRAPH-53F3;dIDEOGRAPH-6307;dIDEOGRAPH-8D70;
    dIDEOGRAPH-6253;dIDEOGRAPH-7981;dIDEOGRAPH-7A7A;dIDEOGRAPH-5408;dIDEOGRAPH-6E80;
    dIDEOGRAPH-6709;dIDEOGRAPH-6708;dIDEOGRAPH-7533;dIDEOGRAPH-5272;dIDEOGRAPH-55B6;
    dIDEOGRAPH-914D;4;TORTOISE SHELL BRACKETED CJK UNIFIED IDEOGRAPH-672C;fIDEOGRAPH-4E09;
    fIDEOGRAPH-4E8C;fIDEOGRAPH-5B89;fIDEOGRAPH-70B9;fIDEOGRAPH-6253;fIDEOGRAPH-76D7;
    fIDEOGRAPH-52DD;fIDEOGRAPH-6557;7;CIRCLED IDEOGRAPH ADVANTAGE;cACCEPT;14;ROUNDED SYMBOL FOR FU;
    dLU;dSHOU;dXI;dSHUANGXI;dCAI;154;CYCLONE;FOGGY;CLOSED UMBRELLA;NIGHT WITH STARS;
    SUNRISE OVER MOUNTAINS;b;CITYSCAPE AT DUSK;SUNSET OVER BUILDINGS;RAINBOW;BRIDGE AT NIGHT;
    WATER WAVE;VOLCANO;MILKY WAY;EARTH GLOBE EUROPE-AFRICA;cAMERICAS;cASIA-AUSTRALIA;
    GLOBE WITH MERIDIANS;NEW MOON SYMBOL;acWAXING CRESCENT;acFIRST QUARTER;acWAXING GIBBOUS;acFULL;
    acWANING GIBBOUS;acLAST QUARTER;acWANING CRESCENT;CRESCENT MOON;NEW MOON WITH FACE;
    adFIRST QUARTER;aeLAST;adFULL;acSUN;GLOWING STAR;abSHOOTING;THERMOMETER;BLACK DROPLET;
    WHITE SUN;cWITH SMALL CLOUD;cbBEHIND;eWITH RAIN;ad;cSNOW;cLIGHTNING;cTORNADO;FOG;
    WIND BLOWING FACE;HOT DOG;TACO;BURRITO;CHESTNUT;SEEDLING;EVERGREEN TREE;abDECIDUOUS;abPALM;
    CACTUS;HOT PEPPER;TULIP;CHERRY BLOSSOM;ROSE;HIBISCUS;SUNFLOWER;BLOSSOM;EAR OF MAIZE;cRICE;HERB;
    FOUR LEAF CLOVER;MAPLE LEAF;abFALLEN;LEAF FLUTTERING IN WIND;MUSHROOM;TOMATO;AUBERGINE;GRAPES;
    MELON;WATERMELON;TANGERINE;LEMON;BANANA;PINEAPPLE;RED APPLE;abGREEN;PEAR;PEACH;CHERRIES;
    STRAWBERRY;HAMBURGER;SLICE OF PIZZA;MEAT ON BONE;POULTRY LEG;RICE CRACKER;bBALL;COOKED RICE;
    abCURRY AND;STEAMING BOWL;SPAGHETTI;BREAD;FRENCH FRIES;ROASTED SWEET POTATO;DANGO;ODEN;SUSHI;
    FRIED SHRIMP;FISH CAKE WITH SWIRL DESIGN;SOFT ICE CREAM;SHAVED ICE;ICE CREAM;DOUGHNUT;COOKIE;
    CHOCOLATE BAR;CANDY;LOLLIPOP;CUSTARD;HONEY POT;SHORTCAKE;BENTO BOX;POT OF FOOD;COOKING;
    FORK AND KNIFE;TEACUP WITHOUT HANDLE;SAKE BOTTLE AND CUP;WINE GLASS;abCOCKTAIL;TROPICAL DRINK;
    BEER MUG;CLINKING BEER MUGS;BABY BOTTLE;FORK AND KNIFE WITH PLATE;BOTTLE WITH POPPING CORK;
    POPCORN;RIBBON;WRAPPED PRESENT;BIRTHDAY CAKE;JACK-O-LANTERN;CHRISTMAS TREE;FATHER CHRISTMAS;
    FIREWORKS;FIREWORK SPARKLER;BALLOON;PARTY POPPER;CONFETTI BALL;TANABATA TREE;CROSSED FLAGS;
    PINE DECORATION;JAPANESE DOLLS;CARP STREAMER;WIND CHIME;MOON VIEWING CEREMONY;SCHOOL SATCHEL;
    GRADUATION CAP;HEART WITH TIP ON THE LEFT;BOUQUET OF FLOWERS;MILITARY MEDAL;REMINDER RIBBON;
    MUSICAL KEYBOARD WITH JACKS;STUDIO MICROPHONE;LEVEL SLIDER;CONTROL KNOBS;
    BEAMED ASCENDING MUSICAL NOTES;bcDESCENDING;FILM FRAMES;ADMISSION TICKETS;CAROUSEL HORSE;
    FERRIS WHEEL;ROLLER COASTER;FISHING POLE AND FISH;MICROPHONE;MOVIE CAMERA;CINEMA;HEADPHONE;
    ARTIST PALETTE;TOP HAT;CIRCUS TENT;TICKET;CLAPPER BOARD;PERFORMING ARTS;VIDEO GAME;DIRECT HIT;
    SLOT MACHINE;BILLIARDS;GAME DIE;BOWLING;FLOWER PLAYING CARDS;MUSICAL NOTE;
    MULTIPLE MUSICAL NOTES;SAXOPHONE;GUITAR;MUSICAL KEYBOARD;TRUMPET;VIOLIN;MUSICAL SCORE;
    RUNNING SHIRT WITH SASH;TENNIS RACQUET AND BALL;SKI AND SKI BOOT;BASKETBALL AND HOOP;
    CHEQUERED FLAG;SNOWBOARDER;RUNNER;SURFER;SPORTS MEDAL;TROPHY;HORSE RACING;AMERICAN FOOTBALL;
    abRUGBY;SWIMMER;WEIGHT LIFTER;GOLFER;RACING MOTORCYCLE;bCAR;CRICKET BAT AND BALL;VOLLEYBALL;
    FIELD HOCKEY STICK AND BALL;ICE HOCKEY STICK AND PUCK;TABLE TENNIS PADDLE AND BALL;
    SNOW CAPPED MOUNTAIN;CAMPING;BEACH WITH UMBRELLA;BUILDING CONSTRUCTION;HOUSE BUILDINGS;
    CITYSCAPE;DERELICT HOUSE BUILDING;abCLASSICAL;DESERT;bISLAND;NATIONAL PARK;STADIUM;
    HOUSE BUILDING;bWITH GARDEN;OFFICE BUILDING;JAPANESE POST OFFICE;acEUROPEAN;HOSPITAL;BANK;
    AUTOMATED TELLER MACHINE;HOTEL;abLOVE;CONVENIENCE STORE;SCHOOL;DEPARTMENT STORE;FACTORY;
    IZAKAYA LANTERN;JAPANESE CASTLE;abEUROPEAN;WHITE PENNANT;abBLACK;WAVING WHITE FLAG;bbBLACK;
    ROSETTE;abBLACK;LABEL;BADMINTON RACQUET AND SHUTTLECOCK;BOW AND ARROW;AMPHORA;
    EMOJI MODIFIER FITZPATRICK TYPE-1-2;dTYPE-3;dTYPE-4;dTYPE-5;dTYPE-6;RAT;MOUSE;OX;WATER BUFFALO;
    COW;TIGER;LEOPARD;RABBIT;CAT;DRAGON;CROCODILE;WHALE;SNAIL;SNAKE;HORSE;RAM;GOAT;SHEEP;MONKEY;
    ROOSTER;CHICKEN;DOG;PIG;BOAR;ELEPHANT;OCTOPUS;SPIRAL SHELL;BUG;ANT;HONEYBEE;LADY BEETLE;FISH;
    abTROPICAL;BLOWFISH;TURTLE;HATCHING CHICK;abBABY;acFRONT-FACING;BIRD;PENGUIN;KOALA;POODLE;
    DROMEDARY CAMEL;abBACTRIAN;DOLPHIN;MOUSE FACE;abCOW;abTIGER;abRABBIT;abCAT;abDRAGON;
    SPOUTING WHALE;HORSE FACE;abMONKEY;abDOG;abPIG;abFROG;abHAMSTER;abWOLF;abBEAR;abPANDA;PIG NOSE;
    PAW PRINTS;CHIPMUNK;EYES;EYE;EAR;NOSE;MOUTH;TONGUE;WHITE UP POINTING BACKHAND INDEX;bdDOWN;
    bdLEFT;bdRIGHT;FISTED HAND SIGN;acWAVING;acOK;abTHUMBS UP;bbDOWN;abCLAPPING HANDS;acOPEN;CROWN;
    WOMANS HAT;EYEGLASSES;NECKTIE;T-SHIRT;JEANS;DRESS;KIMONO;BIKINI;WOMANS CLOTHES;PURSE;HANDBAG;
    POUCH;MANS SHOE;abATHLETIC;abHIGH-HEELED;WOMANS SANDAL;bBOOTS;FOOTPRINTS;BUST IN SILHOUETTE;
    acBUSTS;BOY;GIRL;MAN;WOMAN;FAMILY;MAN AND WOMAN HOLDING HANDS;acTWO MEN;bcWOMEN;POLICE OFFICER;
    WOMAN WITH BUNNY EARS;BRIDE WITH VEIL;PERSON WITH BLOND HAIR;MAN WITH GUA PI MAO;cTURBAN;
    OLDER MAN;bWOMAN;BABY;CONSTRUCTION WORKER;PRINCESS;JAPANESE OGRE;bGOBLIN;GHOST;BABY ANGEL;
    EXTRATERRESTRIAL ALIEN;ALIEN MONSTER;IMP;SKULL;INFORMATION DESK PERSON;GUARDSMAN;DANCER;
    LIPSTICK;NAIL POLISH;FACE MASSAGE;HAIRCUT;BARBER POLE;SYRINGE;PILL;KISS MARK;LOVE LETTER;RING;
    GEM STONE;KISS;BOUQUET;COUPLE WITH HEART;WEDDING;BEATING HEART;abBROKEN;TWO HEARTS;
    SPARKLING HEART;abGROWING;HEART WITH ARROW;BLUE HEART;abGREEN;abYELLOW;abPURPLE;
    HEART WITH RIBBON;REVOLVING HEARTS;HEART DECORATION;DIAMOND SHAPE WITH A DOT INSIDE;
    ELECTRIC LIGHT BULB;ANGER SYMBOL;BOMB;SLEEPING SYMBOL;abCOLLISION;abSPLASHING SWEAT;DROPLET;
    DASH SYMBOL;PILE OF POO;FLEXED BICEPS;DIZZY SYMBOL;SPEECH BALLOON;abTHOUGHT;WHITE FLOWER;
    HUNDRED POINTS SYMBOL;MONEY BAG;CURRENCY EXCHANGE;HEAVY DOLLAR SIGN;CREDIT CARD;
    BANKNOTE WITH YEN SIGN;cbDOLLAR;cbEURO;cbPOUND;MONEY WITH WINGS;
    CHART WITH UPWARDS TREND AND YEN SIGN;SEAT;PERSONAL COMPUTER;BRIEFCASE;MINIDISC;FLOPPY DISK;
    OPTICAL DISC;DVD;FILE FOLDER;acOPEN;PAGE WITH CURL;bFACING UP;CALENDAR;abTEAR-OFF;CARD INDEX;
    CHART WITH UPWARDS TREND;cbDOWNWARDS;BAR CHART;CLIPBOARD;PUSHPIN;abROUND;PAPERCLIP;
    STRAIGHT RULER;abTRIANGULAR;BOOKMARK TABS;LEDGER;NOTEBOOK;bWITH DECORATIVE COVER;CLOSED BOOK;
    abOPEN;abGREEN;abBLUE;abORANGE;BOOKS;NAME BADGE;SCROLL;MEMO;TELEPHONE RECEIVER;PAGER;
    FAX MACHINE;SATELLITE ANTENNA;PUBLIC ADDRESS LOUDSPEAKER;CHEERING MEGAPHONE;OUTBOX TRAY;
    abINBOX;PACKAGE;E-MAIL SYMBOL;INCOMING ENVELOPE;ENVELOPE WITH DOWNWARDS ARROW ABOVE;
    CLOSED MAILBOX WITH LOWERED FLAG;dbRAISED;aeOPEN;dbLOWERED;POSTBOX;POSTAL HORN;NEWSPAPER;
    MOBILE PHONE;cWITH RIGHTWARDS ARROW AT LEFT;VIBRATION MODE;MOBILE PHONE OFF;NO MOBILE PHONES;
    ANTENNA WITH BARS;CAMERA;bWITH FLASH;VIDEO CAMERA;TELEVISION;RADIO;VIDEOCASSETTE;
    FILM PROJECTOR;PORTABLE STEREO;PRAYER BEADS;TWISTED RIGHTWARDS ARROWS;
    abCLOCKWISE RIGHTWARDS AND LEFTWARDS OPEN CIRCLE;hWITH CIRCLED ONE OVERLAY;
    bDOWNWARDS AND UPWARDS OPEN CIRCLE ARROWS;agANTICLOCKWISE;LOW BRIGHTNESS SYMBOL;acHIGH;
    SPEAKER WITH CANCELLATION STROKE;b;bWITH ONE SOUND WAVE;cTHREE SOUND WAVES;BATTERY;
    ELECTRIC PLUG;LEFT-POINTING MAGNIFYING GLASS;acRIGHT-POINTING;LOCK WITH INK PEN;
    CLOSED LOCK WITH KEY;ab;LOCK;abOPEN;BELL;bWITH CANCELLATION STROKE;BOOKMARK;LINK SYMBOL;
    RADIO BUTTON;BACK WITH LEFTWARDS ARROW ABOVE;aeEND;acON WITH EXCLAMATION MARK WITH LEFT RIGHT;
    acSOON WITH RIGHTWARDS;acTOP WITH UPWARDS;NO ONE UNDER EIGHTEEN SYMBOL;KEYCAP TEN;
    INPUT SYMBOL FOR LATIN CAPITAL LETTERS;ebSMALL;dNUMBERS;dSYMBOLS;dLATIN LETTERS;FIRE;
    ELECTRIC TORCH;WRENCH;HAMMER;NUT AND BOLT;HOCHO;PISTOL;MICROSCOPE;TELESCOPE;CRYSTAL BALL;
    SIX POINTED STAR WITH MIDDLE DOT;JAPANESE SYMBOL FOR BEGINNER;TRIDENT EMBLEM;
    BLACK SQUARE BUTTON;acWHITE;LARGE RED CIRCLE;bbBLUE;bORANGE DIAMOND;bbBLUE;abSMALL ORANGE;
    bbBLUE;UP-POINTING RED TRIANGLE;acDOWN-POINTING;acUP-POINTING SMALL;adDOWN-POINTING;
    LOWER RIGHT SHADOWED WHITE CIRCLE;aeUPPER;CIRCLED CROSS POMMEE;
    CROSS POMMEE WITH HALF-CIRCLE BELOW;c;NOTCHED LEFT SEMICIRCLE WITH THREE DOTS;beRIGHT;
    SYMBOL FOR MARKS CHAPTER;WHITE LATIN CROSS;acHEAVY;abCELTIC;OM SYMBOL;DOVE OF PEACE;KAABA;
    MOSQUE;SYNAGOGUE;MENORAH WITH NINE BRANCHES;BOWL OF HYGIEIA;CLOCK FACE ONE OCLOCK;cbTWO;
    cbTHREE;cbFOUR;cbFIVE;cbSIX;cbSEVEN;cbEIGHT;cbNINE;cbTEN;cbELEVEN;cbTWELVE;cONE-THIRTY;
    cTWO-THIRTY;cTHREE-THIRTY;cFOUR-THIRTY;cFIVE-THIRTY;cSIX-THIRTY;cSEVEN-THIRTY;cEIGHT-THIRTY;
    cNINE-THIRTY;cTEN-THIRTY;cELEVEN-THIRTY;cTWELVE-THIRTY;RIGHT SPEAKER;cWITH ONE SOUND WAVE;
    dTHREE SOUND WAVES;BULLHORN;bWITH SOUND WAVES;RINGING BELL;BOOK;CANDLE;MANTELPIECE CLOCK;
    BLACK SKULL AND CROSSBONES;NO PIRACY;HOLE;MAN IN BUSINESS SUIT LEVITATING;SLEUTH OR SPY;
    DARK SUNGLASSES;SPIDER;bWEB;JOYSTICK;MAN DANCING;LEFT HAND TELEPHONE RECEIVER;
    TELEPHONE RECEIVER WITH PAGE;RIGHT HAND TELEPHONE RECEIVER;WHITE TOUCHTONE TELEPHONE;acBLACK;
    TELEPHONE ON TOP OF MODEM;CLAMSHELL MOBILE PHONE;BACK OF ENVELOPE;abSTAMPED;
    ENVELOPE WITH LIGHTNING;FLYING ENVELOPE;abPEN OVER STAMPED;LINKED PAPERCLIPS;BLACK PUSHPIN;
    LOWER LEFT PENCIL;cBALLPOINT PEN;cbFOUNTAIN;cPAINTBRUSH;cCRAYON;LEFT WRITING HAND;
    TURNED OK HAND SIGN;RAISED HAND WITH FINGERS SPLAYED;afREVERSED;bTHUMBS UP SIGN;cbDOWN;
    bVICTORY HAND;bHAND WITH MIDDLE FINGER EXTENDED;
    RAISED HAND WITH PART BETWEEN MIDDLE AND RING FINGERS;WHITE DOWN POINTING LEFT HAND INDEX;
    abSIDEWAYS WHITE LEFT POINTING;ccRIGHT;bcBLACK LEFT;ccRIGHT;abBLACK LEFT POINTING BACKHAND;
    bdRIGHT;abSIDEWAYS WHITE UP POINTING;ccDOWN;bcBLACK UP;ccDOWN;abBLACK UP POINTING BACKHAND;
    bdDOWN;bHEART;DESKTOP COMPUTER;KEYBOARD AND MOUSE;THREE NETWORKED COMPUTERS;PRINTER;
    POCKET CALCULATOR;BLACK HARD SHELL FLOPPY DISK;aeWHITE;adSOFT;TAPE CARTRIDGE;WIRED KEYBOARD;
    ONE BUTTON MOUSE;acTWO;acTHREE;TRACKBALL;OLD PERSONAL COMPUTER;HARD DISK;SCREEN;PRINTER ICON;
    abFAX;abOPTICAL DISC;DOCUMENT WITH TEXT;dAND PICTURE;cb;acFRAME;cTILES;cAN X;BLACK FOLDER;ab;
    abOPEN;CARD INDEX DIVIDERS;bFILE BOX;FILE CABINET;EMPTY NOTE;cPAGE;cPAD;NOTE;bPAGE;bPAD;
    EMPTY DOCUMENT;bPAGE;bPAGES;DOCUMENT;PAGE;PAGES;WASTEBASKET;SPIRAL NOTE PAD;bbCALENDAR;
    DESKTOP WINDOW;MINIMIZE;MAXIMIZE;OVERLAP;CLOCKWISE RIGHT AND LEFT SEMICIRCLE ARROWS;
    CANCELLATION X;INCREASE FONT SIZE SYMBOL;adDECREASE;COMPRESSION;OLD KEY;ROLLED-UP NEWSPAPER;
    PAGE WITH CIRCLED TEXT;STOCK CHART;DAGGER KNIFE;LIPS;SPEAKING HEAD IN SILHOUETTE;
    THREE RAYS ABOVE;cBELOW;cLEFT;cRIGHT;LEFT SPEECH BUBBLE;acRIGHT;TWO SPEECH BUBBLES;acTHREE;
    LEFT THOUGHT BUBBLE;acRIGHT;abLEFT ANGER;acRIGHT;abMOOD;acLIGHTNING;c;BALLOT BOX WITH BALLOT;
    bSCRIPT X;bcBOX WITH;bcBOLD;bdBOX WITH;LIGHT CHECK MARK;BALLOT BOX WITH BOLD CHECK;WORLD MAP;
    MOUNT FUJI;TOKYO TOWER;STATUE OF LIBERTY;SILHOUETTE OF JAPAN;MOYAI;GRINNING FACE;
    cWITH SMILING EYES;FACE WITH TEARS OF JOY;SMILING FACE WITH OPEN MOUTH;fAND SMILING EYES;
    gCOLD SWEAT;gTIGHTLY-CLOSED EYES;dHALO;dHORNS;WINKING FACE;SMILING FACE WITH SMILING EYES;
    FACE SAVOURING DELICIOUS FOOD;RELIEVED FACE;SMILING FACE WITH HEART-SHAPED EYES;dSUNGLASSES;
    SMIRKING FACE;abNEUTRAL;abEXPRESSIONLESS;abUNAMUSED;FACE WITH COLD SWEAT;PENSIVE FACE;
    abCONFUSED;abCONFOUNDED;abKISSING;FACE THROWING A KISS;KISSING FACE WITH SMILING EYES;dbCLOSED;
    FACE WITH STUCK-OUT TONGUE;eAND WINKING EYE;fTIGHTLY-CLOSED EYES;DISAPPOINTED FACE;abWORRIED;
    abANGRY;abPOUTING;abCRYING;abPERSEVERING;FACE WITH LOOK OF TRIUMPH;
    DISAPPOINTED BUT RELIEVED FACE;FROWNING FACE WITH OPEN MOUTH;ANGUISHED FACE;abFEARFUL;abWEARY;
    abSLEEPY;abTIRED;abGRIMACING;abLOUDLY CRYING;FACE WITH OPEN MOUTH;HUSHED FACE;
    FACE WITH OPEN MOUTH AND COLD SWEAT;bSCREAMING IN FEAR;ASTONISHED FACE;abFLUSHED;abSLEEPING;
    abDIZZY;FACE WITHOUT MOUTH;bWITH MEDICAL MASK;GRINNING CAT FACE WITH SMILING EYES;
    CAT FACE WITH TEARS OF JOY;SMILING CAT FACE WITH OPEN MOUTH;eHEART-SHAPED EYES;
    CAT FACE WITH WRY SMILE;KISSING CAT FACE WITH CLOSED EYES;POUTING CAT FACE;acCRYING;acWEARY;
    abSLIGHTLY FROWNING;bbSMILING;abUPSIDE-DOWN;FACE WITH ROLLING EYES;cNO GOOD GESTURE;cbOK;
    PERSON BOWING DEEPLY;SEE-NO-EVIL MONKEY;abHEAR-NO-EVIL;abSPEAK-NO-EVIL;
    HAPPY PERSON RAISING ONE HAND;PERSON RAISING BOTH HANDS IN CELEBRATION;bFROWNING;
    bWITH POUTING FACE;cFOLDED HANDS;NORTH WEST POINTING LEAF;adSOUTH;acNORTH EAST;adSOUTH;
    acTURNED NORTH WEST;bdSOUTH;bcNORTH EAST;bdSOUTH;abNORTH WEST POINTING VINE;aeSOUTH;
    adNORTH EAST;aeSOUTH;adHEAVY NORTH WEST;beSOUTH;bdNORTH EAST;beSOUTH;NORTH WEST POINTING BUD;
    adSOUTH;acNORTH EAST;adSOUTH;acHEAVY NORTH WEST;bdSOUTH;bcNORTH EAST;bdSOUTH;
    HOLLOW QUILT SQUARE ORNAMENT;eIN BLACK SQUARE;SOLID QUILT SQUARE ORNAMENT;eIN BLACK SQUARE;
    LEFTWARDS ROCKET;abUPWARDS;abRIGHTWARDS;abDOWNWARDS;SCRIPT LIGATURE ET ORNAMENT;aeHEAVY;
    acLIGATURE OPEN;aeHEAVY;bbAMPERSAND;acSWASH;
    abSANS-SERIF HEAVY DOUBLE TURNED COMMA QUOTATION MARK;de;cfLOW;abHEAVY INTERROBANG;
    acSANS-SERIF;adHEAVY;VERY HEAVY SOLIDUS;cbREVERSE;CHECKER BOARD;acREVERSE;ROCKET;HELICOPTER;
    STEAM LOCOMOTIVE;RAILWAY CAR;HIGH-SPEED TRAIN;cWITH BULLET NOSE;TRAIN;METRO;LIGHT RAIL;STATION;
    TRAM;bCAR;BUS;abONCOMING;TROLLEYBUS;BUS STOP;MINIBUS;AMBULANCE;FIRE ENGINE;POLICE CAR;
    acONCOMING;TAXI;abONCOMING;AUTOMOBILE;abONCOMING;RECREATIONAL VEHICLE;DELIVERY TRUCK;
    ARTICULATED LORRY;TRACTOR;MONORAIL;MOUNTAIN RAILWAY;abSUSPENSION;MOUNTAIN CABLEWAY;
    AERIAL TRAMWAY;SHIP;ROWBOAT;SPEEDBOAT;HORIZONTAL TRAFFIC LIGHT;acVERTICAL;CONSTRUCTION SIGN;
    POLICE CARS REVOLVING LIGHT;TRIANGULAR FLAG ON POST;DOOR;NO ENTRY SIGN;SMOKING SYMBOL;acNO;
    abPUT LITTER IN ITS PLACE;abDO NOT LITTER;abPOTABLE WATER;acNON-POTABLE;BICYCLE;NO BICYCLES;
    BICYCLIST;abMOUNTAIN;PEDESTRIAN;NO PEDESTRIANS;CHILDREN CROSSING;MENS SYMBOL;abWOMENS;RESTROOM;
    BABY SYMBOL;TOILET;WATER CLOSET;SHOWER;BATH;BATHTUB;PASSPORT CONTROL;CUSTOMS;BAGGAGE CLAIM;
    LEFT LUGGAGE;TRIANGLE WITH ROUNDED CORNERS;PROHIBITED SIGN;CIRCLED INFORMATION SOURCE;
    BOYS SYMBOL;abGIRLS;COUCH AND LAMP;SLEEPING ACCOMMODATION;SHOPPING BAGS;BELLHOP BELL;BED;
    PLACE OF WORSHIP;OCTAGONAL SIGN;SHOPPING TROLLEY;STUPA;PAGODA;HINDU TEMPLE;HUT;ELEVATOR;5;
    PLAYGROUND SLIDE;WHEEL;RING BUOY;HAMMER AND WRENCH;SHIELD;OIL DRUM;MOTORWAY;RAILWAY TRACK;
    MOTOR BOAT;UP-POINTING MILITARY AIRPLANE;bb;bbSMALL;ac;abNORTHEAST-POINTING;AIRPLANE DEPARTURE;
    bARRIVING;3;SATELLITE;ONCOMING FIRE ENGINE;DIESEL LOCOMOTIVE;PASSENGER SHIP;SCOOTER;abMOTOR;
    CANOE;SLED;FLYING SAUCER;SKATEBOARD;AUTO RICKSHAW;PICKUP TRUCK;ROLLER SKATE;3;
    ALCHEMICAL SYMBOL FOR QUINTESSENCE;dAIR;dFIRE;dEARTH;dWATER;dAQUAFORTIS;dAQUA REGIA;eREGIA-2;
    eVITAE;eVITAE-2;dVINEGAR;dVINEGAR-2;dVINEGAR-3;dSULFUR;dbPHILOSOPHERS;dbBLACK;
    dMERCURY SUBLIMATE;eSUBLIMATE-2;eSUBLIMATE-3;dCINNABAR;dSALT;dNITRE;dVITRIOL;dVITRIOL-2;
    dROCK SALT;eSALT-2;dGOLD;dSILVER;dIRON ORE;eORE-2;dCROCUS OF IRON;dcREGULUS;dCOPPER ORE;
    dbIRON-COPPER;dSUBLIMATE OF COPPER;dcCROCUS;fCOPPER-2;dCOPPER ANTIMONIATE;dcSALT OF;
    dSUBLIMATE OF SALT OF COPPER;dVERDIGRIS;dTIN ORE;dbLEAD;dbANTIMONY;dSUBLIMATE OF ANTIMONY;
    dcSALT;ddSUBLIMATE OF;dcVINEGAR;dcREGULUS;fANTIMONY-2;e;dREGULUS-2;dREGULUS-3;dREGULUS-4;
    dALKALI;dALKALI-2;dMARCASITE;dSAL-AMMONIAC;dARSENIC;dREALGAR;dREALGAR-2;dAURIPIGMENT;
    dBISMUTH ORE;dTARTAR;dTARTAR-2;dQUICK LIME;dBORAX;dBORAX-2;dBORAX-3;dALUM;dOIL;dSPIRIT;
    dTINCTURE;dGUM;dWAX;dPOWDER;dCALX;dTUTTY;dCAPUT MORTUUM;dSCEPTER OF JOVE;dCADUCEUS;dTRIDENT;
    dbSTARRED;dLODESTONE;dSOAP;dURINE;dHORSE DUNG;dASHES;dbPOT;dBRICK;dbPOWDERED;dAMALGAM;
    dSTRATUM SUPER STRATUM;fSTRATUM-2;dSUBLIMATION;dPRECIPITATE;dDISTILL;dDISSOLVE;dDISSOLVE-2;
    dPURIFY;dPUTREFACTION;dCRUCIBLE;dCRUCIBLE-2;dCRUCIBLE-3;dCRUCIBLE-4;dCRUCIBLE-5;dALEMBIC;
    dBATH OF MARY;fVAPOURS;dRETORT;dHOUR;dNIGHT;dDAY-NIGHT;dMONTH;dHALF DRAM;eOUNCE;12;
    BLACK LEFT-POINTING ISOSCELES RIGHT TRIANGLE;bdUP-POINTING;bdRIGHT-POINTING;bdDOWN-POINTING;
    bSLIGHTLY SMALL CIRCLE;abMEDIUM BOLD WHITE;ad;acHEAVY;adVERY;adEXTREMELY;
    abWHITE CIRCLE CONTAINING BLACK SMALL;ROUND TARGET;BLACK TINY SQUARE;bbSLIGHTLY SMALL;
    abLIGHT WHITE;acMEDIUM;acBOLD;acHEAVY;adVERY;adEXTREMELY;
    abWHITE SQUARE CONTAINING BLACK VERY SMALL;ebMEDIUM;SQUARE TARGET;BLACK TINY DIAMOND;
    bbVERY SMALL;bcMEDIUM;acWHITE DIAMOND CONTAINING BLACK VERY;ebMEDIUM;DIAMOND TARGET;
    BLACK TINY LOZENGE;bbVERY SMALL;bcMEDIUM;acWHITE LOZENGE CONTAINING BLACK;THIN GREEK CROSS;
    acLIGHT;acMEDIUM;acBOLD;adVERY;bcHEAVY;adEXTREMELY;THIN SALTIRE;abLIGHT;abMEDIUM;abBOLD;
    abHEAVY;acVERY;acEXTREMELY;LIGHT FIVE SPOKED ASTERISK;adMEDIUM;adBOLD;adHEAVY;aeVERY;
    aeEXTREMELY;acLIGHT SIX;adMEDIUM;adBOLD;adHEAVY;aeVERY;aeEXTREMELY;acLIGHT EIGHT;adMEDIUM;
    adBOLD;adHEAVY;aeVERY;LIGHT THREE POINTED BLACK STAR;aeMEDIUM;ae;
    abMEDIUM THREE POINTED PINWHEEL;abLIGHT FOUR POINTED BLACK;aeMEDIUM;ae;
    abMEDIUM FOUR POINTED PINWHEEL;aeREVERSE LIGHT;abLIGHT FIVE POINTED BLACK;aeHEAVY;adMEDIUM SIX;
    aeHEAVY;abSIX POINTED PINWHEEL;abMEDIUM EIGHT POINTED BLACK;aeHEAVY;afVERY;
    abHEAVY EIGHT POINTED PINWHEEL;abLIGHT TWELVE POINTED BLACK;aeHEAVY;dbPINWHEEL;
    CIRCLED TRIANGLE;acNEGATIVE;CIRCLED SQUARE;acNEGATIVE;7;LARGE ORANGE CIRCLE;bbYELLOW;bbGREEN;
    bbPURPLE;bbBROWN;bRED SQUARE;bbBLUE;bbORANGE;bbYELLOW;bbGREEN;bbPURPLE;bbBROWN;4;
    HEAVY EQUALS SIGN;15;LEFTWARDS ARROW WITH SMALL TRIANGLE ARROWHEAD;afUPWARDS;afRIGHTWARDS;
    afDOWNWARDS;acLEFTWARDS ARROW WITH MEDIUM;afUPWARDS;afRIGHTWARDS;afDOWNWARDS;
    acLEFTWARDS ARROW WITH LARGE;afUPWARDS;afRIGHTWARDS;afDOWNWARDS;4;
    abLEFTWARDS ARROW WITH SMALL EQUILATERAL;afUPWARDS;afRIGHTWARDS;afDOWNWARDS;
    acLEFTWARDS ARROW WITH;aeUPWARDS;aeRIGHTWARDS;aeDOWNWARDS;aeHEAVY LEFTWARDS;beUPWARDS;
    beRIGHTWARDS;beDOWNWARDS;bcLEFTWARDS ARROW WITH LARGE;bfUPWARDS;bfRIGHTWARDS;bfDOWNWARDS;
    LEFTWARDS TRIANGLE-HEADED ARROW WITH NARROW SHAFT;afUPWARDS;afRIGHTWARDS;afDOWNWARDS;
    abLEFTWARDS TRIANGLE-HEADED ARROW WITH MEDIUM;afUPWARDS;afRIGHTWARDS;afDOWNWARDS;
    abLEFTWARDS TRIANGLE-HEADED ARROW WITH BOLD;afUPWARDS;afRIGHTWARDS;afDOWNWARDS;
    abLEFTWARDS TRIANGLE-HEADED ARROW WITH HEAVY;afUPWARDS;afRIGHTWARDS;afDOWNWARDS;
    acLEFTWARDS TRIANGLE-HEADED ARROW WITH VERY;agUPWARDS;agRIGHTWARDS;agDOWNWARDS;
    LEFTWARDS FINGER-POST ARROW;acUPWARDS;acRIGHTWARDS;acDOWNWARDS;abLEFTWARDS SQUARED;acUPWARDS;
    acRIGHTWARDS;acDOWNWARDS;abLEFTWARDS COMPRESSED;acUPWARDS;acRIGHTWARDS;acDOWNWARDS;
    acLEFTWARDS HEAVY;adUPWARDS;adRIGHTWARDS;adDOWNWARDS;abLEFTWARDS HEAVY;acUPWARDS;acRIGHTWARDS;
    acDOWNWARDS;8;abLEFTWARDS SANS-SERIF;acUPWARDS;acRIGHTWARDS;acDOWNWARDS;acNORTH WEST;bcEAST;
    adSOUTH;bcWEST;acLEFT RIGHT;acUP DOWN;6;abWIDE-HEADED LEFTWARDS LIGHT BARB;bdUPWARDS;
    bdRIGHTWARDS;bdDOWNWARDS;bdNORTH WEST;cdEAST;beSOUTH;cdWEST;bcLEFTWARDS;bcUPWARDS;bcRIGHTWARDS;
    bcDOWNWARDS;bcNORTH WEST;ccEAST;bdSOUTH;ccWEST;bcLEFTWARDS MEDIUM;bdUPWARDS;bdRIGHTWARDS;
    bdDOWNWARDS;bdNORTH WEST;cdEAST;beSOUTH;cdWEST;bcLEFTWARDS HEAVY;bdUPWARDS;bdRIGHTWARDS;
    bdDOWNWARDS;bdNORTH WEST;cdEAST;beSOUTH;cdWEST;bdLEFTWARDS VERY;beUPWARDS;beRIGHTWARDS;
    beDOWNWARDS;beNORTH WEST;ceEAST;bfSOUTH;ceWEST;8;LEFTWARDS TRIANGLE ARROWHEAD;acUPWARDS;
    acRIGHTWARDS;acDOWNWARDS;acLEFTWARDS WHITE ARROW WITHIN;afUPWARDS;afRIGHTWARDS;afDOWNWARDS;
    LEFTWARDS ARROW WITH NOTCHED TAIL;aeUPWARDS;aeRIGHTWARDS;aeDOWNWARDS;
    HEAVY ARROW SHAFT WIDTH ONE;eTWO THIRDS;eONE HALF;fTHIRD;LEFTWARDS BOTTOM-SHADED WHITE ARROW;
    acRIGHTWARDS BOTTOM SHADED;adLEFTWARDS TOP;aeRIGHTWARDS;acLEFTWARDS LEFT-SHADED;
    acRIGHTWARDS RIGHT-SHADED;adLEFTWARDS;acRIGHTWARDS LEFT-SHADED;
    acLEFTWARDS BACK-TILTED SHADOWED;aeRIGHTWARDS;adLEFTWARDS FRONT-TILTED;aeRIGHTWARDS;
    WHITE ARROW SHAFT WIDTH ONE;eTWO THIRDS;2;ARROW POINTING UPWARDS THEN NORTH WEST;
    cbRIGHTWARDS THEN CURVING SOUTH;78;CIRCLED CROSS FORMEE WITH FOUR DOTS;ebTWO;d;
    LEFT HALF CIRCLE WITH FOUR DOTS;ebTHREE;ebTWO;eDOT;d;DOWNWARD FACING HOOK;cbNOTCHED;
    cHOOK WITH DOT;cdNOTCHED;PINCHED FINGERS;WHITE HEART;abBROWN;PINCHING HAND;ZIPPER-MOUTH FACE;
    abMONEY-MOUTH;FACE WITH THERMOMETER;NERD FACE;abTHINKING;FACE WITH HEAD-BANDAGE;ROBOT FACE;
    abHUGGING;SIGN OF THE HORNS;CALL ME HAND;abRAISED BACK OF;LEFT-FACING FIST;abRIGHT-FACING;
    HANDSHAKE;HAND WITH INDEX AND MIDDLE FINGERS CROSSED;I LOVE YOU HAND SIGN;FACE WITH COWBOY HAT;
    CLOWN FACE;abNAUSEATED;ROLLING ON THE FLOOR LAUGHING;DROOLING FACE;abLYING;FACE PALM;
    SNEEZING FACE;FACE WITH ONE EYEBROW RAISED;GRINNING FACE WITH STAR EYES;
    dONE LARGE AND ONE SMALL EYE;FACE WITH FINGER COVERING CLOSED LIPS;
    SERIOUS FACE WITH SYMBOLS COVERING MOUTH;acSMILING FACE WITH SMILING EYES AND HAND;
    FACE WITH OPEN MOUTH VOMITING;SHOCKED FACE WITH EXPLODING HEAD;PREGNANT WOMAN;BREAST-FEEDING;
    PALMS UP TOGETHER;SELFIE;PRINCE;MAN IN TUXEDO;MOTHER CHRISTMAS;SHRUG;PERSON DOING CARTWHEEL;
    JUGGLING;FENCER;MODERN PENTATHLON;WRESTLERS;WATER POLO;HANDBALL;DIVING MASK;WILTED FLOWER;
    DRUM WITH DRUMSTICKS;CLINKING GLASSES;TUMBLER GLASS;SPOON;GOAL NET;RIFLE;FIRST PLACE MEDAL;
    acSECOND;acTHIRD;BOXING GLOVE;MARTIAL ARTS UNIFORM;CURLING STONE;LACROSSE STICK AND BALL;
    SOFTBALL;FLYING DISC;CROISSANT;AVOCADO;CUCUMBER;BACON;POTATO;CARROT;BAGUETTE BREAD;GREEN SALAD;
    SHALLOW PAN OF FOOD;STUFFED FLATBREAD;EGG;GLASS OF MILK;PEANUTS;KIWIFRUIT;PANCAKES;DUMPLING;
    FORTUNE COOKIE;TAKEOUT BOX;CHOPSTICKS;BOWL WITH SPOON;CUP WITH STRAW;COCONUT;BROCCOLI;PIE;
    PRETZEL;CUT OF MEAT;SANDWICH;CANNED FOOD;LEAFY GREEN;MANGO;MOON CAKE;BAGEL;
    SMILING FACE WITH SMILING EYES AND THREE HEARTS;YAWNING FACE;SMILING FACE WITH TEAR;
    FACE WITH PARTY HORN AND PARTY HAT;cUNEVEN EYES AND WAVY MOUTH;OVERHEATED FACE;abFREEZING;
    NINJA;DISGUISED FACE;FACE HOLDING BACK TEARS;bWITH PLEADING EYES;SARI;LAB COAT;GOGGLES;
    HIKING BOOT;FLAT SHOE;CRAB;LION FACE;SCORPION;TURKEY;UNICORN FACE;EAGLE;DUCK;BAT;SHARK;OWL;
    FOX FACE;BUTTERFLY;DEER;GORILLA;LIZARD;RHINOCEROS;SHRIMP;SQUID;GIRAFFE FACE;abZEBRA;HEDGEHOG;
    SAUROPOD;T-REX;CRICKET;KANGAROO;LLAMA;PEACOCK;HIPPOPOTAMUS;PARROT;RACCOON;LOBSTER;MOSQUITO;
    MICROBE;BADGER;SWAN;MAMMOTH;DODO;SLOTH;OTTER;ORANGUTAN;SKUNK;FLAMINGO;OYSTER;BEAVER;BISON;SEAL;
    GUIDE DOG;PROBING CANE;EMOJI COMPONENT RED HAIR;cbCURLY;cBALD;cWHITE HAIR;BONE;LEG;FOOT;TOOTH;
    SUPERHERO;SUPERVILLAIN;SAFETY VEST;EAR WITH HEARING AID;MOTORIZED WHEELCHAIR;abMANUAL;
    MECHANICAL ARM;bLEG;CHEESE WEDGE;CUPCAKE;SALT SHAKER;BEVERAGE BOX;GARLIC;ONION;FALAFEL;WAFFLE;
    BUTTER;MATE DRINK;ICE CUBE;BUBBLE TEA;TROLL;STANDING PERSON;abKNEELING;abDEAF;
    FACE WITH MONOCLE;ADULT;CHILD;OLDER ADULT;BEARDED PERSON;PERSON WITH HEADSCARF;bIN STEAMY ROOM;
    bCLIMBING;bIN LOTUS POSITION;MAGE;FAIRY;VAMPIRE;MERPERSON;ELF;GENIE;ZOMBIE;BRAIN;ORANGE HEART;
    BILLED CAP;SCARF;GLOVES;COAT;SOCKS;RED GIFT ENVELOPE;FIRECRACKER;JIGSAW PUZZLE PIECE;TEST TUBE;
    PETRI DISH;DNA DOUBLE HELIX;COMPASS;ABACUS;FIRE EXTINGUISHER;TOOLBOX;BRICK;MAGNET;LUGGAGE;
    LOTION BOTTLE;SPOOL OF THREAD;BALL OF YARN;SAFETY PIN;TEDDY BEAR;BROOM;BASKET;ROLL OF PAPER;
    BAR OF SOAP;SPONGE;RECEIPT;NAZAR AMULET;NEUTRAL CHESS KING;cQUEEN;cROOK;cBISHOP;cKNIGHT;cPAWN;
    WHITE CHESS KNIGHT ROTATED FORTY-FIVE DEGREES;afBLACK;afNEUTRAL;
    abWHITE CHESS KING ROTATED NINETY;cdQUEEN;cdROOK;cdBISHOP;cdKNIGHT;cdPAWN;adBLACK CHESS KING;
    cdQUEEN;cdROOK;cdBISHOP;cdKNIGHT;cdPAWN;adNEUTRAL CHESS KING;cdQUEEN;cdROOK;cdBISHOP;cdKNIGHT;
    cdPAWN;abWHITE CHESS KNIGHT ROTATED ONE HUNDRED THIRTY-FIVE;ahBLACK;ahNEUTRAL;
    WHITE CHESS TURNED KING;dQUEEN;dROOK;dBISHOP;dKNIGHT;dPAWN;BLACK CHESS TURNED KING;dQUEEN;
    dROOK;dBISHOP;dKNIGHT;dPAWN;NEUTRAL CHESS TURNED KING;dQUEEN;dROOK;dBISHOP;dKNIGHT;dPAWN;
    WHITE CHESS KNIGHT ROTATED TWO HUNDRED TWENTY-FIVE DEGREES;ahBLACK;ahNEUTRAL;
    abWHITE CHESS KING ROTATED TWO HUNDRED SEVENTY;cfQUEEN;cfROOK;cfBISHOP;cfKNIGHT;cfPAWN;
    afBLACK CHESS KING;cfQUEEN;cfROOK;cfBISHOP;cfKNIGHT;cfPAWN;afNEUTRAL CHESS KING;cfQUEEN;cfROOK;
    cfBISHOP;cfKNIGHT;cfPAWN;abWHITE CHESS KNIGHT ROTATED THREE HUNDRED FIFTEEN;ahBLACK;ahNEUTRAL;
    WHITE CHESS EQUIHOPPER;acBLACK;acNEUTRAL;WHITE CHESS EQUIHOPPER ROTATED NINETY DEGREES;afBLACK;
    afNEUTRAL;WHITE CHESS KNIGHT-QUEEN;cKNIGHT-ROOK;cKNIGHT-BISHOP;BLACK CHESS KNIGHT-QUEEN;
    cKNIGHT-ROOK;cKNIGHT-BISHOP;12;XIANGQI RED GENERAL;cMANDARIN;cELEPHANT;cHORSE;cCHARIOT;cCANNON;
    cSOLDIER;bBLACK GENERAL;cMANDARIN;cELEPHANT;cHORSE;cCHARIOT;cCANNON;cSOLDIER;2;BALLET SHOES;
    ONE-PIECE SWIMSUIT;BRIEFS;SHORTS;THONG SANDAL;3;DROP OF BLOOD;ADHESIVE BANDAGE;STETHOSCOPE;
    X-RAY;CRUTCH;3;YO-YO;KITE;PARACHUTE;BOOMERANG;MAGIC WAND;PINATA;NESTING DOLLS;9;RINGED PLANET;
    CHAIR;RAZOR;AXE;DIYA LAMP;BANJO;MILITARY HELMET;ACCORDION;LONG DRUM;COIN;CARPENTRY SAW;
    SCREWDRIVER;LADDER;HOOK;MIRROR;WINDOW;PLUNGER;SEWING NEEDLE;KNOT;BUCKET;MOUSE TRAP;TOOTHBRUSH;
    HEADSTONE;PLACARD;ROCK;MIRROR BALL;IDENTIFICATION CARD;LOW BATTERY;HAMSA;3;FLY;WORM;BEETLE;
    COCKROACH;POTTED PLANT;WOOD;FEATHER;LOTUS;CORAL;EMPTY NEST;NEST WITH EGGS;5;ANATOMICAL HEART;
    LUNGS;PEOPLE HUGGING;PREGNANT MAN;bPERSON;PERSON WITH CROWN;10;BLUEBERRIES;BELL PEPPER;OLIVE;
    FLATBREAD;TAMALE;FONDUE;TEAPOT;POURING LIQUID;BEANS;JAR;6;MELTING FACE;abSALUTING;
    FACE WITH OPEN EYES AND HAND OVER MOUTH;cPEEKING EYE;cDIAGONAL MOUTH;DOTTED LINE FACE;
    BITING LIP;BUBBLES;8;HAND WITH INDEX FINGER AND THUMB CROSSED;RIGHTWARDS HAND;abLEFTWARDS;
    abPALM DOWN;bbUP;INDEX POINTING AT THE VIEWER;HEART HANDS;9;BLOCK SEXTANT-1;bSEXTANT-2;
    bSEXTANT-12;bSEXTANT-3;bSEXTANT-13;bSEXTANT-23;bSEXTANT-123;bSEXTANT-4;bSEXTANT-14;bSEXTANT-24;
    bSEXTANT-124;bSEXTANT-34;bSEXTANT-134;bSEXTANT-234;bSEXTANT-1234;bSEXTANT-5;bSEXTANT-15;
    bSEXTANT-25;bSEXTANT-125;bSEXTANT-35;bSEXTANT-235;bSEXTANT-1235;bSEXTANT-45;bSEXTANT-145;
    bSEXTANT-245;bSEXTANT-1245;bSEXTANT-345;bSEXTANT-1345;bSEXTANT-2345;bSEXTANT-12345;bSEXTANT-6;
    bSEXTANT-16;bSEXTANT-26;bSEXTANT-126;bSEXTANT-36;bSEXTANT-136;bSEXTANT-236;bSEXTANT-1236;
    bSEXTANT-46;bSEXTANT-146;bSEXTANT-1246;bSEXTANT-346;bSEXTANT-1346;bSEXTANT-2346;bSEXTANT-12346;
    bSEXTANT-56;bSEXTANT-156;bSEXTANT-256;bSEXTANT-1256;bSEXTANT-356;bSEXTANT-1356;bSEXTANT-2356;
    bSEXTANT-12356;bSEXTANT-456;bSEXTANT-1456;bSEXTANT-2456;bSEXTANT-12456;bSEXTANT-3456;
    bSEXTANT-13456;bSEXTANT-23456;LOWER LEFT BLOCK DIAGONAL LOWER MIDDLE LEFT TO LOWER CENTRE;
    jRIGHT;eUPPER MIDDLE LEFT TO LOWER CENTRE;jRIGHT;fLEFT TO LOWER CENTRE;
    bbRIGHT BLOCK DIAGONAL UPPER MIDDLE LEFT TO UPPER;jRIGHT;eLOWER MIDDLE LEFT TO UPPER CENTRE;
    jRIGHT;fLEFT TO UPPER CENTRE;fMIDDLE LEFT TO UPPER MIDDLE RIGHT;fcCENTRE TO LOWER;feLEFT;
    fcCENTRE TO UPPER;feLEFT;fbCENTRE TO UPPER;bbLEFT BLOCK DIAGONAL UPPER CENTRE TO UPPER MIDDLE;
    feLEFT;fcCENTRE TO LOWER;feLEFT;fbCENTRE TO LOWER;fbMIDDLE LEFT TO LOWER MIDDLE;
    UPPER RIGHT BLOCK DIAGONAL LOWER MIDDLE LEFT TO LOWER CENTRE;jRIGHT;
    eUPPER MIDDLE LEFT TO LOWER CENTRE;jRIGHT;fLEFT TO LOWER CENTRE;
    bbLEFT BLOCK DIAGONAL UPPER MIDDLE LEFT TO UPPER;jRIGHT;eLOWER MIDDLE LEFT TO UPPER CENTRE;
    jRIGHT;fLEFT TO UPPER CENTRE;fMIDDLE LEFT TO UPPER MIDDLE RIGHT;fcCENTRE TO LOWER;feLEFT;
    fcCENTRE TO UPPER;feLEFT;fbCENTRE TO UPPER;bbRIGHT BLOCK DIAGONAL UPPER CENTRE TO UPPER MIDDLE;
    feLEFT;fcCENTRE TO LOWER;feLEFT;fbCENTRE TO LOWER;fbMIDDLE LEFT TO LOWER MIDDLE;
    bAND RIGHT AND LOWER TRIANGULAR THREE QUARTERS BLOCK;aeLEFT AND LOWER AND RIGHT;
    aeUPPER AND LEFT AND LOWER;aeLEFT AND UPPER AND RIGHT;bbTRIANGULAR ONE QUARTER;aeUPPER;aeRIGHT;
    aeLOWER;VERTICAL ONE EIGHTH BLOCK-2;dBLOCK-3;dBLOCK-4;dBLOCK-5;dBLOCK-6;dBLOCK-7;
    HORIZONTAL ONE EIGHTH BLOCK-2;dBLOCK-3;dBLOCK-4;dBLOCK-5;dBLOCK-6;dBLOCK-7;
    LEFT AND LOWER ONE EIGHTH BLOCK;cdUPPER;afRIGHT;cdLOWER;afUPPER;
    HORIZONTAL ONE EIGHTH BLOCK-1358;UPPER ONE QUARTER BLOCK;bbTHREE EIGHTHS;bcFIVE;
    bbTHREE QUARTERS;bbSEVEN EIGHTHS;abRIGHT ONE QUARTER;bbTHREE EIGHTHS;bcFIVE;bbTHREE QUARTERS;
    bbSEVEN EIGHTHS;LEFT HALF MEDIUM SHADE;adRIGHT;adUPPER;adLOWER;acINVERSE;
    adUPPER HALF BLOCK AND LOWER HALF;cINVERSE MEDIUM SHADE AND LOWER HALF BLOCK;1;
    acLEFT HALF INVERSE MEDIUM SHADE AND RIGHT;CHECKER BOARD FILL;adINVERSE;abHEAVY HORIZONTAL;
    abUPPER LEFT TO LOWER RIGHT;bbRIGHT TO LOWER LEFT;bAND LOWER TRIANGULAR HALF BLOCK;
    adLEFT AND RIGHT;UPPER LEFT TRIANGULAR MEDIUM SHADE;bdRIGHT;aeLOWER;bdLEFT;
    BOX DRAWINGS LIGHT DIAGONAL UPPER CENTRE TO MIDDLE LEFT;iRIGHT;eMIDDLE LEFT TO LOWER CENTRE;
    fdRIGHT;edUPPER CENTRE TO MIDDLE LEFT;idRIGHT;eMIDDLE LEFT TO LOWER CENTRE TO MIDDLE RIGHT;
    heUPPER;eUPPER CENTRE TO MIDDLE LEFT AND MIDDLE RIGHT TO LOWER CENTRE;idRIGHT AND MIDDLE LEFT;
    jTO LOWER CENTRE TO MIDDLE LEFT;iLEFT TO LOWER CENTRE TO MIDDLE RIGHT;
    eMIDDLE LEFT TO UPPER CENTRE TO MIDDLE RIGHT TO LOWER CENTRE;
    fdRIGHT TO UPPER CENTRE TO MIDDLE LEFT;eDIAMOND;dHORIZONTAL WITH VERTICAL STROKE;
    ARROWHEAD-SHAPED POINTER;INVERSE CHECK MARK;LEFT HALF RUNNING MAN;adRIGHT;
    INVERSE DOWNWARDS ARROW WITH TIP LEFTWARDS;
    LEFTWARDS ARROW AND UPPER AND LOWER ONE EIGHTH BLOCK;aiRIGHTWARDS;adDOWNWARDS ARROW AND RIGHT;
    agUPWARDS;LEFT HALF FOLDER;acRIGHT;VOIDED GREEK CROSS;RIGHT OPEN SQUARED DOT;
    NEGATIVE DIAGONAL CROSS;cMIDDLE RIGHT TO LOWER CENTRE;cDIAMOND;
    WHITE HEAVY SALTIRE WITH ROUNDED CORNERS;LEFT THIRD WHITE RIGHT POINTING INDEX;afMIDDLE;
    afRIGHT;NEGATIVE SQUARED QUESTION MARK;STICK FIGURE;cWITH ARMS RAISED;cLEANING LEFT;dRIGHT;
    cWITH DRESS;WHITE UP-POINTING CHEVRON;37;SEGMENTED DIGIT ZERO;cONE;cTWO;cTHREE;cFOUR;cFIVE;
    cSIX;cSEVEN;cEIGHT;cNINE;787463;LANGUAGE TAG;30;TAG SPACE;bEXCLAMATION MARK;bbQUOTATION;
    bNUMBER SIGN;bbDOLLAR;bbPERCENT;bAMPERSAND;bAPOSTROPHE;bLEFT PARENTHESIS;bbRIGHT;bASTERISK;
    bPLUS SIGN;bCOMMA;bHYPHEN-MINUS;bFULL STOP;bSOLIDUS;bDIGIT ZERO;cONE;cTWO;cTHREE;cFOUR;cFIVE;
    cSIX;cSEVEN;cEIGHT;cNINE;bCOLON;bSEMICOLON;bLESS-THAN SIGN;bbEQUALS;bbGREATER-THAN;
    bQUESTION MARK;bCOMMERCIAL AT;bLATIN CAPITAL LETTER A;eB;eC;eD;eE;eF;eG;eH;eI;eJ;eK;eL;eM;eN;
    eO;eP;eQ;eR;eS;eT;eU;eV;eW;eX;eY;eZ;bLEFT SQUARE BRACKET;bREVERSE SOLIDUS;
    bRIGHT SQUARE BRACKET;bCIRCUMFLEX ACCENT;bLOW LINE;bGRAVE ACCENT;bLATIN SMALL LETTER A;eB;eC;
    eD;eE;eF;eG;eH;eI;eJ;eK;eL;eM;eN;eO;eP;eQ;eR;eS;eT;eU;eV;eW;eX;eY;eZ;bLEFT CURLY BRACKET;
    bVERTICAL LINE;bRIGHT CURLY BRACKET;bTILDE;CANCEL TAG;128;VARIATION SELECTOR-17;bSELECTOR-18;
    bSELECTOR-19;bSELECTOR-20;bSELECTOR-21;bSELECTOR-22;bSELECTOR-23;bSELECTOR-24;bSELECTOR-25;
    bSELECTOR-26;bSELECTOR-27;bSELECTOR-28;bSELECTOR-29;bSELECTOR-30;bSELECTOR-31;bSELECTOR-32;
    bSELECTOR-33;bSELECTOR-34;bSELECTOR-35;bSELECTOR-36;bSELECTOR-37;bSELECTOR-38;bSELECTOR-39;
    bSELECTOR-40;bSELECTOR-41;bSELECTOR-42;bSELECTOR-43;bSELECTOR-44;bSELECTOR-45;bSELECTOR-46;
    bSELECTOR-47;bSELECTOR-48;bSELECTOR-49;bSELECTOR-50;bSELECTOR-51;bSELECTOR-52;bSELECTOR-53;
    bSELECTOR-54;bSELECTOR-55;bSELECTOR-56;bSELECTOR-57;bSELECTOR-58;bSELECTOR-59;bSELECTOR-60;
    bSELECTOR-61;bSELECTOR-62;bSELECTOR-63;bSELECTOR-64;bSELECTOR-65;bSELECTOR-66;bSELECTOR-67;
    bSELECTOR-68;bSELECTOR-69;bSELECTOR-70;bSELECTOR-71;bSELECTOR-72;bSELECTOR-73;bSELECTOR-74;
    bSELECTOR-75;bSELECTOR-76;bSELECTOR-77;bSELECTOR-78;bSELECTOR-79;bSELECTOR-80;bSELECTOR-81;
    bSELECTOR-82;bSELECTOR-83;bSELECTOR-84;bSELECTOR-85;bSELECTOR-86;bSELECTOR-87;bSELECTOR-88;
    bSELECTOR-89;bSELECTOR-90;bSELECTOR-91;bSELECTOR-92;bSELECTOR-93;bSELECTOR-94;bSELECTOR-95;
    bSELECTOR-96;bSELECTOR-97;bSELECTOR-98;bSELECTOR-99;bSELECTOR-100;bSELECTOR-101;bSELECTOR-102;
    bSELECTOR-103;bSELECTOR-104;bSELECTOR-105;bSELECTOR-106;bSELECTOR-107;bSELECTOR-108;
    bSELECTOR-109;bSELECTOR-110;bSELECTOR-111;bSELECTOR-112;bSELECTOR-113;bSELECTOR-114;
    bSELECTOR-115;bSELECTOR-116;bSELECTOR-117;bSELECTOR-118;bSELECTOR-119;bSELECTOR-120;
    bSELECTOR-121;bSELECTOR-122;bSELECTOR-123;bSELECTOR-124;bSELECTOR-125;bSELECTOR-126;
    bSELECTOR-127;bSELECTOR-128;bSELECTOR-129;bSELECTOR-130;bSELECTOR-131;bSELECTOR-132;
    bSELECTOR-133;bSELECTOR-134;bSELECTOR-135;bSELECTOR-136;bSELECTOR-137;bSELECTOR-138;
    bSELECTOR-139;bSELECTOR-140;bSELECTOR-141;bSELECTOR-142;bSELECTOR-143;bSELECTOR-144;
    bSELECTOR-145;bSELECTOR-146;bSELECTOR-147;bSELECTOR-148;bSELECTOR-149;bSELECTOR-150;
    bSELECTOR-151;bSELECTOR-152;bSELECTOR-153;bSELECTOR-154;bSELECTOR-155;bSELECTOR-156;
    bSELECTOR-157;bSELECTOR-158;bSELECTOR-159;bSELECTOR-160;bSELECTOR-161;bSELECTOR-162;
    bSELECTOR-163;bSELECTOR-164;bSELECTOR-165;bSELECTOR-166;bSELECTOR-167;bSELECTOR-168;
    bSELECTOR-169;bSELECTOR-170;bSELECTOR-171;bSELECTOR-172;bSELECTOR-173;bSELECTOR-174;
    bSELECTOR-175;bSELECTOR-176;bSELECTOR-177;bSELECTOR-178;bSELECTOR-179;bSELECTOR-180;
    bSELECTOR-181;bSELECTOR-182;bSELECTOR-183;bSELECTOR-184;bSELECTOR-185;bSELECTOR-186;
    bSELECTOR-187;bSELECTOR-188;bSELECTOR-189;bSELECTOR-190;bSELECTOR-191;bSELECTOR-192;
    bSELECTOR-193;bSELECTOR-194;bSELECTOR-195;bSELECTOR-196;bSELECTOR-197;bSELECTOR-198;
    bSELECTOR-199;bSELECTOR-200;bSELECTOR-201;bSELECTOR-202;bSELECTOR-203;bSELECTOR-204;
    bSELECTOR-205;bSELECTOR-206;bSELECTOR-207;bSELECTOR-208;bSELECTOR-209;bSELECTOR-210;
    bSELECTOR-211;bSELECTOR-212;bSELECTOR-213;bSELECTOR-214;bSELECTOR-215;bSELECTOR-216;
    bSELECTOR-217;bSELECTOR-218;bSELECTOR-219;bSELECTOR-220;bSELECTOR-221;bSELECTOR-222;
    bSELECTOR-223;bSELECTOR-224;bSELECTOR-225;bSELECTOR-226;bSELECTOR-227;bSELECTOR-228;
    bSELECTOR-229;bSELECTOR-230;bSELECTOR-231;bSELECTOR-232;bSELECTOR-233;bSELECTOR-234;
    bSELECTOR-235;bSELECTOR-236;bSELECTOR-237;bSELECTOR-238;bSELECTOR-239;bSELECTOR-240;
    bSELECTOR-241;bSELECTOR-242;bSELECTOR-243;bSELECTOR-244;bSELECTOR-245;bSELECTOR-246;
    bSELECTOR-247;bSELECTOR-248;bSELECTOR-249;bSELECTOR-250;bSELECTOR-251;bSELECTOR-252;
    bSELECTOR-253;bSELECTOR-254;bSELECTOR-255;bSELECTOR-256"

end SqlRunner.Text.CharacterName
