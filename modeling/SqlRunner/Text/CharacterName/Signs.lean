/-!
# Character names — punctuation, currency, arrows, mathematical and technical signs, and radicals

The names of the assigned characters from U+2000 to U+2FFB, written short as
`CharacterName` describes.
-/

set_option autoImplicit false

namespace SqlRunner.Text.CharacterName

/-- The names from U+2000 on. -/
def signs : String := "
    EN QUAD;abEM;EN SPACE;abEM;abTHREE-PER-EM;abFOUR-PER-EM;abSIX-PER-EM;abFIGURE;abPUNCTUATION;
    abTHIN;abHAIR;abZERO WIDTH;cNON-JOINER;cJOINER;LEFT-TO-RIGHT MARK;abRIGHT-TO-LEFT;HYPHEN;
    abNON-BREAKING;FIGURE DASH;abEN;abEM;HORIZONTAL BAR;DOUBLE VERTICAL LINE;bbLOW;
    LEFT SINGLE QUOTATION MARK;adRIGHT;acSINGLE LOW-9;bcHIGH-REVERSED-9;acLEFT DOUBLE;adRIGHT;
    acDOUBLE LOW-9;bcHIGH-REVERSED-9;DAGGER;abDOUBLE;BULLET;abTRIANGULAR;ONE DOT LEADER;acTWO;
    HORIZONTAL ELLIPSIS;HYPHENATION POINT;LINE SEPARATOR;abPARAGRAPH;LEFT-TO-RIGHT EMBEDDING;
    abRIGHT-TO-LEFT;POP DIRECTIONAL FORMATTING;LEFT-TO-RIGHT OVERRIDE;abRIGHT-TO-LEFT;
    NARROW NO-BREAK SPACE;PER MILLE SIGN;bbTEN THOUSAND;PRIME;abDOUBLE;abTRIPLE;abREVERSED;
    bbDOUBLE;bbTRIPLE;CARET;SINGLE LEFT-POINTING ANGLE QUOTATION MARK;bdRIGHT-POINTING;abREFERENCE;
    abDOUBLE EXCLAMATION;INTERROBANG;OVERLINE;UNDERTIE;CHARACTER TIE;CARET INSERTION POINT;
    ASTERISM;HYPHEN BULLET;FRACTION SLASH;LEFT SQUARE BRACKET WITH QUILL;aeRIGHT;
    DOUBLE QUESTION MARK;abQUESTION EXCLAMATION;abEXCLAMATION QUESTION;TIRONIAN SIGN ET;
    REVERSED PILCROW SIGN;BLACK LEFTWARDS BULLET;bbRIGHTWARDS;LOW ASTERISK;REVERSED SEMICOLON;
    CLOSE UP;TWO ASTERISKS ALIGNED VERTICALLY;COMMERCIAL MINUS SIGN;SWUNG DASH;INVERTED UNDERTIE;
    FLOWER PUNCTUATION MARK;THREE DOT PUNCTUATION;QUADRUPLE PRIME;FOUR DOT PUNCTUATION;acFIVE;
    acTWO;FOUR DOT MARK;DOTTED CROSS;TRICOLON;VERTICAL FOUR DOTS;MEDIUM MATHEMATICAL SPACE;
    WORD JOINER;FUNCTION APPLICATION;INVISIBLE TIMES;bSEPARATOR;bPLUS;1;LEFT-TO-RIGHT ISOLATE;
    abRIGHT-TO-LEFT;abFIRST STRONG;abPOP DIRECTIONAL;INHIBIT SYMMETRIC SWAPPING;acACTIVATE;
    INHIBIT ARABIC FORM SHAPING;adACTIVATE;NATIONAL DIGIT SHAPES;acNOMINAL;SUPERSCRIPT ZERO;
    bLATIN SMALL LETTER I;2;bFOUR;bFIVE;bSIX;bSEVEN;bEIGHT;bNINE;bPLUS SIGN;bMINUS;bEQUALS SIGN;
    bLEFT PARENTHESIS;bbRIGHT;bLATIN SMALL LETTER N;SUBSCRIPT ZERO;bONE;bTWO;bTHREE;bFOUR;bFIVE;
    bSIX;bSEVEN;bEIGHT;bNINE;bPLUS SIGN;bMINUS;bEQUALS SIGN;bLEFT PARENTHESIS;bbRIGHT;1;
    LATIN SUBSCRIPT SMALL LETTER A;eE;eO;eX;eSCHWA;eH;eK;eL;eM;eN;eP;eS;eT;3;EURO-CURRENCY SIGN;
    abCOLON;abCRUZEIRO;abFRENCH FRANC;abLIRA;abMILL;abNAIRA;abPESETA;abRUPEE;abWON;abNEW SHEQEL;
    abDONG;abEURO;abKIP;abTUGRIK;abDRACHMA;abGERMAN PENNY;abPESO;abGUARANI;abAUSTRAL;abHRYVNIA;
    abCEDI;abLIVRE TOURNOIS;abSPESMILO;abTENGE;abINDIAN RUPEE;abTURKISH LIRA;abNORDIC MARK;abMANAT;
    abRUBLE;abLARI;abBITCOIN;abSOM;15;COMBINING LEFT HARPOON ABOVE;bcRIGHT;
    bLONG VERTICAL LINE OVERLAY;bdSHORT;bANTICLOCKWISE ARROW ABOVE;bcCLOCKWISE;bcLEFT;bcRIGHT;
    bRING OVERLAY;bcCLOCKWISE;bcANTICLOCKWISE;bTHREE DOTS ABOVE;bcFOUR;bENCLOSING CIRCLE;cSQUARE;
    cDIAMOND;cCIRCLE BACKSLASH;bLEFT RIGHT ARROW ABOVE;bENCLOSING SCREEN;cKEYCAP;
    cUPWARD POINTING TRIANGLE;bREVERSE SOLIDUS OVERLAY;bbDOUBLE VERTICAL STROKE;bANNUITY SYMBOL;
    bTRIPLE UNDERDOT;bWIDE BRIDGE ABOVE;bLEFTWARDS ARROW OVERLAY;bbLONG DOUBLE SOLIDUS;
    bRIGHTWARDS HARPOON WITH BARB DOWNWARDS;beLEFTWARDS;bLEFT ARROW BELOW;bcRIGHT;bASTERISK ABOVE;
    15;ACCOUNT OF;ADDRESSED TO THE SUBJECT;DOUBLE-STRUCK CAPITAL C;DEGREE CELSIUS;
    CENTRE LINE SYMBOL;CARE OF;CADA UNA;EULER CONSTANT;SCRUPLE;DEGREE FAHRENHEIT;SCRIPT SMALL G;
    bCAPITAL H;acBLACK-LETTER;acDOUBLE-STRUCK;PLANCK CONSTANT;cOVER TWO PI;SCRIPT CAPITAL I;
    acBLACK-LETTER;SCRIPT CAPITAL L;bbSMALL;L B BAR SYMBOL;DOUBLE-STRUCK CAPITAL N;NUMERO SIGN;
    SOUND RECORDING COPYRIGHT;SCRIPT CAPITAL P;acDOUBLE-STRUCK;cQ;SCRIPT CAPITAL R;acBLACK-LETTER;
    acDOUBLE-STRUCK;PRESCRIPTION TAKE;RESPONSE;SERVICE MARK;TELEPHONE SIGN;abTRADE MARK;VERSICLE;
    DOUBLE-STRUCK CAPITAL Z;OUNCE SIGN;abOHM;acINVERTED;BLACK-LETTER CAPITAL Z;
    TURNED GREEK SMALL LETTER IOTA;KELVIN SIGN;abANGSTROM;SCRIPT CAPITAL B;BLACK-LETTER CAPITAL C;
    ESTIMATED SYMBOL;SCRIPT SMALL E;bbCAPITAL;cF;acTURNED;SCRIPT CAPITAL M;bSMALL O;ALEF SYMBOL;
    abBET;abGIMEL;abDALET;INFORMATION SOURCE;ROTATED CAPITAL Q;FACSIMILE SIGN;
    DOUBLE-STRUCK SMALL PI;cGAMMA;bbCAPITAL;cPI;bN-ARY SUMMATION;TURNED SANS-SERIF CAPITAL G;dL;
    adREVERSED;TURNED SANS-SERIF CAPITAL Y;DOUBLE-STRUCK ITALIC CAPITAL D;cbSMALL;dE;dI;dJ;
    PROPERTY LINE;TURNED AMPERSAND;PER SIGN;AKTIESELSKAB;TURNED SMALL F;
    SYMBOL FOR SAMARITAN SOURCE;VULGAR FRACTION ONE SEVENTH;dNINTH;dTENTH;dTHIRD;cTWO THIRDS;
    cONE FIFTH;cTWO FIFTHS;cbTHREE;cbFOUR;cONE SIXTH;cFIVE SIXTHS;cONE EIGHTH;cTHREE EIGHTHS;
    cbFIVE;cbSEVEN;FRACTION NUMERATOR ONE;abROMAN NUMERAL;cTWO;cTHREE;cFOUR;cFIVE;cSIX;cSEVEN;
    cEIGHT;cNINE;cTEN;cELEVEN;cTWELVE;cFIFTY;cONE HUNDRED;cbFIVE;cONE THOUSAND;
    SMALL ROMAN NUMERAL ONE;dTWO;dTHREE;dFOUR;dFIVE;dSIX;dSEVEN;dEIGHT;dNINE;dTEN;dELEVEN;dTWELVE;
    dFIFTY;dONE HUNDRED;dbFIVE;dONE THOUSAND;ROMAN NUMERAL ONE THOUSAND C D;cFIVE THOUSAND;cbTEN;
    cREVERSED ONE HUNDRED;LATIN SMALL LETTER REVERSED C;ROMAN NUMERAL SIX LATE FORM;cbFIFTY EARLY;
    dTHOUSAND;cbONE HUNDRED;VULGAR FRACTION ZERO THIRDS;TURNED DIGIT TWO;cTHREE;4;LEFTWARDS ARROW;
    abUPWARDS;abRIGHTWARDS;abDOWNWARDS;abLEFT RIGHT;abUP DOWN;abNORTH WEST;bbEAST;acSOUTH;bbWEST;
    LEFTWARDS ARROW WITH STROKE;adRIGHTWARDS;LEFTWARDS WAVE ARROW;acRIGHTWARDS;
    abLEFTWARDS TWO HEADED;adUPWARDS;adRIGHTWARDS;adDOWNWARDS;LEFTWARDS ARROW WITH TAIL;
    adRIGHTWARDS;LEFTWARDS ARROW FROM BAR;adUPWARDS;adRIGHTWARDS;adDOWNWARDS;
    UP DOWN ARROW WITH BASE;LEFTWARDS ARROW WITH HOOK;adRIGHTWARDS;LEFTWARDS ARROW WITH LOOP;
    adRIGHTWARDS;LEFT RIGHT WAVE ARROW;cARROW WITH STROKE;DOWNWARDS ZIGZAG ARROW;
    UPWARDS ARROW WITH TIP LEFTWARDS;eRIGHTWARDS;DOWNWARDS ARROW WITH TIP LEFTWARDS;eRIGHTWARDS;
    RIGHTWARDS ARROW WITH CORNER DOWNWARDS;DOWNWARDS ARROW WITH CORNER LEFTWARDS;
    ANTICLOCKWISE TOP SEMICIRCLE ARROW;adCLOCKWISE;NORTH WEST ARROW TO LONG BAR;
    abLEFTWARDS ARROW TO BAR OVER RIGHTWARDS ARROW TO;ANTICLOCKWISE OPEN CIRCLE ARROW;adCLOCKWISE;
    LEFTWARDS HARPOON WITH BARB UPWARDS;eDOWNWARDS;UPWARDS HARPOON WITH BARB RIGHTWARDS;eLEFTWARDS;
    RIGHTWARDS HARPOON WITH BARB UPWARDS;eDOWNWARDS;DOWNWARDS HARPOON WITH BARB RIGHTWARDS;
    eLEFTWARDS;RIGHTWARDS ARROW OVER LEFTWARDS ARROW;abUPWARDS ARROW LEFTWARDS OF DOWNWARDS;
    abLEFTWARDS ARROW OVER RIGHTWARDS;bPAIRED ARROWS;acUPWARDS;acRIGHTWARDS;acDOWNWARDS;
    LEFTWARDS HARPOON OVER RIGHTWARDS HARPOON;abRIGHTWARDS HARPOON OVER LEFTWARDS;
    LEFTWARDS DOUBLE ARROW WITH STROKE;aeLEFT RIGHT;aeRIGHTWARDS;LEFTWARDS DOUBLE ARROW;acUPWARDS;
    acRIGHTWARDS;acDOWNWARDS;acLEFT RIGHT;acUP DOWN;acNORTH WEST;bcEAST;adSOUTH;bcWEST;
    abLEFTWARDS TRIPLE;acRIGHTWARDS;abLEFTWARDS SQUIGGLE;acRIGHTWARDS;
    UPWARDS ARROW WITH DOUBLE STROKE;aeDOWNWARDS;LEFTWARDS DASHED ARROW;acUPWARDS;acRIGHTWARDS;
    acDOWNWARDS;LEFTWARDS ARROW TO BAR;adRIGHTWARDS;LEFTWARDS WHITE ARROW;acUPWARDS;acRIGHTWARDS;
    acDOWNWARDS;UPWARDS WHITE ARROW FROM BAR;dON PEDESTAL;fWITH HORIZONTAL BAR;gbVERTICAL;
    cDOUBLE ARROW;eON PEDESTAL;RIGHTWARDS WHITE ARROW FROM WALL;NORTH WEST ARROW TO CORNER;
    adSOUTH EAST;UP DOWN WHITE ARROW;RIGHT ARROW WITH SMALL CIRCLE;
    DOWNWARDS ARROW LEFTWARDS OF UPWARDS ARROW;THREE RIGHTWARDS ARROWS;
    LEFTWARDS ARROW WITH VERTICAL STROKE;aeRIGHTWARDS;aeLEFT RIGHT;acLEFTWARDS ARROW WITH DOUBLE;
    afRIGHTWARDS;afLEFT RIGHT;LEFTWARDS OPEN-HEADED ARROW;acRIGHTWARDS;acLEFT RIGHT;FOR ALL;
    COMPLEMENT;PARTIAL DIFFERENTIAL;THERE EXISTS;bDOES NOT EXIST;EMPTY SET;INCREMENT;NABLA;
    ELEMENT OF;acNOT AN;acSMALL;CONTAINS AS MEMBER;acDOES NOT CONTAIN;acSMALL CONTAINS;
    END OF PROOF;N-ARY PRODUCT;bCOPRODUCT;bSUMMATION;MINUS SIGN;abMINUS-OR-PLUS;DOT PLUS;
    DIVISION SLASH;SET MINUS;ASTERISK OPERATOR;abRING;abBULLET;SQUARE ROOT;abCUBE;abFOURTH;
    PROPORTIONAL TO;INFINITY;RIGHT ANGLE;ab;abMEASURED;abSPHERICAL;DIVIDES;DOES NOT DIVIDE;
    PARALLEL TO;acNOT;LOGICAL AND;bOR;INTERSECTION;UNION;INTEGRAL;abDOUBLE;abTRIPLE;abCONTOUR;
    abSURFACE;abVOLUME;abCLOCKWISE;bbCONTOUR;acANTICLOCKWISE;THEREFORE;BECAUSE;RATIO;PROPORTION;
    DOT MINUS;EXCESS;GEOMETRIC PROPORTION;HOMOTHETIC;TILDE OPERATOR;REVERSED TILDE;INVERTED LAZY S;
    SINE WAVE;WREATH PRODUCT;NOT TILDE;abMINUS;ASYMPTOTICALLY EQUAL TO;adNOT;acAPPROXIMATELY;
    bcBUT NOT ACTUALLY;adNEITHER APPROXIMATELY NOR;acALMOST;adNOT;acALMOST EQUAL OR;TRIPLE TILDE;
    ALL EQUAL TO;abEQUIVALENT;acGEOMETRICALLY;DIFFERENCE BETWEEN;APPROACHES THE LIMIT;
    GEOMETRICALLY EQUAL TO;APPROXIMATELY EQUAL TO OR THE IMAGE OF;
    IMAGE OF OR APPROXIMATELY EQUAL TO;COLON EQUALS;EQUALS COLON;RING IN EQUAL TO;bc;abCORRESPONDS;
    ESTIMATES;EQUIANGULAR TO;STAR EQUALS;DELTA EQUAL TO;EQUAL TO BY DEFINITION;MEASURED BY;
    QUESTIONED EQUAL TO;acNOT;abIDENTICAL;acNOT;abSTRICTLY EQUIVALENT;abLESS-THAN OR EQUAL;
    adGREATER-THAN;acLESS-THAN OVER;adGREATER-THAN;acLESS-THAN BUT NOT;aeGREATER-THAN;
    MUCH LESS-THAN;bGREATER-THAN;BETWEEN;NOT EQUIVALENT TO;bLESS-THAN;bGREATER-THAN;
    NEITHER LESS-THAN NOR EQUAL TO;bdGREATER-THAN;abLESS-THAN OR EQUIVALENT;adGREATER-THAN;
    acNEITHER LESS-THAN NOR;bdGREATER-THAN;LESS-THAN OR GREATER-THAN;GREATER-THAN OR LESS-THAN;
    NEITHER LESS-THAN NOR GREATER-THAN;bGREATER-THAN NOR LESS-THAN;PRECEDES;SUCCEEDS;
    PRECEDES OR EQUAL TO;adSUCCEEDS;abPRECEDES OR EQUIVALENT;adSUCCEEDS;DOES NOT PRECEDE;cSUCCEED;
    SUBSET OF;abSUPERSET;abNOT A SUBSET;cbSUPERSET;SUBSET OF OR EQUAL TO;aeSUPERSET;
    acNEITHER A SUBSET OF NOR;ceSUPERSET;acSUBSET OF WITH NOT;afSUPERSET;MULTISET;bMULTIPLICATION;
    bUNION;SQUARE IMAGE OF;bbORIGINAL;bIMAGE OF OR EQUAL TO;beORIGINAL;bCAP;bCUP;CIRCLED PLUS;
    bMINUS;bTIMES;bDIVISION SLASH;bDOT OPERATOR;bbRING;bbASTERISK;bEQUALS;bDASH;SQUARED PLUS;
    bMINUS;bTIMES;bDOT OPERATOR;RIGHT TACK;abLEFT;abDOWN;abUP;ASSERTION;MODELS;TRUE;FORCES;
    TRIPLE VERTICAL BAR RIGHT TURNSTILE;acDOUBLE VERTICAL BAR DOUBLE;DOES NOT PROVE;NOT TRUE;
    DOES NOT FORCE;NEGATED DOUBLE VERTICAL BAR DOUBLE RIGHT TURNSTILE;PRECEDES UNDER RELATION;
    acSUCCEEDS;NORMAL SUBGROUP OF;CONTAINS AS NORMAL SUBGROUP;NORMAL SUBGROUP OF OR EQUAL TO;
    adCONTAINS AS NORMAL SUBGROUP;ORIGINAL OF;abIMAGE;MULTIMAP;HERMITIAN CONJUGATE MATRIX;
    INTERCALATE;XOR;NAND;NOR;RIGHT ANGLE WITH ARC;bTRIANGLE;N-ARY LOGICAL AND;cOR;bINTERSECTION;
    bUNION;DIAMOND OPERATOR;abDOT;abSTAR;DIVISION TIMES;BOWTIE;
    LEFT NORMAL FACTOR SEMIDIRECT PRODUCT;aeRIGHT;acLEFT;acRIGHT;REVERSED TILDE EQUALS;
    CURLY LOGICAL OR;cAND;DOUBLE SUBSET;bSUPERSET;bINTERSECTION;bUNION;PITCHFORK;
    EQUAL AND PARALLEL TO;LESS-THAN WITH DOT;acGREATER-THAN;VERY MUCH LESS-THAN;cGREATER-THAN;
    abLESS-THAN EQUAL TO OR;GREATER-THAN EQUAL TO OR LESS-THAN;ae;dGREATER-THAN;dPRECEDES;
    dSUCCEEDS;DOES NOT PRECEDE OR EQUAL;ccSUCCEED;NOT SQUARE IMAGE OF OR EQUAL TO;ceORIGINAL;
    acSQUARE IMAGE OF OR NOT;bfORIGINAL;abLESS-THAN BUT NOT EQUIVALENT;aeGREATER-THAN;aePRECEDES;
    aeSUCCEEDS;NOT NORMAL SUBGROUP OF;DOES NOT CONTAIN AS NORMAL SUBGROUP;
    NOT NORMAL SUBGROUP OF OR EQUAL TO;DOES NOT CONTAIN AS NORMAL SUBGROUP OR EQUAL;
    VERTICAL ELLIPSIS;abMIDLINE HORIZONTAL;abUP RIGHT DIAGONAL;adDOWN;
    ELEMENT OF WITH LONG HORIZONTAL STROKE;dcVERTICAL BAR AT END OF;akSMALL;
    ELEMENT OF WITH DOT ABOVE;dOVERBAR;aeSMALL;ELEMENT OF WITH UNDERBAR;dTWO HORIZONTAL STROKES;
    CONTAINS WITH LONG HORIZONTAL STROKE;ccVERTICAL BAR AT END OF;ajSMALL;CONTAINS WITH OVERBAR;
    adSMALL;Z NOTATION BAG MEMBERSHIP;DIAMETER SIGN;ELECTRIC ARROW;HOUSE;UP ARROWHEAD;abDOWN;
    PROJECTIVE;PERSPECTIVE;WAVY LINE;LEFT CEILING;abRIGHT;LEFT FLOOR;abRIGHT;BOTTOM RIGHT CROP;
    bbLEFT;abTOP RIGHT;bbLEFT;REVERSED NOT SIGN;SQUARE LOZENGE;ARC;SEGMENT;SECTOR;
    TELEPHONE RECORDER;POSITION INDICATOR;VIEWDATA SQUARE;PLACE OF INTEREST SIGN;abTURNED NOT;
    WATCH;HOURGLASS;TOP LEFT CORNER;bbRIGHT;abBOTTOM LEFT;bbRIGHT;TOP HALF INTEGRAL;acBOTTOM;FROWN;
    SMILE;UP ARROWHEAD BETWEEN TWO HORIZONTAL BARS;OPTION KEY;ERASE TO THE RIGHT;
    X IN A RECTANGLE BOX;KEYBOARD;LEFT-POINTING ANGLE BRACKET;acRIGHT-POINTING;ERASE TO THE LEFT;
    BENZENE RING;CYLINDRICITY;ALL AROUND-PROFILE;SYMMETRY;TOTAL RUNOUT;DIMENSION ORIGIN;
    CONICAL TAPER;SLOPE;COUNTERBORE;COUNTERSINK;APL FUNCTIONAL SYMBOL I-BEAM;dSQUISH QUAD;
    dQUAD EQUAL;eDIVIDE;eDIAMOND;eJOT;eCIRCLE;dCIRCLE STILE;eJOT;dSLASH BAR;dbBACKSLASH;
    dQUAD SLASH;eBACKSLASH;eLESS-THAN;eGREATER-THAN;dLEFTWARDS VANE;dbRIGHTWARDS;
    dQUAD LEFTWARDS ARROW;ebRIGHTWARDS;dCIRCLE BACKSLASH;dDOWN TACK UNDERBAR;dDELTA STILE;
    dQUAD DOWN CARET;eDELTA;dDOWN TACK JOT;dUPWARDS VANE;dQUAD UPWARDS ARROW;dUP TACK OVERBAR;
    dDEL STILE;dQUAD UP CARET;eDEL;dUP TACK JOT;dDOWNWARDS VANE;dQUAD DOWNWARDS ARROW;
    dQUOTE UNDERBAR;dbDELTA;dbDIAMOND;dbJOT;dbCIRCLE;dUP SHOE JOT;dQUOTE QUAD;dCIRCLE STAR;
    dQUAD COLON;dUP TACK DIAERESIS;dbDEL;dbSTAR;dbJOT;dbCIRCLE;dDOWN SHOE STILE;dcLEFT;
    dTILDE DIAERESIS;dbGREATER-THAN;dCOMMA BAR;dDEL TILDE;dZILDE;dSTILE TILDE;dSEMICOLON UNDERBAR;
    dQUAD NOT EQUAL;eQUESTION;dDOWN CARET TILDE;dcUP;dIOTA;dRHO;dOMEGA;dALPHA UNDERBAR;dbEPSILON;
    dbIOTA;dbOMEGA;dALPHA;NOT CHECK MARK;RIGHT ANGLE WITH DOWNWARDS ZIGZAG ARROW;
    SHOULDERED OPEN BOX;BELL SYMBOL;VERTICAL LINE WITH MIDDLE DOT;INSERTION SYMBOL;
    abCONTINUOUS UNDERLINE;acDISCONTINUOUS;abEMPHASIS;abCOMPOSITION;
    WHITE SQUARE WITH CENTRE VERTICAL LINE;ENTER SYMBOL;abALTERNATIVE KEY;abHELM;
    CIRCLED HORIZONTAL BAR WITH NOTCH;bTRIANGLE DOWN;BROKEN CIRCLE WITH NORTHWEST ARROW;
    UNDO SYMBOL;abMONOSTABLE;abHYSTERESIS;abOPEN-CIRCUIT-OUTPUT H-TYPE;bbL-TYPE;
    abPASSIVE-PULL-DOWN-OUTPUT;abPASSIVE-PULL-UP-OUTPUT;DIRECT CURRENT SYMBOL FORM TWO;
    SOFTWARE-FUNCTION SYMBOL;APL FUNCTIONAL SYMBOL QUAD;DECIMAL SEPARATOR KEY SYMBOL;PREVIOUS PAGE;
    abNEXT;PRINT SCREEN SYMBOL;acCLEAR;LEFT PARENTHESIS UPPER HOOK;cEXTENSION;cLOWER HOOK;
    abRIGHT PARENTHESIS UPPER;cEXTENSION;cLOWER HOOK;LEFT SQUARE BRACKET UPPER CORNER;dEXTENSION;
    dLOWER CORNER;abRIGHT SQUARE BRACKET UPPER;dEXTENSION;dLOWER CORNER;
    LEFT CURLY BRACKET UPPER HOOK;dMIDDLE PIECE;dLOWER HOOK;CURLY BRACKET EXTENSION;
    RIGHT CURLY BRACKET UPPER HOOK;dMIDDLE PIECE;dLOWER HOOK;INTEGRAL EXTENSION;abHORIZONTAL LINE;
    UPPER LEFT OR LOWER RIGHT CURLY BRACKET SECTION;bdRIGHT OR LOWER LEFT;SUMMATION TOP;bBOTTOM;
    TOP SQUARE BRACKET;acBOTTOM;dOVER TOP SQUARE BRACKET;RADICAL SYMBOL BOTTOM;
    LEFT VERTICAL BOX LINE;adRIGHT;HORIZONTAL SCAN LINE-1;cLINE-3;cLINE-7;cLINE-9;
    DENTISTRY SYMBOL LIGHT VERTICAL AND TOP RIGHT;fbBOTTOM;eWITH CIRCLE;dcDOWN AND HORIZONTAL;deUP;
    dVERTICAL WITH TRIANGLE;dcDOWN AND HORIZONTAL;deUP;dVERTICAL AND WAVE;
    dbDOWN AND HORIZONTAL WITH;deUP;dDOWN AND HORIZONTAL;dcUP;dVERTICAL AND TOP LEFT;fbBOTTOM;
    SQUARE FOOT;RETURN SYMBOL;abEJECT;VERTICAL LINE EXTENSION;METRICAL BREVE;bLONG OVER SHORT;
    bSHORT OVER LONG;bLONG OVER TWO SHORTS;bTWO SHORTS OVER LONG;dJOINED;bTRISEME;bTETRASEME;
    bPENTASEME;EARTH GROUND;FUSE;TOP PARENTHESIS;abBOTTOM;TOP CURLY BRACKET;acBOTTOM;
    abTOP TORTOISE SHELL;adBOTTOM;WHITE TRAPEZIUM;BENZENE RING WITH CIRCLE;STRAIGHTNESS;FLATNESS;
    AC CURRENT;ELECTRICAL INTERSECTION;DECIMAL EXPONENT SYMBOL;
    BLACK RIGHT-POINTING DOUBLE TRIANGLE;bcLEFT-POINTING;bcUP-POINTING;bcDOWN-POINTING;
    bRIGHT-POINTING DOUBLE TRIANGLE WITH VERTICAL BAR;bfLEFT-POINTING;
    bcRIGHT-POINTING TRIANGLE WITH DOUBLE;ALARM CLOCK;STOPWATCH;TIMER CLOCK;
    HOURGLASS WITH FLOWING SAND;BLACK MEDIUM LEFT-POINTING TRIANGLE;cbRIGHT-POINTING;cbUP-POINTING;
    cbDOWN-POINTING;DOUBLE VERTICAL BAR;BLACK SQUARE FOR STOP;bCIRCLE FOR RECORD;POWER SYMBOL;
    bbON-OFF;bbON;bbSLEEP;abOBSERVER EYE;SYMBOL FOR NULL;cSTART OF HEADING;eTEXT;ccEND;
    eTRANSMISSION;cENQUIRY;cACKNOWLEDGE;cBELL;cBACKSPACE;cHORIZONTAL TABULATION;cLINE FEED;
    cVERTICAL TABULATION;cFORM FEED;cCARRIAGE RETURN;cSHIFT OUT;dIN;cDATA LINK ESCAPE;
    cDEVICE CONTROL ONE;eTWO;eTHREE;eFOUR;cNEGATIVE ACKNOWLEDGE;cSYNCHRONOUS IDLE;
    cEND OF TRANSMISSION BLOCK;cCANCEL;cEND OF MEDIUM;cSUBSTITUTE;cESCAPE;cFILE SEPARATOR;cbGROUP;
    cbRECORD;cbUNIT;cSPACE;cDELETE;BLANK SYMBOL;OPEN BOX;SYMBOL FOR NEWLINE;cDELETE FORM TWO;
    ccSUBSTITUTE;25;OCR HOOK;bCHAIR;bFORK;bbINVERTED;bBELT BUCKLE;bBOW TIE;
    bBRANCH BANK IDENTIFICATION;bAMOUNT OF CHECK;bDASH;bCUSTOMER ACCOUNT NUMBER;bDOUBLE BACKSLASH;
    21;CIRCLED DIGIT ONE;cTWO;cTHREE;cFOUR;cFIVE;cSIX;cSEVEN;cEIGHT;cNINE;bNUMBER TEN;cELEVEN;
    cTWELVE;cTHIRTEEN;cFOURTEEN;cFIFTEEN;cSIXTEEN;cSEVENTEEN;cEIGHTEEN;cNINETEEN;cTWENTY;
    PARENTHESIZED DIGIT ONE;cTWO;cTHREE;cFOUR;cFIVE;cSIX;cSEVEN;cEIGHT;cNINE;bNUMBER TEN;cELEVEN;
    cTWELVE;cTHIRTEEN;cFOURTEEN;cFIFTEEN;cSIXTEEN;cSEVENTEEN;cEIGHTEEN;cNINETEEN;cTWENTY;
    DIGIT ONE FULL STOP;bcTWO;bcTHREE;bcFOUR;bcFIVE;bcSIX;bcSEVEN;bcEIGHT;bcNINE;acNUMBER TEN;
    bcELEVEN;bcTWELVE;bcTHIRTEEN;bcFOURTEEN;bcFIFTEEN;bcSIXTEEN;bcSEVENTEEN;bcEIGHTEEN;bcNINETEEN;
    bcTWENTY;PARENTHESIZED LATIN SMALL LETTER A;eB;eC;eD;eE;eF;eG;eH;eI;eJ;eK;eL;eM;eN;eO;eP;eQ;eR;
    eS;eT;eU;eV;eW;eX;eY;eZ;CIRCLED LATIN CAPITAL LETTER A;eB;eC;eD;eE;eF;eG;eH;eI;eJ;eK;eL;eM;eN;
    eO;eP;eQ;eR;eS;eT;eU;eV;eW;eX;eY;eZ;cSMALL LETTER A;eB;eC;eD;eE;eF;eG;eH;eI;eJ;eK;eL;eM;eN;eO;
    eP;eQ;eR;eS;eT;eU;eV;eW;eX;eY;eZ;bDIGIT ZERO;NEGATIVE CIRCLED NUMBER ELEVEN;dTWELVE;dTHIRTEEN;
    dFOURTEEN;dFIFTEEN;dSIXTEEN;dSEVENTEEN;dEIGHTEEN;dNINETEEN;dTWENTY;DOUBLE CIRCLED DIGIT ONE;
    dTWO;dTHREE;dFOUR;dFIVE;dSIX;dSEVEN;dEIGHT;dNINE;cNUMBER TEN;NEGATIVE CIRCLED DIGIT ZERO;
    BOX DRAWINGS LIGHT HORIZONTAL;cbHEAVY;cLIGHT VERTICAL;cbHEAVY;cLIGHT TRIPLE DASH HORIZONTAL;
    cdHEAVY;cLIGHT TRIPLE DASH VERTICAL;cdHEAVY;cLIGHT QUADRUPLE DASH HORIZONTAL;cdHEAVY;
    cLIGHT QUADRUPLE DASH VERTICAL;cdHEAVY;cLIGHT DOWN AND RIGHT;cDOWN LIGHT AND RIGHT HEAVY;
    dHEAVY AND RIGHT LIGHT;cHEAVY DOWN AND RIGHT;cLIGHT DOWN AND LEFT;cDOWN LIGHT AND LEFT HEAVY;
    dHEAVY AND LEFT LIGHT;cHEAVY DOWN AND LEFT;cLIGHT UP AND RIGHT;cUP LIGHT AND RIGHT HEAVY;
    dHEAVY AND RIGHT LIGHT;cHEAVY UP AND RIGHT;cLIGHT UP AND LEFT;cUP LIGHT AND LEFT HEAVY;
    dHEAVY AND LEFT LIGHT;cHEAVY UP AND LEFT;cLIGHT VERTICAL AND RIGHT;
    cVERTICAL LIGHT AND RIGHT HEAVY;cUP HEAVY AND RIGHT DOWN LIGHT;cbDOWN HEAVY AND RIGHT UP;
    cbVERTICAL HEAVY AND RIGHT;cDOWN LIGHT AND RIGHT UP HEAVY;cbUP LIGHT AND RIGHT DOWN;
    cHEAVY VERTICAL AND RIGHT;cLIGHT VERTICAL AND LEFT;cVERTICAL LIGHT AND LEFT HEAVY;
    cUP HEAVY AND LEFT DOWN LIGHT;cbDOWN HEAVY AND LEFT UP;cbVERTICAL HEAVY AND LEFT;
    cDOWN LIGHT AND LEFT UP HEAVY;cbUP LIGHT AND LEFT DOWN;cHEAVY VERTICAL AND LEFT;
    cLIGHT DOWN AND HORIZONTAL;cLEFT HEAVY AND RIGHT DOWN LIGHT;ccRIGHT HEAVY AND LEFT;
    cDOWN LIGHT AND HORIZONTAL HEAVY;dHEAVY AND HORIZONTAL LIGHT;cRIGHT LIGHT AND LEFT DOWN HEAVY;
    ccLEFT LIGHT AND RIGHT;cHEAVY DOWN AND HORIZONTAL;ccLIGHT UP;cLEFT HEAVY AND RIGHT UP LIGHT;
    ccRIGHT HEAVY AND LEFT;cUP LIGHT AND HORIZONTAL HEAVY;dHEAVY AND HORIZONTAL LIGHT;
    cRIGHT LIGHT AND LEFT UP HEAVY;ccLEFT LIGHT AND RIGHT;cHEAVY UP AND HORIZONTAL;
    ccLIGHT VERTICAL;cLEFT HEAVY AND RIGHT VERTICAL LIGHT;ccRIGHT HEAVY AND LEFT;
    cVERTICAL LIGHT AND HORIZONTAL HEAVY;cUP HEAVY AND DOWN HORIZONTAL LIGHT;ccDOWN HEAVY AND UP;
    ccVERTICAL HEAVY AND;cbLEFT UP HEAVY AND RIGHT DOWN;ccRIGHT UP HEAVY AND LEFT;
    cbLEFT DOWN HEAVY AND RIGHT UP;ccRIGHT DOWN HEAVY AND LEFT;cDOWN LIGHT AND UP HORIZONTAL HEAVY;
    ccUP LIGHT AND DOWN;cbRIGHT LIGHT AND LEFT VERTICAL;ccLEFT LIGHT AND RIGHT;
    cHEAVY VERTICAL AND HORIZONTAL;cbLIGHT DOUBLE DASH;cdHEAVY;cLIGHT DOUBLE DASH VERTICAL;cdHEAVY;
    cDOUBLE HORIZONTAL;dVERTICAL;cDOWN SINGLE AND RIGHT DOUBLE;dDOUBLE AND RIGHT SINGLE;
    cDOUBLE DOWN AND RIGHT;cDOWN SINGLE AND LEFT DOUBLE;dDOUBLE AND LEFT SINGLE;
    cDOUBLE DOWN AND LEFT;cUP SINGLE AND RIGHT DOUBLE;dDOUBLE AND RIGHT SINGLE;
    cDOUBLE UP AND RIGHT;cUP SINGLE AND LEFT DOUBLE;dDOUBLE AND LEFT SINGLE;cDOUBLE UP AND LEFT;
    cVERTICAL SINGLE AND RIGHT DOUBLE;dDOUBLE AND RIGHT SINGLE;cDOUBLE VERTICAL AND RIGHT;
    cVERTICAL SINGLE AND LEFT DOUBLE;dDOUBLE AND LEFT SINGLE;cDOUBLE VERTICAL AND LEFT;
    cDOWN SINGLE AND HORIZONTAL DOUBLE;dDOUBLE AND HORIZONTAL SINGLE;cDOUBLE DOWN AND HORIZONTAL;
    cUP SINGLE AND HORIZONTAL DOUBLE;dDOUBLE AND HORIZONTAL SINGLE;cDOUBLE UP AND HORIZONTAL;
    cVERTICAL SINGLE AND HORIZONTAL DOUBLE;dDOUBLE AND HORIZONTAL SINGLE;
    cDOUBLE VERTICAL AND HORIZONTAL;cLIGHT ARC DOWN AND RIGHT;gLEFT;ecUP;gRIGHT;
    dDIAGONAL UPPER RIGHT TO LOWER LEFT;fLEFT TO LOWER RIGHT;eCROSS;dLEFT;dUP;dRIGHT;dDOWN;
    cHEAVY LEFT;dUP;dRIGHT;dDOWN;cLIGHT LEFT AND HEAVY RIGHT;dUP AND HEAVY DOWN;
    cHEAVY LEFT AND LIGHT RIGHT;dUP AND LIGHT DOWN;UPPER HALF BLOCK;abLOWER ONE EIGHTH;cbQUARTER;
    bbTHREE EIGHTHS;bbHALF;bbFIVE EIGHTHS;bbTHREE QUARTERS;bbSEVEN EIGHTHS;abFULL;
    abLEFT SEVEN EIGHTHS;bbTHREE QUARTERS;bbFIVE EIGHTHS;bbHALF;bbTHREE EIGHTHS;bbONE QUARTER;
    cbEIGHTH;abRIGHT HALF;LIGHT SHADE;abMEDIUM;abDARK;UPPER ONE EIGHTH BLOCK;adRIGHT;
    QUADRANT LOWER LEFT;cRIGHT;bUPPER LEFT;dAND LOWER LEFT AND LOWER RIGHT;fb;
    eUPPER RIGHT AND LOWER LEFT;iRIGHT;cb;dAND LOWER LEFT;gAND LOWER RIGHT;BLACK SQUARE;abWHITE;
    cWITH ROUNDED CORNERS;cCONTAINING BLACK SMALL SQUARE;SQUARE WITH HORIZONTAL FILL;cbVERTICAL;
    cbORTHOGONAL CROSSHATCH;cbUPPER LEFT TO LOWER RIGHT;dbRIGHT TO LOWER LEFT;
    cbDIAGONAL CROSSHATCH;BLACK SMALL SQUARE;acWHITE;BLACK RECTANGLE;abWHITE;abBLACK VERTICAL;
    acWHITE;BLACK PARALLELOGRAM;abWHITE;BLACK UP-POINTING TRIANGLE;acWHITE;
    abBLACK UP-POINTING SMALL;adWHITE;abBLACK RIGHT-POINTING;acWHITE;abBLACK RIGHT-POINTING SMALL;
    adWHITE;BLACK RIGHT-POINTING POINTER;acWHITE;BLACK DOWN-POINTING TRIANGLE;acWHITE;
    abBLACK DOWN-POINTING SMALL;adWHITE;abBLACK LEFT-POINTING;acWHITE;abBLACK LEFT-POINTING SMALL;
    adWHITE;BLACK LEFT-POINTING POINTER;acWHITE;BLACK DIAMOND;abWHITE;
    cCONTAINING BLACK SMALL DIAMOND;FISHEYE;LOZENGE;WHITE CIRCLE;abDOTTED;
    CIRCLE WITH VERTICAL FILL;BULLSEYE;BLACK CIRCLE;CIRCLE WITH LEFT HALF BLACK;ccRIGHT;ccLOWER;
    ccUPPER;dbRIGHT QUADRANT;ccALL BUT UPPER LEFT;LEFT HALF BLACK CIRCLE;adRIGHT;INVERSE BULLET;
    bWHITE CIRCLE;adUPPER HALF;aeLOWER;UPPER LEFT QUADRANT CIRCULAR ARC;bdRIGHT;aeLOWER;bdLEFT;
    UPPER HALF CIRCLE;acLOWER;BLACK LOWER RIGHT TRIANGLE;cbLEFT;bcUPPER;cbRIGHT;WHITE BULLET;
    SQUARE WITH LEFT HALF BLACK;ccRIGHT;ccUPPER LEFT DIAGONAL;cdLOWER RIGHT;
    WHITE SQUARE WITH VERTICAL BISECTING LINE;bUP-POINTING TRIANGLE WITH DOT;
    UP-POINTING TRIANGLE WITH LEFT HALF BLACK;dcRIGHT;LARGE CIRCLE;
    WHITE SQUARE WITH UPPER LEFT QUADRANT;dcLOWER;ebRIGHT;dcUPPER;bbCIRCLE WITH UPPER LEFT;dcLOWER;
    ebRIGHT;dcUPPER;UPPER LEFT TRIANGLE;bbRIGHT;abLOWER LEFT;WHITE MEDIUM SQUARE;acBLACK;
    abWHITE MEDIUM SMALL;adBLACK;LOWER RIGHT TRIANGLE;BLACK SUN WITH RAYS;CLOUD;UMBRELLA;SNOWMAN;
    COMET;BLACK STAR;abWHITE;LIGHTNING;THUNDERSTORM;SUN;ASCENDING NODE;abDESCENDING;CONJUNCTION;
    OPPOSITION;BLACK TELEPHONE;abWHITE;BALLOT BOX;cWITH CHECK;dX;SALTIRE;UMBRELLA WITH RAIN DROPS;
    HOT BEVERAGE;WHITE SHOGI PIECE;acBLACK;SHAMROCK;REVERSED ROTATED FLORAL HEART BULLET;
    BLACK LEFT POINTING INDEX;bcRIGHT;acWHITE LEFT;bcUP;bcRIGHT;bcDOWN;SKULL AND CROSSBONES;
    CAUTION SIGN;abRADIOACTIVE;abBIOHAZARD;CADUCEUS;ANKH;ORTHODOX CROSS;CHI RHO;CROSS OF LORRAINE;
    cJERUSALEM;STAR AND CRESCENT;FARSI SYMBOL;ADI SHAKTI;HAMMER AND SICKLE;PEACE SYMBOL;YIN YANG;
    TRIGRAM FOR HEAVEN;cLAKE;cFIRE;cTHUNDER;cWIND;cWATER;cMOUNTAIN;cEARTH;WHEEL OF DHARMA;
    WHITE FROWNING FACE;bbSMILING;acBLACK;WHITE SUN WITH RAYS;FIRST QUARTER MOON;acLAST;MERCURY;
    FEMALE SIGN;EARTH;MALE SIGN;JUPITER;SATURN;URANUS;NEPTUNE;PLUTO;ARIES;TAURUS;GEMINI;CANCER;LEO;
    VIRGO;LIBRA;SCORPIUS;SAGITTARIUS;CAPRICORN;AQUARIUS;PISCES;WHITE CHESS KING;cQUEEN;cROOK;
    cBISHOP;cKNIGHT;cPAWN;BLACK CHESS KING;cQUEEN;cROOK;cBISHOP;cKNIGHT;cPAWN;bSPADE SUIT;
    abWHITE HEART;bbDIAMOND;abBLACK CLUB;abWHITE SPADE;abBLACK HEART;bbDIAMOND;abWHITE CLUB;
    HOT SPRINGS;QUARTER NOTE;abEIGHTH;BEAMED EIGHTH NOTES;bbSIXTEENTH;MUSIC FLAT SIGN;bbNATURAL;
    bbSHARP;WEST SYRIAC CROSS;acEAST;UNIVERSAL RECYCLING SYMBOL;
    RECYCLING SYMBOL FOR TYPE-1 PLASTICS;dbTYPE-2;dbTYPE-3;dbTYPE-4;dbTYPE-5;dbTYPE-6;dbTYPE-7;
    dGENERIC MATERIALS;BLACK UNIVERSAL RECYCLING SYMBOL;abRECYCLED PAPER;acPARTIALLY-RECYCLED;
    PERMANENT PAPER SIGN;WHEELCHAIR SYMBOL;DIE FACE-1;bFACE-2;bFACE-3;bFACE-4;bFACE-5;bFACE-6;
    WHITE CIRCLE WITH DOT RIGHT;dTWO DOTS;BLACK CIRCLE WITH WHITE DOT RIGHT;dTWO WHITE DOTS;
    MONOGRAM FOR YANG;cYIN;DIGRAM FOR GREATER YANG;cLESSER YIN;dYANG;cGREATER YIN;WHITE FLAG;
    abBLACK;HAMMER AND PICK;ANCHOR;CROSSED SWORDS;STAFF OF AESCULAPIUS;SCALES;ALEMBIC;FLOWER;GEAR;
    STAFF OF HERMES;ATOM SYMBOL;FLEUR-DE-LIS;OUTLINED WHITE STAR;THREE LINES CONVERGING RIGHT;
    dLEFT;WARNING SIGN;abHIGH VOLTAGE;abDOUBLED FEMALE;bbMALE;acINTERLOCKED FEMALE AND;
    abMALE AND FEMALE;bbWITH STROKE;dbAND MALE AND FEMALE;abVERTICAL MALE WITH STROKE;aeHORIZONTAL;
    MEDIUM WHITE CIRCLE;bbBLACK;bbSMALL WHITE;MARRIAGE SYMBOL;abDIVORCE;abUNMARRIED PARTNERSHIP;
    COFFIN;FUNERAL URN;NEUTER;CERES;PALLAS;JUNO;VESTA;CHIRON;BLACK MOON LILITH;SEXTILE;SEMISEXTILE;
    QUINCUNX;SESQUIQUADRATE;SOCCER BALL;BASEBALL;SQUARED KEY;WHITE DRAUGHTS MAN;cKING;
    BLACK DRAUGHTS MAN;cKING;SNOWMAN WITHOUT SNOW;SUN BEHIND CLOUD;RAIN;BLACK SNOWMAN;
    THUNDER CLOUD AND RAIN;TURNED WHITE SHOGI PIECE;bcBLACK;WHITE DIAMOND IN SQUARE;CROSSING LANES;
    DISABLED CAR;OPHIUCHUS;PICK;CAR SLIDING;HELMET WITH WHITE CROSS;CIRCLED CROSSING LANES;CHAINS;
    NO ENTRY;ALTERNATE ONE-WAY LEFT WAY TRAFFIC;adBLACK TWO-WAY;aeWHITE;BLACK LEFT LANE MERGE;
    adWHITE;DRIVE SLOW SIGN;HEAVY WHITE DOWN-POINTING TRIANGLE;LEFT CLOSED ENTRY;SQUARED SALTIRE;
    FALLING DIAGONAL IN WHITE CIRCLE IN BLACK SQUARE;BLACK TRUCK;RESTRICTED LEFT ENTRY-1;cENTRY-2;
    ASTRONOMICAL SYMBOL FOR URANUS;HEAVY CIRCLE WITH STROKE AND TWO DOTS ABOVE;PENTAGRAM;
    abRIGHT-HANDED INTERLACED;acLEFT-HANDED;abINVERTED;BLACK CROSS ON SHIELD;SHINTO SHRINE;CHURCH;
    CASTLE;HISTORIC SITE;GEAR WITHOUT HUB;bWITH HANDLES;MAP SYMBOL FOR LIGHTHOUSE;MOUNTAIN;
    UMBRELLA ON GROUND;FOUNTAIN;FLAG IN HOLE;FERRY;SAILBOAT;SQUARE FOUR CORNERS;SKIER;ICE SKATE;
    PERSON WITH BALL;TENT;JAPANESE BANK SYMBOL;abHEADSTONE GRAVEYARD;FUEL PUMP;CUP ON BLACK SQUARE;
    WHITE FLAG WITH HORIZONTAL MIDDLE BLACK STRIPE;BLACK SAFETY SCISSORS;abUPPER BLADE;abBLACK;
    abLOWER BLADE;abWHITE;bHEAVY CHECK MARK;TELEPHONE LOCATION SIGN;TAPE DRIVE;AIRPLANE;ENVELOPE;
    RAISED FIST;bHAND;abVICTORY;abWRITING;LOWER RIGHT PENCIL;ab;abUPPER RIGHT;WHITE NIB;abBLACK;
    CHECK MARK;acHEAVY;MULTIPLICATION X;acHEAVY;abBALLOT;acHEAVY;OUTLINED GREEK CROSS;acHEAVY;
    abOPEN CENTRE;adHEAVY;abLATIN;acSHADOWED WHITE;acOUTLINED;abMALTESE;STAR OF DAVID;
    FOUR TEARDROP-SPOKED ASTERISK;bbBALLOON-SPOKED;adHEAVY;abFOUR CLUB-SPOKED;
    BLACK FOUR POINTED STAR;adWHITE;SPARKLES;STRESS OUTLINED WHITE STAR;acCIRCLED;
    abOPEN CENTRE BLACK;abBLACK CENTRE WHITE;abOUTLINED BLACK;adHEAVY;abPINWHEEL;abSHADOWED WHITE;
    HEAVY ASTERISK;abOPEN CENTRE;abEIGHT SPOKED;bPOINTED BLACK STAR;cbPINWHEEL;abSIX POINTED BLACK;
    acEIGHT POINTED RECTILINEAR;afHEAVY;acTWELVE POINTED;SIXTEEN POINTED ASTERISK;
    abTEARDROP-SPOKED;acOPEN CENTRE;acHEAVY;SIX PETALLED BLACK AND WHITE FLORETTE;abBLACK;abWHITE;
    abEIGHT PETALLED OUTLINED BLACK;CIRCLED OPEN CENTRE EIGHT POINTED STAR;
    HEAVY TEARDROP-SPOKED PINWHEEL ASTERISK;SNOWFLAKE;abTIGHT TRIFOLIATE;abHEAVY CHEVRON;SPARKLE;
    abHEAVY;BALLOON-SPOKED ASTERISK;abEIGHT TEARDROP-SPOKED PROPELLER;aeHEAVY;CROSS MARK;
    SHADOWED WHITE CIRCLE;NEGATIVE SQUARED CROSS MARK;LOWER RIGHT DROP-SHADOWED WHITE SQUARE;
    aeUPPER;acLOWER RIGHT SHADOWED;aeUPPER;BLACK QUESTION MARK ORNAMENT;adWHITE;bcEXCLAMATION;
    BLACK DIAMOND MINUS WHITE X;HEAVY EXCLAMATION MARK SYMBOL;LIGHT VERTICAL BAR;acMEDIUM;acHEAVY;
    bSINGLE TURNED COMMA QUOTATION MARK ORNAMENT;ce;beDOUBLE TURNED;ce;beLOW SINGLE;ceDOUBLE;
    abCURVED STEM PARAGRAPH SIGN;abHEAVY EXCLAMATION MARK;bdHEART;bBLACK HEART;
    ROTATED HEAVY BLACK HEART BULLET;FLORAL HEART;ROTATED FLORAL HEART BULLET;
    MEDIUM LEFT PARENTHESIS ORNAMENT;bcRIGHT;bcFLATTENED LEFT;ccRIGHT;
    bbLEFT-POINTING ANGLE BRACKET;bdRIGHT-POINTING;abHEAVY LEFT-POINTING ANGLE QUOTATION MARK;
    beRIGHT-POINTING;bbLEFT-POINTING ANGLE BRACKET;bdRIGHT-POINTING;acLIGHT LEFT TORTOISE SHELL;
    beRIGHT;acMEDIUM LEFT CURLY;bdRIGHT;DINGBAT NEGATIVE CIRCLED DIGIT ONE;eTWO;eTHREE;eFOUR;eFIVE;
    eSIX;eSEVEN;eEIGHT;eNINE;dNUMBER TEN;bCIRCLED SANS-SERIF DIGIT ONE;eTWO;eTHREE;eFOUR;eFIVE;
    eSIX;eSEVEN;eEIGHT;eNINE;dNUMBER TEN;bNEGATIVE CIRCLED SANS-SERIF DIGIT ONE;fTWO;fTHREE;fFOUR;
    fFIVE;fSIX;fSEVEN;fEIGHT;fNINE;eNUMBER TEN;HEAVY WIDE-HEADED RIGHTWARDS ARROW;bPLUS SIGN;
    bbMINUS;bbDIVISION;bSOUTH EAST ARROW;bbRIGHTWARDS;bbNORTH EAST;abDRAFTING POINT RIGHTWARDS;
    acHEAVY ROUND-TIPPED;acTRIANGLE-HEADED;adHEAVY;adDASHED;aeHEAVY;acBLACK;
    THREE-D TOP-LIGHTED RIGHTWARDS ARROWHEAD;bcBOTTOM-LIGHTED;acBLACK;
    HEAVY BLACK CURVED DOWNWARDS AND RIGHTWARDS ARROW;ddUPWARDS;acSQUAT BLACK;
    adHEAVY CONCAVE-POINTED;acRIGHT-SHADED WHITE;adLEFT-SHADED;adBACK-TILTED SHADOWED;
    aeFRONT-TILTED;adHEAVY LOWER RIGHT-SHADOWED;beUPPER;aeNOTCHED LOWER;CURLY LOOP;
    NOTCHED UPPER RIGHT-SHADOWED WHITE RIGHTWARDS ARROW;adCIRCLED HEAVY;acWHITE-FEATHERED;
    abBLACK-FEATHERED SOUTH EAST;bbRIGHTWARDS;bbNORTH EAST;acHEAVY BLACK-FEATHERED SOUTH;
    cbRIGHTWARDS;cbNORTH EAST;abTEARDROP-BARBED RIGHTWARDS;acHEAVY TEARDROP-SHANKED;acWEDGE-TAILED;
    adHEAVY;acOPEN-OUTLINED;DOUBLE CURLY LOOP;THREE DIMENSIONAL ANGLE;
    WHITE TRIANGLE CONTAINING SMALL WHITE TRIANGLE;PERPENDICULAR;OPEN SUBSET;bSUPERSET;
    LEFT S-SHAPED BAG DELIMITER;adRIGHT;OR WITH DOT INSIDE;REVERSE SOLIDUS PRECEDING SUBSET;
    SUPERSET PRECEDING SOLIDUS;VERTICAL BAR WITH HORIZONTAL STROKE;MATHEMATICAL RISING DIAGONAL;
    LONG DIVISION;MATHEMATICAL FALLING DIAGONAL;SQUARED LOGICAL AND;cOR;
    WHITE DIAMOND WITH CENTRED DOT;abAND WITH;ELEMENT OF OPENING UPWARDS;
    LOWER RIGHT CORNER WITH DOT;adUPPER LEFT;LEFT OUTER JOIN;acRIGHT;acFULL;LARGE UP TACK;bbDOWN;
    LEFT AND RIGHT DOUBLE TURNSTILE;dTACK;bMULTIMAP;LONG RIGHT TACK;bbLEFT;
    UP TACK WITH CIRCLE ABOVE;LOZENGE DIVIDED BY HORIZONTAL RULE;WHITE CONCAVE-SIDED DIAMOND;
    dWITH LEFTWARDS TICK;ebRIGHTWARDS;bbSQUARE WITH LEFTWARDS;dbRIGHTWARDS;
    MATHEMATICAL LEFT WHITE SQUARE BRACKET;bdRIGHT;bbLEFT ANGLE;bcRIGHT;bcLEFT DOUBLE;bdRIGHT;
    bbLEFT WHITE TORTOISE SHELL;beRIGHT;bLEFT FLATTENED PARENTHESIS;bcRIGHT;
    UPWARDS QUADRUPLE ARROW;acDOWNWARDS;abANTICLOCKWISE GAPPED CIRCLE;adCLOCKWISE;
    RIGHT ARROW WITH CIRCLED PLUS;LONG LEFTWARDS ARROW;bbRIGHTWARDS;bbLEFT RIGHT;
    bbLEFTWARDS DOUBLE;bcRIGHTWARDS;bcLEFT RIGHT;bLEFTWARDS ARROW FROM BAR;bdRIGHTWARDS;
    bdLEFTWARDS DOUBLE;beRIGHTWARDS;cSQUIGGLE ARROW;BRAILLE PATTERN BLANK;cDOTS-1;cDOTS-2;cDOTS-12;
    cDOTS-3;cDOTS-13;cDOTS-23;cDOTS-123;cDOTS-4;cDOTS-14;cDOTS-24;cDOTS-124;cDOTS-34;cDOTS-134;
    cDOTS-234;cDOTS-1234;cDOTS-5;cDOTS-15;cDOTS-25;cDOTS-125;cDOTS-35;cDOTS-135;cDOTS-235;
    cDOTS-1235;cDOTS-45;cDOTS-145;cDOTS-245;cDOTS-1245;cDOTS-345;cDOTS-1345;cDOTS-2345;cDOTS-12345;
    cDOTS-6;cDOTS-16;cDOTS-26;cDOTS-126;cDOTS-36;cDOTS-136;cDOTS-236;cDOTS-1236;cDOTS-46;cDOTS-146;
    cDOTS-246;cDOTS-1246;cDOTS-346;cDOTS-1346;cDOTS-2346;cDOTS-12346;cDOTS-56;cDOTS-156;cDOTS-256;
    cDOTS-1256;cDOTS-356;cDOTS-1356;cDOTS-2356;cDOTS-12356;cDOTS-456;cDOTS-1456;cDOTS-2456;
    cDOTS-12456;cDOTS-3456;cDOTS-13456;cDOTS-23456;cDOTS-123456;cDOTS-7;cDOTS-17;cDOTS-27;
    cDOTS-127;cDOTS-37;cDOTS-137;cDOTS-237;cDOTS-1237;cDOTS-47;cDOTS-147;cDOTS-247;cDOTS-1247;
    cDOTS-347;cDOTS-1347;cDOTS-2347;cDOTS-12347;cDOTS-57;cDOTS-157;cDOTS-257;cDOTS-1257;cDOTS-357;
    cDOTS-1357;cDOTS-2357;cDOTS-12357;cDOTS-457;cDOTS-1457;cDOTS-2457;cDOTS-12457;cDOTS-3457;
    cDOTS-13457;cDOTS-23457;cDOTS-123457;cDOTS-67;cDOTS-167;cDOTS-267;cDOTS-1267;cDOTS-367;
    cDOTS-1367;cDOTS-2367;cDOTS-12367;cDOTS-467;cDOTS-1467;cDOTS-2467;cDOTS-12467;cDOTS-3467;
    cDOTS-13467;cDOTS-23467;cDOTS-123467;cDOTS-567;cDOTS-1567;cDOTS-2567;cDOTS-12567;cDOTS-3567;
    cDOTS-13567;cDOTS-23567;cDOTS-123567;cDOTS-4567;cDOTS-14567;cDOTS-24567;cDOTS-124567;
    cDOTS-34567;cDOTS-134567;cDOTS-234567;cDOTS-1234567;cDOTS-8;cDOTS-18;cDOTS-28;cDOTS-128;
    cDOTS-38;cDOTS-138;cDOTS-238;cDOTS-1238;cDOTS-48;cDOTS-148;cDOTS-248;cDOTS-1248;cDOTS-348;
    cDOTS-1348;cDOTS-2348;cDOTS-12348;cDOTS-58;cDOTS-158;cDOTS-258;cDOTS-1258;cDOTS-358;cDOTS-1358;
    cDOTS-2358;cDOTS-12358;cDOTS-458;cDOTS-1458;cDOTS-2458;cDOTS-12458;cDOTS-3458;cDOTS-13458;
    cDOTS-23458;cDOTS-123458;cDOTS-68;cDOTS-168;cDOTS-268;cDOTS-1268;cDOTS-368;cDOTS-1368;
    cDOTS-2368;cDOTS-12368;cDOTS-468;cDOTS-1468;cDOTS-2468;cDOTS-12468;cDOTS-3468;cDOTS-13468;
    cDOTS-23468;cDOTS-123468;cDOTS-568;cDOTS-1568;cDOTS-2568;cDOTS-12568;cDOTS-3568;cDOTS-13568;
    cDOTS-23568;cDOTS-123568;cDOTS-4568;cDOTS-14568;cDOTS-24568;cDOTS-124568;cDOTS-34568;
    cDOTS-134568;cDOTS-234568;cDOTS-1234568;cDOTS-78;cDOTS-178;cDOTS-278;cDOTS-1278;cDOTS-378;
    cDOTS-1378;cDOTS-2378;cDOTS-12378;cDOTS-478;cDOTS-1478;cDOTS-2478;cDOTS-12478;cDOTS-3478;
    cDOTS-13478;cDOTS-23478;cDOTS-123478;cDOTS-578;cDOTS-1578;cDOTS-2578;cDOTS-12578;cDOTS-3578;
    cDOTS-13578;cDOTS-23578;cDOTS-123578;cDOTS-4578;cDOTS-14578;cDOTS-24578;cDOTS-124578;
    cDOTS-34578;cDOTS-134578;cDOTS-234578;cDOTS-1234578;cDOTS-678;cDOTS-1678;cDOTS-2678;
    cDOTS-12678;cDOTS-3678;cDOTS-13678;cDOTS-23678;cDOTS-123678;cDOTS-4678;cDOTS-14678;cDOTS-24678;
    cDOTS-124678;cDOTS-34678;cDOTS-134678;cDOTS-234678;cDOTS-1234678;cDOTS-5678;cDOTS-15678;
    cDOTS-25678;cDOTS-125678;cDOTS-35678;cDOTS-135678;cDOTS-235678;cDOTS-1235678;cDOTS-45678;
    cDOTS-145678;cDOTS-245678;cDOTS-1245678;cDOTS-345678;cDOTS-1345678;cDOTS-2345678;
    cDOTS-12345678;RIGHTWARDS TWO-HEADED ARROW WITH VERTICAL STROKE;ecDOUBLE;
    acLEFTWARDS DOUBLE ARROW WITH;afRIGHTWARDS;afLEFT RIGHT;RIGHTWARDS TWO-HEADED ARROW FROM BAR;
    adLEFTWARDS DOUBLE;aeRIGHTWARDS;DOWNWARDS ARROW WITH HORIZONTAL STROKE;aeUPWARDS;bTRIPLE ARROW;
    acDOWNWARDS;abLEFTWARDS DOUBLE DASH;adRIGHTWARDS;acLEFTWARDS TRIPLE;adRIGHTWARDS;bdTWO-HEADED;
    bARROW WITH DOTTED STEM;UPWARDS ARROW TO BAR;adDOWNWARDS;
    RIGHTWARDS ARROW WITH TAIL WITH VERTICAL STROKE;fcDOUBLE;bTWO-HEADED ARROW WITH TAIL;
    fWITH VERTICAL STROKE;gcDOUBLE;LEFTWARDS ARROW-TAIL;abRIGHTWARDS;abLEFTWARDS DOUBLE;
    acRIGHTWARDS;LEFTWARDS ARROW TO BLACK DIAMOND;aeRIGHTWARDS;adLEFTWARDS ARROW FROM BAR;
    agRIGHTWARDS;NORTH WEST AND SOUTH EAST ARROW;bbEAST AND SOUTH WEST;bWEST ARROW WITH HOOK;
    bdEAST;aeSOUTH;bdWEST;NORTH WEST ARROW AND NORTH EAST ARROW;bcEAST ARROW AND SOUTH;
    abSOUTH EAST ARROW AND SOUTH WEST;bcWEST ARROW AND NORTH;
    RISING DIAGONAL CROSSING FALLING DIAGONAL;abFALLING DIAGONAL CROSSING RISING;
    SOUTH EAST ARROW CROSSING NORTH EAST ARROW;acNORTH EAST ARROW CROSSING SOUTH;
    acFALLING DIAGONAL CROSSING NORTH;acRISING DIAGONAL CROSSING SOUTH;
    abNORTH EAST ARROW CROSSING NORTH WEST;bbWEST ARROW CROSSING NORTH EAST;
    WAVE ARROW POINTING DIRECTLY RIGHT;ARROW POINTING RIGHTWARDS THEN CURVING UPWARDS;fDOWNWARDS;
    cDOWNWARDS THEN CURVING LEFTWARDS;fRIGHTWARDS;RIGHT-SIDE ARC CLOCKWISE ARROW;
    abLEFT-SIDE ARC ANTICLOCKWISE;adTOP;adBOTTOM;TOP ARC CLOCKWISE ARROW WITH MINUS;
    cANTICLOCKWISE ARROW WITH PLUS;LOWER RIGHT SEMICIRCULAR CLOCKWISE ARROW;
    bbLEFT SEMICIRCULAR ANTICLOCKWISE;abANTICLOCKWISE CLOSED CIRCLE;adCLOCKWISE;
    abRIGHTWARDS ARROW ABOVE SHORT LEFTWARDS;abLEFTWARDS ARROW ABOVE SHORT RIGHTWARDS;
    abSHORT RIGHTWARDS ARROW ABOVE LEFTWARDS;RIGHTWARDS ARROW WITH PLUS BELOW;aeLEFTWARDS;
    RIGHTWARDS ARROW THROUGH X;LEFT RIGHT ARROW THROUGH SMALL CIRCLE;
    acUPWARDS TWO-HEADED ARROW FROM;LEFT BARB UP RIGHT BARB DOWN HARPOON;cbDOWN RIGHT BARB UP;
    abUP BARB RIGHT DOWN BARB LEFT;cbLEFT DOWN BARB RIGHT;abLEFT BARB UP RIGHT BARB UP;
    abUP BARB RIGHT DOWN BARB RIGHT;abLEFT BARB DOWN RIGHT BARB DOWN;abUP BARB LEFT DOWN BARB LEFT;
    LEFTWARDS HARPOON WITH BARB UP TO BAR;agRIGHTWARDS;acUPWARDS HARPOON WITH BARB RIGHT;
    agDOWNWARDS;acLEFTWARDS HARPOON WITH BARB DOWN;agRIGHTWARDS;acUPWARDS HARPOON WITH BARB LEFT;
    agDOWNWARDS;abLEFTWARDS HARPOON WITH BARB UP FROM;agRIGHTWARDS;
    acUPWARDS HARPOON WITH BARB RIGHT;agDOWNWARDS;acLEFTWARDS HARPOON WITH BARB DOWN;agRIGHTWARDS;
    acUPWARDS HARPOON WITH BARB LEFT;agDOWNWARDS;
    LEFTWARDS HARPOON WITH BARB UP ABOVE LEFTWARDS HARPOON WITH BARB DOWN;
    UPWARDS HARPOON WITH BARB LEFT BESIDE UPWARDS HARPOON WITH BARB RIGHT;
    RIGHTWARDS HARPOON WITH BARB UP ABOVE RIGHTWARDS HARPOON WITH BARB DOWN;
    DOWNWARDS HARPOON WITH BARB LEFT BESIDE DOWNWARDS HARPOON WITH BARB RIGHT;
    LEFTWARDS HARPOON WITH BARB UP ABOVE RIGHTWARDS HARPOON WITH BARB UP;
    eDOWN ABOVE RIGHTWARDS HARPOON WITH BARB DOWN;
    RIGHTWARDS HARPOON WITH BARB UP ABOVE LEFTWARDS HARPOON WITH BARB UP;
    eDOWN ABOVE LEFTWARDS HARPOON WITH BARB DOWN;LEFTWARDS HARPOON WITH BARB UP ABOVE LONG DASH;
    ecDOWN BELOW;acRIGHTWARDS HARPOON WITH BARB UP ABOVE;ecDOWN BELOW;
    UPWARDS HARPOON WITH BARB LEFT BESIDE DOWNWARDS HARPOON WITH BARB RIGHT;
    aeDOWNWARDS HARPOON WITH BARB LEFT BESIDE UPWARDS;RIGHT DOUBLE ARROW WITH ROUNDED HEAD;
    EQUALS SIGN ABOVE RIGHTWARDS ARROW;adTILDE OPERATOR;LEFTWARDS ARROW ABOVE TILDE OPERATOR;
    aeRIGHTWARDS;dALMOST EQUAL TO;LESS-THAN ABOVE LEFTWARDS ARROW;
    LEFTWARDS ARROW THROUGH LESS-THAN;GREATER-THAN ABOVE RIGHTWARDS ARROW;adSUBSET;
    LEFTWARDS ARROW THROUGH SUBSET;SUPERSET ABOVE LEFTWARDS ARROW;LEFT FISH TAIL;acRIGHT;acUP;
    acDOWN;TRIPLE VERTICAL BAR DELIMITER;Z NOTATION SPOT;cTYPE COLON;LEFT WHITE CURLY BRACKET;
    adRIGHT;LEFT WHITE PARENTHESIS;acRIGHT;Z NOTATION LEFT IMAGE BRACKET;ccRIGHT;cbLEFT BINDING;
    ccRIGHT;LEFT SQUARE BRACKET WITH UNDERBAR;aeRIGHT;LEFT SQUARE BRACKET WITH TICK IN TOP CORNER;
    abRIGHT SQUARE BRACKET WITH TICK IN BOTTOM;ahLEFT;abRIGHT SQUARE BRACKET WITH TICK IN TOP;
    LEFT ANGLE BRACKET WITH DOT;aeRIGHT;LEFT ARC LESS-THAN BRACKET;abRIGHT ARC GREATER-THAN;
    adDOUBLE LEFT;bbRIGHT ARC LESS-THAN;abLEFT BLACK TORTOISE SHELL;aeRIGHT;DOTTED FENCE;
    VERTICAL ZIGZAG LINE;MEASURED ANGLE OPENING LEFT;RIGHT ANGLE VARIANT WITH SQUARE;
    MEASURED RIGHT ANGLE WITH DOT;ANGLE WITH S INSIDE;ACUTE ANGLE;SPHERICAL ANGLE OPENING LEFT;dUP;
    TURNED ANGLE;abREVERSED;ANGLE WITH UNDERBAR;adREVERSED;OBLIQUE ANGLE OPENING UP;dDOWN;
    MEASURED ANGLE WITH OPEN ARM ENDING IN ARROW POINTING UP AND RIGHT;lLEFT;jDOWN AND RIGHT;lLEFT;
    jRIGHT AND UP;jcLEFT;jRIGHT AND DOWN;jcLEFT;REVERSED EMPTY SET;EMPTY SET WITH OVERBAR;
    dSMALL CIRCLE ABOVE;dbRIGHT ARROW;dcLEFT;CIRCLE WITH HORIZONTAL BAR;abCIRCLED VERTICAL;
    bPARALLEL;bREVERSE SOLIDUS;bPERPENDICULAR;
    CIRCLE DIVIDED BY HORIZONTAL BAR AND TOP HALF DIVIDED BY VERTICAL BAR;bWITH SUPERIMPOSED X;
    CIRCLED ANTICLOCKWISE-ROTATED DIVISION SIGN;UP ARROW THROUGH CIRCLE;CIRCLED WHITE BULLET;bb;
    bLESS-THAN;bGREATER-THAN;CIRCLE WITH SMALL CIRCLE TO THE RIGHT;cdTWO HORIZONTAL STROKES;
    SQUARED RISING DIAGONAL SLASH;bcFALLING;bASTERISK;bSMALL CIRCLE;bSQUARE;TWO JOINED SQUARES;
    TRIANGLE WITH DOT ABOVE;cUNDERBAR;S IN TRIANGLE;TRIANGLE WITH SERIFS AT BOTTOM;
    RIGHT TRIANGLE ABOVE LEFT TRIANGLE;LEFT TRIANGLE BESIDE VERTICAL BAR;
    VERTICAL BAR BESIDE RIGHT TRIANGLE;BOWTIE WITH LEFT HALF BLACK;ccRIGHT;BLACK BOWTIE;
    TIMES WITH LEFT HALF BLACK;ccRIGHT;WHITE HOURGLASS;abBLACK;LEFT WIGGLY FENCE;acRIGHT;
    acLEFT DOUBLE;adRIGHT;INCOMPLETE INFINITY;abTIE OVER;INFINITY NEGATED WITH VERTICAL BAR;
    DOUBLE-ENDED MULTIMAP;SQUARE WITH CONTOURED OUTLINE;INCREASES AS;SHUFFLE PRODUCT;
    EQUALS SIGN AND SLANTED PARALLEL;fWITH TILDE ABOVE;IDENTICAL TO AND SLANTED PARALLEL;
    GLEICH STARK;THERMODYNAMIC;DOWN-POINTING TRIANGLE WITH LEFT HALF BLACK;dcRIGHT;
    BLACK DIAMOND WITH DOWN ARROW;bLOZENGE;WHITE CIRCLE WITH DOWN ARROW;aeBLACK;
    ERROR-BARRED WHITE SQUARE;bbBLACK;bWHITE DIAMOND;bbBLACK;bWHITE CIRCLE;bbBLACK;RULE-DELAYED;
    REVERSE SOLIDUS OPERATOR;SOLIDUS WITH OVERBAR;REVERSE SOLIDUS WITH HORIZONTAL STROKE;
    BIG SOLIDUS;bbREVERSE;DOUBLE PLUS;abTRIPLE;LEFT-POINTING CURVED ANGLE BRACKET;adRIGHT-POINTING;
    TINY;MINY;N-ARY CIRCLED DOT OPERATOR;cbPLUS;cbTIMES;bUNION OPERATOR WITH DOT;ePLUS;
    bSQUARE INTERSECTION OPERATOR;cbUNION;abTWO LOGICAL AND;cbOR;abN-ARY TIMES;MODULO TWO SUM;
    SUMMATION WITH INTEGRAL;QUADRUPLE INTEGRAL OPERATOR;FINITE PART INTEGRAL;
    INTEGRAL WITH DOUBLE STROKE;bAVERAGE WITH SLASH;CIRCULATION FUNCTION;ANTICLOCKWISE INTEGRATION;
    LINE INTEGRATION WITH RECTANGULAR PATH AROUND POLE;ddSEMICIRCULAR;cbNOT INCLUDING THE;
    INTEGRAL AROUND A POINT OPERATOR;abQUATERNION INTEGRAL;INTEGRAL WITH LEFTWARDS ARROW WITH HOOK;
    cTIMES SIGN;cINTERSECTION;cUNION;cOVERBAR;cUNDERBAR;JOIN;LARGE LEFT TRIANGLE OPERATOR;
    Z NOTATION SCHEMA COMPOSITION;dPIPING;dPROJECTION;PLUS SIGN WITH SMALL CIRCLE ABOVE;
    dbCIRCUMFLEX ACCENT;dbTILDE;dDOT BELOW;dbTILDE;dSUBSCRIPT TWO;dBLACK TRIANGLE;
    MINUS SIGN WITH COMMA ABOVE;dDOT BELOW;dFALLING DOTS;dbRISING;PLUS SIGN IN LEFT HALF CIRCLE;
    dcRIGHT;VECTOR OR CROSS PRODUCT;MULTIPLICATION SIGN WITH DOT ABOVE;dUNDERBAR;
    SEMIDIRECT PRODUCT WITH BOTTOM CLOSED;SMASH PRODUCT;MULTIPLICATION SIGN IN LEFT HALF CIRCLE;
    dcRIGHT;CIRCLED MULTIPLICATION SIGN WITH CIRCUMFLEX ACCENT;
    MULTIPLICATION SIGN IN DOUBLE CIRCLE;CIRCLED DIVISION SIGN;PLUS SIGN IN TRIANGLE;adMINUS;
    adMULTIPLICATION;INTERIOR PRODUCT;acRIGHTHAND;Z NOTATION RELATIONAL COMPOSITION;
    AMALGAMATION OR COPRODUCT;INTERSECTION WITH DOT;UNION WITH MINUS SIGN;cOVERBAR;acINTERSECTION;
    cLOGICAL AND;UNION WITH LOGICAL OR;bABOVE INTERSECTION;INTERSECTION ABOVE UNION;
    UNION ABOVE BAR ABOVE INTERSECTION;INTERSECTION ABOVE BAR ABOVE UNION;
    abUNION BESIDE AND JOINED WITH;INTERSECTION BESIDE AND JOINED WITH INTERSECTION;
    CLOSED UNION WITH SERIFS;bcINTERSECTION;DOUBLE SQUARE INTERSECTION;cUNION;
    CLOSED UNION WITH SERIFS AND SMASH PRODUCT;LOGICAL AND WITH DOT ABOVE;bdOR;DOUBLE LOGICAL AND;
    cOR;TWO INTERSECTING LOGICAL AND;dOR;abSLOPING LARGE;cAND;abLOGICAL OR OVERLAPPING LOGICAL;
    bAND WITH MIDDLE STEM;bdOR;bAND WITH HORIZONTAL DASH;bdOR;bAND WITH DOUBLE OVERBAR;dUNDERBAR;
    dbDOUBLE;abSMALL VEE WITH;LOGICAL OR WITH DOUBLE OVERBAR;eUNDERBAR;
    Z NOTATION DOMAIN ANTIRESTRICTION;cbRANGE;EQUALS SIGN WITH DOT BELOW;IDENTICAL WITH DOT ABOVE;
    TRIPLE HORIZONTAL BAR WITH DOUBLE VERTICAL STROKE;ecTRIPLE;TILDE OPERATOR WITH DOT ABOVE;
    dRISING DOTS;SIMILAR MINUS SIMILAR;CONGRUENT WITH DOT ABOVE;EQUALS WITH ASTERISK;
    ALMOST EQUAL TO WITH CIRCUMFLEX ACCENT;APPROXIMATELY EQUAL OR EQUAL TO;
    EQUALS SIGN ABOVE PLUS SIGN;abPLUS SIGN ABOVE EQUALS;EQUALS SIGN ABOVE TILDE OPERATOR;
    DOUBLE COLON EQUAL;TWO CONSECUTIVE EQUALS SIGNS;adTHREE;
    EQUALS SIGN WITH TWO DOTS ABOVE AND TWO DOTS BELOW;EQUIVALENT WITH FOUR DOTS ABOVE;
    LESS-THAN WITH CIRCLE INSIDE;adGREATER-THAN;LESS-THAN WITH QUESTION MARK ABOVE;aeGREATER-THAN;
    LESS-THAN OR SLANTED EQUAL TO;aeGREATER-THAN;LESS-THAN OR SLANTED EQUAL TO WITH DOT INSIDE;
    ahGREATER-THAN;LESS-THAN OR SLANTED EQUAL TO WITH DOT ABOVE;ahGREATER-THAN;
    LESS-THAN OR SLANTED EQUAL TO WITH DOT ABOVE RIGHT;
    GREATER-THAN OR SLANTED EQUAL TO WITH DOT ABOVE LEFT;LESS-THAN OR APPROXIMATE;acGREATER-THAN;
    LESS-THAN AND SINGLE-LINE NOT EQUAL TO;afGREATER-THAN;LESS-THAN AND NOT APPROXIMATE;
    adGREATER-THAN;LESS-THAN ABOVE DOUBLE-LINE EQUAL ABOVE GREATER-THAN;
    GREATER-THAN ABOVE DOUBLE-LINE EQUAL ABOVE LESS-THAN;LESS-THAN ABOVE SIMILAR OR EQUAL;
    aeGREATER-THAN;LESS-THAN ABOVE SIMILAR ABOVE GREATER-THAN;
    GREATER-THAN ABOVE SIMILAR ABOVE LESS-THAN;
    LESS-THAN ABOVE GREATER-THAN ABOVE DOUBLE-LINE EQUAL;adGREATER-THAN ABOVE LESS-THAN;
    abLESS-THAN ABOVE SLANTED EQUAL ABOVE GREATER-THAN ABOVE SLANTED;
    adGREATER-THAN ABOVE SLANTED EQUAL ABOVE LESS-THAN;SLANTED EQUAL TO OR LESS-THAN;eGREATER-THAN;
    eLESS-THAN WITH DOT INSIDE;edGREATER-THAN;DOUBLE-LINE EQUAL TO OR LESS-THAN;eGREATER-THAN;
    bSLANTED EQUAL TO OR LESS-THAN;fGREATER-THAN;SIMILAR OR LESS-THAN;cGREATER-THAN;
    bABOVE LESS-THAN ABOVE EQUALS SIGN;cdGREATER-THAN;DOUBLE NESTED LESS-THAN;cGREATER-THAN;
    cLESS-THAN WITH UNDERBAR;GREATER-THAN OVERLAPPING LESS-THAN;bbBESIDE;LESS-THAN CLOSED BY CURVE;
    adGREATER-THAN;LESS-THAN CLOSED BY CURVE ABOVE SLANTED EQUAL;agGREATER-THAN;SMALLER THAN;
    abLARGER;SMALLER THAN OR EQUAL TO;aeLARGER;EQUALS SIGN WITH BUMPY ABOVE;
    PRECEDES ABOVE SINGLE-LINE EQUALS SIGN;aeSUCCEEDS;PRECEDES ABOVE SINGLE-LINE NOT EQUAL TO;
    afSUCCEEDS;PRECEDES ABOVE EQUALS SIGN;adSUCCEEDS;PRECEDES ABOVE NOT EQUAL TO;aeSUCCEEDS;
    acPRECEDES ABOVE ALMOST;aeSUCCEEDS;adPRECEDES ABOVE NOT;afSUCCEEDS;DOUBLE PRECEDES;bSUCCEEDS;
    SUBSET WITH DOT;acSUPERSET;SUBSET WITH PLUS SIGN BELOW;aeSUPERSET;acSUBSET WITH MULTIPLICATION;
    aeSUPERSET;SUBSET OF OR EQUAL TO WITH DOT ABOVE;ahSUPERSET;SUBSET OF ABOVE EQUALS SIGN;
    aeSUPERSET;SUBSET OF ABOVE TILDE OPERATOR;aeSUPERSET;SUBSET OF ABOVE ALMOST EQUAL TO;
    afSUPERSET;acSUBSET OF ABOVE NOT;afSUPERSET;SQUARE LEFT OPEN BOX OPERATOR;bdRIGHT;
    CLOSED SUBSET;bSUPERSET;bSUBSET OR EQUAL TO;bdSUPERSET;SUBSET ABOVE SUPERSET;
    SUPERSET ABOVE SUBSET;acSUBSET;SUPERSET ABOVE SUPERSET;bBESIDE SUBSET;
    cbAND JOINED BY DASH WITH;ELEMENT OF OPENING DOWNWARDS;PITCHFORK WITH TEE TOP;
    TRANSVERSAL INTERSECTION;FORKING;NONFORKING;SHORT LEFT TACK;bbDOWN;bbUP;PERPENDICULAR WITH S;
    VERTICAL BAR TRIPLE RIGHT TURNSTILE;abDOUBLE VERTICAL BAR LEFT;acVERTICAL BAR DOUBLE;afDOUBLE;
    LONG DASH FROM LEFT MEMBER OF DOUBLE VERTICAL;SHORT DOWN TACK WITH OVERBAR;
    bUP TACK WITH UNDERBAR;dABOVE SHORT DOWN TACK;acDOUBLE;bbUP;bSTROKE NOT SIGN;aeREVERSED;
    DOES NOT DIVIDE WITH REVERSED NEGATION SLASH;VERTICAL LINE WITH CIRCLE ABOVE;eBELOW;
    adDOWN TACK;PARALLEL WITH HORIZONTAL STROKE;cTILDE OPERATOR;
    TRIPLE VERTICAL BAR BINARY RELATION;dWITH HORIZONTAL STROKE;bCOLON OPERATOR;bNESTED LESS-THAN;
    cGREATER-THAN;DOUBLE-LINE SLANTED LESS-THAN OR EQUAL TO;cdGREATER-THAN;
    TRIPLE SOLIDUS BINARY RELATION;LARGE TRIPLE VERTICAL BAR OPERATOR;abDOUBLE SOLIDUS;
    WHITE VERTICAL BAR;adN-ARY;NORTH EAST WHITE ARROW;bcWEST;acSOUTH EAST;bcWEST;acLEFT RIGHT;
    abLEFTWARDS BLACK;acUPWARDS;acDOWNWARDS;acNORTH EAST;bcWEST;acSOUTH EAST;bcWEST;acLEFT RIGHT;
    acUP DOWN;RIGHTWARDS ARROW WITH TIP DOWNWARDS;eUPWARDS;LEFTWARDS ARROW WITH TIP DOWNWARDS;
    eUPWARDS;SQUARE WITH TOP HALF BLACK;ccBOTTOM;ccUPPER RIGHT DIAGONAL;cdLOWER LEFT;
    acDIAMOND WITH LEFT;ccRIGHT;ccTOP;ccBOTTOM;DOTTED SQUARE;abBLACK LARGE;acWHITE;
    abBLACK VERY SMALL;adWHITE;BLACK PENTAGON;abWHITE;bHEXAGON;abBLACK;acHORIZONTAL;
    BLACK LARGE CIRCLE;bMEDIUM DIAMOND;acWHITE;BLACK MEDIUM LOZENGE;acWHITE;BLACK SMALL DIAMOND;
    cLOZENGE;acWHITE;BLACK HORIZONTAL ELLIPSE;acWHITE;abBLACK VERTICAL;acWHITE;
    LEFT ARROW WITH SMALL CIRCLE;THREE LEFTWARDS ARROWS;LEFT ARROW WITH CIRCLED PLUS;
    LONG LEFTWARDS SQUIGGLE ARROW;LEFTWARDS TWO-HEADED ARROW WITH VERTICAL STROKE;ecDOUBLE;
    dFROM BAR;cTRIPLE DASH ARROW;bARROW WITH DOTTED STEM;dTAIL WITH VERTICAL STROKE;fcDOUBLE;
    bTWO-HEADED ARROW WITH TAIL;fWITH VERTICAL STROKE;gcDOUBLE;bARROW THROUGH X;
    WAVE ARROW POINTING DIRECTLY LEFT;EQUALS SIGN ABOVE LEFTWARDS ARROW;adREVERSE TILDE OPERATOR;
    LEFTWARDS ARROW ABOVE REVERSE ALMOST EQUAL TO;RIGHTWARDS ARROW THROUGH GREATER-THAN;dSUPERSET;
    LEFTWARDS QUADRUPLE ARROW;acRIGHTWARDS;abREVERSE TILDE OPERATOR ABOVE RIGHTWARDS;
    RIGHTWARDS ARROW ABOVE REVERSE ALMOST EQUAL TO;TILDE OPERATOR ABOVE LEFTWARDS ARROW;
    LEFTWARDS ARROW ABOVE ALMOST EQUAL TO;dREVERSE TILDE OPERATOR;afRIGHTWARDS;
    DOWNWARDS TRIANGLE-HEADED ZIGZAG ARROW;abSHORT SLANTED NORTH;bbBACKSLANTED SOUTH;
    WHITE MEDIUM STAR;abBLACK SMALL;acWHITE;BLACK RIGHT-POINTING PENTAGON;acWHITE;
    HEAVY LARGE CIRCLE;bOVAL WITH OVAL INSIDE;bbCIRCLE WITH CIRCLE;c;bCIRCLED SALTIRE;
    SLANTED NORTH ARROW WITH HOOKED HEAD;BACKSLANTED SOUTH ARROW WITH HOOKED TAIL;
    abSLANTED NORTH ARROW WITH HORIZONTAL;aeBACKSLANTED SOUTH;
    BENT ARROW POINTING DOWNWARDS THEN NORTH EAST;ahSHORT;LEFTWARDS TRIANGLE-HEADED ARROW;
    acUPWARDS;acRIGHTWARDS;acDOWNWARDS;acLEFT RIGHT;acUP DOWN;acNORTH WEST;bcEAST;adSOUTH;bcWEST;
    abLEFTWARDS TRIANGLE-HEADED DASHED;adUPWARDS;adRIGHTWARDS;adDOWNWARDS;
    abCLOCKWISE TRIANGLE-HEADED OPEN CIRCLE;aeANTICLOCKWISE;LEFTWARDS TRIANGLE-HEADED ARROW TO BAR;
    aeUPWARDS;aeRIGHTWARDS;aeDOWNWARDS;2;aeNORTH WEST;beEAST;afSOUTH;beWEST;
    LEFTWARDS TRIANGLE-HEADED ARROW WITH DOUBLE HORIZONTAL STROKE;agUPWARDS;agRIGHTWARDS;
    agDOWNWARDS;HORIZONTAL TAB KEY;acVERTICAL;
    LEFTWARDS TRIANGLE-HEADED ARROW OVER RIGHTWARDS TRIANGLE-HEADED ARROW;
    acUPWARDS TRIANGLE-HEADED ARROW LEFTWARDS OF DOWNWARDS;
    acRIGHTWARDS TRIANGLE-HEADED ARROW OVER LEFTWARDS;
    acDOWNWARDS TRIANGLE-HEADED ARROW LEFTWARDS OF UPWARDS;LEFTWARDS TRIANGLE-HEADED PAIRED ARROWS;
    adUPWARDS;adRIGHTWARDS;adDOWNWARDS;LEFTWARDS BLACK CIRCLED WHITE ARROW;aeUPWARDS;aeRIGHTWARDS;
    aeDOWNWARDS;abANTICLOCKWISE TRIANGLE-HEADED RIGHT U-SHAPED;ccBOTTOM;ccLEFT;ccTOP;RETURN LEFT;
    bRIGHT;NEWLINE LEFT;bRIGHT;FOUR CORNER ARROWS CIRCLING ANTICLOCKWISE;RIGHTWARDS BLACK ARROW;1;
    SYMBOL FOR TYPE A ELECTRONICS;THREE-D TOP-LIGHTED LEFTWARDS EQUILATERAL ARROWHEAD;
    bcRIGHT-LIGHTED UPWARDS;bcTOP-LIGHTED RIGHTWARDS;bcLEFT-LIGHTED DOWNWARDS;acBLACK LEFTWARDS;
    bcUPWARDS;bcRIGHTWARDS;bcDOWNWARDS;DOWNWARDS TRIANGLE-HEADED ARROW WITH LONG TIP LEFTWARDS;
    gRIGHTWARDS;UPWARDS TRIANGLE-HEADED ARROW WITH LONG TIP LEFTWARDS;gRIGHTWARDS;
    LEFTWARDS TRIANGLE-HEADED ARROW WITH LONG TIP UPWARDS;agRIGHTWARDS;
    LEFTWARDS TRIANGLE-HEADED ARROW WITH LONG TIP DOWNWARDS;agRIGHTWARDS;
    BLACK CURVED DOWNWARDS AND LEFTWARDS ARROW;ebRIGHTWARDS;cbUPWARDS AND LEFTWARDS;ebRIGHTWARDS;
    cbLEFTWARDS AND UPWARDS;cdRIGHTWARDS;cbLEFTWARDS AND DOWNWARDS;cdRIGHTWARDS;
    RIBBON ARROW DOWN LEFT;dRIGHT;cUP LEFT;dRIGHT;cLEFT UP;cbRIGHT;cLEFT DOWN;cbRIGHT;
    UPWARDS WHITE ARROW FROM BAR WITH HORIZONTAL BAR;UP ARROWHEAD IN A RECTANGLE BOX;
    OVERLAPPING WHITE SQUARES;cbAND BLACK;bc;BALLOT BOX WITH LIGHT X;abCIRCLED;bbBOLD;
    BLACK SQUARE CENTRED;bbDIAMOND;TURNED BLACK PENTAGON;HORIZONTAL BLACK OCTAGON;ac;
    bMEDIUM UP-POINTING TRIANGLE CENTRED;ccDOWN-POINTING;ccLEFT-POINTING;ccRIGHT-POINTING;
    NEPTUNE FORM TWO;TOP HALF BLACK CIRCLE;adBOTTOM;LIGHT FOUR POINTED BLACK CUSP;afROTATED;
    abWHITE FOUR POINTED;aeROTATED;SQUARE POSITION INDICATOR;UNCERTAINTY SIGN;GROUP MARK;
    PLUTO FORM TWO;cTHREE;cFOUR;cFIVE;TRANSPLUTO;PROSERPINA;ASTRAEA;HYGIEA;PHOLUS;NESSUS;
    WHITE MOON SELENA;BLACK DIAMOND ON CROSS;TRUE LIGHT MOON ARTA;CUPIDO;HADES;ZEUS;KRONOS;APOLLON;
    ADMETOS;VULCANUS;POSEIDON;LEFT HALF BLACK STAR;adRIGHT;STAR WITH LEFT HALF BLACK;ccRIGHT;
    LEFTWARDS TWO-HEADED ARROW WITH TRIANGLE ARROWHEADS;afUPWARDS;afRIGHTWARDS;afDOWNWARDS;
    ERIS FORM ONE;cTWO;SEDNA;RUSSIAN ASTROLOGICAL SYMBOL VIGINTILE;dNOVILE;dQUINTILE;dBINOVILE;
    dSENTAGON;dTREDECILE;EQUALS SIGN WITH INFINITY BELOW;UNITED SYMBOL;abSEPARATED;abDOUBLED;
    abPASSED;REVERSED RIGHT ANGLE;HELLSCHREIBER PAUSE SYMBOL;GLAGOLITIC CAPITAL LETTER AZU;dBUKY;
    dVEDE;dGLAGOLI;dDOBRO;dYESTU;dZHIVETE;dDZELO;dZEMLJA;dIZHE;dbINITIAL;dI;dDJERVI;dKAKO;dLJUDIJE;
    dMYSLITE;dNASHI;dONU;dPOKOJI;dRITSI;dSLOVO;dTVRIDO;dUKU;dFRITU;dHERU;dOTU;dPE;dSHTA;dTSI;
    dCHRIVI;dSHA;dYERU;dYERI;dYATI;dSPIDERY HA;dYU;dSMALL YUS;fWITH TAIL;dYO;dIOTATED SMALL YUS;
    dbBIG;dcIOTATED;dFITA;dIZHITSA;dSHTAPIC;dTROKUTASTI A;dLATINATE MYSLITE;dCAUDATE CHRIVI;
    bSMALL LETTER AZU;dBUKY;dVEDE;dGLAGOLI;dDOBRO;dYESTU;dZHIVETE;dDZELO;dZEMLJA;dIZHE;dbINITIAL;
    dI;dDJERVI;dKAKO;dLJUDIJE;dMYSLITE;dNASHI;dONU;dPOKOJI;dRITSI;dSLOVO;dTVRIDO;dUKU;dFRITU;dHERU;
    dOTU;dPE;dSHTA;dTSI;dCHRIVI;dSHA;dYERU;dYERI;dYATI;dSPIDERY HA;dYU;dSMALL YUS;fWITH TAIL;dYO;
    dIOTATED SMALL YUS;dbBIG;dcIOTATED;dFITA;dIZHITSA;dSHTAPIC;dTROKUTASTI A;dLATINATE MYSLITE;
    dCAUDATE CHRIVI;LATIN CAPITAL LETTER L WITH DOUBLE BAR;bfSMALL;
    bCAPITAL LETTER L WITH MIDDLE TILDE;dP WITH STROKE;dR WITH TAIL;bSMALL LETTER A WITH STROKE;
    dbT WITH DIAGONAL;bCAPITAL LETTER H WITH DESCENDER;beSMALL;bcCAPITAL LETTER K;beSMALL;
    bcCAPITAL LETTER Z;beSMALL;bCAPITAL LETTER ALPHA;dM WITH HOOK;dTURNED A;eALPHA;
    bSMALL LETTER V WITH RIGHT HOOK;bbCAPITAL LETTER W WITH;beSMALL;dV WITH CURL;
    bCAPITAL LETTER HALF H;bdSMALL;dTAILLESS PHI;dE WITH NOTCH;dTURNED R WITH TAIL;
    dO WITH LOW RING INSIDE;bLETTER SMALL CAPITAL TURNED E;bSUBSCRIPT SMALL LETTER J;
    MODIFIER LETTER CAPITAL V;LATIN CAPITAL LETTER S WITH SWASH TAIL;ddZ;
    COPTIC CAPITAL LETTER ALFA;bcSMALL;bCAPITAL LETTER VIDA;bcSMALL;bCAPITAL LETTER GAMMA;bcSMALL;
    bCAPITAL LETTER DALDA;bcSMALL;bCAPITAL LETTER EIE;bcSMALL;bCAPITAL LETTER SOU;bcSMALL;
    bCAPITAL LETTER ZATA;bcSMALL;bCAPITAL LETTER HATE;bcSMALL;bCAPITAL LETTER THETHE;bcSMALL;
    bCAPITAL LETTER IAUDA;bcSMALL;bCAPITAL LETTER KAPA;bcSMALL;bCAPITAL LETTER LAULA;bcSMALL;
    bCAPITAL LETTER MI;bcSMALL;bCAPITAL LETTER NI;bcSMALL;bCAPITAL LETTER KSI;bcSMALL;
    bCAPITAL LETTER O;bcSMALL;bCAPITAL LETTER PI;bcSMALL;bCAPITAL LETTER RO;bcSMALL;
    bCAPITAL LETTER SIMA;bcSMALL;bCAPITAL LETTER TAU;bcSMALL;bCAPITAL LETTER UA;bcSMALL;
    bCAPITAL LETTER FI;bcSMALL;bCAPITAL LETTER KHI;bcSMALL;bCAPITAL LETTER PSI;bcSMALL;
    bCAPITAL LETTER OOU;bcSMALL;bCAPITAL LETTER DIALECT-P ALEF;bdSMALL;
    bCAPITAL LETTER OLD COPTIC AIN;beSMALL;bCAPITAL LETTER CRYPTOGRAMMIC EIE;bdSMALL;
    bCAPITAL LETTER DIALECT-P KAPA;bdSMALL;bCAPITAL LETTER DIALECT-P NI;bdSMALL;
    bbCAPITAL LETTER CRYPTOGRAMMIC;bdSMALL;bCAPITAL LETTER OLD COPTIC OOU;beSMALL;
    bCAPITAL LETTER SAMPI;bcSMALL;bCAPITAL LETTER CROSSED SHEI;bdSMALL;bbCAPITAL LETTER OLD COPTIC;
    beSMALL;bCAPITAL LETTER OLD COPTIC ESH;beSMALL;bCAPITAL LETTER AKHMIMIC KHEI;bdSMALL;
    bCAPITAL LETTER DIALECT-P HORI;bdSMALL;bbCAPITAL LETTER OLD COPTIC;beSMALL;
    bCAPITAL LETTER OLD COPTIC HA;beSMALL;bbCAPITAL LETTER L-SHAPED;bdSMALL;
    bCAPITAL LETTER OLD COPTIC HEI;beSMALL;bCAPITAL LETTER OLD COPTIC HAT;beSMALL;
    bCAPITAL LETTER OLD COPTIC GANGIA;beSMALL;bCAPITAL LETTER OLD COPTIC DJA;beSMALL;
    bCAPITAL LETTER OLD COPTIC SHIMA;beSMALL;bbCAPITAL LETTER OLD NUBIAN;beSMALL;
    bCAPITAL LETTER OLD NUBIAN NGI;beSMALL;bCAPITAL LETTER OLD NUBIAN NYI;beSMALL;
    bCAPITAL LETTER OLD NUBIAN WAU;beSMALL;bSYMBOL KAI;cMI RO;cbPI;cSTAUROS;cTAU RO;cbKHI;
    cSHIMA SIMA;bCAPITAL LETTER CRYPTOGRAMMIC SHEI;bdSMALL;bCAPITAL LETTER CRYPTOGRAMMIC GANGIA;
    bdSMALL;bCOMBINING NI ABOVE;cSPIRITUS ASPER;dLENIS;bCAPITAL LETTER BOHAIRIC KHEI;bdSMALL;5;
    bOLD NUBIAN FULL STOP;dDIRECT QUESTION MARK;dcINDIRECT;dVERSE DIVIDER;bFRACTION ONE HALF;
    bFULL STOP;bMORPHOLOGICAL DIVIDER;GEORGIAN SMALL LETTER AN;dBAN;dGAN;dDON;dEN;dVIN;dZEN;dTAN;
    dIN;dKAN;dLAS;dMAN;dNAR;dON;dPAR;dZHAR;dRAE;dSAN;dTAR;dUN;dPHAR;dKHAR;dGHAN;dQAR;dSHIN;dCHIN;
    dCAN;dJIL;dCIL;dCHAR;dXAN;dJHAN;dHAE;dHE;dHIE;dWE;dHAR;dHOE;1;dYN;5;dAEN;2;TIFINAGH LETTER YA;
    cYAB;cYABH;cYAG;cYAGHH;cBERBER ACADEMY YAJ;cb;cYAD;cYADH;cYADD;cYADDH;cYEY;cYAF;cYAK;cbTUAREG;
    cYAKHH;cYAH;cbBERBER ACADEMY;cbTUAREG;cYAHH;cYAA;cYAKH;cbTUAREG;cYAQ;cbTUAREG;cYI;cYAZH;
    cbAHAGGAR;cbTUAREG;cYAL;cYAM;cYAN;cTUAREG YAGN;dYANG;cYAP;cYU;cYAR;cYARR;cYAGH;cbTUAREG;cbAYER;
    cYAS;cYASS;cYASH;cYAT;cYATH;cYACH;cYATT;cYAV;cYAW;cYAY;cYAZ;cbTAWELLEMET;cYAZZ;cYE;cYO;7;
    bMODIFIER LETTER LABIALIZATION MARK;bbSEPARATOR;14;bCONSONANT JOINER;ETHIOPIC SYLLABLE LOA;
    cMOA;cROA;cSOA;cSHOA;cBOA;cTOA;cCOA;cNOA;cNYOA;cGLOTTAL OA;cZOA;cDOA;cDDOA;cJOA;cTHOA;cCHOA;
    cPHOA;cPOA;cGGWA;cGGWI;cGGWEE;cGGWE;9;cSSA;cSSU;cSSI;cSSAA;cSSEE;cSSE;cSSO;1;cCCA;cCCU;cCCI;
    cCCAA;cCCEE;cCCE;cCCO;1;cZZA;cZZU;cZZI;cZZAA;cZZEE;cZZE;cZZO;1;cCCHA;cCCHU;cCCHI;cCCHAA;cCCHEE;
    cCCHE;cCCHO;1;cQYA;cQYU;cQYI;cQYAA;cQYEE;cQYE;cQYO;1;cKYA;cKYU;cKYI;cKYAA;cKYEE;cKYE;cKYO;1;
    cXYA;cXYU;cXYI;cXYAA;cXYEE;cXYE;cXYO;1;cGYA;cGYU;cGYI;cGYAA;cGYEE;cGYE;cGYO;1;
    COMBINING CYRILLIC LETTER BE;dVE;dGHE;dDE;dZHE;dZE;dKA;dEL;dEM;dEN;dO;dPE;dER;dES;dTE;dHA;dTSE;
    dCHE;dSHA;dSHCHA;dFITA;dES-TE;dA;dIE;dDJERV;dMONOGRAPH UK;dYAT;dYU;dIOTIFIED A;dLITTLE YUS;
    dbBIG;dcIOTIFIED;RIGHT ANGLE SUBSTITUTION MARKER;ccDOTTED;LEFT SUBSTITUTION BRACKET;acRIGHT;
    acLEFT DOTTED;adRIGHT;RAISED INTERPOLATION MARKER;bcDOTTED;abDOTTED TRANSPOSITION;
    LEFT TRANSPOSITION BRACKET;acRIGHT;RAISED SQUARE;LEFT RAISED OMISSION BRACKET;adRIGHT;
    EDITORIAL CORONIS;PARAGRAPHOS;abFORKED;acREVERSED;HYPODIASTOLE;DOTTED OBELOS;DOWNWARDS ANCORA;
    abUPWARDS;DOTTED RIGHT-POINTING ANGLE;DOUBLE OBLIQUE HYPHEN;INVERTED INTERROBANG;PALM BRANCH;
    HYPHEN WITH DIAERESIS;TILDE WITH RING ABOVE;LEFT LOW PARAPHRASE BRACKET;adRIGHT;
    TILDE WITH DOT ABOVE;dBELOW;LEFT VERTICAL BAR WITH QUILL;aeRIGHT;TOP LEFT HALF BRACKET;bcRIGHT;
    acBOTTOM LEFT;bcRIGHT;abLEFT SIDEWAYS U;adRIGHT;LEFT DOUBLE PARENTHESIS;acRIGHT;
    TWO DOTS OVER ONE DOT PUNCTUATION;abONE DOT OVER TWO DOTS;abSQUARED FOUR DOT;FIVE DOT MARK;
    abREVERSED QUESTION;VERTICAL TILDE;RING POINT;WORD SEPARATOR MIDDLE DOT;TURNED COMMA;
    RAISED DOT;bCOMMA;TURNED SEMICOLON;DAGGER WITH LEFT GUARD;cbRIGHT;TURNED DAGGER;
    TOP HALF SECTION SIGN;TWO-EM DASH;abTHREE-EM;STENOGRAPHIC FULL STOP;VERTICAL SIX DOTS;
    WIGGLY VERTICAL LINE;CAPITULUM;DOUBLE HYPHEN;REVERSED COMMA;
    DOUBLE LOW-REVERSED-9 QUOTATION MARK;DASH WITH LEFT UPTURN;DOUBLE SUSPENSION MARK;
    INVERTED LOW KAVYKA;dWITH KAVYKA ABOVE;LOW KAVYKA;cWITH DOT;DOUBLE STACKED COMMA;
    DOTTED SOLIDUS;TRIPLE DAGGER;MEDIEVAL COMMA;PARAGRAPHUS MARK;abPUNCTUS ELEVATUS;
    CORNISH VERSE DIVIDER;CROSS PATTY WITH RIGHT CROSSBAR;dbLEFT;TIRONIAN SIGN CAPITAL ET;
    MEDIEVAL EXCLAMATION MARK;bbQUESTION;LEFT SQUARE BRACKET WITH STROKE;aeRIGHT;
    abLEFT SQUARE BRACKET WITH DOUBLE;afRIGHT;TOP HALF LEFT PARENTHESIS;cbRIGHT;abBOTTOM HALF LEFT;
    cbRIGHT;OBLIQUE HYPHEN;34;CJK RADICAL REPEAT;cCLIFF;cSECOND ONE;dTWO;dTHREE;cPERSON;cBOX;
    cTABLE;cKNIFE ONE;dTWO;cDIVINATION;cSEAL;cSMALL ONE;dTWO;cLAME ONE;dTWO;dTHREE;dFOUR;cSNAKE;
    cTHREAD;cSNOUT ONE;dTWO;cHEART ONE;dTWO;cHAND;cRAP;1;cCHOKE;cSUN;cMOON;cDEATH;cMOTHER;
    cCIVILIAN;cWATER ONE;dTWO;cFIRE;cPAW ONE;dTWO;cSIMPLIFIED HALF TREE TRUNK;cCOW;cDOG;cJADE;
    cBOLT OF CLOTH;cEYE;cSPIRIT ONE;dTWO;cBAMBOO;cSILK;cbC-SIMPLIFIED;cNET ONE;dTWO;dTHREE;dFOUR;
    cMESH;cSHEEP;cRAM;cEWE;cOLD;cBRUSH ONE;dTWO;cMEAT;cMORTAR;cGRASS ONE;dTWO;dTHREE;cTIGER;
    cCLOTHES;cWEST ONE;dTWO;cC-SIMPLIFIED SEE;cSIMPLIFIED HORN;cb;cC-SIMPLIFIED SPEECH;dSHELL;
    cFOOT;cC-SIMPLIFIED CART;cSIMPLIFIED WALK;cWALK ONE;dTWO;cCITY;cC-SIMPLIFIED GOLD;cLONG ONE;
    dTWO;cC-SIMPLIFIED LONG;dGATE;cMOUND ONE;dTWO;cRAIN;cBLUE;cC-SIMPLIFIED TANNED LEATHER;dLEAF;
    dWIND;dFLY;cEAT ONE;dTWO;dTHREE;cC-SIMPLIFIED EAT;cHEAD;cC-SIMPLIFIED HORSE;cBONE;cGHOST;
    cC-SIMPLIFIED FISH;dBIRD;dSALT;cSIMPLIFIED WHEAT;dYELLOW;cC-SIMPLIFIED FROG;cJ-SIMPLIFIED EVEN;
    cbC-SIMPLIFIED;cJ-SIMPLIFIED TOOTH;cbC-SIMPLIFIED;cJ-SIMPLIFIED DRAGON;cbC-SIMPLIFIED;cTURTLE;
    cbJ-SIMPLIFIED;cbC-SIMPLIFIED;12;KANGXI RADICAL ONE;cLINE;cDOT;cSLASH;cSECOND;cHOOK;cTWO;cLID;
    cMAN;cLEGS;cENTER;cEIGHT;cDOWN BOX;cCOVER;cICE;cTABLE;cOPEN BOX;cKNIFE;cPOWER;cWRAP;cSPOON;
    cRIGHT OPEN BOX;cHIDING ENCLOSURE;cTEN;cDIVINATION;cSEAL;cCLIFF;cPRIVATE;cAGAIN;cMOUTH;
    cENCLOSURE;cEARTH;cSCHOLAR;cGO;dSLOWLY;cEVENING;cBIG;cWOMAN;cCHILD;cROOF;cINCH;cSMALL;cLAME;
    cCORPSE;cSPROUT;cMOUNTAIN;cRIVER;cWORK;cONESELF;cTURBAN;cDRY;cSHORT THREAD;cDOTTED CLIFF;
    cLONG STRIDE;cTWO HANDS;cSHOOT;cBOW;cSNOUT;cBRISTLE;cSTEP;cHEART;cHALBERD;cDOOR;cHAND;cBRANCH;
    cRAP;cSCRIPT;cDIPPER;cAXE;cSQUARE;cNOT;cSUN;cSAY;cMOON;cTREE;cLACK;cSTOP;cDEATH;cWEAPON;
    cDO NOT;cCOMPARE;cFUR;cCLAN;cSTEAM;cWATER;cFIRE;cCLAW;cFATHER;cDOUBLE X;cHALF TREE TRUNK;
    cSLICE;cFANG;cCOW;cDOG;cPROFOUND;cJADE;cMELON;cTILE;cSWEET;cLIFE;cUSE;cFIELD;cBOLT OF CLOTH;
    cSICKNESS;cDOTTED TENT;cWHITE;cSKIN;cDISH;cEYE;cSPEAR;cARROW;cSTONE;cSPIRIT;cTRACK;cGRAIN;
    cCAVE;cSTAND;cBAMBOO;cRICE;cSILK;cJAR;cNET;cSHEEP;cFEATHER;cOLD;cAND;cPLOW;cEAR;cBRUSH;cMEAT;
    cMINISTER;cSELF;cARRIVE;cMORTAR;cTONGUE;cOPPOSE;cBOAT;cSTOPPING;cCOLOR;cGRASS;cTIGER;cINSECT;
    cBLOOD;cWALK ENCLOSURE;cCLOTHES;cWEST;cSEE;cHORN;cSPEECH;cVALLEY;cBEAN;cPIG;cBADGER;cSHELL;
    cRED;cRUN;cFOOT;cBODY;cCART;cBITTER;cMORNING;cWALK;cCITY;cWINE;cDISTINGUISH;cVILLAGE;cGOLD;
    cLONG;cGATE;cMOUND;cSLAVE;cSHORT TAILED BIRD;cRAIN;cBLUE;cWRONG;cFACE;cLEATHER;cbTANNED;cLEEK;
    cSOUND;cLEAF;cWIND;cFLY;cEAT;cHEAD;cFRAGRANT;cHORSE;cBONE;cTALL;cHAIR;cFIGHT;cSACRIFICIAL WINE;
    cCAULDRON;cGHOST;cFISH;cBIRD;cSALT;cDEER;cWHEAT;cHEMP;cYELLOW;cMILLET;cBLACK;cEMBROIDERY;cFROG;
    cTRIPOD;cDRUM;cRAT;cNOSE;cEVEN;cTOOTH;cDRAGON;cTURTLE;cFLUTE;26;
    IDEOGRAPHIC DESCRIPTION CHARACTER LEFT TO RIGHT;dABOVE TO BELOW;dLEFT TO MIDDLE AND RIGHT;
    dABOVE TO MIDDLE AND BELOW;dFULL SURROUND;dSURROUND FROM ABOVE;fBELOW;fLEFT;fbUPPER;gRIGHT;
    fLOWER LEFT;dOVERLAID"

end SqlRunner.Text.CharacterName
