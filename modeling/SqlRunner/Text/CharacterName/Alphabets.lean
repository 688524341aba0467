/-!
# Character names — alphabets and other scripts of living languages

The names of the assigned characters from U+0000 to U+1FFE, written short as
`CharacterName` describes.
-/

set_option autoImplicit false

namespace SqlRunner.Text.CharacterName

/-- The names from U+0000 on. -/
def alphabets : String := "
    32;SPACE;EXCLAMATION MARK;abQUOTATION;NUMBER SIGN;abDOLLAR;abPERCENT;AMPERSAND;APOSTROPHE;
    LEFT PARENTHESIS;abRIGHT;ASTERISK;PLUS SIGN;COMMA;HYPHEN-MINUS;FULL STOP;SOLIDUS;DIGIT ZERO;
    bONE;bTWO;bTHREE;bFOUR;bFIVE;bSIX;bSEVEN;bEIGHT;bNINE;COLON;SEMICOLON;LESS-THAN SIGN;abEQUALS;
    abGREATER-THAN;QUESTION MARK;COMMERCIAL AT;LATIN CAPITAL LETTER A;dB;dC;dD;dE;dF;dG;dH;dI;dJ;
    dK;dL;dM;dN;dO;dP;dQ;dR;dS;dT;dU;dV;dW;dX;dY;dZ;LEFT SQUARE BRACKET;REVERSE SOLIDUS;
    RIGHT SQUARE BRACKET;CIRCUMFLEX ACCENT;LOW LINE;GRAVE ACCENT;LATIN SMALL LETTER A;dB;dC;dD;dE;
    dF;dG;dH;dI;dJ;dK;dL;dM;dN;dO;dP;dQ;dR;dS;dT;dU;dV;dW;dX;dY;dZ;LEFT CURLY BRACKET;
    VERTICAL LINE;RIGHT CURLY BRACKET;TILDE;33;NO-BREAK SPACE;INVERTED EXCLAMATION MARK;CENT SIGN;
    abPOUND;abCURRENCY;abYEN;BROKEN BAR;SECTION SIGN;DIAERESIS;COPYRIGHT SIGN;
    FEMININE ORDINAL INDICATOR;LEFT-POINTING DOUBLE ANGLE QUOTATION MARK;NOT SIGN;SOFT HYPHEN;
    REGISTERED SIGN;MACRON;DEGREE SIGN;abPLUS-MINUS;SUPERSCRIPT TWO;bTHREE;ACUTE ACCENT;MICRO SIGN;
    abPILCROW;MIDDLE DOT;CEDILLA;SUPERSCRIPT ONE;MASCULINE ORDINAL INDICATOR;
    RIGHT-POINTING DOUBLE ANGLE QUOTATION MARK;VULGAR FRACTION ONE QUARTER;dHALF;cTHREE QUARTERS;
    INVERTED QUESTION MARK;LATIN CAPITAL LETTER A WITH GRAVE;fACUTE;fCIRCUMFLEX;fTILDE;fDIAERESIS;
    fRING ABOVE;dAE;dC WITH CEDILLA;dE WITH GRAVE;fACUTE;fCIRCUMFLEX;fDIAERESIS;dI WITH GRAVE;
    fACUTE;fCIRCUMFLEX;fDIAERESIS;dETH;dN WITH TILDE;dO WITH GRAVE;fACUTE;fCIRCUMFLEX;fTILDE;
    fDIAERESIS;MULTIPLICATION SIGN;LATIN CAPITAL LETTER O WITH STROKE;dU WITH GRAVE;fACUTE;
    fCIRCUMFLEX;fDIAERESIS;dY WITH ACUTE;dTHORN;bSMALL LETTER SHARP S;dA WITH GRAVE;fACUTE;
    fCIRCUMFLEX;fTILDE;fDIAERESIS;fRING ABOVE;dAE;dC WITH CEDILLA;dE WITH GRAVE;fACUTE;fCIRCUMFLEX;
    fDIAERESIS;dI WITH GRAVE;fACUTE;fCIRCUMFLEX;fDIAERESIS;dETH;dN WITH TILDE;dO WITH GRAVE;fACUTE;
    fCIRCUMFLEX;fTILDE;fDIAERESIS;DIVISION SIGN;LATIN SMALL LETTER O WITH STROKE;dU WITH GRAVE;
    fACUTE;fCIRCUMFLEX;fDIAERESIS;dY WITH ACUTE;dTHORN;dY WITH DIAERESIS;
    bCAPITAL LETTER A WITH MACRON;beSMALL;bCAPITAL LETTER A WITH BREVE;beSMALL;
    bCAPITAL LETTER A WITH OGONEK;beSMALL;bCAPITAL LETTER C WITH ACUTE;beSMALL;
    bCAPITAL LETTER C WITH CIRCUMFLEX;beSMALL;bCAPITAL LETTER C WITH DOT ABOVE;bfSMALL;
    bCAPITAL LETTER C WITH CARON;beSMALL;bcCAPITAL LETTER D;beSMALL;bCAPITAL LETTER D WITH STROKE;
    beSMALL;bCAPITAL LETTER E WITH MACRON;beSMALL;bCAPITAL LETTER E WITH BREVE;beSMALL;
    bCAPITAL LETTER E WITH DOT ABOVE;bfSMALL;bCAPITAL LETTER E WITH OGONEK;beSMALL;
    bCAPITAL LETTER E WITH CARON;beSMALL;bCAPITAL LETTER G WITH CIRCUMFLEX;beSMALL;
    bCAPITAL LETTER G WITH BREVE;beSMALL;bCAPITAL LETTER G WITH DOT ABOVE;bfSMALL;
    bCAPITAL LETTER G WITH CEDILLA;beSMALL;bCAPITAL LETTER H WITH CIRCUMFLEX;beSMALL;
    bCAPITAL LETTER H WITH STROKE;beSMALL;bCAPITAL LETTER I WITH TILDE;beSMALL;
    bCAPITAL LETTER I WITH MACRON;beSMALL;bCAPITAL LETTER I WITH BREVE;beSMALL;
    bCAPITAL LETTER I WITH OGONEK;beSMALL;bCAPITAL LETTER I WITH DOT ABOVE;bSMALL LETTER DOTLESS I;
    bCAPITAL LIGATURE IJ;bcSMALL;bCAPITAL LETTER J WITH CIRCUMFLEX;beSMALL;
    bCAPITAL LETTER K WITH CEDILLA;beSMALL;dKRA;bCAPITAL LETTER L WITH ACUTE;beSMALL;
    bCAPITAL LETTER L WITH CEDILLA;beSMALL;bCAPITAL LETTER L WITH CARON;beSMALL;
    bCAPITAL LETTER L WITH MIDDLE DOT;bfSMALL;bCAPITAL LETTER L WITH STROKE;beSMALL;
    bCAPITAL LETTER N WITH ACUTE;beSMALL;bCAPITAL LETTER N WITH CEDILLA;beSMALL;
    bCAPITAL LETTER N WITH CARON;beSMALL;ePRECEDED BY APOSTROPHE;bCAPITAL LETTER ENG;bcSMALL;
    bCAPITAL LETTER O WITH MACRON;beSMALL;bCAPITAL LETTER O WITH BREVE;beSMALL;
    bCAPITAL LETTER O WITH DOUBLE ACUTE;bfSMALL;bCAPITAL LIGATURE OE;bcSMALL;
    bCAPITAL LETTER R WITH ACUTE;beSMALL;bCAPITAL LETTER R WITH CEDILLA;beSMALL;
    bCAPITAL LETTER R WITH CARON;beSMALL;bCAPITAL LETTER S WITH ACUTE;beSMALL;
    bCAPITAL LETTER S WITH CIRCUMFLEX;beSMALL;bCAPITAL LETTER S WITH CEDILLA;beSMALL;
    bCAPITAL LETTER S WITH CARON;beSMALL;bCAPITAL LETTER T WITH CEDILLA;beSMALL;
    bCAPITAL LETTER T WITH CARON;beSMALL;bCAPITAL LETTER T WITH STROKE;beSMALL;
    bCAPITAL LETTER U WITH TILDE;beSMALL;bCAPITAL LETTER U WITH MACRON;beSMALL;
    bCAPITAL LETTER U WITH BREVE;beSMALL;bCAPITAL LETTER U WITH RING ABOVE;bfSMALL;
    bCAPITAL LETTER U WITH DOUBLE ACUTE;bfSMALL;bCAPITAL LETTER U WITH OGONEK;beSMALL;
    bCAPITAL LETTER W WITH CIRCUMFLEX;beSMALL;bcCAPITAL LETTER Y;beSMALL;
    bCAPITAL LETTER Y WITH DIAERESIS;dZ WITH ACUTE;beSMALL;bCAPITAL LETTER Z WITH DOT ABOVE;
    bfSMALL;bCAPITAL LETTER Z WITH CARON;beSMALL;dLONG S;dB WITH STROKE;
    bCAPITAL LETTER B WITH HOOK;fTOPBAR;beSMALL;bCAPITAL LETTER TONE SIX;bdSMALL;
    bCAPITAL LETTER OPEN O;dC WITH HOOK;beSMALL;bCAPITAL LETTER AFRICAN D;dD WITH HOOK;fTOPBAR;
    beSMALL;dTURNED DELTA;bCAPITAL LETTER REVERSED E;dSCHWA;dOPEN E;dF WITH HOOK;beSMALL;
    bcCAPITAL LETTER G;dGAMMA;bSMALL LETTER HV;bCAPITAL LETTER IOTA;dI WITH STROKE;dK WITH HOOK;
    beSMALL;dL WITH BAR;dLAMBDA WITH STROKE;bCAPITAL LETTER TURNED M;dN WITH LEFT HOOK;
    bSMALL LETTER N WITH LONG RIGHT LEG;bCAPITAL LETTER O WITH MIDDLE TILDE;fHORN;beSMALL;
    bCAPITAL LETTER OI;bcSMALL;bCAPITAL LETTER P WITH HOOK;beSMALL;bLETTER YR;
    bCAPITAL LETTER TONE TWO;bdSMALL;bCAPITAL LETTER ESH;bLETTER REVERSED ESH LOOP;
    bSMALL LETTER T WITH PALATAL HOOK;bbCAPITAL LETTER T WITH;beSMALL;
    bbCAPITAL LETTER T WITH RETROFLEX;dU WITH HORN;beSMALL;bCAPITAL LETTER UPSILON;dV WITH HOOK;
    dcY;beSMALL;bCAPITAL LETTER Z WITH STROKE;beSMALL;bCAPITAL LETTER EZH;eREVERSED;bdSMALL;
    eWITH TAIL;bLETTER TWO WITH STROKE;bCAPITAL LETTER TONE FIVE;bdSMALL;
    bLETTER INVERTED GLOTTAL STOP WITH STROKE;cWYNN;cDENTAL CLICK;cbLATERAL;cbALVEOLAR;cbRETROFLEX;
    bCAPITAL LETTER DZ WITH CARON;dcD WITH SMALL LETTER Z;bcSMALL LETTER DZ;bCAPITAL LETTER LJ;
    dL WITH SMALL LETTER J;bSMALL LETTER LJ;bCAPITAL LETTER NJ;dN WITH SMALL LETTER J;
    bSMALL LETTER NJ;bCAPITAL LETTER A WITH CARON;beSMALL;bcCAPITAL LETTER I;beSMALL;
    bcCAPITAL LETTER O;beSMALL;bcCAPITAL LETTER U;beSMALL;
    bCAPITAL LETTER U WITH DIAERESIS AND MACRON;bgSMALL;bCAPITAL LETTER U WITH DIAERESIS AND ACUTE;
    bgSMALL;bCAPITAL LETTER U WITH DIAERESIS AND CARON;bgSMALL;
    bCAPITAL LETTER U WITH DIAERESIS AND GRAVE;bgSMALL;dTURNED E;
    bCAPITAL LETTER A WITH DIAERESIS AND MACRON;bgSMALL;bcCAPITAL LETTER A WITH DOT ABOVE;bhSMALL;
    bbCAPITAL LETTER AE WITH;beSMALL;bCAPITAL LETTER G WITH STROKE;beSMALL;
    bCAPITAL LETTER G WITH CARON;beSMALL;bcCAPITAL LETTER K;beSMALL;bCAPITAL LETTER O WITH OGONEK;
    beSMALL;bCAPITAL LETTER O WITH OGONEK AND MACRON;bgSMALL;bCAPITAL LETTER EZH WITH CARON;
    beSMALL;dcJ;bCAPITAL LETTER DZ;dD WITH SMALL LETTER Z;bSMALL LETTER DZ;
    bCAPITAL LETTER G WITH ACUTE;beSMALL;bCAPITAL LETTER HWAIR;dWYNN;dN WITH GRAVE;beSMALL;
    bCAPITAL LETTER A WITH RING ABOVE AND ACUTE;bhSMALL;bbCAPITAL LETTER AE WITH;beSMALL;
    bbCAPITAL LETTER O WITH STROKE AND;bgSMALL;bCAPITAL LETTER A WITH DOUBLE GRAVE;bfSMALL;
    bCAPITAL LETTER A WITH INVERTED BREVE;bfSMALL;bCAPITAL LETTER E WITH DOUBLE GRAVE;bfSMALL;
    bCAPITAL LETTER E WITH INVERTED BREVE;bfSMALL;bCAPITAL LETTER I WITH DOUBLE GRAVE;bfSMALL;
    bCAPITAL LETTER I WITH INVERTED BREVE;bfSMALL;bCAPITAL LETTER O WITH DOUBLE GRAVE;bfSMALL;
    bCAPITAL LETTER O WITH INVERTED BREVE;bfSMALL;bCAPITAL LETTER R WITH DOUBLE GRAVE;bfSMALL;
    bCAPITAL LETTER R WITH INVERTED BREVE;bfSMALL;bCAPITAL LETTER U WITH DOUBLE GRAVE;bfSMALL;
    bCAPITAL LETTER U WITH INVERTED BREVE;bfSMALL;bCAPITAL LETTER S WITH COMMA BELOW;bfSMALL;
    bdCAPITAL LETTER T;bfSMALL;bCAPITAL LETTER YOGH;bcSMALL;bCAPITAL LETTER H WITH CARON;beSMALL;
    bCAPITAL LETTER N WITH LONG RIGHT LEG;bSMALL LETTER D WITH CURL;bCAPITAL LETTER OU;bcSMALL;
    bCAPITAL LETTER Z WITH HOOK;beSMALL;bCAPITAL LETTER A WITH DOT ABOVE;bfSMALL;
    bCAPITAL LETTER E WITH CEDILLA;beSMALL;bCAPITAL LETTER O WITH DIAERESIS AND MACRON;bgSMALL;
    bcCAPITAL LETTER O WITH TILDE;bgSMALL;bCAPITAL LETTER O WITH DOT ABOVE;bfSMALL;
    bCAPITAL LETTER O WITH DOT ABOVE AND MACRON;bhSMALL;bbCAPITAL LETTER Y WITH;beSMALL;
    dL WITH CURL;dcN;dcT;dDOTLESS J;dDB DIGRAPH;dbQP;bCAPITAL LETTER A WITH STROKE;dcC;beSMALL;
    bCAPITAL LETTER L WITH BAR;dT WITH DIAGONAL STROKE;bSMALL LETTER S WITH SWASH TAIL;ddZ;
    bCAPITAL LETTER GLOTTAL STOP;bdSMALL;bCAPITAL LETTER B WITH STROKE;dU BAR;dTURNED V;
    dE WITH STROKE;beSMALL;bcCAPITAL LETTER J;beSMALL;bCAPITAL LETTER SMALL Q WITH HOOK TAIL;
    beSMALL LETTER;bCAPITAL LETTER R WITH STROKE;beSMALL;bcCAPITAL LETTER Y;beSMALL;dTURNED A;
    dALPHA;dbTURNED;dB WITH HOOK;dOPEN O;dC WITH CURL;dD WITH TAIL;fHOOK;dREVERSED E;dSCHWA;
    eWITH HOOK;dOPEN E;dcREVERSED;gWITH HOOK;dCLOSED REVERSED OPEN E;dDOTLESS J WITH STROKE;
    dG WITH HOOK;dSCRIPT G;bbLETTER SMALL CAPITAL;bSMALL LETTER GAMMA;dRAMS HORN;dTURNED H;
    dH WITH HOOK;dcHENG;dI WITH STROKE;dIOTA;bLETTER SMALL CAPITAL I;
    bSMALL LETTER L WITH MIDDLE TILDE;fBELT;fRETROFLEX HOOK;dLEZH;dTURNED M;fWITH LONG LEG;
    dM WITH HOOK;dbN WITH LEFT;fbRETROFLEX;bLETTER SMALL CAPITAL N;bSMALL LETTER BARRED O;
    bLETTER SMALL CAPITAL OE;bSMALL LETTER CLOSED OMEGA;dPHI;dTURNED R;fWITH LONG LEG;gHOOK;
    dR WITH LONG LEG;fTAIL;fFISHHOOK;ddREVERSED;bLETTER SMALL CAPITAL R;ebINVERTED;
    bSMALL LETTER S WITH HOOK;dESH;dDOTLESS J WITH STROKE AND HOOK;dSQUAT REVERSED ESH;
    dESH WITH CURL;dTURNED T;dT WITH RETROFLEX HOOK;dU BAR;dUPSILON;dV WITH HOOK;dTURNED V;eW;eY;
    bbLETTER SMALL CAPITAL;bSMALL LETTER Z WITH RETROFLEX HOOK;fCURL;dEZH;eWITH CURL;
    bLETTER GLOTTAL STOP;cPHARYNGEAL VOICED FRICATIVE;cINVERTED GLOTTAL STOP;cSTRETCHED C;
    cBILABIAL CLICK;cSMALL CAPITAL B;bSMALL LETTER CLOSED OPEN E;bLETTER SMALL CAPITAL G WITH HOOK;
    eH;bSMALL LETTER J WITH CROSSED-TAIL;dTURNED K;bLETTER SMALL CAPITAL L;
    bSMALL LETTER Q WITH HOOK;bLETTER GLOTTAL STOP WITH STROKE;ceREVERSED;bSMALL LETTER DZ DIGRAPH;
    dbDEZH;dDZ DIGRAPH WITH CURL;dTS DIGRAPH;dbTESH;dTC DIGRAPH WITH CURL;dFENG DIGRAPH;dbLS;dbLZ;
    bLETTER BILABIAL PERCUSSIVE;cbBIDENTAL;bSMALL LETTER TURNED H WITH FISHHOOK;hAND TAIL;
    MODIFIER LETTER SMALL H;eWITH HOOK;dJ;dR;dbTURNED;fWITH HOOK;dCAPITAL INVERTED R;dW;dY;cPRIME;
    cbDOUBLE;cTURNED COMMA;cAPOSTROPHE;cREVERSED COMMA;cRIGHT HALF RING;ccLEFT;cGLOTTAL STOP;
    ccREVERSED;cLEFT ARROWHEAD;cbRIGHT;cbUP;cbDOWN;cCIRCUMFLEX ACCENT;CARON;
    MODIFIER LETTER VERTICAL LINE;cMACRON;cACUTE ACCENT;cbGRAVE;cLOW VERTICAL LINE;dMACRON;
    dGRAVE ACCENT;dbACUTE;cTRIANGULAR COLON;ccHALF;cCENTRED RIGHT HALF RING;dcLEFT;cUP TACK;cbDOWN;
    cPLUS SIGN;cbMINUS;BREVE;DOT ABOVE;abRING;OGONEK;SMALL TILDE;DOUBLE ACUTE ACCENT;
    MODIFIER LETTER RHOTIC HOOK;cCROSS ACCENT;cSMALL GAMMA;dL;dS;dX;dREVERSED GLOTTAL STOP;
    cEXTRA-HIGH TONE BAR;ccHIGH;ccMID;ccLOW;ccEXTRA-LOW;cYIN DEPARTING TONE MARK;cdYANG;cVOICING;
    cUNASPIRATED;cDOUBLE APOSTROPHE;cLOW DOWN ARROWHEAD;dbUP;dbLEFT;dbRIGHT;dRING;
    cMIDDLE GRAVE ACCENT;dcDOUBLE;ebACUTE;cLOW TILDE;cRAISED COLON;cBEGIN HIGH TONE;ccEND;
    cbBEGIN LOW;ccEND;cSHELF;cbOPEN;cLOW LEFT ARROW;COMBINING GRAVE ACCENT;bbACUTE;bbCIRCUMFLEX;
    bTILDE;bMACRON;bOVERLINE;bBREVE;bDOT ABOVE;bDIAERESIS;bHOOK ABOVE;bbRING;bDOUBLE ACUTE ACCENT;
    bCARON;bVERTICAL LINE ABOVE;bdDOUBLE;cGRAVE ACCENT;bCANDRABINDU;bINVERTED BREVE;
    bTURNED COMMA ABOVE;bc;bcREVERSED;bCOMMA ABOVE RIGHT;bGRAVE ACCENT BELOW;bcACUTE;bbLEFT TACK;
    bcRIGHT;bLEFT ANGLE ABOVE;bHORN;bLEFT HALF RING BELOW;bbUP TACK;bcDOWN;bbPLUS SIGN;bcMINUS;
    bbPALATALIZED HOOK;bcRETROFLEX;bbDOT;bbDIAERESIS;bbRING;bbCOMMA;bCEDILLA;bOGONEK;
    bVERTICAL LINE BELOW;bbBRIDGE;bbINVERTED DOUBLE ARCH;bbCARON;bbCIRCUMFLEX ACCENT;bbBREVE;
    bcINVERTED;bbTILDE;bbMACRON;bLOW LINE;bcDOUBLE;bTILDE OVERLAY;bbSHORT STROKE;bcLONG;
    bbSHORT SOLIDUS;bcLONG;bRIGHT HALF RING BELOW;bbINVERTED BRIDGE;bbSQUARE;bbSEAGULL;bX ABOVE;
    bVERTICAL TILDE;bDOUBLE OVERLINE;bGRAVE TONE MARK;bcACUTE;bGREEK PERISPOMENI;cKORONIS;
    cDIALYTIKA TONOS;cYPOGEGRAMMENI;bBRIDGE ABOVE;bEQUALS SIGN BELOW;bbDOUBLE VERTICAL LINE;
    bbLEFT ANGLE;bNOT TILDE ABOVE;bbHOMOTHETIC;bbALMOST EQUAL TO;bLEFT RIGHT ARROW BELOW;bcUPWARDS;
    bGRAPHEME JOINER;bRIGHT ARROWHEAD ABOVE;bbLEFT HALF RING;bFERMATA;bX BELOW;bbLEFT ARROWHEAD;
    bcRIGHT;dbAND UP ARROWHEAD;cHALF RING ABOVE;bDOT ABOVE RIGHT;bASTERISK BELOW;bbDOUBLE RING;
    bZIGZAG ABOVE;bDOUBLE BREVE BELOW;d;cMACRON;dBELOW;cTILDE;cINVERTED BREVE;
    cRIGHTWARDS ARROW BELOW;bLATIN SMALL LETTER A;eE;eI;eO;eU;eC;eD;eH;eM;eR;eT;eV;eX;
    GREEK CAPITAL LETTER HETA;bcSMALL;bCAPITAL LETTER ARCHAIC SAMPI;bdSMALL;bNUMERAL SIGN;bcLOWER;
    bCAPITAL LETTER PAMPHYLIAN DIGAMMA;bdSMALL;2;bYPOGEGRAMMENI;
    bSMALL REVERSED LUNATE SIGMA SYMBOL;cdDOTTED;ceREVERSED;bQUESTION MARK;bCAPITAL LETTER YOT;4;
    bTONOS;bbDIALYTIKA;bbCAPITAL LETTER ALPHA WITH;bANO TELEIA;bCAPITAL LETTER EPSILON WITH TONOS;
    dcETA;dcIOTA;1;dcOMICRON;1;dcUPSILON;dcOMEGA;bbSMALL LETTER IOTA WITH DIALYTIKA AND;
    bCAPITAL LETTER ALPHA;dBETA;dGAMMA;dDELTA;dEPSILON;dZETA;dETA;dTHETA;dIOTA;dKAPPA;dLAMDA;dMU;
    dNU;dXI;dOMICRON;dPI;dRHO;1;dSIGMA;dTAU;dUPSILON;dPHI;dCHI;dPSI;dOMEGA;dIOTA WITH DIALYTIKA;
    dcUPSILON;bSMALL LETTER ALPHA WITH TONOS;dcEPSILON;dcETA;dcIOTA;dbUPSILON WITH DIALYTIKA AND;
    dALPHA;dBETA;dGAMMA;dDELTA;dEPSILON;dZETA;dETA;dTHETA;dIOTA;dKAPPA;dLAMDA;dMU;dNU;dXI;dOMICRON;
    dPI;dRHO;dFINAL SIGMA;db;dTAU;dUPSILON;dPHI;dCHI;dPSI;dOMEGA;dIOTA WITH DIALYTIKA;dcUPSILON;
    dOMICRON WITH TONOS;dcUPSILON;dcOMEGA;bCAPITAL KAI SYMBOL;bbBETA;bbTHETA;bbUPSILON WITH HOOK;
    dcACUTE AND;ddDIAERESIS;bbPHI;bbPI;bbKAI;bLETTER ARCHAIC KOPPA;bdSMALL;bLETTER STIGMA;bcSMALL;
    bLETTER DIGAMMA;bcSMALL;bLETTER KOPPA;bcSMALL;bLETTER SAMPI;bcSMALL;COPTIC CAPITAL LETTER SHEI;
    bcSMALL;bCAPITAL LETTER FEI;bcSMALL;bCAPITAL LETTER KHEI;bcSMALL;bCAPITAL LETTER HORI;bcSMALL;
    bCAPITAL LETTER GANGIA;bcSMALL;bCAPITAL LETTER SHIMA;bcSMALL;bCAPITAL LETTER DEI;bcSMALL;
    GREEK KAPPA SYMBOL;bbRHO;bbLUNATE SIGMA;bLETTER YOT;bCAPITAL THETA SYMBOL;bbLUNATE EPSILON;
    bdREVERSED;bCAPITAL LETTER SHO;bcSMALL;bCAPITAL LUNATE SIGMA SYMBOL;cLETTER SAN;bcSMALL;
    bRHO WITH STROKE SYMBOL;bbCAPITAL REVERSED LUNATE SIGMA;cdDOTTED;ceREVERSED;
    CYRILLIC CAPITAL LETTER IE WITH GRAVE;dIO;dDJE;dGJE;dUKRAINIAN IE;dDZE;
    dBYELORUSSIAN-UKRAINIAN I;dYI;dJE;dLJE;dNJE;dTSHE;dKJE;dI WITH GRAVE;dSHORT U;dDZHE;dA;dBE;dVE;
    dGHE;dDE;dIE;dZHE;dZE;dI;dbSHORT;dKA;dEL;dEM;dEN;dO;dPE;dER;dES;dTE;dU;dEF;dHA;dTSE;dCHE;dSHA;
    dSHCHA;dHARD SIGN;dYERU;dSOFT SIGN;dE;dYU;dYA;bSMALL LETTER A;dBE;dVE;dGHE;dDE;dIE;dZHE;dZE;dI;
    dbSHORT;dKA;dEL;dEM;dEN;dO;dPE;dER;dES;dTE;dU;dEF;dHA;dTSE;dCHE;dSHA;dSHCHA;dHARD SIGN;dYERU;
    dSOFT SIGN;dE;dYU;dYA;dIE WITH GRAVE;dIO;dDJE;dGJE;dUKRAINIAN IE;dDZE;
    dBYELORUSSIAN-UKRAINIAN I;dYI;dJE;dLJE;dNJE;dTSHE;dKJE;dI WITH GRAVE;dSHORT U;dDZHE;
    bCAPITAL LETTER OMEGA;bcSMALL;bCAPITAL LETTER YAT;bcSMALL;bCAPITAL LETTER IOTIFIED E;bdSMALL;
    bCAPITAL LETTER LITTLE YUS;bdSMALL;bcCAPITAL LETTER IOTIFIED;beSMALL;bbCAPITAL LETTER BIG;
    bdSMALL;bcCAPITAL LETTER IOTIFIED;beSMALL;bCAPITAL LETTER KSI;bcSMALL;bCAPITAL LETTER PSI;
    bcSMALL;bCAPITAL LETTER FITA;bcSMALL;bCAPITAL LETTER IZHITSA;bcSMALL;
    bCAPITAL LETTER IZHITSA WITH DOUBLE GRAVE ACCENT;bgSMALL;bCAPITAL LETTER UK;bcSMALL;
    bCAPITAL LETTER ROUND OMEGA;bdSMALL;bCAPITAL LETTER OMEGA WITH TITLO;beSMALL;
    bCAPITAL LETTER OT;bcSMALL;bCAPITAL LETTER KOPPA;bcSMALL;bTHOUSANDS SIGN;
    COMBINING CYRILLIC TITLO;cPALATALIZATION;cDASIA PNEUMATA;cbPSILI;cPOKRYTIE;
    cHUNDRED THOUSANDS SIGN;cbMILLIONS;CYRILLIC CAPITAL LETTER SHORT I WITH TAIL;bfSMALL;
    bCAPITAL LETTER SEMISOFT SIGN;bdSMALL;bCAPITAL LETTER ER WITH TICK;beSMALL;
    bCAPITAL LETTER GHE WITH UPTURN;beSMALL;bCAPITAL LETTER GHE WITH STROKE;beSMALL;
    bCAPITAL LETTER GHE WITH MIDDLE HOOK;bfSMALL;bCAPITAL LETTER ZHE WITH DESCENDER;beSMALL;
    bcCAPITAL LETTER ZE;beSMALL;bcCAPITAL LETTER KA;beSMALL;
    bCAPITAL LETTER KA WITH VERTICAL STROKE;bfSMALL;bbCAPITAL LETTER KA WITH;beSMALL;
    bCAPITAL LETTER BASHKIR KA;bdSMALL;bCAPITAL LETTER EN WITH DESCENDER;beSMALL;
    bCAPITAL LIGATURE EN GHE;bdSMALL;bCAPITAL LETTER PE WITH MIDDLE HOOK;bfSMALL;
    bCAPITAL LETTER ABKHASIAN HA;bdSMALL;bCAPITAL LETTER ES WITH DESCENDER;beSMALL;
    bcCAPITAL LETTER TE;beSMALL;bCAPITAL LETTER STRAIGHT U;bdSMALL;
    bCAPITAL LETTER STRAIGHT U WITH STROKE;bfSMALL;bCAPITAL LETTER HA WITH DESCENDER;beSMALL;
    bCAPITAL LIGATURE TE TSE;bdSMALL;bCAPITAL LETTER CHE WITH DESCENDER;beSMALL;
    bCAPITAL LETTER CHE WITH VERTICAL STROKE;bfSMALL;bCAPITAL LETTER SHHA;bcSMALL;
    bCAPITAL LETTER ABKHASIAN CHE;bdSMALL;bCAPITAL LETTER ABKHASIAN CHE WITH DESCENDER;bfSMALL;
    bLETTER PALOCHKA;bCAPITAL LETTER ZHE WITH BREVE;beSMALL;bCAPITAL LETTER KA WITH HOOK;beSMALL;
    bCAPITAL LETTER EL WITH TAIL;beSMALL;bCAPITAL LETTER EN WITH HOOK;beSMALL;
    bCAPITAL LETTER EN WITH TAIL;beSMALL;bCAPITAL LETTER KHAKASSIAN CHE;bdSMALL;
    bCAPITAL LETTER EM WITH TAIL;beSMALL;dPALOCHKA;bCAPITAL LETTER A WITH BREVE;beSMALL;
    bCAPITAL LETTER A WITH DIAERESIS;beSMALL;bCAPITAL LIGATURE A IE;bdSMALL;
    bCAPITAL LETTER IE WITH BREVE;beSMALL;bCAPITAL LETTER SCHWA;bcSMALL;
    bCAPITAL LETTER SCHWA WITH DIAERESIS;beSMALL;bcCAPITAL LETTER ZHE;beSMALL;bcCAPITAL LETTER ZE;
    beSMALL;bCAPITAL LETTER ABKHASIAN DZE;bdSMALL;bCAPITAL LETTER I WITH MACRON;beSMALL;
    bCAPITAL LETTER I WITH DIAERESIS;beSMALL;bcCAPITAL LETTER O;beSMALL;bCAPITAL LETTER BARRED O;
    bdSMALL;bCAPITAL LETTER BARRED O WITH DIAERESIS;bfSMALL;bcCAPITAL LETTER E;beSMALL;
    bCAPITAL LETTER U WITH MACRON;beSMALL;bCAPITAL LETTER U WITH DIAERESIS;beSMALL;
    bCAPITAL LETTER U WITH DOUBLE ACUTE;bfSMALL;bCAPITAL LETTER CHE WITH DIAERESIS;beSMALL;
    bCAPITAL LETTER GHE WITH DESCENDER;beSMALL;bCAPITAL LETTER YERU WITH DIAERESIS;beSMALL;
    bCAPITAL LETTER GHE WITH STROKE AND HOOK;bgSMALL;bbCAPITAL LETTER HA WITH;beSMALL;
    bCAPITAL LETTER HA WITH STROKE;beSMALL;bCAPITAL LETTER KOMI DE;bdSMALL;
    bCAPITAL LETTER KOMI DJE;bdSMALL;bCAPITAL LETTER KOMI ZJE;bdSMALL;bCAPITAL LETTER KOMI DZJE;
    bdSMALL;bCAPITAL LETTER KOMI LJE;bdSMALL;bCAPITAL LETTER KOMI NJE;bdSMALL;
    bCAPITAL LETTER KOMI SJE;bdSMALL;bCAPITAL LETTER KOMI TJE;bdSMALL;bCAPITAL LETTER REVERSED ZE;
    bdSMALL;bCAPITAL LETTER EL WITH HOOK;beSMALL;bCAPITAL LETTER LHA;bcSMALL;bCAPITAL LETTER RHA;
    bcSMALL;bCAPITAL LETTER YAE;bcSMALL;bCAPITAL LETTER QA;bcSMALL;bCAPITAL LETTER WE;bcSMALL;
    bCAPITAL LETTER ALEUT KA;bdSMALL;bCAPITAL LETTER EL WITH MIDDLE HOOK;bfSMALL;
    bdCAPITAL LETTER EN;bfSMALL;bCAPITAL LETTER PE WITH DESCENDER;beSMALL;bcCAPITAL LETTER SHHA;
    beSMALL;bCAPITAL LETTER EN WITH LEFT HOOK;bfSMALL;bCAPITAL LETTER DZZHE;bcSMALL;
    bCAPITAL LETTER DCHE;bcSMALL;bCAPITAL LETTER EL WITH DESCENDER;beSMALL;1;
    ARMENIAN CAPITAL LETTER AYB;dBEN;dGIM;dDA;dECH;dZA;dEH;dET;dTO;dZHE;dINI;dLIWN;dXEH;dCA;dKEN;
    dHO;dJA;dGHAD;dCHEH;dMEN;dYI;dNOW;dSHA;dVO;dCHA;dPEH;dJHEH;dRA;dSEH;dVEW;dTIWN;dREH;dCO;dYIWN;
    dPIWR;dKEH;dOH;dFEH;2;bMODIFIER LETTER LEFT HALF RING;bAPOSTROPHE;bEMPHASIS MARK;bbEXCLAMATION;
    bCOMMA;bQUESTION MARK;bbABBREVIATION;bSMALL LETTER TURNED AYB;db;dBEN;dGIM;dDA;dECH;dZA;dEH;
    dET;dTO;dZHE;dINI;dLIWN;dXEH;dCA;dKEN;dHO;dJA;dGHAD;dCHEH;dMEN;dYI;dNOW;dSHA;dVO;dCHA;dPEH;
    dJHEH;dRA;dSEH;dVEW;dTIWN;dREH;dCO;dYIWN;dPIWR;dKEH;dOH;dFEH;cLIGATURE ECH YIWN;
    cLETTER YI WITH STROKE;bFULL STOP;bHYPHEN;2;RIGHT-FACING ARMENIAN ETERNITY SIGN;adLEFT-FACING;
    abARMENIAN DRAM;1;HEBREW ACCENT ETNAHTA;cSEGOL;cSHALSHELET;cZAQEF QATAN;dGADOL;cTIPEHA;cREVIA;
    cZARQA;cPASHTA;cYETIV;cTEVIR;cGERESH;dMUQDAM;cGERSHAYIM;cQARNEY PARA;cTELISHA GEDOLA;cPAZER;
    cATNAH HAFUKH;cMUNAH;cMAHAPAKH;cMERKHA;dKEFULA;cDARGA;cQADMA;cTELISHA QETANA;cYERAH BEN YOMO;
    cOLE;cILUY;cDEHI;cZINOR;bMARK MASORA CIRCLE;bPOINT SHEVA;cHATAF SEGOL;dPATAH;dQAMATS;cHIRIQ;
    cTSERE;cSEGOL;cPATAH;cQAMATS;cHOLAM;dHASER FOR VAV;cQUBUTS;cDAGESH OR MAPIQ;cMETEG;
    bPUNCTUATION MAQAF;bPOINT RAFE;bPUNCTUATION PASEQ;bPOINT SHIN DOT;cbSIN;bPUNCTUATION SOF PASUQ;
    bMARK UPPER DOT;cbLOWER;bPUNCTUATION NUN HAFUKHA;bPOINT QAMATS QATAN;8;bLETTER ALEF;cBET;
    cGIMEL;cDALET;cHE;cVAV;cZAYIN;cHET;cTET;cYOD;cFINAL KAF;cb;cLAMED;cFINAL MEM;cb;cFINAL NUN;cb;
    cSAMEKH;cAYIN;cFINAL PE;cb;cFINAL TSADI;cb;cQOF;cRESH;cSHIN;cTAV;4;bYOD TRIANGLE;
    bLIGATURE YIDDISH DOUBLE VAV;dVAV YOD;dbDOUBLE;bPUNCTUATION GERESH;cGERSHAYIM;11;
    ARABIC NUMBER SIGN;bSIGN SANAH;bFOOTNOTE MARKER;bSIGN SAFHA;cSAMVAT;bNUMBER MARK ABOVE;
    ARABIC-INDIC CUBE ROOT;bbFOURTH;ARABIC RAY;ARABIC-INDIC PER MILLE SIGN;cbTEN THOUSAND;
    abAFGHANI;ARABIC COMMA;bDATE SEPARATOR;bPOETIC VERSE SIGN;bSIGN MISRA;
    cSALLALLAHOU ALAYHE WASSALLAM;cALAYHE ASSALLAM;cRAHMATULLAH ALAYHE;cRADI ALLAHOU ANHU;
    cTAKHALLUS;bSMALL HIGH TAH;dLIGATURE ALEF WITH LAM WITH YEH;dZAIN;cFATHA;cDAMMA;cKASRA;
    bSEMICOLON;bLETTER MARK;bbEND OF TEXT;bbTRIPLE DOT PUNCTUATION;bbQUESTION;bLETTER KASHMIRI YEH;
    cHAMZA;cALEF WITH MADDA ABOVE;ebHAMZA;cdWAW;cALEF WITH HAMZA BELOW;cYEH WITH HAMZA ABOVE;cALEF;
    cBEH;cTEH MARBUTA;d;cTHEH;cJEEM;cHAH;cKHAH;cDAL;cTHAL;cREH;cZAIN;cSEEN;cSHEEN;cSAD;cDAD;cTAH;
    cZAH;cAIN;cGHAIN;cKEHEH WITH TWO DOTS ABOVE;eTHREE DOTS BELOW;cFARSI YEH WITH INVERTED V;
    fTWO DOTS ABOVE;fcTHREE;bTATWEEL;bLETTER FEH;cQAF;cKAF;cLAM;cMEEM;cNOON;cHEH;cWAW;
    cALEF MAKSURA;cYEH;bFATHATAN;bDAMMATAN;bKASRATAN;bFATHA;bDAMMA;bKASRA;bSHADDA;bSUKUN;
    bMADDAH ABOVE;bbHAMZA;cBELOW;bSUBSCRIPT ALEF;bINVERTED DAMMA;bMARK NOON GHUNNA;bZWARAKAY;
    bVOWEL SIGN SMALL V ABOVE;ddINVERTED;dDOT BELOW;bREVERSED DAMMA;bFATHA WITH TWO DOTS;
    bWAVY HAMZA BELOW;ARABIC-INDIC DIGIT ZERO;cONE;cTWO;cTHREE;cFOUR;cFIVE;cSIX;cSEVEN;cEIGHT;
    cNINE;ARABIC PERCENT SIGN;bDECIMAL SEPARATOR;bbTHOUSANDS;bFIVE POINTED STAR;
    bLETTER DOTLESS BEH;dQAF;cSUPERSCRIPT ALEF;cALEF WASLA;dWITH WAVY HAMZA ABOVE;gBELOW;
    cHIGH HAMZA;eALEF;eWAW;cU WITH HAMZA ABOVE;cHIGH HAMZA YEH;cTTEH;cTTEHEH;cBEEH;cTEH WITH RING;
    eTHREE DOTS ABOVE DOWNWARDS;cPEH;cTEHEH;cBEHEH;cHAH WITH HAMZA ABOVE;ebTWO DOTS VERTICAL;cNYEH;
    cDYEH;cHAH WITH THREE DOTS ABOVE;cTCHEH;cTCHEHEH;cDDAL;cDAL WITH RING;eDOT BELOW;
    gAND SMALL TAH;cDAHAL;cDDAHAL;cDUL;cDAL WITH THREE DOTS ABOVE DOWNWARDS;eFOUR DOTS ABOVE;cRREH;
    cREH WITH SMALL V;eRING;eDOT BELOW;ebSMALL V;eDOT BELOW AND DOT ABOVE;ebTWO DOTS;cJEH;
    cREH WITH FOUR DOTS ABOVE;cbSEEN WITH DOT BELOW AND DOT;eTHREE DOTS BELOW;
    hAND THREE DOTS ABOVE;cSAD WITH TWO DOTS BELOW;eTHREE DOTS ABOVE;ceTAH;ceAIN;cDOTLESS FEH;
    cFEH WITH DOT MOVED BELOW;fb;cVEH;cFEH WITH THREE DOTS BELOW;cPEHEH;cQAF WITH DOT ABOVE;
    ebTHREE DOTS;cKEHEH;cSWASH KAF;cKAF WITH RING;eDOT ABOVE;cNG;cKAF WITH THREE DOTS BELOW;cGAF;
    dWITH RING;cNGOEH;cGAF WITH TWO DOTS BELOW;cGUEH;cGAF WITH THREE DOTS ABOVE;cLAM WITH SMALL V;
    eDOT ABOVE;ebTHREE DOTS;gBELOW;cbNOON WITH DOT;dGHUNNA;cRNOON;cNOON WITH RING;
    eTHREE DOTS ABOVE;cHEH DOACHASHMEE;cTCHEH WITH DOT ABOVE;cbHEH WITH YEH;dGOAL;
    eWITH HAMZA ABOVE;cTEH MARBUTA GOAL;cWAW WITH RING;cKIRGHIZ OE;cb;cU;cYU;cbKIRGHIZ;
    cWAW WITH TWO DOTS ABOVE;cVE;cFARSI YEH;cYEH WITH TAIL;eSMALL V;cWAW WITH DOT ABOVE;cE;
    cYEH WITH THREE DOTS BELOW;dBARREE;eWITH HAMZA ABOVE;bFULL STOP;bLETTER AE;
    bSMALL HIGH LIGATURE SAD WITH LAM WITH ALEF MAKSURA;efQAF;dMEEM INITIAL FORM;dLAM ALEF;dJEEM;
    dTHREE DOTS;dSEEN;bEND OF AYAH;bSTART OF RUB EL HIZB;bSMALL HIGH ROUNDED ZERO;
    dbUPRIGHT RECTANGULAR;dDOTLESS HEAD OF KHAH;dMEEM ISOLATED FORM;cLOW SEEN;cHIGH MADDA;cWAW;
    cYEH;cbHIGH;dNOON;bPLACE OF SAJDAH;bEMPTY CENTRE LOW STOP;dbHIGH;
    bROUNDED HIGH STOP WITH FILLED CENTRE;bSMALL LOW MEEM;bLETTER DAL WITH INVERTED V;cdREH;
    EXTENDED ARABIC-INDIC DIGIT ZERO;dONE;dTWO;dTHREE;dFOUR;dFIVE;dSIX;dSEVEN;dEIGHT;dNINE;
    ARABIC LETTER SHEEN WITH DOT BELOW;cdDAD;cdGHAIN;bSIGN SINDHI AMPERSAND;dPOSTPOSITION MEN;
    bLETTER HEH WITH INVERTED V;SYRIAC END OF PARAGRAPH;bSUPRALINEAR FULL STOP;bcSUBLINEAR;
    bSUPRALINEAR COLON;bbSUBLINEAR;bbHORIZONTAL;bCOLON SKEWED LEFT;dRIGHT;
    bSUPRALINEAR COLON SKEWED LEFT;bSUBLINEAR COLON SKEWED RIGHT;bCONTRACTION;bHARKLEAN OBELUS;
    cMETOBELUS;cASTERISCUS;1;bABBREVIATION MARK;bLETTER ALAPH;cbSUPERSCRIPT;cBETH;cGAMAL;dGARSHUNI;
    cDALATH;cDOTLESS DALATH RISH;cHE;cWAW;cZAIN;cHETH;cTETH;dGARSHUNI;cYUDH;dHE;cKAPH;cLAMADH;cMIM;
    cNUN;cSEMKATH;cbFINAL;cE;cPE;cbREVERSED;cSADHE;cQAPH;cRISH;cSHIN;cTAW;cPERSIAN BHETH;dGHAMAL;
    dDHALATH;bPTHAHA ABOVE;cBELOW;cDOTTED;bZQAPHA ABOVE;cBELOW;cDOTTED;bRBASA ABOVE;cBELOW;
    bDOTTED ZLAMA HORIZONTAL;dANGULAR;bHBASA ABOVE;cBELOW;bHBASA-ESASA DOTTED;bESASA ABOVE;cBELOW;
    bRWAHA;bFEMININE DOT;bQUSHSHAYA;bRUKKAKHA;bTWO VERTICAL DOTS ABOVE;eBELOW;bTHREE DOTS ABOVE;
    dBELOW;bOBLIQUE LINE ABOVE;dBELOW;bMUSIC;bBARREKH;2;bLETTER SOGDIAN ZHAIN;dKHAPH;dFE;
    ARABIC LETTER BEH WITH THREE DOTS HORIZONTALLY BELOW;eDOT BELOW AND THREE DOTS ABOVE;
    eTHREE DOTS POINTING UPWARDS BELOW;jAND TWO DOTS ABOVE;ebTWO DOTS BELOW AND DOT;
    eINVERTED SMALL V BELOW;eSMALL V;cHAH WITH TWO DOTS ABOVE;eTHREE DOTS POINTING UPWARDS BELOW;
    cDAL WITH TWO DOTS VERTICALLY BELOW AND SMALL TAH;eINVERTED SMALL V BELOW;cREH WITH STROKE;
    cSEEN WITH FOUR DOTS ABOVE;ccAIN WITH TWO;ebTHREE DOTS POINTING DOWNWARDS;
    ebTWO DOTS VERTICALLY;cFEH WITH TWO DOTS BELOW;ebTHREE DOTS POINTING UPWARDS;
    cKEHEH WITH DOT ABOVE;ebTHREE DOTS;gPOINTING UPWARDS BELOW;cMEEM WITH DOT ABOVE;fBELOW;
    cbNOON WITH TWO DOTS;eSMALL TAH;fV;cLAM WITH BAR;cREH WITH TWO DOTS VERTICALLY ABOVE;ebHAMZA;
    cbSEEN WITH TWO DOTS VERTICALLY;cHAH WITH SMALL ARABIC LETTER TAH BELOW;iAND TWO DOTS;ciSEEN;
    ciREH;cHAH WITH SMALL ARABIC LETTER TAH ABOVE;cbALEF WITH EXTENDED ARABIC-INDIC DIGIT TWO;
    hbTHREE;cbFARSI YEH WITH EXTENDED ARABIC-INDIC DIGIT TWO;ibTHREE;iFOUR BELOW;
    cWAW WITH EXTENDED ARABIC-INDIC DIGIT TWO ABOVE;hbTHREE;
    cbYEH BARREE WITH EXTENDED ARABIC-INDIC DIGIT TWO;ibTHREE;
    cHAH WITH EXTENDED ARABIC-INDIC DIGIT FOUR BELOW;
    cSEEN WITH EXTENDED ARABIC-INDIC DIGIT FOUR ABOVE;eINVERTED V;cKAF WITH TWO DOTS ABOVE;
    THAANA LETTER HAA;cSHAVIYANI;cNOONU;cRAA;cBAA;cLHAVIYANI;cKAAFU;cALIFU;cVAAVU;cMEEMU;cFAAFU;
    cDHAALU;cTHAA;cLAAMU;cGAAFU;cGNAVIYANI;cSEENU;cDAVIYANI;cZAVIYANI;cTAVIYANI;cYAA;cPAVIYANI;
    cJAVIYANI;cCHAVIYANI;cTTAA;cHHAA;cKHAA;cTHAALU;cZAA;cSHEENU;cSAADHU;cDAADHU;cTO;cZO;cAINU;
    cGHAINU;cQAAFU;cWAAVU;bABAFILI;bAABAAFILI;bIBIFILI;bEEBEEFILI;bUBUFILI;bOOBOOFILI;bEBEFILI;
    bEYBEYFILI;bOBOFILI;bOABOAFILI;bSUKUN;bLETTER NAA;14;NKO DIGIT ZERO;cONE;cTWO;cTHREE;cFOUR;
    cFIVE;cSIX;cSEVEN;cEIGHT;cNINE;bLETTER A;cEE;cI;cE;cU;cOO;cO;cDAGBASINNA;cN;cBA;cPA;cTA;cJA;
    cCHA;cDA;cRA;cRRA;cSA;cGBA;cFA;cKA;cLA;cNA WOLOSO;cMA;cNYA;cNA;cHA;cWA;cYA;cNYA WOLOSO;
    cJONA JA;dCHA;dRA;bCOMBINING SHORT HIGH TONE;dbLOW;dbRISING;cbLONG DESCENDING;dbHIGH;dbLOW;
    dbRISING;cNASALIZATION MARK;cDOUBLE DOT ABOVE;bHIGH TONE APOSTROPHE;bcLOW;bSYMBOL OO DENNEN;
    cGBAKURUNEN;bCOMMA;bEXCLAMATION MARK;bLAJANYALAN;2;bDANTAYALAN;bDOROME SIGN;bbTAMAN;
    SAMARITAN LETTER ALAF;cBIT;cGAMAN;cDALAT;cIY;cBAA;cZEN;cIT;cTIT;cYUT;cKAAF;cLABAT;cMIM;cNUN;
    cSINGAAT;cIN;cFI;cTSAADIY;cQUF;cRISH;cSHAN;cTAAF;bMARK IN;cIN-ALAF;cOCCLUSION;cDAGESH;
    bMODIFIER LETTER EPENTHETIC YUT;bcMARK;bVOWEL SIGN LONG E;db;dOVERLONG AA;dbLONG;db;
    dOVERLONG A;dbLONG;db;bbMODIFIER LETTER SHORT;bcVOWEL SIGN;dLONG U;db;bMODIFIER LETTER I;
    bbVOWEL SIGN LONG;db;dO;dSUKUN;bMARK NEQUDAA;2;bbPUNCTUATION;cAFSAAQ;cANGED;cBAU;cATMAAU;
    cSHIYYAALAA;bABBREVIATION MARK;bPUNCTUATION MELODIC QITSA;cZIQAA;cQITSA;cZAEF;cTURU;cARKAANU;
    cSOF MASHFAAT;cANNAAU;1;MANDAIC LETTER HALQA;cAB;cAG;cAD;cAH;cUSHENNA;cAZ;cIT;cATT;cAKSA;cAK;
    cAL;cAM;cAN;cAS;cIN;cAP;cASZ;cAQ;cAR;cASH;cAT;cDUSHENNA;cKAD;cAIN;bAFFRICATION MARK;
    bbVOCALIZATION;bbGEMINATION;2;bPUNCTUATION;1;SYRIAC LETTER MALAYALAM NGA;dJA;dNYA;dTTA;dNNA;
    dNNNA;dBHA;dRA;dLLA;dLLLA;dSSA;5;ARABIC LETTER ALEF WITH ATTACHED FATHA;fbTOP RIGHT;
    eRIGHT MIDDLE STROKE;ecLEFT;eATTACHED KASRA;fbBOTTOM RIGHT;fROUND DOT ABOVE;fRIGHT ROUND DOT;
    fcLEFT;fROUND DOT BELOW;eDOT ABOVE;ecATTACHED TOP RIGHT FATHA AND;edRIGHT MIDDLE STROKE;
    edATTACHED BOTTOM RIGHT KASRA;fTOP RIGHT FATHA AND LEFT RING;edRIGHT MIDDLE STROKE;
    edATTACHED BOTTOM RIGHT KASRA;fRIGHT HAMZA;fbLEFT;bbTATWEEL WITH OVERSTRUCK;eWAW;
    dTWO DOTS BELOW;bLETTER THIN YEH;bBASELINE ROUND DOT;bcRAISED;
    bLETTER NOON WITH INVERTED SMALL V;cHAH WITH INVERTED SMALL V BELOW;cbTAH WITH DOT;
    ebTHREE DOTS;cbKEHEH WITH TWO DOTS VERTICALLY;bVERTICAL TAIL;1;bPOUND MARK ABOVE;bcPIASTRE;6;
    bSMALL HIGH WORD AL-JUZ;cLOW WORD ISHMAAM;eIMAALA;eTASHEEL;bMADDA WAAJIB;
    bSUPERSCRIPT ALEF MOKHASSAS;bDOUBLED MADDA;bbHALF MADDA OVER;bLETTER BEH WITH SMALL V BELOW;
    eHAMZA ABOVE;cbJEEM WITH TWO DOTS;ceTAH;ccFEH WITH DOT BELOW AND THREE;cQAF WITH DOT BELOW;
    cLAM WITH DOUBLE BAR;cMEEM WITH THREE DOTS ABOVE;cbYEH WITH TWO DOTS BELOW AND HAMZA;ibDOT;
    cREH WITH LOOP;cWAW WITH DOT WITHIN;cROHINGYA YEH;cLOW ALEF;cDAL WITH THREE DOTS BELOW;ceSAD;
    cGAF WITH INVERTED STROKE;cSTRAIGHT WAW;cZAIN WITH INVERTED V ABOVE;cAIN WITH THREE DOTS BELOW;
    cbKAF WITH DOT;cQAF WITH DOT BELOW AND NO DOTS ABOVE;cbBEH WITH SMALL MEEM;cePEH;
    cbTEH WITH SMALL TEH;cbREH WITH SMALL NOON;cdYEH WITH TWO DOTS BELOW AND;cAFRICAN FEH;dQAF;
    dNOON;cPEH WITH SMALL V;cdTEH;cdTTEH;cdTCHEH;cdKEHEH;cGHAIN WITH THREE DOTS ABOVE;
    ceAFRICAN QAF;ceJEEM;gBELOW;cLAM WITH SMALL ARABIC LETTER TAH ABOVE;cGRAF;bSMALL FARSI YEH;
    ccHIGH;dYEH BARREE WITH TWO DOTS BELOW;dWORD SAH;dZAH;bLARGE ROUND DOT ABOVE;eBELOW;bbSUKUN;
    bbLARGE CIRCLE;ccROUND DOT INSIDE;bSMALL LOW WAW;cHIGH WORD AR-RUB;dSAD;dAIN;dQAF;
    dNOON WITH KASRA;cdLOW;cHIGH WORD ATH-THALATHA;eAS-SAJDA;eAN-NISF;eSAKTA;eQIF;eWAQFA;
    dFOOTNOTE MARKER;dSIGN SAFHA;bDISPUTED END OF AYAH;bTURNED DAMMA BELOW;bCURLY FATHA;cDAMMA;
    cKASRA;cFATHATAN;cDAMMATAN;cKASRATAN;bTONE ONE DOT ABOVE;cbTWO DOTS;cbLOOP;cONE DOT BELOW;
    cbTWO DOTS;cbLOOP;bOPEN FATHATAN;cDAMMATAN;cKASRATAN;bSMALL HIGH WAW;bFATHA WITH RING;
    dDOT ABOVE;bKASRA WITH DOT BELOW;bLEFT ARROWHEAD ABOVE;bcRIGHT;bLEFT ARROWHEAD BELOW;bcRIGHT;
    bDOUBLE RIGHT ARROWHEAD ABOVE;fWITH DOT;bf;bcDAMMA;bMARK SIDEWAYS NOON GHUNNA;
    DEVANAGARI SIGN INVERTED CANDRABINDU;cb;cANUSVARA;cVISARGA;bLETTER SHORT A;cb;cAA;cI;cII;cU;
    cUU;cVOCALIC R;dL;cCANDRA E;cbSHORT;cb;cAI;cCANDRA O;cbSHORT;cb;cAU;cKA;cKHA;cGA;cGHA;cNGA;cCA;
    cCHA;cJA;cJHA;cNYA;cTTA;cTTHA;cDDA;cDDHA;cNNA;cTA;cTHA;cDA;cDHA;cNA;cNNNA;cPA;cPHA;cBA;cBHA;
    cMA;cYA;cRA;cRRA;cLA;cLLA;cLLLA;cVA;cSHA;cSSA;cSA;cHA;bVOWEL SIGN OE;dOOE;bSIGN NUKTA;
    cAVAGRAHA;bVOWEL SIGN AA;dI;dII;dU;dUU;dVOCALIC R;eRR;dCANDRA E;dbSHORT;db;dAI;dCANDRA O;
    dbSHORT;db;dAU;bSIGN VIRAMA;bVOWEL SIGN PRISHTHAMATRA E;dAW;bOM;bSTRESS SIGN UDATTA;dANUDATTA;
    bGRAVE ACCENT;bbACUTE;bVOWEL SIGN CANDRA LONG E;dUE;dUUE;bLETTER QA;cKHHA;cGHHA;cZA;cDDDHA;
    cRHA;cFA;cYYA;cVOCALIC RR;dLL;bVOWEL SIGN VOCALIC L;eLL;bDANDA;bbDOUBLE;bDIGIT ZERO;cONE;cTWO;
    cTHREE;cFOUR;cFIVE;cSIX;cSEVEN;cEIGHT;cNINE;bABBREVIATION SIGN;bSIGN HIGH SPACING DOT;
    bLETTER CANDRA A;cOE;cOOE;cAW;cUE;cUUE;cMARWARI DDA;cZHA;cHEAVY YA;cGGA;cJJA;cGLOTTAL STOP;
    cDDDA;cBBA;BENGALI ANJI;bSIGN CANDRABINDU;cANUSVARA;cVISARGA;1;bLETTER A;cAA;cI;cII;cU;cUU;
    cVOCALIC R;dL;2;cE;cAI;2;cO;cAU;cKA;cKHA;cGA;cGHA;cNGA;cCA;cCHA;cJA;cJHA;cNYA;cTTA;cTTHA;cDDA;
    cDDHA;cNNA;cTA;cTHA;cDA;cDHA;cNA;1;cPA;cPHA;cBA;cBHA;cMA;cYA;cRA;1;cLA;3;cSHA;cSSA;cSA;cHA;2;
    bSIGN NUKTA;cAVAGRAHA;bVOWEL SIGN AA;dI;dII;dU;dUU;dVOCALIC R;eRR;2;dE;dAI;2;dO;dAU;
    bSIGN VIRAMA;bLETTER KHANDA TA;8;bAU LENGTH MARK;4;bLETTER RRA;cRHA;1;cYYA;cVOCALIC RR;dLL;
    bVOWEL SIGN VOCALIC L;eLL;2;bDIGIT ZERO;cONE;cTWO;cTHREE;cFOUR;cFIVE;cSIX;cSEVEN;cEIGHT;cNINE;
    bLETTER RA WITH MIDDLE DIAGONAL;ebLOWER;bRUPEE MARK;cSIGN;bCURRENCY NUMERATOR ONE;dTWO;dTHREE;
    dFOUR;dONE LESS THAN THE DENOMINATOR;cDENOMINATOR SIXTEEN;bISSHAR;bGANDA MARK;
    bLETTER VEDIC ANUSVARA;bABBREVIATION SIGN;bSANDHI MARK;2;GURMUKHI SIGN ADAK BINDI;cb;cVISARGA;
    1;bLETTER A;cAA;cI;cII;cU;cUU;4;cEE;cAI;2;cOO;cAU;cKA;cKHA;cGA;cGHA;cNGA;cCA;cCHA;cJA;cJHA;
    cNYA;cTTA;cTTHA;cDDA;cDDHA;cNNA;cTA;cTHA;cDA;cDHA;cNA;1;cPA;cPHA;cBA;cBHA;cMA;cYA;cRA;1;cLA;
    cLLA;1;cVA;cSHA;1;cSA;cHA;2;bSIGN NUKTA;1;bVOWEL SIGN AA;dI;dII;dU;dUU;4;dEE;dAI;2;dOO;dAU;
    bSIGN VIRAMA;3;cUDAAT;7;bLETTER KHHA;cGHHA;cZA;cRRA;1;cFA;7;bDIGIT ZERO;cONE;cTWO;cTHREE;cFOUR;
    cFIVE;cSIX;cSEVEN;cEIGHT;cNINE;bTIPPI;bADDAK;bIRI;bURA;bEK ONKAR;bSIGN YAKASH;
    bABBREVIATION SIGN;10;GUJARATI SIGN CANDRABINDU;cANUSVARA;cVISARGA;1;bLETTER A;cAA;cI;cII;cU;
    cUU;cVOCALIC R;dL;bVOWEL CANDRA E;1;bbLETTER;cAI;bVOWEL CANDRA O;1;bbLETTER;cAU;cKA;cKHA;cGA;
    cGHA;cNGA;cCA;cCHA;cJA;cJHA;cNYA;cTTA;cTTHA;cDDA;cDDHA;cNNA;cTA;cTHA;cDA;cDHA;cNA;1;cPA;cPHA;
    cBA;cBHA;cMA;cYA;cRA;1;cLA;cLLA;1;cVA;cSHA;cSSA;cSA;cHA;2;bSIGN NUKTA;cAVAGRAHA;bVOWEL SIGN AA;
    dI;dII;dU;dUU;dVOCALIC R;eRR;dCANDRA E;1;db;dAI;dCANDRA O;1;db;dAU;bSIGN VIRAMA;2;bOM;15;
    bLETTER VOCALIC RR;dLL;bVOWEL SIGN VOCALIC L;eLL;2;bDIGIT ZERO;cONE;cTWO;cTHREE;cFOUR;cFIVE;
    cSIX;cSEVEN;cEIGHT;cNINE;bABBREVIATION SIGN;bbRUPEE;7;bLETTER ZHA;bSIGN SUKUN;cSHADDA;cMADDAH;
    cTHREE-DOT NUKTA ABOVE;ccCIRCLE;ccTWO-CIRCLE;1;ORIYA SIGN CANDRABINDU;cANUSVARA;cVISARGA;1;
    bLETTER A;cAA;cI;cII;cU;cUU;cVOCALIC R;dL;2;cE;cAI;2;cO;cAU;cKA;cKHA;cGA;cGHA;cNGA;cCA;cCHA;
    cJA;cJHA;cNYA;cTTA;cTTHA;cDDA;cDDHA;cNNA;cTA;cTHA;cDA;cDHA;cNA;1;cPA;cPHA;cBA;cBHA;cMA;cYA;cRA;
    1;cLA;cLLA;1;cVA;cSHA;cSSA;cSA;cHA;2;bSIGN NUKTA;cAVAGRAHA;bVOWEL SIGN AA;dI;dII;dU;dUU;
    dVOCALIC R;eRR;2;dE;dAI;2;dO;dAU;bSIGN VIRAMA;7;cOVERLINE;bAI LENGTH MARK;bcAU;4;bLETTER RRA;
    cRHA;1;cYYA;cVOCALIC RR;dLL;bVOWEL SIGN VOCALIC L;eLL;2;bDIGIT ZERO;cONE;cTWO;cTHREE;cFOUR;
    cFIVE;cSIX;cSEVEN;cEIGHT;cNINE;bISSHAR;bLETTER WA;bFRACTION ONE QUARTER;dHALF;cTHREE QUARTERS;
    cONE SIXTEENTH;dEIGHTH;cTHREE SIXTEENTHS;10;TAMIL SIGN ANUSVARA;cVISARGA;1;bLETTER A;cAA;cI;
    cII;cU;cUU;3;cE;cEE;cAI;1;cO;cOO;cAU;cKA;3;cNGA;cCA;1;cJA;1;cNYA;cTTA;3;cNNA;cTA;3;cNA;cNNNA;
    cPA;3;cMA;cYA;cRA;cRRA;cLA;cLLA;cLLLA;cVA;cSHA;cSSA;cSA;cHA;4;bVOWEL SIGN AA;dI;dII;dU;dUU;3;
    dE;dEE;dAI;1;dO;dOO;dAU;bSIGN VIRAMA;2;bOM;6;bAU LENGTH MARK;14;bDIGIT ZERO;cONE;cTWO;cTHREE;
    cFOUR;cFIVE;cSIX;cSEVEN;cEIGHT;cNINE;bNUMBER TEN;cONE HUNDRED;dTHOUSAND;bDAY SIGN;bbMONTH;
    bbYEAR;bbDEBIT;bbCREDIT;bbAS ABOVE;bbRUPEE;bbNUMBER;5;TELUGU SIGN COMBINING CANDRABINDU ABOVE;
    cCANDRABINDU;cANUSVARA;cVISARGA;cCOMBINING ANUSVARA ABOVE;bLETTER A;cAA;cI;cII;cU;cUU;
    cVOCALIC R;dL;1;cE;cEE;cAI;1;cO;cOO;cAU;cKA;cKHA;cGA;cGHA;cNGA;cCA;cCHA;cJA;cJHA;cNYA;cTTA;
    cTTHA;cDDA;cDDHA;cNNA;cTA;cTHA;cDA;cDHA;cNA;1;cPA;cPHA;cBA;cBHA;cMA;cYA;cRA;cRRA;cLA;cLLA;
    cLLLA;cVA;cSHA;cSSA;cSA;cHA;2;bSIGN NUKTA;cAVAGRAHA;bVOWEL SIGN AA;dI;dII;dU;dUU;dVOCALIC R;
    eRR;1;dE;dEE;dAI;1;dO;dOO;dAU;bSIGN VIRAMA;7;bLENGTH MARK;bcAI;1;bLETTER TSA;cDZA;cRRRA;2;
    cNAKAARA POLLU;2;cVOCALIC RR;dLL;bVOWEL SIGN VOCALIC L;eLL;2;bDIGIT ZERO;cONE;cTWO;cTHREE;
    cFOUR;cFIVE;cSIX;cSEVEN;cEIGHT;cNINE;7;bSIGN SIDDHAM;
    bFRACTION DIGIT ZERO FOR ODD POWERS OF FOUR;dfONE;dfTWO;dfTHREE;ddONE FOR EVEN;dfTWO;dfTHREE;
    bSIGN TUUMU;KANNADA SIGN SPACING CANDRABINDU;cb;cANUSVARA;cVISARGA;cSIDDHAM;bLETTER A;cAA;cI;
    cII;cU;cUU;cVOCALIC R;dL;1;cE;cEE;cAI;1;cO;cOO;cAU;cKA;cKHA;cGA;cGHA;cNGA;cCA;cCHA;cJA;cJHA;
    cNYA;cTTA;cTTHA;cDDA;cDDHA;cNNA;cTA;cTHA;cDA;cDHA;cNA;1;cPA;cPHA;cBA;cBHA;cMA;cYA;cRA;cRRA;cLA;
    cLLA;1;cVA;cSHA;cSSA;cSA;cHA;2;bSIGN NUKTA;cAVAGRAHA;bVOWEL SIGN AA;dI;dII;dU;dUU;dVOCALIC R;
    eRR;1;dE;dEE;dAI;1;dO;dOO;dAU;bSIGN VIRAMA;7;bLENGTH MARK;bcAI;6;bLETTER NAKAARA POLLU;cFA;1;
    cVOCALIC RR;dLL;bVOWEL SIGN VOCALIC L;eLL;2;bDIGIT ZERO;cONE;cTWO;cTHREE;cFOUR;cFIVE;cSIX;
    cSEVEN;cEIGHT;cNINE;1;bSIGN JIHVAMULIYA;cUPADHMANIYA;13;
    MALAYALAM SIGN COMBINING ANUSVARA ABOVE;cCANDRABINDU;cANUSVARA;cVISARGA;bLETTER VEDIC ANUSVARA;
    cA;cAA;cI;cII;cU;cUU;cVOCALIC R;dL;1;cE;cEE;cAI;1;cO;cOO;cAU;cKA;cKHA;cGA;cGHA;cNGA;cCA;cCHA;
    cJA;cJHA;cNYA;cTTA;cTTHA;cDDA;cDDHA;cNNA;cTA;cTHA;cDA;cDHA;cNA;cNNNA;cPA;cPHA;cBA;cBHA;cMA;cYA;
    cRA;cRRA;cLA;cLLA;cLLLA;cVA;cSHA;cSSA;cSA;cHA;cTTTA;bSIGN VERTICAL BAR VIRAMA;cbCIRCULAR;
    cAVAGRAHA;bVOWEL SIGN AA;dI;dII;dU;dUU;dVOCALIC R;eRR;1;dE;dEE;dAI;1;dO;dOO;dAU;bSIGN VIRAMA;
    bLETTER DOT REPH;bSIGN PARA;4;bLETTER CHILLU M;dY;dLLL;bAU LENGTH MARK;
    bFRACTION ONE ONE-HUNDRED-AND-SIXTIETH;dFORTIETH;cTHREE EIGHTIETHS;cONE TWENTIETH;dTENTH;
    cTHREE TWENTIETHS;cONE FIFTH;bLETTER ARCHAIC II;cVOCALIC RR;dLL;bVOWEL SIGN VOCALIC L;eLL;2;
    bDIGIT ZERO;cONE;cTWO;cTHREE;cFOUR;cFIVE;cSIX;cSEVEN;cEIGHT;cNINE;bNUMBER TEN;cONE HUNDRED;
    dTHOUSAND;bFRACTION ONE QUARTER;dHALF;cTHREE QUARTERS;cONE SIXTEENTH;dEIGHTH;cTHREE SIXTEENTHS;
    bDATE MARK;bLETTER CHILLU NN;dN;dRR;dL;dLL;dK;1;SINHALA SIGN CANDRABINDU;cANUSVARAYA;
    cVISARGAYA;1;bLETTER AYANNA;cAAYANNA;cAEYANNA;cAEEYANNA;cIYANNA;cIIYANNA;cUYANNA;cUUYANNA;
    cIRUYANNA;cIRUUYANNA;cILUYANNA;cILUUYANNA;cEYANNA;cEEYANNA;cAIYANNA;cOYANNA;cOOYANNA;cAUYANNA;
    3;cALPAPRAANA KAYANNA;cbMAHAAPRAANA;cALPAPRAANA GAYANNA;cbMAHAAPRAANA;cKANTAJA NAASIKYAYA;
    cSANYAKA GAYANNA;cALPAPRAANA CAYANNA;cbMAHAAPRAANA;cALPAPRAANA JAYANNA;cbMAHAAPRAANA;
    cTAALUJA NAASIKYAYA;dSANYOOGA NAAKSIKYAYA;cSANYAKA JAYANNA;cALPAPRAANA TTAYANNA;cbMAHAAPRAANA;
    cALPAPRAANA DDAYANNA;cbMAHAAPRAANA;cMUURDHAJA NAYANNA;cSANYAKA DDAYANNA;cALPAPRAANA TAYANNA;
    cbMAHAAPRAANA;cALPAPRAANA DAYANNA;cbMAHAAPRAANA;cDANTAJA NAYANNA;1;cSANYAKA DAYANNA;
    cALPAPRAANA PAYANNA;cbMAHAAPRAANA;cALPAPRAANA BAYANNA;cbMAHAAPRAANA;cMAYANNA;cAMBA BAYANNA;
    cYAYANNA;cRAYANNA;1;cDANTAJA LAYANNA;2;cVAYANNA;cTAALUJA SAYANNA;cbMUURDHAJA;cbDANTAJA;
    cHAYANNA;cMUURDHAJA LAYANNA;cFAYANNA;3;bSIGN AL-LAKUNA;4;bVOWEL SIGN AELA-PILLA;
    dKETTI AEDA-PILLA;dbDIGA;dKETTI IS-PILLA;dbDIGA;dKETTI PAA-PILLA;1;dbDIGA;1;dGAETTA-PILLA;
    dKOMBUVA;dbDIGA;dKOMBU DEKA;dKOMBUVA HAA AELA-PILLA;fbDIGA;fGAYANUKITTA;db;6;bLITH DIGIT ZERO;
    dONE;dTWO;dTHREE;dFOUR;dFIVE;dSIX;dSEVEN;dEIGHT;dNINE;2;bVOWEL SIGN DIGA GAETTA-PILLA;
    eGAYANUKITTA;bPUNCTUATION KUNDDALIYA;12;THAI CHARACTER KO KAI;cKHO KHAI;dKHUAT;dKHWAI;dKHON;
    dRAKHANG;cNGO NGU;cCHO CHAN;dCHING;dCHANG;cSO SO;cCHO CHOE;cYO YING;cDO CHADA;cTO PATAK;
    cTHO THAN;dNANGMONTHO;dPHUTHAO;cNO NEN;cDO DEK;cTO TAO;cTHO THUNG;dTHAHAN;dTHONG;cNO NU;
    cBO BAIMAI;cPO PLA;cPHO PHUNG;cFO FA;cPHO PHAN;cFO FAN;cPHO SAMPHAO;cMO MA;cYO YAK;cRO RUA;cRU;
    cLO LING;cLU;cWO WAEN;cSO SALA;dRUSI;dSUA;cHO HIP;cLO CHULA;cO ANG;cHO NOKHUK;cPAIYANNOI;
    cSARA A;cMAI HAN-AKAT;cSARA AA;dAM;dI;dII;dUE;dUEE;dU;dUU;cPHINTHU;4;bCURRENCY SYMBOL BAHT;
    bCHARACTER SARA E;dAE;dO;dAI MAIMUAN;eMAIMALAI;cLAKKHANGYAO;cMAIYAMOK;cMAITAIKHU;cMAI EK;dTHO;
    dTRI;dCHATTAWA;cTHANTHAKHAT;cNIKHAHIT;cYAMAKKAN;cFONGMAN;bDIGIT ZERO;cONE;cTWO;cTHREE;cFOUR;
    cFIVE;cSIX;cSEVEN;cEIGHT;cNINE;bCHARACTER ANGKHANKHU;cKHOMUT;37;LAO LETTER KO;cKHO SUNG;1;dTAM;
    1;cPALI GHA;cNGO;cCO;cPALI CHA;cSO TAM;1;cPALI JHA;cNYO;cPALI NYA;dTTA;dTTHA;dDDA;dDDHA;dNNA;
    cDO;cTO;cTHO SUNG;dTAM;cPALI DHA;cNO;cBO;cPO;cPHO SUNG;cFO TAM;cbPHO;cFO SUNG;cPALI BHA;cMO;
    cYO;cLO LING;1;dLOOT;1;cWO;cSANSKRIT SHA;dSSA;cSO SUNG;cbHO;cPALI LLA;cO;cHO TAM;bELLIPSIS;
    bVOWEL SIGN A;dMAI KAN;dAA;dAM;dI;dII;dY;dYY;dU;dUU;bSIGN PALI VIRAMA;bVOWEL SIGN MAI KON;
    bSEMIVOWEL SIGN LO;dNYO;2;bVOWEL SIGN E;dEI;dO;dAY;dAI;1;bKO LA;1;bTONE MAI EK;dTHO;dTI;
    dCATAWA;bCANCELLATION MARK;bNIGGAHITA;2;bDIGIT ZERO;cONE;cTWO;cTHREE;cFOUR;cFIVE;cSIX;cSEVEN;
    cEIGHT;cNINE;2;bHO NO;cMO;bLETTER KHMU GO;dNYO;32;TIBETAN SYLLABLE OM;
    bMARK GTER YIG MGO TRUNCATED A;f-UM RNAM BCAD MA;gbGTER TSHEG;cbINITIAL YIG MGO MDUN;
    cbCLOSING YIG MGO SGAB;cbCARET YIG MGO PHUR SHAD;ccYIG MGO TSHEG;cSBRUL SHAD;cBSKUR YIG MGO;
    ccBKA- SHOG;cINTERSYLLABIC TSHEG;cDELIMITER TSHEG BSTAR;cSHAD;cbNYIS;cbTSHEG;ccNYIS;
    cbRIN CHEN SPUNGS;cbRGYA GRAM;cCARET -DZUD RTAGS ME LONG CAN;cGTER TSHEG;
    bLOGOTYPE SIGN CHAD RTAGS;dbLHAG;bbASTROLOGICAL SIGN SGRA GCAN -CHAR;d-KHYUD PA;dSDONG TSHUGS;
    bSIGN RDEL DKAR GCIG;eGNYIS;eGSUM;dNAG GCIG;eGNYIS;dDKAR RDEL NAG;bDIGIT ZERO;cONE;cTWO;cTHREE;
    cFOUR;cFIVE;cSIX;cSEVEN;cEIGHT;cNINE;cHALF ONE;dTWO;dTHREE;dFOUR;dFIVE;dSIX;dSEVEN;dEIGHT;
    dNINE;dZERO;bMARK BSDUS RTAGS;cNGAS BZUNG NYI ZLA;cCARET -DZUD RTAGS BZHI MIG CAN;
    cNGAS BZUNG SGOR RTAGS;cCHE MGO;cTSA -PHRU;cGUG RTAGS GYON;eGYAS;cANG KHANG GYON;eGYAS;
    bSIGN YAR TSHES;cbMAR;bLETTER KA;cKHA;cGA;cGHA;cNGA;cCA;cCHA;cJA;1;cNYA;cTTA;cTTHA;cDDA;cDDHA;
    cNNA;cTA;cTHA;cDA;cDHA;cNA;cPA;cPHA;cBA;cBHA;cMA;cTSA;cTSHA;cDZA;cDZHA;cWA;cZHA;cZA;c-A;cYA;
    cRA;cLA;cSHA;cSSA;cSA;cHA;cA;cKSSA;cFIXED-FORM RA;cKKA;cRRA;4;bVOWEL SIGN AA;dI;dII;dU;dUU;
    dVOCALIC R;eRR;eL;eLL;dE;dEE;dO;dOO;bSIGN RJES SU NGA RO;cRNAM BCAD;bVOWEL SIGN REVERSED I;eII;
    bSIGN NYI ZLA NAA DA;cSNA LDAN;bMARK HALANTA;cPALUTA;bSIGN LCI RTAGS;cbYANG;cLCE TSA CAN;
    cbMCHU;cGRU CAN RGYINGS;dbMED;cINVERTED MCHU CAN;bbSUBJOINED SIGN LCE TSA;dbMCHU;dcINVERTED;
    cLETTER KA;dKHA;dGA;dGHA;dNGA;dCA;dCHA;dJA;1;dNYA;dTTA;dTTHA;dDDA;dDDHA;dNNA;dTA;dTHA;dDA;dDHA;
    dNA;dPA;dPHA;dBA;dBHA;dMA;dTSA;dTSHA;dDZA;dDZHA;dWA;dZHA;dZA;d-A;dYA;dRA;dLA;dSHA;dSSA;dSA;dHA;
    dA;dKSSA;dFIXED-FORM WA;eYA;eRA;1;bKU RU KHA;eBZHI MIG CAN;bCANTILLATION SIGN HEAVY BEAT;
    dbLIGHT;dCANG TE-U;dSBUB -CHAL;bSYMBOL DRIL BU;cRDO RJE;cPADMA GDAN;cRDO RJE RGYA GRAM;
    cPHUR PA;cNOR BU;eNYIS -KHYIL;ebGSUM;ebBZHI;1;bSIGN RDEL NAG RDEL DKAR;eGSUM;
    bMARK BSKA- SHOG GI MGO RGYAN;cdMNYAM YIG;cNYIS TSHEG;cINITIAL BRDA RNYING YIG MGO MDUN MA;
    cbCLOSING BRDA RNYING YIG MGO SGAB;RIGHT-FACING SVASTI SIGN;acLEFT-FACING;
    RIGHT-FACING SVASTI SIGN WITH DOTS;aeLEFT-FACING;TIBETAN MARK LEADING MCHAN RTAGS;ccTRAILING;
    37;MYANMAR LETTER KA;cKHA;cGA;cGHA;cNGA;cCA;cCHA;cJA;cJHA;cNYA;cNNYA;cTTA;cTTHA;cDDA;cDDHA;
    cNNA;cTA;cTHA;cDA;cDHA;cNA;cPA;cPHA;cBA;cBHA;cMA;cYA;cRA;cLA;cWA;cSA;cHA;cLLA;cA;cbSHAN;cI;cII;
    cU;cUU;cE;cbMON;cO;cAU;bVOWEL SIGN TALL AA;db;dI;dII;dU;dUU;dE;dAI;dMON II;eO;dE ABOVE;
    bSIGN ANUSVARA;cDOT BELOW;cVISARGA;cVIRAMA;cASAT;bCONSONANT SIGN MEDIAL YA;eRA;eWA;eHA;
    bLETTER GREAT SA;bDIGIT ZERO;cONE;cTWO;cTHREE;cFOUR;cFIVE;cSIX;cSEVEN;cEIGHT;cNINE;
    bSIGN LITTLE SECTION;cb;bSYMBOL LOCATIVE;cCOMPLETED;cAFOREMENTIONED;cGENITIVE;bLETTER SHA;cSSA;
    cVOCALIC R;dRR;dL;dLL;bVOWEL SIGN VOCALIC R;eRR;eL;eLL;bLETTER MON NGA;dJHA;dBBA;dBBE;
    bCONSONANT SIGN MON MEDIAL NA;fMA;fLA;bLETTER SGAW KAREN SHA;bVOWEL SIGN SGAW KAREN EU;
    bTONE MARK SGAW KAREN HATHI;fKE PHO;bLETTER WESTERN PWO KAREN THA;fPWA;
    bVOWEL SIGN WESTERN PWO KAREN EU;gUE;bSIGN WESTERN PWO KAREN TONE-1;fTONE-2;fTONE-3;fTONE-4;
    fTONE-5;bLETTER EASTERN PWO KAREN NNA;fYWA;fGHWA;bVOWEL SIGN GEBA KAREN I;dKAYAH OE;eU;eEE;
    bLETTER SHAN KA;dKHA;dGA;dCA;dZA;dNYA;dDA;dNA;dPHA;dFA;dBA;dTHA;dHA;
    bCONSONANT SIGN SHAN MEDIAL WA;bVOWEL SIGN SHAN AA;eE;fABOVE;eFINAL Y;bSIGN SHAN TONE-2;
    dTONE-3;dTONE-5;dTONE-6;dCOUNCIL TONE-2;eTONE-3;eEMPHATIC TONE;bLETTER RUMAI PALAUNG FA;
    bSIGN RUMAI PALAUNG TONE-5;bSHAN DIGIT ZERO;dONE;dTWO;dTHREE;dFOUR;dFIVE;dSIX;dSEVEN;dEIGHT;
    dNINE;bSIGN KHAMTI TONE-1;dTONE-3;bVOWEL SIGN AITON A;eAI;bSYMBOL SHAN ONE;dEXCLAMATION;
    GEORGIAN CAPITAL LETTER AN;dBAN;dGAN;dDON;dEN;dVIN;dZEN;dTAN;dIN;dKAN;dLAS;dMAN;dNAR;dON;dPAR;
    dZHAR;dRAE;dSAN;dTAR;dUN;dPHAR;dKHAR;dGHAN;dQAR;dSHIN;dCHIN;dCAN;dJIL;dCIL;dCHAR;dXAN;dJHAN;
    dHAE;dHE;dHIE;dWE;dHAR;dHOE;1;dYN;5;dAEN;2;bLETTER AN;cBAN;cGAN;cDON;cEN;cVIN;cZEN;cTAN;cIN;
    cKAN;cLAS;cMAN;cNAR;cON;cPAR;cZHAR;cRAE;cSAN;cTAR;cUN;cPHAR;cKHAR;cGHAN;cQAR;cSHIN;cCHIN;cCAN;
    cJIL;cCIL;cCHAR;cXAN;cJHAN;cHAE;cHE;cHIE;cWE;cHAR;cHOE;cFI;cYN;cELIFI;cTURNED GAN;cAIN;
    bPARAGRAPH SEPARATOR;MODIFIER LETTER GEORGIAN NAR;GEORGIAN LETTER AEN;cHARD SIGN;cbLABIAL;
    HANGUL CHOSEONG KIYEOK;cSSANGKIYEOK;cNIEUN;cTIKEUT;cSSANGTIKEUT;cRIEUL;cMIEUM;cPIEUP;
    cSSANGPIEUP;cSIOS;cSSANGSIOS;cIEUNG;cCIEUC;cSSANGCIEUC;cCHIEUCH;cKHIEUKH;cTHIEUTH;cPHIEUPH;
    cHIEUH;cNIEUN-KIYEOK;cSSANGNIEUN;cNIEUN-TIKEUT;cNIEUN-PIEUP;cTIKEUT-KIYEOK;cRIEUL-NIEUN;
    cSSANGRIEUL;cRIEUL-HIEUH;cKAPYEOUNRIEUL;cMIEUM-PIEUP;cKAPYEOUNMIEUM;cPIEUP-KIYEOK;cPIEUP-NIEUN;
    cPIEUP-TIKEUT;cPIEUP-SIOS;cPIEUP-SIOS-KIYEOK;cPIEUP-SIOS-TIKEUT;cPIEUP-SIOS-PIEUP;
    cPIEUP-SSANGSIOS;cPIEUP-SIOS-CIEUC;cPIEUP-CIEUC;cPIEUP-CHIEUCH;cPIEUP-THIEUTH;cPIEUP-PHIEUPH;
    cKAPYEOUNPIEUP;cKAPYEOUNSSANGPIEUP;cSIOS-KIYEOK;cSIOS-NIEUN;cSIOS-TIKEUT;cSIOS-RIEUL;
    cSIOS-MIEUM;cSIOS-PIEUP;cSIOS-PIEUP-KIYEOK;cSIOS-SSANGSIOS;cSIOS-IEUNG;cSIOS-CIEUC;
    cSIOS-CHIEUCH;cSIOS-KHIEUKH;cSIOS-THIEUTH;cSIOS-PHIEUPH;cSIOS-HIEUH;cCHITUEUMSIOS;
    cCHITUEUMSSANGSIOS;cCEONGCHIEUMSIOS;cCEONGCHIEUMSSANGSIOS;cPANSIOS;cIEUNG-KIYEOK;cIEUNG-TIKEUT;
    cIEUNG-MIEUM;cIEUNG-PIEUP;cIEUNG-SIOS;cIEUNG-PANSIOS;cSSANGIEUNG;cIEUNG-CIEUC;cIEUNG-CHIEUCH;
    cIEUNG-THIEUTH;cIEUNG-PHIEUPH;cYESIEUNG;cCIEUC-IEUNG;cCHITUEUMCIEUC;cCHITUEUMSSANGCIEUC;
    cCEONGCHIEUMCIEUC;cCEONGCHIEUMSSANGCIEUC;cCHIEUCH-KHIEUKH;cCHIEUCH-HIEUH;cCHITUEUMCHIEUCH;
    cCEONGCHIEUMCHIEUCH;cPHIEUPH-PIEUP;cKAPYEOUNPHIEUPH;cSSANGHIEUH;cYEORINHIEUH;cKIYEOK-TIKEUT;
    cNIEUN-SIOS;cNIEUN-CIEUC;cNIEUN-HIEUH;cTIKEUT-RIEUL;cFILLER;bbJUNGSEONG;cA;cAE;cYA;cYAE;cEO;cE;
    cYEO;cYE;cO;cWA;cWAE;cOE;cYO;cU;cWEO;cWE;cWI;cYU;cEU;cYI;cI;cA-O;cA-U;cYA-O;cYA-YO;cEO-O;cEO-U;
    cEO-EU;cYEO-O;cYEO-U;cO-EO;cO-E;cO-YE;cO-O;cO-U;cYO-YA;cYO-YAE;cYO-YEO;cYO-O;cYO-I;cU-A;cU-AE;
    cU-EO-EU;cU-YE;cU-U;cYU-A;cYU-EO;cYU-E;cYU-YEO;cYU-YE;cYU-U;cYU-I;cEU-U;cEU-EU;cYI-U;cI-A;
    cI-YA;cI-O;cI-U;cI-EU;cI-ARAEA;cARAEA;cARAEA-EO;cARAEA-U;cARAEA-I;cSSANGARAEA;cA-EU;cYA-U;
    cYEO-YA;cO-YA;cO-YAE;bJONGSEONG KIYEOK;cSSANGKIYEOK;cKIYEOK-SIOS;cNIEUN;cNIEUN-CIEUC;
    cNIEUN-HIEUH;cTIKEUT;cRIEUL;cRIEUL-KIYEOK;cRIEUL-MIEUM;cRIEUL-PIEUP;cRIEUL-SIOS;cRIEUL-THIEUTH;
    cRIEUL-PHIEUPH;cRIEUL-HIEUH;cMIEUM;cPIEUP;cPIEUP-SIOS;cSIOS;cSSANGSIOS;cIEUNG;cCIEUC;cCHIEUCH;
    cKHIEUKH;cTHIEUTH;cPHIEUPH;cHIEUH;cKIYEOK-RIEUL;cKIYEOK-SIOS-KIYEOK;cNIEUN-KIYEOK;
    cNIEUN-TIKEUT;cNIEUN-SIOS;cNIEUN-PANSIOS;cNIEUN-THIEUTH;cTIKEUT-KIYEOK;cTIKEUT-RIEUL;
    cRIEUL-KIYEOK-SIOS;cRIEUL-NIEUN;cRIEUL-TIKEUT;cRIEUL-TIKEUT-HIEUH;cSSANGRIEUL;
    cRIEUL-MIEUM-KIYEOK;cRIEUL-MIEUM-SIOS;cRIEUL-PIEUP-SIOS;cRIEUL-PIEUP-HIEUH;
    cRIEUL-KAPYEOUNPIEUP;cRIEUL-SSANGSIOS;cRIEUL-PANSIOS;cRIEUL-KHIEUKH;cRIEUL-YEORINHIEUH;
    cMIEUM-KIYEOK;cMIEUM-RIEUL;cMIEUM-PIEUP;cMIEUM-SIOS;cMIEUM-SSANGSIOS;cMIEUM-PANSIOS;
    cMIEUM-CHIEUCH;cMIEUM-HIEUH;cKAPYEOUNMIEUM;cPIEUP-RIEUL;cPIEUP-PHIEUPH;cPIEUP-HIEUH;
    cKAPYEOUNPIEUP;cSIOS-KIYEOK;cSIOS-TIKEUT;cSIOS-RIEUL;cSIOS-PIEUP;cPANSIOS;cIEUNG-KIYEOK;
    cIEUNG-SSANGKIYEOK;cSSANGIEUNG;cIEUNG-KHIEUKH;cYESIEUNG;cYESIEUNG-SIOS;cYESIEUNG-PANSIOS;
    cPHIEUPH-PIEUP;cKAPYEOUNPHIEUPH;cHIEUH-NIEUN;cHIEUH-RIEUL;cHIEUH-MIEUM;cHIEUH-PIEUP;
    cYEORINHIEUH;cKIYEOK-NIEUN;cKIYEOK-PIEUP;cKIYEOK-CHIEUCH;cKIYEOK-KHIEUKH;cKIYEOK-HIEUH;
    cSSANGNIEUN;ETHIOPIC SYLLABLE HA;cHU;cHI;cHAA;cHEE;cHE;cHO;cHOA;cLA;cLU;cLI;cLAA;cLEE;cLE;cLO;
    cLWA;cHHA;cHHU;cHHI;cHHAA;cHHEE;cHHE;cHHO;cHHWA;cMA;cMU;cMI;cMAA;cMEE;cME;cMO;cMWA;cSZA;cSZU;
    cSZI;cSZAA;cSZEE;cSZE;cSZO;cSZWA;cRA;cRU;cRI;cRAA;cREE;cRE;cRO;cRWA;cSA;cSU;cSI;cSAA;cSEE;cSE;
    cSO;cSWA;cSHA;cSHU;cSHI;cSHAA;cSHEE;cSHE;cSHO;cSHWA;cQA;cQU;cQI;cQAA;cQEE;cQE;cQO;cQOA;cQWA;1;
    cQWI;cQWAA;cQWEE;cQWE;2;cQHA;cQHU;cQHI;cQHAA;cQHEE;cQHE;cQHO;1;cQHWA;1;cQHWI;cQHWAA;cQHWEE;
    cQHWE;2;cBA;cBU;cBI;cBAA;cBEE;cBE;cBO;cBWA;cVA;cVU;cVI;cVAA;cVEE;cVE;cVO;cVWA;cTA;cTU;cTI;cTAA;
    cTEE;cTE;cTO;cTWA;cCA;cCU;cCI;cCAA;cCEE;cCE;cCO;cCWA;cXA;cXU;cXI;cXAA;cXEE;cXE;cXO;cXOA;cXWA;1;
    cXWI;cXWAA;cXWEE;cXWE;2;cNA;cNU;cNI;cNAA;cNEE;cNE;cNO;cNWA;cNYA;cNYU;cNYI;cNYAA;cNYEE;cNYE;
    cNYO;cNYWA;cGLOTTAL A;dU;dI;dAA;dEE;dE;dO;dWA;cKA;cKU;cKI;cKAA;cKEE;cKE;cKO;cKOA;cKWA;1;cKWI;
    cKWAA;cKWEE;cKWE;2;cKXA;cKXU;cKXI;cKXAA;cKXEE;cKXE;cKXO;1;cKXWA;1;cKXWI;cKXWAA;cKXWEE;cKXWE;2;
    cWA;cWU;cWI;cWAA;cWEE;cWE;cWO;cWOA;cPHARYNGEAL A;dU;dI;dAA;dEE;dE;dO;1;cZA;cZU;cZI;cZAA;cZEE;
    cZE;cZO;cZWA;cZHA;cZHU;cZHI;cZHAA;cZHEE;cZHE;cZHO;cZHWA;cYA;cYU;cYI;cYAA;cYEE;cYE;cYO;cYOA;cDA;
    cDU;cDI;cDAA;cDEE;cDE;cDO;cDWA;cDDA;cDDU;cDDI;cDDAA;cDDEE;cDDE;cDDO;cDDWA;cJA;cJU;cJI;cJAA;
    cJEE;cJE;cJO;cJWA;cGA;cGU;cGI;cGAA;cGEE;cGE;cGO;cGOA;cGWA;1;cGWI;cGWAA;cGWEE;cGWE;2;cGGA;cGGU;
    cGGI;cGGAA;cGGEE;cGGE;cGGO;cGGWAA;cTHA;cTHU;cTHI;cTHAA;cTHEE;cTHE;cTHO;cTHWA;cCHA;cCHU;cCHI;
    cCHAA;cCHEE;cCHE;cCHO;cCHWA;cPHA;cPHU;cPHI;cPHAA;cPHEE;cPHE;cPHO;cPHWA;cTSA;cTSU;cTSI;cTSAA;
    cTSEE;cTSE;cTSO;cTSWA;cTZA;cTZU;cTZI;cTZAA;cTZEE;cTZE;cTZO;cTZOA;cFA;cFU;cFI;cFAA;cFEE;cFE;cFO;
    cFWA;cPA;cPU;cPI;cPAA;cPEE;cPE;cPO;cPWA;cRYA;cMYA;cFYA;2;
    bCOMBINING GEMINATION AND VOWEL LENGTH MARK;cd;cbGEMINATION;bbSECTION;bWORDSPACE;bFULL STOP;
    bCOMMA;bSEMICOLON;bCOLON;bbPREFACE;bQUESTION MARK;bPARAGRAPH SEPARATOR;bDIGIT ONE;cTWO;cTHREE;
    cFOUR;cFIVE;cSIX;cSEVEN;cEIGHT;cNINE;bNUMBER TEN;cTWENTY;cTHIRTY;cFORTY;cFIFTY;cSIXTY;cSEVENTY;
    cEIGHTY;cNINETY;cHUNDRED;cTEN THOUSAND;3;bSYLLABLE SEBATBEIT MWA;cMWI;cMWEE;cMWE;
    cSEBATBEIT BWA;cBWI;cBWEE;cBWE;cSEBATBEIT FWA;cFWI;cFWEE;cFWE;cSEBATBEIT PWA;cPWI;cPWEE;cPWE;
    bTONAL MARK YIZET;dDERET;dRIKRIK;dbSHORT;dDIFAT;dKENAT;dCHIRET;dHIDET;dDERET-HIDET;dKURT;6;
    CHEROKEE LETTER A;cE;cI;cO;cU;cV;cGA;cKA;cGE;cGI;cGO;cGU;cGV;cHA;cHE;cHI;cHO;cHU;cHV;cLA;cLE;
    cLI;cLO;cLU;cLV;cMA;cME;cMI;cMO;cMU;cNA;cHNA;cNAH;cNE;cNI;cNO;cNU;cNV;cQUA;cQUE;cQUI;cQUO;cQUU;
    cQUV;cSA;cS;cSE;cSI;cSO;cSU;cSV;cDA;cTA;cDE;cTE;cDI;cTI;cDO;cDU;cDV;cDLA;cTLA;cTLE;cTLI;cTLO;
    cTLU;cTLV;cTSA;cTSE;cTSI;cTSO;cTSU;cTSV;cWA;cWE;cWI;cWO;cWU;cWV;cYA;cYE;cYI;cYO;cYU;cYV;cMV;2;
    bSMALL LETTER YE;dYI;dYO;dYU;dYV;dMV;2;CANADIAN SYLLABICS HYPHEN;cE;cAAI;cI;cII;cO;cOO;
    cbY-CREE;cCARRIER EE;dI;cA;cAA;cWE;cbWEST-CREE;cWI;cbWEST-CREE;cWII;cbWEST-CREE;cWO;
    cbWEST-CREE;cWOO;cbWEST-CREE;cbNASKAPI;cWA;cbWEST-CREE;cWAA;cbWEST-CREE;cbNASKAPI;cAI;
    cY-CREE W;cGLOTTAL STOP;cFINAL ACUTE;dGRAVE;dBOTTOM HALF RING;dcTOP;dcRIGHT;db;dDOUBLE ACUTE;
    eSHORT VERTICAL STROKES;dMIDDLE DOT;dSHORT HORIZONTAL STROKE;dPLUS;dDOWN TACK;cEN;cIN;cON;cAN;
    cPE;cPAAI;cPI;cPII;cPO;cPOO;cbY-CREE;cCARRIER HEE;dHI;cPA;cPAA;cPWE;cbWEST-CREE;cPWI;
    cbWEST-CREE;cPWII;cbWEST-CREE;cPWO;cbWEST-CREE;cPWOO;cbWEST-CREE;cPWA;cbWEST-CREE;cPWAA;
    cbWEST-CREE;cbY-CREE;cP;cbWEST-CREE;cCARRIER H;cTE;cTAAI;cTI;cTII;cTO;cTOO;cbY-CREE;
    cCARRIER DEE;dDI;cTA;cTAA;cTWE;cbWEST-CREE;cTWI;cbWEST-CREE;cTWII;cbWEST-CREE;cTWO;cbWEST-CREE;
    cTWOO;cbWEST-CREE;cTWA;cbWEST-CREE;cTWAA;cbWEST-CREE;cbNASKAPI;cT;cTTE;cTTI;cTTO;cTTA;cKE;
    cKAAI;cKI;cKII;cKO;cKOO;cbY-CREE;cKA;cKAA;cKWE;cbWEST-CREE;cKWI;cbWEST-CREE;cKWII;cbWEST-CREE;
    cKWO;cbWEST-CREE;cKWOO;cbWEST-CREE;cKWA;cbWEST-CREE;cKWAA;cbWEST-CREE;cbNASKAPI;cK;cKW;
    cSOUTH-SLAVEY KEH;dKIH;dKOH;dKAH;cCE;cCAAI;cCI;cCII;cCO;cCOO;cbY-CREE;cCA;cCAA;cCWE;
    cbWEST-CREE;cCWI;cbWEST-CREE;cCWII;cbWEST-CREE;cCWO;cbWEST-CREE;cCWOO;cbWEST-CREE;cCWA;
    cbWEST-CREE;cCWAA;cbWEST-CREE;cbNASKAPI;cC;cSAYISI TH;cME;cMAAI;cMI;cMII;cMO;cMOO;cbY-CREE;cMA;
    cMAA;cMWE;cbWEST-CREE;cMWI;cbWEST-CREE;cMWII;cbWEST-CREE;cMWO;cbWEST-CREE;cMWOO;cbWEST-CREE;
    cMWA;cbWEST-CREE;cMWAA;cbWEST-CREE;cbNASKAPI;cM;cbWEST-CREE;cMH;cATHAPASCAN M;cbSAYISI;cNE;
    cNAAI;cNI;cNII;cNO;cNOO;cbY-CREE;cNA;cNAA;cNWE;cbWEST-CREE;cNWA;cbWEST-CREE;cNWAA;cbWEST-CREE;
    cbNASKAPI;cN;cCARRIER NG;cNH;cLE;cLAAI;cLI;cLII;cLO;cLOO;cbY-CREE;cLA;cLAA;cLWE;cbWEST-CREE;
    cLWI;cbWEST-CREE;cLWII;cbWEST-CREE;cLWO;cbWEST-CREE;cLWOO;cbWEST-CREE;cLWA;cbWEST-CREE;cLWAA;
    cbWEST-CREE;cL;cbWEST-CREE;cbMEDIAL;cSE;cSAAI;cSI;cSII;cSO;cSOO;cbY-CREE;cSA;cSAA;cSWE;
    cbWEST-CREE;cSWI;cbWEST-CREE;cSWII;cbWEST-CREE;cSWO;cbWEST-CREE;cSWOO;cbWEST-CREE;cSWA;
    cbWEST-CREE;cSWAA;cbWEST-CREE;cbNASKAPI;cS;cbATHAPASCAN;cSW;cBLACKFOOT S;cMOOSE-CREE SK;
    cNASKAPI SKW;dS-W;dSPWA;dSTWA;dSKWA;dSCWA;cSHE;cSHI;cSHII;cSHO;cSHOO;cSHA;cSHAA;cSHWE;
    cbWEST-CREE;cSHWI;cbWEST-CREE;cSHWII;cbWEST-CREE;cSHWO;cbWEST-CREE;cSHWOO;cbWEST-CREE;cSHWA;
    cbWEST-CREE;cSHWAA;cbWEST-CREE;cSH;cYE;cYAAI;cYI;cYII;cYO;cYOO;cbY-CREE;cYA;cYAA;cYWE;
    cbWEST-CREE;cYWI;cbWEST-CREE;cYWII;cbWEST-CREE;cYWO;cbWEST-CREE;cYWOO;cbWEST-CREE;cYWA;
    cbWEST-CREE;cYWAA;cbWEST-CREE;cbNASKAPI;cY;cbBIBLE-CREE;cbWEST-CREE;cSAYISI YI;cRE;cbR-CREE;
    cWEST-CREE LE;cRAAI;cRI;cRII;cRO;cROO;cWEST-CREE LO;cRA;cRAA;cWEST-CREE LA;cRWAA;cbWEST-CREE;
    cR;cbWEST-CREE;cbMEDIAL;cFE;cFAAI;cFI;cFII;cFO;cFOO;cFA;cFAA;cFWAA;cbWEST-CREE;cF;cTHE;
    cbN-CREE;cTHI;cbN-CREE;cTHII;cbN-CREE;cTHO;cTHOO;cTHA;cTHAA;cTHWAA;cbWEST-CREE;cTH;cTTHE;cTTHI;
    cTTHO;cTTHA;cTTH;cTYE;cTYI;cTYO;cTYA;cNUNAVIK HE;dHI;dHII;dHO;dHOO;dHA;dHAA;dH;cbNUNAVUT;cHK;
    cQAAI;cQI;cQII;cQO;cQOO;cQA;cQAA;cQ;cTLHE;cTLHI;cTLHO;cTLHA;cWEST-CREE RE;dRI;dRO;dRA;cNGAAI;
    cNGI;cNGII;cNGO;cNGOO;cNGA;cNGAA;cNG;cNNG;cSAYISI SHE;dSHI;dSHO;dSHA;cWOODS-CREE THE;dTHI;dTHO;
    dTHA;dTH;cLHI;cLHII;cLHO;cLHOO;cLHA;cLHAA;cLH;cTH-CREE THE;dTHI;dTHII;dTHO;dTHOO;dTHA;dTHAA;
    dTH;cAIVILIK B;cBLACKFOOT E;dI;dO;dA;dWE;dWI;dWO;dWA;dNE;dNI;dNO;dNA;dKE;dKI;dKO;dKA;
    cSAYISI HE;dHI;dHO;dHA;cCARRIER GHU;dGHO;dGHE;dGHEE;dGHI;dGHA;dRU;dRO;dRE;dREE;dRI;dRA;dWU;dWO;
    dWE;dWEE;dWI;dWA;dHWU;dHWO;dHWE;dHWEE;dHWI;dHWA;dTHU;dTHO;dTHE;dTHEE;dTHI;dTHA;dTTU;dTTO;dTTE;
    dTTEE;dTTI;dTTA;dPU;dPO;dPE;dPEE;dPI;dPA;dP;dGU;dGO;dGE;dGEE;dGI;dGA;dKHU;dKHO;dKHE;dKHEE;dKHI;
    dKHA;dKKU;dKKO;dKKE;dKKEE;dKKI;dKKA;dKK;dNU;dNO;dNE;dNEE;dNI;dNA;dMU;dMO;dME;dMEE;dMI;dMA;dYU;
    dYO;dYE;dYEE;dYI;dYA;dJU;cbSAYISI;cCARRIER JO;dJE;dJEE;dJI;cbSAYISI;cCARRIER JA;dJJU;dJJO;dJJE;
    dJJEE;dJJI;dJJA;dLU;dLO;dLE;dLEE;dLI;dLA;dDLU;dDLO;dDLE;dDLEE;dDLI;dDLA;dLHU;dLHO;dLHE;dLHEE;
    dLHI;dLHA;dTLHU;dTLHO;dTLHE;dTLHEE;dTLHI;dTLHA;dTLU;dTLO;dTLE;dTLEE;dTLI;dTLA;dZU;dZO;dZE;dZEE;
    dZI;dZA;dZ;dbINITIAL;dDZU;dDZO;dDZE;dDZEE;dDZI;dDZA;dSU;dSO;dSE;dSEE;dSI;dSA;dSHU;dSHO;dSHE;
    dSHEE;dSHI;dSHA;dSH;dTSU;dTSO;dTSE;dTSEE;dTSI;dTSA;dCHU;dCHO;dCHE;dCHEE;dCHI;dCHA;dTTSU;dTTSO;
    dTTSE;dTTSEE;dTTSI;dTTSA;cCHI SIGN;cFULL STOP;cQAI;cNGAI;cNNGI;cNNGII;cNNGO;cNNGOO;cNNGA;
    cNNGAA;cWOODS-CREE THWEE;dTHWI;dTHWII;dTHWO;dTHWOO;dTHWA;dTHWAA;dFINAL TH;cBLACKFOOT W;
    OGHAM SPACE MARK;bLETTER BEITH;cLUIS;cFEARN;cSAIL;cNION;cUATH;cDAIR;cTINNE;cCOLL;cCEIRT;cMUIN;
    cGORT;cNGEADAL;cSTRAIF;cRUIS;cAILM;cONN;cUR;cEADHADH;cIODHADH;cEABHADH;cOR;cUILLEANN;cIFIN;
    cEAMHANCHOLL;cPEITH;bFEATHER MARK;bcREVERSED;3;RUNIC LETTER FEHU FEOH FE F;cV;cURUZ UR U;cYR;
    cY;cW;cTHURISAZ THURS THORN;cETH;cANSUZ A;cOS O;cAC A;cAESC;cLONG-BRANCH-OSS O;
    cbSHORT-TWIG-OSS;cb;cOE;cON;cRAIDO RAD REID R;cKAUNA;cCEN;cKAUN K;cG;cENG;cGEBO GYFU G;cGAR;
    cWUNJO WYNN W;cHAGLAZ H;cbHAEGL;cbLONG-BRANCH-HAGALL;cbSHORT-TWIG-HAGALL;cNAUDIZ NYD NAUD N;
    cbSHORT-TWIG-NAUD;cDOTTED-N;cISAZ IS ISS I;cE;cJERAN J;cGER;cLONG-BRANCH-AR AE;
    cSHORT-TWIG-AR A;cIWAZ EOH;cPERTHO PEORTH P;cALGIZ EOLHX;cSOWILO S;cbSIGEL LONG-BRANCH-SOL;
    cbSHORT-TWIG-SOL;cC;cZ;cTIWAZ TIR TYR T;cbSHORT-TWIG-TYR;cD;cBERKANAN BEORC BJARKAN B;
    cbSHORT-TWIG-BJARKAN;cDOTTED-P;cOPEN-P;cEHWAZ EH E;cMANNAZ MAN M;cbLONG-BRANCH-MADR;
    cbSHORT-TWIG-MADR;cLAUKAZ LAGU LOGR L;cDOTTED-L;cINGWAZ;cING;cDAGAZ DAEG D;cOTHALAN ETHEL O;
    cEAR;cIOR;cCWEORTH;cCALC;cCEALC;cSTAN;cLONG-BRANCH-YR;cSHORT-TWIG-YR;cICELANDIC-YR;cQ;cX;
    bSINGLE PUNCTUATION;bbMULTIPLE;bbCROSS;bARLAUG SYMBOL;bbTVIMADUR;bbBELGTHOR;bLETTER K;cSH;cOO;
    cFRANKS CASKET OS;eIS;eEH;eAC;eAESC;7;TAGALOG LETTER A;cI;cU;cKA;cGA;cNGA;cTA;cDA;cNA;cPA;cBA;
    cMA;cYA;cRA;cLA;cWA;cSA;cHA;bVOWEL SIGN I;dU;bSIGN VIRAMA;cPAMUDPOD;9;bLETTER ARCHAIC RA;
    HANUNOO LETTER A;cI;cU;cKA;cGA;cNGA;cTA;cDA;cNA;cPA;cBA;cMA;cYA;cRA;cLA;cWA;cSA;cHA;
    bVOWEL SIGN I;dU;bSIGN PAMUDPOD;PHILIPPINE SINGLE PUNCTUATION;bbDOUBLE;9;BUHID LETTER A;cI;cU;
    cKA;cGA;cNGA;cTA;cDA;cNA;cPA;cBA;cMA;cYA;cRA;cLA;cWA;cSA;cHA;bVOWEL SIGN I;dU;12;
    TAGBANWA LETTER A;cI;cU;cKA;cGA;cNGA;cTA;cDA;cNA;cPA;cBA;cMA;cYA;1;cLA;cWA;cSA;1;bVOWEL SIGN I;
    dU;12;KHMER LETTER KA;cKHA;cKO;cKHO;cNGO;cCA;cCHA;cCO;cCHO;cNYO;cDA;cTTHA;cDO;cTTHO;cNNO;cTA;
    cTHA;cTO;cTHO;cNO;cBA;cPHA;cPO;cPHO;cMO;cYO;cRO;cLO;cVO;cSHA;cSSO;cSA;cHA;cLA;cQA;
    bINDEPENDENT VOWEL QAQ;dQAA;dQI;dQII;dQU;dQUK;dQUU;dQUUV;dRY;dRYY;dLY;dLYY;dQE;dQAI;
    dQOO TYPE ONE;fTWO;dQAU;bVOWEL INHERENT AQ;dAA;cbSIGN;dI;dII;dY;dYY;dU;dUU;dUA;dOE;dYA;dIE;dE;
    dAE;dAI;dOO;dAU;bSIGN NIKAHIT;cREAHMUK;cYUUKALEAPINTU;cMUUSIKATOAN;cTRIISAP;cBANTOC;cROBAT;
    cTOANDAKHIAT;cKAKABAT;cAHSDA;cSAMYOK SANNYA;cVIRIAM;cCOENG;cBATHAMASAT;cKHAN;cBARIYOOSAN;
    cCAMNUC PII KUUH;cLEK TOO;cBEYYAL;cPHNAEK MUAN;cKOOMUUT;bCURRENCY SYMBOL RIEL;
    bSIGN AVAKRAHASANYA;cATTHACAN;2;bDIGIT ZERO;cONE;cTWO;cTHREE;cFOUR;cFIVE;cSIX;cSEVEN;cEIGHT;
    cNINE;6;bSYMBOL LEK ATTAK SON;eMUOY;ePII;eBEI;eBUON;ePRAM;ePRAM-MUOY;ePRAM-PII;ePRAM-BEI;
    ePRAM-BUON;6;MONGOLIAN BIRGA;bELLIPSIS;bCOMMA;bFULL STOP;bCOLON;bFOUR DOTS;bTODO SOFT HYPHEN;
    bSIBE SYLLABLE BOUNDARY MARKER;bMANCHU COMMA;cFULL STOP;bNIRUGU;bFREE VARIATION SELECTOR ONE;
    eTWO;eTHREE;bVOWEL SEPARATOR;bFREE VARIATION SELECTOR FOUR;bDIGIT ZERO;cONE;cTWO;cTHREE;cFOUR;
    cFIVE;cSIX;cSEVEN;cEIGHT;cNINE;6;bLETTER A;cE;cI;cO;cU;cOE;cUE;cEE;cNA;cANG;cBA;cPA;cQA;cGA;
    cMA;cLA;cSA;cSHA;cTA;cDA;cCHA;cJA;cYA;cRA;cWA;cFA;cKA;cKHA;cTSA;cZA;cHAA;cZRA;cLHA;cZHI;cCHI;
    cTODO LONG VOWEL SIGN;dE;dI;dO;dU;dOE;dUE;dANG;dBA;dPA;dQA;dGA;dMA;dTA;dDA;dCHA;dJA;dTSA;dYA;
    dWA;dKA;dGAA;dHAA;dJIA;dNIA;dDZA;cSIBE E;dI;dIY;dUE;dU;dANG;dKA;dGA;dHA;dPA;dSHA;dTA;dDA;dJA;
    dFA;dGAA;dHAA;dTSA;dZA;dRAA;dCHA;dZHA;cMANCHU I;dKA;dRA;dFA;dZHA;cCHA WITH TWO DOTS;7;
    cALI GALI ANUSVARA ONE;ebVISARGA;eDAMARU;eUBADAMA;ebINVERTED;eBALUDA;ebTHREE;eA;eI;eKA;eNGA;
    eCA;eTTA;eTTHA;eDDA;eNNA;eTA;eDA;ePA;ePHA;eSSA;eZHA;eZA;eAH;cTODO ALI GALI TA;fZHA;
    cMANCHU ALI GALI GHA;fNGA;fCA;fJHA;fTTA;fDDHA;fTA;fDHA;fSSA;fCYA;fZHA;fZA;cALI GALI HALF U;fYA;
    cMANCHU ALI GALI BHA;cALI GALI DAGALGA;cMANCHU ALI GALI LHA;5;CANADIAN SYLLABICS OY;cAY;cAAY;
    cWAY;cPOY;cPAY;cPWOY;cTAY;cKAY;cKWAY;cMAY;cNOY;cNAY;cLAY;cSOY;cSAY;cSHOY;cSHAY;cSHWOY;cYOY;
    cYAY;cRAY;cNWI;cbOJIBWAY;cNWII;cbOJIBWAY;cNWO;cbOJIBWAY;cNWOO;cbOJIBWAY;cRWEE;cRWI;cRWII;cRWO;
    cRWOO;cRWA;cOJIBWAY P;dT;dK;dC;dM;dN;dS;dSH;cEASTERN W;cbWESTERN;cFINAL SMALL RING;dRAISED DOT;
    cR-CREE RWE;cWEST-CREE LOO;dLAA;cTHWE;cTHWA;cTTHWE;cTTHOO;cTTHAA;cTLHWE;cTLHOO;cSAYISI SHWE;
    dSHOO;dHOO;cCARRIER GWU;dDENE GEE;dGAA;dGWA;cSAYISI JUU;cCARRIER JWA;cBEAVER DENE L;eR;
    cCARRIER DENTAL S;10;LIMBU VOWEL-CARRIER LETTER;bLETTER KA;cKHA;cGA;cGHA;cNGA;cCA;cCHA;cJA;
    cJHA;cYAN;cTA;cTHA;cDA;cDHA;cNA;cPA;cPHA;cBA;cBHA;cMA;cYA;cRA;cLA;cWA;cSHA;cSSA;cSA;cHA;cGYAN;
    cTRA;1;bVOWEL SIGN A;dI;dU;dEE;dAI;dOO;dAU;dE;dO;bSUBJOINED LETTER YA;dRA;dWA;4;
    bSMALL LETTER KA;dNGA;dANUSVARA;dTA;dNA;dPA;dMA;dRA;dLA;bSIGN MUKPHRENG;cKEMPHRENG;cSA-I;4;
    cLOO;3;bEXCLAMATION MARK;bbQUESTION;bDIGIT ZERO;cONE;cTWO;cTHREE;cFOUR;cFIVE;cSIX;cSEVEN;
    cEIGHT;cNINE;TAI LE LETTER KA;dXA;dNGA;dTSA;dSA;dYA;dTA;dTHA;dLA;dPA;dPHA;dMA;dFA;dVA;dHA;dQA;
    dKHA;dTSHA;dNA;dA;dI;dEE;dEH;dU;dOO;dO;dUE;dE;dAUE;dAI;2;dTONE-2;dTONE-3;dTONE-4;dTONE-5;
    dTONE-6;11;NEW TAI LUE LETTER HIGH QA;ebLOW;eHIGH KA;fXA;fNGA;eLOW KA;fXA;fNGA;eHIGH TSA;fSA;
    fYA;eLOW TSA;fSA;fYA;eHIGH TA;fTHA;fNA;eLOW TA;fTHA;fNA;eHIGH PA;fPHA;fMA;eLOW PA;fPHA;fMA;
    eHIGH FA;fVA;fLA;eLOW FA;fVA;fLA;eHIGH HA;fDA;fBA;eLOW HA;fDA;fBA;eHIGH KVA;fXVA;eLOW KVA;fXVA;
    eHIGH SUA;ebLOW;4;dVOWEL SIGN VOWEL SHORTENER;fAA;fII;fU;fUU;fE;fAE;fO;fOA;fUE;fAY;fAAY;fUY;
    fOY;fOAY;fUEY;fIY;dLETTER FINAL V;fNG;fN;fM;fK;fD;fB;dTONE MARK-1;eMARK-2;6;dDIGIT ZERO;eONE;
    eTWO;eTHREE;eFOUR;eFIVE;eSIX;eSEVEN;eEIGHT;eNINE;dTHAM DIGIT ONE;3;dSIGN LAE;eLAEV;
    KHMER SYMBOL PATHAMASAT;cMUOY KOET;cbPII;cbBEI;cbBUON;cbPRAM;cbPRAM-MUOY;cbPRAM-PII;cbPRAM-BEI;
    cbPRAM-BUON;cbDAP;cbDAP-MUOY;cbDAP-PII;cbDAP-BEI;cbDAP-BUON;cbDAP-PRAM;cTUTEYASAT;cMUOY ROC;
    cbPII;cbBEI;cbBUON;cbPRAM;cbPRAM-MUOY;cbPRAM-PII;cbPRAM-BEI;cbPRAM-BUON;cbDAP;cbDAP-MUOY;
    cbDAP-PII;cbDAP-BEI;cbDAP-BUON;cbDAP-PRAM;BUGINESE LETTER KA;cGA;cNGA;cNGKA;cPA;cBA;cMA;cMPA;
    cTA;cDA;cNA;cNRA;cCA;cJA;cNYA;cNYCA;cYA;cRA;cLA;cVA;cSA;cA;cHA;bVOWEL SIGN I;dU;dE;dO;dAE;2;
    bPALLAWA;bEND OF SECTION;TAI THAM LETTER HIGH KA;eKHA;eKXA;dLOW KA;eKXA;eKHA;dNGA;dHIGH CA;
    eCHA;dLOW CA;eSA;eCHA;dNYA;dRATA;dHIGH RATHA;dDA;dLOW RATHA;dRANA;dHIGH TA;eTHA;dLOW TA;eTHA;
    dNA;dBA;dHIGH PA;ePHA;eFA;dLOW PA;eFA;ePHA;dMA;dLOW YA;dbHIGH;dRA;dRUE;dLA;dLUE;dWA;dHIGH SHA;
    eSSA;eSA;eHA;dLLA;dA;dLOW HA;dI;dII;dU;dUU;dEE;dOO;dLAE;dGREAT SA;cCONSONANT SIGN MEDIAL RA;
    fLA;eLA TANG LAI;cbSIGN MAI KANG;cCONSONANT SIGN FINAL NGA;eLOW PA;ecHIGH RATHA OR;eMA;eBA;eSA;
    1;cSIGN SAKOT;cVOWEL SIGN A;eMAI SAT;eAA;ebTALL;eI;eII;eUE;eUUE;eU;eUU;eO;eOA BELOW;eOY;eE;eAE;
    eOO;eAI;ebTHAM;eOA ABOVE;cSIGN MAI KANG;dTONE-1;dTONE-2;dKHUEN TONE-3;eTONE-4;eTONE-5;dRA HAAM;
    dMAI SAM;dKHUEN-LUE KARAN;2;cCOMBINING CRYPTOGRAMMIC DOT;cHORA DIGIT ZERO;eONE;eTWO;eTHREE;
    eFOUR;eFIVE;eSIX;eSEVEN;eEIGHT;eNINE;6;cTHAM DIGIT ZERO;eONE;eTWO;eTHREE;eFOUR;eFIVE;eSIX;
    eSEVEN;eEIGHT;eNINE;6;cSIGN WIANG;dWIANGWAAK;dSAWAN;dKEOW;dHOY;dDOKMAI;dREVERSED ROTATED RANA;
    dMAI YAMOK;dKAAN;dKAANKUU;dSATKAAN;dSATKAANKUU;dHANG;dCAANG;2;
    COMBINING DOUBLED CIRCUMFLEX ACCENT;bDIAERESIS-RING;bINFINITY;bDOWNWARDS ARROW;bTRIPLE DOT;
    bX-X BELOW;bbWIGGLY LINE;bbOPEN MARK;bdDOUBLE;bbLIGHT CENTRALIZATION STROKE;bdSTRONG;
    bPARENTHESES ABOVE;bcDOUBLE;bPARENTHESES BELOW;cOVERLAY;bLATIN SMALL LETTER W BELOW;ecTURNED;
    bLEFT PARENTHESIS ABOVE LEFT;bRIGHT PARENTHESIS ABOVE RIGHT;bLEFT PARENTHESIS BELOW LEFT;
    bRIGHT PARENTHESIS BELOW RIGHT;bSQUARE BRACKETS ABOVE;bbNUMBER SIGN;bbINVERTED DOUBLE ARCH;
    bbPLUS SIGN;bdDOUBLE;eBELOW;bTRIPLE ACUTE ACCENT;bLATIN SMALL LETTER INSULAR G;fR;fT;49;
    BALINESE SIGN ULU RICEM;dCANDRA;cCECEK;cSURANG;cBISAH;bLETTER AKARA;dTEDUNG;cIKARA;dTEDUNG;
    cUKARA;dTEDUNG;cRA REPA;eTEDUNG;cLA LENGA;eTEDUNG;cEKARA;cAIKARA;cOKARA;dTEDUNG;cKA;dMAHAPRANA;
    cGA;dGORA;cNGA;cCA;dLACA;cJA;dJERA;cNYA;cTA LATIK;dMURDA MAHAPRANA;cDA MURDA ALPAPRANA;
    eMAHAPRANA;cNA RAMBAT;cTA;dTAWA;cDA;dMADU;cNA;cPA;dKAPAL;cBA;dKEMBANG;cMA;cYA;cRA;cLA;cWA;
    cSA SAGA;dSAPA;d;cHA;bSIGN REREKAN;bVOWEL SIGN TEDUNG;dULU;eSARI;dSUKU;eILUT;dRA REPA;fTEDUNG;
    dLA LENGA;fTEDUNG;dTALING;eREPA;eTEDUNG;ebREPA;dPEPET;eTEDUNG;bADEG ADEG;bLETTER KAF SASAK;
    cbKHOT;cbTZIR;cbEF;cbVE;cbZAL;cbASYURA;cARCHAIC JNYA;3;bDIGIT ZERO;cONE;cTWO;cTHREE;cFOUR;
    cFIVE;cSIX;cSEVEN;cEIGHT;cNINE;bPANTI;bPAMADA;bWINDU;bCARIK PAMUNGKAH;cSIKI;cPAREREN;bPAMENENG;
    bMUSICAL SYMBOL DONG;dDENG;dDUNG;dDANG;eSURANG;dDING;dDAENG;dDEUNG;dDAING;dDANG GEDE;
    dCOMBINING TEGEH;eENDEP;eKEMPUL;eKEMPLI;eJEGOGAN;ebKEMPUL WITH;ecKEMPLI;eBENDE;eGONG;
    dRIGHT-HAND OPEN DUG;fDAG;eCLOSED TUK;fTAK;dLEFT-HAND OPEN PANG;fPUNG;eCLOSED PLAK;fPLUK;
    eOPEN PING;bPANTI LANTANG;bbPAMADA;1;SUNDANESE SIGN PANYECEK;cPANGLAYAR;cPANGWISAD;bLETTER A;
    cI;cU;cAE;cO;cE;cEU;cKA;cQA;cGA;cNGA;cCA;cJA;cZA;cNYA;cTA;cDA;cNA;cPA;cFA;cVA;cBA;cMA;cYA;cRA;
    cLA;cWA;cSA;cXA;cHA;bCONSONANT SIGN PAMINGKAL;dPANYAKRA;dPANYIKU;bVOWEL SIGN PANGHULU;dPANYUKU;
    dPANAELAENG;dPANOLONG;dPAMEPET;dPANEULEUNG;bSIGN PAMAAEH;cVIRAMA;bCONSONANT SIGN PASANGAN MA;
    eWA;bLETTER KHA;cSYA;bDIGIT ZERO;cONE;cTWO;cTHREE;cFOUR;cFIVE;cSIX;cSEVEN;cEIGHT;cNINE;
    bAVAGRAHA;bLETTER REU;cLEU;cBHA;cFINAL K;dM;BATAK LETTER A;cbSIMALUNGUN;cHA;cbSIMALUNGUN;
    cbMANDAILING;cBA;cbKARO;cPA;cbSIMALUNGUN;cNA;cbMANDAILING;cWA;cbSIMALUNGUN;cbPAKPAK;cGA;
    cbSIMALUNGUN;cJA;cDA;cRA;cbSIMALUNGUN;cMA;cbSIMALUNGUN;cSOUTHERN TA;cbNORTHERN;cSA;
    cbSIMALUNGUN;cbMANDAILING;cYA;cbSIMALUNGUN;cNGA;cLA;cbSIMALUNGUN;cNYA;cCA;cNDA;cMBA;cI;cU;
    bSIGN TOMPI;bVOWEL SIGN E;dbPAKPAK;dEE;dI;dbKARO;dO;dbKARO;dU;eFOR SIMALUNGUN SA;
    bCONSONANT SIGN NG;dH;bPANGOLAT;bPANONGONAN;8;bSYMBOL BINDU NA METEK;dPINARBORAS;dJUDUL;
    dPANGOLAT;LEPCHA LETTER KA;cKLA;cKHA;cGA;cGLA;cNGA;cCA;cCHA;cJA;cNYA;cTA;cTHA;cDA;cNA;cPA;cPLA;
    cPHA;cFA;cFLA;cBA;cBLA;cMA;cMLA;cTSA;cTSHA;cDZA;cYA;cRA;cLA;cHA;cHLA;cVA;cSA;cSHA;cWA;cA;
    bSUBJOINED LETTER YA;dRA;bVOWEL SIGN AA;dI;dO;dOO;dU;dUU;dE;bCONSONANT SIGN K;dM;dL;dN;dP;dR;
    dT;dNYIN-DO;dKANG;bSIGN RAN;cNUKTA;3;bPUNCTUATION TA-ROL;cbNYET THYOOM;cCER-WA;cbTSHOOK;d;
    bDIGIT ZERO;cONE;cTWO;cTHREE;cFOUR;cFIVE;cSIX;cSEVEN;cEIGHT;cNINE;3;bLETTER TTA;cTTHA;cDDA;
    OL CHIKI DIGIT ZERO;dONE;dTWO;dTHREE;dFOUR;dFIVE;dSIX;dSEVEN;dEIGHT;dNINE;cLETTER LA;dAT;dAG;
    dANG;dAL;dLAA;dAAK;dAAJ;dAAM;dAAW;dLI;dIS;dIH;dINY;dIR;dLU;dUC;dUD;dUNN;dUY;dLE;dEP;dEDD;dEN;
    dERR;dLO;dOTT;dOB;dOV;dOH;cMU TTUDDAG;cGAAHLAA TTUDDAAG;cbMU-GAAHLAA;cRELAA;cPHAARKAA;cAHAD;
    cPUNCTUATION MUCAAD;dbDOUBLE;CYRILLIC SMALL LETTER ROUNDED VE;dLONG-LEGGED DE;dNARROW O;
    dWIDE ES;dTALL TE;dbTHREE-LEGGED;dTALL HARD SIGN;eYAT;dUNBLENDED UK;7;
    GEORGIAN MTAVRULI CAPITAL LETTER AN;eBAN;eGAN;eDON;eEN;eVIN;eZEN;eTAN;eIN;eKAN;eLAS;eMAN;eNAR;
    eON;ePAR;eZHAR;eRAE;eSAN;eTAR;eUN;ePHAR;eKHAR;eGHAN;eQAR;eSHIN;eCHIN;eCAN;eJIL;eCIL;eCHAR;eXAN;
    eJHAN;eHAE;eHE;eHIE;eWE;eHAR;eHOE;eFI;eYN;eELIFI;eTURNED GAN;eAIN;2;eAEN;eHARD SIGN;ebLABIAL;
    SUNDANESE PUNCTUATION BINDU SURYA;dPANGLONG;dPURNAMA;dCAKRA;dLEU SATANGA;dbKA;dbDA;dbBA;8;
    VEDIC TONE KARSHANA;cSHARA;cPRENKHA;bSIGN NIHSHVASA;cYAJURVEDIC MIDLINE SVARITA;
    bbTONE YAJURVEDIC AGGRAVATED INDEPENDENT;dc;dcKATHAKA;cCANDRA BELOW;
    cYAJURVEDIC KATHAKA INDEPENDENT SVARITA SCHROEDER;cDOUBLE SVARITA;cbTRIPLE;cKATHAKA ANUDATTA;
    cDOT BELOW;cbTWO DOTS;ccTHREE;cRIGVEDIC KASHMIRI INDEPENDENT SVARITA;ccATHARVAVEDIC;
    bbSIGN VISARGA;dUDATTA;ccREVERSED;cVISARGA ANUDATTA;ccREVERSED;cVISARGA UDATTA WITH TAIL;
    dcANUDATTA;cANUSVARA ANTARGOMUKHA;dBAHIRGOMUKHA;dVAMAGOMUKHA;eWITH TAIL;cTIRYAK;
    cHEXIFORM LONG ANUSVARA;cc;ccRTHANG;cANUSVARA UBHAYATO MUKHA;cARDHAVISARGA;cbROTATED;
    bTONE CANDRA ABOVE;bSIGN JIHVAMULIYA;cUPADHMANIYA;cATIKRAMA;bTONE RING ABOVE;ccDOUBLE;
    bSIGN DOUBLE ANUSVARA ANTARGOMUKHA;5;LATIN LETTER SMALL CAPITAL A;eAE;bbSMALL LETTER TURNED;
    bLETTER SMALL CAPITAL BARRED B;eC;eD;eETH;eE;bbSMALL LETTER TURNED OPEN;eI;
    bLETTER SMALL CAPITAL J;eK;eL WITH STROKE;eM;eREVERSED N;eO;ebOPEN;bbSMALL LETTER SIDEWAYS;
    ebOPEN;eO WITH STROKE;dTURNED OE;bLETTER SMALL CAPITAL OU;bSMALL LETTER TOP HALF O;dcBOTTOM;
    bLETTER SMALL CAPITAL P;eREVERSED R;ebTURNED;eT;eU;bbSMALL LETTER SIDEWAYS;ebDIAERESIZED;
    eTURNED M;bLETTER SMALL CAPITAL V;eW;eZ;eEZH;cVOICED LARYNGEAL SPIRANT;cAIN;
    GREEK LETTER SMALL CAPITAL GAMMA;eLAMDA;ePI;eRHO;ePSI;CYRILLIC LETTER SMALL CAPITAL EL;
    MODIFIER LETTER CAPITAL A;dAE;dB;dbBARRED;dD;dE;dbREVERSED;dG;dH;dI;dJ;dK;dL;dM;dN;dbREVERSED;
    dO;dOU;dP;dR;dT;dU;dW;cSMALL A;dbTURNED;dALPHA;dTURNED AE;dB;dD;dE;dSCHWA;dOPEN E;dcTURNED;dG;
    dTURNED I;dK;dM;dENG;dO;dbOPEN;dbTOP HALF;dcBOTTOM;dP;dT;dU;dbSIDEWAYS;dTURNED M;dV;dAIN;dBETA;
    dGREEK GAMMA;dDELTA;dGREEK PHI;dCHI;LATIN SUBSCRIPT SMALL LETTER I;eR;eU;eV;
    GREEK SUBSCRIPT SMALL LETTER BETA;eGAMMA;eRHO;ePHI;eCHI;LATIN SMALL LETTER UE;
    dB WITH MIDDLE TILDE;ddD;ddF;ddM;ddN;ddP;ddR;fcFISHHOOK AND;dcS WITH;ddT;ddZ;dTURNED G;
    MODIFIER LETTER CYRILLIC EN;LATIN SMALL LETTER INSULAR G;dTH WITH STRIKETHROUGH;
    cCAPITAL LETTER I WITH STROKE;ccLETTER IOTA;dcP;ccCAPITAL LETTER U;ccLETTER UPSILON;
    dB WITH PALATAL HOOK;ddD;ddF;ddG;ddK;ddL;ddM;ddN;ddP;ddR;ddS;ddESH;ddV;ddX;ddZ;
    dbA WITH RETROFLEX;ddALPHA;dD WITH HOOK AND TAIL;dE WITH RETROFLEX HOOK;deOPEN;dfREVERSED;
    ddSCHWA;ddI;ddOPEN O;ddESH;ddU;ddEZH;MODIFIER LETTER SMALL TURNED ALPHA;dC;eWITH CURL;dETH;
    dREVERSED OPEN E;dF;dDOTLESS J WITH STROKE;dSCRIPT G;dTURNED H;dI WITH STROKE;dIOTA;dCAPITAL I;
    fWITH STROKE;dJ WITH CROSSED-TAIL;dL WITH RETROFLEX HOOK;fbPALATAL;dCAPITAL L;dM WITH HOOK;
    dTURNED M WITH LONG LEG;dN WITH LEFT HOOK;fbRETROFLEX;dCAPITAL N;dBARRED O;dPHI;dS WITH HOOK;
    dESH;dT WITH PALATAL HOOK;dU BAR;dUPSILON;dCAPITAL U;dV WITH HOOK;dTURNED V;dZ;
    eWITH RETROFLEX HOOK;fCURL;dEZH;dTHETA;COMBINING DOTTED GRAVE ACCENT;cbACUTE;bSNAKE BELOW;
    bSUSPENSION MARK;bMACRON-ACUTE;bGRAVE-MACRON;bMACRON-GRAVE;bACUTE-MACRON;bGRAVE-ACUTE-GRAVE;
    bACUTE-GRAVE-ACUTE;bLATIN SMALL LETTER R BELOW;bBREVE-MACRON;bMACRON-BREVE;
    bDOUBLE CIRCUMFLEX ABOVE;bbOGONEK;bZIGZAG BELOW;bbIS;bUR ABOVE;bbUS;
    bbLATIN SMALL LETTER FLATTENED OPEN A;eAE;eAO;eAV;eC CEDILLA;eINSULAR D;eETH;eG;
    cbLETTER SMALL CAPITAL;cSMALL LETTER K;eL;cbLETTER SMALL CAPITAL;fM;cSMALL LETTER N;
    cbLETTER SMALL CAPITAL;fR;cSMALL LETTER R ROTUNDA;eS;ebLONG;eZ;eALPHA;eB;eBETA;eSCHWA;eF;
    eL WITH DOUBLE MIDDLE TILDE;eO WITH LIGHT CENTRALIZATION STROKE;eP;eESH;
    eU WITH LIGHT CENTRALIZATION STROKE;eW;eA WITH DIAERESIS;ecO;ecU;bUP TACK ABOVE;
    bKAVYKA ABOVE RIGHT;dLEFT;bcDOT;bWIDE INVERTED BRIDGE BELOW;bDOT BELOW LEFT;bDELETION MARK;
    bDOUBLE INVERTED BREVE BELOW;bbALMOST EQUAL TO;bLEFT ARROWHEAD ABOVE;
    bRIGHT ARROWHEAD AND DOWN ARROWHEAD BELOW;abLATIN CAPITAL LETTER A WITH RING;bfSMALL;
    bCAPITAL LETTER B WITH DOT ABOVE;bfSMALL;bCAPITAL LETTER B WITH DOT BELOW;bfSMALL;
    bbCAPITAL LETTER B WITH LINE;bfSMALL;bCAPITAL LETTER C WITH CEDILLA AND ACUTE;bgSMALL;
    bCAPITAL LETTER D WITH DOT ABOVE;bfSMALL;bCAPITAL LETTER D WITH DOT BELOW;bfSMALL;
    bbCAPITAL LETTER D WITH LINE;bfSMALL;bCAPITAL LETTER D WITH CEDILLA;beSMALL;
    bCAPITAL LETTER D WITH CIRCUMFLEX BELOW;bfSMALL;bCAPITAL LETTER E WITH MACRON AND GRAVE;
    bgSMALL;bCAPITAL LETTER E WITH MACRON AND ACUTE;bgSMALL;
    bCAPITAL LETTER E WITH CIRCUMFLEX BELOW;bfSMALL;bbCAPITAL LETTER E WITH TILDE;bfSMALL;
    bCAPITAL LETTER E WITH CEDILLA AND BREVE;bgSMALL;bCAPITAL LETTER F WITH DOT ABOVE;bfSMALL;
    bCAPITAL LETTER G WITH MACRON;beSMALL;bCAPITAL LETTER H WITH DOT ABOVE;bfSMALL;
    bCAPITAL LETTER H WITH DOT BELOW;bfSMALL;bCAPITAL LETTER H WITH DIAERESIS;beSMALL;
    bCAPITAL LETTER H WITH CEDILLA;beSMALL;bCAPITAL LETTER H WITH BREVE BELOW;bfSMALL;
    bbCAPITAL LETTER I WITH TILDE;bfSMALL;bCAPITAL LETTER I WITH DIAERESIS AND ACUTE;bgSMALL;
    bbCAPITAL LETTER K WITH;beSMALL;bCAPITAL LETTER K WITH DOT BELOW;bfSMALL;
    bbCAPITAL LETTER K WITH LINE;bfSMALL;bbCAPITAL LETTER L WITH DOT;bfSMALL;
    bCAPITAL LETTER L WITH DOT BELOW AND MACRON;bhSMALL;bCAPITAL LETTER L WITH LINE BELOW;bfSMALL;
    bbCAPITAL LETTER L WITH CIRCUMFLEX;bfSMALL;bCAPITAL LETTER M WITH ACUTE;beSMALL;
    bCAPITAL LETTER M WITH DOT ABOVE;bfSMALL;bCAPITAL LETTER M WITH DOT BELOW;bfSMALL;
    bCAPITAL LETTER N WITH DOT ABOVE;bfSMALL;bCAPITAL LETTER N WITH DOT BELOW;bfSMALL;
    bbCAPITAL LETTER N WITH LINE;bfSMALL;bbCAPITAL LETTER N WITH CIRCUMFLEX;bfSMALL;
    bCAPITAL LETTER O WITH TILDE AND ACUTE;bgSMALL;bCAPITAL LETTER O WITH TILDE AND DIAERESIS;
    bgSMALL;bCAPITAL LETTER O WITH MACRON AND GRAVE;bgSMALL;
    bCAPITAL LETTER O WITH MACRON AND ACUTE;bgSMALL;bbCAPITAL LETTER P WITH;beSMALL;
    bCAPITAL LETTER P WITH DOT ABOVE;bfSMALL;bdCAPITAL LETTER R;bfSMALL;
    bCAPITAL LETTER R WITH DOT BELOW;bfSMALL;bCAPITAL LETTER R WITH DOT BELOW AND MACRON;bhSMALL;
    bCAPITAL LETTER R WITH LINE BELOW;bfSMALL;bCAPITAL LETTER S WITH DOT ABOVE;bfSMALL;
    bCAPITAL LETTER S WITH DOT BELOW;bfSMALL;bCAPITAL LETTER S WITH ACUTE AND DOT ABOVE;bhSMALL;
    bdCAPITAL LETTER S WITH CARON;bhSMALL;bdCAPITAL LETTER S WITH DOT BELOW;biSMALL;
    bcCAPITAL LETTER T WITH;bfSMALL;bCAPITAL LETTER T WITH DOT BELOW;bfSMALL;
    bbCAPITAL LETTER T WITH LINE;bfSMALL;bbCAPITAL LETTER T WITH CIRCUMFLEX;bfSMALL;
    bbCAPITAL LETTER U WITH DIAERESIS;bfSMALL;bbCAPITAL LETTER U WITH TILDE;bfSMALL;
    bbCAPITAL LETTER U WITH CIRCUMFLEX;bfSMALL;bCAPITAL LETTER U WITH TILDE AND ACUTE;bgSMALL;
    bCAPITAL LETTER U WITH MACRON AND DIAERESIS;bgSMALL;bCAPITAL LETTER V WITH TILDE;beSMALL;
    bCAPITAL LETTER V WITH DOT BELOW;bfSMALL;bCAPITAL LETTER W WITH GRAVE;beSMALL;
    bCAPITAL LETTER W WITH ACUTE;beSMALL;bCAPITAL LETTER W WITH DIAERESIS;beSMALL;
    bCAPITAL LETTER W WITH DOT ABOVE;bfSMALL;bCAPITAL LETTER W WITH DOT BELOW;bfSMALL;
    bCAPITAL LETTER X WITH DOT ABOVE;bfSMALL;bCAPITAL LETTER X WITH DIAERESIS;beSMALL;
    bCAPITAL LETTER Y WITH DOT ABOVE;bfSMALL;bCAPITAL LETTER Z WITH CIRCUMFLEX;beSMALL;
    bCAPITAL LETTER Z WITH DOT BELOW;bfSMALL;bbCAPITAL LETTER Z WITH LINE;bfSMALL;ddH;
    dT WITH DIAERESIS;dW WITH RING ABOVE;ddY;dA WITH RIGHT HALF RING;dLONG S WITH DOT ABOVE;
    gDIAGONAL STROKE;gbHIGH;bCAPITAL LETTER SHARP S;bSMALL LETTER DELTA;
    bCAPITAL LETTER A WITH DOT BELOW;bfSMALL;bCAPITAL LETTER A WITH HOOK ABOVE;bfSMALL;
    bCAPITAL LETTER A WITH CIRCUMFLEX AND ACUTE;bgSMALL;
    bCAPITAL LETTER A WITH CIRCUMFLEX AND GRAVE;bgSMALL;
    bCAPITAL LETTER A WITH CIRCUMFLEX AND HOOK ABOVE;bhSMALL;
    bCAPITAL LETTER A WITH CIRCUMFLEX AND TILDE;bgSMALL;
    bCAPITAL LETTER A WITH CIRCUMFLEX AND DOT BELOW;bhSMALL;bCAPITAL LETTER A WITH BREVE AND ACUTE;
    bgSMALL;bCAPITAL LETTER A WITH BREVE AND GRAVE;bgSMALL;
    bCAPITAL LETTER A WITH BREVE AND HOOK ABOVE;bhSMALL;bCAPITAL LETTER A WITH BREVE AND TILDE;
    bgSMALL;bCAPITAL LETTER A WITH BREVE AND DOT BELOW;bhSMALL;bcCAPITAL LETTER E WITH;bfSMALL;
    bCAPITAL LETTER E WITH HOOK ABOVE;bfSMALL;bCAPITAL LETTER E WITH TILDE;beSMALL;
    bCAPITAL LETTER E WITH CIRCUMFLEX AND ACUTE;bgSMALL;
    bCAPITAL LETTER E WITH CIRCUMFLEX AND GRAVE;bgSMALL;
    bCAPITAL LETTER E WITH CIRCUMFLEX AND HOOK ABOVE;bhSMALL;
    bCAPITAL LETTER E WITH CIRCUMFLEX AND TILDE;bgSMALL;
    bCAPITAL LETTER E WITH CIRCUMFLEX AND DOT BELOW;bhSMALL;bCAPITAL LETTER I WITH HOOK ABOVE;
    bfSMALL;bCAPITAL LETTER I WITH DOT BELOW;bfSMALL;bdCAPITAL LETTER O;bfSMALL;
    bCAPITAL LETTER O WITH HOOK ABOVE;bfSMALL;bCAPITAL LETTER O WITH CIRCUMFLEX AND ACUTE;bgSMALL;
    bCAPITAL LETTER O WITH CIRCUMFLEX AND GRAVE;bgSMALL;
    bCAPITAL LETTER O WITH CIRCUMFLEX AND HOOK ABOVE;bhSMALL;
    bCAPITAL LETTER O WITH CIRCUMFLEX AND TILDE;bgSMALL;
    bCAPITAL LETTER O WITH CIRCUMFLEX AND DOT BELOW;bhSMALL;bCAPITAL LETTER O WITH HORN AND ACUTE;
    bgSMALL;bCAPITAL LETTER O WITH HORN AND GRAVE;bgSMALL;
    bCAPITAL LETTER O WITH HORN AND HOOK ABOVE;bhSMALL;bCAPITAL LETTER O WITH HORN AND TILDE;
    bgSMALL;bCAPITAL LETTER O WITH HORN AND DOT BELOW;bhSMALL;bcCAPITAL LETTER U WITH;bfSMALL;
    bCAPITAL LETTER U WITH HOOK ABOVE;bfSMALL;bCAPITAL LETTER U WITH HORN AND ACUTE;bgSMALL;
    bCAPITAL LETTER U WITH HORN AND GRAVE;bgSMALL;bCAPITAL LETTER U WITH HORN AND HOOK ABOVE;
    bhSMALL;bCAPITAL LETTER U WITH HORN AND TILDE;bgSMALL;
    bCAPITAL LETTER U WITH HORN AND DOT BELOW;bhSMALL;bCAPITAL LETTER Y WITH GRAVE;beSMALL;
    bCAPITAL LETTER Y WITH DOT BELOW;bfSMALL;bCAPITAL LETTER Y WITH HOOK ABOVE;bfSMALL;
    bCAPITAL LETTER Y WITH TILDE;beSMALL;bCAPITAL LETTER MIDDLE-WELSH LL;bdSMALL;
    bCAPITAL LETTER MIDDLE-WELSH V;bdSMALL;bCAPITAL LETTER Y WITH LOOP;beSMALL;
    GREEK SMALL LETTER ALPHA WITH PSILI;fDASIA;fPSILI AND VARIA;fcDASIA;fPSILI AND OXIA;fcDASIA;
    fPSILI AND PERISPOMENI;fcDASIA;bCAPITAL LETTER ALPHA WITH PSILI;fDASIA;fPSILI AND VARIA;
    fcDASIA;fPSILI AND OXIA;fcDASIA;fPSILI AND PERISPOMENI;fcDASIA;
    bSMALL LETTER EPSILON WITH PSILI;fDASIA;fPSILI AND VARIA;fcDASIA;fPSILI AND OXIA;fcDASIA;2;
    bCAPITAL LETTER EPSILON WITH PSILI;fDASIA;fPSILI AND VARIA;fcDASIA;fPSILI AND OXIA;fcDASIA;2;
    bSMALL LETTER ETA WITH PSILI;fDASIA;fPSILI AND VARIA;fcDASIA;fPSILI AND OXIA;fcDASIA;
    fPSILI AND PERISPOMENI;fcDASIA;bCAPITAL LETTER ETA WITH PSILI;fDASIA;fPSILI AND VARIA;fcDASIA;
    fPSILI AND OXIA;fcDASIA;fPSILI AND PERISPOMENI;fcDASIA;bSMALL LETTER IOTA WITH PSILI;fDASIA;
    fPSILI AND VARIA;fcDASIA;fPSILI AND OXIA;fcDASIA;fPSILI AND PERISPOMENI;fcDASIA;
    bCAPITAL LETTER IOTA WITH PSILI;fDASIA;fPSILI AND VARIA;fcDASIA;fPSILI AND OXIA;fcDASIA;
    fPSILI AND PERISPOMENI;fcDASIA;bSMALL LETTER OMICRON WITH PSILI;fDASIA;fPSILI AND VARIA;
    fcDASIA;fPSILI AND OXIA;fcDASIA;2;bCAPITAL LETTER OMICRON WITH PSILI;fDASIA;fPSILI AND VARIA;
    fcDASIA;fPSILI AND OXIA;fcDASIA;2;bSMALL LETTER UPSILON WITH PSILI;fDASIA;fPSILI AND VARIA;
    fcDASIA;fPSILI AND OXIA;fcDASIA;fPSILI AND PERISPOMENI;fcDASIA;1;
    bCAPITAL LETTER UPSILON WITH DASIA;1;gAND VARIA;1;hOXIA;1;hPERISPOMENI;
    bSMALL LETTER OMEGA WITH PSILI;fDASIA;fPSILI AND VARIA;fcDASIA;fPSILI AND OXIA;fcDASIA;
    fPSILI AND PERISPOMENI;fcDASIA;bCAPITAL LETTER OMEGA WITH PSILI;fDASIA;fPSILI AND VARIA;
    fcDASIA;fPSILI AND OXIA;fcDASIA;fPSILI AND PERISPOMENI;fcDASIA;bSMALL LETTER ALPHA WITH VARIA;
    fOXIA;dEPSILON WITH VARIA;fOXIA;dETA WITH VARIA;fOXIA;dIOTA WITH VARIA;fOXIA;
    dOMICRON WITH VARIA;fOXIA;dUPSILON WITH VARIA;fOXIA;dOMEGA WITH VARIA;fOXIA;2;
    dALPHA WITH PSILI AND YPOGEGRAMMENI;fcDASIA;fcPSILI AND VARIA;feDASIA;fcPSILI AND OXIA;feDASIA;
    fcPSILI AND PERISPOMENI;feDASIA;bCAPITAL LETTER ALPHA WITH PSILI AND PROSGEGRAMMENI;fcDASIA;
    fcPSILI AND VARIA;feDASIA;fcPSILI AND OXIA;feDASIA;fcPSILI AND PERISPOMENI;feDASIA;
    bSMALL LETTER ETA WITH PSILI AND YPOGEGRAMMENI;fcDASIA;fcPSILI AND VARIA;feDASIA;
    fcPSILI AND OXIA;feDASIA;fcPSILI AND PERISPOMENI;feDASIA;
    bCAPITAL LETTER ETA WITH PSILI AND PROSGEGRAMMENI;fcDASIA;fcPSILI AND VARIA;feDASIA;
    fcPSILI AND OXIA;feDASIA;fcPSILI AND PERISPOMENI;feDASIA;
    bSMALL LETTER OMEGA WITH PSILI AND YPOGEGRAMMENI;fcDASIA;fcPSILI AND VARIA;feDASIA;
    fcPSILI AND OXIA;feDASIA;fcPSILI AND PERISPOMENI;feDASIA;
    bCAPITAL LETTER OMEGA WITH PSILI AND PROSGEGRAMMENI;fcDASIA;fcPSILI AND VARIA;feDASIA;
    fcPSILI AND OXIA;feDASIA;fcPSILI AND PERISPOMENI;feDASIA;bSMALL LETTER ALPHA WITH VRACHY;
    fMACRON;fVARIA AND YPOGEGRAMMENI;fb;fbOXIA AND;1;fPERISPOMENI;gAND YPOGEGRAMMENI;
    bCAPITAL LETTER ALPHA WITH VRACHY;fMACRON;fVARIA;fOXIA;fPROSGEGRAMMENI;bKORONIS;
    bPROSGEGRAMMENI;bPSILI;bPERISPOMENI;bbDIALYTIKA AND;
    bSMALL LETTER ETA WITH VARIA AND YPOGEGRAMMENI;fb;fbOXIA AND;1;fPERISPOMENI;gAND YPOGEGRAMMENI;
    bCAPITAL LETTER EPSILON WITH VARIA;fOXIA;dETA WITH VARIA;fOXIA;fPROSGEGRAMMENI;
    bPSILI AND VARIA;dOXIA;dPERISPOMENI;bSMALL LETTER IOTA WITH VRACHY;fMACRON;
    fDIALYTIKA AND VARIA;hOXIA;2;fPERISPOMENI;fbDIALYTIKA AND;bCAPITAL LETTER IOTA WITH VRACHY;
    fMACRON;fVARIA;fOXIA;1;bDASIA AND VARIA;dOXIA;dPERISPOMENI;bSMALL LETTER UPSILON WITH VRACHY;
    fMACRON;fDIALYTIKA AND VARIA;hOXIA;dRHO WITH PSILI;fDASIA;dUPSILON WITH PERISPOMENI;
    fbDIALYTIKA AND;bCAPITAL LETTER UPSILON WITH VRACHY;fMACRON;fVARIA;fOXIA;dRHO WITH DASIA;
    bDIALYTIKA AND VARIA;dOXIA;bVARIA;2;bSMALL LETTER OMEGA WITH VARIA AND YPOGEGRAMMENI;fb;
    fbOXIA AND;1;fPERISPOMENI;gAND YPOGEGRAMMENI;bCAPITAL LETTER OMICRON WITH VARIA;fOXIA;
    dOMEGA WITH VARIA;fOXIA;fPROSGEGRAMMENI;bOXIA;bDASIA"

end SqlRunner.Text.CharacterName
