/-!
# Character names — signs and syllables of East Asia, and forms for compatibility

The names of the assigned characters from U+3000 to U+FFFD, written short as
`CharacterName` describes.
-/

set_option autoImplicit false

namespace SqlRunner.Text.CharacterName

/-- The names from U+3000 on. -/
def eastAsian : String := "
    IDEOGRAPHIC SPACE;bCOMMA;bFULL STOP;DITTO MARK;JAPANESE INDUSTRIAL STANDARD SYMBOL;
    IDEOGRAPHIC ITERATION MARK;bbCLOSING;bNUMBER ZERO;LEFT ANGLE BRACKET;acRIGHT;acLEFT DOUBLE;
    adRIGHT;abLEFT CORNER;acRIGHT;acLEFT WHITE;adRIGHT;abLEFT BLACK LENTICULAR;adRIGHT;POSTAL MARK;
    abGETA;LEFT TORTOISE SHELL BRACKET;adRIGHT;abLEFT WHITE LENTICULAR;adRIGHT;
    abLEFT WHITE TORTOISE SHELL;aeRIGHT;abLEFT WHITE SQUARE;adRIGHT;WAVE DASH;
    REVERSED DOUBLE PRIME QUOTATION MARK;ae;aeLOW;POSTAL MARK FACE;HANGZHOU NUMERAL ONE;cTWO;
    cTHREE;cFOUR;cFIVE;cSIX;cSEVEN;cEIGHT;cNINE;IDEOGRAPHIC LEVEL TONE MARK;bcRISING;bcDEPARTING;
    bcENTERING;acHANGUL SINGLE DOT;bdDOUBLE;WAVY DASH;VERTICAL KANA REPEAT MARK;
    dbWITH VOICED SOUND;dMARK UPPER HALF;ddWITH VOICED SOUND;dbMARK LOWER;CIRCLED POSTAL MARK;
    IDEOGRAPHIC TELEGRAPH LINE FEED SEPARATOR SYMBOL;HANGZHOU NUMERAL TEN;cTWENTY;cTHIRTY;
    VERTICAL IDEOGRAPHIC ITERATION MARK;abMASU;abPART ALTERNATION;IDEOGRAPHIC VARIATION INDICATOR;
    bHALF FILL SPACE;1;HIRAGANA LETTER SMALL A;cb;cSMALL I;cb;cSMALL U;cb;cSMALL E;cb;cSMALL O;cb;
    cKA;cGA;cKI;cGI;cKU;cGU;cKE;cGE;cKO;cGO;cSA;cZA;cSI;cZI;cSU;cZU;cSE;cZE;cSO;cZO;cTA;cDA;cTI;
    cDI;cSMALL TU;cb;cDU;cTE;cDE;cTO;cDO;cNA;cNI;cNU;cNE;cNO;cHA;cBA;cPA;cHI;cBI;cPI;cHU;cBU;cPU;
    cHE;cBE;cPE;cHO;cBO;cPO;cMA;cMI;cMU;cME;cMO;cSMALL YA;cb;cSMALL YU;cb;cSMALL YO;cb;cRA;cRI;cRU;
    cRE;cRO;cSMALL WA;cb;cWI;cWE;cWO;cN;cVU;cSMALL KA;dKE;2;
    COMBINING KATAKANA-HIRAGANA VOICED SOUND MARK;ccSEMI-VOICED;acKATAKANA-HIRAGANA VOICED;
    bcSEMI-VOICED;abHIRAGANA ITERATION;bcVOICED;bDIGRAPH YORI;KATAKANA-HIRAGANA DOUBLE HYPHEN;
    KATAKANA LETTER SMALL A;cb;cSMALL I;cb;cSMALL U;cb;cSMALL E;cb;cSMALL O;cb;cKA;cGA;cKI;cGI;cKU;
    cGU;cKE;cGE;cKO;cGO;cSA;cZA;cSI;cZI;cSU;cZU;cSE;cZE;cSO;cZO;cTA;cDA;cTI;cDI;cSMALL TU;cb;cDU;
    cTE;cDE;cTO;cDO;cNA;cNI;cNU;cNE;cNO;cHA;cBA;cPA;cHI;cBI;cPI;cHU;cBU;cPU;cHE;cBE;cPE;cHO;cBO;
    cPO;cMA;cMI;cMU;cME;cMO;cSMALL YA;cb;cSMALL YU;cb;cSMALL YO;cb;cRA;cRI;cRU;cRE;cRO;cSMALL WA;
    cb;cWI;cWE;cWO;cN;cVU;cSMALL KA;dKE;cVA;cVI;cVE;cVO;bMIDDLE DOT;
    KATAKANA-HIRAGANA PROLONGED SOUND MARK;abKATAKANA ITERATION;bcVOICED;bDIGRAPH KOTO;5;
    BOPOMOFO LETTER B;cP;cM;cF;cD;cT;cN;cL;cG;cK;cH;cJ;cQ;cX;cZH;cCH;cSH;cR;cZ;cC;cS;cA;cO;cE;cEH;
    cAI;cEI;cAU;cOU;cAN;cEN;cANG;cENG;cER;cI;cU;cIU;cV;cNG;cGN;cIH;cO WITH DOT ABOVE;cNN;1;
    HANGUL LETTER KIYEOK;cSSANGKIYEOK;cKIYEOK-SIOS;cNIEUN;cNIEUN-CIEUC;cNIEUN-HIEUH;cTIKEUT;
    cSSANGTIKEUT;cRIEUL;cRIEUL-KIYEOK;cRIEUL-MIEUM;cRIEUL-PIEUP;cRIEUL-SIOS;cRIEUL-THIEUTH;
    cRIEUL-PHIEUPH;cRIEUL-HIEUH;cMIEUM;cPIEUP;cSSANGPIEUP;cPIEUP-SIOS;cSIOS;cSSANGSIOS;cIEUNG;
    cCIEUC;cSSANGCIEUC;cCHIEUCH;cKHIEUKH;cTHIEUTH;cPHIEUPH;cHIEUH;cA;cAE;cYA;cYAE;cEO;cE;cYEO;cYE;
    cO;cWA;cWAE;cOE;cYO;cU;cWEO;cWE;cWI;cYU;cEU;cYI;cI;bFILLER;bLETTER SSANGNIEUN;cNIEUN-TIKEUT;
    cNIEUN-SIOS;cNIEUN-PANSIOS;cRIEUL-KIYEOK-SIOS;cRIEUL-TIKEUT;cRIEUL-PIEUP-SIOS;cRIEUL-PANSIOS;
    cRIEUL-YEORINHIEUH;cMIEUM-PIEUP;cMIEUM-SIOS;cMIEUM-PANSIOS;cKAPYEOUNMIEUM;cPIEUP-KIYEOK;
    cPIEUP-TIKEUT;cPIEUP-SIOS-KIYEOK;cPIEUP-SIOS-TIKEUT;cPIEUP-CIEUC;cPIEUP-THIEUTH;cKAPYEOUNPIEUP;
    cKAPYEOUNSSANGPIEUP;cSIOS-KIYEOK;cSIOS-NIEUN;cSIOS-TIKEUT;cSIOS-PIEUP;cSIOS-CIEUC;cPANSIOS;
    cSSANGIEUNG;cYESIEUNG;cYESIEUNG-SIOS;cYESIEUNG-PANSIOS;cKAPYEOUNPHIEUPH;cSSANGHIEUH;
    cYEORINHIEUH;cYO-YA;cYO-YAE;cYO-I;cYU-YEO;cYU-YE;cYU-I;cARAEA;cARAEAE;1;
    IDEOGRAPHIC ANNOTATION LINKING MARK;cbREVERSE;cbONE;cbTWO;cbTHREE;cbFOUR;cbTOP;cbMIDDLE;
    cbBOTTOM;cbFIRST;cbSECOND;cbTHIRD;cbFOURTH;cbHEAVEN;cbEARTH;cbMAN;BOPOMOFO LETTER BU;cZI;cJI;
    cGU;cEE;cENN;cOO;cONN;cIR;cANN;cINN;cUNN;cIM;cNGG;cAINN;cAUNN;cAM;cOM;cONG;cINNN;
    bFINAL LETTER P;dT;dK;dH;bLETTER GH;cLH;cZY;bFINAL LETTER G;bLETTER GW;cKW;cOE;cAH;
    CJK STROKE T;cWG;cXG;cBXG;cSW;cHZZ;cHZG;cHP;cHZWG;cSZWG;cHZT;cHZZP;cHPWG;cHZW;cHZZZ;cN;cH;cS;
    cP;cSP;cD;cHZ;cHG;cSZ;cSWZ;cST;cSG;cPD;cPZ;cTN;cSZZ;cSWG;cHXWG;cHZZZG;cPG;cQ;12;
    KATAKANA LETTER SMALL KU;dSI;dSU;dTO;dNU;dHA;dHI;dHU;dHE;dHO;dMU;dRA;dRI;dRU;dRE;dRO;
    PARENTHESIZED HANGUL KIYEOK;cNIEUN;cTIKEUT;cRIEUL;cMIEUM;cPIEUP;cSIOS;cIEUNG;cCIEUC;cCHIEUCH;
    cKHIEUKH;cTHIEUTH;cPHIEUPH;cHIEUH;cKIYEOK A;cbNIEUN;cbTIKEUT;cbRIEUL;cbMIEUM;cbPIEUP;cbSIOS;
    cbIEUNG;cbCIEUC;cbCHIEUCH;cbKHIEUKH;cbTHIEUTH;cbPHIEUPH;cbHIEUH;cCIEUC U;
    bKOREAN CHARACTER OJEON;dO HU;1;bIDEOGRAPH ONE;cTWO;cTHREE;cFOUR;cFIVE;cSIX;cSEVEN;cEIGHT;
    cNINE;cTEN;cMOON;cFIRE;cWATER;cWOOD;cMETAL;cEARTH;cSUN;cSTOCK;cHAVE;cSOCIETY;cNAME;cSPECIAL;
    cFINANCIAL;cCONGRATULATION;cLABOR;cREPRESENT;cCALL;cSTUDY;cSUPERVISE;cENTERPRISE;cRESOURCE;
    cALLIANCE;cFESTIVAL;cREST;cSELF;cREACH;CIRCLED IDEOGRAPH QUESTION;cKINDERGARTEN;cSCHOOL;cKOTO;
    bNUMBER TEN ON BLACK SQUARE;cdTWENTY;cdTHIRTY;cdFORTY;cdFIFTY;cdSIXTY;cdSEVENTY;cdEIGHTY;
    PARTNERSHIP SIGN;CIRCLED NUMBER TWENTY ONE;dTWO;dTHREE;dFOUR;dFIVE;dSIX;dSEVEN;dEIGHT;dNINE;
    cTHIRTY;dONE;dTWO;dTHREE;dFOUR;dFIVE;bHANGUL KIYEOK;cNIEUN;cTIKEUT;cRIEUL;cMIEUM;cPIEUP;cSIOS;
    cIEUNG;cCIEUC;cCHIEUCH;cKHIEUKH;cTHIEUTH;cPHIEUPH;cHIEUH;cKIYEOK A;cbNIEUN;cbTIKEUT;cbRIEUL;
    cbMIEUM;cbPIEUP;cbSIOS;cbIEUNG;cbCIEUC;cbCHIEUCH;cbKHIEUKH;cbTHIEUTH;cbPHIEUPH;cbHIEUH;
    bKOREAN CHARACTER CHAMKO;dJUEUI;bHANGUL IEUNG U;KOREAN STANDARD SYMBOL;CIRCLED IDEOGRAPH ONE;
    cTWO;cTHREE;cFOUR;cFIVE;cSIX;cSEVEN;cEIGHT;cNINE;cTEN;cMOON;cFIRE;cWATER;cWOOD;cMETAL;cEARTH;
    cSUN;cSTOCK;cHAVE;cSOCIETY;cNAME;cSPECIAL;cFINANCIAL;cCONGRATULATION;cLABOR;cSECRET;cMALE;
    cFEMALE;cSUITABLE;cEXCELLENT;cPRINT;cATTENTION;cITEM;cREST;cCOPY;cCORRECT;cHIGH;cCENTRE;cLOW;
    cLEFT;cRIGHT;cMEDICINE;cRELIGION;cSTUDY;cSUPERVISE;cENTERPRISE;cRESOURCE;cALLIANCE;cNIGHT;
    bNUMBER THIRTY SIX;dSEVEN;dEIGHT;dNINE;cFORTY;dONE;dTWO;dTHREE;dFOUR;dFIVE;dSIX;dSEVEN;dEIGHT;
    dNINE;cFIFTY;IDEOGRAPHIC TELEGRAPH SYMBOL FOR JANUARY;eFEBRUARY;eMARCH;eAPRIL;eMAY;eJUNE;eJULY;
    eAUGUST;eSEPTEMBER;eOCTOBER;eNOVEMBER;eDECEMBER;SQUARE HG;bERG;bEV;LIMITED LIABILITY SIGN;
    CIRCLED KATAKANA A;cI;cU;cE;cO;cKA;cKI;cKU;cKE;cKO;cSA;cSI;cSU;cSE;cSO;cTA;cTI;cTU;cTE;cTO;cNA;
    cNI;cNU;cNE;cNO;cHA;cHI;cHU;cHE;cHO;cMA;cMI;cMU;cME;cMO;cYA;cYU;cYO;cRA;cRI;cRU;cRE;cRO;cWA;
    cWI;cWE;cWO;SQUARE ERA NAME REIWA;bAPAATO;bARUHUA;bANPEA;bAARU;bININGU;bINTI;bUON;bESUKUUDO;
    bEEKAA;bONSU;bOOMU;bKAIRI;bKARATTO;bKARORII;bGARON;bGANMA;bGIGA;bGINII;bKYURII;bGIRUDAA;bKIRO;
    bKIROGURAMU;bKIROMEETORU;bKIROWATTO;bGURAMU;bGURAMUTON;bKURUZEIRO;bKUROONE;bKEESU;bKORUNA;
    bKOOPO;bSAIKURU;bSANTIIMU;bSIRINGU;bSENTI;bSENTO;bDAASU;bDESI;bDORU;bTON;bNANO;bNOTTO;bHAITU;
    bPAASENTO;bPAATU;bBAARERU;bPIASUTORU;bPIKURU;bPIKO;bBIRU;bHUARADDO;bHUIITO;bBUSSYERU;bHURAN;
    bHEKUTAARU;bPESO;bPENIHI;bHERUTU;bPENSU;bPEEZI;bBEETA;bPOINTO;bBORUTO;bHON;bPONDO;bHOORU;bHOON;
    bMAIKURO;bMAIRU;bMAHHA;bMARUKU;bMANSYON;bMIKURON;bMIRI;bMIRIBAARU;bMEGA;bMEGATON;bMEETORU;
    bYAADO;bYAARU;bYUAN;bRITTORU;bRIRA;bRUPII;bRUUBURU;bREMU;bRENTOGEN;bWATTO;
    IDEOGRAPHIC TELEGRAPH SYMBOL FOR HOUR ZERO;fONE;fTWO;fTHREE;fFOUR;fFIVE;fSIX;fSEVEN;fEIGHT;
    fNINE;fTEN;fELEVEN;fTWELVE;fTHIRTEEN;fFOURTEEN;fFIFTEEN;fSIXTEEN;fSEVENTEEN;fEIGHTEEN;
    fNINETEEN;fTWENTY;fTWENTY-ONE;fTWENTY-TWO;fTWENTY-THREE;fTWENTY-FOUR;SQUARE HPA;bDA;bAU;bBAR;
    bOV;bPC;bDM;cSQUARED;cCUBED;bIU;bERA NAME HEISEI;dSYOUWA;dTAISYOU;dMEIZI;bCORPORATION;bPA AMPS;
    bNA;bMU A;bMA;bKA;bKB;bMB;bGB;bCAL;bKCAL;bPF;bNF;bMU F;cG;bMG;bKG;bHZ;bKHZ;bMHZ;bGHZ;bTHZ;
    bMU L;bML;bDL;bKL;bFM;bNM;bMU M;bMM;bCM;bKM;bMM SQUARED;bbCM;bbM;bbKM;bMM CUBED;bbCM;bbM;bbKM;
    bM OVER S;eSQUARED;bPA;bKPA;bMPA;bGPA;bRAD;cOVER S;eSQUARED;bPS;bNS;bMU S;bMS;bPV;bNV;bMU V;
    bMV;bKV;bMV MEGA;bPW;bNW;bMU W;bMW;bKW;bMW MEGA;bK OHM;bbM;bAM;bBQ;bCC;bCD;bC OVER KG;bCO;bDB;
    bGY;bHA;bHP;bIN;bKK;bKM CAPITAL;bKT;bLM;bLN;bLOG;bLX;bMB SMALL;bMIL;bMOL;bPH;bPM;bPPM;bPR;bSR;
    bSV;bWB;bV OVER M;bcA;IDEOGRAPHIC TELEGRAPH SYMBOL FOR DAY ONE;fTWO;fTHREE;fFOUR;fFIVE;fSIX;
    fSEVEN;fEIGHT;fNINE;fTEN;fELEVEN;fTWELVE;fTHIRTEEN;fFOURTEEN;fFIFTEEN;fSIXTEEN;fSEVENTEEN;
    fEIGHTEEN;fNINETEEN;fTWENTY;fTWENTY-ONE;fTWENTY-TWO;fTWENTY-THREE;fTWENTY-FOUR;fTWENTY-FIVE;
    fTWENTY-SIX;fTWENTY-SEVEN;fTWENTY-EIGHT;fTWENTY-NINE;fTHIRTY;fTHIRTY-ONE;SQUARE GAL;6592;
    HEXAGRAM FOR THE CREATIVE HEAVEN;dRECEPTIVE EARTH;cDIFFICULTY AT THE BEGINNING;cYOUTHFUL FOLLY;
    cWAITING;cCONFLICT;cTHE ARMY;cHOLDING TOGETHER;cSMALL TAMING;cTREADING;cPEACE;cSTANDSTILL;
    cFELLOWSHIP;cGREAT POSSESSION;cMODESTY;cENTHUSIASM;cFOLLOWING;cWORK ON THE DECAYED;cAPPROACH;
    cCONTEMPLATION;cBITING THROUGH;cGRACE;cSPLITTING APART;cRETURN;cINNOCENCE;cGREAT TAMING;
    cMOUTH CORNERS;cGREAT PREPONDERANCE;cTHE ABYSMAL WATER;dCLINGING FIRE;cINFLUENCE;cDURATION;
    cRETREAT;cGREAT POWER;cPROGRESS;cDARKENING OF THE LIGHT;cTHE FAMILY;cOPPOSITION;cOBSTRUCTION;
    cDELIVERANCE;cDECREASE;cINCREASE;cBREAKTHROUGH;cCOMING TO MEET;cGATHERING TOGETHER;
    cPUSHING UPWARD;cOPPRESSION;cTHE WELL;cREVOLUTION;cTHE CAULDRON;dAROUSING THUNDER;
    dKEEPING STILL MOUNTAIN;cDEVELOPMENT;cTHE MARRYING MAIDEN;cABUNDANCE;cTHE WANDERER;
    dGENTLE WIND;dJOYOUS LAKE;cDISPERSION;cLIMITATION;cINNER TRUTH;cSMALL PREPONDERANCE;
    cAFTER COMPLETION;cbBEFORE;20992;YI SYLLABLE IT;cIX;cI;cIP;cIET;cIEX;cIE;cIEP;cAT;cAX;cA;cAP;
    cUOX;cUO;cUOP;cOT;cOX;cO;cOP;cEX;cE;cWU;cBIT;cBIX;cBI;cBIP;cBIET;cBIEX;cBIE;cBIEP;cBAT;cBAX;
    cBA;cBAP;cBUOX;cBUO;cBUOP;cBOT;cBOX;cBO;cBOP;cBEX;cBE;cBEP;cBUT;cBUX;cBU;cBUP;cBURX;cBUR;cBYT;
    cBYX;cBY;cBYP;cBYRX;cBYR;cPIT;cPIX;cPI;cPIP;cPIEX;cPIE;cPIEP;cPAT;cPAX;cPA;cPAP;cPUOX;cPUO;
    cPUOP;cPOT;cPOX;cPO;cPOP;cPUT;cPUX;cPU;cPUP;cPURX;cPUR;cPYT;cPYX;cPY;cPYP;cPYRX;cPYR;cBBIT;
    cBBIX;cBBI;cBBIP;cBBIET;cBBIEX;cBBIE;cBBIEP;cBBAT;cBBAX;cBBA;cBBAP;cBBUOX;cBBUO;cBBUOP;cBBOT;
    cBBOX;cBBO;cBBOP;cBBEX;cBBE;cBBEP;cBBUT;cBBUX;cBBU;cBBUP;cBBURX;cBBUR;cBBYT;cBBYX;cBBY;cBBYP;
    cNBIT;cNBIX;cNBI;cNBIP;cNBIEX;cNBIE;cNBIEP;cNBAT;cNBAX;cNBA;cNBAP;cNBOT;cNBOX;cNBO;cNBOP;cNBUT;
    cNBUX;cNBU;cNBUP;cNBURX;cNBUR;cNBYT;cNBYX;cNBY;cNBYP;cNBYRX;cNBYR;cHMIT;cHMIX;cHMI;cHMIP;
    cHMIEX;cHMIE;cHMIEP;cHMAT;cHMAX;cHMA;cHMAP;cHMUOX;cHMUO;cHMUOP;cHMOT;cHMOX;cHMO;cHMOP;cHMUT;
    cHMUX;cHMU;cHMUP;cHMURX;cHMUR;cHMYX;cHMY;cHMYP;cHMYRX;cHMYR;cMIT;cMIX;cMI;cMIP;cMIEX;cMIE;
    cMIEP;cMAT;cMAX;cMA;cMAP;cMUOT;cMUOX;cMUO;cMUOP;cMOT;cMOX;cMO;cMOP;cMEX;cME;cMUT;cMUX;cMU;cMUP;
    cMURX;cMUR;cMYT;cMYX;cMY;cMYP;cFIT;cFIX;cFI;cFIP;cFAT;cFAX;cFA;cFAP;cFOX;cFO;cFOP;cFUT;cFUX;
    cFU;cFUP;cFURX;cFUR;cFYT;cFYX;cFY;cFYP;cVIT;cVIX;cVI;cVIP;cVIET;cVIEX;cVIE;cVIEP;cVAT;cVAX;cVA;
    cVAP;cVOT;cVOX;cVO;cVOP;cVEX;cVEP;cVUT;cVUX;cVU;cVUP;cVURX;cVUR;cVYT;cVYX;cVY;cVYP;cVYRX;cVYR;
    cDIT;cDIX;cDI;cDIP;cDIEX;cDIE;cDIEP;cDAT;cDAX;cDA;cDAP;cDUOX;cDUO;cDOT;cDOX;cDO;cDOP;cDEX;cDE;
    cDEP;cDUT;cDUX;cDU;cDUP;cDURX;cDUR;cTIT;cTIX;cTI;cTIP;cTIEX;cTIE;cTIEP;cTAT;cTAX;cTA;cTAP;
    cTUOT;cTUOX;cTUO;cTUOP;cTOT;cTOX;cTO;cTOP;cTEX;cTE;cTEP;cTUT;cTUX;cTU;cTUP;cTURX;cTUR;cDDIT;
    cDDIX;cDDI;cDDIP;cDDIEX;cDDIE;cDDIEP;cDDAT;cDDAX;cDDA;cDDAP;cDDUOX;cDDUO;cDDUOP;cDDOT;cDDOX;
    cDDO;cDDOP;cDDEX;cDDE;cDDEP;cDDUT;cDDUX;cDDU;cDDUP;cDDURX;cDDUR;cNDIT;cNDIX;cNDI;cNDIP;cNDIEX;
    cNDIE;cNDAT;cNDAX;cNDA;cNDAP;cNDOT;cNDOX;cNDO;cNDOP;cNDEX;cNDE;cNDEP;cNDUT;cNDUX;cNDU;cNDUP;
    cNDURX;cNDUR;cHNIT;cHNIX;cHNI;cHNIP;cHNIET;cHNIEX;cHNIE;cHNIEP;cHNAT;cHNAX;cHNA;cHNAP;cHNUOX;
    cHNUO;cHNOT;cHNOX;cHNOP;cHNEX;cHNE;cHNEP;cHNUT;cNIT;cNIX;cNI;cNIP;cNIEX;cNIE;cNIEP;cNAX;cNA;
    cNAP;cNUOX;cNUO;cNUOP;cNOT;cNOX;cNO;cNOP;cNEX;cNE;cNEP;cNUT;cNUX;cNU;cNUP;cNURX;cNUR;cHLIT;
    cHLIX;cHLI;cHLIP;cHLIEX;cHLIE;cHLIEP;cHLAT;cHLAX;cHLA;cHLAP;cHLUOX;cHLUO;cHLUOP;cHLOX;cHLO;
    cHLOP;cHLEX;cHLE;cHLEP;cHLUT;cHLUX;cHLU;cHLUP;cHLURX;cHLUR;cHLYT;cHLYX;cHLY;cHLYP;cHLYRX;cHLYR;
    cLIT;cLIX;cLI;cLIP;cLIET;cLIEX;cLIE;cLIEP;cLAT;cLAX;cLA;cLAP;cLUOT;cLUOX;cLUO;cLUOP;cLOT;cLOX;
    cLO;cLOP;cLEX;cLE;cLEP;cLUT;cLUX;cLU;cLUP;cLURX;cLUR;cLYT;cLYX;cLY;cLYP;cLYRX;cLYR;cGIT;cGIX;
    cGI;cGIP;cGIET;cGIEX;cGIE;cGIEP;cGAT;cGAX;cGA;cGAP;cGUOT;cGUOX;cGUO;cGUOP;cGOT;cGOX;cGO;cGOP;
    cGET;cGEX;cGE;cGEP;cGUT;cGUX;cGU;cGUP;cGURX;cGUR;cKIT;cKIX;cKI;cKIP;cKIEX;cKIE;cKIEP;cKAT;cKAX;
    cKA;cKAP;cKUOX;cKUO;cKUOP;cKOT;cKOX;cKO;cKOP;cKET;cKEX;cKE;cKEP;cKUT;cKUX;cKU;cKUP;cKURX;cKUR;
    cGGIT;cGGIX;cGGI;cGGIEX;cGGIE;cGGIEP;cGGAT;cGGAX;cGGA;cGGAP;cGGUOT;cGGUOX;cGGUO;cGGUOP;cGGOT;
    cGGOX;cGGO;cGGOP;cGGET;cGGEX;cGGE;cGGEP;cGGUT;cGGUX;cGGU;cGGUP;cGGURX;cGGUR;cMGIEX;cMGIE;cMGAT;
    cMGAX;cMGA;cMGAP;cMGUOX;cMGUO;cMGUOP;cMGOT;cMGOX;cMGO;cMGOP;cMGEX;cMGE;cMGEP;cMGUT;cMGUX;cMGU;
    cMGUP;cMGURX;cMGUR;cHXIT;cHXIX;cHXI;cHXIP;cHXIET;cHXIEX;cHXIE;cHXIEP;cHXAT;cHXAX;cHXA;cHXAP;
    cHXUOT;cHXUOX;cHXUO;cHXUOP;cHXOT;cHXOX;cHXO;cHXOP;cHXEX;cHXE;cHXEP;cNGIEX;cNGIE;cNGIEP;cNGAT;
    cNGAX;cNGA;cNGAP;cNGUOT;cNGUOX;cNGUO;cNGOT;cNGOX;cNGO;cNGOP;cNGEX;cNGE;cNGEP;cHIT;cHIEX;cHIE;
    cHAT;cHAX;cHA;cHAP;cHUOT;cHUOX;cHUO;cHUOP;cHOT;cHOX;cHO;cHOP;cHEX;cHE;cHEP;cWAT;cWAX;cWA;cWAP;
    cWUOX;cWUO;cWUOP;cWOX;cWO;cWOP;cWEX;cWE;cWEP;cZIT;cZIX;cZI;cZIP;cZIEX;cZIE;cZIEP;cZAT;cZAX;cZA;
    cZAP;cZUOX;cZUO;cZUOP;cZOT;cZOX;cZO;cZOP;cZEX;cZE;cZEP;cZUT;cZUX;cZU;cZUP;cZURX;cZUR;cZYT;cZYX;
    cZY;cZYP;cZYRX;cZYR;cCIT;cCIX;cCI;cCIP;cCIET;cCIEX;cCIE;cCIEP;cCAT;cCAX;cCA;cCAP;cCUOX;cCUO;
    cCUOP;cCOT;cCOX;cCO;cCOP;cCEX;cCE;cCEP;cCUT;cCUX;cCU;cCUP;cCURX;cCUR;cCYT;cCYX;cCY;cCYP;cCYRX;
    cCYR;cZZIT;cZZIX;cZZI;cZZIP;cZZIET;cZZIEX;cZZIE;cZZIEP;cZZAT;cZZAX;cZZA;cZZAP;cZZOX;cZZO;cZZOP;
    cZZEX;cZZE;cZZEP;cZZUX;cZZU;cZZUP;cZZURX;cZZUR;cZZYT;cZZYX;cZZY;cZZYP;cZZYRX;cZZYR;cNZIT;cNZIX;
    cNZI;cNZIP;cNZIEX;cNZIE;cNZIEP;cNZAT;cNZAX;cNZA;cNZAP;cNZUOX;cNZUO;cNZOX;cNZOP;cNZEX;cNZE;
    cNZUX;cNZU;cNZUP;cNZURX;cNZUR;cNZYT;cNZYX;cNZY;cNZYP;cNZYRX;cNZYR;cSIT;cSIX;cSI;cSIP;cSIEX;
    cSIE;cSIEP;cSAT;cSAX;cSA;cSAP;cSUOX;cSUO;cSUOP;cSOT;cSOX;cSO;cSOP;cSEX;cSE;cSEP;cSUT;cSUX;cSU;
    cSUP;cSURX;cSUR;cSYT;cSYX;cSY;cSYP;cSYRX;cSYR;cSSIT;cSSIX;cSSI;cSSIP;cSSIEX;cSSIE;cSSIEP;cSSAT;
    cSSAX;cSSA;cSSAP;cSSOT;cSSOX;cSSO;cSSOP;cSSEX;cSSE;cSSEP;cSSUT;cSSUX;cSSU;cSSUP;cSSYT;cSSYX;
    cSSY;cSSYP;cSSYRX;cSSYR;cZHAT;cZHAX;cZHA;cZHAP;cZHUOX;cZHUO;cZHUOP;cZHOT;cZHOX;cZHO;cZHOP;
    cZHET;cZHEX;cZHE;cZHEP;cZHUT;cZHUX;cZHU;cZHUP;cZHURX;cZHUR;cZHYT;cZHYX;cZHY;cZHYP;cZHYRX;cZHYR;
    cCHAT;cCHAX;cCHA;cCHAP;cCHUOT;cCHUOX;cCHUO;cCHUOP;cCHOT;cCHOX;cCHO;cCHOP;cCHET;cCHEX;cCHE;
    cCHEP;cCHUX;cCHU;cCHUP;cCHURX;cCHUR;cCHYT;cCHYX;cCHY;cCHYP;cCHYRX;cCHYR;cRRAX;cRRA;cRRUOX;
    cRRUO;cRROT;cRROX;cRRO;cRROP;cRRET;cRREX;cRRE;cRREP;cRRUT;cRRUX;cRRU;cRRUP;cRRURX;cRRUR;cRRYT;
    cRRYX;cRRY;cRRYP;cRRYRX;cRRYR;cNRAT;cNRAX;cNRA;cNRAP;cNROX;cNRO;cNROP;cNRET;cNREX;cNRE;cNREP;
    cNRUT;cNRUX;cNRU;cNRUP;cNRURX;cNRUR;cNRYT;cNRYX;cNRY;cNRYP;cNRYRX;cNRYR;cSHAT;cSHAX;cSHA;cSHAP;
    cSHUOX;cSHUO;cSHUOP;cSHOT;cSHOX;cSHO;cSHOP;cSHET;cSHEX;cSHE;cSHEP;cSHUT;cSHUX;cSHU;cSHUP;
    cSHURX;cSHUR;cSHYT;cSHYX;cSHY;cSHYP;cSHYRX;cSHYR;cRAT;cRAX;cRA;cRAP;cRUOX;cRUO;cRUOP;cROT;cROX;
    cRO;cROP;cREX;cRE;cREP;cRUT;cRUX;cRU;cRUP;cRURX;cRUR;cRYT;cRYX;cRY;cRYP;cRYRX;cRYR;cJIT;cJIX;
    cJI;cJIP;cJIET;cJIEX;cJIE;cJIEP;cJUOT;cJUOX;cJUO;cJUOP;cJOT;cJOX;cJO;cJOP;cJUT;cJUX;cJU;cJUP;
    cJURX;cJUR;cJYT;cJYX;cJY;cJYP;cJYRX;cJYR;cQIT;cQIX;cQI;cQIP;cQIET;cQIEX;cQIE;cQIEP;cQUOT;cQUOX;
    cQUO;cQUOP;cQOT;cQOX;cQO;cQOP;cQUT;cQUX;cQU;cQUP;cQURX;cQUR;cQYT;cQYX;cQY;cQYP;cQYRX;cQYR;
    cJJIT;cJJIX;cJJI;cJJIP;cJJIET;cJJIEX;cJJIE;cJJIEP;cJJUOX;cJJUO;cJJUOP;cJJOT;cJJOX;cJJO;cJJOP;
    cJJUT;cJJUX;cJJU;cJJUP;cJJURX;cJJUR;cJJYT;cJJYX;cJJY;cJJYP;cNJIT;cNJIX;cNJI;cNJIP;cNJIET;
    cNJIEX;cNJIE;cNJIEP;cNJUOX;cNJUO;cNJOT;cNJOX;cNJO;cNJOP;cNJUX;cNJU;cNJUP;cNJURX;cNJUR;cNJYT;
    cNJYX;cNJY;cNJYP;cNJYRX;cNJYR;cNYIT;cNYIX;cNYI;cNYIP;cNYIET;cNYIEX;cNYIE;cNYIEP;cNYUOX;cNYUO;
    cNYUOP;cNYOT;cNYOX;cNYO;cNYOP;cNYUT;cNYUX;cNYU;cNYUP;cXIT;cXIX;cXI;cXIP;cXIET;cXIEX;cXIE;cXIEP;
    cXUOX;cXUO;cXOT;cXOX;cXO;cXOP;cXYT;cXYX;cXY;cXYP;cXYRX;cXYR;cYIT;cYIX;cYI;cYIP;cYIET;cYIEX;
    cYIE;cYIEP;cYUOT;cYUOX;cYUO;cYUOP;cYOT;cYOX;cYO;cYOP;cYUT;cYUX;cYU;cYUP;cYURX;cYUR;cYYT;cYYX;
    cYY;cYYP;cYYRX;cYYR;3;bRADICAL QOT;cLI;cKIT;cNYIP;cCYP;cSSI;cGGOP;cGEP;cMI;cHXIT;cLYR;cBBUT;
    cMOP;cYO;cPUT;cHXUO;cTAT;cGA;cZUP;cCYT;cDDUR;cBUR;cGGUO;cNYOP;cTU;cOP;cJJUT;cZOT;cPYT;cHMO;
    cYIT;cVUR;cSHY;cVEP;cZA;cJO;cNZUP;cJJY;cGOT;cJJIE;cWO;cDU;cSHUR;cLIE;cCY;cCUOP;cCIP;cHXOP;
    cSHAT;cZUR;cSHOP;cCHE;cZZIET;cNBIE;cKE;9;LISU LETTER BA;cPA;cPHA;cDA;cTA;cTHA;cGA;cKA;cKHA;cJA;
    cCA;cCHA;cDZA;cTSA;cTSHA;cMA;cNA;cLA;cSA;cZHA;cZA;cNGA;cHA;cXA;cHHA;cFA;cWA;cSHA;cYA;cGHA;cA;
    cAE;cE;cEU;cI;cO;cU;cUE;cUH;cOE;cTONE MYA TI;dNA PO;dMYA CYA;eBO;eNA;eJEU;bPUNCTUATION COMMA;
    cFULL STOP;VAI SYLLABLE EE;cEEN;cHEE;cWEE;cWEEN;cPEE;cBHEE;cBEE;cMBEE;cKPEE;cMGBEE;cGBEE;cFEE;
    cVEE;cTEE;cTHEE;cDHEE;cDHHEE;cLEE;cREE;cDEE;cNDEE;cSEE;cSHEE;cZEE;cZHEE;cCEE;cJEE;cNJEE;cYEE;
    cKEE;cNGGEE;cGEE;cMEE;cNEE;cNYEE;cI;cIN;cHI;cHIN;cWI;cWIN;cPI;cBHI;cBI;cMBI;cKPI;cMGBI;cGBI;
    cFI;cVI;cTI;cTHI;cDHI;cDHHI;cLI;cRI;cDI;cNDI;cSI;cSHI;cZI;cZHI;cCI;cJI;cNJI;cYI;cKI;cNGGI;cGI;
    cMI;cNI;cNYI;cA;cAN;cNGAN;cHA;cHAN;cWA;cWAN;cPA;cBHA;cBA;cMBA;cKPA;cKPAN;cMGBA;cGBA;cFA;cVA;
    cTA;cTHA;cDHA;cDHHA;cLA;cRA;cDA;cNDA;cSA;cSHA;cZA;cZHA;cCA;cJA;cNJA;cYA;cKA;cKAN;cNGGA;cGA;cMA;
    cNA;cNYA;cOO;cOON;cHOO;cWOO;cWOON;cPOO;cBHOO;cBOO;cMBOO;cKPOO;cMGBOO;cGBOO;cFOO;cVOO;cTOO;
    cTHOO;cDHOO;cDHHOO;cLOO;cROO;cDOO;cNDOO;cSOO;cSHOO;cZOO;cZHOO;cCOO;cJOO;cNJOO;cYOO;cKOO;cNGGOO;
    cGOO;cMOO;cNOO;cNYOO;cU;cUN;cHU;cHUN;cWU;cWUN;cPU;cBHU;cBU;cMBU;cKPU;cMGBU;cGBU;cFU;cVU;cTU;
    cTHU;cDHU;cDHHU;cLU;cRU;cDU;cNDU;cSU;cSHU;cZU;cZHU;cCU;cJU;cNJU;cYU;cKU;cNGGU;cGU;cMU;cNU;cNYU;
    cO;cON;cNGON;cHO;cHON;cWO;cWON;cPO;cBHO;cBO;cMBO;cKPO;cMGBO;cGBO;cGBON;cFO;cVO;cTO;cTHO;cDHO;
    cDHHO;cLO;cRO;cDO;cNDO;cSO;cSHO;cZO;cZHO;cCO;cJO;cNJO;cYO;cKO;cNGGO;cGO;cMO;cNO;cNYO;cE;cEN;
    cNGEN;cHE;cHEN;cWE;cWEN;cPE;cBHE;cBE;cMBE;cKPE;cKPEN;cMGBE;cGBE;cGBEN;cFE;cVE;cTE;cTHE;cDHE;
    cDHHE;cLE;cRE;cDE;cNDE;cSE;cSHE;cZE;cZHE;cCE;cJE;cNJE;cYE;cKE;cNGGE;cNGGEN;cGE;cGEN;cME;cNE;
    cNYE;cNG;cLENGTHENER;bCOMMA;bFULL STOP;bQUESTION MARK;bSYLLABLE NDOLE FA;dKA;dSOO;
    bSYMBOL FEENG;cKEENG;cTING;cNII;cBANG;cFAA;cTAA;cDANG;cDOONG;cKUNG;cTONG;cDO-O;cJONG;
    bDIGIT ZERO;cONE;cTWO;cTHREE;cFOUR;cFIVE;cSIX;cSEVEN;cEIGHT;cNINE;bSYLLABLE NDOLE MA;dDO;20;
    CYRILLIC CAPITAL LETTER ZEMLYA;bcSMALL;bCAPITAL LETTER DZELO;bcSMALL;
    bCAPITAL LETTER REVERSED DZE;bdSMALL;bCAPITAL LETTER IOTA;bcSMALL;bCAPITAL LETTER DJERV;
    bcSMALL;bCAPITAL LETTER MONOGRAPH UK;bdSMALL;bCAPITAL LETTER BROAD OMEGA;bdSMALL;
    bCAPITAL LETTER NEUTRAL YER;bdSMALL;bbCAPITAL LETTER YERU WITH BACK;bfSMALL;
    bCAPITAL LETTER IOTIFIED YAT;bdSMALL;bCAPITAL LETTER REVERSED YU;bdSMALL;
    bCAPITAL LETTER IOTIFIED A;bdSMALL;bCAPITAL LETTER CLOSED LITTLE YUS;beSMALL;
    bbCAPITAL LETTER BLENDED;bdSMALL;bbCAPITAL LETTER IOTIFIED CLOSED LITTLE;bfSMALL;
    bCAPITAL LETTER YN;bcSMALL;bCAPITAL LETTER REVERSED TSE;bdSMALL;bCAPITAL LETTER SOFT DE;
    bdSMALL;bCAPITAL LETTER SOFT EL;bdSMALL;bCAPITAL LETTER SOFT EM;bdSMALL;
    bCAPITAL LETTER MONOCULAR O;bdSMALL;bbCAPITAL LETTER BINOCULAR;bdSMALL;
    bbCAPITAL LETTER DOUBLE MONOCULAR;beSMALL;bbLETTER MULTIOCULAR;COMBINING CYRILLIC VZMET;
    cTEN MILLIONS SIGN;ccHUNDRED;ccTHOUSAND;SLAVONIC ASTERISK;
    COMBINING CYRILLIC LETTER UKRAINIAN IE;dI;dYI;dU;dHARD SIGN;dYERU;dSOFT SIGN;dOMEGA;cKAVYKA;
    cPAYEROK;CYRILLIC KAVYKA;bPAYEROK;bCAPITAL LETTER DWE;bcSMALL;bCAPITAL LETTER DZWE;bcSMALL;
    bCAPITAL LETTER ZHWE;bcSMALL;bCAPITAL LETTER CCHE;bcSMALL;bCAPITAL LETTER DZZE;bcSMALL;
    bCAPITAL LETTER TE WITH MIDDLE HOOK;bfSMALL;bCAPITAL LETTER TWE;bcSMALL;bCAPITAL LETTER TSWE;
    bcSMALL;bCAPITAL LETTER TSSE;bcSMALL;bCAPITAL LETTER TCHE;bcSMALL;bCAPITAL LETTER HWE;bcSMALL;
    bCAPITAL LETTER SHWE;bcSMALL;bCAPITAL LETTER DOUBLE O;bdSMALL;bbCAPITAL LETTER CROSSED;bdSMALL;
    MODIFIER LETTER CYRILLIC HARD SIGN;dbSOFT;COMBINING CYRILLIC LETTER EF;dIOTIFIED E;
    BAMUM LETTER A;cKA;cU;cKU;cEE;cREE;cTAE;cO;cNYI;cI;cLA;cPA;cRII;cRIEE;cLEEEE;cMEEEE;cTAA;cNDAA;
    cNJAEM;cM;cSUU;cMU;cSHII;cSI;cSHEUX;cSEUX;cKYEE;cKET;cNUAE;cNU;cNJUAE;cYOQ;cSHU;cYUQ;cYA;cNSHA;
    cKEUX;cPEUX;cNJEE;cNTEE;cPUE;cWUE;cPEE;cFEE;cRU;cLU;cMI;cNI;cREUX;cRAE;cKEN;cNGKWAEN;cNGGA;
    cNGA;cSHO;cPUAE;cFU;cFOM;cWA;cNA;cLI;cPI;cLOQ;cKO;cMBEN;cREN;cMEN;cMA;cTI;cKI;cMO;cMBAA;cTET;
    cKPA;cTEN;cNTUU;cSAMBA;cFAAMAE;cKOVUU;cKOGHOM;bCOMBINING MARK KOQNDON;dTUKWENTIS;bNJAEMLI;
    bFULL STOP;bCOLON;bCOMMA;bSEMICOLON;bQUESTION MARK;8;MODIFIER LETTER CHINESE TONE YIN PING;
    ebYANG;eYIN SHANG;ebYANG;eYIN QU;ebYANG;eYIN RU;ebYANG;cEXTRA-HIGH DOTTED TONE BAR;cdHIGH;
    cdMID;cdLOW;cdEXTRA-LOW;ccEXTRA-HIGH DOTTED LEFT-STEM;ceHIGH;ceMID;ceLOW;ceEXTRA-LOW;
    cdEXTRA-HIGH;cdHIGH;cdMID;cdLOW;cdEXTRA-LOW;cbDOT VERTICAL;dSLASH;dHORIZONTAL BAR;
    cLOWER RIGHT CORNER ANGLE;cRAISED UP ARROW;dbDOWN;dEXCLAMATION MARK;dcINVERTED;cdLOW;
    cSTRESS AND HIGH TONE;ebLOW;LATIN CAPITAL LETTER EGYPTOLOGICAL ALEF;bdSMALL;
    bCAPITAL LETTER EGYPTOLOGICAL AIN;bdSMALL;bCAPITAL LETTER HENG;bcSMALL;bCAPITAL LETTER TZ;
    bcSMALL;bCAPITAL LETTER TRESILLO;bcSMALL;bCAPITAL LETTER CUATRILLO;bcSMALL;
    bCAPITAL LETTER CUATRILLO WITH COMMA;beSMALL;bLETTER SMALL CAPITAL F;eS;bCAPITAL LETTER AA;
    bcSMALL;bCAPITAL LETTER AO;bcSMALL;bCAPITAL LETTER AU;bcSMALL;bCAPITAL LETTER AV;bcSMALL;
    bCAPITAL LETTER AV WITH HORIZONTAL BAR;bfSMALL;bCAPITAL LETTER AY;bcSMALL;
    bCAPITAL LETTER REVERSED C WITH DOT;bfSMALL;bCAPITAL LETTER K WITH STROKE;beSMALL;
    bbCAPITAL LETTER K WITH DIAGONAL;bfSMALL;bcCAPITAL LETTER K WITH STROKE AND;bhSMALL;
    bCAPITAL LETTER BROKEN L;bdSMALL;bCAPITAL LETTER L WITH HIGH STROKE;bfSMALL;
    bCAPITAL LETTER O WITH LONG STROKE OVERLAY;bgSMALL;bCAPITAL LETTER O WITH LOOP;beSMALL;
    bCAPITAL LETTER OO;bcSMALL;bCAPITAL LETTER P WITH STROKE THROUGH DESCENDER;bgSMALL;
    bCAPITAL LETTER P WITH FLOURISH;beSMALL;bCAPITAL LETTER P WITH SQUIRREL TAIL;bfSMALL;
    bCAPITAL LETTER Q WITH STROKE THROUGH DESCENDER;bgSMALL;bCAPITAL LETTER Q WITH DIAGONAL STROKE;
    bfSMALL;bCAPITAL LETTER R ROTUNDA;bdSMALL;bbCAPITAL LETTER RUM;bdSMALL;
    bCAPITAL LETTER V WITH DIAGONAL STROKE;bfSMALL;bCAPITAL LETTER VY;bcSMALL;
    bCAPITAL LETTER VISIGOTHIC Z;bdSMALL;bCAPITAL LETTER THORN WITH STROKE;beSMALL;
    bCAPITAL LETTER THORN WITH STROKE THROUGH DESCENDER;bgSMALL;bCAPITAL LETTER VEND;bcSMALL;
    bCAPITAL LETTER ET;bcSMALL;bCAPITAL LETTER IS;bcSMALL;bCAPITAL LETTER CON;bcSMALL;
    MODIFIER LETTER US;LATIN SMALL LETTER DUM;dLUM;dMUM;dNUM;dRUM;bbLETTER SMALL CAPITAL;
    bSMALL LETTER TUM;dUM;bCAPITAL LETTER INSULAR D;bdSMALL;bCAPITAL LETTER INSULAR F;bdSMALL;
    bCAPITAL LETTER INSULAR G;dcTURNED;beSMALL;bCAPITAL LETTER TURNED L;bdSMALL;
    bCAPITAL LETTER INSULAR R;bdSMALL;bCAPITAL LETTER INSULAR S;bdSMALL;bCAPITAL LETTER INSULAR T;
    bdSMALL;MODIFIER LETTER LOW CIRCUMFLEX ACCENT;cCOLON;cSHORT EQUALS SIGN;
    LATIN CAPITAL LETTER SALTILLO;bcSMALL;bCAPITAL LETTER TURNED H;
    bSMALL LETTER L WITH RETROFLEX HOOK AND BELT;bLETTER SINOLOGICAL DOT;
    bCAPITAL LETTER N WITH DESCENDER;beSMALL;bCAPITAL LETTER C WITH BAR;beSMALL;fPALATAL HOOK;ddH;
    bCAPITAL LETTER B WITH FLOURISH;beSMALL;bCAPITAL LETTER F WITH STROKE;beSMALL;
    bCAPITAL LETTER VOLAPUK AE;bdSMALL;bCAPITAL LETTER VOLAPUK OE;bdSMALL;
    bCAPITAL LETTER VOLAPUK UE;bdSMALL;bCAPITAL LETTER G WITH OBLIQUE STROKE;bfSMALL;
    bdCAPITAL LETTER K;bfSMALL;bdCAPITAL LETTER N;bfSMALL;bdCAPITAL LETTER R;bfSMALL;
    bdCAPITAL LETTER S;bfSMALL;bCAPITAL LETTER H WITH HOOK;dREVERSED OPEN E;dSCRIPT G;dL WITH BELT;
    dSMALL CAPITAL I;bLETTER SMALL CAPITAL Q;bCAPITAL LETTER TURNED K;eT;dJ WITH CROSSED-TAIL;dCHI;
    dBETA;bcSMALL;bCAPITAL LETTER OMEGA;bcSMALL;bCAPITAL LETTER U WITH STROKE;beSMALL;
    bCAPITAL LETTER GLOTTAL A;bdSMALL;bCAPITAL LETTER GLOTTAL I;bdSMALL;bCAPITAL LETTER GLOTTAL U;
    bdSMALL;bCAPITAL LETTER OLD POLISH O;beSMALL;bCAPITAL LETTER ANGLICANA W;bdSMALL;
    bCAPITAL LETTER C WITH PALATAL HOOK;dbS WITH;dbZ WITH PALATAL;dD WITH SHORT STROKE OVERLAY;
    bgSMALL;beCAPITAL LETTER S;bgSMALL;5;bCAPITAL LETTER CLOSED INSULAR G;beSMALL;1;dDOUBLE THORN;
    1;eWYNN;bCAPITAL LETTER MIDDLE SCOTS S;beSMALL;bbCAPITAL LETTER SIGMOID;bdSMALL;24;
    MODIFIER LETTER CAPITAL C;dF;dQ;LATIN CAPITAL LETTER REVERSED HALF H;beSMALL;
    bEPIGRAPHIC LETTER SIDEWAYS I;MODIFIER LETTER CAPITAL H WITH STROKE;cSMALL LIGATURE OE;
    LATIN LETTER SMALL CAPITAL TURNED M;bEPIGRAPHIC LETTER REVERSED F;eP;dINVERTED M;dI LONGA;
    dARCHAIC M;SYLOTI NAGRI LETTER A;dI;cSIGN DVISVARA;cLETTER U;dE;dO;cSIGN HASANTA;cLETTER KO;
    dKHO;dGO;dGHO;cSIGN ANUSVARA;cLETTER CO;dCHO;dJO;dJHO;dTTO;dTTHO;dDDO;dDDHO;dTO;dTHO;dDO;dDHO;
    dNO;dPO;dPHO;dBO;dBHO;dMO;dRO;dLO;dRRO;dSO;dHO;cVOWEL SIGN A;eI;eU;eE;eOO;cPOETRY MARK-1;
    dMARK-2;dMARK-3;dMARK-4;cSIGN ALTERNATE HASANTA;3;NORTH INDIC FRACTION ONE QUARTER;eHALF;
    dTHREE QUARTERS;dONE SIXTEENTH;eEIGHTH;dTHREE SIXTEENTHS;cQUARTER MARK;cbPLACEHOLDER;cbRUPEE;
    cbQUANTITY;6;PHAGS-PA LETTER KA;cKHA;cGA;cNGA;cCA;cCHA;cJA;cNYA;cTA;cTHA;cDA;cNA;cPA;cPHA;cBA;
    cMA;cTSA;cTSHA;cDZA;cWA;cZHA;cZA;cSMALL A;cYA;cRA;cLA;cSHA;cSA;cHA;cA;cI;cU;cE;cO;cQA;cXA;cFA;
    cGGA;cEE;bSUBJOINED LETTER WA;dYA;bLETTER TTA;cTTHA;cDDA;cNNA;cALTERNATE YA;cVOICELESS SHA;
    cVOICED HA;cASPIRATED FA;bSUBJOINED LETTER RA;bcSUPERFIXED;bLETTER CANDRABINDU;
    bSINGLE HEAD MARK;bcDOUBLE;bMARK SHAD;cbDOUBLE;8;SAURASHTRA SIGN ANUSVARA;cVISARGA;bLETTER A;
    cAA;cI;cII;cU;cUU;cVOCALIC R;dRR;dL;dLL;cE;cEE;cAI;cO;cOO;cAU;cKA;cKHA;cGA;cGHA;cNGA;cCA;cCHA;
    cJA;cJHA;cNYA;cTTA;cTTHA;cDDA;cDDHA;cNNA;cTA;cTHA;cDA;cDHA;cNA;cPA;cPHA;cBA;cBHA;cMA;cYA;cRA;
    cLA;cVA;cSHA;cSSA;cSA;cHA;cLLA;bCONSONANT SIGN HAARU;bVOWEL SIGN AA;dI;dII;dU;dUU;dVOCALIC R;
    eRR;eL;eLL;dE;dEE;dAI;dO;dOO;dAU;bSIGN VIRAMA;cCANDRABINDU;8;bDANDA;bbDOUBLE;bDIGIT ZERO;cONE;
    cTWO;cTHREE;cFOUR;cFIVE;cSIX;cSEVEN;cEIGHT;cNINE;6;COMBINING DEVANAGARI DIGIT ZERO;dONE;dTWO;
    dTHREE;dFOUR;dFIVE;dSIX;dSEVEN;dEIGHT;dNINE;cLETTER A;dU;dKA;dNA;dPA;dRA;dVI;cSIGN AVAGRAHA;
    DEVANAGARI SIGN SPACING CANDRABINDU;cCANDRABINDU VIRAMA;ccDOUBLE;cCANDRABINDU TWO;dTHREE;
    dAVAGRAHA;cPUSHPIKA;bGAP FILLER;bCARET;bHEADSTROKE;bSIGN SIDDHAM;bJAIN OM;bLETTER AY;
    bbVOWEL SIGN;KAYAH LI DIGIT ZERO;dONE;dTWO;dTHREE;dFOUR;dFIVE;dSIX;dSEVEN;dEIGHT;dNINE;
    cLETTER KA;dKHA;dGA;dNGA;dSA;dSHA;dZA;dNYA;dTA;dHTA;dNA;dPA;dPHA;dMA;dDA;dBA;dRA;dYA;dLA;dWA;
    dTHA;dHA;dVA;dCA;dA;dOE;dI;dOO;cVOWEL UE;dE;dU;dEE;dO;cTONE PLOPHU;dCALYA;ePLOPHU;cSIGN CWI;
    dSHYA;REJANG LETTER KA;cGA;cNGA;cTA;cDA;cNA;cPA;cBA;cMA;cCA;cJA;cNYA;cSA;cRA;cLA;cYA;cWA;cHA;
    cMBA;cNGGA;cNDA;cNYJA;cA;bVOWEL SIGN I;dU;dE;dAI;dO;dAU;dEU;dEA;bCONSONANT SIGN NG;dN;dR;dH;
    bVIRAMA;11;bSECTION MARK;HANGUL CHOSEONG TIKEUT-MIEUM;cTIKEUT-PIEUP;cTIKEUT-SIOS;cTIKEUT-CIEUC;
    cRIEUL-KIYEOK;cRIEUL-SSANGKIYEOK;cRIEUL-TIKEUT;cRIEUL-SSANGTIKEUT;cRIEUL-MIEUM;cRIEUL-PIEUP;
    cRIEUL-SSANGPIEUP;cRIEUL-KAPYEOUNPIEUP;cRIEUL-SIOS;cRIEUL-CIEUC;cRIEUL-KHIEUKH;cMIEUM-KIYEOK;
    cMIEUM-TIKEUT;cMIEUM-SIOS;cPIEUP-SIOS-THIEUTH;cPIEUP-KHIEUKH;cPIEUP-HIEUH;cSSANGSIOS-PIEUP;
    cIEUNG-RIEUL;cIEUNG-HIEUH;cSSANGCIEUC-HIEUH;cSSANGTHIEUTH;cPHIEUPH-HIEUH;cHIEUH-SIOS;
    cSSANGYEORINHIEUH;3;JAVANESE SIGN PANYANGGA;cCECAK;cLAYAR;cWIGNYAN;bLETTER A;cI KAWI;d;cII;cU;
    cPA CEREK;cNGA LELET;eRASWADI;cE;cAI;cO;cKA;dSASAK;dMURDA;cGA;dMURDA;cNGA;cCA;dMURDA;cJA;
    cNYA MURDA;cJA MAHAPRANA;cNYA;cTTA;dMAHAPRANA;cDDA;dMAHAPRANA;cNA MURDA;cTA;dMURDA;cDA;
    dMAHAPRANA;cNA;cPA;dMURDA;cBA;dMURDA;cMA;cYA;cRA;dAGUNG;cLA;cWA;cSA MURDA;dMAHAPRANA;d;cHA;
    bSIGN CECAK TELU;bVOWEL SIGN TARUNG;dTOLONG;dWULU;eMELIK;dSUKU;eMENDUT;dTALING;dDIRGA MURE;
    dPEPET;bCONSONANT SIGN KERET;dPENGKAL;dCAKRA;bPANGKON;bLEFT RERENGGAN;bbRIGHT;bPADA ANDAP;
    cMADYA;cLUHUR;cWINDU;cPANGKAT;cLINGSA;cLUNGSI;cADEG;dADEG;cPISELEH;bcTURNED;1;bPANGRANGKEP;
    bDIGIT ZERO;cONE;cTWO;cTHREE;cFOUR;cFIVE;cSIX;cSEVEN;cEIGHT;cNINE;4;bPADA TIRTA TUMETES;
    cISEN-ISEN;MYANMAR LETTER SHAN GHA;dCHA;dJHA;dNNA;dBHA;bSIGN SHAN SAW;
    bMODIFIER LETTER SHAN REDUPLICATION;bLETTER TAI LAING NYA;eFA;eGA;eGHA;eJA;eJHA;eDDA;eDDHA;
    eNNA;bTAI LAING DIGIT ZERO;eONE;eTWO;eTHREE;eFOUR;eFIVE;eSIX;eSEVEN;eEIGHT;eNINE;
    bLETTER TAI LAING LLA;eDA;eDHA;eBA;eBHA;1;CHAM LETTER A;cI;cU;cE;cAI;cO;cKA;cKHA;cGA;cGHA;
    cNGUE;cNGA;cCHA;cCHHA;cJA;cJHA;cNHUE;cNHA;cNHJA;cTA;cTHA;cDA;cDHA;cNUE;cNA;cDDA;cPA;cPPA;cPHA;
    cBA;cBHA;cMUE;cMA;cBBA;cYA;cRA;cLA;cVA;cSSA;cSA;cHA;bVOWEL SIGN AA;dI;dII;dEI;dU;dOE;dO;dAI;
    dAU;dUE;bCONSONANT SIGN YA;dRA;dLA;dWA;9;bLETTER FINAL K;dG;dNG;bcCONSONANT SIGN;
    bLETTER FINAL CH;dT;dN;dP;dY;dR;dL;dSS;bCONSONANT SIGN FINAL M;eH;2;bDIGIT ZERO;cONE;cTWO;
    cTHREE;cFOUR;cFIVE;cSIX;cSEVEN;cEIGHT;cNINE;2;bPUNCTUATION SPIRAL;cDANDA;cbDOUBLE;cbTRIPLE;
    MYANMAR LETTER KHAMTI GA;dCA;dCHA;dJA;dJHA;dNYA;dTTA;dTTHA;dDDA;dDDHA;dDHA;dNA;dSA;dHA;dHHA;
    dFA;bMODIFIER LETTER KHAMTI REDUPLICATION;bLETTER KHAMTI XA;dZA;dRA;bLOGOGRAM KHAMTI OAY;dQN;
    dHM;bSYMBOL AITON EXCLAMATION;dONE;dTWO;bLETTER AITON RA;bSIGN PAO KAREN TONE;
    cTAI LAING TONE-2;eTONE-5;bLETTER SHWE PALAUNG CHA;eSHA;TAI VIET LETTER LOW KO;dbHIGH;dLOW KHO;
    dbHIGH;dLOW KHHO;dbHIGH;dLOW GO;dbHIGH;dLOW NGO;dbHIGH;dLOW CO;dbHIGH;dLOW CHO;dbHIGH;dLOW SO;
    dbHIGH;dLOW NYO;dbHIGH;dLOW DO;dbHIGH;dLOW TO;dbHIGH;dLOW THO;dbHIGH;dLOW NO;dbHIGH;dLOW BO;
    dbHIGH;dLOW PO;dbHIGH;dLOW PHO;dbHIGH;dLOW FO;dbHIGH;dLOW MO;dbHIGH;dLOW YO;dbHIGH;dLOW RO;
    dbHIGH;dLOW LO;dbHIGH;dLOW VO;dbHIGH;dLOW HO;dbHIGH;dLOW O;dbHIGH;cMAI KANG;cVOWEL AA;dI;dUE;
    dU;dE;dO;cMAI KHIT;cVOWEL IA;dUEA;dUA;dAUE;dAY;dAN;dAM;cTONE MAI EK;eNUENG;eTHO;eSONG;24;
    cSYMBOL KON;dNUENG;dSAM;dHO HOI;dKOI KOI;MEETEI MAYEK LETTER E;dO;dCHA;dNYA;dTTA;dTTHA;dDDA;
    dDDHA;dNNA;dSHA;dSSA;cVOWEL SIGN II;eUU;eAAI;eAU;eAAU;cCHEIKHAN;cAHANG KHUDAM;cANJI;
    cSYLLABLE REPETITION MARK;ccWORD;cVOWEL SIGN VISARGA;cVIRAMA;10;ETHIOPIC SYLLABLE TTHU;cTTHI;
    cTTHAA;cTTHEE;cTTHE;cTTHO;2;cDDHU;cDDHI;cDDHAA;cDDHEE;cDDHE;cDDHO;2;cDZU;cDZI;cDZAA;cDZEE;cDZE;
    cDZO;9;cCCHHA;cCCHHU;cCCHHI;cCCHHAA;cCCHHEE;cCCHHE;cCCHHO;1;cBBA;cBBU;cBBI;cBBAA;cBBEE;cBBE;
    cBBO;1;LATIN SMALL LETTER BARRED ALPHA;dA REVERSED-SCHWA;dBLACKLETTER E;dbBARRED;
    dE WITH FLOURISH;dLENIS F;dSCRIPT G WITH CROSSED-TAIL;dL WITH INVERTED LAZY S;
    fDOUBLE MIDDLE TILDE;fMIDDLE RING;dM WITH CROSSED-TAIL;dcN;dcENG;dBLACKLETTER O;fWITH STROKE;
    ddOPEN;dINVERTED OE;dTURNED OE WITH STROKE;gbHORIZONTAL;eO OPEN-O;gWITH STROKE;dSTIRRUP R;
    bLETTER SMALL CAPITAL R WITH RIGHT LEG;bSMALL LETTER R WITHOUT HANDLE;dDOUBLE R;
    dR WITH CROSSED-TAIL;ddDOUBLE;dSCRIPT R;fWITH RING;dBASELINE ESH;dU WITH SHORT RIGHT LEG;eeBAR;
    dUI;dbTURNED;dU WITH LEFT HOOK;dCHI;eWITH LOW RIGHT RING;gLEFT SERIF;dX WITH LOW RIGHT RING;
    fLONG LEFT LEG;iAND LOW RIGHT RING;iWITH SERIF;dY WITH SHORT RIGHT LEG;
    MODIFIER BREVE WITH INVERTED BREVE;bLETTER SMALL HENG;dL WITH INVERTED LAZY S;fMIDDLE TILDE;
    dU WITH LEFT HOOK;LATIN SMALL LETTER SAKHA YAT;dIOTIFIED E;dOPEN OE;dUO;dINVERTED ALPHA;
    GREEK LETTER SMALL CAPITAL OMEGA;LATIN SMALL LETTER DZ DIGRAPH WITH RETROFLEX HOOK;deTS;
    dTURNED R WITH MIDDLE TILDE;MODIFIER LETTER SMALL TURNED W;cLEFT TACK;cbRIGHT;4;
    CHEROKEE SMALL LETTER A;dE;dI;dO;dU;dV;dGA;dKA;dGE;dGI;dGO;dGU;dGV;dHA;dHE;dHI;dHO;dHU;dHV;dLA;
    dLE;dLI;dLO;dLU;dLV;dMA;dME;dMI;dMO;dMU;dNA;dHNA;dNAH;dNE;dNI;dNO;dNU;dNV;dQUA;dQUE;dQUI;dQUO;
    dQUU;dQUV;dSA;dS;dSE;dSI;dSO;dSU;dSV;dDA;dTA;dDE;dTE;dDI;dTI;dDO;dDU;dDV;dDLA;dTLA;dTLE;dTLI;
    dTLO;dTLU;dTLV;dTSA;dTSE;dTSI;dTSO;dTSU;dTSV;dWA;dWE;dWI;dWO;dWU;dWV;dYA;
    MEETEI MAYEK LETTER KOK;dSAM;dLAI;dMIT;dPA;dNA;dCHIL;dTIL;dKHOU;dNGOU;dTHOU;dWAI;dYANG;dHUK;
    dUN;dI;dPHAM;dATIYA;dGOK;dJHAM;dRAI;dBA;dJIL;dDIL;dGHOU;dDHOU;dBHAM;dKOK LONSUM;dbLAI;dbMIT;
    dbPA;dbNA;dbTIL;dbNGOU;dbI;cVOWEL SIGN ONAP;eINAP;eANAP;eYENAP;eSOUNAP;eUNAP;eCHEINAP;eNUNG;
    cCHEIKHEI;cLUM IYEK;cbAPUN;2;cDIGIT ZERO;dONE;dTWO;dTHREE;dFOUR;dFIVE;dSIX;dSEVEN;dEIGHT;dNINE;
    11190;HANGUL JUNGSEONG O-YEO;cO-O-I;cYO-A;cYO-AE;cYO-EO;cU-YEO;cU-I-I;cYU-AE;cYU-O;cEU-A;
    cEU-EO;cEU-E;cEU-O;cI-YA-O;cI-YAE;cI-YEO;cI-YE;cI-O-I;cI-YO;cI-YU;cI-I;cARAEA-A;cARAEA-E;4;
    bJONGSEONG NIEUN-RIEUL;cNIEUN-CHIEUCH;cSSANGTIKEUT;cSSANGTIKEUT-PIEUP;cTIKEUT-PIEUP;
    cTIKEUT-SIOS;cTIKEUT-SIOS-KIYEOK;cTIKEUT-CIEUC;cTIKEUT-CHIEUCH;cTIKEUT-THIEUTH;
    cRIEUL-SSANGKIYEOK;cRIEUL-KIYEOK-HIEUH;cSSANGRIEUL-KHIEUKH;cRIEUL-MIEUM-HIEUH;
    cRIEUL-PIEUP-TIKEUT;cRIEUL-PIEUP-PHIEUPH;cRIEUL-YESIEUNG;cRIEUL-YEORINHIEUH-HIEUH;
    cKAPYEOUNRIEUL;cMIEUM-NIEUN;cMIEUM-SSANGNIEUN;cSSANGMIEUM;cMIEUM-PIEUP-SIOS;cMIEUM-CIEUC;
    cPIEUP-TIKEUT;cPIEUP-RIEUL-PHIEUPH;cPIEUP-MIEUM;cSSANGPIEUP;cPIEUP-SIOS-TIKEUT;cPIEUP-CIEUC;
    cPIEUP-CHIEUCH;cSIOS-MIEUM;cSIOS-KAPYEOUNPIEUP;cSSANGSIOS-KIYEOK;cSSANGSIOS-TIKEUT;
    cSIOS-PANSIOS;cSIOS-CIEUC;cSIOS-CHIEUCH;cSIOS-THIEUTH;cSIOS-HIEUH;cPANSIOS-PIEUP;
    cPANSIOS-KAPYEOUNPIEUP;cYESIEUNG-MIEUM;cYESIEUNG-HIEUH;cCIEUC-PIEUP;cCIEUC-SSANGPIEUP;
    cSSANGCIEUC;cPHIEUPH-SIOS;cPHIEUPH-THIEUTH;8964;LATIN SMALL LIGATURE FF;dFI;dFL;dFFI;dFFL;
    dLONG S T;dST;12;ARMENIAN SMALL LIGATURE MEN NOW;eECH;eINI;dVEW NOW;dMEN XEH;5;
    HEBREW LETTER YOD WITH HIRIQ;bPOINT JUDEO-SPANISH VARIKA;bLIGATURE YIDDISH YOD YOD PATAH;
    bLETTER ALTERNATIVE AYIN;cWIDE ALEF;dDALET;dHE;dKAF;dLAMED;dFINAL MEM;dRESH;dTAV;
    cALTERNATIVE PLUS SIGN;cSHIN WITH SHIN DOT;ebSIN;ebDAGESH AND SHIN;gbSIN;cALEF WITH PATAH;
    eQAMATS;eMAPIQ;cBET WITH DAGESH;ccGIMEL;ccDALET;cHE WITH MAPIQ;cVAV WITH DAGESH;ccZAYIN;1;
    ccTET;ccYOD;ccFINAL KAF;cd;ccLAMED;1;ccMEM;1;ccNUN;ccSAMEKH;1;ccFINAL PE;cd;1;ccTSADI;ccQOF;
    ccRESH;ccSHIN;ccTAV;cVAV WITH HOLAM;cBET WITH RAFE;ccKAF;ccPE;bLIGATURE ALEF LAMED;
    ARABIC LETTER ALEF WASLA ISOLATED FORM;ebFINAL;cbBEEH ISOLATED;dbFINAL;dbINITIAL;dbMEDIAL;
    cbPEH ISOLATED;dbFINAL;dbINITIAL;dbMEDIAL;cbBEHEH ISOLATED;dbFINAL;dbINITIAL;dbMEDIAL;
    cbTTEHEH ISOLATED;dbFINAL;dbINITIAL;dbMEDIAL;cbTEHEH ISOLATED;dbFINAL;dbINITIAL;dbMEDIAL;
    cbTTEH ISOLATED;dbFINAL;dbINITIAL;dbMEDIAL;cbVEH ISOLATED;dbFINAL;dbINITIAL;dbMEDIAL;
    cbPEHEH ISOLATED;dbFINAL;dbINITIAL;dbMEDIAL;cbDYEH ISOLATED;dbFINAL;dbINITIAL;dbMEDIAL;
    cbNYEH ISOLATED;dbFINAL;dbINITIAL;dbMEDIAL;cbTCHEH ISOLATED;dbFINAL;dbINITIAL;dbMEDIAL;
    cbTCHEHEH ISOLATED;dbFINAL;dbINITIAL;dbMEDIAL;cbDDAHAL ISOLATED;dbFINAL;cbDAHAL ISOLATED;
    dbFINAL;cbDUL ISOLATED;dbFINAL;cbDDAL ISOLATED;dbFINAL;cbJEH ISOLATED;dbFINAL;cbRREH ISOLATED;
    dbFINAL;cbKEHEH ISOLATED;dbFINAL;dbINITIAL;dbMEDIAL;cbGAF ISOLATED;dbFINAL;dbINITIAL;dbMEDIAL;
    cbGUEH ISOLATED;dbFINAL;dbINITIAL;dbMEDIAL;cbNGOEH ISOLATED;dbFINAL;dbINITIAL;dbMEDIAL;
    cbNOON GHUNNA ISOLATED;ebFINAL;cbRNOON ISOLATED;dbFINAL;dbINITIAL;dbMEDIAL;
    cbHEH WITH YEH ABOVE ISOLATED;gbFINAL;dbGOAL ISOLATED;ebFINAL;ebINITIAL;ebMEDIAL;
    dbDOACHASHMEE ISOLATED;ebFINAL;ebINITIAL;ebMEDIAL;cbYEH BARREE ISOLATED;ebFINAL;
    ebWITH HAMZA ABOVE ISOLATED;hbFINAL;bSYMBOL DOT ABOVE;dBELOW;cTWO DOTS ABOVE;eBELOW;
    cTHREE DOTS ABOVE;eBELOW;ePOINTING DOWNWARDS ABOVE;gBELOW;cFOUR DOTS ABOVE;eBELOW;
    cbDOUBLE VERTICAL BAR;cTWO DOTS VERTICALLY ABOVE;fBELOW;cRING;cSMALL TAH ABOVE;eBELOW;
    cWASLA ABOVE;16;bLETTER NG ISOLATED FORM;dbFINAL;dbINITIAL;dbMEDIAL;cbU ISOLATED;dbFINAL;
    cbOE ISOLATED;dbFINAL;cbYU ISOLATED;dbFINAL;cbU WITH HAMZA ABOVE ISOLATED;ccVE;dbFINAL;
    cbKIRGHIZ OE ISOLATED;ebFINAL;dbYU ISOLATED;ebFINAL;cbE ISOLATED;dbFINAL;dbINITIAL;dbMEDIAL;
    cbUIGHUR KAZAKH KIRGHIZ ALEF MAKSURA INITIAL;hbMEDIAL;
    bbLIGATURE YEH WITH HAMZA ABOVE WITH ALEF ISOLATED;ibFINAL;hbAE ISOLATED;ibFINAL;
    hbWAW ISOLATED;ibFINAL;hbU ISOLATED;ibFINAL;hbOE ISOLATED;ibFINAL;hbYU ISOLATED;ibFINAL;
    hbE ISOLATED;ibFINAL;ibINITIAL;
    cbUIGHUR KIRGHIZ YEH WITH HAMZA ABOVE WITH ALEF MAKSURA ISOLATED;lbFINAL;lbINITIAL;
    bbLETTER FARSI YEH ISOLATED;ebFINAL;ebINITIAL;ebMEDIAL;
    bbLIGATURE YEH WITH HAMZA ABOVE WITH JEEM ISOLATED;hcHAH;hcMEEM;hcALEF MAKSURA;hcYEH;
    ccBEH WITH JEEM;ecHAH;ecKHAH;ecMEEM;ecALEF MAKSURA;ecYEH;ccTEH WITH JEEM;ecHAH;ecKHAH;ecMEEM;
    ecALEF MAKSURA;ecYEH;ccTHEH WITH JEEM;ecMEEM;ecALEF MAKSURA;ecYEH;ccJEEM WITH HAH;ecMEEM;
    ccHAH WITH JEEM;ecMEEM;ccKHAH WITH JEEM;ecHAH;ecMEEM;ccSEEN WITH JEEM;ecHAH;ecKHAH;ecMEEM;
    ccSAD WITH HAH;ecMEEM;ccDAD WITH JEEM;ecHAH;ecKHAH;ecMEEM;ccTAH WITH HAH;ecMEEM;ceZAH;
    ccAIN WITH JEEM;ecMEEM;ccGHAIN WITH JEEM;ecMEEM;ccFEH WITH JEEM;ecHAH;ecKHAH;ecMEEM;
    ecALEF MAKSURA;ecYEH;ccQAF WITH HAH;ecMEEM;ecALEF MAKSURA;ecYEH;ccKAF WITH ALEF;ecJEEM;ecHAH;
    ecKHAH;ecLAM;ecMEEM;ecALEF MAKSURA;ecYEH;ccLAM WITH JEEM;ecHAH;ecKHAH;ecMEEM;ecALEF MAKSURA;
    ecYEH;ccMEEM WITH JEEM;ecHAH;ecKHAH;ecMEEM;ecALEF MAKSURA;ecYEH;ccNOON WITH JEEM;ecHAH;ecKHAH;
    ecMEEM;ecALEF MAKSURA;ecYEH;ccHEH WITH JEEM;ecMEEM;ecALEF MAKSURA;ecYEH;ccYEH WITH JEEM;ecHAH;
    ecKHAH;ecMEEM;ecALEF MAKSURA;ecYEH;ccTHAL WITH SUPERSCRIPT ALEF;cfREH;cfALEF MAKSURA;
    ccSHADDA WITH DAMMATAN;ecKASRATAN;ecFATHA;ecDAMMA;ecKASRA;ecSUPERSCRIPT ALEF;
    cbYEH WITH HAMZA ABOVE WITH REH FINAL;hcZAIN;hcMEEM;hcNOON;hcALEF MAKSURA;hcYEH;ccBEH WITH REH;
    ecZAIN;ecMEEM;ecNOON;ecALEF MAKSURA;ecYEH;ccTEH WITH REH;ecZAIN;ecMEEM;ecNOON;ecALEF MAKSURA;
    ecYEH;ccTHEH WITH REH;ecZAIN;ecMEEM;ecNOON;ecALEF MAKSURA;ecYEH;ccFEH WITH ALEF MAKSURA;ecYEH;
    ccQAF WITH ALEF MAKSURA;ecYEH;ccKAF WITH ALEF;ecLAM;ecMEEM;ecALEF MAKSURA;ecYEH;
    ccLAM WITH MEEM;ecALEF MAKSURA;ecYEH;ccMEEM WITH ALEF;ecMEEM;ccNOON WITH REH;ecZAIN;ecMEEM;
    ecNOON;ecALEF MAKSURA;ecYEH;ccALEF MAKSURA WITH SUPERSCRIPT ALEF;ccYEH WITH REH;ecZAIN;ecMEEM;
    ecNOON;ecALEF MAKSURA;ecYEH;ebHAMZA ABOVE WITH JEEM INITIAL;hcHAH;hcKHAH;hcMEEM;hcHEH;
    ccBEH WITH JEEM;ecHAH;ecKHAH;ecMEEM;ecHEH;ccTEH WITH JEEM;ecHAH;ecKHAH;ecMEEM;ecHEH;
    ccTHEH WITH MEEM;ccJEEM WITH HAH;ecMEEM;ccHAH WITH JEEM;ecMEEM;ccKHAH WITH JEEM;ecMEEM;
    ccSEEN WITH JEEM;ecHAH;ecKHAH;ecMEEM;ccSAD WITH HAH;ecKHAH;ecMEEM;ccDAD WITH JEEM;ecHAH;ecKHAH;
    ecMEEM;ccTAH WITH HAH;ccZAH WITH MEEM;ccAIN WITH JEEM;ecMEEM;ccGHAIN WITH JEEM;ecMEEM;
    ccFEH WITH JEEM;ecHAH;ecKHAH;ecMEEM;ccQAF WITH HAH;ecMEEM;ccKAF WITH JEEM;ecHAH;ecKHAH;ecLAM;
    ecMEEM;ccLAM WITH JEEM;ecHAH;ecKHAH;ecMEEM;ecHEH;ccMEEM WITH JEEM;ecHAH;ecKHAH;ecMEEM;
    ccNOON WITH JEEM;ecHAH;ecKHAH;ecMEEM;ecHEH;ccHEH WITH JEEM;ecMEEM;ecSUPERSCRIPT ALEF;
    ccYEH WITH JEEM;ecHAH;ecKHAH;ecMEEM;ecHEH;ebHAMZA ABOVE WITH MEEM MEDIAL;hcHEH;ccBEH WITH MEEM;
    ecHEH;ccTEH WITH MEEM;ecHEH;ccTHEH WITH MEEM;ecHEH;ccSEEN WITH MEEM;ecHEH;ccSHEEN WITH MEEM;
    ecHEH;ccKAF WITH LAM;ecMEEM;ceLAM;ceNOON;ecHEH;ccYEH WITH MEEM;ecHEH;ccSHADDA WITH FATHA;
    ecDAMMA;ecKASRA;cbTAH WITH ALEF MAKSURA ISOLATED;ecYEH;ccAIN WITH ALEF MAKSURA;ecYEH;
    ccGHAIN WITH ALEF MAKSURA;ecYEH;ccSEEN WITH ALEF MAKSURA;ecYEH;ccSHEEN WITH ALEF MAKSURA;ecYEH;
    ccHAH WITH ALEF MAKSURA;ecYEH;ccJEEM WITH ALEF MAKSURA;ecYEH;ccKHAH WITH ALEF MAKSURA;ecYEH;
    ccSAD WITH ALEF MAKSURA;ecYEH;ccDAD WITH ALEF MAKSURA;ecYEH;ccSHEEN WITH JEEM;ecHAH;ecKHAH;
    ecMEEM;ecREH;ceSEEN;ceSAD;ceDAD;cbTAH WITH ALEF MAKSURA FINAL;ecYEH;ccAIN WITH ALEF MAKSURA;
    ecYEH;ccGHAIN WITH ALEF MAKSURA;ecYEH;ccSEEN WITH ALEF MAKSURA;ecYEH;ccSHEEN WITH ALEF MAKSURA;
    ecYEH;ccHAH WITH ALEF MAKSURA;ecYEH;ccJEEM WITH ALEF MAKSURA;ecYEH;ccKHAH WITH ALEF MAKSURA;
    ecYEH;ccSAD WITH ALEF MAKSURA;ecYEH;ccDAD WITH ALEF MAKSURA;ecYEH;ccSHEEN WITH JEEM;ecHAH;
    ecKHAH;ecMEEM;ecREH;ceSEEN;ceSAD;ceDAD;cbSHEEN WITH JEEM INITIAL;ecHAH;ecKHAH;ecMEEM;
    ccSEEN WITH HEH;ceSHEEN;ccTAH WITH MEEM;cbSEEN WITH JEEM MEDIAL;ecHAH;ecKHAH;ccSHEEN WITH JEEM;
    ecHAH;ecKHAH;ccTAH WITH MEEM;ceZAH;cbALEF WITH FATHATAN FINAL;fbISOLATED;
    ORNATE LEFT PARENTHESIS;bbRIGHT;ARABIC LIGATURE RAHIMAHU ALLAAH;cRADI ALLAAHU ANH;eANHAA;
    eANHUM;eANHUMAA;eANHUNNA;cSALLALLAAHU ALAYHI WA-AALIH;cALAYHI AS-SALAAM;cbALAYHIM;cbALAYHIMAA;
    cALAYHI AS-SALAATU WAS-SALAAM;cQUDDISA SIRRAH;cSALLALLAHU ALAYHI WAAALIHEE WA-SALLAM;
    cALAYHAA AS-SALAAM;cTABAARAKA WA-TAAALAA;cRAHIMAHUM ALLAAH;
    cTEH WITH JEEM WITH MEEM INITIAL FORM;ebHAH WITH JEEM FINAL;hbINITIAL;gcMEEM;eeKHAH;
    ecMEEM WITH JEEM;gcHAH;gcKHAH;cbJEEM WITH MEEM WITH HAH FINAL;hbINITIAL;
    cbHAH WITH MEEM WITH YEH FINAL;gcALEF MAKSURA;cbSEEN WITH HAH WITH JEEM INITIAL;
    ecJEEM WITH HAH;gbALEF MAKSURA FINAL;ecMEEM WITH HAH;hbINITIAL;gcJEEM;gbMEEM FINAL;hbINITIAL;
    cbSAD WITH HAH WITH HAH FINAL;hbINITIAL;ebMEEM WITH MEEM FINAL;ceSHEEN WITH HAH;hbINITIAL;
    ebJEEM WITH YEH FINAL;ecMEEM WITH KHAH;hbINITIAL;gbMEEM FINAL;hbINITIAL;
    cbDAD WITH HAH WITH ALEF MAKSURA FINAL;ecKHAH WITH MEEM;hbINITIAL;
    cbTAH WITH MEEM WITH HAH FINAL;hbINITIAL;gcMEEM;gbYEH FINAL;ccAIN WITH JEEM WITH MEEM;eeMEEM;
    hbINITIAL;gbALEF MAKSURA FINAL;ccGHAIN WITH MEEM WITH MEEM;gcYEH;gcALEF MAKSURA;
    ccFEH WITH KHAH WITH MEEM;hbINITIAL;cbQAF WITH MEEM WITH HAH FINAL;gcMEEM;ceLAM WITH HAH;gcYEH;
    gcALEF MAKSURA;ebJEEM WITH JEEM INITIAL;hbFINAL;ecKHAH WITH MEEM;hbINITIAL;
    ebMEEM WITH HAH FINAL;hbINITIAL;ccMEEM WITH HAH WITH JEEM;gcMEEM;gbYEH FINAL;
    ebJEEM WITH HAH INITIAL;gcMEEM;ecKHAH WITH JEEM;gcMEEM;2;ecJEEM WITH KHAH;
    ccHEH WITH MEEM WITH JEEM;gcMEEM;ceNOON WITH HAH;gbALEF MAKSURA FINAL;ecJEEM WITH MEEM;
    hbINITIAL;gbALEF MAKSURA FINAL;ecMEEM WITH YEH;gcALEF MAKSURA;ccYEH WITH MEEM WITH MEEM;
    hbINITIAL;cbBEH WITH KHAH WITH YEH FINAL;ceTEH WITH JEEM;gcALEF MAKSURA;ecKHAH WITH YEH;
    gcALEF MAKSURA;ecMEEM WITH YEH;gcALEF MAKSURA;ccJEEM WITH MEEM WITH YEH;
    ecHAH WITH ALEF MAKSURA;efMEEM;cfSEEN WITH KHAH;ccSAD WITH HAH WITH YEH;cgSHEEN;cgDAD;
    ceLAM WITH JEEM;eeMEEM;ceYEH WITH HAH;eeJEEM;eeMEEM;cgMEEM;cgQAF;ceNOON WITH HAH;
    cbQAF WITH MEEM WITH HAH INITIAL;ccLAM WITH HAH WITH MEEM;cbAIN WITH MEEM WITH YEH FINAL;cgKAF;
    cbNOON WITH JEEM WITH HAH INITIAL;cbMEEM WITH KHAH WITH YEH FINAL;
    cbLAM WITH JEEM WITH MEEM INITIAL;cbKAF WITH MEEM WITH MEEM FINAL;ceLAM WITH JEEM;
    ccNOON WITH JEEM WITH HAH;ccJEEM WITH HAH WITH YEH;ceHAH WITH JEEM;cgMEEM;ceFEH WITH MEEM;
    ceBEH WITH HAH;cbKAF WITH MEEM WITH MEEM INITIAL;ceAIN WITH JEEM;ceSAD WITH MEEM;
    cbSEEN WITH KHAH WITH YEH FINAL;ceNOON WITH JEEM;7;cSALAAMUHU ALAYNAA;32;
    cSALLA USED AS KORANIC STOP SIGN ISOLATED FORM;chQALA;ccALLAH;ccAKBAR;ccMOHAMMAD;ccSALAM;
    ccRASOUL;ccALAYHE;ccWASALLAM;ccSALLA;cSALLALLAHOU ALAYHE WASALLAM;cJALLAJALALOUHOU;RIAL SIGN;
    ARABIC LIGATURE BISMILLAH AR-RAHMAN AR-RAHEEM;cSUBHAANAHU WA TAAALAA;cAZZA WA JALL;
    VARIATION SELECTOR-1;bSELECTOR-2;bSELECTOR-3;bSELECTOR-4;bSELECTOR-5;bSELECTOR-6;bSELECTOR-7;
    bSELECTOR-8;bSELECTOR-9;bSELECTOR-10;bSELECTOR-11;bSELECTOR-12;bSELECTOR-13;bSELECTOR-14;
    bSELECTOR-15;bSELECTOR-16;PRESENTATION FORM FOR VERTICAL COMMA;ebIDEOGRAPHIC;fFULL STOP;eCOLON;
    eSEMICOLON;eEXCLAMATION MARK;ebQUESTION;eLEFT WHITE LENTICULAR BRACKET;
    eRIGHT WHITE LENTICULAR BRAKCET;eHORIZONTAL ELLIPSIS;6;COMBINING LIGATURE LEFT HALF;cbRIGHT;
    bbDOUBLE TILDE LEFT;dbRIGHT;bbMACRON LEFT;cbRIGHT;bCONJOINING MACRON;bLIGATURE LEFT HALF BELOW;
    ccRIGHT;bcTILDE LEFT;ccRIGHT;bcMACRON LEFT;ccRIGHT;bbCONJOINING MACRON;
    bCYRILLIC TITLO LEFT HALF;dbRIGHT;PRESENTATION FORM FOR VERTICAL TWO DOT LEADER;eEM DASH;ebEN;
    eLOW LINE;ecWAVY;eLEFT PARENTHESIS;ebRIGHT;eLEFT CURLY BRACKET;ecRIGHT;ebLEFT TORTOISE SHELL;
    edRIGHT;ebLEFT BLACK LENTICULAR;edRIGHT;ebLEFT DOUBLE ANGLE;edRIGHT;ecLEFT;ecRIGHT;
    ebLEFT CORNER;ecRIGHT;ecLEFT WHITE;edRIGHT;SESAME DOT;acWHITE;
    PRESENTATION FORM FOR VERTICAL LEFT SQUARE BRACKET;ecRIGHT;DASHED OVERLINE;abCENTRELINE;abWAVY;
    acDOUBLE;DASHED LOW LINE;acCENTRELINE;acWAVY;SMALL COMMA;bbIDEOGRAPHIC;bFULL STOP;1;bSEMICOLON;
    bCOLON;bQUESTION MARK;bbEXCLAMATION;bEM DASH;bLEFT PARENTHESIS;bbRIGHT;bLEFT CURLY BRACKET;
    bcRIGHT;bbLEFT TORTOISE SHELL;bdRIGHT;bNUMBER SIGN;bAMPERSAND;bASTERISK;bPLUS SIGN;
    bHYPHEN-MINUS;bLESS-THAN SIGN;bbGREATER-THAN;bbEQUALS;1;bREVERSE SOLIDUS;bDOLLAR SIGN;
    bbPERCENT;bCOMMERCIAL AT;4;ARABIC FATHATAN ISOLATED FORM;bTATWEEL WITH FATHATAN ABOVE;
    bDAMMATAN ISOLATED FORM;bTAIL FRAGMENT;bKASRATAN ISOLATED FORM;1;bcFATHA;cbMEDIAL;
    bbDAMMA ISOLATED;cbMEDIAL;bbKASRA ISOLATED;cbMEDIAL;bbSHADDA ISOLATED;cbMEDIAL;
    bbSUKUN ISOLATED;cbMEDIAL;bbLETTER HAMZA ISOLATED;ccALEF WITH MADDA ABOVE;gbFINAL;
    ebHAMZA ABOVE ISOLATED;gbFINAL;cbWAW WITH HAMZA ABOVE ISOLATED;gbFINAL;
    cbALEF WITH HAMZA BELOW ISOLATED;gbFINAL;cbYEH WITH HAMZA ABOVE ISOLATED;gbFINAL;gbINITIAL;
    gbMEDIAL;cbALEF ISOLATED;dbFINAL;cbBEH ISOLATED;dbFINAL;dbINITIAL;dbMEDIAL;
    cbTEH MARBUTA ISOLATED;ebFINAL;dbISOLATED;dbFINAL;dbINITIAL;dbMEDIAL;cbTHEH ISOLATED;dbFINAL;
    dbINITIAL;dbMEDIAL;cbJEEM ISOLATED;dbFINAL;dbINITIAL;dbMEDIAL;cbHAH ISOLATED;dbFINAL;dbINITIAL;
    dbMEDIAL;cbKHAH ISOLATED;dbFINAL;dbINITIAL;dbMEDIAL;cbDAL ISOLATED;dbFINAL;cbTHAL ISOLATED;
    dbFINAL;cbREH ISOLATED;dbFINAL;cbZAIN ISOLATED;dbFINAL;cbSEEN ISOLATED;dbFINAL;dbINITIAL;
    dbMEDIAL;cbSHEEN ISOLATED;dbFINAL;dbINITIAL;dbMEDIAL;cbSAD ISOLATED;dbFINAL;dbINITIAL;dbMEDIAL;
    cbDAD ISOLATED;dbFINAL;dbINITIAL;dbMEDIAL;cbTAH ISOLATED;dbFINAL;dbINITIAL;dbMEDIAL;
    cbZAH ISOLATED;dbFINAL;dbINITIAL;dbMEDIAL;cbAIN ISOLATED;dbFINAL;dbINITIAL;dbMEDIAL;
    cbGHAIN ISOLATED;dbFINAL;dbINITIAL;dbMEDIAL;cbFEH ISOLATED;dbFINAL;dbINITIAL;dbMEDIAL;
    cbQAF ISOLATED;dbFINAL;dbINITIAL;dbMEDIAL;cbKAF ISOLATED;dbFINAL;dbINITIAL;dbMEDIAL;
    cbLAM ISOLATED;dbFINAL;dbINITIAL;dbMEDIAL;cbMEEM ISOLATED;dbFINAL;dbINITIAL;dbMEDIAL;
    cbNOON ISOLATED;dbFINAL;dbINITIAL;dbMEDIAL;cbHEH ISOLATED;dbFINAL;dbINITIAL;dbMEDIAL;
    cbWAW ISOLATED;dbFINAL;cbALEF MAKSURA ISOLATED;ebFINAL;cbYEH ISOLATED;dbFINAL;dbINITIAL;
    dbMEDIAL;bbLIGATURE LAM WITH ALEF WITH MADDA ABOVE ISOLATED;ibFINAL;gbHAMZA ABOVE ISOLATED;
    ibFINAL;hbBELOW ISOLATED;ibFINAL;fbISOLATED;fbFINAL;2;ZERO WIDTH NO-BREAK SPACE;1;
    FULLWIDTH EXCLAMATION MARK;bbQUOTATION;bNUMBER SIGN;bbDOLLAR;bbPERCENT;bAMPERSAND;bAPOSTROPHE;
    bLEFT PARENTHESIS;bbRIGHT;bASTERISK;bPLUS SIGN;bCOMMA;bHYPHEN-MINUS;bFULL STOP;bSOLIDUS;
    bDIGIT ZERO;cONE;cTWO;cTHREE;cFOUR;cFIVE;cSIX;cSEVEN;cEIGHT;cNINE;bCOLON;bSEMICOLON;
    bLESS-THAN SIGN;bbEQUALS;bbGREATER-THAN;bQUESTION MARK;bCOMMERCIAL AT;bLATIN CAPITAL LETTER A;
    eB;eC;eD;eE;eF;eG;eH;eI;eJ;eK;eL;eM;eN;eO;eP;eQ;eR;eS;eT;eU;eV;eW;eX;eY;eZ;
    bLEFT SQUARE BRACKET;bREVERSE SOLIDUS;bRIGHT SQUARE BRACKET;bCIRCUMFLEX ACCENT;bLOW LINE;
    bGRAVE ACCENT;bLATIN SMALL LETTER A;eB;eC;eD;eE;eF;eG;eH;eI;eJ;eK;eL;eM;eN;eO;eP;eQ;eR;eS;eT;
    eU;eV;eW;eX;eY;eZ;bLEFT CURLY BRACKET;bVERTICAL LINE;bRIGHT CURLY BRACKET;bTILDE;
    bLEFT WHITE PARENTHESIS;bcRIGHT;HALFWIDTH IDEOGRAPHIC FULL STOP;bLEFT CORNER BRACKET;bcRIGHT;
    bIDEOGRAPHIC COMMA;bKATAKANA MIDDLE DOT;cLETTER WO;dSMALL A;eI;eU;eE;eO;eYA;eYU;eYO;eTU;
    bKATAKANA-HIRAGANA PROLONGED SOUND MARK;bKATAKANA LETTER A;dI;dU;dE;dO;dKA;dKI;dKU;dKE;dKO;dSA;
    dSI;dSU;dSE;dSO;dTA;dTI;dTU;dTE;dTO;dNA;dNI;dNU;dNE;dNO;dHA;dHI;dHU;dHE;dHO;dMA;dMI;dMU;dME;
    dMO;dYA;dYU;dYO;dRA;dRI;dRU;dRE;dRO;dWA;dN;cVOICED SOUND MARK;ccSEMI-VOICED;bHANGUL FILLER;
    cLETTER KIYEOK;dSSANGKIYEOK;dKIYEOK-SIOS;dNIEUN;dNIEUN-CIEUC;dNIEUN-HIEUH;dTIKEUT;dSSANGTIKEUT;
    dRIEUL;dRIEUL-KIYEOK;dRIEUL-MIEUM;dRIEUL-PIEUP;dRIEUL-SIOS;dRIEUL-THIEUTH;dRIEUL-PHIEUPH;
    dRIEUL-HIEUH;dMIEUM;dPIEUP;dSSANGPIEUP;dPIEUP-SIOS;dSIOS;dSSANGSIOS;dIEUNG;dCIEUC;dSSANGCIEUC;
    dCHIEUCH;dKHIEUKH;dTHIEUTH;dPHIEUPH;dHIEUH;3;dA;dAE;dYA;dYAE;dEO;dE;2;dYEO;dYE;dO;dWA;dWAE;dOE;
    2;dYO;dU;dWEO;dWE;dWI;dYU;2;dEU;dYI;dI;3;FULLWIDTH CENT SIGN;bbPOUND;bbNOT;bMACRON;bBROKEN BAR;
    bYEN SIGN;bbWON;1;HALFWIDTH FORMS LIGHT VERTICAL;bLEFTWARDS ARROW;bbUPWARDS;bbRIGHTWARDS;
    bbDOWNWARDS;bBLACK SQUARE;bWHITE CIRCLE;10;INTERLINEAR ANNOTATION ANCHOR;cSEPARATOR;
    cTERMINATOR;OBJECT REPLACEMENT CHARACTER;ac"

end SqlRunner.Text.CharacterName
