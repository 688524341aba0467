/-!
# Character names — musical and mathematical notations, and the scripts beside them

The names of the assigned characters from U+1D000 to U+1EEF1, written short as
`CharacterName` describes.
-/

set_option autoImplicit false

namespace SqlRunner.Text.CharacterName

/-- The names from U+1D000 on. -/
def notations : String := "
    BYZANTINE MUSICAL SYMBOL PSILI;dDASEIA;dPERISPOMENI;dOXEIA EKFONITIKON;eDIPLI;
    dVAREIA EKFONITIKON;eDIPLI;dKATHISTI;dSYRMATIKI;dPARAKLITIKI;dYPOKRISIS;eDIPLI;dKREMASTI;
    dAPESO EKFONITIKON;dbEXO;dTELEIA;dKENTIMATA;dAPOSTROFOS;eDIPLI;dSYNEVMA;dTHITA;
    dOLIGON ARCHAION;dbGORGON;dPSILON;dCHAMILON;dVATHY;dISON ARCHAION;dbKENTIMA;dbKENTIMATA;
    dSAXIMATA;dPARICHON;dSTAVROS APODEXIA;dOXEIAI ARCHAION;dbVAREIAI;dbAPODERMA;dAPOTHEMA;dKLASMA;
    dREVMA;dPIASMA ARCHAION;dTINAGMA;dANATRICHISMA;dSEISMA;dSYNAGMA ARCHAION;eMETA STAVROU;
    dOYRANISMA ARCHAION;dTHEMA;dLEMOI;dDYO;dTRIA;dTESSERA;dKRATIMATA;dAPESO EXO NEO;
    dFTHORA ARCHAION;dIMIFTHORA;dTROMIKON ARCHAION;dKATAVA TROMIKON;dPELASTON;dPSIFISTON;dKONTEVMA;
    dCHOREVMA ARCHAION;dRAPISMA;dPARAKALESMA ARCHAION;dbPARAKLITIKI;dICHADIN;dNANA;dPETASMA;
    dKONTEVMA ALLO;dbTROMIKON;dSTRAGGISMATA;dGRONTHISMATA;dISON NEO;dbOLIGON;dbOXEIA;dPETASTI;
    dKOUFISMA;dPETASTOKOUFISMA;dKRATIMOKOUFISMA;dPELASTON NEO;dKENTIMATA NEO ANO;dcKENTIMA;dYPSILI;
    dAPOSTROFOS NEO;dbAPOSTROFOI SYNDESMOS;dYPORROI;dKRATIMOYPORROON;dELAFRON;dCHAMILI;
    dMIKRON ISON;dVAREIA NEO;dbPIASMA;dbPSIFISTON;dOMALON;dANTIKENOMA;dLYGISMA;dPARAKLITIKI NEO;
    dbPARAKALESMA;dETERON PARAKALESMA;dKYLISMA;dANTIKENOKYLISMA;dTROMIKON NEO;dEKSTREPTON;
    dSYNAGMA NEO;dSYRMA;dCHOREVMA NEO;dEPEGERMA;dSEISMA NEO;dXIRON KLASMA;dTROMIKOPSIFISTON;
    dPSIFISTOLYGISMA;dTROMIKOLYGISMA;dTROMIKOPARAKALESMA;dPSIFISTOPARAKALESMA;dTROMIKOSYNAGMA;
    dPSIFISTOSYNAGMA;dGORGOSYNTHETON;dARGOSYNTHETON;dbETERON;dOYRANISMA NEO;dTHEMATISMOS ESO;eEXO;
    dTHEMA APLOUN;dTHES KAI APOTHES;dKATAVASMA;dENDOFONON;dYFEN KATO;eANO;dSTAVROS;dKLASMA ANO;
    dDIPLI ARCHAION;dbKRATIMA;eALLO;eNEO;dbAPODERMA;dAPLI;dDIPLI;dTRIPLI;dTETRAPLI;dKORONIS;
    dLEIMMA ENOS CHRONOU;eDYO CHRONON;ebTRION;ebTESSARON;eIMISEOS CHRONOU;dGORGON NEO ANO;
    ePARESTIGMENON ARISTERA;fDEXIA;dDIGORGON;ePARESTIGMENON ARISTERA KATO;gANO;fDEXIA;dTRIGORGON;
    dARGON;dIMIDIARGON;dDIARGON;dAGOGI POLI ARGI;eARGOTERI;eARGI;eMETRIA;eMESI;eGORGI;eGORGOTERI;
    ePOLI GORGI;dMARTYRIA PROTOS ICHOS;ecALLI;ebDEYTEROS;ecALLI;ebTRITOS;eTRIFONIAS;
    eTETARTOS ICHOS;fbLEGETOS;ec;ebPLAGIOS;dISAKIA TELOUS ICHIMATOS;dcAPOSTROFOI;
    dFANEROSIS TETRAFONIAS;eMONOFONIAS;eDIFONIAS;dMARTYRIA VARYS ICHOS;ebPROTOVARYS;
    ebPLAGIOS TETARTOS;dGORTHMIKON N APLOUN;fDIPLOUN;dENARXIS KAI FTHORA VOU;dIMIFONON;dIMIFTHORON;
    dFTHORA ARCHAION DEYTEROU ICHOU;eDIATONIKI PA;fNANA;eNAOS ICHOS;eDIATONIKI DI;
    ebSKLIRON DIATONON;eDIATONIKI KE;fZO;fNI KATO;gANO;eMALAKON CHROMA DIFONIAS;gMONOFONIAS;
    dFHTORA SKLIRON CHROMA VASIS;dFTHORA SKLIRON CHROMA SYNAFI;eNENANO;dCHROA ZYGOS;eKLITON;
    eSPATHI;dFTHORA I YFESIS TETARTIMORION;eENARMONIOS ANTIFONIA;dYFESIS TRITIMORION;dbDIESIS;
    eTETARTIMORION;eAPLI DYO DODEKATA;ebMONOGRAMMOS TESSERA;ebDIGRAMMOS EX;ebTRIGRAMMOS OKTO;
    dbYFESIS APLI DYO;ebMONOGRAMMOS TESSERA;ebDIGRAMMOS EX;ebTRIGRAMMOS OKTO;dGENIKI DIESIS;
    eYFESIS;dDIASTOLI APLI MIKRI;fMEGALI;eDIPLI;eTHESEOS;dbSIMANSIS;fDISIMOU;fTRISIMOU;fTETRASIMOU;
    eARSEOS;fDISIMOU;fTRISIMOU;fTETRASIMOU;dDIGRAMMA GG;dDIFTOGGOS OU;dSTIGMA;dARKTIKO PA;eVOU;eGA;
    eDI;eKE;eZO;eNI;dKENTIMATA NEO MESO;dcKENTIMA;dKENTIMATA NEO KATO;dcKENTIMA;dbKLASMA;
    dbGORGON NEO;10;MUSICAL SYMBOL SINGLE BARLINE;cbDOUBLE;cbFINAL;ccREVERSE;cbDASHED;cbSHORT;
    cLEFT REPEAT SIGN;ccRIGHT;cREPEAT DOTS;cDAL SEGNO;cDA CAPO;cSEGNO;cCODA;cREPEATED FIGURE-1;
    dFIGURE-2;dFIGURE-3;cFERMATA;dBELOW;cBREATH MARK;cCAESURA;cBRACE;cBRACKET;cONE-LINE STAFF;
    cbTWO-LINE;cbTHREE-LINE;cbFOUR-LINE;cbFIVE-LINE;cbSIX-LINE;cSIX-STRING FRETBOARD;cbFOUR-STRING;
    cG CLEF;eOTTAVA ALTA;fBASSA;cC CLEF;cbF;eOTTAVA ALTA;fBASSA;cDRUM CLEF-1;dCLEF-2;2;
    cMULTIPLE MEASURE REST;cDOUBLE SHARP;dFLAT;cFLAT UP;dDOWN;cNATURAL UP;dDOWN;cSHARP UP;dDOWN;
    cQUARTER TONE SHARP;eFLAT;cCOMMON TIME;cbCUT;cOTTAVA ALTA;dBASSA;cQUINDICESIMA ALTA;dBASSA;
    cMULTI REST;cbWHOLE;cbHALF;cbQUARTER;cbEIGHTH;cbSIXTEENTH;cbTHIRTY-SECOND;cbSIXTY-FOURTH;
    cbONE HUNDRED TWENTY-EIGHTH;cX NOTEHEAD;cbPLUS;cbCIRCLE X;cSQUARE NOTEHEAD WHITE;eBLACK;
    cTRIANGLE NOTEHEAD UP WHITE;fBLACK;eLEFT WHITE;fBLACK;eRIGHT WHITE;fBLACK;eDOWN WHITE;fBLACK;
    eUP RIGHT WHITE;gBLACK;cMOON NOTEHEAD WHITE;eBLACK;cTRIANGLE-ROUND NOTEHEAD DOWN WHITE;fBLACK;
    cPARENTHESIS NOTEHEAD;cbVOID;cNOTEHEAD BLACK;cNULL NOTEHEAD;cCLUSTER NOTEHEAD WHITE;eBLACK;
    cBREVE;cWHOLE NOTE;cbHALF;cbQUARTER;cbEIGHTH;cbSIXTEENTH;cbTHIRTY-SECOND;cbSIXTY-FOURTH;
    cbONE HUNDRED TWENTY-EIGHTH;cCOMBINING STEM;dbSPRECHGESANG;dTREMOLO-1;dTREMOLO-2;dTREMOLO-3;
    cFINGERED TREMOLO-1;dTREMOLO-2;dTREMOLO-3;cCOMBINING AUGMENTATION DOT;dFLAG-1;dFLAG-2;dFLAG-3;
    dFLAG-4;dFLAG-5;cBEGIN BEAM;cbEND;cBEGIN TIE;cbEND;cBEGIN SLUR;cbEND;cBEGIN PHRASE;cbEND;
    cCOMBINING ACCENT;dSTACCATO;dTENUTO;dSTACCATISSIMO;dMARCATO;dMARCATO-STACCATO;dACCENT-STACCATO;
    dLOURE;cARPEGGIATO UP;dDOWN;cCOMBINING DOIT;dRIP;dFLIP;dSMEAR;dBEND;dDOUBLE TONGUE;dbTRIPLE;
    cRINFORZANDO;cSUBITO;cZ;cPIANO;cMEZZO;cFORTE;cCRESCENDO;cDECRESCENDO;cGRACE NOTE SLASH;ebNO;
    cTR;cTURN;cbINVERTED;cTURN SLASH;dUP;cORNAMENT STROKE-1;dSTROKE-2;dSTROKE-3;dSTROKE-4;
    dSTROKE-5;dSTROKE-6;dSTROKE-7;dSTROKE-8;dSTROKE-9;dSTROKE-10;dSTROKE-11;cHAUPTSTIMME;
    cNEBENSTIMME;cEND OF STIMME;cDEGREE SLASH;cCOMBINING DOWN BOW;dbUP;dHARMONIC;dSNAP PIZZICATO;
    cPEDAL MARK;dbUP;cbHALF PEDAL;cGLISSANDO UP;dDOWN;cWITH FINGERNAILS;cDAMP;dALL;cMAXIMA;cLONGA;
    cBREVIS;cSEMIBREVIS WHITE;dBLACK;cMINIMA;dBLACK;cSEMIMINIMA WHITE;dBLACK;cFUSA WHITE;dBLACK;
    cLONGA PERFECTA REST;dbIMPERFECTA;cbBREVIS;cbSEMIBREVIS;cbMINIMA;cbSEMIMINIMA;
    cTEMPUS PERFECTUM CUM PROLATIONE PERFECTA;gIMPERFECTA;gPERFECTA DIMINUTION-1;
    dIMPERFECTUM CUM PROLATIONE PERFECTA;gIMPERFECTA;hDIMINUTION-1;hDIMINUTION-2;hDIMINUTION-3;
    cCROIX;cGREGORIAN C CLEF;dbF;cSQUARE B;cVIRGA;cPODATUS;cCLIVIS;cSCANDICUS;cCLIMACUS;cTORCULUS;
    cPORRECTUS;dFLEXUS;cbSCANDICUS;cTORCULUS RESUPINUS;cPES SUBPUNCTIS;cKIEVAN C CLEF;
    dEND OF PIECE;dFINAL NOTE;dRECITATIVE MARK;dWHOLE NOTE;dbHALF;dQUARTER NOTE STEM DOWN;gUP;
    dEIGHTH NOTE STEM DOWN;gUP;dFLAT SIGN;cSORI;cKORON;21;GREEK VOCAL NOTATION SYMBOL-1;dSYMBOL-2;
    dSYMBOL-3;dSYMBOL-4;dSYMBOL-5;dSYMBOL-6;dSYMBOL-7;dSYMBOL-8;dSYMBOL-9;dSYMBOL-10;dSYMBOL-11;
    dSYMBOL-12;dSYMBOL-13;dSYMBOL-14;dSYMBOL-15;dSYMBOL-16;dSYMBOL-17;dSYMBOL-18;dSYMBOL-19;
    dSYMBOL-20;dSYMBOL-21;dSYMBOL-22;dSYMBOL-23;dSYMBOL-24;dSYMBOL-50;dSYMBOL-51;dSYMBOL-52;
    dSYMBOL-53;dSYMBOL-54;bINSTRUMENTAL NOTATION SYMBOL-1;dSYMBOL-2;dSYMBOL-4;dSYMBOL-5;dSYMBOL-7;
    dSYMBOL-8;dSYMBOL-11;dSYMBOL-12;dSYMBOL-13;dSYMBOL-14;dSYMBOL-17;dSYMBOL-18;dSYMBOL-19;
    dSYMBOL-23;dSYMBOL-24;dSYMBOL-25;dSYMBOL-26;dSYMBOL-27;dSYMBOL-29;dSYMBOL-30;dSYMBOL-32;
    dSYMBOL-36;dSYMBOL-37;dSYMBOL-38;dSYMBOL-39;dSYMBOL-40;dSYMBOL-42;dSYMBOL-43;dSYMBOL-45;
    dSYMBOL-47;dSYMBOL-48;dSYMBOL-49;dSYMBOL-50;dSYMBOL-51;dSYMBOL-52;dSYMBOL-53;dSYMBOL-54;
    COMBINING GREEK MUSICAL TRISEME;dTETRASEME;dPENTASEME;GREEK MUSICAL LEIMMA;154;
    MAYAN NUMERAL ZERO;cONE;cTWO;cTHREE;cFOUR;cFIVE;cSIX;cSEVEN;cEIGHT;cNINE;cTEN;cELEVEN;cTWELVE;
    cTHIRTEEN;cFOURTEEN;cFIFTEEN;cSIXTEEN;cSEVENTEEN;cEIGHTEEN;cNINETEEN;12;MONOGRAM FOR EARTH;
    abDIGRAM FOR HEAVENLY;cbHUMAN;cEARTHLY HEAVEN;dHUMAN;cEARTH;TETRAGRAM FOR CENTRE;cFULL CIRCLE;
    cMIRED;cBARRIER;cKEEPING SMALL;cCONTRARIETY;cASCENT;cOPPOSITION;cBRANCHING OUT;
    cDEFECTIVENESS OR DISTORTION;cDIVERGENCE;cYOUTHFULNESS;cINCREASE;cPENETRATION;cREACH;cCONTACT;
    cHOLDING BACK;cWAITING;cFOLLOWING;cADVANCE;cRELEASE;cRESISTANCE;cEASE;cJOY;cCONTENTION;
    cENDEAVOUR;cDUTIES;cCHANGE;cDECISIVENESS;cBOLD RESOLUTION;cPACKING;cLEGION;cCLOSENESS;cKINSHIP;
    cGATHERING;cSTRENGTH;cPURITY;cFULLNESS;cRESIDENCE;cLAW OR MODEL;cRESPONSE;cGOING TO MEET;
    cENCOUNTERS;cSTOVE;cGREATNESS;cENLARGEMENT;cPATTERN;cRITUAL;cFLIGHT;cVASTNESS OR WASTING;
    cCONSTANCY;cMEASURE;cETERNITY;cUNITY;cDIMINISHMENT;cCLOSED MOUTH;cGUARDEDNESS;cGATHERING IN;
    cMASSING;cACCUMULATION;cEMBELLISHMENT;cDOUBT;cWATCH;cSINKING;cINNER;cDEPARTURE;cDARKENING;
    cDIMMING;cEXHAUSTION;cSEVERANCE;cSTOPPAGE;cHARDNESS;cCOMPLETION;cCLOSURE;cFAILURE;cAGGRAVATION;
    cCOMPLIANCE;cON THE VERGE;cDIFFICULTIES;cLABOURING;cFOSTERING;9;COUNTING ROD UNIT DIGIT ONE;
    eTWO;eTHREE;eFOUR;eFIVE;eSIX;eSEVEN;eEIGHT;eNINE;cTENS DIGIT ONE;eTWO;eTHREE;eFOUR;eFIVE;eSIX;
    eSEVEN;eEIGHT;eNINE;IDEOGRAPHIC TALLY MARK ONE;dTWO;dTHREE;dFOUR;dFIVE;TALLY MARK ONE;cFIVE;
    135;MATHEMATICAL BOLD CAPITAL A;dB;dC;dD;dE;dF;dG;dH;dI;dJ;dK;dL;dM;dN;dO;dP;dQ;dR;dS;dT;dU;dV;
    dW;dX;dY;dZ;cSMALL A;dB;dC;dD;dE;dF;dG;dH;dI;dJ;dK;dL;dM;dN;dO;dP;dQ;dR;dS;dT;dU;dV;dW;dX;dY;
    dZ;bITALIC CAPITAL A;dB;dC;dD;dE;dF;dG;dH;dI;dJ;dK;dL;dM;dN;dO;dP;dQ;dR;dS;dT;dU;dV;dW;dX;dY;
    dZ;cSMALL A;dB;dC;dD;dE;dF;dG;1;dI;dJ;dK;dL;dM;dN;dO;dP;dQ;dR;dS;dT;dU;dV;dW;dX;dY;dZ;
    bBOLD ITALIC CAPITAL A;eB;eC;eD;eE;eF;eG;eH;eI;eJ;eK;eL;eM;eN;eO;eP;eQ;eR;eS;eT;eU;eV;eW;eX;eY;
    eZ;dSMALL A;eB;eC;eD;eE;eF;eG;eH;eI;eJ;eK;eL;eM;eN;eO;eP;eQ;eR;eS;eT;eU;eV;eW;eX;eY;eZ;
    bSCRIPT CAPITAL A;1;dC;dD;2;dG;2;dJ;dK;2;dN;dO;dP;dQ;1;dS;dT;dU;dV;dW;dX;dY;dZ;cSMALL A;dB;dC;
    dD;1;dF;1;dH;dI;dJ;dK;dL;dM;dN;1;dP;dQ;dR;dS;dT;dU;dV;dW;dX;dY;dZ;bBOLD SCRIPT CAPITAL A;eB;eC;
    eD;eE;eF;eG;eH;eI;eJ;eK;eL;eM;eN;eO;eP;eQ;eR;eS;eT;eU;eV;eW;eX;eY;eZ;dSMALL A;eB;eC;eD;eE;eF;
    eG;eH;eI;eJ;eK;eL;eM;eN;eO;eP;eQ;eR;eS;eT;eU;eV;eW;eX;eY;eZ;bFRAKTUR CAPITAL A;dB;1;dD;dE;dF;
    dG;2;dJ;dK;dL;dM;dN;dO;dP;dQ;1;dS;dT;dU;dV;dW;dX;dY;1;cSMALL A;dB;dC;dD;dE;dF;dG;dH;dI;dJ;dK;
    dL;dM;dN;dO;dP;dQ;dR;dS;dT;dU;dV;dW;dX;dY;dZ;bDOUBLE-STRUCK CAPITAL A;dB;1;dD;dE;dF;dG;1;dI;dJ;
    dK;dL;dM;1;dO;3;dS;dT;dU;dV;dW;dX;dY;1;cSMALL A;dB;dC;dD;dE;dF;dG;dH;dI;dJ;dK;dL;dM;dN;dO;dP;
    dQ;dR;dS;dT;dU;dV;dW;dX;dY;dZ;bBOLD FRAKTUR CAPITAL A;eB;eC;eD;eE;eF;eG;eH;eI;eJ;eK;eL;eM;eN;
    eO;eP;eQ;eR;eS;eT;eU;eV;eW;eX;eY;eZ;dSMALL A;eB;eC;eD;eE;eF;eG;eH;eI;eJ;eK;eL;eM;eN;eO;eP;eQ;
    eR;eS;eT;eU;eV;eW;eX;eY;eZ;bSANS-SERIF CAPITAL A;dB;dC;dD;dE;dF;dG;dH;dI;dJ;dK;dL;dM;dN;dO;dP;
    dQ;dR;dS;dT;dU;dV;dW;dX;dY;dZ;cSMALL A;dB;dC;dD;dE;dF;dG;dH;dI;dJ;dK;dL;dM;dN;dO;dP;dQ;dR;dS;
    dT;dU;dV;dW;dX;dY;dZ;cBOLD CAPITAL A;eB;eC;eD;eE;eF;eG;eH;eI;eJ;eK;eL;eM;eN;eO;eP;eQ;eR;eS;eT;
    eU;eV;eW;eX;eY;eZ;dSMALL A;eB;eC;eD;eE;eF;eG;eH;eI;eJ;eK;eL;eM;eN;eO;eP;eQ;eR;eS;eT;eU;eV;eW;
    eX;eY;eZ;cITALIC CAPITAL A;eB;eC;eD;eE;eF;eG;eH;eI;eJ;eK;eL;eM;eN;eO;eP;eQ;eR;eS;eT;eU;eV;eW;
    eX;eY;eZ;dSMALL A;eB;eC;eD;eE;eF;eG;eH;eI;eJ;eK;eL;eM;eN;eO;eP;eQ;eR;eS;eT;eU;eV;eW;eX;eY;eZ;
    cBOLD ITALIC CAPITAL A;fB;fC;fD;fE;fF;fG;fH;fI;fJ;fK;fL;fM;fN;fO;fP;fQ;fR;fS;fT;fU;fV;fW;fX;fY;
    fZ;eSMALL A;fB;fC;fD;fE;fF;fG;fH;fI;fJ;fK;fL;fM;fN;fO;fP;fQ;fR;fS;fT;fU;fV;fW;fX;fY;fZ;
    bMONOSPACE CAPITAL A;dB;dC;dD;dE;dF;dG;dH;dI;dJ;dK;dL;dM;dN;dO;dP;dQ;dR;dS;dT;dU;dV;dW;dX;dY;
    dZ;cSMALL A;dB;dC;dD;dE;dF;dG;dH;dI;dJ;dK;dL;dM;dN;dO;dP;dQ;dR;dS;dT;dU;dV;dW;dX;dY;dZ;
    bITALIC SMALL DOTLESS I;eJ;2;bBOLD CAPITAL ALPHA;dBETA;dGAMMA;dDELTA;dEPSILON;dZETA;dETA;
    dTHETA;dIOTA;dKAPPA;dLAMDA;dMU;dNU;dXI;dOMICRON;dPI;dRHO;dTHETA SYMBOL;dSIGMA;dTAU;dUPSILON;
    dPHI;dCHI;dPSI;dOMEGA;cNABLA;cSMALL ALPHA;dBETA;dGAMMA;dDELTA;dEPSILON;dZETA;dETA;dTHETA;dIOTA;
    dKAPPA;dLAMDA;dMU;dNU;dXI;dOMICRON;dPI;dRHO;dFINAL SIGMA;db;dTAU;dUPSILON;dPHI;dCHI;dPSI;
    dOMEGA;cPARTIAL DIFFERENTIAL;cEPSILON SYMBOL;cbTHETA;cbKAPPA;cbPHI;cbRHO;cbPI;
    bITALIC CAPITAL ALPHA;dBETA;dGAMMA;dDELTA;dEPSILON;dZETA;dETA;dTHETA;dIOTA;dKAPPA;dLAMDA;dMU;
    dNU;dXI;dOMICRON;dPI;dRHO;dTHETA SYMBOL;dSIGMA;dTAU;dUPSILON;dPHI;dCHI;dPSI;dOMEGA;cNABLA;
    cSMALL ALPHA;dBETA;dGAMMA;dDELTA;dEPSILON;dZETA;dETA;dTHETA;dIOTA;dKAPPA;dLAMDA;dMU;dNU;dXI;
    dOMICRON;dPI;dRHO;dFINAL SIGMA;db;dTAU;dUPSILON;dPHI;dCHI;dPSI;dOMEGA;cPARTIAL DIFFERENTIAL;
    cEPSILON SYMBOL;cbTHETA;cbKAPPA;cbPHI;cbRHO;cbPI;bBOLD ITALIC CAPITAL ALPHA;eBETA;eGAMMA;
    eDELTA;eEPSILON;eZETA;eETA;eTHETA;eIOTA;eKAPPA;eLAMDA;eMU;eNU;eXI;eOMICRON;ePI;eRHO;
    eTHETA SYMBOL;eSIGMA;eTAU;eUPSILON;ePHI;eCHI;ePSI;eOMEGA;dNABLA;dSMALL ALPHA;eBETA;eGAMMA;
    eDELTA;eEPSILON;eZETA;eETA;eTHETA;eIOTA;eKAPPA;eLAMDA;eMU;eNU;eXI;eOMICRON;ePI;eRHO;
    eFINAL SIGMA;eb;eTAU;eUPSILON;ePHI;eCHI;ePSI;eOMEGA;dPARTIAL DIFFERENTIAL;dEPSILON SYMBOL;
    dbTHETA;dbKAPPA;dbPHI;dbRHO;dbPI;bSANS-SERIF BOLD CAPITAL ALPHA;eBETA;eGAMMA;eDELTA;eEPSILON;
    eZETA;eETA;eTHETA;eIOTA;eKAPPA;eLAMDA;eMU;eNU;eXI;eOMICRON;ePI;eRHO;eTHETA SYMBOL;eSIGMA;eTAU;
    eUPSILON;ePHI;eCHI;ePSI;eOMEGA;dNABLA;dSMALL ALPHA;eBETA;eGAMMA;eDELTA;eEPSILON;eZETA;eETA;
    eTHETA;eIOTA;eKAPPA;eLAMDA;eMU;eNU;eXI;eOMICRON;ePI;eRHO;eFINAL SIGMA;eb;eTAU;eUPSILON;ePHI;
    eCHI;ePSI;eOMEGA;dPARTIAL DIFFERENTIAL;dEPSILON SYMBOL;dbTHETA;dbKAPPA;dbPHI;dbRHO;dbPI;
    dITALIC CAPITAL ALPHA;fBETA;fGAMMA;fDELTA;fEPSILON;fZETA;fETA;fTHETA;fIOTA;fKAPPA;fLAMDA;fMU;
    fNU;fXI;fOMICRON;fPI;fRHO;fTHETA SYMBOL;fSIGMA;fTAU;fUPSILON;fPHI;fCHI;fPSI;fOMEGA;eNABLA;
    eSMALL ALPHA;fBETA;fGAMMA;fDELTA;fEPSILON;fZETA;fETA;fTHETA;fIOTA;fKAPPA;fLAMDA;fMU;fNU;fXI;
    fOMICRON;fPI;fRHO;fFINAL SIGMA;fb;fTAU;fUPSILON;fPHI;fCHI;fPSI;fOMEGA;ePARTIAL DIFFERENTIAL;
    eEPSILON SYMBOL;ebTHETA;ebKAPPA;ebPHI;ebRHO;ebPI;bBOLD CAPITAL DIGAMMA;cbSMALL;2;cDIGIT ZERO;
    dONE;dTWO;dTHREE;dFOUR;dFIVE;dSIX;dSEVEN;dEIGHT;dNINE;bDOUBLE-STRUCK DIGIT ZERO;dONE;dTWO;
    dTHREE;dFOUR;dFIVE;dSIX;dSEVEN;dEIGHT;dNINE;bSANS-SERIF DIGIT ZERO;dONE;dTWO;dTHREE;dFOUR;
    dFIVE;dSIX;dSEVEN;dEIGHT;dNINE;cBOLD DIGIT ZERO;eONE;eTWO;eTHREE;eFOUR;eFIVE;eSIX;eSEVEN;
    eEIGHT;eNINE;bMONOSPACE DIGIT ZERO;dONE;dTWO;dTHREE;dFOUR;dFIVE;dSIX;dSEVEN;dEIGHT;dNINE;
    SIGNWRITING HAND-FIST INDEX;bbHAND-CIRCLE;bbHAND-CUP;bbHAND-OVAL;bbHAND-HINGE;bbHAND-ANGLE;
    bHAND-FIST INDEX BENT;bcHAND-CIRCLE;bcHAND-FIST THUMB UNDER;cINDEX RAISED KNUCKLE;dCUPPED;
    dHINGED;eLOW;bHAND-CIRCLE INDEX HINGE;bHAND-FIST INDEX MIDDLE;bcHAND-CIRCLE;
    bHAND-FIST INDEX MIDDLE BENT;eRAISED KNUCKLES;eHINGED;dcUP;dHINGED MIDDLE UP;dMIDDLE CONJOINED;
    fINDEX BENT;fbMIDDLE;fCUPPED;fHINGED;eCROSSED;bdHAND-CIRCLE;bHAND-FIST MIDDLE BENT OVER INDEX;
    cINDEX BENT OVER MIDDLE;dMIDDLE THUMB;bdHAND-CIRCLE;
    bHAND-FIST INDEX MIDDLE STRAIGHT THUMB BENT;eBENT THUMB STRAIGHT;eTHUMB BENT;
    eHINGED SPREAD THUMB SIDE;dcUP MIDDLE HINGED;hCONJOINED;dHINGED MIDDLE UP THUMB SIDE;
    dMIDDLE UP SPREAD THUMB FORWARD;eTHUMB CUPPED;fCIRCLED;fHOOKED;fHINGED;
    cTHUMB BETWEEN INDEX MIDDLE STRAIGHT;cINDEX MIDDLE CONJOINED THUMB SIDE;hCONJOINED;hBENT;
    cMIDDLE THUMB HOOKED INDEX UP;cbINDEX THUMB HOOKED MIDDLE;dMIDDLE CONJOINED HINGED THUMB SIDE;
    ecCROSSED;eCONJOINED THUMB FORWARD;fcCUPPED;cMIDDLE THUMB CUPPED INDEX UP;
    cbINDEX THUMB CUPPED MIDDLE;cbMIDDLE THUMB CIRCLED INDEX;gHINGED;
    cINDEX THUMB ANGLED OUT MIDDLE UP;fcIN;ecCIRCLED;dMIDDLE THUMB CONJOINED HINGED;fANGLED OUT;g;
    cMIDDLE THUMB ANGLED OUT INDEX UP;hCROSSED;fINDEX UP;cINDEX THUMB HOOKED MIDDLE HINGED;
    bHAND-FLAT FOUR FINGERS;eBENT;eHINGED;eCONJOINED;fSPLIT;bHAND-CLAW FOUR FINGERS CONJOINED;
    bHAND-FIST FOUR FINGERS CONJOINED BENT;bHAND-HINGE FOUR FINGERS CONJOINED;
    bHAND-FLAT FIVE FINGERS SPREAD;cdHEEL;cFIVE FINGERS SPREAD FOUR BENT;cfHEEL;
    cbFIVE FINGERS SPREAD;ceHEEL;cFIVE FINGERS SPREAD THUMB FORWARD;bHAND-CUP FIVE FINGERS SPREAD;
    fOPEN;beHAND-HINGE;bHAND-OVAL FIVE FINGERS SPREAD;bHAND-FLAT FIVE FINGERS SPREAD HINGED;
    gTHUMB SIDE;gNO THUMB;c;cBETWEEN PALM FACINGS;cHEEL;cTHUMB SIDE;ccHEEL;cTHUMB BENT;dFORWARD;
    cSPLIT INDEX THUMB SIDE;dCENTRE;eTHUMB SIDE;gBENT;dLITTLE;bHAND-CLAW;cTHUMB SIDE;cNO THUMB;
    cTHUMB FORWARD;bHAND-HOOK CURLICUE;c;bHAND-CUP OPEN;c;cOPEN THUMB SIDE;cc;cOPEN NO THUMB;cc;
    cOPEN THUMB FORWARD;cc;bHAND-CURLICUE OPEN;c;bHAND-CIRCLE;bHAND-OVAL;cTHUMB SIDE;cNO THUMB;
    cTHUMB FORWARD;bHAND-HINGE OPEN;dTHUMB FORWARD;c;cSMALL;cOPEN THUMB SIDE;cc;cOPEN NO THUMB;cc;
    cTHUMB SIDE TOUCHING INDEX;dBETWEEN MIDDLE RING;bHAND-ANGLE;bHAND-FIST INDEX MIDDLE RING;
    bdHAND-CIRCLE;bdHAND-HINGE;bdHAND-ANGLE;bHAND-HINGE LITTLE;bHAND-FIST INDEX MIDDLE RING BENT;
    fCONJOINED;beHAND-HINGE;bHAND-FIST LITTLE DOWN;eRIPPLE STRAIGHT;fCURVED;eOTHERS CIRCLED;dUP;
    ccTHUMB UNDER;bcHAND-CIRCLE;bcHAND-OVAL;bcHAND-ANGLE;bHAND-FIST LITTLE RAISED KNUCKLE;dBENT;
    dTOUCHES THUMB;db;bcHAND-HINGE;bbHAND-FIST LITTLE INDEX;bdHAND-HINGE;
    bHAND-ANGLE LITTLE INDEX THUMB INDEX THUMB OUT;h;bHAND-FIST LITTLE INDEX;bcHAND-CIRCLE;
    bcHAND-HINGE;bcHAND-ANGLE;bHAND-FIST INDEX MIDDLE LITTLE;bdHAND-CIRCLE;bdHAND-HINGE;cRING;
    bHAND-ANGLE INDEX MIDDLE LITTLE;bbHAND-FIST INDEX MIDDLE CROSS;beHAND-CIRCLE;
    bHAND-FIST RING DOWN;bHAND-HINGE RING DOWN INDEX THUMB HOOK MIDDLE;
    bHAND-ANGLE RING DOWN MIDDLE THUMB INDEX CROSS;bHAND-FIST RING UP;dRAISED KNUCKLE;dLITTLE;
    bcHAND-CIRCLE;bcHAND-OVAL;bcHAND-ANGLE;bHAND-FIST RING MIDDLE;eCONJOINED;eRAISED KNUCKLES;
    dINDEX;dTHUMB;bcHAND-HOOK;bHAND-FIST INDEX RING LITTLE;bdHAND-CIRCLE;
    bHAND-CURLICUE INDEX RING LITTLE ON;bHAND-HOOK INDEX RING LITTLE OUT;fIN;fUNDER;
    bHAND-CUP INDEX RING LITTLE;bdHAND-HINGE;bHAND-ANGLE INDEX RING LITTLE OUT;f;
    bHAND-FIST MIDDLE DOWN;bHAND-HINGE MIDDLE;bHAND-FIST MIDDLE UP;bcHAND-CIRCLE;
    bHAND-FIST MIDDLE RAISED KNUCKLE;dUP THUMB SIDE;bHAND-HOOK MIDDLE THUMB;
    bHAND-FIST MIDDLE THUMB LITTLE;db;dbRING;bdHAND-CIRCLE;bHAND-CURLICUE MIDDLE RING LITTLE ON;
    bHAND-CUP MIDDLE RING LITTLE;bdHAND-HINGE;bHAND-ANGLE MIDDLE RING LITTLE OUT;fIN;f;
    bHAND-CIRCLE MIDDLE RING LITTLE BENT;bHAND-CLAW MIDDLE RING LITTLE CONJOINED;gSIDE;
    bHAND-HOOK MIDDLE RING LITTLE CONJOINED OUT;gIN;g;bHAND-HINGE INDEX HINGED;
    bHAND-FIST INDEX THUMB SIDE;bdHAND-HINGE;bHAND-FIST INDEX THUMB SIDE THUMB DIAGONAL;gCONJOINED;
    gBENT;fbINDEX;fbBOTH;fINDEX HINGE;eFORWARD INDEX STRAIGHT;gBENT;eHOOK;eCURLICUE;
    eCURVE THUMB INSIDE;bfHAND-CLAW;bHAND-FIST INDEX THUMB CURVE THUMB UNDER;eCIRCLE;
    bHAND-CUP INDEX THUMB;eOPEN;bdHAND-HINGE;eLARGE;e;eSMALL;bHAND-ANGLE INDEX THUMB OUT;eIN;e;
    bbHAND-FIST;dHEEL;dSIDE DIAGONAL;eCONJOINED;eBENT;dFORWARD;dBETWEEN INDEX MIDDLE;eMIDDLE RING;
    eRING LITTLE;dUNDER TWO FINGERS;dcOVER;dbUNDER THREE;ebFOUR;dOVER FOUR RAISED KNUCKLES;c;cHEEL;
    bTOUCH SINGLE;cMULTIPLE;cBETWEEN;bGRASP SINGLE;cMULTIPLE;cBETWEEN;bSTRIKE SINGLE;cMULTIPLE;
    cBETWEEN;bBRUSH SINGLE;cMULTIPLE;cBETWEEN;bRUB SINGLE;cMULTIPLE;cBETWEEN;bSURFACE SYMBOLS;
    cBETWEEN;bSQUEEZE LARGE SINGLE;cbSMALL;cLARGE MULTIPLE;cbSMALL;cSEQUENTIAL;bFLICK LARGE SINGLE;
    cbSMALL;cLARGE MULTIPLE;cbSMALL;cSEQUENTIAL;bSQUEEZE FLICK ALTERNATING;
    bMOVEMENT-HINGE UP DOWN LARGE;eSMALL;dSEQUENTIAL;cbDOWN;cUP DOWN ALTERNATING LARGE;fSMALL;
    cSIDE TO SIDE SCISSORS;bMOVEMENT-WALLPLANE FINGER CONTACT;bcMOVEMENT-FLOORPLANE;
    bMOVEMENT-WALLPLANE SINGLE STRAIGHT SMALL;eMEDIUM;eLARGE;eLARGEST;dWRIST FLEX;cDOUBLE STRAIGHT;
    dWRIST FLEX;dALTERNATING;eWRIST FLEX;cCROSS;cTRIPLE STRAIGHT MOVEMENT;dWRIST FLEX;dALTERNATING;
    eWRIST FLEX;cBEND SMALL;dMEDIUM;dLARGE;cCORNER SMALL;dMEDIUM;dLARGE;dROTATION;cCHECK SMALL;
    dMEDIUM;dLARGE;cBOX SMALL;dMEDIUM;dLARGE;cZIGZAG SMALL;dMEDIUM;dLARGE;cPEAKS SMALL;dMEDIUM;
    dLARGE;bTRAVEL-WALLPLANE ROTATION-WALLPLANE SINGLE;dDOUBLE;dALTERNATING;
    cROTATION-FLOORPLANE SINGLE;dDOUBLE;dALTERNATING;cSHAKING;cARM SPIRAL SINGLE;eDOUBLE;eTRIPLE;
    bMOVEMENT-DIAGONAL AWAY SMALL;dMEDIUM;dLARGE;dLARGEST;cTOWARDS SMALL;dMEDIUM;dLARGE;dLARGEST;
    cBETWEEN AWAY SMALL;eMEDIUM;eLARGE;eLARGEST;dTOWARDS SMALL;eMEDIUM;eLARGE;eLARGEST;
    bMOVEMENT-FLOORPLANE SINGLE STRAIGHT SMALL;eMEDIUM;eLARGE;eLARGEST;dWRIST FLEX;
    cDOUBLE STRAIGHT;dWRIST FLEX;dALTERNATING;eWRIST FLEX;cCROSS;cTRIPLE STRAIGHT MOVEMENT;
    dWRIST FLEX;dALTERNATING MOVEMENT;eWRIST FLEX;cBEND;cCORNER SMALL;dMEDIUM;dLARGE;cCHECK;
    cBOX SMALL;dMEDIUM;dLARGE;cZIGZAG SMALL;dMEDIUM;dLARGE;cPEAKS SMALL;dMEDIUM;dLARGE;
    bTRAVEL-FLOORPLANE ROTATION-FLOORPLANE SINGLE;dDOUBLE;dALTERNATING;cROTATION-WALLPLANE SINGLE;
    dDOUBLE;dALTERNATING;cSHAKING;bMOVEMENT-WALLPLANE CURVE QUARTER SMALL;eMEDIUM;eLARGE;eLARGEST;
    dHALF-CIRCLE SMALL;eMEDIUM;eLARGE;eLARGEST;dTHREE-QUARTER CIRCLE SMALL;fMEDIUM;cHUMP SMALL;
    dMEDIUM;dLARGE;cLOOP SMALL;dMEDIUM;dLARGE;dSMALL DOUBLE;cWAVE CURVE DOUBLE SMALL;fMEDIUM;
    fLARGE;eTRIPLE SMALL;fMEDIUM;fLARGE;cCURVE THEN STRAIGHT;cCURVED CROSS SMALL;eMEDIUM;
    bROTATION-WALLPLANE SINGLE;cDOUBLE;cALTERNATE;bMOVEMENT-WALLPLANE SHAKING;
    cCURVE HITTING FRONT WALL;cdHUMP;cdLOOP;cdWAVE;bdROTATION-WALLPLANE SINGLE;cdDOUBLE;
    cdALTERNATING;bMOVEMENT-WALLPLANE CURVE HITTING CHEST;ccHUMP;ccLOOP;ccWAVE;
    bcROTATION-WALLPLANE SINGLE;ccDOUBLE;ccALTERNATING;
    bMOVEMENT-WALLPLANE WAVE DIAGONAL PATH SMALL;fMEDIUM;fLARGE;
    bMOVEMENT-FLOORPLANE CURVE HITTING CEILING SMALL;fLARGE;cHUMP HITTING CEILING SMALL DOUBLE;
    fbLARGE;fSMALL TRIPLE;fbLARGE;cLOOP HITTING CEILING SMALL SINGLE;fbLARGE;fSMALL DOUBLE;fbLARGE;
    cWAVE HITTING CEILING SMALL;fLARGE;bROTATION-FLOORPLANE SINGLE HITTING CEILING;ccDOUBLE;
    ccALTERNATING;bMOVEMENT-FLOORPLANE CURVE HITTING FLOOR SMALL;fLARGE;
    cHUMP HITTING FLOOR SMALL DOUBLE;fbLARGE;fTRIPLE SMALL TRIPLE;gbLARGE;
    cLOOP HITTING FLOOR SMALL SINGLE;fbLARGE;fSMALL DOUBLE;fbLARGE;cWAVE HITTING FLOOR SMALL;
    fLARGE;bROTATION-FLOORPLANE SINGLE HITTING FLOOR;ccDOUBLE;ccALTERNATING;
    bMOVEMENT-FLOORPLANE CURVE SMALL;dMEDIUM;dLARGE;dLARGEST;dCOMBINED;cHUMP SMALL;cbLOOP;
    cWAVE SNAKE;dSMALL;dLARGE;bROTATION-FLOORPLANE SINGLE;cDOUBLE;cALTERNATING;
    bMOVEMENT-FLOORPLANE SHAKING PARALLEL;bMOVEMENT-WALLPLANE ARM CIRCLE SMALL SINGLE;ebMEDIUM;
    eSMALL DOUBLE;ebMEDIUM;bMOVEMENT-FLOORPLANE ARM CIRCLE HITTING WALL SMALL SINGLE;gbMEDIUM;
    gbLARGE;gSMALL DOUBLE;gbMEDIUM;gbLARGE;bMOVEMENT-WALLPLANE WRIST CIRCLE FRONT SINGLE;fDOUBLE;
    bMOVEMENT-FLOORPLANE WRIST CIRCLE HITTING WALL SINGLE;gDOUBLE;
    bMOVEMENT-WALLPLANE FINGER CIRCLES SINGLE;eDOUBLE;
    bMOVEMENT-FLOORPLANE FINGER CIRCLES HITTING WALL SINGLE;gDOUBLE;bDYNAMIC ARROWHEAD SMALL;
    dLARGE;cFAST;cSLOW;cTENSE;cRELAXED;cSIMULTANEOUS;dALTERNATING;cEVERY OTHER TIME;cGRADUAL;bHEAD;
    cRIM;cMOVEMENT-WALLPLANE STRAIGHT;dTILT;cMOVEMENT-FLOORPLANE STRAIGHT;
    cMOVEMENT-WALLPLANE CURVE;cbMOVEMENT-FLOORPLANE;cMOVEMENT CIRCLE;
    bFACE DIRECTION POSITION NOSE FORWARD TILTING;fUP OR DOWN;iTILTING;bEYEBROWS STRAIGHT UP;
    dNEUTRAL;dDOWN;bbDREAMY EYEBROWS NEUTRAL;dDOWN NEUTRAL;dbUP;dNEUTRAL UP;bFOREHEAD NEUTRAL;
    cCONTACT;cWRINKLED;bEYES OPEN;cSQUEEZED;cCLOSED;bEYE BLINK SINGLE;dMULTIPLE;bEYES HALF OPEN;
    cbWIDE;cHALF CLOSED;cWIDENING MOVEMENT;bEYE WINK;bEYELASHES UP;cDOWN;cFLUTTERING;
    bEYEGAZE-WALLPLANE STRAIGHT;dDOUBLE;dALTERNATING;bEYEGAZE-FLOORPLANE STRAIGHT;dDOUBLE;
    dALTERNATING;bEYEGAZE-WALLPLANE CURVED;bbEYEGAZE-FLOORPLANE;bEYEGAZE-WALLPLANE CIRCLING;
    bCHEEKS PUFFED;cNEUTRAL;cSUCKED;bTENSE CHEEKS HIGH;dMIDDLE;dLOW;bEARS;bNOSE NEUTRAL;cCONTACT;
    cWRINKLES;cWIGGLES;bAIR BLOWING OUT;cSUCKING IN;cBLOW SMALL ROTATIONS;ccSUCK;bBREATH INHALE;
    cEXHALE;bMOUTH CLOSED NEUTRAL;dFORWARD;dCONTACT;cSMILE;dWRINKLED;dOPEN;cFROWN;dWRINKLED;dOPEN;
    cOPEN CIRCLE;dFORWARD;dWRINKLED;dOVAL;eWRINKLED;eYAWN;dRECTANGLE;eWRINKLED;eYAWN;cKISS;
    dFORWARD;dWRINKLED;cTENSE;dFORWARD;dSUCKED;bLIPS PRESSED TOGETHER;bLIP LOWER OVER UPPER;
    cUPPER OVER LOWER;bMOUTH CORNERS;cWRINKLES SINGLE;dDOUBLE;bTONGUE STICKING OUT FAR;
    cLICKING LIPS;cbTIP BETWEEN;dTOUCHING INSIDE MOUTH;cINSIDE MOUTH RELAXED;cMOVES AGAINST CHEEK;
    cCENTRE STICKING OUT;dINSIDE MOUTH;bTEETH;cMOVEMENT;cON TONGUE;eMOVEMENT;dLIPS;eMOVEMENT;
    cBITE LIPS;bMOVEMENT-WALLPLANE JAW;bbMOVEMENT-FLOORPLANE;bNECK;bHAIR;bEXCITEMENT;
    bSHOULDER HIP SPINE;dPOSITIONS;bWALLPLANE SHOULDER HIP MOVE;bdFLOORPLANE;
    bSHOULDER TILTING FROM WAIST;bTORSO-WALLPLANE STRAIGHT STRETCH;cCURVED BEND;
    bTORSO-FLOORPLANE TWISTING;bUPPER BODY TILTING FROM HIP JOINTS;bLIMB COMBINATION;cLENGTH-1;
    cLENGTH-2;cLENGTH-3;cLENGTH-4;cLENGTH-5;cLENGTH-6;cLENGTH-7;bFINGER;bLOCATION-WALLPLANE SPACE;
    bbLOCATION-FLOORPLANE;bLOCATION HEIGHT;cWIDTH;cDEPTH;cHEAD NECK;cTORSO;cLIMBS DIGITS;bCOMMA;
    bFULL STOP;bSEMICOLON;bCOLON;bPARENTHESIS;15;bFILL MODIFIER-2;cMODIFIER-3;cMODIFIER-4;
    cMODIFIER-5;cMODIFIER-6;1;bROTATION MODIFIER-2;cMODIFIER-3;cMODIFIER-4;cMODIFIER-5;cMODIFIER-6;
    cMODIFIER-7;cMODIFIER-8;cMODIFIER-9;cMODIFIER-10;cMODIFIER-11;cMODIFIER-12;cMODIFIER-13;
    cMODIFIER-14;cMODIFIER-15;cMODIFIER-16;1104;LATIN SMALL LETTER FENG DIGRAPH WITH TRILL;
    dREVERSED SCRIPT G;bbLETTER SMALL CAPITAL TURNED;bSMALL LETTER REVERSED K;
    bLETTER SMALL CAPITAL L WITH BELT;bSMALL LETTER LEZH WITH RETROFLEX HOOK;dTURNED Y WITH BELT;
    dREVERSED ENG;dTURNED R WITH LONG LEG AND RETROFLEX HOOK;ddT WITH HOOK;
    bcLETTER RETROFLEX CLICK WITH;bSMALL LETTER ESH WITH DOUBLE BAR;hAND CURL;dbTURNED T WITH;
    bcLETTER INVERTED GLOTTAL STOP;ccSTRETCHED C;cSMALL CAPITAL TURNED K;
    bSMALL LETTER L WITH FISHHOOK;dDEZH DIGRAPH WITH PALATAL HOOK;dcL WITH BELT AND;dcENG WITH;
    ddTURNED R;dcR WITH FISHHOOK AND;dcTESH DIGRAPH WITH;ddEZH;dbDEZH DIGRAPH WITH RETROFLEX;
    dcI WITH STROKE AND;dcO WITH;ddTESH DIGRAPH;ddC;dS WITH CURL;225;
    COMBINING GLAGOLITIC LETTER AZU;dBUKY;dVEDE;dGLAGOLI;dDOBRO;dYESTU;dZHIVETE;1;dZEMLJA;dIZHE;
    dbINITIAL;dI;dDJERVI;dKAKO;dLJUDIJE;dMYSLITE;dNASHI;dONU;dPOKOJI;dRITSI;dSLOVO;dTVRIDO;dUKU;
    dFRITU;dHERU;2;dSHTA;dTSI;dCHRIVI;dSHA;dYERU;dYERI;dYATI;1;dYU;dSMALL YUS;1;dYO;
    dIOTATED SMALL YUS;dbBIG;dcIOTATED;dFITA;213;NYIAKENG PUACHUE HMONG LETTER MA;eTSA;eNTA;eTA;
    eHA;eNA;eXA;eNKA;eCA;eLA;eSA;eZA;eNCA;eNTSA;eKA;eDA;eNYA;eNRA;eVA;eNTXA;eTXA;eFA;eRA;eQA;eYA;
    eNQA;ePA;eXYA;eNPA;eDLA;eNPLA;eHAH;eMLA;ePLA;eGA;eRRA;eA;eAA;eI;eU;eO;eOO;eE;eEE;eW;3;dTONE-B;
    dTONE-M;dTONE-J;dTONE-V;dTONE-S;dTONE-G;dTONE-D;dSIGN FOR PERSON;fTHING;fLOCATION;fANIMAL;
    fINVERTEBRATE;eXW XW;dSYLLABLE LENGTHENER;2;dDIGIT ZERO;eONE;eTWO;eTHREE;eFOUR;eFIVE;eSIX;
    eSEVEN;eEIGHT;eNINE;4;dLOGOGRAM NYAJ;dCIRCLED CA;320;TOTO LETTER PA;cBA;cTA;cDA;cKA;cGA;cMA;
    cNA;cNGA;cSA;cCHA;cYA;cWA;cJA;cHA;cRA;cLA;cI;cbBREATHY;cIU;cbBREATHY;cU;cE;cbBREATHY;cEO;
    cbBREATHY;cO;cAE;cbBREATHY;cA;bSIGN RISING TONE;17;WANCHO LETTER AA;cA;cBA;cCA;cDA;cGA;cYA;
    cPHA;cLA;cNA;cPA;cTA;cTHA;cFA;cSA;cSHA;cJA;cZA;cWA;cVA;cKA;cO;cAU;cRA;cMA;cKHA;cHA;cE;cI;cNGA;
    cU;cLLHA;cTSA;cTRA;cONG;cAANG;cANG;cING;cON;cEN;cAAN;cNYA;cUEN;cYIH;bTONE TUP;cTUPNI;cKOI;
    cKOINI;bDIGIT ZERO;cONE;cTWO;cTHREE;cFOUR;cFIVE;cSIX;cSEVEN;cEIGHT;cNINE;5;bNGUN SIGN;1248;
    ETHIOPIC SYLLABLE HHYA;cHHYU;cHHYI;cHHYAA;cHHYEE;cHHYE;cHHYO;1;cGURAGE HHWA;cHHWI;cHHWEE;cHHWE;
    1;cGURAGE MWI;dMWEE;1;dQWI;dQWEE;dQWE;dBWI;dBWEE;dKWI;dKWEE;dKWE;dGWI;dGWEE;dGWE;dFWI;dFWEE;
    dPWI;dPWEE;1;MENDE KIKAKUI SYLLABLE M001 KI;dM002 KA;dM003 KU;dM065 KEE;dM095 KE;dM076 KOO;
    dM048 KO;dM179 KUA;dM004 WI;dM005 WA;dM006 WU;dM126 WEE;dM118 WE;dM114 WOO;dM045 WO;dM194 WUI;
    dM143 WEI;dM061 WVI;dM049 WVA;dM139 WVE;dM007 MIN;dM008 MAN;dM009 MUN;dM059 MEN;dM094 MON;
    dM154 MUAN;dM189 MUEN;dM010 BI;dM011 BA;dM012 BU;dM150 BEE;dM097 BE;dM103 BOO;dM138 BO;dM013 I;
    dM014 A;dM015 U;dM163 EE;dM100 E;dM165 OO;dM147 O;dM137 EI;dM131 IN;dbM135;dM195 AN;dM178 EN;
    dM019 SI;dM020 SA;dM021 SU;dM162 SEE;dM116 SE;dM136 SOO;dM079 SO;dM196 SIA;dM025 LI;dM026 LA;
    dM027 LU;dM084 LEE;dM073 LE;dM054 LOO;dM153 LO;dM110 LONG LE;dM016 DI;dM017 DA;dM018 DU;
    dM089 DEE;dM180 DOO;dM181 DO;dM022 TI;dM023 TA;dM024 TU;dM091 TEE;dM055 TE;dM104 TOO;dM069 TO;
    dM028 JI;dM029 JA;dM030 JU;dM157 JEE;dM113 JE;dM160 JOO;dM063 JO;dbM175 LONG;dM031 YI;dM032 YA;
    dM033 YU;dM109 YEE;dM080 YE;dM141 YOO;dM121 YO;dM034 FI;dM035 FA;dM036 FU;dM078 FEE;dM075 FE;
    dM133 FOO;dM088 FO;dM197 FUA;dM101 FAN;dM037 NIN;dM038 NAN;dM039 NUN;dM117 NEN;dM169 NON;
    dM176 HI;dM041 HA;dM186 HU;dM040 HEE;dM096 HE;dM042 HOO;dM140 HO;dM083 HEEI;dM128 HOOU;
    dM053 HIN;dM130 HAN;dM087 HUN;dM052 HEN;dM193 HON;dM046 HUAN;dM090 NGGI;dM043 NGGA;dM082 NGGU;
    dM115 NGGEE;dM146 NGGE;dM156 NGGOO;dM120 NGGO;dM159 NGGAA;dM127 NGGUA;dM086 LONG NGGE;
    dM106 LONG NGGOO;dM183 LONG NGGO;dM155 GI;dM111 GA;dM168 GU;dM190 GEE;dM166 GUEI;dM167 GUAN;
    dM184 NGEN;dM057 NGON;dM177 NGUAN;dM068 PI;dM099 PA;dM050 PU;dM081 PEE;dM051 PE;dM102 POO;
    dM066 PO;dM145 MBI;dM062 MBA;dM122 MBU;dM047 MBEE;dbM188;dM072 MBE;dM172 MBOO;dM174 MBO;
    dM187 MBUU;dM161 LONG MBE;dM105 LONG MBOO;dM142 LONG MBO;dM132 KPI;dM092 KPA;dM074 KPU;
    dM044 KPEE;dM108 KPE;dM112 KPOO;dM158 KPO;dM124 GBI;dM056 GBA;dM148 GBU;dM093 GBEE;dM107 GBE;
    dM071 GBOO;dM070 GBO;dM171 RA;dM123 NDI;dM129 NDA;dM125 NDU;dM191 NDEE;dM119 NDE;dM067 NDOO;
    dM064 NDO;dM152 NJA;dM192 NJU;dM149 NJEE;dM134 NJOO;dM182 VI;dM185 VA;dM151 VU;dM173 VEE;
    dM085 VE;dM144 VOO;dM077 VO;dM164 NYIN;dM058 NYAN;dM170 NYUN;dM098 NYEN;dM060 NYON;2;
    cDIGIT ONE;dTWO;dTHREE;dFOUR;dFIVE;dSIX;dSEVEN;dEIGHT;dNINE;cCOMBINING NUMBER TEENS;eTENS;
    eHUNDREDS;eTHOUSANDS;ebTEN;ebHUNDRED;eMILLIONS;41;ADLAM CAPITAL LETTER ALIF;dDAALI;dLAAM;dMIIM;
    dBA;dSINNYIIYHE;dPE;dBHE;dRA;dE;dFA;dI;dO;dDHA;dYHE;dWAW;dNUN;dKAF;dYA;dU;dJIIM;dCHI;dHA;dQAAF;
    dGA;dNYA;dTU;dNHA;dVA;dKHA;dGBE;dZAL;dKPO;dSHA;bSMALL LETTER ALIF;dDAALI;dLAAM;dMIIM;dBA;
    dSINNYIIYHE;dPE;dBHE;dRA;dE;dFA;dI;dO;dDHA;dYHE;dWAW;dNUN;dKAF;dYA;dU;dJIIM;dCHI;dHA;dQAAF;dGA;
    dNYA;dTU;dNHA;dVA;dKHA;dGBE;dZAL;dKPO;dSHA;bALIF LENGTHENER;bbVOWEL;bGEMINATION MARK;bHAMZA;
    bCONSONANT MODIFIER;bcGEMINATE;bNUKTA;bNASALIZATION MARK;4;bDIGIT ZERO;cONE;cTWO;cTHREE;cFOUR;
    cFIVE;cSIX;cSEVEN;cEIGHT;cNINE;4;bINITIAL EXCLAMATION MARK;cbQUESTION;785;
    INDIC SIYAQ NUMBER ONE;dTWO;dTHREE;dFOUR;dFIVE;dSIX;dSEVEN;dEIGHT;dNINE;dTEN;dTWENTY;dTHIRTY;
    dFORTY;dFIFTY;dSIXTY;dSEVENTY;dEIGHTY;dNINETY;dONE HUNDRED;dbTWO;dbTHREE;dbFOUR;dbFIVE;dbSIX;
    dbSEVEN;dbEIGHT;dbNINE;dONE THOUSAND;dbTWO;dbTHREE;dbFOUR;dbFIVE;dbSIX;dbSEVEN;dbEIGHT;dbNINE;
    dbTEN;dbTWENTY;dbTHIRTY;dbFORTY;dbFIFTY;dbSIXTY;dbSEVENTY;dbEIGHTY;dbNINETY;dLAKH;dLAKHAN;
    cLAKH MARK;cNUMBER KAROR;dKARORAN;dPREFIXED ONE;eTWO;eTHREE;eFOUR;eFIVE;eSIX;eSEVEN;eEIGHT;
    eNINE;cPLACEHOLDER;cFRACTION ONE QUARTER;eHALF;dTHREE QUARTERS;cRUPEE MARK;
    cNUMBER ALTERNATE ONE;eTWO;eTEN THOUSAND;cALTERNATE LAKH MARK;76;OTTOMAN SIYAQ NUMBER ONE;dTWO;
    dTHREE;dFOUR;dFIVE;dSIX;dSEVEN;dEIGHT;dNINE;dTEN;dTWENTY;dTHIRTY;dFORTY;dFIFTY;dSIXTY;dSEVENTY;
    dEIGHTY;dNINETY;dONE HUNDRED;dbTWO;dbTHREE;dbFOUR;dbFIVE;dbSIX;dbSEVEN;dbEIGHT;dbNINE;
    dONE THOUSAND;dbTWO;dbTHREE;dbFOUR;dbFIVE;dbSIX;dbSEVEN;dbEIGHT;dbNINE;dbTEN;dbTWENTY;dbTHIRTY;
    dbFORTY;dbFIFTY;dbSIXTY;dbSEVENTY;dbEIGHTY;dbNINETY;cMARRATAN;cALTERNATE NUMBER TWO;eTHREE;
    eFOUR;eFIVE;eSIX;eSEVEN;eEIGHT;eNINE;eTEN;eFOUR HUNDRED;ebSIX;eTWO THOUSAND;ebTEN;
    cFRACTION ONE HALF;eSIXTH;194;ARABIC MATHEMATICAL ALEF;cBEH;cJEEM;cDAL;1;cWAW;cZAIN;cHAH;cTAH;
    cYEH;cKAF;cLAM;cMEEM;cNOON;cSEEN;cAIN;cFEH;cSAD;cQAF;cREH;cSHEEN;cTEH;cTHEH;cKHAH;cTHAL;cDAD;
    cZAH;cGHAIN;cDOTLESS BEH;dNOON;dFEH;dQAF;1;cINITIAL BEH;dJEEM;1;dHEH;2;dHAH;1;dYEH;dKAF;dLAM;
    dMEEM;dNOON;dSEEN;dAIN;dFEH;dSAD;dQAF;1;dSHEEN;dTEH;dTHEH;dKHAH;1;dDAD;1;dGHAIN;6;cTAILED JEEM;
    4;dHAH;1;dYEH;1;dLAM;1;dNOON;dSEEN;dAIN;1;dSAD;dQAF;1;dSHEEN;2;dKHAH;1;dDAD;1;dGHAIN;1;
    dDOTLESS NOON;1;eQAF;1;cSTRETCHED BEH;dJEEM;1;dHEH;2;dHAH;dTAH;dYEH;dKAF;1;dMEEM;dNOON;dSEEN;
    dAIN;dFEH;dSAD;dQAF;1;dSHEEN;dTEH;dTHEH;dKHAH;1;dDAD;dZAH;dGHAIN;dDOTLESS BEH;1;eFEH;1;
    cLOOPED ALEF;dBEH;dJEEM;dDAL;dHEH;dWAW;dZAIN;dHAH;dTAH;dYEH;1;dLAM;dMEEM;dNOON;dSEEN;dAIN;dFEH;
    dSAD;dQAF;dREH;dSHEEN;dTEH;dTHEH;dKHAH;dTHAL;dDAD;dZAH;dGHAIN;5;cDOUBLE-STRUCK BEH;dJEEM;dDAL;
    1;dWAW;dZAIN;dHAH;dTAH;dYEH;1;dLAM;dMEEM;dNOON;dSEEN;dAIN;dFEH;dSAD;dQAF;dREH;dSHEEN;dTEH;
    dTHEH;dKHAH;dTHAL;dDAD;dZAH;dGHAIN;52;cOPERATOR MEEM WITH HAH WITH TATWEEL;dHAH WITH DAL"

end SqlRunner.Text.CharacterName
