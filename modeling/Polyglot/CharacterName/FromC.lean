/-! # Names of characters that begin with C

A list of first words with what may follow each of them. There every entry begins with a letter
that tells how many words are taken from the entry before it: `a` for none, `b` for one and so on.
The words after those are joined by underlines.
-/

namespace Polyglot.CharacterName

/-- The names of several words that begin with C, by their first words. -/
def fromC : List (String × String) :=
  [("CADA", "aUNA"),
    ("CALL", "aME_HAND"),
    ("CAMERA", "a aWITH_FLASH"),
    ("CANADIAN", "aSYLLABICS_A bAA bAAI bAAY bAI bAIVILIK_B bAN bATHAPASCAN_M cS bAY
     bBEAVER_DENE_L dR bBIBLE-CREE_Y bBLACKFOOT_A cE cI cKA cKE cKI cKO cNA cNE cNI cNO cO cS cW
     cWA cWE cWI cWO bC bCA bCAA bCAAI bCARRIER_CHA cCHE cCHEE cCHI cCHO cCHU cDEE cDENE_GEE
     cDENTAL_S cDI cDLA cDLE cDLEE cDLI cDLO cDLU cDZA cDZE cDZEE cDZI cDZO cDZU cEE cGA cGAA cGE
     cGEE cGHA cGHE cGHEE cGHI cGHO cGHU cGI cGO cGU cGWA cGWU cH cHEE cHI cHWA cHWE cHWEE cHWI
     cHWO cHWU cI cINITIAL_Z cJA cJE cJEE cJI cJJA cJJE cJJEE cJJI cJJO cJJU cJO cJU cJWA cKHA
     cKHE cKHEE cKHI cKHO cKHU cKK cKKA cKKE cKKEE cKKI cKKO cKKU cLA cLE cLEE cLHA cLHE cLHEE
     cLHI cLHO cLHU cLI cLO cLU cMA cME cMEE cMI cMO cMU cNA cNE cNEE cNG cNI cNO cNU cP cPA cPE
     cPEE cPI cPO cPU cRA cRE cREE cRI cRO cRU cSA cSE cSEE cSH cSHA cSHE cSHEE cSHI cSHO cSHU
     cSI cSO cSU cTHA cTHE cTHEE cTHI cTHO cTHU cTLA cTLE cTLEE cTLHA cTLHE cTLHEE cTLHI cTLHO
     cTLHU cTLI cTLO cTLU cTSA cTSE cTSEE cTSI cTSO cTSU cTTA cTTE cTTEE cTTI cTTO cTTSA cTTSE
     cTTSEE cTTSI cTTSO cTTSU cTTU cWA cWE cWEE cWI cWO cWU cYA cYE cYEE cYI cYO cYU cZ cZA cZE
     cZEE cZI cZO cZU bCE bCHI_SIGN bCI bCII bCO bCOO bCWA bCWAA bCWE bCWI bCWII bCWO bCWOO bE
     bEASTERN_W bEN bF bFA bFAA bFAAI bFE bFI bFII bFINAL_ACUTE cBOTTOM_HALF_RING cDOUBLE_ACUTE
     dSHORT_VERTICAL_STROKES cDOWN_TACK cGRAVE cMIDDLE_DOT cPLUS cRAISED_DOT cRIGHT_HALF_RING
     cRING cSHORT_HORIZONTAL_STROKE cSMALL_RING cTOP_HALF_RING bFO bFOO bFULL_STOP bFWAA
     bGLOTTAL_STOP bHK bHYPHEN bI bII bIN bK bKA bKAA bKAAI bKAY bKE bKI bKII bKO bKOO bKW bKWA
     bKWAA bKWAY bKWE bKWI bKWII bKWO bKWOO bL bLA bLAA bLAAI bLAY bLE bLH bLHA bLHAA bLHI bLHII
     bLHO bLHOO bLI bLII bLO bLOO bLWA bLWAA bLWE bLWI bLWII bLWO bLWOO bM bMA bMAA bMAAI bMAY
     bME bMEDIAL_L cR bMH bMI bMII bMO bMOO bMOOSE-CREE_SK bMWA bMWAA bMWE bMWI bMWII bMWO bMWOO
     bN bN-CREE_THE cTHI cTHII bNA bNAA bNAAI bNASKAPI_CWAA cKWAA cMWAA cNWAA cS-W cSCWA cSKW
     cSKWA cSPWA cSTWA cSWAA cTWAA cWAA cWOO cYWAA bNATTILIK_HA cHAA cHI cHII cHO cHOO cSHRA
     cSHRAA cSHRI cSHRII cSHRO cSHROO bNAY bNE bNG bNGA bNGAA bNGAAI bNGAI bNGI bNGII bNGO bNGOO
     bNH bNI bNII bNNG bNNGA bNNGAA bNNGI bNNGII bNNGO bNNGOO bNO bNOO bNOY bNUNAVIK_H cHA cHAA
     cHE cHI cHII cHO cHOO bNUNAVUT_H bNWA bNWAA bNWE bNWI bNWII bNWO bNWOO bO bOJIBWAY_C cK cM
     cN cNWI cNWII cNWO cNWOO cP cS cSH cT bON bOO bOY bP bPA bPAA bPAAI bPAY bPE bPI bPII bPO
     bPOO bPOY bPWA bPWAA bPWE bPWI bPWII bPWO bPWOO bPWOY bQ bQA bQAA bQAAI bQAI bQI bQII bQO
     bQOO bR bR-CREE_RE cRWE bRA bRAA bRAAI bRAY bRE bRI bRII bRO bROO bRWA bRWAA bRWEE bRWI
     bRWII bRWO bRWOO bS bSA bSAA bSAAI bSAY bSAYISI_HA cHE cHI cHO cHOO cJI cJU cJUU cM cSHA
     cSHE cSHI cSHO cSHOO cSHWE cTH cYI bSE bSH bSHA bSHAA bSHAY bSHE bSHI bSHII bSHO bSHOO bSHOY
     bSHWA bSHWAA bSHWE bSHWI bSHWII bSHWO bSHWOO bSHWOY bSI bSII bSO bSOO bSOUTH-SLAVEY_KAH cKEH
     cKIH cKOH bSOY bSPA bSPE bSPI bSPO bSW bSWA bSWAA bSWE bSWI bSWII bSWO bSWOO bT bTA bTAA
     bTAAI bTAY bTE bTH bTH-CREE_TH cTHA cTHAA cTHE cTHI cTHII cTHO cTHOO bTHA bTHAA bTHE bTHI
     bTHII bTHO bTHOO bTHWA bTHWAA bTHWE bTI bTII bTLHA bTLHE bTLHI bTLHO bTLHOO bTLHWE bTO bTOO
     bTTA bTTE bTTH bTTHA bTTHAA bTTHE bTTHI bTTHO bTTHOO bTTHWE bTTI bTTO bTWA bTWAA bTWE bTWI
     bTWII bTWO bTWOO bTYA bTYE bTYI bTYO bWA bWAA bWAY bWE bWEST-CREE_CWA cCWAA cCWE cCWI cCWII
     cCWO cCWOO cFWAA cKWA cKWAA cKWE cKWI cKWII cKWO cKWOO cL cLA cLAA cLE cLO cLOO cLWA cLWAA
     cLWE cLWI cLWII cLWO cLWOO cM cMWA cMWAA cMWE cMWI cMWII cMWO cMWOO cNWA cNWAA cNWE cP cPWA
     cPWAA cPWE cPWI cPWII cPWO cPWOO cR cRA cRE cRI cRO cRWAA cSHWA cSHWAA cSHWE cSHWI cSHWII
     cSHWO cSHWOO cSWA cSWAA cSWE cSWI cSWII cSWO cSWOO cTHWAA cTWA cTWAA cTWE cTWI cTWII cTWO
     cTWOO cWA cWAA cWE cWI cWII cWO cWOO cY cYWA cYWAA cYWE cYWI cYWII cYWO cYWOO bWESTERN_W bWI
     bWII bWO bWOO bWOODS-CREE_FINAL_TH cTH cTHA cTHE cTHI cTHO cTHWA cTHWAA cTHWEE cTHWI cTHWII
     cTHWO cTHWOO bY bY-CREE_COO cKOO cLOO cMOO cNOO cOO cPOO cPWAA cSOO cTOO cW cYOO bYA bYAA
     bYAAI bYAY bYE bYI bYII bYO bYOO bYOY bYWA bYWAA bYWE bYWI bYWII bYWO bYWOO"),
    ("CANCEL", "a aCHARACTER aTAG"),
    ("CANCELLATION", "aX"),
    ("CANNED", "aFOOD"),
    ("CAR", "aSLIDING"),
    ("CARD", "aFILE_BOX aINDEX bDIVIDERS"),
    ("CARE", "aOF"),
    ("CARET", "a aINSERTION_POINT"),
    ("CARIAN", "aLETTER_A bA2 bB bC-18 bC-39 bD bD2 bE bE2 bG bG2 bI bII bK bK2 bL bLD bLD2 bM
     bMB bMB2 bMB3 bMB4 bN bND bNG bNN bO bP bP2 bQ bR bRR bS bSH bSH2 bSS bST bST2 bT bTT bTT2
     bU bUU bUUU bUUU2 bUUU3 bUUUU bX"),
    ("CAROUSEL", "aHORSE"),
    ("CARP", "aSTREAMER"),
    ("CARPENTRY", "aSAW"),
    ("CARRIAGE", "aRETURN"),
    ("CAT", "a aFACE bWITH_TEARS_OF_JOY cWRY_SMILE"),
    ("CAUCASIAN", "aALBANIAN_CITATION_MARK bLETTER_ALT cAOR cBET cCAR cCAYN cCHA cCHAT cCHI cCHOY
     cCYAW cCYAY cDAT cDYAN cDZAY cDZYAY cEB cEYN cFAM cGHEYS cGIM cHEYT cINYA cIRB cIWN cJAYN
     cJHOX cKAR cKIW cLAN cLYIT cMAQ cNOWC cON cPEN cPIWR cQAR cQAY cRAT cSEYK cSHA cSHAK cSHOY
     cTAS cTIWR cTYAY cVEYZ cXEYN cYAYD cYOWD cZARL cZHA cZHIL"),
    ("CAUTION", "aSIGN"),
    ("CEDI", "aSIGN"),
    ("CELTIC", "aCROSS"),
    ("CENT", "aSIGN"),
    ("CENTRE", "aLINE_SYMBOL"),
    ("CENTRELINE", "aLOW_LINE aOVERLINE"),
    ("CHAKMA", "aAU_MARK aDANDA aDIGIT_EIGHT bFIVE bFOUR bNINE bONE bSEVEN bSIX bTHREE bTWO bZERO
     aDOUBLE_DANDA aLETTER_AA bBAA bBHAA bCAA bCHAA bDAA bDDAA bDDHAA bDHAA bE bGAA bGHAA bHAA bI
     bJAA bJHAA bKAA bKHAA bLAA bLHAA bMAA bNAA bNGAA bNNAA bNYAA bPAA bPHAA bRAA bSAA bTAA bTHAA
     bTTAA bTTHAA bU bVAA bWAA bYAA bYYAA aMAAYYAA aO_MARK aQUESTION_MARK aSECTION_MARK
     aSIGN_ANUSVARA bCANDRABINDU bVISARGA aVIRAMA aVOWEL_SIGN_A cAA cAI cAU cE cEI cI cII cO cOI
     cU cUU"),
    ("CHAM", "aCONSONANT_SIGN_FINAL_H dM dNG cLA cRA cWA cYA aDIGIT_EIGHT bFIVE bFOUR bNINE bONE
     bSEVEN bSIX bTHREE bTWO bZERO aLETTER_A bAI bBA bBBA bBHA bCHA bCHHA bDA bDDA bDHA bE
     bFINAL_CH cG cK cL cN cNG cP cR cSS cT cY bGA bGHA bHA bI bJA bJHA bKA bKHA bLA bMA bMUE bNA
     bNGA bNGUE bNHA bNHJA bNHUE bNUE bO bPA bPHA bPPA bRA bSA bSSA bTA bTHA bU bVA bYA
     aPUNCTUATION_DANDA bDOUBLE_DANDA bSPIRAL bTRIPLE_DANDA aVOWEL_SIGN_AA cAI cAU cEI cI cII cO
     cOE cU cUE"),
    ("CHARACTER", "aTABULATION bSET bWITH_JUSTIFICATION aTIE"),
    ("CHART", "aWITH_DOWNWARDS_TREND bUPWARDS_TREND dAND_YEN_SIGN"),
    ("CHECK", "aMARK"),
    ("CHECKER", "aBOARD bFILL"),
    ("CHEERING", "aMEGAPHONE"),
    ("CHEESE", "aWEDGE"),
    ("CHEQUERED", "aFLAG"),
    ("CHEROKEE", "aLETTER_A bDA bDE bDI bDLA bDO bDU bDV bE bGA bGE bGI bGO bGU bGV bHA bHE bHI
     bHNA bHO bHU bHV bI bKA bLA bLE bLI bLO bLU bLV bMA bME bMI bMO bMU bMV bNA bNAH bNE bNI bNO
     bNU bNV bO bQUA bQUE bQUI bQUO bQUU bQUV bS bSA bSE bSI bSO bSU bSV bTA bTE bTI bTLA bTLE
     bTLI bTLO bTLU bTLV bTSA bTSE bTSI bTSO bTSU bTSV bU bV bWA bWE bWI bWO bWU bWV bYA bYE bYI
     bYO bYU bYV aSMALL_LETTER_A cDA cDE cDI cDLA cDO cDU cDV cE cGA cGE cGI cGO cGU cGV cHA cHE
     cHI cHNA cHO cHU cHV cI cKA cLA cLE cLI cLO cLU cLV cMA cME cMI cMO cMU cMV cNA cNAH cNE cNI
     cNO cNU cNV cO cQUA cQUE cQUI cQUO cQUU cQUV cS cSA cSE cSI cSO cSU cSV cTA cTE cTI cTLA
     cTLE cTLI cTLO cTLU cTLV cTSA cTSE cTSI cTSO cTSU cTSV cU cV cWA cWE cWI cWO cWU cWV cYA cYE
     cYI cYO cYU cYV"),
    ("CHERRY", "aBLOSSOM"),
    ("CHI", "aRHO"),
    ("CHILDREN", "aCROSSING"),
    ("CHOCOLATE", "aBAR"),
    ("CHORASMIAN", "aLETTER_ALEPH bAYIN bBETH bCURLED_WAW bDALETH bGIMEL bHE bHETH bKAPH bLAMEDH
     bMEM bNUN bPE bRESH bSAMEKH bSHIN bSMALL_ALEPH bTAW bWAW bYODH bZAYIN aNUMBER_FOUR bONE
     cHUNDRED bTEN bTHREE bTWENTY bTWO"),
    ("CHRISTMAS", "aTREE"),
    ("CIRCLE", "aDIVIDED_BY_HORIZONTAL_BAR_AND_TOP_HALF_DIVIDED_BY_VERTICAL_BAR
     aWITH_ALL_BUT_UPPER_LEFT_QUADRANT_BLACK bHORIZONTAL_BAR bLEFT_HALF_BLACK bLOWER_HALF_BLACK
     bRIGHT_HALF_BLACK bSMALL_CIRCLE_TO_THE_RIGHT bSUPERIMPOSED_X
     bTWO_HORIZONTAL_STROKES_TO_THE_RIGHT bUPPER_HALF_BLACK cRIGHT_QUADRANT_BLACK bVERTICAL_FILL"),
    ("CIRCLED", "aANTICLOCKWISE_ARROW aANTICLOCKWISE-ROTATED_DIVISION_SIGN aASTERISK_OPERATOR
     aBOLD_X aBULLET aC_WITH_OVERLAID_BACKSLASH aCC aCD aCROSS_FORMEE cWITH_FOUR_DOTS dTWO_DOTS
     bPOMMEE aCROSSING_LANES aDASH aDIGIT_EIGHT bFIVE bFOUR bNINE bONE bSEVEN bSIX bTHREE bTWO
     bZERO aDIVISION_SIGN bSLASH aDOLLAR_SIGN_WITH_OVERLAID_BACKSLASH aDOT_OPERATOR aEQUALS
     aGREATER-THAN aHANGUL_CHIEUCH cA bCIEUC cA bHIEUH cA bIEUNG cA cU bKHIEUKH cA bKIYEOK cA
     bMIEUM cA bNIEUN cA bPHIEUPH cA bPIEUP cA bRIEUL cA bSIOS cA bTHIEUTH cA bTIKEUT cA
     aHEAVY_WHITE_RIGHTWARDS_ARROW aHORIZONTAL_BAR_WITH_NOTCH aHUMAN_FIGURE aIDEOGRAPH_ACCEPT
     bADVANTAGE bALLIANCE bATTENTION bCENTRE bCONGRATULATION bCOPY bCORRECT bEARTH bEIGHT
     bENTERPRISE bEXCELLENT bFEMALE bFINANCIAL bFIRE bFIVE bFOUR bHAVE bHIGH bITEM bKINDERGARTEN
     bKOTO bLABOR bLEFT bLOW bMALE bMEDICINE bMETAL bMOON bNAME bNIGHT bNINE bONE bPRINT
     bQUESTION bRELIGION bRESOURCE bREST bRIGHT bSCHOOL bSECRET bSEVEN bSIX bSOCIETY bSPECIAL
     bSTOCK bSTUDY bSUITABLE bSUN bSUPERVISE bTEN bTHREE bTWO bWATER bWOOD aINFORMATION_SOURCE
     aITALIC_LATIN_CAPITAL_LETTER_C eR aKATAKANA_A bE bHA bHE bHI bHO bHU bI bKA bKE bKI bKO bKU
     bMA bME bMI bMO bMU bNA bNE bNI bNO bNU bO bRA bRE bRI bRO bRU bSA bSE bSI bSO bSU bTA bTE
     bTI bTO bTU bU bWA bWE bWI bWO bYA bYO bYU aKOREAN_CHARACTER_CHAMKO cJUEUI
     aLATIN_CAPITAL_LETTER_A dB dC dD dE dF dG dH dI dJ dK dL dM dN dO dP dQ dR dS dT dU dV dW dX
     dY dZ bSMALL_LETTER_A dB dC dD dE dF dG dH dI dJ dK dL dM dN dO dP dQ dR dS dT dU dV dW dX
     dY dZ aLESS-THAN aMINUS aMULTIPLICATION_SIGN_WITH_CIRCUMFLEX_ACCENT aNUMBER_EIGHTEEN
     bEIGHTY_ON_BLACK_SQUARE bELEVEN bFIFTEEN bFIFTY cON_BLACK_SQUARE bFORTY cEIGHT cFIVE cFOUR
     cNINE cON_BLACK_SQUARE cONE cSEVEN cSIX cTHREE cTWO bFOURTEEN bNINETEEN bSEVENTEEN
     bSEVENTY_ON_BLACK_SQUARE bSIXTEEN bSIXTY_ON_BLACK_SQUARE bTEN cON_BLACK_SQUARE bTHIRTEEN
     bTHIRTY cEIGHT cFIVE cFOUR cNINE cON_BLACK_SQUARE cONE cSEVEN cSIX cTHREE cTWO bTWELVE
     bTWENTY cEIGHT cFIVE cFOUR cNINE cON_BLACK_SQUARE cONE cSEVEN cSIX cTHREE cTWO
     aOPEN_CENTRE_EIGHT_POINTED_STAR aPARALLEL aPERPENDICULAR aPLUS aPOSTAL_MARK aREVERSE_SOLIDUS
     aRING_OPERATOR aSQUARE aTIMES aTRIANGLE bDOWN aVERTICAL_BAR aWHITE_BULLET bSTAR aWZ aX
     aZERO_WITH_SLASH"),
    ("CIRCULATION", "aFUNCTION"),
    ("CIRCUMFLEX", "aACCENT"),
    ("CIRCUS", "aTENT"),
    ("CITYSCAPE", "a aAT_DUSK"),
    ("CJK", "aCOMPATIBILITY_IDEOGRAPH-2F800 bIDEOGRAPH-2F801 bIDEOGRAPH-2F802 bIDEOGRAPH-2F803
     bIDEOGRAPH-2F804 bIDEOGRAPH-2F805 bIDEOGRAPH-2F806 bIDEOGRAPH-2F807 bIDEOGRAPH-2F808
     bIDEOGRAPH-2F809 bIDEOGRAPH-2F80A bIDEOGRAPH-2F80B bIDEOGRAPH-2F80C bIDEOGRAPH-2F80D
     bIDEOGRAPH-2F80E bIDEOGRAPH-2F80F bIDEOGRAPH-2F810 bIDEOGRAPH-2F811 bIDEOGRAPH-2F812
     bIDEOGRAPH-2F813 bIDEOGRAPH-2F814 bIDEOGRAPH-2F815 bIDEOGRAPH-2F816 bIDEOGRAPH-2F817
     bIDEOGRAPH-2F818 bIDEOGRAPH-2F819 bIDEOGRAPH-2F81A bIDEOGRAPH-2F81B bIDEOGRAPH-2F81C
     bIDEOGRAPH-2F81D bIDEOGRAPH-2F81E bIDEOGRAPH-2F81F bIDEOGRAPH-2F820 bIDEOGRAPH-2F821
     bIDEOGRAPH-2F822 bIDEOGRAPH-2F823 bIDEOGRAPH-2F824 bIDEOGRAPH-2F825 bIDEOGRAPH-2F826
     bIDEOGRAPH-2F827 bIDEOGRAPH-2F828 bIDEOGRAPH-2F829 bIDEOGRAPH-2F82A bIDEOGRAPH-2F82B
     bIDEOGRAPH-2F82C bIDEOGRAPH-2F82D bIDEOGRAPH-2F82E bIDEOGRAPH-2F82F bIDEOGRAPH-2F830
     bIDEOGRAPH-2F831 bIDEOGRAPH-2F832 bIDEOGRAPH-2F833 bIDEOGRAPH-2F834 bIDEOGRAPH-2F835
     bIDEOGRAPH-2F836 bIDEOGRAPH-2F837 bIDEOGRAPH-2F838 bIDEOGRAPH-2F839 bIDEOGRAPH-2F83A
     bIDEOGRAPH-2F83B bIDEOGRAPH-2F83C bIDEOGRAPH-2F83D bIDEOGRAPH-2F83E bIDEOGRAPH-2F83F
     bIDEOGRAPH-2F840 bIDEOGRAPH-2F841 bIDEOGRAPH-2F842 bIDEOGRAPH-2F843 bIDEOGRAPH-2F844
     bIDEOGRAPH-2F845 bIDEOGRAPH-2F846 bIDEOGRAPH-2F847 bIDEOGRAPH-2F848 bIDEOGRAPH-2F849
     bIDEOGRAPH-2F84A bIDEOGRAPH-2F84B bIDEOGRAPH-2F84C bIDEOGRAPH-2F84D bIDEOGRAPH-2F84E
     bIDEOGRAPH-2F84F bIDEOGRAPH-2F850 bIDEOGRAPH-2F851 bIDEOGRAPH-2F852 bIDEOGRAPH-2F853
     bIDEOGRAPH-2F854 bIDEOGRAPH-2F855 bIDEOGRAPH-2F856 bIDEOGRAPH-2F857 bIDEOGRAPH-2F858
     bIDEOGRAPH-2F859 bIDEOGRAPH-2F85A bIDEOGRAPH-2F85B bIDEOGRAPH-2F85C bIDEOGRAPH-2F85D
     bIDEOGRAPH-2F85E bIDEOGRAPH-2F85F bIDEOGRAPH-2F860 bIDEOGRAPH-2F861 bIDEOGRAPH-2F862
     bIDEOGRAPH-2F863 bIDEOGRAPH-2F864 bIDEOGRAPH-2F865 bIDEOGRAPH-2F866 bIDEOGRAPH-2F867
     bIDEOGRAPH-2F868 bIDEOGRAPH-2F869 bIDEOGRAPH-2F86A bIDEOGRAPH-2F86B bIDEOGRAPH-2F86C
     bIDEOGRAPH-2F86D bIDEOGRAPH-2F86E bIDEOGRAPH-2F86F bIDEOGRAPH-2F870 bIDEOGRAPH-2F871
     bIDEOGRAPH-2F872 bIDEOGRAPH-2F873 bIDEOGRAPH-2F874 bIDEOGRAPH-2F875 bIDEOGRAPH-2F876
     bIDEOGRAPH-2F877 bIDEOGRAPH-2F878 bIDEOGRAPH-2F879 bIDEOGRAPH-2F87A bIDEOGRAPH-2F87B
     bIDEOGRAPH-2F87C bIDEOGRAPH-2F87D bIDEOGRAPH-2F87E bIDEOGRAPH-2F87F bIDEOGRAPH-2F880
     bIDEOGRAPH-2F881 bIDEOGRAPH-2F882 bIDEOGRAPH-2F883 bIDEOGRAPH-2F884 bIDEOGRAPH-2F885
     bIDEOGRAPH-2F886 bIDEOGRAPH-2F887 bIDEOGRAPH-2F888 bIDEOGRAPH-2F889 bIDEOGRAPH-2F88A
     bIDEOGRAPH-2F88B bIDEOGRAPH-2F88C bIDEOGRAPH-2F88D bIDEOGRAPH-2F88E bIDEOGRAPH-2F88F
     bIDEOGRAPH-2F890 bIDEOGRAPH-2F891 bIDEOGRAPH-2F892 bIDEOGRAPH-2F893 bIDEOGRAPH-2F894
     bIDEOGRAPH-2F895 bIDEOGRAPH-2F896 bIDEOGRAPH-2F897 bIDEOGRAPH-2F898 bIDEOGRAPH-2F899
     bIDEOGRAPH-2F89A bIDEOGRAPH-2F89B bIDEOGRAPH-2F89C bIDEOGRAPH-2F89D bIDEOGRAPH-2F89E
     bIDEOGRAPH-2F89F bIDEOGRAPH-2F8A0 bIDEOGRAPH-2F8A1 bIDEOGRAPH-2F8A2 bIDEOGRAPH-2F8A3
     bIDEOGRAPH-2F8A4 bIDEOGRAPH-2F8A5 bIDEOGRAPH-2F8A6 bIDEOGRAPH-2F8A7 bIDEOGRAPH-2F8A8
     bIDEOGRAPH-2F8A9 bIDEOGRAPH-2F8AA bIDEOGRAPH-2F8AB bIDEOGRAPH-2F8AC bIDEOGRAPH-2F8AD
     bIDEOGRAPH-2F8AE bIDEOGRAPH-2F8AF bIDEOGRAPH-2F8B0 bIDEOGRAPH-2F8B1 bIDEOGRAPH-2F8B2
     bIDEOGRAPH-2F8B3 bIDEOGRAPH-2F8B4 bIDEOGRAPH-2F8B5 bIDEOGRAPH-2F8B6 bIDEOGRAPH-2F8B7
     bIDEOGRAPH-2F8B8 bIDEOGRAPH-2F8B9 bIDEOGRAPH-2F8BA bIDEOGRAPH-2F8BB bIDEOGRAPH-2F8BC
     bIDEOGRAPH-2F8BD bIDEOGRAPH-2F8BE bIDEOGRAPH-2F8BF bIDEOGRAPH-2F8C0 bIDEOGRAPH-2F8C1
     bIDEOGRAPH-2F8C2 bIDEOGRAPH-2F8C3 bIDEOGRAPH-2F8C4 bIDEOGRAPH-2F8C5 bIDEOGRAPH-2F8C6
     bIDEOGRAPH-2F8C7 bIDEOGRAPH-2F8C8 bIDEOGRAPH-2F8C9 bIDEOGRAPH-2F8CA bIDEOGRAPH-2F8CB
     bIDEOGRAPH-2F8CC bIDEOGRAPH-2F8CD bIDEOGRAPH-2F8CE bIDEOGRAPH-2F8CF bIDEOGRAPH-2F8D0
     bIDEOGRAPH-2F8D1 bIDEOGRAPH-2F8D2 bIDEOGRAPH-2F8D3 bIDEOGRAPH-2F8D4 bIDEOGRAPH-2F8D5
     bIDEOGRAPH-2F8D6 bIDEOGRAPH-2F8D7 bIDEOGRAPH-2F8D8 bIDEOGRAPH-2F8D9 bIDEOGRAPH-2F8DA
     bIDEOGRAPH-2F8DB bIDEOGRAPH-2F8DC bIDEOGRAPH-2F8DD bIDEOGRAPH-2F8DE bIDEOGRAPH-2F8DF
     bIDEOGRAPH-2F8E0 bIDEOGRAPH-2F8E1 bIDEOGRAPH-2F8E2 bIDEOGRAPH-2F8E3 bIDEOGRAPH-2F8E4
     bIDEOGRAPH-2F8E5 bIDEOGRAPH-2F8E6 bIDEOGRAPH-2F8E7 bIDEOGRAPH-2F8E8 bIDEOGRAPH-2F8E9
     bIDEOGRAPH-2F8EA bIDEOGRAPH-2F8EB bIDEOGRAPH-2F8EC bIDEOGRAPH-2F8ED bIDEOGRAPH-2F8EE
     bIDEOGRAPH-2F8EF bIDEOGRAPH-2F8F0 bIDEOGRAPH-2F8F1 bIDEOGRAPH-2F8F2 bIDEOGRAPH-2F8F3
     bIDEOGRAPH-2F8F4 bIDEOGRAPH-2F8F5 bIDEOGRAPH-2F8F6 bIDEOGRAPH-2F8F7 bIDEOGRAPH-2F8F8
     bIDEOGRAPH-2F8F9 bIDEOGRAPH-2F8FA bIDEOGRAPH-2F8FB bIDEOGRAPH-2F8FC bIDEOGRAPH-2F8FD
     bIDEOGRAPH-2F8FE bIDEOGRAPH-2F8FF bIDEOGRAPH-2F900 bIDEOGRAPH-2F901 bIDEOGRAPH-2F902
     bIDEOGRAPH-2F903 bIDEOGRAPH-2F904 bIDEOGRAPH-2F905 bIDEOGRAPH-2F906 bIDEOGRAPH-2F907
     bIDEOGRAPH-2F908 bIDEOGRAPH-2F909 bIDEOGRAPH-2F90A bIDEOGRAPH-2F90B bIDEOGRAPH-2F90C
     bIDEOGRAPH-2F90D bIDEOGRAPH-2F90E bIDEOGRAPH-2F90F bIDEOGRAPH-2F910 bIDEOGRAPH-2F911
     bIDEOGRAPH-2F912 bIDEOGRAPH-2F913 bIDEOGRAPH-2F914 bIDEOGRAPH-2F915 bIDEOGRAPH-2F916
     bIDEOGRAPH-2F917 bIDEOGRAPH-2F918 bIDEOGRAPH-2F919 bIDEOGRAPH-2F91A bIDEOGRAPH-2F91B
     bIDEOGRAPH-2F91C bIDEOGRAPH-2F91D bIDEOGRAPH-2F91E bIDEOGRAPH-2F91F bIDEOGRAPH-2F920
     bIDEOGRAPH-2F921 bIDEOGRAPH-2F922 bIDEOGRAPH-2F923 bIDEOGRAPH-2F924 bIDEOGRAPH-2F925
     bIDEOGRAPH-2F926 bIDEOGRAPH-2F927 bIDEOGRAPH-2F928 bIDEOGRAPH-2F929 bIDEOGRAPH-2F92A
     bIDEOGRAPH-2F92B bIDEOGRAPH-2F92C bIDEOGRAPH-2F92D bIDEOGRAPH-2F92E bIDEOGRAPH-2F92F
     bIDEOGRAPH-2F930 bIDEOGRAPH-2F931 bIDEOGRAPH-2F932 bIDEOGRAPH-2F933 bIDEOGRAPH-2F934
     bIDEOGRAPH-2F935 bIDEOGRAPH-2F936 bIDEOGRAPH-2F937 bIDEOGRAPH-2F938 bIDEOGRAPH-2F939
     bIDEOGRAPH-2F93A bIDEOGRAPH-2F93B bIDEOGRAPH-2F93C bIDEOGRAPH-2F93D bIDEOGRAPH-2F93E
     bIDEOGRAPH-2F93F bIDEOGRAPH-2F940 bIDEOGRAPH-2F941 bIDEOGRAPH-2F942 bIDEOGRAPH-2F943
     bIDEOGRAPH-2F944 bIDEOGRAPH-2F945 bIDEOGRAPH-2F946 bIDEOGRAPH-2F947 bIDEOGRAPH-2F948
     bIDEOGRAPH-2F949 bIDEOGRAPH-2F94A bIDEOGRAPH-2F94B bIDEOGRAPH-2F94C bIDEOGRAPH-2F94D
     bIDEOGRAPH-2F94E bIDEOGRAPH-2F94F bIDEOGRAPH-2F950 bIDEOGRAPH-2F951 bIDEOGRAPH-2F952
     bIDEOGRAPH-2F953 bIDEOGRAPH-2F954 bIDEOGRAPH-2F955 bIDEOGRAPH-2F956 bIDEOGRAPH-2F957
     bIDEOGRAPH-2F958 bIDEOGRAPH-2F959 bIDEOGRAPH-2F95A bIDEOGRAPH-2F95B bIDEOGRAPH-2F95C
     bIDEOGRAPH-2F95D bIDEOGRAPH-2F95E bIDEOGRAPH-2F95F bIDEOGRAPH-2F960 bIDEOGRAPH-2F961
     bIDEOGRAPH-2F962 bIDEOGRAPH-2F963 bIDEOGRAPH-2F964 bIDEOGRAPH-2F965 bIDEOGRAPH-2F966
     bIDEOGRAPH-2F967 bIDEOGRAPH-2F968 bIDEOGRAPH-2F969 bIDEOGRAPH-2F96A bIDEOGRAPH-2F96B
     bIDEOGRAPH-2F96C bIDEOGRAPH-2F96D bIDEOGRAPH-2F96E bIDEOGRAPH-2F96F bIDEOGRAPH-2F970
     bIDEOGRAPH-2F971 bIDEOGRAPH-2F972 bIDEOGRAPH-2F973 bIDEOGRAPH-2F974 bIDEOGRAPH-2F975
     bIDEOGRAPH-2F976 bIDEOGRAPH-2F977 bIDEOGRAPH-2F978 bIDEOGRAPH-2F979 bIDEOGRAPH-2F97A
     bIDEOGRAPH-2F97B bIDEOGRAPH-2F97C bIDEOGRAPH-2F97D bIDEOGRAPH-2F97E bIDEOGRAPH-2F97F
     bIDEOGRAPH-2F980 bIDEOGRAPH-2F981 bIDEOGRAPH-2F982 bIDEOGRAPH-2F983 bIDEOGRAPH-2F984
     bIDEOGRAPH-2F985 bIDEOGRAPH-2F986 bIDEOGRAPH-2F987 bIDEOGRAPH-2F988 bIDEOGRAPH-2F989
     bIDEOGRAPH-2F98A bIDEOGRAPH-2F98B bIDEOGRAPH-2F98C bIDEOGRAPH-2F98D bIDEOGRAPH-2F98E
     bIDEOGRAPH-2F98F bIDEOGRAPH-2F990 bIDEOGRAPH-2F991 bIDEOGRAPH-2F992 bIDEOGRAPH-2F993
     bIDEOGRAPH-2F994 bIDEOGRAPH-2F995 bIDEOGRAPH-2F996 bIDEOGRAPH-2F997 bIDEOGRAPH-2F998
     bIDEOGRAPH-2F999 bIDEOGRAPH-2F99A bIDEOGRAPH-2F99B bIDEOGRAPH-2F99C bIDEOGRAPH-2F99D
     bIDEOGRAPH-2F99E bIDEOGRAPH-2F99F bIDEOGRAPH-2F9A0 bIDEOGRAPH-2F9A1 bIDEOGRAPH-2F9A2
     bIDEOGRAPH-2F9A3 bIDEOGRAPH-2F9A4 bIDEOGRAPH-2F9A5 bIDEOGRAPH-2F9A6 bIDEOGRAPH-2F9A7
     bIDEOGRAPH-2F9A8 bIDEOGRAPH-2F9A9 bIDEOGRAPH-2F9AA bIDEOGRAPH-2F9AB bIDEOGRAPH-2F9AC
     bIDEOGRAPH-2F9AD bIDEOGRAPH-2F9AE bIDEOGRAPH-2F9AF bIDEOGRAPH-2F9B0 bIDEOGRAPH-2F9B1
     bIDEOGRAPH-2F9B2 bIDEOGRAPH-2F9B3 bIDEOGRAPH-2F9B4 bIDEOGRAPH-2F9B5 bIDEOGRAPH-2F9B6
     bIDEOGRAPH-2F9B7 bIDEOGRAPH-2F9B8 bIDEOGRAPH-2F9B9 bIDEOGRAPH-2F9BA bIDEOGRAPH-2F9BB
     bIDEOGRAPH-2F9BC bIDEOGRAPH-2F9BD bIDEOGRAPH-2F9BE bIDEOGRAPH-2F9BF bIDEOGRAPH-2F9C0
     bIDEOGRAPH-2F9C1 bIDEOGRAPH-2F9C2 bIDEOGRAPH-2F9C3 bIDEOGRAPH-2F9C4 bIDEOGRAPH-2F9C5
     bIDEOGRAPH-2F9C6 bIDEOGRAPH-2F9C7 bIDEOGRAPH-2F9C8 bIDEOGRAPH-2F9C9 bIDEOGRAPH-2F9CA
     bIDEOGRAPH-2F9CB bIDEOGRAPH-2F9CC bIDEOGRAPH-2F9CD bIDEOGRAPH-2F9CE bIDEOGRAPH-2F9CF
     bIDEOGRAPH-2F9D0 bIDEOGRAPH-2F9D1 bIDEOGRAPH-2F9D2 bIDEOGRAPH-2F9D3 bIDEOGRAPH-2F9D4
     bIDEOGRAPH-2F9D5 bIDEOGRAPH-2F9D6 bIDEOGRAPH-2F9D7 bIDEOGRAPH-2F9D8 bIDEOGRAPH-2F9D9
     bIDEOGRAPH-2F9DA bIDEOGRAPH-2F9DB bIDEOGRAPH-2F9DC bIDEOGRAPH-2F9DD bIDEOGRAPH-2F9DE
     bIDEOGRAPH-2F9DF bIDEOGRAPH-2F9E0 bIDEOGRAPH-2F9E1 bIDEOGRAPH-2F9E2 bIDEOGRAPH-2F9E3
     bIDEOGRAPH-2F9E4 bIDEOGRAPH-2F9E5 bIDEOGRAPH-2F9E6 bIDEOGRAPH-2F9E7 bIDEOGRAPH-2F9E8
     bIDEOGRAPH-2F9E9 bIDEOGRAPH-2F9EA bIDEOGRAPH-2F9EB bIDEOGRAPH-2F9EC bIDEOGRAPH-2F9ED
     bIDEOGRAPH-2F9EE bIDEOGRAPH-2F9EF bIDEOGRAPH-2F9F0 bIDEOGRAPH-2F9F1 bIDEOGRAPH-2F9F2
     bIDEOGRAPH-2F9F3 bIDEOGRAPH-2F9F4 bIDEOGRAPH-2F9F5 bIDEOGRAPH-2F9F6 bIDEOGRAPH-2F9F7
     bIDEOGRAPH-2F9F8 bIDEOGRAPH-2F9F9 bIDEOGRAPH-2F9FA bIDEOGRAPH-2F9FB bIDEOGRAPH-2F9FC
     bIDEOGRAPH-2F9FD bIDEOGRAPH-2F9FE bIDEOGRAPH-2F9FF bIDEOGRAPH-2FA00 bIDEOGRAPH-2FA01
     bIDEOGRAPH-2FA02 bIDEOGRAPH-2FA03 bIDEOGRAPH-2FA04 bIDEOGRAPH-2FA05 bIDEOGRAPH-2FA06
     bIDEOGRAPH-2FA07 bIDEOGRAPH-2FA08 bIDEOGRAPH-2FA09 bIDEOGRAPH-2FA0A bIDEOGRAPH-2FA0B
     bIDEOGRAPH-2FA0C bIDEOGRAPH-2FA0D bIDEOGRAPH-2FA0E bIDEOGRAPH-2FA0F bIDEOGRAPH-2FA10
     bIDEOGRAPH-2FA11 bIDEOGRAPH-2FA12 bIDEOGRAPH-2FA13 bIDEOGRAPH-2FA14 bIDEOGRAPH-2FA15
     bIDEOGRAPH-2FA16 bIDEOGRAPH-2FA17 bIDEOGRAPH-2FA18 bIDEOGRAPH-2FA19 bIDEOGRAPH-2FA1A
     bIDEOGRAPH-2FA1B bIDEOGRAPH-2FA1C bIDEOGRAPH-2FA1D bIDEOGRAPH-F900 bIDEOGRAPH-F901
     bIDEOGRAPH-F902 bIDEOGRAPH-F903 bIDEOGRAPH-F904 bIDEOGRAPH-F905 bIDEOGRAPH-F906
     bIDEOGRAPH-F907 bIDEOGRAPH-F908 bIDEOGRAPH-F909 bIDEOGRAPH-F90A bIDEOGRAPH-F90B
     bIDEOGRAPH-F90C bIDEOGRAPH-F90D bIDEOGRAPH-F90E bIDEOGRAPH-F90F bIDEOGRAPH-F910
     bIDEOGRAPH-F911 bIDEOGRAPH-F912 bIDEOGRAPH-F913 bIDEOGRAPH-F914 bIDEOGRAPH-F915
     bIDEOGRAPH-F916 bIDEOGRAPH-F917 bIDEOGRAPH-F918 bIDEOGRAPH-F919 bIDEOGRAPH-F91A
     bIDEOGRAPH-F91B bIDEOGRAPH-F91C bIDEOGRAPH-F91D bIDEOGRAPH-F91E bIDEOGRAPH-F91F
     bIDEOGRAPH-F920 bIDEOGRAPH-F921 bIDEOGRAPH-F922 bIDEOGRAPH-F923 bIDEOGRAPH-F924
     bIDEOGRAPH-F925 bIDEOGRAPH-F926 bIDEOGRAPH-F927 bIDEOGRAPH-F928 bIDEOGRAPH-F929
     bIDEOGRAPH-F92A bIDEOGRAPH-F92B bIDEOGRAPH-F92C bIDEOGRAPH-F92D bIDEOGRAPH-F92E
     bIDEOGRAPH-F92F bIDEOGRAPH-F930 bIDEOGRAPH-F931 bIDEOGRAPH-F932 bIDEOGRAPH-F933
     bIDEOGRAPH-F934 bIDEOGRAPH-F935 bIDEOGRAPH-F936 bIDEOGRAPH-F937 bIDEOGRAPH-F938
     bIDEOGRAPH-F939 bIDEOGRAPH-F93A bIDEOGRAPH-F93B bIDEOGRAPH-F93C bIDEOGRAPH-F93D
     bIDEOGRAPH-F93E bIDEOGRAPH-F93F bIDEOGRAPH-F940 bIDEOGRAPH-F941 bIDEOGRAPH-F942
     bIDEOGRAPH-F943 bIDEOGRAPH-F944 bIDEOGRAPH-F945 bIDEOGRAPH-F946 bIDEOGRAPH-F947
     bIDEOGRAPH-F948 bIDEOGRAPH-F949 bIDEOGRAPH-F94A bIDEOGRAPH-F94B bIDEOGRAPH-F94C
     bIDEOGRAPH-F94D bIDEOGRAPH-F94E bIDEOGRAPH-F94F bIDEOGRAPH-F950 bIDEOGRAPH-F951
     bIDEOGRAPH-F952 bIDEOGRAPH-F953 bIDEOGRAPH-F954 bIDEOGRAPH-F955 bIDEOGRAPH-F956
     bIDEOGRAPH-F957 bIDEOGRAPH-F958 bIDEOGRAPH-F959 bIDEOGRAPH-F95A bIDEOGRAPH-F95B
     bIDEOGRAPH-F95C bIDEOGRAPH-F95D bIDEOGRAPH-F95E bIDEOGRAPH-F95F bIDEOGRAPH-F960
     bIDEOGRAPH-F961 bIDEOGRAPH-F962 bIDEOGRAPH-F963 bIDEOGRAPH-F964 bIDEOGRAPH-F965
     bIDEOGRAPH-F966 bIDEOGRAPH-F967 bIDEOGRAPH-F968 bIDEOGRAPH-F969 bIDEOGRAPH-F96A
     bIDEOGRAPH-F96B bIDEOGRAPH-F96C bIDEOGRAPH-F96D bIDEOGRAPH-F96E bIDEOGRAPH-F96F
     bIDEOGRAPH-F970 bIDEOGRAPH-F971 bIDEOGRAPH-F972 bIDEOGRAPH-F973 bIDEOGRAPH-F974
     bIDEOGRAPH-F975 bIDEOGRAPH-F976 bIDEOGRAPH-F977 bIDEOGRAPH-F978 bIDEOGRAPH-F979
     bIDEOGRAPH-F97A bIDEOGRAPH-F97B bIDEOGRAPH-F97C bIDEOGRAPH-F97D bIDEOGRAPH-F97E
     bIDEOGRAPH-F97F bIDEOGRAPH-F980 bIDEOGRAPH-F981 bIDEOGRAPH-F982 bIDEOGRAPH-F983
     bIDEOGRAPH-F984 bIDEOGRAPH-F985 bIDEOGRAPH-F986 bIDEOGRAPH-F987 bIDEOGRAPH-F988
     bIDEOGRAPH-F989 bIDEOGRAPH-F98A bIDEOGRAPH-F98B bIDEOGRAPH-F98C bIDEOGRAPH-F98D
     bIDEOGRAPH-F98E bIDEOGRAPH-F98F bIDEOGRAPH-F990 bIDEOGRAPH-F991 bIDEOGRAPH-F992
     bIDEOGRAPH-F993 bIDEOGRAPH-F994 bIDEOGRAPH-F995 bIDEOGRAPH-F996 bIDEOGRAPH-F997
     bIDEOGRAPH-F998 bIDEOGRAPH-F999 bIDEOGRAPH-F99A bIDEOGRAPH-F99B bIDEOGRAPH-F99C
     bIDEOGRAPH-F99D bIDEOGRAPH-F99E bIDEOGRAPH-F99F bIDEOGRAPH-F9A0 bIDEOGRAPH-F9A1
     bIDEOGRAPH-F9A2 bIDEOGRAPH-F9A3 bIDEOGRAPH-F9A4 bIDEOGRAPH-F9A5 bIDEOGRAPH-F9A6
     bIDEOGRAPH-F9A7 bIDEOGRAPH-F9A8 bIDEOGRAPH-F9A9 bIDEOGRAPH-F9AA bIDEOGRAPH-F9AB
     bIDEOGRAPH-F9AC bIDEOGRAPH-F9AD bIDEOGRAPH-F9AE bIDEOGRAPH-F9AF bIDEOGRAPH-F9B0
     bIDEOGRAPH-F9B1 bIDEOGRAPH-F9B2 bIDEOGRAPH-F9B3 bIDEOGRAPH-F9B4 bIDEOGRAPH-F9B5
     bIDEOGRAPH-F9B6 bIDEOGRAPH-F9B7 bIDEOGRAPH-F9B8 bIDEOGRAPH-F9B9 bIDEOGRAPH-F9BA
     bIDEOGRAPH-F9BB bIDEOGRAPH-F9BC bIDEOGRAPH-F9BD bIDEOGRAPH-F9BE bIDEOGRAPH-F9BF
     bIDEOGRAPH-F9C0 bIDEOGRAPH-F9C1 bIDEOGRAPH-F9C2 bIDEOGRAPH-F9C3 bIDEOGRAPH-F9C4
     bIDEOGRAPH-F9C5 bIDEOGRAPH-F9C6 bIDEOGRAPH-F9C7 bIDEOGRAPH-F9C8 bIDEOGRAPH-F9C9
     bIDEOGRAPH-F9CA bIDEOGRAPH-F9CB bIDEOGRAPH-F9CC bIDEOGRAPH-F9CD bIDEOGRAPH-F9CE
     bIDEOGRAPH-F9CF bIDEOGRAPH-F9D0 bIDEOGRAPH-F9D1 bIDEOGRAPH-F9D2 bIDEOGRAPH-F9D3
     bIDEOGRAPH-F9D4 bIDEOGRAPH-F9D5 bIDEOGRAPH-F9D6 bIDEOGRAPH-F9D7 bIDEOGRAPH-F9D8
     bIDEOGRAPH-F9D9 bIDEOGRAPH-F9DA bIDEOGRAPH-F9DB bIDEOGRAPH-F9DC bIDEOGRAPH-F9DD
     bIDEOGRAPH-F9DE bIDEOGRAPH-F9DF bIDEOGRAPH-F9E0 bIDEOGRAPH-F9E1 bIDEOGRAPH-F9E2
     bIDEOGRAPH-F9E3 bIDEOGRAPH-F9E4 bIDEOGRAPH-F9E5 bIDEOGRAPH-F9E6 bIDEOGRAPH-F9E7
     bIDEOGRAPH-F9E8 bIDEOGRAPH-F9E9 bIDEOGRAPH-F9EA bIDEOGRAPH-F9EB bIDEOGRAPH-F9EC
     bIDEOGRAPH-F9ED bIDEOGRAPH-F9EE bIDEOGRAPH-F9EF bIDEOGRAPH-F9F0 bIDEOGRAPH-F9F1
     bIDEOGRAPH-F9F2 bIDEOGRAPH-F9F3 bIDEOGRAPH-F9F4 bIDEOGRAPH-F9F5 bIDEOGRAPH-F9F6
     bIDEOGRAPH-F9F7 bIDEOGRAPH-F9F8 bIDEOGRAPH-F9F9 bIDEOGRAPH-F9FA bIDEOGRAPH-F9FB
     bIDEOGRAPH-F9FC bIDEOGRAPH-F9FD bIDEOGRAPH-F9FE bIDEOGRAPH-F9FF bIDEOGRAPH-FA00
     bIDEOGRAPH-FA01 bIDEOGRAPH-FA02 bIDEOGRAPH-FA03 bIDEOGRAPH-FA04 bIDEOGRAPH-FA05
     bIDEOGRAPH-FA06 bIDEOGRAPH-FA07 bIDEOGRAPH-FA08 bIDEOGRAPH-FA09 bIDEOGRAPH-FA0A
     bIDEOGRAPH-FA0B bIDEOGRAPH-FA0C bIDEOGRAPH-FA0D bIDEOGRAPH-FA0E bIDEOGRAPH-FA0F
     bIDEOGRAPH-FA10 bIDEOGRAPH-FA11 bIDEOGRAPH-FA12 bIDEOGRAPH-FA13 bIDEOGRAPH-FA14
     bIDEOGRAPH-FA15 bIDEOGRAPH-FA16 bIDEOGRAPH-FA17 bIDEOGRAPH-FA18 bIDEOGRAPH-FA19
     bIDEOGRAPH-FA1A bIDEOGRAPH-FA1B bIDEOGRAPH-FA1C bIDEOGRAPH-FA1D bIDEOGRAPH-FA1E
     bIDEOGRAPH-FA1F bIDEOGRAPH-FA20 bIDEOGRAPH-FA21 bIDEOGRAPH-FA22 bIDEOGRAPH-FA23
     bIDEOGRAPH-FA24 bIDEOGRAPH-FA25 bIDEOGRAPH-FA26 bIDEOGRAPH-FA27 bIDEOGRAPH-FA28
     bIDEOGRAPH-FA29 bIDEOGRAPH-FA2A bIDEOGRAPH-FA2B bIDEOGRAPH-FA2C bIDEOGRAPH-FA2D
     bIDEOGRAPH-FA2E bIDEOGRAPH-FA2F bIDEOGRAPH-FA30 bIDEOGRAPH-FA31 bIDEOGRAPH-FA32
     bIDEOGRAPH-FA33 bIDEOGRAPH-FA34 bIDEOGRAPH-FA35 bIDEOGRAPH-FA36 bIDEOGRAPH-FA37
     bIDEOGRAPH-FA38 bIDEOGRAPH-FA39 bIDEOGRAPH-FA3A bIDEOGRAPH-FA3B bIDEOGRAPH-FA3C
     bIDEOGRAPH-FA3D bIDEOGRAPH-FA3E bIDEOGRAPH-FA3F bIDEOGRAPH-FA40 bIDEOGRAPH-FA41
     bIDEOGRAPH-FA42 bIDEOGRAPH-FA43 bIDEOGRAPH-FA44 bIDEOGRAPH-FA45 bIDEOGRAPH-FA46
     bIDEOGRAPH-FA47 bIDEOGRAPH-FA48 bIDEOGRAPH-FA49 bIDEOGRAPH-FA4A bIDEOGRAPH-FA4B
     bIDEOGRAPH-FA4C bIDEOGRAPH-FA4D bIDEOGRAPH-FA4E bIDEOGRAPH-FA4F bIDEOGRAPH-FA50
     bIDEOGRAPH-FA51 bIDEOGRAPH-FA52 bIDEOGRAPH-FA53 bIDEOGRAPH-FA54 bIDEOGRAPH-FA55
     bIDEOGRAPH-FA56 bIDEOGRAPH-FA57 bIDEOGRAPH-FA58 bIDEOGRAPH-FA59 bIDEOGRAPH-FA5A
     bIDEOGRAPH-FA5B bIDEOGRAPH-FA5C bIDEOGRAPH-FA5D bIDEOGRAPH-FA5E bIDEOGRAPH-FA5F
     bIDEOGRAPH-FA60 bIDEOGRAPH-FA61 bIDEOGRAPH-FA62 bIDEOGRAPH-FA63 bIDEOGRAPH-FA64
     bIDEOGRAPH-FA65 bIDEOGRAPH-FA66 bIDEOGRAPH-FA67 bIDEOGRAPH-FA68 bIDEOGRAPH-FA69
     bIDEOGRAPH-FA6A bIDEOGRAPH-FA6B bIDEOGRAPH-FA6C bIDEOGRAPH-FA6D bIDEOGRAPH-FA70
     bIDEOGRAPH-FA71 bIDEOGRAPH-FA72 bIDEOGRAPH-FA73 bIDEOGRAPH-FA74 bIDEOGRAPH-FA75
     bIDEOGRAPH-FA76 bIDEOGRAPH-FA77 bIDEOGRAPH-FA78 bIDEOGRAPH-FA79 bIDEOGRAPH-FA7A
     bIDEOGRAPH-FA7B bIDEOGRAPH-FA7C bIDEOGRAPH-FA7D bIDEOGRAPH-FA7E bIDEOGRAPH-FA7F
     bIDEOGRAPH-FA80 bIDEOGRAPH-FA81 bIDEOGRAPH-FA82 bIDEOGRAPH-FA83 bIDEOGRAPH-FA84
     bIDEOGRAPH-FA85 bIDEOGRAPH-FA86 bIDEOGRAPH-FA87 bIDEOGRAPH-FA88 bIDEOGRAPH-FA89
     bIDEOGRAPH-FA8A bIDEOGRAPH-FA8B bIDEOGRAPH-FA8C bIDEOGRAPH-FA8D bIDEOGRAPH-FA8E
     bIDEOGRAPH-FA8F bIDEOGRAPH-FA90 bIDEOGRAPH-FA91 bIDEOGRAPH-FA92 bIDEOGRAPH-FA93
     bIDEOGRAPH-FA94 bIDEOGRAPH-FA95 bIDEOGRAPH-FA96 bIDEOGRAPH-FA97 bIDEOGRAPH-FA98
     bIDEOGRAPH-FA99 bIDEOGRAPH-FA9A bIDEOGRAPH-FA9B bIDEOGRAPH-FA9C bIDEOGRAPH-FA9D
     bIDEOGRAPH-FA9E bIDEOGRAPH-FA9F bIDEOGRAPH-FAA0 bIDEOGRAPH-FAA1 bIDEOGRAPH-FAA2
     bIDEOGRAPH-FAA3 bIDEOGRAPH-FAA4 bIDEOGRAPH-FAA5 bIDEOGRAPH-FAA6 bIDEOGRAPH-FAA7
     bIDEOGRAPH-FAA8 bIDEOGRAPH-FAA9 bIDEOGRAPH-FAAA bIDEOGRAPH-FAAB bIDEOGRAPH-FAAC
     bIDEOGRAPH-FAAD bIDEOGRAPH-FAAE bIDEOGRAPH-FAAF bIDEOGRAPH-FAB0 bIDEOGRAPH-FAB1
     bIDEOGRAPH-FAB2 bIDEOGRAPH-FAB3 bIDEOGRAPH-FAB4 bIDEOGRAPH-FAB5 bIDEOGRAPH-FAB6
     bIDEOGRAPH-FAB7 bIDEOGRAPH-FAB8 bIDEOGRAPH-FAB9 bIDEOGRAPH-FABA bIDEOGRAPH-FABB
     bIDEOGRAPH-FABC bIDEOGRAPH-FABD bIDEOGRAPH-FABE bIDEOGRAPH-FABF bIDEOGRAPH-FAC0
     bIDEOGRAPH-FAC1 bIDEOGRAPH-FAC2 bIDEOGRAPH-FAC3 bIDEOGRAPH-FAC4 bIDEOGRAPH-FAC5
     bIDEOGRAPH-FAC6 bIDEOGRAPH-FAC7 bIDEOGRAPH-FAC8 bIDEOGRAPH-FAC9 bIDEOGRAPH-FACA
     bIDEOGRAPH-FACB bIDEOGRAPH-FACC bIDEOGRAPH-FACD bIDEOGRAPH-FACE bIDEOGRAPH-FACF
     bIDEOGRAPH-FAD0 bIDEOGRAPH-FAD1 bIDEOGRAPH-FAD2 bIDEOGRAPH-FAD3 bIDEOGRAPH-FAD4
     bIDEOGRAPH-FAD5 bIDEOGRAPH-FAD6 bIDEOGRAPH-FAD7 bIDEOGRAPH-FAD8 bIDEOGRAPH-FAD9
     aRADICAL_BAMBOO bBLUE bBOLT_OF_CLOTH bBONE bBOX bBRUSH_ONE cTWO bC-SIMPLIFIED_BIRD cCART
     cDRAGON cEAT cEVEN cFISH cFLY cFROG cGATE cGOLD cHORSE cLEAF cLONG cSALT cSEE cSHELL cSILK
     cSPEECH cTANNED_LEATHER cTOOTH cTURTLE cWIND bCHOKE bCITY bCIVILIAN bCLIFF bCLOTHES bCOW
     bDEATH bDIVINATION bDOG bEAT_ONE cTHREE cTWO bEWE bEYE bFIRE bFOOT bGHOST bGRASS_ONE cTHREE
     cTWO bHAND bHEAD bHEART_ONE cTWO bHORN bJ-SIMPLIFIED_DRAGON cEVEN cTOOTH cTURTLE bJADE
     bKNIFE_ONE cTWO bLAME_FOUR cONE cTHREE cTWO bLONG_ONE cTWO bMEAT bMESH bMOON bMORTAR bMOTHER
     bMOUND_ONE cTWO bNET_FOUR cONE cTHREE cTWO bOLD bPAW_ONE cTWO bPERSON bRAIN bRAM bRAP
     bREPEAT bSEAL bSECOND_ONE cTHREE cTWO bSHEEP bSILK bSIMPLIFIED_HALF_TREE_TRUNK cHORN cWALK
     cWHEAT cYELLOW bSMALL_ONE cTWO bSNAKE bSNOUT_ONE cTWO bSPIRIT_ONE cTWO bSUN bTABLE bTHREAD
     bTIGER bTURTLE bWALK_ONE cTWO bWATER_ONE cTWO bWEST_ONE cTWO aSTROKE_BXG bD bH bHG bHP bHPWG
     bHXWG bHZ bHZG bHZT bHZW bHZWG bHZZ bHZZP bHZZZ bHZZZG bN bP bPD bPG bPZ bQ bS bSG bSP bST
     bSW bSWG bSWZ bSZ bSZWG bSZZ bT bTN bWG bXG"),
    ("CLAMSHELL", "aMOBILE_PHONE"),
    ("CLAPPER", "aBOARD"),
    ("CLAPPING", "aHANDS_SIGN"),
    ("CLASSICAL", "aBUILDING"),
    ("CLEAR", "aSCREEN_SYMBOL"),
    ("CLINKING", "aBEER_MUGS aGLASSES"),
    ("CLOCK", "aFACE_EIGHT_OCLOCK bEIGHT-THIRTY bELEVEN_OCLOCK bELEVEN-THIRTY bFIVE_OCLOCK
     bFIVE-THIRTY bFOUR_OCLOCK bFOUR-THIRTY bNINE_OCLOCK bNINE-THIRTY bONE_OCLOCK bONE-THIRTY
     bSEVEN_OCLOCK bSEVEN-THIRTY bSIX_OCLOCK bSIX-THIRTY bTEN_OCLOCK bTEN-THIRTY bTHREE_OCLOCK
     bTHREE-THIRTY bTWELVE_OCLOCK bTWELVE-THIRTY bTWO_OCLOCK bTWO-THIRTY"),
    ("CLOCKWISE", "aCLOSED_CIRCLE_ARROW aCONTOUR_INTEGRAL
     aDOWNWARDS_AND_UPWARDS_OPEN_CIRCLE_ARROWS aGAPPED_CIRCLE_ARROW aINTEGRAL aOPEN_CIRCLE_ARROW
     aRIGHT_AND_LEFT_SEMICIRCLE_ARROWS aRIGHTWARDS_AND_LEFTWARDS_OPEN_CIRCLE_ARROWS
     gWITH_CIRCLED_ONE_OVERLAY aTOP_SEMICIRCLE_ARROW aTRIANGLE-HEADED_OPEN_CIRCLE_ARROW"),
    ("CLOSE", "aUP"),
    ("CLOSED", "aBOOK aINTERSECTION_WITH_SERIFS aLOCK_WITH_KEY aMAILBOX_WITH_LOWERED_FLAG
     cRAISED_FLAG aSUBSET bOR_EQUAL_TO aSUPERSET bOR_EQUAL_TO aUMBRELLA aUNION_WITH_SERIFS
     dAND_SMASH_PRODUCT"),
    ("CLOUD", "a aWITH_LIGHTNING bRAIN bSNOW bTORNADO"),
    ("CLOWN", "aFACE"),
    ("COCKTAIL", "aGLASS"),
    ("COLLISION", "aSYMBOL"),
    ("COLON", "a aEQUALS aSIGN"),
    ("COMBINING", "aACUTE_ACCENT cBELOW bTONE_MARK aACUTE-GRAVE-ACUTE aACUTE-MACRON
     aALMOST_EQUAL_TO_ABOVE dBELOW aANNUITY_SYMBOL aANTICLOCKWISE_ARROW_ABOVE bRING_OVERLAY
     aASTERISK_ABOVE bBELOW aBINDU_BELOW aBREVE bBELOW aBREVE-MACRON aBRIDGE_ABOVE bBELOW
     aCANDRABINDU aCARON bBELOW aCEDILLA aCIRCUMFLEX_ACCENT cBELOW aCLOCKWISE_ARROW_ABOVE
     bRING_OVERLAY aCOMMA_ABOVE cRIGHT bBELOW aCONJOINING_MACRON cBELOW aCYRILLIC_DASIA_PNEUMATA
     bHUNDRED_MILLIONS_SIGN cTHOUSANDS_SIGN bKAVYKA bLETTER_A cBE cBIG_YUS cCHE cDE cDJERV cEF
     cEL cEM cEN cER cES cES-TE cFITA cGHE cHA cHARD_SIGN cI cIE cIOTIFIED_A dBIG_YUS dE cKA
     cLITTLE_YUS cMONOGRAPH_UK cO cOMEGA cPE cSHA cSHCHA cSOFT_SIGN cTE cTSE cU cUKRAINIAN_IE cVE
     cYAT cYERU cYI cYU cZE cZHE bMILLIONS_SIGN bPALATALIZATION bPAYEROK bPOKRYTIE
     bPSILI_PNEUMATA bTEN_MILLIONS_SIGN bTHOUSAND_MILLIONS_SIGN bTITLO cLEFT_HALF cRIGHT_HALF
     bVZMET aDELETION_MARK aDEVANAGARI_DIGIT_EIGHT cFIVE cFOUR cNINE cONE cSEVEN cSIX cTHREE cTWO
     cZERO bLETTER_A cKA cNA cPA cRA cU cVI bSIGN_AVAGRAHA aDIAERESIS bBELOW aDIAERESIS-RING
     aDOT_ABOVE cLEFT cRIGHT bBELOW cLEFT aDOTTED_ACUTE_ACCENT bGRAVE_ACCENT aDOUBLE_ACUTE_ACCENT
     bBREVE cBELOW bCIRCUMFLEX_ABOVE bGRAVE_ACCENT bINVERTED_BREVE dBELOW bLOW_LINE bMACRON
     cBELOW bOPEN_MARK_BELOW bOVERLINE bPARENTHESES_ABOVE bPLUS_SIGN_ABOVE dBELOW
     bRIGHTWARDS_ARROW_BELOW bRING_BELOW bTILDE cLEFT_HALF cRIGHT_HALF bVERTICAL_LINE_ABOVE
     dBELOW cSTROKE_OVERLAY aDOUBLED_CIRCUMFLEX_ACCENT aDOWN_TACK_BELOW aDOWNWARDS_ARROW
     aENCLOSING_CIRCLE cBACKSLASH bDIAMOND bKEYCAP bSCREEN bSQUARE bUPWARD_POINTING_TRIANGLE
     aEQUALS_SIGN_BELOW aFERMATA aFOUR_DOTS_ABOVE aGLAGOLITIC_LETTER_AZU cBIG_YUS cBUKY cCHRIVI
     cDJERVI cDOBRO cFITA cFRITU cGLAGOLI cHERU cI cINITIAL_IZHE cIOTATED_BIG_YUS dSMALL_YUS
     cIZHE cKAKO cLJUDIJE cMYSLITE cNASHI cONU cPOKOJI cRITSI cSHA cSHTA cSLOVO cSMALL_YUS cTSI
     cTVRIDO cUKU cVEDE cYATI cYERI cYERU cYESTU cYO cYU cZEMLJA cZHIVETE aGRANTHA_DIGIT_FIVE
     cFOUR cONE cSIX cTHREE cTWO cZERO bLETTER_A cKA cNA cPA cVI aGRAPHEME_JOINER aGRAVE_ACCENT
     cBELOW bTONE_MARK aGRAVE-ACUTE-GRAVE aGRAVE-MACRON aGREEK_DIALYTIKA_TONOS bKORONIS
     bMUSICAL_PENTASEME cTETRASEME cTRISEME bPERISPOMENI bYPOGEGRAMMENI aHOMOTHETIC_ABOVE
     aHOOK_ABOVE aHORN aINFINITY aINVERTED_BREVE cBELOW bBRIDGE_BELOW bDOUBLE_ARCH_ABOVE dBELOW
     aIS_BELOW aKATAKANA-HIRAGANA_SEMI-VOICED_SOUND_MARK bVOICED_SOUND_MARK aKAVYKA_ABOVE_LEFT
     cRIGHT aLATIN_LETTER_SMALL_CAPITAL_G eL eM eN eR bSMALL_LETTER_A eWITH_DIAERESIS dAE dALPHA
     dAO dAV dB dBETA dC eCEDILLA dD dE dESH dETH dF dFLATTENED_OPEN_A_ABOVE dG dH dI dINSULAR_D
     eG eR eT dK dL eWITH_DOUBLE_MIDDLE_TILDE dLONG_S dM dN dO eWITH_DIAERESIS
     fLIGHT_CENTRALIZATION_STROKE dP dR eBELOW eROTUNDA dS dSCHWA dT dTURNED_W_BELOW dU
     eWITH_DIAERESIS fLIGHT_CENTRALIZATION_STROKE dV dW eBELOW dX dZ aLEFT_ANGLE_ABOVE cBELOW
     bARROW_ABOVE cBELOW bARROWHEAD_ABOVE cBELOW bHALF_RING_ABOVE dBELOW bHARPOON_ABOVE
     bPARENTHESIS_ABOVE_LEFT cBELOW_LEFT bRIGHT_ARROW_ABOVE dBELOW bTACK_BELOW
     aLEFTWARDS_ARROW_OVERLAY bHARPOON_WITH_BARB_DOWNWARDS aLIGATURE_LEFT_HALF dBELOW bRIGHT_HALF
     dBELOW aLIGHT_CENTRALIZATION_STROKE_BELOW aLONG_DOUBLE_SOLIDUS_OVERLAY bSOLIDUS_OVERLAY
     bSTROKE_OVERLAY bVERTICAL_LINE_OVERLAY aLOW_LINE aMACRON bBELOW bLEFT_HALF dBELOW
     bRIGHT_HALF dBELOW aMACRON-ACUTE aMACRON-BREVE aMACRON-GRAVE aMINUS_SIGN_BELOW
     aNOT_TILDE_ABOVE aNUMBER_SIGN_ABOVE aOGONEK bABOVE aOLD_PERMIC_LETTER_AN dDOI dNENOE dSII
     dZATA aOPEN_MARK_BELOW aOVERLINE aPALATALIZED_HOOK_BELOW aPARENTHESES_ABOVE bBELOW bOVERLAY
     aPLUS_SIGN_ABOVE cBELOW aRETROFLEX_HOOK_BELOW aREVERSE_SOLIDUS_OVERLAY aREVERSED_COMMA_ABOVE
     aRIGHT_ARROW_ABOVE cBELOW bARROWHEAD_ABOVE cAND_DOWN_ARROWHEAD_BELOW dUP_ARROWHEAD_BELOW
     cBELOW bHALF_RING_ABOVE dBELOW bHARPOON_ABOVE bPARENTHESIS_ABOVE_RIGHT cBELOW_RIGHT
     bTACK_BELOW aRIGHTWARDS_HARPOON_WITH_BARB_DOWNWARDS aRING_ABOVE bBELOW bOVERLAY
     aSEAGULL_BELOW aSHORT_SOLIDUS_OVERLAY bSTROKE_OVERLAY bVERTICAL_LINE_OVERLAY aSNAKE_BELOW
     aSQUARE_BELOW bBRACKETS_ABOVE aSTRONG_CENTRALIZATION_STROKE_BELOW aSUSPENSION_MARK
     aTHREE_DOTS_ABOVE aTILDE bBELOW bLEFT_HALF_BELOW bOVERLAY bRIGHT_HALF_BELOW
     aTRIPLE_ACUTE_ACCENT bDOT bUNDERDOT aTURNED_COMMA_ABOVE aUP_TACK_ABOVE cBELOW
     aUPWARDS_ARROW_BELOW aUR_ABOVE aUS_ABOVE aVERTICAL_LINE_ABOVE cBELOW bTILDE
     aWIDE_BRIDGE_ABOVE bINVERTED_BRIDGE_BELOW aWIGGLY_LINE_BELOW aX_ABOVE bBELOW aX-X_BELOW
     aZIGZAG_ABOVE bBELOW"),
    ("COMMERCIAL", "aAT aMINUS_SIGN"),
    ("COMPOSITION", "aSYMBOL"),
    ("CONFETTI", "aBALL"),
    ("CONFOUNDED", "aFACE"),
    ("CONFUSED", "aFACE"),
    ("CONGRUENT", "aWITH_DOT_ABOVE"),
    ("CONICAL", "aTAPER"),
    ("CONSTRUCTION", "aSIGN aWORKER"),
    ("CONTAINS", "aAS_MEMBER bNORMAL_SUBGROUP dOR_EQUAL_TO aWITH_LONG_HORIZONTAL_STROKE bOVERBAR
     bVERTICAL_BAR_AT_END_OF_HORIZONTAL_STROKE"),
    ("CONTINUOUS", "aUNDERLINE_SYMBOL"),
    ("CONTOUR", "aINTEGRAL"),
    ("CONTROL", "aKNOBS aSEQUENCE_INTRODUCER"),
    ("CONVENIENCE", "aSTORE"),
    ("COOKED", "aRICE"),
    ("COPTIC", "aCAPITAL_LETTER_AKHMIMIC_KHEI cALFA cBOHAIRIC_KHEI cCROSSED_SHEI
     cCRYPTOGRAMMIC_EIE dGANGIA dNI dSHEI cDALDA cDEI cDIALECT-P_ALEF dHORI dKAPA dNI cEIE cFEI
     cFI cGAMMA cGANGIA cHATE cHORI cIAUDA cKAPA cKHEI cKHI cKSI cL-SHAPED_HA cLAULA cMI cNI cO
     cOLD_COPTIC_AIN eDJA eESH eGANGIA eHA eHAT eHEI eHORI eOOU eSHEI eSHIMA dNUBIAN_NGI eNYI
     eSHIMA eWAU cOOU cPI cPSI cRO cSAMPI cSHEI cSHIMA cSIMA cSOU cTAU cTHETHE cUA cVIDA cZATA
     aCOMBINING_NI_ABOVE bSPIRITUS_ASPER cLENIS aEPACT_DIGIT_EIGHT cFIVE cFOUR cNINE cONE cSEVEN
     cSIX cTHREE cTWO bNUMBER_EIGHT_HUNDRED cEIGHTY cFIFTY cFIVE_HUNDRED cFORTY cFOUR_HUNDRED
     cNINE_HUNDRED cNINETY cONE_HUNDRED cSEVEN_HUNDRED cSEVENTY cSIX_HUNDRED cSIXTY cTEN cTHIRTY
     cTHREE_HUNDRED cTWENTY cTWO_HUNDRED bTHOUSANDS_MARK aFRACTION_ONE_HALF aFULL_STOP
     aMORPHOLOGICAL_DIVIDER aOLD_NUBIAN_DIRECT_QUESTION_MARK cFULL_STOP cINDIRECT_QUESTION_MARK
     cVERSE_DIVIDER aSMALL_LETTER_AKHMIMIC_KHEI cALFA cBOHAIRIC_KHEI cCROSSED_SHEI
     cCRYPTOGRAMMIC_EIE dGANGIA dNI dSHEI cDALDA cDEI cDIALECT-P_ALEF dHORI dKAPA dNI cEIE cFEI
     cFI cGAMMA cGANGIA cHATE cHORI cIAUDA cKAPA cKHEI cKHI cKSI cL-SHAPED_HA cLAULA cMI cNI cO
     cOLD_COPTIC_AIN eDJA eESH eGANGIA eHA eHAT eHEI eHORI eOOU eSHEI eSHIMA dNUBIAN_NGI eNYI
     eSHIMA eWAU cOOU cPI cPSI cRO cSAMPI cSHEI cSHIMA cSIMA cSOU cTAU cTHETHE cUA cVIDA cZATA
     aSYMBOL_KAI bKHI_RO bMI_RO bPI_RO bSHIMA_SIMA bSTAUROS bTAU_RO"),
    ("COPYLEFT", "aSYMBOL"),
    ("COPYRIGHT", "aSIGN"),
    ("CORNISH", "aVERSE_DIVIDER"),
    ("CORRESPONDS", "aTO"),
    ("COUCH", "aAND_LAMP"),
    ("COUNTING", "aROD_TENS_DIGIT_EIGHT dFIVE dFOUR dNINE dONE dSEVEN dSIX dTHREE dTWO
     bUNIT_DIGIT_EIGHT dFIVE dFOUR dNINE dONE dSEVEN dSIX dTHREE dTWO"),
    ("COUPLE", "aWITH_HEART"),
    ("COW", "a aFACE"),
    ("CREDIT", "aCARD"),
    ("CRESCENT", "aMOON"),
    ("CRICKET", "a aBAT_AND_BALL"),
    ("CROSS", "aMARK aOF_JERUSALEM bLORRAINE aPATTY_WITH_LEFT_CROSSBAR cRIGHT_CROSSBAR aPOMMEE
     bWITH_HALF-CIRCLE_BELOW"),
    ("CROSSED", "aFLAGS aNEGATIVE_SQUARED_LATIN_CAPITAL_LETTER_P aSWORDS"),
    ("CROSSING", "aLANES"),
    ("CRUZEIRO", "aSIGN"),
    ("CRYING", "aCAT_FACE aFACE"),
    ("CRYSTAL", "aBALL"),
    ("CUBE", "aROOT"),
    ("CUNEIFORM", "aNUMERIC_SIGN_EIGHT_ASH dDISH dGESH2 dSHAR2 dU eVARIANT_FORM
     dVARIANT_FORM_USSU fUSSU3 cELAMITE_FIFTY dFORTY dONE_THIRD dTWO_THIRDS cFIVE_ASH eTENU dBAN2
     eVARIANT_FORM dBURU dDISH dGESH2 dGESHU dSHAR2 dSHARU dSIXTHS_DISH dU eVARIANT_FORM
     cFOUR_ASH eTENU dBAN2 eVARIANT_FORM dBURU dDISH dGESH2 dGESHU dSHAR2 dSHARU dU eVARIANT_FORM
     dVARIANT_FORM_LIMMU gA gB fLIMMU4 cNIGIDAESH cNIGIDAMIN cNINE_ASH dDISH dGESH2 dSHAR2 dU
     eVARIANT_FORM dVARIANT_FORM_ILIMMU gA fILIMMU3 fILIMMU4 cOLD_ASSYRIAN_ONE_QUARTER fSIXTH
     cONE_BAN2 dBURU dEIGHTH_ASH dESHE3 dGESH2 dGESHU dHALF_GUR dQUARTER_ASH eGUR dSHARU
     dTHIRD_DISH eVARIANT_FORM_A cSEVEN_ASH dDISH dGESH2 dSHAR2 dU eVARIANT_FORM
     dVARIANT_FORM_IMIN_A gB fIMIN3 cSHAR2_TIMES_GAL_PLUS_DISH gMIN cSIX_ASH eTENU dDISH dGESH2
     dSHAR2 dU eVARIANT_FORM dVARIANT_FORM_ASH9 cTHREE_ASH eTENU dBAN2 dBURU eVARIANT_FORM dDISH
     dGESH2 dGESHU dSHAR2 eVARIANT_FORM dSHARU eVARIANT_FORM dVARIANT_FORM_ESH16 fESH21 cTWO_ASH
     eTENU dBAN2 dBURU dESHE3 dGESH2 dGESHU dSHAR2 dSHARU dTHIRDS_DISH eVARIANT_FORM_A
     aPUNCTUATION_SIGN_DIAGONAL_COLON dQUADCOLON dTRICOLON cOLD_ASSYRIAN_WORD_DIVIDER
     cVERTICAL_COLON aSIGN_A cTIMES_A dBAD dGAN2_TENU dHA dIGI dLAGAR_GUNU dMUSH dSAG bA2 bAB
     cGUNU cTIMES_ASH2 dDUN3_GUNU dGAL dGAN2_TENU dHA dIGI_GUNU dIMIN dLAGAB dNUN eTENU dSHESH
     dSHU2 dU_PLUS_U_PLUS_U bAB2 cTIMES_A dBALAG dGAN2_TENU dME_PLUS_EN dSHA3 dTAK4 bAD
     cTIMES_ESH2 bAK cTIMES_ERIN2 dSHITA_PLUS_GISH bAL cTIMES_AL dDIM2 dGISH dHA dKAD3 dKI dSHE
     dUSH bALAN bALEPH bAMAR cTIMES_KUG dSHE bAN cOVER_AN cPLUS_NAGA_OPPOSING_AN_PLUS_NAGA
     eSQUARED cTHREE_TIMES bANSHE bAPIN bARAD cTIMES_KUR bARKAB bASAL2 bASH cKABA_TENU
     cOVER_ASH_OVER_ASH gCROSSING_ASH_OVER_ASH_OVER_ASH eTUG2_OVER_TUG2_TUG2_OVER_TUG2_PAP
     cZIDA_TENU bASH2 bASHGAB bBA bBAD cTIMES_DISH_TENU bBAG3 bBAHAR2 cTIMES_AB2 dNI dZA bBAL
     cOVER_BAL bBALAG bBAR bBARA2 bBI cTIMES_A dGAR dIGI_GUNU bBU cCROSSING_BU cOVER_BU_AB
     eTIMES_NA2 eUN bBULUG cOVER_BULUG bBUR bBUR2 bDA cTIMES_TAK4 bDAG cKISIM5_TIMES_A_PLUS_MASH
     eAMAR eBALAG eBI eGA fPLUS_MASH eGI eGIR2 eGUD eHA eIR fPLUS_LU eKAK eLA eLU fPLUS_MASH2
     eLUM eNE ePAP_PLUS_PAP eSI eTAK4 eU2_PLUS_GIR2 gMASH eUSH cTIMES_KUR bDAG3 bDAM bDAR bDARA3
     bDARA4 bDI bDIB bDIM cTIMES_IGI dSHE dU_U_U bDIM2 cTIMES_UD bDIN cKASKAL_U_GUNU_DISH bDISH
     cPLUS_SHU bDU cGUNU cOVER_DU cSHESHIG bDUB cTIMES_ESH2 dSHE bDUB2 bDUG cTIMES_ANSHE dASH
     eAT_LEFT dDIN dDUN dERIN2 dGA dGI dGIR2_GUNU dGISH dHA dHI dIGI_GUNU dKASKAL dKUR dKUSHU2
     ePLUS_KASKAL dLAK-020 dLAM eTIMES_KUR dLUH_PLUS_GISH dMASH dMES dMI dNI dPI dSHE dSI_GUNU
     bDUGUD bDUH bDUN bDUN3 cGUNU dGUNU bDUN4 bDUR2 bE cOVER_E_NUN_OVER_NUN cTIMES_PAP bE2
     cTIMES_A_PLUS_HA_PLUS_DA dGAR dKUR dMI dPAP dSAL dSHE dU bEDIN bEGIR bEL bEN cCROSSING_EN
     cOPPOSING_EN cSQUARED cTIMES_GAN2 eTENU dME bEREN bERIN2 cX bESH2 cCROSSING_ESH2 bEZEN
     cSHESHIG_TIMES_ASH eHI eIGI_GUNU eLA eLAL eME eMES eSU cTIMES_A ePLUS_LAL gTIMES_LAL dAN
     dBAD dDUN3_GUNU fGUNU dGUD dHA eGUNU dIGI_GUNU dKASKAL eSQUARED dKU3 dLA dLAL_TIMES_LAL dLI
     dLU dSHE dSU dU2 dUD bGA cGUNU bGA2 cOVER_GA2 cTIMES_A_PLUS_DA_PLUS_HA fHA fIGI
     dAB2_TENU_PLUS_TAB dAN ePLUS_KAK_PLUS_A dASH dASH2 ePLUS_GAL dBAD dBAHAR2 dBAR_PLUS_RA dBUR
     ePLUS_RA dDA dDI dDIM_GUNU eTIMES_SHE dDUB dDUG_TIMES_IGI_GUNU fKASKAL dEL ePLUS_LA dEN
     eTIMES_GAN2_TENU dEREN dGA dGAN2_TENU dGAR ePLUS_DI fNE dGI dGI4 ePLUS_A dGIR2_PLUS_SU
     dHA_PLUS_A fLU_PLUS_ESH2 dHAL ePLUS_LA dHI_PLUS_LI dHUB2 dIGI_GUNU dISH_PLUS_HU_PLUS_ASH
     dKAK dKASKAL dKID ePLUS_LAL dKU3_PLUS_AN dKUSHU2_PLUS_KASKAL dLA dLAM eTIMES_KUR dLUH
     dME_PLUS_EN dMI dMUSH dNE ePLUS_E2 fGI dNUN eOVER_NUN dPA dSAL dSAR dSHE ePLUS_TUR dSHID
     dSHIM dSUM dTAK4 dU dUD ePLUS_DU dZIZ2 bGABA cCROSSING_GABA cROTATED_NINETY_DEGREES bGAD
     cOVER_GAD_GAR_OVER_GAR bGAL cGAD_OVER_GAD_GAR_OVER_GAR bGALAM bGAM bGAN bGAN2 cCROSSING_GAN2
     cOVER_GAN2 cTENU bGAR bGAR3 bGASHAN bGE22 bGESHTIN cTIMES_KUR dU bGI cCROSSING_GI cTIMES_E
     dU bGI4 cCROSSING_GI4 cOVER_GI4 bGIDIM bGIG bGIR2 cGUNU bGIR3 cTIMES_A_PLUS_IGI dGAN2_TENU
     dIGI dLU_PLUS_IGI dPA bGISAL bGISH cCROSSING_GISH cTENU cTIMES_BAD dGISH_CROSSING_GISH dTAK4
     bGU cCROSSING_GU bGU2 cGUNU cTIMES_IGI_GUNU dKAK eTIMES_IGI_GUNU dNUN dSAL_PLUS_TUG2 bGUD
     cOVER_GUD_LUGAL cPLUS_GISH_TIMES_TAK4 cTIMES_A_PLUS_KUR dKUR bGUL bGUM cTIMES_SHE bGUR bGUR7
     bGURUN bGURUSH bHA cGUNU cTENU dGUNU bHAL bHI cTIMES_ASH eOVER_HI_TIMES_ASH dASH2 dBAD dDISH
     dGAD dKIN dNUN dSHE dU bHU bHUB2 cTIMES_AN dHAL dKASKAL dLISH dUD bHUL2 bHUSH bI cA bIB
     bIDIM cOVER_IDIM_BUR eSQUARED bIG bIGI cDIB cGUNU cOVER_IGI_SHIR_OVER_SHIR_UD_OVER_UD cRI
     bIL cTIMES_GAN2_TENU bIL2 bIM cCROSSING_IM cOPPOSING_IM cSQUARED cTIMES_TAK4 bIMIN bIN bIR
     bISH bKA cTIMES_A dAD ePLUS_KU3 dANSHE dASH2 dASH3 dBAD dBALAG dBAR dBI dBU dERIN2 dESH2 dGA
     dGAL dGAN2_TENU dGAR ePLUS_SHA3_PLUS_A dGI dGIR2 dGISH eCROSSING_GISH ePLUS_SAR dGU dGUD
     dGUR7 dHI_TIMES_ASH2 dIGI dIM dKA dKAK dKI dKID dLI dLU dLUM dME ePLUS_DU fGI fTE dMI
     ePLUS_NUNUZ dNE dNUN dPA dPI dRU dSA dSAR dSHA dSHE dSHID dSHU dSHUL dSIG dSUHUR dTAR dTU dU
     eU_U dU2 dUD dUMUM_TIMES_PA dUR dUR2 dUSH dZI bKA2 cCROSSING_KA2 bKAB bKAD2 bKAD3 bKAD4
     bKAD5 cOVER_KAD5 bKAK cTIMES_IGI_GUNU bKAL cCROSSING_KAL cTIMES_BAD bKAM2 bKAM4 bKAP_ELAMITE
     bKASKAL cLAGAB_TIMES_U_OVER_LAGAB_TIMES_U cOVER_KASKAL_LAGAB_TIMES_U_OVER_LAGAB_TIMES_U
     bKESH2 bKI cTIMES_BAD dU dUD bKID bKIN bKISAL bKISH bKISIM5 cOVER_KISIM5 bKU
     cOVER_HI_TIMES_ASH2_KU_OVER_HI_TIMES_ASH2 bKU3 bKU4 cVARIANT_FORM bKU7 bKUL cGUNU bKUN bKUR
     cOPPOSING_KUR bKUSHU2 bKWU318 bLA bLAGAB cSQUARED cTIMES_A ePLUS_DA_PLUS_HA fGAR fLAL dAL
     dAN dASH_ZIDA_TENU dBAD dBI dDAR dEN dGA dGAR dGI dGUD ePLUS_GUD dHA dHAL dHI_TIMES_NUN
     dIGI_GUNU dIM ePLUS_HA fLU dKI dKIN dKU3 dKUL ePLUS_HI_PLUS_A dLAGAB dLISH dLU dLUL dME
     ePLUS_EN dMUSH dNE dSHE_PLUS_SUM dSHITA_PLUS_GISH_PLUS_ERIN2 gTENU dSHU2 ePLUS_SHU2 dSUM
     dTAG dTAK4 dTE_PLUS_A_PLUS_SU_PLUS_NA dU ePLUS_A fU_PLUS_U dU2_PLUS_ASH dUD dUSH dZU_OVER_ZU
     bLAGAR cGUNU dOVER_LAGAR_GUNU_SHE cTIMES_SHE ePLUS_SUM bLAHSHU bLAK-003 bLAK-021 bLAK-025
     bLAK-030 bLAK-050 bLAK-051 bLAK-062 bLAK-079_OVER_LAK-079_GUNU bLAK-080
     bLAK-081_OVER_LAK-081 bLAK-092 bLAK-130 bLAK-142 bLAK-210 bLAK-219 bLAK-220 bLAK-225
     bLAK-228 bLAK-238 bLAK-265 bLAK-266 bLAK-343 bLAK-347 bLAK-348 bLAK-383 bLAK-384 bLAK-390
     bLAK-441 bLAK-449 cTIMES_GU dIGI dPAP_PLUS_LU3 fPAP_PLUS_LU3 dU2_PLUS_BA bLAK-450 bLAK-457
     bLAK-470 bLAK-483 bLAK-490 bLAK-492 bLAK-493 bLAK-495 bLAK-550 bLAK-608 bLAK-617 cTIMES_ASH
     dBAD dDUN3_GUNU_GUNU dKU3 dLA dTAR dTE dU2 dUD dURUDA bLAK-636 bLAK-648 cTIMES_DUB dGA dIGI
     eGUNU dNI dPAP_PLUS_PAP_PLUS_LU3 dSHESH_PLUS_KI dUD dURUDA bLAK-724 bLAK-749 bLAL cTIMES_LAL
     bLAM cTIMES_KUR ePLUS_RU bLI bLIL bLIMMU2 bLISH bLU cTIMES_BAD bLU2 cCROSSING_LU2
     cGUNU_TIMES_ASH cOPPOSING_LU2 cSHESHIG dTIMES_BAD cSQUARED cTENU cTIMES_AL dBAD dDISH dESH2
     ePLUS_LAL eTENU dGAN2_TENU dHAL dHI_TIMES_BAD dIM dKAD2 dKAD3 ePLUS_ASH dKI dLA_PLUS_ASH
     dLAGAB dME_PLUS_EN dNE dNU dPAP ePLUS_PAP_PLUS_LU3 dSHU dSI_PLUS_ASH dSIK2_PLUS_BU dTAK4
     dTUG2 bLU3 bLUGAL cOPPOSING_LUGAL cOVER_LUGAL cSHESHIG bLUH bLUL bLUM cOVER_LUM
     eGAR_OVER_GAR bMA cGUNU cTIMES_TAK4 bMA2 bMAH bMAR bMASH bMASH2 bME bMES bMESH bMI cPLUS_ZA7
     bMIN bMU cOVER_MU bMUG cGUNU bMUNSUB bMURGU2 bMUSH cCROSSING_MUSH cOVER_MUSH
     eTIMES_A_PLUS_NA fGA fKAK cTIMES_A dKUR dZA bMUSH3 cGUNU cTIMES_A ePLUS_DI dDI dZA bNA bNA2
     bNA4 bNAGA cINVERTED cOPPOSING_NAGA cTIMES_SHU_TENU bNAGAR bNAM cNUTILLU bNAM2 bNE cSHESHIG
     cTIMES_A dUD bNI cTIMES_E bNI2 bNIM cTIMES_GAN2_TENU dGAR_PLUS_GAN2_TENU bNIN bNIN9 bNINDA2
     cTIMES_AN dASH ePLUS_ASH dBAL dDIM_GUNU dGI dGISH dGUD dGUL dHI dKESH2 dLAK-050 dMASH
     dME_PLUS_GAN2_TENU dNE dNUN dPAP_PLUS_PAP dSHE ePLUS_A_AN fASH gPLUS_ASH dU ePLUS_U
     dU2_PLUS_ASH dURUDA dUSH bNISAG bNU bNU11 cOVER_NU11_BUR_OVER_BUR cROTATED_NINETY_DEGREES
     cTENU bNUN cCROSSING_NUN eLAGAR_OVER_LAGAR cLAGAR_TIMES_GAR eMASH eSAL
     fOVER_NUN_LAGAR_TIMES_SAL eUSH cOVER_NUN cTENU bNUNUZ cAB2_TIMES_ASHGAB eBI eDUG eGUD
     eIGI_GUNU eKAD3 eLA eNE eSILA3 eU2 cKISIM5_TIMES_BI fU bPA bPAD bPAN bPAP bPESH2 cASTERISK
     bPI cCROSSING_PI cTIMES_A dAB dBI dBU dE dI dIB dU dU2 bPIR2 bPIRIG cOPPOSING_PIRIG
     cTIMES_KAL dUD dZA bRA bRAB bRI bRU bSA bSAG cGUNU dTIMES_HA cNUTILLU cOVER_SAG cTIMES_A dDU
     dDUB dEN dHA dIGI_GUNU dKAK dKUR dLUM dMI dNUN dSAL dSHE_AT_LEFT dSHID dTAB dTAK4 dU2 dUB
     dUM dUR dUSH bSAL cLAGAB_TIMES_ASH2 bSANGA2 bSAR bSHA bSHA3 cTIMES_A dBAD dGISH dNE dSHU2
     dTUR dU ePLUS_A bSHA6 cTENU bSHAB6 bSHAR2 bSHE cHU cOVER_SHE eGAD_OVER_GAD_GAR_OVER_GAR
     eTAB_OVER_TAB_GAR_OVER_GAR cPLUS_HUB2 dNAM2 dSAR bSHEG9 bSHEN bSHESH bSHESH2 bSHESHLAM bSHID
     cTIMES_A dIM bSHIM cTIMES_A dBAL dBULUG dDIN dGAR dIGI eGUNU dKUSHU2 dLUL dMUG dSAL bSHINIG
     bSHIR cOVER_SHIR_BUR_OVER_BUR cTENU bSHITA bSHU cOVER_INVERTED_SHU bSHU2 cPLUS_DUG_TIMES_NI
     dE2_TIMES_AN bSHUBUR bSI cGUNU cTIMES_TAK4 bSIG bSIG4 cOVER_SIG4_SHU2 bSIK2 bSILA3 bSU
     cOVER_SU bSUD bSUD2 bSUHUR bSUM bSUMASH bSUR bSUR9 bTA cASTERISK cGUNU cTIMES_HI dMI bTAB
     cOVER_TAB_NI_OVER_NI_DISH_OVER_DISH cSQUARED bTAG cTIMES_BI dGUD dSHE dSHU dTUG2 dUD bTAK4
     cPLUS_SAG bTAR bTE cGUNU bTI cTENU bTI2 bTIL bTIR cOVER_TIR eGAD_OVER_GAD_GAR_OVER_GAR
     cTIMES_TAK4 bTU bTUG2 bTUK bTUM cTIMES_GAN2_TENU dTHREE_DISH bTUR cOVER_TUR_ZA_OVER_ZA bU
     cGUD cOVER_U_PA_OVER_PA_GAR_OVER_GAR eSUR_OVER_SUR eU_REVERSED_OVER_U_REVERSED cU dU bU2 bUB
     bUD cGUNU cKUSHU2 cSHESHIG dTIMES_BAD cTIMES_BAD dMI dU_PLUS_U_PLUS_U iGUNU bUDUG bUM
     cTIMES_LAGAB dME ePLUS_DA dSHA3 dU bUMBIN bUMUM cTIMES_KASKAL dPA bUN cGUNU bUR cCROSSING_UR
     cSHESHIG bUR2 cINVERTED cTIMES_A_PLUS_HA fNA dAL dHA dNUN dU2 ePLUS_ASH fBI dUD bUR4 bURI
     bURI3 bURU cTIMES_A dASHGAB dBAR dDARA3 dDUN dGA dGAL dGAN2_TENU dGAR dGU dHA dIGI dIM dISH
     dKI dLAK-668 dLU3 dLUM dMIN dPA dSHE dSIG4 dTU dU_PLUS_GUD dUD dURUDA bURUDA cTIMES_U bUSH
     cTIMES_A dKU dKUR dTAK4 bUSH2 bUSHUMX bUSHX bUTUKI bUZ3 cTIMES_KASKAL bUZU bZA
     cSQUARED_TIMES_KUR cTENU bZA7 bZAG bZAMX bZE2 bZI cOVER_ZI bZI3 bZIB cKABA_TENU bZIG bZIZ2
     bZU cOVER_ZU_PLUS_SAR bZU5 cTIMES_A dTHREE_DISH_TENU bZUBUR bZUM"),
    ("CUP", "aON_BLACK_SQUARE aWITH_STRAW"),
    ("CURLING", "aSTONE"),
    ("CURLY", "aBRACKET_EXTENSION aLOGICAL_AND bOR aLOOP"),
    ("CURRENCY", "aEXCHANGE aSIGN"),
    ("CURRY", "aAND_RICE"),
    ("CURVED", "aSTEM_PARAGRAPH_SIGN_ORNAMENT"),
    ("CUT", "aOF_MEAT"),
    ("CYPRIOT", "aSYLLABLE_A bE bI bJA bJO bKA bKE bKI bKO bKU bLA bLE bLI bLO bLU bMA bME bMI
     bMO bMU bNA bNE bNI bNO bNU bO bPA bPE bPI bPO bPU bRA bRE bRI bRO bRU bSA bSE bSI bSO bSU
     bTA bTE bTI bTO bTU bU bWA bWE bWI bWO bXA bXE bZA bZO"),
    ("CYPRO-MINOAN", "aSIGN_CM001 bCM002 bCM004 bCM005 bCM006 bCM007 bCM008 bCM009 bCM010 bCM011
     bCM012 bCM012B bCM013 bCM015 bCM017 bCM019 bCM021 bCM023 bCM024 bCM025 bCM026 bCM027 bCM028
     bCM029 bCM030 bCM033 bCM034 bCM035 bCM036 bCM037 bCM038 bCM039 bCM040 bCM041 bCM044 bCM046
     bCM047 bCM049 bCM050 bCM051 bCM052 bCM053 bCM054 bCM055 bCM056 bCM058 bCM059 bCM060 bCM061
     bCM062 bCM063 bCM064 bCM066 bCM067 bCM068 bCM069 bCM070 bCM071 bCM072 bCM073 bCM074 bCM075
     bCM075B bCM076 bCM078 bCM079 bCM080 bCM081 bCM082 bCM083 bCM084 bCM085 bCM086 bCM087 bCM088
     bCM089 bCM090 bCM091 bCM092 bCM094 bCM095 bCM096 bCM097 bCM098 bCM099 bCM100 bCM101 bCM102
     bCM103 bCM104 bCM105 bCM107 bCM108 bCM109 bCM110 bCM112 bCM114 bCM301 bCM302"),
    ("CYRILLIC", "aCAPITAL_LETTER_A dWITH_BREVE eDIAERESIS cABKHASIAN_CHE eWITH_DESCENDER dDZE
     dHA cALEUT_KA cBARRED_O eWITH_DIAERESIS cBASHKIR_KA cBE cBIG_YUS cBINOCULAR_O cBLENDED_YUS
     cBROAD_OMEGA cBYELORUSSIAN-UKRAINIAN_I cCCHE cCHE dWITH_DESCENDER eDIAERESIS
     eVERTICAL_STROKE cCLOSED_LITTLE_YUS cCROSSED_O cDCHE cDE cDJE cDJERV cDOUBLE_MONOCULAR_O dO
     cDWE cDZE cDZELO cDZHE cDZWE cDZZE cDZZHE cE dWITH_DIAERESIS cEF cEL dWITH_DESCENDER eHOOK
     eMIDDLE_HOOK eTAIL cEM dWITH_TAIL cEN dWITH_DESCENDER eHOOK eLEFT_HOOK eMIDDLE_HOOK eTAIL
     cER dWITH_TICK cES dWITH_DESCENDER cFITA cGHE dWITH_DESCENDER eMIDDLE_HOOK eSTROKE fAND_HOOK
     eUPTURN cGJE cHA dWITH_DESCENDER eHOOK eSTROKE cHARD_SIGN cHWE cI dWITH_DIAERESIS eGRAVE
     eMACRON cIE dWITH_BREVE eGRAVE cIO cIOTA cIOTIFIED_A dBIG_YUS dCLOSED_LITTLE_YUS dE
     dLITTLE_YUS dYAT cIZHITSA dWITH_DOUBLE_GRAVE_ACCENT cJE cKA dWITH_DESCENDER eHOOK eSTROKE
     eVERTICAL_STROKE cKHAKASSIAN_CHE cKJE cKOMI_DE dDJE dDZJE dLJE dNJE dSJE dTJE dZJE cKOPPA
     cKSI cLHA cLITTLE_YUS cLJE cMONOCULAR_O cMONOGRAPH_UK cNEUTRAL_YER cNJE cO dWITH_DIAERESIS
     cOMEGA dWITH_TITLO cOT cPE dWITH_DESCENDER eMIDDLE_HOOK cPSI cQA cREVERSED_DZE dTSE dYU dZE
     cRHA cROUND_OMEGA cSCHWA dWITH_DIAERESIS cSEMISOFT_SIGN cSHA cSHCHA cSHHA dWITH_DESCENDER
     cSHORT_I eWITH_TAIL dU cSHWE cSOFT_DE dEL dEM dSIGN cSTRAIGHT_U eWITH_STROKE cTCHE cTE
     dWITH_DESCENDER eMIDDLE_HOOK cTSE cTSHE cTSSE cTSWE cTWE cU dWITH_DIAERESIS eDOUBLE_ACUTE
     eMACRON cUK cUKRAINIAN_IE cVE cWE cYA cYAE cYAT cYERU dWITH_BACK_YER eDIAERESIS cYI cYN cYU
     cZE dWITH_DESCENDER eDIAERESIS cZEMLYA cZHE dWITH_BREVE eDESCENDER eDIAERESIS cZHWE
     bLIGATURE_A_IE cEN_GHE cTE_TSE aKAVYKA aLETTER_MULTIOCULAR_O bPALOCHKA bSMALL_CAPITAL_EL
     aPAYEROK aSMALL_LETTER_A dWITH_BREVE eDIAERESIS cABKHASIAN_CHE eWITH_DESCENDER dDZE dHA
     cALEUT_KA cBARRED_O eWITH_DIAERESIS cBASHKIR_KA cBE cBIG_YUS cBINOCULAR_O cBLENDED_YUS
     cBROAD_OMEGA cBYELORUSSIAN-UKRAINIAN_I cCCHE cCHE dWITH_DESCENDER eDIAERESIS
     eVERTICAL_STROKE cCLOSED_LITTLE_YUS cCROSSED_O cDCHE cDE cDJE cDJERV cDOUBLE_MONOCULAR_O dO
     cDWE cDZE cDZELO cDZHE cDZWE cDZZE cDZZHE cE dWITH_DIAERESIS cEF cEL dWITH_DESCENDER eHOOK
     eMIDDLE_HOOK eTAIL cEM dWITH_TAIL cEN dWITH_DESCENDER eHOOK eLEFT_HOOK eMIDDLE_HOOK eTAIL
     cER dWITH_TICK cES dWITH_DESCENDER cFITA cGHE dWITH_DESCENDER eMIDDLE_HOOK eSTROKE fAND_HOOK
     eUPTURN cGJE cHA dWITH_DESCENDER eHOOK eSTROKE cHARD_SIGN cHWE cI dWITH_DIAERESIS eGRAVE
     eMACRON cIE dWITH_BREVE eGRAVE cIO cIOTA cIOTIFIED_A dBIG_YUS dCLOSED_LITTLE_YUS dE
     dLITTLE_YUS dYAT cIZHITSA dWITH_DOUBLE_GRAVE_ACCENT cJE cKA dWITH_DESCENDER eHOOK eSTROKE
     eVERTICAL_STROKE cKHAKASSIAN_CHE cKJE cKOMI_DE dDJE dDZJE dLJE dNJE dSJE dTJE dZJE cKOPPA
     cKSI cLHA cLITTLE_YUS cLJE cLONG-LEGGED_DE cMONOCULAR_O cMONOGRAPH_UK cNARROW_O cNEUTRAL_YER
     cNJE cO dWITH_DIAERESIS cOMEGA dWITH_TITLO cOT cPALOCHKA cPE dWITH_DESCENDER eMIDDLE_HOOK
     cPSI cQA cREVERSED_DZE dTSE dYU dZE cRHA cROUND_OMEGA cROUNDED_VE cSCHWA dWITH_DIAERESIS
     cSEMISOFT_SIGN cSHA cSHCHA cSHHA dWITH_DESCENDER cSHORT_I eWITH_TAIL dU cSHWE cSOFT_DE dEL
     dEM dSIGN cSTRAIGHT_U eWITH_STROKE cTALL_HARD_SIGN dTE dYAT cTCHE cTE dWITH_DESCENDER
     eMIDDLE_HOOK cTHREE-LEGGED_TE cTSE cTSHE cTSSE cTSWE cTWE cU dWITH_DIAERESIS eDOUBLE_ACUTE
     eMACRON cUK cUKRAINIAN_IE cUNBLENDED_UK cVE cWE cWIDE_ES cYA cYAE cYAT cYERU dWITH_BACK_YER
     eDIAERESIS cYI cYN cYU cZE dWITH_DESCENDER eDIAERESIS cZEMLYA cZHE dWITH_BREVE eDESCENDER
     eDIAERESIS cZHWE bLIGATURE_A_IE cEN_GHE cTE_TSE aTHOUSANDS_SIGN")]

end Polyglot.CharacterName
