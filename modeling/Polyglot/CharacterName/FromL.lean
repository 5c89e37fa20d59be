/-! # Names of characters that begin with L to M

A list of first words with what may follow each of them. There every entry begins with a letter
that tells how many words are taken from the entry before it: `a` for none, `b` for one and so on.
The words after those are joined by underlines.
-/

namespace Polyglot.CharacterName

/-- The names of several words that begin with L to M, by their first words. -/
def fromL : List (String × String) :=
  [("L", "aB_BAR_SYMBOL"),
    ("LAB", "aCOAT"),
    ("LACROSSE", "aSTICK_AND_BALL"),
    ("LADY", "aBEETLE"),
    ("LANGUAGE", "aTAG"),
    ("LAO", "aCANCELLATION_MARK aDIGIT_EIGHT bFIVE bFOUR bNINE bONE bSEVEN bSIX bTHREE bTWO bZERO
     aELLIPSIS aHO_MO bNO aKO_LA aLETTER_BO bCO bDO bFO_FAY cFON cSUNG cTAM bHO_SUNG cTAM
     bKHMU_GO cNYO bKHO_SUNG cTAM bKO bLO cLING cLOOT bMO bNGO bNO bNYO bO bPALI_BHA cCHA cDDA
     cDDHA cDHA cGHA cJHA cLLA cNNA cNYA cTTA cTTHA bPHO_SUNG cTAM bPO bRO bSANSKRIT_SHA cSSA
     bSO_SUNG cTAM bTHO_SUNG cTAM bTO bWO bYO aNIGGAHITA aSEMIVOWEL_SIGN_LO cNYO
     aSIGN_PALI_VIRAMA aTONE_MAI_CATAWA cEK cTHO cTI aVOWEL_SIGN_A cAA cAI cAM cAY cE cEI cI cII
     cMAI_KAN dKON cO cU cUU cY cYY"),
    ("LARGE", "aBLUE_CIRCLE bDIAMOND bSQUARE aBROWN_CIRCLE bSQUARE aCIRCLE aDOWN_TACK
     aGREEN_CIRCLE bSQUARE aLEFT_TRIANGLE_OPERATOR aONE_DOT_OVER_TWO_DOTS_PUNCTUATION
     bRING_OVER_TWO_RINGS_PUNCTUATION aORANGE_CIRCLE bDIAMOND bSQUARE aPURPLE_CIRCLE bSQUARE
     aRED_CIRCLE bSQUARE aTRIPLE_VERTICAL_BAR_OPERATOR aTWO_DOTS_OVER_ONE_DOT_PUNCTUATION
     bRINGS_OVER_ONE_RING_PUNCTUATION aUP_TACK aYELLOW_CIRCLE bSQUARE"),
    ("LARGER", "aTHAN bOR_EQUAL_TO"),
    ("LARI", "aSIGN"),
    ("LAST", "aQUARTER_MOON cSYMBOL cWITH_FACE"),
    ("LATIN", "aCAPITAL_LETTER_A dWITH_ACUTE eBREVE fAND_ACUTE gDOT_BELOW gGRAVE gHOOK_ABOVE
     gTILDE eCARON eCIRCUMFLEX fAND_ACUTE gDOT_BELOW gGRAVE gHOOK_ABOVE gTILDE eDIAERESIS
     fAND_MACRON eDOT_ABOVE gAND_MACRON fBELOW eDOUBLE_GRAVE eGRAVE eHOOK_ABOVE eINVERTED_BREVE
     eMACRON eOGONEK eRING_ABOVE gAND_ACUTE fBELOW eSTROKE eTILDE cAA cAE dWITH_ACUTE eMACRON
     cAFRICAN_D cALPHA cANGLICANA_W cAO cAU cAV dWITH_HORIZONTAL_BAR cAY cB dWITH_DOT_ABOVE
     fBELOW eFLOURISH eHOOK eLINE_BELOW eSTROKE eTOPBAR cBETA cBROKEN_L cC dWITH_ACUTE eBAR
     eCARON eCEDILLA fAND_ACUTE eCIRCUMFLEX eDOT_ABOVE eHOOK ePALATAL_HOOK eSTROKE cCHI
     cCLOSED_INSULAR_G cCON cCUATRILLO dWITH_COMMA cD dWITH_CARON eCEDILLA eCIRCUMFLEX_BELOW
     eDOT_ABOVE fBELOW eHOOK eLINE_BELOW eSHORT_STROKE_OVERLAY eSMALL_LETTER_Z hWITH_CARON
     eSTROKE eTOPBAR cDZ dWITH_CARON cE dWITH_ACUTE eBREVE eCARON eCEDILLA fAND_BREVE eCIRCUMFLEX
     fAND_ACUTE gDOT_BELOW gGRAVE gHOOK_ABOVE gTILDE fBELOW eDIAERESIS eDOT_ABOVE fBELOW
     eDOUBLE_GRAVE eGRAVE eHOOK_ABOVE eINVERTED_BREVE eMACRON fAND_ACUTE gGRAVE eOGONEK eSTROKE
     eTILDE fBELOW cEGYPTOLOGICAL_AIN dALEF cENG cESH cET cETH cEZH dREVERSED dWITH_CARON cF
     dWITH_DOT_ABOVE eHOOK eSTROKE cG dWITH_ACUTE eBREVE eCARON eCEDILLA eCIRCUMFLEX eDOT_ABOVE
     eHOOK eMACRON eOBLIQUE_STROKE eSTROKE cGAMMA cGHA cGLOTTAL_A dI dSTOP dU cH
     dWITH_BREVE_BELOW eCARON eCEDILLA eCIRCUMFLEX eDESCENDER eDIAERESIS eDOT_ABOVE fBELOW eHOOK
     eSTROKE cHALF_H cHENG cHWAIR cI dWITH_ACUTE eBREVE eCARON eCIRCUMFLEX eDIAERESIS fAND_ACUTE
     eDOT_ABOVE fBELOW eDOUBLE_GRAVE eGRAVE eHOOK_ABOVE eINVERTED_BREVE eMACRON eOGONEK eSTROKE
     eTILDE fBELOW cINSULAR_D dF dG dR dS dT cIOTA cIS cJ dWITH_CIRCUMFLEX eCROSSED-TAIL eSTROKE
     cK dWITH_ACUTE eCARON eCEDILLA eDESCENDER eDIAGONAL_STROKE eDOT_BELOW eHOOK eLINE_BELOW
     eOBLIQUE_STROKE eSTROKE fAND_DIAGONAL_STROKE cL dWITH_ACUTE eBAR eBELT eCARON eCEDILLA
     eCIRCUMFLEX_BELOW eDOT_BELOW gAND_MACRON eDOUBLE_BAR eHIGH_STROKE eLINE_BELOW eMIDDLE_DOT
     fTILDE eSMALL_LETTER_J eSTROKE cLJ cM dWITH_ACUTE eDOT_ABOVE fBELOW eHOOK cMIDDLE_SCOTS_S
     cMIDDLE-WELSH_LL dV cN dWITH_ACUTE eCARON eCEDILLA eCIRCUMFLEX_BELOW eDESCENDER eDOT_ABOVE
     fBELOW eGRAVE eLEFT_HOOK eLINE_BELOW eLONG_RIGHT_LEG eOBLIQUE_STROKE eSMALL_LETTER_J eTILDE
     cNJ cO dWITH_ACUTE eBREVE eCARON eCIRCUMFLEX fAND_ACUTE gDOT_BELOW gGRAVE gHOOK_ABOVE gTILDE
     eDIAERESIS fAND_MACRON eDOT_ABOVE gAND_MACRON fBELOW eDOUBLE_ACUTE fGRAVE eGRAVE eHOOK_ABOVE
     eHORN fAND_ACUTE gDOT_BELOW gGRAVE gHOOK_ABOVE gTILDE eINVERTED_BREVE eLONG_STROKE_OVERLAY
     eLOOP eMACRON fAND_ACUTE gGRAVE eMIDDLE_TILDE eOGONEK fAND_MACRON eSTROKE fAND_ACUTE eTILDE
     fAND_ACUTE gDIAERESIS gMACRON cOI cOLD_POLISH_O cOMEGA cOO cOPEN_E dO cOU cP dWITH_ACUTE
     eDOT_ABOVE eFLOURISH eHOOK eSQUIRREL_TAIL eSTROKE fTHROUGH_DESCENDER cQ
     dWITH_DIAGONAL_STROKE eSTROKE_THROUGH_DESCENDER cR dROTUNDA dWITH_ACUTE eCARON eCEDILLA
     eDOT_ABOVE fBELOW gAND_MACRON eDOUBLE_GRAVE eINVERTED_BREVE eLINE_BELOW eOBLIQUE_STROKE
     eSTROKE eTAIL cREVERSED_C_WITH_DOT dE dHALF_H dOPEN_E cRUM_ROTUNDA cS dWITH_ACUTE
     fAND_DOT_ABOVE eCARON fAND_DOT_ABOVE eCEDILLA eCIRCUMFLEX eCOMMA_BELOW eDOT_ABOVE fBELOW
     gAND_DOT_ABOVE eHOOK eOBLIQUE_STROKE eSHORT_STROKE_OVERLAY eSWASH_TAIL cSALTILLO cSCHWA
     cSCRIPT_G cSHARP_S cSIGMOID_S cSMALL_CAPITAL_I dQ_WITH_HOOK_TAIL cT dWITH_CARON eCEDILLA
     eCIRCUMFLEX_BELOW eCOMMA_BELOW eDIAGONAL_STROKE eDOT_ABOVE fBELOW eHOOK eLINE_BELOW
     eRETROFLEX_HOOK eSTROKE cTHORN dWITH_STROKE fTHROUGH_DESCENDER cTONE_FIVE dSIX dTWO
     cTRESILLO cTURNED_A dALPHA dH dINSULAR_G dK dL dM dT dV cTZ cU dBAR dWITH_ACUTE eBREVE
     eCARON eCIRCUMFLEX fBELOW eDIAERESIS fAND_ACUTE gCARON gGRAVE gMACRON fBELOW eDOT_BELOW
     eDOUBLE_ACUTE fGRAVE eGRAVE eHOOK_ABOVE eHORN fAND_ACUTE gDOT_BELOW gGRAVE gHOOK_ABOVE
     gTILDE eINVERTED_BREVE eMACRON fAND_DIAERESIS eOGONEK eRING_ABOVE eSTROKE eTILDE fAND_ACUTE
     fBELOW cUPSILON cV dWITH_DIAGONAL_STROKE eDOT_BELOW eHOOK eTILDE cVEND cVISIGOTHIC_Z
     cVOLAPUK_AE dOE dUE cVY cW dWITH_ACUTE eCIRCUMFLEX eDIAERESIS eDOT_ABOVE fBELOW eGRAVE eHOOK
     cWYNN cX dWITH_DIAERESIS eDOT_ABOVE cY dWITH_ACUTE eCIRCUMFLEX eDIAERESIS eDOT_ABOVE fBELOW
     eGRAVE eHOOK fABOVE eLOOP eMACRON eSTROKE eTILDE cYOGH cZ dWITH_ACUTE eCARON eCIRCUMFLEX
     eDESCENDER eDOT_ABOVE fBELOW eHOOK eLINE_BELOW ePALATAL_HOOK eSTROKE eSWASH_TAIL
     bLIGATURE_IJ cOE aCROSS aEPIGRAPHIC_LETTER_ARCHAIC_M cI_LONGA cINVERTED_M cREVERSED_F dP
     cSIDEWAYS_I aLETTER_AIN bALVEOLAR_CLICK bBIDENTAL_PERCUSSIVE bBILABIAL_CLICK cPERCUSSIVE
     bDENTAL_CLICK bGLOTTAL_STOP dWITH_STROKE bINVERTED_GLOTTAL_STOP eWITH_CURL fSTROKE
     bLATERAL_CLICK bPHARYNGEAL_VOICED_FRICATIVE bRETROFLEX_CLICK dWITH_RETROFLEX_HOOK
     bREVERSED_ESH_LOOP cGLOTTAL_STOP_WITH_STROKE bSINOLOGICAL_DOT bSMALL_CAPITAL_A dAE dB
     dBARRED_B dC dD dE dETH dEZH dF dG eWITH_HOOK dH dI dINVERTED_R dJ dK dL eWITH_BELT fSTROKE
     dM dN dO dOE dOPEN_O dOU dP dQ dR eWITH_RIGHT_LEG dREVERSED_N eR dRUM dS dT dTURNED_E eG eK
     eM eR dU dV dW dY dZ bSTRETCHED_C dWITH_CURL bTWO_WITH_STROKE bVOICED_LARYNGEAL_SPIRANT
     bWYNN bYR aSMALL_CAPITAL_LETTER_I_WITH_STROKE dU_WITH_STROKE bLETTER_A dREVERSED-SCHWA
     dWITH_ACUTE eBREVE fAND_ACUTE gDOT_BELOW gGRAVE gHOOK_ABOVE gTILDE eCARON eCIRCUMFLEX
     fAND_ACUTE gDOT_BELOW gGRAVE gHOOK_ABOVE gTILDE eDIAERESIS fAND_MACRON eDOT_ABOVE
     gAND_MACRON fBELOW eDOUBLE_GRAVE eGRAVE eHOOK_ABOVE eINVERTED_BREVE eMACRON eOGONEK
     eRETROFLEX_HOOK eRIGHT_HALF_RING eRING_ABOVE gAND_ACUTE fBELOW eSTROKE eTILDE cAA cAE
     dWITH_ACUTE eMACRON cALPHA dWITH_RETROFLEX_HOOK cANGLICANA_W cAO cAU cAV
     dWITH_HORIZONTAL_BAR cAY cB dWITH_DOT_ABOVE fBELOW eFLOURISH eHOOK eLINE_BELOW eMIDDLE_TILDE
     ePALATAL_HOOK eSTROKE eTOPBAR cBARRED_ALPHA dE dO cBASELINE_ESH cBETA cBLACKLETTER_E dO
     eWITH_STROKE cBOTTOM_HALF_O cBROKEN_L cC dWITH_ACUTE eBAR eCARON eCEDILLA fAND_ACUTE
     eCIRCUMFLEX eCURL eDOT_ABOVE eHOOK ePALATAL_HOOK eRETROFLEX_HOOK eSTROKE cCHI
     dWITH_LOW_LEFT_SERIF fRIGHT_RING cCLOSED_INSULAR_G dOMEGA dOPEN_E dREVERSED_OPEN_E cCON
     cCUATRILLO dWITH_COMMA cD dWITH_CARON eCEDILLA eCIRCUMFLEX_BELOW eCURL eDOT_ABOVE fBELOW
     eHOOK fAND_TAIL eLINE_BELOW eMIDDLE_TILDE ePALATAL_HOOK eSHORT_STROKE_OVERLAY eSTROKE eTAIL
     eTOPBAR cDB_DIGRAPH cDELTA cDEZH_DIGRAPH eWITH_PALATAL_HOOK fRETROFLEX_HOOK cDOTLESS_I dJ
     eWITH_STROKE gAND_HOOK cDOUBLE_R eWITH_CROSSED-TAIL dTHORN dWYNN cDUM cDZ dDIGRAPH
     eWITH_CURL fRETROFLEX_HOOK dWITH_CARON cE dWITH_ACUTE eBREVE eCARON eCEDILLA fAND_BREVE
     eCIRCUMFLEX fAND_ACUTE gDOT_BELOW gGRAVE gHOOK_ABOVE gTILDE fBELOW eDIAERESIS eDOT_ABOVE
     fBELOW eDOUBLE_GRAVE eFLOURISH eGRAVE eHOOK_ABOVE eINVERTED_BREVE eMACRON fAND_ACUTE gGRAVE
     eNOTCH eOGONEK eRETROFLEX_HOOK eSTROKE eTILDE fBELOW cEGYPTOLOGICAL_AIN dALEF cENG
     dWITH_CROSSED-TAIL ePALATAL_HOOK cESH dWITH_CURL eDOUBLE_BAR gAND_CURL ePALATAL_HOOK
     eRETROFLEX_HOOK cET cETH cEZH dREVERSED dWITH_CARON eCURL ePALATAL_HOOK eRETROFLEX_HOOK
     eTAIL cF dWITH_DOT_ABOVE eHOOK eMIDDLE_TILDE ePALATAL_HOOK eSTROKE cFENG_DIGRAPH eWITH_TRILL
     cG dWITH_ACUTE eBREVE eCARON eCEDILLA eCIRCUMFLEX eDOT_ABOVE eHOOK eMACRON eOBLIQUE_STROKE
     ePALATAL_HOOK eSTROKE cGAMMA cGHA cGLOTTAL_A dI dSTOP dU cH dWITH_BREVE_BELOW eCARON
     eCEDILLA eCIRCUMFLEX eDESCENDER eDIAERESIS eDOT_ABOVE fBELOW eHOOK eLINE_BELOW ePALATAL_HOOK
     eSTROKE cHALF_H cHENG dWITH_HOOK cHV cI dWITH_ACUTE eBREVE eCARON eCIRCUMFLEX eDIAERESIS
     fAND_ACUTE eDOT_BELOW eDOUBLE_GRAVE eGRAVE eHOOK_ABOVE eINVERTED_BREVE eMACRON eOGONEK
     eRETROFLEX_HOOK eSTROKE fAND_RETROFLEX_HOOK eTILDE fBELOW cINSULAR_D dF dG dR dS dT
     cINVERTED_ALPHA dOE cIOTA dWITH_STROKE cIOTIFIED_E cIS cJ dWITH_CARON eCIRCUMFLEX
     eCROSSED-TAIL eSTROKE cK dWITH_ACUTE eCARON eCEDILLA eDESCENDER eDIAGONAL_STROKE eDOT_BELOW
     eHOOK eLINE_BELOW eOBLIQUE_STROKE ePALATAL_HOOK eSTROKE fAND_DIAGONAL_STROKE cKRA cL
     dWITH_ACUTE eBAR eBELT fAND_PALATAL_HOOK eCARON eCEDILLA eCIRCUMFLEX_BELOW eCURL eDOT_BELOW
     gAND_MACRON eDOUBLE_BAR fMIDDLE_TILDE eFISHHOOK eHIGH_STROKE eINVERTED_LAZY_S eLINE_BELOW
     eMIDDLE_DOT fRING fTILDE ePALATAL_HOOK eRETROFLEX_HOOK gAND_BELT eSTROKE cLAMBDA_WITH_STROKE
     cLENIS_F cLEZH dWITH_RETROFLEX_HOOK cLJ cLONG_S eWITH_DIAGONAL_STROKE fDOT_ABOVE
     fHIGH_STROKE cLS_DIGRAPH cLUM cLZ_DIGRAPH cM dWITH_ACUTE eCROSSED-TAIL eDOT_ABOVE fBELOW
     eHOOK eMIDDLE_TILDE ePALATAL_HOOK cMIDDLE_SCOTS_S cMIDDLE-WELSH_LL dV cMUM cN
     dPRECEDED_BY_APOSTROPHE dWITH_ACUTE eCARON eCEDILLA eCIRCUMFLEX_BELOW eCROSSED-TAIL eCURL
     eDESCENDER eDOT_ABOVE fBELOW eGRAVE eLEFT_HOOK eLINE_BELOW eLONG_RIGHT_LEG eMIDDLE_TILDE
     eOBLIQUE_STROKE ePALATAL_HOOK eRETROFLEX_HOOK eTILDE cNJ cNUM cO dWITH_ACUTE eBREVE eCARON
     eCIRCUMFLEX fAND_ACUTE gDOT_BELOW gGRAVE gHOOK_ABOVE gTILDE eDIAERESIS fAND_MACRON
     eDOT_ABOVE gAND_MACRON fBELOW eDOUBLE_ACUTE fGRAVE eGRAVE eHOOK_ABOVE eHORN fAND_ACUTE
     gDOT_BELOW gGRAVE gHOOK_ABOVE gTILDE eINVERTED_BREVE eLONG_STROKE_OVERLAY eLOOP
     eLOW_RING_INSIDE eMACRON fAND_ACUTE gGRAVE eOGONEK fAND_MACRON eRETROFLEX_HOOK eSTROKE
     fAND_ACUTE eTILDE fAND_ACUTE gDIAERESIS gMACRON cOI cOLD_POLISH_O cOMEGA cOO cOPEN_E
     eWITH_RETROFLEX_HOOK dO eWITH_RETROFLEX_HOOK fSTROKE dOE cOU cP dWITH_ACUTE eDOT_ABOVE
     eFLOURISH eHOOK eMIDDLE_TILDE ePALATAL_HOOK eSQUIRREL_TAIL eSTROKE fTHROUGH_DESCENDER cPHI
     cQ dWITH_DIAGONAL_STROKE eHOOK fTAIL eSTROKE_THROUGH_DESCENDER cQP_DIGRAPH cR dROTUNDA
     dWITH_ACUTE eCARON eCEDILLA eCROSSED-TAIL eDOT_ABOVE fBELOW gAND_MACRON eDOUBLE_GRAVE
     eFISHHOOK fAND_MIDDLE_TILDE gPALATAL_HOOK eINVERTED_BREVE eLINE_BELOW eLONG_LEG
     eMIDDLE_TILDE eOBLIQUE_STROKE ePALATAL_HOOK eSTROKE eTAIL dWITHOUT_HANDLE cRAMS_HORN
     cREVERSED_C eWITH_DOT dE dENG dHALF_H dK dOPEN_E fWITH_HOOK gRETROFLEX_HOOK dR_WITH_FISHHOOK
     dSCRIPT_G cRUM dROTUNDA cS dWITH_ACUTE fAND_DOT_ABOVE eCARON fAND_DOT_ABOVE eCEDILLA
     eCIRCUMFLEX eCOMMA_BELOW eCURL eDOT_ABOVE fBELOW gAND_DOT_ABOVE eHOOK eMIDDLE_TILDE
     eOBLIQUE_STROKE ePALATAL_HOOK eSHORT_STROKE_OVERLAY eSWASH_TAIL cSAKHA_YAT cSALTILLO cSCHWA
     dWITH_HOOK eRETROFLEX_HOOK cSCRIPT_G eWITH_CROSSED-TAIL dR eWITH_RING cSHARP_S
     cSIDEWAYS_DIAERESIZED_U dO eWITH_STROKE dOPEN_O dTURNED_M dU cSIGMOID_S cSQUAT_REVERSED_ESH
     cSTIRRUP_R cT dWITH_CARON eCEDILLA eCIRCUMFLEX_BELOW eCOMMA_BELOW eCURL eDIAERESIS
     eDIAGONAL_STROKE eDOT_ABOVE fBELOW eHOOK fAND_RETROFLEX_HOOK eLINE_BELOW eMIDDLE_TILDE
     ePALATAL_HOOK eRETROFLEX_HOOK eSTROKE cTAILLESS_PHI cTC_DIGRAPH_WITH_CURL cTESH_DIGRAPH
     eWITH_PALATAL_HOOK fRETROFLEX_HOOK cTH_WITH_STRIKETHROUGH cTHORN dWITH_STROKE
     fTHROUGH_DESCENDER cTONE_FIVE dSIX dTWO cTOP_HALF_O cTRESILLO cTS_DIGRAPH
     eWITH_RETROFLEX_HOOK cTUM cTURNED_A dAE dALPHA dDELTA dE dG dH eWITH_FISHHOOK gAND_TAIL dI
     dINSULAR_G dK dL dM eWITH_LONG_LEG dO_OPEN-O fWITH_STROKE dOE eWITH_HORIZONTAL_STROKE
     fSTROKE dOPEN_E dR eWITH_HOOK fLONG_LEG hAND_RETROFLEX_HOOK fMIDDLE_TILDE fPALATAL_HOOK
     fTAIL dT eWITH_CURL dUI dV dW dY eWITH_BELT cTZ cU dBAR eWITH_SHORT_RIGHT_LEG dWITH_ACUTE
     eBREVE eCARON eCIRCUMFLEX fBELOW eDIAERESIS fAND_ACUTE gCARON gGRAVE gMACRON fBELOW
     eDOT_BELOW eDOUBLE_ACUTE fGRAVE eGRAVE eHOOK_ABOVE eHORN fAND_ACUTE gDOT_BELOW gGRAVE
     gHOOK_ABOVE gTILDE eINVERTED_BREVE eLEFT_HOOK eMACRON fAND_DIAERESIS eOGONEK eRETROFLEX_HOOK
     eRING_ABOVE eSHORT_RIGHT_LEG eSTROKE eTILDE fAND_ACUTE fBELOW cUE cUI cUM cUO cUPSILON
     dWITH_STROKE cV dWITH_CURL eDIAGONAL_STROKE eDOT_BELOW eHOOK ePALATAL_HOOK eRIGHT_HOOK
     eTILDE cVEND cVISIGOTHIC_Z cVOLAPUK_AE dOE dUE cVY cW dWITH_ACUTE eCIRCUMFLEX eDIAERESIS
     eDOT_ABOVE fBELOW eGRAVE eHOOK eRING_ABOVE cX dWITH_DIAERESIS eDOT_ABOVE eLONG_LEFT_LEG
     hAND_LOW_RIGHT_RING hWITH_SERIF eLOW_RIGHT_RING ePALATAL_HOOK cY dWITH_ACUTE eCIRCUMFLEX
     eDIAERESIS eDOT_ABOVE fBELOW eGRAVE eHOOK fABOVE eLOOP eMACRON eRING_ABOVE eSHORT_RIGHT_LEG
     eSTROKE eTILDE cYOGH cZ dWITH_ACUTE eCARON eCIRCUMFLEX eCURL eDESCENDER eDOT_ABOVE fBELOW
     eHOOK eLINE_BELOW eMIDDLE_TILDE ePALATAL_HOOK eRETROFLEX_HOOK eSTROKE eSWASH_TAIL
     bLIGATURE_FF cFFI cFFL cFI cFL cIJ cLONG_S_T cOE cST aSUBSCRIPT_SMALL_LETTER_A dE dH dI dJ
     dK dL dM dN dO dP dR dS dSCHWA dT dU dV dX"),
    ("LEAF", "aFLUTTERING_IN_WIND"),
    ("LEAFY", "aGREEN"),
    ("LEFT", "aAND_LOWER_AND_RIGHT_TRIANGULAR_THREE_QUARTERS_BLOCK cONE_EIGHTH_BLOCK
     bRIGHT_DOUBLE_TURNSTILE cTACK cTRIANGULAR_HALF_BLOCK
     bUPPER_AND_RIGHT_TRIANGULAR_THREE_QUARTERS_BLOCK cONE_EIGHTH_BLOCK aANGER_BUBBLE
     aANGLE_BRACKET cWITH_DOT aARC_LESS-THAN_BRACKET aARROW_WITH_CIRCLED_PLUS cSMALL_CIRCLE
     aBARB_DOWN_RIGHT_BARB_DOWN_HARPOON eUP_HARPOON bUP_RIGHT_BARB_DOWN_HARPOON eUP_HARPOON
     aBLACK_LENTICULAR_BRACKET bTORTOISE_SHELL_BRACKET aCEILING aCLOSED_ENTRY aCORNER_BRACKET
     aCURLY_BRACKET cLOWER_HOOK cMIDDLE_PIECE cUPPER_HOOK aDOTTED_SUBSTITUTION_BRACKET
     aDOUBLE_ANGLE_BRACKET bPARENTHESIS bQUOTATION_MARK bWIGGLY_FENCE aFISH_TAIL
     aFIVE_EIGHTHS_BLOCK aFLOOR aHALF_BLACK_CIRCLE cSTAR bBLOCK bCIRCLE cWITH_DOT dFOUR_DOTS
     dTHREE_DOTS dTWO_DOTS bFOLDER bINVERSE_MEDIUM_SHADE_AND_RIGHT_HALF_BLOCK bMEDIUM_SHADE
     bRUNNING_MAN aHAND_TELEPHONE_RECEIVER aLOW_PARAPHRASE_BRACKET aLUGGAGE aMULTIMAP
     aNORMAL_FACTOR_SEMIDIRECT_PRODUCT aONE_EIGHTH_BLOCK bQUARTER_BLOCK aOUTER_JOIN aPARENTHESIS
     bEXTENSION bLOWER_HOOK bUPPER_HOOK aRAISED_OMISSION_BRACKET aRIGHT_ARROW
     cTHROUGH_SMALL_CIRCLE cWITH_DOUBLE_VERTICAL_STROKE dSTROKE dVERTICAL_STROKE bBLACK_ARROW
     bDOUBLE_ARROW dWITH_STROKE eVERTICAL_STROKE bOPEN-HEADED_ARROW bSANS-SERIF_ARROW
     bTRIANGLE-HEADED_ARROW bWAVE_ARROW bWHITE_ARROW aS-SHAPED_BAG_DELIMITER aSEMIDIRECT_PRODUCT
     aSEVEN_EIGHTHS_BLOCK aSIDEWAYS_U_BRACKET aSINGLE_QUOTATION_MARK aSPEECH_BUBBLE
     aSQUARE_BRACKET cEXTENSION cLOWER_CORNER cUPPER_CORNER cWITH_DOUBLE_STROKE dQUILL dSTROKE
     dTICK_IN_BOTTOM_CORNER fTOP_CORNER dUNDERBAR aSUBSTITUTION_BRACKET aTACK
     aTHIRD_WHITE_RIGHT_POINTING_INDEX aTHOUGHT_BUBBLE aTHREE_EIGHTHS_BLOCK bQUARTERS_BLOCK
     aTORTOISE_SHELL_BRACKET aTRANSPOSITION_BRACKET aTRIANGLE_BESIDE_VERTICAL_BAR
     aTRIANGULAR_ONE_QUARTER_BLOCK aVERTICAL_BAR_WITH_QUILL bBOX_LINE aWHITE_CORNER_BRACKET
     bCURLY_BRACKET bLENTICULAR_BRACKET bPARENTHESIS bSQUARE_BRACKET bTORTOISE_SHELL_BRACKET
     aWIGGLY_FENCE aWRITING_HAND"),
    ("LEFT-FACING", "aARMENIAN_ETERNITY_SIGN aFIST aSVASTI_SIGN cWITH_DOTS"),
    ("LEFT-HANDED", "aINTERLACED_PENTAGRAM"),
    ("LEFT-POINTING", "aANGLE_BRACKET aCURVED_ANGLE_BRACKET aDOUBLE_ANGLE_QUOTATION_MARK
     aMAGNIFYING_GLASS"),
    ("LEFT-SHADED", "aWHITE_RIGHTWARDS_ARROW"),
    ("LEFT-SIDE", "aARC_ANTICLOCKWISE_ARROW"),
    ("LEFT-TO-RIGHT", "aEMBEDDING aISOLATE aMARK aOVERRIDE"),
    ("LEFTWARDS", "aARROW bABOVE_ALMOST_EQUAL_TO cREVERSE_ALMOST_EQUAL_TO dTILDE_OPERATOR
     cSHORT_RIGHTWARDS_ARROW cTILDE_OPERATOR bAND_UPPER_AND_LOWER_ONE_EIGHTH_BLOCK bFROM_BAR
     dTO_BLACK_DIAMOND bOVER_RIGHTWARDS_ARROW bTHROUGH_LESS-THAN cSUBSET cX bTO_BAR
     dOVER_RIGHTWARDS_ARROW_TO_BAR cBLACK_DIAMOND bWITH_DOTTED_STEM cDOUBLE_VERTICAL_STROKE
     cEQUILATERAL_ARROWHEAD cHOOK cLARGE_TRIANGLE_ARROWHEAD cLOOP cMEDIUM_TRIANGLE_ARROWHEAD
     cNOTCHED_TAIL cPLUS_BELOW cSMALL_EQUILATERAL_ARROWHEAD dTRIANGLE_ARROWHEAD cSTROKE cTAIL
     dWITH_DOUBLE_VERTICAL_STROKE eVERTICAL_STROKE cTIP_DOWNWARDS dUPWARDS cVERTICAL_STROKE
     aARROW-TAIL aBACK-TILTED_SHADOWED_WHITE_ARROW aBLACK_ARROW bCIRCLED_WHITE_ARROW
     aBOTTOM-SHADED_WHITE_ARROW aCOMPRESSED_ARROW aDASHED_ARROW aDOUBLE_ARROW cFROM_BAR
     cWITH_STROKE dVERTICAL_STROKE bARROW-TAIL bDASH_ARROW aFINGER-POST_ARROW
     aFRONT-TILTED_SHADOWED_WHITE_ARROW aHAND aHARPOON_OVER_RIGHTWARDS_HARPOON
     bWITH_BARB_DOWN_ABOVE_RIGHTWARDS_HARPOON_WITH_BARB_DOWN eBELOW_LONG_DASH eFROM_BAR eTO_BAR
     dDOWNWARDS dUP_ABOVE_LEFTWARDS_HARPOON_WITH_BARB_DOWN fLONG_DASH
     fRIGHTWARDS_HARPOON_WITH_BARB_UP eFROM_BAR eTO_BAR dUPWARDS aHEAVY_ARROW bCOMPRESSED_ARROW
     aLEFT-SHADED_WHITE_ARROW aOPEN-HEADED_ARROW aPAIRED_ARROWS aQUADRUPLE_ARROW
     aRIGHT-SHADED_WHITE_ARROW aROCKET aSANS-SERIF_ARROW aSQUARED_ARROW aSQUIGGLE_ARROW
     aTOP_SHADED_WHITE_ARROW aTRIANGLE_ARROWHEAD aTRIANGLE-HEADED_ARROW
     cOVER_RIGHTWARDS_TRIANGLE-HEADED_ARROW cTO_BAR cWITH_BOLD_SHAFT dDOUBLE_HORIZONTAL_STROKE
     eVERTICAL_STROKE dHEAVY_SHAFT dLONG_TIP_DOWNWARDS fUPWARDS dMEDIUM_SHAFT dNARROW_SHAFT
     dVERY_HEAVY_SHAFT bDASHED_ARROW bPAIRED_ARROWS aTRIPLE_ARROW bDASH_ARROW aTWO_HEADED_ARROW
     aTWO-HEADED_ARROW_FROM_BAR cWITH_DOUBLE_VERTICAL_STROKE dTAIL eWITH_DOUBLE_VERTICAL_STROKE
     fVERTICAL_STROKE dTRIANGLE_ARROWHEADS dVERTICAL_STROKE bTRIPLE_DASH_ARROW aWAVE_ARROW
     aWHITE_ARROW cWITHIN_TRIANGLE_ARROWHEAD"),
    ("LEPCHA", "aCONSONANT_SIGN_K cKANG cL cM cN cNYIN-DO cP cR cT aDIGIT_EIGHT bFIVE bFOUR bNINE
     bONE bSEVEN bSIX bTHREE bTWO bZERO aLETTER_A bBA bBLA bCA bCHA bDA bDDA bDZA bFA bFLA bGA
     bGLA bHA bHLA bJA bKA bKHA bKLA bLA bMA bMLA bNA bNGA bNYA bPA bPHA bPLA bRA bSA bSHA bTA
     bTHA bTSA bTSHA bTTA bTTHA bVA bWA bYA aPUNCTUATION_CER-WA bNYET_THYOOM_TA-ROL bTA-ROL
     bTSHOOK cCER-WA aSIGN_NUKTA bRAN aSUBJOINED_LETTER_RA cYA aVOWEL_SIGN_AA cE cI cO cOO cU cUU"),
    ("LESS-THAN", "aABOVE_DOUBLE-LINE_EQUAL_ABOVE_GREATER-THAN
     bGREATER-THAN_ABOVE_DOUBLE-LINE_EQUAL bLEFTWARDS_ARROW bSIMILAR_ABOVE_GREATER-THAN cOR_EQUAL
     bSLANTED_EQUAL_ABOVE_GREATER-THAN_ABOVE_SLANTED_EQUAL aAND_NOT_APPROXIMATE
     bSINGLE-LINE_NOT_EQUAL_TO aBUT_NOT_EQUAL_TO cEQUIVALENT_TO aCLOSED_BY_CURVE
     dABOVE_SLANTED_EQUAL aEQUAL_TO_OR_GREATER-THAN aOR_APPROXIMATE bEQUAL_TO bEQUIVALENT_TO
     bGREATER-THAN bSLANTED_EQUAL_TO eWITH_DOT_ABOVE hRIGHT gINSIDE aOVER_EQUAL_TO aSIGN
     aWITH_CIRCLE_INSIDE bDOT bQUESTION_MARK_ABOVE"),
    ("LEVEL", "aSLIDER"),
    ("LIGATURE", "aOPEN_ET_ORNAMENT"),
    ("LIGHT", "aCHECK_MARK aEIGHT_SPOKED_ASTERISK aFIVE_POINTED_BLACK_STAR bSPOKED_ASTERISK
     aFOUR_POINTED_BLACK_CUSP dSTAR aGREEK_CROSS aLEFT_TORTOISE_SHELL_BRACKET_ORNAMENT aRAIL
     aRIGHT_TORTOISE_SHELL_BRACKET_ORNAMENT aSALTIRE aSHADE aSIX_SPOKED_ASTERISK
     aTHREE_POINTED_BLACK_STAR aTWELVE_POINTED_BLACK_STAR aVERTICAL_BAR aWHITE_SQUARE"),
    ("LIGHTNING", "a aMOOD bBUBBLE"),
    ("LIMBU", "aDIGIT_EIGHT bFIVE bFOUR bNINE bONE bSEVEN bSIX bTHREE bTWO bZERO
     aEXCLAMATION_MARK aLETTER_BA bBHA bCA bCHA bDA bDHA bGA bGHA bGYAN bHA bJA bJHA bKA bKHA bLA
     bMA bNA bNGA bPA bPHA bRA bSA bSHA bSSA bTA bTHA bTRA bWA bYA bYAN aQUESTION_MARK
     aSIGN_KEMPHRENG bLOO bMUKPHRENG bSA-I aSMALL_LETTER_ANUSVARA cKA cLA cMA cNA cNGA cPA cRA
     cTA aSUBJOINED_LETTER_RA cWA cYA aVOWEL_SIGN_A cAI cAU cE cEE cI cO cOO cU
     aVOWEL-CARRIER_LETTER"),
    ("LIMITED", "aLIABILITY_SIGN"),
    ("LINE", "aFEED aINTEGRATION_NOT_INCLUDING_THE_POLE bWITH_RECTANGULAR_PATH_AROUND_POLE
     cSEMICIRCULAR_PATH_AROUND_POLE aSEPARATOR aTABULATION bSET"),
    ("LINEAR", "aA_SIGN_A028B cA100-102 cA120B cA131C cA301 cA302 cA303 cA304 cA305 cA306 cA307
     cA308 cA309A cA309B cA309C cA310 cA311 cA312 cA313A cA313B cA313C cA314 cA315 cA316 cA317
     cA318 cA319 cA320 cA321 cA322 cA323 cA324 cA325 cA326 cA327 cA328 cA329 cA330 cA331 cA332
     cA333 cA334 cA335 cA336 cA337 cA338 cA339 cA340 cA341 cA342 cA343 cA344 cA345 cA346 cA347
     cA348 cA349 cA350 cA351 cA352 cA353 cA354 cA355 cA356 cA357 cA358 cA359 cA360 cA361 cA362
     cA363 cA364 cA365 cA366 cA367 cA368 cA369 cA370 cA371 cA400-VAS cA401-VAS cA402-VAS
     cA403-VAS cA404-VAS cA405-VAS cA406-VAS cA407-VAS cA408-VAS cA409-VAS cA410-VAS cA411-VAS
     cA412-VAS cA413-VAS cA414-VAS cA415-VAS cA416-VAS cA417-VAS cA418-VAS cA501 cA502 cA503
     cA504 cA505 cA506 cA508 cA509 cA510 cA511 cA512 cA513 cA515 cA516 cA520 cA521 cA523 cA524
     cA525 cA526 cA527 cA528 cA529 cA530 cA531 cA532 cA534 cA535 cA536 cA537 cA538 cA539 cA540
     cA541 cA542 cA545 cA547 cA548 cA549 cA550 cA551 cA552 cA553 cA554 cA555 cA556 cA557 cA559
     cA563 cA564 cA565 cA566 cA568 cA569 cA570 cA571 cA572 cA573 cA574 cA575 cA576 cA577 cA578
     cA579 cA580 cA581 cA582 cA583 cA584 cA585 cA586 cA587 cA588 cA589 cA591 cA592 cA594 cA595
     cA596 cA598 cA600 cA601 cA602 cA603 cA604 cA606 cA608 cA609 cA610 cA611 cA612 cA613 cA614
     cA615 cA616 cA617 cA618 cA619 cA620 cA621 cA622 cA623 cA624 cA626 cA627 cA628 cA629 cA634
     cA637 cA638 cA640 cA642 cA643 cA644 cA645 cA646 cA648 cA649 cA651 cA652 cA653 cA654 cA655
     cA656 cA657 cA658 cA659 cA660 cA661 cA662 cA663 cA664 cA701_A cA702_B cA703_D cA704_E
     cA705_F cA706_H cA707_J cA708_K cA709_L cA709-2_L2 cA709-3_L3 cA709-4_L4 cA709-6_L6 cA710_W
     cA711_X cA712_Y cA713_OMEGA cA714_ABB cA715_BB cA717_DD cA726_EYYY cA732_JE cA800 cA801
     cA802 cA803 cA804 cA805 cA806 cA807 cAB001 cAB002 cAB003 cAB004 cAB005 cAB006 cAB007 cAB008
     cAB009 cAB010 cAB011 cAB013 cAB016 cAB017 cAB020 cAB021 cAB021F cAB021M cAB022 cAB022F
     cAB022M cAB023 cAB023M cAB024 cAB026 cAB027 cAB028 cAB029 cAB030 cAB031 cAB034 cAB037 cAB038
     cAB039 cAB040 cAB041 cAB044 cAB045 cAB046 cAB047 cAB048 cAB049 cAB050 cAB051 cAB053 cAB054
     cAB055 cAB056 cAB057 cAB058 cAB059 cAB060 cAB061 cAB065 cAB066 cAB067 cAB069 cAB070 cAB073
     cAB074 cAB076 cAB077 cAB078 cAB079 cAB080 cAB081 cAB082 cAB085 cAB086 cAB087 cAB118 cAB120
     cAB122 cAB123 cAB131A cAB131B cAB164 cAB171 cAB180 cAB188 cAB191 aB_IDEOGRAM_B100_MAN
     cB102_WOMAN cB104_DEER cB105_EQUID cB105F_MARE cB105M_STALLION cB106F_EWE cB106M_RAM
     cB107F_SHE-GOAT cB107M_HE-GOAT cB108F_SOW cB108M_BOAR cB109F_COW cB109M_BULL cB120_WHEAT
     cB121_BARLEY cB122_OLIVE cB123_SPICE cB125_CYPERUS cB130_OIL cB131_WINE cB132 cB140_BRONZE
     cB141_GOLD cB142 cB145_WOOL cB146 cB150 cB151_HORN cB152 cB153 cB154 cB157 cB158 cB159_CLOTH
     cB160 cB161 cB162_GARMENT cB163_ARMOUR cB164 cB165 cB166 cB167 cB168 cB169 cB170 cB171 cB172
     cB173_MONTH cB174 cB176_TREE cB177 cB178 cB179 cB180 cB181 cB182 cB183 cB184 cB185 cB189
     cB190 cB191_HELMET cB220_FOOTSTOOL cB225_BATHTUB cB230_SPEAR cB231_ARROW cB232 cB233_SWORD
     cB234 cB236 cB240_WHEELED_CHARIOT cB241_CHARIOT cB242_CHARIOT_FRAME cB243_WHEEL cB245 cB246
     cB248 cB249 cB251 cB252 cB253 cB254_DART cB255 cB256 cB257 cB258 cB259 cVESSEL_B155 dB200
     dB201 dB202 dB203 dB204 dB205 dB206 dB207 dB208 dB209 dB210 dB211 dB212 dB213 dB214 dB215
     dB216 dB217 dB218 dB219 dB221 dB222 dB226 dB227 dB228 dB229 dB250 dB305 bMONOGRAM_B127_KAPO
     cB128_KANAKO cB133_AREPA cB135_MERI cB156_TURO2 cB247_DIPTE bSYLLABLE_B001_DA cB002_RO
     cB003_PA cB004_TE cB005_TO cB006_NA cB007_DI cB008_A cB009_SE cB010_U cB011_PO cB012_SO
     cB013_ME cB014_DO cB015_MO cB016_QA cB017_ZA cB020_ZO cB021_QI cB023_MU cB024_NE cB025_A2
     cB026_RU cB027_RE cB028_I cB029_PU2 cB030_NI cB031_SA cB032_QO cB033_RA3 cB036_JO cB037_TI
     cB038_E cB039_PI cB040_WI cB041_SI cB042_WO cB043_A3 cB044_KE cB045_DE cB046_JE cB048_NWA
     cB050_PU cB051_DU cB052_NO cB053_RI cB054_WA cB055_NU cB057_JA cB058_SU cB059_TA cB060_RA
     cB061_O cB062_PTE cB065_JU cB066_TA2 cB067_KI cB068_RO2 cB069_TU cB070_KO cB071_DWE cB072_PE
     cB073_MI cB074_ZE cB075_WE cB076_RA2 cB077_KA cB078_QE cB080_MA cB081_KU cB085_AU cB087_TWE
     cB090_DWO cB091_TWO bSYMBOL_B018 cB019 cB022 cB034 cB047 cB049 cB056 cB063 cB064 cB079 cB082
     cB083 cB086 cB089"),
    ("LINK", "aSYMBOL"),
    ("LINKED", "aPAPERCLIPS"),
    ("LION", "aFACE"),
    ("LIRA", "aSIGN"),
    ("LISU", "aLETTER_A bAE bBA bCA bCHA bDA bDZA bE bEU bFA bGA bGHA bHA bHHA bI bJA bKA bKHA
     bLA bMA bNA bNGA bO bOE bPA bPHA bSA bSHA bTA bTHA bTONE_MYA_BO dCYA dJEU dNA dTI cNA_PO
     bTSA bTSHA bU bUE bUH bWA bXA bYA bYHA bZA bZHA aPUNCTUATION_COMMA bFULL_STOP"),
    ("LIVRE", "aTOURNOIS_SIGN"),
    ("LOCK", "a aWITH_INK_PEN"),
    ("LOCKING-SHIFT", "aONE aZERO"),
    ("LOGICAL", "aAND bWITH_DOT_ABOVE cDOUBLE_OVERBAR dUNDERBAR cHORIZONTAL_DASH cMIDDLE_STEM
     cUNDERBAR aOR bOVERLAPPING_LOGICAL_AND bWITH_DOT_ABOVE cDOUBLE_OVERBAR dUNDERBAR
     cHORIZONTAL_DASH cMIDDLE_STEM"),
    ("LONG", "aDASH_FROM_LEFT_MEMBER_OF_DOUBLE_VERTICAL aDIVISION aDRUM aLEFT_RIGHT_ARROW
     cDOUBLE_ARROW bTACK aLEFTWARDS_ARROW cFROM_BAR bDOUBLE_ARROW dFROM_BAR bSQUIGGLE_ARROW
     aRIGHT_TACK aRIGHTWARDS_ARROW cFROM_BAR bDOUBLE_ARROW dFROM_BAR bSQUIGGLE_ARROW"),
    ("LOTION", "aBOTTLE"),
    ("LOUDLY", "aCRYING_FACE"),
    ("LOVE", "aHOTEL aLETTER"),
    ("LOW", "aASTERISK aBATTERY aBRIGHTNESS_SYMBOL aDOUBLE_PRIME_QUOTATION_MARK aKAVYKA bWITH_DOT
     aLINE"),
    ("LOWER", "aBLADE_SCISSORS aFIVE_EIGHTHS_BLOCK aHALF_BLOCK bCIRCLE bINVERSE_WHITE_CIRCLE
     bMEDIUM_SHADE aLEFT_BALLPOINT_PEN bBLOCK_DIAGONAL_LOWER_MIDDLE_LEFT_TO_LOWER_CENTRE iRIGHT
     dUPPER_CENTRE_TO_LOWER_MIDDLE_RIGHT hRIGHT gUPPER_MIDDLE_RIGHT eLEFT_TO_LOWER_CENTRE
     hMIDDLE_RIGHT gUPPER_MIDDLE_RIGHT eMIDDLE_LEFT_TO_LOWER_CENTRE iMIDDLE_RIGHT iRIGHT bCRAYON
     bFOUNTAIN_PEN bPAINTBRUSH bPENCIL bQUADRANT_CIRCULAR_ARC bSEMICIRCULAR_ANTICLOCKWISE_ARROW
     bTRIANGLE bTRIANGULAR_MEDIUM_SHADE aONE_EIGHTH_BLOCK bQUARTER_BLOCK
     aRIGHT_BLOCK_DIAGONAL_LOWER_CENTRE_TO_LOWER_MIDDLE_RIGHT gUPPER_MIDDLE_RIGHT hRIGHT
     eLEFT_TO_LOWER_MIDDLE_RIGHT gUPPER_CENTRE hMIDDLE_RIGHT eMIDDLE_LEFT_TO_UPPER_CENTRE
     iMIDDLE_RIGHT iRIGHT dUPPER_MIDDLE_LEFT_TO_UPPER_CENTRE iRIGHT bCORNER_WITH_DOT
     bDROP-SHADOWED_WHITE_SQUARE bPENCIL bQUADRANT_CIRCULAR_ARC bSEMICIRCULAR_CLOCKWISE_ARROW
     bSHADOWED_WHITE_CIRCLE dSQUARE bTRIANGLE bTRIANGULAR_MEDIUM_SHADE aSEVEN_EIGHTHS_BLOCK
     aTHREE_EIGHTHS_BLOCK bQUARTERS_BLOCK aTRIANGULAR_ONE_QUARTER_BLOCK"),
    ("LOZENGE", "a aDIVIDED_BY_HORIZONTAL_RULE"),
    ("LYCIAN", "aLETTER_A bAN bB bBH bD bE bEN bG bH bI bJ bK bKK bL bM bMM bN bNN bP bQ bR bS bT
     bTH bTT bU bW bX bZ"),
    ("LYDIAN", "aLETTER_A bAN bB bC bD bE bEN bF bG bI bK bL bLY bM bN bNN bO bQ bR bS bSS bT bTT
     bU bV bY aTRIANGULAR_MARK"),
    ("LYING", "aFACE"),
    ("MAGIC", "aWAND"),
    ("MAHAJANI", "aABBREVIATION_SIGN aLETTER_A bBA bBHA bCA bCHA bDA bDDA bDDHA bDHA bE bGA bGHA
     bHA bI bJA bJHA bKA bKHA bLA bMA bNA bNNA bNYA bO bPA bPHA bRA bRRA bSA bTA bTHA bTTA bTTHA
     bU bVA aLIGATURE_SHRI aSECTION_MARK aSIGN_NUKTA"),
    ("MAHJONG", "aTILE_AUTUMN bBACK bBAMBOO bCHRYSANTHEMUM bEAST_WIND bEIGHT_OF_BAMBOOS
     dCHARACTERS dCIRCLES bFIVE_OF_BAMBOOS dCHARACTERS dCIRCLES bFOUR_OF_BAMBOOS dCHARACTERS
     dCIRCLES bGREEN_DRAGON bJOKER bNINE_OF_BAMBOOS dCHARACTERS dCIRCLES bNORTH_WIND
     bONE_OF_BAMBOOS dCHARACTERS dCIRCLES bORCHID bPLUM bRED_DRAGON bSEVEN_OF_BAMBOOS dCHARACTERS
     dCIRCLES bSIX_OF_BAMBOOS dCHARACTERS dCIRCLES bSOUTH_WIND bSPRING bSUMMER bTHREE_OF_BAMBOOS
     dCHARACTERS dCIRCLES bTWO_OF_BAMBOOS dCHARACTERS dCIRCLES bWEST_WIND bWHITE_DRAGON bWINTER"),
    ("MAKASAR", "aANGKA aEND_OF_SECTION aLETTER_A bBA bCA bDA bGA bJA bKA bLA bMA bNA bNGA bNYA
     bPA bRA bSA bTA bVA bYA aPASSIMBANG aVOWEL_SIGN_E cI cO cU"),
    ("MALAYALAM", "aAU_LENGTH_MARK aDATE_MARK aDIGIT_EIGHT bFIVE bFOUR bNINE bONE bSEVEN bSIX
     bTHREE bTWO bZERO aFRACTION_ONE_EIGHTH cFIFTH cFORTIETH cHALF cONE-HUNDRED-AND-SIXTIETH
     cQUARTER cSIXTEENTH cTENTH cTWENTIETH bTHREE_EIGHTIETHS cQUARTERS cSIXTEENTHS cTWENTIETHS
     aLETTER_A bAA bAI bARCHAIC_II bAU bBA bBHA bCA bCHA bCHILLU_K cL cLL cLLL cM cN cNN cRR cY
     bDA bDDA bDDHA bDHA bDOT_REPH bE bEE bGA bGHA bHA bI bII bJA bJHA bKA bKHA bLA bLLA bLLLA
     bMA bNA bNGA bNNA bNNNA bNYA bO bOO bPA bPHA bRA bRRA bSA bSHA bSSA bTA bTHA bTTA bTTHA
     bTTTA bU bUU bVA bVEDIC_ANUSVARA bVOCALIC_L cLL cR cRR bYA aNUMBER_ONE_HUNDRED cTHOUSAND
     bTEN aSIGN_ANUSVARA bAVAGRAHA bCANDRABINDU bCIRCULAR_VIRAMA bCOMBINING_ANUSVARA_ABOVE bPARA
     bVERTICAL_BAR_VIRAMA bVIRAMA bVISARGA aVOWEL_SIGN_AA cAI cAU cE cEE cI cII cO cOO cU cUU
     cVOCALIC_L dLL dR dRR"),
    ("MALE", "aAND_FEMALE_SIGN aSIGN aWITH_STROKE_AND_MALE_AND_FEMALE_SIGN cSIGN"),
    ("MALTESE", "aCROSS"),
    ("MAN", "a aAND_WOMAN_HOLDING_HANDS aDANCING aIN_BUSINESS_SUIT_LEVITATING bTUXEDO
     aWITH_GUA_PI_MAO bTURBAN"),
    ("MANAT", "aSIGN"),
    ("MANDAIC", "aAFFRICATION_MARK aGEMINATION_MARK aLETTER_AB bAD bAG bAH bAIN bAK bAKSA bAL bAM
     bAN bAP bAQ bAR bAS bASH bASZ bAT bATT bAZ bDUSHENNA bHALQA bIN bIT bKAD bUSHENNA
     aPUNCTUATION aVOCALIZATION_MARK"),
    ("MANICHAEAN", "aABBREVIATION_MARK_ABOVE cBELOW aLETTER_AAYIN bALEPH bAYIN bBETH bBHETH
     bDALETH bDHAMEDH bFE bGHIMEL bGIMEL bHE bHETH bJAYIN bJHAYIN bKAPH bKHAPH bLAMEDH bMEM bNUN
     bPE bQHOPH bQOPH bRESH bSADHE bSAMEKH bSHIN bSSHIN bTAW bTETH bTHAMEDH bWAW bXAPH bXOPH
     bYODH bZAYIN bZHAYIN aNUMBER_FIVE bONE cHUNDRED bTEN bTWENTY aPUNCTUATION_DOT cWITHIN_DOT
     bDOUBLE_DOT_WITHIN_DOT bFLEURON bLINE_FILLER bSTAR bTWO_DOTS aSIGN_UD"),
    ("MANS", "aSHOE"),
    ("MANTELPIECE", "aCLOCK"),
    ("MANUAL", "aWHEELCHAIR"),
    ("MAP", "aSYMBOL_FOR_LIGHTHOUSE"),
    ("MAPLE", "aLEAF"),
    ("MARCHEN", "aHEAD_MARK aLETTER_-A bA bBA bCA bCHA bDA bDZA bGA bHA bJA bKA bKHA bLA bMA bNA
     bNGA bNYA bPA bPHA bRA bSA bSHA bTA bTHA bTSA bTSHA bWA bYA bZA bZHA aMARK_SHAD
     aSIGN_ANUSVARA bCANDRABINDU aSUBJOINED_LETTER_A cBA cCA cCHA cDA cDZA cGA cHA cJA cKA cKHA
     cLA cMA cNA cNGA cNYA cPA cPHA cRA cSA cSHA cTA cTHA cTSA cTSHA cWA cYA cZA cZHA
     aVOWEL_SIGN_AA cE cI cO cU"),
    ("MARRIAGE", "aSYMBOL"),
    ("MARTIAL", "aARTS_UNIFORM"),
    ("MASARAM", "aGONDI_DIGIT_EIGHT cFIVE cFOUR cNINE cONE cSEVEN cSIX cTHREE cTWO cZERO
     bLETTER_A cAA cAI cAU cBA cBHA cCA cCHA cDA cDDA cDDHA cDHA cE cGA cGHA cHA cI cII cJA cJHA
     cJNYA cKA cKHA cKSSA cLA cLLA cMA cNA cNGA cNNA cNYA cO cPA cPHA cRA cSA cSHA cSSA cTA cTHA
     cTRA cTTA cTTHA cU cUU cVA cYA bRA-KARA bREPHA bSIGN_ANUSVARA cCANDRA cHALANTA cNUKTA
     cVISARGA bVIRAMA bVOWEL_SIGN_AA dAI dAU dE dI dII dO dU dUU dVOCALIC_R"),
    ("MASCULINE", "aORDINAL_INDICATOR"),
    ("MASK", "aWORK_SYMBOL"),
    ("MASU", "aMARK"),
    ("MATE", "aDRINK"),
    ("MATHEMATICAL", "aBOLD_CAPITAL_A cALPHA cB cBETA cC cCHI cD cDELTA cDIGAMMA cE cEPSILON cETA
     cF cG cGAMMA cH cI cIOTA cJ cK cKAPPA cL cLAMDA cM cMU cN cNU cO cOMEGA cOMICRON cP cPHI cPI
     cPSI cQ cR cRHO cS cSIGMA cT cTAU cTHETA dSYMBOL cU cUPSILON cV cW cX cXI cY cZ cZETA
     bDIGIT_EIGHT cFIVE cFOUR cNINE cONE cSEVEN cSIX cTHREE cTWO cZERO bEPSILON_SYMBOL
     bFRAKTUR_CAPITAL_A dB dC dD dE dF dG dH dI dJ dK dL dM dN dO dP dQ dR dS dT dU dV dW dX dY
     dZ cSMALL_A dB dC dD dE dF dG dH dI dJ dK dL dM dN dO dP dQ dR dS dT dU dV dW dX dY dZ
     bITALIC_CAPITAL_A dALPHA dB dBETA dC dCHI dD dDELTA dE dEPSILON dETA dF dG dGAMMA dH dI
     dIOTA dJ dK dKAPPA dL dLAMDA dM dMU dN dNU dO dOMEGA dOMICRON dP dPHI dPI dPSI dQ dR dRHO dS
     dSIGMA dT dTAU dTHETA eSYMBOL dU dUPSILON dV dW dX dXI dY dZ dZETA cEPSILON_SYMBOL
     cKAPPA_SYMBOL cNABLA cPARTIAL_DIFFERENTIAL cPHI_SYMBOL cPI_SYMBOL cRHO_SYMBOL cSMALL_A
     dALPHA dB dBETA dC dCHI dD dDELTA dE dEPSILON dETA dF dFINAL_SIGMA dG dGAMMA dH dI dIOTA dJ
     dK dKAPPA dL dLAMDA dM dMU dN dNU dO dOMEGA dOMICRON dP dPHI dPI dPSI dQ dR dRHO dS dSIGMA
     dT dTAU dTHETA dU dUPSILON dV dW dX dXI dY dZ dZETA cTHETA_SYMBOL bKAPPA_SYMBOL bNABLA
     bPARTIAL_DIFFERENTIAL bPHI_SYMBOL bPI_SYMBOL bRHO_SYMBOL bSCRIPT_CAPITAL_A dB dC dD dE dF dG
     dH dI dJ dK dL dM dN dO dP dQ dR dS dT dU dV dW dX dY dZ cSMALL_A dB dC dD dE dF dG dH dI dJ
     dK dL dM dN dO dP dQ dR dS dT dU dV dW dX dY dZ bSMALL_A cALPHA cB cBETA cC cCHI cD cDELTA
     cDIGAMMA cE cEPSILON cETA cF cFINAL_SIGMA cG cGAMMA cH cI cIOTA cJ cK cKAPPA cL cLAMDA cM
     cMU cN cNU cO cOMEGA cOMICRON cP cPHI cPI cPSI cQ cR cRHO cS cSIGMA cT cTAU cTHETA cU
     cUPSILON cV cW cX cXI cY cZ cZETA bTHETA_SYMBOL aDOUBLE-STRUCK_CAPITAL_A cB cD cE cF cG cI
     cJ cK cL cM cO cS cT cU cV cW cX cY bDIGIT_EIGHT cFIVE cFOUR cNINE cONE cSEVEN cSIX cTHREE
     cTWO cZERO bSMALL_A cB cC cD cE cF cG cH cI cJ cK cL cM cN cO cP cQ cR cS cT cU cV cW cX cY
     cZ aFALLING_DIAGONAL aFRAKTUR_CAPITAL_A cB cD cE cF cG cJ cK cL cM cN cO cP cQ cS cT cU cV
     cW cX cY bSMALL_A cB cC cD cE cF cG cH cI cJ cK cL cM cN cO cP cQ cR cS cT cU cV cW cX cY cZ
     aITALIC_CAPITAL_A cALPHA cB cBETA cC cCHI cD cDELTA cE cEPSILON cETA cF cG cGAMMA cH cI
     cIOTA cJ cK cKAPPA cL cLAMDA cM cMU cN cNU cO cOMEGA cOMICRON cP cPHI cPI cPSI cQ cR cRHO cS
     cSIGMA cT cTAU cTHETA dSYMBOL cU cUPSILON cV cW cX cXI cY cZ cZETA bEPSILON_SYMBOL
     bKAPPA_SYMBOL bNABLA bPARTIAL_DIFFERENTIAL bPHI_SYMBOL bPI_SYMBOL bRHO_SYMBOL bSMALL_A
     cALPHA cB cBETA cC cCHI cD cDELTA cDOTLESS_I dJ cE cEPSILON cETA cF cFINAL_SIGMA cG cGAMMA
     cI cIOTA cJ cK cKAPPA cL cLAMDA cM cMU cN cNU cO cOMEGA cOMICRON cP cPHI cPI cPSI cQ cR cRHO
     cS cSIGMA cT cTAU cTHETA cU cUPSILON cV cW cX cXI cY cZ cZETA bTHETA_SYMBOL
     aLEFT_ANGLE_BRACKET bDOUBLE_ANGLE_BRACKET bFLATTENED_PARENTHESIS bWHITE_SQUARE_BRACKET
     cTORTOISE_SHELL_BRACKET aMONOSPACE_CAPITAL_A cB cC cD cE cF cG cH cI cJ cK cL cM cN cO cP cQ
     cR cS cT cU cV cW cX cY cZ bDIGIT_EIGHT cFIVE cFOUR cNINE cONE cSEVEN cSIX cTHREE cTWO cZERO
     bSMALL_A cB cC cD cE cF cG cH cI cJ cK cL cM cN cO cP cQ cR cS cT cU cV cW cX cY cZ
     aRIGHT_ANGLE_BRACKET bDOUBLE_ANGLE_BRACKET bFLATTENED_PARENTHESIS bWHITE_SQUARE_BRACKET
     cTORTOISE_SHELL_BRACKET aRISING_DIAGONAL aSANS-SERIF_BOLD_CAPITAL_A dALPHA dB dBETA dC dCHI
     dD dDELTA dE dEPSILON dETA dF dG dGAMMA dH dI dIOTA dJ dK dKAPPA dL dLAMDA dM dMU dN dNU dO
     dOMEGA dOMICRON dP dPHI dPI dPSI dQ dR dRHO dS dSIGMA dT dTAU dTHETA eSYMBOL dU dUPSILON dV
     dW dX dXI dY dZ dZETA cDIGIT_EIGHT dFIVE dFOUR dNINE dONE dSEVEN dSIX dTHREE dTWO dZERO
     cEPSILON_SYMBOL cITALIC_CAPITAL_A eALPHA eB eBETA eC eCHI eD eDELTA eE eEPSILON eETA eF eG
     eGAMMA eH eI eIOTA eJ eK eKAPPA eL eLAMDA eM eMU eN eNU eO eOMEGA eOMICRON eP ePHI ePI ePSI
     eQ eR eRHO eS eSIGMA eT eTAU eTHETA fSYMBOL eU eUPSILON eV eW eX eXI eY eZ eZETA
     dEPSILON_SYMBOL dKAPPA_SYMBOL dNABLA dPARTIAL_DIFFERENTIAL dPHI_SYMBOL dPI_SYMBOL
     dRHO_SYMBOL dSMALL_A eALPHA eB eBETA eC eCHI eD eDELTA eE eEPSILON eETA eF eFINAL_SIGMA eG
     eGAMMA eH eI eIOTA eJ eK eKAPPA eL eLAMDA eM eMU eN eNU eO eOMEGA eOMICRON eP ePHI ePI ePSI
     eQ eR eRHO eS eSIGMA eT eTAU eTHETA eU eUPSILON eV eW eX eXI eY eZ eZETA dTHETA_SYMBOL
     cKAPPA_SYMBOL cNABLA cPARTIAL_DIFFERENTIAL cPHI_SYMBOL cPI_SYMBOL cRHO_SYMBOL cSMALL_A
     dALPHA dB dBETA dC dCHI dD dDELTA dE dEPSILON dETA dF dFINAL_SIGMA dG dGAMMA dH dI dIOTA dJ
     dK dKAPPA dL dLAMDA dM dMU dN dNU dO dOMEGA dOMICRON dP dPHI dPI dPSI dQ dR dRHO dS dSIGMA
     dT dTAU dTHETA dU dUPSILON dV dW dX dXI dY dZ dZETA cTHETA_SYMBOL bCAPITAL_A cB cC cD cE cF
     cG cH cI cJ cK cL cM cN cO cP cQ cR cS cT cU cV cW cX cY cZ bDIGIT_EIGHT cFIVE cFOUR cNINE
     cONE cSEVEN cSIX cTHREE cTWO cZERO bITALIC_CAPITAL_A dB dC dD dE dF dG dH dI dJ dK dL dM dN
     dO dP dQ dR dS dT dU dV dW dX dY dZ cSMALL_A dB dC dD dE dF dG dH dI dJ dK dL dM dN dO dP dQ
     dR dS dT dU dV dW dX dY dZ bSMALL_A cB cC cD cE cF cG cH cI cJ cK cL cM cN cO cP cQ cR cS cT
     cU cV cW cX cY cZ aSCRIPT_CAPITAL_A cC cD cG cJ cK cN cO cP cQ cS cT cU cV cW cX cY cZ
     bSMALL_A cB cC cD cF cH cI cJ cK cL cM cN cP cQ cR cS cT cU cV cW cX cY cZ"),
    ("MAYAN", "aNUMERAL_EIGHT bEIGHTEEN bELEVEN bFIFTEEN bFIVE bFOUR bFOURTEEN bNINE bNINETEEN
     bONE bSEVEN bSEVENTEEN bSIX bSIXTEEN bTEN bTHIRTEEN bTHREE bTWELVE bTWO bZERO"),
    ("MEASURED", "aANGLE bOPENING_LEFT bWITH_OPEN_ARM_ENDING_IN_ARROW_POINTING_DOWN_AND_LEFT
     kRIGHT iLEFT_AND_DOWN kUP iRIGHT_AND_DOWN kUP iUP_AND_LEFT kRIGHT aBY aRIGHT_ANGLE_WITH_DOT"),
    ("MEAT", "aON_BONE"),
    ("MECHANICAL", "aARM aLEG"),
    ("MEDEFAIDRIN", "aCAPITAL_LETTER_A cAI cATIU cB cC cD cE cF cG cH cHP cI cJ cK cKP cL cM cN
     cNG cNY cO cOE cP cQ cR cS cT cU cV cW cX cY cYU cZ aCOMMA aDIGIT_EIGHT bFIVE bFOUR bNINE
     bONE cALTERNATE_FORM bSEVEN bSIX bTHREE cALTERNATE_FORM bTWO cALTERNATE_FORM bZERO
     aEXCLAMATION_OH aFULL_STOP aNUMBER_EIGHTEEN bELEVEN bFIFTEEN bFOURTEEN bNINETEEN bSEVENTEEN
     bSIXTEEN bTEN bTHIRTEEN bTWELVE aSMALL_LETTER_A cAI cATIU cB cC cD cE cF cG cH cHP cI cJ cK
     cKP cL cM cN cNG cNY cO cOE cP cQ cR cS cT cU cV cW cX cY cYU cZ aSYMBOL_AIVA"),
    ("MEDIEVAL", "aCOMMA aEXCLAMATION_MARK aQUESTION_MARK"),
    ("MEDIUM", "aBLACK_CIRCLE aBOLD_WHITE_CIRCLE aEIGHT_POINTED_BLACK_STAR bSPOKED_ASTERISK
     aFIVE_SPOKED_ASTERISK aFLATTENED_LEFT_PARENTHESIS_ORNAMENT bRIGHT_PARENTHESIS_ORNAMENT
     aFOUR_POINTED_BLACK_STAR cPINWHEEL_STAR aGREEK_CROSS aLEFT_CURLY_BRACKET_ORNAMENT
     bPARENTHESIS_ORNAMENT aLEFT-POINTING_ANGLE_BRACKET_ORNAMENT aMATHEMATICAL_SPACE
     aRIGHT_CURLY_BRACKET_ORNAMENT bPARENTHESIS_ORNAMENT aRIGHT-POINTING_ANGLE_BRACKET_ORNAMENT
     aSALTIRE aSHADE aSIX_POINTED_BLACK_STAR bSPOKED_ASTERISK aSMALL_WHITE_CIRCLE
     aTHREE_POINTED_BLACK_STAR cPINWHEEL_STAR aVERTICAL_BAR aWHITE_CIRCLE bSQUARE"),
    ("MEETEI", "aMAYEK_AHANG_KHUDAM bANJI bAPUN_IYEK bCHEIKHAN bCHEIKHEI bDIGIT_EIGHT cFIVE cFOUR
     cNINE cONE cSEVEN cSIX cTHREE cTWO cZERO bLETTER_ATIYA cBA cBHAM cCHA cCHIL cDDA cDDHA cDHOU
     cDIL cE cGHOU cGOK cHUK cI dLONSUM cJHAM cJIL cKHOU cKOK dLONSUM cLAI dLONSUM cMIT dLONSUM
     cNA dLONSUM cNGOU dLONSUM cNNA cNYA cO cPA dLONSUM cPHAM cRAI cSAM cSHA cSSA cTHOU cTIL
     dLONSUM cTTA cTTHA cUN cWAI cYANG bLUM_IYEK bSYLLABLE_REPETITION_MARK bVIRAMA
     bVOWEL_SIGN_AAI dAAU dANAP dAU dCHEINAP dII dINAP dNUNG dONAP dSOUNAP dUNAP dUU dVISARGA
     dYENAP bWORD_REPETITION_MARK"),
    ("MELTING", "aFACE"),
    ("MENDE", "aKIKAKUI_COMBINING_NUMBER_HUNDRED_THOUSANDS dHUNDREDS dMILLIONS dTEENS
     dTEN_THOUSANDS dTENS dTHOUSANDS bDIGIT_EIGHT cFIVE cFOUR cNINE cONE cSEVEN cSIX cTHREE cTWO
     bSYLLABLE_M001_KI cM002_KA cM003_KU cM004_WI cM005_WA cM006_WU cM007_MIN cM008_MAN cM009_MUN
     cM010_BI cM011_BA cM012_BU cM013_I cM014_A cM015_U cM016_DI cM017_DA cM018_DU cM019_SI
     cM020_SA cM021_SU cM022_TI cM023_TA cM024_TU cM025_LI cM026_LA cM027_LU cM028_JI cM029_JA
     cM030_JU cM031_YI cM032_YA cM033_YU cM034_FI cM035_FA cM036_FU cM037_NIN cM038_NAN cM039_NUN
     cM040_HEE cM041_HA cM042_HOO cM043_NGGA cM044_KPEE cM045_WO cM046_HUAN cM047_MBEE cM048_KO
     cM049_WVA cM050_PU cM051_PE cM052_HEN cM053_HIN cM054_LOO cM055_TE cM056_GBA cM057_NGON
     cM058_NYAN cM059_MEN cM060_NYON cM061_WVI cM062_MBA cM063_JO cM064_NDO cM065_KEE cM066_PO
     cM067_NDOO cM068_PI cM069_TO cM070_GBO cM071_GBOO cM072_MBE cM073_LE cM074_KPU cM075_FE
     cM076_KOO cM077_VO cM078_FEE cM079_SO cM080_YE cM081_PEE cM082_NGGU cM083_HEEI cM084_LEE
     cM085_VE cM086_LONG_NGGE cM087_HUN cM088_FO cM089_DEE cM090_NGGI cM091_TEE cM092_KPA
     cM093_GBEE cM094_MON cM095_KE cM096_HE cM097_BE cM098_NYEN cM099_PA cM100_E cM101_FAN
     cM102_POO cM103_BOO cM104_TOO cM105_LONG_MBOO cM106_LONG_NGGOO cM107_GBE cM108_KPE cM109_YEE
     cM110_LONG_LE cM111_GA cM112_KPOO cM113_JE cM114_WOO cM115_NGGEE cM116_SE cM117_NEN cM118_WE
     cM119_NDE cM120_NGGO cM121_YO cM122_MBU cM123_NDI cM124_GBI cM125_NDU cM126_WEE cM127_NGGUA
     cM128_HOOU cM129_NDA cM130_HAN cM131_IN cM132_KPI cM133_FOO cM134_NJOO cM135_IN cM136_SOO
     cM137_EI cM138_BO cM139_WVE cM140_HO cM141_YOO cM142_LONG_MBO cM143_WEI cM144_VOO cM145_MBI
     cM146_NGGE cM147_O cM148_GBU cM149_NJEE cM150_BEE cM151_VU cM152_NJA cM153_LO cM154_MUAN
     cM155_GI cM156_NGGOO cM157_JEE cM158_KPO cM159_NGGAA cM160_JOO cM161_LONG_MBE cM162_SEE
     cM163_EE cM164_NYIN cM165_OO cM166_GUEI cM167_GUAN cM168_GU cM169_NON cM170_NYUN cM171_RA
     cM172_MBOO cM173_VEE cM174_MBO cM175_LONG_JO cM176_HI cM177_NGUAN cM178_EN cM179_KUA
     cM180_DOO cM181_DO cM182_VI cM183_LONG_NGGO cM184_NGEN cM185_VA cM186_HU cM187_MBUU
     cM188_MBEE cM189_MUEN cM190_GEE cM191_NDEE cM192_NJU cM193_HON cM194_WUI cM195_AN cM196_SIA
     cM197_FUA"),
    ("MENORAH", "aWITH_NINE_BRANCHES"),
    ("MENS", "aSYMBOL"),
    ("MEROITIC", "aCURSIVE_FRACTION_EIGHT_TWELFTHS cELEVEN_TWELFTHS cFIVE_TWELFTHS cFOUR_TWELFTHS
     cNINE_TWELFTHS cONE_HALF dTWELFTH cSEVEN_TWELFTHS cSIX_TWELFTHS cTEN_TWELFTHS
     cTHREE_TWELFTHS cTWO_TWELFTHS bLETTER_A cARCHAIC_SA cBA cDA cE cHHA cI cKA cKHA cLA cMA cNA
     cNE cO cPA cQA cRA cSA cSE cTA cTE cTO cWA cYA bLOGOGRAM_IMN cRMT bNUMBER_EIGHT dHUNDRED
     eTHOUSAND dTHOUSAND cEIGHTY_THOUSAND cFIFTY dTHOUSAND cFIVE dHUNDRED eTHOUSAND dTHOUSAND
     cFORTY dTHOUSAND cFOUR dHUNDRED eTHOUSAND dTHOUSAND cNINE dHUNDRED eTHOUSAND dTHOUSAND
     cNINETY_THOUSAND cONE dHUNDRED eTHOUSAND dTHOUSAND cSEVEN dHUNDRED eTHOUSAND dTHOUSAND
     cSEVENTY dTHOUSAND cSIX dHUNDRED eTHOUSAND dTHOUSAND cSIXTY dTHOUSAND cTEN dTHOUSAND cTHIRTY
     dTHOUSAND cTHREE dHUNDRED eTHOUSAND dTHOUSAND cTWENTY dTHOUSAND cTWO dHUNDRED eTHOUSAND
     dTHOUSAND aHIEROGLYPHIC_LETTER_A cBA cBA-2 cDA cE cHHA cI cKA cKHA cLA cMA cNA cNA-2 cNE
     cNE-2 cO cPA cQA cRA cRA-2 cSA cSA-2 cSE cTA cTA-2 cTE cTE-2 cTO cWA cYA bSYMBOL_VIDJ
     cVIDJ-2"),
    ("MESSAGE", "aWAITING"),
    ("METRICAL", "aBREVE aLONG_OVER_SHORT cTWO_SHORTS aPENTASEME aSHORT_OVER_LONG aTETRASEME
     aTRISEME aTWO_SHORTS_JOINED cOVER_LONG"),
    ("MIAO", "aLETTER_AH bARCHAIC_MA cNA cNGA cZZA bBA bBRI bDA bDDA bDLHA bDLHYA bDZA bDZHA
     bDZYI bDZZA bFA bGA bGHA bGHHA bHA bHHA bKA bLA bLHA bLHYA bLYA bMA bMHA bNA bNASALIZATION
     bNGA bNGHA bNHA bNNA bNNHA bNYA bNYHA bPA bPLA bQA bQGA bREFORMED_TONE-1 cTONE-2 cTONE-4
     cTONE-5 cTONE-6 cTONE-8 cTSHA bRTE bSA bSHA bSSA bSYI bTA bTE bTLHA bTLHYA bTONE-2 bTONE-3
     bTONE-4 bTONE-5 bTONE-6 bTONE-7 bTONE-8 bTSA bTSE bTSHA bTSSA bTTA bVA bVFA bWA bXA bYI_DZHA
     cKA cNNA cPA cTA cTSA cTSHA cTTA bZA bZHA bZSA bZSHA bZZA bZZSA bZZSYA bZZYA
     aSIGN_ASPIRATION bCONSONANT_MODIFIER_BAR bREFORMED_ASPIRATION cVOICING aTONE_ABOVE bBELOW
     bRIGHT bTOP_RIGHT aVOWEL_SIGN_A cAA cAE cAEE cAHH cAI cAN cANG cAU cE cEA cEI cEN cENG cER
     cERR cI cIA cIAN cIANG cIE cIG cII cING cIO cIONG cIU cN cNG cO cOER cOEY cOG cOO cOU
     cROUNDED_ER dERR cU cUA cUAN cUANG cUEI cUI cUNG cUOG cUU cVW cW cWO cY cYI cYUI"),
    ("MICR", "aDASH_SYMBOL aON_US_SYMBOL"),
    ("MICRO", "aSIGN"),
    ("MIDDLE", "aDOT aTHIRD_WHITE_RIGHT_POINTING_INDEX"),
    ("MIDLINE", "aHORIZONTAL_ELLIPSIS"),
    ("MILITARY", "aHELMET aMEDAL"),
    ("MILKY", "aWAY"),
    ("MILL", "aSIGN"),
    ("MINUS", "aSIGN bIN_TRIANGLE bWITH_COMMA_ABOVE cDOT_BELOW cFALLING_DOTS cRISING_DOTS aTILDE"),
    ("MINUS-OR-PLUS", "aSIGN"),
    ("MIRROR", "a aBALL"),
    ("MOBILE", "aPHONE bOFF bWITH_RIGHTWARDS_ARROW_AT_LEFT"),
    ("MODERN", "aPENTATHLON"),
    ("MODI", "aABBREVIATION_SIGN aDANDA aDIGIT_EIGHT bFIVE bFOUR bNINE bONE bSEVEN bSIX bTHREE
     bTWO bZERO aDOUBLE_DANDA aLETTER_A bAA bAI bAU bBA bBHA bCA bCHA bDA bDDA bDDHA bDHA bE bGA
     bGHA bHA bI bII bJA bJHA bKA bKHA bLA bLLA bMA bNA bNGA bNNA bNYA bO bPA bPHA bRA bSA bSHA
     bSSA bTA bTHA bTTA bTTHA bU bUU bVA bVOCALIC_L cLL cR cRR bYA aSIGN_ANUSVARA bARDHACANDRA
     bHUVA bVIRAMA bVISARGA aVOWEL_SIGN_AA cAI cAU cE cI cII cO cU cUU cVOCALIC_L dLL dR dRR"),
    ("MODIFIER", "aBREVE_WITH_INVERTED_BREVE aLETTER_ACUTE_ACCENT bALVEOLAR_CLICK bAPOSTROPHE
     bBEGIN_HIGH_TONE cLOW_TONE bBILABIAL_CLICK bCAPITAL_A cAE cB cBARRED_B cC cD cE cF cG cH
     dWITH_STROKE cI cJ cK cL cM cN cO cOU cP cQ cR cREVERSED_E dN cT cU cV cW
     bCENTRED_LEFT_HALF_RING cRIGHT_HALF_RING bCHINESE_TONE_YANG_PING eQU eRU eSHANG dYIN_PING
     eQU eRU eSHANG bCIRCUMFLEX_ACCENT bCOLON bCROSS_ACCENT bCYRILLIC_EN cHARD_SIGN cSOFT_SIGN
     bDENTAL_CLICK bDOT_HORIZONTAL_BAR cSLASH cVERTICAL_BAR bDOUBLE_APOSTROPHE cPRIME
     bDOWN_ARROWHEAD cTACK bEND_HIGH_TONE cLOW_TONE bEXTRA-HIGH_DOTTED_LEFT-STEM_TONE_BAR
     dTONE_BAR cLEFT-STEM_TONE_BAR cTONE_BAR bEXTRA-LOW_DOTTED_LEFT-STEM_TONE_BAR dTONE_BAR
     cLEFT-STEM_TONE_BAR cTONE_BAR bGEORGIAN_NAR bGLOTTAL_STOP dWITH_STROKE bGRAVE_ACCENT
     bHALF_TRIANGULAR_COLON bHIGH_DOTTED_LEFT-STEM_TONE_BAR dTONE_BAR cLEFT-STEM_TONE_BAR
     cTONE_BAR bLATERAL_CLICK bLEFT_ARROWHEAD cHALF_RING cTACK bLOW_ACUTE_ACCENT
     cCIRCUMFLEX_ACCENT cDOTTED_LEFT-STEM_TONE_BAR dTONE_BAR cDOWN_ARROWHEAD cGRAVE_ACCENT
     cINVERTED_EXCLAMATION_MARK cLEFT_ARROW dARROWHEAD cLEFT-STEM_TONE_BAR cMACRON
     cRIGHT_ARROWHEAD cRING cTILDE cTONE_BAR cUP_ARROWHEAD cVERTICAL_LINE
     bLOWER_RIGHT_CORNER_ANGLE bMACRON bMID_DOTTED_LEFT-STEM_TONE_BAR dTONE_BAR
     cLEFT-STEM_TONE_BAR cTONE_BAR bMIDDLE_DOUBLE_ACUTE_ACCENT dGRAVE_ACCENT cGRAVE_ACCENT
     bMINUS_SIGN bOPEN_SHELF bPLUS_SIGN bPRIME bRAISED_COLON cDOWN_ARROW cEXCLAMATION_MARK
     cINVERTED_EXCLAMATION_MARK cUP_ARROW bRETROFLEX_CLICK_WITH_RETROFLEX_HOOK bREVERSED_COMMA
     cGLOTTAL_STOP eWITH_STROKE bRHOTIC_HOOK bRIGHT_ARROWHEAD cHALF_RING cTACK bSHELF
     bSHORT_EQUALS_SIGN bSMALL_A cAE cAIN cALPHA cB dWITH_HOOK cBARRED_O cBETA cBOTTOM_HALF_O cC
     dWITH_CURL cCAPITAL_AA dB dG eWITH_HOOK dH dI eWITH_STROKE dINVERTED_R dL eWITH_BELT dN dOE
     dR dU dY cCHI cCLOSED_OMEGA dREVERSED_OPEN_E cD dWITH_HOOK fAND_TAIL eTAIL cDELTA
     cDEZH_DIGRAPH cDOTLESS_J_WITH_STROKE gAND_HOOK cDZ_DIGRAPH eWITH_CURL fRETROFLEX_HOOK cE
     cENG cESH cETH cEZH cF cFENG_DIGRAPH cG dWITH_HOOK cGAMMA cGREEK_GAMMA dPHI cH dWITH_HOOK
     eSTROKE cHENG dWITH_HOOK cI_WITH_STROKE cIOTA cJ dWITH_CROSSED-TAIL cK cL dWITH_BELT
     eINVERTED_LAZY_S eMIDDLE_TILDE ePALATAL_HOOK eRETROFLEX_HOOK gAND_BELT cLEZH
     dWITH_RETROFLEX_HOOK cLIGATURE_OE cLS_DIGRAPH cLZ_DIGRAPH cM dWITH_HOOK cN_WITH_LEFT_HOOK
     eRETROFLEX_HOOK cO dWITH_STROKE cOPEN_E dO cP cPHI cQ cR dWITH_FISHHOOK eTAIL cRAMS_HORN
     cREVERSED_E dGLOTTAL_STOP dOPEN_E cS dWITH_CURL eHOOK cSCHWA cSCRIPT_G cSIDEWAYS_U cT
     dWITH_PALATAL_HOOK eRETROFLEX_HOOK cTC_DIGRAPH_WITH_CURL cTESH_DIGRAPH cTHETA cTOP_HALF_O
     cTS_DIGRAPH eWITH_RETROFLEX_HOOK cTURNED_A dAE dALPHA dH dI dM eWITH_LONG_LEG dOPEN_E dR
     eWITH_HOOK fLONG_LEG hAND_RETROFLEX_HOOK dV dW dY eWITH_BELT cU dBAR dWITH_LEFT_HOOK
     cUPSILON cV dWITH_HOOK eRIGHT_HOOK cW cX cY cZ dWITH_CURL eRETROFLEX_HOOK
     bSTRESS_AND_HIGH_TONE dLOW_TONE bSUPERSCRIPT_HALF_TRIANGULAR_COLON cTRIANGULAR_COLON
     bTRIANGULAR_COLON bTURNED_COMMA bUNASPIRATED bUP_ARROWHEAD cTACK bUS bVERTICAL_LINE bVOICING
     bYANG_DEPARTING_TONE_MARK bYIN_DEPARTING_TONE_MARK"),
    ("MODULO", "aTWO_SUM"),
    ("MONEY", "aBAG aWITH_WINGS"),
    ("MONEY-MOUTH", "aFACE"),
    ("MONGOLIAN", "aBIRGA bWITH_DOUBLE_ORNAMENT cORNAMENT aCOLON aCOMMA aDIGIT_EIGHT bFIVE bFOUR
     bNINE bONE bSEVEN bSIX bTHREE bTWO bZERO aDOUBLE_BIRGA_WITH_ORNAMENT aELLIPSIS aFOUR_DOTS
     aFREE_VARIATION_SELECTOR_FOUR dONE dTHREE dTWO aFULL_STOP aINVERTED_BIRGA
     cWITH_DOUBLE_ORNAMENT aLETTER_A bALI_GALI_A dAH dANUSVARA_ONE dBALUDA dCA dDA dDAGALGA
     dDAMARU dDDA dHALF_U eYA dI dINVERTED_UBADAMA dKA dNGA dNNA dPA dPHA dSSA dTA dTHREE_BALUDA
     dTTA dTTHA dUBADAMA dVISARGA_ONE dZA dZHA bANG bBA bCHA cWITH_TWO_DOTS bCHI bDA bE bEE bFA
     bGA bHAA bI bJA bKA bKHA bLA bLHA bMA bMANCHU_ALI_GALI_BHA eCA eCYA eDDHA eDHA eGHA eJHA
     eLHA eNGA eSSA eTA eTTA eZA eZHA cFA cI cKA cRA cZHA bNA bO bOE bPA bQA bRA bSA bSHA
     bSIBE_ANG cCHA cDA cE cFA cGA cGAA cHA cHAA cI cIY cJA cKA cPA cRAA cSHA cTA cTSA cU cUE cZA
     cZHA bTA bTODO_ALI_GALI_TA eZHA cANG cBA cCHA cDA cDZA cE cGA cGAA cHAA cI cJA cJIA cKA
     cLONG_VOWEL_SIGN cMA cNIA cO cOE cPA cQA cTA cTSA cU cUE cWA cYA bTSA bU bUE bWA bYA bZA
     bZHI bZRA aMANCHU_COMMA bFULL_STOP aNIRUGU aROTATED_BIRGA cWITH_DOUBLE_ORNAMENT dORNAMENT
     aSIBE_SYLLABLE_BOUNDARY_MARKER aSWIRL_BIRGA cWITH_DOUBLE_ORNAMENT dORNAMENT
     aTODO_SOFT_HYPHEN aTRIPLE_BIRGA_WITH_ORNAMENT aTURNED_SWIRL_BIRGA_WITH_DOUBLE_ORNAMENT
     aVOWEL_SEPARATOR"),
    ("MONKEY", "a aFACE"),
    ("MONOGRAM", "aFOR_EARTH bYANG bYIN"),
    ("MONOSTABLE", "aSYMBOL"),
    ("MOOD", "aBUBBLE"),
    ("MOON", "aCAKE aVIEWING_CEREMONY"),
    ("MOTHER", "aCHRISTMAS"),
    ("MOTOR", "aBOAT aSCOOTER"),
    ("MOTORIZED", "aWHEELCHAIR"),
    ("MOUNT", "aFUJI"),
    ("MOUNTAIN", "a aBICYCLIST aCABLEWAY aRAILWAY"),
    ("MOUSE", "a aFACE aTRAP"),
    ("MOVIE", "aCAMERA"),
    ("MRO", "aDANDA aDIGIT_EIGHT bFIVE bFOUR bNINE bONE bSEVEN bSIX bTHREE bTWO bZERO
     aDOUBLE_DANDA aLETTER_A bBA bCHU bDA bDAI bE bEA bHAI bHAO bKEAAE bKHAI bKO bLA bLAN bMAEM
     bMIM bNGI bNIN bO bOL bOO bPA bPHI bRI bRO bSHI bTA bTEK bTHEA bWA bYO"),
    ("MUCH", "aGREATER-THAN aLESS-THAN"),
    ("MULTANI", "aLETTER_A bBA bBHA bCA bCHA bDA bDDA bDDDA bDDHA bDHA bE bGA bGHA bHA bI bJA
     bJJA bKA bKHA bLA bMA bNA bNNA bNYA bPA bPHA bRA bRHA bRRA bSA bTA bTHA bTTA bTTHA bU bVA
     bYA aSECTION_MARK"),
    ("MULTIPLE", "aMUSICAL_NOTES"),
    ("MULTIPLICATION", "aSIGN bIN_DOUBLE_CIRCLE cLEFT_HALF_CIRCLE cRIGHT_HALF_CIRCLE cTRIANGLE
     bWITH_DOT_ABOVE cUNDERBAR aX"),
    ("MULTISET", "a aMULTIPLICATION aUNION"),
    ("MUSIC", "aFLAT_SIGN aNATURAL_SIGN aSHARP_SIGN"),
    ("MUSICAL", "aKEYBOARD bWITH_JACKS aNOTE aSCORE aSYMBOL_ARPEGGIATO_DOWN cUP bBEGIN_BEAM
     cPHRASE cSLUR cTIE bBRACE bBRACKET bBREATH_MARK bBREVE bBREVIS cREST bC_CLEF bCAESURA
     bCIRCLE_X_NOTEHEAD bCLIMACUS bCLIVIS bCLUSTER_NOTEHEAD_BLACK dWHITE bCODA bCOMBINING_ACCENT
     cACCENT-STACCATO cAUGMENTATION_DOT cBEND cDOIT cDOUBLE_TONGUE cDOWN_BOW cFLAG-1 cFLAG-2
     cFLAG-3 cFLAG-4 cFLAG-5 cFLIP cHARMONIC cLOURE cMARCATO cMARCATO-STACCATO cRIP cSMEAR
     cSNAP_PIZZICATO cSPRECHGESANG_STEM cSTACCATISSIMO cSTACCATO cSTEM cTENUTO cTREMOLO-1
     cTREMOLO-2 cTREMOLO-3 cTRIPLE_TONGUE cUP_BOW bCOMMON_TIME bCRESCENDO bCROIX bCUT_TIME
     bDA_CAPO bDAL_SEGNO bDAMP cALL bDASHED_BARLINE bDECRESCENDO bDEGREE_SLASH bDOUBLE_BARLINE
     cFLAT cSHARP bDRUM_CLEF-1 cCLEF-2 bEIGHTH_NOTE cREST bEND_BEAM cOF_STIMME cPHRASE cSLUR cTIE
     bF_CLEF dOTTAVA_ALTA eBASSA bFERMATA cBELOW bFINAL_BARLINE bFINGERED_TREMOLO-1 cTREMOLO-2
     cTREMOLO-3 bFIVE-LINE_STAFF bFLAT_DOWN cUP bFORTE bFOUR-LINE_STAFF bFOUR-STRING_FRETBOARD
     bFUSA_BLACK cWHITE bG_CLEF dOTTAVA_ALTA eBASSA bGLISSANDO_DOWN cUP bGRACE_NOTE_NO_SLASH
     dSLASH bGREGORIAN_C_CLEF cF_CLEF bHALF_NOTE cPEDAL_MARK cREST bHAUPTSTIMME bINVERTED_TURN
     bKIEVAN_C_CLEF cEIGHTH_NOTE_STEM_DOWN fUP cEND_OF_PIECE cFINAL_NOTE cFLAT_SIGN cHALF_NOTE
     cQUARTER_NOTE_STEM_DOWN fUP cRECITATIVE_MARK cWHOLE_NOTE bKORON bLEFT_REPEAT_SIGN bLONGA
     cIMPERFECTA_REST cPERFECTA_REST bMAXIMA bMEZZO bMINIMA cBLACK cREST bMOON_NOTEHEAD_BLACK
     dWHITE bMULTI_REST bMULTIPLE_MEASURE_REST bNATURAL_DOWN cUP bNEBENSTIMME bNOTEHEAD_BLACK
     bNULL_NOTEHEAD bONE_HUNDRED_TWENTY-EIGHTH_NOTE eREST bONE-LINE_STAFF bORNAMENT_STROKE-1
     cSTROKE-10 cSTROKE-11 cSTROKE-2 cSTROKE-3 cSTROKE-4 cSTROKE-5 cSTROKE-6 cSTROKE-7 cSTROKE-8
     cSTROKE-9 bOTTAVA_ALTA cBASSA bPARENTHESIS_NOTEHEAD bPEDAL_MARK cUP_MARK bPES_SUBPUNCTIS
     bPIANO bPLUS_NOTEHEAD bPODATUS bPORRECTUS cFLEXUS bQUARTER_NOTE cREST cTONE_FLAT dSHARP
     bQUINDICESIMA_ALTA cBASSA bREPEAT_DOTS bREPEATED_FIGURE-1 cFIGURE-2 cFIGURE-3
     bREVERSE_FINAL_BARLINE bRIGHT_REPEAT_SIGN bRINFORZANDO bSCANDICUS cFLEXUS bSEGNO
     bSEMIBREVIS_BLACK cREST cWHITE bSEMIMINIMA_BLACK cREST cWHITE bSHARP_DOWN cUP bSHORT_BARLINE
     bSINGLE_BARLINE bSIX-LINE_STAFF bSIX-STRING_FRETBOARD bSIXTEENTH_NOTE cREST
     bSIXTY-FOURTH_NOTE cREST bSORI bSQUARE_B cNOTEHEAD_BLACK dWHITE bSUBITO
     bTEMPUS_IMPERFECTUM_CUM_PROLATIONE_IMPERFECTA gDIMINUTION-1 gDIMINUTION-2 gDIMINUTION-3
     fPERFECTA cPERFECTUM_CUM_PROLATIONE_IMPERFECTA fPERFECTA gDIMINUTION-1 bTHIRTY-SECOND_NOTE
     cREST bTHREE-LINE_STAFF bTORCULUS cRESUPINUS bTR bTRIANGLE_NOTEHEAD_DOWN_BLACK eWHITE
     dLEFT_BLACK eWHITE dRIGHT_BLACK eWHITE dUP_BLACK eRIGHT_BLACK fWHITE eWHITE
     bTRIANGLE-ROUND_NOTEHEAD_DOWN_BLACK eWHITE bTURN cSLASH cUP bTWO-LINE_STAFF bVIRGA
     bVOID_NOTEHEAD bWHOLE_NOTE cREST bWITH_FINGERNAILS bX_NOTEHEAD bZ"),
    ("MYANMAR", "aCONSONANT_SIGN_MEDIAL_HA dRA dWA dYA cMON_MEDIAL_LA eMA eNA cSHAN_MEDIAL_WA
     aDIGIT_EIGHT bFIVE bFOUR bNINE bONE bSEVEN bSIX bTHREE bTWO bZERO aLETTER_A bAITON_RA bAU
     bBA bBHA bCA bCHA bDA bDDA bDDHA bDHA bE bEASTERN_PWO_KAREN_GHWA eNNA eYWA bGA bGHA
     bGREAT_SA bHA bI bII bJA bJHA bKA bKHA bKHAMTI_CA cCHA cDDA cDDHA cDHA cFA cGA cHA cHHA cJA
     cJHA cLLA cNA cNYA cRA cSA cTTA cTTHA cXA cZA bLA bLLA bMA bMON_BBA cBBE cE cJHA cNGA bNA
     bNGA bNNA bNNYA bNYA bO bPA bPHA bRA bRUMAI_PALAUNG_FA bSA bSGAW_KAREN_SHA bSHA bSHAN_A cBA
     cBHA cCA cCHA cDA cFA cGA cGHA cHA cJHA cKA cKHA cNA cNNA cNYA cPHA cTHA cZA
     bSHWE_PALAUNG_CHA dSHA bSSA bTA bTAI_LAING_BA dBHA dDA dDDA dDDHA dDHA dFA dGA dGHA dJA dJHA
     dLLA dNNA dNYA bTHA bTTA bTTHA bU bUU bVOCALIC_L cLL cR cRR bWA bWESTERN_PWO_KAREN_PWA eTHA
     bYA aLOGOGRAM_KHAMTI_HM cOAY cQN aMODIFIER_LETTER_KHAMTI_REDUPLICATION cSHAN_REDUPLICATION
     aSHAN_DIGIT_EIGHT cFIVE cFOUR cNINE cONE cSEVEN cSIX cTHREE cTWO cZERO aSIGN_ANUSVARA bASAT
     bDOT_BELOW bKHAMTI_TONE-1 cTONE-3 bLITTLE_SECTION bPAO_KAREN_TONE bRUMAI_PALAUNG_TONE-5
     bSECTION bSHAN_COUNCIL_EMPHATIC_TONE dTONE-2 dTONE-3 cSAW cTONE-2 cTONE-3 cTONE-5 cTONE-6
     bTAI_LAING_TONE-2 dTONE-5 bVIRAMA bVISARGA bWESTERN_PWO_KAREN_TONE-1 eTONE-2 eTONE-3 eTONE-4
     eTONE-5 aSYMBOL_AFOREMENTIONED bAITON_EXCLAMATION cONE cTWO bCOMPLETED bGENITIVE bLOCATIVE
     bSHAN_EXCLAMATION cONE aTAI_LAING_DIGIT_EIGHT dFIVE dFOUR dNINE dONE dSEVEN dSIX dTHREE dTWO
     dZERO aTONE_MARK_SGAW_KAREN_HATHI eKE_PHO aVOWEL_SIGN_AA cAI cAITON_A dAI cE dABOVE
     cGEBA_KAREN_I cI cII cKAYAH_EE dOE dU cMON_II dO cSGAW_KAREN_EU cSHAN_AA dE eABOVE dFINAL_Y
     cTALL_AA cU cUU cVOCALIC_L dLL dR dRR cWESTERN_PWO_KAREN_EU fUE")]

end Polyglot.CharacterName
