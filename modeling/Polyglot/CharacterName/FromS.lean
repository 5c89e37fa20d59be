/-! # Names of characters that begin with S

A list of first words with what may follow each of them. There every entry begins with a letter
that tells how many words are taken from the entry before it: `a` for none, `b` for one and so on.
The words after those are joined by underlines.
-/

namespace Polyglot.CharacterName

/-- The names of several words that begin with S, by their first words. -/
def fromS : List (String × String) :=
  [("S", "aIN_TRIANGLE"),
    ("SAFETY", "aPIN aVEST"),
    ("SAKE", "aBOTTLE_AND_CUP"),
    ("SALT", "aSHAKER"),
    ("SALUTING", "aFACE"),
    ("SAMARITAN", "aABBREVIATION_MARK aLETTER_ALAF bBAA bBIT bDALAT bFI bGAMAN bIN bIT bIY bKAAF
     bLABAT bMIM bNUN bQUF bRISH bSHAN bSINGAAT bTAAF bTIT bTSAADIY bYUT bZEN aMARK_DAGESH
     bEPENTHETIC_YUT bIN bIN-ALAF bNEQUDAA bOCCLUSION aMODIFIER_LETTER_EPENTHETIC_YUT cI cSHORT_A
     aPUNCTUATION_AFSAAQ bANGED bANNAAU bARKAANU bATMAAU bBAU bMELODIC_QITSA bNEQUDAA bQITSA
     bSHIYYAALAA bSOF_MASHFAAT bTURU bZAEF bZIQAA aVOWEL_SIGN_A cAA cE cI cLONG_A dAA dE dI dU cO
     cOVERLONG_A dAA cSHORT_A cSUKUN cU"),
    ("SANS-SERIF", "aHEAVY_DOUBLE_COMMA_QUOTATION_MARK_ORNAMENT
     cTURNED_COMMA_QUOTATION_MARK_ORNAMENT bLOW_DOUBLE_COMMA_QUOTATION_MARK_ORNAMENT
     aINTERROBANG_ORNAMENT"),
    ("SATELLITE", "a aANTENNA"),
    ("SAURASHTRA", "aCONSONANT_SIGN_HAARU aDANDA aDIGIT_EIGHT bFIVE bFOUR bNINE bONE bSEVEN bSIX
     bTHREE bTWO bZERO aDOUBLE_DANDA aLETTER_A bAA bAI bAU bBA bBHA bCA bCHA bDA bDDA bDDHA bDHA
     bE bEE bGA bGHA bHA bI bII bJA bJHA bKA bKHA bLA bLLA bMA bNA bNGA bNNA bNYA bO bOO bPA bPHA
     bRA bSA bSHA bSSA bTA bTHA bTTA bTTHA bU bUU bVA bVOCALIC_L cLL cR cRR bYA aSIGN_ANUSVARA
     bCANDRABINDU bVIRAMA bVISARGA aVOWEL_SIGN_AA cAI cAU cE cEE cI cII cO cOO cU cUU cVOCALIC_L
     dLL dR dRR"),
    ("SCHOOL", "a aSATCHEL"),
    ("SCRIPT", "aCAPITAL_B bE bF bH bI bL bM bP bR aLIGATURE_ET_ORNAMENT aSMALL_E bG bL bO"),
    ("SECOND", "aPLACE_MEDAL"),
    ("SECTION", "aSIGN"),
    ("SEE-NO-EVIL", "aMONKEY"),
    ("SEGMENTED", "aDIGIT_EIGHT bFIVE bFOUR bNINE bONE bSEVEN bSIX bTHREE bTWO bZERO"),
    ("SEMIDIRECT", "aPRODUCT_WITH_BOTTOM_CLOSED"),
    ("SEPARATED", "aSYMBOL"),
    ("SERIOUS", "aFACE_WITH_SYMBOLS_COVERING_MOUTH"),
    ("SERVICE", "aMARK"),
    ("SESAME", "aDOT"),
    ("SET", "aMINUS aTRANSMIT_STATE"),
    ("SEWING", "aNEEDLE"),
    ("SHADOWED", "aWHITE_CIRCLE bLATIN_CROSS bSTAR"),
    ("SHALLOW", "aPAN_OF_FOOD"),
    ("SHARADA", "aABBREVIATION_SIGN aCONTINUATION_SIGN aDANDA aDIGIT_EIGHT bFIVE bFOUR bNINE bONE
     bSEVEN bSIX bTHREE bTWO bZERO aDOUBLE_DANDA aEKAM aEXTRA_SHORT_VOWEL_MARK aHEADSTROKE
     aLETTER_A bAA bAI bAU bBA bBHA bCA bCHA bDA bDDA bDDHA bDHA bE bGA bGHA bHA bI bII bJA bJHA
     bKA bKHA bLA bLLA bMA bNA bNGA bNNA bNYA bO bPA bPHA bRA bSA bSHA bSSA bTA bTHA bTTA bTTHA
     bU bUU bVA bVOCALIC_L cLL cR cRR bYA aOM aSANDHI_MARK aSECTION_MARK-1 bMARK-2 aSEPARATOR
     aSIGN_ANUSVARA bAVAGRAHA bCANDRABINDU bINVERTED_CANDRABINDU bJIHVAMULIYA bNUKTA bSIDDHAM
     bUPADHMANIYA bVIRAMA bVISARGA aSUTRA_MARK aVOWEL_MODIFIER_MARK bSIGN_AA cAI cAU cE cI cII cO
     cPRISHTHAMATRA_E cU cUU cVOCALIC_L dLL dR dRR"),
    ("SHAVED", "aICE"),
    ("SHAVIAN", "aLETTER_ADO bAGE bAH bAIR bARE bARRAY bASH bAWE bBIB bCHURCH bDEAD bEAR bEAT
     bEGG bERR bFEE bGAG bHA-HA bHUNG bIAN bICE bIF bJUDGE bKICK bLOLL bMEASURE bMIME bNUN bOAK
     bOIL bON bOOZE bOR bOUT bPEEP bROAR bSO bSURE bTHEY bTHIGH bTOT bUP bVOW bWOE bWOOL bYEA
     bYEW bZOO"),
    ("SHIFT", "aIN aOUT"),
    ("SHINTO", "aSHRINE"),
    ("SHOCKED", "aFACE_WITH_EXPLODING_HEAD"),
    ("SHOOTING", "aSTAR"),
    ("SHOPPING", "aBAGS aTROLLEY"),
    ("SHORT", "aBACKSLANTED_SOUTH_ARROW aBENT_ARROW_POINTING_DOWNWARDS_THEN_NORTH_EAST aDOWN_TACK
     cWITH_OVERBAR aLEFT_TACK aRIGHTWARDS_ARROW_ABOVE_LEFTWARDS_ARROW aSLANTED_NORTH_ARROW
     aUP_TACK cABOVE_SHORT_DOWN_TACK cWITH_UNDERBAR"),
    ("SHORTHAND", "aFORMAT_CONTINUING_OVERLAP bDOWN_STEP bLETTER_OVERLAP bUP_STEP"),
    ("SHOULDERED", "aOPEN_BOX"),
    ("SHUFFLE", "aPRODUCT"),
    ("SIDDHAM", "aDANDA aDOUBLE_DANDA aEND_OF_TEXT_MARK aLETTER_A bAA bAI bALTERNATE_U bAU bBA
     bBHA bCA bCHA bDA bDDA bDDHA bDHA bE bGA bGHA bHA bI bII bJA bJHA bKA bKHA bLA bMA bNA bNGA
     bNNA bNYA bO bPA bPHA bRA bSA bSHA bSSA bTA bTHA bTHREE-CIRCLE_ALTERNATE_I bTTA bTTHA
     bTWO-CIRCLE_ALTERNATE_I dII bU bUU bVA bVOCALIC_L cLL cR cRR bYA aREPETITION_MARK-1 bMARK-2
     bMARK-3 aSECTION_MARK_DOUBLE_RING eWITH_RAYS cWITH_CIRCLES_AND_FOUR_ENCLOSURES fRAYS
     fTWO_ENCLOSURES dDOUBLE_CRESCENTS dQUADRUPLE_CRESCENTS dRAYS_AND_DOTTED_CRESCENTS
     gDOUBLE_CRESCENTS gTRIPLE_CRESCENTS dSEPTUPLE_CRESCENTS dTRIDENT_AND_DOTTED_CRESCENTS
     fU-SHAPED_ORNAMENTS dTRIPLE_CRESCENTS aSEPARATOR_BAR bDOT aSIGN_ANUSVARA bCANDRABINDU bNUKTA
     bSIDDHAM bVIRAMA bVISARGA aVOWEL_SIGN_AA cAI cALTERNATE_U dUU cAU cE cI cII cO cU cUU
     cVOCALIC_R dRR"),
    ("SIDEWAYS", "aBLACK_DOWN_POINTING_INDEX bLEFT_POINTING_INDEX bRIGHT_POINTING_INDEX
     bUP_POINTING_INDEX aWHITE_DOWN_POINTING_INDEX bLEFT_POINTING_INDEX bRIGHT_POINTING_INDEX
     bUP_POINTING_INDEX"),
    ("SIGN", "aOF_THE_HORNS"),
    ("SIGNWRITING", "aAIR_BLOW_SMALL_ROTATIONS bBLOWING_OUT bSUCK_SMALL_ROTATIONS bSUCKING_IN
     aBREATH_EXHALE bINHALE aBRUSH_BETWEEN bMULTIPLE bSINGLE aCHEEKS_NEUTRAL bPUFFED bSUCKED
     aCOLON aCOMMA aDREAMY_EYEBROWS_DOWN_NEUTRAL cNEUTRAL_DOWN dUP cUP_NEUTRAL
     aDYNAMIC_ARROWHEAD_LARGE cSMALL bEVERY_OTHER_TIME bFAST bGRADUAL bRELAXED bSIMULTANEOUS
     cALTERNATING bSLOW bTENSE aEARS aEXCITEMENT aEYE_BLINK_MULTIPLE cSINGLE bWINK
     aEYEBROWS_STRAIGHT_DOWN cNEUTRAL cUP aEYEGAZE-FLOORPLANE_CURVED bSTRAIGHT cALTERNATING
     cDOUBLE aEYEGAZE-WALLPLANE_CIRCLING bCURVED bSTRAIGHT cALTERNATING cDOUBLE aEYELASHES_DOWN
     bFLUTTERING bUP aEYES_CLOSED bHALF_CLOSED cOPEN bOPEN bSQUEEZED bWIDE_OPEN
     bWIDENING_MOVEMENT aFACE_DIRECTION_POSITION_NOSE_FORWARD_TILTING eUP_OR_DOWN hTILTING
     aFILL_MODIFIER-2 bMODIFIER-3 bMODIFIER-4 bMODIFIER-5 bMODIFIER-6 aFINGER
     aFLICK_LARGE_MULTIPLE cSINGLE bSEQUENTIAL bSMALL_MULTIPLE cSINGLE
     aFLOORPLANE_SHOULDER_HIP_MOVE aFOREHEAD_CONTACT bNEUTRAL bWRINKLED aFULL_STOP aGRASP_BETWEEN
     bMULTIPLE bSINGLE aHAIR aHAND-ANGLE bINDEX cMIDDLE_LITTLE dRING cRING_LITTLE eOUT cTHUMB dIN
     dOUT bLITTLE_INDEX dTHUMB_INDEX_THUMB gOUT cUP bMIDDLE_RING_LITTLE eIN eOUT
     bRING_DOWN_MIDDLE_THUMB_INDEX_CROSS cLITTLE aHAND-CIRCLE bINDEX cBENT cHINGE cMIDDLE
     dCROSS_LITTLE dCROSSED dLITTLE dRING dTHUMB cRING_LITTLE bLITTLE_INDEX cUP
     bMIDDLE_RING_LITTLE eBENT cUP bRING_LITTLE aHAND-CLAW bFOUR_FINGERS_CONJOINED
     bINDEX_THUMB_CURVE_THUMB_INSIDE bMIDDLE_RING_LITTLE_CONJOINED fSIDE bNO_THUMB bTHUMB_FORWARD
     cSIDE aHAND-CUP bFIVE_FINGERS_SPREAD eOPEN bINDEX cRING_LITTLE cTHUMB dOPEN
     bMIDDLE_RING_LITTLE bNO_THUMB bOPEN cNO_THUMB cTHUMB_FORWARD dSIDE bTHUMB_FORWARD cSIDE
     aHAND-CURLICUE bINDEX_RING_LITTLE_ON bMIDDLE_RING_LITTLE_ON bOPEN aHAND-FIST
     bFOUR_FINGERS_CONJOINED_BENT bHEEL bINDEX cBENT dOVER_MIDDLE cCUPPED cHINGED dLOW dMIDDLE_UP
     fTHUMB_SIDE cMIDDLE dBENT eTHUMB_STRAIGHT dCONJOINED eCUPPED fTHUMB_FORWARD eHINGED
     fTHUMB_SIDE eINDEX_BENT eMIDDLE_BENT eTHUMB_FORWARD fSIDE gBENT gCONJOINED dCROSS_LITTLE
     dCROSSED eTHUMB_SIDE dHINGED eSPREAD_THUMB_SIDE dLITTLE dRAISED_KNUCKLES dRING eBENT
     eCONJOINED dSTRAIGHT_THUMB_BENT dTHUMB eANGLED fOUT eBENT eCIRCLED eCONJOINED_HINGED eCUPPED
     eHINGED eHOOKED dUP_SPREAD_THUMB_FORWARD cRAISED_KNUCKLE cRING_LITTLE
     cTHUMB_ANGLED_IN_MIDDLE_UP eOUT_MIDDLE_UP dCIRCLE dCIRCLED_MIDDLE_UP dCUPPED_MIDDLE_UP
     dCURLICUE dCURVE_THUMB_INSIDE fUNDER dFORWARD_INDEX_BENT fSTRAIGHT dHOOK
     dHOOKED_MIDDLE_HINGED fUP dSIDE eBOTH_BENT eINDEX_BENT fHINGE eTHUMB_BENT fCONJOINED
     fDIAGONAL cUP_MIDDLE_HINGED fTHUMB_CONJOINED gSIDE bLITTLE_BENT cDOWN dOTHERS_CIRCLED
     dRIPPLE_CURVED eSTRAIGHT cINDEX dTHUMB cRAISED_KNUCKLE cTHUMB cTOUCHES_THUMB cUP
     bMIDDLE_BENT_OVER_INDEX cDOWN cLITTLE cRAISED_KNUCKLE cRING_LITTLE cTHUMB_ANGLED_INDEX_UP
     eOUT_INDEX_CROSSED gUP dCIRCLED_INDEX_HINGED fUP dCUPPED_INDEX_UP dHOOKED_INDEX_UP dLITTLE
     cUP dTHUMB_SIDE bRING_DOWN cINDEX cLITTLE cMIDDLE dCONJOINED dRAISED_KNUCKLES
     cRAISED_KNUCKLE cTHUMB cUP bTHUMB cBETWEEN_INDEX_MIDDLE fSTRAIGHT dMIDDLE_RING dRING_LITTLE
     cFORWARD cHEEL cOVER_FOUR_RAISED_KNUCKLES dTWO_FINGERS cSIDE_BENT dCONJOINED dDIAGONAL
     cUNDER_FOUR_FINGERS dINDEX_BENT dLITTLE_UP dTHREE_FINGERS dTWO_FINGERS aHAND-FLAT
     bBETWEEN_PALM_FACINGS bFIVE_FINGERS_SPREAD eBENT eFOUR_BENT eHINGED fNO_THUMB fTHUMB_SIDE
     eTHUMB_FORWARD bFOUR_FINGERS dBENT dCONJOINED eSPLIT dHINGED bHEEL cFIVE_FINGERS_SPREAD
     fBENT fFOUR_BENT cTHUMB_SIDE bSPLIT_CENTRE dTHUMB_SIDE fBENT cINDEX_THUMB_SIDE cLITTLE
     bTHUMB_BENT cFORWARD cSIDE aHAND-HINGE bFIVE_FINGERS_SPREAD_OPEN bFOUR_FINGERS_CONJOINED
     bINDEX cHINGED cMIDDLE_LITTLE dRING eCONJOINED cRING_LITTLE cTHUMB dLARGE dOPEN dSIDE dSMALL
     bLITTLE cINDEX dTHUMB cTHUMB bMIDDLE cRING_LITTLE bNO_THUMB bOPEN cNO_THUMB cTHUMB_FORWARD
     dSIDE bRING cDOWN_INDEX_THUMB_HOOK_MIDDLE bSMALL bTHUMB_BETWEEN_MIDDLE_RING cSIDE
     dTOUCHING_INDEX aHAND-HOOK bCURLICUE bINDEX_RING_LITTLE_IN eOUT eUNDER
     bMIDDLE_RING_LITTLE_CONJOINED fIN fOUT cTHUMB bRING_THUMB aHAND-OVAL bFIVE_FINGERS_SPREAD
     bINDEX bLITTLE_UP bNO_THUMB bRING_LITTLE bTHUMB_FORWARD cSIDE aHEAD bMOVEMENT_CIRCLE
     bMOVEMENT-FLOORPLANE_CURVE cSTRAIGHT bMOVEMENT-WALLPLANE_CURVE cSTRAIGHT cTILT bRIM
     aLIMB_COMBINATION bLENGTH-1 bLENGTH-2 bLENGTH-3 bLENGTH-4 bLENGTH-5 bLENGTH-6 bLENGTH-7
     aLIP_LOWER_OVER_UPPER bUPPER_OVER_LOWER aLIPS_PRESSED_TOGETHER aLOCATION_DEPTH bHEAD_NECK
     bHEIGHT bLIMBS_DIGITS bTORSO bWIDTH aLOCATION-FLOORPLANE_SPACE aLOCATION-WALLPLANE_SPACE
     aMOUTH_CLOSED_CONTACT cFORWARD cNEUTRAL bCORNERS bFROWN cOPEN cWRINKLED bKISS cFORWARD
     cWRINKLED bOPEN_CIRCLE cFORWARD cOVAL dWRINKLED dYAWN cRECTANGLE dWRINKLED dYAWN cWRINKLED
     bSMILE cOPEN cWRINKLED bTENSE cFORWARD cSUCKED bWRINKLES_DOUBLE cSINGLE
     aMOVEMENT-DIAGONAL_AWAY_LARGE cLARGEST cMEDIUM cSMALL bBETWEEN_AWAY_LARGE dLARGEST dMEDIUM
     dSMALL cTOWARDS_LARGE dLARGEST dMEDIUM dSMALL bTOWARDS_LARGE cLARGEST cMEDIUM cSMALL
     aMOVEMENT-FLOORPLANE_ARM_CIRCLE_HITTING_WALL_LARGE_DOUBLE gSINGLE fMEDIUM_DOUBLE gSINGLE
     fSMALL_DOUBLE gSINGLE bBEND bBOX_LARGE cMEDIUM cSMALL bCHECK bCORNER_LARGE cMEDIUM cSMALL
     bCROSS bCURVE_COMBINED cHITTING_CEILING_LARGE eSMALL dFLOOR_LARGE eSMALL cLARGE cLARGEST
     cMEDIUM cSMALL bDOUBLE_ALTERNATING dWRIST_FLEX cSTRAIGHT cWRIST_FLEX
     bFINGER_CIRCLES_HITTING_WALL_DOUBLE fSINGLE cCONTACT bHUMP_HITTING_CEILING_LARGE_DOUBLE
     fTRIPLE eSMALL_DOUBLE fTRIPLE dFLOOR_LARGE_DOUBLE eSMALL_DOUBLE eTRIPLE_LARGE_TRIPLE
     fSMALL_TRIPLE cSMALL bJAW bLOOP_HITTING_CEILING_LARGE_DOUBLE fSINGLE eSMALL_DOUBLE fSINGLE
     dFLOOR_LARGE_DOUBLE fSINGLE eSMALL_DOUBLE fSINGLE cSMALL bPEAKS_LARGE cMEDIUM cSMALL
     bSHAKING_PARALLEL bSINGLE_STRAIGHT_LARGE dLARGEST dMEDIUM dSMALL cWRIST_FLEX
     bTRIPLE_ALTERNATING_MOVEMENT dWRIST_FLEX cSTRAIGHT_MOVEMENT cWRIST_FLEX
     bWAVE_HITTING_CEILING_LARGE eSMALL dFLOOR_LARGE eSMALL cLARGE cSMALL cSNAKE
     bWRIST_CIRCLE_HITTING_WALL_DOUBLE fSINGLE bZIGZAG_LARGE cMEDIUM cSMALL
     aMOVEMENT-HINGE_DOWN_SEQUENTIAL bSIDE_TO_SIDE_SCISSORS bUP_DOWN_ALTERNATING_LARGE eSMALL
     dLARGE dSMALL cSEQUENTIAL aMOVEMENT-WALLPLANE_ARM_CIRCLE_MEDIUM_DOUBLE eSINGLE dSMALL_DOUBLE
     eSINGLE bBEND_LARGE cMEDIUM cSMALL bBOX_LARGE cMEDIUM cSMALL bCHECK_LARGE cMEDIUM cSMALL
     bCORNER_LARGE cMEDIUM cROTATION cSMALL bCROSS bCURVE_HALF-CIRCLE_LARGE dLARGEST dMEDIUM
     dSMALL cHITTING_CHEST dFRONT_WALL cQUARTER_LARGE dLARGEST dMEDIUM dSMALL cTHEN_STRAIGHT
     cTHREE-QUARTER_CIRCLE_MEDIUM eSMALL bCURVED_CROSS_MEDIUM dSMALL bDOUBLE_ALTERNATING
     dWRIST_FLEX cSTRAIGHT cWRIST_FLEX bFINGER_CIRCLES_DOUBLE dSINGLE cCONTACT
     bHUMP_HITTING_CHEST dFRONT_WALL cLARGE cMEDIUM cSMALL bJAW bLOOP_HITTING_CHEST dFRONT_WALL
     cLARGE cMEDIUM cSMALL dDOUBLE bPEAKS_LARGE cMEDIUM cSMALL bSHAKING bSINGLE_STRAIGHT_LARGE
     dLARGEST dMEDIUM dSMALL cWRIST_FLEX bTRIPLE_ALTERNATING dWRIST_FLEX cSTRAIGHT_MOVEMENT
     cWRIST_FLEX bWAVE_CURVE_DOUBLE_LARGE eMEDIUM eSMALL dTRIPLE_LARGE eMEDIUM eSMALL
     cDIAGONAL_PATH_LARGE eMEDIUM eSMALL cHITTING_CHEST dFRONT_WALL bWRIST_CIRCLE_FRONT_DOUBLE
     eSINGLE bZIGZAG_LARGE cMEDIUM cSMALL aNECK aNOSE_CONTACT bNEUTRAL bWIGGLES bWRINKLES
     aPARENTHESIS aROTATION_MODIFIER-10 bMODIFIER-11 bMODIFIER-12 bMODIFIER-13 bMODIFIER-14
     bMODIFIER-15 bMODIFIER-16 bMODIFIER-2 bMODIFIER-3 bMODIFIER-4 bMODIFIER-5 bMODIFIER-6
     bMODIFIER-7 bMODIFIER-8 bMODIFIER-9 aROTATION-FLOORPLANE_ALTERNATING cHITTING_CEILING dFLOOR
     bDOUBLE cHITTING_CEILING dFLOOR bSINGLE cHITTING_CEILING dFLOOR
     aROTATION-WALLPLANE_ALTERNATE bALTERNATING_HITTING_CHEST dFRONT_WALL bDOUBLE cHITTING_CHEST
     dFRONT_WALL bSINGLE cHITTING_CHEST dFRONT_WALL aRUB_BETWEEN bMULTIPLE bSINGLE aSEMICOLON
     aSHOULDER_HIP_POSITIONS cSPINE bTILTING_FROM_WAIST aSQUEEZE_FLICK_ALTERNATING
     bLARGE_MULTIPLE cSINGLE bSEQUENTIAL bSMALL_MULTIPLE cSINGLE aSTRIKE_BETWEEN bMULTIPLE
     bSINGLE aSURFACE_BETWEEN bSYMBOLS aTEETH bBITE_LIPS bMOVEMENT bON_LIPS dMOVEMENT cTONGUE
     dMOVEMENT aTENSE_CHEEKS_HIGH cLOW cMIDDLE aTONGUE_CENTRE_INSIDE_MOUTH cSTICKING_OUT
     bINSIDE_MOUTH_RELAXED bLICKING_LIPS bMOVES_AGAINST_CHEEK bSTICKING_OUT_FAR bTIP_BETWEEN_LIPS
     cTOUCHING_INSIDE_MOUTH aTORSO-FLOORPLANE_TWISTING aTORSO-WALLPLANE_CURVED_BEND
     bSTRAIGHT_STRETCH aTOUCH_BETWEEN bMULTIPLE bSINGLE
     aTRAVEL-FLOORPLANE_ROTATION-FLOORPLANE_ALTERNATING cDOUBLE cSINGLE
     bROTATION-WALLPLANE_ALTERNATING cDOUBLE cSINGLE bSHAKING aTRAVEL-WALLPLANE_ARM_SPIRAL_DOUBLE
     dSINGLE dTRIPLE bROTATION-FLOORPLANE_ALTERNATING cDOUBLE cSINGLE
     bROTATION-WALLPLANE_ALTERNATING cDOUBLE cSINGLE bSHAKING aUPPER_BODY_TILTING_FROM_HIP_JOINTS
     aWALLPLANE_SHOULDER_HIP_MOVE"),
    ("SILHOUETTE", "aOF_JAPAN"),
    ("SIMILAR", "aABOVE_GREATER-THAN_ABOVE_EQUALS_SIGN bLESS-THAN_ABOVE_EQUALS_SIGN
     aMINUS_SIMILAR aOR_GREATER-THAN bLESS-THAN"),
    ("SINE", "aWAVE"),
    ("SINGLE", "aCHARACTER_INTRODUCER aGRAPHIC_CHARACTER_INTRODUCER
     aHIGH-REVERSED-9_QUOTATION_MARK aLEFT-POINTING_ANGLE_QUOTATION_MARK aLOW-9_QUOTATION_MARK
     aRIGHT-POINTING_ANGLE_QUOTATION_MARK aSHIFT_THREE bTWO"),
    ("SINHALA", "aARCHAIC_DIGIT_EIGHT cFIVE cFOUR cNINE cONE cSEVEN cSIX cTHREE cTWO
     bNUMBER_EIGHTY cFIFTY cFORTY cNINETY cONE_HUNDRED dTHOUSAND cSEVENTY cSIXTY cTEN cTHIRTY
     cTWENTY aLETTER_AAYANNA bAEEYANNA bAEYANNA bAIYANNA bALPAPRAANA_BAYANNA cCAYANNA cDAYANNA
     cDDAYANNA cGAYANNA cJAYANNA cKAYANNA cPAYANNA cTAYANNA cTTAYANNA bAMBA_BAYANNA bAUYANNA
     bAYANNA bDANTAJA_LAYANNA cNAYANNA cSAYANNA bEEYANNA bEYANNA bFAYANNA bHAYANNA bIIYANNA
     bILUUYANNA bILUYANNA bIRUUYANNA bIRUYANNA bIYANNA bKANTAJA_NAASIKYAYA bMAHAAPRAANA_BAYANNA
     cCAYANNA cDAYANNA cDDAYANNA cGAYANNA cJAYANNA cKAYANNA cPAYANNA cTAYANNA cTTAYANNA bMAYANNA
     bMUURDHAJA_LAYANNA cNAYANNA cSAYANNA bOOYANNA bOYANNA bRAYANNA bSANYAKA_DAYANNA cDDAYANNA
     cGAYANNA cJAYANNA bTAALUJA_NAASIKYAYA cSANYOOGA_NAAKSIKYAYA cSAYANNA bUUYANNA bUYANNA
     bVAYANNA bYAYANNA aLITH_DIGIT_EIGHT cFIVE cFOUR cNINE cONE cSEVEN cSIX cTHREE cTWO cZERO
     aPUNCTUATION_KUNDDALIYA aSIGN_AL-LAKUNA bANUSVARAYA bCANDRABINDU bVISARGAYA
     aVOWEL_SIGN_AELA-PILLA cDIGA_AEDA-PILLA dGAETTA-PILLA dGAYANUKITTA dIS-PILLA dKOMBUVA
     dPAA-PILLA cGAETTA-PILLA cGAYANUKITTA cKETTI_AEDA-PILLA dIS-PILLA dPAA-PILLA cKOMBU_DEKA
     cKOMBUVA dHAA_AELA-PILLA eDIGA_AELA-PILLA eGAYANUKITTA"),
    ("SIX", "aPETALLED_BLACK_AND_WHITE_FLORETTE aPOINTED_BLACK_STAR bPINWHEEL_STAR
     bSTAR_WITH_MIDDLE_DOT"),
    ("SIX-PER-EM", "aSPACE"),
    ("SIXTEEN", "aPOINTED_ASTERISK"),
    ("SKI", "aAND_SKI_BOOT"),
    ("SKULL", "a aAND_CROSSBONES"),
    ("SLANTED", "aEQUAL_TO_OR_GREATER-THAN eWITH_DOT_INSIDE dLESS-THAN eWITH_DOT_INSIDE
     aNORTH_ARROW_WITH_HOOKED_HEAD dHORIZONTAL_TAIL"),
    ("SLAVONIC", "aASTERISK"),
    ("SLEEPING", "aACCOMMODATION aFACE aSYMBOL"),
    ("SLEEPY", "aFACE"),
    ("SLEUTH", "aOR_SPY"),
    ("SLICE", "aOF_PIZZA"),
    ("SLIGHTLY", "aFROWNING_FACE aSMILING_FACE"),
    ("SLOPING", "aLARGE_AND bOR"),
    ("SLOT", "aMACHINE"),
    ("SMALL", "aAIRPLANE aAMPERSAND aASTERISK aBLUE_DIAMOND aCOLON aCOMMA aCOMMERCIAL_AT
     aCONTAINS_AS_MEMBER bWITH_OVERBAR cVERTICAL_BAR_AT_END_OF_HORIZONTAL_STROKE aDOLLAR_SIGN
     aELEMENT_OF cWITH_OVERBAR dVERTICAL_BAR_AT_END_OF_HORIZONTAL_STROKE aEM_DASH aEQUALS_SIGN
     aEXCLAMATION_MARK aFULL_STOP aGREATER-THAN_SIGN aHYPHEN-MINUS aIDEOGRAPHIC_COMMA
     aLEFT_CURLY_BRACKET bPARENTHESIS bTORTOISE_SHELL_BRACKET aLESS-THAN_SIGN aNUMBER_SIGN
     aORANGE_DIAMOND aPERCENT_SIGN aPLUS_SIGN aQUESTION_MARK aREVERSE_SOLIDUS
     aRIGHT_CURLY_BRACKET bPARENTHESIS bTORTOISE_SHELL_BRACKET aROMAN_NUMERAL_EIGHT cELEVEN
     cFIFTY cFIVE dHUNDRED cFOUR cNINE cONE dHUNDRED dTHOUSAND cSEVEN cSIX cTEN cTHREE cTWELVE
     cTWO aSEMICOLON aTILDE aTWO_DOTS_OVER_ONE_DOT_PUNCTUATION aVEE_WITH_UNDERBAR"),
    ("SMALLER", "aTHAN bOR_EQUAL_TO"),
    ("SMASH", "aPRODUCT"),
    ("SMILING", "aCAT_FACE_WITH_HEART-SHAPED_EYES dOPEN_MOUTH aFACE_WITH_HALO cHEART-SHAPED_EYES
     cHORNS cOPEN_MOUTH eAND_COLD_SWEAT fSMILING_EYES fTIGHTLY-CLOSED_EYES cSMILING_EYES
     eAND_HAND_COVERING_MOUTH fTHREE_HEARTS cSUNGLASSES cTEAR"),
    ("SMIRKING", "aFACE"),
    ("SMOKING", "aSYMBOL"),
    ("SNEEZING", "aFACE"),
    ("SNOW", "aCAPPED_MOUNTAIN"),
    ("SNOWMAN", "a aWITHOUT_SNOW"),
    ("SOCCER", "aBALL"),
    ("SOFT", "aHYPHEN aICE_CREAM aSHELL_FLOPPY_DISK"),
    ("SOFTWARE-FUNCTION", "aSYMBOL"),
    ("SOGDIAN", "aCOMBINING_CURVE_ABOVE cBELOW bDOT_ABOVE cBELOW bHOOK_ABOVE cBELOW
     bLONG_HOOK_BELOW bRESH_BELOW bSTROKE_BELOW bTWO_DOTS_ABOVE dBELOW aINDEPENDENT_SHIN
     aLETTER_ALEPH bAYIN bBETH bFETH bGIMEL bHE bHETH bKAPH bLAMEDH bLESH bMEM bNUN bPE
     bRESH-AYIN bSADHE bSAMEKH bSHIN bTAW bWAW bYODH bZAYIN aNUMBER_ONE cHUNDRED bTEN bTWENTY
     aPUNCTUATION_CIRCLE_WITH_DOT bHALF_CIRCLE_WITH_DOT bTWO_CIRCLES_WITH_DOTS cVERTICAL_BARS
     eWITH_DOTS"),
    ("SOLID", "aQUILT_SQUARE_ORNAMENT dIN_BLACK_SQUARE"),
    ("SOLIDUS", "a aWITH_OVERBAR"),
    ("SOM", "aSIGN"),
    ("SOON", "aWITH_RIGHTWARDS_ARROW_ABOVE"),
    ("SORA", "aSOMPENG_DIGIT_EIGHT cFIVE cFOUR cNINE cONE cSEVEN cSIX cTHREE cTWO cZERO
     bLETTER_AH cBAH cCAH cDAH cEEH cEH cGAH cHAH cIH cJAH cKAH cLAH cMAE cMAH cNAH cNGAH cNYAH
     cOH cPAH cRAH cSAH cTAH cUH cVAH cYAH"),
    ("SOUND", "aRECORDING_COPYRIGHT"),
    ("SOUTH", "aEAST_ARROW cAND_SOUTH_WEST_ARROW cCROSSING_NORTH_EAST_ARROW cTO_CORNER cWITH_HOOK
     bBLACK_ARROW bDOUBLE_ARROW bPOINTING_BUD cLEAF cVINE_LEAF bSANS-SERIF_ARROW
     bTRIANGLE-HEADED_ARROW dTO_BAR bWHITE_ARROW aWEST_ARROW cAND_NORTH_WEST_ARROW cWITH_HOOK
     bBLACK_ARROW bDOUBLE_ARROW bPOINTING_BUD cLEAF cVINE_LEAF bSANS-SERIF_ARROW
     bTRIANGLE-HEADED_ARROW dTO_BAR bWHITE_ARROW"),
    ("SOYOMBO", "aCLUSTER-INITIAL_LETTER_LA cRA cSA cSHA aFINAL_CONSONANT_SIGN_-A dB dD dG dK dL
     dM dN dNG dR dS dSH aGEMINATION_MARK aHEAD_MARK_WITH_MOON_AND_SUN gAND_FLAME hTRIPLE_FLAME
     aLETTER_-A bA bBA bBHA bCA bCHA bDA bDDA bDDHA bDHA bDZA bGA bGHA bHA bJA bJHA bKA bKHA
     bKSSA bLA bMA bNA bNGA bNNA bNYA bPA bPHA bRA bSA bSHA bSSA bTA bTHA bTSA bTSHA bTTA bTTHA
     bVA bYA bZA bZHA aMARK_DOUBLE_SHAD bPLUTA bSHAD bTSHEG aSIGN_ANUSVARA bJIHVAMULIYA
     bUPADHMANIYA bVISARGA aSUBJOINER aTERMINAL_MARK-1 bMARK-2 aVOWEL_LENGTH_MARK bSIGN_AI cAU cE
     cI cO cOE cU cUE cVOCALIC_L dR"),
    ("SPARKLING", "aHEART"),
    ("SPEAK-NO-EVIL", "aMONKEY"),
    ("SPEAKER", "a aWITH_CANCELLATION_STROKE bONE_SOUND_WAVE bTHREE_SOUND_WAVES"),
    ("SPEAKING", "aHEAD_IN_SILHOUETTE"),
    ("SPEECH", "aBALLOON"),
    ("SPESMILO", "aSIGN"),
    ("SPHERICAL", "aANGLE bOPENING_LEFT cUP"),
    ("SPIDER", "a aWEB"),
    ("SPIRAL", "aCALENDAR_PAD aNOTE_PAD aSHELL"),
    ("SPLASHING", "aSWEAT_SYMBOL"),
    ("SPOOL", "aOF_THREAD"),
    ("SPORTS", "aMEDAL"),
    ("SPOUTING", "aWHALE"),
    ("SQUARE", "aA_OVER_M aAARU aAM aANPEA aAPAATO aARUHUA aAU aBAARERU aBAR aBEETA aBIRU aBORUTO
     aBQ aBUSSYERU aC_OVER_KG aCAL aCAP aCC aCD aCM bCUBED bSQUARED aCO aCORPORATION aCUP aDA
     aDAASU aDB aDESI aDJ aDL aDM bCUBED bSQUARED aDORU aEEKAA aERA_NAME_HEISEI cMEIZI cREIWA
     cSYOUWA cTAISYOU aERG aESUKUUDO aEV aFM aFOOT aFOUR_CORNERS aGAL aGANMA aGARON aGB aGHZ
     aGIGA aGINII aGIRUDAA aGPA aGURAMU aGURAMUTON aGY aHA aHAITU aHEKUTAARU aHERUTU aHG
     aHIRAGANA_HOKA aHON aHOON aHOORU aHP aHPA aHUARADDO aHUIITO aHURAN aHZ aIMAGE_OF
     cOR_EQUAL_TO dNOT_EQUAL_TO aIN aININGU aINTI aIU aK_OHM aKA aKAIRI aKARATTO aKARORII aKB
     aKCAL aKEESU aKG aKHZ aKIRO aKIROGURAMU aKIROMEETORU aKIROWATTO aKK aKL aKM bCAPITAL bCUBED
     bSQUARED aKOOPO aKORUNA aKPA aKT aKUROONE aKURUZEIRO aKV aKW aKYURII aLEFT_OPEN_BOX_OPERATOR
     aLM aLN aLOG aLOZENGE aLX aM_CUBED bOHM bOVER_S dSQUARED bSQUARED aMA aMAHHA aMAIKURO aMAIRU
     aMANSYON aMARUKU aMB bSMALL aMEETORU aMEGA aMEGATON aMG aMHZ aMIKURON aMIL aMIRI aMIRIBAARU
     aML aMM bCUBED bSQUARED aMOL aMPA aMS aMU_A bF bG bL bM bS bV bW aMV bMEGA aMW bMEGA aNA
     aNANO aNF aNM aNOTTO aNS aNV aNW aONSU aOOMU aORIGINAL_OF cOR_EQUAL_TO dNOT_EQUAL_TO aOV aPA
     bAMPS aPAASENTO aPAATU aPC aPEEZI aPENIHI aPENSU aPESO aPF aPH aPIASUTORU aPIKO aPIKURU aPM
     aPOINTO aPONDO aPOSITION_INDICATOR aPPM aPR aPS aPV aPW aRAD bOVER_S dSQUARED aREMU
     aRENTOGEN aRIGHT_OPEN_BOX_OPERATOR aRIRA aRITTORU aROOT aRUPII aRUUBURU aSAIKURU aSANTIIMU
     aSENTI aSENTO aSIRINGU aSR aSV aTARGET aTHZ aTON aUON aV_OVER_M aWATTO aWB
     aWITH_BOTTOM_HALF_BLACK bCONTOURED_OUTLINE bDIAGONAL_CROSSHATCH_FILL bHORIZONTAL_FILL
     bLEFT_HALF_BLACK bLOWER_LEFT_DIAGONAL_HALF_BLACK cRIGHT_DIAGONAL_HALF_BLACK
     bORTHOGONAL_CROSSHATCH_FILL bRIGHT_HALF_BLACK bTOP_HALF_BLACK
     bUPPER_LEFT_DIAGONAL_HALF_BLACK dTO_LOWER_RIGHT_FILL cRIGHT_DIAGONAL_HALF_BLACK
     dTO_LOWER_LEFT_FILL bVERTICAL_FILL aYAADO aYAARU aYUAN"),
    ("SQUARED", "aASTERISK aCJK_UNIFIED_IDEOGRAPH-4E00 cIDEOGRAPH-4E09 cIDEOGRAPH-4E2D
     cIDEOGRAPH-4E8C cIDEOGRAPH-4EA4 cIDEOGRAPH-518D cIDEOGRAPH-521D cIDEOGRAPH-524D
     cIDEOGRAPH-5272 cIDEOGRAPH-53CC cIDEOGRAPH-53F3 cIDEOGRAPH-5408 cIDEOGRAPH-5439
     cIDEOGRAPH-55B6 cIDEOGRAPH-58F0 cIDEOGRAPH-591A cIDEOGRAPH-5929 cIDEOGRAPH-5B57
     cIDEOGRAPH-5DE6 cIDEOGRAPH-5F8C cIDEOGRAPH-624B cIDEOGRAPH-6253 cIDEOGRAPH-6295
     cIDEOGRAPH-6307 cIDEOGRAPH-6355 cIDEOGRAPH-6599 cIDEOGRAPH-65B0 cIDEOGRAPH-6620
     cIDEOGRAPH-6708 cIDEOGRAPH-6709 cIDEOGRAPH-6E80 cIDEOGRAPH-6F14 cIDEOGRAPH-7121
     cIDEOGRAPH-751F cIDEOGRAPH-7533 cIDEOGRAPH-7981 cIDEOGRAPH-7A7A cIDEOGRAPH-7D42
     cIDEOGRAPH-89E3 cIDEOGRAPH-8CA9 cIDEOGRAPH-8D70 cIDEOGRAPH-904A cIDEOGRAPH-914D aCL aCOOL
     aDOT_OPERATOR aEIGHT_K aFALLING_DIAGONAL_SLASH aFIVE_POINT_ONE aFOUR_DOT_PUNCTUATION bK
     aFREE aHC aHDR aHI-RES aHV aID aKATAKANA_DE bKOKO bSA aKEY aLATIN_CAPITAL_LETTER_A dB dC dD
     dE dF dG dH dI dJ dK dL dM dN dO dP dQ dR dS dT dU dV dW dX dY dZ bSMALL_LETTER_D
     aLOGICAL_AND bOR aLOSSLESS aMINUS aMV aNEW aNG aOK aONE_HUNDRED_TWENTY_P aPLUS aPPV
     aRISING_DIAGONAL_SLASH aSALTIRE aSD aSECOND_SCREEN aSEVEN_POINT_ONE aSHV aSIXTY_P
     aSMALL_CIRCLE aSOS aSQUARE aSS aTHREE_D aTIMES aTWENTY-TWO_POINT_TWO aTWO_K aUHD
     aUP_WITH_EXCLAMATION_MARK aVOD aVS aWC"),
    ("SQUAT", "aBLACK_RIGHTWARDS_ARROW"),
    ("STAFF", "aOF_AESCULAPIUS bHERMES"),
    ("STAMPED", "aENVELOPE"),
    ("STANDING", "aPERSON"),
    ("STAR", "aAND_CRESCENT aEQUALS aOF_DAVID aOPERATOR aWITH_LEFT_HALF_BLACK bRIGHT_HALF_BLACK"),
    ("START", "aOF_GUARDED_AREA bHEADING bPROTECTED_AREA bSELECTED_AREA bSTRING bTEXT"),
    ("STATUE", "aOF_LIBERTY"),
    ("STEAM", "aLOCOMOTIVE"),
    ("STEAMING", "aBOWL"),
    ("STENOGRAPHIC", "aFULL_STOP"),
    ("STICK", "aFIGURE bLEANING_LEFT cRIGHT bWITH_ARMS_RAISED cDRESS"),
    ("STOCK", "aCHART"),
    ("STRAIGHT", "aRULER"),
    ("STRESS", "aOUTLINED_WHITE_STAR"),
    ("STRICTLY", "aEQUIVALENT_TO"),
    ("STRING", "aTERMINATOR"),
    ("STUDIO", "aMICROPHONE"),
    ("STUFFED", "aFLATBREAD"),
    ("SUBSCRIPT", "aEIGHT aEQUALS_SIGN aFIVE aFOUR aLEFT_PARENTHESIS aMINUS aNINE aONE aPLUS_SIGN
     aRIGHT_PARENTHESIS aSEVEN aSIX aTHREE aTWO aZERO"),
    ("SUBSET", "aABOVE_RIGHTWARDS_ARROW bSUBSET bSUPERSET aOF bABOVE_ALMOST_EQUAL_TO cEQUALS_SIGN
     cNOT_EQUAL_TO cTILDE_OPERATOR bOR_EQUAL_TO eWITH_DOT_ABOVE bWITH_NOT_EQUAL_TO aWITH_DOT
     bMULTIPLICATION_SIGN_BELOW bPLUS_SIGN_BELOW"),
    ("SUCCEEDS", "a aABOVE_ALMOST_EQUAL_TO bEQUALS_SIGN bNOT_ALMOST_EQUAL_TO cEQUAL_TO
     bSINGLE-LINE_EQUALS_SIGN cNOT_EQUAL_TO aBUT_NOT_EQUIVALENT_TO aOR_EQUAL_TO bEQUIVALENT_TO
     aUNDER_RELATION"),
    ("SUMMATION", "aBOTTOM aTOP aWITH_INTEGRAL"),
    ("SUN", "a aBEHIND_CLOUD aWITH_FACE"),
    ("SUNDANESE", "aAVAGRAHA aCONSONANT_SIGN_PAMINGKAL cPANYAKRA cPANYIKU cPASANGAN_MA dWA
     aDIGIT_EIGHT bFIVE bFOUR bNINE bONE bSEVEN bSIX bTHREE bTWO bZERO aLETTER_A bAE bBA bBHA bCA
     bDA bE bEU bFA bFINAL_K cM bGA bHA bI bJA bKA bKHA bLA bLEU bMA bNA bNGA bNYA bO bPA bQA bRA
     bREU bSA bSYA bTA bU bVA bWA bXA bYA bZA aPUNCTUATION_BINDU_BA_SATANGA cCAKRA cDA_SATANGA
     cKA_SATANGA cLEU_SATANGA cPANGLONG cPURNAMA cSURYA aSIGN_PAMAAEH bPANGLAYAR bPANGWISAD
     bPANYECEK bVIRAMA aVOWEL_SIGN_PAMEPET cPANAELAENG cPANEULEUNG cPANGHULU cPANOLONG cPANYUKU"),
    ("SUNRISE", "a aOVER_MOUNTAINS"),
    ("SUNSET", "aOVER_BUILDINGS"),
    ("SUPERSCRIPT", "aEIGHT aEQUALS_SIGN aFIVE aFOUR aLATIN_SMALL_LETTER_I dN aLEFT_PARENTHESIS
     aMINUS aNINE aONE aPLUS_SIGN aRIGHT_PARENTHESIS aSEVEN aSIX aTHREE aTWO aZERO"),
    ("SUPERSET", "aABOVE_LEFTWARDS_ARROW bSUBSET bSUPERSET aBESIDE_AND_JOINED_BY_DASH_WITH_SUBSET
     bSUBSET aOF bABOVE_ALMOST_EQUAL_TO cEQUALS_SIGN cNOT_EQUAL_TO cTILDE_OPERATOR bOR_EQUAL_TO
     eWITH_DOT_ABOVE bWITH_NOT_EQUAL_TO aPRECEDING_SOLIDUS aWITH_DOT bMULTIPLICATION_SIGN_BELOW
     bPLUS_SIGN_BELOW"),
    ("SURFACE", "aINTEGRAL"),
    ("SUSPENSION", "aRAILWAY"),
    ("SWASH", "aAMPERSAND_ORNAMENT"),
    ("SWUNG", "aDASH"),
    ("SYLOTI", "aNAGRI_LETTER_A cBHO cBO cCHO cCO cDDHO cDDO cDHO cDO cE cGHO cGO cHO cI cJHO cJO
     cKHO cKO cLO cMO cNO cO cPHO cPO cRO cRRO cSO cTHO cTO cTTHO cTTO cU bPOETRY_MARK-1 cMARK-2
     cMARK-3 cMARK-4 bSIGN_ALTERNATE_HASANTA cANUSVARA cDVISVARA cHASANTA bVOWEL_SIGN_A dE dI dOO
     dU"),
    ("SYMBOL", "aFOR_ACKNOWLEDGE bBACKSPACE bBELL bCANCEL bCARRIAGE_RETURN bDATA_LINK_ESCAPE
     bDELETE cFORM_TWO bDEVICE_CONTROL_FOUR dONE dTHREE dTWO bEND_OF_MEDIUM dTEXT dTRANSMISSION
     eBLOCK bENQUIRY bESCAPE bFILE_SEPARATOR bFORM_FEED bGROUP_SEPARATOR bHORIZONTAL_TABULATION
     bLINE_FEED bMARKS_CHAPTER bNEGATIVE_ACKNOWLEDGE bNEWLINE bNULL bRECORD_SEPARATOR
     bSAMARITAN_SOURCE bSHIFT_IN cOUT bSPACE bSTART_OF_HEADING dTEXT bSUBSTITUTE cFORM_TWO
     bSYNCHRONOUS_IDLE bTYPE_A_ELECTRONICS bUNIT_SEPARATOR bVERTICAL_TABULATION"),
    ("SYNCHRONOUS", "aIDLE"),
    ("SYRIAC", "aABBREVIATION_MARK aBARREKH aCOLON_SKEWED_LEFT cRIGHT aCONTRACTION
     aDOTTED_ZLAMA_ANGULAR cHORIZONTAL aEND_OF_PARAGRAPH aESASA_ABOVE bBELOW aFEMININE_DOT
     aHARKLEAN_ASTERISCUS bMETOBELUS bOBELUS aHBASA_ABOVE bBELOW aHBASA-ESASA_DOTTED
     aHORIZONTAL_COLON aLETTER_ALAPH bBETH bDALATH bDOTLESS_DALATH_RISH bE bFINAL_SEMKATH bGAMAL
     cGARSHUNI bHE bHETH bKAPH bLAMADH bMALAYALAM_BHA cJA cLLA cLLLA cNGA cNNA cNNNA cNYA cRA
     cSSA cTTA bMIM bNUN bPE bPERSIAN_BHETH cDHALATH cGHAMAL bQAPH bREVERSED_PE bRISH bSADHE
     bSEMKATH bSHIN bSOGDIAN_FE cKHAPH cZHAIN bSUPERSCRIPT_ALAPH bTAW bTETH cGARSHUNI bWAW bYUDH
     cHE bZAIN aMUSIC aOBLIQUE_LINE_ABOVE cBELOW aPTHAHA_ABOVE bBELOW bDOTTED aQUSHSHAYA
     aRBASA_ABOVE bBELOW aRUKKAKHA aRWAHA aSUBLINEAR_COLON cSKEWED_LEFT dRIGHT bFULL_STOP
     aSUPRALINEAR_COLON cSKEWED_LEFT bFULL_STOP aTHREE_DOTS_ABOVE cBELOW aTWO_VERTICAL_DOTS_ABOVE
     dBELOW aZQAPHA_ABOVE bBELOW bDOTTED")]

end Polyglot.CharacterName
