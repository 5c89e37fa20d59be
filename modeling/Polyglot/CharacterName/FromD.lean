/-! # Names of characters that begin with D to G

A list of first words with what may follow each of them. There every entry begins with a letter
that tells how many words are taken from the entry before it: `a` for none, `b` for one and so on.
The words after those are joined by underlines.
-/

namespace Polyglot.CharacterName

/-- The names of several words that begin with D to G, by their first words. -/
def fromD : List (String × String) :=
  [("DAGGER", "a aKNIFE aWITH_LEFT_GUARD bRIGHT_GUARD"),
    ("DALET", "aSYMBOL"),
    ("DARK", "aSHADE aSUNGLASSES"),
    ("DASH", "aSYMBOL aWITH_LEFT_UPTURN"),
    ("DASHED", "aLOW_LINE aOVERLINE aTRIANGLE-HEADED_RIGHTWARDS_ARROW"),
    ("DATA", "aLINK_ESCAPE"),
    ("DEAF", "aPERSON"),
    ("DECIDUOUS", "aTREE"),
    ("DECIMAL", "aEXPONENT_SYMBOL aSEPARATOR_KEY_SYMBOL"),
    ("DECREASE", "aFONT_SIZE_SYMBOL"),
    ("DEGREE", "aCELSIUS aFAHRENHEIT aSIGN"),
    ("DELIVERY", "aTRUCK"),
    ("DELTA", "aEQUAL_TO"),
    ("DENTISTRY", "aSYMBOL_LIGHT_DOWN_AND_HORIZONTAL fWITH_CIRCLE gTRIANGLE gWAVE
     cUP_AND_HORIZONTAL fWITH_CIRCLE gTRIANGLE gWAVE cVERTICAL_AND_BOTTOM_LEFT fRIGHT eTOP_LEFT
     fRIGHT eWAVE dWITH_CIRCLE eTRIANGLE"),
    ("DEPARTMENT", "aSTORE"),
    ("DERELICT", "aHOUSE_BUILDING"),
    ("DESCENDING", "aNODE"),
    ("DESERET", "aCAPITAL_LETTER_AY cBEE cCHEE cDEE cEF cEL cEM cEN cENG cER cES cESH cETH cEW
     cGAY cH cJEE cKAY cLONG_A dAH dE dI dO dOO cOI cOW cPEE cSHORT_A dAH dE dI dO dOO cTEE cTHEE
     cVEE cWU cYEE cZEE cZHEE aSMALL_LETTER_AY cBEE cCHEE cDEE cEF cEL cEM cEN cENG cER cES cESH
     cETH cEW cGAY cH cJEE cKAY cLONG_A dAH dE dI dO dOO cOI cOW cPEE cSHORT_A dAH dE dI dO dOO
     cTEE cTHEE cVEE cWU cYEE cZEE cZHEE"),
    ("DESERT", "a aISLAND"),
    ("DESKTOP", "aCOMPUTER aWINDOW"),
    ("DEVANAGARI", "aABBREVIATION_SIGN aACUTE_ACCENT aCARET aDANDA aDIGIT_EIGHT bFIVE bFOUR bNINE
     bONE bSEVEN bSIX bTHREE bTWO bZERO aDOUBLE_DANDA aGAP_FILLER aGRAVE_ACCENT aHEADSTROKE
     aJAIN_OM aLETTER_A bAA bAI bAU bAW bAY bBA bBBA bBHA bCA bCANDRA_A cE cO bCHA bDA bDDA bDDDA
     bDDDHA bDDHA bDHA bE bFA bGA bGGA bGHA bGHHA bGLOTTAL_STOP bHA bHEAVY_YA bI bII bJA bJHA
     bJJA bKA bKHA bKHHA bLA bLLA bLLLA bMA bMARWARI_DDA bNA bNGA bNNA bNNNA bNYA bO bOE bOOE bPA
     bPHA bQA bRA bRHA bRRA bSA bSHA bSHORT_A cE cO bSSA bTA bTHA bTTA bTTHA bU bUE bUU bUUE bVA
     bVOCALIC_L cLL cR cRR bYA bYYA bZA bZHA aOM aSIGN_ANUSVARA bAVAGRAHA bCANDRABINDU cAVAGRAHA
     cTHREE cTWO cVIRAMA bDOUBLE_CANDRABINDU_VIRAMA bHIGH_SPACING_DOT bINVERTED_CANDRABINDU
     bNUKTA bPUSHPIKA bSIDDHAM bSPACING_CANDRABINDU bVIRAMA bVISARGA aSTRESS_SIGN_ANUDATTA
     cUDATTA aVOWEL_SIGN_AA cAI cAU cAW cAY cCANDRA_E dLONG_E dO cE cI cII cO cOE cOOE
     cPRISHTHAMATRA_E cSHORT_E dO cU cUE cUU cUUE cVOCALIC_L dLL dR dRR"),
    ("DEVICE", "aCONTROL_FOUR bONE bSTRING bTHREE bTWO"),
    ("DIAMETER", "aSIGN"),
    ("DIAMOND", "aOPERATOR aSHAPE_WITH_A_DOT_INSIDE aTARGET aWITH_BOTTOM_HALF_BLACK
     bLEFT_HALF_BLACK bRIGHT_HALF_BLACK bTOP_HALF_BLACK"),
    ("DIE", "aFACE-1 aFACE-2 aFACE-3 aFACE-4 aFACE-5 aFACE-6"),
    ("DIESEL", "aLOCOMOTIVE"),
    ("DIFFERENCE", "aBETWEEN"),
    ("DIGIT", "aEIGHT bCOMMA bFULL_STOP aFIVE bCOMMA bFULL_STOP aFOUR bCOMMA bFULL_STOP aNINE
     bCOMMA bFULL_STOP aONE bCOMMA bFULL_STOP aSEVEN bCOMMA bFULL_STOP aSIX bCOMMA bFULL_STOP
     aTHREE bCOMMA bFULL_STOP aTWO bCOMMA bFULL_STOP aZERO bCOMMA bFULL_STOP"),
    ("DIGRAM", "aFOR_EARTH bEARTHLY_HEAVEN cHUMAN bGREATER_YANG cYIN bHEAVENLY_EARTH bHUMAN_EARTH
     bLESSER_YANG cYIN"),
    ("DIMENSION", "aORIGIN"),
    ("DINGBAT", "aCIRCLED_SANS-SERIF_DIGIT_EIGHT dFIVE dFOUR dNINE dONE dSEVEN dSIX dTHREE dTWO
     dZERO cNUMBER_TEN aNEGATIVE_CIRCLED_DIGIT_EIGHT dFIVE dFOUR dNINE dONE dSEVEN dSIX dTHREE
     dTWO cNUMBER_TEN cSANS-SERIF_DIGIT_EIGHT eFIVE eFOUR eNINE eONE eSEVEN eSIX eTHREE eTWO
     eZERO dNUMBER_TEN"),
    ("DIRECT", "aCURRENT_SYMBOL_FORM_TWO aHIT"),
    ("DISABLED", "aCAR"),
    ("DISAPPOINTED", "aBUT_RELIEVED_FACE aFACE"),
    ("DISCONTINUOUS", "aUNDERLINE_SYMBOL"),
    ("DISGUISED", "aFACE"),
    ("DITTO", "aMARK"),
    ("DIVES", "aAKURU_DIGIT_EIGHT cFIVE cFOUR cNINE cONE cSEVEN cSIX cTHREE cTWO cZERO
     bDOUBLE_DANDA bEND_OF_TEXT_MARK bGAP_FILLER bINITIAL_RA bLETTER_A cAA cBA cBHA cCA cCHA cDA
     cDDA cDDHA cDHA cE cGA cGHA cHA cI cII cJA cKA cKHA cLA cLLA cMA cNA cNGA cNNA cNYA cO cPA
     cPHA cRA cSA cSHA cSSA cTA cTHA cTTA cU cUU cVA cYA cYYA cZA bMEDIAL_RA cYA
     bPREFIXED_NASAL_SIGN bSIGN_ANUSVARA cCANDRABINDU cHALANTA cNUKTA bVIRAMA bVOWEL_SIGN_AA dAI
     dE dI dII dO dU dUU"),
    ("DIVING", "aMASK"),
    ("DIVISION", "aSIGN aSLASH aTIMES"),
    ("DIVORCE", "aSYMBOL"),
    ("DIYA", "aLAMP"),
    ("DIZZY", "aFACE aSYMBOL"),
    ("DNA", "aDOUBLE_HELIX"),
    ("DO", "aNOT_LITTER_SYMBOL"),
    ("DOCUMENT", "a aWITH_PICTURE bTEXT cAND_PICTURE"),
    ("DOES", "aNOT_CONTAIN_AS_MEMBER dNORMAL_SUBGROUP fOR_EQUAL bDIVIDE
     cWITH_REVERSED_NEGATION_SLASH bFORCE bPRECEDE cOR_EQUAL bPROVE bSUCCEED cOR_EQUAL"),
    ("DOG", "a aFACE"),
    ("DOGRA", "aABBREVIATION_SIGN aLETTER_A bAA bAI bAU bBA bBHA bCA bCHA bDA bDDA bDDHA bDHA bE
     bGA bGHA bHA bI bII bJA bJHA bKA bKHA bLA bMA bNA bNGA bNNA bNYA bO bPA bPHA bRA bRRA bSA
     bSHA bSSA bTA bTHA bTTA bTTHA bU bUU bVA bYA aSIGN_ANUSVARA bNUKTA bVIRAMA bVISARGA
     aVOWEL_SIGN_AA cAI cAU cE cI cII cO cU cUU cVOCALIC_R dRR"),
    ("DOLLAR", "aSIGN"),
    ("DOMINO", "aTILE_HORIZONTAL_BACK bHORIZONTAL-00-00 bHORIZONTAL-00-01 bHORIZONTAL-00-02
     bHORIZONTAL-00-03 bHORIZONTAL-00-04 bHORIZONTAL-00-05 bHORIZONTAL-00-06 bHORIZONTAL-01-00
     bHORIZONTAL-01-01 bHORIZONTAL-01-02 bHORIZONTAL-01-03 bHORIZONTAL-01-04 bHORIZONTAL-01-05
     bHORIZONTAL-01-06 bHORIZONTAL-02-00 bHORIZONTAL-02-01 bHORIZONTAL-02-02 bHORIZONTAL-02-03
     bHORIZONTAL-02-04 bHORIZONTAL-02-05 bHORIZONTAL-02-06 bHORIZONTAL-03-00 bHORIZONTAL-03-01
     bHORIZONTAL-03-02 bHORIZONTAL-03-03 bHORIZONTAL-03-04 bHORIZONTAL-03-05 bHORIZONTAL-03-06
     bHORIZONTAL-04-00 bHORIZONTAL-04-01 bHORIZONTAL-04-02 bHORIZONTAL-04-03 bHORIZONTAL-04-04
     bHORIZONTAL-04-05 bHORIZONTAL-04-06 bHORIZONTAL-05-00 bHORIZONTAL-05-01 bHORIZONTAL-05-02
     bHORIZONTAL-05-03 bHORIZONTAL-05-04 bHORIZONTAL-05-05 bHORIZONTAL-05-06 bHORIZONTAL-06-00
     bHORIZONTAL-06-01 bHORIZONTAL-06-02 bHORIZONTAL-06-03 bHORIZONTAL-06-04 bHORIZONTAL-06-05
     bHORIZONTAL-06-06 bVERTICAL_BACK bVERTICAL-00-00 bVERTICAL-00-01 bVERTICAL-00-02
     bVERTICAL-00-03 bVERTICAL-00-04 bVERTICAL-00-05 bVERTICAL-00-06 bVERTICAL-01-00
     bVERTICAL-01-01 bVERTICAL-01-02 bVERTICAL-01-03 bVERTICAL-01-04 bVERTICAL-01-05
     bVERTICAL-01-06 bVERTICAL-02-00 bVERTICAL-02-01 bVERTICAL-02-02 bVERTICAL-02-03
     bVERTICAL-02-04 bVERTICAL-02-05 bVERTICAL-02-06 bVERTICAL-03-00 bVERTICAL-03-01
     bVERTICAL-03-02 bVERTICAL-03-03 bVERTICAL-03-04 bVERTICAL-03-05 bVERTICAL-03-06
     bVERTICAL-04-00 bVERTICAL-04-01 bVERTICAL-04-02 bVERTICAL-04-03 bVERTICAL-04-04
     bVERTICAL-04-05 bVERTICAL-04-06 bVERTICAL-05-00 bVERTICAL-05-01 bVERTICAL-05-02
     bVERTICAL-05-03 bVERTICAL-05-04 bVERTICAL-05-05 bVERTICAL-05-06 bVERTICAL-06-00
     bVERTICAL-06-01 bVERTICAL-06-02 bVERTICAL-06-03 bVERTICAL-06-04 bVERTICAL-06-05
     bVERTICAL-06-06"),
    ("DONG", "aSIGN"),
    ("DOT", "aABOVE aMINUS aOPERATOR aPLUS"),
    ("DOTTED", "aCIRCLE aCROSS aFENCE aLINE_FACE aOBELOS aRIGHT-POINTING_ANGLE aSOLIDUS aSQUARE
     aTRANSPOSITION_MARKER"),
    ("DOUBLE", "aACUTE_ACCENT aCIRCLED_DIGIT_EIGHT cFIVE cFOUR cNINE cONE cSEVEN cSIX cTHREE cTWO
     bNUMBER_TEN aCOLON_EQUAL aCURLY_LOOP aDAGGER aDOWN_TACK aEXCLAMATION_MARK
     aHIGH-REVERSED-9_QUOTATION_MARK aHYPHEN aINTEGRAL aINTERSECTION
     aLEFT_ARC_GREATER-THAN_BRACKET aLOGICAL_AND bOR aLOW_LINE aLOW-9_QUOTATION_MARK
     aLOW-REVERSED-9_QUOTATION_MARK aNESTED_GREATER-THAN bLESS-THAN cWITH_UNDERBAR
     aOBLIQUE_HYPHEN aPLUS aPRECEDES aPRIME bQUOTATION_MARK aQUESTION_MARK
     aRIGHT_ARC_LESS-THAN_BRACKET aSOLIDUS_OPERATOR aSQUARE_INTERSECTION bUNION aSTACKED_COMMA
     aSTROKE_NOT_SIGN aSUBSET aSUCCEEDS aSUPERSET aSUSPENSION_MARK aUNION aUP_TACK aVERTICAL_BAR
     cDOUBLE_LEFT_TURNSTILE dRIGHT_TURNSTILE cLEFT_TURNSTILE bLINE aWAVY_OVERLINE"),
    ("DOUBLE-ENDED", "aMULTIMAP"),
    ("DOUBLE-LINE", "aEQUAL_TO_OR_GREATER-THAN dLESS-THAN aSLANTED_EQUAL_TO_OR_GREATER-THAN
     eLESS-THAN bGREATER-THAN_OR_EQUAL_TO bLESS-THAN_OR_EQUAL_TO"),
    ("DOUBLE-STRUCK", "aCAPITAL_C bGAMMA bH bN bP bPI bQ bR bZ aITALIC_CAPITAL_D bSMALL_D cE cI
     cJ aN-ARY_SUMMATION aSMALL_GAMMA bPI"),
    ("DOUBLED", "aFEMALE_SIGN aMALE_SIGN aSYMBOL"),
    ("DOVE", "aOF_PEACE"),
    ("DOWN", "aARROWHEAD aFISH_TAIL aRIGHT_DIAGONAL_ELLIPSIS aTACK bWITH_CIRCLE_BELOW"),
    ("DOWN-POINTING", "aRED_TRIANGLE aSMALL_RED_TRIANGLE aTRIANGLE_WITH_LEFT_HALF_BLACK
     cRIGHT_HALF_BLACK"),
    ("DOWNWARD", "aFACING_HOOK cWITH_DOT bNOTCHED_HOOK dWITH_DOT"),
    ("DOWNWARDS", "aANCORA aARROW bAND_RIGHT_ONE_EIGHTH_BLOCK bFROM_BAR
     bLEFTWARDS_OF_UPWARDS_ARROW bTO_BAR bWITH_CORNER_LEFTWARDS cDOUBLE_STROKE
     cEQUILATERAL_ARROWHEAD cHORIZONTAL_STROKE cLARGE_TRIANGLE_ARROWHEAD
     cMEDIUM_TRIANGLE_ARROWHEAD cNOTCHED_TAIL cSMALL_EQUILATERAL_ARROWHEAD dTRIANGLE_ARROWHEAD
     cTIP_LEFTWARDS dRIGHTWARDS aBLACK_ARROW bCIRCLED_WHITE_ARROW aCOMPRESSED_ARROW aDASHED_ARROW
     aDOUBLE_ARROW aFINGER-POST_ARROW
     aHARPOON_WITH_BARB_LEFT_BESIDE_DOWNWARDS_HARPOON_WITH_BARB_RIGHT
     fUPWARDS_HARPOON_WITH_BARB_RIGHT eFROM_BAR eTO_BAR dLEFTWARDS dRIGHT_FROM_BAR eTO_BAR
     dRIGHTWARDS aHEAVY_ARROW bCOMPRESSED_ARROW aPAIRED_ARROWS aQUADRUPLE_ARROW aROCKET
     aSANS-SERIF_ARROW aSQUARED_ARROW aTRIANGLE_ARROWHEAD aTRIANGLE-HEADED_ARROW
     cLEFTWARDS_OF_UPWARDS_TRIANGLE-HEADED_ARROW cTO_BAR cWITH_BOLD_SHAFT
     dDOUBLE_HORIZONTAL_STROKE dHEAVY_SHAFT dLONG_TIP_LEFTWARDS fRIGHTWARDS dMEDIUM_SHAFT
     dNARROW_SHAFT dVERY_HEAVY_SHAFT bDASHED_ARROW bPAIRED_ARROWS bZIGZAG_ARROW aTRIPLE_ARROW
     aTWO_HEADED_ARROW aTWO-HEADED_ARROW_WITH_TRIANGLE_ARROWHEADS aWHITE_ARROW
     cWITHIN_TRIANGLE_ARROWHEAD aZIGZAG_ARROW"),
    ("DRACHMA", "aSIGN"),
    ("DRAFTING", "aPOINT_RIGHTWARDS_ARROW"),
    ("DRAGON", "a aFACE"),
    ("DRIVE", "aSLOW_SIGN"),
    ("DROMEDARY", "aCAMEL"),
    ("DROOLING", "aFACE"),
    ("DROP", "aOF_BLOOD"),
    ("DRUM", "aWITH_DRUMSTICKS"),
    ("DUPLOYAN", "aAFFIX_ATTACHED_E_HOOK cI_HOOK cLEFT-TO-RIGHT_SECANT cSECANT cTAIL cTANGENT
     dHOOK bHIGH_ACUTE cCIRCLE cDOT cGRAVE cLINE cLONG_GRAVE cTIGHT_ACUTE cVERTICAL dSECANT cWAVE
     bLEFT_HORIZONTAL_SECANT bLOW_ACUTE cARROW cCIRCLE cDOT cGRAVE cLINE cLONG_GRAVE cTIGHT_ACUTE
     cVERTICAL dSECANT cWAVE bMID_HORIZONTAL_SECANT cVERTICAL_SECANT bRIGHT_HORIZONTAL_SECANT
     aDOUBLE_MARK aLETTER_A bAOU bB bD cS bDH bE bEE bEU bF cN bG cR_S bH bHL bI bIE bJ cM dS cN
     dS cS dWITH_DOT cWITH_DOT dDOTS_INSIDE_AND_ABOVE bK cM cR_S bKK bL bLH bLONG_I cU bM cN dS
     cS cWITH_DOT bN cM dS cS cWITH_DOT bNASAL_A cI cO cU bO bOA bOOH bOU bOW bP cN bPERNIN_AM
     cAN bR cS bRH bROMANIAN_I cU bS cJ dS cK dR cM cN cP dR cS cT dR cWITH_DOT eBELOW bSHORT_I
     bSLOAN_AN cDH cEE cEH cEN cJ cON cOW cU bT cR_S cS bTH bU cN bUH bUI bV bVOCALIC_M bW cR bWA
     bWEI bWH bWI bWO bWOW bX bXW bYE aPUNCTUATION_CHINOOK_FULL_STOP aSIGN_O_WITH_CROSS
     aTHICK_LETTER_SELECTOR"),
    ("E-MAIL", "aSYMBOL"),
    ("EAR", "a aOF_MAIZE bRICE aWITH_HEARING_AID"),
    ("EARTH", "a aGLOBE_AMERICAS bASIA-AUSTRALIA bEUROPE-AFRICA aGROUND"),
    ("EAST", "aSYRIAC_CROSS"),
    ("EDITORIAL", "aCORONIS"),
    ("EGYPTIAN", "aHIEROGLYPH_A001 bA002 bA003 bA004 bA005 bA005A bA006 bA006A bA006B bA007 bA008
     bA009 bA010 bA011 bA012 bA013 bA014 bA014A bA015 bA016 bA017 bA017A bA018 bA019 bA020 bA021
     bA022 bA023 bA024 bA025 bA026 bA027 bA028 bA029 bA030 bA031 bA032 bA032A bA033 bA034 bA035
     bA036 bA037 bA038 bA039 bA040 bA040A bA041 bA042 bA042A bA043 bA043A bA044 bA045 bA045A
     bA046 bA047 bA048 bA049 bA050 bA051 bA052 bA053 bA054 bA055 bA056 bA057 bA058 bA059 bA060
     bA061 bA062 bA063 bA064 bA065 bA066 bA067 bA068 bA069 bA070 bAA001 bAA002 bAA003 bAA004
     bAA005 bAA006 bAA007 bAA007A bAA007B bAA008 bAA009 bAA010 bAA011 bAA012 bAA013 bAA014 bAA015
     bAA016 bAA017 bAA018 bAA019 bAA020 bAA021 bAA022 bAA023 bAA024 bAA025 bAA026 bAA027 bAA028
     bAA029 bAA030 bAA031 bAA032 bB001 bB002 bB003 bB004 bB005 bB005A bB006 bB007 bB008 bB009
     bBEGIN_SEGMENT bC001 bC002 bC002A bC002B bC002C bC003 bC004 bC005 bC006 bC007 bC008 bC009
     bC010 bC010A bC011 bC012 bC013 bC014 bC015 bC016 bC017 bC018 bC019 bC020 bC021 bC022 bC023
     bC024 bD001 bD002 bD003 bD004 bD005 bD006 bD007 bD008 bD008A bD009 bD010 bD011 bD012 bD013
     bD014 bD015 bD016 bD017 bD018 bD019 bD020 bD021 bD022 bD023 bD024 bD025 bD026 bD027 bD027A
     bD028 bD029 bD030 bD031 bD031A bD032 bD033 bD034 bD034A bD035 bD036 bD037 bD038 bD039 bD040
     bD041 bD042 bD043 bD044 bD045 bD046 bD046A bD047 bD048 bD048A bD049 bD050 bD050A bD050B
     bD050C bD050D bD050E bD050F bD050G bD050H bD050I bD051 bD052 bD052A bD053 bD054 bD054A bD055
     bD056 bD057 bD058 bD059 bD060 bD061 bD062 bD063 bD064 bD065 bD066 bD067 bD067A bD067B bD067C
     bD067D bD067E bD067F bD067G bD067H bE001 bE002 bE003 bE004 bE005 bE006 bE007 bE008 bE008A
     bE009 bE009A bE010 bE011 bE012 bE013 bE014 bE015 bE016 bE016A bE017 bE017A bE018 bE019 bE020
     bE020A bE021 bE022 bE023 bE024 bE025 bE026 bE027 bE028 bE028A bE029 bE030 bE031 bE032 bE033
     bE034 bE034A bE036 bE037 bE038 bEND_SEGMENT bF001 bF001A bF002 bF003 bF004 bF005 bF006 bF007
     bF008 bF009 bF010 bF011 bF012 bF013 bF013A bF014 bF015 bF016 bF017 bF018 bF019 bF020 bF021
     bF021A bF022 bF023 bF024 bF025 bF026 bF027 bF028 bF029 bF030 bF031 bF031A bF032 bF033 bF034
     bF035 bF036 bF037 bF037A bF038 bF038A bF039 bF040 bF041 bF042 bF043 bF044 bF045 bF045A bF046
     bF046A bF047 bF047A bF048 bF049 bF050 bF051 bF051A bF051B bF051C bF052 bF053 bG001 bG002
     bG003 bG004 bG005 bG006 bG006A bG007 bG007A bG007B bG008 bG009 bG010 bG011 bG011A bG012
     bG013 bG014 bG015 bG016 bG017 bG018 bG019 bG020 bG020A bG021 bG022 bG023 bG024 bG025 bG026
     bG026A bG027 bG028 bG029 bG030 bG031 bG032 bG033 bG034 bG035 bG036 bG036A bG037 bG037A bG038
     bG039 bG040 bG041 bG042 bG043 bG043A bG044 bG045 bG045A bG046 bG047 bG048 bG049 bG050 bG051
     bG052 bG053 bG054 bH001 bH002 bH003 bH004 bH005 bH006 bH006A bH007 bH008 bHORIZONTAL_JOINER
     bI001 bI002 bI003 bI004 bI005 bI005A bI006 bI007 bI008 bI009 bI009A bI010 bI010A bI011
     bI011A bI012 bI013 bI014 bI015 bINSERT_AT_BOTTOM_END eSTART dTOP_END eSTART bK001 bK002
     bK003 bK004 bK005 bK006 bK007 bK008 bL001 bL002 bL002A bL003 bL004 bL005 bL006 bL006A bL007
     bL008 bM001 bM001A bM001B bM002 bM003 bM003A bM004 bM005 bM006 bM007 bM008 bM009 bM010
     bM010A bM011 bM012 bM012A bM012B bM012C bM012D bM012E bM012F bM012G bM012H bM013 bM014 bM015
     bM015A bM016 bM016A bM017 bM017A bM018 bM019 bM020 bM021 bM022 bM022A bM023 bM024 bM024A
     bM025 bM026 bM027 bM028 bM028A bM029 bM030 bM031 bM031A bM032 bM033 bM033A bM033B bM034
     bM035 bM036 bM037 bM038 bM039 bM040 bM040A bM041 bM042 bM043 bM044 bN001 bN002 bN003 bN004
     bN005 bN006 bN007 bN008 bN009 bN010 bN011 bN012 bN013 bN014 bN015 bN016 bN017 bN018 bN018A
     bN018B bN019 bN020 bN021 bN022 bN023 bN024 bN025 bN025A bN026 bN027 bN028 bN029 bN030 bN031
     bN032 bN033 bN033A bN034 bN034A bN035 bN035A bN036 bN037 bN037A bN038 bN039 bN040 bN041
     bN042 bNL001 bNL002 bNL003 bNL004 bNL005 bNL005A bNL006 bNL007 bNL008 bNL009 bNL010 bNL011
     bNL012 bNL013 bNL014 bNL015 bNL016 bNL017 bNL017A bNL018 bNL019 bNL020 bNU001 bNU002 bNU003
     bNU004 bNU005 bNU006 bNU007 bNU008 bNU009 bNU010 bNU010A bNU011 bNU011A bNU012 bNU013 bNU014
     bNU015 bNU016 bNU017 bNU018 bNU018A bNU019 bNU020 bNU021 bNU022 bNU022A bO001 bO001A bO002
     bO003 bO004 bO005 bO005A bO006 bO006A bO006B bO006C bO006D bO006E bO006F bO007 bO008 bO009
     bO010 bO010A bO010B bO010C bO011 bO012 bO013 bO014 bO015 bO016 bO017 bO018 bO019 bO019A
     bO020 bO020A bO021 bO022 bO023 bO024 bO024A bO025 bO025A bO026 bO027 bO028 bO029 bO029A
     bO030 bO030A bO031 bO032 bO033 bO033A bO034 bO035 bO036 bO036A bO036B bO036C bO036D bO037
     bO038 bO039 bO040 bO041 bO042 bO043 bO044 bO045 bO046 bO047 bO048 bO049 bO050 bO050A bO050B
     bO051 bOVERLAY_MIDDLE bP001 bP001A bP002 bP003 bP003A bP004 bP005 bP006 bP007 bP008 bP009
     bP010 bP011 bQ001 bQ002 bQ003 bQ004 bQ005 bQ006 bQ007 bR001 bR002 bR002A bR003 bR003A bR003B
     bR004 bR005 bR006 bR007 bR008 bR009 bR010 bR010A bR011 bR012 bR013 bR014 bR015 bR016 bR016A
     bR017 bR018 bR019 bR020 bR021 bR022 bR023 bR024 bR025 bR026 bR027 bR028 bR029 bS001 bS002
     bS002A bS003 bS004 bS005 bS006 bS006A bS007 bS008 bS009 bS010 bS011 bS012 bS013 bS014 bS014A
     bS014B bS015 bS016 bS017 bS017A bS018 bS019 bS020 bS021 bS022 bS023 bS024 bS025 bS026 bS026A
     bS026B bS027 bS028 bS029 bS030 bS031 bS032 bS033 bS034 bS035 bS035A bS036 bS037 bS038 bS039
     bS040 bS041 bS042 bS043 bS044 bS045 bS046 bT001 bT002 bT003 bT003A bT004 bT005 bT006 bT007
     bT007A bT008 bT008A bT009 bT009A bT010 bT011 bT011A bT012 bT013 bT014 bT015 bT016 bT016A
     bT017 bT018 bT019 bT020 bT021 bT022 bT023 bT024 bT025 bT026 bT027 bT028 bT029 bT030 bT031
     bT032 bT032A bT033 bT033A bT034 bT035 bT036 bU001 bU002 bU003 bU004 bU005 bU006 bU006A
     bU006B bU007 bU008 bU009 bU010 bU011 bU012 bU013 bU014 bU015 bU016 bU017 bU018 bU019 bU020
     bU021 bU022 bU023 bU023A bU024 bU025 bU026 bU027 bU028 bU029 bU029A bU030 bU031 bU032 bU032A
     bU033 bU034 bU035 bU036 bU037 bU038 bU039 bU040 bU041 bU042 bV001 bV001A bV001B bV001C
     bV001D bV001E bV001F bV001G bV001H bV001I bV002 bV002A bV003 bV004 bV005 bV006 bV007 bV007A
     bV007B bV008 bV009 bV010 bV011 bV011A bV011B bV011C bV012 bV012A bV012B bV013 bV014 bV015
     bV016 bV017 bV018 bV019 bV020 bV020A bV020B bV020C bV020D bV020E bV020F bV020G bV020H bV020I
     bV020J bV020K bV020L bV021 bV022 bV023 bV023A bV024 bV025 bV026 bV027 bV028 bV028A bV029
     bV029A bV030 bV030A bV031 bV031A bV032 bV033 bV033A bV034 bV035 bV036 bV037 bV037A bV038
     bV039 bV040 bV040A bVERTICAL_JOINER bW001 bW002 bW003 bW003A bW004 bW005 bW006 bW007 bW008
     bW009 bW009A bW010 bW010A bW011 bW012 bW013 bW014 bW014A bW015 bW016 bW017 bW017A bW018
     bW018A bW019 bW020 bW021 bW022 bW023 bW024 bW024A bW025 bX001 bX002 bX003 bX004 bX004A
     bX004B bX005 bX006 bX006A bX007 bX008 bX008A bY001 bY001A bY002 bY003 bY004 bY005 bY006
     bY007 bY008 bZ001 bZ002 bZ002A bZ002B bZ002C bZ002D bZ003 bZ003A bZ003B bZ004 bZ004A bZ005
     bZ005A bZ006 bZ007 bZ008 bZ009 bZ010 bZ011 bZ012 bZ013 bZ014 bZ015 bZ015A bZ015B bZ015C
     bZ015D bZ015E bZ015F bZ015G bZ015H bZ015I bZ016 bZ016A bZ016B bZ016C bZ016D bZ016E bZ016F
     bZ016G bZ016H"),
    ("EIGHT", "aPETALLED_OUTLINED_BLACK_FLORETTE aPOINTED_BLACK_STAR bPINWHEEL_STAR
     bRECTILINEAR_BLACK_STAR aSPOKED_ASTERISK aTEARDROP-SPOKED_PROPELLER_ASTERISK"),
    ("EIGHTH", "aNOTE"),
    ("EJECT", "aSYMBOL"),
    ("ELBASAN", "aLETTER_A bBE bCE bCHE bDE bDHE bE bEI bFE bGE bGHAMMA bGHE bGJE bHE bI bJE bKE
     bKHE bLE bLLE bME bNA bNDE bNE bNJE bO bPE bQE bRE bRRE bSE bSHE bTE bTHE bU bVE bXE bY bZE
     bZHE"),
    ("ELECTRIC", "aARROW aLIGHT_BULB aPLUG aTORCH"),
    ("ELECTRICAL", "aINTERSECTION"),
    ("ELEMENT", "aOF bOPENING_DOWNWARDS cUPWARDS bWITH_DOT_ABOVE cLONG_HORIZONTAL_STROKE cOVERBAR
     cTWO_HORIZONTAL_STROKES cUNDERBAR cVERTICAL_BAR_AT_END_OF_HORIZONTAL_STROKE"),
    ("ELYMAIC", "aLETTER_ALEPH bAYIN bBETH bDALETH bGIMEL bHE bHETH bKAPH bLAMEDH bMEM bNUN bPE
     bQOPH bRESH bSADHE bSAMEKH bSHIN bTAW bTETH bWAW bYODH bZAYIN aLIGATURE_ZAYIN-YODH"),
    ("EM", "aDASH aQUAD aSPACE"),
    ("EMOJI", "aCOMPONENT_BALD bCURLY_HAIR bRED_HAIR bWHITE_HAIR aMODIFIER_FITZPATRICK_TYPE-1-2
     cTYPE-3 cTYPE-4 cTYPE-5 cTYPE-6"),
    ("EMPHASIS", "aSYMBOL"),
    ("EMPTY", "aDOCUMENT aNEST aNOTE bPAD bPAGE aPAGE aPAGES aSET bWITH_LEFT_ARROW_ABOVE cOVERBAR
     cRIGHT_ARROW_ABOVE cSMALL_CIRCLE_ABOVE"),
    ("EN", "aDASH aQUAD aSPACE"),
    ("END", "aOF_GUARDED_AREA bLINE bMEDIUM bPROOF bPROTECTED_AREA bSELECTED_AREA bTEXT
     bTRANSMISSION cBLOCK aWITH_LEFTWARDS_ARROW_ABOVE"),
    ("ENTER", "aSYMBOL"),
    ("ENVELOPE", "a aWITH_DOWNWARDS_ARROW_ABOVE bLIGHTNING"),
    ("EQUAL", "aAND_PARALLEL_TO aTO_BY_DEFINITION bOR_GREATER-THAN cLESS-THAN cPRECEDES cSUCCEEDS"),
    ("EQUALS", "aCOLON aSIGN bABOVE_LEFTWARDS_ARROW cPLUS_SIGN cRIGHTWARDS_ARROW cTILDE_OPERATOR
     bAND_SLANTED_PARALLEL eWITH_TILDE_ABOVE bWITH_BUMPY_ABOVE cDOT_BELOW cINFINITY_BELOW
     cTWO_DOTS_ABOVE_AND_TWO_DOTS_BELOW aWITH_ASTERISK"),
    ("EQUIANGULAR", "aTO"),
    ("EQUIVALENT", "aTO aWITH_FOUR_DOTS_ABOVE"),
    ("ERASE", "aTO_THE_LEFT cRIGHT"),
    ("ERIS", "aFORM_ONE bTWO"),
    ("ERROR-BARRED", "aBLACK_CIRCLE bDIAMOND bSQUARE aWHITE_CIRCLE bDIAMOND bSQUARE"),
    ("ESTIMATED", "aSYMBOL"),
    ("ETHIOPIC", "aCOLON aCOMBINING_GEMINATION_AND_VOWEL_LENGTH_MARK cMARK bVOWEL_LENGTH_MARK
     aCOMMA aDIGIT_EIGHT bFIVE bFOUR bNINE bONE bSEVEN bSIX bTHREE bTWO aFULL_STOP aNUMBER_EIGHTY
     bFIFTY bFORTY bHUNDRED bNINETY bSEVENTY bSIXTY bTEN cTHOUSAND bTHIRTY bTWENTY
     aPARAGRAPH_SEPARATOR aPREFACE_COLON aQUESTION_MARK aSECTION_MARK aSEMICOLON aSYLLABLE_BA
     bBAA bBBA bBBAA bBBE bBBEE bBBI bBBO bBBU bBE bBEE bBI bBO bBOA bBU bBWA bBWE bBWEE bBWI bCA
     bCAA bCCA bCCAA bCCE bCCEE bCCHA bCCHAA bCCHE bCCHEE bCCHHA bCCHHAA bCCHHE bCCHHEE bCCHHI
     bCCHHO bCCHHU bCCHI bCCHO bCCHU bCCI bCCO bCCU bCE bCEE bCHA bCHAA bCHE bCHEE bCHI bCHO
     bCHOA bCHU bCHWA bCI bCO bCOA bCU bCWA bDA bDAA bDDA bDDAA bDDE bDDEE bDDHAA bDDHE bDDHEE
     bDDHI bDDHO bDDHU bDDI bDDO bDDOA bDDU bDDWA bDE bDEE bDI bDO bDOA bDU bDWA bDZAA bDZE bDZEE
     bDZI bDZO bDZU bFA bFAA bFE bFEE bFI bFO bFU bFWA bFWE bFWEE bFWI bFYA bGA bGAA bGE bGEE
     bGGA bGGAA bGGE bGGEE bGGI bGGO bGGU bGGWA bGGWAA bGGWE bGGWEE bGGWI bGI bGLOTTAL_A cAA cE
     cEE cI cO cOA cU cWA bGO bGOA bGU bGURAGE_BWEE cBWI cFWEE cFWI cGWE cGWEE cGWI cHHWA cKWE
     cKWEE cKWI cMWEE cMWI cPWEE cPWI cQWE cQWEE cQWI bGWA bGWAA bGWE bGWEE bGWI bGYA bGYAA bGYE
     bGYEE bGYI bGYO bGYU bHA bHAA bHE bHEE bHHA bHHAA bHHE bHHEE bHHI bHHO bHHU bHHWA bHHWE
     bHHWEE bHHWI bHHYA bHHYAA bHHYE bHHYEE bHHYI bHHYO bHHYU bHI bHO bHOA bHU bJA bJAA bJE bJEE
     bJI bJO bJOA bJU bJWA bKA bKAA bKE bKEE bKI bKO bKOA bKU bKWA bKWAA bKWE bKWEE bKWI bKXA
     bKXAA bKXE bKXEE bKXI bKXO bKXU bKXWA bKXWAA bKXWE bKXWEE bKXWI bKYA bKYAA bKYE bKYEE bKYI
     bKYO bKYU bLA bLAA bLE bLEE bLI bLO bLOA bLU bLWA bMA bMAA bME bMEE bMI bMO bMOA bMU bMWA
     bMWE bMWEE bMWI bMYA bNA bNAA bNE bNEE bNI bNO bNOA bNU bNWA bNYA bNYAA bNYE bNYEE bNYI bNYO
     bNYOA bNYU bNYWA bPA bPAA bPE bPEE bPHA bPHAA bPHARYNGEAL_A cAA cE cEE cI cO cU bPHE bPHEE
     bPHI bPHO bPHOA bPHU bPHWA bPI bPO bPOA bPU bPWA bPWE bPWEE bPWI bQA bQAA bQE bQEE bQHA
     bQHAA bQHE bQHEE bQHI bQHO bQHU bQHWA bQHWAA bQHWE bQHWEE bQHWI bQI bQO bQOA bQU bQWA bQWAA
     bQWE bQWEE bQWI bQYA bQYAA bQYE bQYEE bQYI bQYO bQYU bRA bRAA bRE bREE bRI bRO bROA bRU bRWA
     bRYA bSA bSAA bSE bSEBATBEIT_BWA cFWA cMWA cPWA bSEE bSHA bSHAA bSHE bSHEE bSHI bSHO bSHOA
     bSHU bSHWA bSI bSO bSOA bSSA bSSAA bSSE bSSEE bSSI bSSO bSSU bSU bSWA bSZA bSZAA bSZE bSZEE
     bSZI bSZO bSZU bSZWA bTA bTAA bTE bTEE bTHA bTHAA bTHE bTHEE bTHI bTHO bTHOA bTHU bTHWA bTI
     bTO bTOA bTSA bTSAA bTSE bTSEE bTSI bTSO bTSU bTSWA bTTHAA bTTHE bTTHEE bTTHI bTTHO bTTHU
     bTU bTWA bTZA bTZAA bTZE bTZEE bTZI bTZO bTZOA bTZU bVA bVAA bVE bVEE bVI bVO bVU bVWA bWA
     bWAA bWE bWEE bWI bWO bWOA bWU bXA bXAA bXE bXEE bXI bXO bXOA bXU bXWA bXWAA bXWE bXWEE bXWI
     bXYA bXYAA bXYE bXYEE bXYI bXYO bXYU bYA bYAA bYE bYEE bYI bYO bYOA bYU bZA bZAA bZE bZEE
     bZHA bZHAA bZHE bZHEE bZHI bZHO bZHU bZHWA bZI bZO bZOA bZU bZWA bZZA bZZAA bZZE bZZEE bZZI
     bZZO bZZU aTONAL_MARK_CHIRET cDERET cDERET-HIDET cDIFAT cHIDET cKENAT cKURT cRIKRIK
     cSHORT_RIKRIK cYIZET aWORDSPACE"),
    ("EULER", "aCONSTANT"),
    ("EURO", "aSIGN"),
    ("EURO-CURRENCY", "aSIGN"),
    ("EUROPEAN", "aCASTLE aPOST_OFFICE"),
    ("EVERGREEN", "aTREE"),
    ("EXCLAMATION", "aMARK aQUESTION_MARK"),
    ("EXPRESSIONLESS", "aFACE"),
    ("EXTENDED", "aARABIC-INDIC_DIGIT_EIGHT cFIVE cFOUR cNINE cONE cSEVEN cSIX cTHREE cTWO cZERO"),
    ("EXTRATERRESTRIAL", "aALIEN"),
    ("EXTREMELY", "aHEAVY_FIVE_SPOKED_ASTERISK bGREEK_CROSS bSALTIRE bSIX_SPOKED_ASTERISK
     bWHITE_CIRCLE cSQUARE"),
    ("FACE", "aHOLDING_BACK_TEARS aMASSAGE aPALM aSAVOURING_DELICIOUS_FOOD aSCREAMING_IN_FEAR
     aTHROWING_A_KISS aWITH_COLD_SWEAT bCOWBOY_HAT bDIAGONAL_MOUTH bFINGER_COVERING_CLOSED_LIPS
     bHEAD-BANDAGE bLOOK_OF_TRIUMPH bMEDICAL_MASK bMONOCLE bNO_GOOD_GESTURE bOK_GESTURE
     bONE_EYEBROW_RAISED bOPEN_EYES_AND_HAND_OVER_MOUTH cMOUTH dAND_COLD_SWEAT dVOMITING
     bPARTY_HORN_AND_PARTY_HAT bPEEKING_EYE bPLEADING_EYES bROLLING_EYES bSTUCK-OUT_TONGUE
     dAND_TIGHTLY-CLOSED_EYES eWINKING_EYE bTEARS_OF_JOY bTHERMOMETER bUNEVEN_EYES_AND_WAVY_MOUTH
     aWITHOUT_MOUTH"),
    ("FACSIMILE", "aSIGN"),
    ("FALLEN", "aLEAF"),
    ("FALLING", "aDIAGONAL_CROSSING_NORTH_EAST_ARROW cRISING_DIAGONAL
     bIN_WHITE_CIRCLE_IN_BLACK_SQUARE"),
    ("FARSI", "aSYMBOL"),
    ("FATHER", "aCHRISTMAS"),
    ("FAX", "aICON aMACHINE"),
    ("FEARFUL", "aFACE"),
    ("FEMALE", "aSIGN"),
    ("FEMININE", "aORDINAL_INDICATOR"),
    ("FERRIS", "aWHEEL"),
    ("FIELD", "aHOCKEY_STICK_AND_BALL"),
    ("FIGURE", "aDASH aSPACE"),
    ("FILE", "aCABINET aFOLDER aSEPARATOR"),
    ("FILM", "aFRAMES aPROJECTOR"),
    ("FINITE", "aPART_INTEGRAL"),
    ("FIRE", "a aENGINE aEXTINGUISHER"),
    ("FIREWORK", "aSPARKLER"),
    ("FIRST", "aPLACE_MEDAL aQUARTER_MOON cSYMBOL cWITH_FACE aSTRONG_ISOLATE"),
    ("FISH", "a aCAKE_WITH_SWIRL_DESIGN"),
    ("FISHING", "aPOLE_AND_FISH"),
    ("FISTED", "aHAND_SIGN"),
    ("FIVE", "aDOT_MARK bPUNCTUATION"),
    ("FLAG", "aIN_HOLE"),
    ("FLAT", "aSHOE"),
    ("FLEXED", "aBICEPS"),
    ("FLOPPY", "aDISK"),
    ("FLORAL", "aHEART"),
    ("FLOWER", "a aPLAYING_CARDS aPUNCTUATION_MARK"),
    ("FLUSHED", "aFACE"),
    ("FLYING", "aDISC aENVELOPE aSAUCER"),
    ("FOR", "aALL"),
    ("FORK", "aAND_KNIFE cWITH_PLATE"),
    ("FORKED", "aPARAGRAPHOS"),
    ("FORM", "aFEED"),
    ("FORTUNE", "aCOOKIE"),
    ("FOUR", "aBALLOON-SPOKED_ASTERISK aCLUB-SPOKED_ASTERISK
     aCORNER_ARROWS_CIRCLING_ANTICLOCKWISE aDOT_MARK bPUNCTUATION aLEAF_CLOVER
     aPOINTED_BLACK_STAR aTEARDROP-SPOKED_ASTERISK"),
    ("FOUR-PER-EM", "aSPACE"),
    ("FOURTH", "aROOT"),
    ("FOX", "aFACE"),
    ("FRACTION", "aNUMERATOR_ONE aSLASH"),
    ("FRAME", "aWITH_AN_X bPICTURE bTILES"),
    ("FREEZING", "aFACE"),
    ("FRENCH", "aFRANC_SIGN aFRIES"),
    ("FRIED", "aSHRIMP"),
    ("FROG", "aFACE"),
    ("FRONT-FACING", "aBABY_CHICK"),
    ("FRONT-TILTED", "aSHADOWED_WHITE_RIGHTWARDS_ARROW"),
    ("FROWNING", "aFACE_WITH_OPEN_MOUTH"),
    ("FUEL", "aPUMP"),
    ("FULL", "aBLOCK aMOON_SYMBOL bWITH_FACE aOUTER_JOIN aSTOP"),
    ("FULLWIDTH", "aAMPERSAND aAPOSTROPHE aASTERISK aBROKEN_BAR aCENT_SIGN aCIRCUMFLEX_ACCENT
     aCOLON aCOMMA aCOMMERCIAL_AT aDIGIT_EIGHT bFIVE bFOUR bNINE bONE bSEVEN bSIX bTHREE bTWO
     bZERO aDOLLAR_SIGN aEQUALS_SIGN aEXCLAMATION_MARK aFULL_STOP aGRAVE_ACCENT
     aGREATER-THAN_SIGN aHYPHEN-MINUS aLATIN_CAPITAL_LETTER_A dB dC dD dE dF dG dH dI dJ dK dL dM
     dN dO dP dQ dR dS dT dU dV dW dX dY dZ bSMALL_LETTER_A dB dC dD dE dF dG dH dI dJ dK dL dM
     dN dO dP dQ dR dS dT dU dV dW dX dY dZ aLEFT_CURLY_BRACKET bPARENTHESIS bSQUARE_BRACKET
     bWHITE_PARENTHESIS aLESS-THAN_SIGN aLOW_LINE aMACRON aNOT_SIGN aNUMBER_SIGN aPERCENT_SIGN
     aPLUS_SIGN aPOUND_SIGN aQUESTION_MARK aQUOTATION_MARK aREVERSE_SOLIDUS aRIGHT_CURLY_BRACKET
     bPARENTHESIS bSQUARE_BRACKET bWHITE_PARENTHESIS aSEMICOLON aSOLIDUS aTILDE aVERTICAL_LINE
     aWON_SIGN aYEN_SIGN"),
    ("FUNCTION", "aAPPLICATION"),
    ("FUNERAL", "aURN"),
    ("GAME", "aDIE"),
    ("GEAR", "a aWITH_HANDLES aWITHOUT_HUB"),
    ("GEM", "aSTONE"),
    ("GEOMETRIC", "aPROPORTION"),
    ("GEOMETRICALLY", "aEQUAL_TO aEQUIVALENT_TO"),
    ("GEORGIAN", "aCAPITAL_LETTER_AEN cAN cBAN cCAN cCHAR cCHIN cCIL cDON cEN cGAN cGHAN cHAE
     cHAR cHE cHIE cHOE cIN cJHAN cJIL cKAN cKHAR cLAS cMAN cNAR cON cPAR cPHAR cQAR cRAE cSAN
     cSHIN cTAN cTAR cUN cVIN cWE cXAN cYN cZEN cZHAR aLETTER_AEN bAIN bAN bBAN bCAN bCHAR bCHIN
     bCIL bDON bELIFI bEN bFI bGAN bGHAN bHAE bHAR bHARD_SIGN bHE bHIE bHOE bIN bJHAN bJIL bKAN
     bKHAR bLABIAL_SIGN bLAS bMAN bNAR bON bPAR bPHAR bQAR bRAE bSAN bSHIN bTAN bTAR bTURNED_GAN
     bUN bVIN bWE bXAN bYN bZEN bZHAR aMTAVRULI_CAPITAL_LETTER_AEN dAIN dAN dBAN dCAN dCHAR dCHIN
     dCIL dDON dELIFI dEN dFI dGAN dGHAN dHAE dHAR dHARD_SIGN dHE dHIE dHOE dIN dJHAN dJIL dKAN
     dKHAR dLABIAL_SIGN dLAS dMAN dNAR dON dPAR dPHAR dQAR dRAE dSAN dSHIN dTAN dTAR dTURNED_GAN
     dUN dVIN dWE dXAN dYN dZEN dZHAR aPARAGRAPH_SEPARATOR aSMALL_LETTER_AEN cAN cBAN cCAN cCHAR
     cCHIN cCIL cDON cEN cGAN cGHAN cHAE cHAR cHE cHIE cHOE cIN cJHAN cJIL cKAN cKHAR cLAS cMAN
     cNAR cON cPAR cPHAR cQAR cRAE cSAN cSHIN cTAN cTAR cUN cVIN cWE cXAN cYN cZEN cZHAR"),
    ("GERMAN", "aPENNY_SIGN"),
    ("GETA", "aMARK"),
    ("GIMEL", "aSYMBOL"),
    ("GIRAFFE", "aFACE"),
    ("GIRLS", "aSYMBOL"),
    ("GLAGOLITIC", "aCAPITAL_LETTER_AZU cBIG_YUS cBUKY cCAUDATE_CHRIVI cCHRIVI cDJERVI cDOBRO
     cDZELO cFITA cFRITU cGLAGOLI cHERU cI cINITIAL_IZHE cIOTATED_BIG_YUS dSMALL_YUS cIZHE
     cIZHITSA cKAKO cLATINATE_MYSLITE cLJUDIJE cMYSLITE cNASHI cONU cOTU cPE cPOKOJI cRITSI cSHA
     cSHTA cSHTAPIC cSLOVO cSMALL_YUS eWITH_TAIL cSPIDERY_HA cTROKUTASTI_A cTSI cTVRIDO cUKU
     cVEDE cYATI cYERI cYERU cYESTU cYO cYU cZEMLJA cZHIVETE aSMALL_LETTER_AZU cBIG_YUS cBUKY
     cCAUDATE_CHRIVI cCHRIVI cDJERVI cDOBRO cDZELO cFITA cFRITU cGLAGOLI cHERU cI cINITIAL_IZHE
     cIOTATED_BIG_YUS dSMALL_YUS cIZHE cIZHITSA cKAKO cLATINATE_MYSLITE cLJUDIJE cMYSLITE cNASHI
     cONU cOTU cPE cPOKOJI cRITSI cSHA cSHTA cSHTAPIC cSLOVO cSMALL_YUS eWITH_TAIL cSPIDERY_HA
     cTROKUTASTI_A cTSI cTVRIDO cUKU cVEDE cYATI cYERI cYERU cYESTU cYO cYU cZEMLJA cZHIVETE"),
    ("GLASS", "aOF_MILK"),
    ("GLEICH", "aSTARK"),
    ("GLOBE", "aWITH_MERIDIANS"),
    ("GLOWING", "aSTAR"),
    ("GOAL", "aNET"),
    ("GOTHIC", "aLETTER_AHSA bAIHVUS bBAIRKAN bDAGS bEIS bFAIHU bGIBA bHAGL bHWAIR bIGGWS bIUJA
     bJER bKUSMA bLAGUS bMANNA bNAUTHS bNINE_HUNDRED bNINETY bOTHAL bPAIRTHRA bQAIRTHRA bRAIDA
     bSAUIL bTEIWS bTHIUTH bURUS bWINJA"),
    ("GRADUATION", "aCAP"),
    ("GRANTHA", "aAU_LENGTH_MARK aLETTER_A bAA bAI bAU bBA bBHA bCA bCHA bDA bDDA bDDHA bDHA bEE
     bGA bGHA bHA bI bII bJA bJHA bKA bKHA bLA bLLA bMA bNA bNGA bNNA bNYA bOO bPA bPHA bRA bSA
     bSHA bSSA bTA bTHA bTTA bTTHA bU bUU bVA bVEDIC_ANUSVARA cDOUBLE_ANUSVARA bVOCALIC_L cLL cR
     cRR bYA aOM aSIGN_ANUSVARA bAVAGRAHA bCANDRABINDU bCOMBINING_ANUSVARA_ABOVE bNUKTA bPLUTA
     bVIRAMA bVISARGA aVOWEL_SIGN_AA cAI cAU cEE cI cII cOO cU cUU cVOCALIC_L dLL dR dRR"),
    ("GRAVE", "aACCENT"),
    ("GREATER-THAN", "aABOVE_DOUBLE-LINE_EQUAL_ABOVE_LESS-THAN bLESS-THAN_ABOVE_DOUBLE-LINE_EQUAL
     bRIGHTWARDS_ARROW bSIMILAR_ABOVE_LESS-THAN cOR_EQUAL
     bSLANTED_EQUAL_ABOVE_LESS-THAN_ABOVE_SLANTED_EQUAL aAND_NOT_APPROXIMATE
     bSINGLE-LINE_NOT_EQUAL_TO aBESIDE_LESS-THAN aBUT_NOT_EQUAL_TO cEQUIVALENT_TO
     aCLOSED_BY_CURVE dABOVE_SLANTED_EQUAL aEQUAL_TO_OR_LESS-THAN aOR_APPROXIMATE bEQUAL_TO
     bEQUIVALENT_TO bLESS-THAN bSLANTED_EQUAL_TO eWITH_DOT_ABOVE hLEFT gINSIDE aOVER_EQUAL_TO
     aOVERLAPPING_LESS-THAN aSIGN aWITH_CIRCLE_INSIDE bDOT bQUESTION_MARK_ABOVE"),
    ("GREEK", "aACROPHONIC_ATTIC_FIFTY dSTATERS dTALENTS dTHOUSAND eSTATERS cFIVE dHUNDRED
     eSTATERS eTALENTS dSTATERS dTALENTS dTHOUSAND eTALENTS cONE_DRACHMA dHALF dHUNDRED_STATERS
     eTALENTS dQUARTER dTHOUSAND_STATERS eTALENTS cTEN_MNAS dSTATERS dTALENTS dTHOUSAND_STATERS
     bCARYSTIAN_FIVE_HUNDRED bCYRENAIC_TWO_DRACHMAS bDELPHIC_FIVE_MNAS bEPIDAUREAN_FIVE_HUNDRED
     cTWO dDRACHMAS bHERAEUM_ONE_PLETHRON bHERMIONIAN_FIFTY cONE cTEN bMESSENIAN_TEN
     bNAXIAN_FIVE_HUNDRED bSTRATIAN_FIFTY_MNAS bTHESPIAN_FIFTY cFIVE_HUNDRED dTHOUSAND cONE
     dHUNDRED dTHOUSAND cTEN cTHIRTY cTHREE_HUNDRED cTWO bTROEZENIAN_FIFTY dALTERNATE_FORM cFIVE
     dHUNDRED cTEN dALTERNATE_FORM aANO_TELEIA aAROURA_SIGN aARTABE_SIGN aBETA_SYMBOL
     aCAPITAL_DOTTED_LUNATE_SIGMA_SYMBOL bKAI_SYMBOL bLETTER_ALPHA dWITH_DASIA fAND_OXIA
     hAND_PROSGEGRAMMENI gPERISPOMENI hAND_PROSGEGRAMMENI gPROSGEGRAMMENI gVARIA
     hAND_PROSGEGRAMMENI eMACRON eOXIA ePROSGEGRAMMENI ePSILI fAND_OXIA hAND_PROSGEGRAMMENI
     gPERISPOMENI hAND_PROSGEGRAMMENI gPROSGEGRAMMENI gVARIA hAND_PROSGEGRAMMENI eTONOS eVARIA
     eVRACHY cARCHAIC_SAMPI cBETA cCHI cDELTA cEPSILON dWITH_DASIA fAND_OXIA gVARIA eOXIA ePSILI
     fAND_OXIA gVARIA eTONOS eVARIA cETA dWITH_DASIA fAND_OXIA hAND_PROSGEGRAMMENI gPERISPOMENI
     hAND_PROSGEGRAMMENI gPROSGEGRAMMENI gVARIA hAND_PROSGEGRAMMENI eOXIA ePROSGEGRAMMENI ePSILI
     fAND_OXIA hAND_PROSGEGRAMMENI gPERISPOMENI hAND_PROSGEGRAMMENI gPROSGEGRAMMENI gVARIA
     hAND_PROSGEGRAMMENI eTONOS eVARIA cGAMMA cHETA cIOTA dWITH_DASIA fAND_OXIA gPERISPOMENI
     gVARIA eDIALYTIKA eMACRON eOXIA ePSILI fAND_OXIA gPERISPOMENI gVARIA eTONOS eVARIA eVRACHY
     cKAPPA cLAMDA cMU cNU cOMEGA dWITH_DASIA fAND_OXIA hAND_PROSGEGRAMMENI gPERISPOMENI
     hAND_PROSGEGRAMMENI gPROSGEGRAMMENI gVARIA hAND_PROSGEGRAMMENI eOXIA ePROSGEGRAMMENI ePSILI
     fAND_OXIA hAND_PROSGEGRAMMENI gPERISPOMENI hAND_PROSGEGRAMMENI gPROSGEGRAMMENI gVARIA
     hAND_PROSGEGRAMMENI eTONOS eVARIA cOMICRON dWITH_DASIA fAND_OXIA gVARIA eOXIA ePSILI
     fAND_OXIA gVARIA eTONOS eVARIA cPAMPHYLIAN_DIGAMMA cPHI cPI cPSI cRHO dWITH_DASIA cSAN cSHO
     cSIGMA cTAU cTHETA cUPSILON dWITH_DASIA fAND_OXIA gPERISPOMENI gVARIA eDIALYTIKA eMACRON
     eOXIA eTONOS eVARIA eVRACHY cXI cYOT cZETA bLUNATE_SIGMA_SYMBOL
     bREVERSED_DOTTED_LUNATE_SIGMA_SYMBOL cLUNATE_SIGMA_SYMBOL bTHETA_SYMBOL aDASIA bAND_OXIA
     cPERISPOMENI cVARIA aDIALYTIKA_AND_OXIA cPERISPOMENI cVARIA bTONOS aDRACHMA_SIGN
     aFIVE_OBOLS_SIGN aFOUR_OBOLS_SIGN aGRAMMA_SIGN aINDICTION_SIGN
     aINSTRUMENTAL_NOTATION_SYMBOL-1 cSYMBOL-11 cSYMBOL-12 cSYMBOL-13 cSYMBOL-14 cSYMBOL-17
     cSYMBOL-18 cSYMBOL-19 cSYMBOL-2 cSYMBOL-23 cSYMBOL-24 cSYMBOL-25 cSYMBOL-26 cSYMBOL-27
     cSYMBOL-29 cSYMBOL-30 cSYMBOL-32 cSYMBOL-36 cSYMBOL-37 cSYMBOL-38 cSYMBOL-39 cSYMBOL-4
     cSYMBOL-40 cSYMBOL-42 cSYMBOL-43 cSYMBOL-45 cSYMBOL-47 cSYMBOL-48 cSYMBOL-49 cSYMBOL-5
     cSYMBOL-50 cSYMBOL-51 cSYMBOL-52 cSYMBOL-53 cSYMBOL-54 cSYMBOL-7 cSYMBOL-8 aKAI_SYMBOL
     aKAPPA_SYMBOL aKORONIS aKYATHOS_BASE_SIGN aLETTER_ARCHAIC_KOPPA bDIGAMMA bKOPPA bSAMPI
     bSMALL_CAPITAL_GAMMA dLAMDA dOMEGA dPI dPSI dRHO bSTIGMA bYOT aLITRA_SIGN
     aLOWER_NUMERAL_SIGN aLUNATE_EPSILON_SYMBOL bSIGMA_SYMBOL aMETRETES_SIGN aMUSICAL_LEIMMA
     aNUMERAL_SIGN aOBOL_SIGN aONE_HALF_SIGN dALTERNATE_FORM bQUARTER_SIGN aOUNKIA_SIGN aOXIA
     aPERISPOMENI aPHI_SYMBOL aPI_SYMBOL aPROSGEGRAMMENI aPSILI bAND_OXIA cPERISPOMENI cVARIA
     aQUESTION_MARK aREVERSED_LUNATE_EPSILON_SYMBOL aRHO_SYMBOL bWITH_STROKE_SYMBOL
     aSINUSOID_SIGN aSMALL_DOTTED_LUNATE_SIGMA_SYMBOL bLETTER_ALPHA dWITH_DASIA fAND_OXIA
     hAND_YPOGEGRAMMENI gPERISPOMENI hAND_YPOGEGRAMMENI gVARIA hAND_YPOGEGRAMMENI gYPOGEGRAMMENI
     eMACRON eOXIA fAND_YPOGEGRAMMENI ePERISPOMENI fAND_YPOGEGRAMMENI ePSILI fAND_OXIA
     hAND_YPOGEGRAMMENI gPERISPOMENI hAND_YPOGEGRAMMENI gVARIA hAND_YPOGEGRAMMENI gYPOGEGRAMMENI
     eTONOS eVARIA fAND_YPOGEGRAMMENI eVRACHY eYPOGEGRAMMENI cARCHAIC_KOPPA dSAMPI cBETA cCHI
     cDELTA cDIGAMMA cEPSILON dWITH_DASIA fAND_OXIA gVARIA eOXIA ePSILI fAND_OXIA gVARIA eTONOS
     eVARIA cETA dWITH_DASIA fAND_OXIA hAND_YPOGEGRAMMENI gPERISPOMENI hAND_YPOGEGRAMMENI gVARIA
     hAND_YPOGEGRAMMENI gYPOGEGRAMMENI eOXIA fAND_YPOGEGRAMMENI ePERISPOMENI fAND_YPOGEGRAMMENI
     ePSILI fAND_OXIA hAND_YPOGEGRAMMENI gPERISPOMENI hAND_YPOGEGRAMMENI gVARIA
     hAND_YPOGEGRAMMENI gYPOGEGRAMMENI eTONOS eVARIA fAND_YPOGEGRAMMENI eYPOGEGRAMMENI
     cFINAL_SIGMA cGAMMA cHETA cIOTA dWITH_DASIA fAND_OXIA gPERISPOMENI gVARIA eDIALYTIKA
     fAND_OXIA gPERISPOMENI gTONOS gVARIA eMACRON eOXIA ePERISPOMENI ePSILI fAND_OXIA
     gPERISPOMENI gVARIA eTONOS eVARIA eVRACHY cKAPPA cKOPPA cLAMDA cMU cNU cOMEGA dWITH_DASIA
     fAND_OXIA hAND_YPOGEGRAMMENI gPERISPOMENI hAND_YPOGEGRAMMENI gVARIA hAND_YPOGEGRAMMENI
     gYPOGEGRAMMENI eOXIA fAND_YPOGEGRAMMENI ePERISPOMENI fAND_YPOGEGRAMMENI ePSILI fAND_OXIA
     hAND_YPOGEGRAMMENI gPERISPOMENI hAND_YPOGEGRAMMENI gVARIA hAND_YPOGEGRAMMENI gYPOGEGRAMMENI
     eTONOS eVARIA fAND_YPOGEGRAMMENI eYPOGEGRAMMENI cOMICRON dWITH_DASIA fAND_OXIA gVARIA eOXIA
     ePSILI fAND_OXIA gVARIA eTONOS eVARIA cPAMPHYLIAN_DIGAMMA cPHI cPI cPSI cRHO dWITH_DASIA
     ePSILI cSAMPI cSAN cSHO cSIGMA cSTIGMA cTAU cTHETA cUPSILON dWITH_DASIA fAND_OXIA
     gPERISPOMENI gVARIA eDIALYTIKA fAND_OXIA gPERISPOMENI gTONOS gVARIA eMACRON eOXIA
     ePERISPOMENI ePSILI fAND_OXIA gPERISPOMENI gVARIA eTONOS eVARIA eVRACHY cXI cZETA
     bREVERSED_DOTTED_LUNATE_SIGMA_SYMBOL cLUNATE_SIGMA_SYMBOL aSUBSCRIPT_SMALL_LETTER_BETA dCHI
     dGAMMA dPHI dRHO aSYMBOL_TAU_RHO aTALENT_SIGN aTHETA_SYMBOL aTHREE_OBOLS_SIGN bQUARTERS_SIGN
     aTONOS aTRYBLION_BASE_SIGN aTWO_OBOLS_SIGN bTHIRDS_SIGN aUPSILON_WITH_ACUTE_AND_HOOK_SYMBOL
     cDIAERESIS_AND_HOOK_SYMBOL cHOOK_SYMBOL aVARIA aVOCAL_NOTATION_SYMBOL-1 cSYMBOL-10
     cSYMBOL-11 cSYMBOL-12 cSYMBOL-13 cSYMBOL-14 cSYMBOL-15 cSYMBOL-16 cSYMBOL-17 cSYMBOL-18
     cSYMBOL-19 cSYMBOL-2 cSYMBOL-20 cSYMBOL-21 cSYMBOL-22 cSYMBOL-23 cSYMBOL-24 cSYMBOL-3
     cSYMBOL-4 cSYMBOL-5 cSYMBOL-50 cSYMBOL-51 cSYMBOL-52 cSYMBOL-53 cSYMBOL-54 cSYMBOL-6
     cSYMBOL-7 cSYMBOL-8 cSYMBOL-9 aXESTES_SIGN aYEAR_SIGN aYPOGEGRAMMENI aZERO_SIGN"),
    ("GREEN", "aAPPLE aBOOK aHEART aSALAD"),
    ("GRIMACING", "aFACE"),
    ("GRINNING", "aCAT_FACE_WITH_SMILING_EYES aFACE bWITH_ONE_LARGE_AND_ONE_SMALL_EYE
     cSMILING_EYES cSTAR_EYES"),
    ("GROUP", "aMARK aSEPARATOR"),
    ("GROWING", "aHEART"),
    ("GUARANI", "aSIGN"),
    ("GUIDE", "aDOG"),
    ("GUJARATI", "aABBREVIATION_SIGN aDIGIT_EIGHT bFIVE bFOUR bNINE bONE bSEVEN bSIX bTHREE bTWO
     bZERO aLETTER_A bAA bAI bAU bBA bBHA bCA bCHA bDA bDDA bDDHA bDHA bE bGA bGHA bHA bI bII bJA
     bJHA bKA bKHA bLA bLLA bMA bNA bNGA bNNA bNYA bO bPA bPHA bRA bSA bSHA bSSA bTA bTHA bTTA
     bTTHA bU bUU bVA bVOCALIC_L cLL cR cRR bYA bZHA aOM aRUPEE_SIGN aSIGN_ANUSVARA bAVAGRAHA
     bCANDRABINDU bCIRCLE_NUKTA_ABOVE bMADDAH bNUKTA bSHADDA bSUKUN bTHREE-DOT_NUKTA_ABOVE
     bTWO-CIRCLE_NUKTA_ABOVE bVIRAMA bVISARGA aVOWEL_CANDRA_E cO bSIGN_AA cAI cAU cCANDRA_E dO cE
     cI cII cO cU cUU cVOCALIC_L dLL dR dRR"),
    ("GUNJALA", "aGONDI_DIGIT_EIGHT cFIVE cFOUR cNINE cONE cSEVEN cSIX cTHREE cTWO cZERO
     bLETTER_A cAA cAI cAU cBA cBHA cCA cCHA cDA cDDA cDDHA cDHA cEE cGA cGHA cHA cI cII cJA cJHA
     cKA cKHA cLA cLLA cMA cNA cNGA cOO cPA cPHA cRA cSA cTA cTHA cTTA cTTHA cU cUU cVA cYA bOM
     bSIGN_ANUSVARA cVISARGA bVIRAMA bVOWEL_SIGN_AA dAI dAU dEE dI dII dOO dU dUU"),
    ("GURMUKHI", "aABBREVIATION_SIGN aADDAK aDIGIT_EIGHT bFIVE bFOUR bNINE bONE bSEVEN bSIX
     bTHREE bTWO bZERO aEK_ONKAR aIRI aLETTER_A bAA bAI bAU bBA bBHA bCA bCHA bDA bDDA bDDHA bDHA
     bEE bFA bGA bGHA bGHHA bHA bI bII bJA bJHA bKA bKHA bKHHA bLA bLLA bMA bNA bNGA bNNA bNYA
     bOO bPA bPHA bRA bRRA bSA bSHA bTA bTHA bTTA bTTHA bU bUU bVA bYA bZA aSIGN_ADAK_BINDI
     bBINDI bNUKTA bUDAAT bVIRAMA bVISARGA bYAKASH aTIPPI aURA aVOWEL_SIGN_AA cAI cAU cEE cI cII
     cOO cU cUU")]

end Polyglot.CharacterName
