/-! # Names of characters that begin with H to K

A list of first words with what may follow each of them. There every entry begins with a letter
that tells how many words are taken from the entry before it: `a` for none, `b` for one and so on.
The words after those are joined by underlines.
-/

namespace Polyglot.CharacterName

/-- The names of several words that begin with H to K, by their first words. -/
def fromH : List (String × String) :=
  [("HAIR", "aSPACE"),
    ("HALFWIDTH", "aBLACK_SQUARE aDOWNWARDS_ARROW aFORMS_LIGHT_VERTICAL aHANGUL_FILLER bLETTER_A
     cAE cCHIEUCH cCIEUC cE cEO cEU cHIEUH cI cIEUNG cKHIEUKH cKIYEOK cKIYEOK-SIOS cMIEUM cNIEUN
     cNIEUN-CIEUC cNIEUN-HIEUH cO cOE cPHIEUPH cPIEUP cPIEUP-SIOS cRIEUL cRIEUL-HIEUH
     cRIEUL-KIYEOK cRIEUL-MIEUM cRIEUL-PHIEUPH cRIEUL-PIEUP cRIEUL-SIOS cRIEUL-THIEUTH cSIOS
     cSSANGCIEUC cSSANGKIYEOK cSSANGPIEUP cSSANGSIOS cSSANGTIKEUT cTHIEUTH cTIKEUT cU cWA cWAE
     cWE cWEO cWI cYA cYAE cYE cYEO cYI cYO cYU aIDEOGRAPHIC_COMMA bFULL_STOP aKATAKANA_LETTER_A
     cE cHA cHE cHI cHO cHU cI cKA cKE cKI cKO cKU cMA cME cMI cMO cMU cN cNA cNE cNI cNO cNU cO
     cRA cRE cRI cRO cRU cSA cSE cSI cSMALL_A dE dI dO dTU dU dYA dYO dYU cSO cSU cTA cTE cTI cTO
     cTU cU cWA cWO cYA cYO cYU bMIDDLE_DOT bSEMI-VOICED_SOUND_MARK bVOICED_SOUND_MARK
     aKATAKANA-HIRAGANA_PROLONGED_SOUND_MARK aLEFT_CORNER_BRACKET aLEFTWARDS_ARROW
     aRIGHT_CORNER_BRACKET aRIGHTWARDS_ARROW aUPWARDS_ARROW aWHITE_CIRCLE"),
    ("HAMMER", "a aAND_PICK bSICKLE bWRENCH"),
    ("HAMSTER", "aFACE"),
    ("HAND", "aWITH_INDEX_AND_MIDDLE_FINGERS_CROSSED cFINGER_AND_THUMB_CROSSED"),
    ("HANGUL", "aCHOSEONG_CEONGCHIEUMCHIEUCH bCEONGCHIEUMCIEUC bCEONGCHIEUMSIOS
     bCEONGCHIEUMSSANGCIEUC bCEONGCHIEUMSSANGSIOS bCHIEUCH bCHIEUCH-HIEUH bCHIEUCH-KHIEUKH
     bCHITUEUMCHIEUCH bCHITUEUMCIEUC bCHITUEUMSIOS bCHITUEUMSSANGCIEUC bCHITUEUMSSANGSIOS bCIEUC
     bCIEUC-IEUNG bFILLER bHIEUH bHIEUH-SIOS bIEUNG bIEUNG-CHIEUCH bIEUNG-CIEUC bIEUNG-HIEUH
     bIEUNG-KIYEOK bIEUNG-MIEUM bIEUNG-PANSIOS bIEUNG-PHIEUPH bIEUNG-PIEUP bIEUNG-RIEUL
     bIEUNG-SIOS bIEUNG-THIEUTH bIEUNG-TIKEUT bKAPYEOUNMIEUM bKAPYEOUNPHIEUPH bKAPYEOUNPIEUP
     bKAPYEOUNRIEUL bKAPYEOUNSSANGPIEUP bKHIEUKH bKIYEOK bKIYEOK-TIKEUT bMIEUM bMIEUM-KIYEOK
     bMIEUM-PIEUP bMIEUM-SIOS bMIEUM-TIKEUT bNIEUN bNIEUN-CIEUC bNIEUN-HIEUH bNIEUN-KIYEOK
     bNIEUN-PIEUP bNIEUN-SIOS bNIEUN-TIKEUT bPANSIOS bPHIEUPH bPHIEUPH-HIEUH bPHIEUPH-PIEUP
     bPIEUP bPIEUP-CHIEUCH bPIEUP-CIEUC bPIEUP-HIEUH bPIEUP-KHIEUKH bPIEUP-KIYEOK bPIEUP-NIEUN
     bPIEUP-PHIEUPH bPIEUP-SIOS bPIEUP-SIOS-CIEUC bPIEUP-SIOS-KIYEOK bPIEUP-SIOS-PIEUP
     bPIEUP-SIOS-THIEUTH bPIEUP-SIOS-TIKEUT bPIEUP-SSANGSIOS bPIEUP-THIEUTH bPIEUP-TIKEUT bRIEUL
     bRIEUL-CIEUC bRIEUL-HIEUH bRIEUL-KAPYEOUNPIEUP bRIEUL-KHIEUKH bRIEUL-KIYEOK bRIEUL-MIEUM
     bRIEUL-NIEUN bRIEUL-PIEUP bRIEUL-SIOS bRIEUL-SSANGKIYEOK bRIEUL-SSANGPIEUP
     bRIEUL-SSANGTIKEUT bRIEUL-TIKEUT bSIOS bSIOS-CHIEUCH bSIOS-CIEUC bSIOS-HIEUH bSIOS-IEUNG
     bSIOS-KHIEUKH bSIOS-KIYEOK bSIOS-MIEUM bSIOS-NIEUN bSIOS-PHIEUPH bSIOS-PIEUP
     bSIOS-PIEUP-KIYEOK bSIOS-RIEUL bSIOS-SSANGSIOS bSIOS-THIEUTH bSIOS-TIKEUT bSSANGCIEUC
     bSSANGCIEUC-HIEUH bSSANGHIEUH bSSANGIEUNG bSSANGKIYEOK bSSANGNIEUN bSSANGPIEUP bSSANGRIEUL
     bSSANGSIOS bSSANGSIOS-PIEUP bSSANGTHIEUTH bSSANGTIKEUT bSSANGYEORINHIEUH bTHIEUTH bTIKEUT
     bTIKEUT-CIEUC bTIKEUT-KIYEOK bTIKEUT-MIEUM bTIKEUT-PIEUP bTIKEUT-RIEUL bTIKEUT-SIOS
     bYEORINHIEUH bYESIEUNG aDOUBLE_DOT_TONE_MARK aFILLER aJONGSEONG_CHIEUCH bCIEUC bCIEUC-PIEUP
     bCIEUC-SSANGPIEUP bHIEUH bHIEUH-MIEUM bHIEUH-NIEUN bHIEUH-PIEUP bHIEUH-RIEUL bIEUNG
     bIEUNG-KHIEUKH bIEUNG-KIYEOK bIEUNG-SSANGKIYEOK bKAPYEOUNMIEUM bKAPYEOUNPHIEUPH
     bKAPYEOUNPIEUP bKAPYEOUNRIEUL bKHIEUKH bKIYEOK bKIYEOK-CHIEUCH bKIYEOK-HIEUH bKIYEOK-KHIEUKH
     bKIYEOK-NIEUN bKIYEOK-PIEUP bKIYEOK-RIEUL bKIYEOK-SIOS bKIYEOK-SIOS-KIYEOK bMIEUM
     bMIEUM-CHIEUCH bMIEUM-CIEUC bMIEUM-HIEUH bMIEUM-KIYEOK bMIEUM-NIEUN bMIEUM-PANSIOS
     bMIEUM-PIEUP bMIEUM-PIEUP-SIOS bMIEUM-RIEUL bMIEUM-SIOS bMIEUM-SSANGNIEUN bMIEUM-SSANGSIOS
     bNIEUN bNIEUN-CHIEUCH bNIEUN-CIEUC bNIEUN-HIEUH bNIEUN-KIYEOK bNIEUN-PANSIOS bNIEUN-RIEUL
     bNIEUN-SIOS bNIEUN-THIEUTH bNIEUN-TIKEUT bPANSIOS bPANSIOS-KAPYEOUNPIEUP bPANSIOS-PIEUP
     bPHIEUPH bPHIEUPH-PIEUP bPHIEUPH-SIOS bPHIEUPH-THIEUTH bPIEUP bPIEUP-CHIEUCH bPIEUP-CIEUC
     bPIEUP-HIEUH bPIEUP-MIEUM bPIEUP-PHIEUPH bPIEUP-RIEUL bPIEUP-RIEUL-PHIEUPH bPIEUP-SIOS
     bPIEUP-SIOS-TIKEUT bPIEUP-TIKEUT bRIEUL bRIEUL-HIEUH bRIEUL-KAPYEOUNPIEUP bRIEUL-KHIEUKH
     bRIEUL-KIYEOK bRIEUL-KIYEOK-HIEUH bRIEUL-KIYEOK-SIOS bRIEUL-MIEUM bRIEUL-MIEUM-HIEUH
     bRIEUL-MIEUM-KIYEOK bRIEUL-MIEUM-SIOS bRIEUL-NIEUN bRIEUL-PANSIOS bRIEUL-PHIEUPH
     bRIEUL-PIEUP bRIEUL-PIEUP-HIEUH bRIEUL-PIEUP-PHIEUPH bRIEUL-PIEUP-SIOS bRIEUL-PIEUP-TIKEUT
     bRIEUL-SIOS bRIEUL-SSANGKIYEOK bRIEUL-SSANGSIOS bRIEUL-THIEUTH bRIEUL-TIKEUT
     bRIEUL-TIKEUT-HIEUH bRIEUL-YEORINHIEUH bRIEUL-YEORINHIEUH-HIEUH bRIEUL-YESIEUNG bSIOS
     bSIOS-CHIEUCH bSIOS-CIEUC bSIOS-HIEUH bSIOS-KAPYEOUNPIEUP bSIOS-KIYEOK bSIOS-MIEUM
     bSIOS-PANSIOS bSIOS-PIEUP bSIOS-RIEUL bSIOS-THIEUTH bSIOS-TIKEUT bSSANGCIEUC bSSANGIEUNG
     bSSANGKIYEOK bSSANGMIEUM bSSANGNIEUN bSSANGPIEUP bSSANGRIEUL bSSANGRIEUL-KHIEUKH bSSANGSIOS
     bSSANGSIOS-KIYEOK bSSANGSIOS-TIKEUT bSSANGTIKEUT bSSANGTIKEUT-PIEUP bSSANGYESIEUNG bTHIEUTH
     bTIKEUT bTIKEUT-CHIEUCH bTIKEUT-CIEUC bTIKEUT-KIYEOK bTIKEUT-PIEUP bTIKEUT-RIEUL
     bTIKEUT-SIOS bTIKEUT-SIOS-KIYEOK bTIKEUT-THIEUTH bYEORINHIEUH bYESIEUNG bYESIEUNG-HIEUH
     bYESIEUNG-KHIEUKH bYESIEUNG-KIYEOK bYESIEUNG-MIEUM bYESIEUNG-PANSIOS bYESIEUNG-SIOS
     bYESIEUNG-SSANGKIYEOK aJUNGSEONG_A bA-EU bA-O bA-U bAE bARAEA bARAEA-A bARAEA-E bARAEA-EO
     bARAEA-I bARAEA-U bE bEO bEO-EU bEO-O bEO-U bEU bEU-A bEU-E bEU-EO bEU-EU bEU-O bEU-U
     bFILLER bI bI-A bI-ARAEA bI-EU bI-I bI-O bI-O-I bI-U bI-YA bI-YA-O bI-YAE bI-YE bI-YEO bI-YO
     bI-YU bO bO-E bO-EO bO-O bO-O-I bO-U bO-YA bO-YAE bO-YE bO-YEO bOE bSSANGARAEA bU bU-A bU-AE
     bU-EO-EU bU-I-I bU-U bU-YE bU-YEO bWA bWAE bWE bWEO bWI bYA bYA-O bYA-U bYA-YO bYAE bYE bYEO
     bYEO-O bYEO-U bYEO-YA bYI bYI-U bYO bYO-A bYO-AE bYO-EO bYO-I bYO-O bYO-YA bYO-YAE bYO-YEO
     bYU bYU-A bYU-AE bYU-E bYU-EO bYU-I bYU-O bYU-U bYU-YE bYU-YEO aLETTER_A bAE bARAEA bARAEAE
     bCHIEUCH bCIEUC bE bEO bEU bHIEUH bI bIEUNG bKAPYEOUNMIEUM bKAPYEOUNPHIEUPH bKAPYEOUNPIEUP
     bKAPYEOUNSSANGPIEUP bKHIEUKH bKIYEOK bKIYEOK-SIOS bMIEUM bMIEUM-PANSIOS bMIEUM-PIEUP
     bMIEUM-SIOS bNIEUN bNIEUN-CIEUC bNIEUN-HIEUH bNIEUN-PANSIOS bNIEUN-SIOS bNIEUN-TIKEUT bO bOE
     bPANSIOS bPHIEUPH bPIEUP bPIEUP-CIEUC bPIEUP-KIYEOK bPIEUP-SIOS bPIEUP-SIOS-KIYEOK
     bPIEUP-SIOS-TIKEUT bPIEUP-THIEUTH bPIEUP-TIKEUT bRIEUL bRIEUL-HIEUH bRIEUL-KIYEOK
     bRIEUL-KIYEOK-SIOS bRIEUL-MIEUM bRIEUL-PANSIOS bRIEUL-PHIEUPH bRIEUL-PIEUP bRIEUL-PIEUP-SIOS
     bRIEUL-SIOS bRIEUL-THIEUTH bRIEUL-TIKEUT bRIEUL-YEORINHIEUH bSIOS bSIOS-CIEUC bSIOS-KIYEOK
     bSIOS-NIEUN bSIOS-PIEUP bSIOS-TIKEUT bSSANGCIEUC bSSANGHIEUH bSSANGIEUNG bSSANGKIYEOK
     bSSANGNIEUN bSSANGPIEUP bSSANGSIOS bSSANGTIKEUT bTHIEUTH bTIKEUT bU bWA bWAE bWE bWEO bWI
     bYA bYAE bYE bYEO bYEORINHIEUH bYESIEUNG bYESIEUNG-PANSIOS bYESIEUNG-SIOS bYI bYO bYO-I
     bYO-YA bYO-YAE bYU bYU-I bYU-YE bYU-YEO aSINGLE_DOT_TONE_MARK"),
    ("HANGZHOU", "aNUMERAL_EIGHT bFIVE bFOUR bNINE bONE bSEVEN bSIX bTEN bTHIRTY bTHREE bTWENTY
     bTWO"),
    ("HANIFI", "aROHINGYA_DIGIT_EIGHT cFIVE cFOUR cNINE cONE cSEVEN cSIX cTHREE cTWO cZERO
     bLETTER_A cBA cCA cDA cDDA cFA cGA cHA cJA cKA cKHA cKINNA_WA dYA cLA cMA cNA cNGA cNYA cPA
     cRA cRRA cSA cSHA cTA cTTA cVA cWA cYA cZA bMARK_NA_KHONNA cSAKIN bSIGN_HARBAHAY cTAHALA
     cTANA cTASSI bVOWEL_A cE cI cO cU"),
    ("HANUNOO", "aLETTER_A bBA bDA bGA bHA bI bKA bLA bMA bNA bNGA bPA bRA bSA bTA bU bWA bYA
     aSIGN_PAMUDPOD aVOWEL_SIGN_I cU"),
    ("HAPPY", "aPERSON_RAISING_ONE_HAND"),
    ("HARD", "aDISK"),
    ("HATCHING", "aCHICK"),
    ("HATRAN", "aLETTER_ALEPH bAYN bBETH bDALETH-RESH bGIMEL bHE bHETH bKAPH bLAMEDH bMEM bNUN
     bPE bQOPH bSADHE bSAMEKH bSHIN bTAW bTETH bWAW bYODH bZAYN aNUMBER_FIVE bONE cHUNDRED bTEN
     bTWENTY"),
    ("HEADSTONE", "a aGRAVEYARD_SYMBOL"),
    ("HEAR-NO-EVIL", "aMONKEY"),
    ("HEART", "aDECORATION aHANDS aWITH_ARROW bRIBBON bTIP_ON_THE_LEFT"),
    ("HEAVY", "aAMPERSAND_ORNAMENT aARROW_SHAFT_WIDTH_ONE eHALF eTHIRD dTWO_THIRDS aASTERISK
     aBALLOT_X aBLACK_CURVED_DOWNWARDS_AND_RIGHTWARDS_ARROW cUPWARDS_AND_RIGHTWARDS_ARROW bHEART
     aBLACK-FEATHERED_NORTH_EAST_ARROW bRIGHTWARDS_ARROW bSOUTH_EAST_ARROW aCHECK_MARK
     aCHEVRON_SNOWFLAKE aCIRCLE bWITH_CIRCLE_INSIDE cSTROKE_AND_TWO_DOTS_ABOVE aCIRCLED_SALTIRE
     aCONCAVE-POINTED_BLACK_RIGHTWARDS_ARROW aDASHED_TRIANGLE-HEADED_RIGHTWARDS_ARROW
     aDIVISION_SIGN aDOLLAR_SIGN aDOUBLE_COMMA_QUOTATION_MARK_ORNAMENT
     bTURNED_COMMA_QUOTATION_MARK_ORNAMENT aDOWNWARDS_ARROW_WITH_EQUILATERAL_ARROWHEAD
     dLARGE_EQUILATERAL_ARROWHEAD aEIGHT_POINTED_BLACK_STAR cPINWHEEL_STAR
     cRECTILINEAR_BLACK_STAR bSPOKED_ASTERISK bTEARDROP-SPOKED_PROPELLER_ASTERISK aEQUALS_SIGN
     aEXCLAMATION_MARK_ORNAMENT cSYMBOL aFIVE_POINTED_BLACK_STAR bSPOKED_ASTERISK
     aFOUR_BALLOON-SPOKED_ASTERISK aGREEK_CROSS aHEART_EXCLAMATION_MARK_ORNAMENT aHORIZONTAL_FILL
     aINTERROBANG_ORNAMENT aLARGE_CIRCLE aLATIN_CROSS aLEFT-POINTING_ANGLE_BRACKET_ORNAMENT
     cQUOTATION_MARK_ORNAMENT aLEFTWARDS_ARROW_WITH_EQUILATERAL_ARROWHEAD
     dLARGE_EQUILATERAL_ARROWHEAD aLIGATURE_OPEN_ET_ORNAMENT
     aLOW_DOUBLE_COMMA_QUOTATION_MARK_ORNAMENT bSINGLE_COMMA_QUOTATION_MARK_ORNAMENT
     aLOWER_RIGHT-SHADOWED_WHITE_RIGHTWARDS_ARROW aMINUS_SIGN aMULTIPLICATION_X aNORTH_EAST_ARROW
     cPOINTING_BUD dVINE_LEAF bWEST_POINTING_BUD dVINE_LEAF aOPEN_CENTRE_CROSS
     aOUTLINED_BLACK_STAR aOVAL_WITH_OVAL_INSIDE aPLUS_SIGN
     aRIGHT-POINTING_ANGLE_BRACKET_ORNAMENT cQUOTATION_MARK_ORNAMENT aRIGHTWARDS_ARROW
     cWITH_EQUILATERAL_ARROWHEAD dLARGE_EQUILATERAL_ARROWHEAD aROUND-TIPPED_RIGHTWARDS_ARROW
     aSALTIRE aSANS-SERIF_INTERROBANG_ORNAMENT aSCRIPT_LIGATURE_ET_ORNAMENT
     aSINGLE_COMMA_QUOTATION_MARK_ORNAMENT bTURNED_COMMA_QUOTATION_MARK_ORNAMENT
     aSIX_POINTED_BLACK_STAR bSPOKED_ASTERISK aSOUTH_EAST_ARROW cPOINTING_BUD dVINE_LEAF
     bWEST_POINTING_BUD dVINE_LEAF aSPARKLE aTEARDROP-SHANKED_RIGHTWARDS_ARROW
     aTEARDROP-SPOKED_ASTERISK bPINWHEEL_ASTERISK aTRIANGLE-HEADED_RIGHTWARDS_ARROW
     aTWELVE_POINTED_BLACK_STAR cPINWHEEL_STAR aUPPER_RIGHT-SHADOWED_WHITE_RIGHTWARDS_ARROW
     aUPWARDS_ARROW_WITH_EQUILATERAL_ARROWHEAD dLARGE_EQUILATERAL_ARROWHEAD aVERTICAL_BAR
     aWEDGE-TAILED_RIGHTWARDS_ARROW aWHITE_CIRCLE bDOWN-POINTING_TRIANGLE bSQUARE
     aWIDE-HEADED_RIGHTWARDS_ARROW"),
    ("HEBREW", "aACCENT_ATNAH_HAFUKH bDARGA bDEHI bETNAHTA bGERESH cMUQDAM bGERSHAYIM bILUY
     bMAHAPAKH bMERKHA cKEFULA bMUNAH bOLE bPASHTA bPAZER bQADMA bQARNEY_PARA bREVIA bSEGOL
     bSHALSHELET bTELISHA_GEDOLA cQETANA bTEVIR bTIPEHA bYERAH_BEN_YOMO bYETIV bZAQEF_GADOL
     cQATAN bZARQA bZINOR aLETTER_ALEF cWITH_MAPIQ dPATAH dQAMATS bALTERNATIVE_AYIN cPLUS_SIGN
     bAYIN bBET cWITH_DAGESH dRAFE bDALET cWITH_DAGESH bFINAL_KAF dWITH_DAGESH cMEM cNUN cPE
     dWITH_DAGESH cTSADI bGIMEL cWITH_DAGESH bHE cWITH_MAPIQ bHET bKAF cWITH_DAGESH dRAFE bLAMED
     cWITH_DAGESH bMEM cWITH_DAGESH bNUN cWITH_DAGESH bPE cWITH_DAGESH dRAFE bQOF cWITH_DAGESH
     bRESH cWITH_DAGESH bSAMEKH cWITH_DAGESH bSHIN cWITH_DAGESH eAND_SHIN_DOT fSIN_DOT dSHIN_DOT
     dSIN_DOT bTAV cWITH_DAGESH bTET cWITH_DAGESH bTSADI cWITH_DAGESH bVAV cWITH_DAGESH dHOLAM
     bWIDE_ALEF cDALET cFINAL_MEM cHE cKAF cLAMED cRESH cTAV bYOD cWITH_DAGESH dHIRIQ bZAYIN
     cWITH_DAGESH aLIGATURE_ALEF_LAMED bYIDDISH_DOUBLE_VAV dYOD cVAV_YOD cYOD_YOD_PATAH
     aMARK_LOWER_DOT bMASORA_CIRCLE bUPPER_DOT aPOINT_DAGESH_OR_MAPIQ bHATAF_PATAH cQAMATS cSEGOL
     bHIRIQ bHOLAM cHASER_FOR_VAV bJUDEO-SPANISH_VARIKA bMETEG bPATAH bQAMATS cQATAN bQUBUTS
     bRAFE bSEGOL bSHEVA bSHIN_DOT bSIN_DOT bTSERE aPUNCTUATION_GERESH bGERSHAYIM bMAQAF
     bNUN_HAFUKHA bPASEQ bSOF_PASUQ aYOD_TRIANGLE"),
    ("HELLSCHREIBER", "aPAUSE_SYMBOL"),
    ("HELM", "aSYMBOL"),
    ("HELMET", "aWITH_WHITE_CROSS"),
    ("HENTAIGANA", "aLETTER_A-1 bA-2 bA-3 bA-WO bE-1 bE-2 bE-3 bE-4 bE-5 bE-6 bHA-1 bHA-10 bHA-11
     bHA-2 bHA-3 bHA-4 bHA-5 bHA-6 bHA-7 bHA-8 bHA-9 bHE-1 bHE-2 bHE-3 bHE-4 bHE-5 bHE-6 bHE-7
     bHI-1 bHI-2 bHI-3 bHI-4 bHI-5 bHI-6 bHI-7 bHO-1 bHO-2 bHO-3 bHO-4 bHO-5 bHO-6 bHO-7 bHO-8
     bHU-1 bHU-2 bHU-3 bI-1 bI-2 bI-3 bI-4 bKA-1 bKA-10 bKA-11 bKA-2 bKA-3 bKA-4 bKA-5 bKA-6
     bKA-7 bKA-8 bKA-9 bKA-KE bKE-1 bKE-2 bKE-3 bKE-4 bKE-5 bKE-6 bKI-1 bKI-2 bKI-3 bKI-4 bKI-5
     bKI-6 bKI-7 bKI-8 bKO-1 bKO-2 bKO-3 bKO-KI bKU-1 bKU-2 bKU-3 bKU-4 bKU-5 bKU-6 bKU-7 bMA-1
     bMA-2 bMA-3 bMA-4 bMA-5 bMA-6 bMA-7 bME-1 bME-2 bME-MA bMI-1 bMI-2 bMI-3 bMI-4 bMI-5 bMI-6
     bMI-7 bMO-1 bMO-2 bMO-3 bMO-4 bMO-5 bMO-6 bMU-1 bMU-2 bMU-3 bMU-4 bN-MU-MO-1 bN-MU-MO-2
     bNA-1 bNA-2 bNA-3 bNA-4 bNA-5 bNA-6 bNA-7 bNA-8 bNA-9 bNE-1 bNE-2 bNE-3 bNE-4 bNE-5 bNE-6
     bNE-KO bNI-1 bNI-2 bNI-3 bNI-4 bNI-5 bNI-6 bNI-7 bNI-TE bNO-1 bNO-2 bNO-3 bNO-4 bNO-5 bNU-1
     bNU-2 bNU-3 bO-1 bO-2 bO-3 bRA-1 bRA-2 bRA-3 bRA-4 bRE-1 bRE-2 bRE-3 bRE-4 bRI-1 bRI-2 bRI-3
     bRI-4 bRI-5 bRI-6 bRI-7 bRO-1 bRO-2 bRO-3 bRO-4 bRO-5 bRO-6 bRU-1 bRU-2 bRU-3 bRU-4 bRU-5
     bRU-6 bSA-1 bSA-2 bSA-3 bSA-4 bSA-5 bSA-6 bSA-7 bSA-8 bSE-1 bSE-2 bSE-3 bSE-4 bSE-5 bSI-1
     bSI-2 bSI-3 bSI-4 bSI-5 bSI-6 bSO-1 bSO-2 bSO-3 bSO-4 bSO-5 bSO-6 bSO-7 bSU-1 bSU-2 bSU-3
     bSU-4 bSU-5 bSU-6 bSU-7 bSU-8 bTA-1 bTA-2 bTA-3 bTA-4 bTE-1 bTE-2 bTE-3 bTE-4 bTE-5 bTE-6
     bTE-7 bTE-8 bTE-9 bTI-1 bTI-2 bTI-3 bTI-4 bTI-5 bTI-6 bTI-7 bTO-1 bTO-2 bTO-3 bTO-4 bTO-5
     bTO-6 bTO-RA bTU-1 bTU-2 bTU-3 bTU-4 bTU-TO bU-1 bU-2 bU-3 bU-4 bU-5 bWA-1 bWA-2 bWA-3 bWA-4
     bWA-5 bWE-1 bWE-2 bWE-3 bWE-4 bWI-1 bWI-2 bWI-3 bWI-4 bWI-5 bWO-1 bWO-2 bWO-3 bWO-4 bWO-5
     bWO-6 bWO-7 bYA-1 bYA-2 bYA-3 bYA-4 bYA-5 bYA-YO bYO-1 bYO-2 bYO-3 bYO-4 bYO-5 bYO-6 bYU-1
     bYU-2 bYU-3 bYU-4"),
    ("HERMITIAN", "aCONJUGATE_MATRIX"),
    ("HEXAGRAM", "aFOR_ABUNDANCE bAFTER_COMPLETION bAPPROACH bBEFORE_COMPLETION bBITING_THROUGH
     bBREAKTHROUGH bCOMING_TO_MEET bCONFLICT bCONTEMPLATION bDARKENING_OF_THE_LIGHT bDECREASE
     bDELIVERANCE bDEVELOPMENT bDIFFICULTY_AT_THE_BEGINNING bDISPERSION bDURATION bENTHUSIASM
     bFELLOWSHIP bFOLLOWING bGATHERING_TOGETHER bGRACE bGREAT_POSSESSION cPOWER cPREPONDERANCE
     cTAMING bHOLDING_TOGETHER bINCREASE bINFLUENCE bINNER_TRUTH bINNOCENCE bLIMITATION bMODESTY
     bMOUTH_CORNERS bOBSTRUCTION bOPPOSITION bOPPRESSION bPEACE bPROGRESS bPUSHING_UPWARD
     bRETREAT bRETURN bREVOLUTION bSMALL_PREPONDERANCE cTAMING bSPLITTING_APART bSTANDSTILL
     bTHE_ABYSMAL_WATER cARMY cAROUSING_THUNDER cCAULDRON cCLINGING_FIRE cCREATIVE_HEAVEN cFAMILY
     cGENTLE_WIND cJOYOUS_LAKE cKEEPING_STILL_MOUNTAIN cMARRYING_MAIDEN cRECEPTIVE_EARTH
     cWANDERER cWELL bTREADING bWAITING bWORK_ON_THE_DECAYED bYOUTHFUL_FOLLY"),
    ("HIGH", "aBRIGHTNESS_SYMBOL aOCTET_PRESET aVOLTAGE_SIGN"),
    ("HIGH-HEELED", "aSHOE"),
    ("HIGH-SPEED", "aTRAIN bWITH_BULLET_NOSE"),
    ("HIKING", "aBOOT"),
    ("HINDU", "aTEMPLE"),
    ("HIRAGANA", "aDIGRAPH_YORI aITERATION_MARK aLETTER_A bARCHAIC_WU cYE bBA bBE bBI bBO bBU bDA
     bDE bDI bDO bDU bE bGA bGE bGI bGO bGU bHA bHE bHI bHO bHU bI bKA bKE bKI bKO bKU bMA bME
     bMI bMO bMU bN bNA bNE bNI bNO bNU bO bPA bPE bPI bPO bPU bRA bRE bRI bRO bRU bSA bSE bSI
     bSMALL_A cE cI cKA cKE cO cTU cU cWA cWE cWI cWO cYA cYO cYU bSO bSU bTA bTE bTI bTO bTU bU
     bVU bWA bWE bWI bWO bYA bYO bYU bZA bZE bZI bZO bZU aVOICED_ITERATION_MARK"),
    ("HISTORIC", "aSITE"),
    ("HOLLOW", "aQUILT_SQUARE_ORNAMENT dIN_BLACK_SQUARE"),
    ("HONEY", "aPOT"),
    ("HORIZONTAL", "aBAR aBLACK_HEXAGON bOCTAGON aELLIPSIS aLINE_EXTENSION aMALE_WITH_STROKE_SIGN
     aONE_EIGHTH_BLOCK-1358 cBLOCK-2 cBLOCK-3 cBLOCK-4 cBLOCK-5 cBLOCK-6 cBLOCK-7 aSCAN_LINE-1
     bLINE-3 bLINE-7 bLINE-9 aTAB_KEY aTABULATION bSET bWITH_JUSTIFICATION aTRAFFIC_LIGHT"),
    ("HORSE", "a aFACE aRACING"),
    ("HOT", "aBEVERAGE aDOG aPEPPER aSPRINGS"),
    ("HOURGLASS", "a aWITH_FLOWING_SAND"),
    ("HOUSE", "a aBUILDING aBUILDINGS aWITH_GARDEN"),
    ("HRYVNIA", "aSIGN"),
    ("HUGGING", "aFACE"),
    ("HUNDRED", "aPOINTS_SYMBOL"),
    ("HUSHED", "aFACE"),
    ("HYPHEN", "a aBULLET aWITH_DIAERESIS"),
    ("HYPHENATION", "aPOINT"),
    ("HYSTERESIS", "aSYMBOL"),
    ("I", "aLOVE_YOU_HAND_SIGN"),
    ("ICE", "aCREAM aCUBE aHOCKEY_STICK_AND_PUCK aSKATE"),
    ("IDENTICAL", "aTO bAND_SLANTED_PARALLEL aWITH_DOT_ABOVE"),
    ("IDENTIFICATION", "aCARD"),
    ("IDEOGRAPHIC", "aANNOTATION_BOTTOM_MARK bEARTH_MARK bFIRST_MARK bFOUR_MARK bFOURTH_MARK
     bHEAVEN_MARK bLINKING_MARK bMAN_MARK bMIDDLE_MARK bONE_MARK bREVERSE_MARK bSECOND_MARK
     bTHIRD_MARK bTHREE_MARK bTOP_MARK bTWO_MARK aCLOSING_MARK aCOMMA aDEPARTING_TONE_MARK
     aDESCRIPTION_CHARACTER_ABOVE_TO_BELOW eMIDDLE_AND_BELOW cFULL_SURROUND
     cLEFT_TO_MIDDLE_AND_RIGHT eRIGHT cOVERLAID cSURROUND_FROM_ABOVE eBELOW eLEFT eLOWER_LEFT
     eUPPER_LEFT fRIGHT aENTERING_TONE_MARK aFULL_STOP aHALF_FILL_SPACE aITERATION_MARK
     aLEVEL_TONE_MARK aNUMBER_ZERO aRISING_TONE_MARK aSPACE aTALLY_MARK_FIVE cFOUR cONE cTHREE
     cTWO aTELEGRAPH_LINE_FEED_SEPARATOR_SYMBOL bSYMBOL_FOR_APRIL dAUGUST dDAY_EIGHT eEIGHTEEN
     eELEVEN eFIFTEEN eFIVE eFOUR eFOURTEEN eNINE eNINETEEN eONE eSEVEN eSEVENTEEN eSIX eSIXTEEN
     eTEN eTHIRTEEN eTHIRTY eTHIRTY-ONE eTHREE eTWELVE eTWENTY eTWENTY-EIGHT eTWENTY-FIVE
     eTWENTY-FOUR eTWENTY-NINE eTWENTY-ONE eTWENTY-SEVEN eTWENTY-SIX eTWENTY-THREE eTWENTY-TWO
     eTWO dDECEMBER dFEBRUARY dHOUR_EIGHT eEIGHTEEN eELEVEN eFIFTEEN eFIVE eFOUR eFOURTEEN eNINE
     eNINETEEN eONE eSEVEN eSEVENTEEN eSIX eSIXTEEN eTEN eTHIRTEEN eTHREE eTWELVE eTWENTY
     eTWENTY-FOUR eTWENTY-ONE eTWENTY-THREE eTWENTY-TWO eTWO eZERO dJANUARY dJULY dJUNE dMARCH
     dMAY dNOVEMBER dOCTOBER dSEPTEMBER aVARIATION_INDICATOR"),
    ("IMAGE", "aOF bOR_APPROXIMATELY_EQUAL_TO"),
    ("IMPERIAL", "aARAMAIC_LETTER_ALEPH cAYIN cBETH cDALETH cGIMEL cHE cHETH cKAPH cLAMEDH cMEM
     cNUN cPE cQOPH cRESH cSADHE cSAMEKH cSHIN cTAW cTETH cWAW cYODH cZAYIN bNUMBER_ONE dHUNDRED
     dTHOUSAND cTEN dTHOUSAND cTHREE cTWENTY cTWO bSECTION_SIGN"),
    ("INBOX", "aTRAY"),
    ("INCOMING", "aENVELOPE"),
    ("INCOMPLETE", "aINFINITY"),
    ("INCREASE", "aFONT_SIZE_SYMBOL"),
    ("INCREASES", "aAS"),
    ("INDEX", "a aPOINTING_AT_THE_VIEWER"),
    ("INDIAN", "aRUPEE_SIGN"),
    ("INDIC", "aSIYAQ_ALTERNATE_LAKH_MARK bFRACTION_ONE_HALF dQUARTER cTHREE_QUARTERS bLAKH_MARK
     bNUMBER_ALTERNATE_ONE dTEN_THOUSAND dTWO cEIGHT dHUNDRED dTHOUSAND cEIGHTY dTHOUSAND cFIFTY
     dTHOUSAND cFIVE dHUNDRED dTHOUSAND cFORTY dTHOUSAND cFOUR dHUNDRED dTHOUSAND cKAROR cKARORAN
     cLAKH cLAKHAN cNINE dHUNDRED dTHOUSAND cNINETY dTHOUSAND cONE dHUNDRED dTHOUSAND
     cPREFIXED_EIGHT dFIVE dFOUR dNINE dONE dSEVEN dSIX dTHREE dTWO cSEVEN dHUNDRED dTHOUSAND
     cSEVENTY dTHOUSAND cSIX dHUNDRED dTHOUSAND cSIXTY dTHOUSAND cTEN dTHOUSAND cTHIRTY dTHOUSAND
     cTHREE dHUNDRED dTHOUSAND cTWENTY dTHOUSAND cTWO dHUNDRED dTHOUSAND bPLACEHOLDER bRUPEE_MARK"),
    ("INFINITY", "a aNEGATED_WITH_VERTICAL_BAR"),
    ("INFORMATION", "aDESK_PERSON aSEPARATOR_FOUR bONE bTHREE bTWO aSOURCE"),
    ("INHIBIT", "aARABIC_FORM_SHAPING aSYMMETRIC_SWAPPING"),
    ("INPUT", "aSYMBOL_FOR_LATIN_CAPITAL_LETTERS dLETTERS dSMALL_LETTERS cNUMBERS cSYMBOLS"),
    ("INSCRIPTIONAL", "aPAHLAVI_LETTER_ALEPH cBETH cDALETH cGIMEL cHE cHETH cKAPH cLAMEDH
     cMEM-QOPH cNUN cPE cSADHE cSAMEKH cSHIN cTAW cTETH cWAW-AYIN-RESH cYODH cZAYIN bNUMBER_FOUR
     cONE dHUNDRED dTHOUSAND cTEN cTHREE cTWENTY cTWO aPARTHIAN_LETTER_ALEPH cAYIN cBETH cDALETH
     cGIMEL cHE cHETH cKAPH cLAMEDH cMEM cNUN cPE cQOPH cRESH cSADHE cSAMEKH cSHIN cTAW cTETH
     cWAW cYODH cZAYIN bNUMBER_FOUR cONE dHUNDRED dTHOUSAND cTEN cTHREE cTWENTY cTWO"),
    ("INSERTION", "aSYMBOL"),
    ("INTEGRAL", "a aAROUND_A_POINT_OPERATOR aAVERAGE_WITH_SLASH aEXTENSION aWITH_DOUBLE_STROKE
     bINTERSECTION bLEFTWARDS_ARROW_WITH_HOOK bOVERBAR bTIMES_SIGN bUNDERBAR bUNION"),
    ("INTERIOR", "aPRODUCT"),
    ("INTERLINEAR", "aANNOTATION_ANCHOR bSEPARATOR bTERMINATOR"),
    ("INTERLOCKED", "aFEMALE_AND_MALE_SIGN"),
    ("INTERSECTION", "a aABOVE_BAR_ABOVE_UNION bUNION aBESIDE_AND_JOINED_WITH_INTERSECTION
     aWITH_DOT bLOGICAL_AND bOVERBAR"),
    ("INVERSE", "aBULLET aCHECK_MARK aCHECKER_BOARD_FILL aDOWNWARDS_ARROW_WITH_TIP_LEFTWARDS
     aMEDIUM_SHADE aWHITE_CIRCLE"),
    ("INVERTED", "aEXCLAMATION_MARK aINTERROBANG aLAZY_S aLOW_KAVYKA cWITH_KAVYKA_ABOVE aOHM_SIGN
     aPENTAGRAM aQUESTION_MARK aUNDERTIE"),
    ("INVISIBLE", "aPLUS aSEPARATOR aTIMES"),
    ("IZAKAYA", "aLANTERN"),
    ("JAPANESE", "aBANK_SYMBOL aCASTLE aDOLLS aGOBLIN aINDUSTRIAL_STANDARD_SYMBOL aOGRE
     aPOST_OFFICE aSYMBOL_FOR_BEGINNER"),
    ("JAVANESE", "aCONSONANT_SIGN_CAKRA cKERET cPENGKAL aDIGIT_EIGHT bFIVE bFOUR bNINE bONE
     bSEVEN bSIX bTHREE bTWO bZERO aLEFT_RERENGGAN aLETTER_A bAI bBA cMURDA bCA cMURDA bDA
     cMAHAPRANA bDDA cMAHAPRANA bE bGA cMURDA bHA bI cKAWI bII bJA cMAHAPRANA bKA cMURDA cSASAK
     bLA bMA bNA cMURDA bNGA cLELET dRASWADI bNYA cMURDA bO bPA cCEREK cMURDA bRA cAGUNG bSA
     cMAHAPRANA cMURDA bTA cMURDA bTTA cMAHAPRANA bU bWA bYA aPADA_ADEG cADEG bANDAP bISEN-ISEN
     bLINGSA bLUHUR bLUNGSI bMADYA bPANGKAT bPISELEH bTIRTA_TUMETES bWINDU aPANGKON aPANGRANGKEP
     aRIGHT_RERENGGAN aSIGN_CECAK cTELU bLAYAR bPANYANGGA bWIGNYAN aTURNED_PADA_PISELEH
     aVOWEL_SIGN_DIRGA_MURE cPEPET cSUKU dMENDUT cTALING cTARUNG cTOLONG cWULU dMELIK"),
    ("JIGSAW", "aPUZZLE_PIECE"),
    ("KAITHI", "aABBREVIATION_SIGN aDANDA aDOUBLE_DANDA bSECTION_MARK aENUMERATION_SIGN aLETTER_A
     bAA bAI bAU bBA bBHA bCA bCHA bDA bDDA bDDDHA bDDHA bDHA bE bGA bGHA bHA bI bII bJA bJHA bKA
     bKHA bLA bMA bNA bNGA bNNA bNYA bO bPA bPHA bRA bRHA bSA bSHA bSSA bTA bTHA bTTA bTTHA bU
     bUU bVA bYA aNUMBER_SIGN cABOVE aSECTION_MARK aSIGN_ANUSVARA bCANDRABINDU bNUKTA bVIRAMA
     bVISARGA aVOWEL_SIGN_AA cAI cAU cE cI cII cO cU cUU cVOCALIC_R"),
    ("KANGXI", "aRADICAL_AGAIN bAND bARRIVE bARROW bAXE bBADGER bBAMBOO bBEAN bBIG bBIRD bBITTER
     bBLACK bBLOOD bBLUE bBOAT bBODY bBOLT_OF_CLOTH bBONE bBOW bBRANCH bBRISTLE bBRUSH bCART
     bCAULDRON bCAVE bCHILD bCITY bCLAN bCLAW bCLIFF bCLOTHES bCOLOR bCOMPARE bCORPSE bCOVER bCOW
     bDEATH bDEER bDIPPER bDISH bDISTINGUISH bDIVINATION bDO_NOT bDOG bDOOR bDOT bDOTTED_CLIFF
     cTENT bDOUBLE_X bDOWN_BOX bDRAGON bDRUM bDRY bEAR bEARTH bEAT bEIGHT bEMBROIDERY bENCLOSURE
     bENTER bEVEN bEVENING bEYE bFACE bFANG bFATHER bFEATHER bFIELD bFIGHT bFIRE bFISH bFLUTE
     bFLY bFOOT bFRAGRANT bFROG bFUR bGATE bGHOST bGO cSLOWLY bGOLD bGRAIN bGRASS bHAIR bHALBERD
     bHALF_TREE_TRUNK bHAND bHEAD bHEART bHEMP bHIDING_ENCLOSURE bHOOK bHORN bHORSE bICE bINCH
     bINSECT bJADE bJAR bKNIFE bLACK bLAME bLEAF bLEATHER bLEEK bLEGS bLID bLIFE bLINE bLONG
     cSTRIDE bMAN bMEAT bMELON bMILLET bMINISTER bMOON bMORNING bMORTAR bMOUND bMOUNTAIN bMOUTH
     bNET bNOSE bNOT bOLD bONE bONESELF bOPEN_BOX bOPPOSE bPIG bPLOW bPOWER bPRIVATE bPROFOUND
     bRAIN bRAP bRAT bRED bRICE bRIGHT_OPEN_BOX bRIVER bROOF bRUN bSACRIFICIAL_WINE bSALT bSAY
     bSCHOLAR bSCRIPT bSEAL bSECOND bSEE bSELF bSHEEP bSHELL bSHOOT bSHORT_TAILED_BIRD cTHREAD
     bSICKNESS bSILK bSKIN bSLASH bSLAVE bSLICE bSMALL bSNOUT bSOUND bSPEAR bSPEECH bSPIRIT
     bSPOON bSPROUT bSQUARE bSTAND bSTEAM bSTEP bSTONE bSTOP bSTOPPING bSUN bSWEET bTABLE bTALL
     bTANNED_LEATHER bTEN bTIGER bTILE bTONGUE bTOOTH bTRACK bTREE bTRIPOD bTURBAN bTURTLE bTWO
     cHANDS bUSE bVALLEY bVILLAGE bWALK cENCLOSURE bWATER bWEAPON bWEST bWHEAT bWHITE bWIND bWINE
     bWOMAN bWORK bWRAP bWRONG bYELLOW"),
    ("KANNADA", "aAI_LENGTH_MARK aDIGIT_EIGHT bFIVE bFOUR bNINE bONE bSEVEN bSIX bTHREE bTWO
     bZERO aLENGTH_MARK aLETTER_A bAA bAI bAU bBA bBHA bCA bCHA bDA bDDA bDDHA bDHA bE bEE bFA
     bGA bGHA bHA bI bII bJA bJHA bKA bKHA bLA bLLA bLLLA bMA bNA bNAKAARA_POLLU bNGA bNNA bNYA
     bO bOO bPA bPHA bRA bRRA bSA bSHA bSSA bTA bTHA bTTA bTTHA bU bUU bVA bVOCALIC_L cLL cR cRR
     bYA aSIGN_ANUSVARA bAVAGRAHA bCANDRABINDU bJIHVAMULIYA bNUKTA bSIDDHAM bSPACING_CANDRABINDU
     bUPADHMANIYA bVIRAMA bVISARGA aVOWEL_SIGN_AA cAI cAU cE cEE cI cII cO cOO cU cUU cVOCALIC_L
     dLL dR dRR"),
    ("KATAKANA", "aDIGRAPH_KOTO aITERATION_MARK aLETTER_A bARCHAIC_E cWU cYE cYI bBA bBE bBI bBO
     bBU bDA bDE bDI bDO bDU bE bGA bGE bGI bGO bGU bHA bHE bHI bHO bHU bI bKA bKE bKI bKO bKU
     bMA bME bMI bMINNAN_NASALIZED_TONE-1 dTONE-2 dTONE-3 dTONE-4 dTONE-5 dTONE-7 dTONE-8 cTONE-2
     cTONE-3 cTONE-4 cTONE-5 cTONE-7 cTONE-8 bMO bMU bN bNA bNE bNI bNO bNU bO bPA bPE bPI bPO
     bPU bRA bRE bRI bRO bRU bSA bSE bSI bSMALL_A cE cHA cHE cHI cHO cHU cI cKA cKE cKU cMU cN
     cNU cO cRA cRE cRI cRO cRU cSI cSU cTO cTU cU cWA cWE cWI cWO cYA cYO cYU bSO bSU bTA bTE
     bTI bTO bTU bU bVA bVE bVI bVO bVU bWA bWE bWI bWO bYA bYO bYU bZA bZE bZI bZO bZU
     aMIDDLE_DOT aVOICED_ITERATION_MARK"),
    ("KATAKANA-HIRAGANA", "aDOUBLE_HYPHEN aPROLONGED_SOUND_MARK aSEMI-VOICED_SOUND_MARK
     aVOICED_SOUND_MARK"),
    ("KAYAH", "aLI_DIGIT_EIGHT cFIVE cFOUR cNINE cONE cSEVEN cSIX cTHREE cTWO cZERO bLETTER_A cBA
     cCA cDA cGA cHA cHTA cI cKA cKHA cLA cMA cNA cNGA cNYA cOE cOO cPA cPHA cRA cSA cSHA cTA
     cTHA cVA cWA cYA cZA bSIGN_CWI cSHYA bTONE_CALYA dPLOPHU cPLOPHU bVOWEL_E cEE cO cU cUE"),
    ("KELVIN", "aSIGN"),
    ("KEYBOARD", "a aAND_MOUSE"),
    ("KEYCAP", "aTEN"),
    ("KHAROSHTHI", "aDIGIT_FOUR bONE bTHREE bTWO aFRACTION_ONE_HALF aLETTER_A bBA bBHA bCA bCHA
     bDA bDDA bDDHA bDHA bGA bGHA bHA bJA bKA bKHA bKKA bLA bMA bNA bNNA bNYA bPA bPHA bRA bSA
     bSHA bSSA bTA bTHA bTTA bTTHA bTTTA bTTTHA bVA bVHA bYA bZA aNUMBER_ONE_HUNDRED cTHOUSAND
     bTEN bTWENTY aPUNCTUATION_CIRCLE bCRESCENT_BAR bDANDA bDOT bDOUBLE_DANDA bLINES bLOTUS
     bMANGALAM bSMALL_CIRCLE aSIGN_ANUSVARA bBAR_ABOVE bCAUDA bDOT_BELOW bDOUBLE_RING_BELOW
     bVISARGA aVIRAMA aVOWEL_LENGTH_MARK bSIGN_E cI cO cU cVOCALIC_R"),
    ("KHITAN", "aSMALL_SCRIPT_CHARACTER-18B00 cCHARACTER-18B01 cCHARACTER-18B02 cCHARACTER-18B03
     cCHARACTER-18B04 cCHARACTER-18B05 cCHARACTER-18B06 cCHARACTER-18B07 cCHARACTER-18B08
     cCHARACTER-18B09 cCHARACTER-18B0A cCHARACTER-18B0B cCHARACTER-18B0C cCHARACTER-18B0D
     cCHARACTER-18B0E cCHARACTER-18B0F cCHARACTER-18B10 cCHARACTER-18B11 cCHARACTER-18B12
     cCHARACTER-18B13 cCHARACTER-18B14 cCHARACTER-18B15 cCHARACTER-18B16 cCHARACTER-18B17
     cCHARACTER-18B18 cCHARACTER-18B19 cCHARACTER-18B1A cCHARACTER-18B1B cCHARACTER-18B1C
     cCHARACTER-18B1D cCHARACTER-18B1E cCHARACTER-18B1F cCHARACTER-18B20 cCHARACTER-18B21
     cCHARACTER-18B22 cCHARACTER-18B23 cCHARACTER-18B24 cCHARACTER-18B25 cCHARACTER-18B26
     cCHARACTER-18B27 cCHARACTER-18B28 cCHARACTER-18B29 cCHARACTER-18B2A cCHARACTER-18B2B
     cCHARACTER-18B2C cCHARACTER-18B2D cCHARACTER-18B2E cCHARACTER-18B2F cCHARACTER-18B30
     cCHARACTER-18B31 cCHARACTER-18B32 cCHARACTER-18B33 cCHARACTER-18B34 cCHARACTER-18B35
     cCHARACTER-18B36 cCHARACTER-18B37 cCHARACTER-18B38 cCHARACTER-18B39 cCHARACTER-18B3A
     cCHARACTER-18B3B cCHARACTER-18B3C cCHARACTER-18B3D cCHARACTER-18B3E cCHARACTER-18B3F
     cCHARACTER-18B40 cCHARACTER-18B41 cCHARACTER-18B42 cCHARACTER-18B43 cCHARACTER-18B44
     cCHARACTER-18B45 cCHARACTER-18B46 cCHARACTER-18B47 cCHARACTER-18B48 cCHARACTER-18B49
     cCHARACTER-18B4A cCHARACTER-18B4B cCHARACTER-18B4C cCHARACTER-18B4D cCHARACTER-18B4E
     cCHARACTER-18B4F cCHARACTER-18B50 cCHARACTER-18B51 cCHARACTER-18B52 cCHARACTER-18B53
     cCHARACTER-18B54 cCHARACTER-18B55 cCHARACTER-18B56 cCHARACTER-18B57 cCHARACTER-18B58
     cCHARACTER-18B59 cCHARACTER-18B5A cCHARACTER-18B5B cCHARACTER-18B5C cCHARACTER-18B5D
     cCHARACTER-18B5E cCHARACTER-18B5F cCHARACTER-18B60 cCHARACTER-18B61 cCHARACTER-18B62
     cCHARACTER-18B63 cCHARACTER-18B64 cCHARACTER-18B65 cCHARACTER-18B66 cCHARACTER-18B67
     cCHARACTER-18B68 cCHARACTER-18B69 cCHARACTER-18B6A cCHARACTER-18B6B cCHARACTER-18B6C
     cCHARACTER-18B6D cCHARACTER-18B6E cCHARACTER-18B6F cCHARACTER-18B70 cCHARACTER-18B71
     cCHARACTER-18B72 cCHARACTER-18B73 cCHARACTER-18B74 cCHARACTER-18B75 cCHARACTER-18B76
     cCHARACTER-18B77 cCHARACTER-18B78 cCHARACTER-18B79 cCHARACTER-18B7A cCHARACTER-18B7B
     cCHARACTER-18B7C cCHARACTER-18B7D cCHARACTER-18B7E cCHARACTER-18B7F cCHARACTER-18B80
     cCHARACTER-18B81 cCHARACTER-18B82 cCHARACTER-18B83 cCHARACTER-18B84 cCHARACTER-18B85
     cCHARACTER-18B86 cCHARACTER-18B87 cCHARACTER-18B88 cCHARACTER-18B89 cCHARACTER-18B8A
     cCHARACTER-18B8B cCHARACTER-18B8C cCHARACTER-18B8D cCHARACTER-18B8E cCHARACTER-18B8F
     cCHARACTER-18B90 cCHARACTER-18B91 cCHARACTER-18B92 cCHARACTER-18B93 cCHARACTER-18B94
     cCHARACTER-18B95 cCHARACTER-18B96 cCHARACTER-18B97 cCHARACTER-18B98 cCHARACTER-18B99
     cCHARACTER-18B9A cCHARACTER-18B9B cCHARACTER-18B9C cCHARACTER-18B9D cCHARACTER-18B9E
     cCHARACTER-18B9F cCHARACTER-18BA0 cCHARACTER-18BA1 cCHARACTER-18BA2 cCHARACTER-18BA3
     cCHARACTER-18BA4 cCHARACTER-18BA5 cCHARACTER-18BA6 cCHARACTER-18BA7 cCHARACTER-18BA8
     cCHARACTER-18BA9 cCHARACTER-18BAA cCHARACTER-18BAB cCHARACTER-18BAC cCHARACTER-18BAD
     cCHARACTER-18BAE cCHARACTER-18BAF cCHARACTER-18BB0 cCHARACTER-18BB1 cCHARACTER-18BB2
     cCHARACTER-18BB3 cCHARACTER-18BB4 cCHARACTER-18BB5 cCHARACTER-18BB6 cCHARACTER-18BB7
     cCHARACTER-18BB8 cCHARACTER-18BB9 cCHARACTER-18BBA cCHARACTER-18BBB cCHARACTER-18BBC
     cCHARACTER-18BBD cCHARACTER-18BBE cCHARACTER-18BBF cCHARACTER-18BC0 cCHARACTER-18BC1
     cCHARACTER-18BC2 cCHARACTER-18BC3 cCHARACTER-18BC4 cCHARACTER-18BC5 cCHARACTER-18BC6
     cCHARACTER-18BC7 cCHARACTER-18BC8 cCHARACTER-18BC9 cCHARACTER-18BCA cCHARACTER-18BCB
     cCHARACTER-18BCC cCHARACTER-18BCD cCHARACTER-18BCE cCHARACTER-18BCF cCHARACTER-18BD0
     cCHARACTER-18BD1 cCHARACTER-18BD2 cCHARACTER-18BD3 cCHARACTER-18BD4 cCHARACTER-18BD5
     cCHARACTER-18BD6 cCHARACTER-18BD7 cCHARACTER-18BD8 cCHARACTER-18BD9 cCHARACTER-18BDA
     cCHARACTER-18BDB cCHARACTER-18BDC cCHARACTER-18BDD cCHARACTER-18BDE cCHARACTER-18BDF
     cCHARACTER-18BE0 cCHARACTER-18BE1 cCHARACTER-18BE2 cCHARACTER-18BE3 cCHARACTER-18BE4
     cCHARACTER-18BE5 cCHARACTER-18BE6 cCHARACTER-18BE7 cCHARACTER-18BE8 cCHARACTER-18BE9
     cCHARACTER-18BEA cCHARACTER-18BEB cCHARACTER-18BEC cCHARACTER-18BED cCHARACTER-18BEE
     cCHARACTER-18BEF cCHARACTER-18BF0 cCHARACTER-18BF1 cCHARACTER-18BF2 cCHARACTER-18BF3
     cCHARACTER-18BF4 cCHARACTER-18BF5 cCHARACTER-18BF6 cCHARACTER-18BF7 cCHARACTER-18BF8
     cCHARACTER-18BF9 cCHARACTER-18BFA cCHARACTER-18BFB cCHARACTER-18BFC cCHARACTER-18BFD
     cCHARACTER-18BFE cCHARACTER-18BFF cCHARACTER-18C00 cCHARACTER-18C01 cCHARACTER-18C02
     cCHARACTER-18C03 cCHARACTER-18C04 cCHARACTER-18C05 cCHARACTER-18C06 cCHARACTER-18C07
     cCHARACTER-18C08 cCHARACTER-18C09 cCHARACTER-18C0A cCHARACTER-18C0B cCHARACTER-18C0C
     cCHARACTER-18C0D cCHARACTER-18C0E cCHARACTER-18C0F cCHARACTER-18C10 cCHARACTER-18C11
     cCHARACTER-18C12 cCHARACTER-18C13 cCHARACTER-18C14 cCHARACTER-18C15 cCHARACTER-18C16
     cCHARACTER-18C17 cCHARACTER-18C18 cCHARACTER-18C19 cCHARACTER-18C1A cCHARACTER-18C1B
     cCHARACTER-18C1C cCHARACTER-18C1D cCHARACTER-18C1E cCHARACTER-18C1F cCHARACTER-18C20
     cCHARACTER-18C21 cCHARACTER-18C22 cCHARACTER-18C23 cCHARACTER-18C24 cCHARACTER-18C25
     cCHARACTER-18C26 cCHARACTER-18C27 cCHARACTER-18C28 cCHARACTER-18C29 cCHARACTER-18C2A
     cCHARACTER-18C2B cCHARACTER-18C2C cCHARACTER-18C2D cCHARACTER-18C2E cCHARACTER-18C2F
     cCHARACTER-18C30 cCHARACTER-18C31 cCHARACTER-18C32 cCHARACTER-18C33 cCHARACTER-18C34
     cCHARACTER-18C35 cCHARACTER-18C36 cCHARACTER-18C37 cCHARACTER-18C38 cCHARACTER-18C39
     cCHARACTER-18C3A cCHARACTER-18C3B cCHARACTER-18C3C cCHARACTER-18C3D cCHARACTER-18C3E
     cCHARACTER-18C3F cCHARACTER-18C40 cCHARACTER-18C41 cCHARACTER-18C42 cCHARACTER-18C43
     cCHARACTER-18C44 cCHARACTER-18C45 cCHARACTER-18C46 cCHARACTER-18C47 cCHARACTER-18C48
     cCHARACTER-18C49 cCHARACTER-18C4A cCHARACTER-18C4B cCHARACTER-18C4C cCHARACTER-18C4D
     cCHARACTER-18C4E cCHARACTER-18C4F cCHARACTER-18C50 cCHARACTER-18C51 cCHARACTER-18C52
     cCHARACTER-18C53 cCHARACTER-18C54 cCHARACTER-18C55 cCHARACTER-18C56 cCHARACTER-18C57
     cCHARACTER-18C58 cCHARACTER-18C59 cCHARACTER-18C5A cCHARACTER-18C5B cCHARACTER-18C5C
     cCHARACTER-18C5D cCHARACTER-18C5E cCHARACTER-18C5F cCHARACTER-18C60 cCHARACTER-18C61
     cCHARACTER-18C62 cCHARACTER-18C63 cCHARACTER-18C64 cCHARACTER-18C65 cCHARACTER-18C66
     cCHARACTER-18C67 cCHARACTER-18C68 cCHARACTER-18C69 cCHARACTER-18C6A cCHARACTER-18C6B
     cCHARACTER-18C6C cCHARACTER-18C6D cCHARACTER-18C6E cCHARACTER-18C6F cCHARACTER-18C70
     cCHARACTER-18C71 cCHARACTER-18C72 cCHARACTER-18C73 cCHARACTER-18C74 cCHARACTER-18C75
     cCHARACTER-18C76 cCHARACTER-18C77 cCHARACTER-18C78 cCHARACTER-18C79 cCHARACTER-18C7A
     cCHARACTER-18C7B cCHARACTER-18C7C cCHARACTER-18C7D cCHARACTER-18C7E cCHARACTER-18C7F
     cCHARACTER-18C80 cCHARACTER-18C81 cCHARACTER-18C82 cCHARACTER-18C83 cCHARACTER-18C84
     cCHARACTER-18C85 cCHARACTER-18C86 cCHARACTER-18C87 cCHARACTER-18C88 cCHARACTER-18C89
     cCHARACTER-18C8A cCHARACTER-18C8B cCHARACTER-18C8C cCHARACTER-18C8D cCHARACTER-18C8E
     cCHARACTER-18C8F cCHARACTER-18C90 cCHARACTER-18C91 cCHARACTER-18C92 cCHARACTER-18C93
     cCHARACTER-18C94 cCHARACTER-18C95 cCHARACTER-18C96 cCHARACTER-18C97 cCHARACTER-18C98
     cCHARACTER-18C99 cCHARACTER-18C9A cCHARACTER-18C9B cCHARACTER-18C9C cCHARACTER-18C9D
     cCHARACTER-18C9E cCHARACTER-18C9F cCHARACTER-18CA0 cCHARACTER-18CA1 cCHARACTER-18CA2
     cCHARACTER-18CA3 cCHARACTER-18CA4 cCHARACTER-18CA5 cCHARACTER-18CA6 cCHARACTER-18CA7
     cCHARACTER-18CA8 cCHARACTER-18CA9 cCHARACTER-18CAA cCHARACTER-18CAB cCHARACTER-18CAC
     cCHARACTER-18CAD cCHARACTER-18CAE cCHARACTER-18CAF cCHARACTER-18CB0 cCHARACTER-18CB1
     cCHARACTER-18CB2 cCHARACTER-18CB3 cCHARACTER-18CB4 cCHARACTER-18CB5 cCHARACTER-18CB6
     cCHARACTER-18CB7 cCHARACTER-18CB8 cCHARACTER-18CB9 cCHARACTER-18CBA cCHARACTER-18CBB
     cCHARACTER-18CBC cCHARACTER-18CBD cCHARACTER-18CBE cCHARACTER-18CBF cCHARACTER-18CC0
     cCHARACTER-18CC1 cCHARACTER-18CC2 cCHARACTER-18CC3 cCHARACTER-18CC4 cCHARACTER-18CC5
     cCHARACTER-18CC6 cCHARACTER-18CC7 cCHARACTER-18CC8 cCHARACTER-18CC9 cCHARACTER-18CCA
     cCHARACTER-18CCB cCHARACTER-18CCC cCHARACTER-18CCD cCHARACTER-18CCE cCHARACTER-18CCF
     cCHARACTER-18CD0 cCHARACTER-18CD1 cCHARACTER-18CD2 cCHARACTER-18CD3 cCHARACTER-18CD4
     cCHARACTER-18CD5 cFILLER"),
    ("KHMER", "aCURRENCY_SYMBOL_RIEL aDIGIT_EIGHT bFIVE bFOUR bNINE bONE bSEVEN bSIX bTHREE bTWO
     bZERO aINDEPENDENT_VOWEL_LY cLYY cQAA cQAI cQAQ cQAU cQE cQI cQII cQOO_TYPE_ONE eTWO cQU
     cQUK cQUU cQUUV cRY cRYY aLETTER_BA bCA bCHA bCHO bCO bDA bDO bHA bKA bKHA bKHO bKO bLA bLO
     bMO bNGO bNNO bNO bNYO bPHA bPHO bPO bQA bRO bSA bSHA bSSO bTA bTHA bTHO bTO bTTHA bTTHO bVO
     bYO aSIGN_AHSDA bATTHACAN bAVAKRAHASANYA bBANTOC bBARIYOOSAN bBATHAMASAT bBEYYAL
     bCAMNUC_PII_KUUH bCOENG bKAKABAT bKHAN bKOOMUUT bLEK_TOO bMUUSIKATOAN bNIKAHIT bPHNAEK_MUAN
     bREAHMUK bROBAT bSAMYOK_SANNYA bTOANDAKHIAT bTRIISAP bVIRIAM bYUUKALEAPINTU aSYMBOL_BEI_KOET
     cROC bBUON_KOET cROC bDAP_KOET cROC bDAP-BEI_KOET cROC bDAP-BUON_KOET cROC bDAP-MUOY_KOET
     cROC bDAP-PII_KOET cROC bDAP-PRAM_KOET cROC bLEK_ATTAK_BEI dBUON dMUOY dPII dPRAM dPRAM-BEI
     dPRAM-BUON dPRAM-MUOY dPRAM-PII dSON bMUOY_KOET cROC bPATHAMASAT bPII_KOET cROC bPRAM_KOET
     cROC bPRAM-BEI_KOET cROC bPRAM-BUON_KOET cROC bPRAM-MUOY_KOET cROC bPRAM-PII_KOET cROC
     bTUTEYASAT aVOWEL_INHERENT_AA cAQ bSIGN_AA cAE cAI cAU cE cI cIE cII cOE cOO cU cUA cUU cY
     cYA cYY"),
    ("KHOJKI", "aABBREVIATION_SIGN aDANDA aDOUBLE_DANDA bSECTION_MARK aLETTER_A bAA bAI bAU bBA
     bBBA bBHA bCA bCHA bDA bDDA bDDDA bDDHA bDHA bE bGA bGGA bGHA bHA bI bJA bJJA bKA bKHA bLA
     bLLA bMA bNA bNGA bNNA bNYA bO bPA bPHA bRA bSA bTA bTHA bTTA bTTHA bU bVA bYA aSECTION_MARK
     aSIGN_ANUSVARA bNUKTA bSHADDA bSUKUN bVIRAMA aVOWEL_SIGN_AA cAI cAU cE cI cII cO cU
     aWORD_SEPARATOR"),
    ("KHUDAWADI", "aDIGIT_EIGHT bFIVE bFOUR bNINE bONE bSEVEN bSIX bTHREE bTWO bZERO aLETTER_A
     bAA bAI bAU bBA bBBA bBHA bCA bCHA bDA bDDA bDDDA bDDHA bDHA bE bGA bGGA bGHA bHA bI bII bJA
     bJHA bJJA bKA bKHA bLA bMA bNA bNGA bNNA bNYA bO bPA bPHA bRA bRRA bSA bSHA bTA bTHA bTTA
     bTTHA bU bUU bVA bYA aSIGN_ANUSVARA bNUKTA bVIRAMA aVOWEL_SIGN_AA cAI cAU cE cI cII cO cU
     cUU"),
    ("KIP", "aSIGN"),
    ("KISS", "a aMARK"),
    ("KISSING", "aCAT_FACE_WITH_CLOSED_EYES aFACE bWITH_CLOSED_EYES cSMILING_EYES"),
    ("KNEELING", "aPERSON"),
    ("KOREAN", "aSTANDARD_SYMBOL")]

end Polyglot.CharacterName
