/-! # Names of characters that begin with A to B

A list of first words with what may follow each of them. There every entry begins with a letter
that tells how many words are taken from the entry before it: `a` for none, `b` for one and so on.
The words after those are joined by underlines.
-/

namespace Polyglot.CharacterName

/-- The names of several words that begin with A to B, by their first words. -/
def fromA : List (String × String) :=
  [("AC", "aCURRENT"),
    ("ACCOUNT", "aOF"),
    ("ACTIVATE", "aARABIC_FORM_SHAPING aSYMMETRIC_SWAPPING"),
    ("ACUTE", "aACCENT aANGLE"),
    ("ADDRESSED", "aTO_THE_SUBJECT"),
    ("ADHESIVE", "aBANDAGE"),
    ("ADI", "aSHAKTI"),
    ("ADLAM", "aALIF_LENGTHENER aCAPITAL_LETTER_ALIF cBA cBHE cCHI cDAALI cDHA cE cFA cGA cGBE
     cHA cI cJIIM cKAF cKHA cKPO cLAAM cMIIM cNHA cNUN cNYA cO cPE cQAAF cRA cSHA cSINNYIIYHE cTU
     cU cVA cWAW cYA cYHE cZAL aCONSONANT_MODIFIER aDIGIT_EIGHT bFIVE bFOUR bNINE bONE bSEVEN
     bSIX bTHREE bTWO bZERO aGEMINATE_CONSONANT_MODIFIER aGEMINATION_MARK aHAMZA
     aINITIAL_EXCLAMATION_MARK bQUESTION_MARK aNASALIZATION_MARK aNUKTA aSMALL_LETTER_ALIF cBA
     cBHE cCHI cDAALI cDHA cE cFA cGA cGBE cHA cI cJIIM cKAF cKHA cKPO cLAAM cMIIM cNHA cNUN cNYA
     cO cPE cQAAF cRA cSHA cSINNYIIYHE cTU cU cVA cWAW cYA cYHE cZAL aVOWEL_LENGTHENER"),
    ("ADMISSION", "aTICKETS"),
    ("AEGEAN", "aCHECK_MARK aDRY_MEASURE_FIRST_SUBUNIT aLIQUID_MEASURE_FIRST_SUBUNIT
     aMEASURE_SECOND_SUBUNIT bTHIRD_SUBUNIT aNUMBER_EIGHT cHUNDRED cTHOUSAND bEIGHTY cTHOUSAND
     bFIFTY cTHOUSAND bFIVE cHUNDRED cTHOUSAND bFORTY cTHOUSAND bFOUR cHUNDRED cTHOUSAND bNINE
     cHUNDRED cTHOUSAND bNINETY cTHOUSAND bONE cHUNDRED cTHOUSAND bSEVEN cHUNDRED cTHOUSAND
     bSEVENTY cTHOUSAND bSIX cHUNDRED cTHOUSAND bSIXTY cTHOUSAND bTEN cTHOUSAND bTHIRTY cTHOUSAND
     bTHREE cHUNDRED cTHOUSAND bTWENTY cTHOUSAND bTWO cHUNDRED cTHOUSAND aWEIGHT_BASE_UNIT
     bFIRST_SUBUNIT bFOURTH_SUBUNIT bSECOND_SUBUNIT bTHIRD_SUBUNIT aWORD_SEPARATOR_DOT cLINE"),
    ("AERIAL", "aTRAMWAY"),
    ("AFGHANI", "aSIGN"),
    ("AHOM", "aCONSONANT_SIGN_MEDIAL_LA dLIGATING_RA dRA aDIGIT_EIGHT bFIVE bFOUR bNINE bONE
     bSEVEN bSIX bTHREE bTWO bZERO aLETTER_A bALTERNATE_BA cGA cTA bBA bBHA bCA bCHA bDA bDDA
     bDDHA bDHA bGA bGHA bHA bJA bJHA bKA bKHA bLA bLLA bMA bNA bNGA bNNA bNYA bPA bPHA bRA bSA
     bTA bTHA bTTA bTTHA aNUMBER_TEN bTWENTY aSIGN_KILLER bRULAI bSECTION bSMALL_SECTION
     aSYMBOL_VI aVOWEL_SIGN_A cAA cAI cAM cAW cE cI cII cO cU cUU"),
    ("AIRPLANE", "a aARRIVING aDEPARTURE"),
    ("ALARM", "aCLOCK"),
    ("ALCHEMICAL", "aSYMBOL_FOR_AIR cALEMBIC cALKALI cALKALI-2 cALUM cAMALGAM cANTIMONY_ORE
     cAQUA_REGIA dREGIA-2 dVITAE dVITAE-2 cAQUAFORTIS cARSENIC cASHES cAURIPIGMENT cBATH_OF_MARY
     eVAPOURS cBISMUTH_ORE cBLACK_SULFUR cBORAX cBORAX-2 cBORAX-3 cBRICK cCADUCEUS cCALX
     cCAPUT_MORTUUM cCINNABAR cCOPPER_ANTIMONIATE dORE cCROCUS_OF_COPPER eCOPPER-2 eIRON
     cCRUCIBLE cCRUCIBLE-2 cCRUCIBLE-3 cCRUCIBLE-4 cCRUCIBLE-5 cDAY-NIGHT cDISSOLVE cDISSOLVE-2
     cDISTILL cEARTH cFIRE cGOLD cGUM cHALF_DRAM dOUNCE cHORSE_DUNG cHOUR cIRON_ORE dORE-2
     cIRON-COPPER_ORE cLEAD_ORE cLODESTONE cMARCASITE cMERCURY_SUBLIMATE dSUBLIMATE-2
     dSUBLIMATE-3 cMONTH cNIGHT cNITRE cOIL cPHILOSOPHERS_SULFUR cPOT_ASHES cPOWDER
     cPOWDERED_BRICK cPRECIPITATE cPURIFY cPUTREFACTION cQUICK_LIME cQUINTESSENCE cREALGAR
     cREALGAR-2 cREGULUS dOF_ANTIMONY eANTIMONY-2 eIRON cREGULUS-2 cREGULUS-3 cREGULUS-4 cRETORT
     cROCK_SALT dSALT-2 cSAL-AMMONIAC cSALT dOF_ANTIMONY eCOPPER_ANTIMONIATE cSCEPTER_OF_JOVE
     cSILVER cSOAP cSPIRIT cSTARRED_TRIDENT cSTRATUM_SUPER_STRATUM eSTRATUM-2
     cSUBLIMATE_OF_ANTIMONY eCOPPER eSALT_OF_ANTIMONY gCOPPER cSUBLIMATION cSULFUR cTARTAR
     cTARTAR-2 cTIN_ORE cTINCTURE cTRIDENT cTUTTY cURINE cVERDIGRIS cVINEGAR dOF_ANTIMONY
     cVINEGAR-2 cVINEGAR-3 cVITRIOL cVITRIOL-2 cWATER cWAX"),
    ("ALEF", "aSYMBOL"),
    ("ALIEN", "aMONSTER"),
    ("ALL", "aAROUND-PROFILE aEQUAL_TO"),
    ("ALMOST", "aEQUAL_OR_EQUAL_TO bTO cWITH_CIRCUMFLEX_ACCENT"),
    ("ALTERNATE", "aONE-WAY_LEFT_WAY_TRAFFIC"),
    ("ALTERNATIVE", "aKEY_SYMBOL"),
    ("AMALGAMATION", "aOR_COPRODUCT"),
    ("AMERICAN", "aFOOTBALL"),
    ("ANATOLIAN", "aHIEROGLYPH_A001 bA002 bA003 bA004 bA005 bA006 bA007 bA008 bA009 bA010 bA010A
     bA011 bA012 bA013 bA014 bA015 bA016 bA017 bA018 bA019 bA020 bA021 bA022 bA023 bA024 bA025
     bA026 bA026A bA027 bA028 bA029 bA030 bA031 bA032 bA033 bA034 bA035 bA036 bA037 bA038 bA039
     bA039A bA040 bA041 bA041A bA042 bA043 bA044 bA045 bA045A bA046 bA046A bA046B bA047 bA048
     bA049 bA050 bA051 bA052 bA053 bA054 bA055 bA056 bA057 bA058 bA059 bA060 bA061 bA062 bA063
     bA064 bA065 bA066 bA066A bA066B bA066C bA067 bA068 bA069 bA070 bA071 bA072 bA073 bA074 bA075
     bA076 bA077 bA078 bA079 bA080 bA081 bA082 bA083 bA084 bA085 bA086 bA087 bA088 bA089 bA090
     bA091 bA092 bA093 bA094 bA095 bA096 bA097 bA097A bA098 bA098A bA099 bA100 bA100A bA101
     bA101A bA102 bA102A bA103 bA104 bA104A bA104B bA104C bA105 bA105A bA105B bA106 bA107 bA107A
     bA107B bA107C bA108 bA109 bA110 bA110A bA110B bA111 bA112 bA113 bA114 bA115 bA115A bA116
     bA117 bA118 bA119 bA120 bA121 bA122 bA123 bA124 bA125 bA125A bA126 bA127 bA128 bA129 bA130
     bA131 bA132 bA133 bA134 bA135 bA135A bA136 bA137 bA138 bA139 bA140 bA141 bA142 bA143 bA144
     bA145 bA146 bA147 bA148 bA149 bA150 bA151 bA152 bA153 bA154 bA155 bA156 bA157 bA158 bA159
     bA160 bA161 bA162 bA163 bA164 bA165 bA166 bA167 bA168 bA169 bA170 bA171 bA172 bA173 bA174
     bA175 bA176 bA177 bA178 bA179 bA180 bA181 bA182 bA183 bA184 bA185 bA186 bA187 bA188 bA189
     bA190 bA191 bA192 bA193 bA194 bA195 bA196 bA197 bA198 bA199 bA200 bA201 bA202 bA202A bA202B
     bA203 bA204 bA205 bA206 bA207 bA207A bA208 bA209 bA209A bA210 bA211 bA212 bA213 bA214 bA215
     bA215A bA216 bA216A bA217 bA218 bA219 bA220 bA221 bA222 bA223 bA224 bA225 bA226 bA227 bA227A
     bA228 bA229 bA230 bA231 bA232 bA233 bA234 bA235 bA236 bA237 bA238 bA239 bA240 bA241 bA242
     bA243 bA244 bA245 bA246 bA247 bA248 bA249 bA250 bA251 bA252 bA253 bA254 bA255 bA256 bA257
     bA258 bA259 bA260 bA261 bA262 bA263 bA264 bA265 bA266 bA267 bA267A bA268 bA269 bA270 bA271
     bA272 bA273 bA274 bA275 bA276 bA277 bA278 bA279 bA280 bA281 bA282 bA283 bA284 bA285 bA286
     bA287 bA288 bA289 bA289A bA290 bA291 bA292 bA293 bA294 bA294A bA295 bA296 bA297 bA298 bA299
     bA299A bA300 bA301 bA302 bA303 bA304 bA305 bA306 bA307 bA308 bA309 bA309A bA310 bA311 bA312
     bA313 bA314 bA315 bA316 bA317 bA318 bA319 bA320 bA321 bA322 bA323 bA324 bA325 bA326 bA327
     bA328 bA329 bA329A bA330 bA331 bA332A bA332B bA332C bA333 bA334 bA335 bA336 bA336A bA336B
     bA336C bA337 bA338 bA339 bA340 bA341 bA342 bA343 bA344 bA345 bA346 bA347 bA348 bA349 bA350
     bA351 bA352 bA353 bA354 bA355 bA356 bA357 bA358 bA359 bA359A bA360 bA361 bA362 bA363 bA364
     bA364A bA365 bA366 bA367 bA368 bA368A bA369 bA370 bA371 bA371A bA372 bA373 bA374 bA375 bA376
     bA377 bA378 bA379 bA380 bA381 bA381A bA382 bA383_RA_OR_RI bA383A bA384 bA385 bA386 bA386A
     bA387 bA388 bA389 bA390 bA391 bA392 bA393_EIGHT bA394 bA395 bA396 bA397 bA398 bA399 bA400
     bA401 bA402 bA403 bA404 bA405 bA406 bA407 bA408 bA409 bA410_BEGIN_LOGOGRAM_MARK
     bA410A_END_LOGOGRAM_MARK bA411 bA412 bA413 bA414 bA415 bA416 bA417 bA418 bA419 bA420 bA421
     bA422 bA423 bA424 bA425 bA426 bA427 bA428 bA429 bA430 bA431 bA432 bA433 bA434 bA435 bA436
     bA437 bA438 bA439 bA440 bA441 bA442 bA443 bA444 bA445 bA446 bA447 bA448 bA449 bA450 bA450A
     bA451 bA452 bA453 bA454 bA455 bA456 bA457 bA457A bA458 bA459 bA460 bA461 bA462 bA463 bA464
     bA465 bA466 bA467 bA468 bA469 bA470 bA471 bA472 bA473 bA474 bA475 bA476 bA477 bA478 bA479
     bA480 bA481 bA482 bA483 bA484 bA485 bA486 bA487 bA488 bA489 bA490 bA491 bA492 bA493 bA494
     bA495 bA496 bA497 bA501 bA502 bA503 bA504 bA505 bA506 bA507 bA508 bA509 bA510 bA511 bA512
     bA513 bA514 bA515 bA516 bA517 bA518 bA519 bA520 bA521 bA522 bA523 bA524 bA525 bA526 bA527
     bA528 bA529 bA530"),
    ("ANATOMICAL", "aHEART"),
    ("AND", "aWITH_DOT"),
    ("ANGER", "aSYMBOL"),
    ("ANGLE", "a aWITH_S_INSIDE bUNDERBAR"),
    ("ANGRY", "aFACE"),
    ("ANGSTROM", "aSIGN"),
    ("ANGUISHED", "aFACE"),
    ("ANTENNA", "aWITH_BARS"),
    ("ANTICLOCKWISE", "aCLOSED_CIRCLE_ARROW aCONTOUR_INTEGRAL
     aDOWNWARDS_AND_UPWARDS_OPEN_CIRCLE_ARROWS aGAPPED_CIRCLE_ARROW aINTEGRATION
     aOPEN_CIRCLE_ARROW aTOP_SEMICIRCLE_ARROW aTRIANGLE-HEADED_BOTTOM_U-SHAPED_ARROW
     bLEFT_U-SHAPED_ARROW bOPEN_CIRCLE_ARROW bRIGHT_U-SHAPED_ARROW bTOP_U-SHAPED_ARROW"),
    ("APL", "aFUNCTIONAL_SYMBOL_ALPHA dUNDERBAR cBACKSLASH_BAR cCIRCLE_BACKSLASH dDIAERESIS dJOT
     dSTAR dSTILE dUNDERBAR cCOMMA_BAR cDEL_DIAERESIS dSTILE dTILDE cDELTA_STILE dUNDERBAR
     cDIAMOND_UNDERBAR cDOWN_CARET_TILDE dSHOE_STILE dTACK_JOT eUNDERBAR cDOWNWARDS_VANE
     cEPSILON_UNDERBAR cGREATER-THAN_DIAERESIS cI-BEAM cIOTA dUNDERBAR cJOT_DIAERESIS dUNDERBAR
     cLEFT_SHOE_STILE cLEFTWARDS_VANE cOMEGA dUNDERBAR cQUAD dBACKSLASH dCIRCLE dCOLON dDEL
     dDELTA dDIAMOND dDIVIDE dDOWN_CARET dDOWNWARDS_ARROW dEQUAL dGREATER-THAN dJOT
     dLEFTWARDS_ARROW dLESS-THAN dNOT_EQUAL dQUESTION dRIGHTWARDS_ARROW dSLASH dUP_CARET
     dUPWARDS_ARROW cQUOTE_QUAD dUNDERBAR cRHO cRIGHTWARDS_VANE cSEMICOLON_UNDERBAR cSLASH_BAR
     cSQUISH_QUAD cSTAR_DIAERESIS cSTILE_TILDE cTILDE_DIAERESIS cUP_CARET_TILDE dSHOE_JOT
     dTACK_DIAERESIS eJOT eOVERBAR cUPWARDS_VANE cZILDE"),
    ("APPLICATION", "aPROGRAM_COMMAND"),
    ("APPROACHES", "aTHE_LIMIT"),
    ("APPROXIMATELY", "aBUT_NOT_ACTUALLY_EQUAL_TO aEQUAL_OR_EQUAL_TO bTO cOR_THE_IMAGE_OF"),
    ("ARABIC", "aBASELINE_ROUND_DOT aCOMMA aCURLY_DAMMA bDAMMATAN bFATHA bFATHATAN bKASRA
     bKASRATAN aDAMMA bISOLATED_FORM bMEDIAL_FORM bWITH_DOT aDAMMATAN bISOLATED_FORM
     aDATE_SEPARATOR aDECIMAL_SEPARATOR aDISPUTED_END_OF_AYAH aDOUBLE_RIGHT_ARROWHEAD_ABOVE
     eWITH_DOT aDOUBLED_MADDA aEMPTY_CENTRE_HIGH_STOP cLOW_STOP aEND_OF_AYAH cTEXT_MARK aFATHA
     bISOLATED_FORM bMEDIAL_FORM bWITH_DOT_ABOVE cRING cTWO_DOTS aFATHATAN bISOLATED_FORM
     aFIVE_POINTED_STAR aFOOTNOTE_MARKER aFULL_STOP aHALF_MADDA_OVER_MADDA aHAMZA_ABOVE bBELOW
     aINVERTED_DAMMA aKASRA bISOLATED_FORM bMEDIAL_FORM bWITH_DOT_BELOW aKASRATAN bISOLATED_FORM
     aLARGE_CIRCLE_BELOW bROUND_DOT_ABOVE dBELOW dINSIDE_CIRCLE_BELOW aLEFT_ARROWHEAD_ABOVE
     cBELOW aLETTER_AE bAFRICAN_FEH cNOON cQAF dWITH_THREE_DOTS_ABOVE bAIN cFINAL_FORM
     cINITIAL_FORM cISOLATED_FORM cMEDIAL_FORM cWITH_THREE_DOTS_ABOVE fBELOW
     fPOINTING_DOWNWARDS_ABOVE dTWO_DOTS_ABOVE fVERTICALLY_ABOVE bALEF cFINAL_FORM cISOLATED_FORM
     cMAKSURA dFINAL_FORM dISOLATED_FORM cWASLA dFINAL_FORM dISOLATED_FORM
     cWITH_ATTACHED_BOTTOM_RIGHT_KASRA hAND_DOT_ABOVE iLEFT_RING eFATHA eKASRA eLEFT_HAMZA
     fROUND_DOT eRIGHT_HAMZA fROUND_DOT eROUND_DOT_ABOVE gBELOW eTOP_RIGHT_FATHA hAND_DOT_ABOVE
     iLEFT_RING dDOT_ABOVE dEXTENDED_ARABIC-INDIC_DIGIT_THREE_ABOVE gTWO_ABOVE dHAMZA_ABOVE
     fFINAL_FORM fISOLATED_FORM eBELOW fFINAL_FORM fISOLATED_FORM dLEFT_MIDDLE_STROKE
     dMADDA_ABOVE fFINAL_FORM fISOLATED_FORM dRIGHT_MIDDLE_STROKE gAND_DOT_ABOVE hLEFT_RING
     dWAVY_HAMZA_ABOVE fBELOW bBEEH cFINAL_FORM cINITIAL_FORM cISOLATED_FORM cMEDIAL_FORM bBEH
     cFINAL_FORM cINITIAL_FORM cISOLATED_FORM cMEDIAL_FORM cWITH_DOT_BELOW_AND_THREE_DOTS_ABOVE
     dHAMZA_ABOVE dINVERTED_SMALL_V_BELOW dSMALL_MEEM_ABOVE eV fBELOW
     dTHREE_DOTS_HORIZONTALLY_BELOW fPOINTING_UPWARDS_BELOW iAND_TWO_DOTS_ABOVE
     dTWO_DOTS_BELOW_AND_DOT_ABOVE bBEHEH cFINAL_FORM cINITIAL_FORM cISOLATED_FORM cMEDIAL_FORM
     bDAD cFINAL_FORM cINITIAL_FORM cISOLATED_FORM cMEDIAL_FORM cWITH_DOT_BELOW bDAHAL
     cFINAL_FORM cISOLATED_FORM bDAL cFINAL_FORM cISOLATED_FORM cWITH_DOT_BELOW fAND_SMALL_TAH
     dFOUR_DOTS_ABOVE dINVERTED_SMALL_V_BELOW eV dRING dTHREE_DOTS_ABOVE_DOWNWARDS fBELOW
     dTWO_DOTS_VERTICALLY_BELOW_AND_SMALL_TAH bDDAHAL cFINAL_FORM cISOLATED_FORM bDDAL
     cFINAL_FORM cISOLATED_FORM bDOTLESS_BEH cFEH cQAF bDUL cFINAL_FORM cISOLATED_FORM bDYEH
     cFINAL_FORM cINITIAL_FORM cISOLATED_FORM cMEDIAL_FORM bE cFINAL_FORM cINITIAL_FORM
     cISOLATED_FORM cMEDIAL_FORM bFARSI_YEH dFINAL_FORM dINITIAL_FORM dISOLATED_FORM dMEDIAL_FORM
     dWITH_EXTENDED_ARABIC-INDIC_DIGIT_FOUR_BELOW hTHREE_ABOVE hTWO_ABOVE eINVERTED_V
     eTHREE_DOTS_ABOVE eTWO_DOTS_ABOVE bFEH cFINAL_FORM cINITIAL_FORM cISOLATED_FORM cMEDIAL_FORM
     cWITH_DOT_BELOW fAND_THREE_DOTS_ABOVE eMOVED_BELOW dTHREE_DOTS_BELOW fPOINTING_UPWARDS_BELOW
     dTWO_DOTS_BELOW bGAF cFINAL_FORM cINITIAL_FORM cISOLATED_FORM cMEDIAL_FORM
     cWITH_INVERTED_STROKE dRING dTHREE_DOTS_ABOVE dTWO_DOTS_BELOW bGHAIN cFINAL_FORM
     cINITIAL_FORM cISOLATED_FORM cMEDIAL_FORM cWITH_DOT_BELOW dTHREE_DOTS_ABOVE bGRAF bGUEH
     cFINAL_FORM cINITIAL_FORM cISOLATED_FORM cMEDIAL_FORM bHAH cFINAL_FORM cINITIAL_FORM
     cISOLATED_FORM cMEDIAL_FORM cWITH_EXTENDED_ARABIC-INDIC_DIGIT_FOUR_BELOW dHAMZA_ABOVE
     dINVERTED_SMALL_V_BELOW dSMALL_ARABIC_LETTER_TAH_ABOVE hAND_TWO_DOTS hBELOW
     dTHREE_DOTS_ABOVE fPOINTING_UPWARDS_BELOW dTWO_DOTS_ABOVE fVERTICAL_ABOVE bHAMZA
     cISOLATED_FORM bHEH cDOACHASHMEE dFINAL_FORM dINITIAL_FORM dISOLATED_FORM dMEDIAL_FORM
     cFINAL_FORM cGOAL dFINAL_FORM dINITIAL_FORM dISOLATED_FORM dMEDIAL_FORM dWITH_HAMZA_ABOVE
     cINITIAL_FORM cISOLATED_FORM cMEDIAL_FORM cWITH_INVERTED_V dYEH_ABOVE fFINAL_FORM
     fISOLATED_FORM bHIGH_HAMZA dALEF dWAW dYEH bJEEM cFINAL_FORM cINITIAL_FORM cISOLATED_FORM
     cMEDIAL_FORM cWITH_THREE_DOTS_ABOVE fBELOW dTWO_DOTS_ABOVE bJEH cFINAL_FORM cISOLATED_FORM
     bKAF cFINAL_FORM cINITIAL_FORM cISOLATED_FORM cMEDIAL_FORM cWITH_DOT_ABOVE eBELOW dRING
     dTHREE_DOTS_BELOW dTWO_DOTS_ABOVE bKASHMIRI_YEH bKEHEH cFINAL_FORM cINITIAL_FORM
     cISOLATED_FORM cMEDIAL_FORM cWITH_DOT_ABOVE dSMALL_V dTHREE_DOTS_ABOVE fBELOW
     fPOINTING_UPWARDS_BELOW dTWO_DOTS_ABOVE fVERTICALLY_BELOW bKHAH cFINAL_FORM cINITIAL_FORM
     cISOLATED_FORM cMEDIAL_FORM bKIRGHIZ_OE dFINAL_FORM dISOLATED_FORM cYU dFINAL_FORM
     dISOLATED_FORM bLAM cFINAL_FORM cINITIAL_FORM cISOLATED_FORM cMEDIAL_FORM cWITH_BAR
     dDOT_ABOVE dDOUBLE_BAR dSMALL_ARABIC_LETTER_TAH_ABOVE eV dTHREE_DOTS_ABOVE fBELOW bLOW_ALEF
     bMARK bMEEM cFINAL_FORM cINITIAL_FORM cISOLATED_FORM cMEDIAL_FORM cWITH_DOT_ABOVE eBELOW
     dTHREE_DOTS_ABOVE bNG cFINAL_FORM cINITIAL_FORM cISOLATED_FORM cMEDIAL_FORM bNGOEH
     cFINAL_FORM cINITIAL_FORM cISOLATED_FORM cMEDIAL_FORM bNOON cFINAL_FORM cGHUNNA dFINAL_FORM
     dISOLATED_FORM cINITIAL_FORM cISOLATED_FORM cMEDIAL_FORM cWITH_DOT_BELOW dINVERTED_SMALL_V
     dRING dSMALL_TAH eV dTHREE_DOTS_ABOVE dTWO_DOTS_BELOW bNYEH cFINAL_FORM cINITIAL_FORM
     cISOLATED_FORM cMEDIAL_FORM bOE cFINAL_FORM cISOLATED_FORM bPEH cFINAL_FORM cINITIAL_FORM
     cISOLATED_FORM cMEDIAL_FORM cWITH_SMALL_MEEM_ABOVE eV bPEHEH cFINAL_FORM cINITIAL_FORM
     cISOLATED_FORM cMEDIAL_FORM bQAF cFINAL_FORM cINITIAL_FORM cISOLATED_FORM cMEDIAL_FORM
     cWITH_DOT_ABOVE eBELOW fAND_NO_DOTS_ABOVE dTHREE_DOTS_ABOVE bREH cFINAL_FORM cISOLATED_FORM
     cWITH_DOT_BELOW fAND_DOT_ABOVE dFOUR_DOTS_ABOVE dHAMZA_ABOVE dINVERTED_V dLOOP dRING
     dSMALL_ARABIC_LETTER_TAH_AND_TWO_DOTS eNOON_ABOVE eV fBELOW dSTROKE dTWO_DOTS_ABOVE
     fVERTICALLY_ABOVE bRNOON cFINAL_FORM cINITIAL_FORM cISOLATED_FORM cMEDIAL_FORM bROHINGYA_YEH
     bRREH cFINAL_FORM cISOLATED_FORM bSAD cFINAL_FORM cINITIAL_FORM cISOLATED_FORM cMEDIAL_FORM
     cWITH_THREE_DOTS_ABOVE fBELOW dTWO_DOTS_BELOW bSEEN cFINAL_FORM cINITIAL_FORM cISOLATED_FORM
     cMEDIAL_FORM cWITH_DOT_BELOW_AND_DOT_ABOVE dEXTENDED_ARABIC-INDIC_DIGIT_FOUR_ABOVE
     dFOUR_DOTS_ABOVE dINVERTED_V dSMALL_ARABIC_LETTER_TAH_AND_TWO_DOTS dTHREE_DOTS_BELOW
     gAND_THREE_DOTS_ABOVE dTWO_DOTS_VERTICALLY_ABOVE bSHEEN cFINAL_FORM cINITIAL_FORM
     cISOLATED_FORM cMEDIAL_FORM cWITH_DOT_BELOW bSTRAIGHT_WAW bSUPERSCRIPT_ALEF bSWASH_KAF bTAH
     cFINAL_FORM cINITIAL_FORM cISOLATED_FORM cMEDIAL_FORM cWITH_DOT_BELOW dTHREE_DOTS_ABOVE
     fBELOW dTWO_DOTS_ABOVE bTCHEH cFINAL_FORM cINITIAL_FORM cISOLATED_FORM cMEDIAL_FORM
     cWITH_DOT_ABOVE dSMALL_V bTCHEHEH cFINAL_FORM cINITIAL_FORM cISOLATED_FORM cMEDIAL_FORM bTEH
     cFINAL_FORM cINITIAL_FORM cISOLATED_FORM cMARBUTA dFINAL_FORM dGOAL dISOLATED_FORM
     cMEDIAL_FORM cWITH_RING dSMALL_TEH_ABOVE eV dTHREE_DOTS_ABOVE_DOWNWARDS bTEHEH cFINAL_FORM
     cINITIAL_FORM cISOLATED_FORM cMEDIAL_FORM bTHAL cFINAL_FORM cISOLATED_FORM bTHEH cFINAL_FORM
     cINITIAL_FORM cISOLATED_FORM cMEDIAL_FORM bTHIN_YEH bTTEH cFINAL_FORM cINITIAL_FORM
     cISOLATED_FORM cMEDIAL_FORM cWITH_SMALL_V bTTEHEH cFINAL_FORM cINITIAL_FORM cISOLATED_FORM
     cMEDIAL_FORM bU cFINAL_FORM cISOLATED_FORM cWITH_HAMZA_ABOVE fISOLATED_FORM
     bUIGHUR_KAZAKH_KIRGHIZ_ALEF_MAKSURA_INITIAL_FORM gMEDIAL_FORM bVE cFINAL_FORM cISOLATED_FORM
     bVEH cFINAL_FORM cINITIAL_FORM cISOLATED_FORM cMEDIAL_FORM bWAW cFINAL_FORM cISOLATED_FORM
     cWITH_DOT_ABOVE eWITHIN dEXTENDED_ARABIC-INDIC_DIGIT_THREE_ABOVE gTWO_ABOVE dHAMZA_ABOVE
     fFINAL_FORM fISOLATED_FORM dRING dTWO_DOTS_ABOVE bYEH cBARREE dFINAL_FORM dISOLATED_FORM
     dWITH_EXTENDED_ARABIC-INDIC_DIGIT_THREE_ABOVE hTWO_ABOVE eHAMZA_ABOVE gFINAL_FORM
     gISOLATED_FORM cFINAL_FORM cINITIAL_FORM cISOLATED_FORM cMEDIAL_FORM cWITH_HAMZA_ABOVE
     fFINAL_FORM fINITIAL_FORM fISOLATED_FORM fMEDIAL_FORM dSMALL_V dTAIL dTHREE_DOTS_BELOW
     dTWO_DOTS_BELOW_AND_DOT_ABOVE hHAMZA_ABOVE hSMALL_NOON_ABOVE bYU cFINAL_FORM cISOLATED_FORM
     bZAH cFINAL_FORM cINITIAL_FORM cISOLATED_FORM cMEDIAL_FORM bZAIN cFINAL_FORM cISOLATED_FORM
     cWITH_INVERTED_V_ABOVE aLIGATURE_AIN_WITH_ALEF_MAKSURA_FINAL_FORM fISOLATED_FORM
     dJEEM_INITIAL_FORM eISOLATED_FORM eWITH_MEEM_FINAL_FORM gINITIAL_FORM dMEEM_INITIAL_FORM
     eISOLATED_FORM eWITH_ALEF_MAKSURA_FINAL_FORM fMEEM_FINAL_FORM gINITIAL_FORM fYEH_FINAL_FORM
     dYEH_FINAL_FORM eISOLATED_FORM bAKBAR_ISOLATED_FORM bALAYHAA_AS-SALAAM bALAYHE_ISOLATED_FORM
     bALAYHI_AS-SALAAM cAS-SALAATU_WAS-SALAAM bALAYHIM_AS-SALAAM bALAYHIMAA_AS-SALAAM
     bALEF_MAKSURA_WITH_SUPERSCRIPT_ALEF_FINAL_FORM gISOLATED_FORM cWITH_FATHATAN_FINAL_FORM
     eISOLATED_FORM bALLAH_ISOLATED_FORM bAZZA_WA_JALL bBEH_WITH_ALEF_MAKSURA_FINAL_FORM
     fISOLATED_FORM dHAH_INITIAL_FORM eISOLATED_FORM eWITH_YEH_FINAL_FORM dHEH_INITIAL_FORM
     eMEDIAL_FORM dJEEM_INITIAL_FORM eISOLATED_FORM dKHAH_INITIAL_FORM eISOLATED_FORM
     eWITH_YEH_FINAL_FORM dMEEM_FINAL_FORM eINITIAL_FORM eISOLATED_FORM eMEDIAL_FORM
     dNOON_FINAL_FORM dREH_FINAL_FORM dYEH_FINAL_FORM eISOLATED_FORM dZAIN_FINAL_FORM
     bBISMILLAH_AR-RAHMAN_AR-RAHEEM bDAD_WITH_ALEF_MAKSURA_FINAL_FORM fISOLATED_FORM
     dHAH_INITIAL_FORM eISOLATED_FORM eWITH_ALEF_MAKSURA_FINAL_FORM fYEH_FINAL_FORM
     dJEEM_INITIAL_FORM eISOLATED_FORM dKHAH_INITIAL_FORM eISOLATED_FORM eWITH_MEEM_FINAL_FORM
     gINITIAL_FORM dMEEM_INITIAL_FORM eISOLATED_FORM dREH_FINAL_FORM eISOLATED_FORM
     dYEH_FINAL_FORM eISOLATED_FORM bFEH_WITH_ALEF_MAKSURA_FINAL_FORM fISOLATED_FORM
     dHAH_INITIAL_FORM eISOLATED_FORM dJEEM_INITIAL_FORM eISOLATED_FORM dKHAH_INITIAL_FORM
     eISOLATED_FORM eWITH_MEEM_FINAL_FORM gINITIAL_FORM dMEEM_INITIAL_FORM eISOLATED_FORM
     eWITH_YEH_FINAL_FORM dYEH_FINAL_FORM eISOLATED_FORM bGHAIN_WITH_ALEF_MAKSURA_FINAL_FORM
     fISOLATED_FORM dJEEM_INITIAL_FORM eISOLATED_FORM dMEEM_INITIAL_FORM eISOLATED_FORM
     eWITH_ALEF_MAKSURA_FINAL_FORM fMEEM_FINAL_FORM fYEH_FINAL_FORM dYEH_FINAL_FORM
     eISOLATED_FORM bHAH_WITH_ALEF_MAKSURA_FINAL_FORM fISOLATED_FORM dJEEM_INITIAL_FORM
     eISOLATED_FORM eWITH_YEH_FINAL_FORM dMEEM_INITIAL_FORM eISOLATED_FORM
     eWITH_ALEF_MAKSURA_FINAL_FORM fYEH_FINAL_FORM dYEH_FINAL_FORM eISOLATED_FORM
     bHEH_WITH_ALEF_MAKSURA_ISOLATED_FORM dJEEM_INITIAL_FORM eISOLATED_FORM dMEEM_INITIAL_FORM
     eISOLATED_FORM eWITH_JEEM_INITIAL_FORM fMEEM_INITIAL_FORM dSUPERSCRIPT_ALEF_INITIAL_FORM
     dYEH_ISOLATED_FORM bJALLAJALALOUHOU bJEEM_WITH_ALEF_MAKSURA_FINAL_FORM fISOLATED_FORM
     dHAH_INITIAL_FORM eISOLATED_FORM eWITH_ALEF_MAKSURA_FINAL_FORM fYEH_FINAL_FORM
     dMEEM_INITIAL_FORM eISOLATED_FORM eWITH_ALEF_MAKSURA_FINAL_FORM fHAH_FINAL_FORM
     gINITIAL_FORM fYEH_FINAL_FORM dYEH_FINAL_FORM eISOLATED_FORM bKAF_WITH_ALEF_FINAL_FORM
     eISOLATED_FORM eMAKSURA_FINAL_FORM fISOLATED_FORM dHAH_INITIAL_FORM eISOLATED_FORM
     dJEEM_INITIAL_FORM eISOLATED_FORM dKHAH_INITIAL_FORM eISOLATED_FORM dLAM_FINAL_FORM
     eINITIAL_FORM eISOLATED_FORM eMEDIAL_FORM dMEEM_FINAL_FORM eINITIAL_FORM eISOLATED_FORM
     eMEDIAL_FORM eWITH_MEEM_FINAL_FORM gINITIAL_FORM fYEH_FINAL_FORM dYEH_FINAL_FORM
     eISOLATED_FORM bKHAH_WITH_ALEF_MAKSURA_FINAL_FORM fISOLATED_FORM dHAH_ISOLATED_FORM
     dJEEM_INITIAL_FORM eISOLATED_FORM dMEEM_INITIAL_FORM eISOLATED_FORM dYEH_FINAL_FORM
     eISOLATED_FORM bLAM_WITH_ALEF_FINAL_FORM eISOLATED_FORM eMAKSURA_FINAL_FORM fISOLATED_FORM
     eWITH_HAMZA_ABOVE_FINAL_FORM hISOLATED_FORM gBELOW_FINAL_FORM hISOLATED_FORM
     fMADDA_ABOVE_FINAL_FORM hISOLATED_FORM dHAH_INITIAL_FORM eISOLATED_FORM
     eWITH_ALEF_MAKSURA_FINAL_FORM fMEEM_FINAL_FORM gINITIAL_FORM fYEH_FINAL_FORM
     dHEH_INITIAL_FORM dJEEM_INITIAL_FORM eISOLATED_FORM eWITH_JEEM_FINAL_FORM gINITIAL_FORM
     fMEEM_FINAL_FORM gINITIAL_FORM fYEH_FINAL_FORM dKHAH_INITIAL_FORM eISOLATED_FORM
     eWITH_MEEM_FINAL_FORM gINITIAL_FORM dMEEM_FINAL_FORM eINITIAL_FORM eISOLATED_FORM
     eMEDIAL_FORM eWITH_HAH_FINAL_FORM gINITIAL_FORM fYEH_FINAL_FORM dYEH_FINAL_FORM
     eISOLATED_FORM bMEEM_WITH_ALEF_FINAL_FORM eMAKSURA_ISOLATED_FORM dHAH_INITIAL_FORM
     eISOLATED_FORM eWITH_JEEM_INITIAL_FORM fMEEM_INITIAL_FORM fYEH_FINAL_FORM dJEEM_INITIAL_FORM
     eISOLATED_FORM eWITH_HAH_INITIAL_FORM fKHAH_INITIAL_FORM fMEEM_INITIAL_FORM fYEH_FINAL_FORM
     dKHAH_INITIAL_FORM eISOLATED_FORM eWITH_JEEM_INITIAL_FORM fMEEM_INITIAL_FORM fYEH_FINAL_FORM
     dMEEM_FINAL_FORM eINITIAL_FORM eISOLATED_FORM eWITH_YEH_FINAL_FORM dYEH_ISOLATED_FORM
     bMOHAMMAD_ISOLATED_FORM bNOON_WITH_ALEF_MAKSURA_FINAL_FORM fISOLATED_FORM dHAH_INITIAL_FORM
     eISOLATED_FORM eWITH_ALEF_MAKSURA_FINAL_FORM fMEEM_INITIAL_FORM fYEH_FINAL_FORM
     dHEH_INITIAL_FORM eMEDIAL_FORM dJEEM_INITIAL_FORM eISOLATED_FORM
     eWITH_ALEF_MAKSURA_FINAL_FORM fHAH_FINAL_FORM gINITIAL_FORM fMEEM_FINAL_FORM gINITIAL_FORM
     fYEH_FINAL_FORM dKHAH_INITIAL_FORM eISOLATED_FORM dMEEM_FINAL_FORM eINITIAL_FORM
     eISOLATED_FORM eMEDIAL_FORM eWITH_ALEF_MAKSURA_FINAL_FORM fYEH_FINAL_FORM dNOON_FINAL_FORM
     dREH_FINAL_FORM dYEH_FINAL_FORM eISOLATED_FORM dZAIN_FINAL_FORM
     bQAF_WITH_ALEF_MAKSURA_FINAL_FORM fISOLATED_FORM dHAH_INITIAL_FORM eISOLATED_FORM
     dMEEM_INITIAL_FORM eISOLATED_FORM eWITH_HAH_FINAL_FORM gINITIAL_FORM fMEEM_FINAL_FORM
     fYEH_FINAL_FORM dYEH_FINAL_FORM eISOLATED_FORM bQALA_USED_AS_KORANIC_STOP_SIGN_ISOLATED_FORM
     bQUDDISA_SIRRAH bRADI_ALLAAHU_ANH dANHAA dANHUM dANHUMAA dANHUNNA bRAHIMAHU_ALLAAH
     bRAHIMAHUM_ALLAAH bRASOUL_ISOLATED_FORM bREH_WITH_SUPERSCRIPT_ALEF_ISOLATED_FORM
     bSAD_WITH_ALEF_MAKSURA_FINAL_FORM fISOLATED_FORM dHAH_INITIAL_FORM eISOLATED_FORM
     eWITH_HAH_FINAL_FORM gINITIAL_FORM fYEH_FINAL_FORM dKHAH_INITIAL_FORM dMEEM_INITIAL_FORM
     eISOLATED_FORM eWITH_MEEM_FINAL_FORM gINITIAL_FORM dREH_FINAL_FORM eISOLATED_FORM
     dYEH_FINAL_FORM eISOLATED_FORM bSALAAMUHU_ALAYNAA bSALAM_ISOLATED_FORM bSALLA_ISOLATED_FORM
     cUSED_AS_KORANIC_STOP_SIGN_ISOLATED_FORM bSALLALLAAHU_ALAYHI_WA-AALIH
     bSALLALLAHOU_ALAYHE_WASALLAM bSALLALLAHU_ALAYHI_WAAALIHEE_WA-SALLAM
     bSEEN_WITH_ALEF_MAKSURA_FINAL_FORM fISOLATED_FORM dHAH_INITIAL_FORM eISOLATED_FORM
     eMEDIAL_FORM eWITH_JEEM_INITIAL_FORM dHEH_INITIAL_FORM eMEDIAL_FORM dJEEM_INITIAL_FORM
     eISOLATED_FORM eMEDIAL_FORM eWITH_ALEF_MAKSURA_FINAL_FORM fHAH_INITIAL_FORM
     dKHAH_INITIAL_FORM eISOLATED_FORM eMEDIAL_FORM eWITH_ALEF_MAKSURA_FINAL_FORM fYEH_FINAL_FORM
     dMEEM_INITIAL_FORM eISOLATED_FORM eMEDIAL_FORM eWITH_HAH_FINAL_FORM gINITIAL_FORM
     fJEEM_INITIAL_FORM fMEEM_FINAL_FORM gINITIAL_FORM dREH_FINAL_FORM eISOLATED_FORM
     dYEH_FINAL_FORM eISOLATED_FORM bSHADDA_WITH_DAMMA_ISOLATED_FORM eMEDIAL_FORM
     dDAMMATAN_ISOLATED_FORM dFATHA_ISOLATED_FORM eMEDIAL_FORM dKASRA_ISOLATED_FORM eMEDIAL_FORM
     dKASRATAN_ISOLATED_FORM dSUPERSCRIPT_ALEF_ISOLATED_FORM bSHEEN_WITH_ALEF_MAKSURA_FINAL_FORM
     fISOLATED_FORM dHAH_FINAL_FORM eINITIAL_FORM eISOLATED_FORM eMEDIAL_FORM
     eWITH_MEEM_FINAL_FORM gINITIAL_FORM fYEH_FINAL_FORM dHEH_INITIAL_FORM eMEDIAL_FORM
     dJEEM_FINAL_FORM eINITIAL_FORM eISOLATED_FORM eMEDIAL_FORM eWITH_YEH_FINAL_FORM
     dKHAH_FINAL_FORM eINITIAL_FORM eISOLATED_FORM eMEDIAL_FORM dMEEM_FINAL_FORM eINITIAL_FORM
     eISOLATED_FORM eMEDIAL_FORM eWITH_KHAH_FINAL_FORM gINITIAL_FORM fMEEM_FINAL_FORM
     gINITIAL_FORM dREH_FINAL_FORM eISOLATED_FORM dYEH_FINAL_FORM eISOLATED_FORM
     bSUBHAANAHU_WA_TAAALAA bTABAARAKA_WA-TAAALAA bTAH_WITH_ALEF_MAKSURA_FINAL_FORM
     fISOLATED_FORM dHAH_INITIAL_FORM eISOLATED_FORM dMEEM_INITIAL_FORM eISOLATED_FORM
     eMEDIAL_FORM eWITH_HAH_FINAL_FORM gINITIAL_FORM fMEEM_INITIAL_FORM fYEH_FINAL_FORM
     dYEH_FINAL_FORM eISOLATED_FORM bTEH_WITH_ALEF_MAKSURA_FINAL_FORM fISOLATED_FORM
     dHAH_INITIAL_FORM eISOLATED_FORM eWITH_JEEM_FINAL_FORM gINITIAL_FORM fMEEM_INITIAL_FORM
     dHEH_INITIAL_FORM eMEDIAL_FORM dJEEM_INITIAL_FORM eISOLATED_FORM
     eWITH_ALEF_MAKSURA_FINAL_FORM fMEEM_INITIAL_FORM fYEH_FINAL_FORM dKHAH_INITIAL_FORM
     eISOLATED_FORM eWITH_ALEF_MAKSURA_FINAL_FORM fMEEM_INITIAL_FORM fYEH_FINAL_FORM
     dMEEM_FINAL_FORM eINITIAL_FORM eISOLATED_FORM eMEDIAL_FORM eWITH_ALEF_MAKSURA_FINAL_FORM
     fHAH_INITIAL_FORM fJEEM_INITIAL_FORM fKHAH_INITIAL_FORM fYEH_FINAL_FORM dNOON_FINAL_FORM
     dREH_FINAL_FORM dYEH_FINAL_FORM eISOLATED_FORM dZAIN_FINAL_FORM
     bTHAL_WITH_SUPERSCRIPT_ALEF_ISOLATED_FORM bTHEH_WITH_ALEF_MAKSURA_FINAL_FORM fISOLATED_FORM
     dHEH_MEDIAL_FORM dJEEM_ISOLATED_FORM dMEEM_FINAL_FORM eINITIAL_FORM eISOLATED_FORM
     eMEDIAL_FORM dNOON_FINAL_FORM dREH_FINAL_FORM dYEH_FINAL_FORM eISOLATED_FORM
     dZAIN_FINAL_FORM bUIGHUR_KIRGHIZ_YEH_WITH_HAMZA_ABOVE_WITH_ALEF_MAKSURA_FINAL_FORM
     kINITIAL_FORM kISOLATED_FORM bWASALLAM_ISOLATED_FORM bYEH_WITH_ALEF_MAKSURA_FINAL_FORM
     fISOLATED_FORM dHAH_INITIAL_FORM eISOLATED_FORM eWITH_YEH_FINAL_FORM
     dHAMZA_ABOVE_WITH_AE_FINAL_FORM hISOLATED_FORM gALEF_FINAL_FORM hISOLATED_FORM
     hMAKSURA_FINAL_FORM iISOLATED_FORM gE_FINAL_FORM hINITIAL_FORM hISOLATED_FORM
     gHAH_INITIAL_FORM hISOLATED_FORM gHEH_INITIAL_FORM hMEDIAL_FORM gJEEM_INITIAL_FORM
     hISOLATED_FORM gKHAH_INITIAL_FORM gMEEM_FINAL_FORM hINITIAL_FORM hISOLATED_FORM hMEDIAL_FORM
     gNOON_FINAL_FORM gOE_FINAL_FORM hISOLATED_FORM gREH_FINAL_FORM gU_FINAL_FORM hISOLATED_FORM
     gWAW_FINAL_FORM hISOLATED_FORM gYEH_FINAL_FORM hISOLATED_FORM gYU_FINAL_FORM hISOLATED_FORM
     gZAIN_FINAL_FORM dHEH_INITIAL_FORM eMEDIAL_FORM dJEEM_INITIAL_FORM eISOLATED_FORM
     eWITH_YEH_FINAL_FORM dKHAH_INITIAL_FORM eISOLATED_FORM dMEEM_FINAL_FORM eINITIAL_FORM
     eISOLATED_FORM eMEDIAL_FORM eWITH_MEEM_FINAL_FORM gINITIAL_FORM fYEH_FINAL_FORM
     dNOON_FINAL_FORM dREH_FINAL_FORM dYEH_FINAL_FORM eISOLATED_FORM dZAIN_FINAL_FORM
     bZAH_WITH_MEEM_INITIAL_FORM eISOLATED_FORM eMEDIAL_FORM aMADDA_WAAJIB aMADDAH_ABOVE
     aMARK_NOON_GHUNNA bSIDEWAYS_NOON_GHUNNA aMATHEMATICAL_AIN bALEF bBEH bDAD bDAL bDOTLESS_BEH
     cFEH cNOON cQAF bDOUBLE-STRUCK_AIN cBEH cDAD cDAL cFEH cGHAIN cHAH cJEEM cKHAH cLAM cMEEM
     cNOON cQAF cREH cSAD cSEEN cSHEEN cTAH cTEH cTHAL cTHEH cWAW cYEH cZAH cZAIN bFEH bGHAIN
     bHAH bINITIAL_AIN cBEH cDAD cFEH cGHAIN cHAH cHEH cJEEM cKAF cKHAH cLAM cMEEM cNOON cQAF
     cSAD cSEEN cSHEEN cTEH cTHEH cYEH bJEEM bKAF bKHAH bLAM bLOOPED_AIN cALEF cBEH cDAD cDAL
     cFEH cGHAIN cHAH cHEH cJEEM cKHAH cLAM cMEEM cNOON cQAF cREH cSAD cSEEN cSHEEN cTAH cTEH
     cTHAL cTHEH cWAW cYEH cZAH cZAIN bMEEM bNOON bOPERATOR_HAH_WITH_DAL
     cMEEM_WITH_HAH_WITH_TATWEEL bQAF bREH bSAD bSEEN bSHEEN bSTRETCHED_AIN cBEH cDAD
     cDOTLESS_BEH dFEH cFEH cGHAIN cHAH cHEH cJEEM cKAF cKHAH cMEEM cNOON cQAF cSAD cSEEN cSHEEN
     cTAH cTEH cTHEH cYEH cZAH bTAH bTAILED_AIN cDAD cDOTLESS_NOON dQAF cGHAIN cHAH cJEEM cKHAH
     cLAM cNOON cQAF cSAD cSEEN cSHEEN cYEH bTEH bTHAL bTHEH bWAW bYEH bZAH bZAIN
     aNUMBER_MARK_ABOVE bSIGN aOPEN_DAMMATAN bFATHATAN bKASRATAN aPERCENT_SIGN
     aPIASTRE_MARK_ABOVE aPLACE_OF_SAJDAH aPOETIC_VERSE_SIGN aPOUND_MARK_ABOVE aQUESTION_MARK
     aRAISED_ROUND_DOT aRAY aREVERSED_DAMMA aRIGHT_ARROWHEAD_ABOVE dWITH_DOT cBELOW
     aROUNDED_HIGH_STOP_WITH_FILLED_CENTRE aSEMICOLON aSHADDA bISOLATED_FORM bMEDIAL_FORM
     aSIGN_ALAYHE_ASSALLAM bMISRA bRADI_ALLAHOU_ANHU bRAHMATULLAH_ALAYHE bSAFHA
     bSALLALLAHOU_ALAYHE_WASSALLAM bSAMVAT bSANAH bSINDHI_AMPERSAND cPOSTPOSITION_MEN bTAKHALLUS
     aSMALL_DAMMA bFARSI_YEH bFATHA bHIGH_AIN cDOTLESS_HEAD_OF_KHAH cFARSI_YEH cFOOTNOTE_MARKER
     cJEEM cLAM_ALEF cLIGATURE_ALEF_WITH_LAM_WITH_YEH dQAF_WITH_LAM_WITH_ALEF_MAKSURA
     dSAD_WITH_LAM_WITH_ALEF_MAKSURA cMADDA cMEEM_INITIAL_FORM dISOLATED_FORM cNOON dWITH_KASRA
     cQAF cROUNDED_ZERO cSAD cSEEN cSIGN_SAFHA cTAH cTHREE_DOTS cUPRIGHT_RECTANGULAR_ZERO cWAW
     cWORD_AL-JUZ dAN-NISF dAR-RUB dAS-SAJDA dATH-THALATHA dQIF dSAH dSAKTA dWAQFA cYEH
     dBARREE_WITH_TWO_DOTS_BELOW cZAH cZAIN bKASRA bLOW_MEEM cNOON_WITH_KASRA cSEEN cWAW
     cWORD_IMAALA dISHMAAM dTASHEEL bWAW bYEH aSTART_OF_RUB_EL_HIZB aSUBSCRIPT_ALEF aSUKUN bBELOW
     bISOLATED_FORM bMEDIAL_FORM aSUPERSCRIPT_ALEF_MOKHASSAS aSYMBOL_DOT_ABOVE cBELOW
     bDOUBLE_VERTICAL_BAR_BELOW bFOUR_DOTS_ABOVE dBELOW bRING bSMALL_TAH_ABOVE dBELOW
     bTHREE_DOTS_ABOVE dBELOW dPOINTING_DOWNWARDS_ABOVE fBELOW bTWO_DOTS_ABOVE dBELOW
     dVERTICALLY_ABOVE eBELOW bWASLA_ABOVE aTAIL_FRAGMENT aTATWEEL bWITH_FATHATAN_ABOVE
     cOVERSTRUCK_HAMZA dWAW cTWO_DOTS_BELOW aTHOUSANDS_SEPARATOR aTONE_LOOP_ABOVE cBELOW
     bONE_DOT_ABOVE dBELOW bTWO_DOTS_ABOVE dBELOW aTRIPLE_DOT_PUNCTUATION_MARK
     aTURNED_DAMMA_BELOW aVERTICAL_TAIL aVOWEL_SIGN_DOT_BELOW cINVERTED_SMALL_V_ABOVE
     cSMALL_V_ABOVE aWAVY_HAMZA_BELOW aZWARAKAY"),
    ("ARABIC-INDIC", "aCUBE_ROOT aDIGIT_EIGHT bFIVE bFOUR bNINE bONE bSEVEN bSIX bTHREE bTWO
     bZERO aFOURTH_ROOT aPER_MILLE_SIGN bTEN_THOUSAND_SIGN"),
    ("ARMENIAN", "aABBREVIATION_MARK aAPOSTROPHE aCAPITAL_LETTER_AYB cBEN cCA cCHA cCHEH cCO cDA
     cECH cEH cET cFEH cGHAD cGIM cHO cINI cJA cJHEH cKEH cKEN cLIWN cMEN cNOW cOH cPEH cPIWR cRA
     cREH cSEH cSHA cTIWN cTO cVEW cVO cXEH cYI cYIWN cZA cZHE aCOMMA aDRAM_SIGN aEMPHASIS_MARK
     aEXCLAMATION_MARK aFULL_STOP aHYPHEN aMODIFIER_LETTER_LEFT_HALF_RING aQUESTION_MARK
     aSMALL_LETTER_AYB cBEN cCA cCHA cCHEH cCO cDA cECH cEH cET cFEH cGHAD cGIM cHO cINI cJA
     cJHEH cKEH cKEN cLIWN cMEN cNOW cOH cPEH cPIWR cRA cREH cSEH cSHA cTIWN cTO cTURNED_AYB cVEW
     cVO cXEH cYI dWITH_STROKE cYIWN cZA cZHE bLIGATURE_ECH_YIWN cMEN_ECH dINI dNOW dXEH cVEW_NOW"),
    ("ARROW", "aPOINTING_DOWNWARDS_THEN_CURVING_LEFTWARDS eRIGHTWARDS
     bRIGHTWARDS_THEN_CURVING_DOWNWARDS eSOUTH_WEST eUPWARDS bUPWARDS_THEN_NORTH_WEST"),
    ("ARROWHEAD-SHAPED", "aPOINTER"),
    ("ARTICULATED", "aLORRY"),
    ("ARTIST", "aPALETTE"),
    ("ASCENDING", "aNODE"),
    ("ASCIA", "aSYMBOL"),
    ("ASTERISK", "a aOPERATOR"),
    ("ASTONISHED", "aFACE"),
    ("ASTRONOMICAL", "aSYMBOL_FOR_URANUS"),
    ("ASYMPTOTICALLY", "aEQUAL_TO"),
    ("ATHLETIC", "aSHOE"),
    ("ATOM", "aSYMBOL"),
    ("AUSTRAL", "aSIGN"),
    ("AUTO", "aRICKSHAW"),
    ("AUTOMATED", "aTELLER_MACHINE"),
    ("AVESTAN", "aABBREVIATION_MARK aLETTER_A bAA bAAN bAAO bAE bAEE bAN bAO bBE bBHE bCE bDE
     bDHE bE bEE bFE bGE bGGE bGHE bHE bHME bI bII bJE bKE bLE bME bNE bNGE bNGVE bNGYE bNNE bNYE
     bO bOO bPE bRE bSE bSHE bSHYE bSSHE bTE bTHE bTTE bU bUU bVE bXE bXVE bXYE bYE bYYE bZE bZHE"),
    ("BABY", "a aANGEL aBOTTLE aCHICK aSYMBOL"),
    ("BACK", "aOF_ENVELOPE aWITH_LEFTWARDS_ARROW_ABOVE"),
    ("BACK-TILTED", "aSHADOWED_WHITE_RIGHTWARDS_ARROW"),
    ("BACKSLANTED", "aSOUTH_ARROW_WITH_HOOKED_TAIL dHORIZONTAL_TAIL"),
    ("BACTRIAN", "aCAMEL"),
    ("BADMINTON", "aRACQUET_AND_SHUTTLECOCK"),
    ("BAGGAGE", "aCLAIM"),
    ("BAGUETTE", "aBREAD"),
    ("BALINESE", "aADEG_ADEG aCARIK_PAMUNGKAH bPAREREN bSIKI aDIGIT_EIGHT bFIVE bFOUR bNINE bONE
     bSEVEN bSIX bTHREE bTWO bZERO aLETTER_AIKARA bAKARA cTEDUNG bARCHAIC_JNYA bASYURA_SASAK bBA
     cKEMBANG bCA cLACA bDA cMADU cMURDA_ALPAPRANA dMAHAPRANA bEF_SASAK bEKARA bGA cGORA bHA
     bIKARA cTEDUNG bJA cJERA bKA cMAHAPRANA bKAF_SASAK bKHOT_SASAK bLA cLENGA dTEDUNG bMA bNA
     cRAMBAT bNGA bNYA bOKARA cTEDUNG bPA cKAPAL bRA cREPA dTEDUNG bSA cSAGA cSAPA bTA cLATIK
     cMURDA_MAHAPRANA cTAWA bTZIR_SASAK bUKARA cTEDUNG bVE_SASAK bWA bYA bZAL_SASAK
     aMUSICAL_SYMBOL_COMBINING_BENDE dENDEP dGONG dJEGOGAN dKEMPLI eWITH_JEGOGAN dKEMPUL
     eWITH_JEGOGAN dTEGEH cDAENG cDAING cDANG dGEDE dSURANG cDENG cDEUNG cDING cDONG cDUNG
     cLEFT-HAND_CLOSED_PLAK ePLUK dOPEN_PANG ePING ePUNG cRIGHT-HAND_CLOSED_TAK eTUK dOPEN_DAG
     eDUG aPAMADA bLANTANG aPAMENENG aPANTI bLANTANG aSIGN_BISAH bCECEK bREREKAN bSURANG
     bULU_CANDRA cRICEM aVOWEL_SIGN_LA_LENGA eTEDUNG cPEPET dTEDUNG cRA_REPA eTEDUNG cSUKU dILUT
     cTALING dREPA eTEDUNG dTEDUNG cTEDUNG cULU dSARI aWINDU"),
    ("BALL", "aOF_YARN"),
    ("BALLET", "aSHOES"),
    ("BALLOON-SPOKED", "aASTERISK"),
    ("BALLOT", "aBOLD_SCRIPT_X aBOX bWITH_BALLOT cBOLD_CHECK dSCRIPT_X cCHECK cLIGHT_X cSCRIPT_X
     cX aSCRIPT_X aX"),
    ("BAMUM", "aCOLON aCOMBINING_MARK_KOQNDON cTUKWENTIS aCOMMA aFULL_STOP aLETTER_A bEE bFAAMAE
     bFEE bFOM bFU bI bKA bKEN bKET bKEUX bKI bKO bKOGHOM bKOVUU bKPA bKU bKYEE bLA bLEEEE bLI
     bLOQ bLU bM bMA bMBAA bMBEN bMEEEE bMEN bMI bMO bMU bNA bNDAA bNGA bNGGA bNGKWAEN bNI bNJAEM
     bNJEE bNJUAE bNSHA bNTEE bNTUU bNU bNUAE bNYI bO bPA bPEE bPEUX bPHASE-A_FIRI cGBIEE_FON
     cGHEUAEGHEUAE cGHEUAERAE cKAFA cKAQ cKET cKEUKEUTNDA cKPOQ cKUOQ cLAPAQ cLET_KUT cLOMMAE cLU
     cLUAEP cMAEKEUP cMAEM cMAEMBGBIEE cMAEMKPEN cMAEMVEUX cMAENYI cMAESI cMANSUAE cMAP_PIEET
     cMBANYI cMBAQ cMEUNJOMNDEUQ cMGBASA cMON_NGGEUAET cMOOMEUT cMOOMPUQ cMVEUAENGAM cNAA_MFON
     cNAQ cNDA_LEERAEWA cNDAANGGEUAET cNEN cNGANGU cNGGEN cNGKUE_MFON cNGKUENZEUM cNIKA cNJAM
     cNKAARAE cNKINDI cNSHA cNSHIEE cNTAP dMFAA dNTAA cNTOQPEN cNYET cNYI cNYIT_MONGKEUAEQ
     cNZA_MFON cNZUN_MEUT cPA_LEERAEWA cPAAM cPAARAE cPAMSHAE cPASHAE cPET cPON_MFON_PIPAEMBA
     ePIPAEMGBIEE dPA_NJI_PIPAEMBA fPIPAEMGBIEE cPUP cROM cSEUNYAM cSHINDA_PA_NJI cSHIRAE
     cSHOQ_NSHUT_YUM cSHUENSHUET cSHUM cSISA cSONJAM cSOQ cSOT cSUU cTEUAEN cTEUTEUWEN cTITA_MFON
     cTU_MAEMBA cTUAEP cU_YUQ_NAE cUNKNOWN cVEE bPHASE-B_FEE cFEUX cGHEUGHEN cGHEUGHEUAEM cKAM
     cKEUAEM cKEUPUQ cKEUYEUX cKIEEM cKIQ cLAANAE cLAM_NSHUT_NYAM cLET cLOM_NTEUM cMA dNJEUAENA
     dNJUQA cMBA_MAELEE cMBAARAE cMBEURI cMBIT_MBAAKET cMBUOQ cMEUQ cMEUT_NGGEET cMFIYAQ
     cMFON_TEUAEQ cMONTIEEN cNDU_NJAA cNGGAAM cNGGEU_MBU cNGGUOQ dLARGE cNGKINDI_MVOP cNGOM cNSEN
     cNSHUET cNTIEE_SHEUOQ cNYAEMAE cNYI_NTEUM cPARUM cPEESHI cPIT cPUNGAAM cSAKEUAE cSET_TU
     cSHET_NJAQ cSHEUAEQTU cSIEE cSUE cTAAM cTU_MAEMGBIEE dNSIEE cVEUM cWUAET cYAFU_LEERAEWA
     cYEURAE bPHASE-C_BUNG cFUE cGBAYI cGHAP cGHARAE cKAA cKEN_FATIGUE dLAW cKET cKEUKAQ cKEUM
     cKEUSEUX cKEUSHEUAEP cKPARAQ cKUOP_NKAARAE cKUT cLAM cLAP cLIQ cLU cMA_KEUAERI dNSIEE
     cMAEMBA cMAESI cMBAA_CABBAGE-TREE dPICKET cMBANYI cMBEEKEET cMBERAE cMBEUM cMBEUX cMBI
     cMBIRIEEN cMBIT cMBUAEM cMBUE cMGBASAQ cMIEE cMUAE cNANSANAQ cNAQ cNDAM cNDAP cNDEUAEREE
     cNDEUT cNDIDA cNDOMBU cNGAQ cNGGEN cNGGU cNGGUAEN_NYAM cNGGUEET cNGGUM cNGGUON cNGKAQ
     cNGKUE_MAEMBA cNGOM cNJAEM cNJAM cNJEEEE cNJEUX cNJUEQ cNSA cNSEUAEN cNSHAQ cNSOM cNSUN
     cNSUOT_NGOM cNTAA cNTEN cNTEUNGBA cNTU_MBIT cNYIR_MKPARAQ_MEUN cNZA cNZEUM cPEN cPIN
     cPIRIEEN cRU cSETFON cSEUX cSHIQ cSHUEQ cSUAET cTAASHAE cTET cTEUTEUX cTITA_YUE cTITUAEP
     cVEUAEPEN cVEUX cWANGKUOQ cWUP cYAA cYEUQ cYU_MUOMAE cYUM cYUWOQ bPHASE-D_FAA cFEUFEUAET
     cGHAA cGHEUAE cKET cKEUAETMEUN cKEUM cKEUOT_MBUAE cKEUP cKU cKUN cKUOM cKUQ cKWAET cKYEE
     cLEEEE cLET cLEUAEP cLEUM cLIEE cLOQ cLUM cM cMAENJET cMALEERI cMBAA dSEVEN cMBUO cMEEEE
     cMEUN cMEUT cMFEUAE cMFEUT cMFIEE cMFO cMFON cMGBEUN cMGBIEE cMGBOFUM cMONI cMU cMVOP cNDAM
     cNDEE cNDEUX cNDON cNGGAAM cNGGAAMAE cNGGAP cNGGEUX cNGGUOM cNGGWAEN cNGKAP cNGKEUAEQ
     cNGKEURI cNGKIEE cNGKUN cNGKYEE cNI cNJAP cNJEUAEM cNJEUT cNJI cNJIEE cNJUEQ cNSHEE cNSHUT
     cNSIEEP cNSIEET cNSUM cNTEE cNTEUM cNTUU cNU cNYAM cNYET cNYI cNYUE cPAP cPEE cPEUTAE cPIP
     cPUQ cPUUT cRAEM cREN_MUCH dOLD cRII cSAP cSAQ cSEUAEQ cSHEE cSHEUAE cSHEUX cSHII cSHOQ cSHU
     cSOT cSUAE cSUE cSUU cTAE cTEEEE cTEUAEN cTEUN cTEUT cTI cTOQ cTU cTUOT cWAP cWUAEN cYAEMMAE
     cYEN cYUOM cYUOP cYUWOQ bPHASE-E_A cFA cFAQ cFEE cFOM cFU_CALL dI dREMEDY cFUE cFUET cGBET
     cGBEUX cGHAAMAE cGHET cGHEUAE cGHEUN cGHEUX cGHOM cI cKET cKEUAE cKEUX cKI cKO cKPEUX cKUET
     cKUOP cKUT cLAAM cLAP cLAQ cLEUAEM cLOM cLOON cLOOT cLOQ cLU cMA cMAE cMAEM cMAP cMAQ cMBEE
     cMBEUM cMEN cMFEUQ cMGBA cMGBEN cMI cMIEE cMON cMUAE cMVI cNA cNAE cNDAA_MY_HOUSE dSOFTNESS
     cNDAP cNDIAQ cNDIQ cNDUN cNGA cNGEUREUT cNGGEEEE cNGGEUAE cNGGEUAET cNGGUAESHAE_NYAM cNGGUP
     cNGGURAE cNGKA cNGKAAMI cNGKEUAEM cNGKEUX cNGKUM cNGKUP cNGOP cNGOQ cNGUAE cNGUAET cNJAEMLI
     cNJEE dEPOCH cNJEUX cNKOM cNSHIEE cNSHUE cNSHUOP cNTAP cNTUM cNYI_BETWEEN dCLEAVER cNZAQ
     cNZUQ cO cPA_PEOPLE dPLURAL cPAA cPAAM cPEEM cPEUT cPEUX cPI cPIEEQ cPIET cPO cPOON cPU
     cPUAE cPUAQ cPUE cPUM cRAE cRAQ cREUX cRIMGBA cSAA cSEE cSET cSHEUAEQ cSHIQ cSHO cSHOQ cSOM
     cSUAEN cTAA cTAAQ cTAEN_NTEUM cTAM cTAQ cTEN cTEU cTEUAEQ cTOO cTOON cTOQ cTUAE cTUM cTUMAE
     cVEE cVEUAE cVOM cWEUX cWUE cWUO cYAP cYEUAE cYEUAET cYEUM cYEUX cYIEE cYIT cYOQ_COVER
     dSWIMMING cYUAEN cYUEQ cYUN cYUQ bPHASE-F_EE cFOM cKA cKEN cKET cKO cKPA cKU cKYEE cLA cLI
     cLOQ cM cMA cMBAA cMBEN cMEEEE cMO cNDAA cNGGA cNGKWAEN cNI cNJAEM cNJUAE cNSHA cNTEE cNU
     cNUAE cNYI cPEE cPEUX cPUAE cREE cREN cREUX cRIEE cRII cRU cSAMBA cSEUX cSHII cSHO cSHU cSI
     cSUU cTAA cTAE cTET cU cVUEQ cWA cWUE cYA cYOQ bPI bPUAE bPUE bRAE bREE bREN bREUX bRIEE
     bRII bRU bSAMBA bSEUX bSHEUX bSHII bSHO bSHU bSI bSUU bTAA bTAE bTEN bTET bTI bU bWA bWUE
     bYA bYOQ bYUQ aNJAEMLI aQUESTION_MARK aSEMICOLON"),
    ("BANKNOTE", "aWITH_DOLLAR_SIGN bEURO_SIGN bPOUND_SIGN bYEN_SIGN"),
    ("BAR", "aCHART aOF_SOAP"),
    ("BARBER", "aPOLE"),
    ("BASKETBALL", "aAND_HOOP"),
    ("BASSA", "aVAH_COMBINING_HIGH_TONE cHIGH-LOW_TONE cLOW_TONE cLOW-MID_TONE cMID_TONE
     bFULL_STOP bLETTER_A cBA cCE cDHII cDO cE cEE cENNI cFA cGAH cGBU cHWAH cI cJO cKA cKPAH
     cMBE cO cOO cPA cSE cTO cU cUWU cVU cWA cWADDA cYEIN cYIE cZO"),
    ("BATAK", "aCONSONANT_SIGN_H cNG aLETTER_A bBA bCA bDA bGA bHA bI bJA bKARO_BA bLA bMA
     bMANDAILING_HA cNA cSA bMBA bNA bNDA bNGA bNORTHERN_TA bNYA bPA bPAKPAK_WA bRA bSA
     bSIMALUNGUN_A cGA cHA cLA cMA cPA cRA cSA cWA cYA bSOUTHERN_TA bU bWA bYA aPANGOLAT
     aPANONGONAN aSIGN_TOMPI aSYMBOL_BINDU_JUDUL cNA_METEK cPANGOLAT cPINARBORAS aVOWEL_SIGN_E
     cEE cI cKARO_I dO cO cPAKPAK_E cU dFOR_SIMALUNGUN_SA"),
    ("BEACH", "aWITH_UMBRELLA"),
    ("BEAMED", "aASCENDING_MUSICAL_NOTES aDESCENDING_MUSICAL_NOTES aEIGHTH_NOTES aSIXTEENTH_NOTES"),
    ("BEAR", "aFACE"),
    ("BEARDED", "aPERSON"),
    ("BEATING", "aHEART"),
    ("BEER", "aMUG"),
    ("BELL", "a aPEPPER aSYMBOL aWITH_CANCELLATION_STROKE"),
    ("BELLHOP", "aBELL"),
    ("BENGALI", "aABBREVIATION_SIGN aANJI aAU_LENGTH_MARK aCURRENCY_DENOMINATOR_SIXTEEN
     bNUMERATOR_FOUR cONE dLESS_THAN_THE_DENOMINATOR cTHREE cTWO aDIGIT_EIGHT bFIVE bFOUR bNINE
     bONE bSEVEN bSIX bTHREE bTWO bZERO aGANDA_MARK aISSHAR aLETTER_A bAA bAI bAU bBA bBHA bCA
     bCHA bDA bDDA bDDHA bDHA bE bGA bGHA bHA bI bII bJA bJHA bKA bKHA bKHANDA_TA bLA bMA bNA
     bNGA bNNA bNYA bO bPA bPHA bRA cWITH_LOWER_DIAGONAL dMIDDLE_DIAGONAL bRHA bRRA bSA bSHA bSSA
     bTA bTHA bTTA bTTHA bU bUU bVEDIC_ANUSVARA bVOCALIC_L cLL cR cRR bYA bYYA aRUPEE_MARK bSIGN
     aSANDHI_MARK aSIGN_ANUSVARA bAVAGRAHA bCANDRABINDU bNUKTA bVIRAMA bVISARGA aVOWEL_SIGN_AA
     cAI cAU cE cI cII cO cU cUU cVOCALIC_L dLL dR dRR"),
    ("BENT", "aARROW_POINTING_DOWNWARDS_THEN_NORTH_EAST"),
    ("BENTO", "aBOX"),
    ("BENZENE", "aRING bWITH_CIRCLE"),
    ("BET", "aSYMBOL"),
    ("BEVERAGE", "aBOX"),
    ("BHAIKSUKI", "aDANDA aDIGIT_EIGHT bFIVE bFOUR bNINE bONE bSEVEN bSIX bTHREE bTWO bZERO
     aDOUBLE_DANDA aGAP_FILLER-1 bFILLER-2 aHUNDREDS_UNIT_MARK aLETTER_A bAA bAI bAU bBA bBHA bCA
     bCHA bDA bDDA bDDHA bDHA bE bGA bGHA bHA bI bII bJA bJHA bKA bKHA bLA bMA bNA bNGA bNNA bNYA
     bO bPA bPHA bRA bSA bSHA bSSA bTA bTHA bTTA bTTHA bU bUU bVA bVOCALIC_L cR cRR bYA
     aNUMBER_EIGHT bEIGHTY bFIFTY bFIVE bFORTY bFOUR bNINE bNINETY bONE bSEVEN bSEVENTY bSIX
     bSIXTY bTEN bTHIRTY bTHREE bTWENTY bTWO aSIGN_ANUSVARA bAVAGRAHA bCANDRABINDU bVIRAMA
     bVISARGA aVOWEL_SIGN_AA cAI cAU cE cI cII cO cU cUU cVOCALIC_L dR dRR aWORD_SEPARATOR"),
    ("BIG", "aREVERSE_SOLIDUS aSOLIDUS"),
    ("BILLED", "aCAP"),
    ("BIOHAZARD", "aSIGN"),
    ("BIRTHDAY", "aCAKE"),
    ("BITCOIN", "aSIGN"),
    ("BITING", "aLIP"),
    ("BLACK", "aBOWTIE aCENTRE_WHITE_STAR aCHESS_BISHOP cROTATED_NINETY_DEGREES
     dTWO_HUNDRED_SEVENTY_DEGREES bEQUIHOPPER cROTATED_NINETY_DEGREES bKING
     cROTATED_NINETY_DEGREES dTWO_HUNDRED_SEVENTY_DEGREES bKNIGHT cROTATED_FORTY-FIVE_DEGREES
     dNINETY_DEGREES dONE_HUNDRED_THIRTY-FIVE_DEGREES dTHREE_HUNDRED_FIFTEEN_DEGREES
     dTWO_HUNDRED_SEVENTY_DEGREES fTWENTY-FIVE_DEGREES bKNIGHT-BISHOP bKNIGHT-QUEEN bKNIGHT-ROOK
     bPAWN cROTATED_NINETY_DEGREES dTWO_HUNDRED_SEVENTY_DEGREES bQUEEN cROTATED_NINETY_DEGREES
     dTWO_HUNDRED_SEVENTY_DEGREES bROOK cROTATED_NINETY_DEGREES dTWO_HUNDRED_SEVENTY_DEGREES
     bTURNED_BISHOP cKING cKNIGHT cPAWN cQUEEN cROOK aCIRCLE bFOR_RECORD bWITH_DOWN_ARROW
     cTWO_WHITE_DOTS cWHITE_DOT_RIGHT aCLUB_SUIT aCROSS_ON_SHIELD
     aCURVED_DOWNWARDS_AND_LEFTWARDS_ARROW dRIGHTWARDS_ARROW bLEFTWARDS_AND_DOWNWARDS_ARROW
     dUPWARDS_ARROW bRIGHTWARDS_AND_DOWNWARDS_ARROW dUPWARDS_ARROW bUPWARDS_AND_LEFTWARDS_ARROW
     dRIGHTWARDS_ARROW aDIAMOND bCENTRED bMINUS_WHITE_X bON_CROSS bSUIT bWITH_DOWN_ARROW
     aDOWN_POINTING_BACKHAND_INDEX aDOWN-POINTING_DOUBLE_TRIANGLE bISOSCELES_RIGHT_TRIANGLE
     bSMALL_TRIANGLE bTRIANGLE aDOWNWARDS_EQUILATERAL_ARROWHEAD aDRAUGHTS_KING bMAN aDROPLET
     aFLAG aFLORETTE aFOLDER aFOUR_POINTED_STAR aHARD_SHELL_FLOPPY_DISK aHEART bSUIT aHEXAGON
     aHORIZONTAL_ELLIPSE aHOURGLASS aLARGE_CIRCLE bSQUARE aLEFT_LANE_MERGE
     bPOINTING_BACKHAND_INDEX cINDEX aLEFT-POINTING_DOUBLE_TRIANGLE dWITH_VERTICAL_BAR
     bISOSCELES_RIGHT_TRIANGLE bPOINTER bSMALL_TRIANGLE bTRIANGLE aLEFTWARDS_BULLET
     bEQUILATERAL_ARROWHEAD aLOWER_LEFT_TRIANGLE bRIGHT_TRIANGLE aLOZENGE aMEDIUM_DIAMOND
     bDOWN-POINTING_TRIANGLE dCENTRED bLEFT-POINTING_TRIANGLE dCENTRED bLOZENGE
     bRIGHT-POINTING_TRIANGLE dCENTRED bSMALL_DIAMOND cLOZENGE cSQUARE bSQUARE
     bUP-POINTING_TRIANGLE dCENTRED aMOON_LILITH aNIB aOCTAGON aPARALLELOGRAM aPENNANT aPENTAGON
     aPUSHPIN aQUESTION_MARK_ORNAMENT aRECTANGLE aRIGHT_POINTING_BACKHAND_INDEX cINDEX
     aRIGHT-POINTING_DOUBLE_TRIANGLE dWITH_VERTICAL_BAR bISOSCELES_RIGHT_TRIANGLE bPENTAGON
     bPOINTER bSMALL_TRIANGLE bTRIANGLE cWITH_DOUBLE_VERTICAL_BAR aRIGHTWARDS_ARROW bARROWHEAD
     bBULLET bEQUILATERAL_ARROWHEAD aROSETTE aSAFETY_SCISSORS aSCISSORS aSHOGI_PIECE
     aSKULL_AND_CROSSBONES aSLIGHTLY_SMALL_CIRCLE cSQUARE aSMALL_DIAMOND bLOZENGE bSQUARE bSTAR
     aSMILING_FACE aSNOWMAN aSPADE_SUIT aSQUARE bBUTTON bCENTRED bFOR_STOP aSTAR aSUN_WITH_RAYS
     aTELEPHONE aTINY_DIAMOND bLOZENGE bSQUARE aTOUCHTONE_TELEPHONE aTRUCK
     aTWO-WAY_LEFT_WAY_TRAFFIC aUNIVERSAL_RECYCLING_SYMBOL aUP_POINTING_BACKHAND_INDEX
     aUP-POINTING_DOUBLE_TRIANGLE bISOSCELES_RIGHT_TRIANGLE bSMALL_TRIANGLE bTRIANGLE
     aUPPER_LEFT_TRIANGLE bRIGHT_TRIANGLE aUPWARDS_EQUILATERAL_ARROWHEAD aVERTICAL_ELLIPSE
     bRECTANGLE aVERY_SMALL_DIAMOND cLOZENGE cSQUARE"),
    ("BLACK-FEATHERED", "aNORTH_EAST_ARROW aRIGHTWARDS_ARROW aSOUTH_EAST_ARROW"),
    ("BLACK-LETTER", "aCAPITAL_C bH bI bR bZ"),
    ("BLANK", "aSYMBOL"),
    ("BLOCK", "aSEXTANT-1 aSEXTANT-12 aSEXTANT-123 aSEXTANT-1234 aSEXTANT-12345 aSEXTANT-12346
     aSEXTANT-1235 aSEXTANT-12356 aSEXTANT-1236 aSEXTANT-124 aSEXTANT-1245 aSEXTANT-12456
     aSEXTANT-1246 aSEXTANT-125 aSEXTANT-1256 aSEXTANT-126 aSEXTANT-13 aSEXTANT-134 aSEXTANT-1345
     aSEXTANT-13456 aSEXTANT-1346 aSEXTANT-1356 aSEXTANT-136 aSEXTANT-14 aSEXTANT-145
     aSEXTANT-1456 aSEXTANT-146 aSEXTANT-15 aSEXTANT-156 aSEXTANT-16 aSEXTANT-2 aSEXTANT-23
     aSEXTANT-234 aSEXTANT-2345 aSEXTANT-23456 aSEXTANT-2346 aSEXTANT-235 aSEXTANT-2356
     aSEXTANT-236 aSEXTANT-24 aSEXTANT-245 aSEXTANT-2456 aSEXTANT-25 aSEXTANT-256 aSEXTANT-26
     aSEXTANT-3 aSEXTANT-34 aSEXTANT-345 aSEXTANT-3456 aSEXTANT-346 aSEXTANT-35 aSEXTANT-356
     aSEXTANT-36 aSEXTANT-4 aSEXTANT-45 aSEXTANT-456 aSEXTANT-46 aSEXTANT-5 aSEXTANT-56
     aSEXTANT-6"),
    ("BLUE", "aBOOK aHEART"),
    ("BOLD", "aEIGHT_SPOKED_ASTERISK aFIVE_SPOKED_ASTERISK aGREEK_CROSS aSALTIRE
     aSIX_SPOKED_ASTERISK aWHITE_CIRCLE bSQUARE"),
    ("BOOKMARK", "a aTABS"),
    ("BOPOMOFO", "aFINAL_LETTER_G cH cK cP cT aLETTER_A bAH bAI bAINN bAM bAN bANG bANN bAU bAUNN
     bB bBU bC bCH bD bE bEE bEH bEI bEN bENG bENN bER bF bG bGH bGN bGU bGW bH bI bIH bIM bINN
     bINNN bIR bIU bJ bJI bK bKW bL bLH bM bN bNG bNGG bNN bO cWITH_DOT_ABOVE bOE bOM bONG bONN
     bOO bOU bP bQ bR bS bSH bT bU bUNN bV bX bZ bZH bZI bZY"),
    ("BOTTLE", "aWITH_POPPING_CORK"),
    ("BOTTOM", "aARC_ANTICLOCKWISE_ARROW aCURLY_BRACKET aHALF_BLACK_CIRCLE bINTEGRAL
     bLEFT_PARENTHESIS bRIGHT_PARENTHESIS aLEFT_CORNER bCROP bHALF_BRACKET aPARENTHESIS
     aRIGHT_CORNER bCROP bHALF_BRACKET aSQUARE_BRACKET cOVER_TOP_SQUARE_BRACKET
     aTORTOISE_SHELL_BRACKET"),
    ("BOUQUET", "a aOF_FLOWERS"),
    ("BOW", "aAND_ARROW"),
    ("BOWL", "aOF_HYGIEIA aWITH_SPOON"),
    ("BOWTIE", "a aWITH_LEFT_HALF_BLACK bRIGHT_HALF_BLACK"),
    ("BOX", "aDRAWINGS_DOUBLE_DOWN_AND_HORIZONTAL eLEFT eRIGHT cHORIZONTAL cUP_AND_HORIZONTAL
     eLEFT eRIGHT cVERTICAL dAND_HORIZONTAL eLEFT eRIGHT bDOWN_DOUBLE_AND_HORIZONTAL_SINGLE
     eLEFT_SINGLE eRIGHT_SINGLE cHEAVY_AND_HORIZONTAL_LIGHT eLEFT_LIGHT fUP_LIGHT eRIGHT_LIGHT
     fUP_LIGHT eUP_HORIZONTAL_LIGHT cLIGHT_AND_HORIZONTAL_HEAVY eLEFT_HEAVY fUP_HEAVY
     eRIGHT_HEAVY fUP_HEAVY eUP_HORIZONTAL_HEAVY cSINGLE_AND_HORIZONTAL_DOUBLE eLEFT_DOUBLE
     eRIGHT_DOUBLE bHEAVY_DOUBLE_DASH_HORIZONTAL eVERTICAL cDOWN dAND_HORIZONTAL eLEFT eRIGHT
     cHORIZONTAL cLEFT dAND_LIGHT_RIGHT cQUADRUPLE_DASH_HORIZONTAL eVERTICAL cRIGHT
     cTRIPLE_DASH_HORIZONTAL eVERTICAL cUP dAND_HORIZONTAL eLEFT eLIGHT_DOWN eRIGHT cVERTICAL
     dAND_HORIZONTAL eLEFT eRIGHT bLEFT_DOWN_HEAVY_AND_RIGHT_UP_LIGHT cHEAVY_AND_RIGHT_DOWN_LIGHT
     fUP_LIGHT fVERTICAL_LIGHT cLIGHT_AND_RIGHT_DOWN_HEAVY fUP_HEAVY fVERTICAL_HEAVY
     cUP_HEAVY_AND_RIGHT_DOWN_LIGHT bLIGHT_ARC_DOWN_AND_LEFT fRIGHT dUP_AND_LEFT fRIGHT
     cDIAGONAL_CROSS dDIAMOND dMIDDLE_LEFT_TO_LOWER_CENTRE iTO_MIDDLE_RIGHT
     gUPPER_CENTRE_TO_MIDDLE_RIGHT lTO_LOWER_CENTRE eRIGHT_TO_LOWER_CENTRE
     gUPPER_CENTRE_TO_MIDDLE_LEFT_TO_LOWER_CENTRE dUPPER_CENTRE_TO_MIDDLE_LEFT
     iAND_MIDDLE_RIGHT_TO_LOWER_CENTRE iTO_LOWER_CENTRE lTO_MIDDLE_RIGHT hRIGHT
     iAND_MIDDLE_LEFT_TO_LOWER_CENTRE iTO_LOWER_CENTRE lTO_MIDDLE_LEFT eLEFT_TO_LOWER_RIGHT
     eRIGHT_TO_LOWER_LEFT cDOUBLE_DASH_HORIZONTAL eVERTICAL cDOWN dAND_HORIZONTAL eLEFT eRIGHT
     cHORIZONTAL dWITH_VERTICAL_STROKE cLEFT dAND_HEAVY_RIGHT cQUADRUPLE_DASH_HORIZONTAL
     eVERTICAL cRIGHT cTRIPLE_DASH_HORIZONTAL eVERTICAL cUP dAND_HEAVY_DOWN eHORIZONTAL eLEFT
     eRIGHT cVERTICAL dAND_HORIZONTAL eLEFT eRIGHT bRIGHT_DOWN_HEAVY_AND_LEFT_UP_LIGHT
     cHEAVY_AND_LEFT_DOWN_LIGHT fUP_LIGHT fVERTICAL_LIGHT cLIGHT_AND_LEFT_DOWN_HEAVY fUP_HEAVY
     fVERTICAL_HEAVY cUP_HEAVY_AND_LEFT_DOWN_LIGHT bUP_DOUBLE_AND_HORIZONTAL_SINGLE eLEFT_SINGLE
     eRIGHT_SINGLE cHEAVY_AND_DOWN_HORIZONTAL_LIGHT eHORIZONTAL_LIGHT eLEFT_DOWN_LIGHT fLIGHT
     eRIGHT_DOWN_LIGHT fLIGHT cLIGHT_AND_DOWN_HORIZONTAL_HEAVY eHORIZONTAL_HEAVY eLEFT_DOWN_HEAVY
     fHEAVY eRIGHT_DOWN_HEAVY fHEAVY cSINGLE_AND_HORIZONTAL_DOUBLE eLEFT_DOUBLE eRIGHT_DOUBLE
     bVERTICAL_DOUBLE_AND_HORIZONTAL_SINGLE eLEFT_SINGLE eRIGHT_SINGLE
     cHEAVY_AND_HORIZONTAL_LIGHT eLEFT_LIGHT eRIGHT_LIGHT cLIGHT_AND_HORIZONTAL_HEAVY eLEFT_HEAVY
     eRIGHT_HEAVY cSINGLE_AND_HORIZONTAL_DOUBLE eLEFT_DOUBLE eRIGHT_DOUBLE"),
    ("BOXING", "aGLOVE"),
    ("BOYS", "aSYMBOL"),
    ("BRAHMI", "aDANDA aDIGIT_EIGHT bFIVE bFOUR bNINE bONE bSEVEN bSIX bTHREE bTWO bZERO
     aDOUBLE_DANDA aLETTER_A bAA bAI bAU bBA bBHA bCA bCHA bDA bDDA bDDHA bDHA bE bGA bGHA bHA bI
     bII bJA bJHA bKA bKHA bLA bLLA bMA bNA bNGA bNNA bNYA bO bOLD_TAMIL_LLA dLLLA dNNNA dRRA
     dSHORT_E eO bPA bPHA bRA bSA bSHA bSSA bTA bTHA bTTA bTTHA bU bUU bVA bVOCALIC_L cLL cR cRR
     bYA aNUMBER_EIGHT bEIGHTY bFIFTY bFIVE bFORTY bFOUR bJOINER bNINE bNINETY bONE cHUNDRED
     cTHOUSAND bSEVEN bSEVENTY bSIX bSIXTY bTEN bTHIRTY bTHREE bTWENTY bTWO
     aPUNCTUATION_CRESCENT_BAR bDOT bDOUBLE_DOT bLINE bLOTUS aSIGN_ANUSVARA bCANDRABINDU
     bJIHVAMULIYA bOLD_TAMIL_VIRAMA bUPADHMANIYA bVISARGA aVIRAMA aVOWEL_SIGN_AA cAI cAU
     cBHATTIPROLU_AA cE cI cII cO cOLD_TAMIL_SHORT_E fO cU cUU cVOCALIC_L dLL dR dRR"),
    ("BRAILLE", "aPATTERN_BLANK bDOTS-1 bDOTS-12 bDOTS-123 bDOTS-1234 bDOTS-12345 bDOTS-123456
     bDOTS-1234567 bDOTS-12345678 bDOTS-1234568 bDOTS-123457 bDOTS-1234578 bDOTS-123458
     bDOTS-12346 bDOTS-123467 bDOTS-1234678 bDOTS-123468 bDOTS-12347 bDOTS-123478 bDOTS-12348
     bDOTS-1235 bDOTS-12356 bDOTS-123567 bDOTS-1235678 bDOTS-123568 bDOTS-12357 bDOTS-123578
     bDOTS-12358 bDOTS-1236 bDOTS-12367 bDOTS-123678 bDOTS-12368 bDOTS-1237 bDOTS-12378
     bDOTS-1238 bDOTS-124 bDOTS-1245 bDOTS-12456 bDOTS-124567 bDOTS-1245678 bDOTS-124568
     bDOTS-12457 bDOTS-124578 bDOTS-12458 bDOTS-1246 bDOTS-12467 bDOTS-124678 bDOTS-12468
     bDOTS-1247 bDOTS-12478 bDOTS-1248 bDOTS-125 bDOTS-1256 bDOTS-12567 bDOTS-125678 bDOTS-12568
     bDOTS-1257 bDOTS-12578 bDOTS-1258 bDOTS-126 bDOTS-1267 bDOTS-12678 bDOTS-1268 bDOTS-127
     bDOTS-1278 bDOTS-128 bDOTS-13 bDOTS-134 bDOTS-1345 bDOTS-13456 bDOTS-134567 bDOTS-1345678
     bDOTS-134568 bDOTS-13457 bDOTS-134578 bDOTS-13458 bDOTS-1346 bDOTS-13467 bDOTS-134678
     bDOTS-13468 bDOTS-1347 bDOTS-13478 bDOTS-1348 bDOTS-135 bDOTS-1356 bDOTS-13567 bDOTS-135678
     bDOTS-13568 bDOTS-1357 bDOTS-13578 bDOTS-1358 bDOTS-136 bDOTS-1367 bDOTS-13678 bDOTS-1368
     bDOTS-137 bDOTS-1378 bDOTS-138 bDOTS-14 bDOTS-145 bDOTS-1456 bDOTS-14567 bDOTS-145678
     bDOTS-14568 bDOTS-1457 bDOTS-14578 bDOTS-1458 bDOTS-146 bDOTS-1467 bDOTS-14678 bDOTS-1468
     bDOTS-147 bDOTS-1478 bDOTS-148 bDOTS-15 bDOTS-156 bDOTS-1567 bDOTS-15678 bDOTS-1568
     bDOTS-157 bDOTS-1578 bDOTS-158 bDOTS-16 bDOTS-167 bDOTS-1678 bDOTS-168 bDOTS-17 bDOTS-178
     bDOTS-18 bDOTS-2 bDOTS-23 bDOTS-234 bDOTS-2345 bDOTS-23456 bDOTS-234567 bDOTS-2345678
     bDOTS-234568 bDOTS-23457 bDOTS-234578 bDOTS-23458 bDOTS-2346 bDOTS-23467 bDOTS-234678
     bDOTS-23468 bDOTS-2347 bDOTS-23478 bDOTS-2348 bDOTS-235 bDOTS-2356 bDOTS-23567 bDOTS-235678
     bDOTS-23568 bDOTS-2357 bDOTS-23578 bDOTS-2358 bDOTS-236 bDOTS-2367 bDOTS-23678 bDOTS-2368
     bDOTS-237 bDOTS-2378 bDOTS-238 bDOTS-24 bDOTS-245 bDOTS-2456 bDOTS-24567 bDOTS-245678
     bDOTS-24568 bDOTS-2457 bDOTS-24578 bDOTS-2458 bDOTS-246 bDOTS-2467 bDOTS-24678 bDOTS-2468
     bDOTS-247 bDOTS-2478 bDOTS-248 bDOTS-25 bDOTS-256 bDOTS-2567 bDOTS-25678 bDOTS-2568
     bDOTS-257 bDOTS-2578 bDOTS-258 bDOTS-26 bDOTS-267 bDOTS-2678 bDOTS-268 bDOTS-27 bDOTS-278
     bDOTS-28 bDOTS-3 bDOTS-34 bDOTS-345 bDOTS-3456 bDOTS-34567 bDOTS-345678 bDOTS-34568
     bDOTS-3457 bDOTS-34578 bDOTS-3458 bDOTS-346 bDOTS-3467 bDOTS-34678 bDOTS-3468 bDOTS-347
     bDOTS-3478 bDOTS-348 bDOTS-35 bDOTS-356 bDOTS-3567 bDOTS-35678 bDOTS-3568 bDOTS-357
     bDOTS-3578 bDOTS-358 bDOTS-36 bDOTS-367 bDOTS-3678 bDOTS-368 bDOTS-37 bDOTS-378 bDOTS-38
     bDOTS-4 bDOTS-45 bDOTS-456 bDOTS-4567 bDOTS-45678 bDOTS-4568 bDOTS-457 bDOTS-4578 bDOTS-458
     bDOTS-46 bDOTS-467 bDOTS-4678 bDOTS-468 bDOTS-47 bDOTS-478 bDOTS-48 bDOTS-5 bDOTS-56
     bDOTS-567 bDOTS-5678 bDOTS-568 bDOTS-57 bDOTS-578 bDOTS-58 bDOTS-6 bDOTS-67 bDOTS-678
     bDOTS-68 bDOTS-7 bDOTS-78 bDOTS-8"),
    ("BREAK", "aPERMITTED_HERE"),
    ("BRIDE", "aWITH_VEIL"),
    ("BRIDGE", "aAT_NIGHT"),
    ("BROKEN", "aBAR aCIRCLE_WITH_NORTHWEST_ARROW aHEART"),
    ("BROWN", "aHEART"),
    ("BUBBLE", "aTEA"),
    ("BUGINESE", "aEND_OF_SECTION aLETTER_A bBA bCA bDA bGA bHA bJA bKA bLA bMA bMPA bNA bNGA
     bNGKA bNRA bNYA bNYCA bPA bRA bSA bTA bVA bYA aPALLAWA aVOWEL_SIGN_AE cE cI cO cU"),
    ("BUHID", "aLETTER_A bBA bDA bGA bHA bI bKA bLA bMA bNA bNGA bPA bRA bSA bTA bU bWA bYA
     aVOWEL_SIGN_I cU"),
    ("BUILDING", "aCONSTRUCTION"),
    ("BULLET", "a aOPERATOR"),
    ("BULLHORN", "a aWITH_SOUND_WAVES"),
    ("BUS", "a aSTOP"),
    ("BUST", "aIN_SILHOUETTE"),
    ("BUSTS", "aIN_SILHOUETTE"),
    ("BYTE", "aORDER_MARK"),
    ("BYZANTINE", "aMUSICAL_SYMBOL_AGOGI_ARGI dARGOTERI dGORGI dGORGOTERI dMESI dMETRIA
     dPOLI_ARGI eGORGI cANATRICHISMA cANTIKENOKYLISMA cANTIKENOMA cAPESO_EKFONITIKON dEXO_NEO
     cAPLI cAPODERMA_ARCHAION dNEO cAPOSTROFOI_SYNDESMOS_NEO dTELOUS_ICHIMATOS cAPOSTROFOS dDIPLI
     dNEO cAPOTHEMA cARGON cARGOSYNTHETON cARKTIKO_DI dGA dKE dNI dPA dVOU dZO cCHAMILI cCHAMILON
     cCHOREVMA_ARCHAION dNEO cCHROA_KLITON dSPATHI dZYGOS cDASEIA cDIARGON cDIASTOLI_APLI_MEGALI
     eMIKRI dDIPLI dTHESEOS cDIESIS_APLI_DYO_DODEKATA dDIGRAMMOS_EX_DODEKATA
     dMONOGRAMMOS_TESSERA_DODEKATA dTETARTIMORION dTRIGRAMMOS_OKTO_DODEKATA dTRITIMORION
     cDIFTOGGOS_OU cDIGORGON dPARESTIGMENON_ARISTERA_ANO fKATO eDEXIA cDIGRAMMA_GG cDIPLI
     dARCHAION cDYO cEKSTREPTON cELAFRON cENARXIS_KAI_FTHORA_VOU cENDOFONON cEPEGERMA
     cETERON_ARGOSYNTHETON dPARAKALESMA cEXO_EKFONITIKON cFANEROSIS_DIFONIAS dMONOFONIAS
     dTETRAFONIAS cFHTORA_SKLIRON_CHROMA_VASIS cFTHORA_ARCHAION eDEYTEROU_ICHOU dDIATONIKI_DI eKE
     eNANA eNI_ANO fKATO ePA eZO dENARMONIOS_ANTIFONIA dI_YFESIS_TETARTIMORION
     dMALAKON_CHROMA_DIFONIAS fMONOFONIAS dNAOS_ICHOS dNENANO dSKLIRON_CHROMA_SYNAFI fVASIS
     eDIATONON_DI cGENIKI_DIESIS dYFESIS cGORGON_ARCHAION dNEO_ANO eKATO dPARESTIGMENON_ARISTERA
     eDEXIA cGORGOSYNTHETON cGORTHMIKON_N_APLOUN eDIPLOUN cGRONTHISMATA cICHADIN cIMIDIARGON
     cIMIFONON cIMIFTHORA cIMIFTHORON cISAKIA_TELOUS_ICHIMATOS cISON_ARCHAION dNEO
     cKATAVA_TROMIKON cKATAVASMA cKATHISTI cKENTIMA_ARCHAION dNEO_ANO eKATO eMESO cKENTIMATA
     dARCHAION dNEO_ANO eKATO eMESO cKLASMA dANO dKATO cKONTEVMA dALLO cKORONIS cKOUFISMA
     cKRATIMA_ALLO dARCHAION dNEO cKRATIMATA cKRATIMOKOUFISMA cKRATIMOYPORROON cKREMASTI cKYLISMA
     cLEIMMA_DYO_CHRONON dENOS_CHRONOU dIMISEOS_CHRONOU dTESSARON_CHRONON dTRION_CHRONON cLEMOI
     cLYGISMA cMARTYRIA_ALLI_DEYTEROS_ICHOS ePROTOS_ICHOS dDEYTEROS_ICHOS dLEGETOS_ICHOS
     dPLAGIOS_ICHOS eTETARTOS_ICHOS dPROTOS_ICHOS dPROTOVARYS_ICHOS dTETARTOS_ICHOS
     eLEGETOS_ICHOS dTRIFONIAS dTRITOS_ICHOS dVARYS_ICHOS cMIKRON_ISON cNANA cOLIGON_ARCHAION
     dNEO cOMALON cOXEIA_DIPLI dEKFONITIKON dNEO cOXEIAI_ARCHAION cOYRANISMA_ARCHAION dNEO
     cPARAKALESMA_ARCHAION dNEO cPARAKLITIKI dARCHAION dNEO cPARICHON cPELASTON dNEO cPERISPOMENI
     cPETASMA cPETASTI cPETASTOKOUFISMA cPIASMA_ARCHAION dNEO cPSIFISTOLYGISMA cPSIFISTON dNEO
     cPSIFISTOPARAKALESMA cPSIFISTOSYNAGMA cPSILI cPSILON cRAPISMA cREVMA cSAXIMATA cSEISMA dNEO
     cSIMANSIS_ARSEOS eDISIMOU eTETRASIMOU eTRISIMOU dTHESEOS eDISIMOU eTETRASIMOU eTRISIMOU
     cSTAVROS dAPODEXIA cSTIGMA cSTRAGGISMATA cSYNAGMA_ARCHAION dMETA_STAVROU dNEO cSYNEVMA
     cSYRMA cSYRMATIKI cTELEIA cTESSERA cTETRAPLI cTHEMA dAPLOUN cTHEMATISMOS_ESO dEXO
     cTHES_KAI_APOTHES cTHITA cTINAGMA cTRIA cTRIGORGON cTRIPLI cTROMIKOLYGISMA cTROMIKON_ALLO
     dARCHAION dNEO cTROMIKOPARAKALESMA cTROMIKOPSIFISTON cTROMIKOSYNAGMA cVAREIA_DIPLI
     dEKFONITIKON dNEO cVAREIAI_ARCHAION cVATHY cXIRON_KLASMA cYFEN_ANO dKATO
     cYFESIS_APLI_DYO_DODEKATA dDIGRAMMOS_EX_DODEKATA dMONOGRAMMOS_TESSERA_DODEKATA
     dTRIGRAMMOS_OKTO_DODEKATA dTRITIMORION cYPOKRISIS dDIPLI cYPORROI cYPSILI")]

end Polyglot.CharacterName
