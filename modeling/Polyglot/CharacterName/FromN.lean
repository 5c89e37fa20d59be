/-! # Names of characters that begin with N to R

A list of first words with what may follow each of them. There every entry begins with a letter
that tells how many words are taken from the entry before it: `a` for none, `b` for one and so on.
The words after those are joined by underlines.
-/

namespace Polyglot.CharacterName

/-- The names of several words that begin with N to R, by their first words. -/
def fromN : List (String × String) :=
  [("N-ARY", "aCIRCLED_DOT_OPERATOR bPLUS_OPERATOR bTIMES_OPERATOR aCOPRODUCT aINTERSECTION
     aLOGICAL_AND bOR aPRODUCT aSQUARE_INTERSECTION_OPERATOR bUNION_OPERATOR aSUMMATION
     aTIMES_OPERATOR aUNION bOPERATOR_WITH_DOT dPLUS aWHITE_VERTICAL_BAR"),
    ("NABATAEAN", "aCRUCIFORM_NUMBER_FOUR aLETTER_ALEPH bAYIN bBETH bDALETH bFINAL_ALEPH cBETH
     cHE cKAPH cLAMEDH cMEM cNUN cSHIN cYODH bGIMEL bHE bHETH bKAPH bLAMEDH bMEM bNUN bPE bQOPH
     bRESH bSADHE bSAMEKH bSHIN bTAW bTETH bWAW bYODH bZAYIN aNUMBER_FIVE bFOUR bONE cHUNDRED
     bTEN bTHREE bTWENTY bTWO"),
    ("NAIL", "aPOLISH"),
    ("NAIRA", "aSIGN"),
    ("NAME", "aBADGE"),
    ("NANDINAGARI", "aHEADSTROKE aLETTER_A bAA bAI bAU bBA bBHA bCA bCHA bDA bDDA bDDHA bDHA bE
     bGA bGHA bHA bI bII bJA bJHA bKA bKHA bLA bLLA bMA bNA bNGA bNNA bNYA bO bPA bPHA bRA bRRA
     bSA bSHA bSSA bTA bTHA bTTA bTTHA bU bUU bVA bVOCALIC_R cRR bYA aSIGN_ANUSVARA bAVAGRAHA
     bSIDDHAM bVIRAMA bVISARGA aVOWEL_SIGN_AA cAI cAU cE cI cII cO cPRISHTHAMATRA_E cU cUU
     cVOCALIC_R dRR"),
    ("NARROW", "aNO-BREAK_SPACE"),
    ("NATIONAL", "aDIGIT_SHAPES aPARK"),
    ("NAUSEATED", "aFACE"),
    ("NAZAR", "aAMULET"),
    ("NEGATED", "aDOUBLE_VERTICAL_BAR_DOUBLE_RIGHT_TURNSTILE"),
    ("NEGATIVE", "aACKNOWLEDGE aCIRCLED_DIGIT_ZERO bLATIN_CAPITAL_LETTER_A eB eC eD eE eF eG eH
     eI eJ eK eL eM eN eO eP eQ eR eS eT eU eV eW eX eY eZ bNUMBER_EIGHTEEN cELEVEN cFIFTEEN
     cFOURTEEN cNINETEEN cSEVENTEEN cSIXTEEN cTHIRTEEN cTWELVE cTWENTY bSQUARE bTRIANGLE
     aDIAGONAL_CROSS bDIAMOND bMIDDLE_RIGHT_TO_LOWER_CENTRE aSQUARED_AB bCROSS_MARK bIC
     bLATIN_CAPITAL_LETTER_A eB eC eD eE eF eG eH eI eJ eK eL eM eN eO eP eQ eR eS eT eU eV eW eX
     eY eZ bPA bQUESTION_MARK bSA bWC"),
    ("NEITHER", "aA_SUBSET_OF_NOR_EQUAL_TO bSUPERSET_OF_NOR_EQUAL_TO
     aAPPROXIMATELY_NOR_ACTUALLY_EQUAL_TO aGREATER-THAN_NOR_EQUAL_TO cEQUIVALENT_TO cLESS-THAN
     aLESS-THAN_NOR_EQUAL_TO cEQUIVALENT_TO cGREATER-THAN"),
    ("NEPTUNE", "a aFORM_TWO"),
    ("NERD", "aFACE"),
    ("NEST", "aWITH_EGGS"),
    ("NESTING", "aDOLLS"),
    ("NEUTRAL", "aCHESS_BISHOP cROTATED_NINETY_DEGREES dTWO_HUNDRED_SEVENTY_DEGREES bEQUIHOPPER
     cROTATED_NINETY_DEGREES bKING cROTATED_NINETY_DEGREES dTWO_HUNDRED_SEVENTY_DEGREES bKNIGHT
     cROTATED_FORTY-FIVE_DEGREES dNINETY_DEGREES dONE_HUNDRED_THIRTY-FIVE_DEGREES
     dTHREE_HUNDRED_FIFTEEN_DEGREES dTWO_HUNDRED_SEVENTY_DEGREES fTWENTY-FIVE_DEGREES bPAWN
     cROTATED_NINETY_DEGREES dTWO_HUNDRED_SEVENTY_DEGREES bQUEEN cROTATED_NINETY_DEGREES
     dTWO_HUNDRED_SEVENTY_DEGREES bROOK cROTATED_NINETY_DEGREES dTWO_HUNDRED_SEVENTY_DEGREES
     bTURNED_BISHOP cKING cKNIGHT cPAWN cQUEEN cROOK aFACE"),
    ("NEW", "aLINE aMOON_SYMBOL bWITH_FACE aSHEQEL_SIGN aTAI_LUE_DIGIT_EIGHT dFIVE dFOUR dNINE
     dONE dSEVEN dSIX dTHREE dTWO dZERO cLETTER_FINAL_B eD eK eM eN eNG eV dHIGH_BA eDA eFA eHA
     eKA eKVA eLA eMA eNA eNGA ePA ePHA eQA eSA eSUA eTA eTHA eTSA eVA eXA eXVA eYA dLOW_BA eDA
     eFA eHA eKA eKVA eLA eMA eNA eNGA ePA ePHA eQA eSA eSUA eTA eTHA eTSA eVA eXA eXVA eYA
     cSIGN_LAE dLAEV cTHAM_DIGIT_ONE cTONE_MARK-1 dMARK-2 cVOWEL_SIGN_AA eAAY eAE eAY eE eII eIY
     eO eOA eOAY eOY eU eUE eUEY eUU eUY eVOWEL_SHORTENER"),
    ("NEWA", "aABBREVIATION_SIGN aCOMMA aDANDA aDIGIT_EIGHT bFIVE bFOUR bNINE bONE bSEVEN bSIX
     bTHREE bTWO bZERO aDOUBLE_COMMA bDANDA aGAP_FILLER aINSERTION_SIGN aLETTER_A bAA bAI bAU bBA
     bBHA bCA bCHA bDA bDDA bDDHA bDHA bE bGA bGHA bHA bI bII bJA bJHA bKA bKHA bLA bLHA bMA bMHA
     bNA bNGA bNGHA bNHA bNNA bNYA bNYHA bO bPA bPHA bRA bRHA bSA bSHA bSSA bTA bTHA bTTA bTTHA
     bU bUU bVEDIC_ANUSVARA bVOCALIC_L cLL cR cRR bWA bYA aOM aPLACEHOLDER_MARK aSANDHI_MARK
     aSIDDHI aSIGN_ANUSVARA bAVAGRAHA bCANDRABINDU bFINAL_ANUSVARA bJIHVAMULIYA bNUKTA
     bUPADHMANIYA bVIRAMA bVISARGA aVOWEL_SIGN_AA cAI cAU cE cI cII cO cU cUU cVOCALIC_L dLL dR
     dRR"),
    ("NEWLINE", "aLEFT aRIGHT"),
    ("NEXT", "aLINE aPAGE"),
    ("NIGHT", "aWITH_STARS"),
    ("NKO", "aCOMBINING_DOUBLE_DOT_ABOVE bLONG_DESCENDING_TONE cHIGH_TONE cLOW_TONE cRISING_TONE
     bNASALIZATION_MARK bSHORT_HIGH_TONE cLOW_TONE cRISING_TONE aCOMMA aDANTAYALAN aDIGIT_EIGHT
     bFIVE bFOUR bNINE bONE bSEVEN bSIX bTHREE bTWO bZERO aDOROME_SIGN aEXCLAMATION_MARK
     aHIGH_TONE_APOSTROPHE aLAJANYALAN aLETTER_A bBA bCHA bDA bDAGBASINNA bE bEE bFA bGBA bHA bI
     bJA bJONA_CHA cJA cRA bKA bLA bMA bN bNA cWOLOSO bNYA cWOLOSO bO bOO bPA bRA bRRA bSA bTA bU
     bWA bYA aLOW_TONE_APOSTROPHE aSYMBOL_GBAKURUNEN bOO_DENNEN aTAMAN_SIGN"),
    ("NO", "aBICYCLES aBREAK_HERE aENTRY bSIGN aMOBILE_PHONES aONE_UNDER_EIGHTEEN_SYMBOL
     aPEDESTRIANS aPIRACY aSMOKING_SYMBOL"),
    ("NO-BREAK", "aSPACE"),
    ("NOMINAL", "aDIGIT_SHAPES"),
    ("NOMISMA", "aSIGN"),
    ("NON-BREAKING", "aHYPHEN"),
    ("NON-POTABLE", "aWATER_SYMBOL"),
    ("NORDIC", "aMARK_SIGN"),
    ("NORMAL", "aSUBGROUP_OF cOR_EQUAL_TO"),
    ("NORTH", "aEAST_AND_SOUTH_WEST_ARROW bARROW cAND_SOUTH_EAST_ARROW cCROSSING_NORTH_WEST_ARROW
     dSOUTH_EAST_ARROW cWITH_HOOK bBLACK_ARROW bDOUBLE_ARROW bPOINTING_BUD cLEAF cVINE_LEAF
     bSANS-SERIF_ARROW bTRIANGLE-HEADED_ARROW dTO_BAR bWHITE_ARROW aINDIC_FRACTION_ONE_EIGHTH
     dHALF dQUARTER dSIXTEENTH cTHREE_QUARTERS dSIXTEENTHS bPLACEHOLDER_MARK bQUANTITY_MARK
     bQUARTER_MARK bRUPEE_MARK aWEST_AND_SOUTH_EAST_ARROW bARROW cAND_NORTH_EAST_ARROW
     cCROSSING_NORTH_EAST_ARROW cTO_CORNER dLONG_BAR cWITH_HOOK bBLACK_ARROW bDOUBLE_ARROW
     bPOINTING_BUD cLEAF cVINE_LEAF bSANS-SERIF_ARROW bTRIANGLE-HEADED_ARROW dTO_BAR bWHITE_ARROW"),
    ("NORTHEAST-POINTING", "aAIRPLANE"),
    ("NOT", "aA_SUBSET_OF bSUPERSET_OF aALMOST_EQUAL_TO aAN_ELEMENT_OF aASYMPTOTICALLY_EQUAL_TO
     aCHECK_MARK aEQUAL_TO aEQUIVALENT_TO aGREATER-THAN aIDENTICAL_TO aLESS-THAN
     aNORMAL_SUBGROUP_OF dOR_EQUAL_TO aPARALLEL_TO aSIGN aSQUARE_IMAGE_OF_OR_EQUAL_TO
     bORIGINAL_OF_OR_EQUAL_TO aTILDE aTRUE"),
    ("NOTCHED", "aLEFT_SEMICIRCLE_WITH_THREE_DOTS aLOWER_RIGHT-SHADOWED_WHITE_RIGHTWARDS_ARROW
     aRIGHT_SEMICIRCLE_WITH_THREE_DOTS aUPPER_RIGHT-SHADOWED_WHITE_RIGHTWARDS_ARROW"),
    ("NOTE", "a aPAD aPAGE"),
    ("NOTEBOOK", "a aWITH_DECORATIVE_COVER"),
    ("NUMBER", "aEIGHTEEN_FULL_STOP aELEVEN_FULL_STOP aFIFTEEN_FULL_STOP aFOURTEEN_FULL_STOP
     aNINETEEN_FULL_STOP aSEVENTEEN_FULL_STOP aSIGN aSIXTEEN_FULL_STOP aTEN_FULL_STOP
     aTHIRTEEN_FULL_STOP aTWELVE_FULL_STOP aTWENTY_FULL_STOP"),
    ("NUMERO", "aSIGN"),
    ("NUSHU", "aCHARACTER-1B170 aCHARACTER-1B171 aCHARACTER-1B172 aCHARACTER-1B173
     aCHARACTER-1B174 aCHARACTER-1B175 aCHARACTER-1B176 aCHARACTER-1B177 aCHARACTER-1B178
     aCHARACTER-1B179 aCHARACTER-1B17A aCHARACTER-1B17B aCHARACTER-1B17C aCHARACTER-1B17D
     aCHARACTER-1B17E aCHARACTER-1B17F aCHARACTER-1B180 aCHARACTER-1B181 aCHARACTER-1B182
     aCHARACTER-1B183 aCHARACTER-1B184 aCHARACTER-1B185 aCHARACTER-1B186 aCHARACTER-1B187
     aCHARACTER-1B188 aCHARACTER-1B189 aCHARACTER-1B18A aCHARACTER-1B18B aCHARACTER-1B18C
     aCHARACTER-1B18D aCHARACTER-1B18E aCHARACTER-1B18F aCHARACTER-1B190 aCHARACTER-1B191
     aCHARACTER-1B192 aCHARACTER-1B193 aCHARACTER-1B194 aCHARACTER-1B195 aCHARACTER-1B196
     aCHARACTER-1B197 aCHARACTER-1B198 aCHARACTER-1B199 aCHARACTER-1B19A aCHARACTER-1B19B
     aCHARACTER-1B19C aCHARACTER-1B19D aCHARACTER-1B19E aCHARACTER-1B19F aCHARACTER-1B1A0
     aCHARACTER-1B1A1 aCHARACTER-1B1A2 aCHARACTER-1B1A3 aCHARACTER-1B1A4 aCHARACTER-1B1A5
     aCHARACTER-1B1A6 aCHARACTER-1B1A7 aCHARACTER-1B1A8 aCHARACTER-1B1A9 aCHARACTER-1B1AA
     aCHARACTER-1B1AB aCHARACTER-1B1AC aCHARACTER-1B1AD aCHARACTER-1B1AE aCHARACTER-1B1AF
     aCHARACTER-1B1B0 aCHARACTER-1B1B1 aCHARACTER-1B1B2 aCHARACTER-1B1B3 aCHARACTER-1B1B4
     aCHARACTER-1B1B5 aCHARACTER-1B1B6 aCHARACTER-1B1B7 aCHARACTER-1B1B8 aCHARACTER-1B1B9
     aCHARACTER-1B1BA aCHARACTER-1B1BB aCHARACTER-1B1BC aCHARACTER-1B1BD aCHARACTER-1B1BE
     aCHARACTER-1B1BF aCHARACTER-1B1C0 aCHARACTER-1B1C1 aCHARACTER-1B1C2 aCHARACTER-1B1C3
     aCHARACTER-1B1C4 aCHARACTER-1B1C5 aCHARACTER-1B1C6 aCHARACTER-1B1C7 aCHARACTER-1B1C8
     aCHARACTER-1B1C9 aCHARACTER-1B1CA aCHARACTER-1B1CB aCHARACTER-1B1CC aCHARACTER-1B1CD
     aCHARACTER-1B1CE aCHARACTER-1B1CF aCHARACTER-1B1D0 aCHARACTER-1B1D1 aCHARACTER-1B1D2
     aCHARACTER-1B1D3 aCHARACTER-1B1D4 aCHARACTER-1B1D5 aCHARACTER-1B1D6 aCHARACTER-1B1D7
     aCHARACTER-1B1D8 aCHARACTER-1B1D9 aCHARACTER-1B1DA aCHARACTER-1B1DB aCHARACTER-1B1DC
     aCHARACTER-1B1DD aCHARACTER-1B1DE aCHARACTER-1B1DF aCHARACTER-1B1E0 aCHARACTER-1B1E1
     aCHARACTER-1B1E2 aCHARACTER-1B1E3 aCHARACTER-1B1E4 aCHARACTER-1B1E5 aCHARACTER-1B1E6
     aCHARACTER-1B1E7 aCHARACTER-1B1E8 aCHARACTER-1B1E9 aCHARACTER-1B1EA aCHARACTER-1B1EB
     aCHARACTER-1B1EC aCHARACTER-1B1ED aCHARACTER-1B1EE aCHARACTER-1B1EF aCHARACTER-1B1F0
     aCHARACTER-1B1F1 aCHARACTER-1B1F2 aCHARACTER-1B1F3 aCHARACTER-1B1F4 aCHARACTER-1B1F5
     aCHARACTER-1B1F6 aCHARACTER-1B1F7 aCHARACTER-1B1F8 aCHARACTER-1B1F9 aCHARACTER-1B1FA
     aCHARACTER-1B1FB aCHARACTER-1B1FC aCHARACTER-1B1FD aCHARACTER-1B1FE aCHARACTER-1B1FF
     aCHARACTER-1B200 aCHARACTER-1B201 aCHARACTER-1B202 aCHARACTER-1B203 aCHARACTER-1B204
     aCHARACTER-1B205 aCHARACTER-1B206 aCHARACTER-1B207 aCHARACTER-1B208 aCHARACTER-1B209
     aCHARACTER-1B20A aCHARACTER-1B20B aCHARACTER-1B20C aCHARACTER-1B20D aCHARACTER-1B20E
     aCHARACTER-1B20F aCHARACTER-1B210 aCHARACTER-1B211 aCHARACTER-1B212 aCHARACTER-1B213
     aCHARACTER-1B214 aCHARACTER-1B215 aCHARACTER-1B216 aCHARACTER-1B217 aCHARACTER-1B218
     aCHARACTER-1B219 aCHARACTER-1B21A aCHARACTER-1B21B aCHARACTER-1B21C aCHARACTER-1B21D
     aCHARACTER-1B21E aCHARACTER-1B21F aCHARACTER-1B220 aCHARACTER-1B221 aCHARACTER-1B222
     aCHARACTER-1B223 aCHARACTER-1B224 aCHARACTER-1B225 aCHARACTER-1B226 aCHARACTER-1B227
     aCHARACTER-1B228 aCHARACTER-1B229 aCHARACTER-1B22A aCHARACTER-1B22B aCHARACTER-1B22C
     aCHARACTER-1B22D aCHARACTER-1B22E aCHARACTER-1B22F aCHARACTER-1B230 aCHARACTER-1B231
     aCHARACTER-1B232 aCHARACTER-1B233 aCHARACTER-1B234 aCHARACTER-1B235 aCHARACTER-1B236
     aCHARACTER-1B237 aCHARACTER-1B238 aCHARACTER-1B239 aCHARACTER-1B23A aCHARACTER-1B23B
     aCHARACTER-1B23C aCHARACTER-1B23D aCHARACTER-1B23E aCHARACTER-1B23F aCHARACTER-1B240
     aCHARACTER-1B241 aCHARACTER-1B242 aCHARACTER-1B243 aCHARACTER-1B244 aCHARACTER-1B245
     aCHARACTER-1B246 aCHARACTER-1B247 aCHARACTER-1B248 aCHARACTER-1B249 aCHARACTER-1B24A
     aCHARACTER-1B24B aCHARACTER-1B24C aCHARACTER-1B24D aCHARACTER-1B24E aCHARACTER-1B24F
     aCHARACTER-1B250 aCHARACTER-1B251 aCHARACTER-1B252 aCHARACTER-1B253 aCHARACTER-1B254
     aCHARACTER-1B255 aCHARACTER-1B256 aCHARACTER-1B257 aCHARACTER-1B258 aCHARACTER-1B259
     aCHARACTER-1B25A aCHARACTER-1B25B aCHARACTER-1B25C aCHARACTER-1B25D aCHARACTER-1B25E
     aCHARACTER-1B25F aCHARACTER-1B260 aCHARACTER-1B261 aCHARACTER-1B262 aCHARACTER-1B263
     aCHARACTER-1B264 aCHARACTER-1B265 aCHARACTER-1B266 aCHARACTER-1B267 aCHARACTER-1B268
     aCHARACTER-1B269 aCHARACTER-1B26A aCHARACTER-1B26B aCHARACTER-1B26C aCHARACTER-1B26D
     aCHARACTER-1B26E aCHARACTER-1B26F aCHARACTER-1B270 aCHARACTER-1B271 aCHARACTER-1B272
     aCHARACTER-1B273 aCHARACTER-1B274 aCHARACTER-1B275 aCHARACTER-1B276 aCHARACTER-1B277
     aCHARACTER-1B278 aCHARACTER-1B279 aCHARACTER-1B27A aCHARACTER-1B27B aCHARACTER-1B27C
     aCHARACTER-1B27D aCHARACTER-1B27E aCHARACTER-1B27F aCHARACTER-1B280 aCHARACTER-1B281
     aCHARACTER-1B282 aCHARACTER-1B283 aCHARACTER-1B284 aCHARACTER-1B285 aCHARACTER-1B286
     aCHARACTER-1B287 aCHARACTER-1B288 aCHARACTER-1B289 aCHARACTER-1B28A aCHARACTER-1B28B
     aCHARACTER-1B28C aCHARACTER-1B28D aCHARACTER-1B28E aCHARACTER-1B28F aCHARACTER-1B290
     aCHARACTER-1B291 aCHARACTER-1B292 aCHARACTER-1B293 aCHARACTER-1B294 aCHARACTER-1B295
     aCHARACTER-1B296 aCHARACTER-1B297 aCHARACTER-1B298 aCHARACTER-1B299 aCHARACTER-1B29A
     aCHARACTER-1B29B aCHARACTER-1B29C aCHARACTER-1B29D aCHARACTER-1B29E aCHARACTER-1B29F
     aCHARACTER-1B2A0 aCHARACTER-1B2A1 aCHARACTER-1B2A2 aCHARACTER-1B2A3 aCHARACTER-1B2A4
     aCHARACTER-1B2A5 aCHARACTER-1B2A6 aCHARACTER-1B2A7 aCHARACTER-1B2A8 aCHARACTER-1B2A9
     aCHARACTER-1B2AA aCHARACTER-1B2AB aCHARACTER-1B2AC aCHARACTER-1B2AD aCHARACTER-1B2AE
     aCHARACTER-1B2AF aCHARACTER-1B2B0 aCHARACTER-1B2B1 aCHARACTER-1B2B2 aCHARACTER-1B2B3
     aCHARACTER-1B2B4 aCHARACTER-1B2B5 aCHARACTER-1B2B6 aCHARACTER-1B2B7 aCHARACTER-1B2B8
     aCHARACTER-1B2B9 aCHARACTER-1B2BA aCHARACTER-1B2BB aCHARACTER-1B2BC aCHARACTER-1B2BD
     aCHARACTER-1B2BE aCHARACTER-1B2BF aCHARACTER-1B2C0 aCHARACTER-1B2C1 aCHARACTER-1B2C2
     aCHARACTER-1B2C3 aCHARACTER-1B2C4 aCHARACTER-1B2C5 aCHARACTER-1B2C6 aCHARACTER-1B2C7
     aCHARACTER-1B2C8 aCHARACTER-1B2C9 aCHARACTER-1B2CA aCHARACTER-1B2CB aCHARACTER-1B2CC
     aCHARACTER-1B2CD aCHARACTER-1B2CE aCHARACTER-1B2CF aCHARACTER-1B2D0 aCHARACTER-1B2D1
     aCHARACTER-1B2D2 aCHARACTER-1B2D3 aCHARACTER-1B2D4 aCHARACTER-1B2D5 aCHARACTER-1B2D6
     aCHARACTER-1B2D7 aCHARACTER-1B2D8 aCHARACTER-1B2D9 aCHARACTER-1B2DA aCHARACTER-1B2DB
     aCHARACTER-1B2DC aCHARACTER-1B2DD aCHARACTER-1B2DE aCHARACTER-1B2DF aCHARACTER-1B2E0
     aCHARACTER-1B2E1 aCHARACTER-1B2E2 aCHARACTER-1B2E3 aCHARACTER-1B2E4 aCHARACTER-1B2E5
     aCHARACTER-1B2E6 aCHARACTER-1B2E7 aCHARACTER-1B2E8 aCHARACTER-1B2E9 aCHARACTER-1B2EA
     aCHARACTER-1B2EB aCHARACTER-1B2EC aCHARACTER-1B2ED aCHARACTER-1B2EE aCHARACTER-1B2EF
     aCHARACTER-1B2F0 aCHARACTER-1B2F1 aCHARACTER-1B2F2 aCHARACTER-1B2F3 aCHARACTER-1B2F4
     aCHARACTER-1B2F5 aCHARACTER-1B2F6 aCHARACTER-1B2F7 aCHARACTER-1B2F8 aCHARACTER-1B2F9
     aCHARACTER-1B2FA aCHARACTER-1B2FB aITERATION_MARK"),
    ("NUT", "aAND_BOLT"),
    ("NYIAKENG", "aPUACHUE_HMONG_CIRCLED_CA cDIGIT_EIGHT dFIVE dFOUR dNINE dONE dSEVEN dSIX
     dTHREE dTWO dZERO cLETTER_A dAA dCA dDA dDLA dE dEE dFA dGA dHA dHAH dI dKA dLA dMA dMLA dNA
     dNCA dNKA dNPA dNPLA dNQA dNRA dNTA dNTSA dNTXA dNYA dO dOO dPA dPLA dQA dRA dRRA dSA dTA
     dTSA dTXA dU dVA dW dXA dXYA dYA dZA cLOGOGRAM_NYAJ cSIGN_FOR_ANIMAL eINVERTEBRATE eLOCATION
     ePERSON eTHING dXW_XW cSYLLABLE_LENGTHENER cTONE-B cTONE-D cTONE-G cTONE-J cTONE-M cTONE-S
     cTONE-V"),
    ("OBJECT", "aREPLACEMENT_CHARACTER"),
    ("OBLIQUE", "aANGLE_OPENING_DOWN cUP aHYPHEN"),
    ("OBSERVER", "aEYE_SYMBOL"),
    ("OCR", "aAMOUNT_OF_CHECK aBELT_BUCKLE aBOW_TIE aBRANCH_BANK_IDENTIFICATION aCHAIR
     aCUSTOMER_ACCOUNT_NUMBER aDASH aDOUBLE_BACKSLASH aFORK aHOOK aINVERTED_FORK"),
    ("OCTAGONAL", "aSIGN"),
    ("OFFICE", "aBUILDING"),
    ("OGHAM", "aFEATHER_MARK aLETTER_AILM bBEITH bCEIRT bCOLL bDAIR bEABHADH bEADHADH
     bEAMHANCHOLL bFEARN bGORT bIFIN bIODHADH bLUIS bMUIN bNGEADAL bNION bONN bOR bPEITH bRUIS
     bSAIL bSTRAIF bTINNE bUATH bUILLEANN bUR aREVERSED_FEATHER_MARK aSPACE_MARK"),
    ("OHM", "aSIGN"),
    ("OIL", "aDRUM"),
    ("OK", "aHAND_SIGN"),
    ("OL", "aCHIKI_AHAD bDIGIT_EIGHT cFIVE cFOUR cNINE cONE cSEVEN cSIX cTHREE cTWO cZERO
     bGAAHLAA_TTUDDAAG bLETTER_AAJ cAAK cAAM cAAW cAG cAL cANG cAT cEDD cEN cEP cERR cIH cINY cIR
     cIS cLA cLAA cLE cLI cLO cLU cOB cOH cOTT cOV cUC cUD cUNN cUY bMU_TTUDDAG
     bMU-GAAHLAA_TTUDDAAG bPHAARKAA bPUNCTUATION_DOUBLE_MUCAAD cMUCAAD bRELAA"),
    ("OLD", "aCHINESE_HOOK_MARK bITERATION_MARK aHUNGARIAN_CAPITAL_LETTER_A dAA dAK dAMB dAND
     dCLOSE_E dE dEB dEC dECH dECS dED dEE dEF dEG dEGY dEH dEJ dEK dEL dELY dEM dEMP dEN dENC
     dENT dENT-SHAPED_SIGN dENY dEP dER dES dESZ dET dETY dEV dEZ dEZS dI dII dNIKOLSBURG_OE eUE
     dO dOEE dOO dRUDIMENTA_OE eUE dSHORT_ER dU dUNK dUS dUU bNUMBER_FIFTY cFIVE cONE dHUNDRED
     dTHOUSAND cTEN bSMALL_LETTER_A dAA dAK dAMB dAND dCLOSE_E dE dEB dEC dECH dECS dED dEE dEF
     dEG dEGY dEH dEJ dEK dEL dELY dEM dEMP dEN dENC dENT dENT-SHAPED_SIGN dENY dEP dER dES dESZ
     dET dETY dEV dEZ dEZS dI dII dNIKOLSBURG_OE eUE dO dOEE dOO dRUDIMENTA_OE eUE dSHORT_ER dU
     dUNK dUS dUU aITALIC_LETTER_A cBE cCHE cDE cE cEF cEKS cEL cEM cEN cER cERS cES cESH cESS
     cHE cI cII cKA cKE cKHE cKU cNORTHERN_TSE cO cPE cPHE cSHE cSOUTHERN_TSE cTE cTHE cU cUU cVE
     cYE cZE bNUMERAL_FIFTY cFIVE cONE cTEN aKEY aNORTH_ARABIAN_LETTER_AIN dALEF dBEH dDAD dDAL
     dES-1 dES-2 dES-3 dFEH dGEEM dGHAIN dHAH dHEH dKAF dKHAH dLAM dMEEM dNOON dQAF dREH dSAD
     dTAH dTEH dTHAL dTHEH dWAW dYEH dZAH dZAIN cNUMBER_ONE dTEN dTWENTY aPERMIC_LETTER_AN cBUR
     cCHERY cDOI cDZHOI cDZITA cE cEF cGAI cHA cI cIA cIE cKOKE cLEI cMENOE cNENOE cO cOO cPEEI
     cREI cSHCHOOI cSHOOI cSII cTAI cTSIU cU cVER cVOOI cYA cYAT cYER cYERI cYERU cYRY cYU cZATA
     cZHOI aPERSIAN_NUMBER_HUNDRED cONE cTEN cTWENTY cTWO bSIGN_A cAURAMAZDAA cAURAMAZDAA-2
     cAURAMAZDAAHA cBA cBAGA cBUUMISH cCA cDA cDAHYAAUSH cDAHYAAUSH-2 cDI cDU cFA cGA cGU cHA cI
     cJA cJI cKA cKU cLA cMA cMI cMU cNA cNU cPA cRA cRU cSA cSHA cSSA cTA cTHA cTU cU cVA cVI
     cXA cXSHAAYATHIYA cYA cZA bWORD_DIVIDER aPERSONAL_COMPUTER aSOGDIAN_FRACTION_ONE_HALF
     bLETTER_ALEPH cALTERNATE_AYIN cAYIN cBETH cFINAL_ALEPH dBETH dHE dNUN eWITH_VERTICAL_TAIL
     dSADHE eWITH_VERTICAL_TAIL dTAW eWITH_VERTICAL_TAIL cGIMEL cHE cHETH cKAPH cLAMEDH cMEM cNUN
     cPE cRESH-AYIN-DALETH cSADHE cSAMEKH cSHIN cTAW cWAW cYODH cZAYIN bLIGATURE_AYIN-DALETH
     bNUMBER_FIVE cFOUR cONE dHUNDRED cTEN cTHIRTY cTHREE cTWENTY cTWO aSOUTH_ARABIAN_LETTER_ALEF
     dAYN dBETH dDALETH dDHADHE dDHALETH dFE dGHAYN dGIMEL dHE dHETH dKAPH dKHETH dLAMEDH dMEM
     dNUN dQOPH dRESH dSADHE dSAMEKH dSAT dSHIN dTAW dTETH dTHAW dTHETH dWAW dYODH dZAYN
     cNUMBER_FIFTY dONE cNUMERIC_INDICATOR aTURKIC_LETTER_ORKHON_A dAB dAD dAEB dAED dAEG dAEK
     dAEL dAEN dAER dAES dAET dAEY dAG dAL dAN dAQ dAR dAS dASH dAT dAY dBASH dEC dELT dEM dENC
     dENG dENT dENY dEP dESH dEZ dI dIC dIQ dO dOE dOEK dOP dOQ dOT cYENISEI_A dAB dAD dAE dAEB
     dAEG dAEK dAEN dAENG dAET dAEY dAG dAL dANG dAQ dAR dASH dAT dAY dE dEC dENC dENT dENY dESH
     dEZ dI dIQ dOE dOEK dOQ aUYGHUR_COMBINING_DOT_ABOVE dBELOW cTWO_DOTS_ABOVE eBELOW
     bLETTER_ALEPH cBETH cFINAL_HETH cGIMEL-HETH cKAPH cLAMEDH cLESH cMEM cNUN cPE cRESH cSADHE
     cSAMEKH cSHIN cTAW cWAW cYODH cZAYIN bPUNCTUATION_BAR cFOUR_DOTS cTWO_BARS dDOTS"),
    ("OLDER", "aADULT aMAN aWOMAN"),
    ("OM", "aSYMBOL"),
    ("ON", "aWITH_EXCLAMATION_MARK_WITH_LEFT_RIGHT_ARROW_ABOVE"),
    ("ONCOMING", "aAUTOMOBILE aBUS aFIRE_ENGINE aPOLICE_CAR aTAXI"),
    ("ONE", "aBUTTON_MOUSE aDOT_LEADER bOVER_TWO_DOTS_PUNCTUATION"),
    ("ONE-PIECE", "aSWIMSUIT"),
    ("OPEN", "aBOOK aBOX aCENTRE_ASTERISK bBLACK_STAR bCROSS bTEARDROP-SPOKED_ASTERISK
     aFILE_FOLDER aFOLDER aHANDS_SIGN aLOCK aMAILBOX_WITH_LOWERED_FLAG cRAISED_FLAG aSUBSET
     aSUPERSET"),
    ("OPEN-CIRCUIT-OUTPUT", "aH-TYPE_SYMBOL aL-TYPE_SYMBOL"),
    ("OPEN-OUTLINED", "aRIGHTWARDS_ARROW"),
    ("OPERATING", "aSYSTEM_COMMAND"),
    ("OPTICAL", "aDISC bICON"),
    ("OPTION", "aKEY"),
    ("OR", "aWITH_DOT_INSIDE"),
    ("ORANGE", "aBOOK aHEART"),
    ("ORIGINAL", "aOF"),
    ("ORIYA", "aAI_LENGTH_MARK aAU_LENGTH_MARK aDIGIT_EIGHT bFIVE bFOUR bNINE bONE bSEVEN bSIX
     bTHREE bTWO bZERO aFRACTION_ONE_EIGHTH cHALF cQUARTER cSIXTEENTH bTHREE_QUARTERS cSIXTEENTHS
     aISSHAR aLETTER_A bAA bAI bAU bBA bBHA bCA bCHA bDA bDDA bDDHA bDHA bE bGA bGHA bHA bI bII
     bJA bJHA bKA bKHA bLA bLLA bMA bNA bNGA bNNA bNYA bO bPA bPHA bRA bRHA bRRA bSA bSHA bSSA
     bTA bTHA bTTA bTTHA bU bUU bVA bVOCALIC_L cLL cR cRR bWA bYA bYYA aSIGN_ANUSVARA bAVAGRAHA
     bCANDRABINDU bNUKTA bOVERLINE bVIRAMA bVISARGA aVOWEL_SIGN_AA cAI cAU cE cI cII cO cU cUU
     cVOCALIC_L dLL dR dRR"),
    ("ORNATE", "aLEFT_PARENTHESIS aRIGHT_PARENTHESIS"),
    ("ORTHODOX", "aCROSS"),
    ("OSAGE", "aCAPITAL_LETTER_A cAH cAI cAIN cBRA cCHA cDHA cE cEHCHA cEHKA cEHPA cEHTA cEHTSA
     cEIN cGHA cHA cHYA cI cKA cKHA cKYA cLA cMA cNA cO cOIN cPA cSA cSHA cTA cTSA cTSHA cU cWA
     cZA cZHA aSMALL_LETTER_A cAH cAI cAIN cBRA cCHA cDHA cE cEHCHA cEHKA cEHPA cEHTA cEHTSA cEIN
     cGHA cHA cHYA cI cKA cKHA cKYA cLA cMA cNA cO cOIN cPA cSA cSHA cTA cTSA cTSHA cU cWA cZA
     cZHA"),
    ("OSMANYA", "aDIGIT_EIGHT bFIVE bFOUR bNINE bONE bSEVEN bSIX bTHREE bTWO bZERO aLETTER_A bAA
     bALEF bBA bCAYN bDEEL bDHA bE bEE bFA bGA bHA bI bJA bKAAF bKHA bLAAN bMIIN bNUUN bO bOO
     bQAAF bRA bSA bSHIIN bTA bU bWAW bXA bYA"),
    ("OTTOMAN", "aSIYAQ_ALTERNATE_NUMBER_EIGHT dFIVE dFOUR eHUNDRED dNINE dSEVEN dSIX eHUNDRED
     dTEN eTHOUSAND dTHREE dTWO eTHOUSAND bFRACTION_ONE_HALF dSIXTH bMARRATAN bNUMBER_EIGHT
     dHUNDRED dTHOUSAND cEIGHTY dTHOUSAND cFIFTY dTHOUSAND cFIVE dHUNDRED dTHOUSAND cFORTY
     dTHOUSAND cFOUR dHUNDRED dTHOUSAND cNINE dHUNDRED dTHOUSAND cNINETY dTHOUSAND cONE dHUNDRED
     dTHOUSAND cSEVEN dHUNDRED dTHOUSAND cSEVENTY dTHOUSAND cSIX dHUNDRED dTHOUSAND cSIXTY
     dTHOUSAND cTEN dTHOUSAND cTHIRTY dTHOUSAND cTHREE dHUNDRED dTHOUSAND cTWENTY dTHOUSAND cTWO
     dHUNDRED dTHOUSAND"),
    ("OUNCE", "aSIGN"),
    ("OUTBOX", "aTRAY"),
    ("OUTLINED", "aBLACK_STAR aGREEK_CROSS aLATIN_CROSS aWHITE_STAR"),
    ("OVERHEATED", "aFACE"),
    ("OVERLAPPING", "aBLACK_SQUARES aWHITE_AND_BLACK_SQUARES bSQUARES"),
    ("PADDING", "aCHARACTER"),
    ("PAGE", "a aFACING_UP aWITH_CIRCLED_TEXT bCURL"),
    ("PAHAWH", "aHMONG_CLAN_SIGN_FAJ dHAM dHAWJ dKHAB dKOO dKWM dLAUJ dLIS dMUAS dPHAB dTHOJ
     dTSAB dTSHEEJ dTSWB dVAJ dVWJ dXYOOJ dYAJ dYEEG bCONSONANT_AU cCAU cCHAU cHAU cHLAU cHNAU
     cLAU cMAU cNAU cNCHAU cNKAU cNLAU cNTHAU cNTSAU cPLHAU cQHAU cRAU cVAU cXAU cYAU
     bDIGIT_EIGHT cFIVE cFOUR cNINE cONE cSEVEN cSIX cTHREE cTWO cZERO bMARK_CIM_HOM dKES dKHAV
     dSO dSUAM dTAUM dTUB bNUMBER_HUNDRED_MILLIONS cHUNDREDS cMILLIONS cTEN_BILLIONS dTHOUSANDS
     cTENS cTRILLIONS bSIGN_AV cCIM_CHEEM dCUAM_TSHOOJ dHAIS_LUS_NTOG_NTOG dNRES_TOS dPUB_DAWB
     dTSOV_ROG dTXWV eCHWV cHLI cHNUB cIB_YAM cLOS cMEEJ_SUAB dTSEEB cMUS cNQIG cNTUJ cTAU
     cTHIRD-STAGE_HLI cTXHEEJ_CEEV cVOS_FEEM dLUB dNRUA dSEEV dTHIAB dTHOM dTSHAB_CEEB cXAUS
     cXIAB cXYEEM_FAIB dNTXIV dRHO dTOV cXYOO cZWJ_THAJ bVOWEL_KAAB cKAAV cKAB cKAIB cKAIV cKAUB
     cKAUV cKAV cKAWB cKAWV cKEB cKEEB cKEEV cKEV cKIAB cKIAV cKIB cKIV cKOB cKOOB cKOOV cKOV
     cKUAB cKUAV cKUB cKUV cKWB cKWV"),
    ("PALM", "aBRANCH aDOWN_HAND aTREE aUP_HAND"),
    ("PALMS", "aUP_TOGETHER"),
    ("PALMYRENE", "aLEFT-POINTING_FLEURON aLETTER_ALEPH bAYIN bBETH bDALETH bFINAL_NUN bGIMEL bHE
     bHETH bKAPH bLAMEDH bMEM bNUN bPE bQOPH bRESH bSADHE bSAMEKH bSHIN bTAW bTETH bWAW bYODH
     bZAYIN aNUMBER_FIVE bFOUR bONE bTEN bTHREE bTWENTY bTWO aRIGHT-POINTING_FLEURON"),
    ("PANDA", "aFACE"),
    ("PARAGRAPH", "aSEPARATOR"),
    ("PARAGRAPHUS", "aMARK"),
    ("PARALLEL", "aTO aWITH_HORIZONTAL_STROKE bTILDE_OPERATOR"),
    ("PARENTHESIZED", "aDIGIT_EIGHT bFIVE bFOUR bNINE bONE bSEVEN bSIX bTHREE bTWO
     aHANGUL_CHIEUCH cA bCIEUC cA cU bHIEUH cA bIEUNG cA bKHIEUKH cA bKIYEOK cA bMIEUM cA bNIEUN
     cA bPHIEUPH cA bPIEUP cA bRIEUL cA bSIOS cA bTHIEUTH cA bTIKEUT cA aIDEOGRAPH_ALLIANCE bCALL
     bCONGRATULATION bEARTH bEIGHT bENTERPRISE bFESTIVAL bFINANCIAL bFIRE bFIVE bFOUR bHAVE
     bLABOR bMETAL bMOON bNAME bNINE bONE bREACH bREPRESENT bRESOURCE bREST bSELF bSEVEN bSIX
     bSOCIETY bSPECIAL bSTOCK bSTUDY bSUN bSUPERVISE bTEN bTHREE bTWO bWATER bWOOD
     aKOREAN_CHARACTER_O_HU cOJEON aLATIN_CAPITAL_LETTER_A dB dC dD dE dF dG dH dI dJ dK dL dM dN
     dO dP dQ dR dS dT dU dV dW dX dY dZ bSMALL_LETTER_A dB dC dD dE dF dG dH dI dJ dK dL dM dN
     dO dP dQ dR dS dT dU dV dW dX dY dZ aNUMBER_EIGHTEEN bELEVEN bFIFTEEN bFOURTEEN bNINETEEN
     bSEVENTEEN bSIXTEEN bTEN bTHIRTEEN bTWELVE bTWENTY"),
    ("PART", "aALTERNATION_MARK"),
    ("PARTIAL", "aDIFFERENTIAL aLINE_BACKWARD bDOWN bFORWARD bUP"),
    ("PARTIALLY-RECYCLED", "aPAPER_SYMBOL"),
    ("PARTNERSHIP", "aSIGN"),
    ("PARTY", "aPOPPER"),
    ("PASSED", "aSYMBOL"),
    ("PASSENGER", "aSHIP"),
    ("PASSIVE-PULL-DOWN-OUTPUT", "aSYMBOL"),
    ("PASSIVE-PULL-UP-OUTPUT", "aSYMBOL"),
    ("PASSPORT", "aCONTROL"),
    ("PAU", "aCIN_HAU_GLOTTAL_STOP eFINAL eVARIANT cLETTER_A dBA dCA dCHA dDA dE dFA dFINAL_K eL
     eM eN eNG eP eT eW eY dGA dHA dI dIA dKA dKHA dLA dMA dNA dNGA dO dPA dPHA dRA dSA dTA dTHA
     dU dUA dVA dZA cLOW-FALLING_TONE eFINAL eLONG fFINAL cMID-LEVEL_TONE eFINAL eLONG_FINAL
     cRISING_TONE eFINAL eLONG fFINAL cSANDHI_GLOTTAL_STOP fFINAL dTONE eFINAL eLONG fFINAL"),
    ("PAW", "aPRINTS"),
    ("PEACE", "aSYMBOL"),
    ("PEN", "aOVER_STAMPED_ENVELOPE"),
    ("PENSIVE", "aFACE"),
    ("PEOPLE", "aHUGGING"),
    ("PER", "aMILLE_SIGN aSIGN aTEN_THOUSAND_SIGN"),
    ("PERCENT", "aSIGN"),
    ("PERFORMING", "aARTS"),
    ("PERMANENT", "aPAPER_SIGN"),
    ("PERPENDICULAR", "a aWITH_S"),
    ("PERSEVERING", "aFACE"),
    ("PERSON", "aBOWING_DEEPLY aCLIMBING aDOING_CARTWHEEL aFROWNING aIN_LOTUS_POSITION
     bSTEAMY_ROOM aRAISING_BOTH_HANDS_IN_CELEBRATION aWITH_BALL bBLOND_HAIR bCROWN bFOLDED_HANDS
     bHEADSCARF bPOUTING_FACE"),
    ("PERSONAL", "aCOMPUTER"),
    ("PESETA", "aSIGN"),
    ("PESO", "aSIGN"),
    ("PETRI", "aDISH"),
    ("PHAGS-PA", "aDOUBLE_HEAD_MARK aLETTER_A bALTERNATE_YA bASPIRATED_FA bBA bCA bCANDRABINDU
     bCHA bDA bDDA bDZA bE bEE bFA bGA bGGA bHA bI bJA bKA bKHA bLA bMA bNA bNGA bNNA bNYA bO bPA
     bPHA bQA bRA bSA bSHA bSMALL_A bTA bTHA bTSA bTSHA bTTA bTTHA bU bVOICED_HA bVOICELESS_SHA
     bWA bXA bYA bZA bZHA aMARK_DOUBLE_SHAD bSHAD aSINGLE_HEAD_MARK aSUBJOINED_LETTER_RA cWA cYA
     aSUPERFIXED_LETTER_RA"),
    ("PHAISTOS", "aDISC_SIGN_ARROW cBEE cBEEHIVE cBOOMERANG cBOW cBULLS_LEG cCAPTIVE
     cCARPENTRY_PLANE cCAT cCHILD cCLUB cCOLUMN cCOMB cCOMBINING_OBLIQUE_STROKE cDOLIUM cDOVE
     cEAGLE cFLUTE cGAUNTLET cGRATER cHELMET cHIDE cHORN cLID cLILY cMANACLES cMATTOCK cOX_BACK
     cPAPYRUS cPEDESTRIAN cPLANE_TREE cPLUMED_HEAD cRAM cROSETTE cSAW cSHIELD cSHIP cSLING
     cSMALL_AXE cSTRAINER cTATTOOED_HEAD cTIARA cTUNNY cVINE cWAVY_BAND cWOMAN"),
    ("PHILIPPINE", "aDOUBLE_PUNCTUATION aSINGLE_PUNCTUATION"),
    ("PHOENICIAN", "aLETTER_AIN bALF bBET bDELT bGAML bHE bHET bKAF bLAMD bMEM bNUN bPE bQOF
     bROSH bSADE bSEMK bSHIN bTAU bTET bWAU bYOD bZAI aNUMBER_ONE cHUNDRED bTEN bTHREE bTWENTY
     bTWO aWORD_SEPARATOR"),
    ("PICKUP", "aTRUCK"),
    ("PIG", "a aFACE aNOSE"),
    ("PILCROW", "aSIGN"),
    ("PILE", "aOF_POO"),
    ("PINCHED", "aFINGERS"),
    ("PINCHING", "aHAND"),
    ("PINE", "aDECORATION"),
    ("PINWHEEL", "aSTAR"),
    ("PITCHFORK", "a aWITH_TEE_TOP"),
    ("PLACE", "aOF_INTEREST_SIGN bWORSHIP"),
    ("PLANCK", "aCONSTANT bOVER_TWO_PI"),
    ("PLAYGROUND", "aSLIDE"),
    ("PLAYING", "aCARD_ACE_OF_CLUBS dDIAMONDS dHEARTS dSPADES bBACK bBLACK_JOKER bEIGHT_OF_CLUBS
     dDIAMONDS dHEARTS dSPADES bFIVE_OF_CLUBS dDIAMONDS dHEARTS dSPADES bFOOL bFOUR_OF_CLUBS
     dDIAMONDS dHEARTS dSPADES bJACK_OF_CLUBS dDIAMONDS dHEARTS dSPADES bKING_OF_CLUBS dDIAMONDS
     dHEARTS dSPADES bKNIGHT_OF_CLUBS dDIAMONDS dHEARTS dSPADES bNINE_OF_CLUBS dDIAMONDS dHEARTS
     dSPADES bQUEEN_OF_CLUBS dDIAMONDS dHEARTS dSPADES bRED_JOKER bSEVEN_OF_CLUBS dDIAMONDS
     dHEARTS dSPADES bSIX_OF_CLUBS dDIAMONDS dHEARTS dSPADES bTEN_OF_CLUBS dDIAMONDS dHEARTS
     dSPADES bTHREE_OF_CLUBS dDIAMONDS dHEARTS dSPADES bTRUMP-1 bTRUMP-10 bTRUMP-11 bTRUMP-12
     bTRUMP-13 bTRUMP-14 bTRUMP-15 bTRUMP-16 bTRUMP-17 bTRUMP-18 bTRUMP-19 bTRUMP-2 bTRUMP-20
     bTRUMP-21 bTRUMP-3 bTRUMP-4 bTRUMP-5 bTRUMP-6 bTRUMP-7 bTRUMP-8 bTRUMP-9 bTWO_OF_CLUBS
     dDIAMONDS dHEARTS dSPADES bWHITE_JOKER"),
    ("PLUS", "aSIGN bABOVE_EQUALS_SIGN bIN_LEFT_HALF_CIRCLE cRIGHT_HALF_CIRCLE cTRIANGLE
     bWITH_BLACK_TRIANGLE cCIRCUMFLEX_ACCENT_ABOVE cDOT_BELOW cSMALL_CIRCLE_ABOVE cSUBSCRIPT_TWO
     cTILDE_ABOVE dBELOW"),
    ("PLUS-MINUS", "aSIGN"),
    ("PLUTO", "a aFORM_FIVE bFOUR bTHREE bTWO"),
    ("POCKET", "aCALCULATOR"),
    ("POLICE", "aCAR aCARS_REVOLVING_LIGHT aOFFICER"),
    ("POP", "aDIRECTIONAL_FORMATTING bISOLATE"),
    ("PORTABLE", "aSTEREO"),
    ("POSITION", "aINDICATOR"),
    ("POSTAL", "aHORN aMARK bFACE"),
    ("POT", "aOF_FOOD"),
    ("POTABLE", "aWATER_SYMBOL"),
    ("POTTED", "aPLANT"),
    ("POULTRY", "aLEG"),
    ("POUND", "aSIGN"),
    ("POURING", "aLIQUID"),
    ("POUTING", "aCAT_FACE aFACE"),
    ("POWER", "aON_SYMBOL aON-OFF_SYMBOL aSLEEP_SYMBOL aSYMBOL"),
    ("PRAYER", "aBEADS"),
    ("PRECEDES", "a aABOVE_ALMOST_EQUAL_TO bEQUALS_SIGN bNOT_ALMOST_EQUAL_TO cEQUAL_TO
     bSINGLE-LINE_EQUALS_SIGN cNOT_EQUAL_TO aBUT_NOT_EQUIVALENT_TO aOR_EQUAL_TO bEQUIVALENT_TO
     aUNDER_RELATION"),
    ("PREGNANT", "aMAN aPERSON aWOMAN"),
    ("PRESCRIPTION", "aTAKE"),
    ("PRESENTATION", "aFORM_FOR_VERTICAL_COLON dCOMMA dEM_DASH dEN_DASH dEXCLAMATION_MARK
     dHORIZONTAL_ELLIPSIS dIDEOGRAPHIC_COMMA eFULL_STOP dLEFT_ANGLE_BRACKET
     eBLACK_LENTICULAR_BRACKET eCORNER_BRACKET eCURLY_BRACKET eDOUBLE_ANGLE_BRACKET ePARENTHESIS
     eSQUARE_BRACKET eTORTOISE_SHELL_BRACKET eWHITE_CORNER_BRACKET fLENTICULAR_BRACKET dLOW_LINE
     dQUESTION_MARK dRIGHT_ANGLE_BRACKET eBLACK_LENTICULAR_BRACKET eCORNER_BRACKET eCURLY_BRACKET
     eDOUBLE_ANGLE_BRACKET ePARENTHESIS eSQUARE_BRACKET eTORTOISE_SHELL_BRACKET
     eWHITE_CORNER_BRACKET fLENTICULAR_BRACKET gBRAKCET dSEMICOLON dTWO_DOT_LEADER dWAVY_LOW_LINE"),
    ("PREVIOUS", "aPAGE"),
    ("PRINT", "aSCREEN_SYMBOL"),
    ("PRINTER", "a aICON"),
    ("PRIVACY", "aMESSAGE"),
    ("PRIVATE", "aUSE_ONE bTWO aUSE-1 aUSE-2"),
    ("PROBING", "aCANE"),
    ("PROHIBITED", "aSIGN"),
    ("PROPERTY", "aLINE"),
    ("PROPORTIONAL", "aTO"),
    ("PSALTER", "aPAHLAVI_FOUR_DOTS_WITH_CROSS eDOT bLETTER_ALEPH cBETH cDALETH cGIMEL cHE cHETH
     cKAPH cLAMEDH cMEM-QOPH cNUN cPE cSADHE cSAMEKH cSHIN cTAW cWAW-AYIN-RESH cYODH cZAYIN
     bNUMBER_FOUR cONE dHUNDRED cTEN cTHREE cTWENTY cTWO bSECTION_MARK bTURNED_SECTION_MARK"),
    ("PUBLIC", "aADDRESS_LOUDSPEAKER"),
    ("PUNCTUATION", "aSPACE"),
    ("PUNCTUS", "aELEVATUS_MARK"),
    ("PURPLE", "aHEART"),
    ("PUT", "aLITTER_IN_ITS_PLACE_SYMBOL"),
    ("QUADRANT", "aLOWER_LEFT bRIGHT aUPPER_LEFT cAND_LOWER_LEFT_AND_LOWER_RIGHT eRIGHT
     dUPPER_RIGHT_AND_LOWER_LEFT hRIGHT bRIGHT cAND_LOWER_LEFT fAND_LOWER_RIGHT"),
    ("QUADRUPLE", "aINTEGRAL_OPERATOR aPRIME"),
    ("QUARTER", "aNOTE"),
    ("QUATERNION", "aINTEGRAL_OPERATOR"),
    ("QUESTION", "aEXCLAMATION_MARK aMARK"),
    ("QUESTIONED", "aEQUAL_TO"),
    ("QUOTATION", "aMARK"),
    ("RABBIT", "a aFACE"),
    ("RACING", "aCAR aMOTORCYCLE"),
    ("RADICAL", "aSYMBOL_BOTTOM"),
    ("RADIO", "a aBUTTON"),
    ("RADIOACTIVE", "aSIGN"),
    ("RAILWAY", "aCAR aTRACK"),
    ("RAISED", "aBACK_OF_HAND aCOMMA aDOT aDOTTED_INTERPOLATION_MARKER aFIST aHAND
     bWITH_FINGERS_SPLAYED cPART_BETWEEN_MIDDLE_AND_RING_FINGERS aINTERPOLATION_MARKER aMC_SIGN
     aMD_SIGN aMR_SIGN aSQUARE"),
    ("RECORD", "aSEPARATOR"),
    ("RECREATIONAL", "aVEHICLE"),
    ("RECYCLED", "aPAPER_SYMBOL"),
    ("RECYCLING", "aSYMBOL_FOR_GENERIC_MATERIALS cTYPE-1_PLASTICS cTYPE-2_PLASTICS
     cTYPE-3_PLASTICS cTYPE-4_PLASTICS cTYPE-5_PLASTICS cTYPE-6_PLASTICS cTYPE-7_PLASTICS"),
    ("RED", "aAPPLE aGIFT_ENVELOPE"),
    ("REFERENCE", "aMARK"),
    ("REGIONAL", "aINDICATOR_SYMBOL_LETTER_A dB dC dD dE dF dG dH dI dJ dK dL dM dN dO dP dQ dR
     dS dT dU dV dW dX dY dZ"),
    ("REGISTERED", "aSIGN"),
    ("REJANG", "aCONSONANT_SIGN_H cN cNG cR aLETTER_A bBA bCA bDA bGA bHA bJA bKA bLA bMA bMBA
     bNA bNDA bNGA bNGGA bNYA bNYJA bPA bRA bSA bTA bWA bYA aSECTION_MARK aVIRAMA aVOWEL_SIGN_AI
     cAU cE cEA cEU cI cO cU"),
    ("RELIEVED", "aFACE"),
    ("REMINDER", "aRIBBON"),
    ("REPLACEMENT", "aCHARACTER"),
    ("RESTRICTED", "aLEFT_ENTRY-1 bENTRY-2"),
    ("RETURN", "aLEFT aRIGHT aSYMBOL"),
    ("REVERSE", "aCHECKER_BOARD aINDEX aLIGHT_FOUR_POINTED_PINWHEEL_STAR aLINE_FEED aSOLIDUS
     bOPERATOR bPRECEDING_SUBSET bWITH_HORIZONTAL_STROKE aTILDE_OPERATOR_ABOVE_LEFTWARDS_ARROW
     dRIGHTWARDS_ARROW"),
    ("REVERSED", "aANGLE bWITH_UNDERBAR aCOMMA aDOUBLE_PRIME cQUOTATION_MARK bSTROKE_NOT_SIGN
     aEMPTY_SET aFORKED_PARAGRAPHOS aHAND_WITH_MIDDLE_FINGER_EXTENDED aNOT_SIGN aPILCROW_SIGN
     aPRIME aQUESTION_MARK aRAISED_HAND_WITH_FINGERS_SPLAYED aRIGHT_ANGLE
     aROTATED_FLORAL_HEART_BULLET aSANS-SERIF_CAPITAL_L aSEMICOLON aTHUMBS_DOWN_SIGN bUP_SIGN
     aTILDE bEQUALS aTRIPLE_PRIME aVICTORY_HAND"),
    ("REVOLVING", "aHEARTS"),
    ("RIAL", "aSIGN"),
    ("RIBBON", "a aARROW_DOWN_LEFT cRIGHT bLEFT_DOWN cUP bRIGHT_DOWN cUP bUP_LEFT cRIGHT"),
    ("RICE", "aBALL aCRACKER"),
    ("RIGHT", "aAND_LOWER_ONE_EIGHTH_BLOCK bUPPER_ONE_EIGHTH_BLOCK aANGER_BUBBLE aANGLE bBRACKET
     cWITH_DOT bDOTTED_SUBSTITUTION_MARKER bSUBSTITUTION_MARKER bVARIANT_WITH_SQUARE bWITH_ARC
     cDOWNWARDS_ZIGZAG_ARROW aARC_GREATER-THAN_BRACKET aARROW_WITH_CIRCLED_PLUS cSMALL_CIRCLE
     aBLACK_LENTICULAR_BRACKET bTORTOISE_SHELL_BRACKET aCEILING aCORNER_BRACKET aCURLY_BRACKET
     cLOWER_HOOK cMIDDLE_PIECE cUPPER_HOOK aDOTTED_SUBSTITUTION_BRACKET aDOUBLE_ANGLE_BRACKET
     bARROW_WITH_ROUNDED_HEAD bPARENTHESIS bQUOTATION_MARK bWIGGLY_FENCE aFISH_TAIL
     aFIVE_EIGHTHS_BLOCK aFLOOR aHALF_BLACK_CIRCLE cSTAR bBLOCK bFOLDER bMEDIUM_SHADE
     bRUNNING_MAN aHAND_TELEPHONE_RECEIVER aLOW_PARAPHRASE_BRACKET
     aNORMAL_FACTOR_SEMIDIRECT_PRODUCT aONE_EIGHTH_BLOCK bQUARTER_BLOCK aOPEN_SQUARED_DOT
     aOUTER_JOIN aPARENTHESIS bEXTENSION bLOWER_HOOK bUPPER_HOOK aRAISED_OMISSION_BRACKET
     aS-SHAPED_BAG_DELIMITER aSEMIDIRECT_PRODUCT aSEVEN_EIGHTHS_BLOCK aSIDEWAYS_U_BRACKET
     aSINGLE_QUOTATION_MARK aSPEAKER bWITH_ONE_SOUND_WAVE cTHREE_SOUND_WAVES aSPEECH_BUBBLE
     aSQUARE_BRACKET cEXTENSION cLOWER_CORNER cUPPER_CORNER cWITH_DOUBLE_STROKE dQUILL dSTROKE
     dTICK_IN_BOTTOM_CORNER fTOP_CORNER dUNDERBAR aSUBSTITUTION_BRACKET aTACK
     aTHIRD_WHITE_RIGHT_POINTING_INDEX aTHOUGHT_BUBBLE aTHREE_EIGHTHS_BLOCK bQUARTERS_BLOCK
     aTORTOISE_SHELL_BRACKET aTRANSPOSITION_BRACKET aTRIANGLE bABOVE_LEFT_TRIANGLE
     aTRIANGULAR_ONE_QUARTER_BLOCK aVERTICAL_BAR_WITH_QUILL bBOX_LINE aWHITE_CORNER_BRACKET
     bCURLY_BRACKET bLENTICULAR_BRACKET bPARENTHESIS bSQUARE_BRACKET bTORTOISE_SHELL_BRACKET
     aWIGGLY_FENCE"),
    ("RIGHT-FACING", "aARMENIAN_ETERNITY_SIGN aFIST aSVASTI_SIGN cWITH_DOTS"),
    ("RIGHT-HANDED", "aINTERLACED_PENTAGRAM"),
    ("RIGHT-POINTING", "aANGLE_BRACKET aCURVED_ANGLE_BRACKET aDOUBLE_ANGLE_QUOTATION_MARK
     aMAGNIFYING_GLASS"),
    ("RIGHT-SHADED", "aWHITE_RIGHTWARDS_ARROW"),
    ("RIGHT-SIDE", "aARC_CLOCKWISE_ARROW"),
    ("RIGHT-TO-LEFT", "aEMBEDDING aISOLATE aMARK aOVERRIDE"),
    ("RIGHTHAND", "aINTERIOR_PRODUCT"),
    ("RIGHTWARDS", "aARROW bABOVE_ALMOST_EQUAL_TO cREVERSE_ALMOST_EQUAL_TO dTILDE_OPERATOR
     cSHORT_LEFTWARDS_ARROW cTILDE_OPERATOR bAND_UPPER_AND_LOWER_ONE_EIGHTH_BLOCK bFROM_BAR
     dTO_BLACK_DIAMOND bOVER_LEFTWARDS_ARROW bTHROUGH_GREATER-THAN cSUPERSET cX bTO_BAR
     cBLACK_DIAMOND bWITH_CORNER_DOWNWARDS cDOTTED_STEM cDOUBLE_VERTICAL_STROKE
     cEQUILATERAL_ARROWHEAD cHOOK cLARGE_TRIANGLE_ARROWHEAD cLOOP cMEDIUM_TRIANGLE_ARROWHEAD
     cNOTCHED_TAIL cPLUS_BELOW cSMALL_EQUILATERAL_ARROWHEAD dTRIANGLE_ARROWHEAD cSTROKE cTAIL
     dWITH_DOUBLE_VERTICAL_STROKE eVERTICAL_STROKE cTIP_DOWNWARDS dUPWARDS cVERTICAL_STROKE
     aARROW-TAIL aBACK-TILTED_SHADOWED_WHITE_ARROW aBLACK_ARROW bCIRCLED_WHITE_ARROW
     aBOTTOM_SHADED_WHITE_ARROW aCOMPRESSED_ARROW aDASHED_ARROW aDOUBLE_ARROW cFROM_BAR
     cWITH_STROKE dVERTICAL_STROKE bARROW-TAIL bDASH_ARROW aFINGER-POST_ARROW
     aFRONT-TILTED_SHADOWED_WHITE_ARROW aHAND aHARPOON_OVER_LEFTWARDS_HARPOON
     bWITH_BARB_DOWN_ABOVE_LEFTWARDS_HARPOON_WITH_BARB_DOWN eBELOW_LONG_DASH eFROM_BAR eTO_BAR
     dDOWNWARDS dUP_ABOVE_LEFTWARDS_HARPOON_WITH_BARB_UP fLONG_DASH
     fRIGHTWARDS_HARPOON_WITH_BARB_DOWN eFROM_BAR eTO_BAR dUPWARDS aHEAVY_ARROW bCOMPRESSED_ARROW
     aLEFT-SHADED_WHITE_ARROW aOPEN-HEADED_ARROW aPAIRED_ARROWS aQUADRUPLE_ARROW
     aRIGHT-SHADED_WHITE_ARROW aROCKET aSANS-SERIF_ARROW aSQUARED_ARROW aSQUIGGLE_ARROW
     aTOP_SHADED_WHITE_ARROW aTRIANGLE_ARROWHEAD aTRIANGLE-HEADED_ARROW
     cOVER_LEFTWARDS_TRIANGLE-HEADED_ARROW cTO_BAR cWITH_BOLD_SHAFT dDOUBLE_HORIZONTAL_STROKE
     eVERTICAL_STROKE dHEAVY_SHAFT dLONG_TIP_DOWNWARDS fUPWARDS dMEDIUM_SHAFT dNARROW_SHAFT
     dVERY_HEAVY_SHAFT bDASHED_ARROW bPAIRED_ARROWS aTRIPLE_ARROW bDASH_ARROW aTWO_HEADED_ARROW
     aTWO-HEADED_ARROW_FROM_BAR cWITH_DOUBLE_VERTICAL_STROKE dTAIL eWITH_DOUBLE_VERTICAL_STROKE
     fVERTICAL_STROKE dTRIANGLE_ARROWHEADS dVERTICAL_STROKE bTRIPLE_DASH_ARROW aWAVE_ARROW
     aWHITE_ARROW cFROM_WALL cWITHIN_TRIANGLE_ARROWHEAD"),
    ("RING", "a aABOVE aBUOY aEQUAL_TO aIN_EQUAL_TO aOPERATOR aPOINT"),
    ("RINGED", "aPLANET"),
    ("RINGING", "aBELL"),
    ("RISING", "aDIAGONAL_CROSSING_FALLING_DIAGONAL cSOUTH_EAST_ARROW"),
    ("ROASTED", "aSWEET_POTATO"),
    ("ROBOT", "aFACE"),
    ("ROLL", "aOF_PAPER"),
    ("ROLLED-UP", "aNEWSPAPER"),
    ("ROLLER", "aCOASTER aSKATE"),
    ("ROLLING", "aON_THE_FLOOR_LAUGHING"),
    ("ROMAN", "aAS_SIGN aCENTURIAL_SIGN aDENARIUS_SIGN aDIMIDIA_SEXTULA_SIGN aDUPONDIUS_SIGN
     aNUMERAL_EIGHT bELEVEN bFIFTY cEARLY_FORM cTHOUSAND bFIVE cHUNDRED cTHOUSAND bFOUR bNINE
     bONE cHUNDRED dTHOUSAND cTHOUSAND dC_D bREVERSED_ONE_HUNDRED bSEVEN bSIX cLATE_FORM bTEN
     cTHOUSAND bTHREE bTWELVE bTWO aQUINARIUS_SIGN aSEMUNCIA_SIGN aSESTERTIUS_SIGN aSEXTANS_SIGN
     aSEXTULA_SIGN aSILIQUA_SIGN aUNCIA_SIGN"),
    ("ROTATED", "aCAPITAL_Q aFLORAL_HEART_BULLET aHEAVY_BLACK_HEART_BULLET
     aLIGHT_FOUR_POINTED_BLACK_CUSP aWHITE_FOUR_POINTED_CUSP"),
    ("ROUND", "aPUSHPIN aTARGET"),
    ("ROUNDED", "aSYMBOL_FOR_CAI cFU cLU cSHOU cSHUANGXI cXI"),
    ("RUBLE", "aSIGN"),
    ("RUGBY", "aFOOTBALL"),
    ("RUMI", "aDIGIT_EIGHT bFIVE bFOUR bNINE bONE bSEVEN bSIX bTHREE bTWO aFRACTION_ONE_HALF
     cQUARTER cTHIRD bTWO_THIRDS aNUMBER_EIGHT_HUNDRED bEIGHTY bFIFTY bFIVE_HUNDRED bFORTY
     bFOUR_HUNDRED bNINE_HUNDRED bNINETY bONE_HUNDRED bSEVEN_HUNDRED bSEVENTY bSIX_HUNDRED bSIXTY
     bTEN bTHIRTY bTHREE_HUNDRED bTWENTY bTWO_HUNDRED"),
    ("RUNIC", "aARLAUG_SYMBOL aBELGTHOR_SYMBOL aCROSS_PUNCTUATION aLETTER_AC_A bAESC bALGIZ_EOLHX
     bANSUZ_A bBERKANAN_BEORC_BJARKAN_B bC bCALC bCEALC bCEN bCWEORTH bD bDAGAZ_DAEG_D bDOTTED-L
     bDOTTED-N bDOTTED-P bE bEAR bEHWAZ_EH_E bENG bETH bFEHU_FEOH_FE_F bFRANKS_CASKET_AC dAESC
     dEH dIS dOS bG bGAR bGEBO_GYFU_G bGER bHAEGL_H bHAGLAZ_H bICELANDIC-YR bING bINGWAZ bIOR
     bISAZ_IS_ISS_I bIWAZ_EOH bJERAN_J bK bKAUN_K bKAUNA bLAUKAZ_LAGU_LOGR_L bLONG-BRANCH-AR_AE
     bLONG-BRANCH-HAGALL_H bLONG-BRANCH-MADR_M bLONG-BRANCH-OSS_O bLONG-BRANCH-YR bMANNAZ_MAN_M
     bNAUDIZ_NYD_NAUD_N bO bOE bON bOO bOPEN-P bOS_O bOTHALAN_ETHEL_O bPERTHO_PEORTH_P bQ
     bRAIDO_RAD_REID_R bSH bSHORT-TWIG-AR_A bSHORT-TWIG-BJARKAN_B bSHORT-TWIG-HAGALL_H
     bSHORT-TWIG-MADR_M bSHORT-TWIG-NAUD_N bSHORT-TWIG-OSS_O bSHORT-TWIG-SOL_S bSHORT-TWIG-TYR_T
     bSHORT-TWIG-YR bSIGEL_LONG-BRANCH-SOL_S bSOWILO_S bSTAN bTHURISAZ_THURS_THORN
     bTIWAZ_TIR_TYR_T bURUZ_UR_U bV bW bWUNJO_WYNN_W bX bY bYR bZ aMULTIPLE_PUNCTUATION
     aSINGLE_PUNCTUATION aTVIMADUR_SYMBOL"),
    ("RUNNING", "aSHIRT_WITH_SASH"),
    ("RUPEE", "aSIGN"),
    ("RUSSIAN", "aASTROLOGICAL_SYMBOL_BINOVILE cNOVILE cQUINTILE cSENTAGON cTREDECILE cVIGINTILE")]

end Polyglot.CharacterName
